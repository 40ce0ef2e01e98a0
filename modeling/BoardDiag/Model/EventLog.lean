import BoardDiag.Machine.CString

/-!
# Results, events and the event log

`common/eventId.h`, `common/eventlog.c` and `common/consolelog.c`.  A test
function reports what it finds through the event log and returns a verdict; the
event log prints what it is given, filtered by a mask.

The event log keeps one piece of state that reaches the tests: `curTestId`, the
id an event is given when its reporter passes `0`.
-/

namespace BoardDiag

open Machine

/-- `TestResultTypes_e`. -/
inductive TestResultTypes where
  | notStarted
  | inProgress
  | pass
  | aborted
  | timeout
  | fail
  deriving DecidableEq, Repr

/-- `DiagErrEventIDTypes_e`. -/
inductive DiagErrEventIDTypes where
  | info
  | generic | assert | comAssert | testNotFound
  | busInit | busRead | busWrite | busNotFound | busBufferOverrun | busBufferUnderrun
  | busConfig | busDataMismatch | busTimeout
  | devInit | devNotPresent | devRead | devWrite | devDataMismatch | devDataTimeout
  | devCommand | devIdMismatch | devAddr | devReset | devConfig | devBufferOverrun
  | devBufferUnderrun | devUnexpectedDevice | devTimeout | devErase
  | valueNotExpected | valueTooSmall | valueTooLarge | valueNotInRange
  | modeProtected | memoryAlloc | memoryFree
  deriving DecidableEq, Repr

/-- `struct DiagEventParams_s`, without the sequence number and the time stamp,
which nothing fills in. -/
structure DiagEventParams where
  eventType : DiagErrEventIDTypes
  objectId : BitVec 32
  addressDim : ℕ
  address : List (BitVec 32)
  string : List Byte
  deriving DecidableEq

/-- The source files that can fail an assertion: `__FILE__` where it is used. -/
inductive SourceFile where
  | processDiagtestCmds
  | testAt24cEeprom
  | testDs2321Rtc
  | testEth
  | testGpio
  | testI2cprobe
  | testMemory
  | testMmc
  | testTps65217Powerrail
  | testW25q32Norflash
  deriving DecidableEq, Repr

/-- What the event log is asked to report. -/
inductive Report where
  /-- `ReportEvent(&event)`. -/
  | event (e : DiagEventParams)
  /-- `ReportErrEvent(testId, eventType)`. -/
  | errEvent (testId : BitVec 32) (eventType : DiagErrEventIDTypes)
  /-- `ReportErrEventMsg(testId, eventType, "### ASSERT ### %s  %d\n", file, line)`. -/
  | errEventMsg (testId : BitVec 32) (eventType : DiagErrEventIDTypes) (file : SourceFile)
      (line : ℕ)
  deriving DecidableEq

/-- `LogMode_e`: the console is the only mode there is. -/
inductive LogMode where
  | console
  deriving DecidableEq, Repr

/-- The static variables of `eventlog.c` and `consolelog.c`. -/
structure EventLog where
  curTestId : BitVec 32
  logMode : LogMode
  logMask : BitVec 32
  deriving DecidableEq

/-- `LOG_MASK_PASS`. -/
def logMaskPass : BitVec 32 := 0x01#32

/-- `LOG_MASK_ERROR`. -/
def logMaskError : BitVec 32 := 0x02#32

/-- `LOG_MASK_LIST`. -/
def logMaskList : BitVec 32 := 0x20#32

/-- `LOG_MASK_ALL`. -/
def logMaskAll : BitVec 32 := 0xFFFF#32

/-- The event log as it is initialised. -/
def EventLog.atBoot : EventLog where
  curTestId := 0
  logMode := .console
  logMask := logMaskAll

/-- `Event_Init(testId, &event)` and the assignments every caller makes after it:
an event that names the test it is for, or the current one when the reporter
does not say. -/
def eventInit (curTestId testId : BitVec 32) (eventType : DiagErrEventIDTypes)
    (address : List (BitVec 32)) : DiagEventParams where
  eventType := eventType
  objectId := if testId = 0 then curTestId else testId
  addressDim := address.length
  address := address
  string := []

end BoardDiag
