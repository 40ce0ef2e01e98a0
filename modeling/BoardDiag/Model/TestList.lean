import BoardDiag.Model.TestId
import BoardDiag.Model.EventLog
import Mathlib.Data.Int.Notation
import Mathlib.Logic.Function.Basic

/-!
# The registered tests and the state of the framework

`common/process_diagtest_cmds.h` and the global variables of the framework.

Tests are registered at link time: `INVOKE_TEST_WITH_PARAM` puts a
`testParamEntry_s` into the linker list of a board, and the list of the board
the build is for is picked up the first time anything asks for it.  An entry has
a part the macro fills in --- `Registration` --- and a part the framework fills
in later: the id computed from the name, and the counters.

A build fixes two things the code depends on: the width of `unsigned long`, in
which the counters are kept, and `BOARD_DEFAULT`.  They are the parameter `B`
of everything below.

## What is observable

The trace of a state lists what the framework has done to the outside world, in
order: what it printed, what it reported, and which test function it called on
what and with what result.  One entry is not an action of the code: `batch`
marks the point where `ExecuteAllTestListed` has passed its guards, so that the
calls belonging to the latest batch can be told from the calls before it.
-/

namespace BoardDiag

open Machine

/-- The boards `ProcessTestList` knows. -/
inductive Board where
  | bcm2836Rpi2
  | am335xBbb
  deriving DecidableEq, Repr

/-- `BCM2836_RPI2` and `AM335X_BBB`. -/
def Board.index : Board → BitVec 32
  | .bcm2836Rpi2 => 0#32
  | .am335xBbb => 1#32

/-- The cases of the `switch` in `ProcessTestList`. -/
def Board.ofIndex (board_index : BitVec 32) : Option Board :=
  if board_index = 0#32 then some .bcm2836Rpi2
  else if board_index = 1#32 then some .am335xBbb
  else none

@[simp] theorem Board.ofIndex_index (b : Board) : Board.ofIndex b.index = some b := by
  cases b <;> rfl

/-- What a build fixes. -/
structure Build where
  /-- The width of `unsigned long` in bits. -/
  ulong : ℕ
  /-- C promises at least 32 of them. -/
  ulong_ge : 32 ≤ ulong
  /-- `BOARD_DEFAULT`. -/
  boardDefault : Board

/-- `TestFunction`: called with a test id and its configuration, a test sees the
current test id of the event log and the board it runs on.  It reports events,
changes the board, and returns a verdict. -/
abbrev TestFunction (A D : Type) :=
  BitVec 32 → A → BitVec 32 → D → TestResultTypes × List Report × D

/-- What `INVOKE_TEST_WITH_PARAM` registers. -/
structure Registration (A D : Type) where
  description : CString
  name : CString
  testFunction : Option (TestFunction A D)
  testArgs : A

/-- `INVOKE_TEST_WITH_PARAM_ENTRY(board, description, function, argument)`: the name of the
test is `#function"_"#argument`. -/
def invokeTestWithParamEntry {A D : Type} (description function argument : CString)
    (testFunction : TestFunction A D) (testArgs : A) : Registration A D where
  description := description
  name := function ++ .ofChars ['_'] ++ argument
  testFunction := some testFunction
  testArgs := testArgs

/-- `ControlRunTypes_e`. -/
inductive ControlRunTypes where
  | idle
  | start
  | stop
  | abort
  deriving DecidableEq, Repr

/-- The `request` member of `testParamEntry_s`. -/
structure Request where
  prevcontrol : ControlRunTypes
  control : ControlRunTypes
  deriving DecidableEq, Repr

/-- The `status` member of `testParamEntry_s`. -/
structure Status (w : ℕ) where
  runCount : BitVec w
  totalFailCount : BitVec w
  newFailCount : BitVec w
  resultFromSingleRun : TestResultTypes
  resultFromLoopedRun : TestResultTypes
  bInProgress : BitVec 32
  deriving DecidableEq

/-- The status `ProcessTestList` writes, which is also the one C initialises a
registered entry with. -/
def Status.cleared (w : ℕ) : Status w where
  runCount := 0
  totalFailCount := 0
  newFailCount := 0
  resultFromSingleRun := .notStarted
  resultFromLoopedRun := .notStarted
  bInProgress := 0

/-- `testParamEntry_s`. -/
structure TestParamEntry (B : Build) (A D : Type) extends Registration A D where
  testId : BitVec B.ulong
  request : Request
  status : Status B.ulong

/-- `DIM_TEST_LIST`. -/
def dimTestList : ℕ := 200

/-- `testList_s`. -/
structure TestList where
  testIdCount : BitVec 32
  testIdList : Vector (BitVec 32) dimTestList
  loopCnt : BitVec 32
  exitOnErr : BitVec 32
  logLevel : BitVec 32

/-- `memset(&tstlst_obj, 0, sizeof(tstlst_obj))`. -/
def TestList.zeroed : TestList where
  testIdCount := 0
  testIdList := Vector.replicate dimTestList 0
  loopCnt := 0
  exitOnErr := 0
  logLevel := 0

/-! ## What the framework prints -/

/-- The verdict lines of `DisplayTestResults`. -/
inductive Verdict where
  /-- `Not run` -/
  | notRun
  /-- `Passed` -/
  | passed
  /-- `Failed` -/
  | failed
  /-- `Passed %d times` -/
  | passedTimes (runCount : ℤ)
  /-- `Failed %d times` -/
  | failedTimes (totalFailCount : ℤ)
  /-- `Failed %d of %d times` -/
  | failedOf (totalFailCount runCount : ℤ)
  /-- `Failed %d of %d times. (%d new failure)` -/
  | failedOfNewFailure (totalFailCount runCount newFailCount : ℤ)
  /-- `Failed %d of %d times. (%d new failures)` -/
  | failedOfNewFailures (totalFailCount runCount newFailCount : ℤ)
  deriving DecidableEq, Repr

/-- The calls of `printf`, with the values they print.  A `%d` prints a 32-bit
word as a signed number, so what it prints is an integer. -/
inductive Line where
  /-- `\n   === Board Diagnostics Software ===\n\n` -/
  | banner
  /-- ` Invalid option %s\n` -/
  | invalidOption (arg : CString)
  /-- `List available tests for %s\n`, with `not found` for no name -/
  | listAvailableTests (name : Option Board)
  /-- `Run the following tests\n` -/
  | runTheFollowingTests
  /-- `Test %d out of range\n` -/
  | outOfRange (testIndex : ℤ)
  /-- `\n` -/
  | newline
  /-- `Test list %d not found\n` -/
  | testListNotFound (board_index : ℤ)
  /-- `%08X -- %s -- %s\n` -/
  | test (testId : BitVec 32) (description name : CString)
  /-- `    Exit\n` -/
  | exit
  /-- `    repeat %d times\n` -/
  | repeatTimes (loopCnt : ℤ)
  /-- `%4d -- ` -/
  | index (testIndex : ℤ)
  /-- `%08X -- Error: Test not found\n` -/
  | testNotFound (testId : BitVec 32)
  /-- `%20sError: TestId is 0x%08X but calculated 0x%08X\n` -/
  | testIdDiffers (testId calculatedTestId : BitVec 32)
  /-- `%20sError: %s has the same TestId\n` -/
  | sameTestId (name : CString)
  /-- `*** Error: Unknown test\n`, `    TestId - %08X\n`, `    Not found\n` -/
  | unknownTest (testId : BitVec 32)
  /-- `    Name   - %s\n`, `    Desc   - %s\n`, `    TestId - %08X\n` -/
  | result (name description : CString) (testId : BitVec 32)
  /-- the indented verdict -/
  | verdict (v : Verdict)
  /-- `  %08X  Res: %s\n` -/
  | res (testId : BitVec 32) (r : TestResultTypes)
  /-- `  %08X  Evt: %s\n`, then the addresses if there are any, then the text -/
  | evt (e : DiagEventParams)
  /-- `  %08X  Err: %s\n` -/
  | err (testId : BitVec 32) (eventType : DiagErrEventIDTypes)
  /-- `  %08X  Emg: %s ### ASSERT ### %s  %d\n` -/
  | emg (testId : BitVec 32) (eventType : DiagErrEventIDTypes) (file : SourceFile) (line : ℕ)
  deriving DecidableEq

/-- A call of a test function. -/
structure Call (A : Type) where
  /-- The position of the entry in the registered list. -/
  index : ℕ
  testId : BitVec 32
  testArgs : A
  result : TestResultTypes

/-- What the framework does. -/
inductive Act (A : Type) where
  | print (l : Line)
  /-- The framework reports an error of its own. -/
  | report (r : Report)
  /-- A test function is called. -/
  | call (c : Call A)
  /-- A test function reports an event while it runs. -/
  | testReport (r : Report)
  /-- `ReportResult(testId, result)`. -/
  | result (testId : BitVec 32) (r : TestResultTypes)
  /-- `ExecuteAllTestListed` has passed its guards. -/
  | batch

/-! ## The state of the framework -/

/-- The framework's global variables, the linker lists, the board under test and
the trace. -/
structure State (B : Build) (A D : Type) where
  /-- The linker lists. -/
  lists : Board → List (TestParamEntry B A D)
  /-- `testList_g`: which list it points to, if it points anywhere. -/
  testList : Option Board
  /-- `testListDim_g`. -/
  testListDim : BitVec 32
  /-- `testNameList_g`. -/
  testNameList : Option Board
  log : EventLog
  dev : D
  trace : List (Act A)

/-- The tests a build registers, board by board.  A linker list is an array in a
32-bit count of entries. -/
structure Registry (A D : Type) where
  tests : Board → List (Registration A D)
  fits : ∀ b, (tests b).length < 2 ^ 32

variable {B : Build} {A D : Type}

/-- A registered entry before the framework has touched it. -/
def Registration.atBoot (r : Registration A D) : TestParamEntry B A D where
  toRegistration := r
  testId := 0
  request := ⟨.idle, .idle⟩
  status := Status.cleared B.ulong

/-- The state U-Boot starts in. -/
def State.boot (R : Registry A D) (dev : D) : State B A D where
  lists b := (R.tests b).map Registration.atBoot
  testList := none
  testListDim := 0
  testNameList := none
  log := EventLog.atBoot
  dev := dev
  trace := []

end BoardDiag
