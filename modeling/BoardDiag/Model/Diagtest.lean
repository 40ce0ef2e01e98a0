import BoardDiag.Model.TestList
import Mathlib.Data.List.Basic

/-!
# Running tests

`common/process_diagtest_cmds.c`, with the parts of `eventlog.c` and
`consolelog.c` it calls.  Function by function, in the order of the file; a
pointer to an entry is the list it lies in and its index there, and using one
outside its list stops the program.

`RequestTestList`, `RequestTestListDim` and `RequestTestListName` initialise the
list on first use, so nearly every function below may initialise it.
-/

namespace BoardDiag

open Machine

/-- A program of the framework. -/
abbrev Diag (B : Build) (A D α : Type) := Prog (State B A D) α

variable {B : Build} {A D : Type}

/-! ## The console and the event log -/

/-- Append to the trace. -/
def act (x : Act A) : Diag B A D Unit :=
  modify fun s => { s with trace := s.trace ++ [x] }

def printf (l : Line) : Diag B A D Unit := act (.print l)

/-- `if (c) printf(l)`. -/
def printfIf (c : Prop) [Decidable c] (l : Line) : Diag B A D Unit :=
  if c then printf l else pure ()

/-- `console_showevent`, `console_showerrevent` and
`console_showerroreventmessage`: what a report prints under a log mask. -/
def consoleShow (logMask : BitVec 32) : Report → List Line
  | .event e => [.evt e]
  | .errEvent testId eventType =>
      if logMask &&& logMaskError = 0 then [] else [.err testId eventType]
  | .errEventMsg testId eventType file line =>
      if logMask &&& logMaskError = 0 then [] else [.emg testId eventType file line]

/-- `ReportErrEvent` and `ReportErrEventMsg`, called by the framework. -/
def report (r : Report) : Diag B A D Unit :=
  modify fun s =>
    { s with trace := s.trace ++ (.report r :: (consoleShow s.log.logMask r).map .print) }

/-- `DEBUG_ASSERT()` at a line of `process_diagtest_cmds.c`. -/
def debugAssert (line : ℕ) : Diag B A D Unit :=
  report (.errEventMsg 0 .assert .processDiagtestCmds line)

/-- `console_showresult`. -/
def consoleShowresult (logMask : BitVec 32) (testId : BitVec 32) (r : TestResultTypes) :
    List Line :=
  if r = .pass ∧ logMask &&& logMaskPass = 0 then [] else [.res testId r]

/-- `ReportResult(testId, result)`. -/
def reportResult (testId : BitVec 32) (r : TestResultTypes) : Diag B A D Unit :=
  modify fun s =>
    { s with
      log := { s.log with curTestId := 0 }
      trace := s.trace ++
        (.result testId r :: (consoleShowresult s.log.logMask testId r).map .print) }

/-- `SetLoggingMode(logMode)`. -/
def setLoggingMode (logMode : LogMode) : Diag B A D Unit :=
  modify fun s => { s with log := { s.log with logMode := logMode } }

/-- `SetLogMask(lm)`. -/
def setLogMask (lm : BitVec 32) : Diag B A D Unit :=
  modify fun s => { s with log := { s.log with logMask := lm } }

/-! ## Entries -/

/-- `&list[index]`. -/
structure EntryPtr where
  list : Board
  index : ℕ
  deriving DecidableEq

/-- `&list[index]` for a list pointer that may be null. -/
def entryOf (list : Option Board) (index : ℕ) : Diag B A D EntryPtr :=
  match list with
  | some b => pure ⟨b, index⟩
  | none => throw .outOfBounds

/-- `*testEntry`. -/
def readEntry (p : EntryPtr) : Diag B A D (TestParamEntry B A D) := do
  let s ← get
  fetch (s.lists p.list) p.index

/-- An assignment to members of `*testEntry`. -/
def modifyEntry (p : EntryPtr) (f : TestParamEntry B A D → TestParamEntry B A D) :
    Diag B A D Unit := do
  let s ← get
  if p.index < (s.lists p.list).length then
    set { s with
      lists := Function.update s.lists p.list ((s.lists p.list).modify p.index f) }
  else
    throw .outOfBounds

/-! ## The test list -/

/-- The body of the loop of `ProcessTestList`. -/
def initEntry (e : TestParamEntry B A D) : TestParamEntry B A D :=
  { e with
    testId := (calculateTestIdHash e.name).setWidth B.ulong
    status := Status.cleared B.ulong
    request := ⟨.idle, .idle⟩ }

/-- `ProcessTestList(board_index)`. -/
def processTestList (board_index : BitVec 32) : Diag B A D Unit := do
  match Board.ofIndex board_index with
  | none => modify fun s => { s with testList := none, testListDim := 0 }
  | some b =>
      -- `caseSetTestList(b)`
      modify fun s =>
        { s with
          testList := some b
          testListDim := BitVec.ofNat 32 (s.lists b).length
          testNameList := some b }
  let s ← get
  match s.testList with
  | some b =>
      forFrom (fun testIndex _ => modifyEntry ⟨b, testIndex⟩ initEntry) 0
        s.testListDim.toNat ()
  | none => printf (.testListNotFound board_index.toInt)

/-- `if (0 == testList_g) ProcessTestList(BOARD_DEFAULT)`. -/
def ensureTestList : Diag B A D Unit := do
  let s ← get
  if s.testList = none then processTestList B.boardDefault.index

/-- `RequestTestList()`. -/
def requestTestList : Diag B A D (Option Board) := do
  ensureTestList
  return (← get).testList

/-- `RequestTestListDim()`. -/
def requestTestListDim : Diag B A D (BitVec B.ulong) := do
  ensureTestList
  return (← get).testListDim.setWidth B.ulong

/-- `RequestTestListName()`; no name is printed as `not found`. -/
def requestTestListName : Diag B A D (Option Board) := do
  ensureTestList
  return (← get).testNameList

/-- `uint32_t testListDim = RequestTestListDim()`, as a loop bound. -/
def testListBound : Diag B A D ℕ := do
  let dim ← requestTestListDim
  return (dim.setWidth 32).toNat

/-- `testEntry = &RequestTestList()[testIndex]`. -/
def testEntryAt (testIndex : ℕ) : Diag B A D EntryPtr := do
  let list ← requestTestList
  entryOf list testIndex

/-- The body of the loop of `ClearFailureCounts`. -/
def clearFailureCount (testIndex : ℕ) : Diag B A D Unit := do
  let testEntry ← testEntryAt testIndex
  modifyEntry testEntry fun e => { e with status := { e.status with newFailCount := 0 } }

/-- `ClearFailureCounts()`. -/
def clearFailureCounts : Diag B A D Unit := do
  let testListDim ← testListBound
  forFrom (fun testIndex _ => clearFailureCount testIndex) 0 testListDim ()

/-- `options->testIdList[index] = testId`. -/
def TestList.setId (options : TestList) (index : ℕ) (testId : BitVec 32) :
    Diag B A D TestList :=
  if h : index < dimTestList then
    pure { options with testIdList := options.testIdList.set index testId h }
  else
    throw .outOfBounds

/-- `options->testIdList[index]`. -/
def TestList.getId (options : TestList) (index : ℕ) : Diag B A D (BitVec 32) :=
  fetch options.testIdList.toList index

/-- The body of the loop of `GetAvailableListOfTest`. -/
def copyTestId (testIndex : ℕ) (options : TestList) : Diag B A D TestList := do
  let testEntry ← testEntryAt testIndex
  let e ← readEntry testEntry
  options.setId testIndex (e.testId.setWidth 32)

/-- `GetAvailableListOfTest(&options)`. -/
def getAvailableListOfTest (options : TestList) : Diag B A D TestList := do
  let testListDim ← testListBound
  if testListDim > dimTestList then
    debugAssert 213
    return options
  let options ← forFrom copyTestId 0 testListDim options
  return { options with testIdCount := BitVec.ofNat 32 testListDim }

/-- The body of the loop of `LocateTest`. -/
def matchTestId (searchTestId : BitVec 32) (testIndex : ℕ) :
    Diag B A D (Option EntryPtr) := do
  let testEntry ← testEntryAt testIndex
  let e ← readEntry testEntry
  if e.testId = searchTestId.setWidth B.ulong then
    return some testEntry
  return none

/-- `LocateTest(searchTestId)`. -/
def locateTest (searchTestId : BitVec 32) : Diag B A D (Option EntryPtr) := do
  let testListDim ← testListBound
  searchFrom (matchTestId searchTestId) 0 testListDim

/-! ## Running -/

/-- Call the test function of an entry. -/
def callTestFunction (testEntry : EntryPtr) (f : TestFunction A D) (testId : BitVec 32)
    (testArgs : A) : Diag B A D TestResultTypes :=
  modifyGet fun s =>
    let out := f testId testArgs s.log.curTestId s.dev
    let reports := out.2.1.flatMap fun r =>
      Act.testReport r :: (consoleShow s.log.logMask r).map Act.print
    (out.1, { s with
      dev := out.2.2
      trace := s.trace ++ (.call ⟨testEntry.index, testId, testArgs, out.1⟩ :: reports) })

/-- `RunDeviceTest(testId)`. -/
def runDeviceTest (testId : BitVec 32) : Diag B A D TestResultTypes := do
  match ← locateTest testId with
  | none =>
      report (.errEvent testId .testNotFound)
      reportResult testId .aborted
      return .aborted
  | some testEntry =>
      let e ← readEntry testEntry
      match e.testFunction with
      | none =>
          debugAssert 265
          reportResult testId .aborted
          return .aborted
      | some testFunction =>
          modifyEntry testEntry fun e =>
            { e with status := { e.status with runCount := e.status.runCount + 1 } }
          printf (.test testId e.description e.name)
          let result ← callTestFunction testEntry testFunction testId e.testArgs
          modifyEntry testEntry fun e =>
            { e with status := { e.status with resultFromSingleRun := result } }
          if result ≠ .pass then
            modifyEntry testEntry fun e =>
              { e with
                status := { e.status with
                  totalFailCount := e.status.totalFailCount + 1
                  newFailCount := e.status.newFailCount + 1 } }
          reportResult testId result
          return result

/-- One step of the inner loop of `ExecuteAllTestListed`; `some ()` is its
`return`. -/
def executeListed (options : TestList) (testIndex : ℕ) : Diag B A D (Option Unit) := do
  let testId ← options.getId testIndex
  let result ← runDeviceTest testId
  if result ≠ .pass then
    if options.exitOnErr ≠ 0 then
      return some ()
  return none

/-- `ExecuteAllTestListed(&options)`.  The fuel bounds the outer loop, whose
32-bit counter is compared with an inclusive bound. -/
def executeAllTestListed (fuel : ℕ) (options : TestList) : Diag B A D Unit := do
  setLoggingMode .console
  setLogMask options.logLevel
  if options.testIdCount = 0 then
    debugAssert 173
    return
  if options.testIdCount.toNat > dimTestList then
    debugAssert 178
    return
  act .batch
  clearFailureCounts
  let _ ← whileFuel (fun loopCount : BitVec 32 => decide (loopCount ≤ options.loopCnt))
    (fun loopCount => loopCount + 1)
    (fun _ => searchFrom (executeListed options) 0 options.testIdCount.toNat) fuel 0
  return

/-! ## Displaying -/

/-- The scan of `DisplayTestList` for entries that share an id.  `foundCount` is
the local it carries. -/
def showSameTestId (testId : BitVec 32) (searchList : Option Board) (searchIndex : ℕ)
    (foundCount : ℕ) : Diag B A D ℕ := do
  let e ← readEntry (← entryOf searchList searchIndex)
  if e.testId = testId.setWidth B.ulong then
    let foundCount := foundCount + 1
    if foundCount > 1 then
      printf (.sameTestId e.name)
    return foundCount
  return foundCount

/-- What `DisplayTestList` prints of an entry it has found, after the index. -/
def displayEntry (testId : BitVec 32) (testEntry : EntryPtr) : Diag B A D Unit := do
  let e ← readEntry testEntry
  printf (.test testId e.description e.name)
  let calculatedTestId := calculateTestIdHash e.name
  printfIf (calculatedTestId ≠ testId)
    (.testIdDiffers (e.testId.setWidth 32) calculatedTestId)
  let searchListDim ← testListBound
  let searchList ← requestTestList
  let _ ← forFrom (showSameTestId testId searchList) 0 searchListDim 0
  return

/-- The body of the loop of `DisplayTestList`. -/
def displayListed (options : TestList) (showIndex : Bool) (testIndex : ℕ) :
    Diag B A D Unit := do
  let testId ← options.getId testIndex
  let testEntry ← locateTest testId
  -- both branches of the source print the index first
  printfIf showIndex (.index testIndex)
  match testEntry with
  | none => printf (.testNotFound testId)
  | some testEntry => displayEntry testId testEntry

/-- `DisplayTestList(&options, showIndex, showFlags)`. -/
def displayTestList (options : TestList) (showIndex showFlags : Bool) :
    Diag B A D Unit := do
  if options.testIdCount = 0 then
    debugAssert 290
    return
  if options.testIdCount.toNat > dimTestList then
    debugAssert 296
    return
  printfIf (showFlags ∧ options.exitOnErr ≠ 0) .exit
  printfIf (showFlags ∧ options.loopCnt ≠ 0) (.repeatTimes options.loopCnt.toInt)
  forFrom (fun testIndex _ => displayListed options showIndex testIndex) 0
    options.testIdCount.toNat ()

/-- The nested classification of `DisplayTestResults`. -/
def verdictOf (runCount totalFailCount newFailCount : BitVec 32) : Verdict :=
  if runCount = 0 then .notRun
  else if runCount = 1 then
    if totalFailCount = 0 then .passed else .failed
  else
    if totalFailCount = 0 then .passedTimes runCount.toInt
    else if runCount = totalFailCount then .failedTimes totalFailCount.toInt
    else if newFailCount = 0 then .failedOf totalFailCount.toInt runCount.toInt
    else if newFailCount = 1 then
      .failedOfNewFailure totalFailCount.toInt runCount.toInt newFailCount.toInt
    else .failedOfNewFailures totalFailCount.toInt runCount.toInt newFailCount.toInt

/-- The body of the loop of `DisplayTestResults`. -/
def displayResult (options : TestList) (testIndex : ℕ) : Diag B A D Unit := do
  let testId ← options.getId testIndex
  match ← locateTest testId with
  | none => printf (.unknownTest testId)
  | some testEntry =>
      let e ← readEntry testEntry
      let runCount := e.status.runCount.setWidth 32
      let newFailCount := e.status.newFailCount.setWidth 32
      let totalFailCount := e.status.totalFailCount.setWidth 32
      -- skip prints for 'pass'
      if options.logLevel &&& logMaskPass = 0 ∧ totalFailCount = 0 then
        return
      printf (.result e.name e.description testId)
      printf (.verdict (verdictOf runCount totalFailCount newFailCount))

/-- `DisplayTestResults(&options)`. -/
def displayTestResults (options : TestList) : Diag B A D Unit := do
  if options.testIdCount = 0 then
    debugAssert 358
    return
  if options.testIdCount.toNat > dimTestList then
    debugAssert 364
    return
  forFrom (fun testIndex _ => displayResult options testIndex) 0
    options.testIdCount.toNat ()

end BoardDiag
