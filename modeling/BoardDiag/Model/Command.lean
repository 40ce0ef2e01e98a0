import BoardDiag.Model.Diagtest

/-!
# The `boarddiag` command

`common/cmd_boarddiag.c`, and `simple_strtoul` of U-Boot's `lib/strto.c`, which
it reads its numbers with.  An argument vector is a list of C strings, and
`argc` is its length.
-/

namespace BoardDiag

open Machine

/-- `enum command_ret_t`. -/
inductive CommandRet where
  | success
  | failure
  | usage
  deriving DecidableEq, Repr

variable {B : Build} {A D σ : Type}

/-! ## Reading the command line -/

/-- `toLower(value)`. -/
def toLower (value : ℕ) : ℕ :=
  if 'A'.toNat ≤ value ∧ value ≤ 'Z'.toNat then value + 'a'.toNat - 'A'.toNat else value

/-- The body of the loop of `isSubCmd`. -/
def matchChar (cmd : CString) (minMatch : ℤ) (arg : CString) (i : ℕ) :
    Prog σ (Option Bool) := do
  let a ← readChar arg i
  if a = 0 then
    -- end of string: matched, or too short of a match
    return some (decide ((i : ℤ) ≥ minMatch))
  else
    let c ← readChar cmd i
    if toLower a.toNat ≠ toLower c.toNat then
      return some false
    return none

/-- `isSubCmd(cmd, minMatch, arg)`. -/
def isSubCmd (cmd : CString) (minMatch : ℤ) (arg : CString) : Prog σ Bool := do
  match ← searchFrom (matchChar cmd minMatch arg) 0 256 with
  | some r => return r
  | none => return true

/-- `isxdigit(c)` and the value the digit stands for. -/
def digitValue (c : Byte) : Option ℕ :=
  if ascii '0' ≤ c ∧ c ≤ ascii '9' then some (c.toNat - '0'.toNat)
  else if ascii 'a' ≤ c ∧ c ≤ ascii 'f' then some (c.toNat - 'a'.toNat + 10)
  else if ascii 'A' ≤ c ∧ c ≤ ascii 'F' then some (c.toNat - 'A'.toNat + 10)
  else none

/-- The loop of `simple_strtoul`. -/
def strtoulLoop (w base : ℕ) : BitVec w → List Byte → BitVec w
  | result, [] => result
  | result, c :: cp =>
      match digitValue c with
      | none => result
      | some value =>
          if value < base then
            strtoulLoop w base (result * BitVec.ofNat w base + BitVec.ofNat w value) cp
          else
            result

/-- `simple_strtoul(cp, NULL, 10)`.  The radix is given, so no prefix is
skipped. -/
def simpleStrtoul (w : ℕ) (cp : CString) : BitVec w := strtoulLoop w 10 0 cp.bytes

/-- `ProcessNextArg(&CmdArgIndex, argc, argv)`, with the index it leaves. -/
def processNextArg (cmdArgIndex argc : ℕ) (argv : List CString) :
    Prog σ (ℕ × Option CString) := do
  let cmdArgIndex := cmdArgIndex + 1
  if cmdArgIndex ≥ argc then
    return (cmdArgIndex, none)
  let arg ← fetch argv cmdArgIndex
  return (cmdArgIndex, some arg)

/-- `ProcessNextCmdArg(&CmdArgIndex, argc, argv, &val)`, with the index it leaves
and the value it stores; no value is `CMD_RET_USAGE`. -/
def processNextCmdArg (cmdArgIndex argc : ℕ) (argv : List CString) :
    Diag B A D (ℕ × Option (BitVec 32)) := do
  let cmdArgIndex := cmdArgIndex + 1
  if cmdArgIndex ≥ argc then
    return (cmdArgIndex, none)
  let arg ← fetch argv cmdArgIndex
  return (cmdArgIndex, some ((simpleStrtoul B.ulong arg).setWidth 32))

/-! ## The sub-commands -/

/-- `show_test_list()`. -/
def showTestList : Diag B A D Unit := do
  let name ← requestTestListName
  printf (.listAvailableTests name)
  let tstlst ← getAvailableListOfTest TestList.zeroed
  displayTestList { tstlst with logLevel := logMaskAll } true false

/-- `run_all_tests(exitOnErr, loopCnt, logLevel)`. -/
def runAllTests (fuel : ℕ) (exitOnErr loopCnt logLevel : BitVec 32) : Diag B A D Unit := do
  let tstlst ← getAvailableListOfTest TestList.zeroed
  let tstlst :=
    { tstlst with exitOnErr := exitOnErr, loopCnt := loopCnt, logLevel := logLevel }
  if tstlst.logLevel &&& logMaskList ≠ 0 then
    displayTestList tstlst true true
    printf .newline
  executeAllTestListed fuel tstlst
  printf .newline
  displayTestResults tstlst

/-- The loop of `runtestByTestId`: look the requested indices up, one after the
other.  An index is stored in an `int` and compared with an unsigned count, so
it is compared as the unsigned number it came from and used as a signed one. -/
def lookupTests (lookup : TestList) : List (BitVec 32) → TestList →
    Diag B A D (Option TestList)
  | [], tstlst => return some tstlst
  | testIndex :: testlistIndex, tstlst => do
      if testIndex ≥ lookup.testIdCount then
        printf (.outOfRange testIndex.toInt)
        return none
      if testIndex.toInt < 0 then
        throw .outOfBounds
      let testId ← lookup.getId testIndex.toInt.toNat
      let tstlst ← tstlst.setId tstlst.testIdCount.toNat testId
      lookupTests lookup testlistIndex { tstlst with testIdCount := tstlst.testIdCount + 1 }

/-- `runtestByTestId(count, testlistIndex, exitOnErr, loopCnt, logLevel)`. -/
def runtestByTestId (fuel : ℕ) (testlistIndex : List (BitVec 32))
    (exitOnErr loopCnt logLevel : BitVec 32) : Diag B A D CommandRet := do
  let lookup ← getAvailableListOfTest TestList.zeroed
  match ← lookupTests lookup testlistIndex TestList.zeroed with
  | none => return .usage
  | some tstlst =>
      let tstlst :=
        { tstlst with exitOnErr := exitOnErr, loopCnt := loopCnt, logLevel := logLevel }
      if tstlst.logLevel &&& logMaskList ≠ 0 then
        printf .runTheFollowingTests
        displayTestList tstlst false true
        printf .newline
      executeAllTestListed fuel tstlst
      printf .newline
      displayTestResults tstlst
      return .success

/-! ## The command -/

/-- The sub-command word `list`. -/
def wordList : CString := ⟨['l', 'i', 's', 't'].map ascii, by decide⟩

/-- The sub-command word `runAll`. -/
def wordRunAll : CString := ⟨['r', 'u', 'n', 'A', 'l', 'l'].map ascii, by decide⟩

/-- The sub-command word `run`. -/
def wordRun : CString := ⟨['r', 'u', 'n'].map ascii, by decide⟩

/-- The `runAll` branch of `do_boarddiag`. -/
def runAllBranch (fuel cmdArgIndex : ℕ) (argv : List CString) : Diag B A D CommandRet := do
  let argc := argv.length
  if argc = 4 then
    match ← processNextArg cmdArgIndex argc argv with
    | (_, none) => return .usage
    | (cmdArgIndex, some _) =>
        match ← processNextCmdArg cmdArgIndex argc argv with
        | (_, none) => return .usage
        | (_, some loopCnt) =>
            runAllTests fuel 0 loopCnt logMaskAll
            return .success
  else
    runAllTests fuel 0 0 logMaskAll
    return .success

/-- The `run` branch of `do_boarddiag`. -/
def runBranch (fuel cmdArgIndex : ℕ) (argv : List CString) : Diag B A D CommandRet := do
  let argc := argv.length
  if argc ≤ cmdArgIndex then
    return .usage
  if argc = 3 then
    match ← processNextCmdArg cmdArgIndex argc argv with
    | (_, none) => return .usage
    | (_, some testIndex) => runtestByTestId fuel [testIndex] 0 0 logMaskAll
  else
    return .usage

/-- The body of the loop of `do_boarddiag`.  Every branch of it returns. -/
def dispatch (fuel : ℕ) (argv : List CString) : Diag B A D CommandRet := do
  match ← processNextArg 0 argv.length argv with
  | (_, none) => return .usage
  | (cmdArgIndex, some nextCmdArg) =>
      if ← isSubCmd wordList 1 nextCmdArg then
        showTestList
        return .success
      else if ← isSubCmd wordRunAll 4 nextCmdArg then
        runAllBranch fuel cmdArgIndex argv
      else if ← isSubCmd wordRun 2 nextCmdArg then
        runBranch fuel cmdArgIndex argv
      else
        printf (.invalidOption nextCmdArg)
        return .usage

/-- `do_boarddiag(cmdtp, flag, argc, argv)`. -/
def doBoarddiag (fuel : ℕ) (argv : List CString) : Diag B A D CommandRet := do
  printf .banner
  dispatch fuel argv

end BoardDiag
