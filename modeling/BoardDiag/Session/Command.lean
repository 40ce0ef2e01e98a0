import BoardDiag.Session.Display
import BoardDiag.Session.Parse

/-!
# Commands in a session

The three sub-commands, as functions on sessions, and `do_boarddiag` on top of
them.  A command may fail to return on the fuel it is given, so what a command
does to a session is a pair: whether it returns, and the session it has reached.

`perform` is one command.  `Embeds` relates a state of the framework to a
session: the test list has been picked up, or it has not been picked up yet and
nothing has been counted.  `run_doBoarddiag_of_embeds` is the simulation: every
command takes related states and sessions to related states and sessions.
Whatever holds of sessions after any number of `perform`s therefore holds of the
framework after any number of commands.
-/

namespace BoardDiag

open Machine

variable {B : Build} {A D : Type}

/-- The options record `GetAvailableListOfTest` makes of a zeroed one. -/
def Registry.allTests (R : Registry A D) (B : Build) : TestList :=
  if (R.suite B).length ≤ dimTestList then TestList.zeroed.available (hashes (R.suite B))
  else TestList.zeroed

/-- The number of tests a command can refer to. -/
def Registry.testCount (R : Registry A D) (B : Build) : ℕ :=
  if (R.suite B).length ≤ dimTestList then (R.suite B).length else 0

theorem Registry.toNat_testIdCount_allTests (R : Registry A D) (B : Build) :
    (R.allTests B).testIdCount.toNat = R.testCount B := by
  unfold allTests testCount
  by_cases h : (R.suite B).length ≤ dimTestList
  · rw [if_pos h, if_pos h, TestList.toNat_testIdCount_available]
    · exact length_hashes _
    · rwa [length_hashes]
  · rw [if_neg h, if_neg h]
    rfl

theorem Registry.testCount_le (R : Registry A D) (B : Build) :
    R.testCount B ≤ dimTestList := by
  unfold testCount
  split
  · assumption
  · exact Nat.zero_le _

theorem Registry.testCount_eq_zero_iff (R : Registry A D) (B : Build) :
    R.testCount B = 0 ↔ (R.suite B).length = 0 ∨ dimTestList < (R.suite B).length := by
  unfold testCount
  split <;> omega

theorem Registry.length_ids_allTests (R : Registry A D) (B : Build) :
    (R.allTests B).ids.length = R.testCount B := by
  rw [TestList.length_ids] <;> rw [R.toNat_testIdCount_allTests B]
  exact R.testCount_le B

theorem Registry.ids_allTests (R : Registry A D) (B : Build) :
    (R.allTests B).ids = (hashes (R.suite B)).take (R.testCount B) := by
  unfold allTests testCount
  by_cases h : (R.suite B).length ≤ dimTestList
  · rw [if_pos h, if_pos h, TestList.ids_available _ (by rwa [length_hashes]),
      ← length_hashes, List.take_length]
  · rw [if_neg h, if_neg h]
    rfl

theorem Registry.testCount_eq {R : Registry A D} (h : (R.suite B).length ≤ dimTestList) :
    R.testCount B = (R.suite B).length := if_pos h

theorem Registry.ids_allTests_eq {R : Registry A D} (h : (R.suite B).length ≤ dimTestList) :
    (R.allTests B).ids = hashes (R.suite B) := by
  rw [R.ids_allTests, Registry.testCount_eq h, ← length_hashes, List.take_length]

/-- The options record of `run_all_tests`, as `do_boarddiag` calls it. -/
def Registry.allOptions (R : Registry A D) (B : Build) (loopCnt : BitVec 32) : TestList :=
  { R.allTests B with exitOnErr := 0, loopCnt := loopCnt, logLevel := logMaskAll }

/-- The options record of `runtestByTestId`, as `do_boarddiag` calls it, for a
test with a given id. -/
def singleOptions (testId : BitVec 32) : TestList where
  testIdCount := 1
  testIdList := TestList.zeroed.testIdList.set 0 testId (by decide)
  loopCnt := 0
  exitOnErr := 0
  logLevel := logMaskAll

theorem ids_singleOptions (testId : BitVec 32) : (singleOptions testId).ids = [testId] := by
  have hlen : (singleOptions testId).ids.length = 1 :=
    TestList.length_ids (show (1 : BitVec 32).toNat ≤ dimTestList by decide)
  obtain ⟨id, hid⟩ := List.length_eq_one_iff.mp hlen
  rw [hid]
  have hget : (singleOptions testId).ids[0] = testId := by
    simp [TestList.ids, singleOptions]
  simpa [hid] using hget

namespace Session

variable (R : Registry A D) (a : Session B A D)

/-- What asking for the list of all tests does to a session. -/
def asked : Session B A D :=
  if (R.suite B).length ≤ dimTestList then a
  else a.reported (.errEventMsg 0 .assert .processDiagtestCmds 213)

theorem run_getAvailableListOfTest_zeroed :
    (getAvailableListOfTest TestList.zeroed).run (a.state R) =
      .ok (R.allTests B) ((a.asked R).state R) := by
  unfold Registry.allTests asked
  by_cases h : (R.suite B).length ≤ dimTestList
  · rw [if_pos h, if_pos h, run_getAvailableListOfTest R a _ h]
  · rw [if_neg h, if_neg h, run_getAvailableListOfTest_of_overflow R a _ (Nat.not_le.mp h)]

/-- `show_test_list`, on a session. -/
def showList : Session B A D :=
  ((a.print [.listAvailableTests (some B.boardDefault)]).asked R).listed R
    { R.allTests B with logLevel := logMaskAll } true false

theorem run_showTestList :
    showTestList.run (a.state R) = .ok () ((a.showList R).state R) := by
  unfold showTestList
  rw [EStateM.run_bind, run_requestTestListName]
  simp only
  rw [EStateM.run_bind, run_printf]
  simp only
  rw [EStateM.run_bind, run_getAvailableListOfTest_zeroed]
  simp only
  rw [run_displayTestList]
  rfl

/-- Running what an options record lists and reporting on it: the end of both
`run_all_tests` and `runtestByTestId`. -/
def conducted (options : TestList) (fuel : ℕ) : Bool × Session B A D :=
  ((a.executed R options fuel).1,
    if (a.executed R options fuel).1 then
      ((a.executed R options fuel).2.print [.newline]).resulted R options
    else (a.executed R options fuel).2)

theorem run_conducted {β : Type} (options : TestList) (fuel : ℕ) (r : β) :
    (do
      executeAllTestListed fuel options
      printf .newline
      displayTestResults options
      return r : Diag B A D β).run (a.state R) =
      if (a.conducted R options fuel).1 then .ok r ((a.conducted R options fuel).2.state R)
      else .error .outOfFuel ((a.conducted R options fuel).2.state R) := by
  rw [EStateM.run_bind, run_executeAllTestListed_eq]
  unfold conducted
  cases (a.executed R options fuel).1 with
  | false => rfl
  | true =>
      simp only [if_true]
      rw [EStateM.run_bind, run_printf]
      simp only
      rw [EStateM.run_bind, run_displayTestResults]
      rfl

/-- What `run_all_tests` does before it runs anything. -/
def announcedAll (loopCnt : BitVec 32) : Session B A D :=
  ((a.asked R).listed R (R.allOptions B loopCnt) true true).print [.newline]

/-- `run_all_tests`, on a session. -/
def ranAll (loopCnt : BitVec 32) (fuel : ℕ) : Bool × Session B A D :=
  (a.announcedAll R loopCnt).conducted R (R.allOptions B loopCnt) fuel

theorem run_runAllTests {β : Type} (loopCnt : BitVec 32) (fuel : ℕ) (r : β) :
    (do
      runAllTests fuel 0 loopCnt logMaskAll
      return r : Diag B A D β).run (a.state R) =
      if (a.ranAll R loopCnt fuel).1 then .ok r ((a.ranAll R loopCnt fuel).2.state R)
      else .error .outOfFuel ((a.ranAll R loopCnt fuel).2.state R) := by
  have hmask : logMaskAll &&& logMaskList ≠ 0 := by decide
  unfold runAllTests ranAll
  simp only [hmask, if_true, ne_eq, not_false_eq_true, bind_assoc]
  rw [EStateM.run_bind, run_getAvailableListOfTest_zeroed]
  simp only
  rw [EStateM.run_bind, run_displayTestList]
  simp only
  rw [EStateM.run_bind, run_printf]
  exact run_conducted R _ (R.allOptions B loopCnt) fuel r

/-- Looking up the one index `run` is given.  An index below the number of tests
is below 200, so it is the same number signed and unsigned. -/
theorem run_lookupTests (testIndex : BitVec 32) :
    (lookupTests (R.allTests B) [testIndex] TestList.zeroed).run (a.state R) =
      match (R.allTests B).ids[testIndex.toNat]? with
      | some testId =>
          .ok (some { singleOptions testId with logLevel := 0 }) (a.state R)
      | none => .ok none ((a.print [.outOfRange testIndex.toInt]).state R) := by
  have hcount := R.toNat_testIdCount_allTests B
  have hlen := R.length_ids_allTests B
  have hdim : R.testCount B ≤ 200 := R.testCount_le B
  unfold lookupTests
  by_cases hlt : testIndex.toNat < R.testCount B
  · have hin : ¬ testIndex ≥ (R.allTests B).testIdCount := by
      rw [ge_iff_le, BitVec.le_def, hcount]
      omega
    have hint : testIndex.toInt = testIndex.toNat :=
      BitVec.toInt_eq_toNat_of_lt (by omega)
    have hget : testIndex.toNat < (R.allTests B).ids.length := by omega
    rw [if_neg hin, if_neg (by omega), hint, Int.toNat_natCast,
      List.getElem?_eq_getElem hget, EStateM.run_bind, run_getId R a hget]
    rfl
  · have hout : testIndex ≥ (R.allTests B).testIdCount := by
      rw [ge_iff_le, BitVec.le_def, hcount]
      omega
    rw [if_pos hout, List.getElem?_eq_none (by omega)]
    rfl

/-- What `runtestByTestId` does before it runs anything. -/
def announcedOne (testId : BitVec 32) : Session B A D :=
  (((a.asked R).print [.runTheFollowingTests]).listed R (singleOptions testId)
    false true).print [.newline]

/-- `runtestByTestId`, on a session. -/
def ranOne (testIndex : BitVec 32) (fuel : ℕ) : Bool × Session B A D :=
  match (R.allTests B).ids[testIndex.toNat]? with
  | some testId => (a.announcedOne R testId).conducted R (singleOptions testId) fuel
  | none => (true, (a.asked R).print [.outOfRange testIndex.toInt])

end Session

/-- What a command returns, if it returns. -/
def Command.ret (R : Registry A D) (B : Build) : Command → CommandRet
  | .missing | .invalid _ | .runUsage => .usage
  | .list | .runAll _ => .success
  | .run testIndex => if testIndex.toNat < R.testCount B then .success else .usage

/-- Whether a command asks for the test list. -/
def Command.asksForList : Command → Bool
  | .missing | .invalid _ | .runUsage => false
  | .list | .runAll _ | .run _ => true

namespace Session

variable (R : Registry A D) (a : Session B A D)

theorem run_runtestByTestId (testIndex : BitVec 32) (fuel : ℕ) :
    (runtestByTestId fuel [testIndex] 0 0 logMaskAll).run (a.state R) =
      if (a.ranOne R testIndex fuel).1 then
        .ok ((Command.run testIndex).ret R B) ((a.ranOne R testIndex fuel).2.state R)
      else .error .outOfFuel ((a.ranOne R testIndex fuel).2.state R) := by
  have hmask : logMaskAll &&& logMaskList ≠ 0 := by decide
  have hlen := R.length_ids_allTests B
  unfold runtestByTestId ranOne Command.ret
  rw [EStateM.run_bind, run_getAvailableListOfTest_zeroed]
  simp only
  rw [EStateM.run_bind, run_lookupTests]
  by_cases hlt : testIndex.toNat < R.testCount B
  · rw [List.getElem?_eq_getElem (by omega), if_pos hlt]
    simp only [hmask, if_true, ne_eq, not_false_eq_true]
    rw [EStateM.run_bind, run_printf]
    simp only
    rw [EStateM.run_bind, run_displayTestList]
    simp only
    rw [EStateM.run_bind, run_printf]
    exact run_conducted R _ (singleOptions _) fuel _
  · rw [List.getElem?_eq_none (by omega), if_neg hlt]
    rfl

/-- What a command does to a session: whether it returns on the fuel it is given,
and the session it reaches. -/
def perform (fuel : ℕ) : Command → Session B A D → Bool × Session B A D
  | .missing, a | .runUsage, a => (true, a)
  | .invalid arg, a => (true, a.print [.invalidOption arg])
  | .list, a => (true, a.showList R)
  | .runAll loopCnt, a => a.ranAll R loopCnt fuel
  | .run testIndex, a => a.ranOne R testIndex fuel

/-- Commands, once the test list has been picked up. -/
theorem run_exec (fuel : ℕ) (cmd : Command) :
    (cmd.exec fuel).run (a.state R) =
      if (perform R fuel cmd a).1 then .ok (cmd.ret R B) ((perform R fuel cmd a).2.state R)
      else .error .outOfFuel ((perform R fuel cmd a).2.state R) := by
  cases cmd with
  | missing => rfl
  | invalid arg => rfl
  | list =>
      unfold Command.exec
      rw [EStateM.run_bind, run_showTestList]
      rfl
  | runAll loopCnt => exact run_runAllTests R a loopCnt fuel CommandRet.success
  | run testIndex => exact run_runtestByTestId R a testIndex fuel
  | runUsage => rfl

/-! ## Before the test list has been picked up -/

/-- A command that asks for the test list initialises it first. -/
theorem run_exec_unready (hcleared : a.status = fun _ => Status.cleared B.ulong) (fuel : ℕ)
    {cmd : Command} (hasks : cmd.asksForList = true) :
    (cmd.exec fuel).run (a.unready R) = (cmd.exec fuel).run (a.state R) := by
  have hinit : ensureTestList.run (a.unready R) = ensureTestList.run (a.state R) := by
    rw [run_ensureTestList_unready R a hcleared, run_ensureTestList]
  have hname : requestTestListName.run (a.unready R) = requestTestListName.run (a.state R) :=
    run_bind_congr hinit _
  have hbound : testListBound.run (a.unready R) = testListBound.run (a.state R) :=
    run_bind_congr (run_bind_congr hinit _) _
  have hlist : ∀ options, (getAvailableListOfTest options).run (a.unready R) =
      (getAvailableListOfTest options).run (a.state R) :=
    fun options => run_bind_congr hbound _
  cases cmd with
  | list => exact run_bind_congr (run_bind_congr hname _) _
  | runAll loopCnt => exact run_bind_congr (run_bind_congr (hlist _) _) _
  | run testIndex => exact run_bind_congr (hlist _) _
  | missing => exact absurd hasks Bool.false_ne_true
  | invalid arg => exact absurd hasks Bool.false_ne_true
  | runUsage => exact absurd hasks Bool.false_ne_true

/-- The other commands leave it alone. -/
theorem run_exec_unready_of_not_asks (fuel : ℕ) {cmd : Command}
    (hasks : cmd.asksForList = false) :
    (cmd.exec fuel).run (a.unready R) =
      .ok (cmd.ret R B) ((perform R fuel cmd a).2.unready R) := by
  cases cmd with
  | missing => rfl
  | invalid arg => rfl
  | runUsage => rfl
  | list => exact absurd hasks.symm Bool.false_ne_true
  | runAll loopCnt => exact absurd hasks.symm Bool.false_ne_true
  | run testIndex => exact absurd hasks.symm Bool.false_ne_true

theorem perform_of_not_asks (fuel : ℕ) {cmd : Command} (hasks : cmd.asksForList = false) :
    (perform R fuel cmd a).1 = true ∧ (perform R fuel cmd a).2.status = a.status := by
  cases cmd with
  | missing => exact ⟨rfl, rfl⟩
  | invalid arg => exact ⟨rfl, rfl⟩
  | runUsage => exact ⟨rfl, rfl⟩
  | list => exact absurd hasks.symm Bool.false_ne_true
  | runAll loopCnt => exact absurd hasks.symm Bool.false_ne_true
  | run testIndex => exact absurd hasks.symm Bool.false_ne_true

/-- What `do_boarddiag` does to a session. -/
def command (fuel : ℕ) (argv : List CString) : Bool × Session B A D :=
  perform R fuel (parse argv) (a.print [.banner])

end Session

/-! ## The simulation -/

/-- A state of the framework and the session it stands for. -/
inductive Embeds (R : Registry A D) : State B A D → Session B A D → Prop
  /-- The test list has been picked up. -/
  | ready (a : Session B A D) : Embeds R (a.state R) a
  /-- It has not been picked up, and nothing has been counted. -/
  | unready (a : Session B A D) (hcleared : a.status = fun _ => Status.cleared B.ulong) :
      Embeds R (a.unready R) a

/-- The entries of the board the build is for. -/
def State.entries (s : State B A D) : List (TestParamEntry B A D) := s.lists B.boardDefault

namespace Embeds

variable {R : Registry A D} {s : State B A D} {a : Session B A D}

theorem trace_eq (h : Embeds R s a) : s.trace = a.trace := by
  cases h <;> rfl

theorem dev_eq (h : Embeds R s a) : s.dev = a.dev := by
  cases h <;> rfl

/-- The entries carry what was registered and the status the session says. -/
theorem entries_eq (h : Embeds R s a) :
    s.entries.map (fun e => (e.toRegistration, e.status)) =
      (R.suite B).mapIdx fun i r => (r, a.status i) := by
  apply List.ext_getElem
  · cases h with
    | ready => simp [State.entries]
    | unready => simp [State.entries, Session.unready, Registry.suite]
  · intro i h₁ h₂
    cases h with
    | ready => simp [State.entries, Session.lists_state_default, Session.entry]
    | unready _ hcleared =>
        simp [State.entries, Session.unready, Registry.suite, Registration.atBoot, hcleared]

theorem length_entries (h : Embeds R s a) : s.entries.length = (R.suite B).length := by
  have hlen := congrArg List.length h.entries_eq
  rwa [List.length_map, List.length_mapIdx] at hlen

/-- U-Boot starts with nothing counted. -/
theorem boot (R : Registry A D) (dev : D) :
    Embeds R (State.boot R dev : State B A D) (Session.start dev) :=
  .unready (Session.start dev) rfl

/-- **The simulation.**  A command takes related states and sessions to related
states and sessions, and returns exactly when the session says so. -/
theorem run_doBoarddiag (h : Embeds R s a) (fuel : ℕ) (argv : List CString) :
    ∃ s', Embeds R s' (a.command R fuel argv).2 ∧
      (doBoarddiag fuel argv).run s =
        if (a.command R fuel argv).1 then .ok ((parse argv).ret R B) s'
        else .error .outOfFuel s' := by
  rw [BoardDiag.run_doBoarddiag]
  cases h with
  | ready =>
      exact ⟨_, .ready _, Session.run_exec R (a.print [.banner]) fuel (parse argv)⟩
  | unready _ hcleared =>
      cases hasks : (parse argv).asksForList with
      | true =>
          refine ⟨_, .ready _, ?_⟩
          refine Eq.trans ?_ (Session.run_exec R (a.print [.banner]) fuel (parse argv))
          exact Session.run_exec_unready R (a.print [.banner]) hcleared fuel hasks
      | false =>
          obtain ⟨hreturns, hstatus⟩ :=
            Session.perform_of_not_asks R (a.print [.banner]) fuel hasks
          refine ⟨_, .unready _ (hstatus.trans hcleared), ?_⟩
          rw [Session.command, if_pos hreturns]
          exact Session.run_exec_unready_of_not_asks R (a.print [.banner]) fuel hasks

end Embeds

end BoardDiag
