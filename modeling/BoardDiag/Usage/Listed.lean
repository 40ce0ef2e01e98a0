import BoardDiag.History.Reachable
import BoardDiag.Machine.Confined

/-!
# Executing a list of tests

`ExecuteAllTestListed` is two nested loops around `RunDeviceTest`, with a `return`
inside the inner one and an inclusive bound on the outer one.  Seen from outside it
should be something simple: after a few assignments, a sequence of calls of
`RunDeviceTest`, and which calls can be said without speaking of loops.

`runDeviceTests` is such a sequence, and `executeAllTestListed_runs` says which one it
is: the list, as many times over as the caller asked for; or, if the caller asked to
stop on an error, as much of that as it takes to reach the first call that does not
pass.  What the calls return may depend on everything that happened before.
-/

namespace BoardDiag

open Machine

variable {B : Build} {A D : Type}

/-- `RunDeviceTest` for one id after the other, and what the calls return. -/
def runDeviceTests : List (BitVec 32) → Diag B A D (List TestResultTypes)
  | [] => return []
  | testId :: testIds => do
      let r ← runDeviceTest testId
      let rs ← runDeviceTests testIds
      return r :: rs

/-- What `ExecuteAllTestListed` does before its loops. -/
def beginListed (options : TestList) : Diag B A D Unit := do
  setLoggingMode .console
  setLogMask options.logLevel
  act .batch
  clearFailureCounts

namespace Session

variable (R : Registry A D)

/-- A sequence of `RunDeviceTest`s, on sessions. -/
def runTests : List (BitVec 32) → Session B A D → List TestResultTypes × Session B A D
  | [], a => ([], a)
  | testId :: testIds, a =>
      ((a.runTest R testId).1 :: (runTests testIds (a.runTest R testId).2).1,
        (runTests testIds (a.runTest R testId).2).2)

theorem run_runDeviceTests (testIds : List (BitVec 32)) (a : Session B A D) :
    (runDeviceTests testIds).run (a.state R) =
      .ok (runTests R testIds a).1 ((runTests R testIds a).2.state R) := by
  induction testIds generalizing a with
  | nil => rfl
  | cons testId testIds ih =>
      rw [runDeviceTests, EStateM.run_bind, run_runDeviceTest]
      simp only
      rw [EStateM.run_bind, ih]
      rfl

/-- Before the test list has been picked up, looking a test up picks it up. -/
theorem run_runDeviceTest_unready {a : Session B A D}
    (hcleared : a.status = fun _ => Status.cleared B.ulong) (testId : BitVec 32) :
    (runDeviceTest testId).run (a.unready R) = (runDeviceTest testId).run (a.state R) := by
  have hinit : ensureTestList.run (a.unready R) = ensureTestList.run (a.state R) := by
    rw [run_ensureTestList_unready R a hcleared, run_ensureTestList]
  exact run_bind_congr (run_bind_congr (run_bind_congr (run_bind_congr hinit _) _) _) _

theorem run_beginListed (options : TestList) (a : Session B A D) :
    (beginListed options).run (a.state R) =
      .ok () ((a.begun options.logLevel).state R) := by
  have hmode : (setLoggingMode .console >>= fun _ => setLogMask options.logLevel).run
      (a.state R) = .ok () ((a.logged options.logLevel).state R) := rfl
  rw [beginListed, ← bind_assoc, EStateM.run_bind, hmode]
  simp only
  rw [EStateM.run_bind, run_act]
  simp only
  rw [run_clearFailureCounts]
  rfl

end Session

/-- A sequence of `RunDeviceTest`s, whether or not the list has been picked up. -/
theorem Embeds.run_runDeviceTests {R : Registry A D} {s : State B A D} {a : Session B A D}
    (h : Embeds R s a) (testIds : List (BitVec 32)) :
    ∃ s', (runDeviceTests testIds).run s = .ok (Session.runTests R testIds a).1 s' ∧
      Embeds R s' (Session.runTests R testIds a).2 := by
  cases testIds with
  | nil => exact ⟨s, rfl, h⟩
  | cons testId testIds =>
      have hstate : (runDeviceTests (testId :: testIds)).run s =
          (runDeviceTests (testId :: testIds)).run (a.state R) := by
        cases h with
        | ready => rfl
        | unready _ hcleared =>
            exact run_bind_congr (Session.run_runDeviceTest_unready R hcleared testId) _
      exact ⟨_, hstate.trans (Session.run_runDeviceTests R (testId :: testIds) a), .ready _⟩

/-! ## Which tests a batch runs -/

/-- **The tests a loop runs that stops at the first error**: all of them, if they pass;
otherwise as many as it takes to reach one that does not. -/
def UpToFirstFailure (whole testIds : List (BitVec 32)) (results : List TestResultTypes) :
    Prop :=
  (testIds = whole ∧ ∀ r ∈ results, r = .pass) ∨
  (testIds <+: whole ∧ ∃ passed r, results = passed ++ [r] ∧ (∀ q ∈ passed, q = .pass) ∧
    r ≠ .pass)

namespace Session

variable (R : Registry A D)

/-- A loop that does not stop on errors runs everything. -/
theorem runUntil_stepListed_zero (testIds : List (BitVec 32)) (a : Session B A D) :
    runUntil (stepListed R 0) testIds a = (false, (runTests R testIds a).2) := by
  induction testIds generalizing a with
  | nil => rfl
  | cons testId testIds ih =>
      rw [runUntil_cons_of_go (decide_eq_false fun h => h.2 rfl)]
      exact ih (a.runTest R testId).2

/-- A loop that stops on errors runs the tests up to the first that does not pass. -/
theorem exists_runUntil_stepListed {exitOnErr : BitVec 32} (h : exitOnErr ≠ 0)
    (whole : List (BitVec 32)) (a : Session B A D) :
    ∃ testIds, (runUntil (stepListed R exitOnErr) whole a).2 = (runTests R testIds a).2 ∧
      UpToFirstFailure whole testIds (runTests R testIds a).1 := by
  induction whole generalizing a with
  | nil => exact ⟨[], rfl, .inl ⟨rfl, fun _ hr => absurd hr List.not_mem_nil⟩⟩
  | cons testId whole ih =>
      by_cases hpass : (a.runTest R testId).1 = .pass
      · -- a test that passes comes first, and the loop goes on
        obtain ⟨testIds, hrun, hup⟩ := ih (a.runTest R testId).2
        refine ⟨testId :: testIds, ?_, ?_⟩
        · rw [runUntil_cons_of_go (decide_eq_false fun h => h.1 hpass)]
          exact hrun
        · rcases hup with ⟨rfl, hall⟩ | ⟨hpre, passed, r, hresults, hpassed, hr⟩
          · refine .inl ⟨rfl, fun r hr => ?_⟩
            rcases List.mem_cons.mp hr with rfl | hr
            · exact hpass
            · exact hall r hr
          · refine .inr ⟨List.cons_prefix_cons.mpr ⟨rfl, hpre⟩, .pass :: passed, r, ?_, ?_, hr⟩
            · rw [runTests, hpass, hresults]
              rfl
            · intro q hq
              rcases List.mem_cons.mp hq with rfl | hq
              · rfl
              · exact hpassed q hq
      · refine ⟨[testId], ?_, .inr ⟨List.cons_prefix_cons.mpr ⟨rfl, List.nil_prefix⟩, [], _, rfl,
          fun _ hq => absurd hq List.not_mem_nil, hpass⟩⟩
        rw [runUntil_cons_of_stop (decide_eq_true ⟨hpass, h⟩)]
        rfl

/-- What the tests that are not run keep. -/
theorem status_runTest_of_locate_ne {a : Session B A D} {testId : BitVec 32} {i : ℕ}
    (h : locate (R.suite B) testId ≠ some i) : (a.runTest R testId).2.status i = a.status i := by
  rw [runTest]
  cases hloc : locate (R.suite B) testId with
  | none =>
      rw [lookup_of_locate_none hloc]
      rfl
  | some j =>
      obtain ⟨hj, -⟩ := locate_eq_some_iff.mp hloc
      rw [lookup_of_locate_some hloc hj]
      simp only
      cases (R.suite B)[j].testFunction with
      | none => rfl
      | some f => exact Function.update_of_ne (fun hij => h (by rw [hloc, hij])) _ _

theorem status_runTests_of_locate_ne {testIds : List (BitVec 32)} {a : Session B A D} {i : ℕ}
    (h : ∀ testId ∈ testIds, locate (R.suite B) testId ≠ some i) :
    (runTests R testIds a).2.status i = a.status i := by
  induction testIds generalizing a with
  | nil => rfl
  | cons testId testIds ih =>
      have hrest := ih (a := (a.runTest R testId).2)
        fun t ht => h t (List.mem_cons_of_mem testId ht)
      exact hrest.trans (status_runTest_of_locate_ne R (h testId List.mem_cons_self))

end Session

/-! ## The batch -/

/-- Past its guards, `ExecuteAllTestListed` begins with `beginListed`. -/
theorem executeAllTestListed_eq (fuel : ℕ) {options : TestList}
    (h0 : options.testIdCount ≠ 0) (hdim : options.testIdCount.toNat ≤ dimTestList) :
    (executeAllTestListed fuel options : Diag B A D Unit) = do
      beginListed options
      let _ ← whileFuel (fun loopCount : BitVec 32 => decide (loopCount ≤ options.loopCnt))
        (fun loopCount => loopCount + 1)
        (fun _ => searchFrom (executeListed options) 0 options.testIdCount.toNat) fuel 0
      return := by
  unfold executeAllTestListed beginListed
  rw [if_neg h0, if_neg (Nat.not_lt.mpr hdim)]
  simp only [bind_assoc]

/-- Before the test list has been picked up, clearing the failure counts picks it up. -/
theorem Session.run_beginListed_unready (R : Registry A D) {a : Session B A D}
    (hcleared : a.status = fun _ => Status.cleared B.ulong) (options : TestList) :
    (beginListed options).run (a.unready R) = (beginListed options).run (a.state R) := by
  have hclear : ∀ b : Session B A D, b.status = a.status →
      clearFailureCounts.run (b.unready R) = clearFailureCounts.run (b.state R) := by
    intro b hb
    have hinit : ensureTestList.run (b.unready R) = ensureTestList.run (b.state R) := by
      rw [run_ensureTestList_unready R b (hb.trans hcleared), run_ensureTestList]
    exact run_bind_congr (run_bind_congr (run_bind_congr hinit _) _) _
  exact hclear ((a.logged options.logLevel).emit [.batch]) rfl

theorem Embeds.run_beginListed {R : Registry A D} {s : State B A D} {a : Session B A D}
    (h : Embeds R s a) (options : TestList) :
    (beginListed options).run s = .ok () ((a.begun options.logLevel).state R) := by
  cases h with
  | ready => exact Session.run_beginListed R options a
  | unready _ hcleared =>
      rw [Session.run_beginListed_unready R hcleared]
      exact Session.run_beginListed R options a

/-- Whether or not the list has been picked up, a batch leaves the same state. -/
theorem Embeds.run_executeAllTestListed {R : Registry A D} {s : State B A D}
    {a : Session B A D} (h : Embeds R s a) {options : TestList}
    (h0 : options.testIdCount ≠ 0) (hdim : options.testIdCount.toNat ≤ dimTestList)
    (hloop : options.loopCnt.toNat < 2 ^ 32 - 1) {fuel : ℕ}
    (hfuel : options.loopCnt.toNat + 1 < fuel) :
    (executeAllTestListed fuel options).run s =
      .ok () ((a.batch R options (options.loopCnt.toNat + 1)).2.state R) := by
  have hstate : (executeAllTestListed fuel options).run s =
      (executeAllTestListed fuel options).run (a.state R) := by
    rw [executeAllTestListed_eq fuel h0 hdim]
    refine run_bind_congr ?_ _
    rw [h.run_beginListed, Session.run_beginListed]
  rw [hstate, Session.run_executeAllTestListed R a fuel h0 hdim (by omega),
    Nat.min_eq_right (Nat.le_of_lt hfuel), if_pos hfuel, ite_self]

/-- The ids a batch runs: all rounds of its list, or, if it is to stop on errors, as many
of them as it takes to reach the first failure. -/
theorem Session.exists_runTests_batch (R : Registry A D) (a : Session B A D)
    (options : TestList) :
    ∃ testIds,
      (a.batch R options (options.loopCnt.toNat + 1)).2 =
        (Session.runTests R testIds (a.begun options.logLevel)).2 ∧
      (options.exitOnErr = 0 →
        testIds = (List.replicate (options.loopCnt.toNat + 1) options.ids).flatten) ∧
      (options.exitOnErr ≠ 0 → UpToFirstFailure
        (List.replicate (options.loopCnt.toNat + 1) options.ids).flatten testIds
        (Session.runTests R testIds (a.begun options.logLevel)).1) := by
  by_cases hexit : options.exitOnErr = 0
  · refine ⟨_, ?_, fun _ => rfl, fun hne => absurd hexit hne⟩
    rw [Session.batch, passes, hexit, Session.runUntil_stepListed_zero]
  · obtain ⟨testIds, hbatch, hup⟩ := Session.exists_runUntil_stepListed R hexit
      (List.replicate (options.loopCnt.toNat + 1) options.ids).flatten
      (a.begun options.logLevel)
    exact ⟨testIds, hbatch, fun heq => absurd heq hexit, fun _ => hup⟩

/-- **What `ExecuteAllTestListed` runs.**  For every list of one to two hundred ids,
known or not, in every state and whatever the tests do: after clearing the failure
counts it calls `RunDeviceTest` for the listed ids, `loopCnt + 1` times over; or, if it
is to stop on errors, for as many of them as it takes to reach the first call that
does not pass.  An entry none of these calls reaches keeps its status, except that its
new failures are cleared. -/
theorem executeAllTestListed_runs {R : Registry A D} {s : State B A D} {a : Session B A D}
    (h : Embeds R s a) {options : TestList} (hpos : 1 ≤ options.testIdCount.toNat)
    (hdim : options.testIdCount.toNat ≤ 200) (hloop : options.loopCnt.toNat < 2 ^ 32 - 1)
    {fuel : ℕ} (hfuel : options.loopCnt.toNat + 1 < fuel) :
    ∃ testIds results s₀ s',
      (beginListed options).run s = .ok () s₀ ∧
      (runDeviceTests testIds).run s₀ = .ok results s' ∧
      (executeAllTestListed fuel options).run s = .ok () s' ∧
      (options.exitOnErr = 0 →
        testIds = (List.replicate (options.loopCnt.toNat + 1) options.ids).flatten) ∧
      (options.exitOnErr ≠ 0 → UpToFirstFailure
        (List.replicate (options.loopCnt.toNat + 1) options.ids).flatten testIds results) ∧
      ∀ (i : ℕ) (e : TestParamEntry B A D), s.entries[i]? = some e →
        (∀ testId ∈ testIds, locate (R.suite B) testId ≠ some i) →
        ∃ e', s'.entries[i]? = some e' ∧ e'.status = { e.status with newFailCount := 0 } := by
  have h0 : options.testIdCount ≠ 0 := by
    intro h0
    rw [h0] at hpos
    exact absurd hpos (by decide)
  have hbegin := h.run_beginListed options
  have hrun := h.run_executeAllTestListed h0 hdim hloop hfuel
  obtain ⟨testIds, hbatch, hzero, hup⟩ := a.exists_runTests_batch R options
  rw [hbatch] at hrun
  refine ⟨testIds, _, _, _, hbegin, Session.run_runDeviceTests R testIds _, hrun, hzero, hup, ?_⟩
  intro i e he hnot
  obtain ⟨hreg, hstatus⟩ := h.status_eq he
  have hi : i < (R.suite B).length := (List.getElem?_eq_some_iff.mp hreg).1
  refine ⟨(Session.runTests R testIds (a.begun options.logLevel)).2.entry i (R.suite B)[i],
    ?_, ?_⟩
  · rw [State.entries, Session.lists_state_default, List.getElem?_mapIdx,
      List.getElem?_eq_getElem hi]
    rfl
  · show (Session.runTests R testIds (a.begun options.logLevel)).2.status i = _
    rw [Session.status_runTests_of_locate_ne R hnot, hstatus]
    rfl

/-- The tests of the small suite, to be run twice unless there is an error. -/
def smallTwice : TestList :=
  { smallRegistry.allTests smallBuild with loopCnt := 1, exitOnErr := 1, logLevel := logMaskAll }

/-- The batch is over after two calls: the first test passes, and the second fails. -/
theorem smallTwice_runs :
    ∃ testIds results s₀ s',
      (beginListed smallTwice).run (State.boot smallRegistry () : State smallBuild _ _) =
        .ok () s₀ ∧
      (runDeviceTests testIds).run s₀ = .ok results s' ∧
      (executeAllTestListed 3 smallTwice).run
        (State.boot smallRegistry () : State smallBuild _ _) = .ok () s' ∧
      UpToFirstFailure (List.replicate 2 smallTwice.ids).flatten testIds results ∧
      (callsOf s'.trace).map Call.index = [0, 1] := by
  obtain ⟨testIds, results, s₀, s', hbegin, hruns, hrun, -, hup, -⟩ :=
    executeAllTestListed_runs (Embeds.boot (B := smallBuild) smallRegistry ())
      (by decide : 1 ≤ smallTwice.testIdCount.toNat) (by decide) (by decide) (by decide : _ < 3)
  have hcalls : (callsOf (left (executeAllTestListed 3 smallTwice)
      (State.boot smallRegistry () : State smallBuild _ _)).trace).map Call.index = [0, 1] := by
    decide +kernel
  rw [left_of_ok hrun] at hcalls
  exact ⟨testIds, results, s₀, s', hbegin, hruns, hrun, hup (by decide), hcalls⟩

end BoardDiag
