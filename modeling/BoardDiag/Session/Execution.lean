import BoardDiag.Session.Basic

/-!
# Running tests in a session

What `RunDeviceTest` and `ExecuteAllTestListed` do, as functions on sessions.

`runTest` is one call: it looks the id up, and where it finds a test with a
function, calls it and books the result.  `batch` is the guarded part of
`ExecuteAllTestListed`: the loop over the list, repeated, left early on an error
if the caller asked for that.  The two loops of the source are one `passes` of
the loop library, so what is known about `passes` is known about them.
-/

namespace BoardDiag

open Machine

variable {B : Build} {A D : Type}

/-- The status of an entry after a call with result `r`. -/
def Status.afterCall {w : ℕ} (st : Status w) (r : TestResultTypes) : Status w :=
  { st with
    runCount := st.runCount + 1
    resultFromSingleRun := r
    totalFailCount := if r = .pass then st.totalFailCount else st.totalFailCount + 1
    newFailCount := if r = .pass then st.newFailCount else st.newFailCount + 1 }

/-- The first registered test with a given id, and its index. -/
def lookup (suite : List (Registration A D)) (testId : BitVec 32) :
    Option (ℕ × Registration A D) :=
  (locate suite testId).bind fun i => suite[i]?.map fun r => (i, r)

theorem lookup_of_locate_none {suite : List (Registration A D)} {testId : BitVec 32}
    (h : locate suite testId = none) : lookup suite testId = none := by
  rw [lookup, h]
  rfl

theorem lookup_of_locate_some {suite : List (Registration A D)} {testId : BitVec 32} {i : ℕ}
    (h : locate suite testId = some i) (hi : i < suite.length) :
    lookup suite testId = some (i, suite[i]) := by
  rw [lookup, h, Option.bind_some, List.getElem?_eq_getElem hi]
  rfl

/-- What a test function does to the trace while it runs. -/
def callActs (logMask : BitVec 32) (c : Call A) (reports : List Report) : List (Act A) :=
  .call c :: reports.flatMap fun r => .testReport r :: (consoleShow logMask r).map .print

namespace Session

/-- A call of the test function `f` of the test `r` registered at index `i`. -/
def invoke (a : Session B A D) (i : ℕ) (r : Registration A D) (f : TestFunction A D)
    (testId : BitVec 32) : TestResultTypes × Session B A D :=
  let out := f testId r.testArgs a.log.curTestId a.dev
  (out.1, resultReported
    { a with
      status := Function.update a.status i ((a.status i).afterCall out.1)
      dev := out.2.2
      trace := a.trace ++ (.print (.test testId r.description r.name) ::
        callActs a.log.logMask ⟨i, testId, r.testArgs, out.1⟩ out.2.1) } testId out.1)

/-- `RunDeviceTest`, on a session. -/
def runTest (R : Registry A D) (a : Session B A D) (testId : BitVec 32) :
    TestResultTypes × Session B A D :=
  match lookup (R.suite B) testId with
  | none =>
      (.aborted, (a.reported (.errEvent testId .testNotFound)).resultReported testId .aborted)
  | some (i, r) =>
      match r.testFunction with
      | none =>
          (.aborted,
            (a.reported (.errEventMsg 0 .assert .processDiagtestCmds 265)).resultReported
              testId .aborted)
      | some f => a.invoke i r f testId

variable (R : Registry A D) (a : Session B A D)

/-- What a test function leaves behind. -/
def called (i : ℕ) (f : TestFunction A D) (testId : BitVec 32) (testArgs : A) :
    Session B A D :=
  { a with
    dev := (f testId testArgs a.log.curTestId a.dev).2.2
    trace := a.trace ++ callActs a.log.logMask
      ⟨i, testId, testArgs, (f testId testArgs a.log.curTestId a.dev).1⟩
      (f testId testArgs a.log.curTestId a.dev).2.1 }

theorem run_callTestFunction (i : ℕ) (f : TestFunction A D) (testId : BitVec 32)
    (testArgs : A) :
    (callTestFunction ⟨B.boardDefault, i⟩ f testId testArgs).run (a.state R) =
      .ok (f testId testArgs a.log.curTestId a.dev).1
        ((a.called i f testId testArgs).state R) := rfl

/-- The assignments of `RunDeviceTest`, one after the other, when the test
passes. -/
theorem invoke_of_pass {i : ℕ} {r : Registration A D} {f : TestFunction A D}
    {testId : BitVec 32} (h : (f testId r.testArgs a.log.curTestId a.dev).1 = .pass) :
    (a.invoke i r f testId).2 =
      let b := ((a.setStatus i { a.status i with runCount := (a.status i).runCount + 1 }).print
        [.test testId r.description r.name]).called i f testId r.testArgs
      (b.setStatus i { b.status i with resultFromSingleRun := .pass }).resultReported
        testId .pass := by
  simp only [invoke, called, setStatus, print, emit, resultReported, h, Status.afterCall,
    Function.update_self, Function.update_idem, if_true, List.map_cons, List.map_nil,
    List.append_assoc, List.cons_append, List.nil_append]

/-- The assignments of `RunDeviceTest`, one after the other, when the test does
not pass. -/
theorem invoke_of_not_pass {i : ℕ} {r : Registration A D} {f : TestFunction A D}
    {testId : BitVec 32} {res : TestResultTypes}
    (h : (f testId r.testArgs a.log.curTestId a.dev).1 = res) (hres : res ≠ .pass) :
    (a.invoke i r f testId).2 =
      let b := ((a.setStatus i { a.status i with runCount := (a.status i).runCount + 1 }).print
        [.test testId r.description r.name]).called i f testId r.testArgs
      let b := b.setStatus i { b.status i with resultFromSingleRun := res }
      (b.setStatus i { b.status i with
        totalFailCount := (b.status i).totalFailCount + 1
        newFailCount := (b.status i).newFailCount + 1 }).resultReported testId res := by
  simp only [invoke, called, setStatus, print, emit, resultReported, h, Status.afterCall,
    Function.update_self, Function.update_idem, if_neg hres, List.map_cons, List.map_nil,
    List.append_assoc, List.cons_append, List.nil_append]

/-- **`RunDeviceTest`** runs a test the way `runTest` does. -/
theorem run_runDeviceTest (testId : BitVec 32) :
    (runDeviceTest testId).run (a.state R) =
      .ok (a.runTest R testId).1 ((a.runTest R testId).2.state R) := by
  unfold runDeviceTest
  rw [EStateM.run_bind, run_locateTest]
  cases hloc : locate (R.suite B) testId with
  | none =>
      simp only [Option.map_none, runTest, lookup_of_locate_none hloc]
      rfl
  | some i =>
      obtain ⟨hi, -⟩ := locate_eq_some_iff.mp hloc
      simp only [Option.map_some, runTest, lookup_of_locate_some hloc hi]
      rw [EStateM.run_bind, a.run_readEntry R hi]
      simp only [entry]
      cases hf : (R.suite B)[i].testFunction with
      | none => rfl
      | some f =>
          -- the counter goes up and the test is announced before it is called
          simp only
          rw [EStateM.run_bind, a.run_modifyEntry R hi
            (fun st => { st with runCount := st.runCount + 1 }) (fun _ => rfl)]
          simp only
          rw [EStateM.run_bind, run_printf]
          simp only
          rw [EStateM.run_bind, run_callTestFunction]
          simp only
          generalize hres : (f testId (R.suite B)[i].testArgs _ _).1 = res
          have hres' : (f testId (R.suite B)[i].testArgs a.log.curTestId a.dev).1 = res := hres
          rw [EStateM.run_bind, run_modifyEntry R _ hi
            (fun st => { st with resultFromSingleRun := res }) (fun _ => rfl)]
          simp only
          by_cases hpass : res = .pass
          · subst hpass
            rw [show (a.invoke i (R.suite B)[i] f testId).1 = .pass from hres',
              a.invoke_of_pass hres']
            rfl
          · rw [show (a.invoke i (R.suite B)[i] f testId).1 = res from hres',
              a.invoke_of_not_pass hres' hpass, if_pos hpass, EStateM.run_bind,
              run_modifyEntry R _ hi (fun st => { st with
                totalFailCount := st.totalFailCount + 1
                newFailCount := st.newFailCount + 1 }) (fun _ => rfl)]
            rfl

/-! ## Clearing the failure counts -/

/-- States agree when the sessions agree on the registered tests. -/
theorem state_congr {a b : Session B A D}
    (hstatus : ∀ i < (R.suite B).length, a.status i = b.status i) (hlog : a.log = b.log)
    (hdev : a.dev = b.dev) (htrace : a.trace = b.trace) : a.state R = b.state R := by
  have hlist : (R.suite B).mapIdx a.entry = (R.suite B).mapIdx b.entry := by
    apply List.ext_getElem
    · simp
    · intro i h₁ h₂
      rw [List.length_mapIdx] at h₁
      rw [List.getElem_mapIdx, List.getElem_mapIdx]
      exact entry_congr (hstatus i h₁) _
  rw [state, state, hlist, hlog, hdev, htrace]

/-- `ClearFailureCounts`, on a session. -/
def clearFailures : Session B A D :=
  { a with status := fun i => { a.status i with newFailCount := 0 } }

/-- The first `j` new-failure counts are cleared. -/
def clearingFailures (j : ℕ) : Session B A D :=
  { a with
    status := fun i => if i < j then { a.status i with newFailCount := 0 } else a.status i }

theorem clearingFailures_succ (j : ℕ) :
    (a.clearingFailures j).setStatus j
        { (a.clearingFailures j).status j with newFailCount := 0 } =
      a.clearingFailures (j + 1) := by
  simp only [clearingFailures, setStatus, Session.mk.injEq, and_true]
  funext i
  by_cases hij : i = j
  · subst hij
    simp
  · rw [Function.update_of_ne hij]
    by_cases hlt : i < j
    · rw [if_pos hlt, if_pos (Nat.lt_succ_of_lt hlt)]
    · rw [if_neg hlt, if_neg (by omega)]

/-- One step of `ClearFailureCounts`. -/
theorem run_clearFailureCount {j : ℕ} (hj : j < (R.suite B).length) :
    (clearFailureCount j).run ((a.clearingFailures j).state R) =
      .ok () ((a.clearingFailures (j + 1)).state R) := by
  unfold clearFailureCount
  rw [EStateM.run_bind, run_testEntryAt]
  simp only
  rw [run_modifyEntry R _ hj (fun st => { st with newFailCount := 0 }) (fun _ => rfl),
    clearingFailures_succ]

/-- **`ClearFailureCounts`** clears the new-failure count of every registered
test and nothing else. -/
theorem run_clearFailureCounts :
    clearFailureCounts.run (a.state R) = .ok () (a.clearFailures.state R) := by
  have hzero : a.clearingFailures 0 = a := by
    simp [clearingFailures]
  have hfull : (a.clearingFailures (R.suite B).length).state R = a.clearFailures.state R :=
    state_congr R (fun i hi => if_pos hi) rfl rfl rfl
  unfold clearFailureCounts
  rw [EStateM.run_bind, run_testListBound]
  have hloop := run_forFrom (fun testIndex _ => clearFailureCount testIndex) (fun _ => ())
    (fun j => (a.clearingFailures j).state R) 0
    (R.suite B).length fun j _ hj => a.run_clearFailureCount R (by omega : j < _)
  rw [Nat.zero_add, hfull, hzero] at hloop
  exact hloop

/-! ## Batches -/

/-- One step of the inner loop of `ExecuteAllTestListed`, on a session. -/
def stepListed (exitOnErr : BitVec 32) (testId : BitVec 32) (a : Session B A D) :
    Bool × Session B A D :=
  (decide ((a.runTest R testId).1 ≠ .pass ∧ exitOnErr ≠ 0), (a.runTest R testId).2)

/-- `SetLoggingMode` and `SetLogMask`, as `ExecuteAllTestListed` calls them. -/
def logged (logLevel : BitVec 32) : Session B A D :=
  { a with log := { a.log with logMode := .console, logMask := logLevel } }

/-- The session in which the loops of `ExecuteAllTestListed` begin. -/
def begun (logLevel : BitVec 32) : Session B A D :=
  ((a.logged logLevel).emit [.batch]).clearFailures

end Session

/-- The ids an options record lists. -/
def TestList.ids (options : TestList) : List (BitVec 32) :=
  options.testIdList.toList.take options.testIdCount.toNat

theorem TestList.length_ids {options : TestList}
    (h : options.testIdCount.toNat ≤ dimTestList) :
    options.ids.length = options.testIdCount.toNat := by
  rw [ids, List.length_take, Vector.length_toList]
  exact Nat.min_eq_left h

namespace Session

variable (R : Registry A D) (a : Session B A D)

theorem run_getId {options : TestList} {j : ℕ} (hj : j < options.ids.length) :
    (options.getId j).run (a.state R) = .ok options.ids[j] (a.state R) := by
  have hj' : j < options.testIdList.toList.length := by
    rw [TestList.ids, List.length_take] at hj
    omega
  rw [TestList.getId, run_fetch hj']
  simp [TestList.ids]

/-- The body of the inner loop. -/
theorem run_executeListed {options : TestList} {j : ℕ} (hj : j < options.ids.length) :
    (executeListed options j).run (a.state R) =
      .ok (exitOf (stepListed R options.exitOnErr options.ids[j] a).1)
        ((stepListed R options.exitOnErr options.ids[j] a).2.state R) := by
  unfold executeListed
  rw [EStateM.run_bind, run_getId R a hj]
  simp only
  rw [EStateM.run_bind, run_runDeviceTest]
  simp only
  by_cases hpass : (a.runTest R options.ids[j]).1 = .pass
  · have hgo : (stepListed R options.exitOnErr options.ids[j] a).1 = false :=
      decide_eq_false fun h => h.1 hpass
    rw [hgo, if_neg (not_not.mpr hpass)]
    rfl
  · rw [if_pos hpass]
    by_cases hexit : options.exitOnErr = 0
    · have hgo : (stepListed R options.exitOnErr options.ids[j] a).1 = false :=
        decide_eq_false fun h => h.2 hexit
      rw [hgo, if_neg (not_not.mpr hexit)]
      rfl
    · have hstop : (stepListed R options.exitOnErr options.ids[j] a).1 = true :=
        decide_eq_true ⟨hpass, hexit⟩
      rw [hstop, if_pos hexit]
      rfl

end Session

/-- The counter of the outer loop after `j` rounds. -/
theorem iterate_add_one (j : ℕ) :
    (fun loopCount : BitVec 32 => loopCount + 1)^[j] 0 = BitVec.ofNat 32 j := by
  induction j with
  | zero => rfl
  | succ j ih =>
      rw [Function.iterate_succ_apply', ih, BitVec.ofNat_add]
      rfl

namespace Session

variable (R : Registry A D) (a : Session B A D)

/-- The inner loop of `ExecuteAllTestListed` is one pass over the listed ids. -/
theorem run_innerLoop {options : TestList}
    (hdim : options.testIdCount.toNat ≤ dimTestList) :
    (searchFrom (executeListed options) 0 options.testIdCount.toNat).run (a.state R) =
      .ok (exitOf (runUntil (stepListed R options.exitOnErr) options.ids a).1)
        ((runUntil (stepListed R options.exitOnErr) options.ids a).2.state R) := by
  rw [← TestList.length_ids hdim]
  refine run_searchFrom (state R) options.ids 0 a fun j hj b => ?_
  rw [Nat.zero_add]
  exact b.run_executeListed R hj

/-- The session the loops of `ExecuteAllTestListed` leave after `k` rounds, and
whether they were left early. -/
def batch (options : TestList) (k : ℕ) : Bool × Session B A D :=
  passes (stepListed R options.exitOnErr) options.ids k (a.begun options.logLevel)

/-- The guards of `ExecuteAllTestListed`: an empty list. -/
theorem run_executeAllTestListed_of_empty (fuel : ℕ) {options : TestList}
    (h : options.testIdCount = 0) :
    (executeAllTestListed fuel options).run (a.state R) = .ok ()
      (((a.logged options.logLevel).reported
        (.errEventMsg 0 .assert .processDiagtestCmds 173)).state R) := by
  unfold executeAllTestListed
  rw [h]
  rfl

/-- The guards of `ExecuteAllTestListed`: a list that is too long. -/
theorem run_executeAllTestListed_of_overflow (fuel : ℕ) {options : TestList}
    (h : dimTestList < options.testIdCount.toNat) :
    (executeAllTestListed fuel options).run (a.state R) = .ok ()
      (((a.logged options.logLevel).reported
        (.errEventMsg 0 .assert .processDiagtestCmds 178)).state R) := by
  have h0 : options.testIdCount ≠ 0 := by
    intro h0
    rw [h0] at h
    exact absurd h (Nat.not_lt_zero _)
  unfold executeAllTestListed
  rw [if_neg h0, if_pos h]
  rfl

/-- Past the guards, `ExecuteAllTestListed` is its outer loop. -/
theorem run_executeAllTestListed_loop (fuel : ℕ) {options : TestList}
    (h0 : options.testIdCount ≠ 0) (hdim : options.testIdCount.toNat ≤ dimTestList) :
    (executeAllTestListed fuel options).run (a.state R) =
      match (whileFuel (fun loopCount : BitVec 32 => decide (loopCount ≤ options.loopCnt))
        (fun loopCount => loopCount + 1)
        (fun _ => searchFrom (executeListed options) 0 options.testIdCount.toNat) fuel 0).run
          ((a.begun options.logLevel).state R) with
      | .ok _ s => .ok () s
      | .error e s => .error e s := by
  have hmode : (setLoggingMode .console >>= fun _ => setLogMask options.logLevel).run
      (a.state R) = .ok () ((a.logged options.logLevel).state R) := rfl
  unfold executeAllTestListed
  rw [if_neg h0, if_neg (Nat.not_lt.mpr hdim), ← bind_assoc, EStateM.run_bind, hmode]
  simp only
  rw [EStateM.run_bind, run_act]
  simp only
  rw [EStateM.run_bind, run_clearFailureCounts]
  simp only
  rw [EStateM.run_bind, ← begun]
  split
  · next hout => rw [hout, EStateM.run_pure]
  · next hout => rw [hout]

/-- **`ExecuteAllTestListed`, below the largest loop count.**  With enough fuel it
makes `loopCnt + 1` rounds, or fewer if it is left early; with less it is cut
off after as many rounds as there was fuel. -/
theorem run_executeAllTestListed (fuel : ℕ) {options : TestList}
    (h0 : options.testIdCount ≠ 0) (hdim : options.testIdCount.toNat ≤ dimTestList)
    (hloop : options.loopCnt.toNat + 1 < 2 ^ 32) :
    (executeAllTestListed fuel options).run (a.state R) =
      if (a.batch R options (min fuel (options.loopCnt.toNat + 1))).1 then
        .ok () ((a.batch R options (min fuel (options.loopCnt.toNat + 1))).2.state R)
      else if options.loopCnt.toNat + 1 < fuel then
        .ok () ((a.batch R options (min fuel (options.loopCnt.toNat + 1))).2.state R)
      else
        .error .outOfFuel
          ((a.batch R options (min fuel (options.loopCnt.toNat + 1))).2.state R) := by
  rw [run_executeAllTestListed_loop R a fuel h0 hdim,
    run_whileFuel_of_exit (state R) (fun _ b => b.run_innerLoop R hdim)
      (options.loopCnt.toNat + 1) fuel 0 (a.begun options.logLevel)]
  · rw [← batch]
    cases (a.batch R options (min fuel (options.loopCnt.toNat + 1))).1 with
    | true => rfl
    | false =>
        by_cases hfuel : options.loopCnt.toNat + 1 < fuel
        · simp [hfuel]
        · simp [hfuel]
  · intro j hj
    rw [iterate_add_one]
    refine decide_eq_true (BitVec.le_def.mpr ?_)
    rw [BitVec.toNat_ofNat, Nat.mod_eq_of_lt (by omega)]
    omega
  · rw [iterate_add_one]
    refine decide_eq_false fun hle => ?_
    have hle' := BitVec.le_def.mp hle
    rw [BitVec.toNat_ofNat, Nat.mod_eq_of_lt hloop] at hle'
    omega

/-- **`ExecuteAllTestListed` at the largest loop count.**  Every value of the
counter is at most the bound, so the outer loop is only ever left early. -/
theorem run_executeAllTestListed_of_max (fuel : ℕ) {options : TestList}
    (h0 : options.testIdCount ≠ 0) (hdim : options.testIdCount.toNat ≤ dimTestList)
    (hloop : options.loopCnt.toNat + 1 = 2 ^ 32) :
    (executeAllTestListed fuel options).run (a.state R) =
      if (a.batch R options fuel).1 then .ok () ((a.batch R options fuel).2.state R)
      else .error .outOfFuel ((a.batch R options fuel).2.state R) := by
  rw [run_executeAllTestListed_loop R a fuel h0 hdim,
    run_whileFuel_of_forever (state R) (fun _ b => b.run_innerLoop R hdim)]
  · rw [← batch]
    cases (a.batch R options fuel).1 with
    | true => rfl
    | false => rfl
  · intro i
    refine decide_eq_true (BitVec.le_def.mpr ?_)
    have hi := i.isLt
    omega

/-- The number of rounds the outer loop makes on a given amount of fuel, if it is
not left early. -/
def rounds (loopCnt : BitVec 32) (fuel : ℕ) : ℕ :=
  if loopCnt.toNat + 1 < 2 ^ 32 then min fuel (loopCnt.toNat + 1) else fuel

/-- `ExecuteAllTestListed`, on a session: whether it returns on the fuel it is
given, and the session it leaves. -/
def executed (options : TestList) (fuel : ℕ) : Bool × Session B A D :=
  if options.testIdCount = 0 then
    (true, (a.logged options.logLevel).reported (.errEventMsg 0 .assert .processDiagtestCmds 173))
  else if options.testIdCount.toNat > dimTestList then
    (true, (a.logged options.logLevel).reported (.errEventMsg 0 .assert .processDiagtestCmds 178))
  else
    ((a.batch R options (rounds options.loopCnt fuel)).1 ||
        decide (options.loopCnt.toNat + 1 < 2 ^ 32 ∧ options.loopCnt.toNat + 1 < fuel),
      (a.batch R options (rounds options.loopCnt fuel)).2)

/-- **`ExecuteAllTestListed`**, in all cases. -/
theorem run_executeAllTestListed_eq (fuel : ℕ) (options : TestList) :
    (executeAllTestListed fuel options).run (a.state R) =
      if (a.executed R options fuel).1 then
        .ok () ((a.executed R options fuel).2.state R)
      else .error .outOfFuel ((a.executed R options fuel).2.state R) := by
  unfold executed
  by_cases h0 : options.testIdCount = 0
  · rw [if_pos h0, run_executeAllTestListed_of_empty R a fuel h0]
    rfl
  · rw [if_neg h0]
    by_cases hdim : options.testIdCount.toNat > dimTestList
    · rw [if_pos hdim, run_executeAllTestListed_of_overflow R a fuel hdim]
      rfl
    · rw [if_neg hdim]
      have hdim' := Nat.not_lt.mp hdim
      by_cases hloop : options.loopCnt.toNat + 1 < 2 ^ 32
      · rw [run_executeAllTestListed R a fuel h0 hdim' hloop, rounds, if_pos hloop]
        obtain ⟨stopped, b⟩ := a.batch R options (min fuel (options.loopCnt.toNat + 1))
        cases stopped with
        | true => rfl
        | false =>
            by_cases hfuel : options.loopCnt.toNat + 1 < fuel
            · rw [decide_eq_true ⟨hloop, hfuel⟩, if_pos hfuel]
              rfl
            · rw [decide_eq_false fun h => hfuel h.2, if_neg hfuel]
              rfl
      · have hmax : options.loopCnt.toNat + 1 = 2 ^ 32 := by
          have := options.loopCnt.isLt
          omega
        rw [run_executeAllTestListed_of_max R a fuel h0 hdim' hmax, rounds, if_neg hloop]
        rw [decide_eq_false fun h => hloop h.1, Bool.or_false]

end Session

end BoardDiag
