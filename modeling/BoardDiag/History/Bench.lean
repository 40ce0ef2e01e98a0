import BoardDiag.History.Reachable

/-!
# The bench

What is left of a session when the console is forgotten: the status of the
entries, the board, and the calls made so far.  Commands act on this much alone
--- what has been printed, and what the log mask was, decides nothing --- and the
action is easy to write down.  `Bench.perform` does so: a command clears the new
failures and calls its tests, one after the other, as many rounds as it is asked
for and one more; or it does nothing at all.

`Session.bench_command` is the connection.  It asks for one thing, that no test
is under way in the event log (`Idle`), and every reachable session is idle.
-/

namespace BoardDiag

open Machine Relation

variable {B : Build} {A D : Type}

/-- The status of the entries, the board, and the calls made. -/
structure Bench (B : Build) (A D : Type) where
  status : ℕ → Status B.ulong
  dev : D
  calls : List (Call A)

/-- The bench of a session. -/
def Session.bench (a : Session B A D) : Bench B A D where
  status := a.status
  dev := a.dev
  calls := callsOf a.trace

namespace Bench

/-- Call the function `f` of the test `r` registered at index `i`. -/
def call (b : Bench B A D) (i : ℕ) (r : Registration A D) (f : TestFunction A D) :
    Bench B A D :=
  let out := f r.hash r.testArgs 0 b.dev
  { status := Function.update b.status i ((b.status i).afterCall out.1)
    dev := out.2.2
    calls := b.calls ++ [⟨i, r.hash, r.testArgs, out.1⟩] }

/-- Run the test with a given id, if it has a function. -/
def runTest (R : Registry A D) (b : Bench B A D) (testId : BitVec 32) : Bench B A D :=
  match lookup (R.suite B) testId with
  | none => b
  | some (i, r) =>
      match r.testFunction with
      | none => b
      | some f => b.call i r f

/-- Run tests, one after the other. -/
def runTests (R : Registry A D) (testIds : List (BitVec 32)) (b : Bench B A D) :
    Bench B A D :=
  testIds.foldl (runTest R) b

/-- Clear the new failures. -/
def clearFailures (b : Bench B A D) : Bench B A D :=
  { b with status := fun i => { b.status i with newFailCount := 0 } }

/-- Begin a batch and run tests for a number of rounds. -/
def runBatch (R : Registry A D) (testIds : List (BitVec 32)) (k : ℕ) (b : Bench B A D) :
    Bench B A D :=
  b.clearFailures.runTests R (List.replicate k testIds).flatten

/-- What a command does: whether it returns on the fuel it is given, and what it
leaves. -/
def perform (R : Registry A D) (fuel : ℕ) (cmd : Command) (b : Bench B A D) :
    Bool × Bench B A D :=
  match cmd with
  | .missing | .invalid _ | .list | .runUsage => (true, b)
  | .runAll loopCnt =>
      if R.testCount B = 0 then (true, b)
      else
        (decide (loopCnt.toNat + 1 < 2 ^ 32 ∧ loopCnt.toNat + 1 < fuel),
          b.runBatch R (R.allTests B).ids (Session.rounds loopCnt fuel))
  | .run testIndex =>
      match (R.allTests B).ids[testIndex.toNat]? with
      | none => (true, b)
      | some testId =>
          (decide (1 < fuel), b.runBatch R [testId] (Session.rounds 0 fuel))

section Equations

variable {R : Registry A D} (b : Bench B A D) (fuel : ℕ)

theorem perform_runAll_of_eq_zero (h : R.testCount B = 0) (loopCnt : BitVec 32) :
    b.perform R fuel (.runAll loopCnt) = (true, b) := if_pos h

theorem perform_runAll (h : R.testCount B ≠ 0) (loopCnt : BitVec 32) :
    b.perform R fuel (.runAll loopCnt) =
      (decide (loopCnt.toNat + 1 < 2 ^ 32 ∧ loopCnt.toNat + 1 < fuel),
        b.runBatch R (R.allTests B).ids (Session.rounds loopCnt fuel)) := if_neg h

theorem perform_run_of_none {testIndex : BitVec 32}
    (h : (R.allTests B).ids[testIndex.toNat]? = none) :
    b.perform R fuel (.run testIndex) = (true, b) := by
  simp only [perform, h]

theorem perform_run {testIndex testId : BitVec 32}
    (h : (R.allTests B).ids[testIndex.toNat]? = some testId) :
    b.perform R fuel (.run testIndex) =
      (decide (1 < fuel), b.runBatch R [testId] (Session.rounds 0 fuel)) := by
  simp only [perform, h]

end Equations

end Bench

/-! ## Which tests are called -/

/-- The index of the test that is called for an id, if it has a function. -/
def callee (suite : List (Registration A D)) (testId : BitVec 32) : Option ℕ :=
  (lookup suite testId).bind fun p => p.2.testFunction.map fun _ => p.1

namespace Bench

variable (R : Registry A D) (b : Bench B A D)

theorem calls_runTest (testId : BitVec 32) :
    (b.runTest R testId).calls.map Call.index =
      b.calls.map Call.index ++ (callee (R.suite B) testId).toList := by
  unfold runTest callee
  cases lookup (R.suite B) testId with
  | none => simp
  | some p =>
      obtain ⟨i, r⟩ := p
      cases hf : r.testFunction with
      | none => simp [hf]
      | some f => simp [hf, call]

theorem status_call_self (i : ℕ) (r : Registration A D) (f : TestFunction A D) :
    (b.call i r f).status i = (b.status i).afterCall (f r.hash r.testArgs 0 b.dev).1 :=
  Function.update_self ..

theorem status_call_of_ne {i j : ℕ} (h : j ≠ i) (r : Registration A D)
    (f : TestFunction A D) : (b.call i r f).status j = b.status j :=
  Function.update_of_ne h ..

/-- The new failures go up by the calls that do not pass. -/
theorem newFailCount_call (i j : ℕ) (r : Registration A D) (f : TestFunction A D) :
    ((b.call i r f).status j).newFailCount = (b.status j).newFailCount +
      BitVec.ofNat B.ulong (failures (resultsIn j
        [⟨i, r.hash, r.testArgs, (f r.hash r.testArgs 0 b.dev).1⟩])) := by
  by_cases hij : i = j
  · subst hij
    rw [status_call_self, Status.afterCall]
    generalize (f r.hash r.testArgs 0 b.dev).1 = res
    by_cases hpass : res = .pass
    · simp [resultsIn, failures, hpass]
    · simp [resultsIn, failures, hpass]
  · rw [status_call_of_ne b (Ne.symm hij)]
    simp [resultsIn, failures, hij]

theorem exists_calls_runTest (testId : BitVec 32) :
    ∃ cs, (b.runTest R testId).calls = b.calls ++ cs ∧
      ∀ i, ((b.runTest R testId).status i).newFailCount =
        (b.status i).newFailCount + BitVec.ofNat B.ulong (failures (resultsIn i cs)) := by
  unfold runTest
  cases lookup (R.suite B) testId with
  | none => exact ⟨[], (List.append_nil _).symm, fun i => (BitVec.add_zero _).symm⟩
  | some p =>
      obtain ⟨j, r⟩ := p
      cases hf : r.testFunction with
      | none =>
          simp only [hf]
          exact ⟨[], (List.append_nil _).symm, fun i => (BitVec.add_zero _).symm⟩
      | some f =>
          simp only [hf]
          exact ⟨_, rfl, fun i => newFailCount_call b j i r f⟩

/-- **New failures are the failures of the new calls.** -/
theorem exists_calls_runTests (testIds : List (BitVec 32)) :
    ∃ cs, (b.runTests R testIds).calls = b.calls ++ cs ∧
      ∀ i, ((b.runTests R testIds).status i).newFailCount =
        (b.status i).newFailCount + BitVec.ofNat B.ulong (failures (resultsIn i cs)) := by
  induction testIds generalizing b with
  | nil => exact ⟨[], (List.append_nil _).symm, fun i => (BitVec.add_zero _).symm⟩
  | cons testId testIds ih =>
      obtain ⟨cs, hcs, hnew⟩ := b.exists_calls_runTest R testId
      obtain ⟨ds, hds, hnew'⟩ := ih (b.runTest R testId)
      refine ⟨cs ++ ds, ?_, fun i => ?_⟩
      · rw [runTests, List.foldl_cons, ← runTests, hds, hcs, List.append_assoc]
      · rw [runTests, List.foldl_cons, ← runTests, hnew', hnew, resultsIn_append,
          failures_append, BitVec.ofNat_add, BitVec.add_assoc]

/-- Which tests are called does not depend on what they return. -/
theorem calls_runTests (testIds : List (BitVec 32)) :
    (b.runTests R testIds).calls.map Call.index =
      b.calls.map Call.index ++ testIds.filterMap (callee (R.suite B)) := by
  induction testIds generalizing b with
  | nil => simp [runTests]
  | cons testId testIds ih =>
      rw [runTests, List.foldl_cons, ← runTests, ih, calls_runTest, List.append_assoc]
      cases h : callee (R.suite B) testId with
      | none => simp [h]
      | some i => simp [h]

end Bench

theorem nodup_hashes_iff {suite : List (Registration A D)} :
    (hashes suite).Nodup ↔
      ∀ i j (hi : i < suite.length) (hj : j < suite.length), i < j →
        suite[i].hash ≠ suite[j].hash := by
  rw [List.Nodup, hashes, List.pairwise_map, List.pairwise_iff_getElem]

/-- **Every id leads back to its own test** exactly if the ids are distinct. -/
theorem locate_hash_iff_nodup {suite : List (Registration A D)} :
    (∀ k (hk : k < suite.length), locate suite suite[k].hash = some k) ↔
      (hashes suite).Nodup := by
  rw [nodup_hashes_iff]
  constructor
  · intro h i j hi hj hij hsame
    obtain ⟨_, _, hfirst⟩ := locate_eq_some_iff.mp (h j hj)
    exact hfirst i hij hsame
  · intro h k hk
    exact locate_eq_some_iff.mpr ⟨hk, rfl, fun j hjk => h j k (by omega) hk hjk⟩

/-- With distinct ids, the id of a test with a function leads to that test. -/
theorem callee_hash {suite : List (Registration A D)} (hnodup : (hashes suite).Nodup) {i : ℕ}
    (hi : i < suite.length) (hf : suite[i].testFunction.isSome) :
    callee suite suite[i].hash = some i := by
  obtain ⟨f, hf⟩ := Option.isSome_iff_exists.mp hf
  rw [callee, lookup_of_locate_some (locate_hash_iff_nodup.mpr hnodup i hi) hi,
    Option.bind_some]
  simp [hf]

/-! ## Idle sessions -/

/-- No test is under way in the event log. -/
def Idle (a : Session B A D) : Prop := a.log.curTestId = 0

theorem Quiet.idle {a b : Session B A D} (h : Quiet a b) (ha : Idle a) : Idle b := by
  rcases h.curTestId with heq | hzero
  · exact heq.trans ha
  · exact hzero

theorem Idle.move {R : Registry A D} {a b : Session B A D} (ha : Idle a)
    (h : Move R a b) : Idle b := by
  cases h with
  | quiet h => exact h.idle ha
  | batch => exact ha
  | call => exact ha

theorem Idle.moves {R : Registry A D} {a b : Session B A D} (ha : Idle a)
    (h : Moves R a b) : Idle b := by
  induction h with
  | refl => exact ha
  | tail _ hmove ih => exact ih.move hmove

/-- Quiet moves do not show on the bench. -/
theorem Quiet.bench_eq {a b : Session B A D} (h : Quiet a b) : b.bench = a.bench := by
  obtain ⟨xs, htrace, hharm⟩ := h.trace_eq
  unfold Session.bench
  rw [h.status_eq, h.dev_eq, htrace, callsOf_append, callsOf_of_harmless hharm,
    List.append_nil]

namespace Session

variable {R : Registry A D} (a : Session B A D)

/-- A call, on the bench. -/
theorem bench_booked (ha : Idle a) (i : ℕ) (r : Registration A D) (f : TestFunction A D) :
    (a.booked i r f).bench = a.bench.call i r f := by
  have hid : a.log.curTestId = 0 := ha
  simp only [bench, booked, Bench.call, hid, callsOf_append]
  rfl

theorem bench_runTest (ha : Idle a) {testId : BitVec 32} (h : testId ∈ hashes (R.suite B)) :
    (a.runTest R testId).2.bench = a.bench.runTest R testId := by
  obtain ⟨i, r, hlookup, -, rfl⟩ := lookup_of_mem h
  unfold runTest Bench.runTest
  rw [hlookup]
  cases hf : r.testFunction with
  | none =>
      simp only [hf]
      exact ((Quiet.asserted a 265).trans (.resultReported _ _ _)).bench_eq
  | some f =>
      have hbefore : Quiet a (a.print [.test r.hash r.description r.name]) :=
        a.quiet_printLine rfl
      simp only [hf]
      rw [invoke_eq, (Quiet.trans (.emit _ (harmless_testReports _ _))
        (.resultReported _ _ _)).bench_eq, bench_booked _ (hbefore.idle ha), hbefore.bench_eq]

/-- Without `exitOnErr`, the loops run every test of every round. -/
theorem bench_passes {testIds : List (BitVec 32)}
    (h : ∀ testId ∈ testIds, testId ∈ hashes (R.suite B)) (ha : Idle a) :
    (runUntil (stepListed R 0) testIds a).1 = false ∧
      (runUntil (stepListed R 0) testIds a).2.bench = a.bench.runTests R testIds := by
  induction testIds generalizing a with
  | nil => exact ⟨rfl, rfl⟩
  | cons testId testIds ih =>
      have hid := h testId List.mem_cons_self
      have hgo : (stepListed R 0 testId a).1 = false := decide_eq_false fun h => h.2 rfl
      have hidle : Idle (stepListed R 0 testId a).2 := ha.moves (a.moves_runTest hid)
      rw [runUntil_cons_of_go hgo]
      obtain ⟨hstop, hbench⟩ := ih (stepListed R 0 testId a).2
        (fun id hid => h id (List.mem_cons_of_mem testId hid)) hidle
      refine ⟨hstop, hbench.trans ?_⟩
      rw [Bench.runTests, Bench.runTests, List.foldl_cons]
      exact congrArg (fun b => testIds.foldl (Bench.runTest R) b) (a.bench_runTest ha hid)

/-- A batch without `exitOnErr`. -/
theorem bench_batch {options : TestList} (hexit : options.exitOnErr = 0)
    (h : ∀ testId ∈ options.ids, testId ∈ hashes (R.suite B)) (ha : Idle a) (k : ℕ) :
    (a.batch R options k).1 = false ∧
      (a.batch R options k).2.bench = a.bench.runBatch R options.ids k := by
  have hflat : ∀ testId ∈ (List.replicate k options.ids).flatten,
      testId ∈ hashes (R.suite B) := by
    intro testId hid
    obtain ⟨ids, hids, hid⟩ := List.mem_flatten.mp hid
    rw [List.eq_of_mem_replicate hids] at hid
    exact h testId hid
  have hbegun : (a.begun options.logLevel).bench = a.bench.clearFailures := by
    have hnone : callsOf [(Act.batch : Act A)] = [] := rfl
    simp only [begun, bench, Session.clearFailures, Bench.clearFailures, logged, emit,
      callsOf_append, hnone, List.append_nil]
  unfold batch passes
  rw [hexit, Bench.runBatch, ← hbegun]
  exact bench_passes (a.begun options.logLevel) hflat ha

theorem bench_executed {options : TestList} (hexit : options.exitOnErr = 0)
    (h : ∀ testId ∈ options.ids, testId ∈ hashes (R.suite B)) (ha : Idle a)
    (hdim : options.testIdCount.toNat ≤ dimTestList) (fuel : ℕ) :
    (a.executed R options fuel).1 =
        (decide (options.testIdCount = 0) || decide (options.loopCnt.toNat + 1 < 2 ^ 32 ∧
          options.loopCnt.toNat + 1 < fuel)) ∧
      (a.executed R options fuel).2.bench =
        if options.testIdCount = 0 then a.bench
        else a.bench.runBatch R options.ids (rounds options.loopCnt fuel) := by
  unfold executed
  by_cases h0 : options.testIdCount = 0
  · rw [if_pos h0, if_pos h0, decide_eq_true h0, Bool.true_or]
    exact ⟨rfl, ((Quiet.logged a _).trans (.asserted _ _)).bench_eq⟩
  · obtain ⟨hstop, hbench⟩ := a.bench_batch hexit h ha (rounds options.loopCnt fuel)
    rw [if_neg h0, if_neg h0, if_neg (Nat.not_lt.mpr hdim), decide_eq_false h0,
      Bool.false_or, hstop, Bool.false_or]
    exact ⟨rfl, hbench⟩

theorem bench_conducted {options : TestList} (hexit : options.exitOnErr = 0)
    (h : ∀ testId ∈ options.ids, testId ∈ hashes (R.suite B)) (ha : Idle a)
    (hdim : options.testIdCount.toNat ≤ dimTestList) (fuel : ℕ) :
    (a.conducted R options fuel).1 =
        (decide (options.testIdCount = 0) || decide (options.loopCnt.toNat + 1 < 2 ^ 32 ∧
          options.loopCnt.toNat + 1 < fuel)) ∧
      (a.conducted R options fuel).2.bench =
        if options.testIdCount = 0 then a.bench
        else a.bench.runBatch R options.ids (rounds options.loopCnt fuel) := by
  obtain ⟨hreturns, hbench⟩ := a.bench_executed hexit h ha hdim fuel
  refine ⟨hreturns, Eq.trans ?_ hbench⟩
  unfold conducted
  dsimp only
  split
  · exact ((quiet_printLine _ rfl).trans (quiet_resulted _ h)).bench_eq
  · rfl

theorem bench_ranAll (ha : Idle a) (loopCnt : BitVec 32) (fuel : ℕ) :
    (a.ranAll R loopCnt fuel).1 = (a.bench.perform R fuel (.runAll loopCnt)).1 ∧
      (a.ranAll R loopCnt fuel).2.bench = (a.bench.perform R fuel (.runAll loopCnt)).2 := by
  have hids := mem_hashes_of_mem_ids_allOptions (R := R) (B := B) loopCnt
  have hcount : (R.allOptions B loopCnt).testIdCount.toNat = R.testCount B :=
    R.toNat_testIdCount_allTests B
  have hzero : (R.allOptions B loopCnt).testIdCount = 0 ↔ R.testCount B = 0 := by
    rw [← hcount]
    exact ⟨fun h => by rw [h]; rfl, fun h => BitVec.eq_of_toNat_eq h⟩
  have hbefore : Quiet a (a.announcedAll R loopCnt) := a.quiet_announcedAll loopCnt
  obtain ⟨hreturns, hbench⟩ := bench_conducted _ rfl hids (hbefore.idle ha)
    (hcount.trans_le (R.testCount_le B)) fuel
  rw [hbefore.bench_eq] at hbench
  unfold ranAll
  by_cases h0 : R.testCount B = 0
  · rw [decide_eq_true (hzero.mpr h0), Bool.true_or] at hreturns
    rw [if_pos (hzero.mpr h0)] at hbench
    rw [a.bench.perform_runAll_of_eq_zero fuel h0]
    exact ⟨hreturns, hbench⟩
  · rw [decide_eq_false fun h => h0 (hzero.mp h), Bool.false_or] at hreturns
    rw [if_neg fun h => h0 (hzero.mp h)] at hbench
    rw [a.bench.perform_runAll fuel h0]
    exact ⟨hreturns, hbench⟩

theorem bench_ranOne (ha : Idle a) (testIndex : BitVec 32) (fuel : ℕ) :
    (a.ranOne R testIndex fuel).1 = (a.bench.perform R fuel (.run testIndex)).1 ∧
      (a.ranOne R testIndex fuel).2.bench =
        (a.bench.perform R fuel (.run testIndex)).2 := by
  cases hget : (R.allTests B).ids[testIndex.toNat]? with
  | none =>
      have hquiet : Quiet a ((a.asked R).print [.outOfRange testIndex.toInt]) :=
        a.quiet_asked.trans (quiet_printLine _ rfl)
      rw [a.bench.perform_run_of_none fuel hget]
      simp only [ranOne, hget]
      exact ⟨trivial, hquiet.bench_eq⟩
  | some testId =>
      have hids : ∀ id ∈ (singleOptions testId).ids, id ∈ hashes (R.suite B) :=
        fun _ hid => mem_hashes_of_mem_ids_singleOptions hget hid
      have hbefore : Quiet a (a.announcedOne R testId) := a.quiet_announcedOne hget
      obtain ⟨hreturns, hbench⟩ := bench_conducted _ rfl hids (hbefore.idle ha)
        (show (1 : BitVec 32).toNat ≤ dimTestList by decide) fuel
      have hone : ¬ (singleOptions testId).testIdCount = 0 := by
        show ¬ (1 : BitVec 32) = 0
        decide
      rw [decide_eq_false hone, Bool.false_or] at hreturns
      rw [if_neg hone, hbefore.bench_eq, ids_singleOptions] at hbench
      rw [a.bench.perform_run fuel hget]
      simp only [ranOne, hget]
      have hloop : (0 : BitVec 32).toNat + 1 < 2 ^ 32 := by decide
      exact ⟨hreturns.trans (decide_eq_decide.mpr ⟨And.right, fun h => ⟨hloop, h⟩⟩), hbench⟩

/-- **Commands, on the bench.** -/
theorem bench_perform (ha : Idle a) (fuel : ℕ) (cmd : Command) :
    (perform R fuel cmd a).1 = (a.bench.perform R fuel cmd).1 ∧
      (perform R fuel cmd a).2.bench = (a.bench.perform R fuel cmd).2 := by
  cases cmd with
  | missing => exact ⟨rfl, rfl⟩
  | invalid arg => exact ⟨rfl, (a.quiet_printLine rfl).bench_eq⟩
  | list => exact ⟨rfl, a.quiet_showList.bench_eq⟩
  | runAll loopCnt => exact a.bench_ranAll ha loopCnt fuel
  | run testIndex => exact a.bench_ranOne ha testIndex fuel
  | runUsage => exact ⟨rfl, rfl⟩

theorem bench_command (ha : Idle a) (fuel : ℕ) (argv : List CString) :
    (a.command R fuel argv).1 = (a.bench.perform R fuel (parse argv)).1 ∧
      (a.command R fuel argv).2.bench = (a.bench.perform R fuel (parse argv)).2 := by
  have hbanner : Quiet a (a.print [.banner]) := a.quiet_printLine rfl
  have hperform := bench_perform (R := R) (a.print [.banner]) (hbanner.idle ha) fuel
    (parse argv)
  rwa [hbanner.bench_eq] at hperform

end Session

/-! ## Commands from reachable states -/

section

variable {R : Registry A D} {s : State B A D} {a : Session B A D}

/-- The calls of a state are those of its bench. -/
theorem Embeds.calls_eq (h : Embeds R s a) : callsOf s.trace = a.bench.calls :=
  congrArg callsOf h.trace_eq

/-- The board of a state is that of its bench. -/
theorem Embeds.dev_eq_bench (h : Embeds R s a) : s.dev = a.bench.dev :=
  h.dev_eq

/-- The status of an entry is the one its bench has. -/
theorem Embeds.status_eq_bench (h : Embeds R s a) {i : ℕ} {e : TestParamEntry B A D}
    (he : s.entries[i]? = some e) : e.status = a.bench.status i :=
  (h.status_eq he).2

end

/-- What a command does to a session that is idle, with the state it stands for. -/
theorem Embeds.bench_command {R : Registry A D} {s : State B A D} {a : Session B A D}
    (h : Embeds R s a) (hidle : Idle a) (fuel : ℕ) (argv : List CString) :
    ∃ s', Embeds R s' (a.command R fuel argv).2 ∧
      (a.command R fuel argv).2.bench = (a.bench.perform R fuel (parse argv)).2 ∧
      (doBoarddiag fuel argv).run s =
        if (a.bench.perform R fuel (parse argv)).1 then .ok ((parse argv).ret R B) s'
        else .error .outOfFuel s' := by
  obtain ⟨s', hemb', hrun⟩ := h.run_doBoarddiag fuel argv
  obtain ⟨hreturns, hbench⟩ := a.bench_command hidle fuel argv
  rw [hreturns] at hrun
  exact ⟨s', hemb', hbench, hrun⟩

/-- **What a command does, from a reachable state.**  The state and the one it
leaves stand for sessions, and between their benches the command does what
`Bench.perform` says. -/
theorem Reachable.exists_bench {R : Registry A D} {dev : D} {s : State B A D}
    (h : Reachable R dev s) :
    ∃ a, Embeds R s a ∧ Idle a ∧ Exact a ∧
      ∀ (fuel : ℕ) (argv : List CString), ∃ s', Embeds R s' (a.command R fuel argv).2 ∧
        (a.command R fuel argv).2.bench = (a.bench.perform R fuel (parse argv)).2 ∧
        (doBoarddiag fuel argv).run s =
          if (a.bench.perform R fuel (parse argv)).1 then .ok ((parse argv).ret R B) s'
          else .error .outOfFuel s' := by
  obtain ⟨a, hemb, hmoves⟩ := h.exists_session
  have hstart : Idle (Session.start dev : Session B A D) := rfl
  have hidle : Idle a := hstart.moves hmoves
  exact ⟨a, hemb, hidle, (exact_start dev).moves hmoves, hemb.bench_command hidle⟩

end BoardDiag
