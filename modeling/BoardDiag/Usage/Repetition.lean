import BoardDiag.History.Bench
import BoardDiag.Usage.CommandLine
import BoardDiag.Usage.Listed
import Mathlib.Data.List.Nodup

/-!
# How often tests are run

`boarddiag runAll loop n` is documented as running every test `n` times.  The
outer loop of `ExecuteAllTestListed` counts from `0` to `loopCnt` *inclusively*,
and that one comparison has two consequences:

* every test is run `n + 1` times, whatever `n` is (`runAll_loop_calls`);
* for `loopCnt = 2 ^ 32 - 1` the comparison is true of every value of the 32-bit
  counter, so the loop never ends on its own (`terminates_iff`).  Nothing else in
  the program can fail to end.

The second is exactly as wide as it looks.  With `exitOnErr` set the loop may
still be left, by the first test that does not pass, so there it depends on what
the tests return when they are run over and over; `do_boarddiag` never sets
it.
-/

namespace BoardDiag

open Machine

variable {B : Build} {A D : Type}

/-! ## Rounds -/

/-- With distinct ids and no missing function, a round calls every test, in
order. -/
theorem filterMap_callee_hashes {suite : List (Registration A D)}
    (hnodup : (hashes suite).Nodup) (hf : ∀ r ∈ suite, r.testFunction.isSome) :
    (hashes suite).filterMap (callee suite) = List.range suite.length := by
  have hmap : (hashes suite).map (callee suite) = (List.range suite.length).map some := by
    refine List.ext_getElem (by simp) fun i h₁ h₂ => ?_
    have hi : i < suite.length := by simpa using h₁
    simpa [hashes] using callee_hash hnodup hi (hf _ (List.getElem_mem hi))
  have hid := congrArg (List.filterMap id) hmap
  rwa [List.filterMap_map, List.filterMap_map, Function.id_comp, Function.id_comp,
    List.filterMap_some] at hid

/-- ... and any number of rounds calls each of them that often. -/
theorem count_rounds {suite : List (Registration A D)} (hnodup : (hashes suite).Nodup)
    (hf : ∀ r ∈ suite, r.testFunction.isSome) (k : ℕ) {i : ℕ} (hi : i < suite.length) :
    ((List.replicate k (hashes suite)).flatten.filterMap (callee suite)).count i = k := by
  induction k with
  | zero => rfl
  | succ k ih =>
      have hone : (List.range suite.length).count i = 1 :=
        List.count_eq_one_of_mem List.nodup_range (List.mem_range.mpr hi)
      rw [List.replicate_succ, List.flatten_cons, List.filterMap_append, List.count_append,
        filterMap_callee_hashes hnodup hf, ih, hone, Nat.add_comm]

/-! ## The number of rounds -/

/-- A command returns and calls every registered test `m` times. -/
def CallsEach (s : State B A D) (argv : List CString) (m : ℕ) : Prop :=
  ∃ fuel r s', (doBoarddiag fuel argv).run s = .ok r s' ∧
    ∀ i < s.entries.length,
      (resultsOf i s'.trace).length = (resultsOf i s.trace).length + m

/-- The calls a `runAll` makes, if it returns. -/
theorem Reachable.runAll_calls {R : Registry A D} {dev : D} {s : State B A D}
    (h : Reachable R dev s) (hpos : 1 ≤ (R.suite B).length)
    (hdim : (R.suite B).length ≤ dimTestList) (hnodup : (hashes (R.suite B)).Nodup)
    (hf : ∀ r ∈ R.suite B, r.testFunction.isSome) {argv : List CString} {loopCnt : BitVec 32}
    (hparse : parse argv = .runAll loopCnt) (hloop : loopCnt.toNat + 1 < 2 ^ 32) (fuel : ℕ) :
    if loopCnt.toNat + 1 < fuel then
      ∃ s', (doBoarddiag fuel argv).run s = .ok .success s' ∧
        ∀ i < (R.suite B).length, (resultsOf i s'.trace).length =
          (resultsOf i s.trace).length + (loopCnt.toNat + 1)
    else ∃ s', (doBoarddiag fuel argv).run s = .error .outOfFuel s' := by
  obtain ⟨a, hemb, -, -, hcommand⟩ := h.exists_bench
  obtain ⟨s', hemb', hbench, hrun⟩ := hcommand fuel argv
  have hcount : R.testCount B ≠ 0 := by
    rw [Registry.testCount_eq hdim]
    omega
  rw [hparse, a.bench.perform_runAll fuel hcount, Registry.ids_allTests_eq hdim] at hbench hrun
  split
  · next hfuel =>
      rw [decide_eq_true ⟨hloop, hfuel⟩] at hrun
      refine ⟨s', hrun, fun i hi => ?_⟩
      have hrounds : Session.rounds loopCnt fuel = loopCnt.toNat + 1 := by
        rw [Session.rounds, if_pos hloop, Nat.min_eq_right (Nat.le_of_lt hfuel)]
      have hindex := congrArg (fun b => b.calls.map Call.index) hbench
      simp only [Bench.runBatch, Bench.calls_runTests, hrounds] at hindex
      rw [resultsOf, resultsOf, hemb.trace_eq, hemb'.trace_eq, length_resultsIn,
        length_resultsIn]
      refine (congrArg (List.count i) hindex).trans ?_
      rw [List.count_append, count_rounds hnodup hf _ hi]
      rfl
  · next hfuel =>
      rw [decide_eq_false fun h => hfuel h.2] at hrun
      exact ⟨s', hrun⟩

/-- **`runAll loop n` runs every test `n + 1` times**, on any list of 1 to 200
tests with distinct ids and no missing function, from any reachable state and
whatever the tests return --- never `n` times. -/
theorem runAll_loop_calls {R : Registry A D} {dev : D} {s : State B A D}
    (h : Reachable R dev s) (hpos : 1 ≤ (R.suite B).length)
    (hdim : (R.suite B).length ≤ 200) (hnodup : (hashes (R.suite B)).Nodup)
    (hf : ∀ r ∈ R.suite B, r.testFunction.isSome) {argv : List CString} {n : ℕ}
    (hargv : IsRunAllLoop argv n) (hn : n < 2 ^ 32 - 1) :
    (CallsEach s argv n ↔ False) ∧ ∀ m, CallsEach s argv m ↔ m = n + 1 := by
  have hvalue : (BitVec.ofNat 32 n).toNat = n := by
    rw [BitVec.toNat_ofNat]
    exact Nat.mod_eq_of_lt (by omega)
  have hcalls := fun fuel => h.runAll_calls hpos hdim hnodup hf hargv.parse_eq
    (by rw [hvalue]; omega) fuel
  rw [hvalue] at hcalls
  have hlen : s.entries.length = (R.suite B).length := by
    obtain ⟨a, hemb, -⟩ := h.exists_session
    exact hemb.length_entries
  have hexact : ∀ m, CallsEach s argv m ↔ m = n + 1 := by
    intro m
    constructor
    · rintro ⟨fuel, r, s', hrun, hm⟩
      have hfuel := hcalls fuel
      split at hfuel
      · obtain ⟨s₁, hok, hcount⟩ := hfuel
        rw [hrun] at hok
        injection hok with _ hs
        subst hs
        have hfirst := hcount 0 hpos
        rw [hm 0 (by omega)] at hfirst
        omega
      · obtain ⟨s₁, herr⟩ := hfuel
        rw [hrun] at herr
        exact absurd herr (by simp)
    · rintro rfl
      have hfuel := hcalls (n + 2)
      rw [if_pos (by omega)] at hfuel
      obtain ⟨s', hrun, hcount⟩ := hfuel
      exact ⟨n + 2, _, s', hrun, fun i hi => hcount i (by omega)⟩
  refine ⟨?_, hexact⟩
  rw [hexact n]
  exact iff_of_false (by omega) id

/-- One registered test, which passes. -/
def oneTest : List (Registration Unit Unit) :=
  [⟨.ofChars ['E'], .ofChars ['e', 'e', 'p'], some fun _ _ _ _ => (.pass, [], ()), ()⟩]

def oneRegistry : Registry Unit Unit where
  tests _ := oneTest
  fits _ := by decide

/-- `boarddiag runAll loop` with a number. -/
def runAllLoop (times : List Char) : List CString :=
  [.ofChars ['b', 'd'], wordRunAll, wordLoop, .ofChars times]

theorem isRunAllLoop_one : IsRunAllLoop (runAllLoop ['1']) 1 :=
  ⟨_, _, _, _, rfl, by decide, by decide, by decide, by decide⟩

/-- `runAll loop 1` calls the one test twice. -/
theorem runAll_loop_one_calls_twice :
    IsRunAllLoop (runAllLoop ['1']) 1 ∧
      (State.boot oneRegistry () : State smallBuild Unit Unit).observe 3 (runAllLoop ['1']) =
        some (.success, [0, 0]) :=
  ⟨isRunAllLoop_one, by decide +kernel⟩

theorem runAll_loop_one_calls :
    ¬ CallsEach (State.boot oneRegistry () : State smallBuild Unit Unit)
        (runAllLoop ['1']) 1 ∧
      CallsEach (State.boot oneRegistry () : State smallBuild Unit Unit)
        (runAllLoop ['1']) 2 := by
  have hboot : Reachable oneRegistry () (State.boot oneRegistry () : State smallBuild Unit Unit) :=
    .refl
  have hcalls := runAll_loop_calls hboot (by decide) (by decide) (by decide) (by decide)
    isRunAllLoop_one (by decide)
  exact ⟨hcalls.1.mp, (hcalls.2 2).mpr rfl⟩

/-! ## Termination -/

/-- A command returns. -/
def Terminates (s : State B A D) (argv : List CString) : Prop :=
  ∃ fuel r s', (doBoarddiag fuel argv).run s = .ok r s'

/-- A `runAll` line that asks for `2 ^ 32 - 1` rounds, modulo `2 ^ 32`. -/
def AsksForever (argv : List CString) : Prop :=
  ∃ cmd sub word times, argv = [cmd, sub, word, times] ∧ subCmd wordRunAll 4 sub = true ∧
    times.numberRead % 2 ^ 32 = 2 ^ 32 - 1

theorem asksForever_iff (argv : List CString) :
    AsksForever argv ↔ ∃ loopCnt, parse argv = .runAll loopCnt ∧ loopCnt.toNat + 1 = 2 ^ 32 := by
  constructor
  · rintro ⟨cmd, sub, word, times, rfl, hsub, hmax⟩
    refine ⟨argValue times, parse_of_runAll hsub _, ?_⟩
    rw [argValue, BitVec.toNat_ofNat, hmax]
    rfl
  · rintro ⟨loopCnt, hparse, hmax⟩
    rcases parse_cases argv with ⟨-, hmissing⟩ | ⟨cmd, sub, args, hargv, hcases⟩
    · exact absurd (hmissing.symm.trans hparse) (by simp)
    · rcases hcases with ⟨-, hlist⟩ | ⟨hsub, hrunAll⟩ | ⟨-, hrun⟩ | ⟨-, -, -, hinvalid⟩
      · exact absurd (hlist.symm.trans hparse) (by simp)
      · rcases parseRunAll_cases args with ⟨word, times, rfl, htimes⟩ | ⟨-, hzero⟩
        · injection hparse.symm.trans (hrunAll.trans htimes) with hvalue
          refine ⟨cmd, sub, word, times, hargv, hsub, ?_⟩
          rw [hvalue, argValue, BitVec.toNat_ofNat] at hmax
          omega
        · injection hparse.symm.trans (hrunAll.trans hzero) with hvalue
          rw [hvalue] at hmax
          exact absurd hmax (by decide)
      · rcases parseRun_cases args with ⟨testNum, -, hnum⟩ | ⟨-, husage⟩
        · exact absurd (hparse.symm.trans (hrun.trans hnum)) (by simp)
        · exact absurd (hparse.symm.trans (hrun.trans husage)) (by simp)
      · exact absurd (hinvalid.symm.trans hparse) (by simp)

theorem Bench.perform_returns_iff {R : Registry A D} (b : Bench B A D) (cmd : Command) :
    (∃ fuel, (b.perform R fuel cmd).1 = true) ↔
      ¬ (R.testCount B ≠ 0 ∧ ∃ loopCnt, cmd = .runAll loopCnt ∧ loopCnt.toNat + 1 = 2 ^ 32) := by
  cases cmd with
  | missing => exact iff_of_true ⟨0, rfl⟩ (by simp)
  | invalid arg => exact iff_of_true ⟨0, rfl⟩ (by simp)
  | list => exact iff_of_true ⟨0, rfl⟩ (by simp)
  | runUsage => exact iff_of_true ⟨0, rfl⟩ (by simp)
  | run testIndex =>
      refine iff_of_true ⟨2, ?_⟩ (by simp)
      cases hget : (R.allTests B).ids[testIndex.toNat]? with
      | none => rw [b.perform_run_of_none 2 hget]
      | some testId => rw [b.perform_run 2 hget, decide_eq_true Nat.one_lt_two]
  | runAll loopCnt =>
      have hlt := loopCnt.isLt
      by_cases h0 : R.testCount B = 0
      · exact iff_of_true ⟨0, by rw [b.perform_runAll_of_eq_zero 0 h0]⟩ fun h => h.1 h0
      · simp only [b.perform_runAll _ h0, decide_eq_true_iff]
        by_cases hmax : loopCnt.toNat + 1 = 2 ^ 32
        · refine iff_of_false ?_ fun h => h ⟨h0, loopCnt, rfl, hmax⟩
          rintro ⟨fuel, hloop, -⟩
          omega
        · refine iff_of_true ⟨loopCnt.toNat + 2, by omega, by omega⟩ ?_
          rintro ⟨-, n, heq, hn⟩
          injection heq with heq
          exact hmax (heq ▸ hn)

/-- **When a command returns.**  Only the loop over the rounds can fail to end, and
only if it has something to run and its bound is the largest there is. -/
theorem Reachable.terminates_iff {R : Registry A D} {dev : D} {s : State B A D}
    (h : Reachable R dev s) (argv : List CString) :
    Terminates s argv ↔
      ¬ (1 ≤ (R.suite B).length ∧ (R.suite B).length ≤ dimTestList ∧ AsksForever argv) := by
  obtain ⟨a, -, -, -, hcommand⟩ := h.exists_bench
  have hreturns : Terminates s argv ↔
      ∃ fuel, (a.bench.perform R fuel (parse argv)).1 = true := by
    constructor
    · rintro ⟨fuel, r, s', hrun⟩
      obtain ⟨s₁, -, -, hrun'⟩ := hcommand fuel argv
      refine ⟨fuel, ?_⟩
      rw [hrun] at hrun'
      split at hrun'
      · assumption
      · exact absurd hrun' (by simp)
    · rintro ⟨fuel, hret⟩
      obtain ⟨s', -, -, hrun⟩ := hcommand fuel argv
      rw [if_pos hret] at hrun
      exact ⟨fuel, _, s', hrun⟩
  have hempty := R.testCount_eq_zero_iff B
  rw [hreturns, Bench.perform_returns_iff, asksForever_iff]
  refine not_congr (Iff.trans ?_ and_assoc)
  refine and_congr_left fun _ => ?_
  omega

/-! ## The loop itself -/

namespace Session

variable (R : Registry A D)

/-- The loops are left early exactly if `exitOnErr` is set and a test does not
pass. -/
theorem runUntil_stops_iff (exitOnErr : BitVec 32) (testIds : List (BitVec 32))
    (a : Session B A D) :
    (runUntil (stepListed R exitOnErr) testIds a).1 = true ↔
      exitOnErr ≠ 0 ∧ ∃ r ∈ (runTests R testIds a).1, r ≠ .pass := by
  induction testIds generalizing a with
  | nil => simp [runTests]
  | cons testId testIds ih =>
      cases hs : (stepListed R exitOnErr testId a).1 with
      | true =>
          obtain ⟨hfail, hexit⟩ := of_decide_eq_true hs
          rw [runUntil_cons_of_stop hs]
          exact iff_of_true rfl ⟨hexit, _, List.mem_cons_self, hfail⟩
      | false =>
          have hgo := of_decide_eq_false hs
          rw [runUntil_cons_of_go hs]
          refine (ih (a.runTest R testId).2).trans (and_congr_right fun hexit => ?_)
          have hpass : (a.runTest R testId).1 = .pass := by
            by_contra hfail
            exact hgo ⟨hfail, hexit⟩
          simp [runTests, hpass]

/-- The results of repeating the list of an options record `k` times, as
`ExecuteAllTestListed` does it. -/
def roundResults (a : Session B A D) (options : TestList) (k : ℕ) : List TestResultTypes :=
  (runTests R (List.replicate k options.ids).flatten (a.begun options.logLevel)).1

/-- **When `ExecuteAllTestListed` returns.** -/
theorem executeAll_terminates_iff (a : Session B A D) (options : TestList) :
    (∃ fuel s', (executeAllTestListed fuel options).run (a.state R) = .ok () s') ↔
      ¬ (options.testIdCount ≠ 0 ∧ options.testIdCount.toNat ≤ dimTestList ∧
        options.loopCnt.toNat + 1 = 2 ^ 32 ∧
        (options.exitOnErr = 0 ∨ ∀ k, ∀ r ∈ a.roundResults R options k, r = .pass)) := by
  have hreturns : (∃ fuel s', (executeAllTestListed fuel options).run (a.state R) = .ok () s') ↔
      ∃ fuel, (a.executed R options fuel).1 = true := by
    refine exists_congr fun fuel => ?_
    rw [run_executeAllTestListed_eq]
    split
    · exact iff_of_true ⟨_, rfl⟩ ‹_›
    · exact iff_of_false (by simp) ‹_›
  have hstops : ∀ k, (a.batch R options k).1 = true ↔
      options.exitOnErr ≠ 0 ∧ ∃ r ∈ a.roundResults R options k, r ≠ .pass :=
    fun k => runUntil_stops_iff R options.exitOnErr _ _
  have hlt := options.loopCnt.isLt
  rw [hreturns]
  constructor
  · rintro ⟨fuel, hret⟩ ⟨h0, hdim, hmax, hgo⟩
    rw [executed, if_neg h0, if_neg (Nat.not_lt.mpr hdim), Bool.or_eq_true,
      decide_eq_true_iff] at hret
    rcases hret with hstop | ⟨hloop, -⟩
    · obtain ⟨hexit, r, hr, hfail⟩ := (hstops _).mp hstop
      rcases hgo with hzero | hpass
      · exact hexit hzero
      · exact hfail (hpass _ r hr)
    · omega
  · intro hnot
    by_cases h0 : options.testIdCount = 0
    · exact ⟨0, by rw [executed, if_pos h0]⟩
    by_cases hdim : options.testIdCount.toNat ≤ dimTestList
    · by_cases hmax : options.loopCnt.toNat + 1 = 2 ^ 32
      · have hstop : options.exitOnErr ≠ 0 ∧ ∃ k, ∃ r ∈ a.roundResults R options k, r ≠ .pass := by
          by_contra hgo
          refine hnot ⟨h0, hdim, hmax, ?_⟩
          by_cases hexit : options.exitOnErr = 0
          · exact .inl hexit
          · refine .inr fun k r hr => ?_
            by_contra hfail
            exact hgo ⟨hexit, k, r, hr, hfail⟩
        obtain ⟨hexit, k, hk⟩ := hstop
        refine ⟨k, ?_⟩
        rw [executed, if_neg h0, if_neg (Nat.not_lt.mpr hdim), rounds, if_neg (by omega),
          (hstops k).mpr ⟨hexit, hk⟩, Bool.true_or]
      · refine ⟨options.loopCnt.toNat + 2, ?_⟩
        rw [executed, if_neg h0, if_neg (Nat.not_lt.mpr hdim),
          decide_eq_true ⟨by omega, by omega⟩, Bool.or_true]
    · exact ⟨0, by rw [executed, if_neg h0, if_pos (Nat.not_le.mp hdim)]⟩

end Session

/-- **Termination.**  `do_boarddiag` returns from a reachable state unless it is to
run a list of 1 to 200 tests for `2 ^ 32 - 1` rounds; and `ExecuteAllTestListed`
returns, on whatever list it is given, unless its guards let it through, the
bound is the largest there is, and it is never left early. -/
theorem boarddiag_terminates_iff {R : Registry A D} {dev : D} {s : State B A D}
    (h : Reachable R dev s) (argv : List CString) (a : Session B A D) (options : TestList) :
    (Terminates s argv ↔
      ¬ (1 ≤ (R.suite B).length ∧ (R.suite B).length ≤ 200 ∧ AsksForever argv)) ∧
    ((∃ fuel s', (executeAllTestListed fuel options).run (a.state R) = .ok () s') ↔
      ¬ (options.testIdCount ≠ 0 ∧ options.testIdCount.toNat ≤ 200 ∧
        options.loopCnt.toNat + 1 = 2 ^ 32 ∧
        (options.exitOnErr = 0 ∨ ∀ k, ∀ r ∈ a.roundResults R options k, r = .pass))) :=
  ⟨h.terminates_iff argv, a.executeAll_terminates_iff R options⟩

/-- `boarddiag runAll loop 4294967295`. -/
def runAllForever : List CString :=
  runAllLoop ['4', '2', '9', '4', '9', '6', '7', '2', '9', '5']

theorem asksForever_runAllForever : AsksForever runAllForever :=
  ⟨_, _, _, _, rfl, by decide, by decide⟩

/-- `runAll loop 4294967295` on one test that passes does not return. -/
theorem runAllForever_not_terminates :
    IsRunAllLoop runAllForever 4294967295 ∧
      ¬ Terminates (State.boot oneRegistry () : State smallBuild Unit Unit) runAllForever := by
  have hboot : Reachable oneRegistry ()
      (State.boot oneRegistry () : State smallBuild Unit Unit) := .refl
  refine ⟨⟨_, _, _, _, rfl, by decide, by decide, by decide, by decide⟩, ?_⟩
  rw [hboot.terminates_iff, not_not]
  exact ⟨by decide, by decide, asksForever_runAllForever⟩

theorem oneRegistry_terminates_iff :
    Terminates (State.boot oneRegistry () : State smallBuild Unit Unit) (runAllLoop ['1']) ∧
      ¬ Terminates (State.boot oneRegistry () : State smallBuild Unit Unit)
        runAllForever := by
  have hboot : Reachable oneRegistry ()
      (State.boot oneRegistry () : State smallBuild Unit Unit) := .refl
  have hiff := fun argv =>
    (boarddiag_terminates_iff hboot argv (Session.start ()) TestList.zeroed).1
  refine ⟨(hiff _).mpr ?_, fun hterm => (hiff _).mp hterm ?_⟩
  · rintro ⟨-, -, cmd, sub, word, times, hargv, -, hmax⟩
    injection hargv with _ hargv
    injection hargv with _ hargv
    injection hargv with _ hargv
    injection hargv with htimes _
    rw [← htimes] at hmax
    exact absurd hmax (by decide)
  · exact ⟨by decide, by decide, asksForever_runAllForever⟩

end BoardDiag
