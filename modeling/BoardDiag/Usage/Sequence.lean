import BoardDiag.Usage.Dispatch

/-!
# Running everything is running each

`runAll` builds an options record of all ids and works through it once;
`run k` builds one of a single id.  `runAll_eq_runs` shows that on a list of 1 to
200 tests the first is nothing but the second for `0`, `1`, and so on, in that
order: the same calls, hence the same board in the end, and the same counts.
Ids that occur twice and tests without a function make no difference.

Only the new failures tell the two apart.  Every `run` clears them for all tests,
so after the sequence they are those of its last command.

The argument is a simulation between benches that agree up to the new failures:
clearing them does not lead out of the relation, and running a test keeps it.
-/

namespace BoardDiag

open Machine

variable {B : Build} {A D : Type}

namespace Bench

variable {R : Registry A D}

/-- The benches differ in the new failures only. -/
def Agree (b c : Bench B A D) : Prop := b.clearFailures = c.clearFailures

theorem agree_clearFailures (b : Bench B A D) : Agree b.clearFailures b := rfl

theorem Agree.trans {b c d : Bench B A D} (h : Agree b c) (h' : Agree c d) : Agree b d :=
  Eq.trans h h'

theorem Agree.symm {b c : Bench B A D} (h : Agree b c) : Agree c b := Eq.symm h

theorem Agree.calls_eq {b c : Bench B A D} (h : Agree b c) : b.calls = c.calls := by
  injection h

theorem Agree.dev_eq {b c : Bench B A D} (h : Agree b c) : b.dev = c.dev := by
  injection h

/-- The statuses agree but for the new failures. -/
theorem Agree.status_eq {b c : Bench B A D} (h : Agree b c) (i : ℕ) :
    { b.status i with newFailCount := 0 } = { c.status i with newFailCount := 0 } := by
  injection h with hstatus
  exact congrFun hstatus i

/-- Forgetting the new failures before or after a call is the same. -/
theorem clearFailures_call (b : Bench B A D) (i : ℕ) (r : Registration A D)
    (f : TestFunction A D) :
    (b.clearFailures.call i r f).clearFailures = (b.call i r f).clearFailures := by
  simp only [clearFailures, call, Bench.mk.injEq, and_true]
  funext j
  by_cases hji : j = i
  · subst hji
    simp [Status.afterCall]
  · simp [Function.update_of_ne hji]

theorem clearFailures_runTest (b : Bench B A D) (testId : BitVec 32) :
    (b.clearFailures.runTest R testId).clearFailures =
      (b.runTest R testId).clearFailures := by
  unfold runTest
  cases lookup (R.suite B) testId with
  | none => rfl
  | some p =>
      obtain ⟨i, r⟩ := p
      cases hf : r.testFunction with
      | none => simp only [hf]; rfl
      | some f => simp only [hf]; exact clearFailures_call b i r f

/-- Running a test keeps benches in agreement. -/
theorem Agree.runTest {b c : Bench B A D} (h : Agree b c) (testId : BitVec 32) :
    Agree (b.runTest R testId) (c.runTest R testId) := by
  have hclear : b.clearFailures = c.clearFailures := h
  rw [Agree, ← clearFailures_runTest b, hclear, clearFailures_runTest]

/-- Running tests one by one, clearing the new failures each time. -/
def runEach (R : Registry A D) (testIds : List (BitVec 32)) (b : Bench B A D) :
    Bench B A D :=
  testIds.foldl (fun b testId => b.clearFailures.runTest R testId) b

/-- The last of the tests is run on what the others leave. -/
theorem runEach_eq_runTest (R : Registry A D) {testIds : List (BitVec 32)} (h : testIds ≠ [])
    (b : Bench B A D) :
    b.runEach R testIds =
      (b.runEach R testIds.dropLast).clearFailures.runTest R (testIds.getLast h) := by
  conv_lhs => rw [← List.dropLast_append_getLast h]
  rw [runEach, List.foldl_append]
  rfl

theorem Agree.runEach {b c : Bench B A D} (h : Agree b c) (testIds : List (BitVec 32)) :
    Agree (b.runTests R testIds) (c.runEach R testIds) := by
  induction testIds generalizing b c with
  | nil => exact h
  | cons testId testIds ih =>
      refine ih (Agree.runTest ?_ testId)
      exact h.trans (agree_clearFailures c).symm

end Bench

/-! ## Sequences of single runs -/

/-- The board may change between commands. -/
theorem Embeds.setDev {R : Registry A D} {s : State B A D} {a : Session B A D}
    (h : Embeds R s a) (d : D) : Embeds R { s with dev := d } { a with dev := d } := by
  cases h with
  | ready => exact .ready { a with dev := d }
  | unready _ hcleared => exact .unready { a with dev := d } hcleared

/-- A sequence of `run`s, on sessions. -/
theorem Embeds.run_script {R : Registry A D} (hdim : (R.suite B).length ≤ dimTestList)
    {fuel : ℕ} (hfuel : 1 < fuel) {argvs : List (List CString)} {testIds : List (BitVec 32)}
    (hruns : List.Forall₂
      (fun argv testId => ∃ k, IsRun argv k ∧ (hashes (R.suite B))[k]? = some testId)
      argvs testIds) {s : State B A D} {a : Session B A D} (hemb : Embeds R s a)
    (hidle : Idle a) :
    ∃ s' a', (script fuel argvs).run s = .ok () s' ∧ Embeds R s' a' ∧ Idle a' ∧
      a'.bench = a.bench.runEach R testIds := by
  induction hruns generalizing s a with
  | nil => exact ⟨s, a, rfl, hemb, hidle, rfl⟩
  | @cons argv testId argvs testIds hrun _ ih =>
      obtain ⟨k, hargv, hid⟩ := hrun
      obtain ⟨s₁, hemb₁, hbench, hrun₁⟩ := hemb.bench_command hidle fuel argv
      rw [a.bench.perform_isRun hdim hargv hid hfuel] at hbench hrun₁
      rw [if_pos rfl] at hrun₁
      obtain ⟨s₂, a₂, hscript, hemb₂, hidle₂, hbench₂⟩ :=
        ih hemb₁ (hidle.moves (a.moves_command fuel argv))
      refine ⟨s₂, a₂, ?_, hemb₂, hidle₂, hbench₂.trans (congrArg _ hbench)⟩
      rw [script, EStateM.run_bind, hrun₁]
      exact hscript

/-- `run 0`, `run 1`, and so on, name the ids in order. -/
theorem forall₂_isRun {R : Registry A D} {argvs : List (List CString)} {n : ℕ}
    (hlen : argvs.length = n) (hn : n ≤ (R.suite B).length)
    (hruns : ∀ k argv, argvs[k]? = some argv → IsRun argv k) :
    List.Forall₂
      (fun argv testId => ∃ k, IsRun argv k ∧ (hashes (R.suite B))[k]? = some testId)
      argvs ((hashes (R.suite B)).take n) := by
  refine List.forall₂_iff_get.mpr ⟨?_, fun k h₁ h₂ => ⟨k, ?_, ?_⟩⟩
  · rw [List.length_take, length_hashes, hlen, Nat.min_eq_left hn]
  · exact hruns k _ (List.getElem?_eq_getElem h₁)
  · rw [List.length_take] at h₂
    rw [List.get_eq_getElem, List.getElem_take, List.getElem?_eq_getElem (by omega)]

/-- `runAll`, on the bench. -/
theorem Bench.perform_isRunAll {R : Registry A D} (hpos : 1 ≤ (R.suite B).length)
    (hdim : (R.suite B).length ≤ dimTestList) {argv : List CString} (hargv : IsRunAll argv)
    {fuel : ℕ} (hfuel : 1 < fuel) (b : Bench B A D) :
    b.perform R fuel (parse argv) =
      (true, b.clearFailures.runTests R (hashes (R.suite B))) := by
  have hcount : R.testCount B ≠ 0 := by
    rw [Registry.testCount_eq hdim]
    omega
  have hloop : (0 : BitVec 32).toNat + 1 < 2 ^ 32 ∧ (0 : BitVec 32).toNat + 1 < fuel :=
    ⟨by decide, hfuel⟩
  rw [hargv.parse_eq, b.perform_runAll fuel hcount, decide_eq_true hloop, rounds_zero hfuel,
    Registry.ids_allTests_eq hdim, runBatch, List.replicate_one, List.flatten_singleton]

/-- Without the last command the numbers stay as they are. -/
theorem isRun_dropLast {argvs : List (List CString)}
    (hruns : ∀ k argv, argvs[k]? = some argv → IsRun argv k) (k : ℕ) (argv : List CString)
    (hk : argvs.dropLast[k]? = some argv) : IsRun argv k := by
  rw [List.getElem?_dropLast] at hk
  split at hk
  · exact hruns k argv hk
  · exact absurd hk (by simp)

/-- **`runAll` is `run 0`, ..., `run N - 1`.**  On a list of `N` tests, for `N` from 1
to 200, from any reachable state of the framework and on any board `d`, both make
the same calls with the same results, leave the same board, and end with statuses
that differ in the new failures only; after the single commands these are the
failures of the last one. -/
theorem runAll_eq_runs {R : Registry A D} {dev : D} {s : State B A D}
    (h : Reachable R dev s) (d : D) (hpos : 1 ≤ (R.suite B).length)
    (hdim : (R.suite B).length ≤ 200) {argvAll : List CString} (hall : IsRunAll argvAll)
    {argvs : List (List CString)} (hlen : argvs.length = (R.suite B).length)
    (hruns : ∀ k argv, argvs[k]? = some argv → IsRun argv k) {fuel : ℕ} (hfuel : 1 < fuel) :
    ∃ s₁ s₂ s₃ cs, (doBoarddiag fuel argvAll).run { s with dev := d } = .ok .success s₁ ∧
      (script fuel argvs).run { s with dev := d } = .ok () s₂ ∧
      callsOf s₁.trace = callsOf s₂.trace ∧ s₁.dev = s₂.dev ∧
      (∀ (i : ℕ) (e₁ e₂ : TestParamEntry B A D),
        s₁.entries[i]? = some e₁ → s₂.entries[i]? = some e₂ →
        { e₁.status with newFailCount := 0 } = { e₂.status with newFailCount := 0 }) ∧
      (script fuel argvs.dropLast).run { s with dev := d } = .ok () s₃ ∧
      callsOf s₂.trace = callsOf s₃.trace ++ cs ∧
      ∀ (i : ℕ) (e₂ : TestParamEntry B A D), s₂.entries[i]? = some e₂ →
        e₂.status.newFailCount = BitVec.ofNat B.ulong (failures (resultsIn i cs)) := by
  obtain ⟨b, hemb, hidle, -⟩ := h.exists_bench
  obtain ⟨a, hemb, hidle⟩ : ∃ a, Embeds R { s with dev := d } a ∧ Idle a :=
    ⟨{ b with dev := d }, hemb.setDev d, hidle⟩
  obtain ⟨s₁, hemb₁, hbench₁, hrun₁⟩ := hemb.bench_command hidle fuel argvAll
  rw [a.bench.perform_isRunAll hpos hdim hall hfuel] at hbench₁ hrun₁
  rw [hall.parse_eq] at hrun₁
  -- the whole sequence, and the sequence without its last command
  obtain ⟨s₂, a₂, hrun₂, hemb₂, -, hbench₂⟩ :=
    hemb.run_script hdim hfuel (forall₂_isRun hlen (Nat.le_refl _) hruns) hidle
  obtain ⟨s₃, a₃, hrun₃, hemb₃, -, hbench₃⟩ := hemb.run_script hdim hfuel
    (forall₂_isRun (List.length_dropLast) (by omega) (isRun_dropLast hruns)) hidle
  have hne : hashes (R.suite B) ≠ [] := by
    rw [← List.length_pos_iff, length_hashes]
    exact hpos
  have hstep : a₂.bench =
      a₃.bench.clearFailures.runTest R ((hashes (R.suite B)).getLast hne) := by
    rw [← length_hashes, List.take_length] at hbench₂
    rw [hlen, ← length_hashes, ← List.dropLast_eq_take] at hbench₃
    rw [hbench₂, hbench₃, Bench.runEach_eq_runTest R hne]
  have hagree : Bench.Agree (a.command R fuel argvAll).2.bench a₂.bench := by
    rw [hbench₁, hbench₂, ← length_hashes, List.take_length]
    exact (Bench.agree_clearFailures a.bench).runEach _
  obtain ⟨cs, hcs, hnew⟩ := a₃.bench.clearFailures.exists_calls_runTest R
    ((hashes (R.suite B)).getLast hne)
  rw [← hstep] at hcs hnew
  refine ⟨s₁, s₂, s₃, cs, hrun₁, hrun₂, ?_, ?_, ?_, hrun₃, ?_, ?_⟩
  · rw [hemb₁.calls_eq, hemb₂.calls_eq, hagree.calls_eq]
  · rw [hemb₁.dev_eq_bench, hemb₂.dev_eq_bench, hagree.dev_eq]
  · intro i e₁ e₂ he₁ he₂
    rw [hemb₁.status_eq_bench he₁, hemb₂.status_eq_bench he₂]
    exact hagree.status_eq i
  · rw [hemb₂.calls_eq, hemb₃.calls_eq]
    exact hcs
  · intro i e₂ he₂
    rw [hemb₂.status_eq_bench he₂]
    exact (hnew i).trans (BitVec.zero_add _)

/-- `boarddiag run` with a number. -/
def runNumber (testNum : List Char) : List CString :=
  [.ofChars ['b', 'd'], wordRun, .ofChars testNum]

theorem smallState_runAll_eq_runs :
    ∃ s₁ s₂, (doBoarddiag 2 [.ofChars ['b', 'd'], wordRunAll]).run
        { smallState with dev := () } = .ok .success s₁ ∧
      (script 2 [runNumber ['0'], runNumber ['1'], runNumber ['2']]).run
        { smallState with dev := () } = .ok () s₂ ∧ callsOf s₁.trace = callsOf s₂.trace := by
  have hruns : ∀ k argv, [runNumber ['0'], runNumber ['1'], runNumber ['2']][k]? = some argv →
      IsRun argv k := by
    intro k argv hk
    match k with
    | 0 =>
        injection hk with hk
        exact ⟨_, _, _, hk.symm, by decide, by decide, by decide⟩
    | 1 =>
        injection hk with hk
        exact ⟨_, _, _, hk.symm, by decide, by decide, by decide⟩
    | 2 =>
        injection hk with hk
        exact ⟨_, _, _, hk.symm, by decide, by decide, by decide⟩
    | k + 3 => exact absurd hk (by simp)
  obtain ⟨s₁, s₂, -, -, hrun₁, hrun₂, hcalls, -⟩ := runAll_eq_runs reachable_smallState ()
    (by decide) (by decide) ⟨.ofChars ['b', 'd'], wordRunAll, rfl, by decide⟩ rfl hruns
    Nat.one_lt_two
  exact ⟨s₁, s₂, hrun₁, hrun₂, hcalls⟩

end BoardDiag
