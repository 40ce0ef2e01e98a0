import BoardDiag.Session.Moves
import Mathlib.Data.List.DropRight

/-!
# The status of an entry, read off its history

What the counters of an entry are *for* can be said without the framework: they
summarise the calls of the test function there have been.  `statusOf` is that
summary, as a function of the trace:

* `runCount` counts the calls, `totalFailCount` those that did not pass;
* `newFailCount` counts those that did not pass since the latest batch began;
* `resultFromSingleRun` is the result of the last call.

The counters have the width of `unsigned long`, so the counts are taken modulo
that.

`Exact` says that every status of a session is the one its trace calls for.  It
is kept by each of the three moves: a quiet move adds nothing the summary looks
at, the start of a batch empties the part `newFailCount` looks at, and a call
adds one call.  Every reachable session is therefore exact.
-/

namespace BoardDiag

open Machine Relation

variable {B : Build} {A D : Type}

/-! ## Calls in a trace -/

/-- The call an act is, if it is one. -/
def Act.call? : Act A → Option (Call A)
  | .call c => some c
  | _ => none

/-- Whether an act begins a batch. -/
def Act.isBatch : Act A → Bool
  | .batch => true
  | _ => false

/-- The calls of test functions, in order. -/
def callsOf (t : List (Act A)) : List (Call A) := t.filterMap Act.call?

/-- The results of the calls of the test registered at index `i`, in order. -/
def resultsIn (i : ℕ) (cs : List (Call A)) : List TestResultTypes :=
  (cs.filter fun c => decide (c.index = i)).map Call.result

/-- The same, for the calls in a trace. -/
def resultsOf (i : ℕ) (t : List (Act A)) : List TestResultTypes := resultsIn i (callsOf t)

/-- How many results are not a pass. -/
def failures (rs : List TestResultTypes) : ℕ := rs.countP fun r => decide (r ≠ .pass)

/-- What has happened since the latest batch began. -/
def lastBatch (t : List (Act A)) : List (Act A) := t.rtakeWhile fun x => !x.isBatch

/-- The status an entry ought to have after a trace. -/
def statusOf (w i : ℕ) (t : List (Act A)) : Status w where
  runCount := BitVec.ofNat w (resultsOf i t).length
  totalFailCount := BitVec.ofNat w (failures (resultsOf i t))
  newFailCount := BitVec.ofNat w (failures (resultsOf i (lastBatch t)))
  resultFromSingleRun := (resultsOf i t).getLast?.getD .notStarted
  resultFromLoopedRun := .notStarted
  bInProgress := 0

@[simp] theorem callsOf_append (s t : List (Act A)) :
    callsOf (s ++ t) = callsOf s ++ callsOf t := List.filterMap_append ..

@[simp] theorem resultsIn_append (i : ℕ) (cs ds : List (Call A)) :
    resultsIn i (cs ++ ds) = resultsIn i cs ++ resultsIn i ds := by
  simp [resultsIn]

@[simp] theorem resultsOf_append (i : ℕ) (s t : List (Act A)) :
    resultsOf i (s ++ t) = resultsOf i s ++ resultsOf i t := by
  simp [resultsOf]

/-- A test has been called as often as its index occurs among the calls. -/
theorem length_resultsIn (i : ℕ) (cs : List (Call A)) :
    (resultsIn i cs).length = (cs.map Call.index).count i := by
  induction cs with
  | nil => rfl
  | cons c cs ih =>
      by_cases h : c.index = i
      · simpa [resultsIn, h] using ih
      · simpa [resultsIn, h] using ih

@[simp] theorem failures_append (rs qs : List TestResultTypes) :
    failures (rs ++ qs) = failures rs + failures qs := List.countP_append ..

theorem failures_le_length (rs : List TestResultTypes) : failures rs ≤ rs.length :=
  List.countP_le_length ..

/-- Quiet acts are no calls. -/
theorem callsOf_of_harmless {xs : List (Act A)} (h : Harmless xs) : callsOf xs = [] := by
  rw [callsOf, List.filterMap_eq_nil_iff]
  intro x hx
  have hquiet := (h x hx).1
  cases x with
  | call c => exact absurd hquiet.symm Bool.true_eq_false.mp
  | _ => rfl

theorem resultsOf_of_harmless (i : ℕ) {xs : List (Act A)} (h : Harmless xs) :
    resultsOf i xs = [] := by
  rw [resultsOf, callsOf_of_harmless h]
  rfl

/-- Acts without a batch among them belong to the batch before them. -/
theorem lastBatch_append {xs : List (Act A)} (t : List (Act A))
    (h : ∀ x ∈ xs, x.isBatch = false) : lastBatch (t ++ xs) = lastBatch t ++ xs := by
  induction xs using List.reverseRecOn with
  | nil => simp
  | append_singleton xs x ih =>
      have hx : x.isBatch = false := h x (by simp)
      have hxs := ih fun y hy => h y (by simp [hy])
      rw [lastBatch] at hxs ⊢
      rw [← List.append_assoc, List.rtakeWhile_concat, if_pos (by simp [hx]), hxs,
        List.append_assoc]

/-- The latest batch is part of the trace. -/
theorem failures_lastBatch_le (i : ℕ) (t : List (Act A)) :
    failures (resultsOf i (lastBatch t)) ≤ failures (resultsOf i t) := by
  obtain ⟨before, ht⟩ : lastBatch t <:+ t := List.rtakeWhile_suffix _ t
  calc failures (resultsOf i (lastBatch t))
      ≤ failures (resultsOf i before) + failures (resultsOf i (lastBatch t)) :=
        Nat.le_add_left _ _
    _ = failures (resultsOf i (before ++ lastBatch t)) := by
        rw [resultsOf_append, failures_append]
    _ = failures (resultsOf i t) := by rw [ht]

/-! ## How the status changes -/

/-- Quiet acts do not show. -/
theorem statusOf_append_harmless (w i : ℕ) (t : List (Act A)) {xs : List (Act A)}
    (h : Harmless xs) : statusOf w i (t ++ xs) = statusOf w i t := by
  have hbatch : ∀ x ∈ xs, x.isBatch = false := by
    intro x hx
    have hquiet := (h x hx).1
    cases x with
    | batch => exact absurd hquiet.symm Bool.true_eq_false.mp
    | _ => rfl
  have hnone := resultsOf_of_harmless i h
  simp only [statusOf, resultsOf_append, lastBatch_append t hbatch, hnone, List.append_nil]

/-- The start of a batch clears the new failures. -/
theorem statusOf_append_batch (w i : ℕ) (t : List (Act A)) :
    statusOf w i (t ++ [.batch]) = { statusOf w i t with newFailCount := 0 } := by
  have hlast : lastBatch (t ++ [Act.batch]) = [] := by
    rw [lastBatch, List.rtakeWhile_concat, if_neg (by simp [Act.isBatch])]
  have hnone : resultsOf i [(Act.batch : Act A)] = [] := rfl
  simp only [statusOf, resultsOf_append, hlast, hnone, List.append_nil]
  rfl

/-- A call of another test does not show. -/
theorem statusOf_append_call_of_ne (w : ℕ) {i : ℕ} (t : List (Act A)) {c : Call A}
    (h : c.index ≠ i) : statusOf w i (t ++ [.call c]) = statusOf w i t := by
  have hnone : resultsOf i [Act.call c] = [] := by
    simp [resultsOf, resultsIn, callsOf, Act.call?, h]
  have hbatch : ∀ x ∈ [Act.call c], x.isBatch = false := by
    intro x hx
    rw [List.mem_singleton.mp hx]
    rfl
  simp only [statusOf, resultsOf_append, lastBatch_append t hbatch, hnone, List.append_nil]

/-- A call is booked. -/
theorem statusOf_append_call (w : ℕ) (t : List (Act A)) (c : Call A) :
    statusOf w c.index (t ++ [.call c]) = (statusOf w c.index t).afterCall c.result := by
  have hone : resultsOf c.index [Act.call c] = [c.result] := by
    simp [resultsOf, resultsIn, callsOf, Act.call?]
  have hbatch : ∀ x ∈ [Act.call c], x.isBatch = false := by
    intro x hx
    rw [List.mem_singleton.mp hx]
    rfl
  have hfail : failures [c.result] = if c.result = .pass then 0 else 1 := by
    by_cases hpass : c.result = .pass
    · simp [failures, hpass]
    · simp [failures, hpass]
  simp only [statusOf, Status.afterCall, resultsOf_append, lastBatch_append t hbatch, hone,
    failures_append, hfail, List.length_append, List.length_singleton, BitVec.ofNat_add,
    List.getLast?_append, List.getLast?_singleton, Option.some_or, Option.getD_some]
  by_cases hpass : c.result = .pass
  · simp only [if_pos hpass, BitVec.ofNat_eq_ofNat, BitVec.add_zero]
  · simp only [if_neg hpass]
    rfl

/-! ## Exact sessions -/

/-- Every status is the one the trace calls for. -/
def Exact (a : Session B A D) : Prop := ∀ i, a.status i = statusOf B.ulong i a.trace

theorem exact_start (dev : D) : Exact (Session.start dev : Session B A D) := fun _ => rfl

/-- **Moves keep sessions exact.** -/
theorem Exact.move {R : Registry A D} {a b : Session B A D} (ha : Exact a)
    (h : Move R a b) : Exact b := by
  intro i
  cases h with
  | quiet h =>
      obtain ⟨xs, htrace, hharm⟩ := h.trace_eq
      rw [h.status_eq, htrace, statusOf_append_harmless _ _ _ hharm, ha i]
  | batch =>
      show { a.status i with newFailCount := 0 } = statusOf B.ulong i (a.trace ++ [.batch])
      rw [statusOf_append_batch, ha i]
  | @call j r f hr hf =>
      by_cases hij : j = i
      · subst hij
        simp only [Session.booked, Function.update_self]
        rw [ha j]
        exact (statusOf_append_call _ _ ⟨j, _, _, _⟩).symm
      · simp only [Session.booked, Function.update_of_ne (Ne.symm hij)]
        rw [ha i]
        exact (statusOf_append_call_of_ne _ _ hij).symm

theorem Exact.moves {R : Registry A D} {a b : Session B A D} (ha : Exact a)
    (h : Moves R a b) : Exact b := by
  induction h with
  | refl => exact ha
  | tail _ hmove ih => exact ih.move hmove

end BoardDiag
