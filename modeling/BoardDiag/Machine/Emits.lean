import BoardDiag.Machine.Program

/-!
# What a program emits

Some programs are judged by a record they leave behind: a log they append to, or a
list of requests.  An `Observation` says what it means that a run from one state to
another has emitted a list of entries; emitting nothing and emitting one list after
another have to be observed as such.

`Emits O stop P x Q` says of a program `x`, begun in a state with `P`, that it returns,
and what it returns, what it has emitted and the state it leaves have `Q`; or that it
leaves an array, and `stop` is why.  What was emitted on the way is observed in either
case.

There is a rule for each way programs are put together.  In `Emits.bind` the entries
of the two parts are appended; most parts emit nothing, and `Emits.bind_silent` is the
rule for those.
-/

namespace BoardDiag
namespace Machine

variable {σ ε α β : Type}

/-- **What a run is seen to emit.**  Runs begin in states with `inv`, and end in such
states. -/
structure Observation (σ ε : Type) where
  inv : σ → Prop
  sees : σ → List ε → σ → Prop
  refl : ∀ s, sees s [] s
  trans : ∀ {s t u : σ} {l m : List ε}, sees s l t → sees t m u → sees s (l ++ m) u
  keeps : ∀ {s t : σ} {l : List ε}, inv s → sees s l t → inv t

/-- Begun in a state with `P`, the program returns with `Q`, or it leaves an array and
there is a reason to. -/
def Emits (O : Observation σ ε) (stop : Prop) (P : σ → Prop) (x : Prog σ α)
    (Q : α → List ε → σ → Prop) : Prop :=
  ∀ s, O.inv s → P s →
    (∃ a s' l, x.run s = .ok a s' ∧ O.sees s l s' ∧ Q a l s') ∨
    (stop ∧ ∃ s' l, x.run s = .error .outOfBounds s' ∧ O.sees s l s')

namespace Emits

variable {O : Observation σ ε} {stop : Prop} {P P' : σ → Prop} {Q Q' : α → List ε → σ → Prop}
  {R : β → List ε → σ → Prop} {x y : Prog σ α} {f : α → Prog σ β}

protected theorem pure {a : α} (h : ∀ s, P s → Q a [] s) :
    Emits O stop P (pure a : Prog σ α) Q :=
  fun s _ hs => .inl ⟨a, s, [], rfl, O.refl s, h s hs⟩

protected theorem bind (hx : Emits O stop P x Q)
    (hf : ∀ a l, Emits O stop (Q a l) (f a) fun b m s => R b (l ++ m) s) :
    Emits O stop P (x >>= f) R := by
  intro s hinv hs
  rcases hx s hinv hs with ⟨a, t, l, hrun, hsees, hQ⟩ | ⟨hstop, t, l, hrun, hsees⟩
  · rcases hf a l t (O.keeps hinv hsees) hQ with
      ⟨b, u, m, hrun', hsees', hR⟩ | ⟨hstop, u, m, hrun', hsees'⟩
    · refine .inl ⟨b, u, l ++ m, ?_, O.trans hsees hsees', hR⟩
      rw [EStateM.run_bind, hrun]
      exact hrun'
    · refine .inr ⟨hstop, u, l ++ m, ?_, O.trans hsees hsees'⟩
      rw [EStateM.run_bind, hrun]
      exact hrun'
  · refine .inr ⟨hstop, t, l, ?_, hsees⟩
    rw [EStateM.run_bind, hrun]

theorem conseq (hx : Emits O stop P x Q) (hP : ∀ s, P' s → P s)
    (hQ : ∀ a l s, Q a l s → Q' a l s) : Emits O stop P' x Q' := by
  intro s hinv hs
  rcases hx s hinv (hP s hs) with ⟨a, t, l, hrun, hsees, h⟩ | hstops
  · exact .inl ⟨a, t, l, hrun, hsees, hQ a l t h⟩
  · exact .inr hstops

/-- A part that emits nothing. -/
theorem bind_silent {I : α → σ → Prop} (hx : Emits O stop P x fun a l s => l = [] ∧ I a s)
    (hf : ∀ a, Emits O stop (I a) (f a) R) : Emits O stop P (x >>= f) R := by
  refine .bind hx fun a l s hinv hs => ?_
  obtain ⟨rfl, hs⟩ := hs
  exact hf a s hinv hs

/-- A program that only makes something of what another returns. -/
theorem bind_pure {g : α → β} (hx : Emits O stop P x Q) (h : ∀ a l s, Q a l s → R (g a) l s) :
    Emits O stop P (x >>= fun a => pure (g a)) R := by
  refine .bind hx fun a l => .pure fun s hs => ?_
  rw [List.append_nil]
  exact h a l s hs

protected theorem get {Q : σ → List ε → σ → Prop} (h : ∀ s, P s → Q s [] s) :
    Emits O stop P (get : Prog σ σ) Q :=
  fun s _ hs => .inl ⟨s, s, [], rfl, O.refl s, h s hs⟩

protected theorem modify {g : σ → σ} {Q : Unit → List ε → σ → Prop}
    (h : ∀ s, O.inv s → P s → ∃ l, O.sees s l (g s) ∧ Q () l (g s)) :
    Emits O stop P (modify g : Prog σ Unit) Q := by
  intro s hinv hs
  obtain ⟨l, hsees, hQ⟩ := h s hinv hs
  exact .inl ⟨(), g s, l, rfl, hsees, hQ⟩

theorem outOfBounds (hstop : stop) : Emits O stop P (throw .outOfBounds : Prog σ α) Q :=
  fun s _ _ => .inr ⟨hstop, s, [], rfl, O.refl s⟩

theorem ite {c : Prop} [Decidable c] (hx : c → Emits O stop P x Q)
    (hy : ¬ c → Emits O stop P y Q) : Emits O stop P (if c then x else y) Q := by
  by_cases hc : c
  · rw [if_pos hc]
    exact hx hc
  · rw [if_neg hc]
    exact hy hc

/-- A fact in the precondition may be used outside. -/
theorem of_fact {p : Prop} (h : p → Emits O stop P x Q) :
    Emits O stop (fun s => p ∧ P s) x Q :=
  fun s hinv hs => h hs.1 s hinv hs.2

/-- **A loop that may be left early** and emits nothing until it is. -/
theorem searchFrom {Q : α → List ε → σ → Prop} {body : ℕ → Prog σ (Option α)}
    (h : ∀ j, Emits O stop P (body j) fun r l s => r.elim (l = [] ∧ P s) fun a => Q a l s)
    (i n : ℕ) :
    Emits O stop P (searchFrom body i n) fun r l s =>
      r.elim (l = [] ∧ P s) fun a => Q a l s := by
  induction n generalizing i with
  | zero => exact .pure fun s hs => ⟨rfl, hs⟩
  | succ n ih =>
      refine .bind (h i) fun r l s hinv hs => ?_
      cases r with
      | none =>
          obtain ⟨rfl, hs⟩ := hs
          exact ih (i + 1) s hinv hs
      | some a =>
          refine Emits.pure (fun s hs => ?_) s hinv hs
          rw [List.append_nil]
          exact hs

/-- What comes after such a loop, whether or not it was left early. -/
theorem bind_search {Q : α → List ε → σ → Prop} {I : σ → Prop} {x : Prog σ (Option α)}
    {f : Option α → Prog σ β}
    (hx : Emits O stop P x fun r l s => r.elim (l = [] ∧ I s) fun a => Q a l s)
    (hnone : Emits O stop I (f none) R)
    (hsome : ∀ a l, Emits O stop (Q a l) (f (some a)) fun b m s => R b (l ++ m) s) :
    Emits O stop P (x >>= f) R := by
  refine .bind hx fun r l s hinv hs => ?_
  cases r with
  | none =>
      obtain ⟨rfl, hs⟩ := hs
      exact hnone s hinv hs
  | some a => exact hsome a l s hinv hs

/-- A counted loop that emits nothing. -/
theorem forFrom_silent {body : ℕ → β → Prog σ β}
    (h : ∀ j b, Emits O stop P (body j b) fun _ l s => l = [] ∧ P s) (i n : ℕ) (b : β) :
    Emits O stop P (forFrom body i n b) fun _ l s => l = [] ∧ P s := by
  induction n generalizing i b with
  | zero => exact .pure fun s hs => ⟨rfl, hs⟩
  | succ n ih => exact .bind_silent (h i b) fun b' => ih (i + 1) b'

end Emits

end Machine
end BoardDiag
