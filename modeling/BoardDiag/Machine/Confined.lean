import BoardDiag.Machine.Recorded
import Mathlib.Order.Defs.Unbundled

/-!
# Where a program can get to

A program is confined to a preorder if it leaves a state that is related to the one it has
begun in, however it ends: whether it returns, leaves an array, or runs out of fuel.

To keep an invariant is to be confined to the preorder "if the one state has it, so has the
other", and to leave something alone is to be confined to the preorder "it is the same in both".
There is a rule for each way programs are put together.

What is seen of a program through a view is confined where the program that is seen is
(`Through.confined`).
-/

namespace BoardDiag
namespace Machine

variable {σ τ α β ι : Type}

/-- The state a program leaves, however it ends. -/
def left (x : Prog σ α) (s : σ) : σ :=
  match x.run s with
  | .ok _ t => t
  | .error _ t => t

theorem left_of_ok {x : Prog σ α} {s t : σ} {a : α} (h : x.run s = .ok a t) :
    left x s = t := by
  rw [left, h]

theorem left_of_error {x : Prog σ α} {s t : σ} {e : Stop} (h : x.run s = .error e t) :
    left x s = t := by
  rw [left, h]

theorem left_bind_of_ok {x : Prog σ α} {s t : σ} {a : α} (h : x.run s = .ok a t)
    (f : α → Prog σ β) : left (x >>= f) s = left (f a) t := by
  rw [left, left, EStateM.run_bind, h]

theorem left_bind_of_error {x : Prog σ α} {s t : σ} {e : Stop} (h : x.run s = .error e t)
    (f : α → Prog σ β) : left (x >>= f) s = t :=
  left_of_error (by rw [EStateM.run_bind, h])

/-- What leaves every state as it is may be forgotten. -/
theorem left_bind {x : Prog σ α} {f : α → Prog σ β} (hf : ∀ a s, left (f a) s = s) (s : σ) :
    left (x >>= f) s = left x s := by
  cases hx : x.run s with
  | ok a t => rw [left_bind_of_ok hx, left_of_ok hx, hf]
  | error e t => rw [left_bind_of_error hx, left_of_error hx]

/-- However it ends, the program leaves a state that is related to the one it began in. -/
def Confined (r : σ → σ → Prop) (x : Prog σ α) : Prop := ∀ s, r s (left x s)

namespace Confined

variable {r : σ → σ → Prop} [IsPreorder σ r] {x y : Prog σ α} {f : α → Prog σ β}

protected theorem pure (a : α) : Confined r (pure a : Prog σ α) := fun s => refl_of r s

protected theorem throw (e : Stop) : Confined r (throw e : Prog σ α) := fun s => refl_of r s

protected theorem get : Confined r (get : Prog σ σ) := fun s => refl_of r s

protected theorem bind (hx : Confined r x) (hf : ∀ a, Confined r (f a)) :
    Confined r (x >>= f) := by
  intro s
  have hs := hx s
  cases hrun : x.run s with
  | ok a t =>
      rw [left_of_ok hrun] at hs
      rw [left_bind_of_ok hrun]
      exact trans_of r hs (hf a t)
  | error e t =>
      rw [left_of_error hrun] at hs
      rwa [left_bind_of_error hrun]

omit [IsPreorder σ r] in
protected theorem modify {g : σ → σ} (h : ∀ s, r s (g s)) :
    Confined r (modify g : Prog σ Unit) := h

omit [IsPreorder σ r] in
theorem ite {c : Prop} [Decidable c] (hx : c → Confined r x) (hy : ¬ c → Confined r y) :
    Confined r (if c then x else y) := by
  by_cases hc : c
  · rw [if_pos hc]
    exact hx hc
  · rw [if_neg hc]
    exact hy hc

/-- A check that is left without doing anything. -/
theorem bind_check {c : α → Prop} [DecidablePred c] {b : β} {z : Prog σ β}
    (hx : Confined r x) (hz : Confined r z) :
    Confined r (x >>= fun a => if c a then pure b else z) :=
  .bind hx fun _ => .ite (fun _ => .pure b) fun _ => hz

/-- A loop that may be left early. -/
theorem searchFrom {body : ℕ → Prog σ (Option α)} (i n : ℕ)
    (h : ∀ j, i ≤ j → j < i + n → Confined r (body j)) :
    Confined r (searchFrom body i n) := by
  induction n generalizing i with
  | zero => exact .pure none
  | succ n ih =>
      refine .bind (h i (Nat.le_refl i) (by omega)) fun a => ?_
      cases a with
      | none => exact ih (i + 1) fun j hj hjn => h j (by omega) (by omega)
      | some a => exact .pure (some a)

/-- A counted loop. -/
theorem forFrom {body : ℕ → β → Prog σ β} (h : ∀ j b, Confined r (body j b)) (i n : ℕ) (b : β) :
    Confined r (forFrom body i n b) := by
  induction n generalizing i b with
  | zero => exact .pure b
  | succ n ih => exact .bind (h i b) fun b' => ih (i + 1) b'

/-- A loop with fuel. -/
theorem whileFuel {cond : ι → Bool} {next : ι → ι} {body : ι → Prog σ (Option α)}
    (h : ∀ i, Confined r (body i)) (fuel : ℕ) (i : ι) :
    Confined r (whileFuel cond next body fuel i) := by
  induction fuel generalizing i with
  | zero => exact .throw .outOfFuel
  | succ fuel ih =>
      refine .ite (fun _ => .bind (h i) fun a => ?_) fun _ => .pure none
      cases a with
      | none => exact ih (next i)
      | some a => exact .pure (some a)

end Confined

/-! ## Views -/

section Through

variable {view : σ → τ} {x : Prog σ α} {y : Prog τ α}

/-- What is left, however the program ends. -/
theorem Through.left_eq (h : Through view x y) (s : σ) : left y (view s) = view (left x s) := by
  rw [left, h s]
  cases hx : x.run s with
  | ok a t => rw [left_of_ok hx]; rfl
  | error e t => rw [left_of_error hx]; rfl

theorem Through.confined {r : τ → τ → Prop} (h : Through view x y) (hy : Confined r y) :
    Confined (fun s t => r (view s) (view t)) x := by
  intro s
  show r (view s) (view (left x s))
  rw [← h.left_eq s]
  exact hy (view s)

end Through

end Machine
end BoardDiag
