import BoardDiag.Machine.Program

/-!
# Devices that keep a record

A run of a program ends in a state, and a state does not say how it was reached.
To speak of the operations a program performs, in which order and with which
answers, the device it drives is replaced by one that enters each of them into a
record: `Recorded D L` is a device of type `D` with a record of entries of type
`L`, and `record` lifts an operation of the one to an operation of the other.

The program itself is not changed, and it must not matter to it that the record
is kept.  Programs often run on more than they are about: `Through view x y` says
that what `x` does can be told from the view of its state, and is what `y` does to
the view.  Then what is proved of `y` holds for `x`.  There is a rule for each way
programs are put together, so that a program over a recorded device is seen to do
what the same program does over the device step by step.
-/

namespace BoardDiag
namespace Machine

variable {σ τ α β D L : Type}

/-! ## Records -/

/-- A device with a record of what has been asked of it. -/
structure Recorded (D L : Type) where
  dev : D
  log : List L

/-- Perform an operation and enter it into the record, with what it answers. -/
def record (f : D → α × D) (entry : α → L) (d : Recorded D L) : α × Recorded D L :=
  ((f d.dev).1, ⟨(f d.dev).2, d.log ++ [entry (f d.dev).1]⟩)

/-- Perform an operation the record does not mention. -/
def unrecorded (f : D → α × D) (d : Recorded D L) : α × Recorded D L :=
  ((f d.dev).1, ⟨(f d.dev).2, d.log⟩)

/-- ... and one that answers nothing. -/
def quietly (f : D → D) (d : Recorded D L) : Recorded D L :=
  ⟨f d.dev, d.log⟩

/-! ## Programs seen through a view -/

/-- What a program has done, seen through a view. -/
def viewed (view : σ → τ) : EStateM.Result Stop σ α → EStateM.Result Stop τ α
  | .ok a s => .ok a (view s)
  | .error e s => .error e (view s)

/-- What the one program does to the view is what the other does. -/
def Through (view : σ → τ) (x : Prog σ α) (y : Prog τ α) : Prop :=
  ∀ s, y.run (view s) = viewed view (x.run s)

namespace Through

variable {view : σ → τ} {x : Prog σ α} {y : Prog τ α}

/-- What is returned, and what is left. -/
theorem exists_ok (h : Through view x y) {s : σ} {a : α} {t : τ}
    (hy : y.run (view s) = .ok a t) : ∃ s', x.run s = .ok a s' ∧ view s' = t := by
  rw [h s] at hy
  cases hx : x.run s with
  | ok b s' =>
      rw [hx] at hy
      injection hy with hb ht
      exact ⟨s', by rw [hb], ht⟩
  | error e s' =>
      rw [hx] at hy
      exact absurd hy (by simp [viewed])

protected theorem pure (a : α) : Through view (pure a) (pure a) := fun _ => rfl

protected theorem throw (e : Stop) :
    Through view (throw e : Prog σ α) (throw e) := fun _ => rfl

protected theorem bind {f : α → Prog σ β} {g : α → Prog τ β} (hx : Through view x y)
    (hf : ∀ a, Through view (f a) (g a)) : Through view (x >>= f) (y >>= g) := by
  intro s
  rw [EStateM.run_bind, EStateM.run_bind, hx s]
  cases x.run s with
  | ok a t => exact hf a t
  | error e t => rfl

/-- A program that begins with a look at its state. -/
theorem bind_get {f : σ → Prog σ α} {g : τ → Prog τ α}
    (hf : ∀ s, Through view (f s) (g (view s))) : Through view (get >>= f) (get >>= g) :=
  fun s => hf s s

protected theorem modify {f : σ → σ} {g : τ → τ} (h : ∀ s, view (f s) = g (view s)) :
    Through view (modify f) (modify g) :=
  fun s => congrArg (EStateM.Result.ok ()) (h s).symm

theorem ite {c : Prop} [Decidable c] {x' : Prog σ α} {y' : Prog τ α} (hx : Through view x y)
    (hx' : Through view x' y') :
    Through view (if c then x else x') (if c then y else y') := by
  split
  · exact hx
  · exact hx'

theorem searchFrom {body : ℕ → Prog σ (Option α)} {body' : ℕ → Prog τ (Option α)}
    (h : ∀ j, Through view (body j) (body' j)) (i n : ℕ) :
    Through view (searchFrom body i n) (searchFrom body' i n) := by
  induction n generalizing i with
  | zero => exact .pure none
  | succ n ih =>
      refine .bind (h i) fun a => ?_
      cases a with
      | none => exact ih (i + 1)
      | some a => exact .pure (some a)

end Through

end Machine
end BoardDiag
