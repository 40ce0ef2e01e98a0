import Mathlib.Data.List.Basic
import Mathlib.Logic.Function.Basic

/-!
# Hashes that work in rounds

A hash that works in rounds takes a string in letter by letter: each round turns the
state it is in and the next letter into the next state, so the hash of `l` is
`l.foldl round start`.

A round is *lossless* if the state before it can be told from the letter and the state
after it, and the letter from the two states.  A lossless round can still send many
pairs of a state and a letter to the same state, so there are collisions as soon as
there are enough strings.  Two sorts of them are excluded:

* strings that end alike collide only if they did before that end
  (`Lossless.foldl_append_eq_iff`);
* strings that differ at one position do not collide (`Lossless.foldl_ne`).
-/

namespace BoardDiag
namespace Machine

open Function

variable {σ α : Type}

/-! ## Strings that differ at one position -/

/-- Two strings of one length that differ at exactly one position. -/
structure DifferOnce (l m : List α) : Prop where
  length_eq : l.length = m.length
  position : ∃! i : ℕ, l[i]? ≠ m[i]?

/-- **Where they differ**: they begin alike, differ in one letter and end alike. -/
theorem DifferOnce.exists_eq_append {l m : List α} (h : DifferOnce l m) :
    ∃ u x y v, x ≠ y ∧ l = u ++ x :: v ∧ m = u ++ y :: v := by
  obtain ⟨hlen, i, hi, hother⟩ := h
  induction l generalizing m i with
  | nil =>
      obtain rfl := List.eq_nil_of_length_eq_zero hlen.symm
      exact absurd rfl hi
  | cons x l ih =>
      obtain ⟨y, m, rfl⟩ := List.exists_cons_of_length_eq_add_one hlen.symm
      have htail : l.length = m.length := Nat.succ.inj hlen
      by_cases hxy : x = y
      · subst hxy
        -- the position is in the tails
        obtain ⟨j, rfl⟩ : ∃ j, i = j + 1 := by
          cases i with
          | zero => exact absurd rfl hi
          | succ j => exact ⟨j, rfl⟩
        have hother' : ∀ k, l[k]? ≠ m[k]? → k = j := fun k hk => Nat.succ.inj (hother (k + 1) hk)
        obtain ⟨u, a, b, v, hab, hl, hm⟩ := ih htail j hi hother'
        exact ⟨x :: u, a, b, v, hab, congrArg (x :: ·) hl, congrArg (x :: ·) hm⟩
      · -- the position is here, so the tails are equal
        have hzero : 0 = i := hother 0 fun h => hxy (Option.some.inj h)
        have hsame : l = m := by
          refine List.ext_getElem? fun k => ?_
          by_contra hk
          have hsucc : k + 1 = i := hother (k + 1) hk
          omega
        exact ⟨[], x, y, l, hxy, rfl, by rw [hsame]; rfl⟩

/-- Such strings differ once. -/
theorem differOnce_append_cons {x y : α} (h : x ≠ y) (u v : List α) :
    DifferOnce (u ++ x :: v) (u ++ y :: v) := by
  have hlen : (u ++ x :: v).length = (u ++ y :: v).length := by
    rw [List.length_append, List.length_append, List.length_cons, List.length_cons]
  have hhere : (u ++ x :: v)[u.length]? ≠ (u ++ y :: v)[u.length]? := by
    rw [List.getElem?_append_right (Nat.le_refl _), List.getElem?_append_right (Nat.le_refl _),
      Nat.sub_self]
    exact fun hsome => h (Option.some.inj hsome)
  refine ⟨hlen, u.length, hhere, fun i hi => ?_⟩
  by_contra hne
  refine hi ?_
  rcases Nat.lt_or_gt_of_ne hne with hlt | hgt
  · rw [List.getElem?_append_left hlt, List.getElem?_append_left hlt]
  · obtain ⟨k, hk⟩ : ∃ k, i - u.length = k + 1 := ⟨i - u.length - 1, by omega⟩
    rw [List.getElem?_append_right (Nat.le_of_lt hgt),
      List.getElem?_append_right (Nat.le_of_lt hgt), hk]
    rfl

theorem DifferOnce.append_left {l m : List α} (h : DifferOnce l m) (u : List α) :
    DifferOnce (u ++ l) (u ++ m) := by
  obtain ⟨u', x, y, v, hxy, rfl, rfl⟩ := h.exists_eq_append
  rw [← List.append_assoc, ← List.append_assoc]
  exact differOnce_append_cons hxy (u ++ u') v

/-! ## Lossless rounds -/

/-- **A round that loses nothing**: of the state before it, given the letter, and of the
letter, given the state before it. -/
structure Lossless (round : σ → α → σ) : Prop where
  state : ∀ a, Injective fun s => round s a
  letter : ∀ s, Injective (round s)

namespace Lossless

variable {round : σ → α → σ}

/-- What has been taken in before a string is not lost in it. -/
theorem foldl_injective (h : Lossless round) (l : List α) :
    Injective fun s => l.foldl round s := by
  induction l with
  | nil => exact injective_id
  | cons a l ih => exact ih.comp (h.state a)

/-- **A common end makes no difference.** -/
theorem foldl_append_eq_iff (h : Lossless round) (s : σ) (a b l : List α) :
    (a ++ l).foldl round s = (b ++ l).foldl round s ↔
      a.foldl round s = b.foldl round s := by
  rw [List.foldl_append, List.foldl_append]
  exact (h.foldl_injective l).eq_iff

/-- **A single letter makes a difference.** -/
theorem foldl_ne (h : Lossless round) (s : σ) {a b : List α} (hab : DifferOnce a b) :
    a.foldl round s ≠ b.foldl round s := by
  obtain ⟨u, x, y, v, hxy, rfl, rfl⟩ := hab.exists_eq_append
  rw [List.foldl_append, List.foldl_append, List.foldl_cons, List.foldl_cons]
  exact (h.foldl_injective v).ne ((h.letter _).ne hxy)

end Lossless

end Machine
end BoardDiag
