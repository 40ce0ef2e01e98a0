import Mathlib.Logic.Function.Basic
import Mathlib.Data.List.Basic

/-!
# Registers and the writes to them

A bank of registers is a function from names to values, and a write changes it at
one name.  After a list of writes a register holds the last value that was written
to it, or what it held before if there is none (`applyWrites_apply`).

`lastWrite` is also the way to speak of what a register *should* hold, when the
writes are known from somewhere else: from a record, or from a program that says
what it has written.  `lastWrite_map` compares two such accounts that name the
registers differently.
-/

namespace BoardDiag
namespace Machine

variable {ρ κ ν μ : Type} [DecidableEq ρ] [DecidableEq κ]

/-- The registers after some writes, the first in the list being the first to be made. -/
def applyWrites : List (ρ × ν) → (ρ → ν) → ρ → ν
  | [], regs => regs
  | w :: ws, regs => applyWrites ws (Function.update regs w.1 w.2)

/-- The last value written to a register, if one is. -/
def lastWrite (r : ρ) : List (ρ × ν) → Option ν
  | [] => none
  | w :: ws => (lastWrite r ws).or (if w.1 = r then some w.2 else none)

theorem applyWrites_append (ws vs : List (ρ × ν)) (regs : ρ → ν) :
    applyWrites (ws ++ vs) regs = applyWrites vs (applyWrites ws regs) := by
  induction ws generalizing regs with
  | nil => rfl
  | cons w ws ih => exact ih _

theorem lastWrite_append (r : ρ) (ws vs : List (ρ × ν)) :
    lastWrite r (ws ++ vs) = (lastWrite r vs).or (lastWrite r ws) := by
  induction ws with
  | nil => exact (Option.or_none).symm
  | cons w ws ih => rw [List.cons_append, lastWrite, lastWrite, ih, Option.or_assoc]

/-- **A register holds the last value written to it**, or what it held before. -/
theorem applyWrites_apply (ws : List (ρ × ν)) (regs : ρ → ν) (r : ρ) :
    applyWrites ws regs r = (lastWrite r ws).getD (regs r) := by
  induction ws generalizing regs with
  | nil => rfl
  | cons w ws ih =>
      rw [applyWrites, ih, lastWrite]
      cases lastWrite r ws with
      | some v => rfl
      | none =>
          by_cases hr : w.1 = r
          · rw [if_pos hr, ← hr, Function.update_self]
            rfl
          · rw [if_neg hr, Function.update_of_ne (Ne.symm hr)]
            rfl

/-- A last value is one of those that were written. -/
theorem mem_of_lastWrite {r : ρ} {v : ν} {ws : List (ρ × ν)} (h : lastWrite r ws = some v) :
    (r, v) ∈ ws := by
  induction ws with
  | nil => exact nomatch h
  | cons w ws ih =>
      rw [lastWrite] at h
      cases hrest : lastWrite r ws with
      | some v' =>
          rw [hrest] at h
          exact .tail _ (ih (hrest.trans h))
      | none =>
          rw [hrest, Option.none_or] at h
          by_cases hr : w.1 = r
          · rw [if_pos hr] at h
            rw [← hr, ← Option.some.inj h]
            exact .head _
          · rw [if_neg hr] at h
            exact nomatch h

/-- **Two accounts of the same writes**: if the registers are named one-to-one, the last
values correspond. -/
theorem lastWrite_map {name : κ → ρ} (hname : Function.Injective name) (value : ν → μ) (k : κ)
    (ws : List (κ × ν)) :
    lastWrite (name k) (ws.map fun w => (name w.1, value w.2)) = (lastWrite k ws).map value := by
  induction ws with
  | nil => rfl
  | cons w ws ih =>
      rw [List.map_cons, lastWrite, lastWrite, ih]
      by_cases hk : w.1 = k
      · rw [if_pos hk, if_pos (congrArg name hk)]
        cases lastWrite k ws <;> rfl
      · rw [if_neg hk, if_neg fun h => hk (hname h)]
        cases lastWrite k ws <;> rfl

end Machine
end BoardDiag
