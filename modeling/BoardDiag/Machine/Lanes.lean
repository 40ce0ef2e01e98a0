import Mathlib.Tactic.Linarith
import Mathlib.Tactic.Ring

/-!
# Counting bits in lanes

A word can be counted like a column of figures: cut into lanes, with neighbouring lanes
added in pairs, all pairs at once.  `laneSum_foldLanes` is one such step.  It does not change
what the lanes add up to, and it halves their number, so that what is left at the end is the
number of bits.
-/

namespace BoardDiag
namespace Machine

/-- What the first `n` lanes of `k` bits add up to. -/
def laneSum (k : ℕ) : ℕ → ℕ → ℕ
  | 0, _ => 0
  | n + 1, w => w % 2 ^ k + laneSum k n (w / 2 ^ k)

/-- Ones in every other lane of `k` bits. -/
def laneMask (k : ℕ) : ℕ → ℕ
  | 0 => 0
  | n + 1 => 2 ^ (2 * k) * laneMask k n + (2 ^ k - 1)

/-- Add the lanes of `k` bits in pairs. -/
def foldLanes (k n w : ℕ) : ℕ := (w &&& laneMask k n) + (w / 2 ^ k &&& laneMask k n)

theorem and_laneMask_succ (k n w : ℕ) :
    w &&& laneMask k (n + 1) = 2 ^ (2 * k) * (w / 2 ^ (2 * k) &&& laneMask k n) + w % 2 ^ k := by
  have hlow : 2 ^ k - 1 < 2 ^ (2 * k) :=
    lt_of_lt_of_le (Nat.sub_lt (Nat.two_pow_pos k) Nat.one_pos)
      (Nat.pow_le_pow_right (by decide) (by omega))
  have hmod : w % 2 ^ k < 2 ^ (2 * k) :=
    lt_of_lt_of_le (Nat.mod_lt w (Nat.two_pow_pos k)) (Nat.pow_le_pow_right (by decide) (by omega))
  apply Nat.eq_of_testBit_eq
  intro j
  rw [Nat.testBit_and, laneMask, Nat.testBit_two_pow_mul_add _ hlow,
    Nat.testBit_two_pow_mul_add _ hmod]
  split
  · rw [Nat.testBit_two_pow_sub_one, Nat.testBit_mod_two_pow, Bool.and_comm]
  · rw [Nat.testBit_and, Nat.testBit_div_two_pow, Nat.sub_add_cancel (by omega)]

theorem foldLanes_succ (k n w : ℕ) :
    foldLanes k (n + 1) w =
      2 ^ (2 * k) * foldLanes k n (w / 2 ^ (2 * k)) + (w % 2 ^ k + w / 2 ^ k % 2 ^ k) := by
  rw [foldLanes, and_laneMask_succ, and_laneMask_succ, Nat.div_right_comm w, foldLanes]
  ring

/-- **Adding lanes in pairs** does not change what they add up to. -/
theorem laneSum_foldLanes {k : ℕ} (hk : 0 < k) (n w : ℕ) :
    laneSum (2 * k) n (foldLanes k n w) = laneSum k (2 * n) w := by
  induction n generalizing w with
  | zero => rfl
  | succ n ih =>
      have hpos := Nat.two_pow_pos k
      have hsquare : 2 ^ (2 * k) = 2 ^ k * 2 ^ k := by rw [two_mul, pow_add]
      have htwo : 2 ≤ 2 ^ k := Nat.le_self_pow (by omega) 2
      -- two lanes have room in one of twice the width
      have hroom : w % 2 ^ k + w / 2 ^ k % 2 ^ k < 2 ^ (2 * k) := by
        have hlow := Nat.mod_lt w hpos
        have hhigh := Nat.mod_lt (w / 2 ^ k) hpos
        rw [hsquare]
        nlinarith
      have hdiv : w / 2 ^ (2 * k) = w / 2 ^ k / 2 ^ k := by rw [hsquare, Nat.div_div_eq_div_mul]
      rw [foldLanes_succ, laneSum, Nat.mul_add_mod, Nat.mod_eq_of_lt hroom,
        Nat.mul_add_div (Nat.two_pow_pos _), Nat.div_eq_of_lt hroom, Nat.add_zero, ih, Nat.mul_succ,
        laneSum, laneSum, hdiv, Nat.add_assoc]

/-- A number of `n` bits none of which is set is zero. -/
theorem eq_zero_of_laneSum {n w : ℕ} (hw : w < 2 ^ n) (hsum : laneSum 1 n w = 0) : w = 0 := by
  induction n generalizing w with
  | zero => exact Nat.lt_one_iff.mp hw
  | succ n ih =>
      rw [laneSum, pow_one] at hsum
      have hrest := ih (w := w / 2) (by rw [pow_succ] at hw; omega) (by omega)
      omega

/-- **A number of `n` bits one of which is set is a power of two.** -/
theorem exists_eq_two_pow_of_laneSum {n w : ℕ} (hw : w < 2 ^ n) (hsum : laneSum 1 n w = 1) :
    ∃ m, w = 2 ^ m := by
  induction n generalizing w with
  | zero => exact absurd hsum (by rw [laneSum]; decide)
  | succ n ih =>
      rw [laneSum, pow_one] at hsum
      have hhalf : w / 2 < 2 ^ n := by
        rw [pow_succ] at hw
        omega
      rcases Nat.mod_two_eq_zero_or_one w with heven | hodd
      · obtain ⟨m, hm⟩ := ih hhalf (by omega)
        exact ⟨m + 1, by rw [pow_succ]; omega⟩
      · have hzero := eq_zero_of_laneSum hhalf (by omega)
        exact ⟨0, by rw [pow_zero]; omega⟩

end Machine
end BoardDiag
