import BoardDiag.Machine.CString
import Mathlib.Data.Nat.Digits.Lemmas

/-!
# Printed text

Text is a list of bytes, and what a reader sees of it are its lines.  Printing complete
lines after one another and reading the lines is the identity, as long as no line has a
line break inside (`lines_joined_append`).

Numbers are printed in base ten and in base sixteen, and both can be read back:
`readHex_hexDigits` and `ofDecimal_leadingDigits_decimal`.  Padding on the left keeps a number in
its column as long as it is short enough, and `splitNumber` takes it out of the column.
-/

namespace BoardDiag
namespace Machine

/-! ## Lines -/

/-- `'\n'`. -/
def lineFeed : Byte := ascii '\n'

/-- The bytes of a literal. -/
def chars (s : String) : List Byte := s.toByteArray.data.toList.map UInt8.toBitVec

/-- The lines of a text; the last one may be unfinished. -/
def lines : List Byte → List (List Byte)
  | [] => []
  | c :: cs =>
      if c = lineFeed then [] :: lines cs
      else
        match lines cs with
        | [] => [[c]]
        | l :: ls => (c :: l) :: ls

theorem lines_append_lineFeed {l : List Byte} (h : lineFeed ∉ l) (rest : List Byte) :
    lines (l ++ lineFeed :: rest) = l :: lines rest := by
  induction l with
  | nil => rw [List.nil_append, lines, if_pos rfl]
  | cons c l ih =>
      rw [List.mem_cons, not_or] at h
      rw [List.cons_append, lines, if_neg (Ne.symm h.1), ih h.2]

/-- Some complete lines, one after another. -/
def joined (ls : List (List Byte)) : List Byte := ls.flatMap fun l => l ++ [lineFeed]

theorem joined_cons (l : List Byte) (ls : List (List Byte)) :
    joined (l :: ls) = l ++ lineFeed :: joined ls := by
  rw [joined, List.flatMap_cons, List.append_assoc]
  rfl

/-- **Complete lines are read as they were printed**, whatever comes after them. -/
theorem lines_joined_append {ls : List (List Byte)} (h : ∀ l ∈ ls, lineFeed ∉ l)
    (rest : List Byte) : lines (joined ls ++ rest) = ls ++ lines rest := by
  induction ls with
  | nil => rfl
  | cons l ls ih =>
      rw [joined_cons, List.append_assoc, List.cons_append,
        lines_append_lineFeed (h l List.mem_cons_self),
        ih fun l' hl' => h l' (List.mem_cons_of_mem l hl'), List.cons_append]

/-- What a reader of single lines finds in a text. -/
def found {α : Type} (read : List Byte → Option α) (text : List Byte) : List α :=
  (lines text).filterMap read

section Found

variable {α : Type} (read : List Byte → Option α)

theorem found_append_lineFeed {l : List Byte} (h : lineFeed ∉ l) (rest : List Byte) :
    found read (l ++ lineFeed :: rest) = (read l).toList ++ found read rest := by
  rw [found, lines_append_lineFeed h, List.filterMap_cons]
  cases read l <;> rfl

theorem found_joined_append {ls : List (List Byte)} (h : ∀ l ∈ ls, lineFeed ∉ l)
    (rest : List Byte) :
    found read (joined ls ++ rest) = ls.filterMap read ++ found read rest := by
  rw [found, lines_joined_append h, List.filterMap_append, found]

end Found

/-! ## Base sixteen -/

/-- A digit, as `%X` prints it. -/
def hexDigit (d : ℕ) : Byte := BitVec.ofNat 8 (if d < 10 then 48 + d else 55 + d)

/-- The value of a digit. -/
def hexValue (c : Byte) : Option ℕ :=
  if 48 ≤ c.toNat ∧ c.toNat ≤ 57 then some (c.toNat - 48)
  else if 65 ≤ c.toNat ∧ c.toNat ≤ 70 then some (c.toNat - 55)
  else none

theorem hexValue_hexDigit {d : ℕ} (h : d < 16) : hexValue (hexDigit d) = some d := by
  interval_cases d <;> decide

/-- The last `n` digits of a number. -/
def hexDigits : ℕ → ℕ → List Byte
  | 0, _ => []
  | n + 1, x => hexDigit (x / 16 ^ n % 16) :: hexDigits n x

/-- The number some digits stand for. -/
def readHex : List Byte → Option ℕ
  | [] => some 0
  | c :: cs => do
      let d ← hexValue c
      let x ← readHex cs
      return d * 16 ^ cs.length + x

@[simp] theorem length_hexDigits (n x : ℕ) : (hexDigits n x).length = n := by
  induction n with
  | zero => rfl
  | succ n ih => rw [hexDigits, List.length_cons, ih]

/-- **Digits are read back.** -/
theorem readHex_hexDigits (n x : ℕ) : readHex (hexDigits n x) = some (x % 16 ^ n) := by
  induction n with
  | zero => rw [Nat.pow_zero, Nat.mod_one]; rfl
  | succ n ih =>
      rw [hexDigits, readHex, hexValue_hexDigit (Nat.mod_lt _ (by decide)), ih,
        length_hexDigits, Nat.mod_pow_succ, Nat.mul_comm, Nat.add_comm]
      rfl

/-- What is not a digit is not read. -/
theorem readHex_eq_none {cs : List Byte} {c : Byte} (hc : c ∈ cs) (h : hexValue c = none) :
    readHex cs = none := by
  induction cs with
  | nil => exact absurd hc List.not_mem_nil
  | cons c' cs ih =>
      rw [readHex]
      rcases List.mem_cons.mp hc with rfl | hc
      · rw [h]
        rfl
      · rw [ih hc]
        cases hexValue c' <;> rfl

theorem hexValue_isSome_of_mem {n x : ℕ} {c : Byte} (h : c ∈ hexDigits n x) :
    (hexValue c).isSome := by
  induction n with
  | zero => exact absurd h List.not_mem_nil
  | succ n ih =>
      rcases List.mem_cons.mp h with rfl | h
      · rw [hexValue_hexDigit (Nat.mod_lt _ (by decide))]
        rfl
      · exact ih h

/-! ## Base ten -/

/-- A digit, as `%d` prints it. -/
def decDigit (d : ℕ) : Byte := BitVec.ofNat 8 (48 + d)

theorem decimalDigit_decDigit {d : ℕ} (h : d < 10) : decimalDigit (decDigit d) = some d := by
  interval_cases d <;> decide

/-- A number, as `%u` prints it. -/
def decimal (n : ℕ) : List Byte :=
  if n = 0 then [decDigit 0] else (Nat.digits 10 n).reverse.map decDigit

/-- A number, as `%d` prints it. -/
def signedDecimal (z : ℤ) : List Byte :=
  if z < 0 then ascii '-' :: decimal z.natAbs else decimal z.natAbs

theorem leadingDigits_map {ds : List ℕ} (h : ∀ d ∈ ds, d < 10) :
    leadingDigits (ds.map decDigit) = ds := by
  induction ds with
  | nil => rfl
  | cons d ds ih =>
      rw [List.map_cons, leadingDigits, decimalDigit_decDigit (h d List.mem_cons_self)]
      simp only
      rw [ih fun d' hd' => h d' (List.mem_cons_of_mem d hd')]

/-- **A number is read back.** -/
theorem ofDecimal_leadingDigits_decimal (n : ℕ) : ofDecimal (leadingDigits (decimal n)) = n := by
  by_cases h : n = 0
  · rw [h]
    rfl
  · rw [decimal, if_neg h, leadingDigits_map fun d hd =>
      Nat.digits_lt_base (by decide) (List.mem_reverse.mp hd), ofDecimal, List.reverse_reverse,
      Nat.ofDigits_digits]

theorem decimalDigit_isSome_of_mem {n : ℕ} {c : Byte} (h : c ∈ decimal n) :
    (decimalDigit c).isSome := by
  by_cases hn : n = 0
  · rw [decimal, if_pos hn, List.mem_singleton] at h
    rw [h]
    rfl
  · rw [decimal, if_neg hn] at h
    obtain ⟨d, hd, rfl⟩ := List.mem_map.mp h
    rw [decimalDigit_decDigit (Nat.digits_lt_base (by decide) (List.mem_reverse.mp hd))]
    rfl

theorem decimal_ne_nil (n : ℕ) : decimal n ≠ [] := by
  by_cases hn : n = 0
  · rw [decimal, if_pos hn]
    exact List.cons_ne_nil _ _
  · rw [decimal, if_neg hn]
    simpa [Nat.digits_eq_nil_iff_eq_zero] using hn

theorem length_decimal_le {n k : ℕ} (hk : 0 < k) (hn : n < 10 ^ k) : (decimal n).length ≤ k := by
  by_cases h : n = 0
  · rw [decimal, if_pos h]
    exact hk
  · rw [decimal, if_neg h, List.length_map, List.length_reverse,
      Nat.digits_length_le_iff (by decide)]
    exact hn

theorem length_signedDecimal_le {z : ℤ} {k : ℕ} (hk : 0 < k) (hz : z.natAbs < 10 ^ k) :
    (signedDecimal z).length ≤ k + 1 := by
  have hlen := length_decimal_le hk hz
  rw [signedDecimal]
  split
  · rw [List.length_cons]
    omega
  · omega

/-! ## Columns -/

/-- Spaces on the left, up to a width. -/
def padLeft (width : ℕ) (bs : List Byte) : List Byte :=
  List.replicate (width - bs.length) (ascii ' ') ++ bs

theorem length_padLeft {width : ℕ} {bs : List Byte} (h : bs.length ≤ width) :
    (padLeft width bs).length = width := by
  rw [padLeft, List.length_append, List.length_replicate]
  omega

/-- The number a line begins with, after any spaces, and the rest of the line. -/
def splitNumber (row : List Byte) : Option (ℕ × List Byte) :=
  let text := row.dropWhile fun c => c = ascii ' '
  let digits := text.takeWhile fun c => (decimalDigit c).isSome
  if digits = [] then none else some (ofDecimal (leadingDigits digits), text.drop digits.length)

/-- **A number is taken out of its column.** -/
theorem splitNumber_padLeft (width n : ℕ) {c : Byte} (hc : decimalDigit c = none)
    (rest : List Byte) :
    splitNumber (padLeft width (decimal n) ++ c :: rest) = some (n, c :: rest) := by
  have hspaces : (padLeft width (decimal n) ++ c :: rest).dropWhile (fun c => c = ascii ' ') =
      decimal n ++ c :: rest := by
    rw [padLeft, List.append_assoc, List.dropWhile_append_of_pos fun b hb => by
      simp [List.eq_of_mem_replicate hb]]
    obtain ⟨d, ds, hds⟩ := List.exists_cons_of_ne_nil (decimal_ne_nil n)
    have hd : d ≠ ascii ' ' := by
      rintro rfl
      have hmem : ascii ' ' ∈ decimal n := by
        rw [hds]
        exact List.mem_cons_self
      exact absurd (decimalDigit_isSome_of_mem hmem) (by decide)
    rw [hds, List.cons_append, List.dropWhile_cons_of_neg (by simp [hd])]
  have hdigits : (decimal n ++ c :: rest).takeWhile (fun c => (decimalDigit c).isSome) =
      decimal n := by
    rw [List.takeWhile_append_of_pos fun b hb => decimalDigit_isSome_of_mem hb,
      List.takeWhile_cons_of_neg (by simp [hc]), List.append_nil]
  rw [splitNumber]
  simp only [hspaces, hdigits, if_neg (decimal_ne_nil n), List.drop_left,
    ofDecimal_leadingDigits_decimal]

end Machine
end BoardDiag
