import BoardDiag.Machine.Program
import Mathlib.Data.List.Basic
import Mathlib.Data.List.Forall2
import Mathlib.Data.Nat.Digits.Defs
import Mathlib.Tactic.Ring

/-!
# NUL-terminated strings

A C string is a run of nonzero bytes followed by a zero byte.  The type keeps
the nonzero bytes and the proof that they are nonzero, so the terminator is
where it has to be: `charAt s i` is a byte of the string below its length, the
terminator *at* its length, and no defined value past it.

## Numbers in strings

`numberRead` is the number a scanner finds that takes the decimal digits a string
begins with and ignores the rest; `IsNumeral` are the strings of which nothing is
ignored.  Digits are read most significant first, so the number is Mathlib's
`Nat.ofDigits` of the reversed digits.

## Abbreviations

A string abbreviates another if it is an initial segment of it, where the case of the
letters A to Z does not count.
-/

namespace BoardDiag
namespace Machine

/-- A byte of memory. -/
abbrev Byte := BitVec 8

/-- The code of an ASCII character. -/
def ascii (c : Char) : Byte := BitVec.ofNat 8 c.toNat

/-- A NUL-terminated string: its bytes before the terminator. -/
structure CString where
  /-- The bytes before the terminator. -/
  bytes : List Byte
  /-- None of them is the terminator. -/
  nul_free : ∀ b ∈ bytes, b ≠ 0
  deriving DecidableEq

namespace CString

/-- The string of some characters. -/
def ofChars (cs : List Char) : CString :=
  ⟨(cs.map ascii).filter fun b => decide (b ≠ 0), fun _ hb =>
    of_decide_eq_true (List.mem_filter.mp hb).2⟩

/-- The number of bytes before the terminator. -/
def strlen (s : CString) : ℕ := s.bytes.length

/-- A string followed by another. -/
def append (s t : CString) : CString where
  bytes := s.bytes ++ t.bytes
  nul_free b hb := (List.mem_append.mp hb).elim (s.nul_free b) (t.nul_free b)

instance : Append CString := ⟨append⟩

theorem bytes_append (s t : CString) : (s ++ t).bytes = s.bytes ++ t.bytes := rfl

/-- `s[i]`, where it is defined. -/
def charAt (s : CString) (i : ℕ) : Option Byte :=
  if i < s.bytes.length then s.bytes[i]?
  else if i = s.bytes.length then some 0
  else none

@[ext] theorem ext {s t : CString} (h : s.bytes = t.bytes) : s = t := by
  cases s
  cases t
  simpa using h

theorem charAt_of_lt {s : CString} {i : ℕ} (h : i < s.bytes.length) :
    s.charAt i = some s.bytes[i] := by
  rw [charAt, if_pos h, List.getElem?_eq_getElem h]

@[simp] theorem charAt_length (s : CString) : s.charAt s.bytes.length = some 0 := by
  rw [charAt, if_neg (Nat.lt_irrefl _), if_pos rfl]

/-- The terminator is the only zero. -/
theorem charAt_ne_zero {s : CString} {i : ℕ} (h : i < s.bytes.length) :
    s.bytes[i] ≠ 0 :=
  s.nul_free _ (List.getElem_mem h)

end CString

/-! ## Abbreviations -/

/-- One of the letters A to Z. -/
def IsUpper (c : Byte) : Prop := ascii 'A' ≤ c ∧ c ≤ ascii 'Z'

/-- The same character, or the same letter, once in upper and once in lower case. -/
def EqCase (c d : Byte) : Prop :=
  c = d ∨ IsUpper c ∧ d = c + 32 ∨ IsUpper d ∧ c = d + 32

/-- `s` is an initial segment of `t`, but for the case of letters. -/
def CString.Abbreviates (s t : CString) : Prop :=
  ∃ p, p <+: t.bytes ∧ List.Forall₂ EqCase s.bytes p

/-! ## Numbers in strings -/

/-- The value of a decimal digit. -/
def decimalDigit (c : Byte) : Option ℕ :=
  if ascii '0' ≤ c ∧ c ≤ ascii '9' then some (c.toNat - '0'.toNat) else none

/-- The decimal digits at the beginning of some bytes. -/
def leadingDigits : List Byte → List ℕ
  | [] => []
  | c :: cs =>
      match decimalDigit c with
      | some d => d :: leadingDigits cs
      | none => []

/-- The number whose digits, most significant first, are `ds`. -/
def ofDecimal (ds : List ℕ) : ℕ := Nat.ofDigits 10 ds.reverse

theorem ofDecimal_cons (d : ℕ) (ds : List ℕ) :
    ofDecimal (d :: ds) = d * 10 ^ ds.length + ofDecimal ds := by
  rw [ofDecimal, List.reverse_cons, Nat.ofDigits_append, Nat.ofDigits_singleton,
    List.length_reverse, ofDecimal]
  ring

namespace CString

/-- The number made of the decimal digits a string begins with. -/
def numberRead (s : CString) : ℕ := ofDecimal (leadingDigits s.bytes)

/-- A nonempty string of decimal digits. -/
def IsNumeral (s : CString) : Prop :=
  s.bytes ≠ [] ∧ ∀ c ∈ s.bytes, (decimalDigit c).isSome

instance (s : CString) : Decidable s.IsNumeral :=
  inferInstanceAs (Decidable (_ ∧ _))

end CString

/-- Read a character of a string, stopping if there is none. -/
def readChar {σ : Type} (s : CString) (i : ℕ) : Prog σ Byte :=
  match s.charAt i with
  | some b => pure b
  | none => throw .outOfBounds

end Machine
end BoardDiag
