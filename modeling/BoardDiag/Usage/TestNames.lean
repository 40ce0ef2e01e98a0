import BoardDiag.Machine.Rounds
import BoardDiag.Usage.Dispatch
import Mathlib.Algebra.Group.Units.Basic
import Mathlib.Data.BitVec

/-!
# Which names get different ids

The id of a test is a hash of its name, and the dispatcher has nothing to tell two
tests with one id apart: the second of them is out of reach (`run_executes_listed`).  So
it is the names that have to keep the ids apart, and this module is about which names
do.

A round of the hash is lossless (`lossless_fnvRound`): xor with a byte can be undone,
and so can the multiplication, as the prime is odd.  Two rules for names follow.

* The end that two names have in common does not matter.  `INVOKE_TEST_WITH_PARAM`
  names a test after its function and its argument, so the tests of two functions on
  one argument share an id exactly if the names of the functions do
  (`hash_eq_iff_of_argument`).
* Names that differ in one character, such as the names of tests that are numbered,
  have different ids, and each of these tests is reached by its own number
  (`firstWithId_self_of_differOnce`).

`fnv32` is the loop of `FNV32` as a function.  The counter of the loop has 32 bits, and
so the loop ends exactly if the length does not need more (`run_fnv32Loop`,
`run_fnv32Loop_of_long`).
-/

namespace BoardDiag

open Machine

variable {A D : Type}

/-! ## The loop -/

/-- A pass through the loop reads a byte and takes it in. -/
theorem run_fnv32Body {ptr : List Byte} {i : BitVec 32} (h : i.toNat < ptr.length)
    (hash : BitVec 32) :
    (fnv32Body ptr i).run hash = .ok none (fnvRound hash ptr[i.toNat]) := by
  rw [fnv32Body, EStateM.run_bind, run_fetch h]
  rfl

/-- The counter after `j` passes. -/
theorem toNat_counter {j : ℕ} (hj : j < 2 ^ 32) :
    ((fun i : BitVec 32 => i + 1)^[j] 0).toNat = j := by
  rw [iterate_add_one, BitVec.toNat_ofNat, Nat.mod_eq_of_lt hj]

/-- **`FNV32` returns the hash** of the first `len` bytes, if `len` has 32 bits. -/
theorem run_fnv32Loop {ptr : List Byte} {len fuel : ℕ} (hlen : len < 2 ^ 32)
    (hptr : len ≤ ptr.length) (hfuel : len < fuel) :
    (fnv32Loop ptr len fuel).run fnvOffset32 = .ok none (fnv32 ptr len) := by
  have hgo : ∀ j < len, decide (((fun i : BitVec 32 => i + 1)^[j] 0).toNat < len) = true := by
    intro j hj
    rw [toNat_counter (Nat.lt_trans hj hlen)]
    exact decide_eq_true hj
  have hexit : decide (((fun i : BitVec 32 => i + 1)^[len] 0).toNat < len) = false := by
    rw [toNat_counter hlen]
    exact decide_eq_false (Nat.lt_irrefl len)
  have htake : (ptr.take len).length = len := by
    rw [List.length_take, Nat.min_eq_left hptr]
  have hpass : ∀ (j : ℕ) (hj : j < (ptr.take len).length) (hash : BitVec 32),
      (fnv32Body ptr ((fun i : BitVec 32 => i + 1)^[0 + j] 0)).run hash =
        .ok none (fnvRound hash (ptr.take len)[j]) := by
    intro j hj hash
    have hcount : ((fun i : BitVec 32 => i + 1)^[0 + j] 0).toNat = j := by
      rw [Nat.zero_add]
      exact toNat_counter (by omega)
    rw [run_fnv32Body (by omega), List.getElem_take]
    simp only [hcount]
  have hpasses : (searchFrom (fun j => fnv32Body ptr ((fun i : BitVec 32 => i + 1)^[j] 0)) 0
      (ptr.take len).length).run fnvOffset32 =
        .ok (exitOf (runUntil (fun b hash => (false, fnvRound hash b)) (ptr.take len)
          fnvOffset32).1) (runUntil (fun b hash => (false, fnvRound hash b)) (ptr.take len)
          fnvOffset32).2 :=
    run_searchFrom id (ptr.take len) 0 fnvOffset32 hpass
  rw [runUntil_eq_foldl, htake] at hpasses
  rw [fnv32Loop, whileFuel_eq_searchFrom _ hgo hexit hfuel]
  exact hpasses

/-- **Beyond 32 bits `FNV32` does not return**: its counter never gets to `len`. -/
theorem run_fnv32Loop_of_long {ptr : List Byte} {len : ℕ} (hlen : 2 ^ 32 ≤ len)
    (hptr : len ≤ ptr.length) (fuel : ℕ) (hash : BitVec 32) :
    ∃ hash', (fnv32Loop ptr len fuel).run hash = .error .outOfFuel hash' := by
  have hbelow : ∀ i : BitVec 32, i.toNat < len := fun i => Nat.lt_of_lt_of_le i.isLt hlen
  refine run_whileFuel_of_endless (fun i => decide_eq_true (hbelow i)) (fun i hash => ?_) fuel 0
    hash
  exact ⟨_, run_fnv32Body (Nat.lt_of_lt_of_le (hbelow i) hptr) hash⟩

/-! ## The rounds -/

/-- The prime is odd, so it has an inverse modulo `2 ^ 32`. -/
theorem isUnit_fnvPrime32 : IsUnit fnvPrime32 :=
  .of_mul_eq_one 899433627#32 rfl

/-- **A round of the hash loses nothing.** -/
theorem lossless_fnvRound : Lossless fnvRound where
  state b := by
    intro hash hash' h
    exact (BitVec.xor_left_inj _).mp (isUnit_fnvPrime32.mul_left_injective h)
  letter hash := by
    intro b b' h
    have hwide : b.setWidth 32 = b'.setWidth 32 :=
      (BitVec.xor_right_inj _).mp (isUnit_fnvPrime32.mul_left_injective h)
    have hnat := congrArg BitVec.toNat hwide
    rw [BitVec.toNat_setWidth_of_le (by decide), BitVec.toNat_setWidth_of_le (by decide)] at hnat
    exact BitVec.eq_of_toNat_eq hnat

/-- The hash of a whole string. -/
theorem fnv32_length (l : List Byte) : fnv32 l l.length = l.foldl fnvRound fnvOffset32 := by
  rw [fnv32, List.take_length]

theorem calculateTestIdHash_eq {name : CString} (h : name.strlen < 2 ^ 32) :
    calculateTestIdHash name = name.bytes.foldl fnvRound fnvOffset32 := by
  rw [calculateTestIdHash, Nat.mod_eq_of_lt h]
  exact fnv32_length name.bytes

/-- Names of 32-bit lengths that differ in one character have different ids. -/
theorem calculateTestIdHash_ne {name name' : CString} (hlen : name.strlen < 2 ^ 32)
    (h : DifferOnce name.bytes name'.bytes) :
    calculateTestIdHash name ≠ calculateTestIdHash name' := by
  have hlen' : name'.strlen < 2 ^ 32 := by
    rw [CString.strlen, ← h.length_eq]
    exact hlen
  rw [calculateTestIdHash_eq hlen, calculateTestIdHash_eq hlen']
  exact lossless_fnvRound.foldl_ne fnvOffset32 h

/-- **Which collisions there are not.**  For strings whose lengths have 32 bits:

* two strings with a common end collide exactly if they do without it;
* two strings that differ at exactly one position do not collide;
* nor do the ids of two names that do. -/
theorem fnv32_collisions :
    (∀ a b l : List Byte, (a ++ l).length < 2 ^ 32 → (b ++ l).length < 2 ^ 32 →
      (fnv32 (a ++ l) (a ++ l).length = fnv32 (b ++ l) (b ++ l).length ↔
        fnv32 a a.length = fnv32 b b.length)) ∧
    (∀ a b : List Byte, a.length < 2 ^ 32 → DifferOnce a b →
      fnv32 a a.length ≠ fnv32 b b.length) ∧
    ∀ name name' : CString, name.strlen < 2 ^ 32 → DifferOnce name.bytes name'.bytes →
      calculateTestIdHash name ≠ calculateTestIdHash name' := by
  refine ⟨fun a b l _ _ => ?_, fun a b _ h => ?_, fun _ _ => calculateTestIdHash_ne⟩
  · rw [fnv32_length, fnv32_length, fnv32_length, fnv32_length]
    exact lossless_fnvRound.foldl_append_eq_iff fnvOffset32 a b l
  · rw [fnv32_length, fnv32_length]
    exact lossless_fnvRound.foldl_ne fnvOffset32 h

/-- `I2C_interface_test`. -/
def i2cInterfaceTestName : CString :=
  .ofChars ['I', '2', 'C', '_', 'i', 'n', 't', 'e', 'r', 'f', 'a', 'c', 'e', '_', 't', 'e', 's',
    't']

/-- `I2C0_DEVICES` and `I2C1_DEVICES`. -/
def i2cDevices (bus : Char) : CString :=
  .ofChars ['I', '2', 'C', bus, '_', 'D', 'E', 'V', 'I', 'C', 'E', 'S']

theorem differOnce_i2cDevices :
    DifferOnce (i2cDevices '0').bytes (i2cDevices '1').bytes :=
  differOnce_append_cons (by decide) (['I', '2', 'C'].map ascii)
    (['_', 'D', 'E', 'V', 'I', 'C', 'E', 'S'].map ascii)

/-- **The tests that probe the two I2C buses** of the am335x have different ids. -/
theorem i2c_probes_ids_differ :
    calculateTestIdHash (i2cInterfaceTestName ++ .ofChars ['_'] ++ i2cDevices '0') ≠
      calculateTestIdHash (i2cInterfaceTestName ++ .ofChars ['_'] ++ i2cDevices '1') :=
  fnv32_collisions.2.2 _ _ (by decide) (differOnce_i2cDevices.append_left _)

/-! ## The names of registered tests -/

section Registered

variable {description description' function function' argument argument' : CString}
  {testFunction testFunction' : TestFunction A D} {testArgs testArgs' : A}

/-- **The argument does not matter.**  The tests of two functions on arguments of one name
have the same id exactly if the names of the functions have the same hash. -/
theorem hash_eq_iff_of_argument
    (hlen : (function ++ .ofChars ['_'] ++ argument).strlen < 2 ^ 32)
    (hlen' : (function' ++ .ofChars ['_'] ++ argument).strlen < 2 ^ 32) :
    (invokeTestWithParamEntry description function argument testFunction testArgs).hash =
        (invokeTestWithParamEntry description' function' argument testFunction' testArgs').hash ↔
      calculateTestIdHash function = calculateTestIdHash function' := by
  have hshort : function.strlen < 2 ^ 32 := by
    simp only [CString.strlen, CString.bytes_append, List.length_append] at hlen ⊢
    omega
  have hshort' : function'.strlen < 2 ^ 32 := by
    simp only [CString.strlen, CString.bytes_append, List.length_append] at hlen' ⊢
    omega
  rw [Registration.hash, Registration.hash]
  simp only [invokeTestWithParamEntry]
  rw [calculateTestIdHash_eq hlen, calculateTestIdHash_eq hlen', calculateTestIdHash_eq hshort,
    calculateTestIdHash_eq hshort', CString.bytes_append, CString.bytes_append,
    CString.bytes_append, CString.bytes_append, lossless_fnvRound.foldl_append_eq_iff,
    lossless_fnvRound.foldl_append_eq_iff]

/-- **A number in the argument does.**  The tests of one function on arguments whose names
differ in one character have different ids. -/
theorem hash_ne_of_argument
    (hlen : (function ++ .ofChars ['_'] ++ argument).strlen < 2 ^ 32)
    (h : DifferOnce argument.bytes argument'.bytes) :
    (invokeTestWithParamEntry description function argument testFunction testArgs).hash ≠
      (invokeTestWithParamEntry description' function argument' testFunction' testArgs').hash :=
  calculateTestIdHash_ne hlen (h.append_left _)

example (f : TestFunction A D) (a a' : A) :
    (invokeTestWithParamEntry description i2cInterfaceTestName (i2cDevices '0') f a).hash ≠
      (invokeTestWithParamEntry description' i2cInterfaceTestName (i2cDevices '1') f a').hash :=
  hash_ne_of_argument (by decide) differOnce_i2cDevices

end Registered

/-- **Tests whose names differ in one character, each from each other, are all in reach**:
every number leads to its own test. -/
theorem firstWithId_self_of_differOnce {suite : List (Registration A D)}
    (hlen : ∀ r ∈ suite, r.name.strlen < 2 ^ 32)
    (h : suite.Pairwise fun r r' => DifferOnce r.name.bytes r'.name.bytes) {k : ℕ}
    {r : Registration A D} (hr : suite[k]? = some r) : FirstWithId suite k k r := by
  have hnodup : (hashes suite).Nodup := by
    refine nodup_hashes_iff.mpr fun i j hi hj hij => ?_
    exact calculateTestIdHash_ne (hlen _ (List.getElem_mem hi))
      (List.pairwise_iff_getElem.mp h i j hi hj hij)
  exact firstWithId_self_iff_nodup.mpr hnodup k r hr

end BoardDiag
