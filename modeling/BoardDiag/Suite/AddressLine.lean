import BoardDiag.Suite.FaultyMemory
import Mathlib.Data.Set.Function

/-!
# The address line test

What the address line test finds out about the decoder of a memory, and which words
it touches.

The test works on the words at offset zero and at the powers of two below its mask.
For an area of `4 * 2 ^ k` bytes these are the first `k` powers of two, one for each
address line.  `memoryAddressLineTest_decides` is about a memory whose cells are
good and whose decoder may be anything: the test passes exactly if no two of the
tested offsets are taken to the same cell.  In its first half it compares offset
zero with each of the others --- the cell of offset zero is written last, with the
other pattern --- and in its second half each of the others with all of them.

`touched_exact_iff` is about the bound of its loops.  `offset & mask` ends a loop at
the first zero of the mask, so for an area whose number of words is not a power of
two some of it is left out, and for an area with no word at all the mask is all ones.
-/

namespace BoardDiag

open Machine

variable {C : Type}

/-! ## Loads and stores of a memory of cells -/

section Cells

variable [DecidableEq C] {decode : BitVec 32 → C} {g : C → BitVec 32 → BitVec 32}

theorem triple_storeWord_cells {P : (C → BitVec 32) → Prop} (addr v : BitVec 32) :
    Triple (fun s => P (Function.update s.dev.cells (decode addr) (g (decode addr) v)))
      (storeWord (ram decode g) addr v) fun _ s => P s.dev.cells :=
  fun _ hs => ⟨(), _, rfl, hs⟩

theorem triple_loadWord_cells {P : (C → BitVec 32) → Prop} (addr : BitVec 32) :
    Triple (fun s => P s.dev.cells) (loadWord (ram decode g) addr)
      fun read s => P s.dev.cells ∧ read = s.dev.cells (decode addr) :=
  fun _ hs => ⟨_, _, rfl, hs, rfl⟩

theorem triple_flush_cells {P : (C → BitVec 32) → Prop} :
    Triple (fun s => P s.dev.cells) (flushDcacheAll (ram decode g)) fun _ s => P s.dev.cells :=
  fun _ hs => ⟨(), _, rfl, hs⟩

end Cells

/-! ## The tested offsets -/

/-- Offset zero and the first `k` powers of two. -/
def testedOffsets (k : ℕ) : Set (BitVec 32) := {o | o = 0#32 ∨ ∃ i < k, o = BitVec.twoPow 32 i}

theorem twoPow_inj {i j : ℕ} (hi : i < 32) (h : BitVec.twoPow 32 i = BitVec.twoPow 32 j) :
    i = j := by
  have hbit := congrArg (fun x : BitVec 32 => x.getLsbD i) h
  simp only [BitVec.getLsbD_twoPow] at hbit
  simp only [hi, decide_true, Bool.and_self] at hbit
  exact (of_decide_eq_true (Bool.and_eq_true_iff.mp hbit.symm).2).symm

theorem twoPow_ne_zero {i : ℕ} (hi : i < 32) : BitVec.twoPow 32 i ≠ 0 := by
  refine ne_of_getLsbD (i := i) ?_
  simp [hi]

/-- **Injectivity on the tested offsets**, in the two parts in which it is tested. -/
theorem injOn_testedOffsets_iff {f : BitVec 32 → C} {k : ℕ} (hk : k ≤ 32) :
    Set.InjOn f (testedOffsets k) ↔
      (∀ i < k, f (BitVec.twoPow 32 i) ≠ f 0#32) ∧
      ∀ j < k, ∀ i < k, ¬ (f (BitVec.twoPow 32 i) = f (BitVec.twoPow 32 j) ∧ i ≠ j) := by
  constructor
  · intro h
    refine ⟨fun i hi heq => ?_, fun j hj i hi => ?_⟩
    · exact twoPow_ne_zero (by omega) (h (.inr ⟨i, hi, rfl⟩) (.inl rfl) heq)
    · rintro ⟨heq, hne⟩
      exact hne (twoPow_inj (by omega) (h (.inr ⟨i, hi, rfl⟩) (.inr ⟨j, hj, rfl⟩) heq))
  · rintro ⟨hzero, hpair⟩ o ho o' ho' heq
    rcases ho with rfl | ⟨i, hi, rfl⟩
    · rcases ho' with rfl | ⟨j, hj, rfl⟩
      · rfl
      · exact absurd heq.symm (hzero j hj)
    · rcases ho' with rfl | ⟨j, hj, rfl⟩
      · exact absurd heq (hzero i hi)
      · by_contra hne
        exact hpair j hj i hi ⟨heq, fun hij => hne (by rw [hij])⟩

/-- **A fault of an address line takes two of the tested offsets to one.** -/
theorem LineFault.not_injOn {φ : LineFault} {k : ℕ} (hk : k ≤ 32) (h : φ.Below k) :
    ¬ Set.InjOn φ.apply (testedOffsets k) := by
  rw [injOn_testedOffsets_iff hk]
  rintro ⟨hzero, hpair⟩
  cases φ with
  | stuckAt0 i =>
      refine hzero i h ?_
      show BitVec.twoPow 32 i &&& ~~~BitVec.twoPow 32 i = 0#32 &&& _
      rw [BitVec.and_not_self, BitVec.zero_and]
      rfl
  | stuckAt1 i =>
      refine hzero i h ?_
      show BitVec.twoPow 32 i ||| BitVec.twoPow 32 i = 0#32 ||| _
      rw [BitVec.or_self, BitVec.zero_or]
  | wiredAnd i j =>
      obtain ⟨hi, -, hne⟩ := h
      refine hzero i hi ?_
      have hij : (BitVec.twoPow 32 i).getLsbD j = false := by simp [hne]
      simp only [apply, hij, Bool.and_false, Bool.false_eq_true, if_false, BitVec.zero_and,
        ite_self, BitVec.not_or, ← BitVec.and_assoc, BitVec.and_not_self]
      exact BitVec.zero_and
  | wiredOr i j =>
      obtain ⟨hi, hj, hne⟩ := h
      refine hpair j hj i hi ⟨?_, hne⟩
      have hii : (BitVec.twoPow 32 i).getLsbD i = true := by simp; omega
      have hjj : (BitVec.twoPow 32 j).getLsbD j = true := by simp; omega
      simp only [apply, hii, hjj, Bool.true_or, Bool.or_true, if_true]
      rw [← BitVec.or_assoc, BitVec.or_self, BitVec.or_comm (BitVec.twoPow 32 i),
        ← BitVec.or_assoc, BitVec.or_self]

/-! ## The words of the area -/

/-- A decoder of word offsets, as a decoder of addresses from a base address on. -/
def decodeFrom (f : BitVec 32 → C) (mem_address addr : BitVec 32) : C :=
  f ((addr - mem_address) >>> 2)

theorem decodeFrom_wordAt (f : BitVec 32 → C) (mem_address : BitVec 32) {o : BitVec 32}
    (ho : o.toNat < 2 ^ 30) : decodeFrom f mem_address (wordAt mem_address o) = f o := by
  have hoffset : (wordAt mem_address o - mem_address) >>> 2 = o := by
    apply BitVec.eq_of_toNat_eq
    rw [wordAt, BitVec.add_comm, BitVec.add_sub_cancel, BitVec.toNat_ushiftRight,
      BitVec.toNat_mul, Nat.shiftRight_eq_div_pow, show (4 : BitVec 32).toNat = 4 from rfl]
    omega
  rw [decodeFrom, hoffset]

theorem toNat_twoPow_lt {i : ℕ} (hi : i < 30) : (BitVec.twoPow 32 i).toNat < 2 ^ 30 := by
  rw [BitVec.toNat_twoPow_of_lt (by omega)]
  exact Nat.pow_lt_pow_right (by decide) hi

theorem toNat_mask {a : AMemoryAddressLineTest} (h : 4 ≤ a.size.toNat) :
    a.mask.toNat = a.size.toNat / 4 - 1 := by
  have hlt := a.size.isLt
  rw [AMemoryAddressLineTest.mask, BitVec.toNat_sub, BitVec.toNat_udiv,
    show (4 : BitVec 32).toNat = 4 from rfl, show (1 : BitVec 32).toNat = 1 from rfl]
  omega

/-! ## The two halves of the test -/

section Decides

variable {f : BitVec 32 → C} {mem_address : BitVec 32} {k : ℕ}

/-- The memory the test is run on: good cells behind the decoder `f`. -/
abbrev decoded [DecidableEq C] (f : BitVec 32 → C) (mem_address : BitVec 32) :
    MemoryDriver (Ram C) :=
  ram (decodeFrom f mem_address) fun _ v => v

/-- The cells of a set hold a value, and the others what they held before. -/
structure Painted (T : Set C) (v : BitVec 32) (old cells : C → BitVec 32) : Prop where
  inside : ∀ x ∈ T, cells x = v
  outside : ∀ x ∉ T, cells x = old x

/-- Painting one more cell. -/
theorem Painted.update [DecidableEq C] {T : Set C} {v : BitVec 32} {old cells : C → BitVec 32}
    (h : Painted T v old cells) (x : C) :
    Painted (insert x T) v old (Function.update cells x v) where
  inside y hy := by
    by_cases hyx : y = x
    · rw [hyx, Function.update_self]
    · rw [Function.update_of_ne hyx]
      exact h.inside y (hy.resolve_left hyx)
  outside y hy := by
    rw [Function.update_of_ne fun hyx => hy (.inl hyx)]
    exact h.outside y fun hyT => hy (.inr hyT)

/-- The cells of the first `j` powers of two. -/
def powerCells (f : BitVec 32 → C) (j : ℕ) : Set C := {x | ∃ i < j, x = f (BitVec.twoPow 32 i)}

theorem insert_powerCells (f : BitVec 32 → C) (j : ℕ) :
    insert (f (BitVec.twoPow 32 j)) (powerCells f j) = powerCells f (j + 1) := by
  ext x
  constructor
  · rintro (rfl | ⟨i, hi, rfl⟩)
    · exact ⟨j, Nat.lt_succ_self j, rfl⟩
    · exact ⟨i, Nat.lt_succ_of_lt hi, rfl⟩
  · rintro ⟨i, hi, rfl⟩
    rcases Nat.lt_succ_iff_lt_or_eq.mp hi with hlt | rfl
    · exact .inr ⟨i, hlt, rfl⟩
    · exact .inl rfl

theorem insert_powerCells_eq_image (f : BitVec 32 → C) (k : ℕ) :
    insert (f 0#32) (powerCells f k) = f '' testedOffsets k := by
  ext x
  constructor
  · rintro (rfl | ⟨i, hi, rfl⟩)
    · exact ⟨_, .inl rfl, rfl⟩
    · exact ⟨_, .inr ⟨i, hi, rfl⟩, rfl⟩
  · rintro ⟨o, rfl | ⟨i, hi, rfl⟩, rfl⟩
    · exact .inl rfl
    · exact .inr ⟨i, hi, rfl⟩

theorem decode_zero (f : BitVec 32 → C) (mem_address : BitVec 32) :
    decodeFrom f mem_address (wordAt mem_address 0) = f 0#32 :=
  decodeFrom_wordAt f mem_address (by decide)

theorem decode_twoPow (f : BitVec 32 → C) (mem_address : BitVec 32) {i : ℕ} (hi : i < 30) :
    decodeFrom f mem_address (wordAt mem_address (BitVec.twoPow 32 i)) =
      f (BitVec.twoPow 32 i) :=
  decodeFrom_wordAt f mem_address (toNat_twoPow_lt hi)

/-- A loop that looks at cells and fails at the first that is bad. -/
theorem triple_searchCells {body : ℕ → TestProg (Ram C) (Option TestResultTypes)}
    {B : ℕ → Prop} [DecidablePred B] {cells : C → BitVec 32}
    (h : ∀ j < k, Triple (fun s => s.dev.cells = cells) (body j) fun r s =>
      s.dev.cells = cells ∧ r = if B j then some .fail else none) :
    Triple (fun s => s.dev.cells = cells) (searchFrom body 0 k) fun r s =>
      (r = none ∧ (∀ j < k, ¬ B j) ∧ s.dev.cells = cells) ∨
      r = some .fail ∧ ∃ j < k, B j := by
  refine (Triple.searchFrom_until (I := fun _ s => s.dev.cells = cells) (B := B)
    (Q := fun _ b _ => b = .fail) 0 k ?_ ?_).conseq (fun _ hs => hs) ?_
  · intro j _ hj hgood
    refine (h j (by omega)).conseq (fun _ hs => hs) ?_
    rintro r s ⟨hs, hr⟩
    rw [if_neg hgood] at hr
    exact ⟨hr, hs⟩
  · intro j _ hj hbad
    refine (h j (by omega)).conseq (fun _ hs => hs) ?_
    rintro r s ⟨-, hr⟩
    rw [if_pos hbad] at hr
    exact ⟨.fail, hr, rfl⟩
  · rintro r s (⟨hr, hall, hs⟩ | ⟨j, b, ⟨-, hj, hbad, -⟩, hr, rfl⟩)
    · exact .inl ⟨hr, fun j hj => hall j (Nat.zero_le j) (by omega), hs⟩
    · exact .inr ⟨hr, j, by omega, hbad⟩

variable [DecidableEq C]

/-- The first loop paints the cells of the powers of two. -/
theorem triple_writeLoop (hk : k ≤ 30) (old : C → BitVec 32) :
    Triple (fun s => s.dev.cells = old)
      (searchFrom (fun j => writePatA (decoded f mem_address) mem_address (BitVec.twoPow 32 j))
        0 k)
      fun _ s => Painted (powerCells f k) patA old s.dev.cells := by
  refine (Triple.searchFrom (I := fun j s => Painted (powerCells f j) patA old s.dev.cells) 0 k
    fun j _ hj => ?_).conseq (fun s hs => ?_) fun r s hs => ?_
  · refine .bind (.conseq (triple_storeWord_cells
      (P := Painted (powerCells f (j + 1)) patA old) _ _) (fun s hs => ?_) fun _ _ hs => hs)
      fun _ => .pure fun s hs => ⟨rfl, hs⟩
    rw [decode_twoPow f mem_address (by omega), ← insert_powerCells]
    exact hs.update _
  · rw [hs]
    exact ⟨fun _ ⟨i, hi, _⟩ => absurd hi (Nat.not_lt_zero i), fun _ _ => rfl⟩
  · rw [Nat.zero_add] at hs
    exact hs.2

/-- A word is looked at: the loop is left exactly if the check fires. -/
theorem triple_checkWord (testId addr : BitVec 32) (check : BitVec 32 → Prop)
    [DecidablePred check] (address : BitVec 32 → List (BitVec 32)) (cells : C → BitVec 32) :
    Triple (fun s => s.dev.cells = cells)
      (checkWord (decoded f mem_address) testId addr check address) fun r s =>
        s.dev.cells = cells ∧
        r = if check (cells (decodeFrom f mem_address addr)) then some .fail else none := by
  refine .bind (triple_loadWord_cells (P := (· = cells)) _) fun read => ?_
  rintro s ⟨hs, hread⟩
  rw [hs] at hread
  rw [hread]
  by_cases hbad : check (cells (decodeFrom f mem_address addr))
  · rw [if_pos hbad, if_pos hbad]
    exact ⟨some .fail, _, rfl, hs, rfl⟩
  · rw [if_neg hbad, if_neg hbad]
    exact ⟨none, s, rfl, hs, rfl⟩

/-- Of painted cells of which one has got the other pattern, that one does not hold the
pattern. -/
theorem Painted.update_ne_iff {T : Set C} {old cells : C → BitVec 32}
    (h : Painted T patA old cells) {x y : C} (hy : y ∈ T) :
    Function.update cells x patB y ≠ patA ↔ y = x := by
  by_cases hyx : y = x
  · rw [hyx, Function.update_self]
    exact iff_of_true (by decide) rfl
  · rw [Function.update_of_ne hyx, h.inside y hy]
    exact iff_of_false (fun h => h rfl) hyx

/-- **The second loop** fails exactly if a power of two shares its cell with offset
zero, which holds the other pattern. -/
theorem triple_checkLoop (hk : k ≤ 30) (testId : BitVec 32) {old cells : C → BitVec 32}
    (hpainted : Painted (powerCells f k) patA old cells) :
    Triple (fun s => s.dev.cells = Function.update cells (f 0#32) patB)
      (searchFrom (fun j => checkPatA (decoded f mem_address) testId mem_address
        (BitVec.twoPow 32 j)) 0 k)
      fun r s =>
        (r = none ∧ (∀ i < k, ¬ f (BitVec.twoPow 32 i) = f 0#32) ∧
          s.dev.cells = Function.update cells (f 0#32) patB) ∨
        r = some .fail ∧ ∃ i < k, f (BitVec.twoPow 32 i) = f 0#32 := by
  refine triple_searchCells fun j hj => ?_
  rw [checkPatA_eq]
  refine (triple_checkWord testId _ _ _ _).conseq (fun _ hs => hs) fun r s hs => ?_
  rw [decode_twoPow f mem_address (by omega)] at hs
  simp only [hpainted.update_ne_iff ⟨j, hj, rfl⟩] at hs
  exact hs

/-- The state between two passes of the third loop: all tested cells hold the pattern,
and nothing else has changed. -/
def AllPatA (f : BitVec 32 → C) (k : ℕ) (old : C → BitVec 32) (s : Fixture (Ram C)) : Prop :=
  Painted (f '' testedOffsets k) patA old s.dev.cells

/-- **A pass of the third loop** fails exactly if its power of two shares its cell with
another. -/
theorem triple_probePatB (hk : k ≤ 30) {fuel : ℕ} (hfuel : k < fuel) {mask : BitVec 32}
    (hones : ∀ j < k, mask.getLsbD j = true) (hend : mask.getLsbD k = false)
    (testId : BitVec 32) (old : C → BitVec 32)
    (hzero : ∀ i < k, ¬ f (BitVec.twoPow 32 i) = f 0#32) {j : ℕ} (hj : j < k) :
    Triple (AllPatA f k old)
      (probePatB (decoded f mem_address) fuel testId mem_address mask (BitVec.twoPow 32 j))
      fun r s =>
        (r = none ∧ (∀ i < k, ¬ (f (BitVec.twoPow 32 i) = f (BitVec.twoPow 32 j) ∧ i ≠ j)) ∧
          AllPatA f k old s) ∨
        r = some .fail ∧ ∃ i < k, f (BitVec.twoPow 32 i) = f (BitVec.twoPow 32 j) ∧ i ≠ j := by
  refine .of_view (fun s => s.dev.cells) fun s₀ hs₀ => ?_
  have hmem : ∀ i < k, f (BitVec.twoPow 32 i) ∈ f '' testedOffsets k :=
    fun i hi => ⟨_, .inr ⟨i, hi, rfl⟩, rfl⟩
  have hmem0 : f 0#32 ∈ f '' testedOffsets k := ⟨_, .inl rfl, rfl⟩
  unfold probePatB
  rw [walkPowers_mask hfuel hones hend]
  refine .bind (.conseq (triple_storeWord_cells (P := (· =
    Function.update s₀.dev.cells (f (BitVec.twoPow 32 j)) patB)) _ _) (fun s hs => ?_)
    fun _ _ hs => hs) fun _ => ?_
  · rw [hs, decode_twoPow f mem_address (by omega)]
  refine .bind (triple_flush_cells (P := (· =
    Function.update s₀.dev.cells (f (BitVec.twoPow 32 j)) patB))) fun _ => ?_
  -- the word at offset zero has another cell, so it still holds the pattern
  refine .bind_check (.conseq (triple_loadWord_cells (P := (· =
    Function.update s₀.dev.cells (f (BitVec.twoPow 32 j)) patB)) _) (fun _ hs => hs)
    fun read s hs => ⟨?_, hs.1⟩) ?_
  · rw [hs.2, hs.1, decode_zero, not_not, Function.update_of_ne fun h => hzero j hj h.symm]
    exact hs₀.inside _ hmem0
  refine .bind (triple_searchCells
    (B := fun i => f (BitVec.twoPow 32 i) = f (BitVec.twoPow 32 j) ∧ i ≠ j)
    fun i hi => ?_) fun r => ?_
  · rw [recheckPatA_eq]
    refine (triple_checkWord testId _ _ _ _).conseq (fun _ hs => hs) fun r s hs => ?_
    rw [decode_twoPow f mem_address (by omega)] at hs
    have hne : BitVec.twoPow 32 i ≠ BitVec.twoPow 32 j ↔ i ≠ j :=
      not_congr ⟨twoPow_inj (by omega), fun h => by rw [h]⟩
    simp only [hs₀.update_ne_iff (hmem i hi), hne] at hs
    exact hs
  rintro s (⟨rfl, hall, hs⟩ | ⟨rfl, hbad⟩)
  · refine ⟨none, _, rfl, .inl ⟨rfl, hall, ?_⟩⟩
    show Painted _ patA old (Function.update s.dev.cells _ patA)
    rw [hs, decode_twoPow f mem_address (by omega), Function.update_idem,
      ← Set.insert_eq_of_mem (hmem j hj)]
    exact hs₀.update _
  · exact ⟨some .fail, s, rfl, .inr ⟨rfl, hbad⟩⟩

/-- **The third loop** fails exactly if two powers of two share a cell. -/
theorem triple_probeLoop (hk : k ≤ 30) {fuel : ℕ} (hfuel : k < fuel) {mask : BitVec 32}
    (hones : ∀ j < k, mask.getLsbD j = true) (hend : mask.getLsbD k = false)
    (testId : BitVec 32) (old : C → BitVec 32)
    (hzero : ∀ i < k, ¬ f (BitVec.twoPow 32 i) = f 0#32) :
    Triple (AllPatA f k old)
      (searchFrom (fun j => probePatB (decoded f mem_address) fuel testId mem_address mask
        (BitVec.twoPow 32 j)) 0 k)
      fun r s =>
        (r = none ∧ (∀ j < k, ∀ i < k,
          ¬ (f (BitVec.twoPow 32 i) = f (BitVec.twoPow 32 j) ∧ i ≠ j)) ∧ AllPatA f k old s) ∨
        r = some .fail ∧ ∃ j < k, ∃ i < k,
          f (BitVec.twoPow 32 i) = f (BitVec.twoPow 32 j) ∧ i ≠ j := by
  refine (Triple.searchFrom_until (I := fun _ => AllPatA f k old)
    (B := fun j => ∃ i < k, f (BitVec.twoPow 32 i) = f (BitVec.twoPow 32 j) ∧ i ≠ j)
    (Q := fun _ b _ => b = .fail) 0 k ?_ ?_).conseq (fun _ hs => hs) ?_
  · intro j _ hj hgood
    refine (triple_probePatB hk hfuel hones hend testId old hzero (by omega)).conseq
      (fun _ hs => hs) ?_
    rintro r s (⟨hr, -, hs⟩ | ⟨-, hbad⟩)
    · exact ⟨hr, hs⟩
    · exact absurd hbad hgood
  · rintro j _ hj ⟨i, hi, hbad⟩
    refine (triple_probePatB hk hfuel hones hend testId old hzero (by omega)).conseq
      (fun _ hs => hs) ?_
    rintro r s (⟨-, hall, -⟩ | ⟨hr, -⟩)
    · exact absurd hbad (hall i hi)
    · exact ⟨.fail, hr, rfl⟩
  · rintro r s (⟨hr, hall, hs⟩ | ⟨j, b, ⟨-, hj, hbad, -⟩, hr, rfl⟩)
    · exact .inl ⟨hr, fun j hj i hi hbad => hall j (Nat.zero_le j) (by omega) ⟨i, hi, hbad⟩, hs⟩
    · exact .inr ⟨hr, j, by omega, hbad⟩

/-- **What the address line test finds**, for a mask that ends in `k` ones. -/
theorem triple_memoryAddressLineTest (hk : k ≤ 30) {fuel : ℕ} (hfuel : k < fuel)
    {size : BitVec 32}
    (hones : ∀ j < k, (AMemoryAddressLineTest.mk mem_address size).mask.getLsbD j = true)
    (hend : (AMemoryAddressLineTest.mk mem_address size).mask.getLsbD k = false)
    (testId : BitVec 32) (old : C → BitVec 32) :
    Triple (fun s => s.dev.cells = old)
      (memoryAddressLineTest (decoded f mem_address) fuel testId (some ⟨mem_address, size⟩))
      fun r s =>
        (r = .pass ∧ Set.InjOn f (testedOffsets k) ∧ AllPatA f k old s) ∨
        r = .fail ∧ ¬ Set.InjOn f (testedOffsets k) := by
  rw [injOn_testedOffsets_iff (by omega)]
  unfold memoryAddressLineTest
  rw [deref_some, pure_bind, walkPowers_mask hfuel hones hend, walkPowers_mask hfuel hones hend,
    walkPowers_mask hfuel hones hend]
  refine .bind (.conseq (triple_writeLoop hk old) (fun _ hs => hs)
    fun _ s hs => (⟨s.dev.cells, hs, rfl⟩ : ∃ cells, Painted (powerCells f k) patA old cells ∧
      s.dev.cells = cells)) fun _ => .of_exists fun cells => .of_fact fun hpainted => ?_
  refine .bind (.conseq (triple_storeWord_cells (P := (· =
    Function.update cells (f 0#32) patB)) _ _) (fun s hs => ?_) fun _ _ hs => hs) fun _ => ?_
  · rw [hs, decode_zero]
  refine .bind (triple_flush_cells (P := (· = Function.update cells (f 0#32) patB))) fun _ => ?_
  refine .bind (triple_checkLoop hk testId hpainted) fun r => ?_
  rintro s (⟨rfl, hzero, hs⟩ | ⟨rfl, i, hi, hbad⟩)
  · -- every tested cell gets the pattern, offset zero as the last
    have hall : Triple (· = s) (storeWord (decoded f mem_address) (wordAt mem_address 0) patA)
        fun _ => AllPatA f k old := by
      intro t ht
      refine ⟨(), _, rfl, ?_⟩
      show Painted _ patA old (Function.update t.dev.cells _ patA)
      rw [ht, hs, decode_zero, Function.update_idem, ← insert_powerCells_eq_image]
      exact hpainted.update _
    refine Triple.bind hall (fun _ => Triple.bind
      (triple_probeLoop hk hfuel hones hend testId old hzero) fun r => ?_) s rfl
    rintro t (⟨rfl, hpair, ht⟩ | ⟨rfl, j, hj, i, hi, hbad⟩)
    · exact ⟨.pass, t, rfl, .inl ⟨rfl, ⟨hzero, hpair⟩, ht⟩⟩
    · exact ⟨.fail, t, rfl, .inr ⟨rfl, fun h => h.2 j hj i hi hbad⟩⟩
  · exact ⟨.fail, s, rfl, .inr ⟨rfl, fun h => h.1 i hi hbad⟩⟩

/-- The mask of an area whose number of words is a power of two. -/
theorem getLsbD_mask_of_words {a : AMemoryAddressLineTest} {k : ℕ}
    (h : a.size.toNat / 4 = 2 ^ k) (j : ℕ) : a.mask.getLsbD j = decide (j < k) := by
  have hpos := Nat.two_pow_pos k
  rw [← BitVec.testBit_toNat, toNat_mask (by omega), h, Nat.testBit_two_pow_sub_one]

/-- **The address line test decides whether the decoder is injective** on offset zero
and the powers of two.  For every decoder `f` from word offsets to cells, every
memory, every base address and every area of `4 * 2 ^ k` bytes:

* the test passes if `f` is injective on the tested offsets, and fails otherwise;
* when it passes, the tested cells hold the pattern, and no other cell has changed;
* so it fails if one of the first `k` address lines is stuck, or two of them are
  shorted, whatever the decoder does with what arrives. -/
theorem memoryAddressLineTest_decides (f : BitVec 32 → C) (mem_address size : BitVec 32)
    (hk : k ≤ 29) (hsize : size.toNat = 4 * 2 ^ k) {fuel : ℕ} (hfuel : 32 < fuel)
    (testId : BitVec 32) (s : Fixture (Ram C)) :
    ∃ r s', (memoryAddressLineTest (decoded f mem_address) fuel testId
        (some ⟨mem_address, size⟩)).run s = .ok r s' ∧
      (r = .pass ∨ r = .fail) ∧
      (r = .pass ↔ Set.InjOn f (testedOffsets k)) ∧
      (r = .pass → (∀ x ∈ f '' testedOffsets k, s'.dev.cells x = 0xAAAAAAAA) ∧
        ∀ x ∉ f '' testedOffsets k, s'.dev.cells x = s.dev.cells x) ∧
      ∀ (φ : LineFault) (f₀ : BitVec 32 → C), φ.Below k →
        (∀ o ∈ testedOffsets k, f o = f₀ (φ.apply o)) → r = .fail := by
  have hmask := getLsbD_mask_of_words (a := ⟨mem_address, size⟩) (k := k) (by
    show size.toNat / 4 = 2 ^ k
    rw [hsize, Nat.mul_div_cancel_left _ (by decide)])
  obtain ⟨r, s', hrun, hr⟩ := triple_memoryAddressLineTest (f := f) (k := k) (by omega)
    (by omega : k < fuel)
    (fun j hj => (hmask j).trans (decide_eq_true hj))
    ((hmask k).trans (decide_eq_false (Nat.lt_irrefl k))) testId s.dev.cells s rfl
  refine ⟨r, s', hrun, ?_⟩
  rcases hr with ⟨rfl, hinj, hs'⟩ | ⟨rfl, hnot⟩
  · refine ⟨.inl rfl, iff_of_true rfl hinj, fun _ => ⟨hs'.inside, hs'.outside⟩, ?_⟩
    intro φ f₀ hφ hlike
    refine absurd (fun o ho o' ho' heq => hinj ho ho' ?_) (φ.not_injOn (by omega) hφ)
    rw [hlike o ho, hlike o' ho', heq]
  · exact ⟨.inr rfl, iff_of_false (by decide) hnot, fun h => absurd h (by decide),
      fun _ _ _ _ => rfl⟩

/-- Two shorted address lines of an area of sixteen bytes are noticed. -/
theorem shorted_lines_detected :
    ∃ s', (memoryAddressLineTest (decoded (LineFault.wiredOr 0 1).apply 0x80000000) 33 1
      (some ⟨0x80000000, 16⟩)).run (Fixture.atBoot ⟨fun _ => 0, []⟩) = .ok .fail s' := by
  obtain ⟨r, s', hrun, -, -, -, hfaults⟩ :=
    memoryAddressLineTest_decides (k := 2) (LineFault.wiredOr 0 1).apply 0x80000000 16
      (by decide) (by decide) (by decide : 32 < 33) 1 (Fixture.atBoot ⟨fun _ => 0, []⟩)
  have hr := hfaults (.wiredOr 0 1) id ⟨by decide, by decide, by decide⟩ fun _ _ => rfl
  exact ⟨s', hr ▸ hrun⟩

end Decides

/-! ## The words that are touched -/

/-- The address of an access. -/
def Access.addr : Access → BitVec 32
  | .write addr => addr
  | .read addr => addr

/-- The addresses accessed since `s₀` are those of `S`. -/
def Touched (s₀ s : Fixture (Ram C)) (S : Set (BitVec 32)) : Prop :=
  ∃ new, s.dev.accesses = s₀.dev.accesses ++ new ∧ {addr | ∃ x ∈ new, x.addr = addr} = S

theorem touched_refl (s : Fixture (Ram C)) : Touched s s ∅ := by
  refine ⟨[], (List.append_nil _).symm, ?_⟩
  ext addr
  simp

/-- One more access. -/
theorem Touched.access {s₀ s s' : Fixture (Ram C)} {S : Set (BitVec 32)} (h : Touched s₀ s S)
    {x : Access} (hs' : s'.dev.accesses = s.dev.accesses ++ [x]) :
    Touched s₀ s' (insert x.addr S) := by
  obtain ⟨new, hnew, rfl⟩ := h
  refine ⟨new ++ [x], by rw [hs', hnew, List.append_assoc], ?_⟩
  ext addr
  constructor
  · rintro ⟨y, hy, rfl⟩
    rcases List.mem_append.mp hy with hy | hy
    · exact .inr ⟨y, hy, rfl⟩
    · exact .inl (by rw [List.mem_singleton.mp hy])
  · rintro (rfl | ⟨y, hy, rfl⟩)
    · exact ⟨x, List.mem_append_right _ (List.mem_singleton.mpr rfl), rfl⟩
    · exact ⟨y, List.mem_append_left _ hy, rfl⟩

section Touches

variable [DecidableEq C] {decode : BitVec 32 → C} {g : C → BitVec 32 → BitVec 32}
  {s₀ : Fixture (Ram C)} {S : Set (BitVec 32)} {mem_address : BitVec 32} {m : ℕ}

theorem triple_storeWord_touched (addr v : BitVec 32) :
    Triple (Touched s₀ · S) (storeWord (ram decode g) addr v)
      fun _ s => Touched s₀ s (insert addr S) :=
  fun _ hs => ⟨(), _, rfl, hs.access (x := .write addr) rfl⟩

theorem triple_storeWord_keeps {addr : BitVec 32} (haddr : addr ∈ S) (v : BitVec 32) :
    Triple (Touched s₀ · S) (storeWord (ram decode g) addr v) fun _ s => Touched s₀ s S := by
  refine (triple_storeWord_touched addr v).conseq (fun _ hs => hs) fun _ s hs => ?_
  rwa [Set.insert_eq_of_mem haddr] at hs

theorem triple_loadWord_keeps {addr : BitVec 32} (haddr : addr ∈ S) :
    Triple (Touched s₀ · S) (loadWord (ram decode g) addr) fun _ s => Touched s₀ s S := by
  intro s hs
  have hload : Touched s₀ { s with dev := ((ram decode g).load addr s.dev).2 } (insert addr S) :=
    hs.access (x := .read addr) rfl
  rw [Set.insert_eq_of_mem haddr] at hload
  exact ⟨_, _, rfl, hload⟩

theorem triple_flush_keeps :
    Triple (Touched s₀ · S) (flushDcacheAll (ram decode g)) fun _ s => Touched s₀ s S :=
  fun _ hs => ⟨(), _, rfl, hs⟩

/-- What a loop does once it has found a bad word: read it again and report. -/
theorem triple_report_keeps {addr : BitVec 32} (haddr : addr ∈ S) (testId : BitVec 32)
    (address : BitVec 32 → List (BitVec 32)) :
    Triple (Touched s₀ · S) (do
      let read ← loadWord (ram decode g) addr
      reportEvent testId .devDataMismatch (address read)
      return some TestResultTypes.fail) fun _ s => Touched s₀ s S :=
  .bind (triple_loadWord_keeps haddr) fun _ => fun _ hs => ⟨_, _, rfl, hs⟩

/-- The addresses of the first `j` powers of two. -/
def powerWords (mem_address : BitVec 32) (j : ℕ) : Set (BitVec 32) :=
  powerCells (wordAt mem_address) j

theorem triple_writeLoop_touched (m : ℕ) :
    Triple (Touched s₀ · ∅)
      (searchFrom (fun j => writePatA (ram decode g) mem_address (BitVec.twoPow 32 j)) 0 m)
      fun _ s => Touched s₀ s (powerWords mem_address m) := by
  refine (Triple.searchFrom (I := fun j s => Touched s₀ s (powerWords mem_address j)) 0 m
    fun j _ _ => ?_).conseq (fun s hs => ?_) fun r s hs => ?_
  · refine .bind (triple_storeWord_touched _ _) fun _ => .pure fun s hs => ⟨rfl, ?_⟩
    rwa [powerWords, insert_powerCells] at hs
  · have hnone : powerWords mem_address 0 = ∅ := by
      ext addr
      simp [powerWords, powerCells]
    rwa [hnone]
  · rw [Nat.zero_add] at hs
    exact hs.2

/-- The words the test works on. -/
def testedWords (mem_address : BitVec 32) (m : ℕ) : Set (BitVec 32) :=
  insert (wordAt mem_address 0) (powerWords mem_address m)

theorem wordAt_twoPow_mem (mem_address : BitVec 32) {j m : ℕ} (hj : j < m) :
    wordAt mem_address (BitVec.twoPow 32 j) ∈ testedWords mem_address m :=
  .inr ⟨j, hj, rfl⟩

theorem triple_checkWord_keeps {addr : BitVec 32} (haddr : addr ∈ S) (testId : BitVec 32)
    (check : BitVec 32 → Prop) [DecidablePred check] (address : BitVec 32 → List (BitVec 32)) :
    Triple (Touched s₀ · S) (checkWord (ram decode g) testId addr check address)
      fun _ s => Touched s₀ s S := by
  refine .bind (triple_loadWord_keeps haddr) fun read => .ite (fun _ => ?_) fun _ => ?_
  · exact triple_report_keeps haddr testId address
  · exact .pure fun _ hs => hs

theorem triple_probePatB_keeps {fuel : ℕ} (hfuel : m < fuel) {mask : BitVec 32}
    (hones : ∀ j < m, mask.getLsbD j = true) (hend : mask.getLsbD m = false)
    (testId : BitVec 32) {j : ℕ} (hj : j < m) :
    Triple (Touched s₀ · (testedWords mem_address m))
      (probePatB (ram decode g) fuel testId mem_address mask (BitVec.twoPow 32 j))
      fun _ s => Touched s₀ s (testedWords mem_address m) := by
  have hzero : wordAt mem_address 0 ∈ testedWords mem_address m := .inl rfl
  have hmem := wordAt_twoPow_mem mem_address hj
  unfold probePatB
  rw [walkPowers_mask hfuel hones hend]
  refine .bind (triple_storeWord_keeps hmem _) fun _ => ?_
  refine .bind triple_flush_keeps fun _ => ?_
  refine .bind (triple_loadWord_keeps hzero) fun read => .ite (fun _ => ?_) fun _ => ?_
  · exact triple_report_keeps hzero testId fun read =>
      [wordAt mem_address (BitVec.twoPow 32 j), patA, read]
  · refine .bind (.searchFrom_keeps 0 m fun i _ hi => ?_) fun r => ?_
    · rw [recheckPatA_eq]
      exact triple_checkWord_keeps (wordAt_twoPow_mem mem_address (by omega)) testId _ _
    cases r with
    | some status => exact .pure fun _ hs => hs
    | none => exact .bind (triple_storeWord_keeps hmem _) fun _ => .pure fun _ hs => hs

/-- **The words the address line test touches**, on any memory, for a mask that ends in
`m` ones.  The first loop already touches all of them. -/
theorem triple_memoryAddressLineTest_touched (decode : BitVec 32 → C)
    (g : C → BitVec 32 → BitVec 32) {a : AMemoryAddressLineTest} {fuel : ℕ} (hfuel : m < fuel)
    (hones : ∀ j < m, a.mask.getLsbD j = true) (hend : a.mask.getLsbD m = false)
    (testId : BitVec 32) :
    Triple (Touched s₀ · ∅) (memoryAddressLineTest (ram decode g) fuel testId (some a))
      fun _ s => Touched s₀ s (testedWords a.mem_address m) := by
  have hzero : wordAt a.mem_address 0 ∈ testedWords a.mem_address m := .inl rfl
  unfold memoryAddressLineTest
  rw [deref_some, pure_bind, walkPowers_mask hfuel hones hend, walkPowers_mask hfuel hones hend,
    walkPowers_mask hfuel hones hend]
  refine .bind (triple_writeLoop_touched m) fun _ => ?_
  refine .bind (triple_storeWord_touched _ _) fun _ => ?_
  refine .bind triple_flush_keeps fun _ => ?_
  refine .bind (.searchFrom_keeps 0 m fun i _ hi => ?_) fun r => ?_
  · rw [checkPatA_eq]
    exact triple_checkWord_keeps (wordAt_twoPow_mem a.mem_address (by omega)) testId _ _
  cases r with
  | some status => exact .pure fun _ hs => hs
  | none =>
      refine .bind (triple_storeWord_keeps hzero _) fun _ => ?_
      refine .bind (.searchFrom_keeps 0 m fun j _ hj =>
        triple_probePatB_keeps hfuel hones hend testId (by omega)) fun r => ?_
      cases r with
      | some status => exact .pure fun _ hs => hs
      | none => exact .pure fun _ hs => hs

end Touches

/-- Words at the same address have the same offset up to a multiple of `2 ^ 30`. -/
theorem wordAt_eq_iff (mem_address o o' : BitVec 32) :
    wordAt mem_address o = wordAt mem_address o' ↔ o.toNat % 2 ^ 30 = o'.toNat % 2 ^ 30 := by
  rw [← BitVec.toNat_inj, wordAt, wordAt, BitVec.toNat_add, BitVec.toNat_add, BitVec.toNat_mul,
    BitVec.toNat_mul, show (4 : BitVec 32).toNat = 4 from rfl]
  have hbase := mem_address.isLt
  have ho := o.isLt
  have ho' := o'.isLt
  omega

/-- The offsets, within the address space, of the words that are accessed. -/
def touchedOffsets (mem_address : BitVec 32) (accesses : List Access) : Set ℕ :=
  {o | o < 2 ^ 30 ∧ ∃ x ∈ accesses, x.addr = wordAt mem_address (BitVec.ofNat 32 o)}

theorem touchedOffsets_eq {mem_address : BitVec 32} {m : ℕ} (hm : m ≤ 32)
    {accesses : List Access}
    (h : {addr | ∃ x ∈ accesses, x.addr = addr} = testedWords mem_address m) :
    touchedOffsets mem_address accesses = {o | o = 0 ∨ ∃ i < m, i < 30 ∧ o = 2 ^ i} := by
  ext o
  have hmem : (∃ x ∈ accesses, x.addr = wordAt mem_address (BitVec.ofNat 32 o)) ↔
      wordAt mem_address (BitVec.ofNat 32 o) ∈ testedWords mem_address m := by
    rw [← h]
    exact Iff.rfl
  show (o < 2 ^ 30 ∧ _) ↔ o = 0 ∨ ∃ i < m, i < 30 ∧ o = 2 ^ i
  rw [hmem]
  constructor
  · rintro ⟨ho, hzero | ⟨i, hi, hpow⟩⟩
    · rw [wordAt_eq_iff, BitVec.toNat_ofNat, Nat.mod_eq_of_lt (by omega : o < 2 ^ 32),
        Nat.mod_eq_of_lt ho] at hzero
      exact .inl hzero
    · rw [wordAt_eq_iff, BitVec.toNat_ofNat, Nat.mod_eq_of_lt (by omega : o < 2 ^ 32),
        Nat.mod_eq_of_lt ho, BitVec.toNat_twoPow_of_lt (by omega)] at hpow
      by_cases hi30 : i < 30
      · rw [Nat.mod_eq_of_lt (Nat.pow_lt_pow_right (by decide) hi30)] at hpow
        exact .inr ⟨i, hi, hi30, hpow⟩
      · -- the two highest powers of two wrap around to the base address
        left
        rw [hpow]
        exact Nat.mod_eq_zero_of_dvd (Nat.pow_dvd_pow 2 (Nat.not_lt.mp hi30))
  · rintro (rfl | ⟨i, hi, hi30, rfl⟩)
    · exact ⟨by decide, .inl rfl⟩
    · refine ⟨Nat.pow_lt_pow_right (by decide) hi30, .inr ⟨i, hi, ?_⟩⟩
      rw [wordAt_eq_iff, BitVec.toNat_ofNat, BitVec.toNat_twoPow]

/-- The offsets the test should touch: all powers of two of the area, and zero, if the
area has a word at all. -/
def areaOffsets (size : ℕ) : Set ℕ :=
  {o | 4 ≤ size ∧ (o = 0 ∨ ∃ i, o = 2 ^ i ∧ 2 ^ i < size / 4)}

/-- A number whose last `l` bits are ones is not below `2 ^ l - 1`. -/
theorem le_of_testBit_ones {n l : ℕ} (h : ∀ j < l, n.testBit j = true) : 2 ^ l - 1 ≤ n := by
  have hmod : n % 2 ^ l = 2 ^ l - 1 := by
    apply Nat.eq_of_testBit_eq
    intro j
    rw [Nat.testBit_mod_two_pow, Nat.testBit_two_pow_sub_one]
    by_cases hj : j < l
    · rw [h j hj, Bool.and_true]
    · rw [decide_eq_false hj, Bool.false_and]
  calc 2 ^ l - 1 = n % 2 ^ l := hmod.symm
    _ ≤ n := Nat.mod_le n (2 ^ l)

/-- The mask of an area of `2 ^ k` words ends at the bit `k`. -/
theorem eq_of_mask_ones {a : AMemoryAddressLineTest} {m k : ℕ}
    (hones : ∀ j < m, a.mask.getLsbD j = true) (hend : a.mask.getLsbD m = false)
    (hk : a.size.toNat / 4 = 2 ^ k) : m = k := by
  have hbits := getLsbD_mask_of_words hk
  rcases Nat.lt_trichotomy m k with hmk | heq | hkm
  · rw [hbits, decide_eq_true hmk] at hend
    exact Bool.noConfusion hend
  · exact heq
  · have hone := hones k hkm
    rw [hbits, decide_eq_false (Nat.lt_irrefl k)] at hone
    exact Bool.noConfusion hone

/-- **When the mask gives the bound that is meant.** -/
theorem tested_eq_areaOffsets_iff {a : AMemoryAddressLineTest} {m : ℕ}
    (hones : ∀ j < m, a.mask.getLsbD j = true) (hend : a.mask.getLsbD m = false) :
    {o | o = 0 ∨ ∃ i < m, i < 30 ∧ o = 2 ^ i} = areaOffsets a.size.toNat ↔
      ∃ k, a.size.toNat / 4 = 2 ^ k := by
  have hlt := a.size.isLt
  constructor
  · intro h
    have hsize : 4 ≤ a.size.toNat := by
      have hzero : (0 : ℕ) ∈ areaOffsets a.size.toNat := h ▸ Or.inl rfl
      exact hzero.1
    have hn : a.size.toNat / 4 ≠ 0 := by omega
    refine ⟨(a.size.toNat / 4).log2, ?_⟩
    by_contra hne
    -- the highest power of two of the area is one of the tested offsets ...
    have hle : 2 ^ (a.size.toNat / 4).log2 ≤ a.size.toNat / 4 := Nat.log2_self_le hn
    have hmem : 2 ^ (a.size.toNat / 4).log2 ∈ areaOffsets a.size.toNat :=
      ⟨hsize, .inr ⟨_, rfl, by omega⟩⟩
    rw [← h] at hmem
    rcases hmem with hzero | ⟨i, hi, -, hpow⟩
    · exact absurd hzero (Nat.ne_of_gt (Nat.two_pow_pos _))
    · have hli := Nat.pow_right_injective (Nat.le_refl 2) hpow
      -- ... so the mask has ones up to there, and the area is longer than that
      have hmask : 2 ^ ((a.size.toNat / 4).log2 + 1) - 1 ≤ a.mask.toNat :=
        le_of_testBit_ones fun j hj => hones j (by omega)
      rw [toNat_mask hsize] at hmask
      have hlog := Nat.lt_log2_self (n := a.size.toNat / 4)
      omega
  · rintro ⟨k, hk⟩
    have hpos := Nat.two_pow_pos k
    have hmk : m = k := eq_of_mask_ones hones hend hk
    have hk30 : k < 30 := (Nat.pow_lt_pow_iff_right (by decide : 1 < 2)).mp (by omega)
    ext o
    show (o = 0 ∨ _) ↔ 4 ≤ a.size.toNat ∧ (o = 0 ∨ _)
    rw [hk, hmk, and_iff_right (by omega)]
    refine or_congr Iff.rfl ⟨?_, ?_⟩
    · rintro ⟨i, hi, -, rfl⟩
      exact ⟨i, rfl, Nat.pow_lt_pow_right (by decide) hi⟩
    · rintro ⟨i, rfl, hi⟩
      have hik := (Nat.pow_lt_pow_iff_right (by decide : 1 < 2)).mp hi
      exact ⟨i, hik, by omega, rfl⟩

/-- **Which words the address line test touches.**  For every configuration, and on every
memory --- without faults or with any ---, the offsets touched are the ones that should
be touched exactly if the number of words of the area is a power of two. -/
theorem touched_exact_iff [DecidableEq C] (decode : BitVec 32 → C)
    (g : C → BitVec 32 → BitVec 32) (a : AMemoryAddressLineTest) {fuel : ℕ} (hfuel : 32 < fuel)
    (testId : BitVec 32) (s : Fixture (Ram C)) :
    ∃ r s' new, (memoryAddressLineTest (ram decode g) fuel testId (some a)).run s = .ok r s' ∧
      s'.dev.accesses = s.dev.accesses ++ new ∧
      (touchedOffsets a.mem_address new = areaOffsets a.size.toNat ↔
        ∃ k, a.size.toNat / 4 = 2 ^ k) := by
  obtain ⟨m, hm, hones, hend⟩ := exists_low_ones a.mask
  obtain ⟨r, s', hrun, new, hnew, hS⟩ := triple_memoryAddressLineTest_touched
    decode g (by omega : m < fuel) hones hend testId s (touched_refl s)
  refine ⟨r, s', new, hrun, hnew, ?_⟩
  rw [touchedOffsets_eq hm hS]
  exact tested_eq_areaOffsets_iff hones hend

/-- A memory without faults. -/
abbrev goodRam : MemoryDriver (Ram (BitVec 32)) := ram id fun _ v => v

/-- Of an area of four words the test touches what it should. -/
theorem four_words_touched :
    ∃ r s' new, (memoryAddressLineTest goodRam 33 1 (some ⟨0x80000000, 16⟩)).run
        (Fixture.atBoot ⟨fun _ => 0, []⟩) = .ok r s' ∧ s'.dev.accesses = [] ++ new ∧
      touchedOffsets 0x80000000 new = areaOffsets 16 := by
  obtain ⟨r, s', new, hrun, hnew, htouched⟩ := touched_exact_iff id (fun _ v => v)
    ⟨0x80000000, 16⟩ (by decide : 32 < 33) 1 (Fixture.atBoot ⟨fun _ => 0, []⟩)
  exact ⟨r, s', new, hrun, hnew, htouched.mpr ⟨2, rfl⟩⟩

/-- Of an area of three words only the first is touched: the mask is two, and its last
bit is zero. -/
theorem three_words_untouched :
    ∃ r s' new, (memoryAddressLineTest goodRam 33 1 (some ⟨0x80000000, 12⟩)).run
        (Fixture.atBoot ⟨fun _ => 0, []⟩) = .ok r s' ∧ s'.dev.accesses = [] ++ new ∧
      touchedOffsets 0x80000000 new = {0} ∧ 1 ∈ areaOffsets 12 ∧
      touchedOffsets 0x80000000 new ≠ areaOffsets 12 := by
  obtain ⟨r, s', hrun, new, hnew, hS⟩ := triple_memoryAddressLineTest_touched
    id (fun _ v => v) (a := ⟨0x80000000, 12⟩) (m := 0) (by decide : 0 < 33)
    (fun j hj => absurd hj (Nat.not_lt_zero j)) (by decide) 1
    (Fixture.atBoot ⟨fun _ => 0, []⟩) (touched_refl _)
  have htouched : touchedOffsets 0x80000000 new = {0} := by
    rw [touchedOffsets_eq (by decide) hS]
    ext o
    simp
  have hone : 1 ∈ areaOffsets 12 := ⟨by decide, .inr ⟨0, rfl, by decide⟩⟩
  refine ⟨r, s', new, hrun, hnew, htouched, hone, fun h => ?_⟩
  rw [← h, htouched] at hone
  exact absurd hone (by decide)

end BoardDiag
