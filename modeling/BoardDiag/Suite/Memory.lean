import BoardDiag.Suite.Reports

/-!
# The memory tests

`testsuite/test_memory.c`.  Three tests of an area of memory:

* `memoryDataLineTest` walks a one through the bits of a single word;
* `memoryAddressLineTest` works on the words whose offset is zero or a power of
  two: it writes one pattern to all of them, then the opposite pattern to each in
  turn, and looks whether any other word has changed;
* `memoryPatternTest` fills an area with one value and reads it back.

Memory is reached through a `MemoryDriver`, so that it may forget, alias or
distort what it is told, and so that a cache may stand before it.  `unsigned long`
has 32 bits on both boards.

The first two tests read their configuration before they check that they have
one, so the assertion behind that check is never reached: without a configuration
they stop at the null pointer.

## Walking over the powers of two

Two of the tests walk with `x <<= 1` while some condition holds.  The bound of
such a loop only shows while it runs, so it is written with fuel;
`walkPowers_eq_searchFrom` turns it into a counted loop over the exponents.
-/

namespace BoardDiag

open Machine

variable {D α : Type}

/-- What loads, stores and `flush_dcache_all` do. -/
structure MemoryDriver (D : Type) where
  store (addr value : BitVec 32) : D → D
  load (addr : BitVec 32) : D → BitVec 32 × D
  flushDcacheAll : D → D

/-- `*addr = value`. -/
def storeWord (io : MemoryDriver D) (addr value : BitVec 32) : TestProg D Unit :=
  drive fun d => ((), io.store addr value d)

/-- The value of `*addr`. -/
def loadWord (io : MemoryDriver D) (addr : BitVec 32) : TestProg D (BitVec 32) :=
  drive (io.load addr)

/-- `flush_dcache_all()`. -/
def flushDcacheAll (io : MemoryDriver D) : TestProg D Unit :=
  drive fun d => ((), io.flushDcacheAll d)

/-- `&addr[offset]`, for an array of 32-bit words. -/
def wordAt (mem_address offset : BitVec 32) : BitVec 32 := mem_address + 4 * offset

/-- `for (x = 1; go x; x <<= 1)`, where the body may leave the loop. -/
def walkPowers (fuel : ℕ) (go : BitVec 32 → Bool)
    (body : BitVec 32 → TestProg D (Option α)) : TestProg D (Option α) :=
  whileFuel go (· <<< 1) body fuel 1

/-! ## The data line test -/

/-- `A_memory_data_line_test`. -/
structure AMemoryDataLineTest where
  mem_address : BitVec 32

/-- The body of the loop of `memory_data_line_test`: the status it breaks with, if it
does. -/
def checkDataLine (io : MemoryDriver D) (testId mem_address pat : BitVec 32) :
    TestProg D (Option TestResultTypes) := do
  storeWord io mem_address pat
  flushDcacheAll io
  let read ← loadWord io mem_address
  if read ≠ pat then
    reportEvent testId .devDataMismatch [mem_address, pat, read]
    return some .fail
  return none

/-- `memory_data_line_test(testId, arg)`. -/
def memoryDataLineTest (io : MemoryDriver D) (fuel : ℕ) (testId : BitVec 32)
    (arg : Option AMemoryDataLineTest) : TestProg D TestResultTypes := do
  -- `a->mem_address` is read before `a` is checked
  let a ← deref arg
  match ← walkPowers fuel (· ≠ 0) (checkDataLine io testId a.mem_address) with
  | some status => return status
  | none => return .pass

/-! ## The address line test -/

/-- `A_memory_address_line_test`. -/
structure AMemoryAddressLineTest where
  mem_address : BitVec 32
  size : BitVec 32

/-- `length/sizeof(uint32_t) - 1`. -/
def AMemoryAddressLineTest.mask (a : AMemoryAddressLineTest) : BitVec 32 := a.size / 4 - 1

/-- `patA`. -/
def patA : BitVec 32 := 0xAAAAAAAA

/-- `patB`. -/
def patB : BitVec 32 := ~~~patA

/-- The body of the first loop. -/
def writePatA (io : MemoryDriver D) (mem_address offsetA : BitVec 32) :
    TestProg D (Option TestResultTypes) := do
  storeWord io (wordAt mem_address offsetA) patA
  return none

/-- The body of the second loop.  The event carries a second reading of the word. -/
def checkPatA (io : MemoryDriver D) (testId mem_address offsetA : BitVec 32) :
    TestProg D (Option TestResultTypes) := do
  if (← loadWord io (wordAt mem_address offsetA)) ≠ patA then
    let read ← loadWord io (wordAt mem_address offsetA)
    reportEvent testId .devDataMismatch [patA, read]
    return some .fail
  return none

/-- The body of the loop inside the third loop.  The word is read whether or not it is
the one that has just been written. -/
def recheckPatA (io : MemoryDriver D) (testId mem_address offsetB offsetA : BitVec 32) :
    TestProg D (Option TestResultTypes) := do
  if (← loadWord io (wordAt mem_address offsetA)) ≠ patA ∧ offsetA ≠ offsetB then
    let read ← loadWord io (wordAt mem_address offsetA)
    reportEvent testId .devDataMismatch [wordAt mem_address offsetB, patA, read]
    return some .fail
  return none

/-- What the two preceding loop bodies have in common: look at a word, and where the check
fires, read it again, report it and fail. -/
def checkWord (io : MemoryDriver D) (testId addr : BitVec 32) (check : BitVec 32 → Prop)
    [DecidablePred check] (address : BitVec 32 → List (BitVec 32)) :
    TestProg D (Option TestResultTypes) := do
  if check (← loadWord io addr) then
    let read ← loadWord io addr
    reportEvent testId .devDataMismatch (address read)
    return some .fail
  return none

theorem checkPatA_eq (io : MemoryDriver D) (testId mem_address offsetA : BitVec 32) :
    checkPatA io testId mem_address offsetA =
      checkWord io testId (wordAt mem_address offsetA) (· ≠ patA) fun read => [patA, read] := rfl

theorem recheckPatA_eq (io : MemoryDriver D) (testId mem_address offsetB offsetA : BitVec 32) :
    recheckPatA io testId mem_address offsetB offsetA =
      checkWord io testId (wordAt mem_address offsetA) (fun w => w ≠ patA ∧ offsetA ≠ offsetB)
        fun read => [wordAt mem_address offsetB, patA, read] := rfl

/-- The body of the third loop. -/
def probePatB (io : MemoryDriver D) (fuel : ℕ) (testId mem_address mask offsetB : BitVec 32) :
    TestProg D (Option TestResultTypes) := do
  storeWord io (wordAt mem_address offsetB) patB
  flushDcacheAll io
  if (← loadWord io (wordAt mem_address 0)) ≠ patA then
    let read ← loadWord io (wordAt mem_address 0)
    reportEvent testId .devDataMismatch [wordAt mem_address offsetB, patA, read]
    return some .fail
  match ← walkPowers fuel (· &&& mask ≠ 0) (recheckPatA io testId mem_address offsetB) with
  | some status => return some status
  | none =>
      storeWord io (wordAt mem_address offsetB) patA
      return none

/-- `memory_address_line_test(testId, arg)`. -/
def memoryAddressLineTest (io : MemoryDriver D) (fuel : ℕ) (testId : BitVec 32)
    (arg : Option AMemoryAddressLineTest) : TestProg D TestResultTypes := do
  -- `a->mem_address` and `a->size` are read before `a` is checked
  let a ← deref arg
  let _ ← walkPowers fuel (· &&& a.mask ≠ 0) (writePatA io a.mem_address)
  storeWord io (wordAt a.mem_address 0) patB
  flushDcacheAll io
  match ← walkPowers fuel (· &&& a.mask ≠ 0) (checkPatA io testId a.mem_address) with
  | some status => return status
  | none =>
      storeWord io (wordAt a.mem_address 0) patA
      match ← walkPowers fuel (· &&& a.mask ≠ 0)
          (probePatB io fuel testId a.mem_address a.mask) with
      | some status => return status
      | none => return .pass

/-! ## The pattern test -/

/-- `A_memory_pattern_test`. -/
structure AMemoryPatternTest where
  mem_address : BitVec 32
  size : BitVec 32
  value : BitVec 32

/-- `length / sizeof (ulong)`: the number of words. -/
def AMemoryPatternTest.words (a : AMemoryPatternTest) : ℕ := a.size.toNat / 4

/-- `&mem[i]`. -/
def AMemoryPatternTest.word (a : AMemoryPatternTest) (i : ℕ) : BitVec 32 :=
  wordAt a.mem_address (BitVec.ofNat 32 i)

/-- The body of the second loop.  The event carries the address of the area, not that
of the word. -/
def checkPattern (io : MemoryDriver D) (testId : BitVec 32) (a : AMemoryPatternTest) (i : ℕ) :
    TestProg D (Option TestResultTypes) := do
  let readback ← loadWord io (a.word i)
  if readback ≠ a.value then
    reportEvent testId .devDataMismatch [a.mem_address, a.value, readback]
    return some .fail
  return none

/-- `memory_pattern_test(testId, arg)`. -/
def memoryPatternTest (io : MemoryDriver D) (testId : BitVec 32)
    (arg : Option AMemoryPatternTest) : TestProg D TestResultTypes := do
  match arg with
  | none =>
      testAssert .testMemory 189
      return .aborted
  | some a =>
      forFrom (fun i _ => storeWord io (a.word i) a.value) 0 a.words ()
      match ← searchFrom (checkPattern io testId a) 0 a.words with
      | some status => return status
      | none => return .pass

/-! ## Counting the powers of two -/

/-- The `j`-th value of the loop variable. -/
theorem iterate_shiftLeft_one (j : ℕ) :
    (fun x : BitVec 32 => x <<< 1)^[j] 1 = BitVec.twoPow 32 j := by
  induction j with
  | zero => rfl
  | succ j ih =>
      rw [Function.iterate_succ_apply', ih, BitVec.twoPow_eq, BitVec.twoPow_eq,
        ← BitVec.shiftLeft_add]

theorem twoPow_and_ne_zero_iff (mask : BitVec 32) (j : ℕ) :
    BitVec.twoPow 32 j &&& mask ≠ 0 ↔ mask.getLsbD j = true := by
  rw [BitVec.twoPow_and]
  by_cases hj : mask.getLsbD j = true
  · have hlt : j < 32 := BitVec.lt_of_getLsbD hj
    rw [if_pos hj]
    refine iff_of_true (fun h => ?_) hj
    have hbit := congrArg (fun x : BitVec 32 => x.getLsbD j) h
    simp [hlt] at hbit
  · rw [if_neg hj]
    exact iff_of_false (fun h => h rfl) hj

/-- The number of ones `mask` ends with. -/
theorem exists_low_ones (mask : BitVec 32) :
    ∃ m ≤ 32, (∀ j < m, mask.getLsbD j = true) ∧ mask.getLsbD m = false := by
  have hex : ∃ m, mask.getLsbD m = false := ⟨32, BitVec.getLsbD_of_ge mask 32 (Nat.le_refl 32)⟩
  refine ⟨Nat.find hex, Nat.find_le (BitVec.getLsbD_of_ge mask 32 (Nat.le_refl 32)),
    fun j hj => ?_, Nat.find_spec hex⟩
  rw [← Bool.not_eq_false]
  exact Nat.find_min hex hj

/-- **A walk over the powers of two** that goes on for the first `m` of them. -/
theorem walkPowers_eq_searchFrom {fuel m : ℕ} {go : BitVec 32 → Bool}
    (body : BitVec 32 → TestProg D (Option α))
    (hgo : ∀ j < m, go (BitVec.twoPow 32 j) = true) (hexit : go (BitVec.twoPow 32 m) = false)
    (hfuel : m < fuel) :
    walkPowers fuel go body = searchFrom (fun j => body (BitVec.twoPow 32 j)) 0 m := by
  rw [walkPowers, whileFuel_eq_searchFrom body (m := m)]
  · simp only [iterate_shiftLeft_one]
  · intro j hj
    rw [iterate_shiftLeft_one]
    exact hgo j hj
  · rw [iterate_shiftLeft_one]
    exact hexit
  · exact hfuel

/-- A walk while a bit is left takes 32 steps. -/
theorem walkPowers_ne_zero {fuel : ℕ} (hfuel : 32 < fuel)
    (body : BitVec 32 → TestProg D (Option α)) :
    walkPowers fuel (· ≠ 0) body = searchFrom (fun j => body (BitVec.twoPow 32 j)) 0 32 := by
  refine walkPowers_eq_searchFrom body (fun j hj => ?_) (by decide) hfuel
  have hbit := twoPow_and_ne_zero_iff (BitVec.allOnes 32) j
  rw [BitVec.and_allOnes, BitVec.getLsbD_allOnes] at hbit
  exact decide_eq_true (hbit.mpr (decide_eq_true hj))

/-- A walk below a mask takes as many steps as the mask has ones at its end. -/
theorem walkPowers_mask {fuel m : ℕ} (hfuel : m < fuel) {mask : BitVec 32}
    (hones : ∀ j < m, mask.getLsbD j = true) (hend : mask.getLsbD m = false)
    (body : BitVec 32 → TestProg D (Option α)) :
    walkPowers fuel (· &&& mask ≠ 0) body =
      searchFrom (fun j => body (BitVec.twoPow 32 j)) 0 m := by
  refine walkPowers_eq_searchFrom body (fun j hj => ?_) ?_ hfuel
  · exact decide_eq_true ((twoPow_and_ne_zero_iff mask j).mpr (hones j hj))
  · refine decide_eq_false fun h => ?_
    rw [(twoPow_and_ne_zero_iff mask m).mp h] at hend
    exact Bool.noConfusion hend

/-! ## What the tests report -/

section Reports

variable {c testId : BitVec 32} {K : Report → Prop} {bus stop : Prop} {io : MemoryDriver D}
  {fuel : ℕ}

theorem emits_checkDataLine (hK : Admits K c testId) (mem_address pat : BitVec 32) :
    Emits (logged c K bus) stop (fun _ => True) (checkDataLine io testId mem_address pat)
      fun r l _ => r.elim (l = [] ∧ True) fun status => Honest True status l := by
  unfold checkDataLine
  refine .bind_silent (emits_drive _) fun _ => .bind_silent (emits_drive _) fun _ => ?_
  refine .bind_silent (emits_drive _) fun read => ?_
  exact .ite (fun _ => emits_reportEvent_leave hK (by decide) _) fun _ =>
    .pure fun _ _ => ⟨rfl, trivial⟩

/-- **The data line test** reports an error exactly if it fails. -/
theorem emits_memoryDataLineTest (hK : Admits K c testId) (hfuel : 32 < fuel)
    (arg : Option AMemoryDataLineTest) (hstop : arg = none → stop) :
    Emits (logged c K bus) stop (fun _ => True) (memoryDataLineTest io fuel testId arg)
      fun r l _ => Honest True r l := by
  unfold memoryDataLineTest
  refine .bind_silent (emits_deref hstop) fun a => .of_fact fun _ => ?_
  rw [walkPowers_ne_zero hfuel]
  refine .bind_search (.searchFrom (fun j => emits_checkDataLine hK _ _) 0 32) ?_ fun _ _ =>
    emits_status
  exact .pure fun _ _ => honest_pass True

/-- A walk below a mask, described by what is done at each power of two. -/
theorem emits_walkPowers_mask (hfuel : 32 < fuel) (mask : BitVec 32)
    {Q : α → List Report → Fixture D → Prop} {body : BitVec 32 → TestProg D (Option α)}
    (h : ∀ x, Emits (logged c K bus) stop (fun _ => True) (body x)
      fun r l s => r.elim (l = [] ∧ True) fun a => Q a l s) :
    Emits (logged c K bus) stop (fun _ => True) (walkPowers fuel (· &&& mask ≠ 0) body)
      fun r l s => r.elim (l = [] ∧ True) fun a => Q a l s := by
  obtain ⟨m, hm, hones, hend⟩ := exists_low_ones mask
  rw [walkPowers_mask (Nat.lt_of_le_of_lt hm hfuel) hones hend]
  exact .searchFrom (fun j => h _) 0 m

theorem emits_writePatA (mem_address offsetA : BitVec 32) :
    Emits (logged c K bus) stop (fun _ => True) (writePatA io mem_address offsetA)
      fun r l _ => r.elim (l = [] ∧ True) fun _ => False :=
  .bind_silent (emits_drive _) fun _ => .pure fun _ _ => ⟨rfl, trivial⟩

theorem emits_checkWord (hK : Admits K c testId) (addr : BitVec 32) (check : BitVec 32 → Prop)
    [DecidablePred check] (address : BitVec 32 → List (BitVec 32)) :
    Emits (logged c K bus) stop (fun _ => True) (checkWord io testId addr check address)
      fun r l _ => r.elim (l = [] ∧ True) fun status => Honest True status l := by
  unfold checkWord
  refine .bind_silent (emits_drive _) fun _ => ?_
  refine .ite (fun _ => ?_) fun _ => .pure fun _ _ => ⟨rfl, trivial⟩
  exact .bind_silent (emits_drive _) fun _ => emits_reportEvent_leave hK (by decide) _

theorem emits_probePatB (hK : Admits K c testId) (hfuel : 32 < fuel)
    (mem_address mask offsetB : BitVec 32) :
    Emits (logged c K bus) stop (fun _ => True)
      (probePatB io fuel testId mem_address mask offsetB)
      fun r l _ => r.elim (l = [] ∧ True) fun status => Honest True status l := by
  unfold probePatB
  refine .bind_silent (emits_drive _) fun _ => .bind_silent (emits_drive _) fun _ => ?_
  refine .bind_silent (emits_drive _) fun _ => ?_
  refine .ite (fun _ => ?_) fun _ => ?_
  · exact .bind_silent (emits_drive _) fun _ => emits_reportEvent_leave hK (by decide) _
  · refine .bind_search (emits_walkPowers_mask hfuel mask fun x =>
      recheckPatA_eq io testId _ _ x ▸ emits_checkWord hK _ _ _) ?_ fun _ l => ?_
    · exact .bind_silent (emits_drive _) fun _ => .pure fun _ _ => ⟨rfl, trivial⟩
    · refine .pure fun _ hs => ?_
      rw [List.append_nil]
      exact hs

/-- **The address line test** reports an error exactly if it fails. -/
theorem emits_memoryAddressLineTest (hK : Admits K c testId) (hfuel : 32 < fuel)
    (arg : Option AMemoryAddressLineTest) (hstop : arg = none → stop) :
    Emits (logged c K bus) stop (fun _ => True) (memoryAddressLineTest io fuel testId arg)
      fun r l _ => Honest True r l := by
  unfold memoryAddressLineTest
  refine .bind_silent (emits_deref hstop) fun a => .of_fact fun _ => ?_
  refine .bind_search (emits_walkPowers_mask hfuel a.mask fun x => emits_writePatA _ x) ?_
    fun _ _ _ _ hs => hs.elim
  refine .bind_silent (emits_drive _) fun _ => .bind_silent (emits_drive _) fun _ => ?_
  refine .bind_search (emits_walkPowers_mask hfuel a.mask fun x =>
    checkPatA_eq io testId _ x ▸ emits_checkWord hK _ _ _) ?_ fun _ _ => emits_status
  refine .bind_silent (emits_drive _) fun _ => ?_
  refine .bind_search (emits_walkPowers_mask hfuel a.mask fun x => emits_probePatB hK hfuel _ _ x)
    ?_ fun _ _ => emits_status
  exact .pure fun _ _ => honest_pass True

theorem emits_checkPattern (hK : Admits K c testId) (a : AMemoryPatternTest) (i : ℕ) :
    Emits (logged c K bus) stop (fun _ => True) (checkPattern io testId a i)
      fun r l _ => r.elim (l = [] ∧ True) fun status => Honest True status l := by
  unfold checkPattern
  refine .bind_silent (emits_drive _) fun _ => ?_
  exact .ite (fun _ => emits_reportEvent_leave hK (by decide) _) fun _ =>
    .pure fun _ _ => ⟨rfl, trivial⟩

/-- **The pattern test** reports an error exactly if it fails. -/
theorem emits_memoryPatternTest (hK : Admits K c testId) (arg : Option AMemoryPatternTest) :
    Emits (logged c K bus) stop (fun _ => True) (memoryPatternTest io testId arg)
      fun r l _ => Answers arg.isSome True r l := by
  cases arg with
  | none => exact emits_unconfigured hK _ _ _
  | some a =>
      refine emits_answers _ ?_
      unfold memoryPatternTest
      refine .bind_silent (.forFrom_silent (fun i _ => emits_drive _) 0 a.words ()) fun _ => ?_
      refine .bind_search (.searchFrom (fun i => emits_checkPattern hK a i) 0 a.words) ?_
        fun _ _ => emits_status
      exact .pure fun _ _ => honest_pass True

end Reports

end BoardDiag
