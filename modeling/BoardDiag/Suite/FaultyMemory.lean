import BoardDiag.Suite.Memory
import Mathlib.Logic.Function.Basic

/-!
# Faulty words

What the data line test and the pattern test find out about a memory whose words do
not return what was written to them.

The data line test only ever sees one word, through what it reads back after a
write and a flush.  It decides whether the single-bit words come back unchanged
(`memoryDataLineTest_decides`), and that is enough to notice every line that is
stuck and every two lines that are shorted, whatever else may be wrong.

The pattern test decides whether every word of its area returns the value it is
filled with, but the event it reports when one does not carries the address of the
area and not that of the word, so it points to the fault only if the fault is at
the very beginning (`memoryPatternTest_locates_iff`).  And it does not flush: behind
a write-back cache it reads its own writes from the cache and passes whatever the
memory is like (`writeBack_masks_iff`).

## Devices

`ram` is a memory of cells, with a decoder that takes addresses to cells and a
function for each cell that says what it returns of what was written to it.  It
keeps a record of the accesses.  `writeBack` is a memory with a cache in front.
-/

namespace BoardDiag

open Machine

variable {D : Type}

/-! ## Faulty lines -/

/-- A fault of the lines of a bus. -/
inductive LineFault where
  /-- A line that always carries a zero. -/
  | stuckAt0 (i : ℕ)
  /-- A line that always carries a one. -/
  | stuckAt1 (i : ℕ)
  /-- Two lines that both carry the conjunction of what is put on them. -/
  | wiredAnd (i j : ℕ)
  /-- Two lines that both carry the disjunction of what is put on them. -/
  | wiredOr (i j : ℕ)

namespace LineFault

/-- What arrives at the other end of the lines. -/
def apply : LineFault → BitVec 32 → BitVec 32
  | stuckAt0 i, v => v &&& ~~~BitVec.twoPow 32 i
  | stuckAt1 i, v => v ||| BitVec.twoPow 32 i
  | wiredAnd i j, v =>
      if v.getLsbD i && v.getLsbD j then v
      else v &&& ~~~(BitVec.twoPow 32 i ||| BitVec.twoPow 32 j)
  | wiredOr i j, v =>
      if v.getLsbD i || v.getLsbD j then v ||| (BitVec.twoPow 32 i ||| BitVec.twoPow 32 j)
      else v

/-- The fault is one of the lines below `k`, or of two of them. -/
def Below (k : ℕ) : LineFault → Prop
  | stuckAt0 i | stuckAt1 i => i < k
  | wiredAnd i j | wiredOr i j => i < k ∧ j < k ∧ i ≠ j

end LineFault

/-- Words that differ in a bit differ. -/
theorem ne_of_getLsbD {v w : BitVec 32} {i : ℕ} (h : v.getLsbD i ≠ w.getLsbD i) : v ≠ w := by
  rintro rfl
  exact h rfl

namespace LineFault

/-- **Every fault of a line shows in some single-bit word.** -/
theorem exists_apply_ne {φ : LineFault} (h : φ.Below 32) :
    ∃ i < 32, φ.apply (BitVec.twoPow 32 i) ≠ BitVec.twoPow 32 i := by
  cases φ with
  | stuckAt0 i =>
      refine ⟨i, h, ne_of_getLsbD (i := i) ?_⟩
      have hi : i < 32 := h
      simp [apply, hi]
  | stuckAt1 i =>
      -- any other line will do: its word comes back with a second one
      have hi : i < 32 := h
      obtain ⟨j, hj, hne⟩ : ∃ j < 32, j ≠ i := by
        by_cases h0 : i = 0
        · exact ⟨1, by decide, by omega⟩
        · exact ⟨0, by decide, fun h => h0 h.symm⟩
      refine ⟨j, hj, ne_of_getLsbD (i := i) ?_⟩
      simp [apply, hi, hne.symm]
  | wiredAnd i j =>
      obtain ⟨hi, -, hne⟩ := h
      refine ⟨i, hi, ne_of_getLsbD (i := i) ?_⟩
      simp [apply, hi, hne]
  | wiredOr i j =>
      obtain ⟨hi, hj, hne⟩ := h
      refine ⟨i, hi, ne_of_getLsbD (i := j) ?_⟩
      simp [apply, hi, hj, hne.symm]

end LineFault

/-! ## The data line test -/

/-- What has been reported since, by a program that has not been given another test
id. -/
def Fixture.Since (s₀ s : Fixture D) (new : List Report) : Prop :=
  s.curTestId = s₀.curTestId ∧ s.reports = s₀.reports ++ new

theorem Fixture.since_refl (s : Fixture D) : s.Since s [] :=
  ⟨rfl, (List.append_nil s.reports).symm⟩

/-- **The word at an address returns `g v`** once `v` has been written to it and the
cache has been flushed. -/
def MemoryDriver.ReadsBack (io : MemoryDriver D) (addr : BitVec 32)
    (g : BitVec 32 → BitVec 32) : Prop :=
  ∀ v d, (io.load addr (io.flushDcacheAll (io.store addr v d))).1 = g v

/-- The event the data line test reports. -/
def dataLineEvent (curTestId testId mem_address pat read : BitVec 32) : Report :=
  .event (eventInit curTestId testId .devDataMismatch [mem_address, pat, read])

section DataLine

variable {io : MemoryDriver D} {mem_address : BitVec 32} {g : BitVec 32 → BitVec 32}

/-- One word is written, flushed and read. -/
theorem run_checkDataLine (h : io.ReadsBack mem_address g) (testId pat : BitVec 32)
    (s : Fixture D) :
    ∃ d, (checkDataLine io testId mem_address pat).run s =
      if g pat ≠ pat then
        .ok (some .fail) (Fixture.reported { s with dev := d }
          (dataLineEvent s.curTestId testId mem_address pat (g pat)))
      else .ok none { s with dev := d } := by
  refine ⟨(io.load mem_address (io.flushDcacheAll (io.store mem_address pat s.dev))).2, ?_⟩
  have hread := h pat s.dev
  rw [checkDataLine, EStateM.run_bind, storeWord, run_drive]
  simp only
  rw [EStateM.run_bind, flushDcacheAll, run_drive]
  simp only
  rw [EStateM.run_bind, loadWord, run_drive]
  simp only [hread]
  by_cases hg : g pat ≠ pat
  · rw [if_pos hg, if_pos hg]
    rfl
  · rw [if_neg hg, if_neg hg]
    rfl

theorem triple_checkDataLine_good (h : io.ReadsBack mem_address g) (testId : BitVec 32)
    {pat : BitVec 32} (hg : g pat = pat) (s₀ : Fixture D) :
    Triple (s₀.Since · []) (checkDataLine io testId mem_address pat)
      fun r s => r = none ∧ s₀.Since s [] := by
  intro s hs
  obtain ⟨d, hrun⟩ := run_checkDataLine h testId pat s
  rw [if_neg (not_not.mpr hg)] at hrun
  exact ⟨none, _, hrun, rfl, hs⟩

theorem triple_checkDataLine_bad (h : io.ReadsBack mem_address g) (testId : BitVec 32)
    {pat : BitVec 32} (hg : g pat ≠ pat) (s₀ : Fixture D) :
    Triple (s₀.Since · []) (checkDataLine io testId mem_address pat)
      fun r s => ∃ a, r = some a ∧ a = .fail ∧
        s₀.Since s [dataLineEvent s₀.curTestId testId mem_address pat (g pat)] := by
  rintro s ⟨hcur, hreports⟩
  obtain ⟨d, hrun⟩ := run_checkDataLine h testId pat s
  rw [if_pos hg] at hrun
  refine ⟨some .fail, _, hrun, .fail, rfl, rfl, hcur, ?_⟩
  show s.reports ++ _ = _
  rw [hreports, List.append_nil, hcur]

/-- **What the data line test finds.** -/
theorem triple_memoryDataLineTest (h : io.ReadsBack mem_address g) {fuel : ℕ}
    (hfuel : 32 < fuel) (testId : BitVec 32) (s₀ : Fixture D) :
    Triple (s₀.Since · []) (memoryDataLineTest io fuel testId (some ⟨mem_address⟩))
      fun r s =>
        (r = .pass ∧ (∀ i < 32, g (BitVec.twoPow 32 i) = BitVec.twoPow 32 i) ∧
          s₀.Since s []) ∨
        ∃ i < 32, g (BitVec.twoPow 32 i) ≠ BitVec.twoPow 32 i ∧
          (∀ j < i, g (BitVec.twoPow 32 j) = BitVec.twoPow 32 j) ∧ r = .fail ∧
          s₀.Since s [dataLineEvent s₀.curTestId testId mem_address (BitVec.twoPow 32 i)
            (g (BitVec.twoPow 32 i))] := by
  unfold memoryDataLineTest
  rw [deref_some, pure_bind, walkPowers_ne_zero hfuel]
  refine .bind (.searchFrom_until (I := fun _ s => s₀.Since s [])
    (B := fun i => g (BitVec.twoPow 32 i) ≠ BitVec.twoPow 32 i) 0 32
    (fun j _ _ hj => triple_checkDataLine_good h testId (not_not.mp hj) s₀)
    (fun j _ _ hj => triple_checkDataLine_bad h testId hj s₀)) fun r => ?_
  rintro s (⟨rfl, hall, hs⟩ | ⟨i, a, ⟨-, hi, hbad, hleast⟩, rfl, rfl, hs⟩)
  · refine ⟨.pass, s, rfl, .inl ⟨rfl, fun i hi => not_not.mp (hall i (Nat.zero_le i) ?_), hs⟩⟩
    rwa [Nat.zero_add]
  · rw [Nat.zero_add] at hi
    exact ⟨.fail, s, rfl, .inr ⟨i, hi, hbad,
      fun j hj => not_not.mp (hleast j (Nat.zero_le j) hj), rfl, hs⟩⟩

/-- **The data line test decides whether the single-bit words come back.**  For every
readback function `g`, whatever the fixture:

* the test returns, and it passes exactly if `g` leaves all single-bit words alone;
* otherwise it fails, and it reports one event, which carries the first single-bit
  word that does not come back and what comes back instead;
* so it fails if `g` treats the single-bit words like a bus with a line that is stuck
  or two lines that are shorted, whatever it does to other words. -/
theorem memoryDataLineTest_decides (h : io.ReadsBack mem_address g) {fuel : ℕ}
    (hfuel : 32 < fuel) (testId : BitVec 32) (s : Fixture D) :
    ∃ r s', (memoryDataLineTest io fuel testId (some ⟨mem_address⟩)).run s = .ok r s' ∧
      (r = .pass ↔ ∀ i < 32, g (BitVec.twoPow 32 i) = BitVec.twoPow 32 i) ∧
      (r = .pass ∧ s'.reports = s.reports ∨
        r = .fail ∧ ∃ i < 32, g (BitVec.twoPow 32 i) ≠ BitVec.twoPow 32 i ∧
          (∀ j < i, g (BitVec.twoPow 32 j) = BitVec.twoPow 32 j) ∧
          s'.reports = s.reports ++ [dataLineEvent s.curTestId testId mem_address
            (BitVec.twoPow 32 i) (g (BitVec.twoPow 32 i))]) ∧
      ∀ φ : LineFault, φ.Below 32 →
        (∀ i < 32, g (BitVec.twoPow 32 i) = φ.apply (BitVec.twoPow 32 i)) → r = .fail := by
  obtain ⟨r, s', hrun, hr⟩ := triple_memoryDataLineTest h hfuel testId s s s.since_refl
  refine ⟨r, s', hrun, ?_⟩
  rcases hr with ⟨rfl, hall, -, hreports⟩ | ⟨i, hi, hbad, hleast, rfl, -, hreports⟩
  · refine ⟨iff_of_true rfl hall, .inl ⟨rfl, by rwa [List.append_nil] at hreports⟩, ?_⟩
    intro φ hφ hlike
    obtain ⟨i, hi, hne⟩ := φ.exists_apply_ne hφ
    exact absurd ((hlike i hi).symm.trans (hall i hi)) hne
  · exact ⟨iff_of_false (by decide) fun hall => hbad (hall i hi),
      .inr ⟨rfl, i, hi, hbad, hleast, hreports⟩, fun _ _ _ => rfl⟩

end DataLine

/-! ## A memory of cells -/

/-- An access to the memory. -/
inductive Access where
  | write (addr : BitVec 32)
  | read (addr : BitVec 32)
  deriving DecidableEq

/-- A memory with cells `C`: what each of them reads as, and the accesses so far. -/
structure Ram (C : Type) where
  cells : C → BitVec 32
  accesses : List Access

/-- **A memory of independent cells.**  The decoder takes an address to a cell, and
the cell reads as `g c v` once `v` has been written to it.  There is no cache. -/
def ram {C : Type} [DecidableEq C] (decode : BitVec 32 → C)
    (g : C → BitVec 32 → BitVec 32) : MemoryDriver (Ram C) where
  store addr value m :=
    { cells := Function.update m.cells (decode addr) (g (decode addr) value)
      accesses := m.accesses ++ [.write addr] }
  load addr m := (m.cells (decode addr), { m with accesses := m.accesses ++ [.read addr] })
  flushDcacheAll m := m

theorem ram_readsBack {C : Type} [DecidableEq C] (decode : BitVec 32 → C)
    (g : C → BitVec 32 → BitVec 32) (addr : BitVec 32) :
    (ram decode g).ReadsBack addr (g (decode addr)) := by
  intro v m
  show Function.update m.cells (decode addr) (g (decode addr) v) (decode addr) = _
  rw [Function.update_self]

/-- The data line test notices a line that is stuck. -/
theorem stuck_line_detected :
    ∃ s', (memoryDataLineTest (ram id fun _ => (LineFault.stuckAt0 3).apply) 33 1
      (some ⟨0x80000000⟩)).run (Fixture.atBoot ⟨fun _ => 0, []⟩) = .ok .fail s' := by
  obtain ⟨r, s', hrun, -, -, hfaults⟩ :=
    memoryDataLineTest_decides (ram_readsBack id (fun _ => (LineFault.stuckAt0 3).apply)
      0x80000000) (by decide : 32 < 33) 1 (Fixture.atBoot ⟨fun _ => 0, []⟩)
  have hr := hfaults (.stuckAt0 3) (by decide : 3 < 32) fun _ _ => rfl
  exact ⟨s', hr ▸ hrun⟩

/-! ## The pattern test -/

/-- The addresses written to, in order. -/
def writesOf (accesses : List Access) : List (BitVec 32) :=
  accesses.filterMap fun
    | .write addr => some addr
    | .read _ => none

theorem writesOf_append_write (accesses : List Access) (addr : BitVec 32) :
    writesOf (accesses ++ [.write addr]) = writesOf accesses ++ [addr] :=
  List.filterMap_append

theorem writesOf_append_read (accesses : List Access) (addr : BitVec 32) :
    writesOf (accesses ++ [.read addr]) = writesOf accesses := by
  rw [writesOf, List.filterMap_append]
  exact List.append_nil _

/-- The event the pattern test reports, with the address it names. -/
def patternEvent (curTestId testId : BitVec 32) (a : AMemoryPatternTest)
    (named readback : BitVec 32) : Report :=
  .event (eventInit curTestId testId .devDataMismatch [named, a.value, readback])

/-- The word at index `i` does not return the value it is filled with. -/
def AMemoryPatternTest.Bad (a : AMemoryPatternTest)
    (g : BitVec 32 → BitVec 32 → BitVec 32) (i : ℕ) : Prop :=
  g (a.word i) a.value ≠ a.value

instance (a : AMemoryPatternTest) (g : BitVec 32 → BitVec 32 → BitVec 32) (i : ℕ) :
    Decidable (a.Bad g i) :=
  inferInstanceAs (Decidable (g (a.word i) a.value ≠ a.value))

/-- The word at index `i` is the first of the area that does not. -/
def AMemoryPatternTest.FirstBad (a : AMemoryPatternTest)
    (g : BitVec 32 → BitVec 32 → BitVec 32) (i : ℕ) : Prop :=
  i < a.words ∧ a.Bad g i ∧ ∀ j < i, ¬ a.Bad g j

section Pattern

variable {g : BitVec 32 → BitVec 32 → BitVec 32} {a : AMemoryPatternTest}
  {s₀ : Fixture (Ram (BitVec 32))}

/-- The first `j` words have been written since `s₀`, and nothing else. -/
structure Filled (g : BitVec 32 → BitVec 32 → BitVec 32) (a : AMemoryPatternTest)
    (s₀ : Fixture (Ram (BitVec 32))) (j : ℕ) (s : Fixture (Ram (BitVec 32))) : Prop where
  since : s₀.Since s []
  cells : ∀ i < j, s.dev.cells (a.word i) = g (a.word i) a.value
  writes : writesOf s.dev.accesses = writesOf s₀.dev.accesses ++ (List.range j).map a.word

theorem filled_zero (g : BitVec 32 → BitVec 32 → BitVec 32) (a : AMemoryPatternTest)
    (s₀ : Fixture (Ram (BitVec 32))) : Filled g a s₀ 0 s₀ where
  since := s₀.since_refl
  cells i hi := absurd hi (Nat.not_lt_zero i)
  writes := (List.append_nil _).symm

theorem triple_fillWord (j : ℕ) :
    Triple (Filled g a s₀ j) (storeWord (ram id g) (a.word j) a.value)
      fun _ => Filled g a s₀ (j + 1) := by
  intro s hs
  refine ⟨(), _, rfl, hs.since, fun i hi => ?_, ?_⟩
  · show Function.update s.dev.cells (a.word j) (g (a.word j) a.value) (a.word i) = _
    -- a word that is written again is written with the same value
    by_cases hij : a.word i = a.word j
    · rw [hij, Function.update_self]
    · rw [Function.update_of_ne hij]
      refine hs.cells i (Nat.lt_of_le_of_ne (Nat.le_of_lt_succ hi) fun h => hij ?_)
      rw [h]
  · show writesOf (s.dev.accesses ++ [.write (a.word j)]) = _
    rw [writesOf_append_write, hs.writes, List.range_succ, List.map_append, List.append_assoc]
    rfl

theorem run_checkPattern (testId : BitVec 32) {i n : ℕ} (hi : i < n)
    {s : Fixture (Ram (BitVec 32))} (hs : Filled g a s₀ n s) :
    ∃ t, Filled g a s₀ n t ∧ (checkPattern (ram id g) testId a i).run s =
      if a.Bad g i then
        .ok (some .fail) (t.reported (patternEvent s₀.curTestId testId a a.mem_address
          (g (a.word i) a.value)))
      else .ok none t := by
  refine ⟨{ s with dev := ((ram id g).load (a.word i) s.dev).2 },
    ⟨hs.since, hs.cells, ?_⟩, ?_⟩
  · exact (writesOf_append_read _ _).trans hs.writes
  · have hread : ((ram id g).load (a.word i) s.dev).1 = g (a.word i) a.value := hs.cells i hi
    rw [checkPattern, EStateM.run_bind, loadWord, run_drive]
    simp only [hread]
    by_cases hbad : g (a.word i) a.value ≠ a.value
    · rw [if_pos hbad, if_pos (show a.Bad g i from hbad), ← hs.since.1]
      rfl
    · rw [if_neg hbad, if_neg (show ¬ a.Bad g i from hbad)]
      rfl

theorem triple_checkPattern_good (testId : BitVec 32) {i n : ℕ} (hi : i < n)
    (hgood : ¬ a.Bad g i) :
    Triple (Filled g a s₀ n) (checkPattern (ram id g) testId a i)
      fun r s => r = none ∧ Filled g a s₀ n s := by
  intro s hs
  obtain ⟨t, ht, hrun⟩ := run_checkPattern testId hi hs
  rw [if_neg hgood] at hrun
  exact ⟨none, t, hrun, rfl, ht⟩

theorem triple_checkPattern_bad (testId : BitVec 32) {i n : ℕ} (hi : i < n)
    (hbad : a.Bad g i) :
    Triple (Filled g a s₀ n) (checkPattern (ram id g) testId a i)
      fun r s => ∃ b, r = some b ∧ b = .fail ∧
        s₀.Since s [patternEvent s₀.curTestId testId a a.mem_address (g (a.word i) a.value)] ∧
        writesOf s.dev.accesses = writesOf s₀.dev.accesses ++ (List.range n).map a.word := by
  intro s hs
  obtain ⟨t, ht, hrun⟩ := run_checkPattern testId hi hs
  rw [if_pos hbad] at hrun
  refine ⟨some .fail, _, hrun, .fail, rfl, rfl, ⟨ht.since.1, ?_⟩, ht.writes⟩
  show t.reports ++ _ = _
  rw [ht.since.2, List.append_nil]

/-- **What the pattern test finds.** -/
theorem triple_memoryPatternTest (testId : BitVec 32) (s₀ : Fixture (Ram (BitVec 32))) :
    Triple (· = s₀) (memoryPatternTest (ram id g) testId (some a)) fun r s =>
      writesOf s.dev.accesses = writesOf s₀.dev.accesses ++ (List.range a.words).map a.word ∧
      ((r = .pass ∧ (∀ i < a.words, ¬ a.Bad g i) ∧ s₀.Since s []) ∨
        ∃ i, a.FirstBad g i ∧ r = .fail ∧ s₀.Since s
          [patternEvent s₀.curTestId testId a a.mem_address (g (a.word i) a.value)]) := by
  unfold memoryPatternTest
  refine .bind (Q := fun _ => Filled g a s₀ a.words) ?_ fun _ => ?_
  · refine (Triple.forFrom (I := fun j (_ : Unit) => Filled g a s₀ j) 0 a.words ()
      fun j _ _ _ => triple_fillWord j).conseq (fun s hs => ?_) fun _ s hs => ?_
    · rw [hs]
      exact filled_zero g a s₀
    · rwa [Nat.zero_add] at hs
  · refine .bind (.searchFrom_until (I := fun _ => Filled g a s₀ a.words) (B := a.Bad g)
      0 a.words (fun j _ hj => triple_checkPattern_good testId (by omega))
      (fun j _ hj => triple_checkPattern_bad testId (by omega))) fun r => ?_
    rintro s (⟨rfl, hall, hs⟩ | ⟨i, b, ⟨-, hi, hbad, hleast⟩, rfl, rfl, hs, hwrites⟩)
    · exact ⟨.pass, s, rfl, hs.writes, .inl ⟨rfl, fun i hi => hall i (Nat.zero_le i) (by omega),
        hs.since⟩⟩
    · exact ⟨.fail, s, rfl, hwrites, .inr ⟨i, ⟨by omega, hbad,
        fun j hj => hleast j (Nat.zero_le j) hj⟩, rfl, hs⟩⟩

theorem AMemoryPatternTest.words_le (a : AMemoryPatternTest) : a.words < 2 ^ 30 := by
  have hsize := a.size.isLt
  unfold words
  omega

/-- Only the first word has the address of the area. -/
theorem AMemoryPatternTest.eq_zero_of_word_eq {i : ℕ} (hi : i < a.words)
    (h : a.word i = a.mem_address) : i = 0 := by
  have hlt := a.words_le
  have hnat := congrArg BitVec.toNat h
  rw [word, wordAt, BitVec.toNat_add, BitVec.toNat_mul, BitVec.toNat_ofNat,
    show (4 : BitVec 32).toNat = 4 from rfl] at hnat
  have hbase := a.mem_address.isLt
  omega

theorem AMemoryPatternTest.word_zero (a : AMemoryPatternTest) : a.word 0 = a.mem_address :=
  BitVec.add_zero a.mem_address

theorem patternEvent_inj {curTestId testId : BitVec 32} {named named' r r' : BitVec 32}
    (h : patternEvent curTestId testId a named r = patternEvent curTestId testId a named' r') :
    named = named' := by
  injection h with h
  exact (List.cons.inj (congrArg DiagEventParams.address h)).1

/-- **What the pattern test is for**: it writes the words of its area and no others, it
passes exactly if all of them return the value, and otherwise it fails and reports
one event, with the address of the first word that does not, the value, and what was
read. -/
structure Locates (g : BitVec 32 → BitVec 32 → BitVec 32) (a : AMemoryPatternTest)
    (testId : BitVec 32) (s : Fixture (Ram (BitVec 32))) (r : TestResultTypes)
    (s' : Fixture (Ram (BitVec 32))) : Prop where
  writes : writesOf s'.dev.accesses =
    writesOf s.dev.accesses ++ (List.range a.words).map a.word
  pass_iff : r = .pass ↔ ∀ i < a.words, ¬ a.Bad g i
  reports_pass : r = .pass → s'.reports = s.reports
  reports_fail : r ≠ .pass → r = .fail ∧ ∃ i, a.FirstBad g i ∧ s'.reports =
    s.reports ++ [patternEvent s.curTestId testId a (a.word i) (g (a.word i) a.value)]

theorem AMemoryPatternTest.FirstBad.unique {i j : ℕ} (hi : a.FirstBad g i)
    (hj : a.FirstBad g j) : i = j := by
  rcases Nat.lt_trichotomy i j with hlt | heq | hgt
  · exact absurd hi.2.1 (hj.2.2 i hlt)
  · exact heq
  · exact absurd hj.2.1 (hi.2.2 j hgt)

/-- A test that has passed is what it should be. -/
theorem locates_of_pass {testId : BitVec 32} {s s' : Fixture (Ram (BitVec 32))}
    (hwrites : writesOf s'.dev.accesses =
      writesOf s.dev.accesses ++ (List.range a.words).map a.word)
    (hall : ∀ i < a.words, ¬ a.Bad g i) (hs : s.Since s' []) :
    Locates g a testId s .pass s' where
  writes := hwrites
  pass_iff := iff_of_true rfl hall
  reports_pass _ := by rw [hs.2, List.append_nil]
  reports_fail h := absurd rfl h

/-- A test that has failed is what it should be if the first bad word is the first
word. -/
theorem locates_iff_of_fail {testId : BitVec 32} {s s' : Fixture (Ram (BitVec 32))} {i : ℕ}
    (hwrites : writesOf s'.dev.accesses =
      writesOf s.dev.accesses ++ (List.range a.words).map a.word)
    (hi : a.FirstBad g i) (hs : s.Since s' [patternEvent s.curTestId testId a a.mem_address
      (g (a.word i) a.value)]) :
    Locates g a testId s .fail s' ↔ i = 0 := by
  constructor
  · intro h
    obtain ⟨-, j, hj, hreports⟩ := h.reports_fail (by decide)
    rw [hj.unique hi, hs.2, List.append_cancel_left_eq, List.singleton_inj] at hreports
    exact AMemoryPatternTest.eq_zero_of_word_eq hi.1 (patternEvent_inj hreports).symm
  · rintro rfl
    refine ⟨hwrites, iff_of_false (by decide) fun hall => hall 0 hi.1 hi.2.1,
      fun h => absurd h (by decide), fun _ => ⟨rfl, 0, hi, ?_⟩⟩
    rw [hs.2, a.word_zero]

/-- **When the pattern test points to the fault.**  On every memory of words that may
each return something else than what was written, the test returns, and it does what
it is for exactly if the first word of the area is bad or no word is. -/
theorem memoryPatternTest_locates_iff (g : BitVec 32 → BitVec 32 → BitVec 32)
    (a : AMemoryPatternTest) (testId : BitVec 32) (s : Fixture (Ram (BitVec 32))) :
    ∃ r s', (memoryPatternTest (ram id g) testId (some a)).run s = .ok r s' ∧
      (Locates g a testId s r s' ↔ ((∃ i < a.words, a.Bad g i) → a.Bad g 0)) := by
  obtain ⟨r, s', hrun, hwrites, hr⟩ := triple_memoryPatternTest (a := a) (g := g) testId s s rfl
  refine ⟨r, s', hrun, ?_⟩
  rcases hr with ⟨rfl, hall, hs⟩ | ⟨i, hi, rfl, hs⟩
  · refine iff_of_true (locates_of_pass hwrites hall hs) ?_
    rintro ⟨i, hi, hbad⟩
    exact absurd hbad (hall i hi)
  · rw [locates_iff_of_fail hwrites hi hs]
    constructor
    · rintro rfl _
      exact hi.2.1
    · intro h0
      by_contra hne
      exact hi.2.2 0 (Nat.pos_of_ne_zero hne) (h0 ⟨i, hi.1, hi.2.1⟩)

end Pattern

/-- A memory whose second word always reads as zero. -/
def secondWordDead (addr v : BitVec 32) : BitVec 32 := if addr = 0x80000004 then 0 else v

/-- The fault is at `0x80000004`, and the event names `0x80000000`. -/
theorem second_word_not_located :
    ∃ s', (memoryPatternTest (ram id secondWordDead) 1 (some ⟨0x80000000, 8, 1⟩)).run
        (Fixture.atBoot ⟨fun _ => 0, []⟩) = .ok .fail s' ∧
      s'.reports = [patternEvent 0 1 ⟨0x80000000, 8, 1⟩ 0x80000000 0] ∧
      AMemoryPatternTest.FirstBad ⟨0x80000000, 8, 1⟩ secondWordDead 1 ∧
      ¬ Locates secondWordDead ⟨0x80000000, 8, 1⟩ 1 (Fixture.atBoot ⟨fun _ => 0, []⟩) .fail s' := by
  have hfirst : AMemoryPatternTest.FirstBad ⟨0x80000000, 8, 1⟩ secondWordDead 1 := by
    refine ⟨by decide, by decide, fun j hj => ?_⟩
    obtain rfl : j = 0 := by omega
    decide
  obtain ⟨r, s', hrun, hwrites, ⟨-, hall, -⟩ | ⟨i, hi, rfl, hs⟩⟩ :=
    triple_memoryPatternTest (a := ⟨0x80000000, 8, 1⟩) (g := secondWordDead) 1
      (Fixture.atBoot ⟨fun _ => 0, []⟩) _ rfl
  · exact absurd hfirst.2.1 (hall 1 (by decide))
  · obtain rfl : i = 1 := hi.unique hfirst
    refine ⟨s', hrun, hs.2, hfirst, fun h => ?_⟩
    exact absurd ((locates_iff_of_fail hwrites hi hs).mp h) (by decide)

/-! ## Behind a write-back cache -/

/-- A memory with a write-back cache: what the words of the memory read as, and the
words that have been written and not yet written back. -/
structure WriteBack where
  words : BitVec 32 → BitVec 32
  dirty : BitVec 32 → Option (BitVec 32)

/-- **The memory of `ram id g` behind a write-back cache.**  A word that has been
written is served from the cache until a flush writes all of them back and discards
them. -/
def writeBack (g : BitVec 32 → BitVec 32 → BitVec 32) : MemoryDriver WriteBack where
  store addr value m := { m with dirty := Function.update m.dirty addr (some value) }
  load addr m := ((m.dirty addr).getD (m.words addr), m)
  flushDcacheAll m :=
    { words := fun addr => (m.dirty addr).elim (m.words addr) (g addr)
      dirty := fun _ => none }

theorem writeBack_readsBack (g : BitVec 32 → BitVec 32 → BitVec 32) (addr : BitVec 32) :
    (writeBack g).ReadsBack addr (g addr) := by
  intro v m
  show (Function.update m.dirty addr (some v) addr).elim (m.words addr) (g addr) = g addr v
  rw [Function.update_self]
  rfl

/-- What a test returns, if it does. -/
def verdict (x : TestProg D TestResultTypes) (s : Fixture D) : Option TestResultTypes :=
  match x.run s with
  | .ok r _ => some r
  | .error _ _ => none

theorem verdict_of_run {x : TestProg D TestResultTypes} {s s' : Fixture D}
    {r : TestResultTypes} (h : x.run s = .ok r s') : verdict x s = some r := by
  rw [verdict, h]

/-- The verdict of the data line test only depends on what the word reads as. -/
theorem verdict_memoryDataLineTest_eq {D' : Type} {io : MemoryDriver D} {io' : MemoryDriver D'}
    {mem_address : BitVec 32} {g : BitVec 32 → BitVec 32} (h : io.ReadsBack mem_address g)
    (h' : io'.ReadsBack mem_address g) {fuel : ℕ} (hfuel : 32 < fuel) (testId : BitVec 32)
    (s : Fixture D) (s' : Fixture D') :
    verdict (memoryDataLineTest io fuel testId (some ⟨mem_address⟩)) s =
      verdict (memoryDataLineTest io' fuel testId (some ⟨mem_address⟩)) s' := by
  obtain ⟨r, t, hrun, hr⟩ := triple_memoryDataLineTest h hfuel testId s s s.since_refl
  obtain ⟨r', t', hrun', hr'⟩ := triple_memoryDataLineTest h' hfuel testId s' s' s'.since_refl
  rw [verdict_of_run hrun, verdict_of_run hrun']
  rcases hr with ⟨rfl, hall, -⟩ | ⟨i, hi, hbad, -, rfl, -⟩
  · rcases hr' with ⟨rfl, -⟩ | ⟨j, hj, hbad, -⟩
    · rfl
    · exact absurd (hall j hj) hbad
  · rcases hr' with ⟨-, hall, -⟩ | ⟨j, -, -, -, rfl, -⟩
    · exact absurd (hall i hi) hbad
    · rfl

theorem verdict_memoryPatternTest_ram (g : BitVec 32 → BitVec 32 → BitVec 32)
    (a : AMemoryPatternTest) (testId : BitVec 32) (s : Fixture (Ram (BitVec 32))) :
    verdict (memoryPatternTest (ram id g) testId (some a)) s =
      if ∀ i < a.words, ¬ a.Bad g i then some .pass else some .fail := by
  obtain ⟨r, s', hrun, -, hr⟩ := triple_memoryPatternTest (a := a) (g := g) testId s s rfl
  rw [verdict_of_run hrun]
  rcases hr with ⟨rfl, hall, -⟩ | ⟨i, hi, rfl, -⟩
  · rw [if_pos hall]
  · rw [if_neg fun hall => hall i hi.1 hi.2.1]

section WriteBack

variable {g : BitVec 32 → BitVec 32 → BitVec 32} {a : AMemoryPatternTest}

/-- The first `j` words of the area are served from the cache. -/
def Cached (a : AMemoryPatternTest) (j : ℕ) (s : Fixture WriteBack) : Prop :=
  ∀ i < j, s.dev.dirty (a.word i) = some a.value

theorem triple_cacheWord (j : ℕ) :
    Triple (Cached a j) (storeWord (writeBack g) (a.word j) a.value)
      fun _ => Cached a (j + 1) := by
  intro s hs
  refine ⟨(), _, rfl, fun i hi => ?_⟩
  show Function.update s.dev.dirty (a.word j) (some a.value) (a.word i) = _
  by_cases hij : a.word i = a.word j
  · rw [hij, Function.update_self]
  · rw [Function.update_of_ne hij]
    refine hs i (Nat.lt_of_le_of_ne (Nat.le_of_lt_succ hi) fun h => hij ?_)
    rw [h]

theorem triple_checkPattern_cached (testId : BitVec 32) {i n : ℕ} (hi : i < n) :
    Triple (Cached a n) (checkPattern (writeBack g) testId a i)
      fun r s => r = none ∧ Cached a n s := by
  intro s hs
  refine ⟨none, s, ?_, rfl, hs⟩
  have hread : ((writeBack g).load (a.word i) s.dev).1 = a.value := by
    show (s.dev.dirty (a.word i)).getD (s.dev.words (a.word i)) = a.value
    rw [hs i hi]
    rfl
  rw [checkPattern, EStateM.run_bind, loadWord, run_drive]
  simp only [hread]
  rw [if_neg (not_not.mpr rfl)]
  rfl

/-- **Behind the cache the pattern test passes**, whatever the memory is like. -/
theorem verdict_memoryPatternTest_writeBack (g : BitVec 32 → BitVec 32 → BitVec 32)
    (a : AMemoryPatternTest) (testId : BitVec 32) (s : Fixture WriteBack) :
    verdict (memoryPatternTest (writeBack g) testId (some a)) s = some .pass := by
  have htest : Triple (Cached a 0) (memoryPatternTest (writeBack g) testId (some a))
      fun r _ => r = .pass := by
    unfold memoryPatternTest
    refine .bind (.forFrom (I := fun j (_ : Unit) => Cached a j) 0 a.words ()
      fun j _ _ _ => triple_cacheWord j) fun _ => ?_
    rw [Nat.zero_add]
    refine .bind (.searchFrom (I := fun _ => Cached a a.words) 0 a.words
      fun j _ hj => triple_checkPattern_cached testId (by omega)) fun r => .of_fact fun hr => ?_
    subst hr
    exact .pure fun _ _ => rfl
  obtain ⟨r, s', hrun, rfl⟩ := htest s fun i hi => absurd hi (Nat.not_lt_zero i)
  exact verdict_of_run hrun

/-- **What a write-back cache hides.**  For every memory of independent words, every
configuration and every state of the cache and of the memory before the test:

* the data line test has the same verdict with and without the cache;
* the pattern test has the same verdict exactly if every word of its area returns the
  value it is filled with --- there is nothing to hide. -/
theorem writeBack_masks_iff (g : BitVec 32 → BitVec 32 → BitVec 32) {fuel : ℕ}
    (hfuel : 32 < fuel) (testId : BitVec 32) (s : Fixture WriteBack)
    (t : Fixture (Ram (BitVec 32))) :
    (∀ arg, verdict (memoryDataLineTest (writeBack g) fuel testId arg) s =
      verdict (memoryDataLineTest (ram id g) fuel testId arg) t) ∧
    ∀ arg, verdict (memoryPatternTest (writeBack g) testId arg) s =
        verdict (memoryPatternTest (ram id g) testId arg) t ↔
      ∀ a, arg = some a → ∀ i < a.words, g (a.word i) a.value = a.value := by
  constructor
  · intro arg
    cases arg with
    | none => rfl
    | some a =>
        obtain ⟨mem_address⟩ := a
        exact verdict_memoryDataLineTest_eq (writeBack_readsBack g mem_address)
          (ram_readsBack id g mem_address) hfuel testId s t
  · intro arg
    cases arg with
    | none => exact iff_of_true rfl fun a ha => absurd ha (by simp)
    | some a =>
        rw [verdict_memoryPatternTest_writeBack, verdict_memoryPatternTest_ram]
        by_cases hall : ∀ i < a.words, ¬ a.Bad g i
        · rw [if_pos hall]
          refine iff_of_true rfl ?_
          rintro _ ⟨rfl⟩ i hi
          exact not_not.mp (hall i hi)
        · rw [if_neg hall]
          refine iff_of_false (by decide) fun h => hall fun i hi => ?_
          exact not_not.mpr (h a rfl i hi)

end WriteBack

/-- A memory that reads as zero whatever is written to it passes behind the cache, and
fails without it. -/
theorem dead_words_masked :
    verdict (memoryPatternTest (writeBack fun _ _ => 0) 1 (some ⟨0x80000000, 4, 1⟩))
        (Fixture.atBoot ⟨fun _ => 0, fun _ => none⟩) = some .pass ∧
    verdict (memoryPatternTest (ram id fun _ _ => 0) 1 (some ⟨0x80000000, 4, 1⟩))
        (Fixture.atBoot ⟨fun _ => 0, []⟩) = some .fail := by
  refine ⟨verdict_memoryPatternTest_writeBack _ _ _ _, ?_⟩
  rw [verdict_memoryPatternTest_ram, if_neg fun hall => hall 0 (by decide) (by decide)]

/-- On a memory that works the cache makes no difference. -/
theorem good_words_not_masked :
    verdict (memoryPatternTest (writeBack fun _ v => v) 1 (some ⟨0x80000000, 4, 1⟩))
        (Fixture.atBoot ⟨fun _ => 0, fun _ => none⟩) =
      verdict (memoryPatternTest (ram id fun _ v => v) 1 (some ⟨0x80000000, 4, 1⟩))
        (Fixture.atBoot ⟨fun _ => 0, []⟩) :=
  ((writeBack_masks_iff (fun _ v => v) (by decide : 32 < 33) 1 _ _).2 _).mpr fun _ _ _ _ => rfl

end BoardDiag
