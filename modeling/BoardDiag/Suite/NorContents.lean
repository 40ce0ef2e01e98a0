import BoardDiag.Suite.DeadStorage
import Mathlib.Data.Set.Defs

/-!
# What the NOR flash test leaves on the flash

The NOR flash test reads an area, erases it, and writes back what it has read, so a
flash that does what it is told holds the same bytes again.  Then the test erases
four megabytes from the beginning of the area on, and nothing writes those back.

`norFlashTest_preserves_iff` says what is left when the test passes: the bytes are as
before exactly if every byte the last erasure covers was blank.

## A flash that does what it is told

`SpiFlashDriver.Correct` is the specification.  Reading delivers the cells; writing
to blank cells puts the data there; an erasure that is acknowledged makes the bytes
it covers blank and leaves the others alone.  An erasure that stays inside the flash
covers its range.  One that runs past the end may be refused, cut off, or wrapped
around to the beginning, as the driver and the chip have it, so what it covers is a
parameter.
-/

namespace BoardDiag

open Machine

variable {D : Type}

/-- A byte of a blank flash. -/
def blank : Byte := 0xFF

/-- **A flash that executes its commands.**  While the board is in a state with `P`,
the flash has `size` bytes, which are `cells`, and is erased in units of `eraseSize`;
an acknowledged erasure of `len` bytes from `offset` on covers `covers offset len`. -/
structure SpiFlashDriver.Correct (io : SpiFlashDriver D) (bus cs : BitVec 32)
    (size eraseSize : ℕ) (cells : D → ℕ → Byte) (covers : ℕ → ℕ → Set ℕ) (P : D → Prop) :
    Prop where
  found : ∀ c, io.Found bus cs fun d => P d ∧ cells d = c
  size_eq : ∀ flash d, P d → (io.size flash d).toNat = size
  read : ∀ flash offset len d, P d → offset.toNat + len.toNat ≤ size →
    ∃ data d', io.spiFlashRead flash offset len d = ((0, data), d') ∧
      (∀ i < len.toNat, data i = some (cells d (offset.toNat + i))) ∧ P d' ∧ cells d' = cells d
  write : ∀ flash offset buf d, P d → offset.toNat + buf.length ≤ size →
    (∀ i < buf.length, cells d (offset.toNat + i) = blank) →
    ∃ d', io.spiFlashWrite flash offset buf d = (0, d') ∧ P d' ∧
      (∀ i (hi : i < buf.length), cells d' (offset.toNat + i) = buf[i]) ∧
      ∀ i < size, (i < offset.toNat ∨ offset.toNat + buf.length ≤ i) → cells d' i = cells d i
  erase : ∀ flash offset len d, P d →
    ∃ ret d', io.spiFlashErase flash offset len d = (ret, d') ∧ P d' ∧
      (ret = 0 → ∀ i < size, (i ∈ covers offset.toNat len.toNat → cells d' i = blank) ∧
        (i ∉ covers offset.toNat len.toNat → cells d' i = cells d i)) ∧
      (offset.toNat + len.toNat ≤ size → eraseSize ∣ offset.toNat → eraseSize ∣ len.toNat →
        ret = 0)
  covers_iff : ∀ offset len i, offset + len ≤ size →
    (i ∈ covers offset len ↔ offset ≤ i ∧ i < offset + len)

section Correct

variable {io : SpiFlashDriver D} {bus cs : BitVec 32} {size eraseSize : ℕ}
  {cells : D → ℕ → Byte} {covers : ℕ → ℕ → Set ℕ} {P : D → Prop}

/-- The board is as it should be, the bytes of the flash are given by `c`, and the static
variables by `n`. -/
def Contains (size : ℕ) (cells : D → ℕ → Byte) (P : D → Prop) (c : ℕ → Byte) (n : NorStatics)
    (s : Fixture D) : Prop :=
  P s.dev ∧ (∀ i < size, cells s.dev i = c i) ∧ s.nor = n

theorem triple_readInto (h : io.Correct bus cs size eraseSize cells covers P) (buf : TestBuf)
    (flash : Udevice) {offset len : BitVec 32} (hfits : offset.toNat + len.toNat ≤ size)
    (hlen : len.toNat ≤ spiTestLen) (c : ℕ → Byte) (n : NorStatics) :
    Triple (Contains size cells P c n) (readInto io buf flash offset len)
      fun r s => ¬ r ≠ 0 ∧ ∃ data, (∀ i < len.toNat, data i = some (c (offset.toNat + i))) ∧
        Contains size cells P c (n.fill len.toNat data buf) s := by
  rintro s ⟨hP, hc, rfl⟩
  obtain ⟨data, d, hread, hdata, hP', hcells⟩ := h.read flash offset len s.dev hP hfits
  refine ⟨0, _, run_readInto hread hlen buf, fun h => h rfl, data,
    fun i hi => (hdata i hi).trans (congrArg some (hc _ (by omega))), hP', fun i hi => ?_, rfl⟩
  show cells d i = c i
  rw [hcells]
  exact hc i hi

/-- The bytes with a range made blank. -/
def blanked (c : ℕ → Byte) (offset len : ℕ) (i : ℕ) : Byte :=
  if offset ≤ i ∧ i < offset + len then blank else c i

/-- Erasing the area. -/
theorem triple_eraseArea (h : io.Correct bus cs size eraseSize cells covers P)
    (flash : Udevice) {offset len : BitVec 32} (hfits : offset.toNat + len.toNat ≤ size)
    (hoffset : eraseSize ∣ offset.toNat) (hlen : eraseSize ∣ len.toNat) (c : ℕ → Byte)
    (n : NorStatics) :
    Triple (Contains size cells P c n) (drive (io.spiFlashErase flash offset len))
      fun r s => ¬ r ≠ 0 ∧ Contains size cells P (blanked c offset.toNat len.toNat) n s := by
  rintro s ⟨hP, hc, hn⟩
  obtain ⟨ret, d, herase, hP', hcells, hack⟩ := h.erase flash offset len s.dev hP
  obtain rfl : ret = 0 := hack hfits hoffset hlen
  refine ⟨0, { s with dev := d }, by rw [run_drive, herase], fun h => h rfl, hP',
    fun i hi => ?_, hn⟩
  have hcover := h.covers_iff offset.toNat len.toNat i hfits
  show cells d i = blanked c offset.toNat len.toNat i
  rw [blanked]
  by_cases hin : offset.toNat ≤ i ∧ i < offset.toNat + len.toNat
  · rw [if_pos hin]
    exact (hcells rfl i hi).1 (hcover.mpr hin)
  · rw [if_neg hin, ← hc i hi]
    exact (hcells rfl i hi).2 fun hmem => hin (hcover.mp hmem)

/-- **Writing back** what the buffer holds of the area that has just been erased. -/
theorem triple_writeBuf1 (h : io.Correct bus cs size eraseSize cells covers P)
    (flash : Udevice) {offset len : BitVec 32} (hfits : offset.toNat + len.toNat ≤ size)
    (hlen : len.toNat ≤ spiTestLen) (c : ℕ → Byte) {n : NorStatics}
    (hbuf : Holds n.dataTestBuf1 len.toNat fun i => c (offset.toNat + i)) :
    Triple (Contains size cells P (blanked c offset.toNat len.toNat) n)
      (writeBuf1 io flash offset len)
      fun r s => ¬ r ≠ 0 ∧ Contains size cells P c n s := by
  rintro s ⟨hP, hc, rfl⟩
  have hlist : (s.nor.dataTestBuf1.toList.take len.toNat).length = len.toNat := by
    rw [List.length_take, Vector.length_toList]
    exact Nat.min_eq_left hlen
  obtain ⟨d, hwrite, hP', hinside, houtside⟩ := h.write flash offset
    (s.nor.dataTestBuf1.toList.take len.toNat) s.dev hP (by rw [hlist]; exact hfits) (by
      intro i hi
      rw [hlist] at hi
      rw [hc _ (by omega), blanked, if_pos ⟨by omega, by omega⟩])
  refine ⟨0, _, run_writeBuf1 hwrite hlen, fun h => h rfl, hP', fun i hi => ?_, rfl⟩
  show cells d i = c i
  by_cases hin : offset.toNat ≤ i ∧ i < offset.toNat + len.toNat
  · -- inside the area the buffer comes back
    have hi' : i - offset.toNat < (s.nor.dataTestBuf1.toList.take len.toNat).length := by
      rw [hlist]
      omega
    have hback := hinside (i - offset.toNat) hi'
    have hread := hbuf (i - offset.toNat) (by omega) (by omega)
    simp only [Nat.add_sub_cancel' hin.1] at hread
    rwa [Nat.add_sub_cancel' hin.1, List.getElem_take, Vector.getElem_toList, hread] at hback
  · rw [houtside i hi (by rw [hlist]; omega), hc i hi, blanked, if_neg hin]

/-- What is left after the last erasure. -/
def Wiped (size : ℕ) (cells : D → ℕ → Byte) (covered : Set ℕ) (c : ℕ → Byte)
    (s : Fixture D) : Prop :=
  ∀ i < size, (i ∈ covered → cells s.dev i = blank) ∧ (i ∉ covered → cells s.dev i = c i)

/-- The last erasure stays inside the flash. -/
def LastEraseFits (size eraseSize offset : ℕ) : Prop :=
  offset + 0x400000 ≤ size ∧ eraseSize ∣ 0x400000

theorem triple_lastErase (h : io.Correct bus cs size eraseSize cells covers P)
    (flash : Udevice) {offset : BitVec 32} (hoffset : eraseSize ∣ offset.toNat) (c : ℕ → Byte)
    (n : NorStatics) :
    Triple (Contains size cells P c n) (drive (io.spiFlashErase flash offset 0x400000))
      fun r s => (r = 0 ∧ s.nor = n ∧ Wiped size cells (covers offset.toNat 0x400000) c s) ∨
        (r ≠ 0 ∧ ¬ LastEraseFits size eraseSize offset.toNat) := by
  rintro s ⟨hP, hc, hn⟩
  obtain ⟨ret, d, herase, -, hcells, hack⟩ := h.erase flash offset 0x400000 s.dev hP
  refine ⟨ret, { s with dev := d }, by rw [run_drive, herase], ?_⟩
  by_cases hret : ret = 0
  · refine .inl ⟨hret, hn, fun i hi => ⟨(hcells hret i hi).1, fun hnot => ?_⟩⟩
    rw [← hc i hi]
    exact (hcells hret i hi).2 hnot
  · exact .inr ⟨hret, fun hfits => hret (hack hfits.1 hoffset hfits.2)⟩

/-- **The flash after the routine**: it has succeeded, and what the last erasure covers is
blank; or it has failed, which a correct flash only lets it do if the buffers ended
differently or the last erasure did not fit. -/
theorem triple_spiFlashEraseReadWrite (h : io.Correct bus cs size eraseSize cells covers P)
    {offset len : BitVec 32} (hfits : offset.toNat + len.toNat ≤ size)
    (hlen : len.toNat ≤ spiTestLen) (hoffset : eraseSize ∣ offset.toNat)
    (haligned : eraseSize ∣ len.toNat) (c : ℕ → Byte) {n : NorStatics} {flash : Udevice}
    (hflash : n.flash = some flash) :
    Triple (Contains size cells P c n) (spiFlashEraseReadWrite io offset len)
      fun r s => (r = 0 ∧ Wiped size cells (covers offset.toNat 0x400000) c s) ∨
        (r = -1 ∧ ¬ (n.SameEnds len.toNat ∧ LastEraseFits size eraseSize offset.toNat)) := by
  unfold spiFlashEraseReadWrite
  refine .bind (.get (Q := fun s₀ s => Contains size cells P c n s₀ ∧
    Contains size cells P c n s) fun s hs => ⟨hs, hs⟩) fun s₀ => .of_fact fun hs₀ => ?_
  rw [hs₀.2.2, hflash, deref_some, pure_bind]
  have hguard : ¬ offset + len > io.size flash s₀.dev := by
    have hnat := h.size_eq flash s₀.dev hs₀.1
    have hlt := (io.size flash s₀.dev).isLt
    rw [gt_iff_lt, BitVec.lt_def, BitVec.toNat_add]
    omega
  refine .ite (fun hgt => absurd hgt hguard) fun _ => ?_
  refine .bind_check (triple_readInto h .buf1 flash hfits hlen c n) ?_
  refine .of_exists fun data₁ => .of_fact fun hdata₁ => ?_
  have hbuf : Holds (n.fill len.toNat data₁ .buf1).dataTestBuf1 len.toNat
      fun i => c (offset.toNat + i) := holds_deliver _ hdata₁
  refine .bind_check (triple_eraseArea h flash hfits hoffset haligned c _) ?_
  refine .bind_check (triple_writeBuf1 h flash hfits hlen c hbuf) ?_
  refine .bind (triple_readInto h .buf2 flash hfits hlen c _) fun _ => .of_fact fun _ => ?_
  refine .of_exists fun data₂ => .of_fact fun hdata₂ => ?_
  refine .bind (triple_lastErase h flash hoffset c _) fun r => ?_
  rintro s (⟨rfl, hn, hwiped⟩ | ⟨hret, hnotFits⟩)
  · rw [if_neg (not_not.mpr rfl)]
    -- what was read back is what was written
    obtain ⟨r, s', hrun, hwiped', hr⟩ := triple_compareBufs hdata₁ hdata₂
      (Wiped size cells (covers offset.toNat 0x400000) c) s ⟨hn, hwiped⟩
    refine ⟨r, s', hrun, hr.imp (fun h => ⟨h.1, hwiped'⟩) fun h => ⟨h.1, ?_⟩⟩
    exact fun hboth => h.2 hboth.1
  · refine ⟨-1, s, ?_, .inr ⟨rfl, fun hboth => hnotFits hboth.2⟩⟩
    rw [if_pos hret]
    rfl

/-- The whole test, on bus zero. -/
theorem triple_norFlashTest_correct {a : ANorFlashTest}
    (h : io.Correct (a.spi_bus_no.setWidth 32) (a.spi_cs_no.setWidth 32) size eraseSize cells
      covers P)
    (hbus : a.spi_bus_no = 0) (hfits : a.spi_offset.toNat + a.spi_len.toNat ≤ size)
    (hlen : a.spi_len.toNat ≤ spiTestLen) (hoffset : eraseSize ∣ a.spi_offset.toNat)
    (haligned : eraseSize ∣ a.spi_len.toNat) (testId : BitVec 32) (c : ℕ → Byte)
    (n : NorStatics) :
    Triple (fun s => (P s.dev ∧ cells s.dev = c) ∧ s.nor = n)
      (norFlashTest io testId (some a))
      fun r s => (r = .pass ∧ Wiped size cells (covers a.spi_offset.toNat 0x400000) c s) ∨
        (r = .fail ∧ ¬ (n.SameEnds a.spi_len.toNat ∧
          LastEraseFits size eraseSize a.spi_offset.toNat)) := by
  refine triple_norFlashTest (h.found c) hbus testId n fun flash => ?_
  refine (triple_spiFlashEraseReadWrite h hfits hlen hoffset haligned c rfl).conseq
    (fun s hs => ⟨hs.1.1, fun i _ => ?_, hs.2⟩) fun _ _ hs => hs
  rw [hs.1.2]

/-- **What the NOR flash test leaves on a flash.**  For every flash that executes its
commands, whatever its size and contents, and every aligned area inside it that fits
the buffers: the test returns, and if it passes, every byte of the flash is as before
exactly if every byte the last erasure covers --- four megabytes from the area on ---
was blank. -/
theorem norFlashTest_preserves_iff {a : ANorFlashTest}
    (h : io.Correct (a.spi_bus_no.setWidth 32) (a.spi_cs_no.setWidth 32) size eraseSize cells
      covers P)
    (hfits : a.spi_offset.toNat + a.spi_len.toNat ≤ size)
    (hlen : a.spi_len.toNat ≤ spiTestLen) (hoffset : eraseSize ∣ a.spi_offset.toNat)
    (haligned : eraseSize ∣ a.spi_len.toNat) (testId : BitVec 32) (s : Fixture D)
    (hP : P s.dev) :
    ∃ r s', (norFlashTest io testId (some a)).run s = .ok r s' ∧
      (r = .pass → ((∀ i < size, cells s'.dev i = cells s.dev i) ↔
        ∀ i < size, i ∈ covers a.spi_offset.toNat 0x400000 → cells s.dev i = blank)) := by
  by_cases hbus : a.spi_bus_no = 0
  · obtain ⟨r, s', hrun, hr⟩ := triple_norFlashTest_correct h hbus hfits hlen hoffset haligned
      testId (cells s.dev) s.nor s ⟨⟨hP, rfl⟩, rfl⟩
    refine ⟨r, s', hrun, fun hpass => ?_⟩
    rcases hr with ⟨-, hwiped⟩ | ⟨rfl, -⟩
    · constructor
      · intro hsame i hi hcovered
        rw [← hsame i hi]
        exact (hwiped i hi).1 hcovered
      · intro hblank i hi
        by_cases hcovered : i ∈ covers a.spi_offset.toNat 0x400000
        · rw [(hwiped i hi).1 hcovered, hblank i hi hcovered]
        · exact (hwiped i hi).2 hcovered
    · exact absurd hpass (by decide)
  · refine ⟨.fail, s, ?_, fun hpass => absurd hpass (by decide)⟩
    unfold norFlashTest
    simp only
    rw [if_pos hbus]
    rfl

end Correct

/-! ## A flash of four megabytes -/

namespace Memory

/-- The range of an erasure. -/
def eraseRange (offset len : ℕ) : Set ℕ := {i | offset ≤ i ∧ i < offset + len}

theorem cells_write_inside {m : Memory} (hm : m.stores = true) (offset : ℕ) {bytes : List Byte}
    {i : ℕ} (hi : i < bytes.length) : (m.write offset bytes).cells (offset + i) = bytes[i] := by
  rw [write, if_pos hm]
  exact applyWrites_placed hi (fun _ _ hsame => Nat.add_left_cancel hsame) m.cells

theorem cells_write_outside {m : Memory} (hm : m.stores = true) {offset : ℕ}
    {bytes : List Byte} {i : ℕ} (hi : i < offset ∨ offset + bytes.length ≤ i) :
    (m.write offset bytes).cells i = m.cells i := by
  rw [write, if_pos hm]
  exact applyWrites_placed_of_ne (fun j hj => by omega) m.cells

theorem stores_write (m : Memory) (offset : ℕ) (bytes : List Byte) :
    (m.write offset bytes).stores = m.stores := by
  rw [write]
  split
  · rfl
  · rfl

/-- **A memory that stores is a flash that executes its commands.** -/
theorem correct_flash (bus cs : BitVec 32) :
    Memory.flash.Correct bus cs 0x400000 4096 Memory.cells eraseRange (·.stores = true) where
  found _ :=
    { writel := fun _ _ _ h => h
      find := fun d h => ⟨0, some 0, d, rfl, fun _ => rfl, h⟩
      remove := fun _ _ h => h
      probe := fun d h => ⟨0, d, rfl, h⟩ }
  size_eq _ _ _ := rfl
  read _ _ _ d h _ := ⟨_, d, rfl, fun _ _ => rfl, h, rfl⟩
  write _ offset buf d h _ _ := by
    refine ⟨d.write offset.toNat buf, rfl, ?_, fun i hi => ?_, fun i _ hi => ?_⟩
    · rw [stores_write, h]
    · exact cells_write_inside h offset.toNat hi
    · exact cells_write_outside h hi
  erase _ offset len d h := by
    refine ⟨0, d.write offset.toNat (List.replicate len.toNat 0xFF), rfl, ?_, fun _ i _ => ?_,
      fun _ _ _ => rfl⟩
    · rw [stores_write, h]
    · constructor
      · rintro ⟨hle, hlt⟩
        have hi : i - offset.toNat < (List.replicate len.toNat (0xFF : Byte)).length := by
          rw [List.length_replicate]
          omega
        have hcell := cells_write_inside h offset.toNat hi
        rwa [Nat.add_sub_cancel' hle, List.getElem_replicate] at hcell
      · intro hnot
        refine cells_write_outside h ?_
        rw [List.length_replicate]
        by_contra hin
        exact hnot ⟨by omega, by omega⟩
  covers_iff _ _ _ _ := Iff.rfl

end Memory

/-- After the test of a blank flash the flash is blank. -/
theorem blank_flash_preserved :
    ∃ r s', (norFlashTest Memory.flash 1 (some norFlashArgs)).run
        (Fixture.atBoot ⟨true, fun _ => blank⟩) = .ok r s' ∧
      (r = .pass → ∀ i < 0x400000, s'.dev.cells i = blank) := by
  obtain ⟨r, s', hrun, hiff⟩ := norFlashTest_preserves_iff (a := norFlashArgs)
    (Memory.correct_flash _ _) (by decide) (by decide) (by decide) (by decide) 1
    (Fixture.atBoot ⟨true, fun _ => blank⟩) rfl
  exact ⟨r, s', hrun, fun hpass => (hiff hpass).mpr fun _ _ _ => rfl⟩

/-- **A flash full of zeros is wiped**: the test passes, and every byte is blank
afterwards. -/
theorem zero_flash_wiped :
    ∃ s', (norFlashTest Memory.flash 1 (some norFlashArgs)).run
        (Fixture.atBoot ⟨true, fun _ => 0⟩) = .ok .pass s' ∧
      ∀ i < 0x400000, s'.dev.cells i ≠ 0 := by
  obtain ⟨r, s', hrun, ⟨rfl, hwiped⟩ | ⟨-, hnot⟩⟩ := triple_norFlashTest_correct
    (a := norFlashArgs) (Memory.correct_flash _ _) rfl (by decide) (by decide) (by decide)
    (by decide) 1 (fun _ => 0) _ (Fixture.atBoot ⟨true, fun _ => 0⟩) ⟨⟨rfl, rfl⟩, rfl⟩
  · refine ⟨s', hrun, fun i hi => ?_⟩
    rw [(hwiped i hi).1 ⟨Nat.zero_le i, by
      show i < 0 + 0x400000
      omega⟩]
    decide
  · exact absurd ⟨sameEnds_atBoot _ _, by decide, by decide⟩ hnot

end BoardDiag
