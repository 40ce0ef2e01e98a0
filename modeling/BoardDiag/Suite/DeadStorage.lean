import BoardDiag.Machine.SerialMemory
import BoardDiag.Suite.Eeprom
import BoardDiag.Suite.NorFlash

/-!
# Storage that acknowledges and does not store

What the storage tests are for is to notice a memory that does not keep what it
is told.  The clearest case is a dead write path: every erasure and every write
is acknowledged, and no cell ever changes.

Neither test is sure to notice.  The EEPROM test always writes the same pattern,
so it takes a memory that holds the pattern already --- from the last run --- for
one that has just stored it.  The NOR flash test writes what it has just read, so
it has no way of telling at all; it fails on a dead flash only if its buffers
ended differently before.  `dead_storage_detected_iff` says when each of them
notices.
-/

namespace BoardDiag

open Machine

/-- **When a dead write path is noticed.**  Whatever the fixture, and so after
whatever earlier runs:

* the EEPROM test fails on a dead memory exactly if one of the cells it reads did
  not hold the pattern;
* the NOR flash test fails on a dead flash exactly if the area fits the buffers
  and they differ behind it. -/
theorem dead_storage_detected_iff {D : Type} (testId : BitVec 32) (s : Fixture D) :
    (∀ (io : I2cDriver D) (a : AEepromReadWriteTest) (cells : ℕ → Byte) (P : D → Prop),
      io.Dead a.i2c_bus_num (a.i2c_dev_addr.setWidth 32) cells P → P s.dev →
      ((∃ s', (eepromReadWriteTest io testId (some a)).run s = .ok .fail s') ↔
        ∃ i < testBufferLen, cells (a.cell i) ≠ eepromTestPattern)) ∧
    (∀ (io : SpiFlashDriver D) (a : ANorFlashTest) (size : BitVec 32) (cells : ℕ → Byte)
      (P : D → Prop),
      io.Dead (a.spi_bus_no.setWidth 32) (a.spi_cs_no.setWidth 32) size cells P → P s.dev →
      a.spi_bus_no = 0 → a.spi_offset + a.spi_len ≤ size →
      ((∃ s', (norFlashTest io testId (some a)).run s = .ok .fail s') ↔
        a.spi_len.toNat ≤ spiTestLen ∧ ¬ s.nor.SameEnds a.spi_len.toNat)) := by
  constructor
  · intro io a cells P hdead hP
    obtain ⟨r, s', hrun, -, hr⟩ := triple_eepromReadWriteTest_dead hdead testId s hP
    rw [hrun]
    rcases hr with ⟨hall, rfl⟩ | ⟨hother, rfl⟩
    · refine iff_of_false (fun ⟨_, h⟩ => ?_) fun ⟨i, hi, hne⟩ => hne (hall i hi)
      injection h with h
      exact absurd h (by decide)
    · exact iff_of_true ⟨s', rfl⟩ hother
  · intro io a size cells P hdead hP hbus hfits
    by_cases hlen : a.spi_len.toNat ≤ spiTestLen
    · obtain ⟨r, s', hrun, hr⟩ :=
        triple_norFlashTest_dead hdead hbus hfits hlen testId s.nor s ⟨hP, rfl⟩
      rw [hrun]
      rcases hr with ⟨rfl, hsame⟩ | ⟨rfl, hdiffer⟩
      · refine iff_of_false (fun ⟨_, h⟩ => ?_) fun h => h.2 hsame
        injection h with h
        exact absurd h (by decide)
      · exact iff_of_true ⟨s', rfl⟩ ⟨hlen, hdiffer⟩
    · obtain ⟨s', hrun⟩ := stops_norFlashTest_dead hdead hbus hfits (Nat.not_le.mp hlen) testId
        s.nor s ⟨hP, rfl⟩
      rw [hrun]
      exact iff_of_false (fun ⟨_, h⟩ => absurd h (by simp)) fun h => hlen h.1

/-! ## A memory that may die -/

/-- A memory, and whether it stores what it is told. -/
structure Memory where
  stores : Bool
  cells : ℕ → Byte

/-- Write some bytes, if the memory stores. -/
def Memory.write (m : Memory) (offset : ℕ) (bytes : List Byte) : Memory :=
  if m.stores then { m with cells := applyWrites (placed (offset + ·) bytes) m.cells } else m

/-- The memory as an EEPROM. -/
def Memory.eeprom : I2cDriver Memory where
  writel _ _ m := m
  uclassGetDeviceBySeq _ m := ((0, some 0), m)
  i2cGetChip _ _ _ m := ((0, some 1), m)
  i2cSetChipOffsetLen _ _ m := (0, m)
  setWrAddress _ m := m
  dmI2cWrite _ offset buffer m := (0, m.write offset.toNat buffer)
  dmI2cRead _ offset _ m := ((0, fun i => m.cells (offset.toNat + i)), m)

/-- The memory as a flash of four megabytes. -/
def Memory.flash : SpiFlashDriver Memory where
  writel _ _ m := m
  spiFindBusAndCs _ _ m := ((0, some 0), m)
  deviceRemove _ m := (0, m)
  spiFlashProbeBusCs _ _ m := ((0, some 0), m)
  size _ _ := 0x400000
  spiFlashRead _ offset _ m := ((0, fun i => some (m.cells (offset.toNat + i))), m)
  spiFlashErase _ offset len m := (0, m.write offset.toNat (List.replicate len.toNat 0xFF))
  spiFlashWrite _ offset buf m := (0, m.write offset.toNat buf)

theorem Memory.write_of_dead (cells : ℕ → Byte) (offset : ℕ) (bytes : List Byte) :
    (Memory.mk false cells).write offset bytes = ⟨false, cells⟩ := rfl

theorem Memory.dead_eeprom (bus_num : BitVec 8) (chip_address : BitVec 32) (cells : ℕ → Byte) :
    Memory.eeprom.Dead bus_num chip_address cells (· = ⟨false, cells⟩) where
  writel _ _ _ h := h
  bus d h := ⟨0, d, rfl, h⟩
  chip _ _ d h := ⟨1, d, rfl, h⟩
  offset_len _ _ d h := ⟨d, rfl, h⟩
  wr_address _ _ h := h
  write _ offset buffer _ h := ⟨_, rfl, h ▸ write_of_dead cells offset.toNat buffer⟩
  read _ _ _ d h := ⟨_, d, rfl, fun _ _ => h ▸ rfl, h⟩

theorem Memory.dead_flash (bus cs : BitVec 32) (cells : ℕ → Byte) :
    Memory.flash.Dead bus cs 0x400000 cells (· = ⟨false, cells⟩) where
  writel _ _ _ h := h
  find d h := ⟨0, some 0, d, rfl, fun _ => rfl, h⟩
  remove _ _ h := h
  probe d h := ⟨0, d, rfl, h⟩
  size_eq _ _ _ := rfl
  read _ _ _ d h := ⟨_, d, rfl, fun _ _ => h ▸ rfl, h⟩
  erase _ offset _ _ h := ⟨_, rfl, h ▸ write_of_dead cells offset.toNat _⟩
  write _ offset buf _ h := ⟨_, rfl, h ▸ write_of_dead cells offset.toNat buf⟩

/-- The configurations of the board. -/
def eepromArgs : AEepromReadWriteTest := ⟨1, 0x50, 128, 128⟩

def norFlashArgs : ANorFlashTest := ⟨0, 0, 0, 0x20000⟩

/-- At boot the buffers of the NOR flash test are alike. -/
theorem sameEnds_atBoot {D : Type} (dev : D) (len : ℕ) :
    (Fixture.atBoot dev).nor.SameEnds len := by
  intro i hi _
  rfl

/-- Both tests pass on memories that store nothing: the NOR flash test on a blank
flash right after boot, and the EEPROM test on a memory that holds what an earlier
run has left in it. -/
theorem dead_storage_passes :
    (∃ s', (norFlashTest Memory.flash 1 (some norFlashArgs)).run
      (Fixture.atBoot ⟨false, fun _ => 0xFF⟩) = .ok .pass s') ∧
    ∃ s', (eepromReadWriteTest Memory.eeprom 1 (some eepromArgs)).run
      (Fixture.atBoot ⟨false, fun _ => 0xEA⟩) = .ok .pass s' := by
  constructor
  · obtain ⟨r, s', hrun, ⟨rfl, -⟩ | ⟨-, hdiffer⟩⟩ :=
      triple_norFlashTest_dead (Memory.dead_flash _ _ fun _ => 0xFF) (a := norFlashArgs) rfl
        (by decide) (by decide) 1 _ (Fixture.atBoot ⟨false, fun _ => 0xFF⟩) ⟨rfl, rfl⟩
    · exact ⟨s', hrun⟩
    · exact absurd (sameEnds_atBoot _ _) hdiffer
  · obtain ⟨r, s', hrun, -, ⟨-, rfl⟩ | ⟨⟨i, -, hother⟩, -⟩⟩ :=
      triple_eepromReadWriteTest_dead (Memory.dead_eeprom _ _ fun _ => 0xEA) (a := eepromArgs) 1
        (Fixture.atBoot ⟨false, fun _ => 0xEA⟩) rfl
    · exact ⟨s', hrun⟩
    · exact absurd rfl hother

/-- A dead memory full of `0xFF` is noticed by the one test and not by the other. -/
theorem blank_dead_storage :
    (∃ s', (eepromReadWriteTest Memory.eeprom 1 (some eepromArgs)).run
      (Fixture.atBoot ⟨false, fun _ => 0xFF⟩) = .ok .fail s') ∧
    ¬ ∃ s', (norFlashTest Memory.flash 1 (some norFlashArgs)).run
      (Fixture.atBoot ⟨false, fun _ => 0xFF⟩) = .ok .fail s' := by
  obtain ⟨heeprom, hnor⟩ :=
    dead_storage_detected_iff 1 (Fixture.atBoot (Memory.mk false fun _ => 0xFF))
  refine ⟨(heeprom _ eepromArgs _ _ (Memory.dead_eeprom _ _ _) rfl).mpr ⟨0, by decide, by decide⟩,
    fun h => ?_⟩
  have hdiffer := (hnor _ norFlashArgs _ _ _ (Memory.dead_flash _ _ _) rfl rfl (by decide)).mp h
  exact hdiffer.2 (sameEnds_atBoot _ _)

end BoardDiag
