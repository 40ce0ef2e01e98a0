import BoardDiag.Driver.I2cTransfers
import Mathlib.Data.Set.Image

/-!
# The EEPROM test on a board

`testsuite/test_at24c_eeprom.c` on top of U-Boot's I2C core and a serial memory with
addresses of two bytes.

The memory may have any number of cells, which a configuration does not say, and pages of
any length.  Since every byte gets a message of its own, the pages do not matter to the
test; and where the cells come round, so do the ones it uses.

There may be other memories on the same bus and on others.  The test does not touch them.
-/

namespace BoardDiag

open Machine

namespace AEepromReadWriteTest

/-- The cells of the first `n` pages, in a memory that comes round. -/
def cellsIn (a : AEepromReadWriteTest) (h : SerialShape) (n : ℕ) : Set ℕ :=
  (fun i => i % h.size) '' a.pages n

theorem mem_cellsIn_succ (a : AEepromReadWriteTest) (h : SerialShape) (n x : ℕ) :
    x ∈ a.cellsIn h (n + 1) ↔ x ∈ a.cellsIn h n ∨
      ∃ j < eepromPageLen, h.cell (a.reg (n * eepromPageLen)).toNat j = x := by
  rw [cellsIn, a.pages_succ, Set.image_union, Set.mem_union]
  refine or_congr Iff.rfl ?_
  constructor
  · rintro ⟨i, ⟨hle, hlt⟩, hx⟩
    refine ⟨i - (a.reg (n * eepromPageLen)).toNat, by omega, ?_⟩
    rw [SerialShape.cell, Nat.add_sub_cancel' hle]
    exact hx
  · rintro ⟨j, hj, hx⟩
    exact ⟨(a.reg (n * eepromPageLen)).toNat + j, ⟨by omega, by omega⟩, hx⟩

end AEepromReadWriteTest

/-- The pattern is in the cells `S` of one memory, and everything else is as it was. -/
structure PaintedCells (k : Udevice × Byte) (S : Set ℕ) (before after : Arrays) : Prop where
  others : ∀ k', k' ≠ k → after k' = before k'
  inside : ∀ i ∈ S, after k i = eepromTestPattern
  outside : ∀ i, i ∉ S → after k i = before k i

section Board

variable {b : Backplane} {a : AEepromReadWriteTest} {k : Udevice × Byte} {h : SerialShape}

/-- How far the test has come: the cells of `S` hold the pattern, and so does the first
buffer. -/
structure Reached (k : Udevice × Byte) (S : Set ℕ) (before : Arrays)
    (s : Fixture (I2cCore Rack)) : Prop where
  tidy : s.dev.Tidy
  buf : s.eeprom.i2cEepromTestbuf1 = Vector.replicate testBufferLen eepromTestPattern
  painted : PaintedCells k S before (Rack.arrays s.dev.wires)

/-- Writing a page. -/
theorem triple_writePage_board
    (hr : b.Reaches a.i2c_bus_num a.i2c_dev_addr eepromOffsetLen k h) (before : Arrays) {n : ℕ}
    (hn : n < testBufferLen / eepromPageLen) :
    Triple (Reached k (a.cellsIn h n) before) (writePage b.driver a n)
      fun r s => r = none ∧ Reached k (a.cellsIn h (n + 1)) before s := by
  rintro s ⟨htidy, hbuf, hpainted⟩
  obtain ⟨s', hrun, htidy', heeprom, harrays⟩ := b.run_write hr htidy
    (a.reg (n * eepromPageLen)) (List.replicate eepromPageLen eepromTestPattern)
  refine ⟨none, s', ?_, rfl, htidy', by rw [heeprom, hbuf], ?_⟩
  · rw [writePage, EStateM.run_bind, EStateM.run_get]
    simp only
    rw [hbuf, take_drop_pattern hn, EStateM.run_bind, hrun]
    rfl
  · have hcells := applyWrites_placed_replicate (h.cell (a.reg (n * eepromPageLen)).toNat)
      eepromPageLen eepromTestPattern (Rack.arrays s.dev.wires k)
    rw [harrays]
    refine ⟨fun k' hk' => ?_, fun i hi => ?_, fun i hi => ?_⟩
    · rw [Function.update_of_ne hk', hpainted.others k' hk']
    · rw [Function.update_self]
      by_cases hnew : ∃ j < eepromPageLen, h.cell (a.reg (n * eepromPageLen)).toNat j = i
      · exact (hcells i).1 hnew
      · have hold := ((a.mem_cellsIn_succ h n i).mp hi).resolve_right hnew
        push Not at hnew
        rw [(hcells i).2 hnew, hpainted.inside i hold]
    · rw [a.mem_cellsIn_succ, not_or] at hi
      obtain ⟨hold, hnew⟩ := hi
      push Not at hnew
      rw [Function.update_self, (hcells i).2 hnew, hpainted.outside i hold]

/-- Reading a page back. -/
theorem triple_readPage_board
    (hr : b.Reaches a.i2c_bus_num a.i2c_dev_addr eepromOffsetLen k h) (before : Arrays) {n : ℕ}
    (hn : n < 4) :
    Triple
      (fun s => Reached k (a.cellsIn h 4) before s ∧
        Holds s.eeprom.i2cEepromTestbuf2 (n * eepromPageLen) fun _ => eepromTestPattern)
      (readPage b.driver a n)
      (fun r s => r = none ∧ Reached k (a.cellsIn h 4) before s ∧
        Holds s.eeprom.i2cEepromTestbuf2 ((n + 1) * eepromPageLen) fun _ => eepromTestPattern) := by
  rintro s ⟨⟨htidy, hbuf, hpainted⟩, hholds⟩
  obtain ⟨data, s', hrun, htidy', heeprom, harrays, hdata⟩ := b.run_read hr htidy
    (a.reg (n * eepromPageLen)) (show 0 < eepromPageLen by decide)
  have hpattern : ∀ j < eepromPageLen, data j = eepromTestPattern := by
    intro j hj
    rw [hdata j hj]
    refine hpainted.inside _ ⟨(a.reg (n * eepromPageLen)).toNat + j, ⟨n, hn, ?_⟩, rfl⟩
    exact ⟨by omega, by omega⟩
  refine ⟨none, s'.fillTestbuf2 (n * eepromPageLen) eepromPageLen data, ?_, rfl, ⟨htidy', ?_, ?_⟩,
    ?_⟩
  · rw [readPage, EStateM.run_bind, hrun]
    rfl
  · rw [Fixture.eeprom_fillTestbuf2, heeprom]
    exact hbuf
  · rw [Fixture.dev_fillTestbuf2, harrays]
    exact hpainted
  · rw [Fixture.eeprom_fillTestbuf2, heeprom, Nat.succ_mul]
    exact hholds.overwrite hpattern

/-- **The EEPROM test on a board.**  If there is a memory with two address bytes where the
configuration says, the test passes, and the cells of its four pages hold the pattern then,
whatever the memory has held, however long its pages are and wherever its cells come round.
Every other cell, and every other memory, is as it was. -/
theorem run_eepromReadWriteTest_board (testId : BitVec 32)
    (hr : b.Reaches a.i2c_bus_num a.i2c_dev_addr eepromOffsetLen k h)
    {s : Fixture (I2cCore Rack)} (hs : s.dev.Tidy) :
    ∃ s', (eepromReadWriteTest b.driver testId (some a)).run s = .ok .pass s' ∧
      s'.dev.Tidy ∧
      PaintedCells k (a.cellsIn h 4) (Rack.arrays s.dev.wires) (Rack.arrays s'.dev.wires) := by
  have hzero : a.cellsIn h 0 = ∅ := by
    rw [AEepromReadWriteTest.cellsIn, a.pages_zero, Set.image_empty]
  have htest : Triple (fun t => t = s) (eepromReadWriteTest b.driver testId (some a))
      fun r t => r = .pass ∧ Reached k (a.cellsIn h 4) (Rack.arrays s.dev.wires) t := by
    refine triple_eepromReadWriteTest_of_pages testId
      (I := fun n => Reached k (a.cellsIn h n) (Rack.arrays s.dev.wires))
      (J := fun n t => Reached k (a.cellsIn h 4) (Rack.arrays s.dev.wires) t ∧
        Holds t.eeprom.i2cEepromTestbuf2 (n * eepromPageLen) fun _ => eepromTestPattern)
      ?_ (fun n hn => triple_writePage_board hr _ hn) ?_
      (fun n hn => triple_readPage_board hr _ hn) ?_ ?_
    · rintro t rfl
      refine ⟨(), _, rfl, ⟨⟨hs.nodup, hs.mask⟩, rfl, fun _ _ => rfl, ?_, fun _ _ => rfl⟩⟩
      rw [hzero]
      exact fun i hi => hi.elim
    · intro t ht
      rw [Nat.zero_mul]
      exact ⟨ht, holds_zero _ _⟩
    · exact fun t ht _ => ⟨rfl, ht.1⟩
    · rintro t ⟨hreached, hholds⟩ hdiffers
      refine absurd ?_ hdiffers
      rw [hreached.buf]
      exact (hholds.eq_replicate_iff eepromTestPattern).mpr fun _ _ => rfl
  obtain ⟨r, s', hrun, rfl, hreached⟩ := htest s rfl
  exact ⟨s', hrun, hreached.tidy, hreached.painted⟩

end Board

end BoardDiag
