import BoardDiag.Driver.SpiNorChip
import BoardDiag.Suite.NorContents

/-!
# The NOR flash test, down to the flash

`testsuite/test_w25q32_norflash.c` on top of U-Boot's SPI NOR framework, with a serial flash at
the other end.

The flash behind the framework executes its commands in the sense of
`Suite/NorContents.lean`, so that what is said there is true of it.  More can be said, since it
is known now what becomes of the last erasure when it runs past the end.  Nothing refuses it,
and it begins again at the first cell.  A flash that is no larger than the four megabytes that
are erased is therefore blank after the test, the part in front of the area included, and it is
blank whether the test has passed or failed.
-/

namespace BoardDiag

open Machine

namespace NorBoard

variable (b : NorBoard)

/-- What an erasure covers. -/
def covers (offset len : ℕ) : Set ℕ := {x | ∃ j < len, b.shape.cell offset j = x}

variable {b} {dm : SpiFlashModel NorChip} {bus cs : BitVec 32}

/-- Inside the flash, cells are what they are called. -/
theorem cell_of_lt {offset j : ℕ} (hj : offset + j < b.shape.size) :
    b.shape.cell offset j = offset + j := Nat.mod_eq_of_lt hj

theorem mem_covers_iff {offset len i : ℕ} (hfits : offset + len ≤ b.shape.size) :
    i ∈ b.covers offset len ↔ offset ≤ i ∧ i < offset + len := by
  constructor
  · rintro ⟨j, hj, rfl⟩
    rw [cell_of_lt (by omega)]
    omega
  · rintro ⟨hle, hlt⟩
    exact ⟨i - offset, by omega, by rw [cell_of_lt (by omega)]; omega⟩

/-- **The flash executes its commands.**  Looking for it must not disturb it. -/
theorem correct_stdFlash (hsize : b.shape.size < 2 ^ 29)
    (hfound : ∀ cells, (stdFlash dm b.bus b.nor).Found bus cs
      fun c => c.Idle b.polls ∧ c.cells = cells) :
    (stdFlash dm b.bus b.nor).Correct bus cs b.shape.size b.shape.sectorLen NorChip.cells b.covers
      (·.Idle b.polls) where
  found := hfound
  size_eq _ _ _ := b.size_eq
  read _ offset len c hc hfits := by
    obtain ⟨data, hrun, hdata⟩ := run_spiFlashStdRead offset len (by omega) hc
    refine ⟨data, c, hrun, fun i hi => ?_, hc, rfl⟩
    rw [hdata i hi, cell_of_lt (by omega)]
  write _ offset buf c hc hfits hblank := by
    obtain ⟨c', hrun, hidle, hcells⟩ := run_spiFlashStdWrite offset buf (by omega) hc
    have hcell : ∀ i < buf.length, b.shape.cell offset.toNat i = offset.toNat + i :=
      fun i hi => cell_of_lt (by omega)
    rw [placed_congr hcell] at hcells
    refine ⟨c', hrun, hidle, fun i hi => ?_, fun i _ hout => ?_⟩
    · rw [hcells]
      exact burn_placed_of_blank (offset.toNat + ·) hi
        (fun j _ hsame => Nat.add_left_cancel hsame) (hblank i hi)
    · rw [hcells]
      exact burn_placed_of_ne (fun j hj => by omega) c.cells
  erase _ offset len c hc := by
    by_cases haligned : b.shape.sectorLen ∣ offset.toNat ∧ b.shape.sectorLen ∣ len.toNat
    · obtain ⟨c', hrun, hidle, hcells⟩ := run_spiFlashStdErase offset len haligned.1 haligned.2 hc
      refine ⟨0, c', hrun, hidle, fun _ i _ => ?_, fun _ _ _ => rfl⟩
      rw [hcells]
      exact ⟨fun hin => if_pos hin, fun hout => if_neg hout⟩
    · exact ⟨einval, c, run_spiFlashStdErase_refused haligned, hc,
        fun hzero => absurd hzero (by decide), fun _ ho hl => absurd ⟨ho, hl⟩ haligned⟩
  covers_iff _ _ _ hfits := mem_covers_iff hfits

/-! ## The test -/

/-- The flash is at rest, the last erasure has been carried out, and the other cells are as in
`c`. -/
def LeftBlank (b : NorBoard) (offset : ℕ) (c : ℕ → Byte) (f : NorChip) : Prop :=
  f.Idle b.polls ∧ ∀ x < b.shape.size,
    (x ∈ b.covers offset 0x400000 → f.cells x = blank) ∧
    (x ∉ b.covers offset 0x400000 → f.cells x = c x)

/-- The last erasure is never refused. -/
theorem triple_lastErase_board (dm : SpiFlashModel NorChip) (flash : Udevice)
    {offset : BitVec 32} (hoffset : b.shape.sectorLen ∣ offset.toNat)
    (hsector : b.shape.sectorLen ∣ 0x400000) (c : ℕ → Byte) (n : NorStatics) :
    Triple (Contains b.shape.size NorChip.cells (·.Idle b.polls) c n)
      (drive ((stdFlash dm b.bus b.nor).spiFlashErase flash offset 0x400000))
      fun r s => ¬ r ≠ 0 ∧ s.nor = n ∧ b.LeftBlank offset.toNat c s.dev := by
  rintro s ⟨hidle, hc, hn⟩
  obtain ⟨f, hrun, hidle', hcells⟩ :=
    run_spiFlashStdErase offset 0x400000 hoffset hsector hidle
  have herase : (stdFlash dm b.bus b.nor).spiFlashErase flash offset 0x400000 s.dev = (0, f) :=
    hrun
  refine ⟨0, { s with dev := f }, by rw [run_drive, herase], fun h => h rfl, hn, hidle',
    fun x hx => ?_⟩
  show (_ → f.cells x = _) ∧ (_ → f.cells x = _)
  rw [hcells, ← hc x hx]
  exact ⟨fun hin => if_pos hin, fun hout => if_neg hout⟩

/-- **The routine.**  It succeeds exactly if the buffers ended alike, and either way the last
erasure has been carried out. -/
theorem triple_spiFlashEraseReadWrite_board
    (h : (stdFlash dm b.bus b.nor).Correct bus cs b.shape.size b.shape.sectorLen NorChip.cells
      b.covers (·.Idle b.polls))
    {offset len : BitVec 32} (hfits : offset.toNat + len.toNat ≤ b.shape.size)
    (hlen : len.toNat ≤ spiTestLen) (hoffset : b.shape.sectorLen ∣ offset.toNat)
    (haligned : b.shape.sectorLen ∣ len.toNat) (hsector : b.shape.sectorLen ∣ 0x400000)
    (c : ℕ → Byte) {n : NorStatics} {flash : Udevice} (hflash : n.flash = some flash) :
    Triple (Contains b.shape.size NorChip.cells (·.Idle b.polls) c n)
      (spiFlashEraseReadWrite (stdFlash dm b.bus b.nor) offset len)
      fun r s => b.LeftBlank offset.toNat c s.dev ∧
        ((r = 0 ∧ n.SameEnds len.toNat) ∨ (r = -1 ∧ ¬ n.SameEnds len.toNat)) := by
  unfold spiFlashEraseReadWrite
  refine .bind (.get (Q := fun s₀ s =>
    Contains b.shape.size NorChip.cells (·.Idle b.polls) c n s₀ ∧
      Contains b.shape.size NorChip.cells (·.Idle b.polls) c n s) fun s hs => ⟨hs, hs⟩)
    fun s₀ => .of_fact fun hs₀ => ?_
  rw [hs₀.2.2, hflash, deref_some, pure_bind]
  have hguard : ¬ offset + len > (stdFlash dm b.bus b.nor).size flash s₀.dev := by
    have hnat := h.size_eq flash s₀.dev hs₀.1
    have hlt := ((stdFlash dm b.bus b.nor).size flash s₀.dev).isLt
    rw [gt_iff_lt, BitVec.lt_def, BitVec.toNat_add]
    omega
  refine .ite (fun hgt => absurd hgt hguard) fun _ => ?_
  refine .bind_check (triple_readInto h .buf1 flash hfits hlen c n) ?_
  refine .of_exists fun data₁ => .of_fact fun hdata₁ => ?_
  have hbuf : Holds (n.fill len.toNat data₁ .buf1).dataTestBuf1 len.toNat
      fun i => c (offset.toNat + i) := holds_deliver _ hdata₁
  refine .bind_check (triple_eraseArea h flash hfits hoffset haligned c _) ?_
  refine .bind_check (triple_writeBuf1 h flash hfits hlen c hbuf) ?_
  refine .bind (triple_readInto h .buf2 flash hfits hlen c _) fun _ => .of_fact fun _ => ?_
  refine .of_exists fun data₂ => .of_fact fun hdata₂ => ?_
  refine .bind_check (triple_lastErase_board dm flash hoffset hsector c _) ?_
  -- what was read back is what was written
  exact triple_compareBufs hdata₁ hdata₂ fun s => b.LeftBlank offset.toNat c s.dev

/-- **What the test asks of its area and of the flash**: looking for the flash does not disturb
it, the area is made of sectors, fits the flash and fits the buffers, and the bytes of the flash
can be counted in bits. -/
structure Suits (b : NorBoard) (dm : SpiFlashModel NorChip) (a : ANorFlashTest) : Prop where
  found : ∀ cells, (stdFlash dm b.bus b.nor).Found (a.spi_bus_no.setWidth 32)
    (a.spi_cs_no.setWidth 32) fun c => c.Idle b.polls ∧ c.cells = cells
  bus : a.spi_bus_no = 0
  fits : a.spi_offset.toNat + a.spi_len.toNat ≤ b.shape.size
  len : a.spi_len.toNat ≤ spiTestLen
  offset : b.shape.sectorLen ∣ a.spi_offset.toNat
  aligned : b.shape.sectorLen ∣ a.spi_len.toNat
  sector : b.shape.sectorLen ∣ 0x400000
  size_lt : b.shape.size < 2 ^ 29

/-- **The NOR flash test on a flash**: the test passes exactly if the buffers ended alike before
it began.  Whether it passes or not, what the last erasure covers is blank then --- four
megabytes from the area on, coming round at the end of the flash --- and every other cell is as
before. -/
theorem run_norFlashTest_board {a : ANorFlashTest} (ha : b.Suits dm a) (testId : BitVec 32)
    {s : Fixture NorChip} (hs : s.dev.Idle b.polls) :
    ∃ r s', (norFlashTest (stdFlash dm b.bus b.nor) testId (some a)).run s = .ok r s' ∧
      ((r = .pass ∧ s.nor.SameEnds a.spi_len.toNat) ∨
        (r = .fail ∧ ¬ s.nor.SameEnds a.spi_len.toNat)) ∧
      b.LeftBlank a.spi_offset.toNat s.dev.cells s'.dev := by
  obtain ⟨hfound, hbus, hfits, hlen, hoffset, haligned, hsector, hsize⟩ := ha
  have hcorrect := correct_stdFlash hsize hfound
  have hinit : Triple (fun t => (t.dev.Idle b.polls ∧ t.dev.cells = s.dev.cells) ∧ t.nor = s.nor)
      (spiNorInit (stdFlash dm b.bus b.nor) (a.spi_bus_no.setWidth 32)
        (a.spi_cs_no.setWidth 32))
      fun r t => ¬ r < 0 ∧ ∃ flash, Contains b.shape.size NorChip.cells (·.Idle b.polls)
        s.dev.cells { s.nor with flash := some flash } t := by
    refine (triple_spiNorInit (hfound s.dev.cells) s.nor).conseq (fun _ ht => ht) ?_
    rintro r t ⟨rfl, ⟨hidle, hcells⟩, flash, hn⟩
    exact ⟨by decide, flash, hidle, fun x _ => by rw [hcells], hn⟩
  -- a failure is reported, and the pins are set once more
  have hwritel : ∀ value addr (f : NorChip), b.LeftBlank a.spi_offset.toNat s.dev.cells f →
      b.LeftBlank a.spi_offset.toNat s.dev.cells
        ((stdFlash dm b.bus b.nor).writel value addr f) := by
    rintro value addr f ⟨hidle, hcells⟩
    obtain ⟨hidle', hsame⟩ := (hfound f.cells).writel value addr f ⟨hidle, rfl⟩
    exact ⟨hidle', by rwa [hsame]⟩
  have htest : Triple
      (fun t => (t.dev.Idle b.polls ∧ t.dev.cells = s.dev.cells) ∧ t.nor = s.nor)
      (norFlashTest (stdFlash dm b.bus b.nor) testId (some a))
      fun r t => ((r = .pass ∧ s.nor.SameEnds a.spi_len.toNat) ∨
        (r = .fail ∧ ¬ s.nor.SameEnds a.spi_len.toNat)) ∧
        b.LeftBlank a.spi_offset.toNat s.dev.cells t.dev := by
    unfold norFlashTest
    simp only
    rw [if_neg (not_not.mpr hbus)]
    refine .bind (triple_spiPinMuxCfg (hfound s.dev.cells) s.nor) fun _ => ?_
    refine .bind_check hinit ?_
    refine .of_exists fun flash => ?_
    refine .bind (triple_spiFlashEraseReadWrite_board hcorrect hfits hlen hoffset haligned
      hsector s.dev.cells rfl) fun r => ?_
    rintro t ⟨hleft, ⟨rfl, hends⟩ | ⟨rfl, hends⟩⟩
    · exact ⟨.pass, t, rfl, .inl ⟨rfl, hends⟩, hleft⟩
    · exact ⟨.fail, _, rfl, .inr ⟨rfl, hends⟩,
        hwritel _ _ _ (hwritel _ _ _ (hwritel _ _ _ (hwritel _ _ _ hleft)))⟩
  obtain ⟨r, s', hrun, hverdict, hleft⟩ := htest s ⟨⟨hs, rfl⟩, rfl⟩
  exact ⟨r, s', hrun, hverdict, hleft⟩

/-- A flash of at most four megabytes is left entirely blank. -/
theorem LeftBlank.all {offset : ℕ} {c : ℕ → Byte} {f : NorChip} (h : b.LeftBlank offset c f)
    (hsmall : b.shape.size ≤ 0x400000) : ∀ x < b.shape.size, f.cells x = blank := by
  intro x hx
  refine (h.2 x hx).1 ?_
  -- four megabytes go all the way round
  obtain ⟨j, hj⟩ : ∃ j, j = (b.shape.size - offset % b.shape.size + x) % b.shape.size := ⟨_, rfl⟩
  have hround := Nat.mod_lt offset b.shape.size_pos
  refine ⟨j, (hj ▸ Nat.mod_lt _ b.shape.size_pos).trans_le hsmall, ?_⟩
  rw [SerialShape.cell, hj, Nat.add_mod_mod, ← Nat.mod_add_mod, ← Nat.add_assoc,
    Nat.add_sub_cancel' hround.le, Nat.add_mod_left, Nat.mod_eq_of_lt hx]

end NorBoard

end BoardDiag
