import BoardDiag.Suite.Reports

/-!
# The NOR flash test

`testsuite/test_w25q32_norflash.c`, as it is built with `CONFIG_DM_SPI_FLASH`.  The
test reads an area of the flash, erases it, writes back what it read, reads it
again and compares.  Then it erases four megabytes.

The area is guarded by a sum that may wrap and not by the length of the buffers,
so a long area runs over them.  The comparison is of the whole buffers, whatever
the length of the area; what lies behind the area is left from earlier runs.

`triple_norFlashTest_dead` is about a flash that acknowledges erasures and writes
and keeps what it held.  Writing back what was read is then no different from
not writing at all, and the test passes --- unless the buffers ended differently
before it began.
-/

namespace BoardDiag

open Machine

variable {D : Type}

/-- What U-Boot's SPI flash drivers do and answer, and what a register write does. -/
structure SpiFlashDriver (D : Type) where
  writel (value addr : BitVec 32) : D → D
  /-- `spi_find_bus_and_cs(bus, cs, &bus_dev, &new)`. -/
  spiFindBusAndCs (bus cs : BitVec 32) : D → (BitVec 32 × Option Udevice) × D
  /-- `device_remove(dev, DM_REMOVE_NORMAL)`. -/
  deviceRemove (dev : Udevice) : D → BitVec 32 × D
  /-- `spi_flash_probe_bus_cs(bus, cs, 0, 0, &new)`. -/
  spiFlashProbeBusCs (bus cs : BitVec 32) : D → (BitVec 32 × Option Udevice) × D
  /-- `flash->size`. -/
  size (flash : Udevice) (d : D) : BitVec 32
  /-- `spi_flash_read(flash, offset, len, buf)`, with what it puts into the buffer at each
  index, if anything. -/
  spiFlashRead (flash : Udevice) (offset len : BitVec 32) :
    D → (BitVec 32 × (ℕ → Option Byte)) × D
  spiFlashErase (flash : Udevice) (offset len : BitVec 32) : D → BitVec 32 × D
  spiFlashWrite (flash : Udevice) (offset : BitVec 32) (buf : List Byte) : D → BitVec 32 × D

/-- `A_NOR_Flash_test`. -/
structure ANorFlashTest where
  spi_bus_no : BitVec 8
  spi_cs_no : BitVec 8
  spi_offset : BitVec 32
  spi_len : BitVec 32

/-- `spi_pin_mux_cfg()`. -/
def spiPinMuxCfg (io : SpiFlashDriver D) : TestProg D Unit := do
  drive fun d => ((), io.writel 0x00000030 0x44e10950 d)
  drive fun d => ((), io.writel 0x00000030 0x44e10954 d)
  drive fun d => ((), io.writel 0x00000010 0x44e10958 d)
  drive fun d => ((), io.writel 0x00000010 0x44e1095C d)

/-- The two test buffers. -/
inductive TestBuf where
  /-- `data_test_buf1` -/
  | buf1
  /-- `data_test_buf2` -/
  | buf2

/-- The static variables with what has been delivered of the beginning of a buffer. -/
def NorStatics.fill (n : NorStatics) (len : ℕ) (data : ℕ → Option Byte) : TestBuf → NorStatics
  | .buf1 => { n with dataTestBuf1 := deliver n.dataTestBuf1 len data }
  | .buf2 => { n with dataTestBuf2 := deliver n.dataTestBuf2 len data }

theorem NorStatics.fill_buf1_fill_buf2 (n : NorStatics) (len : ℕ) (data₁ data₂ : ℕ → Option Byte) :
    (n.fill len data₁ .buf1).fill len data₂ .buf2 =
      ⟨n.flash, deliver n.dataTestBuf1 len data₁, deliver n.dataTestBuf2 len data₂⟩ := by
  cases n
  rfl

/-- `spi_flash_read(flash, spi_offset, spi_len, buf)` for one of the buffers.  A length
beyond the buffer runs over it; and what a reading that fails does not deliver stays in the
buffer from before. -/
def readInto (io : SpiFlashDriver D) (buf : TestBuf) (flash : Udevice)
    (spi_offset spi_len : BitVec 32) : TestProg D (BitVec 32) := do
  let (ret, data) ← drive (io.spiFlashRead flash spi_offset spi_len)
  if spiTestLen < spi_len.toNat then
    throw .outOfBounds
  modify fun s => { s with nor := s.nor.fill spi_len.toNat data buf }
  return ret

/-- `spi_flash_write(flash, spi_offset, spi_len, data_test_buf1)`. -/
def writeBuf1 (io : SpiFlashDriver D) (flash : Udevice) (spi_offset spi_len : BitVec 32) :
    TestProg D (BitVec 32) := do
  let s ← get
  if spiTestLen < spi_len.toNat then
    throw .outOfBounds
  drive (io.spiFlashWrite flash spi_offset (s.nor.dataTestBuf1.toList.take spi_len.toNat))

/-- A reading fills the buffer as long as it is not left. -/
theorem run_readInto {io : SpiFlashDriver D} {flash : Udevice} {offset len : BitVec 32}
    {s : Fixture D} {ret : BitVec 32} {data : ℕ → Option Byte} {d : D}
    (hread : io.spiFlashRead flash offset len s.dev = ((ret, data), d))
    (hlen : len.toNat ≤ spiTestLen) (buf : TestBuf) :
    (readInto io buf flash offset len).run s =
      .ok ret { s with dev := d, nor := s.nor.fill len.toNat data buf } := by
  rw [readInto, EStateM.run_bind, run_drive, hread]
  simp only
  rw [if_neg (Nat.not_lt.mpr hlen)]
  rfl

/-- What the first buffer holds is written as long as it is not left. -/
theorem run_writeBuf1 {io : SpiFlashDriver D} {flash : Udevice} {offset len : BitVec 32}
    {s : Fixture D} {ret : BitVec 32} {d : D}
    (hwrite : io.spiFlashWrite flash offset (s.nor.dataTestBuf1.toList.take len.toNat) s.dev =
      (ret, d))
    (hlen : len.toNat ≤ spiTestLen) :
    (writeBuf1 io flash offset len).run s = .ok ret { s with dev := d } := by
  rw [writeBuf1, EStateM.run_bind, EStateM.run_get]
  simp only
  rw [if_neg (Nat.not_lt.mpr hlen)]
  show (drive _).run s = _
  rw [run_drive, hwrite]

/-- `spi_flash_erase_read_write(spi_offset, spi_len)`. -/
def spiFlashEraseReadWrite (io : SpiFlashDriver D) (spi_offset spi_len : BitVec 32) :
    TestProg D ℤ := do
  let s ← get
  let flash ← deref s.nor.flash
  -- a sum of two `int`s, compared with an unsigned size
  if spi_offset + spi_len > io.size flash s.dev then
    return -1
  let ret ← readInto io .buf1 flash spi_offset spi_len
  if ret ≠ 0 then
    return -1
  let ret ← drive (io.spiFlashErase flash spi_offset spi_len)
  if ret ≠ 0 then
    return -1
  let ret ← writeBuf1 io flash spi_offset spi_len
  if ret ≠ 0 then
    return -1
  -- the result of the second reading is overwritten
  let _ ← readInto io .buf2 flash spi_offset spi_len
  let ret ← drive (io.spiFlashErase flash spi_offset 0x400000)
  if ret ≠ 0 then
    return -1
  let s ← get
  if s.nor.dataTestBuf1 ≠ s.nor.dataTestBuf2 then
    return -1
  return 0

/-- `if (!ret) device_remove(new, DM_REMOVE_NORMAL)`. -/
def removeOld (io : SpiFlashDriver D) (ret : BitVec 32) (new : Option Udevice) :
    TestProg D Unit := do
  if ret ≠ 0 then
    return
  let new ← deref new
  let _ ← drive (io.deviceRemove new)

/-- `spi_nor_init(spi_bus_no, spi_cs_no)`. -/
def spiNorInit (io : SpiFlashDriver D) (spi_bus_no spi_cs_no : BitVec 32) :
    TestProg D ℤ := do
  let (ret, new) ← drive (io.spiFindBusAndCs spi_bus_no spi_cs_no)
  removeOld io ret new
  modify fun s => { s with nor.flash := none }
  let (ret, new) ← drive (io.spiFlashProbeBusCs spi_bus_no spi_cs_no)
  if ret ≠ 0 then
    return -1
  modify fun s => { s with nor.flash := new }
  return 0

/-- `NOR_Flash_test(testId, arg)`. -/
def norFlashTest (io : SpiFlashDriver D) (testId : BitVec 32) (arg : Option ANorFlashTest) :
    TestProg D TestResultTypes := do
  match arg with
  | none =>
      testAssert .testW25q32Norflash 160
      return .aborted
  | some a =>
      if a.spi_bus_no ≠ 0 then
        return .fail
      spiPinMuxCfg io
      if (← spiNorInit io (a.spi_bus_no.setWidth 32) (a.spi_cs_no.setWidth 32)) < 0 then
        reportEvent testId .busInit [a.spi_bus_no.setWidth 32]
        spiPinMuxCfg io
        return .fail
      if (← spiFlashEraseReadWrite io a.spi_offset a.spi_len) < 0 then
        reportEvent testId .busInit [a.spi_bus_no.setWidth 32]
        spiPinMuxCfg io
        return .fail
      return .pass

/-! ## Finding the flash -/

/-- **A flash that is found**: while the board is in a state with `P`, looking for the
flash finds it, and neither that nor a register write takes the board out of such a
state. -/
structure SpiFlashDriver.Found (io : SpiFlashDriver D) (bus cs : BitVec 32) (P : D → Prop) :
    Prop where
  writel : ∀ value addr d, P d → P (io.writel value addr d)
  find : ∀ d, P d → ∃ ret new d', io.spiFindBusAndCs bus cs d = ((ret, new), d') ∧
    (ret = 0 → new.isSome) ∧ P d'
  remove : ∀ dev d, P d → P (io.deviceRemove dev d).2
  probe : ∀ d, P d → ∃ new d', io.spiFlashProbeBusCs bus cs d = ((0, some new), d') ∧ P d'

section Found

variable {io : SpiFlashDriver D} {bus cs : BitVec 32} {P : D → Prop}

theorem triple_spiPinMuxCfg (h : io.Found bus cs P) (n : NorStatics) :
    Triple (fun s => P s.dev ∧ s.nor = n) (spiPinMuxCfg io) (fun _ s => P s.dev ∧ s.nor = n) := by
  rintro s ⟨hP, hn⟩
  exact ⟨_, _, rfl, h.writel _ _ _ (h.writel _ _ _ (h.writel _ _ _ (h.writel _ _ _ hP))), hn⟩

theorem triple_removeOld (h : io.Found bus cs P) {ret : BitVec 32}
    {new : Option Udevice} (hnew : ret = 0 → new.isSome) (n : NorStatics) :
    Triple (fun s => P s.dev ∧ s.nor = n) (removeOld io ret new)
      (fun _ s => P s.dev ∧ s.nor = n) := by
  unfold removeOld
  refine .ite (fun _ => .pure fun s hs => hs) fun hret => ?_
  obtain ⟨dev, rfl⟩ := Option.isSome_iff_exists.mp (hnew (not_not.mp hret))
  rintro s ⟨hP, hn⟩
  exact ⟨(), _, rfl, h.remove dev s.dev hP, hn⟩

theorem triple_spiNorInit (h : io.Found bus cs P) (n : NorStatics) :
    Triple (fun s => P s.dev ∧ s.nor = n) (spiNorInit io bus cs)
      (fun r s => r = 0 ∧ P s.dev ∧ ∃ flash, s.nor = { n with flash := some flash }) := by
  rintro s ⟨hP, hn⟩
  obtain ⟨ret, new, d₁, hfind, hnew, hP₁⟩ := h.find s.dev hP
  obtain ⟨_, t, hremove, hP₂, hn₂⟩ := triple_removeOld h hnew n { s with dev := d₁ } ⟨hP₁, hn⟩
  obtain ⟨flash, d₃, hprobe, hP₃⟩ := h.probe t.dev hP₂
  refine ⟨0, { t with dev := d₃, nor.flash := some flash }, ?_, rfl, hP₃, flash, by rw [← hn₂]⟩
  rw [spiNorInit, EStateM.run_bind, run_drive, hfind]
  simp only
  rw [EStateM.run_bind, hremove]
  simp only
  rw [EStateM.run_bind, EStateM.run_modify]
  simp only
  rw [EStateM.run_bind, run_drive, hprobe]
  rfl

/-- **The test of a flash that is found** comes down to what it does to the area. -/
theorem triple_norFlashTest {a : ANorFlashTest}
    (h : io.Found (a.spi_bus_no.setWidth 32) (a.spi_cs_no.setWidth 32) P)
    (hbus : a.spi_bus_no = 0) (testId : BitVec 32) (n : NorStatics) {good : Fixture D → Prop}
    {bad : Prop}
    (harea : ∀ flash, Triple (fun s => P s.dev ∧ s.nor = { n with flash := some flash })
      (spiFlashEraseReadWrite io a.spi_offset a.spi_len)
      fun ret s => (ret = 0 ∧ good s) ∨ (ret = -1 ∧ bad)) :
    Triple (fun s => P s.dev ∧ s.nor = n) (norFlashTest io testId (some a))
      fun r s => (r = .pass ∧ good s) ∨ (r = .fail ∧ bad) := by
  have hinit : Triple (fun s => P s.dev ∧ s.nor = n)
      (spiNorInit io (a.spi_bus_no.setWidth 32) (a.spi_cs_no.setWidth 32))
      (fun r s => ¬ r < 0 ∧ ∃ flash, P s.dev ∧ s.nor = { n with flash := some flash }) := by
    refine (triple_spiNorInit h n).conseq (fun _ hs => hs) ?_
    rintro r s ⟨rfl, hP, flash, hn⟩
    exact ⟨by decide, flash, hP, hn⟩
  unfold norFlashTest
  simp only
  rw [if_neg (not_not.mpr hbus)]
  refine .bind (triple_spiPinMuxCfg h n) fun _ => ?_
  refine .bind_check hinit ?_
  refine .of_exists fun flash => ?_
  refine .bind (harea flash) fun r => ?_
  rintro s (⟨rfl, hgood⟩ | ⟨rfl, hbad⟩)
  · exact ⟨.pass, s, rfl, .inl ⟨rfl, hgood⟩⟩
  · exact ⟨.fail, _, rfl, .inr ⟨rfl, hbad⟩⟩

end Found

/-! ## A dead write path -/

/-- **A flash that acknowledges and does not store.**  While the board is in a state
with `P`, the flash is found and has the given size, erasures and writes succeed,
and reads return the cells; and whatever is done to it, the board stays in such a
state, so the cells never change. -/
structure SpiFlashDriver.Dead (io : SpiFlashDriver D) (bus cs size : BitVec 32)
    (cells : ℕ → Byte) (P : D → Prop) : Prop extends io.Found bus cs P where
  size_eq : ∀ flash d, P d → io.size flash d = size
  read : ∀ flash offset len d, P d → ∃ data d', io.spiFlashRead flash offset len d =
    ((0, data), d') ∧ (∀ i < len.toNat, data i = some (cells (offset.toNat + i))) ∧ P d'
  erase : ∀ flash offset len d, P d → ∃ d', io.spiFlashErase flash offset len d = (0, d') ∧ P d'
  write : ∀ flash offset buf d, P d → ∃ d', io.spiFlashWrite flash offset buf d = (0, d') ∧ P d'

/-- The buffers agree from index `len` on. -/
def NorStatics.SameEnds (n : NorStatics) (len : ℕ) : Prop :=
  ∀ i (hi : i < spiTestLen), len ≤ i → n.dataTestBuf1[i] = n.dataTestBuf2[i]

/-- **When the buffers are alike** after both have been filled. -/
theorem NorStatics.fill_same_iff (n : NorStatics) (len : ℕ) (data₁ data₂ : ℕ → Option Byte) :
    ((n.fill len data₁ .buf1).fill len data₂ .buf2).dataTestBuf1 =
        ((n.fill len data₁ .buf1).fill len data₂ .buf2).dataTestBuf2 ↔
      (∀ i (hi : i < spiTestLen), i < len →
        (data₁ i).getD n.dataTestBuf1[i] = (data₂ i).getD n.dataTestBuf2[i]) ∧
      n.SameEnds len := by
  rw [fill_buf1_fill_buf2]
  exact deliver_eq_deliver_iff

/-- **The comparison at the end of the routine**: where both buffers have been filled with
the same bytes, they agree exactly if their ends did. -/
theorem triple_compareBufs {n : NorStatics} {len : ℕ} {data₁ data₂ : ℕ → Option Byte}
    {bytes : ℕ → Byte} (hdata₁ : ∀ i < len, data₁ i = some (bytes i))
    (hdata₂ : ∀ i < len, data₂ i = some (bytes i)) (I : Fixture D → Prop) :
    Triple (fun s => s.nor = (n.fill len data₁ .buf1).fill len data₂ .buf2 ∧ I s)
      (do
        let s ← get
        if s.nor.dataTestBuf1 ≠ s.nor.dataTestBuf2 then
          return -1
        return 0 : TestProg D ℤ)
      fun r s => I s ∧ ((r = 0 ∧ n.SameEnds len) ∨ (r = -1 ∧ ¬ n.SameEnds len)) := by
  rintro s ⟨hn, hI⟩
  have hsame : s.nor.dataTestBuf1 = s.nor.dataTestBuf2 ↔ n.SameEnds len := by
    rw [hn, NorStatics.fill_same_iff, and_iff_right fun i _ hi => ?_]
    rw [hdata₁ i hi, hdata₂ i hi, Option.getD_some, Option.getD_some]
  rw [EStateM.run_bind, EStateM.run_get]
  simp only
  by_cases hends : n.SameEnds len
  · refine ⟨0, s, ?_, hI, .inl ⟨rfl, hends⟩⟩
    rw [if_neg (not_not.mpr (hsame.mpr hends))]
    rfl
  · refine ⟨-1, s, ?_, hI, .inr ⟨rfl, hends⟩⟩
    rw [if_pos fun h => hends (hsame.mp h)]
    rfl

section Dead

variable {io : SpiFlashDriver D} {bus cs size : BitVec 32} {cells : ℕ → Byte} {P : D → Prop}

theorem triple_readInto_dead (h : io.Dead bus cs size cells P) (buf : TestBuf) (flash : Udevice)
    (offset : BitVec 32) {len : BitVec 32} (hlen : len.toNat ≤ spiTestLen) (n : NorStatics) :
    Triple (fun s => P s.dev ∧ s.nor = n) (readInto io buf flash offset len)
      (fun r s => ¬ r ≠ 0 ∧ ∃ data, (∀ i < len.toNat, data i = some (cells (offset.toNat + i))) ∧
        P s.dev ∧ s.nor = n.fill len.toNat data buf) := by
  rintro s ⟨hP, rfl⟩
  obtain ⟨data, d, hread, hdata, hP'⟩ := h.read flash offset len s.dev hP
  exact ⟨0, _, run_readInto hread hlen buf, fun h => h rfl, data, hdata, hP', rfl⟩

theorem triple_writeBuf1_dead (h : io.Dead bus cs size cells P) (flash : Udevice)
    (offset : BitVec 32) {len : BitVec 32} (hlen : len.toNat ≤ spiTestLen) (n : NorStatics) :
    Triple (fun s => P s.dev ∧ s.nor = n) (writeBuf1 io flash offset len)
      (fun r s => ¬ r ≠ 0 ∧ P s.dev ∧ s.nor = n) := by
  rintro s ⟨hP, hn⟩
  obtain ⟨d, hwrite, hP'⟩ := h.write flash offset
    (s.nor.dataTestBuf1.toList.take len.toNat) s.dev hP
  exact ⟨0, _, run_writeBuf1 hwrite hlen, fun h => h rfl, hP', hn⟩

theorem triple_erase_dead (h : io.Dead bus cs size cells P) (flash : Udevice)
    (offset len : BitVec 32) (n : NorStatics) :
    Triple (fun s => P s.dev ∧ s.nor = n) (drive (io.spiFlashErase flash offset len))
      (fun r s => ¬ r ≠ 0 ∧ P s.dev ∧ s.nor = n) := by
  rintro s ⟨hP, hn⟩
  obtain ⟨d, herase, hP'⟩ := h.erase flash offset len s.dev hP
  refine ⟨0, { s with dev := d }, ?_, fun h => h rfl, hP', hn⟩
  rw [run_drive, herase]

/-- On a dead flash, the comparison only sees what lies behind the area. -/
theorem triple_spiFlashEraseReadWrite_dead (h : io.Dead bus cs size cells P)
    {offset len : BitVec 32} (hlen : len.toNat ≤ spiTestLen) (hfits : offset + len ≤ size)
    {n : NorStatics} {flash : Udevice} (hflash : n.flash = some flash) :
    Triple (fun s => P s.dev ∧ s.nor = n) (spiFlashEraseReadWrite io offset len)
      (fun r _ => (r = 0 ∧ n.SameEnds len.toNat) ∨ (r = -1 ∧ ¬ n.SameEnds len.toNat)) := by
  unfold spiFlashEraseReadWrite
  refine .bind (.get (Q := fun s₀ s => (P s₀.dev ∧ s₀.nor = n) ∧ P s.dev ∧ s.nor = n)
    fun s hs => ⟨hs, hs⟩) fun s₀ => .of_fact fun hs₀ => ?_
  rw [hs₀.2, hflash, deref_some, pure_bind, h.size_eq flash s₀.dev hs₀.1]
  refine .ite (fun hgt => absurd hgt (BitVec.not_lt.mpr hfits)) fun _ => ?_
  refine .bind_check (triple_readInto_dead h .buf1 flash offset hlen n) ?_
  refine .of_exists fun data₁ => .of_fact fun hdata₁ => ?_
  refine .bind_check (triple_erase_dead h flash offset len _) ?_
  refine .bind_check (triple_writeBuf1_dead h flash offset hlen _) ?_
  refine .bind (triple_readInto_dead h .buf2 flash offset hlen _) fun _ => .of_fact fun _ => ?_
  refine .of_exists fun data₂ => .of_fact fun hdata₂ => ?_
  refine .bind_check (triple_erase_dead h flash offset _ _) ?_
  -- both readings deliver what the flash held
  exact (triple_compareBufs hdata₁ hdata₂ fun s => P s.dev).conseq (fun _ hs => ⟨hs.2, hs.1⟩)
    fun _ _ hs => hs.2

/-- **The NOR flash test on a dead flash**, for an area that fits the buffers, passes
exactly if the buffers ended alike before. -/
theorem triple_norFlashTest_dead {a : ANorFlashTest}
    (h : io.Dead (a.spi_bus_no.setWidth 32) (a.spi_cs_no.setWidth 32) size cells P)
    (hbus : a.spi_bus_no = 0) (hfits : a.spi_offset + a.spi_len ≤ size)
    (hlen : a.spi_len.toNat ≤ spiTestLen) (testId : BitVec 32) (n : NorStatics) :
    Triple (fun s => P s.dev ∧ s.nor = n) (norFlashTest io testId (some a))
      (fun r _ => (r = .pass ∧ n.SameEnds a.spi_len.toNat) ∨
        (r = .fail ∧ ¬ n.SameEnds a.spi_len.toNat)) :=
  triple_norFlashTest h.toFound hbus testId n fun _ =>
    triple_spiFlashEraseReadWrite_dead h hlen hfits rfl

/-- An area that does not fit the buffers runs over them. -/
theorem stops_norFlashTest_dead {a : ANorFlashTest}
    (h : io.Dead (a.spi_bus_no.setWidth 32) (a.spi_cs_no.setWidth 32) size cells P)
    (hbus : a.spi_bus_no = 0) (hfits : a.spi_offset + a.spi_len ≤ size)
    (hlen : spiTestLen < a.spi_len.toNat) (testId : BitVec 32) (n : NorStatics) :
    Stops (fun s => P s.dev ∧ s.nor = n) (norFlashTest io testId (some a)) := by
  have hread : ∀ flash, Stops (fun s => P s.dev)
      (readInto io .buf1 flash a.spi_offset a.spi_len) := by
    intro flash s hP
    refine ⟨{ s with dev := (io.spiFlashRead flash a.spi_offset a.spi_len s.dev).2 }, ?_⟩
    rw [readInto, EStateM.run_bind, run_drive]
    simp only
    rw [if_pos hlen]
    rfl
  unfold norFlashTest
  simp only
  rw [if_neg (not_not.mpr hbus)]
  refine .after (triple_spiPinMuxCfg h.toFound n) fun _ => ?_
  refine .after (triple_spiNorInit h.toFound n) fun r => .of_fact fun hr => ?_
  rw [hr, if_neg (by decide)]
  refine Stops.bind ?_
  unfold spiFlashEraseReadWrite
  rintro s ⟨hP, flash, hn⟩
  rw [EStateM.run_bind, EStateM.run_get]
  simp only
  rw [hn, deref_some, pure_bind, h.size_eq flash s.dev hP, if_neg (BitVec.not_lt.mpr hfits)]
  exact (hread flash).bind s hP

end Dead

/-! ## What the test reports -/

/-- Looking for a flash and probing it deliver a device wherever they succeed. -/
structure SpiFlashDriver.FindsFlash (io : SpiFlashDriver D) : Prop where
  find : ∀ bus cs d, (io.spiFindBusAndCs bus cs d).1.1 = 0 →
    (io.spiFindBusAndCs bus cs d).1.2.isSome
  probe : ∀ bus cs d, (io.spiFlashProbeBusCs bus cs d).1.1 = 0 →
    (io.spiFlashProbeBusCs bus cs d).1.2.isSome

section Reports

variable {c testId : BitVec 32} {K : Report → Prop} {bus stop : Prop} {io : SpiFlashDriver D}

theorem emits_spiPinMuxCfg :
    Emits (logged c K bus) stop (fun _ => True) (spiPinMuxCfg io) fun _ l _ => l = [] ∧ True :=
  .bind_silent (emits_drive _) fun _ => .bind_silent (emits_drive _) fun _ =>
    .bind_silent (emits_drive _) fun _ => emits_drive _

theorem emits_readInto {spi_len : BitVec 32} (hlen : spiTestLen < spi_len.toNat → stop)
    (buf : TestBuf) (flash : Udevice) (spi_offset : BitVec 32) :
    Emits (logged c K bus) stop (fun _ => True) (readInto io buf flash spi_offset spi_len)
      fun _ l _ => l = [] ∧ True := by
  unfold readInto
  refine .bind_silent (emits_drive _) fun _ => ?_
  refine .ite (fun hgt => .outOfBounds (hlen hgt)) fun _ => ?_
  refine .bind_silent (emits_modify (fun _ => rfl) (fun _ => rfl) fun _ => rfl) fun _ => ?_
  exact .pure fun _ _ => ⟨rfl, trivial⟩

theorem emits_writeBuf1 {spi_len : BitVec 32} (hlen : spiTestLen < spi_len.toNat → stop)
    (flash : Udevice) (spi_offset : BitVec 32) :
    Emits (logged c K bus) stop (fun _ => True) (writeBuf1 io flash spi_offset spi_len)
      fun _ l _ => l = [] ∧ True := by
  unfold writeBuf1
  refine .bind_silent emits_get fun _ => ?_
  exact .ite (fun hgt => .outOfBounds (hlen hgt)) fun _ => emits_drive _

/-- What is done to the area is not reported, whether it works or not. -/
theorem emits_spiFlashEraseReadWrite {spi_len : BitVec 32}
    (hlen : spiTestLen < spi_len.toNat → stop) (spi_offset : BitVec 32) :
    Emits (logged c K bus) stop (fun s => s.nor.flash = none → stop)
      (spiFlashEraseReadWrite io spi_offset spi_len) fun _ l _ => l = [] ∧ True := by
  have hret : ∀ z : ℤ, Emits (logged c K bus) stop (fun _ : Fixture D => True) (pure z)
      fun _ l _ => l = [] ∧ True := fun z => .pure fun _ _ => ⟨rfl, trivial⟩
  unfold spiFlashEraseReadWrite
  refine .bind_silent (I := fun s _ => s.nor.flash = none → stop)
    (.get fun s hs => ⟨rfl, hs⟩) fun s t hinv hs => ?_
  refine Emits.bind_silent (P := fun _ => True) (emits_deref hs) (fun flash => ?_) t hinv trivial
  refine .ite (fun _ => .pure fun _ _ => ⟨rfl, trivial⟩) fun _ => ?_
  refine Emits.conseq (P := fun _ => True) ?_ (fun _ _ => trivial) fun _ _ _ h => h
  refine .bind_silent (emits_readInto hlen .buf1 flash spi_offset) fun _ => ?_
  refine .ite (fun _ => hret _) fun _ => ?_
  refine .bind_silent (emits_drive _) fun _ => ?_
  refine .ite (fun _ => hret _) fun _ => ?_
  refine .bind_silent (emits_writeBuf1 hlen flash spi_offset) fun _ => ?_
  refine .ite (fun _ => hret _) fun _ => ?_
  refine .bind_silent (emits_readInto hlen .buf2 flash spi_offset) fun _ => ?_
  refine .bind_silent (emits_drive _) fun _ => ?_
  refine .ite (fun _ => hret _) fun _ => ?_
  refine .bind_silent emits_get fun _ => ?_
  exact .ite (fun _ => hret _) fun _ => hret _

theorem emits_removeOld {ret : BitVec 32} {new : Option Udevice}
    (hstop : ret = 0 → new = none → stop) :
    Emits (logged c K bus) stop (fun _ => True) (removeOld io ret new)
      fun _ l _ => l = [] ∧ True := by
  unfold removeOld
  refine .ite (fun _ => .pure fun _ _ => ⟨rfl, trivial⟩) fun hret => ?_
  refine .bind_silent (emits_deref (hstop (not_not.mp hret))) fun _ => ?_
  refine .bind_silent (emits_drive _) fun _ => ?_
  exact .pure fun _ _ => ⟨rfl, trivial⟩

/-- Looking for the flash, which is there afterwards if that succeeds. -/
theorem emits_spiNorInit (hstop : ¬ io.FindsFlash → stop) (spi_bus_no spi_cs_no : BitVec 32) :
    Emits (logged c K bus) stop (fun _ => True) (spiNorInit io spi_bus_no spi_cs_no)
      fun r l s => l = [] ∧ (¬ r < 0 → s.nor.flash = none → stop) := by
  have hfinds : ∀ {ret : BitVec 32} {new : Option Udevice}, (io.FindsFlash → ret = 0 → new.isSome) →
      ret = 0 → new = none → stop := by
    intro ret new hfound hret hnone
    refine hstop fun h => ?_
    have hsome := hfound h hret
    rw [hnone] at hsome
    exact Bool.noConfusion hsome
  unfold spiNorInit
  refine .bind_silent (I := fun r _ => io.FindsFlash → r.1 = 0 → r.2.isSome)
    (fun s _ _ => .inl ⟨_, _, [], rfl, sees_nil rfl rfl rfl, rfl, fun h => h.find _ _ s.dev⟩) ?_
  rintro ⟨ret, new⟩ s hinv hfound
  refine Emits.bind_silent (emits_removeOld (hfinds hfound)) (fun _ => ?_) s hinv trivial
  refine .bind_silent (emits_modify (fun _ => rfl) (fun _ => rfl) fun _ => rfl) fun _ => ?_
  refine .bind_silent (I := fun r _ => io.FindsFlash → r.1 = 0 → r.2.isSome)
    (fun s _ _ => .inl ⟨_, _, [], rfl, sees_nil rfl rfl rfl, rfl, fun h => h.probe _ _ s.dev⟩) ?_
  rintro ⟨ret, new⟩
  refine .ite (fun _ => .pure fun _ _ => ⟨rfl, fun h => absurd (by decide) h⟩) fun hret => ?_
  intro s hinv hfound
  exact .inl ⟨0, { s with nor.flash := new }, [], rfl, sees_nil rfl rfl rfl, rfl,
    fun _ => hfinds hfound (not_not.mp hret)⟩

/-- **The NOR flash test** reports an error wherever it fails, except for a bus that it
does not accept: then it fails at once. -/
theorem emits_norFlashTest (hK : Admits K c testId) (hstop : ¬ io.FindsFlash → stop)
    (arg : Option ANorFlashTest) (hlen : ∀ a ∈ arg, spiTestLen < a.spi_len.toNat → stop) :
    Emits (logged c K bus) stop (fun _ => True) (norFlashTest io testId arg)
      fun r l _ => Answers arg.isSome (∀ a ∈ arg, a.spi_bus_no = 0) r l := by
  cases arg with
  | none => exact emits_unconfigured hK _ _ _
  | some a =>
      have hfail : Emits (logged c K bus) stop (fun _ => True)
          (do
            reportEvent testId .busInit [a.spi_bus_no.setWidth 32]
            spiPinMuxCfg io
            return .fail)
          fun r l _ => Honest (∀ b ∈ some a, b.spi_bus_no = 0) r l := by
        refine .bind (emits_report hK (by decide) _) fun _ l s hinv hl => ?_
        refine Emits.bind_silent emits_spiPinMuxCfg (fun _ => .pure fun _ _ => ?_) s hinv trivial
        exact honest_fail (hl.append_left [])
      refine emits_answers _ ?_
      unfold norFlashTest
      refine .ite (fun hbus => .pure fun _ _ => ?_) fun _ => ?_
      · exact .inr ⟨rfl, fun h => absurd (h a rfl) hbus⟩
      refine .bind_silent emits_spiPinMuxCfg fun _ => ?_
      refine .bind_silent (emits_spiNorInit hstop _ _) fun r => ?_
      refine .ite (fun _ => hfail.conseq (fun _ _ => trivial) fun _ _ _ h => h) fun hr => ?_
      refine .bind_silent ((emits_spiFlashEraseReadWrite (hlen a rfl) a.spi_offset).conseq
        (fun _ hs => hs hr) fun _ _ _ h => h) fun r => ?_
      exact .ite (fun _ => hfail) fun _ => .pure fun _ _ => honest_pass _

end Reports

end BoardDiag
