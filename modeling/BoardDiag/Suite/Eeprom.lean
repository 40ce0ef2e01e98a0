import BoardDiag.Suite.Reports

/-!
# The EEPROM test

`testsuite/test_at24c_eeprom.c`.  The test writes a fixed pattern to 128 cells,
page by page, reads them back and compares.

The address of a page goes through an `uint8_t` on its way to the driver, so it
wraps at 256.

`triple_eepromReadWriteTest_dead` is about a memory whose write path is dead: it
acknowledges what it is told to write and keeps what it held.  Such a memory is
noticed exactly if it held something else than the pattern in one of the cells
that are read back --- and after one good run it holds the pattern in all of
them.
-/

namespace BoardDiag

open Machine

variable {D : Type}

/-- `EEPROM_PAGE_LEN`. -/
def eepromPageLen : ℕ := 32

/-- `EEPROM_OFFSET_LEN`. -/
def eepromOffsetLen : BitVec 32 := 2

/-- `EEPROM_TEST_PATTERN`. -/
def eepromTestPattern : Byte := 0xEA

/-- `A_EEPROM_Read_Write_test`. -/
structure AEepromReadWriteTest where
  i2c_bus_num : BitVec 8
  i2c_dev_addr : BitVec 8
  eeprom_offset : BitVec 8
  test_len : BitVec 8

/-- The register address of a page: `a->eeprom_offset + offset`, as an `uint8_t`. -/
def AEepromReadWriteTest.reg (a : AEepromReadWriteTest) (offset : ℕ) : BitVec 8 :=
  (a.eeprom_offset.setWidth 32 + BitVec.ofNat 32 offset).setWidth 8

/-- The addresses an event of the test carries. -/
def AEepromReadWriteTest.address (a : AEepromReadWriteTest) : List (BitVec 32) :=
  [a.i2c_bus_num.setWidth 32, a.i2c_dev_addr.setWidth 32, a.eeprom_offset.setWidth 32]

/-- `cfg_exp_i2c1_pin_mux()`. -/
def cfgExpI2c1PinMux (io : I2cDriver D) : TestProg D Unit := do
  drive fun d => ((), io.writel 0x0000007B 0x44e10980 d)
  drive fun d => ((), io.writel 0x0000007B 0x44e10984 d)

/-- The body of the first loop, at the `k`-th value of `offset`: the status it
breaks with, if it does. -/
def writePage (io : I2cDriver D) (a : AEepromReadWriteTest) (k : ℕ) :
    TestProg D (Option TestResultTypes) := do
  let offset := k * eepromPageLen
  let s ← get
  let status ← eBBTFUtilsI2cWrite io a.i2c_bus_num (a.i2c_dev_addr.setWidth 32) (a.reg offset)
    eepromOffsetLen ((s.eeprom.i2cEepromTestbuf1.toList.drop offset).take eepromPageLen)
  if status ≠ .pass then
    return some status
  return none

/-- The fixture with a stretch of `i2c_eeprom_testbuf2` overwritten. -/
def Fixture.fillTestbuf2 (s : Fixture D) (offset len : ℕ) (data : ℕ → Byte) : Fixture D :=
  { s with eeprom.i2cEepromTestbuf2 := overwrite s.eeprom.i2cEepromTestbuf2 offset len data }

theorem Fixture.dev_fillTestbuf2 (s : Fixture D) (offset len : ℕ) (data : ℕ → Byte) :
    (s.fillTestbuf2 offset len data).dev = s.dev := rfl

theorem Fixture.eeprom_fillTestbuf2 (s : Fixture D) (offset len : ℕ) (data : ℕ → Byte) :
    (s.fillTestbuf2 offset len data).eeprom = ⟨s.eeprom.i2cEepromTestbuf1,
      overwrite s.eeprom.i2cEepromTestbuf2 offset len data⟩ := rfl

/-- What a transfer puts into `i2c_eeprom_testbuf2`. -/
def storeTestbuf2 (offset len : ℕ) (data : Option (ℕ → Byte)) : TestProg D Unit :=
  match data with
  | none => pure ()
  | some data => modify fun s => s.fillTestbuf2 offset len data

/-- The body of the second loop. -/
def readPage (io : I2cDriver D) (a : AEepromReadWriteTest) (k : ℕ) :
    TestProg D (Option TestResultTypes) := do
  let offset := k * eepromPageLen
  let (status, data) ← eBBTFUtilsI2cRead io a.i2c_bus_num (a.i2c_dev_addr.setWidth 32)
    (a.reg offset) eepromOffsetLen eepromPageLen
  storeTestbuf2 offset eepromPageLen data
  if status ≠ .pass then
    return some status
  return none

/-- `EEPROM_Read_Write_test(testId, arg)`. -/
def eepromReadWriteTest (io : I2cDriver D) (testId : BitVec 32)
    (arg : Option AEepromReadWriteTest) : TestProg D TestResultTypes := do
  match arg with
  | none =>
      testAssert .testAt24cEeprom 55
      return .aborted
  | some a =>
      cfgExpI2c1PinMux io
      modify fun s =>
        { s with eeprom.i2cEepromTestbuf1 := Vector.replicate testBufferLen eepromTestPattern }
      match ← searchFrom (writePage io a) 0 (testBufferLen / eepromPageLen) with
      | some _ =>
          reportEvent testId .devWrite a.address
          return .fail
      | none =>
          match ← searchFrom (readPage io a) 0 (testBufferLen / eepromPageLen) with
          | some _ =>
              reportEvent testId .devRead a.address
              return .fail
          | none =>
              let s ← get
              if s.eeprom.i2cEepromTestbuf2 ≠ s.eeprom.i2cEepromTestbuf1 then
                reportEvent testId .busDataMismatch a.address
                return .fail
              return .pass

/-! ## A dead write path -/

/-- **A memory that acknowledges and does not store.**  While the board is in a
state with `P`, the bus and the chip answer, writes succeed, and reads return the
cells; and whatever is done to it, the board stays in such a state, so the cells
never change. -/
structure I2cDriver.Dead (io : I2cDriver D) (bus_num : BitVec 8) (chip_address : BitVec 32)
    (cells : ℕ → Byte) (P : D → Prop) : Prop where
  writel : ∀ value addr d, P d → P (io.writel value addr d)
  bus : ∀ d, P d → ∃ bus d', io.uclassGetDeviceBySeq (bus_num.setWidth 32) d =
    ((0, some bus), d') ∧ P d'
  chip : ∀ bus len d, P d → ∃ dev d', io.i2cGetChip bus chip_address len d =
    ((0, some dev), d') ∧ P d'
  offset_len : ∀ dev len d, P d → ∃ d', io.i2cSetChipOffsetLen dev len d = (0, d') ∧ P d'
  wr_address : ∀ dev d, P d → P (io.setWrAddress dev d)
  write : ∀ dev offset buffer d, P d → ∃ d', io.dmI2cWrite dev offset buffer d = (0, d') ∧ P d'
  read : ∀ dev offset len d, P d → ∃ data d', io.dmI2cRead dev offset len d = ((0, data), d') ∧
    (∀ i < len, data i = cells (offset.toNat + i)) ∧ P d'

namespace I2cDriver.Dead

variable {io : I2cDriver D} {bus_num : BitVec 8} {chip_address : BitVec 32} {cells : ℕ → Byte}
  {P : D → Prop}

/-- The bus answers. -/
theorem triple_selectBus (h : io.Dead bus_num chip_address cells P) (e : EepromStatics) :
    Triple (fun s => P s.dev ∧ s.eeprom = e) (selectBus io bus_num)
      (fun r s => ∃ bus, r = some bus ∧ P s.dev ∧ s.eeprom = e) := by
  rintro s ⟨hP, he⟩
  obtain ⟨bus, d, hbus, hP'⟩ := h.bus s.dev hP
  exact ⟨some bus, _, run_selectBus hbus, bus, rfl, hP', he⟩

/-- So does the chip. -/
theorem triple_getChip (h : io.Dead bus_num chip_address cells P) (bus : Udevice)
    (len : BitVec 32) (e : EepromStatics) :
    Triple (fun s => P s.dev ∧ s.eeprom = e) (drive (io.i2cGetChip bus chip_address len))
      (fun r s => ∃ dev, r = (0, some dev) ∧ P s.dev ∧ s.eeprom = e) := by
  rintro s ⟨hP, he⟩
  obtain ⟨dev, d, hchip, hP'⟩ := h.chip bus len s.dev hP
  refine ⟨(0, some dev), { s with dev := d }, ?_, dev, rfl, hP', he⟩
  rw [run_drive, hchip]

theorem triple_setChipOffsetLen (h : io.Dead bus_num chip_address cells P) (dev : Udevice)
    (len : BitVec 32) (e : EepromStatics) :
    Triple (fun s => P s.dev ∧ s.eeprom = e) (setChipOffsetLen io 0 (some dev) len)
      (fun r s => r = 0 ∧ P s.dev ∧ s.eeprom = e) := by
  rw [setChipOffsetLen, if_neg (by decide), deref_some, pure_bind]
  rintro s ⟨hP, he⟩
  obtain ⟨d, hlen, hP'⟩ := h.offset_len dev len s.dev hP
  refine ⟨0, { s with dev := d }, ?_, rfl, hP', he⟩
  rw [run_drive, hlen]

/-- A transfer to a dead memory passes. -/
theorem triple_write (h : io.Dead bus_num chip_address cells P) (reg : BitVec 8)
    (addr_offset_len : BitVec 32) (write_value : List Byte) (e : EepromStatics) :
    Triple (fun s => P s.dev ∧ s.eeprom = e)
      (eBBTFUtilsI2cWrite io bus_num chip_address reg addr_offset_len write_value)
      (fun r s => r = .pass ∧ P s.dev ∧ s.eeprom = e) := by
  unfold eBBTFUtilsI2cWrite
  refine .bind (h.triple_selectBus e) fun _ => .of_exists fun bus => .of_fact ?_
  rintro rfl
  refine .bind (h.triple_getChip bus _ e) fun _ => .of_exists fun dev => .of_fact ?_
  rintro rfl
  refine .bind (h.triple_setChipOffsetLen dev _ e) fun _ => .of_fact fun _ => ?_
  rw [deref_some, pure_bind]
  rintro s ⟨hP, he⟩
  obtain ⟨d, hwrite, hP'⟩ := h.write dev (reg.setWidth 32) write_value _
    (h.wr_address dev s.dev hP)
  refine ⟨.pass, { s with dev := d }, ?_, rfl, hP', he⟩
  rw [EStateM.run_bind, run_drive]
  simp only
  rw [EStateM.run_bind, run_drive, hwrite]
  rfl

/-- A transfer from a dead memory passes, and delivers what the memory held. -/
theorem triple_read (h : io.Dead bus_num chip_address cells P) (reg : BitVec 8)
    (addr_offset_len : BitVec 32) (dlen : ℕ) (e : EepromStatics) :
    Triple (fun s => P s.dev ∧ s.eeprom = e)
      (eBBTFUtilsI2cRead io bus_num chip_address reg addr_offset_len dlen)
      (fun r s => ∃ data, r = (.pass, some data) ∧
        (∀ i < dlen, data i = cells (reg.toNat + i)) ∧ P s.dev ∧ s.eeprom = e) := by
  have hreg : (reg.setWidth 32).toNat = reg.toNat := by
    rw [BitVec.toNat_setWidth, Nat.mod_eq_of_lt (Nat.lt_trans reg.isLt (by decide))]
  unfold eBBTFUtilsI2cRead
  refine .bind (h.triple_selectBus e) fun _ => .of_exists fun bus => .of_fact ?_
  rintro rfl
  refine .bind (h.triple_getChip bus _ e) fun _ => .of_exists fun dev => .of_fact ?_
  rintro rfl
  refine .bind (h.triple_setChipOffsetLen dev _ e) fun _ => .of_fact ?_
  rintro rfl
  rw [readChip, if_neg (by decide), deref_some, pure_bind]
  rintro s ⟨hP, he⟩
  obtain ⟨data, d, hread, hdata, hP'⟩ := h.read dev (reg.setWidth 32) dlen s.dev hP
  rw [hreg] at hdata
  refine ⟨(.pass, some data), { s with dev := d }, ?_, data, rfl, hdata, hP', he⟩
  rw [EStateM.run_bind, EStateM.run_bind, run_drive, hread]
  rfl

end I2cDriver.Dead

/-- The cell that is read into the `i`-th byte of the buffer. -/
def AEepromReadWriteTest.cell (a : AEepromReadWriteTest) (i : ℕ) : ℕ :=
  (a.reg (i / eepromPageLen * eepromPageLen)).toNat + i % eepromPageLen

/-- **The EEPROM test, page by page**, if every transfer passes: `I k` once `k` pages have
been written, and `J k` once `k` pages have been read back. -/
theorem triple_eepromReadWriteTest_of_pages {io : I2cDriver D} {a : AEepromReadWriteTest}
    {P : Fixture D → Prop} {I J : ℕ → Fixture D → Prop} {Q : TestResultTypes → Fixture D → Prop}
    (testId : BitVec 32)
    (hmux : Triple P (cfgExpI2c1PinMux io) fun _ s => I 0 { s with
      eeprom.i2cEepromTestbuf1 := Vector.replicate testBufferLen eepromTestPattern })
    (hwrite : ∀ k < testBufferLen / eepromPageLen,
      Triple (I k) (writePage io a k) fun r s => r = none ∧ I (k + 1) s)
    (hturn : ∀ s, I (testBufferLen / eepromPageLen) s → J 0 s)
    (hread : ∀ k < testBufferLen / eepromPageLen,
      Triple (J k) (readPage io a k) fun r s => r = none ∧ J (k + 1) s)
    (hpass : ∀ s, J (testBufferLen / eepromPageLen) s →
      s.eeprom.i2cEepromTestbuf2 = s.eeprom.i2cEepromTestbuf1 → Q .pass s)
    (hfail : ∀ s, J (testBufferLen / eepromPageLen) s →
      s.eeprom.i2cEepromTestbuf2 ≠ s.eeprom.i2cEepromTestbuf1 → Q .fail (s.reported
        (.event (eventInit s.curTestId testId .busDataMismatch a.address)))) :
    Triple P (eepromReadWriteTest io testId (some a)) Q := by
  have hwrites := Triple.searchFrom 0 (testBufferLen / eepromPageLen) fun k _ hk =>
    hwrite k (by omega)
  have hreads := Triple.searchFrom 0 (testBufferLen / eepromPageLen) fun k _ hk =>
    hread k (by omega)
  rw [Nat.zero_add] at hwrites hreads
  unfold eepromReadWriteTest
  refine .bind hmux fun _ => .bind (Q := fun _ => I 0) (.modify fun s hs => hs) fun _ => ?_
  refine .bind hwrites fun r => .of_fact ?_
  rintro rfl
  refine .bind (hreads.conseq hturn fun _ _ hs => hs) fun r => .of_fact ?_
  rintro rfl
  intro s hs
  simp only
  rw [EStateM.run_bind, EStateM.run_get]
  simp only
  by_cases hsame : s.eeprom.i2cEepromTestbuf2 = s.eeprom.i2cEepromTestbuf1
  · rw [if_neg (not_not.mpr hsame)]
    exact ⟨.pass, s, rfl, hpass s hs hsame⟩
  · rw [if_pos hsame]
    exact ⟨.fail, _, rfl, hfail s hs hsame⟩

section Dead

variable {io : I2cDriver D} {a : AEepromReadWriteTest} {cells : ℕ → Byte} {P : D → Prop}

theorem triple_writePage_dead
    (h : io.Dead a.i2c_bus_num (a.i2c_dev_addr.setWidth 32) cells P)
    (b : Vector Byte testBufferLen) (k : ℕ) :
    Triple (fun s => P s.dev ∧ s.eeprom.i2cEepromTestbuf1 = b) (writePage io a k)
      (fun r s => r = none ∧ P s.dev ∧ s.eeprom.i2cEepromTestbuf1 = b) := by
  rintro s ⟨hP, hb⟩
  obtain ⟨r, t, hrun, rfl, hP', he⟩ :=
    h.triple_write (a.reg (k * eepromPageLen)) eepromOffsetLen _ s.eeprom s ⟨hP, rfl⟩
  refine ⟨none, t, ?_, rfl, hP', by rw [he, hb]⟩
  rw [writePage, EStateM.run_bind, EStateM.run_get]
  simp only
  rw [EStateM.run_bind, hrun]
  rfl

/-- Each page adds what the memory held to the buffer. -/
theorem triple_readPage_dead
    (h : io.Dead a.i2c_bus_num (a.i2c_dev_addr.setWidth 32) cells P)
    (b : Vector Byte testBufferLen) (k : ℕ) :
    Triple
      (fun s => P s.dev ∧ s.eeprom.i2cEepromTestbuf1 = b ∧
        Holds s.eeprom.i2cEepromTestbuf2 (k * eepromPageLen) fun i => cells (a.cell i))
      (readPage io a k)
      (fun r s => r = none ∧ P s.dev ∧ s.eeprom.i2cEepromTestbuf1 = b ∧
        Holds s.eeprom.i2cEepromTestbuf2 ((k + 1) * eepromPageLen) fun i => cells (a.cell i)) := by
  rintro s ⟨hP, hb, hholds⟩
  have hcell : ∀ j < eepromPageLen, (a.reg (k * eepromPageLen)).toNat + j =
      a.cell (k * eepromPageLen + j) := by
    intro j hj
    have hpos : 0 < eepromPageLen := by decide
    rw [AEepromReadWriteTest.cell, Nat.add_comm (k * eepromPageLen) j,
      Nat.add_mul_div_right j k hpos, Nat.add_mul_mod_self_right, Nat.div_eq_of_lt hj,
      Nat.mod_eq_of_lt hj, Nat.zero_add]
  obtain ⟨r, t, hrun, data, rfl, hdata, hP', he⟩ :=
    h.triple_read (a.reg (k * eepromPageLen)) eepromOffsetLen eepromPageLen s.eeprom s ⟨hP, rfl⟩
  refine ⟨none, t.fillTestbuf2 (k * eepromPageLen) eepromPageLen data, ?_, rfl, ?_⟩
  · rw [readPage, EStateM.run_bind, hrun]
    rfl
  · rw [Fixture.dev_fillTestbuf2, Fixture.eeprom_fillTestbuf2, he, Nat.succ_mul]
    exact ⟨hP', hb, hholds.overwrite fun j hj =>
      (hdata j hj).trans (congrArg cells (hcell j hj))⟩

/-- **The EEPROM test on a dead memory** fails exactly if the memory did not hold
the pattern already. -/
theorem triple_eepromReadWriteTest_dead
    (h : io.Dead a.i2c_bus_num (a.i2c_dev_addr.setWidth 32) cells P) (testId : BitVec 32) :
    Triple (fun s => P s.dev) (eepromReadWriteTest io testId (some a))
      (fun r s => P s.dev ∧
        ((∀ i < testBufferLen, cells (a.cell i) = eepromTestPattern) ∧ r = .pass ∨
          (∃ i < testBufferLen, cells (a.cell i) ≠ eepromTestPattern) ∧ r = .fail)) := by
  refine triple_eepromReadWriteTest_of_pages testId
    (I := fun _ s => P s.dev ∧
      s.eeprom.i2cEepromTestbuf1 = Vector.replicate testBufferLen eepromTestPattern)
    (J := fun k s => P s.dev ∧
      s.eeprom.i2cEepromTestbuf1 = Vector.replicate testBufferLen eepromTestPattern ∧
      Holds s.eeprom.i2cEepromTestbuf2 (k * eepromPageLen) fun i => cells (a.cell i))
    ?_ (fun k _ => triple_writePage_dead h _ k) ?_ (fun k _ => triple_readPage_dead h _ k) ?_ ?_
  · exact fun s hs => ⟨_, _, rfl, h.writel _ _ _ (h.writel _ _ _ hs), rfl⟩
  · rintro s ⟨hP, hbuf₁⟩
    refine ⟨hP, hbuf₁, ?_⟩
    rw [Nat.zero_mul]
    exact holds_zero _ _
  · rintro s ⟨hP, hbuf₁, hbuf₂⟩ hsame
    rw [hbuf₁] at hsame
    exact ⟨hP, .inl ⟨(hbuf₂.eq_replicate_iff eepromTestPattern).mp hsame, rfl⟩⟩
  · rintro s ⟨hP, hbuf₁, hbuf₂⟩ hdiffers
    rw [hbuf₁] at hdiffers
    refine ⟨hP, .inr ⟨?_, rfl⟩⟩
    by_contra hnone
    push Not at hnone
    exact hdiffers ((hbuf₂.eq_replicate_iff eepromTestPattern).mpr hnone)

end Dead

/-! ## What the test reports -/

section Reports

variable {c testId : BitVec 32} {K : Report → Prop} {bus stop : Prop} {io : I2cDriver D}

theorem emits_cfgExpI2c1PinMux :
    Emits (logged c K bus) stop (fun _ => True) (cfgExpI2c1PinMux io)
      fun _ l _ => l = [] ∧ True :=
  .bind_silent (emits_drive _) fun _ => emits_drive _

theorem emits_writePage (hU : Admits K c 0) (hbus : bus → io.FindsBus)
    (hstop : ¬ io.ChipsFound → stop) (a : AEepromReadWriteTest) (k : ℕ) :
    Emits (logged c K bus) stop (fun _ => True) (writePage io a k)
      fun r l _ => r.elim (l = [] ∧ True) fun _ => True := by
  unfold writePage
  refine .bind_silent emits_get fun s => ?_
  refine emits_bind_transfer (emits_i2cWrite hU hbus hstop _ _ _ _ _) ?_ ?_
  · rintro _ rfl
    exact .pure fun _ _ => ⟨rfl, trivial⟩
  · rintro _ l rfl -
    exact .pure fun _ _ => trivial

theorem emits_storeTestbuf2 (offset len : ℕ) (data : Option (ℕ → Byte)) :
    Emits (logged c K bus) stop (fun _ : Fixture D => True) (storeTestbuf2 offset len data)
      fun _ l _ => l = [] ∧ True := by
  cases data with
  | none => exact .pure fun _ _ => ⟨rfl, trivial⟩
  | some data => exact emits_modify (fun _ => rfl) (fun _ => rfl) fun _ => rfl

theorem emits_readPage (hU : Admits K c 0) (hbus : bus → io.FindsBus)
    (hstop : ¬ io.ChipsFound → stop) (a : AEepromReadWriteTest) (k : ℕ) :
    Emits (logged c K bus) stop (fun _ => True) (readPage io a k)
      fun r l _ => r.elim (l = [] ∧ True) fun _ => True := by
  unfold readPage
  refine emits_bind_transfer (emits_i2cRead hU hbus hstop _ _ _ _ _) ?_ ?_
  · rintro ⟨_, data⟩ rfl
    refine .bind_silent (emits_storeTestbuf2 _ _ data) fun _ => ?_
    exact .pure fun _ _ => ⟨rfl, trivial⟩
  · rintro ⟨_, data⟩ l rfl -
    refine .bind_silent (emits_storeTestbuf2 _ _ data) fun _ => ?_
    exact .pure fun _ _ => trivial

/-- **The EEPROM test** reports an error wherever it fails: whatever the utilities report
of a transfer, it adds an event of its own. -/
theorem emits_eepromReadWriteTest (hK : Admits K c testId) (hbus : bus → io.FindsBus)
    (hstop : ¬ io.ChipsFound → stop) (arg : Option AEepromReadWriteTest)
    (hU : arg.isSome → Admits K c 0) :
    Emits (logged c K bus) stop (fun _ => True) (eepromReadWriteTest io testId arg)
      fun r l _ => Answers arg.isSome True r l := by
  cases arg with
  | none => exact emits_unconfigured hK _ _ _
  | some a =>
      refine emits_answers _ ?_
      unfold eepromReadWriteTest
      refine .bind_silent emits_cfgExpI2c1PinMux fun _ => ?_
      refine .bind_silent (emits_modify (fun _ => rfl) (fun _ => rfl) fun _ => rfl) fun _ => ?_
      refine .bind_search (.searchFrom (emits_writePage (hU rfl) hbus hstop a) _ _) ?_ fun _ l =>
        emits_reportEvent_fail hK (by decide) _ _ l
      refine .bind_search (.searchFrom (emits_readPage (hU rfl) hbus hstop a) _ _) ?_ fun _ l =>
        emits_reportEvent_fail hK (by decide) _ _ l
      refine .bind_silent emits_get fun s => ?_
      exact .ite (fun _ => emits_reportEvent_fail hK (by decide) _ _ []) fun _ =>
        .pure fun _ _ => honest_pass True

end Reports

end BoardDiag
