import BoardDiag.Machine.Triple
import BoardDiag.Model.EventLog

/-!
# The test suite: fixtures and the I2C utilities

`utils/i2c_utils.c`, as it is built with `CONFIG_DM_I2C`, and what the test
functions of `testsuite/` share.

A test function runs on a `Fixture`: the board, the static variables of the test
files, and what the event log shows the tests.  What U-Boot's drivers do to the
board and what they answer is not fixed.  It is given by a record of functions, a
*driver*, and a test is modelled for every driver; a device that answers with
errors, delivers wrong data or forgets what it is told is a driver like any
other.

Return codes are 32-bit words.  A pointer that may be null, or may not have been
assigned, is an `Option`, and using one that is not there stops the program.
What the tests print besides their events is left out.
-/

namespace BoardDiag

open Machine

/-- `struct udevice *`. -/
abbrev Udevice := ℕ

/-- `TEST_BUFFER_LEN` of `test_at24c_eeprom.h`. -/
def testBufferLen : ℕ := 128

/-- `SPI_TEST_LEN`. -/
def spiTestLen : ℕ := 128 * 1024

/-- The static variables of `test_at24c_eeprom.c`. -/
structure EepromStatics where
  i2cEepromTestbuf1 : Vector Byte testBufferLen
  i2cEepromTestbuf2 : Vector Byte testBufferLen

/-- The static variables of `test_w25q32_norflash.c`.  A `struct spi_flash` is the
private data of the device it drives, and stands for it. -/
structure NorStatics where
  flash : Option Udevice
  dataTestBuf1 : Vector Byte spiTestLen
  dataTestBuf2 : Vector Byte spiTestLen

/-- What a test function runs on. -/
structure Fixture (D : Type) where
  /-- `curTestId` of the event log. -/
  curTestId : BitVec 32
  /-- What has been reported to the event log. -/
  reports : List Report
  /-- `i2c_cur_bus`. -/
  i2cCurBus : Option Udevice
  eeprom : EepromStatics
  nor : NorStatics
  dev : D

/-- The fixture U-Boot starts with. -/
def Fixture.atBoot {D : Type} (dev : D) : Fixture D where
  curTestId := 0
  reports := []
  i2cCurBus := none
  eeprom := ⟨Vector.replicate _ 0, Vector.replicate _ 0⟩
  nor := ⟨none, Vector.replicate _ 0, Vector.replicate _ 0⟩
  dev := dev

/-- A program of the test suite. -/
abbrev TestProg (D α : Type) := Prog (Fixture D) α

variable {D α : Type}

/-- Call a driver. -/
def drive (f : D → α × D) : TestProg D α := do
  let s ← get
  set { s with dev := (f s.dev).2 }
  return (f s.dev).1

/-- Use a pointer. -/
def deref (p : Option α) : TestProg D α :=
  match p with
  | some a => pure a
  | none => throw .outOfBounds

/-- The fixture after a report. -/
def Fixture.reported (s : Fixture D) (r : Report) : Fixture D :=
  { s with reports := s.reports ++ [r] }

/-- `Event_Init(testId, &event)`, the assignments to its type and addresses, and
`ReportEvent(&event)`. -/
def reportEvent (testId : BitVec 32) (eventType : DiagErrEventIDTypes)
    (address : List (BitVec 32)) : TestProg D Unit :=
  modify fun s => s.reported (.event (eventInit s.curTestId testId eventType address))

/-- `reportEvent` for an event with a text. -/
def reportEventString (testId : BitVec 32) (eventType : DiagErrEventIDTypes)
    (address : List (BitVec 32)) (string : List Byte) : TestProg D Unit :=
  modify fun s => s.reported
    (.event { eventInit s.curTestId testId eventType address with string := string })

/-- `DIAG_DIM_STRING_EVENT`: the length of the text of an event. -/
def diagDimStringEvent : ℕ := 256

/-- What `%s` makes of a string. -/
def shownString (s : Option CString) : List Byte :=
  match s with
  | some s => s.bytes
  | none => "<NULL>".toList.map ascii

/-- `sprintf(event.string, ...)`: a text that is too long runs over the event. -/
def sprintfString (text : List Byte) : TestProg D (List Byte) :=
  if diagDimStringEvent ≤ text.length then throw .outOfBounds else pure text

/-- `DEBUG_ASSERT()` in a test file. -/
def testAssert (file : SourceFile) (line : ℕ) : TestProg D Unit :=
  modify fun s => s.reported (.errEventMsg 0 .assert file line)

theorem run_drive (f : D → α × D) (s : Fixture D) :
    (drive f).run s = .ok (f s.dev).1 { s with dev := (f s.dev).2 } := rfl

theorem deref_some (a : α) : (deref (some a) : TestProg D α) = pure a := rfl

/-! ## The I2C drivers -/

/-- What U-Boot's I2C drivers do and answer, and what a register write does. -/
structure I2cDriver (D : Type) where
  writel (value addr : BitVec 32) : D → D
  /-- `uclass_get_device_by_seq(UCLASS_I2C, seq, &bus)`. -/
  uclassGetDeviceBySeq (seq : BitVec 32) : D → (BitVec 32 × Option Udevice) × D
  /-- `i2c_get_chip(bus, chip_addr, offset_len, &dev)`, with no device if `dev` is
  not assigned. -/
  i2cGetChip (bus : Udevice) (chip_addr offset_len : BitVec 32) :
    D → (BitVec 32 × Option Udevice) × D
  i2cSetChipOffsetLen (dev : Udevice) (offset_len : BitVec 32) : D → BitVec 32 × D
  /-- `flags |= DM_I2C_CHIP_WR_ADDRESS` for the chip of a device. -/
  setWrAddress (dev : Udevice) : D → D
  dmI2cWrite (dev : Udevice) (offset : BitVec 32) (buffer : List Byte) : D → BitVec 32 × D
  /-- `dm_i2c_read(dev, offset, buffer, len)`, with what it puts into the buffer. -/
  dmI2cRead (dev : Udevice) (offset : BitVec 32) (len : ℕ) : D → (BitVec 32 × (ℕ → Byte)) × D

/-- The I2C drivers with what the tests call besides the utilities. -/
structure I2cBusDriver (D : Type) extends I2cDriver D where
  dmI2cGetBusSpeed (bus : Udevice) : D → BitVec 32 × D
  dmI2cSetBusSpeed (bus : Udevice) (speed : BitVec 32) : D → BitVec 32 × D
  /-- `dm_i2c_probe(bus, chip_addr, 0, &dev)`. -/
  dmI2cProbe (bus : Udevice) (chip_addr : BitVec 32) : D → BitVec 32 × D

/-- `-ENODEV`. -/
def enodev : BitVec 32 := BitVec.ofInt 32 (-19)

/-- `eBBTF_utils_set_i2c_bus(busnum)`. -/
def eBBTFUtilsSetI2cBus (io : I2cDriver D) (busnum : BitVec 32) : TestProg D (BitVec 32) := do
  let (ret, bus) ← drive (io.uclassGetDeviceBySeq busnum)
  if ret ≠ 0 then
    return ret
  modify fun s => { s with i2cCurBus := bus }
  return 0

/-- `eBBTF_utils_get_i2c_bus(&bus)`, with the bus if it assigns one. -/
def eBBTFUtilsGetI2cBus : TestProg D (BitVec 32 × Option Udevice) := do
  let s ← get
  match s.i2cCurBus with
  | none => return (enodev, none)
  | some bus => return (0, some bus)

/-- `eBBTF_utils_i2c_bus_speed(bus_speed)`. -/
def eBBTFUtilsI2cBusSpeed (io : I2cBusDriver D) (bus_speed : BitVec 32) :
    TestProg D (BitVec 32) := do
  let (ret, bus) ← eBBTFUtilsGetI2cBus
  if ret ≠ 0 then
    return 1
  let bus ← deref bus
  let _ ← drive (io.dmI2cGetBusSpeed bus)
  drive (io.dmI2cSetBusSpeed bus bus_speed)

/-- The beginning of `eBBTF_utils_i2c_write` and of `eBBTF_utils_i2c_read`: the bus
to use, or none if they return `FAIL`.  The status is an `int8_t`, so a return
code is cut down to eight bits before it is looked at. -/
def selectBus (io : I2cDriver D) (bus_num : BitVec 8) : TestProg D (Option Udevice) := do
  let i2c_status ← eBBTFUtilsSetI2cBus io (bus_num.setWidth 32)
  if i2c_status.setWidth 8 ≠ 0 then
    reportEvent 0 .busNotFound [bus_num.setWidth 32]
    return none
  let (i2c_status, bus) ← eBBTFUtilsGetI2cBus
  if i2c_status.setWidth 8 ≠ 0 then
    return none
  return bus

theorem run_eBBTFUtilsSetI2cBus {io : I2cDriver D} {busnum : BitVec 32} {s : Fixture D}
    {ret : BitVec 32} {found : Option Udevice} {d : D}
    (h : io.uclassGetDeviceBySeq busnum s.dev = ((ret, found), d)) :
    (eBBTFUtilsSetI2cBus io busnum).run s =
      .ok ret { s with i2cCurBus := if ret = 0 then found else s.i2cCurBus, dev := d } := by
  rw [eBBTFUtilsSetI2cBus, EStateM.run_bind, run_drive, h]
  by_cases hret : ret = 0
  · subst hret
    rfl
  · simp only [if_neg hret]
    rw [if_pos hret]
    rfl

/-- **What `selectBus` makes of a code whose low byte is zero**: the bus it has found if
the code is zero, and otherwise the bus an earlier call has left. -/
theorem run_selectBus_of_code {io : I2cDriver D} {bus_num : BitVec 8} {s : Fixture D}
    {ret : BitVec 32} {found : Option Udevice} {d : D}
    (h : io.uclassGetDeviceBySeq (bus_num.setWidth 32) s.dev = ((ret, found), d))
    (hret : ret.setWidth 8 = 0) :
    (selectBus io bus_num).run s = .ok (if ret = 0 then found else s.i2cCurBus)
      { s with i2cCurBus := if ret = 0 then found else s.i2cCurBus, dev := d } := by
  rw [selectBus, EStateM.run_bind, run_eBBTFUtilsSetI2cBus h]
  simp only [hret]
  cases hbus : (if ret = 0 then found else s.i2cCurBus) <;> rfl

/-- Any other code is an error. -/
theorem run_selectBus_of_error {io : I2cDriver D} {bus_num : BitVec 8} {s : Fixture D}
    {ret : BitVec 32} {found : Option Udevice} {d : D}
    (h : io.uclassGetDeviceBySeq (bus_num.setWidth 32) s.dev = ((ret, found), d))
    (hret : ret.setWidth 8 ≠ 0) :
    (selectBus io bus_num).run s = .ok none ({ s with dev := d }.reported
      (.event (eventInit s.curTestId 0 .busNotFound [bus_num.setWidth 32]))) := by
  have hne : ret ≠ 0 := by
    rintro rfl
    exact hret rfl
  rw [selectBus, EStateM.run_bind, run_eBBTFUtilsSetI2cBus h, if_neg hne]
  simp only [if_pos hret]
  rfl

/-- Where there is a bus, it is selected. -/
theorem run_selectBus {io : I2cDriver D} {bus_num : BitVec 8} {s : Fixture D} {bus : Udevice}
    {d : D} (h : io.uclassGetDeviceBySeq (bus_num.setWidth 32) s.dev = ((0, some bus), d)) :
    (selectBus io bus_num).run s = .ok (some bus) { s with i2cCurBus := some bus, dev := d } :=
  run_selectBus_of_code h rfl

/-- `if (!ret) ret = i2c_set_chip_offset_len(dev, addr_offset_len)`. -/
def setChipOffsetLen (io : I2cDriver D) (ret : BitVec 32) (dev : Option Udevice)
    (addr_offset_len : BitVec 32) : TestProg D (BitVec 32) := do
  if ret ≠ 0 then
    return ret
  let dev ← deref dev
  drive (io.i2cSetChipOffsetLen dev addr_offset_len)

/-- `eBBTF_utils_i2c_write`.  The return codes of the first two calls are lost, and
the device is used even if there is none. -/
def eBBTFUtilsI2cWrite (io : I2cDriver D) (bus_num : BitVec 8) (chip_address : BitVec 32)
    (reg : BitVec 8) (addr_offset_len : BitVec 32) (write_value : List Byte) :
    TestProg D TestResultTypes := do
  match ← selectBus io bus_num with
  | none => return .fail
  | some bus =>
      let (ret, dev) ← drive (io.i2cGetChip bus chip_address addr_offset_len)
      let _ ← setChipOffsetLen io ret dev addr_offset_len
      let dev ← deref dev
      drive fun d => ((), io.setWrAddress dev d)
      let ret ← drive (io.dmI2cWrite dev (reg.setWidth 32) write_value)
      if ret ≠ 0 then
        reportEvent 0 .devWrite [bus_num.setWidth 32]
        return .fail
      return .pass

/-- `if (!ret) ret = dm_i2c_read(dev, reg, read_value, dlen)`, with what is put into
the buffer. -/
def readChip (io : I2cDriver D) (ret : BitVec 32) (dev : Option Udevice) (reg : BitVec 8)
    (dlen : ℕ) : TestProg D (BitVec 32 × Option (ℕ → Byte)) := do
  if ret ≠ 0 then
    return (ret, none)
  let dev ← deref dev
  let (ret, data) ← drive (io.dmI2cRead dev (reg.setWidth 32) dlen)
  return (ret, some data)

/-- `eBBTF_utils_i2c_read`, with what it puts into the buffer if it gets that far. -/
def eBBTFUtilsI2cRead (io : I2cDriver D) (bus_num : BitVec 8) (chip_address : BitVec 32)
    (reg : BitVec 8) (addr_offset_len : BitVec 32) (dlen : ℕ) :
    TestProg D (TestResultTypes × Option (ℕ → Byte)) := do
  match ← selectBus io bus_num with
  | none => return (.fail, none)
  | some bus =>
      let (ret, dev) ← drive (io.i2cGetChip bus chip_address addr_offset_len)
      let ret ← setChipOffsetLen io ret dev addr_offset_len
      let (ret, data) ← readChip io ret dev reg dlen
      if ret ≠ 0 then
        reportEvent 0 .devRead [bus_num.setWidth 32, chip_address, reg.setWidth 32]
        return (.fail, data)
      return (.pass, data)

end BoardDiag
