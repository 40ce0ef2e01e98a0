import BoardDiag.Machine.SerialMemory
import BoardDiag.Suite.I2cUtils

/-!
# U-Boot's I2C core

`drivers/i2c/i2c-uclass.c` and the transfer function of `drivers/i2c/omap24xx_i2c.c`:
what lies between the utilities of the test framework and the messages on a bus.

The core keeps a table of the chips it has been asked about.  A chip that is not in the
table is bound when it is first asked for, whether or not anything answers at its
address; its offset length and its flags then stay in the table until somebody changes
them.  A transfer looks its chip up and turns the offset into bytes at the front of a
message.  With `DM_I2C_CHIP_WR_ADDRESS` set, every byte that is written gets a message
and an offset of its own.

What the controller puts on the wires, and what the driver model says when a device is
bound or probed, is given by a record of functions, as elsewhere.  A device is its
position in the table.
-/

namespace BoardDiag

open Machine

/-- `struct dm_i2c_chip`. -/
structure DmI2cChip where
  chip_addr : BitVec 32
  offset_len : BitVec 32
  flags : BitVec 32
  chip_addr_offset_mask : BitVec 32
  deriving DecidableEq

/-- `struct i2c_msg`.  A message that reads has a length and no bytes. -/
structure I2cMsg where
  addr : BitVec 32
  flags : BitVec 32
  len : ℕ
  buf : List Byte

/-- `DM_I2C_CHIP_10BIT`. -/
def dmI2cChip10bit : BitVec 32 := 1#32

/-- `DM_I2C_CHIP_RD_ADDRESS`. -/
def dmI2cChipRdAddress : BitVec 32 := 2#32

/-- `DM_I2C_CHIP_WR_ADDRESS`. -/
def dmI2cChipWrAddress : BitVec 32 := 4#32

/-- `I2C_M_TEN`. -/
def i2cMTen : BitVec 32 := 0x0010#32

/-- `I2C_M_RD`. -/
def i2cMRd : BitVec 32 := 0x0001#32

/-- `I2C_MAX_OFFSET_LEN`. -/
def i2cMaxOffsetLen : BitVec 32 := 4#32

/-- `-EINVAL`. -/
def einval : BitVec 32 := BitVec.ofInt 32 (-22)

/-- `-ENOMEM`. -/
def enomem : BitVec 32 := BitVec.ofInt 32 (-12)

/-- `-ENOSYS`. -/
def enosys : BitVec 32 := BitVec.ofInt 32 (-38)

/-- `-EADDRNOTAVAIL`. -/
def eaddrnotavail : BitVec 32 := BitVec.ofInt 32 (-99)

/-- `-EREMOTEIO`. -/
def eremoteio : BitVec 32 := BitVec.ofInt 32 (-121)

/-- What the driver model and the bus controllers do and answer. -/
structure I2cController (W : Type) where
  writel (value addr : BitVec 32) : StateM W Unit
  uclassGetDeviceBySeq (seq : BitVec 32) : StateM W (BitVec 32 × Option Udevice)
  /-- `strdup(name)` and `device_bind_driver(bus, "i2c_generic_chip_drv", str, &dev)`. -/
  deviceBindDriver (bus : Udevice) (chip_addr : BitVec 32) : StateM W (BitVec 32)
  deviceProbe (dev : Udevice) : StateM W (BitVec 32)
  /-- Whether `malloc(len)` finds room. -/
  malloc (len : ℕ) : StateM W Bool
  /-- `__omap24_i2c_read(..., chip, 0, 0, buffer, len)`, with what it puts into the buffer. -/
  omap24I2cRead (bus : Udevice) (chip : Byte) (len : ℕ) : StateM W (BitVec 32 × (ℕ → Byte))
  /-- `__omap24_i2c_write(..., chip, 0, 0, buffer, len)`. -/
  omap24I2cWrite (bus : Udevice) (chip : Byte) (buffer : List Byte) : StateM W (BitVec 32)
  /-- `__omap24_i2c_probe(..., chip)`. -/
  omap24I2cProbe (bus : Udevice) (chip : Byte) : StateM W (BitVec 32)
  getBusSpeed (bus : Udevice) : StateM W (BitVec 32)
  setBusSpeed (bus : Udevice) (speed : BitVec 32) : StateM W (BitVec 32)

/-- The table of the chips that are bound, each with the bus it is on, and what is behind
the controllers. -/
structure I2cCore (W : Type) where
  chips : List (Udevice × DmI2cChip)
  wires : W

variable {W α : Type}

/-- Leave the table alone. -/
def onWires (x : StateM W α) : StateM (I2cCore W) α := fun s =>
  ((x.run s.wires).1, { s with wires := (x.run s.wires).2 })

/-! ## Messages -/

/-- `omap_i2c_xfer(bus, msg, nmsgs)`, with what it puts into the buffer of the first
message that reads. -/
def omapI2cXfer (io : I2cController W) (bus : Udevice) :
    List I2cMsg → StateM W (BitVec 32 × (ℕ → Byte))
  | [] => return (0, fun _ => 0)
  | msg :: msgs => do
      if msg.flags &&& i2cMRd ≠ 0 then
        let (ret, data) ← io.omap24I2cRead bus (msg.addr.setWidth 8) msg.len
        if ret ≠ 0 then
          return (eremoteio, data)
        let (ret, _) ← omapI2cXfer io bus msgs
        return (ret, data)
      else
        let ret ← io.omap24I2cWrite bus (msg.addr.setWidth 8) msg.buf
        if ret ≠ 0 then
          return (eremoteio, fun _ => 0)
        omapI2cXfer io bus msgs

/-- `chip->flags & DM_I2C_CHIP_10BIT ? I2C_M_TEN : 0`. -/
def DmI2cChip.tenBit (chip : DmI2cChip) : BitVec 32 :=
  if chip.flags &&& dmI2cChip10bit ≠ 0 then i2cMTen else 0

/-- `i2c_setup_offset(chip, offset, offset_buf, msg)`, with the message it sets up. -/
def i2cSetupOffset (chip : DmI2cChip) (offset : BitVec 32) : BitVec 32 × I2cMsg :=
  let offset_len := chip.offset_len.toNat
  (if chip.offset_len = 0 then eaddrnotavail else 0,
    { addr :=
        if chip.chip_addr_offset_mask ≠ 0 then
          chip.chip_addr ||| (offset >>> (8 * offset_len) &&& chip.chip_addr_offset_mask)
        else chip.chip_addr
      flags := chip.tenBit
      len := offset_len
      buf := bigEndian offset_len offset.toNat })

/-- The loop of `i2c_read_bytewise(dev, offset, buffer, len)` from index `i` on, with the
bytes it puts into the buffer. -/
def i2cReadBytewise (io : I2cController W) (bus : Udevice) (chip : DmI2cChip)
    (offset : BitVec 32) : ℕ → ℕ → StateM W (BitVec 32 × List Byte)
  | _, 0 => return (0, [])
  | i, len + 1 => do
      let (ret, msg) := i2cSetupOffset chip (offset + BitVec.ofNat 32 i)
      if ret ≠ 0 then
        return (einval, [])
      let read := { addr := msg.addr, flags := msg.flags ||| i2cMRd, len := 1, buf := [] }
      let (ret, data) ← omapI2cXfer io bus [msg, read]
      if ret ≠ 0 then
        return (ret, [data 0])
      let (ret, bytes) ← i2cReadBytewise io bus chip offset (i + 1) len
      return (ret, data 0 :: bytes)

/-- The loop of `i2c_write_bytewise(dev, offset, buffer, len)` from index `i` on. -/
def i2cWriteBytewise (io : I2cController W) (bus : Udevice) (chip : DmI2cChip)
    (offset : BitVec 32) : ℕ → List Byte → StateM W (BitVec 32)
  | _, [] => return 0
  | i, b :: buffer => do
      let (ret, msg) := i2cSetupOffset chip (offset + BitVec.ofNat 32 i)
      if ret ≠ 0 then
        return einval
      let (ret, _) ← omapI2cXfer io bus [{ msg with len := msg.len + 1, buf := msg.buf ++ [b] }]
      if ret ≠ 0 then
        return ret
      i2cWriteBytewise io bus chip offset (i + 1) buffer

/-- `dm_i2c_read` for a chip on a bus. -/
def readOnBus (io : I2cController W) (bus : Udevice) (chip : DmI2cChip) (offset : BitVec 32)
    (len : ℕ) : StateM W (BitVec 32 × (ℕ → Byte)) := do
  if chip.flags &&& dmI2cChipRdAddress ≠ 0 then
    let (ret, bytes) ← i2cReadBytewise io bus chip offset 0 len
    return (ret, fun i => bytes.getD i 0)
  else
    let (ret, msg) := i2cSetupOffset chip offset
    let read := { addr := msg.addr, flags := chip.tenBit ||| i2cMRd, len := len, buf := [] }
    omapI2cXfer io bus ((if ret = 0 then [msg] else []) ++ if len ≠ 0 then [read] else [])

/-- `dm_i2c_write` for a chip on a bus. -/
def writeOnBus (io : I2cController W) (bus : Udevice) (chip : DmI2cChip) (offset : BitVec 32)
    (buffer : List Byte) : StateM W (BitVec 32) := do
  if chip.flags &&& dmI2cChipWrAddress ≠ 0 then
    i2cWriteBytewise io bus chip offset 0 buffer
  else
    let (_, msg) := i2cSetupOffset chip offset
    let msg := { msg with len := msg.len + buffer.length, buf := msg.buf ++ buffer }
    -- the stack for small messages, `malloc` for larger ones
    if 64 ≤ buffer.length then
      if !(← io.malloc (i2cMaxOffsetLen.toNat + buffer.length)) then
        return enomem
    let (ret, _) ← omapI2cXfer io bus [msg]
    return ret

/-! ## Chips -/

/-- `dm_i2c_read(dev, offset, buffer, len)`, with what it puts into the buffer.  It is
called for devices in the table only. -/
def dmI2cRead (io : I2cController W) (dev : Udevice) (offset : BitVec 32) (len : ℕ) :
    StateM (I2cCore W) (BitVec 32 × (ℕ → Byte)) := do
  match (← get).chips[dev]? with
  | none => return (enodev, fun _ => 0)
  | some (bus, chip) => onWires (readOnBus io bus chip offset len)

/-- `dm_i2c_write(dev, offset, buffer, len)`. -/
def dmI2cWrite (io : I2cController W) (dev : Udevice) (offset : BitVec 32)
    (buffer : List Byte) : StateM (I2cCore W) (BitVec 32) := do
  match (← get).chips[dev]? with
  | none => return enodev
  | some (bus, chip) => onWires (writeOnBus io bus chip offset buffer)

/-- The comparison of `i2c_get_chip`. -/
def isChipAt (bus : Udevice) (chip_addr : BitVec 32) (c : Udevice × DmI2cChip) : Bool :=
  decide (c.1 = bus) && decide (c.2.chip_addr = chip_addr &&& ~~~c.2.chip_addr_offset_mask)

/-- `i2c_bind_driver(bus, chip_addr, offset_len, &dev)`, with the device if one is
assigned.  A device that fails to probe is unbound. -/
def i2cBindDriver (io : I2cController W) (bus : Udevice) (chip_addr offset_len : BitVec 32) :
    StateM (I2cCore W) (BitVec 32 × Option Udevice) := do
  let ret ← onWires (io.deviceBindDriver bus chip_addr)
  if ret ≠ 0 then
    return (ret, none)
  let dev := (← get).chips.length
  modify fun s => { s with chips := s.chips ++ [(bus, ⟨chip_addr, offset_len, 0, 0⟩)] }
  let ret ← onWires (io.deviceProbe dev)
  if ret ≠ 0 then
    modify fun s => { s with chips := s.chips.dropLast }
    return (ret, none)
  return (0, some dev)

/-- `i2c_get_chip(bus, chip_addr, offset_len, &dev)`, with the device if one is assigned. -/
def i2cGetChip (io : I2cController W) (bus : Udevice) (chip_addr offset_len : BitVec 32) :
    StateM (I2cCore W) (BitVec 32 × Option Udevice) := do
  match (← get).chips.findIdx? (isChipAt bus chip_addr) with
  | some dev =>
      let ret ← onWires (io.deviceProbe dev)
      if ret ≠ 0 then
        return (ret, none)
      return (0, some dev)
  | none => i2cBindDriver io bus chip_addr offset_len

/-- An assignment to the platform data of a chip. -/
def modifyChip (dev : Udevice) (f : DmI2cChip → DmI2cChip) : StateM (I2cCore W) Unit :=
  modify fun s => { s with chips := s.chips.modify dev fun c => (c.1, f c.2) }

/-- `i2c_set_chip_offset_len(dev, offset_len)`. -/
def i2cSetChipOffsetLen (dev : Udevice) (offset_len : BitVec 32) :
    StateM (I2cCore W) (BitVec 32) := do
  if offset_len > i2cMaxOffsetLen then
    return einval
  modifyChip dev fun chip => { chip with offset_len := offset_len }
  return 0

/-- `i2c_set_chip_flags(dev, flags)`.  The driver of the controllers has no `set_flags`. -/
def i2cSetChipFlags (dev : Udevice) (flags : BitVec 32) : StateM (I2cCore W) (BitVec 32) := do
  modifyChip dev fun chip => { chip with flags := flags }
  return 0

/-- `i2c_set_chip_addr_offset_mask(dev, mask)`. -/
def i2cSetChipAddrOffsetMask (dev : Udevice) (mask : BitVec 32) :
    StateM (I2cCore W) (BitVec 32) := do
  modifyChip dev fun chip => { chip with chip_addr_offset_mask := mask }
  return 0

/-- `i2c_probe_chip(bus, chip_addr, chip_flags)`. -/
def i2cProbeChip (io : I2cController W) (bus : Udevice) (chip_addr chip_flags : BitVec 32) :
    StateM W (BitVec 32) := do
  let ret ← io.omap24I2cProbe bus (chip_addr.setWidth 8)
  if ret ≠ enosys then
    return ret
  -- probe with a zero-length message
  let flags := if chip_flags &&& dmI2cChip10bit ≠ 0 then i2cMTen else 0
  let (ret, _) ← omapI2cXfer io bus [{ addr := chip_addr, flags := flags, len := 0, buf := [] }]
  return ret

/-- `dm_i2c_probe(bus, chip_addr, chip_flags, &dev)`. -/
def dmI2cProbe (io : I2cController W) (bus : Udevice) (chip_addr chip_flags : BitVec 32) :
    StateM (I2cCore W) (BitVec 32 × Option Udevice) := do
  let ret ← onWires (i2cProbeChip io bus chip_addr chip_flags)
  if ret ≠ 0 then
    return (ret, none)
  i2cGetChip io bus chip_addr 1

/-- The drivers the tests are given. -/
def uclassI2c (io : I2cController W) : I2cBusDriver (I2cCore W) where
  writel value addr s := (onWires (io.writel value addr) s).2
  uclassGetDeviceBySeq seq := onWires (io.uclassGetDeviceBySeq seq)
  i2cGetChip bus chip_addr offset_len := i2cGetChip io bus chip_addr offset_len
  i2cSetChipOffsetLen dev offset_len := i2cSetChipOffsetLen dev offset_len
  setWrAddress dev s :=
    (modifyChip dev (fun chip => { chip with flags := chip.flags ||| dmI2cChipWrAddress }) s).2
  dmI2cWrite dev offset buffer := dmI2cWrite io dev offset buffer
  dmI2cRead dev offset len := dmI2cRead io dev offset len
  dmI2cGetBusSpeed bus := onWires (io.getBusSpeed bus)
  dmI2cSetBusSpeed bus speed := onWires (io.setBusSpeed bus speed)
  dmI2cProbe bus chip_addr s :=
    (((dmI2cProbe io bus chip_addr 0).run s).1.1, ((dmI2cProbe io bus chip_addr 0).run s).2)

/-! ## Running drivers -/

section Run

variable {σ β : Type}

theorem run_state_bind (x : StateM σ α) (f : α → StateM σ β) (s : σ) :
    (x >>= f).run s = (f (x.run s).1).run (x.run s).2 := rfl

theorem run_state_get (s : σ) : (get : StateM σ σ).run s = (s, s) := rfl

theorem run_state_modify (f : σ → σ) (s : σ) :
    (modify f : StateM σ Unit).run s = ((), f s) := rfl

theorem run_onWires (x : StateM W α) (s : I2cCore W) :
    (onWires x).run s = ((x.run s.wires).1, { s with wires := (x.run s.wires).2 }) := rfl

end Run

end BoardDiag
