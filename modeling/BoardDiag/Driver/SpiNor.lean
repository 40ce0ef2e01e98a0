import BoardDiag.Driver.I2cUclass
import BoardDiag.Machine.Lanes
import BoardDiag.Suite.NorFlash

/-!
# U-Boot's SPI NOR framework

What lies between the NOR flash test and the wires: `drivers/mtd/spi/sf_probe.c`,
`drivers/mtd/spi/spi-nor-core.c` and `drivers/spi/spi-mem.c`, for a controller without
operations of its own for memories, as `omap3_spi.c` has it, and without
`CONFIG_SPI_FLASH_BAR`.

A flash is read in one command, or in several if the controller limits them.  It is written
page by page and erased sector by sector; each command that changes the flash is preceded by
`write_enable` and followed by a loop that asks for the status until the flash is ready or a
timer has run out.

How the controller moves bits and how long the timer runs is given by a record.
-/

namespace BoardDiag

open Machine

/-! ## Operations -/

/-- `enum spi_mem_data_dir`. -/
inductive SpiMemDataDir where
  /-- `SPI_MEM_DATA_IN` -/
  | dataIn
  /-- `SPI_MEM_DATA_OUT` -/
  | dataOut
  deriving DecidableEq

/-- `struct spi_mem_op`.  What is not set is zero. -/
structure SpiMemOp where
  cmd_buswidth : Byte := 0
  cmd_opcode : Byte
  addr_nbytes : ℕ := 0
  addr_buswidth : Byte := 0
  addr_val : ℕ := 0
  dummy_nbytes : ℕ := 0
  dummy_buswidth : Byte := 0
  data_buswidth : Byte := 0
  data_dir : SpiMemDataDir := .dataIn
  data_nbytes : ℕ := 0
  /-- What there is from `data.buf.out` on. -/
  data_buf : List Byte := []

/-- What the controller and the timer do, and what is said about them in `struct spi_slave`. -/
structure SpiBus (W : Type) where
  mode : BitVec 32
  max_read_size : ℕ
  max_write_size : ℕ
  spiClaimBus : StateM W (BitVec 32)
  spiReleaseBus : StateM W Unit
  /-- `spi_xfer(slave, bitlen, dout, din, flags)`, with what it puts into `din`. -/
  spiXfer (bitlen : BitVec 32) (dout : Option (List Byte)) (flags : BitVec 32) :
    StateM W (BitVec 32 × (ℕ → Option Byte))
  /-- How often `get_timer(timebase) < timeout` holds if it is asked again and again. -/
  polls (timeout : ℕ) : W → ℕ

variable {W : Type}

/-- `SPI_XFER_BEGIN`. -/
def spiXferBegin : BitVec 32 := 1#32

/-- `SPI_XFER_END`. -/
def spiXferEnd : BitVec 32 := 2#32

/-- `-EIO`. -/
def eio : BitVec 32 := BitVec.ofInt 32 (-5)

/-- `-ETIMEDOUT`. -/
def etimedout : BitVec 32 := BitVec.ofInt 32 (-110)

/-- `-ENOTSUPP`. -/
def enotsupp : BitVec 32 := BitVec.ofInt 32 (-524)

/-- The bits of `slave->mode` one of which a width needs, or `none` for a width there is
not. -/
def modesFor (tx : Bool) : Byte → Option (BitVec 32)
  -- `SPI_TX_DUAL | SPI_TX_QUAD`, `SPI_RX_DUAL | SPI_RX_QUAD`
  | 2 => some (if tx then 0x600 else 0x3000)
  -- `SPI_TX_QUAD`, `SPI_RX_QUAD`
  | 4 => some (if tx then 0x400 else 0x2000)
  -- `SPI_TX_OCTAL`, `SPI_RX_OCTAL`
  | 8 => some (if tx then 0x4000 else 0x8000)
  | _ => none

/-- `spi_check_buswidth_req(slave, buswidth, tx)`. -/
def spiCheckBuswidthReq (io : SpiBus W) (buswidth : Byte) (tx : Bool) : BitVec 32 :=
  if buswidth = 1 then 0
  else
    match modesFor tx buswidth with
    | some modes => if io.mode &&& modes ≠ 0 then 0 else enotsupp
    | none => enotsupp

/-- `spi_mem_supports_op(slave, op)`. -/
def spiMemSupportsOp (io : SpiBus W) (op : SpiMemOp) : Bool :=
  if spiCheckBuswidthReq io op.cmd_buswidth true ≠ 0 then false
  else if op.addr_nbytes ≠ 0 ∧ spiCheckBuswidthReq io op.addr_buswidth true ≠ 0 then false
  else if op.dummy_nbytes ≠ 0 ∧ spiCheckBuswidthReq io op.dummy_buswidth true ≠ 0 then false
  else if op.data_nbytes ≠ 0 ∧
      spiCheckBuswidthReq io op.data_buswidth (decide (op.data_dir = .dataOut)) ≠ 0 then false
  else true

/-- `op_buf`: opcode, address and dummy bytes. -/
def SpiMemOp.opBuf (op : SpiMemOp) : List Byte :=
  op.cmd_opcode :: (bigEndian op.addr_nbytes op.addr_val ++ List.replicate op.dummy_nbytes 0xff)

/-- `spi_mem_exec_op(slave, op)`, with what it puts into `op->data.buf.in`.  Nothing is put
there before the second transfer.  The bus is released after a success only. -/
def spiMemExecOp (io : SpiBus W) (op : SpiMemOp) :
    StateM W (BitVec 32 × (ℕ → Option Byte)) := do
  if !spiMemSupportsOp io op then
    return (enotsupp, fun _ => none)
  let ret ← io.spiClaimBus
  if ret.slt 0 then
    return (ret, fun _ => none)
  let op_buf := op.opBuf
  let flag := if op.data_nbytes = 0 then spiXferBegin ||| spiXferEnd else spiXferBegin
  let (ret, _) ← io.spiXfer (BitVec.ofNat 32 op_buf.length * 8) (some op_buf) flag
  if ret ≠ 0 then
    return (ret, fun _ => none)
  if op.data_nbytes = 0 then
    io.spiReleaseBus
    return (0, fun _ => none)
  let tx_buf := if op.data_dir = .dataIn then none else some op.data_buf
  let (ret, din) ← io.spiXfer (BitVec.ofNat 32 op.data_nbytes * 8) tx_buf spiXferEnd
  -- `rx_buf` is `NULL` if the data go out
  let data := fun i => if op.data_dir = .dataIn ∧ i < op.data_nbytes then din i else none
  if ret ≠ 0 then
    return (ret, data)
  io.spiReleaseBus
  return (0, data)

/-- `spi_mem_adjust_op_size(slave, op)`, with the operation as it is left. -/
def spiMemAdjustOpSize (io : SpiBus W) (op : SpiMemOp) : BitVec 32 × SpiMemOp :=
  let len := 1 + op.addr_nbytes + op.dummy_nbytes
  if io.max_write_size ≠ 0 ∧ len > io.max_write_size then (einval, op)
  else
    let nbytes :=
      if op.data_dir = .dataIn then
        if io.max_read_size ≠ 0 then min op.data_nbytes io.max_read_size else op.data_nbytes
      else if io.max_write_size ≠ 0 then min op.data_nbytes (io.max_write_size - len)
      else op.data_nbytes
    (if nbytes = 0 then einval else 0, { op with data_nbytes := nbytes })

/-! ## Registers -/

/-- `struct spi_nor`. -/
structure SpiNor where
  /-- `size` -/
  size : BitVec 32
  /-- `mtd.erasesize` -/
  erasesize : BitVec 32
  page_size : BitVec 32
  addr_width : Byte
  erase_opcode : Byte
  read_opcode : Byte
  read_dummy : Byte
  program_opcode : Byte
  read_proto : BitVec 32
  write_proto : BitVec 32
  sst_write_second : Bool
  flags : BitVec 32

/-- `SNOR_F_USE_FSR`. -/
def snorFUseFsr : BitVec 32 := 1#32

/-- `SNOR_F_USE_CLSR`. -/
def snorFUseClsr : BitVec 32 := 0x20#32

/-- `DEFAULT_READY_WAIT_JIFFIES`: forty seconds. -/
def defaultReadyWaitJiffies : ℕ := 40 * 1000

/-- `spi_nor_read_reg(nor, code, val, 1)`, with the byte it puts into `val`, if it does. -/
def spiNorReadReg (io : SpiBus W) (code : Byte) : StateM W (BitVec 32 × Option Byte) := do
  let (ret, din) ← spiMemExecOp io
    { cmd_opcode := code, cmd_buswidth := 1, data_dir := .dataIn, data_nbytes := 1,
      data_buswidth := 1 }
  return (ret, din 0)

/-- `spi_nor_write_reg(nor, opcode, buf, len)`. -/
def spiNorWriteReg (io : SpiBus W) (opcode : Byte) (buf : List Byte) :
    StateM W (BitVec 32) := do
  let (ret, _) ← spiMemExecOp io
    { cmd_opcode := opcode, cmd_buswidth := 1, data_dir := .dataOut, data_nbytes := buf.length,
      data_buswidth := 1, data_buf := buf }
  return ret

/-- `read_sr(nor)` and `read_fsr(nor)`, which differ in the opcode. -/
def readRegister (io : SpiBus W) (code : Byte) : StateM W (BitVec 32) := do
  let (ret, val) ← spiNorReadReg io code
  if ret.slt 0 then
    return ret
  -- the source leaves `val` undetermined if an error is positive
  return (val.getD 0).setWidth 32

/-- `read_sr(nor)`. -/
def readSr (io : SpiBus W) : StateM W (BitVec 32) := readRegister io 0x05

/-- `read_fsr(nor)`. -/
def readFsr (io : SpiBus W) : StateM W (BitVec 32) := readRegister io 0x70

/-- `write_enable(nor)`. -/
def writeEnable (io : SpiBus W) : StateM W (BitVec 32) := spiNorWriteReg io 0x06 []

/-- `write_disable(nor)`. -/
def writeDisable (io : SpiBus W) : StateM W (BitVec 32) := spiNorWriteReg io 0x04 []

/-- `spi_nor_sr_ready(nor)`. -/
def spiNorSrReady (io : SpiBus W) (nor : SpiNor) : StateM W (BitVec 32) := do
  let sr ← readSr io
  if sr.slt 0 then
    return sr
  -- `SR_E_ERR | SR_P_ERR`
  if nor.flags &&& snorFUseClsr ≠ 0 ∧ sr &&& 0x60 ≠ 0 then
    let _ ← spiNorWriteReg io 0x30 []
    return eio
  -- `SR_WIP`
  return if sr &&& 1 ≠ 0 then 0 else 1

/-- `spi_nor_fsr_ready(nor)`. -/
def spiNorFsrReady (io : SpiBus W) : StateM W (BitVec 32) := do
  let fsr ← readFsr io
  if fsr.slt 0 then
    return fsr
  -- `FSR_E_ERR | FSR_P_ERR`
  if fsr &&& 0x30 ≠ 0 then
    let _ ← spiNorWriteReg io 0x50 []
    return eio
  -- `FSR_READY`
  return fsr &&& 0x80

/-- `spi_nor_ready(nor)`. -/
def spiNorReady (io : SpiBus W) (nor : SpiNor) : StateM W (BitVec 32) := do
  let sr ← spiNorSrReady io nor
  if sr.slt 0 then
    return sr
  let fsr ← if nor.flags &&& snorFUseFsr ≠ 0 then spiNorFsrReady io else pure 1
  if fsr.slt 0 then
    return fsr
  return if sr ≠ 0 ∧ fsr ≠ 0 then 1 else 0

/-- The loop of `spi_nor_wait_till_ready_with_timeout(nor, timeout)`, as long as the timer
lets it run. -/
def waitLoop (io : SpiBus W) (nor : SpiNor) : ℕ → StateM W (BitVec 32)
  | 0 => return etimedout
  | n + 1 => do
      let ret ← spiNorReady io nor
      if ret.slt 0 then
        return ret
      if ret ≠ 0 then
        return 0
      waitLoop io nor n

/-- `spi_nor_wait_till_ready(nor)`. -/
def spiNorWaitTillReady (io : SpiBus W) (nor : SpiNor) : StateM W (BitVec 32) := do
  let w ← get
  waitLoop io nor (io.polls defaultReadyWaitJiffies w)

/-! ## Data -/

/-- `spi_nor_get_protocol_inst_nbits(proto)`. -/
def spiNorGetProtocolInstNbits (proto : BitVec 32) : Byte :=
  ((proto &&& 0xff0000) >>> 16).setWidth 8

/-- `spi_nor_get_protocol_addr_nbits(proto)`. -/
def spiNorGetProtocolAddrNbits (proto : BitVec 32) : Byte :=
  ((proto &&& 0xff00) >>> 8).setWidth 8

/-- `spi_nor_get_protocol_data_nbits(proto)`. -/
def spiNorGetProtocolDataNbits (proto : BitVec 32) : Byte := (proto &&& 0xff).setWidth 8

/-- The operation of `spi_nor_read_data`. -/
def SpiNor.readOp (nor : SpiNor) (addr : ℕ) : SpiMemOp :=
  let addr_buswidth := spiNorGetProtocolAddrNbits nor.read_proto
  { cmd_opcode := nor.read_opcode
    cmd_buswidth := spiNorGetProtocolInstNbits nor.read_proto
    addr_nbytes := nor.addr_width.toNat
    addr_val := addr
    addr_buswidth := addr_buswidth
    -- dummy cycles, as bytes
    dummy_nbytes := nor.read_dummy.toNat * addr_buswidth.toNat / 8 % 256
    dummy_buswidth := addr_buswidth
    data_dir := .dataIn
    data_buswidth := spiNorGetProtocolDataNbits nor.read_proto }

/-- The loop of `spi_nor_read_data(nor, from, len, buf)`, with the bytes it puts into the
buffer.  Every round takes a byte at least, so there are `remaining` rounds at most. -/
def readDataLoop (io : SpiBus W) (nor : SpiNor) :
    ℕ → ℕ → ℕ → StateM W (BitVec 32 × (ℕ → Option Byte))
  | 0, _, _ => return (0, fun _ => none)
  | fuel + 1, addr, remaining => do
      if remaining = 0 then
        return (0, fun _ => none)
      -- `remaining` is a `size_t` and never more than `UINT_MAX`
      let (ret, op) := spiMemAdjustOpSize io { nor.readOp addr with data_nbytes := remaining }
      if ret ≠ 0 then
        return (ret, fun _ => none)
      let (ret, data) ← spiMemExecOp io op
      if ret ≠ 0 then
        return (ret, data)
      let (ret, rest) ←
        readDataLoop io nor fuel (addr + op.data_nbytes) (remaining - op.data_nbytes)
      return (ret, behind op.data_nbytes data rest)

/-- `spi_nor_read_data(nor, from, len, buf)`. -/
def spiNorReadData (io : SpiBus W) (nor : SpiNor) (addr len : ℕ) :
    StateM W (BitVec 32 × (ℕ → Option Byte)) := do
  let (ret, data) ← readDataLoop io nor len addr len
  if ret ≠ 0 then
    return (ret, data)
  return (BitVec.ofNat 32 len, data)

/-- The operation of `spi_nor_write_data`. -/
def SpiNor.programOp (nor : SpiNor) (addr : ℕ) (buf : List Byte) : SpiMemOp :=
  { cmd_opcode := nor.program_opcode
    cmd_buswidth := spiNorGetProtocolInstNbits nor.write_proto
    -- `SPINOR_OP_AAI_WP`
    addr_nbytes :=
      if nor.program_opcode = 0xad ∧ nor.sst_write_second = true then 0 else nor.addr_width.toNat
    addr_val := addr
    addr_buswidth := spiNorGetProtocolAddrNbits nor.write_proto
    data_dir := .dataOut
    data_nbytes := buf.length
    data_buswidth := spiNorGetProtocolDataNbits nor.write_proto
    data_buf := buf }

/-- `spi_nor_write_data(nor, to, len, buf)`. -/
def spiNorWriteData (io : SpiBus W) (nor : SpiNor) (addr : ℕ) (buf : List Byte) :
    StateM W (BitVec 32) := do
  let (ret, op) := spiMemAdjustOpSize io (nor.programOp addr buf)
  if ret ≠ 0 then
    return ret
  let op := { op with data_nbytes := min buf.length op.data_nbytes }
  let (ret, _) ← spiMemExecOp io op
  if ret ≠ 0 then
    return ret
  return BitVec.ofNat 32 op.data_nbytes

/-! ## The flash -/

/-- The loop of `spi_nor_read(mtd, from, len, &retlen, buf)`.  A positive answer is the
number of bytes that have been read, and zero is an error. -/
def readLoop (io : SpiBus W) (nor : SpiNor) :
    ℕ → ℕ → BitVec 32 → StateM W (BitVec 32 × (ℕ → Option Byte))
  | 0, _, _ => return (eio, fun _ => none)
  | fuel + 1, addr, len => do
      if len = 0 then
        return (0, fun _ => none)
      let (ret, data) ← spiNorReadData io nor addr len.toNat
      if ret = 0 then
        return (eio, data)
      if ret.slt 0 then
        return (ret, data)
      let (ret', rest) ← readLoop io nor fuel (addr + ret.toNat) (len - ret)
      return (ret', behind ret.toNat data rest)

/-- `spi_nor_read(mtd, from, len, &retlen, buf)`, with what it puts into the buffer.  There
are `len` rounds at most, unless the controller has positive errors. -/
def spiNorRead (io : SpiBus W) (nor : SpiNor) (addr : ℕ) (len : BitVec 32) :
    StateM W (BitVec 32 × (ℕ → Option Byte)) := readLoop io nor (len.toNat + 1) addr len

/-- `generic_hweight32(w)`. -/
def hweight32 (w : BitVec 32) : BitVec 32 :=
  let res := (w &&& 0x55555555#32) + ((w >>> 1) &&& 0x55555555#32)
  let res := (res &&& 0x33333333#32) + ((res >>> 2) &&& 0x33333333#32)
  let res := (res &&& 0x0F0F0F0F#32) + ((res >>> 4) &&& 0x0F0F0F0F#32)
  let res := (res &&& 0x00FF00FF#32) + ((res >>> 8) &&& 0x00FF00FF#32)
  (res &&& 0x0000FFFF#32) + ((res >>> 16) &&& 0x0000FFFF#32)

/-- `page_offset` of `spi_nor_write`. -/
def pageOffset (page_size : BitVec 32) (addr : ℕ) : ℕ :=
  if hweight32 page_size = 1 then addr &&& (page_size - 1).toNat
  else addr % page_size.toNat

/-- The loop of `spi_nor_write(mtd, to, len, &retlen, buf)`, with what is left of the buffer.
Every round takes a byte at least. -/
def writeLoop (io : SpiBus W) (nor : SpiNor) : ℕ → ℕ → List Byte → StateM W (BitVec 32)
  | 0, _, _ => return 0
  | fuel + 1, addr, buf => do
      if buf = [] then
        return 0
      let page_remain := min (nor.page_size.toNat - pageOffset nor.page_size addr) buf.length
      let _ ← writeEnable io
      let written ← spiNorWriteData io nor addr (buf.take page_remain)
      if written.slt 0 then
        return written
      let ret ← spiNorWaitTillReady io nor
      if ret ≠ 0 then
        return ret
      writeLoop io nor fuel (addr + written.toNat) (buf.drop written.toNat)

/-- `spi_nor_write(mtd, to, len, &retlen, buf)`. -/
def spiNorWrite (io : SpiBus W) (nor : SpiNor) (addr : ℕ) (buf : List Byte) :
    StateM W (BitVec 32) := writeLoop io nor buf.length addr buf

/-- `spi_nor_erase_sector(nor, addr)`. -/
def spiNorEraseSector (io : SpiBus W) (nor : SpiNor) (addr : BitVec 32) :
    StateM W (BitVec 32) := do
  let (ret, _) ← spiMemExecOp io
    { cmd_opcode := nor.erase_opcode, cmd_buswidth := 1, addr_nbytes := nor.addr_width.toNat,
      addr_val := addr.toNat, addr_buswidth := 1 }
  return ret

/-- The loop of `spi_nor_erase(mtd, instr)`.  `len` is a multiple of `erasesize`, and the first
argument says of how many. -/
def eraseLoop (io : SpiBus W) (nor : SpiNor) : ℕ → BitVec 32 → StateM W (BitVec 32)
  | 0, _ => return 0
  | sectors + 1, addr => do
      let _ ← writeEnable io
      let ret ← spiNorEraseSector io nor addr
      if ret ≠ 0 then
        return ret
      let ret ← spiNorWaitTillReady io nor
      if ret ≠ 0 then
        return ret
      eraseLoop io nor sectors (addr + nor.erasesize)

/-- `spi_nor_erase(mtd, instr)`. -/
def spiNorErase (io : SpiBus W) (nor : SpiNor) (addr len : BitVec 32) :
    StateM W (BitVec 32) := do
  if len = 0 then
    return 0
  if len % nor.erasesize ≠ 0 then
    return einval
  let ret ← eraseLoop io nor (len.toNat / nor.erasesize.toNat) addr
  let _ ← writeDisable io
  return ret

/-- `spi_flash_std_read(dev, offset, len, buf)`. -/
def spiFlashStdRead (io : SpiBus W) (nor : SpiNor) (offset len : BitVec 32) :
    StateM W (BitVec 32 × (ℕ → Option Byte)) := spiNorRead io nor offset.toNat len

/-- `spi_flash_std_write(dev, offset, len, buf)`. -/
def spiFlashStdWrite (io : SpiBus W) (nor : SpiNor) (offset : BitVec 32) (buf : List Byte) :
    StateM W (BitVec 32) := spiNorWrite io nor offset.toNat buf

/-- `spi_flash_std_erase(dev, offset, len)`. -/
def spiFlashStdErase (io : SpiBus W) (nor : SpiNor) (offset len : BitVec 32) :
    StateM W (BitVec 32) := do
  if offset % nor.erasesize ≠ 0 ∨ len % nor.erasesize ≠ 0 then
    return einval
  spiNorErase io nor offset len

/-- What the driver model does about a flash: register writes, and looking for the flash. -/
structure SpiFlashModel (W : Type) where
  writel (value addr : BitVec 32) : StateM W Unit
  spiFindBusAndCs (bus cs : BitVec 32) : StateM W (BitVec 32 × Option Udevice)
  deviceRemove (dev : Udevice) : StateM W (BitVec 32)
  spiFlashProbeBusCs (bus cs : BitVec 32) : StateM W (BitVec 32 × Option Udevice)

/-- The drivers the test is given. -/
def stdFlash (dm : SpiFlashModel W) (io : SpiBus W) (nor : SpiNor) : SpiFlashDriver W where
  writel value addr w := ((dm.writel value addr).run w).2
  spiFindBusAndCs bus cs := dm.spiFindBusAndCs bus cs
  deviceRemove dev := dm.deviceRemove dev
  spiFlashProbeBusCs bus cs := dm.spiFlashProbeBusCs bus cs
  size _ _ := nor.size
  spiFlashRead _ offset len := spiFlashStdRead io nor offset len
  spiFlashErase _ offset len := spiFlashStdErase io nor offset len
  spiFlashWrite _ offset buf := spiFlashStdWrite io nor offset buf

/-! ## The offset in a page -/

/-- One step of `hweight32`. -/
theorem laneSum_step (k n : ℕ) {mask : BitVec 32} (hk : 0 < k) (hmask : mask.toNat = laneMask k n)
    (hroom : 2 * mask.toNat < 2 ^ 32) (res : BitVec 32) :
    laneSum (2 * k) n ((res &&& mask) + ((res >>> k) &&& mask)).toNat =
      laneSum k (2 * n) res.toNat := by
  have hlow : res.toNat &&& mask.toNat ≤ mask.toNat := Nat.and_le_right
  have hhigh : res.toNat / 2 ^ k &&& mask.toNat ≤ mask.toNat := Nat.and_le_right
  rw [BitVec.toNat_add, BitVec.toNat_and, BitVec.toNat_and, BitVec.toNat_ushiftRight,
    Nat.shiftRight_eq_div_pow, Nat.mod_eq_of_lt (by omega), hmask]
  exact laneSum_foldLanes hk n res.toNat

/-- **`hweight32` counts bits.** -/
theorem toNat_hweight32 (w : BitVec 32) : (hweight32 w).toNat = laneSum 1 32 w.toNat := by
  have hword : (hweight32 w).toNat = laneSum 32 1 (hweight32 w).toNat := by
    rw [laneSum, laneSum, Nat.mod_eq_of_lt (hweight32 w).isLt, Nat.add_zero]
  rw [hword]
  exact (laneSum_step 16 1 (by decide) (by decide) (by decide) _).trans <|
    (laneSum_step 8 2 (by decide) (by decide) (by decide) _).trans <|
    (laneSum_step 4 4 (by decide) (by decide) (by decide) _).trans <|
    (laneSum_step 2 8 (by decide) (by decide) (by decide) _).trans <|
    laneSum_step 1 16 (by decide) (by decide) (by decide) w

/-- **The short way to the offset in a page is the long one.** -/
theorem pageOffset_eq_mod (page_size : BitVec 32) (addr : ℕ) :
    pageOffset page_size addr = addr % page_size.toNat := by
  rw [pageOffset]
  split
  · next hone =>
      have hcount : laneSum 1 32 page_size.toNat = 1 := by
        rw [← toNat_hweight32, hone]
        rfl
      obtain ⟨m, hm⟩ := exists_eq_two_pow_of_laneSum page_size.isLt hcount
      have hpos := Nat.two_pow_pos m
      have hlt := page_size.isLt
      have hpred : (page_size - 1).toNat = 2 ^ m - 1 := by
        rw [BitVec.toNat_sub_of_le (by rw [BitVec.le_def, hm]; exact hpos), hm]
        rfl
      rw [hpred, hm, Nat.and_two_pow_sub_one_eq_mod]
  · rfl

end BoardDiag
