import BoardDiag.Driver.SpiNor
import BoardDiag.Machine.NorChip

/-!
# Calls of the SPI NOR framework and the flash they reach

A serial flash behind a controller, and U-Boot's framework in front of it.

To a caller the flash is an array whose cells lose bits when they are written and get them
back when they are erased.  To the chip a call is a train of commands: the bytes of a write
are cut up at page boundaries and by the limits of the controller, an erasure goes sector by
sector, and in between the chip is busy for as long as it likes.  `calls_refine` says that the
caller's picture is right: whatever calls are made in whatever order, each delivers what the
array would deliver.

One thing about the array is not as one might expect.  The addresses behind the last cell are
the first ones again, and neither the framework nor the chip minds.
-/

namespace BoardDiag

open Machine

/-! ## A flash behind a controller -/

/-- A controller with a flash behind it.  It moves whole bytes. -/
def flashBus (h : NorShape) (mode : BitVec 32) (maxRead maxWrite polls : ℕ) : SpiBus NorChip where
  mode := mode
  max_read_size := maxRead
  max_write_size := maxWrite
  spiClaimBus := pure 0
  spiReleaseBus := pure ()
  spiXfer bitlen dout flags := fun c =>
    let (din, c') := c.clock h (decide (flags &&& spiXferBegin ≠ 0))
      (decide (flags &&& spiXferEnd ≠ 0)) ((dout.getD []).take (bitlen.toNat / 8))
    ((0, fun i => some (din i)), c')
  polls _ _ := polls

/-- **A flash and a driver that knows it**, with the controller between them. -/
structure NorBoard where
  nor : SpiNor
  shape : NorShape
  mode : BitVec 32
  maxRead : ℕ
  maxWrite : ℕ
  /-- How often the driver asks whether the flash is ready. -/
  polls : ℕ
  size_eq : nor.size.toNat = shape.size
  page_size_eq : nor.page_size.toNat = shape.pageLen
  erasesize_eq : nor.erasesize.toNat = shape.sectorLen
  addr_width_eq : nor.addr_width.toNat = shape.addrLen
  read_opcode_eq : nor.read_opcode = shape.readOp
  program_opcode_eq : nor.program_opcode = shape.programOp
  erase_opcode_eq : nor.erase_opcode = shape.eraseOp
  dummy_eq : ∀ addr, (nor.readOp addr).dummy_nbytes = shape.dummyLen
  plain : nor.sst_write_second = false ∧ nor.flags &&& snorFUseFsr = 0
  /-- The controller has the wires that the protocols need. -/
  wired : ∀ op : SpiMemOp, (∃ addr n, op = { nor.readOp addr with data_nbytes := n }) ∨
    (∃ addr buf n, op = { nor.programOp addr buf with data_nbytes := n }) →
    spiMemSupportsOp (flashBus shape mode maxRead maxWrite polls) op = true
  /-- A command has room, and one that carries data leaves room for them. -/
  room : maxWrite = 0 ∨
    1 + shape.addrLen < maxWrite ∧ 1 + shape.addrLen + shape.dummyLen ≤ maxWrite
  addrLen_le : shape.addrLen ≤ 4
  dummyLen_lt : shape.dummyLen < 256

namespace NorBoard

variable (b : NorBoard)

/-- The controller. -/
def bus : SpiBus NorChip := flashBus b.shape b.mode b.maxRead b.maxWrite b.polls

/-! ### Operations -/

section Operations

variable {b} {c : NorChip}

/-- The number of bytes is as it was before it was turned into a number of bits. -/
theorem bytes_of_bits {n : ℕ} (hn : n < 2 ^ 29) : (BitVec.ofNat 32 n * 8).toNat / 8 = n := by
  have height : (8 : BitVec 32).toNat = 8 := rfl
  rw [BitVec.toNat_mul, BitVec.toNat_ofNat, height]
  omega

/-- A command in one transfer. -/
theorem run_spiXfer_once {l : List Byte} (hl : l.length < 2 ^ 29) :
    (b.bus.spiXfer (BitVec.ofNat 32 l.length * 8) (some l) (spiXferBegin ||| spiXferEnd)).run c =
      ((0, fun i => some (c.answer b.shape l i)), c.perform b.shape l) := by
  have htake : l.take ((BitVec.ofNat 32 l.length * 8).toNat / 8) = l := by
    rw [bytes_of_bits hl, List.take_length]
  show ((0, fun i => some (c.answer b.shape (l.take _) i)), c.perform b.shape (l.take _)) = _
  rw [htake]

/-- The beginning of a command. -/
theorem run_spiXfer_begin {l : List Byte} (hl : l.length < 2 ^ 29) :
    (b.bus.spiXfer (BitVec.ofNat 32 l.length * 8) (some l) spiXferBegin).run c =
      ((0, fun i => some (c.answer b.shape l i)), { c with sent := l }) := by
  have htake : l.take ((BitVec.ofNat 32 l.length * 8).toNat / 8) = l := by
    rw [bytes_of_bits hl, List.take_length]
  show ((0, fun i => some (c.answer b.shape (l.take _) i)),
    ({ c with sent := l.take _ } : NorChip)) = _
  rw [htake]

/-- The end of a command. -/
theorem run_spiXfer_end {n : ℕ} (hn : n < 2 ^ 29) (dout : Option (List Byte)) (l : List Byte) :
    (b.bus.spiXfer (BitVec.ofNat 32 n * 8) dout spiXferEnd).run { c with sent := l } =
      ((0, fun i => some (c.answer b.shape (l ++ (dout.getD []).take n) i)),
        c.perform b.shape (l ++ (dout.getD []).take n)) := by
  have hcommand : (b.bus.spiXfer (BitVec.ofNat 32 n * 8) dout spiXferEnd).run
      { c with sent := l } =
      ((0, fun i => some (({ c with sent := l } : NorChip).answer b.shape
          (l ++ (dout.getD []).take ((BitVec.ofNat 32 n * 8).toNat / 8)) i)),
        ({ c with sent := l } : NorChip).perform b.shape
          (l ++ (dout.getD []).take ((BitVec.ofNat 32 n * 8).toNat / 8))) := rfl
  rw [hcommand, bytes_of_bits hn, NorChip.perform, NorChip.execute_with_sent]
  congr 2

/-- A number of bytes is not taken for an error. -/
theorem not_slt_zero {n : ℕ} (hn : n < 2 ^ 29) : ¬ (BitVec.ofNat 32 n).slt 0 := by
  have hnat : (BitVec.ofNat 32 n).toNat = n := by
    rw [BitVec.toNat_ofNat]
    omega
  have hzero : (0 : BitVec 32).toInt = 0 := rfl
  rw [BitVec.slt, decide_eq_true_eq, BitVec.toInt_eq_toNat_of_lt (by omega), hzero]
  omega

/-- What an operation sends. -/
def wire (op : SpiMemOp) : List Byte :=
  op.opBuf ++ if op.data_dir = .dataIn then [] else op.data_buf.take op.data_nbytes

/-- What an operation delivers. -/
def received (h : NorShape) (c : NorChip) (op : SpiMemOp) : ℕ → Option Byte :=
  fun i =>
    if op.data_dir = .dataIn ∧ i < op.data_nbytes then some (c.answer h (wire op) i) else none

/-- **An operation is a command to the flash.** -/
theorem run_spiMemExecOp {op : SpiMemOp} (hsupports : spiMemSupportsOp b.bus op = true)
    (hopBuf : op.opBuf.length < 2 ^ 29) (hdata : op.data_nbytes < 2 ^ 29) :
    (spiMemExecOp b.bus op).run c =
      ((0, received b.shape c op), c.perform b.shape (wire op)) := by
  have hclaim : b.bus.spiClaimBus.run c = (0, c) := rfl
  rw [spiMemExecOp, if_neg (by rw [hsupports]; decide), run_state_bind, hclaim]
  simp only
  rw [if_neg (by decide)]
  by_cases hzero : op.data_nbytes = 0
  · have hwire : wire op = op.opBuf := by
      rw [wire, hzero, List.take_zero, ite_self, List.append_nil]
    have hnone : received b.shape c op = fun _ => none :=
      funext fun i => if_neg fun hand => by omega
    rw [if_pos hzero, run_state_bind, run_spiXfer_once hopBuf, hwire, hnone]
    simp only
    rw [if_neg (not_not.mpr rfl), if_pos hzero]
    rfl
  · have hwire : wire op = op.opBuf ++
        ((if op.data_dir = .dataIn then none else some op.data_buf).getD []).take
          op.data_nbytes := by
      rw [wire]
      split
      · rw [Option.getD_none, List.take_nil]
      · rfl
    rw [if_neg hzero, run_state_bind, run_spiXfer_begin hopBuf]
    simp only
    rw [if_neg (not_not.mpr rfl), if_neg hzero, run_state_bind, run_spiXfer_end hdata, ← hwire]
    simp only
    rw [if_neg (not_not.mpr rfl)]
    rfl

/-! ### Registers -/

theorem length_opBuf (op : SpiMemOp) :
    op.opBuf.length = op.addr_nbytes + op.dummy_nbytes + 1 := by
  rw [SpiMemOp.opBuf, List.length_cons, List.length_append, length_bigEndian,
    List.length_replicate]

theorem run_spiNorWriteReg (opcode : Byte) :
    (spiNorWriteReg b.bus opcode []).run c = (0, c.perform b.shape [opcode]) := by
  rw [spiNorWriteReg, run_state_bind,
    run_spiMemExecOp rfl (by rw [length_opBuf]; show 0 + 0 + 1 < _; decide)
      (by show 0 < _; decide)]
  rfl

theorem run_writeEnable (hc : c.Idle b.polls) :
    (writeEnable b.bus).run c = (0, c.latch true) := by
  rw [writeEnable, run_spiNorWriteReg]
  exact congrArg (Prod.mk 0) hc.perform_writeEnable

theorem run_writeDisable (hc : c.Idle b.polls) :
    (writeDisable b.bus).run c = (0, c.latch false) := by
  rw [writeDisable, run_spiNorWriteReg]
  exact congrArg (Prod.mk 0) hc.perform_writeDisable

/-- The flash after it has been asked for its status. -/
def asked (c : NorChip) : NorChip := { c with busy := c.busy - 1, sent := [] }

theorem run_readSr : (readSr b.bus).run c = (c.status.setWidth 32, asked c) := by
  rw [readSr, readRegister, run_state_bind, spiNorReadReg, run_state_bind,
    run_spiMemExecOp rfl (by decide) (by decide)]
  rfl

theorem run_spiNorReady :
    (spiNorReady b.bus b.nor).run c = (if c.busy = 0 then 1 else 0, asked c) := by
  -- the status has no error bits, and the first bit says whether the flash is busy
  have hstatus : ¬ (c.status.setWidth 32).slt 0 ∧ c.status.setWidth 32 &&& 0x60 = (0 : BitVec 32) ∧
      (c.status.setWidth 32 &&& 1 ≠ (0 : BitVec 32) ↔ c.busy ≠ 0) := by
    rw [NorChip.status]
    by_cases hbusy : c.busy = 0
    · rw [if_pos hbusy, hbusy]
      cases c.writeEnabled <;> decide
    · rw [if_neg hbusy, iff_true_right hbusy]
      cases c.writeEnabled <;> decide
  have hsr : (spiNorSrReady b.bus b.nor).run c = (if c.busy = 0 then 1 else 0, asked c) := by
    rw [spiNorSrReady, run_state_bind, run_readSr]
    simp only
    rw [if_neg hstatus.1, if_neg fun hand => hand.2 hstatus.2.1]
    show (if _ then _ else _, _) = _
    rw [if_congr hstatus.2.2 rfl rfl, ite_not]
  rw [spiNorReady, run_state_bind, hsr]
  simp only
  rw [if_neg (not_not.mpr b.plain.2)]
  by_cases hbusy : c.busy = 0
  · rw [if_pos hbusy]
    rfl
  · rw [if_neg hbusy]
    rfl

/-- **The driver waits** for a flash that is ready in time. -/
theorem run_waitLoop {n : ℕ} (hn : c.busy < n) :
    (waitLoop b.bus b.nor n).run c = (0, c.settled) := by
  induction n generalizing c with
  | zero => exact absurd hn (Nat.not_lt_zero _)
  | succ n ih =>
      rw [waitLoop, run_state_bind, run_spiNorReady]
      by_cases hbusy : c.busy = 0
      · rw [if_pos hbusy, asked, hbusy]
        rfl
      · rw [if_neg hbusy]
        exact ih (c := asked c) (show c.busy - 1 < n by omega)

theorem run_spiNorWaitTillReady (hc : c.busy < b.polls) :
    (spiNorWaitTillReady b.bus b.nor).run c = (0, c.settled) :=
  run_waitLoop hc

/-! ### Writing -/

theorem size_dvd_word (b : NorBoard) : b.shape.size ∣ 2 ^ 32 :=
  b.shape.addressed.trans (Nat.pow_dvd_pow 256 b.addrLen_le)

/-- How much of `n` bytes the controller takes in one command. -/
def writeChunk (b : NorBoard) (n : ℕ) : ℕ :=
  if b.maxWrite ≠ 0 then min n (b.maxWrite - (1 + b.shape.addrLen)) else n

theorem writeChunk_le (n : ℕ) : b.writeChunk n ≤ n := by
  rw [writeChunk]
  split
  · exact Nat.min_le_left _ _
  · exact le_rfl

theorem writeChunk_pos {n : ℕ} (hn : 0 < n) : 0 < b.writeChunk n := by
  have hroom := b.room
  rw [writeChunk]
  split <;> omega

theorem addr_nbytes_programOp (addr : ℕ) (buf : List Byte) :
    (b.nor.programOp addr buf).addr_nbytes = b.shape.addrLen := by
  rw [SpiNor.programOp, if_neg fun hand => Bool.noConfusion (b.plain.1.symm.trans hand.2)]
  exact b.addr_width_eq

/-- The limits of the controller make an operation smaller but leave something of it. -/
theorem spiMemAdjustOpSize_eq {op : SpiMemOp} {n : ℕ} (hn : n ≠ 0)
    (hroom : b.maxWrite = 0 ∨ 1 + op.addr_nbytes + op.dummy_nbytes ≤ b.maxWrite)
    (hnbytes : n =
      if op.data_dir = .dataIn then
        if b.maxRead ≠ 0 then min op.data_nbytes b.maxRead else op.data_nbytes
      else if b.maxWrite ≠ 0 then
        min op.data_nbytes (b.maxWrite - (1 + op.addr_nbytes + op.dummy_nbytes))
      else op.data_nbytes) :
    spiMemAdjustOpSize b.bus op = (0, { op with data_nbytes := n }) := by
  have hfits : ¬ (b.maxWrite ≠ 0 ∧ 1 + op.addr_nbytes + op.dummy_nbytes > b.maxWrite) := by omega
  subst hnbytes
  exact (if_neg hfits).trans (congrArg (·, _) (if_neg hn))

theorem spiMemAdjustOpSize_programOp (addr : ℕ) {buf : List Byte} (hbuf : buf ≠ []) :
    spiMemAdjustOpSize b.bus (b.nor.programOp addr buf) =
      (0, { b.nor.programOp addr buf with data_nbytes := b.writeChunk buf.length }) := by
  have hroom := b.room
  have hdummy : (b.nor.programOp addr buf).dummy_nbytes = 0 := rfl
  have hpos := writeChunk_pos (b := b) (List.length_pos_of_ne_nil hbuf)
  refine spiMemAdjustOpSize_eq hpos.ne' ?_ ?_
  · rw [addr_nbytes_programOp, hdummy]
    omega
  · rw [addr_nbytes_programOp]
    rfl

/-- The operation of a write, made smaller. -/
theorem run_programOp (addr : ℕ) (buf : List Byte) {n : ℕ} (hn : n < 2 ^ 29) :
    let sent := b.shape.programOp :: (bigEndian b.shape.addrLen addr ++ buf.take n)
    (spiMemExecOp b.bus { b.nor.programOp addr buf with data_nbytes := n }).run c =
      ((0, received b.shape c { b.nor.programOp addr buf with data_nbytes := n }),
        c.perform b.shape sent) := by
  intro sent
  have haddr := b.addrLen_le
  have hopBuf : (b.nor.programOp addr buf).opBuf =
      b.shape.programOp :: bigEndian b.shape.addrLen addr := by
    rw [SpiMemOp.opBuf, addr_nbytes_programOp, ← b.program_opcode_eq]
    exact congrArg _ (List.append_nil _)
  have hwire : wire { b.nor.programOp addr buf with data_nbytes := n } = sent :=
    congrArg (· ++ buf.take n) hopBuf
  rw [← hwire]
  refine run_spiMemExecOp (b.wired _ (.inr ⟨addr, buf, n, rfl⟩)) ?_ hn
  show (b.nor.programOp addr buf).opBuf.length < _
  rw [hopBuf, List.length_cons, length_bigEndian]
  omega

theorem run_spiNorWriteData (addr : ℕ) {buf : List Byte} (hbuf : buf ≠ [])
    (hlen : buf.length < 2 ^ 29) :
    (spiNorWriteData b.bus b.nor addr buf).run c =
      (BitVec.ofNat 32 (b.writeChunk buf.length),
        c.perform b.shape (b.shape.programOp ::
          (bigEndian b.shape.addrLen addr ++ buf.take (b.writeChunk buf.length)))) := by
  have hle := writeChunk_le (b := b) buf.length
  rw [spiNorWriteData, spiMemAdjustOpSize_programOp addr hbuf]
  simp only
  rw [if_neg (not_not.mpr rfl), Nat.min_eq_right hle, run_state_bind,
    run_programOp addr buf (hle.trans_lt hlen)]
  rfl

/-- **The loop of a write** burns the bytes into consecutive cells. -/
theorem run_writeLoop {fuel : ℕ} (addr : ℕ) (buf : List Byte) (hfuel : buf.length ≤ fuel)
    (hlen : buf.length < 2 ^ 29) (hc : c.Idle b.polls) :
    ∃ c', (writeLoop b.bus b.nor fuel addr buf).run c = (0, c') ∧ c'.Idle b.polls ∧
      c'.cells = burn (placed (b.shape.cell addr) buf) c.cells := by
  induction fuel generalizing addr buf c with
  | zero =>
      obtain rfl := List.eq_nil_of_length_eq_zero (Nat.le_zero.mp hfuel)
      exact ⟨c, rfl, hc, rfl⟩
  | succ fuel ih =>
      by_cases hbuf : buf = []
      · subst hbuf
        exact ⟨c, rfl, hc, rfl⟩
      have hpos := List.length_pos_of_ne_nil hbuf
      have hpage := Nat.mod_lt addr b.shape.pageLen_pos
      -- the bytes of this round stay inside a page
      set remain := min (b.shape.pageLen - addr % b.shape.pageLen) buf.length with hremain
      have hlenTake : (buf.take remain).length = remain := by
        rw [List.length_take]
        omega
      have htake : buf.take remain ≠ [] := List.ne_nil_of_length_pos (by omega)
      set n := b.writeChunk remain with hn
      have hnpos : 0 < n := writeChunk_pos (by omega)
      have hnle : n ≤ remain := writeChunk_le remain
      have hround : (buf.take remain).take n = buf.take n := by
        rw [List.take_take, Nat.min_eq_left hnle]
      have hlenRound : (buf.take n).length = n := by
        rw [List.length_take]
        omega
      obtain ⟨hbusy, hsettled⟩ := hc.perform_program (h := b.shape) addr (buf.take n)
        (List.ne_nil_of_length_pos (by omega)) (by omega)
      obtain ⟨c', hrun, hidle, hcells⟩ := ih (addr + n) (buf.drop n)
        (by rw [List.length_drop]; omega) (by rw [List.length_drop]; omega)
        (hc.renewed (burn (placed (b.shape.cell addr) (buf.take n)) c.cells))
      refine ⟨c', ?_, hidle, ?_⟩
      · have hwritten : (BitVec.ofNat 32 n).toNat = n := by
          rw [BitVec.toNat_ofNat]
          omega
        rw [writeLoop, if_neg hbuf, run_state_bind, run_writeEnable hc]
        simp only
        rw [pageOffset_eq_mod, b.page_size_eq, ← hremain, run_state_bind,
          run_spiNorWriteData addr htake (by omega), hlenTake, ← hn, hround]
        simp only
        rw [if_neg (not_slt_zero (by omega)), run_state_bind, run_spiNorWaitTillReady hbusy,
          hsettled]
        simp only
        rw [if_neg (not_not.mpr rfl), hwritten]
        exact hrun
      · have hsplit := burn_placed_append (b.shape.cell addr) (buf.take n) (buf.drop n) c.cells
        rw [List.take_append_drop, hlenRound, ← SerialShape.cell_add] at hsplit
        rw [hcells, hsplit]
        rfl

/-! ### Erasing -/

theorem run_spiNorEraseSector (addr : BitVec 32) :
    (spiNorEraseSector b.bus b.nor addr).run c =
      (0, c.perform b.shape (b.shape.eraseOp :: bigEndian b.shape.addrLen addr.toNat)) := by
  have hwidth := b.addr_width_eq
  have haddr := b.addrLen_le
  rw [spiNorEraseSector, hwidth, b.erase_opcode_eq, run_state_bind, run_spiMemExecOp ?_ ?_ ?_]
  · rw [wire, SpiMemOp.opBuf]
    simp only [List.replicate_zero, List.append_nil, if_true]
    rfl
  · simp [spiMemSupportsOp, spiCheckBuswidthReq]
  · rw [length_opBuf]
    show b.shape.addrLen + 0 + 1 < _
    omega
  · show 0 < _
    decide

/-- **The loop of an erasure** makes consecutive cells blank, and begins again behind the last
one. -/
theorem run_eraseLoop (sectors : ℕ) {addr : BitVec 32} (haddr : b.shape.sectorLen ∣ addr.toNat)
    (hc : c.Idle b.polls) :
    ∃ c', (eraseLoop b.bus b.nor sectors addr).run c = (0, c') ∧ c'.Idle b.polls ∧
      c'.cells = wipe (b.shape.cell addr.toNat) (b.shape.sectorLen * sectors) c.cells := by
  induction sectors generalizing addr c with
  | zero => exact ⟨c, rfl, hc, (wipe_zero _ _).symm⟩
  | succ sectors ih =>
      obtain ⟨hbusy, hsettled⟩ := hc.perform_erase (h := b.shape) haddr
      -- an address that runs over begins at zero, and so do the cells
      have hnext : (addr + b.nor.erasesize).toNat = (addr.toNat + b.shape.sectorLen) % 2 ^ 32 := by
        rw [BitVec.toNat_add, b.erasesize_eq]
      have hword : b.shape.size ∣ 2 ^ 32 := size_dvd_word b
      have hdvd : b.shape.sectorLen ∣ (addr + b.nor.erasesize).toNat := by
        rw [hnext]
        exact (Nat.dvd_mod_iff (b.shape.sectorLen_dvd.trans hword)).mpr
          ((Nat.dvd_add_right haddr).mpr dvd_rfl)
      have hcell : b.shape.cell (addr + b.nor.erasesize).toNat =
          fun j => b.shape.cell addr.toNat (b.shape.sectorLen + j) := by
        rw [← SerialShape.cell_add, hnext]
        funext j
        rw [SerialShape.cell, SerialShape.cell, Nat.add_mod, Nat.mod_mod_of_dvd _ hword,
          ← Nat.add_mod]
      obtain ⟨c', hrun, hidle, hcells⟩ := ih hdvd
        (hc.renewed (wipe (b.shape.cell addr.toNat) b.shape.sectorLen c.cells))
      refine ⟨c', ?_, hidle, ?_⟩
      · rw [eraseLoop, run_state_bind, run_writeEnable hc]
        simp only
        rw [run_state_bind, run_spiNorEraseSector]
        simp only
        rw [if_neg (not_not.mpr rfl), run_state_bind, run_spiNorWaitTillReady hbusy, hsettled]
        simp only
        rw [if_neg (not_not.mpr rfl)]
        exact hrun
      · rw [hcells, hcell, Nat.mul_succ, Nat.add_comm, wipe_add]
        rfl

/-! ### Reading -/

/-- How much of `n` bytes the controller delivers in one command. -/
def readChunk (b : NorBoard) (n : ℕ) : ℕ := if b.maxRead ≠ 0 then min n b.maxRead else n

theorem readChunk_le (n : ℕ) : b.readChunk n ≤ n := by
  rw [readChunk]
  split <;> omega

theorem readChunk_pos {n : ℕ} (hn : 0 < n) : 0 < b.readChunk n := by
  rw [readChunk]
  split <;> omega

theorem spiMemAdjustOpSize_readOp (addr : ℕ) {n : ℕ} (hn : 0 < n) :
    spiMemAdjustOpSize b.bus { b.nor.readOp addr with data_nbytes := n } =
      (0, { b.nor.readOp addr with data_nbytes := b.readChunk n }) := by
  have hroom := b.room
  have hpos := readChunk_pos (b := b) hn
  have hdummy := b.dummy_eq addr
  have haddr : (b.nor.readOp addr).addr_nbytes = b.shape.addrLen := b.addr_width_eq
  refine spiMemAdjustOpSize_eq hpos.ne' ?_ rfl
  show _ ∨ 1 + (b.nor.readOp addr).addr_nbytes + (b.nor.readOp addr).dummy_nbytes ≤ _
  omega

/-- The operation of a reading, made smaller, delivers cells. -/
theorem run_readOp (addr : ℕ) {n : ℕ} (hn : n < 2 ^ 29) (hc : c.Idle b.polls) :
    (spiMemExecOp b.bus { b.nor.readOp addr with data_nbytes := n }).run c =
      ((0, firstOf n fun i => c.cells (b.shape.cell addr i)), c) := by
  have haddr := b.addrLen_le
  have hdummy := b.dummyLen_lt
  set dummy : List Byte := List.replicate b.shape.dummyLen 0xff with hd
  have hopBuf : (b.nor.readOp addr).opBuf =
      b.shape.readOp :: (bigEndian b.shape.addrLen addr ++ dummy) := by
    rw [SpiMemOp.opBuf, b.dummy_eq, ← hd, ← b.read_opcode_eq, ← b.addr_width_eq]
    rfl
  have hwire : wire { b.nor.readOp addr with data_nbytes := n } =
      b.shape.readOp :: (bigEndian b.shape.addrLen addr ++ dummy) :=
    (List.append_nil _).trans hopBuf
  have hreceived : received b.shape c { b.nor.readOp addr with data_nbytes := n } =
      firstOf n fun i => c.cells (b.shape.cell addr i) := by
    funext i
    rw [received, hwire, NorChip.answer_read hc.busy_eq addr List.length_replicate i]
    exact if_congr (and_iff_right rfl) rfl rfl
  rw [run_spiMemExecOp (b.wired _ (.inl ⟨addr, n, rfl⟩)) ?_ hn, hwire, hc.perform_read, hreceived]
  show (b.nor.readOp addr).opBuf.length < _
  rw [hopBuf, List.length_cons, List.length_append, length_bigEndian, List.length_replicate]
  omega

/-- **The loop of a reading** delivers consecutive cells. -/
theorem run_readDataLoop {fuel addr remaining : ℕ} (hfuel : remaining ≤ fuel)
    (hlen : remaining < 2 ^ 29) (hc : c.Idle b.polls) :
    (readDataLoop b.bus b.nor fuel addr remaining).run c =
      ((0, firstOf remaining fun i => c.cells (b.shape.cell addr i)), c) := by
  induction fuel generalizing addr remaining with
  | zero =>
      obtain rfl := Nat.le_zero.mp hfuel
      rfl
  | succ fuel ih =>
      by_cases hzero : remaining = 0
      · subst hzero
        rfl
      have hpos := readChunk_pos (b := b) (Nat.pos_of_ne_zero hzero)
      have hle := readChunk_le (b := b) remaining
      rw [readDataLoop, if_neg hzero, spiMemAdjustOpSize_readOp addr (Nat.pos_of_ne_zero hzero)]
      simp only
      set n := b.readChunk remaining
      rw [if_neg (not_not.mpr rfl), run_state_bind, run_readOp addr (by omega) hc]
      simp only
      rw [if_neg (not_not.mpr rfl), run_state_bind, ih (by omega) (by omega)]
      -- the bytes of this round and the rest
      rw [SerialShape.cell_add, ← behind_firstOf _ hle]
      rfl

theorem run_spiNorRead (addr : ℕ) {len : BitVec 32} (hlen : len.toNat < 2 ^ 29)
    (hc : c.Idle b.polls) :
    (spiNorRead b.bus b.nor addr len).run c =
      ((0, firstOf len.toNat fun i => c.cells (b.shape.cell addr i)), c) := by
  by_cases hzero : len = 0
  · subst hzero
    rfl
  have hdata : (spiNorReadData b.bus b.nor addr len.toNat).run c =
      ((len, firstOf len.toNat fun i => c.cells (b.shape.cell addr i)), c) := by
    rw [spiNorReadData, run_state_bind, run_readDataLoop le_rfl hlen hc]
    simp only
    rw [if_neg (not_not.mpr rfl), BitVec.ofNat_toNat, BitVec.setWidth_eq]
    rfl
  have hslt : ¬ len.slt 0 := by
    have hcount := not_slt_zero hlen
    rwa [BitVec.ofNat_toNat, BitVec.setWidth_eq] at hcount
  obtain ⟨n, hn⟩ : ∃ n, len.toNat = n + 1 := Nat.exists_eq_succ_of_ne_zero fun h =>
    hzero (BitVec.eq_of_toNat_eq h)
  have hrest : (readLoop b.bus b.nor len.toNat (addr + len.toNat) (len - len)).run c =
      ((0, fun _ => none), c) := by
    rw [hn, BitVec.sub_self]
    rfl
  rw [spiNorRead, readLoop, if_neg hzero, run_state_bind, hdata]
  simp only
  rw [if_neg hzero, if_neg hslt, run_state_bind, hrest]
  simp only
  rw [behind_none]
  rfl

end Operations

/-! ### Calls -/

section Calls

variable {b} {c : NorChip}

theorem run_spiFlashStdRead (offset len : BitVec 32) (hlen : len.toNat < 2 ^ 29)
    (hc : c.Idle b.polls) :
    ∃ data, (spiFlashStdRead b.bus b.nor offset len).run c = ((0, data), c) ∧
      ∀ i < len.toNat, data i = some (c.cells (b.shape.cell offset.toNat i)) :=
  ⟨_, run_spiNorRead offset.toNat hlen hc, fun _ hi => firstOf_of_lt _ hi⟩

theorem run_spiFlashStdWrite (offset : BitVec 32) (buf : List Byte) (hlen : buf.length < 2 ^ 29)
    (hc : c.Idle b.polls) :
    ∃ c', (spiFlashStdWrite b.bus b.nor offset buf).run c = (0, c') ∧ c'.Idle b.polls ∧
      c'.cells = burn (placed (b.shape.cell offset.toNat) buf) c.cells :=
  run_writeLoop _ _ le_rfl hlen hc

theorem umod_erasesize_eq_zero_iff {x : BitVec 32} :
    x % b.nor.erasesize = 0 ↔ b.shape.sectorLen ∣ x.toNat := by
  rw [← BitVec.toNat_inj, BitVec.toNat_umod, b.erasesize_eq, Nat.dvd_iff_mod_eq_zero]
  rfl

/-- An erasure that is not made of sectors is refused. -/
theorem run_spiFlashStdErase_refused {offset len : BitVec 32}
    (hnot : ¬ (b.shape.sectorLen ∣ offset.toNat ∧ b.shape.sectorLen ∣ len.toNat)) :
    (spiFlashStdErase b.bus b.nor offset len).run c = (einval, c) := by
  rw [spiFlashStdErase, if_pos]
  · rfl
  · rw [Ne, Ne, umod_erasesize_eq_zero_iff, umod_erasesize_eq_zero_iff, ← not_and_or]
    exact hnot

theorem run_spiFlashStdErase (offset len : BitVec 32)
    (hoffset : b.shape.sectorLen ∣ offset.toNat) (hlen : b.shape.sectorLen ∣ len.toNat)
    (hc : c.Idle b.polls) :
    ∃ c', (spiFlashStdErase b.bus b.nor offset len).run c = (0, c') ∧ c'.Idle b.polls ∧
      c'.cells = wipe (b.shape.cell offset.toNat) len.toNat c.cells := by
  have hoffset' := umod_erasesize_eq_zero_iff.mpr hoffset
  have hlen' := umod_erasesize_eq_zero_iff.mpr hlen
  rw [spiFlashStdErase, if_neg (by rw [hoffset', hlen']; simp), spiNorErase]
  by_cases hzero : len = 0
  · subst hzero
    exact ⟨c, rfl, hc, (wipe_zero _ _).symm⟩
  · obtain ⟨c', hrun, hidle, hcells⟩ :=
      run_eraseLoop (len.toNat / b.shape.sectorLen) hoffset hc
    refine ⟨c'.latch false, ?_, hidle.latch false, ?_⟩
    · rw [if_neg hzero, if_neg (not_not.mpr hlen'), b.erasesize_eq, run_state_bind, hrun]
      simp only
      rw [run_state_bind, run_writeDisable hidle]
      rfl
    · rw [Nat.mul_div_cancel' hlen] at hcells
      exact hcells

end Calls

end NorBoard

/-! ## The array -/

/-- A call of the interface of a flash. -/
inductive NorCall where
  | read (offset len : BitVec 32)
  | write (offset : BitVec 32) (buf : List Byte)
  | erase (offset len : BitVec 32)

namespace NorCall

/-- A call that moves data moves less than two to the twenty-ninth bytes, so that they can be
counted in bits. -/
def Moderate : NorCall → Prop
  | read _ len => len.toNat < 2 ^ 29
  | write _ buf => buf.length < 2 ^ 29
  | erase _ _ => True

/-- Make the call, and see what it returns and what it has put into the buffer. -/
def issue {W : Type} (io : SpiFlashDriver W) (flash : Udevice) :
    NorCall → StateM W (BitVec 32 × List (Option Byte))
  | read offset len => do
      let (ret, data) ← (io.spiFlashRead flash offset len : StateM W _)
      return (ret, (List.range len.toNat).map data)
  | write offset buf => do
      let ret ← (io.spiFlashWrite flash offset buf : StateM W _)
      return (ret, [])
  | erase offset len => do
      let ret ← (io.spiFlashErase flash offset len : StateM W _)
      return (ret, [])

/-- What the call does to an array of cells that is closed to a ring. -/
def onArray (h : NorShape) : NorCall → StateM (ℕ → Byte) (BitVec 32 × List (Option Byte))
  | read offset len => fun cells =>
      ((0, (List.range len.toNat).map fun i => some (cells (h.cell offset.toNat i))), cells)
  | write offset buf => fun cells =>
      ((0, []), burn (placed (h.cell offset.toNat) buf) cells)
  | erase offset len => fun cells =>
      if h.sectorLen ∣ offset.toNat ∧ h.sectorLen ∣ len.toNat then
        ((0, []), wipe (h.cell offset.toNat) len.toNat cells)
      else ((einval, []), cells)

end NorCall

/-- **One call.** -/
theorem NorBoard.issue_refines (b : NorBoard) (dm : SpiFlashModel NorChip) (flash : Udevice)
    {call : NorCall} (hcall : call.Moderate) {c : NorChip} (hc : c.Idle b.polls) :
    ∃ c', (call.issue (stdFlash dm b.bus b.nor) flash).run c =
        (((call.onArray b.shape).run c.cells).1, c') ∧
      c'.Idle b.polls ∧ c'.cells = ((call.onArray b.shape).run c.cells).2 := by
  cases call with
  | read offset len =>
      obtain ⟨data, hrun, hdata⟩ := run_spiFlashStdRead offset len hcall hc
      have hbytes : (List.range len.toNat).map data =
          (List.range len.toNat).map fun i => some (c.cells (b.shape.cell offset.toNat i)) :=
        List.map_congr_left fun i hi => hdata i (List.mem_range.mp hi)
      refine ⟨c, ?_, hc, rfl⟩
      rw [NorCall.issue, stdFlash, run_state_bind, hrun]
      show ((0, (List.range len.toNat).map data), c) = _
      rw [hbytes]
      rfl
  | write offset buf =>
      obtain ⟨c', hrun, hidle, hcells⟩ := run_spiFlashStdWrite offset buf hcall hc
      refine ⟨c', ?_, hidle, hcells⟩
      rw [NorCall.issue, stdFlash, run_state_bind, hrun]
      rfl
  | erase offset len =>
      by_cases haligned : b.shape.sectorLen ∣ offset.toNat ∧ b.shape.sectorLen ∣ len.toNat
      · have harray : ((NorCall.erase offset len).onArray b.shape).run c.cells =
            ((0, []), wipe (b.shape.cell offset.toNat) len.toNat c.cells) := if_pos haligned
        obtain ⟨c', hrun, hidle, hcells⟩ := run_spiFlashStdErase offset len haligned.1 haligned.2 hc
        rw [harray]
        refine ⟨c', ?_, hidle, hcells⟩
        rw [NorCall.issue, stdFlash, run_state_bind, hrun]
        rfl
      · have harray : ((NorCall.erase offset len).onArray b.shape).run c.cells =
            ((einval, []), c.cells) := if_neg haligned
        rw [harray]
        refine ⟨c, ?_, hc, rfl⟩
        rw [NorCall.issue, stdFlash, run_state_bind, run_spiFlashStdErase_refused haligned]
        rfl

/-- **Calls to a flash are calls to an array.**  Whatever a flash holds, however its cells are
divided into pages and sectors, whatever limits its controller has that leave room for a command,
and however long it takes for its commands as long as the driver has the patience: a series of
calls returns and delivers what the same calls to an array would, where an erasure that is not
made of sectors is refused, and it leaves the same contents behind. -/
theorem NorBoard.calls_refine (b : NorBoard) (dm : SpiFlashModel NorChip) (flash : Udevice)
    (calls : List NorCall) (hcalls : ∀ call ∈ calls, call.Moderate) {c : NorChip}
    (hc : c.Idle b.polls) :
    ∃ c', (calls.mapM (NorCall.issue (stdFlash dm b.bus b.nor) flash)).run c =
        (((calls.mapM (NorCall.onArray b.shape)).run c.cells).1, c') ∧
      c'.Idle b.polls ∧ c'.cells = ((calls.mapM (NorCall.onArray b.shape)).run c.cells).2 := by
  induction calls generalizing c with
  | nil => exact ⟨c, rfl, hc, rfl⟩
  | cons call calls ih =>
      obtain ⟨c₁, hissue, hidle₁, hcells₁⟩ := b.issue_refines dm flash (hcalls call (by simp)) hc
      obtain ⟨c₂, hrest, hidle₂, hcells₂⟩ :=
        ih (fun call hmem => hcalls call (List.mem_cons_of_mem _ hmem)) hidle₁
      rw [hcells₁] at hrest hcells₂
      refine ⟨c₂, ?_, hidle₂, ?_⟩
      · rw [List.mapM_cons, List.mapM_cons, run_state_bind, hissue, run_state_bind, hrest]
        rfl
      · rw [List.mapM_cons, run_state_bind, run_state_bind, hcells₂]
        rfl

/-! ## A flash -/

namespace NorBoard

/-- A W25Q32: four megabytes in pages of 256 bytes and sectors of 4096. -/
def w25q32Shape : NorShape where
  addrLen := 3
  pageLen := 256
  pages := 16384
  pageLen_pos := by decide
  pages_pos := by decide
  addressed := by decide
  sectorPages := 16
  sectorPages_pos := by decide
  sectorPages_dvd := by decide
  readOp := 0x0b
  programOp := 0x02
  eraseOp := 0x20
  dummyLen := 1
  opcodes_nodup := by decide

/-- What `spi_nor_scan` finds out about it. -/
def w25q32Nor : SpiNor where
  size := 0x400000
  erasesize := 4096
  page_size := 256
  addr_width := 3
  erase_opcode := 0x20
  read_opcode := 0x0b
  read_dummy := 8
  program_opcode := 0x02
  read_proto := 0x010101
  write_proto := 0x010101
  sst_write_second := false
  flags := 0

/-- A W25Q32 that takes at most three questions for a command, behind a controller that moves
at most 64 bytes at a time. -/
def w25q32 : NorBoard where
  nor := w25q32Nor
  shape := w25q32Shape
  mode := 0
  maxRead := 64
  maxWrite := 64
  polls := 4
  size_eq := rfl
  page_size_eq := rfl
  erasesize_eq := rfl
  addr_width_eq := rfl
  read_opcode_eq := rfl
  program_opcode_eq := rfl
  erase_opcode_eq := rfl
  dummy_eq _ := rfl
  plain := ⟨rfl, by decide⟩
  wired := by
    rintro op (⟨addr, n, rfl⟩ | ⟨addr, buf, n, rfl⟩)
    · simp [spiMemSupportsOp, spiCheckBuswidthReq, SpiNor.readOp, w25q32Nor,
        spiNorGetProtocolInstNbits, spiNorGetProtocolAddrNbits, spiNorGetProtocolDataNbits]
    · simp [spiMemSupportsOp, spiCheckBuswidthReq, SpiNor.programOp, w25q32Nor,
        spiNorGetProtocolInstNbits, spiNorGetProtocolAddrNbits, spiNorGetProtocolDataNbits]
  room := .inr (by decide)
  addrLen_le := by decide
  dummyLen_lt := by decide

/-- A driver model in which the flash is always there. -/
def presentModel : SpiFlashModel NorChip where
  writel _ _ := pure ()
  spiFindBusAndCs _ _ := pure (0, some 0)
  deviceRemove _ := pure 0
  spiFlashProbeBusCs _ _ := pure (0, some 0)

theorem found_presentModel (io : SpiBus NorChip) (nor : SpiNor) (bus cs : BitVec 32)
    (P : NorChip → Prop) : (stdFlash presentModel io nor).Found bus cs P where
  writel _ _ _ h := h
  find d h := ⟨0, some 0, d, rfl, fun _ => rfl, h⟩
  remove _ _ h := h
  probe d h := ⟨0, d, rfl, h⟩

/-- Three bytes across the end of a page, a reading around them, and an erasure that is not made
of sectors. -/
theorem calls_refine_w25q32 :
    ∃ c', ([.write 0xFE [1, 2, 3], .read 0xFD 5, .erase 1 4096].mapM
        (NorCall.issue (stdFlash presentModel w25q32.bus w25q32.nor) 0)).run
        ⟨fun _ => 0xFF, false, 0, fun n => n % 4, []⟩ =
      ([(0, []), (0, [some 0xFF, some 1, some 2, some 3, some 0xFF]), (einval, [])], c') := by
  obtain ⟨c', hrun, -⟩ := w25q32.calls_refine presentModel 0
    [.write 0xFE [1, 2, 3], .read 0xFD 5, .erase 1 4096] (by
      simp only [List.mem_cons, List.not_mem_nil, or_false]
      rintro call (rfl | rfl | rfl)
      · show 3 < _
        decide
      · show 5 < _
        decide
      · trivial)
    (c := ⟨fun _ => 0xFF, false, 0, fun n => n % 4, []⟩)
    ⟨rfl, rfl, fun n => Nat.mod_lt n (by decide)⟩
  exact ⟨c', hrun⟩

end NorBoard

end BoardDiag
