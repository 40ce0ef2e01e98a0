import BoardDiag.Driver.I2cChips
import BoardDiag.Suite.EepromContents

/-!
# Transfers to serial memories

The utilities of the test framework, run through U-Boot's I2C core down to the messages
a serial memory receives and delivers.

To the framework a chip on a bus is an array of bytes.  To the core it is an entry in a
table, with an offset length and flags that some earlier call may have left there; and to
the chip a transfer is a handful of messages, each with an address in front.
`transfers_refine` says that the first of these pictures is right: whatever transfers are
made, to whatever chips on whatever buses and in whatever order, each delivers what an
array would deliver, and each fails that has no chip to go to.

The flag `DM_I2C_CHIP_WR_ADDRESS`, which `eBBTF_utils_i2c_write` sets, has its part in
this.  Without it the bytes travel in one message and come round at the end of a page;
`dmI2cWrite_plain_iff` says when that makes no difference.
-/

namespace BoardDiag

open Machine

variable {W D : Type}

/-! ## Serial memories on buses -/

/-- Which buses there are, and which memory there is at an address of a bus. -/
structure Backplane where
  bus : BitVec 32 → Option Udevice
  shape : Udevice × Byte → Option SerialShape

/-- The state of the memories. -/
abbrev Rack := Udevice × Byte → SerialMemory

/-- Controllers with serial memories behind them.  A message to an address where there is
none is not acknowledged. -/
def Backplane.controller (b : Backplane) : I2cController Rack where
  writel _ _ := pure ()
  uclassGetDeviceBySeq seq :=
    match b.bus seq with
    | some bus => pure (0, some bus)
    | none => pure (enodev, none)
  deviceBindDriver _ _ := pure 0
  deviceProbe _ := pure 0
  malloc _ := pure true
  omap24I2cRead bus chip len := do
    match b.shape (bus, chip) with
    | none => return (1, fun _ => 0)
    | some h =>
        let r ← get
        set (Function.update r (bus, chip) ((r (bus, chip)).deliver h len))
        return (0, (r (bus, chip)).delivered h)
  omap24I2cWrite bus chip buffer := do
    match b.shape (bus, chip) with
    | none => return 1
    | some h =>
        modify fun r => Function.update r (bus, chip) ((r (bus, chip)).receive h buffer)
        return 0
  omap24I2cProbe bus chip := pure (if (b.shape (bus, chip)).isSome then 0 else 1)
  getBusSpeed _ := pure 100000
  setBusSpeed _ _ := pure 0

namespace Backplane

variable (b : Backplane) {bus : Udevice} {msg : I2cMsg} {h : SerialShape}

/-! ## Messages -/

theorem run_xfer_write (msg : I2cMsg) (msgs : List I2cMsg) (hflags : msg.flags &&& i2cMRd = 0)
    (hshape : b.shape (bus, msg.addr.setWidth 8) = some h) (r : Rack) :
    (omapI2cXfer b.controller bus (msg :: msgs)).run r =
      (omapI2cXfer b.controller bus msgs).run (Function.update r (bus, msg.addr.setWidth 8)
        ((r (bus, msg.addr.setWidth 8)).receive h msg.buf)) := by
  rw [omapI2cXfer, if_neg (not_not.mpr hflags), run_state_bind]
  simp only [controller, hshape]
  rfl

theorem run_xfer_write_absent (msgs : List I2cMsg) (hflags : msg.flags &&& i2cMRd = 0)
    (hshape : b.shape (bus, msg.addr.setWidth 8) = none) (r : Rack) :
    (omapI2cXfer b.controller bus (msg :: msgs)).run r = ((eremoteio, fun _ => 0), r) := by
  rw [omapI2cXfer, if_neg (not_not.mpr hflags), run_state_bind]
  simp only [controller, hshape]
  rfl

theorem run_xfer_read (hflags : msg.flags &&& i2cMRd ≠ 0)
    (hshape : b.shape (bus, msg.addr.setWidth 8) = some h) (r : Rack) :
    (omapI2cXfer b.controller bus [msg]).run r =
      ((0, (r (bus, msg.addr.setWidth 8)).delivered h),
        Function.update r (bus, msg.addr.setWidth 8)
          ((r (bus, msg.addr.setWidth 8)).deliver h msg.len)) := by
  rw [omapI2cXfer, if_pos hflags, run_state_bind]
  simp only [controller, hshape]
  rfl

theorem run_xfer_read_absent (msgs : List I2cMsg) (hflags : msg.flags &&& i2cMRd ≠ 0)
    (hshape : b.shape (bus, msg.addr.setWidth 8) = none) (r : Rack) :
    (omapI2cXfer b.controller bus (msg :: msgs)).run r = ((eremoteio, fun _ => 0), r) := by
  rw [omapI2cXfer, if_pos hflags, run_state_bind]
  simp only [controller, hshape]
  rfl

end Backplane

/-! ## Offsets -/

namespace DmI2cChip

/-- The chip takes the addresses of a memory, and nothing of them goes into its own
address. -/
structure Addresses (chip : DmI2cChip) (h : SerialShape) : Prop where
  offset_len : chip.offset_len.toNat = h.addrLen
  pos : 0 < h.addrLen
  le : h.addrLen ≤ 4
  mask : chip.chip_addr_offset_mask = 0

theorem tenBit_not_read (chip : DmI2cChip) : chip.tenBit &&& i2cMRd = 0 := by
  rw [tenBit]
  split
  · decide
  · decide

theorem tenBit_or_read (chip : DmI2cChip) : (chip.tenBit ||| i2cMRd) &&& i2cMRd ≠ 0 := by
  rw [tenBit]
  split
  · decide
  · decide

variable {chip : DmI2cChip} {h : SerialShape}

theorem setupOffset_addr (hmask : chip.chip_addr_offset_mask = 0) (offset : BitVec 32) :
    (i2cSetupOffset chip offset).2.addr = chip.chip_addr := by
  rw [i2cSetupOffset]
  simp only
  rw [if_neg (not_not.mpr hmask)]

theorem Addresses.ret_eq (ha : chip.Addresses h) (offset : BitVec 32) :
    (i2cSetupOffset chip offset).1 = 0 := by
  have hne : chip.offset_len ≠ 0 := by
    intro hzero
    have hlen := ha.offset_len
    rw [hzero] at hlen
    exact absurd hlen (Nat.ne_of_lt ha.pos)
  rw [i2cSetupOffset]
  exact if_neg hne

theorem Addresses.buf_eq (ha : chip.Addresses h) (offset : BitVec 32) :
    (i2cSetupOffset chip offset).2.buf = bigEndian h.addrLen offset.toNat := by
  rw [i2cSetupOffset, ← ha.offset_len]

/-- The offset of the `i`-th byte, which is computed in 32 bits, names the `i`-th cell. -/
theorem Addresses.toNat_add_mod (ha : chip.Addresses h) (offset : BitVec 32) (i : ℕ) :
    (offset + BitVec.ofNat 32 i).toNat % h.size = h.cell offset.toNat i := by
  have hdvd : h.size ∣ 2 ^ 32 := by
    have hpow : 256 ^ h.addrLen ∣ 256 ^ 4 := Nat.pow_dvd_pow 256 ha.le
    exact h.addressed.trans hpow
  rw [BitVec.toNat_add, BitVec.toNat_ofNat, Nat.mod_mod_of_dvd _ hdvd, SerialShape.cell,
    Nat.add_mod offset.toNat (i % 2 ^ 32), Nat.mod_mod_of_dvd _ hdvd, ← Nat.add_mod]

end DmI2cChip

/-! ## Transfers on a bus -/

namespace Backplane

variable (b : Backplane) {bus : Udevice} {chip : DmI2cChip} {h : SerialShape}

/-- **Bytes that are written one a message** go where they go in an array. -/
theorem run_i2cWriteBytewise (chip : DmI2cChip)
    (hshape : b.shape (bus, chip.chip_addr.setWidth 8) = some h)
    (ha : chip.Addresses h) (offset : BitVec 32) (i : ℕ) (buffer : List Byte) (r : Rack) :
    ∃ m, (i2cWriteBytewise b.controller bus chip offset i buffer).run r =
        (0, Function.update r (bus, chip.chip_addr.setWidth 8) m) ∧
      m.cells = applyWrites (placed (fun k => h.cell offset.toNat (i + k)) buffer)
        (r (bus, chip.chip_addr.setWidth 8)).cells := by
  induction buffer generalizing i r with
  | nil => exact ⟨r (bus, chip.chip_addr.setWidth 8), by rw [Function.update_eq_self]; rfl, rfl⟩
  | cons c buffer ih =>
      have haddr := DmI2cChip.setupOffset_addr ha.mask (offset + BitVec.ofNat 32 i)
      have hbuf := ha.buf_eq (offset + BitVec.ofNat 32 i)
      obtain ⟨m, hrun, hcells⟩ := ih (i + 1) (Function.update r (bus, chip.chip_addr.setWidth 8)
        ((r (bus, chip.chip_addr.setWidth 8)).receive h
          (bigEndian h.addrLen (offset + BitVec.ofNat 32 i).toNat ++ [c])))
      refine ⟨m, ?_, ?_⟩
      · rw [i2cWriteBytewise]
        simp only
        rw [if_neg (not_not.mpr (ha.ret_eq _)), run_state_bind,
          b.run_xfer_write _ [] (h := h) chip.tenBit_not_read (by rw [haddr]; exact hshape)]
        rw [haddr, hbuf]
        refine hrun.trans ?_
        rw [Function.update_idem]
      · rw [hcells, Function.update_self, SerialMemory.cells_receive_address_singleton,
          ha.toNat_add_mod, placed_cons, applyWrites, Nat.add_zero]
        congr 1
        refine placed_congr fun k _ => ?_
        rw [Nat.add_assoc, Nat.add_comm 1 k]

/-- Without a memory there is nothing to write to. -/
theorem run_i2cWriteBytewise_absent (chip : DmI2cChip)
    (hshape : b.shape (bus, chip.chip_addr.setWidth 8) = none)
    (hmask : chip.chip_addr_offset_mask = 0) (offset : BitVec 32) {buffer : List Byte}
    (hbuffer : buffer ≠ []) (r : Rack) :
    ∃ ret, ret ≠ 0 ∧
      (i2cWriteBytewise b.controller bus chip offset 0 buffer).run r = (ret, r) := by
  cases buffer with
  | nil => exact absurd rfl hbuffer
  | cons c buffer =>
      rw [i2cWriteBytewise]
      simp only
      by_cases hret : (i2cSetupOffset chip (offset + BitVec.ofNat 32 0)).1 = 0
      · refine ⟨eremoteio, by decide, ?_⟩
        rw [if_neg (not_not.mpr hret), run_state_bind,
          b.run_xfer_write_absent [] chip.tenBit_not_read
            (by rw [DmI2cChip.setupOffset_addr hmask]; exact hshape)]
        rfl
      · refine ⟨einval, by decide, ?_⟩
        rw [if_pos hret]
        rfl

/-- An offset and a reading behind it. -/
theorem run_xfer_offset_read (hshape : b.shape (bus, chip.chip_addr.setWidth 8) = some h)
    (ha : chip.Addresses h) (offset : BitVec 32) (read : I2cMsg)
    (haddr : read.addr = chip.chip_addr) (hread : read.flags &&& i2cMRd ≠ 0) (r : Rack) :
    ∃ data m, (omapI2cXfer b.controller bus [(i2cSetupOffset chip offset).2, read]).run r =
        ((0, data), Function.update r (bus, chip.chip_addr.setWidth 8) m) ∧
      m.cells = (r (bus, chip.chip_addr.setWidth 8)).cells ∧
      ∀ i, data i = (r (bus, chip.chip_addr.setWidth 8)).cells (h.cell offset.toNat i) := by
  have hmsg := DmI2cChip.setupOffset_addr ha.mask offset
  have hoffset := b.run_xfer_write (i2cSetupOffset chip offset).2 [read] (h := h)
    chip.tenBit_not_read (by rw [hmsg]; exact hshape) r
  rw [hmsg, ha.buf_eq, SerialMemory.receive_address_nil] at hoffset
  rw [hoffset, b.run_xfer_read (h := h) hread (by rw [haddr]; exact hshape), haddr,
    Function.update_self, Function.update_idem]
  refine ⟨_, _, rfl, rfl, fun i => ?_⟩
  show (r (bus, chip.chip_addr.setWidth 8)).cells (h.cell (offset.toNat % h.size) i) = _
  rw [SerialShape.cell, SerialShape.cell, Nat.mod_add_mod]

/-- Bytes that are read one a message are the same as the bytes of one message. -/
theorem run_i2cReadBytewise (hshape : b.shape (bus, chip.chip_addr.setWidth 8) = some h)
    (ha : chip.Addresses h) (offset : BitVec 32) (i len : ℕ) (r : Rack) :
    ∃ bytes m, (i2cReadBytewise b.controller bus chip offset i len).run r =
        ((0, bytes), Function.update r (bus, chip.chip_addr.setWidth 8) m) ∧
      m.cells = (r (bus, chip.chip_addr.setWidth 8)).cells ∧
      ∀ k < len, bytes.getD k 0 =
        (r (bus, chip.chip_addr.setWidth 8)).cells (h.cell offset.toNat (i + k)) := by
  induction len generalizing i r with
  | zero =>
      exact ⟨[], r (bus, chip.chip_addr.setWidth 8), by rw [Function.update_eq_self]; rfl, rfl,
        fun k hk => absurd hk (Nat.not_lt_zero k)⟩
  | succ len ih =>
      have haddr := DmI2cChip.setupOffset_addr ha.mask (offset + BitVec.ofNat 32 i)
      obtain ⟨data, m, hxfer, hm, hdata⟩ := b.run_xfer_offset_read hshape ha
        (offset + BitVec.ofNat 32 i)
        { addr := (i2cSetupOffset chip (offset + BitVec.ofNat 32 i)).2.addr,
          flags := (i2cSetupOffset chip (offset + BitVec.ofNat 32 i)).2.flags ||| i2cMRd,
          len := 1, buf := [] } haddr chip.tenBit_or_read r
      obtain ⟨bytes, m', hrun, hm', hbytes⟩ := ih (i + 1)
        (Function.update r (bus, chip.chip_addr.setWidth 8) m)
      rw [Function.update_self] at hm' hbytes
      refine ⟨data 0 :: bytes, m', ?_, hm'.trans hm, fun k hk => ?_⟩
      · rw [i2cReadBytewise]
        simp only
        rw [if_neg (not_not.mpr (ha.ret_eq _)), run_state_bind, hxfer]
        simp only
        rw [if_neg (not_not.mpr rfl), run_state_bind, hrun, Function.update_idem]
        rfl
      · cases k with
        | zero =>
            refine (hdata 0).trans ?_
            congr 1
            rw [SerialShape.cell, Nat.add_zero, ha.toNat_add_mod, Nat.add_zero]
        | succ k =>
            refine (hbytes k (by omega)).trans ?_
            rw [hm, show i + 1 + k = i + (k + 1) by omega]

/-- **A reading** delivers what the cells hold, whichever way it is made. -/
theorem run_readOnBus (hshape : b.shape (bus, chip.chip_addr.setWidth 8) = some h)
    (ha : chip.Addresses h) (offset : BitVec 32) {len : ℕ} (hlen : 0 < len) (r : Rack) :
    ∃ data m, (readOnBus b.controller bus chip offset len).run r =
        ((0, data), Function.update r (bus, chip.chip_addr.setWidth 8) m) ∧
      m.cells = (r (bus, chip.chip_addr.setWidth 8)).cells ∧
      ∀ i < len, data i =
        (r (bus, chip.chip_addr.setWidth 8)).cells (h.cell offset.toNat i) := by
  rw [readOnBus]
  by_cases hflag : chip.flags &&& dmI2cChipRdAddress ≠ 0
  · obtain ⟨bytes, m, hrun, hm, hbytes⟩ := b.run_i2cReadBytewise hshape ha offset 0 len r
    refine ⟨fun i => bytes.getD i 0, m, ?_, hm, fun i hi => ?_⟩
    · rw [if_pos hflag, run_state_bind, hrun]
      rfl
    · have hbyte := hbytes i hi
      rwa [Nat.zero_add] at hbyte
  · rw [if_neg hflag]
    simp only
    rw [if_pos (ha.ret_eq offset), if_pos (Nat.ne_of_gt hlen)]
    obtain ⟨data, m, hrun, hm, hdata⟩ := b.run_xfer_offset_read hshape ha offset
      { addr := (i2cSetupOffset chip offset).2.addr,
        flags := chip.tenBit ||| i2cMRd, len := len, buf := [] }
      (DmI2cChip.setupOffset_addr ha.mask offset) chip.tenBit_or_read r
    exact ⟨data, m, hrun, hm, fun i _ => hdata i⟩

/-- Without a memory there is nothing to read. -/
theorem run_readOnBus_absent (hshape : b.shape (bus, chip.chip_addr.setWidth 8) = none)
    (hmask : chip.chip_addr_offset_mask = 0) (offset : BitVec 32) {len : ℕ} (hlen : 0 < len)
    (r : Rack) :
    ∃ ret data, ret ≠ 0 ∧
      (readOnBus b.controller bus chip offset len).run r = ((ret, data), r) := by
  have haddr := DmI2cChip.setupOffset_addr hmask
  rw [readOnBus]
  by_cases hflag : chip.flags &&& dmI2cChipRdAddress ≠ 0
  · obtain ⟨n, rfl⟩ : ∃ n, len = n + 1 := ⟨len - 1, by omega⟩
    rw [if_pos hflag, run_state_bind, i2cReadBytewise]
    simp only
    by_cases hret : (i2cSetupOffset chip (offset + BitVec.ofNat 32 0)).1 = 0
    · rw [if_neg (not_not.mpr hret), run_state_bind,
        b.run_xfer_write_absent _ chip.tenBit_not_read (by rw [haddr]; exact hshape)]
      exact ⟨eremoteio, _, by decide, rfl⟩
    · rw [if_pos hret]
      exact ⟨einval, _, by decide, rfl⟩
  · rw [if_neg hflag]
    simp only
    refine ⟨eremoteio, fun _ => 0, by decide, ?_⟩
    by_cases hret : (i2cSetupOffset chip offset).1 = 0
    · rw [if_pos hret]
      exact b.run_xfer_write_absent _ chip.tenBit_not_read (by rw [haddr]; exact hshape) r
    · rw [if_neg hret, if_pos (Nat.ne_of_gt hlen)]
      exact b.run_xfer_read_absent [] chip.tenBit_or_read (by rw [haddr]; exact hshape) r

end Backplane

/-! ## Transfers through the table -/

namespace I2cCore

/-- The device stands for a chip in a tidy table. -/
structure Has (s : I2cCore W) (dev bus : Udevice) (chip : DmI2cChip) : Prop where
  tidy : s.Tidy
  entry : s.chips[dev]? = some (bus, chip)

variable {s : I2cCore W} {dev bus : Udevice} {chip : DmI2cChip} (io : I2cController W)

theorem Has.mask (h : s.Has dev bus chip) : chip.chip_addr_offset_mask = 0 :=
  h.tidy.mask _ (List.mem_map_of_mem (List.mem_of_getElem? h.entry))

theorem Has.modifyChip (h : s.Has dev bus chip) {f : DmI2cChip → DmI2cChip}
    (haddr : ∀ chip, (f chip).chip_addr = chip.chip_addr)
    (hmask : ∀ chip, (f chip).chip_addr_offset_mask = chip.chip_addr_offset_mask) :
    ((modifyChip dev f).run s).2.Has dev bus (f chip) := by
  refine ⟨(grows_modifyChip s dev haddr hmask).tidy h.tidy, ?_⟩
  show (s.chips.modify dev fun c => (c.1, f c.2))[dev]? = _
  rw [List.getElem?_modify_eq, h.entry]
  rfl

/-- Setting the offset length, which fails if it is too large. -/
theorem Has.setOffsetLen (h : s.Has dev bus chip) (offset_len : BitVec 32) :
    ∃ ret chips chip', (uclassI2c io).i2cSetChipOffsetLen dev offset_len s =
        (ret, { s with chips := chips }) ∧
      I2cCore.Has { s with chips := chips } dev bus chip' ∧ chip'.chip_addr = chip.chip_addr ∧
      (offset_len.toNat ≤ 4 → ret = 0 ∧ chip'.offset_len = offset_len) := by
  show ∃ ret chips chip', (i2cSetChipOffsetLen dev offset_len).run s = _ ∧ _
  rw [i2cSetChipOffsetLen]
  by_cases hlen : offset_len > i2cMaxOffsetLen
  · rw [if_pos hlen]
    refine ⟨einval, s.chips, chip, rfl, h, rfl, fun hle => absurd hlen ?_⟩
    exact Nat.not_lt.mpr hle
  · rw [if_neg hlen]
    exact ⟨0, _, _, rfl, h.modifyChip
      (f := fun chip => { chip with offset_len := offset_len }) (fun _ => rfl) fun _ => rfl, rfl,
      fun _ => ⟨rfl, rfl⟩⟩

theorem Has.setWrAddress (h : s.Has dev bus chip) :
    ∃ chips, (uclassI2c io).setWrAddress dev s = { s with chips := chips } ∧
      I2cCore.Has { s with chips := chips } dev bus
        { chip with flags := chip.flags ||| dmI2cChipWrAddress } :=
  ⟨_, rfl, h.modifyChip (f := fun chip => { chip with flags := chip.flags ||| dmI2cChipWrAddress })
    (fun _ => rfl) fun _ => rfl⟩

theorem Has.dmI2cWrite (h : s.Has dev bus chip) (offset : BitVec 32) (buffer : List Byte) :
    (uclassI2c io).dmI2cWrite dev offset buffer s =
      (((writeOnBus io bus chip offset buffer).run s.wires).1,
        { s with wires := ((writeOnBus io bus chip offset buffer).run s.wires).2 }) := by
  show (BoardDiag.dmI2cWrite io dev offset buffer).run s = _
  rw [BoardDiag.dmI2cWrite, run_state_bind, run_state_get]
  simp only [h.entry]
  rfl

theorem Has.dmI2cRead (h : s.Has dev bus chip) (offset : BitVec 32) (len : ℕ) :
    (uclassI2c io).dmI2cRead dev offset len s =
      (((readOnBus io bus chip offset len).run s.wires).1,
        { s with wires := ((readOnBus io bus chip offset len).run s.wires).2 }) := by
  show (BoardDiag.dmI2cRead io dev offset len).run s = _
  rw [BoardDiag.dmI2cRead, run_state_bind, run_state_get]
  simp only [h.entry]
  rfl

end I2cCore

/-- The flag the framework sets before it writes. -/
theorem or_wrAddress (flags : BitVec 32) :
    (flags ||| dmI2cChipWrAddress) &&& dmI2cChipWrAddress ≠ 0 := by
  intro hzero
  have hbit := congrArg (fun w : BitVec 32 => w.getLsbD 2) hzero
  simp [dmI2cChipWrAddress] at hbit

namespace Backplane

variable (b : Backplane)

/-- **A chip is found or bound**, whether it is there or not. -/
theorem run_getChip {s : I2cCore Rack} (hs : s.Tidy) (bus : Udevice)
    (chip_addr offset_len : BitVec 32) :
    ∃ dev chips chip, (uclassI2c b.controller).i2cGetChip bus chip_addr offset_len s =
        ((0, some dev), { s with chips := chips }) ∧
      I2cCore.Has { s with chips := chips } dev bus chip ∧ chip.chip_addr = chip_addr := by
  have hlooked := I2cCore.looked_i2cGetChip b.controller s bus chip_addr offset_len
  obtain ⟨dev, chips, hrun⟩ : ∃ dev chips,
      (i2cGetChip b.controller bus chip_addr offset_len).run s =
        ((0, some dev), { s with chips := chips }) := by
    cases hfind : s.chips.findIdx? (isChipAt bus chip_addr) with
    | some dev => exact ⟨dev, s.chips, run_i2cGetChip_of_some offset_len hfind rfl⟩
    | none =>
        rw [run_i2cGetChip_of_none offset_len hfind, run_i2cBindDriver offset_len rfl rfl]
        exact ⟨_, _, rfl⟩
  rw [hrun] at hlooked
  have htidy := hlooked.grows.tidy hs
  obtain ⟨p, hp, hanswers⟩ := hlooked.getElem?_spots
  obtain ⟨chip, hentry, haddr⟩ := htidy.entry hp hanswers
  exact ⟨dev, chips, chip, hrun, ⟨htidy, hentry⟩, haddr⟩

end Backplane

/-! ## The utilities -/

/-- What the cells of the memories hold. -/
abbrev Arrays := Udevice × Byte → ℕ → Byte

def Rack.arrays (r : Rack) : Arrays := fun k => (r k).cells

theorem Rack.arrays_update (r : Rack) (k : Udevice × Byte) (m : SerialMemory) :
    Rack.arrays (Function.update r k m) = Function.update (Rack.arrays r) k m.cells := by
  funext k'
  by_cases hk : k' = k
  · subst hk
    rw [arrays, Function.update_self, Function.update_self]
  · rw [arrays, Function.update_of_ne hk, Function.update_of_ne hk, arrays]

theorem setWidth_setWidth_chip (chip : Byte) : (chip.setWidth 32).setWidth 8 = chip := by
  apply BitVec.eq_of_toNat_eq
  rw [BitVec.toNat_setWidth, BitVec.toNat_setWidth]
  have hlt := chip.isLt
  omega

/-- The memory behind a bus number and an address. -/
def Backplane.memory (b : Backplane) (bus_num : BitVec 8) (chip : Byte) :
    Option ((Udevice × Byte) × SerialShape) :=
  (b.bus (bus_num.setWidth 32)).bind fun bus =>
    (b.shape (bus, chip)).map fun h => ((bus, chip), h)

namespace Backplane

variable (b : Backplane) {bus_num reg chip : BitVec 8} {len : BitVec 32} {h : SerialShape}
  {k : Udevice × Byte} {s : Fixture (I2cCore Rack)} {bytes : List Byte} {dlen : ℕ}

/-- The drivers the tests are given. -/
abbrev driver : I2cDriver (I2cCore Rack) := (uclassI2c b.controller).toI2cDriver

/-- The bus is there. -/
theorem run_selectBus_found {bus : Udevice} (hbus : b.bus (bus_num.setWidth 32) = some bus)
    (s : Fixture (I2cCore Rack)) :
    (selectBus b.driver bus_num).run s = .ok (some bus) { s with i2cCurBus := some bus } := by
  have hfound : b.driver.uclassGetDeviceBySeq (bus_num.setWidth 32) s.dev =
      ((0, some bus), s.dev) := by
    show (onWires (b.controller.uclassGetDeviceBySeq (bus_num.setWidth 32))).run s.dev = _
    rw [run_onWires]
    simp only [controller, hbus]
    rfl
  exact run_selectBus hfound

/-- The bus is not there. -/
theorem run_selectBus_missing (hbus : b.bus (bus_num.setWidth 32) = none)
    (s : Fixture (I2cCore Rack)) :
    ∃ s', (selectBus b.driver bus_num).run s = .ok none s' ∧ s'.dev = s.dev := by
  have hnone : b.driver.uclassGetDeviceBySeq (bus_num.setWidth 32) s.dev =
      ((enodev, none), s.dev) := by
    show (onWires (b.controller.uclassGetDeviceBySeq (bus_num.setWidth 32))).run s.dev = _
    rw [run_onWires]
    simp only [controller, hbus]
    rfl
  exact ⟨_, run_selectBus_of_error hnone (by decide), rfl⟩

/-- Finding a chip and setting its offset length. -/
theorem run_prepare (hs : s.dev.Tidy) (bus : Udevice) (chip : Byte) (len : BitVec 32) :
    ∃ dev d₂ ret chips entry,
      b.driver.i2cGetChip bus (chip.setWidth 32) len s.dev = ((0, some dev), d₂) ∧
      (setChipOffsetLen b.driver 0 (some dev) len).run
        { s with i2cCurBus := some bus, dev := d₂ } =
        .ok ret { s with i2cCurBus := some bus, dev := { s.dev with chips := chips } } ∧
      I2cCore.Has { s.dev with chips := chips } dev bus entry ∧
      entry.chip_addr = chip.setWidth 32 ∧
      (len.toNat ≤ 4 → ret = 0 ∧ entry.offset_len = len) := by
  obtain ⟨dev, chips, found, hget, hhas, haddr⟩ := b.run_getChip hs bus (chip.setWidth 32) len
  obtain ⟨ret, chips', entry, hset, hhas', haddr', hlen⟩ :=
    hhas.setOffsetLen b.controller len
  refine ⟨dev, _, ret, chips', entry, hget, ?_, hhas', haddr'.trans haddr, hlen⟩
  rw [setChipOffsetLen, if_neg (not_not.mpr rfl), deref_some, pure_bind, run_drive]
  exact congrArg (fun a => EStateM.Result.ok a.1
    { s with i2cCurBus := some bus, dev := a.2 }) hset

theorem memory_eq_some (hmem : b.memory bus_num chip = some (k, h)) :
    ∃ bus, b.bus (bus_num.setWidth 32) = some bus ∧ b.shape (bus, chip) = some h ∧
      k = (bus, chip) := by
  rw [memory, Option.bind_eq_some_iff] at hmem
  obtain ⟨bus, hbus, hmap⟩ := hmem
  rw [Option.map_eq_some_iff] at hmap
  obtain ⟨h', hshape, heq⟩ := hmap
  obtain ⟨rfl, rfl⟩ := Prod.mk.inj heq
  exact ⟨bus, hbus, hshape, rfl⟩

/-- A memory, and a length for its addresses that is its own. -/
structure Reaches (bus_num : BitVec 8) (chip : Byte) (len : BitVec 32) (k : Udevice × Byte)
    (h : SerialShape) : Prop where
  memory : b.memory bus_num chip = some (k, h)
  offset_len : len.toNat = h.addrLen
  pos : 0 < h.addrLen
  le : h.addrLen ≤ 4

/-- **A write to a memory** passes, and stores the bytes as an array would. -/
theorem run_write (hr : b.Reaches bus_num chip len k h) (hs : s.dev.Tidy) (reg : BitVec 8)
    (bytes : List Byte) :
    ∃ s', (eBBTFUtilsI2cWrite b.driver bus_num (chip.setWidth 32) reg len bytes).run s =
        .ok .pass s' ∧ s'.dev.Tidy ∧ s'.eeprom = s.eeprom ∧
      Rack.arrays s'.dev.wires = Function.update (Rack.arrays s.dev.wires) k
        (applyWrites (placed (h.cell reg.toNat) bytes) (Rack.arrays s.dev.wires k)) := by
  obtain ⟨bus, hbus, hshape, rfl⟩ := b.memory_eq_some hr.memory
  obtain ⟨dev, d₂, ret, chips, entry, hget, hset, hhas, haddr, hlen⟩ :=
    b.run_prepare hs bus chip len
  obtain ⟨-, hentry⟩ := hlen (by rw [hr.offset_len]; exact hr.le)
  obtain ⟨chips', hflag, hhas'⟩ := hhas.setWrAddress b.controller
  have ha : DmI2cChip.Addresses { entry with flags := entry.flags ||| dmI2cChipWrAddress } h :=
    ⟨by rw [← hr.offset_len, ← hentry], hr.pos, hr.le, hhas'.mask⟩
  have hchip : entry.chip_addr.setWidth 8 = chip := by rw [haddr, setWidth_setWidth_chip]
  obtain ⟨m, hrun, hcells⟩ := b.run_i2cWriteBytewise
    { entry with flags := entry.flags ||| dmI2cChipWrAddress }
    (by rw [hchip]; exact hshape) ha (reg.setWidth 32) 0 bytes s.dev.wires
  simp only [hchip, Nat.zero_add, toNat_setWidth_reg] at hrun hcells
  have hwrite : b.driver.dmI2cWrite dev (reg.setWidth 32) bytes
      (b.driver.setWrAddress dev { s.dev with chips := chips }) =
      (0, ⟨chips', Function.update s.dev.wires (bus, chip) m⟩) := by
    rw [hflag, hhas'.dmI2cWrite, writeOnBus, if_pos (or_wrAddress _), hrun]
  obtain ⟨s', hs', hdev, heeprom⟩ := run_eBBTFUtilsI2cWrite (b.run_selectBus_found hbus s) hget hset
    hwrite
  refine ⟨s', hs', ?_, heeprom, ?_⟩
  · rw [hdev]
    exact ⟨hhas'.tidy.nodup, hhas'.tidy.mask⟩
  · rw [hdev, Rack.arrays_update, hcells]
    rfl

/-- **A reading from a memory** passes, and delivers what an array would. -/
theorem run_read (hr : b.Reaches bus_num chip len k h) (hs : s.dev.Tidy) (reg : BitVec 8)
    (hdlen : 0 < dlen) :
    ∃ data s', (eBBTFUtilsI2cRead b.driver bus_num (chip.setWidth 32) reg len dlen).run s =
        .ok (.pass, some data) s' ∧ s'.dev.Tidy ∧ s'.eeprom = s.eeprom ∧
      Rack.arrays s'.dev.wires = Rack.arrays s.dev.wires ∧
      ∀ i < dlen, data i = Rack.arrays s.dev.wires k (h.cell reg.toNat i) := by
  obtain ⟨bus, hbus, hshape, rfl⟩ := b.memory_eq_some hr.memory
  obtain ⟨dev, d₂, ret, chips, entry, hget, hset, hhas, haddr, hlen⟩ :=
    b.run_prepare hs bus chip len
  obtain ⟨rfl, hentry⟩ := hlen (by rw [hr.offset_len]; exact hr.le)
  have ha : entry.Addresses h := ⟨by rw [← hr.offset_len, ← hentry], hr.pos, hr.le, hhas.mask⟩
  have hchip : entry.chip_addr.setWidth 8 = chip := by rw [haddr, setWidth_setWidth_chip]
  obtain ⟨data, m, hrun, hcells, hdata⟩ := b.run_readOnBus (by rw [hchip]; exact hshape) ha
    (reg.setWidth 32) hdlen s.dev.wires
  simp only [hchip, toNat_setWidth_reg] at hrun hcells hdata
  have hread := hhas.dmI2cRead b.controller (reg.setWidth 32) dlen
  rw [hrun] at hread
  obtain ⟨s', hs', hdev, heeprom⟩ := run_eBBTFUtilsI2cRead (b.run_selectBus_found hbus s) hget hset
    hread
  refine ⟨data, s', hs', ?_, heeprom, ?_, hdata⟩
  · rw [hdev]
    exact ⟨hhas.tidy.nodup, hhas.tidy.mask⟩
  · rw [hdev, Rack.arrays_update, hcells]
    exact Function.update_eq_self _ _

/-! ## Nothing to go to -/

/-- A write to where there is no memory fails, and changes none. -/
theorem run_write_absent (hmem : b.memory bus_num chip = none) (hs : s.dev.Tidy) (reg : BitVec 8)
    (len : BitVec 32) (hbytes : bytes ≠ []) :
    ∃ s', (eBBTFUtilsI2cWrite b.driver bus_num (chip.setWidth 32) reg len bytes).run s =
        .ok .fail s' ∧ s'.dev.Tidy ∧ s'.dev.wires = s.dev.wires := by
  cases hbus : b.bus (bus_num.setWidth 32) with
  | none =>
      obtain ⟨s', hselect, hdev⟩ := b.run_selectBus_missing hbus s
      exact ⟨s', run_eBBTFUtilsI2cWrite_of_no_bus hselect, hdev ▸ hs, by rw [hdev]⟩
  | some bus =>
      have hshape : b.shape (bus, chip) = none := by
        rw [memory, hbus, Option.bind_some, Option.map_eq_none_iff] at hmem
        exact hmem
      obtain ⟨dev, d₂, ret, chips, entry, hget, hset, hhas, haddr, -⟩ :=
        b.run_prepare hs bus chip len
      obtain ⟨chips', hflag, hhas'⟩ := hhas.setWrAddress b.controller
      have hchip : entry.chip_addr.setWidth 8 = chip := by rw [haddr, setWidth_setWidth_chip]
      obtain ⟨ret', hret', hrun⟩ := b.run_i2cWriteBytewise_absent
        { entry with flags := entry.flags ||| dmI2cChipWrAddress }
        (by rw [hchip]; exact hshape) hhas'.mask (reg.setWidth 32) hbytes s.dev.wires
      have hwrite : b.driver.dmI2cWrite dev (reg.setWidth 32) bytes
          (b.driver.setWrAddress dev { s.dev with chips := chips }) =
          (ret', ⟨chips', s.dev.wires⟩) := by
        rw [hflag, hhas'.dmI2cWrite, writeOnBus, if_pos (or_wrAddress _), hrun]
      obtain ⟨s', hs', hdev, -⟩ := run_eBBTFUtilsI2cWrite (b.run_selectBus_found hbus s) hget hset
        hwrite
      rw [if_neg hret'] at hs'
      exact ⟨s', hs', hdev ▸ hhas'.tidy, by rw [hdev]⟩

/-- So does a reading. -/
theorem run_read_absent (hmem : b.memory bus_num chip = none) (hs : s.dev.Tidy) (reg : BitVec 8)
    (len : BitVec 32) (hdlen : 0 < dlen) :
    ∃ data s', (eBBTFUtilsI2cRead b.driver bus_num (chip.setWidth 32) reg len dlen).run s =
        .ok (.fail, data) s' ∧ s'.dev.Tidy ∧ s'.dev.wires = s.dev.wires := by
  cases hbus : b.bus (bus_num.setWidth 32) with
  | none =>
      obtain ⟨s', hselect, hdev⟩ := b.run_selectBus_missing hbus s
      exact ⟨none, s', run_eBBTFUtilsI2cRead_of_no_bus hselect, hdev ▸ hs, by rw [hdev]⟩
  | some bus =>
      have hshape : b.shape (bus, chip) = none := by
        rw [memory, hbus, Option.bind_some, Option.map_eq_none_iff] at hmem
        exact hmem
      obtain ⟨dev, d₂, ret, chips, entry, hget, hset, hhas, haddr, -⟩ :=
        b.run_prepare hs bus chip len
      have hchip : entry.chip_addr.setWidth 8 = chip := by rw [haddr, setWidth_setWidth_chip]
      by_cases hret : ret = 0
      · subst hret
        obtain ⟨ret', data, hret', hrun⟩ := b.run_readOnBus_absent (by rw [hchip]; exact hshape)
          hhas.mask (reg.setWidth 32) hdlen s.dev.wires
        have hread := hhas.dmI2cRead b.controller (reg.setWidth 32) dlen
        rw [hrun] at hread
        obtain ⟨s', hs', hdev, -⟩ := run_eBBTFUtilsI2cRead (b.run_selectBus_found hbus s) hget hset
          hread
        rw [if_neg hret'] at hs'
        exact ⟨some data, s', hs', hdev ▸ hhas.tidy, by rw [hdev]⟩
      · have hselect := b.run_selectBus_found hbus s
        obtain ⟨s', hs', hdev⟩ :
            ∃ s', (eBBTFUtilsI2cRead b.driver bus_num (chip.setWidth 32) reg len dlen).run s =
              .ok (.fail, none) s' ∧ s'.dev = { s.dev with chips := chips } :=
          run_eBBTFUtilsI2cRead_of_error hselect hget hset hret
        exact ⟨none, s', hs', hdev ▸ hhas.tidy, by rw [hdev]⟩

end Backplane

/-! ## Any sequence of transfers -/

/-- A transfer a test may ask for.  Its length is an `uint8_t`. -/
inductive Transfer where
  | write (bus_num chip reg : BitVec 8) (offset_len : BitVec 32) (bytes : List Byte)
      (hbytes : bytes.length < 2 ^ 8)
  | read (bus_num chip reg : BitVec 8) (offset_len : BitVec 32) (dlen : BitVec 8)

namespace Transfer

theorem length_singleton_lt (byte : Byte) : [byte].length < 2 ^ 8 := by
  rw [List.length_singleton]
  decide

/-- The transfer, made by the utilities of the framework: the status, and the bytes a reading
that passes has delivered. -/
def make (io : I2cDriver D) : Transfer → TestProg D (TestResultTypes × List Byte)
  | write bus_num chip reg offset_len bytes _ => do
      let status ← eBBTFUtilsI2cWrite io bus_num (chip.setWidth 32) reg offset_len bytes
      return (status, [])
  | read bus_num chip reg offset_len dlen => do
      let (status, data) ←
        eBBTFUtilsI2cRead io bus_num (chip.setWidth 32) reg offset_len dlen.toNat
      match status, data with
      | .pass, some data => return (.pass, (List.range dlen.toNat).map data)
      | _, _ => return (status, [])

/-- **What the transfer is for**: a stretch of an array is assigned, or looked up.  Where there
is no array, it fails. -/
def onArrays (b : Backplane) : Transfer → Arrays → (TestResultTypes × List Byte) × Arrays
  | write bus_num chip reg _ bytes _, arrays =>
      match b.memory bus_num chip with
      | none => ((.fail, []), arrays)
      | some (k, h) => ((.pass, []), Function.update arrays k
          (applyWrites (placed (h.cell reg.toNat) bytes) (arrays k)))
  | read bus_num chip reg _ dlen, arrays =>
      match b.memory bus_num chip with
      | none => ((.fail, []), arrays)
      | some (k, h) =>
          ((.pass, (List.range dlen.toNat).map fun i => arrays k (h.cell reg.toNat i)), arrays)

/-- Where there is a memory, the caller knows how long its addresses are; and something is
transferred. -/
def Suits (b : Backplane) : Transfer → Prop
  | write bus_num chip _ offset_len bytes _ => bytes ≠ [] ∧
      ∀ k h, b.memory bus_num chip = some (k, h) → b.Reaches bus_num chip offset_len k h
  | read bus_num chip _ offset_len dlen => 0 < dlen.toNat ∧
      ∀ k h, b.memory bus_num chip = some (k, h) → b.Reaches bus_num chip offset_len k h

/-- **One transfer.** -/
theorem run_make {b : Backplane} {t : Transfer} (ht : t.Suits b) {s : Fixture (I2cCore Rack)}
    (hs : s.dev.Tidy) :
    ∃ s', (t.make b.driver).run s = .ok (t.onArrays b (Rack.arrays s.dev.wires)).1 s' ∧
      s'.dev.Tidy ∧
      Rack.arrays s'.dev.wires = (t.onArrays b (Rack.arrays s.dev.wires)).2 := by
  cases t with
  | write bus_num chip reg offset_len bytes hshort =>
      obtain ⟨hbytes, hreach⟩ := ht
      rw [make, onArrays, EStateM.run_bind]
      cases hmem : b.memory bus_num chip with
      | none =>
          obtain ⟨s', hrun, htidy, hwires⟩ := b.run_write_absent hmem hs reg offset_len hbytes
          rw [hrun]
          exact ⟨s', rfl, htidy, by rw [hwires]⟩
      | some kh =>
          obtain ⟨k, h⟩ := kh
          obtain ⟨s', hrun, htidy, -, harrays⟩ := b.run_write (hreach k h hmem) hs reg bytes
          rw [hrun]
          exact ⟨s', rfl, htidy, harrays⟩
  | read bus_num chip reg offset_len dlen =>
      obtain ⟨hdlen, hreach⟩ := ht
      rw [make, onArrays, EStateM.run_bind]
      cases hmem : b.memory bus_num chip with
      | none =>
          obtain ⟨data, s', hrun, htidy, hwires⟩ := b.run_read_absent hmem hs reg offset_len hdlen
          rw [hrun]
          exact ⟨s', rfl, htidy, by rw [hwires]⟩
      | some kh =>
          obtain ⟨k, h⟩ := kh
          obtain ⟨data, s', hrun, htidy, -, harrays, hdata⟩ := b.run_read (hreach k h hmem) hs reg
            hdlen
          have hbytes : (List.range dlen.toNat).map data = (List.range dlen.toNat).map fun i =>
              Rack.arrays s.dev.wires k (h.cell reg.toNat i) :=
            List.map_congr_left fun i hi => hdata i (List.mem_range.mp hi)
          rw [hrun]
          simp only
          rw [← hbytes]
          exact ⟨s', rfl, htidy, harrays⟩

end Transfer

/-- An AT24C256. -/
def at24c256 : SerialShape where
  addrLen := 2
  pageLen := 64
  pages := 512
  pageLen_pos := by decide
  pages_pos := by decide
  addressed := ⟨2, rfl⟩

/-- One of them, on the second bus. -/
def eepromBackplane : Backplane where
  bus seq := if seq = 1 then some 1 else none
  shape k := if k = (1, 0x50) then some at24c256 else none

theorem eepromBackplane_reaches :
    eepromBackplane.Reaches 1 0x50 2 (1, 0x50) at24c256 where
  memory := rfl
  offset_len := rfl
  pos := by decide
  le := by decide

namespace Backplane

variable (b : Backplane) {bus dev : Udevice} {chip : DmI2cChip} {h : SerialShape}

/-- Bytes that are written in one message stay in the page they begin in. -/
theorem run_writeOnBus_plain (hshape : b.shape (bus, chip.chip_addr.setWidth 8) = some h)
    (ha : chip.Addresses h) (hflag : chip.flags &&& dmI2cChipWrAddress = 0) (offset : BitVec 32)
    (bytes : List Byte) (r : Rack) :
    ∃ m, (writeOnBus b.controller bus chip offset bytes).run r =
        (0, Function.update r (bus, chip.chip_addr.setWidth 8) m) ∧
      m.cells = applyWrites (placed (h.pageCell (offset.toNat % h.size)) bytes)
        (r (bus, chip.chip_addr.setWidth 8)).cells := by
  let sent : I2cMsg := { (i2cSetupOffset chip offset).2 with
    len := (i2cSetupOffset chip offset).2.len + bytes.length
    buf := (i2cSetupOffset chip offset).2.buf ++ bytes }
  have haddr : sent.addr = chip.chip_addr := DmI2cChip.setupOffset_addr ha.mask offset
  have hbuf : sent.buf = bigEndian h.addrLen offset.toNat ++ bytes :=
    congrArg (· ++ bytes) (ha.buf_eq offset)
  have hshape' : b.shape (bus, sent.addr.setWidth 8) = some h := by rw [haddr, hshape]
  have hxfer := b.run_xfer_write sent [] chip.tenBit_not_read hshape' r
  rw [haddr, hbuf] at hxfer
  have hsmall : (omapI2cXfer b.controller bus [sent] >>= fun x => pure x.1 :
      StateM Rack (BitVec 32)).run r = (0, Function.update r (bus, chip.chip_addr.setWidth 8)
        ((r (bus, chip.chip_addr.setWidth 8)).receive h
          (bigEndian h.addrLen offset.toNat ++ bytes))) := by
    rw [run_state_bind, hxfer]
    rfl
  refine ⟨(r (bus, chip.chip_addr.setWidth 8)).receive h
    (bigEndian h.addrLen offset.toNat ++ bytes), ?_, by rw [SerialMemory.receive_address]⟩
  rw [writeOnBus, if_neg (not_not.mpr hflag)]
  -- `malloc` finds room, so a large message is sent like a small one
  by_cases hlarge : 64 ≤ bytes.length
  · simp only [if_pos hlarge]
    exact hsmall
  · simp only [if_neg hlarge]
    exact hsmall

/-- **When one message will do.**  Without `DM_I2C_CHIP_WR_ADDRESS`, a write of `n` bytes is
the assignment it looks like, whatever the memories hold and whatever is written, exactly if
the bytes stay inside a page of the memory, or the memory has only one. -/
theorem dmI2cWrite_plain_iff {s : I2cCore Rack} (hs : s.Has dev bus chip)
    (hshape : b.shape (bus, chip.chip_addr.setWidth 8) = some h) (ha : chip.Addresses h)
    (hflag : chip.flags &&& dmI2cChipWrAddress = 0) (offset : BitVec 32) (n : ℕ) :
    (∀ (r : Rack) (bytes : List Byte), bytes.length = n →
      Rack.arrays (b.driver.dmI2cWrite dev offset bytes { s with wires := r }).2.wires =
        Function.update (Rack.arrays r) (bus, chip.chip_addr.setWidth 8)
          (applyWrites (placed (h.cell offset.toNat) bytes)
            (Rack.arrays r (bus, chip.chip_addr.setWidth 8)))) ↔
      h.pages = 1 ∨ offset.toNat % h.pageLen + n ≤ h.pageLen := by
  have hwrite : ∀ (r : Rack) (bytes : List Byte),
      Rack.arrays (b.driver.dmI2cWrite dev offset bytes { s with wires := r }).2.wires =
        Function.update (Rack.arrays r) (bus, chip.chip_addr.setWidth 8)
          (applyWrites (placed (h.pageCell (offset.toNat % h.size)) bytes)
            (Rack.arrays r (bus, chip.chip_addr.setWidth 8))) := by
    intro r bytes
    have hs' : I2cCore.Has { s with wires := r } dev bus chip :=
      ⟨⟨hs.tidy.nodup, hs.tidy.mask⟩, hs.entry⟩
    obtain ⟨m, hrun, hcells⟩ := b.run_writeOnBus_plain hshape ha hflag offset bytes r
    rw [hs'.dmI2cWrite, hrun, Rack.arrays_update, hcells]
    rfl
  have hcell : h.cell (offset.toNat % h.size) = h.cell offset.toNat := by
    funext i
    rw [SerialShape.cell, SerialShape.cell, Nat.mod_add_mod]
  have hpage : offset.toNat % h.size % h.pageLen = offset.toNat % h.pageLen :=
    Nat.mod_mod_of_dvd _ (Nat.dvd_mul_left h.pageLen h.pages)
  have hwrapped := wrapped_eq_iff h (Nat.mod_lt offset.toNat h.size_pos) n
  rw [hpage, hcell] at hwrapped
  rw [← hwrapped]
  constructor
  · intro hall cells data hlen
    have hsame := hall (fun _ => ⟨cells, 0⟩) data hlen
    rw [hwrite] at hsame
    have hat := congrFun hsame (bus, chip.chip_addr.setWidth 8)
    rwa [Function.update_self, Function.update_self] at hat
  · intro hall r bytes hlen
    rw [hwrite, hall _ bytes hlen]

/-- Two bytes across the end of a page. -/
theorem dmI2cWrite_plain_two :
    ¬ ∀ (r : Rack) (bytes : List Byte), bytes.length = 2 →
      Rack.arrays (eepromBackplane.driver.dmI2cWrite 0 63 bytes
          ⟨[(1, ⟨0x50, 2, 0, 0⟩)], r⟩).2.wires =
        Function.update (Rack.arrays r) (1, 0x50)
          (applyWrites (placed (at24c256.cell 63) bytes) (Rack.arrays r (1, 0x50))) := by
  have htidy : I2cCore.Has (⟨[(1, ⟨0x50, 2, 0, 0⟩)], fun _ => ⟨fun _ => 0, 0⟩⟩ : I2cCore Rack)
      0 1 ⟨0x50, 2, 0, 0⟩ := by
    refine ⟨⟨List.nodup_singleton _, fun p hp => ?_⟩, rfl⟩
    obtain rfl := List.mem_singleton.mp hp
    rfl
  intro hall
  have hfits := (eepromBackplane.dmI2cWrite_plain_iff htidy (h := at24c256) rfl
    ⟨rfl, by decide, by decide, rfl⟩ rfl 63 2).mp hall
  exact absurd hfits (by decide)

end Backplane

end BoardDiag
