import BoardDiag.Machine.Recorded
import BoardDiag.Suite.I2cUtils

/-!
# Transfers over I2C

`eBBTF_utils_i2c_write` and `eBBTF_utils_i2c_read` make four calls to U-Boot: they
look up the bus, find the chip on it, set the length of its addresses and transfer.
Each call needs what the one before it has provided, and each has a return code.

To say when a transfer is made, the calls have to be visible, so the two functions
are run on a driver that records them.  That the record is kept makes no difference: what
a driver does to a part of the board can be seen apart from the rest (`I2cDriver.Through`),
and the board is a part of the board with its record.  A run is *dependable* if it returns `PASS`
exactly when the four calls were made and all returned zero, and makes no transfer
unless the first three did.

`i2c_transfer_dependable_iff` says when each of the two functions is.  They go wrong
in different ways.

* Both cut the code of the lookup down to eight bits.  A code that is a multiple of
  256 looks like success, and the call goes on with the bus an earlier one has left.
* `eBBTF_utils_i2c_write` loses the codes of the second and the third call, where
  `eBBTF_utils_i2c_read` passes them on: it writes to the chip although its addresses
  have the wrong length, and through a pointer nothing has assigned.
-/

namespace BoardDiag

open Machine

variable {D E α : Type}

/-! ## Programs on a part of a board -/

/-- The fixture with a part of its board. -/
def Fixture.part (view : D → E) (s : Fixture D) : Fixture E :=
  ⟨s.curTestId, s.reports, s.i2cCurBus, s.eeprom, s.nor, view s.dev⟩

/-- What the first driver does to a part of the board is what the second does. -/
structure I2cDriver.Through (view : D → E) (io : I2cDriver D) (io' : I2cDriver E) : Prop where
  writel : ∀ value addr d, view (io.writel value addr d) = io'.writel value addr (view d)
  lookup : ∀ seq d, Prod.map id view (io.uclassGetDeviceBySeq seq d) =
    io'.uclassGetDeviceBySeq seq (view d)
  getChip : ∀ bus chip_addr offset_len d,
    Prod.map id view (io.i2cGetChip bus chip_addr offset_len d) =
      io'.i2cGetChip bus chip_addr offset_len (view d)
  offsetLen : ∀ dev offset_len d, Prod.map id view (io.i2cSetChipOffsetLen dev offset_len d) =
    io'.i2cSetChipOffsetLen dev offset_len (view d)
  wrAddress : ∀ dev d, view (io.setWrAddress dev d) = io'.setWrAddress dev (view d)
  write : ∀ dev offset buffer d, Prod.map id view (io.dmI2cWrite dev offset buffer d) =
    io'.dmI2cWrite dev offset buffer (view d)
  read : ∀ dev offset len d, Prod.map id view (io.dmI2cRead dev offset len d) =
    io'.dmI2cRead dev offset len (view d)

section Through

variable {view : D → E}

theorem through_drive {f : D → α × D} {g : E → α × E}
    (h : ∀ d, Prod.map id view (f d) = g (view d)) :
    Through (Fixture.part view) (drive f) (drive g) := by
  intro s
  rw [run_drive, run_drive]
  show _ = EStateM.Result.ok _ (Fixture.part view _)
  rw [show (s.part view).dev = view s.dev from rfl, ← h]
  rfl

theorem through_deref (p : Option α) :
    Through (Fixture.part view) (deref p : TestProg D α) (deref p) := by
  cases p with
  | none => exact .throw _
  | some a => exact .pure a

/-- An event and a result. -/
theorem through_reported (testId : BitVec 32) (eventType : DiagErrEventIDTypes)
    (address : List (BitVec 32)) (a : α) :
    Through (Fixture.part view)
      (do
        reportEvent testId eventType address
        return a : TestProg D α)
      (do
        reportEvent testId eventType address
        return a) :=
  .bind (.modify fun _ => rfl) fun _ => .pure a

/-- A test without a configuration. -/
theorem through_unconfigured (file : SourceFile) (line : ℕ) :
    Through (Fixture.part view)
      (do
        testAssert file line
        return .aborted : TestProg D TestResultTypes)
      (do
        testAssert file line
        return .aborted) :=
  .bind (.modify fun _ => rfl) fun _ => .pure _

variable {io : I2cDriver D} {io' : I2cDriver E} (h : io.Through view io')

include h

theorem through_selectBus (bus_num : BitVec 8) :
    Through (Fixture.part view) (selectBus io bus_num) (selectBus io' bus_num) := by
  refine .bind (.bind (through_drive fun d => h.lookup _ d) fun _ => ?_) fun _ => ?_
  · exact .ite (.pure _) (.bind (.modify fun _ => rfl) fun _ => .pure _)
  · refine .ite (through_reported _ _ _ _) (.bind (.bind_get fun s => ?_) fun _ => ?_)
    · rw [show (s.part view).i2cCurBus = s.i2cCurBus from rfl]
      cases s.i2cCurBus with
      | none => exact .pure _
      | some bus => exact .pure _
    · exact .ite (.pure _) (.pure _)

theorem through_setChipOffsetLen (ret : BitVec 32) (dev : Option Udevice) (len : BitVec 32) :
    Through (Fixture.part view) (setChipOffsetLen io ret dev len)
      (setChipOffsetLen io' ret dev len) :=
  .ite (.pure _) (.bind (through_deref _) fun dev => through_drive fun d => h.offsetLen dev len d)

theorem through_i2cWrite (bus_num : BitVec 8) (chip_address : BitVec 32) (reg : BitVec 8)
    (len : BitVec 32) (bytes : List Byte) :
    Through (Fixture.part view) (eBBTFUtilsI2cWrite io bus_num chip_address reg len bytes)
      (eBBTFUtilsI2cWrite io' bus_num chip_address reg len bytes) := by
  refine .bind (through_selectBus h bus_num) fun bus => ?_
  cases bus with
  | none => exact .pure _
  | some bus =>
      refine .bind (through_drive fun d => h.getChip bus _ _ d) fun _ => ?_
      refine .bind (through_setChipOffsetLen h _ _ _) fun _ => ?_
      refine .bind (through_deref _) fun dev => ?_
      refine .bind (through_drive fun d => congrArg (Prod.mk ()) (h.wrAddress dev d)) fun _ => ?_
      refine .bind (through_drive fun d => h.write dev _ _ d) fun _ => ?_
      exact .ite (through_reported _ _ _ _) (.pure _)

theorem through_i2cRead (bus_num : BitVec 8) (chip_address : BitVec 32) (reg : BitVec 8)
    (len : BitVec 32) (dlen : ℕ) :
    Through (Fixture.part view) (eBBTFUtilsI2cRead io bus_num chip_address reg len dlen)
      (eBBTFUtilsI2cRead io' bus_num chip_address reg len dlen) := by
  refine .bind (through_selectBus h bus_num) fun bus => ?_
  cases bus with
  | none => exact .pure _
  | some bus =>
      refine .bind (through_drive fun d => h.getChip bus _ _ d) fun _ => ?_
      refine .bind (through_setChipOffsetLen h _ _ _) fun _ => ?_
      refine .bind (.ite (.pure _) (.bind (through_deref _) fun dev =>
        .bind (through_drive fun d => h.read dev _ _ d) fun _ => .pure _)) fun _ => ?_
      exact .ite (through_reported _ _ _ _) (.pure _)

end Through

/-! ## The recorded driver -/

/-- A transfer: `dm_i2c_write` with what it writes, or `dm_i2c_read` with how much. -/
inductive I2cTransfer where
  | dmI2cWrite (offset : BitVec 32) (buffer : List Byte)
  | dmI2cRead (offset : BitVec 32) (len : ℕ)

/-- A call of the I2C drivers, with what it answers. -/
inductive I2cCall where
  | uclassGetDeviceBySeq (seq ret : BitVec 32) (bus : Option Udevice)
  | i2cGetChip (bus : Udevice) (chip_addr offset_len ret : BitVec 32) (dev : Option Udevice)
  | i2cSetChipOffsetLen (dev : Udevice) (offset_len ret : BitVec 32)
  | transfer (dev : Udevice) (t : I2cTransfer) (ret : BitVec 32)

/-- The drivers, with a record of the calls. -/
def I2cDriver.recorded (io : I2cDriver D) : I2cDriver (Recorded D I2cCall) where
  writel value addr := quietly (io.writel value addr)
  uclassGetDeviceBySeq seq :=
    record (io.uclassGetDeviceBySeq seq) fun a => .uclassGetDeviceBySeq seq a.1 a.2
  i2cGetChip bus chip_addr offset_len :=
    record (io.i2cGetChip bus chip_addr offset_len) fun a =>
      .i2cGetChip bus chip_addr offset_len a.1 a.2
  i2cSetChipOffsetLen dev offset_len :=
    record (io.i2cSetChipOffsetLen dev offset_len) fun ret =>
      .i2cSetChipOffsetLen dev offset_len ret
  setWrAddress dev := quietly (io.setWrAddress dev)
  dmI2cWrite dev offset buffer :=
    record (io.dmI2cWrite dev offset buffer) fun ret =>
      .transfer dev (.dmI2cWrite offset buffer) ret
  dmI2cRead dev offset len :=
    record (io.dmI2cRead dev offset len) fun a => .transfer dev (.dmI2cRead offset len) a.1

/-- **Nothing depends on the record being kept.** -/
theorem I2cDriver.through_recorded (io : I2cDriver D) : io.recorded.Through Recorded.dev io :=
  ⟨fun _ _ _ => rfl, fun _ _ => rfl, fun _ _ _ _ => rfl, fun _ _ _ => rfl, fun _ _ => rfl,
    fun _ _ _ _ => rfl, fun _ _ _ _ => rfl⟩

section Recorded

variable {io : I2cDriver D} {bus dev : Udevice} {offset offset_len ret : BitVec 32}
  {d : Recorded D I2cCall} {d' : D}

theorem I2cDriver.recorded_uclassGetDeviceBySeq {seq : BitVec 32} {found : Option Udevice}
    (h : io.uclassGetDeviceBySeq seq d.dev = ((ret, found), d')) :
    io.recorded.uclassGetDeviceBySeq seq d =
      ((ret, found), ⟨d', d.log ++ [.uclassGetDeviceBySeq seq ret found]⟩) := by
  simp only [I2cDriver.recorded, record, h]

theorem I2cDriver.recorded_i2cGetChip {chip_addr : BitVec 32} {found : Option Udevice}
    (h : io.i2cGetChip bus chip_addr offset_len d.dev = ((ret, found), d')) :
    io.recorded.i2cGetChip bus chip_addr offset_len d =
      ((ret, found), ⟨d', d.log ++ [.i2cGetChip bus chip_addr offset_len ret found]⟩) := by
  simp only [I2cDriver.recorded, record, h]

theorem I2cDriver.recorded_i2cSetChipOffsetLen
    (h : io.i2cSetChipOffsetLen dev offset_len d.dev = (ret, d')) :
    io.recorded.i2cSetChipOffsetLen dev offset_len d =
      (ret, ⟨d', d.log ++ [.i2cSetChipOffsetLen dev offset_len ret]⟩) := by
  simp only [I2cDriver.recorded, record, h]

theorem I2cDriver.recorded_dmI2cWrite {buffer : List Byte}
    (h : io.dmI2cWrite dev offset buffer d.dev = (ret, d')) :
    io.recorded.dmI2cWrite dev offset buffer d =
      (ret, ⟨d', d.log ++ [.transfer dev (.dmI2cWrite offset buffer) ret]⟩) := by
  simp only [I2cDriver.recorded, record, h]

theorem I2cDriver.recorded_dmI2cRead {len : ℕ} {data : ℕ → Byte}
    (h : io.dmI2cRead dev offset len d.dev = ((ret, data), d')) :
    io.recorded.dmI2cRead dev offset len d =
      ((ret, data), ⟨d', d.log ++ [.transfer dev (.dmI2cRead offset len) ret]⟩) := by
  simp only [I2cDriver.recorded, record, h]

end Recorded

/-- The fixture with an empty record. -/
def Fixture.recording {L : Type} (s : Fixture D) : Fixture (Recorded D L) where
  curTestId := s.curTestId
  reports := s.reports
  i2cCurBus := s.i2cCurBus
  eeprom := s.eeprom
  nor := s.nor
  dev := ⟨s.dev, []⟩

/-! ## Dependable transfers -/

/-- The four calls, the first three successful and on the bus and the chip asked for. -/
def i2cCalls (bus_num : BitVec 8) (chip_address addr_offset_len : BitVec 32) (t : I2cTransfer)
    (bus dev : Udevice) (ret : BitVec 32) : List I2cCall :=
  [.uclassGetDeviceBySeq (bus_num.setWidth 32) 0 (some bus),
    .i2cGetChip bus chip_address addr_offset_len 0 (some dev),
    .i2cSetChipOffsetLen dev addr_offset_len 0,
    .transfer dev t ret]

/-- **A dependable transfer.**  The function returns `PASS` if all four calls were made
and returned zero and `FAIL` otherwise, and makes no transfer unless the first three
calls were made and returned zero. -/
def Dependable (bus_num : BitVec 8) (chip_address addr_offset_len : BitVec 32) (t : I2cTransfer)
    (x : TestProg (Recorded D I2cCall) α) (status : α → TestResultTypes)
    (s : Fixture (Recorded D I2cCall)) : Prop :=
  ∃ a s' calls, x.run s = .ok a s' ∧ s'.dev.log = s.dev.log ++ calls ∧
    (status a = .pass ∨ status a = .fail) ∧
    (status a = .pass ↔
      ∃ bus dev, calls = i2cCalls bus_num chip_address addr_offset_len t bus dev 0) ∧
    ∀ dev t' ret, .transfer dev t' ret ∈ calls → ∃ bus dev ret,
      calls = i2cCalls bus_num chip_address addr_offset_len t bus dev ret

/-- The bus a call goes on with, if the low byte of the code of the lookup is zero: the
one that has been found, or the one an earlier call has selected. -/
def I2cDriver.busUsed (io : I2cDriver D) (bus_num : BitVec 8) (i2c_cur_bus : Option Udevice)
    (d : D) : Option Udevice :=
  if (io.uclassGetDeviceBySeq (bus_num.setWidth 32) d).1.1 = 0 then
    (io.uclassGetDeviceBySeq (bus_num.setWidth 32) d).1.2
  else i2c_cur_bus

/-- The chip is found on the bus, and the length of its addresses can be set. -/
def I2cDriver.Prepares (io : I2cDriver D) (chip_address addr_offset_len : BitVec 32)
    (bus : Udevice) (d : D) : Prop :=
  ∃ dev d₁ d₂, io.i2cGetChip bus chip_address addr_offset_len d = ((0, some dev), d₁) ∧
    io.i2cSetChipOffsetLen dev addr_offset_len d₁ = (0, d₂)

/-- What `i2c_get_chip` promises: where it returns zero, it has assigned a device. -/
def I2cDriver.AssignsChip (io : I2cDriver D) : Prop :=
  ∀ bus chip_addr offset_len d, (io.i2cGetChip bus chip_addr offset_len d).1.1 = 0 →
    (io.i2cGetChip bus chip_addr offset_len d).1.2.isSome

section Dependable

variable {io : I2cDriver D} {bus_num : BitVec 8} {chip_address addr_offset_len : BitVec 32}
  {t : I2cTransfer} {x : TestProg (Recorded D I2cCall) α} {status : α → TestResultTypes}
  {s s' : Fixture (Recorded D I2cCall)} {a : α}

/-- A function that fails without a transfer is dependable. -/
theorem dependable_of_no_transfer {calls : List I2cCall} (hrun : x.run s = .ok a s')
    (hlog : s'.dev.log = s.dev.log ++ calls) (ha : status a = .fail)
    (hcalls : ∀ dev t' ret, .transfer dev t' ret ∉ calls) :
    Dependable bus_num chip_address addr_offset_len t x status s := by
  refine ⟨a, s', calls, hrun, hlog, .inr ha, iff_of_false ?_ ?_, ?_⟩
  · rw [ha]
    exact nofun
  · rintro ⟨bus, dev, rfl⟩
    exact hcalls dev t 0 (by simp [i2cCalls])
  · exact fun dev t' ret hmem => absurd hmem (hcalls dev t' ret)

/-- So is one that makes the four calls and goes by the last code. -/
theorem dependable_of_calls {bus dev : Udevice} {ret : BitVec 32} (hrun : x.run s = .ok a s')
    (hlog : s'.dev.log =
      s.dev.log ++ i2cCalls bus_num chip_address addr_offset_len t bus dev ret)
    (ha : status a = if ret = 0 then .pass else .fail) :
    Dependable bus_num chip_address addr_offset_len t x status s := by
  refine ⟨a, s', _, hrun, hlog, ?_, ?_, fun _ _ _ _ => ⟨bus, dev, ret, rfl⟩⟩
  · rw [ha]
    by_cases hret : ret = 0
    · exact .inl (if_pos hret)
    · exact .inr (if_neg hret)
  · rw [ha]
    by_cases hret : ret = 0
    · subst hret
      exact iff_of_true rfl ⟨bus, dev, rfl⟩
    · rw [if_neg hret]
      refine iff_of_false nofun ?_
      rintro ⟨bus', dev', hcalls⟩
      simp only [i2cCalls, List.cons.injEq, I2cCall.transfer.injEq] at hcalls
      exact hret hcalls.2.2.2.1.2.2

/-- One that makes a transfer after any other calls is not. -/
theorem not_dependable_of_transfer {calls : List I2cCall} {dev : Udevice} {t' : I2cTransfer}
    {ret : BitVec 32} (hrun : x.run s = .ok a s') (hlog : s'.dev.log = s.dev.log ++ calls)
    (hmem : .transfer dev t' ret ∈ calls)
    (hcalls : ∀ bus dev ret,
      calls ≠ i2cCalls bus_num chip_address addr_offset_len t bus dev ret) :
    ¬ Dependable bus_num chip_address addr_offset_len t x status s := by
  rintro ⟨a', s'', calls', hrun', hlog', -, -, htransfer⟩
  rw [hrun] at hrun'
  injection hrun' with _ hs
  obtain rfl : calls = calls' := by
    rw [← hs, hlog] at hlog'
    exact List.append_cancel_left hlog'
  obtain ⟨bus, dev', ret', heq⟩ := htransfer dev t' ret hmem
  exact hcalls bus dev' ret' heq

/-- Nor is one that does not return. -/
theorem not_dependable_of_stop {e : Stop} (hrun : x.run s = .error e s') :
    ¬ Dependable bus_num chip_address addr_offset_len t x status s := by
  rintro ⟨a', s'', calls', hrun', -⟩
  rw [hrun] at hrun'
  cases hrun'

/-- **A function that makes a transfer on a chip it has found**, after all the calls, is
dependable if these have returned zero. -/
theorem dependable_iff_of_transfer {bus dev : Udevice} {found : Option Udevice}
    {ret₁ ret₃ ret₄ : BitVec 32} (hrun : x.run s = .ok a s')
    (hlog : s'.dev.log = s.dev.log ++ [.uclassGetDeviceBySeq (bus_num.setWidth 32) ret₁ found,
      .i2cGetChip bus chip_address addr_offset_len 0 (some dev),
      .i2cSetChipOffsetLen dev addr_offset_len ret₃, .transfer dev t ret₄])
    (ha : status a = if ret₄ = 0 then .pass else .fail) (hbus : ret₁ = 0 → found = some bus) :
    Dependable bus_num chip_address addr_offset_len t x status s ↔ ret₁ = 0 ∧ ret₃ = 0 := by
  by_cases hzero : ret₁ = 0 ∧ ret₃ = 0
  · refine iff_of_true ?_ hzero
    obtain ⟨rfl, rfl⟩ := hzero
    obtain rfl := hbus rfl
    exact dependable_of_calls hrun hlog ha
  · refine iff_of_false (not_dependable_of_transfer hrun hlog
      (.tail _ (.tail _ (.tail _ (.head _)))) ?_) hzero
    intro bus' dev' ret' hcalls
    simp only [i2cCalls, List.cons.injEq, I2cCall.uclassGetDeviceBySeq.injEq,
      I2cCall.i2cSetChipOffsetLen.injEq] at hcalls
    exact hzero ⟨hcalls.1.2.1, hcalls.2.2.1.2.2⟩

end Dependable

/-! ## The functions, call by call -/

section Calls

variable {io : I2cDriver D} {bus_num : BitVec 8} {chip_address addr_offset_len : BitVec 32}
  {reg : BitVec 8} {s s₁ : Fixture D} {bus dev : Udevice} {ret₂ ret₃ ret₄ : BitVec 32}
  {d₂ d₃ d₄ : D}

theorem run_eBBTFUtilsI2cWrite_of_no_bus {write_value : List Byte}
    (hbus : (selectBus io bus_num).run s = .ok none s₁) :
    (eBBTFUtilsI2cWrite io bus_num chip_address reg addr_offset_len write_value).run s =
      .ok .fail s₁ := by
  rw [eBBTFUtilsI2cWrite, EStateM.run_bind, hbus]
  rfl

theorem run_eBBTFUtilsI2cRead_of_no_bus {dlen : ℕ}
    (hbus : (selectBus io bus_num).run s = .ok none s₁) :
    (eBBTFUtilsI2cRead io bus_num chip_address reg addr_offset_len dlen).run s =
      .ok (.fail, none) s₁ := by
  rw [eBBTFUtilsI2cRead, EStateM.run_bind, hbus]
  rfl

/-- A write goes by the code of the transfer alone. -/
theorem run_eBBTFUtilsI2cWrite {write_value : List Byte}
    (hbus : (selectBus io bus_num).run s = .ok (some bus) s₁)
    (hchip : io.i2cGetChip bus chip_address addr_offset_len s₁.dev = ((ret₂, some dev), d₂))
    (hlen : (setChipOffsetLen io ret₂ (some dev) addr_offset_len).run { s₁ with dev := d₂ } =
      .ok ret₃ { s₁ with dev := d₃ })
    (hwrite : io.dmI2cWrite dev (reg.setWidth 32) write_value (io.setWrAddress dev d₃) =
      (ret₄, d₄)) :
    ∃ s', (eBBTFUtilsI2cWrite io bus_num chip_address reg addr_offset_len write_value).run s =
      .ok (if ret₄ = 0 then .pass else .fail) s' ∧ s'.dev = d₄ ∧ s'.eeprom = s₁.eeprom := by
  rw [eBBTFUtilsI2cWrite, EStateM.run_bind, hbus]
  simp only [EStateM.run_bind, run_drive, hchip, hlen, deref_some, EStateM.run_pure, hwrite]
  by_cases hret : ret₄ = 0
  · rw [if_pos hret, if_neg (not_not.mpr hret)]
    exact ⟨_, rfl, rfl, rfl⟩
  · rw [if_neg hret, if_pos hret]
    exact ⟨_, rfl, rfl, rfl⟩

/-- A write to a chip that has not been found goes through a pointer nothing has
assigned. -/
theorem run_eBBTFUtilsI2cWrite_of_no_chip {write_value : List Byte}
    (hbus : (selectBus io bus_num).run s = .ok (some bus) s₁)
    (hchip : io.i2cGetChip bus chip_address addr_offset_len s₁.dev = ((ret₂, none), d₂))
    (hret₂ : ret₂ ≠ 0) :
    ∃ s', (eBBTFUtilsI2cWrite io bus_num chip_address reg addr_offset_len write_value).run s =
      .error .outOfBounds s' := by
  refine ⟨{ s₁ with dev := d₂ }, ?_⟩
  rw [eBBTFUtilsI2cWrite, EStateM.run_bind, hbus]
  simp only [EStateM.run_bind, run_drive, hchip, setChipOffsetLen, if_pos hret₂, EStateM.run_pure]
  rfl

/-- A read is not made unless the chip has been prepared. -/
theorem run_eBBTFUtilsI2cRead_of_error {dlen : ℕ} {dev : Option Udevice}
    (hbus : (selectBus io bus_num).run s = .ok (some bus) s₁)
    (hchip : io.i2cGetChip bus chip_address addr_offset_len s₁.dev = ((ret₂, dev), d₂))
    (hlen : (setChipOffsetLen io ret₂ dev addr_offset_len).run { s₁ with dev := d₂ } =
      .ok ret₃ { s₁ with dev := d₃ }) (hret : ret₃ ≠ 0) :
    ∃ s', (eBBTFUtilsI2cRead io bus_num chip_address reg addr_offset_len dlen).run s =
      .ok (.fail, none) s' ∧ s'.dev = d₃ := by
  rw [eBBTFUtilsI2cRead, EStateM.run_bind, hbus]
  simp only [EStateM.run_bind, run_drive, hchip, hlen, readChip, if_pos hret, EStateM.run_pure]
  exact ⟨_, rfl, rfl⟩

theorem run_eBBTFUtilsI2cRead {dlen : ℕ} {data : ℕ → Byte}
    (hbus : (selectBus io bus_num).run s = .ok (some bus) s₁)
    (hchip : io.i2cGetChip bus chip_address addr_offset_len s₁.dev = ((ret₂, some dev), d₂))
    (hlen : (setChipOffsetLen io ret₂ (some dev) addr_offset_len).run { s₁ with dev := d₂ } =
      .ok 0 { s₁ with dev := d₃ })
    (hread : io.dmI2cRead dev (reg.setWidth 32) dlen d₃ = ((ret₄, data), d₄)) :
    ∃ s', (eBBTFUtilsI2cRead io bus_num chip_address reg addr_offset_len dlen).run s =
      .ok (if ret₄ = 0 then .pass else .fail, some data) s' ∧ s'.dev = d₄ ∧
        s'.eeprom = s₁.eeprom := by
  rw [eBBTFUtilsI2cRead, EStateM.run_bind, hbus]
  simp only [EStateM.run_bind, run_drive, hchip, hlen, readChip, ne_eq, not_true_eq_false,
    if_false, deref_some, EStateM.run_pure, hread]
  by_cases hret : ret₄ = 0
  · rw [if_pos hret, if_neg (not_not.mpr hret)]
    exact ⟨_, rfl, rfl, rfl⟩
  · rw [if_neg hret, if_pos hret]
    exact ⟨_, rfl, rfl, rfl⟩

end Calls

/-! ## When a transfer is dependable -/

section Selected

variable {io : I2cDriver D} {bus_num : BitVec 8} {chip_address addr_offset_len : BitVec 32}
  {s : Fixture (Recorded D I2cCall)} {ret : BitVec 32} {found : Option Udevice} {d : D}

/-- **Selecting the bus, recorded**: there is none, or there is one to go on with. -/
theorem run_selectBus_recorded
    (h : io.uclassGetDeviceBySeq (bus_num.setWidth 32) s.dev.dev = ((ret, found), d)) :
    ∃ s₁, s₁.dev.dev = d ∧
      s₁.dev.log = s.dev.log ++ [.uclassGetDeviceBySeq (bus_num.setWidth 32) ret found] ∧
      (((ret.setWidth 8 = 0 → io.busUsed bus_num s.i2cCurBus s.dev.dev = none) ∧
          (selectBus io.recorded bus_num).run s = .ok none s₁) ∨
        ∃ bus, ret.setWidth 8 = 0 ∧ io.busUsed bus_num s.i2cCurBus s.dev.dev = some bus ∧
          (selectBus io.recorded bus_num).run s = .ok (some bus) s₁) := by
  have hused : io.busUsed bus_num s.i2cCurBus s.dev.dev =
      if ret = 0 then found else s.i2cCurBus := by
    rw [I2cDriver.busUsed, h]
  by_cases hret : ret.setWidth 8 = 0
  · have hrun := run_selectBus_of_code (I2cDriver.recorded_uclassGetDeviceBySeq h) hret
    rw [← hused] at hrun
    cases hbus : io.busUsed bus_num s.i2cCurBus s.dev.dev with
    | none =>
        rw [hbus] at hrun
        refine ⟨_, ?_, ?_, .inl ⟨fun _ => rfl, hrun⟩⟩ <;> rfl
    | some bus =>
        rw [hbus] at hrun
        refine ⟨_, ?_, ?_, .inr ⟨bus, hret, rfl, hrun⟩⟩ <;> rfl
  · have hrun := run_selectBus_of_error (I2cDriver.recorded_uclassGetDeviceBySeq h) hret
    refine ⟨_, ?_, ?_, .inl ⟨fun h => absurd h hret, hrun⟩⟩ <;> rfl

theorem append_log {β : Type} {l l' calls : List β} (h : l' = l ++ calls) (call : β) :
    l' ++ [call] = l ++ (calls ++ [call]) := by
  rw [h, List.append_assoc]

/-- A code that is zero comes with the bus that is used. -/
theorem found_of_busUsed {bus : Udevice}
    (h : io.uclassGetDeviceBySeq (bus_num.setWidth 32) s.dev.dev = ((ret, found), d))
    (hbus : io.busUsed bus_num s.i2cCurBus s.dev.dev = some bus) (hret : ret = 0) :
    found = some bus := by
  rwa [I2cDriver.busUsed, h, if_pos hret] at hbus

end Selected

section Prepares

variable {io : I2cDriver D} {chip_address addr_offset_len ret : BitVec 32} {bus : Udevice}
  {d d₁ d₂ : D}

/-- What the second call answers. -/
theorem getChip_cases (hassigns : io.AssignsChip) (chip_address addr_offset_len : BitVec 32)
    (bus : Udevice) (d : D) :
    (∃ dev d', io.i2cGetChip bus chip_address addr_offset_len d = ((0, some dev), d')) ∨
      ∃ ret dev d', ret ≠ 0 ∧
        io.i2cGetChip bus chip_address addr_offset_len d = ((ret, dev), d') := by
  have hdev := hassigns bus chip_address addr_offset_len d
  rcases h : io.i2cGetChip bus chip_address addr_offset_len d with ⟨⟨ret, dev⟩, d'⟩
  rw [h] at hdev
  by_cases hret : ret = 0
  · obtain ⟨dev, rfl⟩ := Option.isSome_iff_exists.mp (hdev hret)
    exact .inl ⟨dev, d', by rw [hret]⟩
  · exact .inr ⟨ret, dev, d', hret, rfl⟩

theorem prepares_iff {dev : Udevice}
    (hchip : io.i2cGetChip bus chip_address addr_offset_len d = ((0, some dev), d₁))
    (hlen : io.i2cSetChipOffsetLen dev addr_offset_len d₁ = (ret, d₂)) :
    io.Prepares chip_address addr_offset_len bus d ↔ ret = 0 := by
  constructor
  · rintro ⟨dev', d₁', d₂', hchip', hlen'⟩
    rw [hchip] at hchip'
    cases hchip'
    rw [hlen] at hlen'
    exact congrArg Prod.fst hlen'
  · rintro rfl
    exact ⟨dev, d₁, d₂, hchip, hlen⟩

theorem not_prepares {dev : Option Udevice}
    (hchip : io.i2cGetChip bus chip_address addr_offset_len d = ((ret, dev), d₁))
    (hret : ret ≠ 0) : ¬ io.Prepares chip_address addr_offset_len bus d := by
  rintro ⟨dev', d₁', d₂', hchip', -⟩
  rw [hchip] at hchip'
  exact hret (congrArg (·.1.1) hchip')

theorem run_setChipOffsetLen {s : Fixture D} {dev : Udevice}
    (hlen : io.i2cSetChipOffsetLen dev addr_offset_len s.dev = (ret, d)) :
    (setChipOffsetLen io 0 (some dev) addr_offset_len).run s = .ok ret { s with dev := d } := by
  show (drive _).run s = _
  rw [run_drive, hlen]

theorem run_setChipOffsetLen_of_error {s : Fixture D} {dev : Option Udevice} (hret : ret ≠ 0) :
    (setChipOffsetLen io ret dev addr_offset_len).run s = .ok ret s := by
  rw [setChipOffsetLen, if_pos hret]
  rfl

end Prepares

section Iff

variable {io : I2cDriver D} {ret : BitVec 32} {found : Option Udevice} {d : D}

/-- **A function that starts by selecting the bus** and fails where there is none is
dependable exactly if it is so on the bus that is used. -/
theorem dependable_iff_of_busUsed {bus_num : BitVec 8} {chip_address addr_offset_len : BitVec 32}
    {t : I2cTransfer} {x : TestProg (Recorded D I2cCall) α} {status : α → TestResultTypes} {a : α}
    {s : Fixture (Recorded D I2cCall)} {p : Udevice → Prop}
    (h : io.uclassGetDeviceBySeq (bus_num.setWidth 32) s.dev.dev = ((ret, found), d))
    (ha : status a = .fail)
    (hnone : ∀ s₁, (selectBus io.recorded bus_num).run s = .ok none s₁ → x.run s = .ok a s₁)
    (hsome : ∀ bus s₁, s₁.dev.dev = d →
      s₁.dev.log = s.dev.log ++ [.uclassGetDeviceBySeq (bus_num.setWidth 32) ret found] →
      io.busUsed bus_num s.i2cCurBus s.dev.dev = some bus →
      (selectBus io.recorded bus_num).run s = .ok (some bus) s₁ →
      (Dependable bus_num chip_address addr_offset_len t x status s ↔ p bus)) :
    Dependable bus_num chip_address addr_offset_len t x status s ↔
      (ret.setWidth 8 = 0 → ∀ bus ∈ io.busUsed bus_num s.i2cCurBus s.dev.dev, p bus) := by
  obtain ⟨s₁, hdev, hlog, ⟨hbus, hrun⟩ | ⟨bus, hret, hbus, hrun⟩⟩ := run_selectBus_recorded h
  · refine iff_of_true (dependable_of_no_transfer (hnone s₁ hrun) hlog ha (by simp)) ?_
    intro hret bus hused
    rw [hbus hret] at hused
    cases hused
  · rw [hsome bus s₁ hdev hlog hbus hrun]
    simp [hbus, hret]

/-- **When a write is dependable.** -/
theorem dependable_write_iff (hassigns : io.AssignsChip) (bus_num : BitVec 8)
    (chip_address : BitVec 32) (reg : BitVec 8) (addr_offset_len : BitVec 32)
    (write_value : List Byte) (s : Fixture (Recorded D I2cCall))
    (h : io.uclassGetDeviceBySeq (bus_num.setWidth 32) s.dev.dev = ((ret, found), d)) :
    Dependable bus_num chip_address addr_offset_len (.dmI2cWrite (reg.setWidth 32) write_value)
        (eBBTFUtilsI2cWrite io.recorded bus_num chip_address reg addr_offset_len write_value)
        id s ↔
      (ret.setWidth 8 = 0 → ∀ bus ∈ io.busUsed bus_num s.i2cCurBus s.dev.dev,
        ret = 0 ∧ io.Prepares chip_address addr_offset_len bus d) := by
  refine dependable_iff_of_busUsed h rfl (fun s₁ => run_eBBTFUtilsI2cWrite_of_no_bus) ?_
  rintro bus s₁ rfl hlog hbus hrun
  rcases getChip_cases hassigns chip_address addr_offset_len bus s₁.dev.dev with
    ⟨dev, d₂, hchip⟩ | ⟨ret₂, found₂, d₂, hret₂, hchip⟩
  · -- the chip is found, so the third call is made and the write after it
    rcases hlen : io.i2cSetChipOffsetLen dev addr_offset_len d₂ with ⟨ret₃, d₃⟩
    rcases hwrite : io.dmI2cWrite dev (reg.setWidth 32) write_value (io.setWrAddress dev d₃) with
      ⟨ret₄, d₄⟩
    obtain ⟨s', hrun', hs', -⟩ := run_eBBTFUtilsI2cWrite hrun (I2cDriver.recorded_i2cGetChip hchip)
      (run_setChipOffsetLen (I2cDriver.recorded_i2cSetChipOffsetLen hlen))
      (I2cDriver.recorded_dmI2cWrite hwrite)
    rw [prepares_iff hchip hlen]
    have hlog' : s'.dev.log = s.dev.log ++ _ := (congrArg Recorded.log hs').trans
      (append_log (append_log (append_log hlog _) _) _)
    exact dependable_iff_of_transfer hrun' hlog' rfl (found_of_busUsed h hbus)
  · rw [iff_false_intro (not_prepares hchip hret₂), and_false, iff_false]
    cases found₂ with
    | none =>
        obtain ⟨s', hrun'⟩ := run_eBBTFUtilsI2cWrite_of_no_chip hrun
          (I2cDriver.recorded_i2cGetChip hchip) hret₂
        exact not_dependable_of_stop hrun'
    | some dev =>
        -- the third call is left out, and the write is made all the same
        rcases hwrite : io.dmI2cWrite dev (reg.setWidth 32) write_value
          (io.setWrAddress dev d₂) with ⟨ret₄, d₄⟩
        obtain ⟨s', hrun', hs', -⟩ := run_eBBTFUtilsI2cWrite hrun
          (I2cDriver.recorded_i2cGetChip hchip) (run_setChipOffsetLen_of_error hret₂)
          (I2cDriver.recorded_dmI2cWrite hwrite)
        have hlog' : s'.dev.log = s.dev.log ++ _ := (congrArg Recorded.log hs').trans
          (append_log (append_log hlog _) _)
        refine not_dependable_of_transfer hrun' hlog' (.tail _ (.tail _ (.head _))) ?_
        exact fun bus' dev' ret' hcalls => by simpa [i2cCalls] using congrArg List.length hcalls

/-- **When a read is dependable.** -/
theorem dependable_read_iff (hassigns : io.AssignsChip) (bus_num : BitVec 8)
    (chip_address : BitVec 32) (reg : BitVec 8) (addr_offset_len : BitVec 32) (dlen : ℕ)
    (s : Fixture (Recorded D I2cCall))
    (h : io.uclassGetDeviceBySeq (bus_num.setWidth 32) s.dev.dev = ((ret, found), d)) :
    Dependable bus_num chip_address addr_offset_len (.dmI2cRead (reg.setWidth 32) dlen)
        (eBBTFUtilsI2cRead io.recorded bus_num chip_address reg addr_offset_len dlen)
        Prod.fst s ↔
      (ret.setWidth 8 = 0 → ∀ bus ∈ io.busUsed bus_num s.i2cCurBus s.dev.dev,
        io.Prepares chip_address addr_offset_len bus d → ret = 0) := by
  refine dependable_iff_of_busUsed h rfl (fun s₁ => run_eBBTFUtilsI2cRead_of_no_bus) ?_
  rintro bus s₁ rfl hlog hbus hrun
  rcases getChip_cases hassigns chip_address addr_offset_len bus s₁.dev.dev with
    ⟨dev, d₂, hchip⟩ | ⟨ret₂, found₂, d₂, hret₂, hchip⟩
  · rcases hlen : io.i2cSetChipOffsetLen dev addr_offset_len d₂ with ⟨ret₃, d₃⟩
    rw [prepares_iff hchip hlen]
    by_cases hret₃ : ret₃ = 0
    · subst hret₃
      rcases hread : io.dmI2cRead dev (reg.setWidth 32) dlen d₃ with ⟨⟨ret₄, data⟩, d₄⟩
      obtain ⟨s', hrun', hs', -⟩ := run_eBBTFUtilsI2cRead hrun
        (I2cDriver.recorded_i2cGetChip hchip)
        (run_setChipOffsetLen (I2cDriver.recorded_i2cSetChipOffsetLen hlen))
        (I2cDriver.recorded_dmI2cRead hread)
      have hlog' : s'.dev.log = s.dev.log ++ _ := (congrArg Recorded.log hs').trans
        (append_log (append_log (append_log hlog _) _) _)
      rw [dependable_iff_of_transfer hrun' hlog' rfl (found_of_busUsed h hbus)]
      simp
    · obtain ⟨s', hrun', hs'⟩ := run_eBBTFUtilsI2cRead_of_error hrun
        (I2cDriver.recorded_i2cGetChip hchip)
        (run_setChipOffsetLen (I2cDriver.recorded_i2cSetChipOffsetLen hlen)) hret₃
      have hlog' : s'.dev.log = s.dev.log ++ _ := (congrArg Recorded.log hs').trans
        (append_log (append_log hlog _) _)
      exact iff_of_true (dependable_of_no_transfer hrun' hlog' rfl (by simp))
        fun h => absurd h hret₃
  · obtain ⟨s', hrun', hs'⟩ := run_eBBTFUtilsI2cRead_of_error hrun
      (I2cDriver.recorded_i2cGetChip hchip) (run_setChipOffsetLen_of_error hret₂) hret₂
    have hlog' : s'.dev.log = s.dev.log ++ _ := (congrArg Recorded.log hs').trans
      (append_log hlog _)
    exact iff_of_true (dependable_of_no_transfer hrun' hlog' rfl (by simp))
      fun h => absurd h (not_prepares hchip hret₂)

end Iff

/-- **When a transfer is dependable.**  For every driver, whatever it answers, and
whatever bus an earlier call has left:

* a write is dependable exactly if, where the low byte of the code of the lookup is
  zero and there is a bus to go on with, that code is zero and the next two calls
  return zero as well;
* a read is dependable exactly if, where the low byte of the code of the lookup is
  zero, there is a bus to go on with and the next two calls on it return zero, that
  code is zero. -/
theorem i2c_transfer_dependable_iff {io : I2cDriver D} (hassigns : io.AssignsChip)
    (bus_num : BitVec 8) (chip_address : BitVec 32) (reg : BitVec 8)
    (addr_offset_len : BitVec 32) (write_value : List Byte) (dlen : ℕ)
    (s : Fixture (Recorded D I2cCall)) :
    (Dependable bus_num chip_address addr_offset_len (.dmI2cWrite (reg.setWidth 32) write_value)
        (eBBTFUtilsI2cWrite io.recorded bus_num chip_address reg addr_offset_len write_value)
        id s ↔
      ((io.uclassGetDeviceBySeq (bus_num.setWidth 32) s.dev.dev).1.1.setWidth 8 = 0 →
        ∀ bus ∈ io.busUsed bus_num s.i2cCurBus s.dev.dev,
          (io.uclassGetDeviceBySeq (bus_num.setWidth 32) s.dev.dev).1.1 = 0 ∧
          io.Prepares chip_address addr_offset_len bus
            (io.uclassGetDeviceBySeq (bus_num.setWidth 32) s.dev.dev).2)) ∧
    (Dependable bus_num chip_address addr_offset_len (.dmI2cRead (reg.setWidth 32) dlen)
        (eBBTFUtilsI2cRead io.recorded bus_num chip_address reg addr_offset_len dlen)
        Prod.fst s ↔
      ((io.uclassGetDeviceBySeq (bus_num.setWidth 32) s.dev.dev).1.1.setWidth 8 = 0 →
        ∀ bus ∈ io.busUsed bus_num s.i2cCurBus s.dev.dev,
          io.Prepares chip_address addr_offset_len bus
            (io.uclassGetDeviceBySeq (bus_num.setWidth 32) s.dev.dev).2 →
          (io.uclassGetDeviceBySeq (bus_num.setWidth 32) s.dev.dev).1.1 = 0)) :=
  ⟨dependable_write_iff hassigns bus_num chip_address reg addr_offset_len write_value s rfl,
    dependable_read_iff hassigns bus_num chip_address reg addr_offset_len dlen s rfl⟩

/-- A board with one bus and one chip, whose drivers always return the same codes. -/
def answering (lookup chip offset_len transfer : BitVec 32) : I2cDriver Unit where
  writel _ _ d := d
  uclassGetDeviceBySeq _ d := ((lookup, some 0), d)
  i2cGetChip _ _ _ d := ((chip, some 1), d)
  i2cSetChipOffsetLen _ _ d := (offset_len, d)
  setWrAddress _ d := d
  dmI2cWrite _ _ _ d := (transfer, d)
  dmI2cRead _ _ _ d := ((transfer, fun _ => 0), d)

theorem answering_assignsChip (lookup chip offset_len transfer : BitVec 32) :
    (answering lookup chip offset_len transfer).AssignsChip :=
  fun _ _ _ _ _ => rfl

theorem answering_prepares (lookup transfer chip_address addr_offset_len : BitVec 32)
    (bus : Udevice) :
    (answering lookup 0 0 transfer).Prepares chip_address addr_offset_len bus () :=
  ⟨1, (), (), rfl, rfl⟩

/-- On a board where everything works, both functions are dependable. -/
theorem answering_dependable :
    Dependable 1 0x50 2 (.dmI2cWrite 0 [0xEA])
        (eBBTFUtilsI2cWrite (answering 0 0 0 0).recorded 1 0x50 0 2 [0xEA]) id
        (Fixture.atBoot ⟨(), []⟩) ∧
      Dependable 1 0x50 2 (.dmI2cRead 0 1)
        (eBBTFUtilsI2cRead (answering 0 0 0 0).recorded 1 0x50 0 2 1) Prod.fst
        (Fixture.atBoot ⟨(), []⟩) := by
  obtain ⟨hwrite, hread⟩ := i2c_transfer_dependable_iff (answering_assignsChip 0 0 0 0) 1 0x50 0 2
    [0xEA] 1 (Fixture.atBoot ⟨(), []⟩)
  exact ⟨hwrite.mpr fun _ bus _ => ⟨rfl, answering_prepares 0 0 0x50 2 bus⟩,
    hread.mpr fun _ _ _ _ => rfl⟩

/-- A write goes ahead, and passes, although the length of the addresses could not be
set; a read goes ahead on the bus an earlier call has left, and passes, although the
lookup has returned `-256`. -/
theorem answering_not_dependable :
    ¬ Dependable 1 0x50 2 (.dmI2cWrite 0 [0xEA])
        (eBBTFUtilsI2cWrite (answering 0 0 (-22) 0).recorded 1 0x50 0 2 [0xEA]) id
        (Fixture.atBoot ⟨(), []⟩) ∧
      ¬ Dependable 1 0x50 2 (.dmI2cRead 0 1)
        (eBBTFUtilsI2cRead (answering (-256) 0 0 0).recorded 1 0x50 0 2 1) Prod.fst
        { Fixture.atBoot (⟨(), []⟩ : Recorded Unit I2cCall) with i2cCurBus := some 7 } := by
  constructor
  · intro h
    have hcond := (dependable_write_iff (answering_assignsChip 0 0 (-22) 0) 1 0x50 0 2 [0xEA] _
      rfl).mp h
    obtain ⟨-, dev, d₁, d₂, -, hlen⟩ := hcond (by decide) 0 rfl
    have hzero : (-22 : BitVec 32) = 0 := congrArg Prod.fst hlen
    exact absurd hzero (by decide)
  · intro h
    have hcond := (dependable_read_iff (answering_assignsChip (-256) 0 0 0) 1 0x50 0 2 1 _
      rfl).mp h
    exact absurd (hcond (by decide) 7 rfl (answering_prepares (-256) 0 0x50 2 7)) (by decide)

end BoardDiag
