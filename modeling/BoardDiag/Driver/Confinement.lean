import BoardDiag.Driver.I2cTransfers
import BoardDiag.Machine.Confined
import BoardDiag.Suite.Attribution

/-!
# What the tests can do to a board

A test does to the board what it makes the drivers do.  So if every call of a driver takes the
board from one state to another that is related to it by some preorder, every test does, and so
does every sequence of commands: that is `within_of_reachable`.  An invariant of the drivers is
an invariant of the whole framework, and what no driver touches is never touched.

Transfers over an I2C bus are treated with more care, as it matters where they go.
`SuiteTest.asks` is the set of the transfers a test may ask for, by its configuration, and only
these have to be looked at.  For boards with serial memories this gives
`untouched_of_reachable`: a cell that no registered test may ask to be written holds what it
held at boot, whatever commands have been given.
-/

namespace BoardDiag

open Machine Relation

variable {D α : Type}

/-- The boards of two fixtures are related. -/
def OnBoard (r : D → D → Prop) (s t : Fixture D) : Prop := r s.dev t.dev

instance {r : D → D → Prop} [IsPreorder D r] : IsPreorder (Fixture D) (OnBoard r) where
  refl s := refl_of r s.dev
  trans _ _ _ h h' := trans_of r h h'

/-! ## Drivers -/

/-- What is done to a bus apart from transfers. -/
structure I2cBusDriver.Within (io : I2cBusDriver D) (r : D → D → Prop) : Prop where
  writel : ∀ value addr d, r d (io.writel value addr d)
  lookup : ∀ seq d, r d (io.uclassGetDeviceBySeq seq d).2
  getSpeed : ∀ bus d, r d (io.dmI2cGetBusSpeed bus d).2
  setSpeed : ∀ bus speed d, r d (io.dmI2cSetBusSpeed bus speed d).2
  probe : ∀ bus chip_addr d, r d (io.dmI2cProbe bus chip_addr d).2

/-- What a transfer consists of. -/
structure I2cDriver.TransfersWithin (io : I2cDriver D) (r : D → D → Prop) : Prop where
  getChip : ∀ bus chip_addr offset_len d, r d (io.i2cGetChip bus chip_addr offset_len d).2
  offsetLen : ∀ dev offset_len d, r d (io.i2cSetChipOffsetLen dev offset_len d).2
  wrAddress : ∀ dev d, r d (io.setWrAddress dev d)
  write : ∀ dev offset buffer d, r d (io.dmI2cWrite dev offset buffer d).2
  read : ∀ dev offset len d, r d (io.dmI2cRead dev offset len d).2

structure SpiFlashDriver.Within (io : SpiFlashDriver D) (r : D → D → Prop) : Prop where
  writel : ∀ value addr d, r d (io.writel value addr d)
  find : ∀ bus cs d, r d (io.spiFindBusAndCs bus cs d).2
  remove : ∀ dev d, r d (io.deviceRemove dev d).2
  probe : ∀ bus cs d, r d (io.spiFlashProbeBusCs bus cs d).2
  read : ∀ flash offset len d, r d (io.spiFlashRead flash offset len d).2
  erase : ∀ flash offset len d, r d (io.spiFlashErase flash offset len d).2
  write : ∀ flash offset buf d, r d (io.spiFlashWrite flash offset buf d).2

structure MemoryDriver.Within (io : MemoryDriver D) (r : D → D → Prop) : Prop where
  store : ∀ addr value d, r d (io.store addr value d)
  load : ∀ addr d, r d (io.load addr d).2
  flush : ∀ d, r d (io.flushDcacheAll d)

structure RegisterDriver.Within (io : RegisterDriver D) (r : D → D → Prop) : Prop where
  write : ∀ value addr d, r d (io.rawWritel value addr d)
  read : ∀ addr d, r d (io.rawReadl addr d).2

structure PhyDriver.Within (io : PhyDriver D) (r : D → D → Prop) : Prop where
  read : ∀ devname addr reg d, r d (io.miiphyRead devname addr reg d).2
  write : ∀ devname addr reg value d, r d (io.miiphyWrite devname addr reg value d)
  delay : ∀ d, r d (io.mdelay d)

structure MmcDriver.Within (io : MmcDriver D) (r : D → D → Prop) : Prop where
  find : ∀ dev_id d, r d (io.findMmcDevice dev_id d).2
  clear : ∀ mmc d, r d (io.clearHasInit mmc d)
  init : ∀ mmc d, r d (io.mmcInit mmc d).2

/-- The drivers that have nothing to do with an I2C bus or a flash. -/
structure Drivers.RestWithin (io : Drivers D) (r : D → D → Prop) : Prop where
  memory : io.memory.Within r
  registers : io.registers.Within r
  phy : io.phy.Within r
  mmc : io.mmc.Within r
  net : ∀ net_ping_ip d, r d (io.net.netLoop net_ping_ip d).2

/-- **All drivers**, apart from transfers over an I2C bus. -/
structure Drivers.Within (io : Drivers D) (r : D → D → Prop) : Prop where
  rest : io.RestWithin r
  flash : io.flash.Within r
  i2c : io.i2c.Within r

section Mono

variable {r q : D → D → Prop} (hrq : ∀ d d', r d d' → q d d')

include hrq

theorem Drivers.RestWithin.mono {io : Drivers D} (h : io.RestWithin r) : io.RestWithin q where
  memory :=
    { store := fun addr value d => hrq _ _ (h.memory.store addr value d)
      load := fun addr d => hrq _ _ (h.memory.load addr d)
      flush := fun d => hrq _ _ (h.memory.flush d) }
  registers :=
    { write := fun value addr d => hrq _ _ (h.registers.write value addr d)
      read := fun addr d => hrq _ _ (h.registers.read addr d) }
  phy :=
    { read := fun devname addr reg d => hrq _ _ (h.phy.read devname addr reg d)
      write := fun devname addr reg value d => hrq _ _ (h.phy.write devname addr reg value d)
      delay := fun d => hrq _ _ (h.phy.delay d) }
  mmc :=
    { find := fun dev_id d => hrq _ _ (h.mmc.find dev_id d)
      clear := fun mmc d => hrq _ _ (h.mmc.clear mmc d)
      init := fun mmc d => hrq _ _ (h.mmc.init mmc d) }
  net := fun net_ping_ip d => hrq _ _ (h.net net_ping_ip d)

theorem SpiFlashDriver.Within.mono {io : SpiFlashDriver D} (h : io.Within r) : io.Within q where
  writel value addr d := hrq _ _ (h.writel value addr d)
  find bus cs d := hrq _ _ (h.find bus cs d)
  remove dev d := hrq _ _ (h.remove dev d)
  probe bus cs d := hrq _ _ (h.probe bus cs d)
  read flash offset len d := hrq _ _ (h.read flash offset len d)
  erase flash offset len d := hrq _ _ (h.erase flash offset len d)
  write flash offset buf d := hrq _ _ (h.write flash offset buf d)

theorem I2cBusDriver.Within.mono {io : I2cBusDriver D} (h : io.Within r) : io.Within q where
  writel value addr d := hrq _ _ (h.writel value addr d)
  lookup seq d := hrq _ _ (h.lookup seq d)
  getSpeed bus d := hrq _ _ (h.getSpeed bus d)
  setSpeed bus speed d := hrq _ _ (h.setSpeed bus speed d)
  probe bus chip_addr d := hrq _ _ (h.probe bus chip_addr d)

theorem I2cDriver.TransfersWithin.mono {io : I2cDriver D} (h : io.TransfersWithin r) :
    io.TransfersWithin q where
  getChip bus chip_addr offset_len d := hrq _ _ (h.getChip bus chip_addr offset_len d)
  offsetLen dev offset_len d := hrq _ _ (h.offsetLen dev offset_len d)
  wrAddress dev d := hrq _ _ (h.wrAddress dev d)
  write dev offset buffer d := hrq _ _ (h.write dev offset buffer d)
  read dev offset len d := hrq _ _ (h.read dev offset len d)

end Mono

/-! ## Transfers -/

/-- What `ds2321_rtc_init` asks for. -/
def clockSetup (bus chip : BitVec 8) : Set Transfer :=
  {t | t = .read bus chip ds2321RtcCtlStatusRegAddr 1 1 ∨
    ∃ val, t = .write bus chip ds2321RtcCtlStatusRegAddr 1 [val] (Transfer.length_singleton_lt val)}

/-- The registers of the clock that hold the time of day. -/
def clockRegs : List (BitVec 8) := [ds2321RtcSecRegAddr, ds2321RtcMinRegAddr, ds2321RtcHrRegAddr]

/-- The length of a page is an `uint8_t`. -/
theorem length_page_lt {bytes : List Byte} (h : bytes.length = eepromPageLen) :
    bytes.length < 2 ^ 8 := by
  rw [h]
  decide

/-- **The transfers a test may ask for.** -/
def SuiteTest.asks : SuiteTest → Set Transfer
  | pwrRailings (some a) =>
      {t | ∃ reg ∈ pmicStatusFlags :: pmicRegulationRegs,
        t = .read a.i2c_bus_no a.i2c_dev_addr reg 1 1}
  | eepromReadWrite (some a) =>
      {t | ∃ n < testBufferLen / eepromPageLen,
        (∃ (bytes : List Byte) (hbytes : bytes.length = eepromPageLen),
          t = .write a.i2c_bus_num a.i2c_dev_addr (a.reg (n * eepromPageLen)) eepromOffsetLen
            bytes (length_page_lt hbytes)) ∨
        t = .read a.i2c_bus_num a.i2c_dev_addr (a.reg (n * eepromPageLen)) eepromOffsetLen
          (BitVec.ofNat 8 eepromPageLen)}
  | rtcGetTime (some a) => clockSetup a.i2c_bus a.i2c_dev_addr ∪
      {t | ∃ reg ∈ clockRegs, t = .read a.i2c_bus a.i2c_dev_addr reg 1 1}
  | rtcSetTime (some a) => clockSetup a.i2c_bus a.i2c_dev_addr ∪
      {t | ∃ reg ∈ clockRegs, ∃ val,
        t = .write a.i2c_bus a.i2c_dev_addr reg 1 [val] (Transfer.length_singleton_lt val)}
  | _ => ∅

/-- A transfer, whoever asks for it. -/
def Transfer.Within (io : I2cDriver D) (r : D → D → Prop) (t : Transfer) : Prop :=
  Confined (OnBoard r) (t.make io)

namespace Transfer.Within

variable {io : I2cDriver D} {r : D → D → Prop} {bus_num chip reg : BitVec 8} {len : BitVec 32}

theorem confined_write {bytes : List Byte} {hbytes : bytes.length < 2 ^ 8}
    (h : (write bus_num chip reg len bytes hbytes).Within io r) :
    Confined (OnBoard r) (eBBTFUtilsI2cWrite io bus_num (chip.setWidth 32) reg len bytes) := by
  intro s
  have hs := h s
  rwa [Transfer.make, left_bind fun _ _ => rfl] at hs

theorem confined_read {dlen : BitVec 8} (h : (read bus_num chip reg len dlen).Within io r) :
    Confined (OnBoard r) (eBBTFUtilsI2cRead io bus_num (chip.setWidth 32) reg len dlen.toNat) := by
  intro s
  have hs := h s
  rw [Transfer.make, left_bind] at hs
  · exact hs
  · rintro ⟨status, data⟩ t
    cases status <;> cases data <;> rfl

end Transfer.Within

/-! ## The tests -/

section Tests

variable {r : D → D → Prop} [IsPreorder D r] {testId : BitVec 32}

omit [IsPreorder D r] in
theorem confined_drive {f : D → α × D} (h : ∀ d, r d (f d).2) :
    Confined (OnBoard r) (drive f) := fun s => h s.dev

/-- What is reported or kept in a buffer is not on the board. -/
theorem confined_modify {g : Fixture D → Fixture D} (h : ∀ s, (g s).dev = s.dev) :
    Confined (OnBoard r) (modify g : TestProg D Unit) :=
  .modify fun s => show r s.dev (g s).dev from h s ▸ refl_of r s.dev

theorem confined_reportEvent (eventType : DiagErrEventIDTypes) (address : List (BitVec 32)) :
    Confined (OnBoard r) (reportEvent testId eventType address : TestProg D Unit) :=
  confined_modify fun _ => rfl

theorem confined_reportEventString (eventType : DiagErrEventIDTypes)
    (address : List (BitVec 32)) (string : List Byte) :
    Confined (OnBoard r) (reportEventString testId eventType address string : TestProg D Unit) :=
  confined_modify fun _ => rfl

theorem confined_deref (p : Option α) : Confined (OnBoard r) (deref p : TestProg D α) := by
  cases p with
  | none => exact .throw .outOfBounds
  | some a => exact .pure a

theorem confined_sprintfString (text : List Byte) :
    Confined (OnBoard r) (sprintfString text : TestProg D (List Byte)) :=
  .ite (fun _ => .throw .outOfBounds) fun _ => .pure text

/-- An event and a result. -/
theorem confined_reported (eventType : DiagErrEventIDTypes) (address : List (BitVec 32)) (a : α) :
    Confined (OnBoard r) (do
      reportEvent testId eventType address
      return a : TestProg D α) :=
  .bind (confined_reportEvent eventType address) fun _ => .pure a

/-- A test without a configuration. -/
theorem confined_unconfigured (file : SourceFile) (line : ℕ) :
    Confined (OnBoard r) (do
      testAssert file line
      return .aborted : TestProg D TestResultTypes) :=
  .bind (confined_modify fun _ => rfl) fun _ => .pure _

/-! ### I2C -/

section I2c

variable {io : I2cBusDriver D} (hio : io.Within r)

include hio

theorem confined_setI2cBus (busnum : BitVec 32) :
    Confined (OnBoard r) (eBBTFUtilsSetI2cBus io.toI2cDriver busnum) :=
  .bind (confined_drive fun d => hio.lookup busnum d) fun _ =>
    .ite (fun _ => .pure _) fun _ => .bind (confined_modify fun _ => rfl) fun _ => .pure _

omit hio in
theorem confined_getI2cBus :
    Confined (OnBoard r) (eBBTFUtilsGetI2cBus : TestProg D (BitVec 32 × Option Udevice)) := by
  refine .bind .get fun s => ?_
  cases s.i2cCurBus with
  | none => exact .pure _
  | some bus => exact .pure _

theorem confined_selectBus (bus_num : BitVec 8) :
    Confined (OnBoard r) (selectBus io.toI2cDriver bus_num) := by
  refine .bind (confined_setI2cBus hio _) fun _ => ?_
  refine .ite (fun _ => confined_reported _ _ _) fun _ => ?_
  exact .bind confined_getI2cBus fun _ => .ite (fun _ => .pure _) fun _ => .pure _

omit hio in
theorem confined_setChipOffsetLen (hops : io.TransfersWithin r) (ret : BitVec 32)
    (dev : Option Udevice) (len : BitVec 32) :
    Confined (OnBoard r) (setChipOffsetLen io.toI2cDriver ret dev len) :=
  .ite (fun _ => .pure _) fun _ => .bind (confined_deref _) fun dev =>
    confined_drive fun d => hops.offsetLen dev len d

/-- If all that a transfer consists of is confined, every transfer is. -/
theorem Transfer.within_of_ops (hops : io.TransfersWithin r) (t : Transfer) :
    t.Within io.toI2cDriver r := by
  cases t with
  | write bus_num chip reg len bytes _ =>
      refine .bind (.bind (confined_selectBus hio bus_num) fun bus => ?_) fun _ => .pure _
      cases bus with
      | none => exact .pure _
      | some bus =>
          refine .bind (confined_drive fun d => hops.getChip bus _ _ d) fun _ => ?_
          refine .bind (confined_setChipOffsetLen hops _ _ _) fun _ => ?_
          refine .bind (confined_deref _) fun dev => ?_
          refine .bind (confined_drive fun d => hops.wrAddress dev d) fun _ => ?_
          refine .bind (confined_drive fun d => hops.write dev _ _ d) fun _ => ?_
          exact .ite (fun _ => confined_reported _ _ _) fun _ => .pure _
  | read bus_num chip reg len dlen =>
      refine .bind (.bind (confined_selectBus hio bus_num) fun bus => ?_) fun answer => ?_
      · cases bus with
        | none => exact .pure _
        | some bus =>
            refine .bind (confined_drive fun d => hops.getChip bus _ _ d) fun _ => ?_
            refine .bind (confined_setChipOffsetLen hops _ _ _) fun _ => ?_
            refine .bind (.ite (fun _ => .pure _) fun _ => .bind (confined_deref _) fun dev =>
              .bind (confined_drive fun d => hops.read dev _ _ d) fun _ => .pure _) fun _ => ?_
            exact .ite (fun _ => confined_reported _ _ _) fun _ => .pure _
      · obtain ⟨status, data⟩ := answer
        cases status <;> cases data <;> exact .pure _

theorem confined_i2cBusSpeed (speed : BitVec 32) :
    Confined (OnBoard r) (eBBTFUtilsI2cBusSpeed io speed) :=
  .bind confined_getI2cBus fun _ => .ite (fun _ => .pure _) fun _ =>
    .bind (confined_deref _) fun bus => .bind (confined_drive fun d => hio.getSpeed bus d) fun _ =>
      confined_drive fun d => hio.setSpeed bus speed d

theorem confined_cfgExpI2c1PinMux : Confined (OnBoard r) (cfgExpI2c1PinMux io.toI2cDriver) :=
  .bind (confined_drive fun d => hio.writel _ _ d) fun _ =>
    confined_drive fun d => hio.writel _ _ d

theorem confined_ds2321RtcInit {chip bus : BitVec 8} (speed : BitVec 32)
    (hsetup : ∀ t ∈ clockSetup bus chip, t.Within io.toI2cDriver r) :
    Confined (OnBoard r) (ds2321RtcInit io testId chip bus speed) := by
  refine .bind (confined_cfgExpI2c1PinMux hio) fun _ => ?_
  refine .bind (confined_setI2cBus hio _) fun _ => ?_
  refine .ite (fun _ => confined_reported _ _ _) fun _ => ?_
  refine .bind (confined_i2cBusSpeed hio speed) fun _ => ?_
  refine .ite (fun _ => confined_reported _ _ _) fun _ => ?_
  refine .bind (hsetup _ (.inl rfl)).confined_read fun _ => ?_
  refine .ite (fun _ => confined_reported _ _ _) fun _ => ?_
  refine .bind (hsetup _ (.inr ⟨_, rfl⟩)).confined_write fun _ => ?_
  exact .ite (fun _ => .pure _) fun _ => .pure _

omit hio in
theorem confined_readRtcReg {bus chip reg : BitVec 8}
    (h : (Transfer.read bus chip reg 1 1).Within io.toI2cDriver r) :
    Confined (OnBoard r) (readRtcReg io.toI2cDriver testId bus chip reg) :=
  .bind h.confined_read fun _ => .ite (fun _ => confined_reported _ _ _) fun _ => .pure _

omit hio in
theorem confined_writeRtcReg {bus chip reg : BitVec 8} (value : BitVec 8)
    (h : (Transfer.write bus chip reg 1 [bin2bcd value]
      (Transfer.length_singleton_lt _)).Within io.toI2cDriver r) :
    Confined (OnBoard r) (writeRtcReg io.toI2cDriver testId bus chip reg value) :=
  .bind h.confined_write fun _ => .ite (fun _ => confined_reported _ _ _) fun _ => .pure _

theorem confined_ds2321RtcGetTimeTest (arg : Option ADs2321RtcGetTimeTest)
    (h : ∀ t ∈ (SuiteTest.rtcGetTime arg).asks, t.Within io.toI2cDriver r) :
    Confined (OnBoard r) (ds2321RtcGetTimeTest io testId arg) := by
  cases arg with
  | none => exact confined_unconfigured _ _
  | some a =>
      have hread : ∀ reg ∈ clockRegs, Confined (OnBoard r)
          (readRtcReg io.toI2cDriver testId a.i2c_bus a.i2c_dev_addr reg) :=
        fun reg hreg => confined_readRtcReg (h _ (.inr ⟨reg, hreg, rfl⟩))
      refine .bind_check (confined_ds2321RtcInit hio _ fun t ht => h t (.inl ht)) ?_
      refine .bind_check (hread _ (by decide)) ?_
      exact .bind_check (hread _ (by decide)) (hread _ (by decide))

theorem confined_ds2321RtcSetTimeTest (arg : Option ADs2321RtcSetTimeTest)
    (h : ∀ t ∈ (SuiteTest.rtcSetTime arg).asks, t.Within io.toI2cDriver r) :
    Confined (OnBoard r) (ds2321RtcSetTimeTest io testId arg) := by
  cases arg with
  | none => exact confined_unconfigured _ _
  | some a =>
      have hwrite : ∀ reg ∈ clockRegs, ∀ value, Confined (OnBoard r)
          (writeRtcReg io.toI2cDriver testId a.i2c_bus a.i2c_dev_addr reg value) :=
        fun reg hreg value => confined_writeRtcReg value (h _ (.inr ⟨reg, hreg, _, rfl⟩))
      refine .ite (fun _ => confined_unconfigured _ _) fun _ => ?_
      refine .bind_check (confined_ds2321RtcInit hio _ fun t ht => h t (.inl ht)) ?_
      refine .bind_check (hwrite _ (by decide) _) ?_
      exact .bind_check (hwrite _ (by decide) _) (hwrite _ (by decide) _)

omit hio in
theorem confined_judgeProbe (a : AI2cInterfaceTest) (dev_id : ℕ) (probe_status : BitVec 32)
    (status : TestResultTypes) :
    Confined (OnBoard r) (judgeProbe testId a dev_id probe_status status :
      TestProg D TestResultTypes) := by
  unfold judgeProbe
  cases a.chip dev_id with
  | none => exact .ite (fun _ => confined_reported _ _ _) fun _ => .pure _
  | some chip =>
      refine .ite (fun _ => ?_) fun _ => .pure _
      exact .bind (confined_sprintfString _) fun _ =>
        .bind (confined_reportEventString _ _ _) fun _ => .pure _

theorem confined_scanBus (a : AI2cInterfaceTest) (dev_id n : ℕ) (status : TestResultTypes) :
    Confined (OnBoard r) (scanBus io testId a dev_id n status) := by
  induction n generalizing dev_id status with
  | zero => exact .pure status
  | succ n ih =>
      refine .bind confined_getI2cBus fun _ => .ite (fun _ => .pure _) fun _ => ?_
      refine .bind (confined_deref _) fun bus => ?_
      refine .bind (confined_drive fun d => hio.probe bus _ d) fun _ => ?_
      exact .bind (confined_judgeProbe a dev_id _ _) fun status' => ih (dev_id + 1) status'

theorem confined_i2cInterfaceTest (arg : Option AI2cInterfaceTest) :
    Confined (OnBoard r) (i2cInterfaceTest io testId arg) := by
  cases arg with
  | none => exact confined_unconfigured _ _
  | some a =>
      refine .bind (confined_setI2cBus hio _) fun _ => ?_
      exact .ite (fun _ => confined_reported _ _ _) fun _ => confined_scanBus hio a 0 _ _

omit hio in
theorem confined_readRails {a : APwrRailingsTest} {regs : List (BitVec 8)}
    (hregs : ∀ reg ∈ pmicStatusFlags :: regs,
      (Transfer.read a.i2c_bus_no a.i2c_dev_addr reg 1 1).Within io.toI2cDriver r)
    (status : TestResultTypes) :
    Confined (OnBoard r) (readRails io.toI2cDriver a regs status) := by
  induction regs generalizing status with
  | nil => exact .pure status
  | cons reg regs ih =>
      refine .bind (hregs reg (by simp)).confined_read fun _ => .ite (fun _ => .pure _) fun _ => ?_
      refine .bind (hregs _ List.mem_cons_self).confined_read fun _ => ?_
      refine .ite (fun _ => .pure _) fun _ => ih (fun reg' hreg' => hregs reg' ?_) _
      rcases List.mem_cons.mp hreg' with rfl | hmem
      · exact List.mem_cons_self
      · exact List.mem_cons_of_mem _ (List.mem_cons_of_mem _ hmem)

omit hio in
theorem confined_pwrRailingsTest (arg : Option APwrRailingsTest)
    (h : ∀ t ∈ (SuiteTest.pwrRailings arg).asks, t.Within io.toI2cDriver r) :
    Confined (OnBoard r) (pwrRailingsTest io.toI2cDriver arg) := by
  cases arg with
  | none => exact confined_unconfigured _ _
  | some a =>
      refine .ite (fun _ => .pure _) fun _ => ?_
      exact confined_readRails (fun reg hreg => h _ ⟨reg, hreg, rfl⟩) _

omit hio in
theorem confined_writePage {a : AEepromReadWriteTest}
    (h : ∀ t ∈ (SuiteTest.eepromReadWrite (some a)).asks, t.Within io.toI2cDriver r) {n : ℕ}
    (hn : n < testBufferLen / eepromPageLen) :
    Confined (OnBoard r) (writePage io.toI2cDriver a n) := by
  refine .bind .get fun s => ?_
  refine .bind (h _ ⟨n, hn, .inl ⟨_, ?_, rfl⟩⟩).confined_write fun _ => ?_
  · have hroom : (n + 1) * eepromPageLen ≤ testBufferLen :=
      (Nat.le_div_iff_mul_le (by decide)).mp hn
    rw [List.length_take, List.length_drop, Vector.length_toList]
    rw [Nat.succ_mul] at hroom
    omega
  · exact .ite (fun _ => .pure _) fun _ => .pure _

omit hio in
theorem confined_readPage {a : AEepromReadWriteTest}
    (h : ∀ t ∈ (SuiteTest.eepromReadWrite (some a)).asks, t.Within io.toI2cDriver r) {n : ℕ}
    (hn : n < testBufferLen / eepromPageLen) :
    Confined (OnBoard r) (readPage io.toI2cDriver a n) := by
  refine .bind (h _ ⟨n, hn, .inr rfl⟩).confined_read fun answer => ?_
  refine .bind ?_ fun _ => .ite (fun _ => .pure _) fun _ => .pure _
  obtain ⟨status, data⟩ := answer
  cases data with
  | none => exact .pure _
  | some data => exact confined_modify fun _ => rfl

theorem confined_eepromReadWriteTest (arg : Option AEepromReadWriteTest)
    (h : ∀ t ∈ (SuiteTest.eepromReadWrite arg).asks, t.Within io.toI2cDriver r) :
    Confined (OnBoard r) (eepromReadWriteTest io.toI2cDriver testId arg) := by
  cases arg with
  | none => exact confined_unconfigured _ _
  | some a =>
      refine .bind (confined_cfgExpI2c1PinMux hio) fun _ => ?_
      refine .bind (confined_modify fun _ => rfl) fun _ => ?_
      refine .bind (.searchFrom 0 _ fun n _ hn =>
        confined_writePage h (by rwa [Nat.zero_add] at hn)) fun broken => ?_
      cases broken with
      | some _ => exact confined_reported _ _ _
      | none =>
          refine .bind (.searchFrom 0 _ fun n _ hn =>
            confined_readPage h (by rwa [Nat.zero_add] at hn)) fun broken => ?_
          cases broken with
          | some _ => exact confined_reported _ _ _
          | none =>
              exact .bind .get fun s => .ite (fun _ => confined_reported _ _ _) fun _ => .pure _

end I2c

/-! ### Flash -/

section Flash

variable {io : SpiFlashDriver D} (hio : io.Within r)

include hio

theorem confined_spiPinMuxCfg : Confined (OnBoard r) (spiPinMuxCfg io) :=
  .bind (confined_drive fun d => hio.writel _ _ d) fun _ =>
    .bind (confined_drive fun d => hio.writel _ _ d) fun _ =>
      .bind (confined_drive fun d => hio.writel _ _ d) fun _ =>
        confined_drive fun d => hio.writel _ _ d

theorem confined_readInto (buf : TestBuf) (flash : Udevice) (offset len : BitVec 32) :
    Confined (OnBoard r) (readInto io buf flash offset len) := by
  refine .bind (confined_drive fun d => hio.read flash offset len d) fun _ => ?_
  refine .ite (fun _ => .bind (.throw _) fun _ => ?_) fun _ => ?_
  · exact .bind (confined_modify fun _ => rfl) fun _ => .pure _
  · exact .bind (confined_modify fun _ => rfl) fun _ => .pure _

theorem confined_writeBuf1 (flash : Udevice) (offset len : BitVec 32) :
    Confined (OnBoard r) (writeBuf1 io flash offset len) := by
  have hwrite : ∀ buf, Confined (OnBoard r) (drive (io.spiFlashWrite flash offset buf)) :=
    fun buf => confined_drive fun d => hio.write flash offset buf d
  refine .bind .get fun s => ?_
  exact .ite (fun _ => .bind (.throw _) fun _ => hwrite _) fun _ => hwrite _

theorem confined_spiFlashEraseReadWrite (offset len : BitVec 32) :
    Confined (OnBoard r) (spiFlashEraseReadWrite io offset len) := by
  refine .bind .get fun s => .bind (confined_deref _) fun flash => ?_
  refine .ite (fun _ => .pure _) fun _ => ?_
  refine .bind_check (confined_readInto hio _ _ _ _) ?_
  refine .bind_check (confined_drive fun d => hio.erase flash offset len d) ?_
  refine .bind_check (confined_writeBuf1 hio _ _ _) ?_
  refine .bind (confined_readInto hio _ _ _ _) fun _ => ?_
  refine .bind_check (confined_drive fun d => hio.erase flash offset _ d) ?_
  exact .bind .get fun s => .ite (fun _ => .pure _) fun _ => .pure _

theorem confined_spiNorInit (bus cs : BitVec 32) :
    Confined (OnBoard r) (spiNorInit io bus cs) := by
  refine .bind (confined_drive fun d => hio.find bus cs d) fun _ => ?_
  refine .bind ?_ fun _ => .bind (confined_modify fun _ => rfl) fun _ => ?_
  · refine .ite (fun _ => .pure _) fun _ => .bind (confined_deref _) fun new => ?_
    exact .bind (confined_drive fun d => hio.remove new d) fun _ => .pure _
  · refine .bind (confined_drive fun d => hio.probe bus cs d) fun _ => ?_
    exact .ite (fun _ => .pure _) fun _ => .bind (confined_modify fun _ => rfl) fun _ => .pure _

theorem confined_norFlashTest (arg : Option ANorFlashTest) :
    Confined (OnBoard r) (norFlashTest io testId arg) := by
  cases arg with
  | none => exact confined_unconfigured _ _
  | some a =>
      have hgivenUp : Confined (OnBoard r) (do
          reportEvent testId .busInit [a.spi_bus_no.setWidth 32]
          spiPinMuxCfg io
          return .fail : TestProg D TestResultTypes) :=
        .bind (confined_reportEvent _ _) fun _ => .bind (confined_spiPinMuxCfg hio) fun _ => .pure _
      refine .ite (fun _ => .pure _) fun _ => .bind (confined_spiPinMuxCfg hio) fun _ => ?_
      refine .bind (confined_spiNorInit hio _ _) fun _ => .ite (fun _ => hgivenUp) fun _ => ?_
      refine .bind (confined_spiFlashEraseReadWrite hio _ _) fun _ => ?_
      exact .ite (fun _ => hgivenUp) fun _ => .pure _

end Flash

/-! ### Memory -/

section Memory

variable {io : MemoryDriver D} (hio : io.Within r)

include hio

omit [IsPreorder D r] in
theorem confined_storeWord (addr value : BitVec 32) :
    Confined (OnBoard r) (storeWord io addr value) :=
  confined_drive fun d => hio.store addr value d

omit [IsPreorder D r] in
theorem confined_loadWord (addr : BitVec 32) : Confined (OnBoard r) (loadWord io addr) :=
  confined_drive fun d => hio.load addr d

omit [IsPreorder D r] in
theorem confined_flushDcacheAll : Confined (OnBoard r) (flushDcacheAll io) :=
  confined_drive fun d => hio.flush d

theorem confined_memoryDataLineTest (fuel : ℕ) (arg : Option AMemoryDataLineTest) :
    Confined (OnBoard r) (memoryDataLineTest io fuel testId arg) := by
  refine .bind (confined_deref arg) fun a => ?_
  refine .bind (.whileFuel (fun pat => ?_) fuel 1) fun broken => ?_
  · refine .bind (confined_storeWord hio _ _) fun _ => ?_
    refine .bind (confined_flushDcacheAll hio) fun _ => ?_
    refine .bind (confined_loadWord hio _) fun _ => ?_
    exact .ite (fun _ => confined_reported _ _ _) fun _ => .pure _
  · cases broken with
    | some status => exact .pure status
    | none => exact .pure _

/-- Where the check fires, the word is read again. -/
theorem confined_checkWord (addr : BitVec 32) (check : BitVec 32 → Prop) [DecidablePred check]
    (address : BitVec 32 → List (BitVec 32)) :
    Confined (OnBoard r) (checkWord io testId addr check address) := by
  refine .bind (confined_loadWord hio addr) fun _ => .ite (fun _ => ?_) fun _ => .pure _
  exact .bind (confined_loadWord hio addr) fun _ => confined_reported _ _ _

theorem confined_probePatB (fuel : ℕ) (mem_address mask offsetB : BitVec 32) :
    Confined (OnBoard r) (probePatB io fuel testId mem_address mask offsetB) := by
  refine .bind (confined_storeWord hio _ _) fun _ => .bind (confined_flushDcacheAll hio) fun _ => ?_
  refine .bind (confined_loadWord hio _) fun _ => .ite (fun _ => ?_) fun _ => ?_
  · exact .bind (confined_loadWord hio _) fun _ => confined_reported _ _ _
  · refine .bind (.whileFuel (fun offsetA => ?_) fuel 1) fun broken => ?_
    · rw [recheckPatA_eq]
      exact confined_checkWord hio _ _ _
    · cases broken with
      | some status => exact .pure _
      | none => exact .bind (confined_storeWord hio _ _) fun _ => .pure _

theorem confined_memoryAddressLineTest (fuel : ℕ) (arg : Option AMemoryAddressLineTest) :
    Confined (OnBoard r) (memoryAddressLineTest io fuel testId arg) := by
  refine .bind (confined_deref arg) fun a => ?_
  refine .bind (.whileFuel (fun offsetA => ?_) fuel 1) fun _ => ?_
  · exact .bind (confined_storeWord hio _ _) fun _ => .pure _
  refine .bind (confined_storeWord hio _ _) fun _ => .bind (confined_flushDcacheAll hio) fun _ => ?_
  refine .bind (.whileFuel (fun offsetA => ?_) fuel 1) fun broken => ?_
  · rw [checkPatA_eq]
    exact confined_checkWord hio _ _ _
  cases broken with
  | some status => exact .pure status
  | none =>
      refine .bind (confined_storeWord hio _ _) fun _ => ?_
      refine .bind (.whileFuel (fun offsetB => confined_probePatB hio fuel _ _ offsetB) fuel 1)
        fun broken => ?_
      cases broken with
      | some status => exact .pure status
      | none => exact .pure _

theorem confined_memoryPatternTest (arg : Option AMemoryPatternTest) :
    Confined (OnBoard r) (memoryPatternTest io testId arg) := by
  cases arg with
  | none => exact confined_unconfigured _ _
  | some a =>
      refine .bind (.forFrom (fun i _ => confined_storeWord hio _ _) _ _ _) fun _ => ?_
      refine .bind (.searchFrom 0 _ fun i _ _ => ?_) fun broken => ?_
      · refine .bind (confined_loadWord hio _) fun _ => ?_
        exact .ite (fun _ => confined_reported _ _ _) fun _ => .pure _
      · cases broken with
        | some status => exact .pure status
        | none => exact .pure _

end Memory

/-! ### The other peripherals -/

section Registers

variable {io : RegisterDriver D} (hio : io.Within r)

include hio

omit [IsPreorder D r] in
theorem confined_rawWritel (value addr : BitVec 32) :
    Confined (OnBoard r) (rawWritel io value addr) :=
  confined_drive fun d => hio.write value addr d

theorem confined_driveOutput (a : AGpioTest) : Confined (OnBoard r) (driveOutput io a) := by
  refine .bind (confined_drive fun d => hio.read _ d) fun _ => ?_
  refine .bind (confined_rawWritel hio _ _) fun _ => ?_
  refine .bind (confined_drive fun d => hio.read _ d) fun _ => .ite (fun _ => ?_) fun _ => ?_
  · refine .ite (fun _ => .pure _) fun _ => .bind (confined_rawWritel hio _ _) fun _ => ?_
    refine .bind (confined_drive fun d => hio.read _ d) fun _ => ?_
    exact .ite (fun _ => .pure _) fun _ => .pure _
  · refine .bind (confined_rawWritel hio _ _) fun _ => ?_
    refine .bind (confined_drive fun d => hio.read _ d) fun _ => ?_
    exact .ite (fun _ => .pure _) fun _ => .pure _

theorem confined_gpioTest (arg : Option AGpioTest) : Confined (OnBoard r) (gpioTest io arg) := by
  cases arg with
  | none => exact confined_unconfigured _ _
  | some a =>
      refine .bind (confined_rawWritel hio _ _) fun _ => ?_
      refine .bind (confined_rawWritel hio _ _) fun _ => ?_
      exact .ite (fun _ => confined_driveOutput hio a) fun _ => .pure _

end Registers

section Phy

variable {io : PhyDriver D} (hio : io.Within r)

include hio

omit [IsPreorder D r] in
theorem confined_miiphyWrite (a : AEthernetTest) (reg : BitVec 8) (value : BitVec 16) :
    Confined (OnBoard r) (miiphyWrite io a reg value) :=
  confined_drive fun d => hio.write _ _ _ _ d

theorem confined_miiphyRead (a : AEthernetTest) (reg : BitVec 8) (value : BitVec 16) :
    Confined (OnBoard r) (miiphyRead io a reg value) :=
  .bind (confined_drive fun d => hio.read _ _ _ d) fun _ => .pure _

theorem confined_negotiate (a : AEthernetTest) (advertise : BitVec 16) (v : LinkVals) :
    Confined (OnBoard r) (negotiate io a advertise v) := by
  refine .bind (confined_miiphyWrite hio _ _ _) fun _ => ?_
  refine .bind (confined_miiphyWrite hio _ _ _) fun _ => ?_
  refine .bind (confined_miiphyWrite hio _ _ _) fun _ => ?_
  refine .bind (confined_miiphyWrite hio _ _ _) fun _ => ?_
  refine .bind (.forFrom (fun _ _ => confined_drive fun d => hio.delay d) _ _ _) fun _ => ?_
  refine .bind (confined_miiphyRead hio _ _ _) fun _ => .ite (fun _ => ?_) fun _ => .pure _
  refine .bind (confined_miiphyRead hio _ _ _) fun _ => ?_
  exact .bind (confined_miiphyRead hio _ _ _) fun _ => .pure _

theorem confined_ethernetTest (arg : Option AEthernetTest) :
    Confined (OnBoard r) (ethernetTest io testId arg) := by
  cases arg with
  | none => exact confined_unconfigured _ _
  | some a =>
      refine .ite (fun _ => .pure _) fun _ => .bind (confined_miiphyRead hio _ _ _) fun _ => ?_
      refine .ite (fun _ => confined_reported _ _ _) fun _ => ?_
      refine .bind (confined_negotiate hio a _ _) fun _ => ?_
      refine .bind (confined_negotiate hio a _ _) fun _ => ?_
      refine .ite (fun _ => confined_reported _ _ _) fun _ => ?_
      refine .bind (confined_negotiate hio a _ _) fun _ => ?_
      refine .ite (fun _ => confined_reported _ _ _) fun _ => ?_
      refine .bind (confined_negotiate hio a _ _) fun _ => ?_
      exact .ite (fun _ => confined_reported _ _ _) fun _ => .pure _

end Phy

theorem confined_mmcDetectionTest {io : MmcDriver D} (hio : io.Within r)
    (arg : Option AMmcDetectionTest) :
    Confined (OnBoard r) (mmcDetectionTest io testId arg) := by
  cases arg with
  | none => exact confined_unconfigured _ _
  | some a =>
      refine .bind (.searchFrom 0 _ fun dev_id _ _ => ?_) fun found => ?_
      · refine .bind (confined_drive fun d => hio.find dev_id d) fun mmc => ?_
        cases mmc with
        | none => exact .pure _
        | some mmc =>
            refine .bind .get fun s => .bind (confined_deref _) fun _ => ?_
            exact .ite (fun _ => .pure _) fun _ => .pure _
      · cases found with
        | none => exact confined_reported _ _ _
        | some found =>
            refine .bind (confined_drive fun d => hio.clear _ d) fun _ => ?_
            refine .bind (confined_drive fun d => hio.init _ d) fun _ => ?_
            refine .ite (fun _ => confined_reported _ _ _) fun _ => .bind .get fun s => ?_
            exact .bind (confined_reportEventString _ _ _) fun _ => .pure _

theorem confined_mmcWriteReadTest (arg : Option AMmcWriteReadTest) :
    Confined (OnBoard r) (mmcWriteReadTest arg : TestProg D TestResultTypes) := by
  cases arg with
  | none => exact confined_unconfigured _ _
  | some a => exact .pure _

theorem confined_pingTest {io : NetDriver D} (hio : ∀ ip d, r d (io.netLoop ip d).2)
    (arg : Option APingTest) : Confined (OnBoard r) (pingTest io testId arg) := by
  refine .bind (confined_deref arg) fun a => .ite (fun _ => ?_) fun _ => ?_
  · exact .bind (confined_reportEventString _ _ _) fun _ => .pure _
  · refine .bind (confined_drive fun d => hio _ d) fun _ => .ite (fun _ => ?_) fun _ => .pure _
    refine .bind (confined_sprintfString _) fun _ => ?_
    exact .bind (confined_reportEventString _ _ _) fun _ => .pure _

/-- **Every test** is confined to what the drivers are confined to, if the transfers it may ask
for are, and if the NOR flash test is in case it is that. -/
theorem confined_call {io : Drivers D} (hrest : io.RestWithin r) (hi2c : io.i2c.Within r)
    (fuel : ℕ) (t : SuiteTest) (hasks : ∀ x ∈ t.asks, x.Within io.i2c.toI2cDriver r)
    (hflash : ∀ arg, t = .norFlash arg → Confined (OnBoard r) (norFlashTest io.flash testId arg)) :
    Confined (OnBoard r) (t.call io fuel testId) := by
  cases t with
  | i2cInterface arg => exact confined_i2cInterfaceTest hi2c arg
  | ping arg => exact confined_pingTest hrest.net arg
  | mmcDetection arg => exact confined_mmcDetectionTest hrest.mmc arg
  | mmcWriteRead arg => exact confined_mmcWriteReadTest arg
  | memoryDataLine arg => exact confined_memoryDataLineTest hrest.memory fuel arg
  | memoryAddressLine arg => exact confined_memoryAddressLineTest hrest.memory fuel arg
  | memoryPattern arg => exact confined_memoryPatternTest hrest.memory arg
  | gpio arg => exact confined_gpioTest hrest.registers arg
  | ethernet arg => exact confined_ethernetTest hrest.phy arg
  | pwrRailings arg => exact confined_pwrRailingsTest arg hasks
  | eepromReadWrite arg => exact confined_eepromReadWriteTest hi2c arg hasks
  | norFlash arg => exact hflash arg rfl
  | rtcSetTime arg => exact confined_ds2321RtcSetTimeTest hi2c arg hasks
  | rtcGetTime arg => exact confined_ds2321RtcGetTimeTest hi2c arg hasks

end Tests

/-! ## Sequences of commands -/

section Commands

variable {B : Build} {A E : Type}

/-- **Whatever moves a session makes**, the board goes where the functions of the tests take
it. -/
theorem Moves.rel_dev {R : Registry A E} {q : E → E → Prop} [IsPreorder E q]
    (h : ∀ reg ∈ R.suite B, ∀ f, reg.testFunction = some f → ∀ testId curTestId dev,
      q dev (f testId reg.testArgs curTestId dev).2.2)
    {a b : Session B A E} (hmoves : Moves R a b) : q a.dev b.dev := by
  induction hmoves with
  | refl => exact refl_of q _
  | tail _ hmove ih =>
      refine trans_of q ih ?_
      cases hmove with
      | quiet hquiet => exact hquiet.dev_eq ▸ refl_of q _
      | batch => exact refl_of q _
      | call hr hf => exact h _ (List.mem_of_getElem? hr) _ hf _ _ _

/-- The board after a call of a test. -/
theorem SuiteTest.dev_function (io : Drivers D) (fuel : ℕ) (testId : BitVec 32) (t : SuiteTest)
    (curTestId : BitVec 32) (s : Fixture D) :
    (SuiteTest.function io fuel testId t curTestId s).2.2 =
      left (t.call io fuel testId) { s with curTestId := curTestId, reports := [] } := by
  unfold SuiteTest.function
  split
  · next hrun => rw [left_of_ok hrun]
  · next hrun => rw [left_of_error hrun]

/-- The tests that are registered are tests of the suite, and each of them is confined. -/
structure Registry.Confined (R : Registry SuiteTest (Fixture D)) (B : Build) (io : Drivers D)
    (testFuel : ℕ) (r : D → D → Prop) : Prop where
  function : ∀ reg ∈ R.suite B, reg.testFunction = some (SuiteTest.function io testFuel)
  test : ∀ reg ∈ R.suite B, ∀ testId,
    Machine.Confined (OnBoard r) (reg.testArgs.call io testFuel testId)

/-- **Whatever commands are given**, the board stays where the tests are confined to; even if
the last command does not return. -/
theorem Registry.Confined.rel_dev {R : Registry SuiteTest (Fixture D)} {io : Drivers D}
    {testFuel : ℕ} {r : D → D → Prop} [IsPreorder D r] (hR : R.Confined B io testFuel r)
    {dev : Fixture D} {s : State B SuiteTest (Fixture D)} (h : Reachable R dev s) :
    r dev.dev s.dev.dev ∧
      ∀ fuel argv, r dev.dev (left (doBoarddiag fuel argv) s).dev.dev := by
  have hmoves : ∀ {a : Session B SuiteTest (Fixture D)}, Moves R (Session.start dev) a →
      r dev.dev a.dev.dev := by
    intro a ha
    refine Moves.rel_dev (q := OnBoard r) (fun reg hreg f hf testId curTestId d => ?_) ha
    obtain rfl := Option.some.inj (hf.symm.trans (hR.function reg hreg))
    rw [SuiteTest.dev_function]
    exact hR.test reg hreg testId { d with curTestId := curTestId, reports := [] }
  constructor
  · obtain ⟨a, hemb, ha⟩ := h.exists_session
    rw [hemb.dev_eq]
    exact hmoves ha
  · intro fuel argv
    obtain ⟨s', a, hemb, ha, hrun⟩ := h.exists_command fuel argv
    have hleft : left (doBoarddiag fuel argv) s = s' := by
      rcases hrun with hrun | hrun
      · exact left_of_ok hrun
      · exact left_of_error hrun
    rw [hleft, hemb.dev_eq]
    exact hmoves ha

/-- **What no driver does, no sequence of commands does.**  If the drivers take the board from
one state to another only as a preorder allows, and so do the transfers the registered tests may
ask for, then the board is, after any commands, in a state the preorder allows; even if the last
command does not return. -/
theorem within_of_reachable {R : Registry SuiteTest (Fixture D)} {io : Drivers D} (testFuel : ℕ)
    {r : D → D → Prop} (hrefl : ∀ d, r d d) (htrans : ∀ d d' d'', r d d' → r d' d'' → r d d'')
    (hio : io.Within r)
    (hfunction : ∀ reg ∈ R.suite B, reg.testFunction = some (SuiteTest.function io testFuel))
    (hasks : ∀ reg ∈ R.suite B, ∀ t ∈ reg.testArgs.asks, t.Within io.i2c.toI2cDriver r)
    {dev : Fixture D} {s : State B SuiteTest (Fixture D)} (h : Reachable R dev s) :
    r dev.dev s.dev.dev ∧
      ∀ fuel argv, r dev.dev (left (doBoarddiag fuel argv) s).dev.dev := by
  have hpreorder : IsPreorder D r := { refl := hrefl, trans := htrans }
  have hR : R.Confined B io testFuel r :=
    ⟨hfunction, fun reg hreg testId => confined_call hio.rest hio.i2c testFuel _ (hasks reg hreg)
      fun arg _ => confined_norFlashTest hio.flash arg⟩
  exact hR.rel_dev h

/-- On the dull board, it is never forgotten that a transfer has read from a chip. -/
theorem within_dullBoard : dullBoard.Within fun d d' => d = true → d' = true where
  i2c := ⟨fun _ _ _ h => h, fun _ _ h => h, fun _ _ h => h, fun _ _ _ h => h, fun _ _ _ h => h⟩
  flash := ⟨fun _ _ _ h => h, fun _ _ _ h => h, fun _ _ h => h, fun _ _ _ h => h,
    fun _ _ _ _ h => h, fun _ _ _ _ h => h, fun _ _ _ _ h => h⟩
  rest :=
    { memory := ⟨fun _ _ _ h => h, fun _ _ h => h, fun _ h => h⟩
      registers := ⟨fun _ _ _ h => h, fun _ _ h => h⟩
      phy := ⟨fun _ _ _ _ h => h, fun _ _ _ _ _ h => h, fun _ h => h⟩
      mmc := ⟨fun _ _ h => h, fun _ _ h => h, fun _ _ h => h⟩
      net := fun _ _ h => h }

theorem transfersWithin_dullBoard :
    dullBoard.i2c.TransfersWithin fun d d' => d = true → d' = true :=
  ⟨fun _ _ _ _ h => h, fun _ _ _ h => h, fun _ _ h => h, fun _ _ _ _ h => h,
    fun _ _ _ _ _ => rfl⟩

/-- Nor by a command, whether or not it returns. -/
theorem within_of_reachable_dull :
    (left (doBoarddiag 2 [.ofChars ['b', 'd'], wordRunAll])
      (State.boot (eepromSuite.registry dullBoard 33) (Fixture.atBoot true) :
        State smallBuild SuiteTest (Fixture Bool))).dev.dev = true := by
  have hpreorder : IsPreorder Bool fun d d' => d = true → d' = true :=
    { refl := fun _ h => h, trans := fun _ _ _ h h' hd => h' (h hd) }
  have hboot : Reachable (eepromSuite.registry dullBoard 33) (Fixture.atBoot true)
      (State.boot (eepromSuite.registry dullBoard 33) (Fixture.atBoot true) :
        State smallBuild SuiteTest (Fixture Bool)) := .refl
  refine (within_of_reachable 33 hpreorder.refl hpreorder.trans within_dullBoard ?_
    (fun _ _ t _ => t.within_of_ops within_dullBoard.i2c transfersWithin_dullBoard) hboot).2 _ _ rfl
  intro reg hreg
  obtain ⟨e, -, rfl⟩ := List.mem_map.mp hreg
  rfl

end Commands

end BoardDiag
