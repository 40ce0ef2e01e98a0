import BoardDiag.Machine.Registers
import BoardDiag.Suite.I2cDevices

/-!
# Setting and reading a clock

`ds2321_rtc_set_time_test` and `ds2321_rtc_get_time_test` each begin with
`ds2321_rtc_init`, which reads the control register and writes it back with three bits
set.  Then the one writes seconds, minutes and hours in binary-coded decimal, and the
other reads them and prints what it makes of them.  Any of the transfers can fail, and
after one that does, the test gives up and leaves the clock as it is.

The verdict of a test does not say how far it came, so the two tests are run here with
what they write and print: `ds2321RtcSetTime` and `ds2321RtcGetTime`.  Leaving that out
gives the tests back (`ds2321RtcSetTimeTest_eq`, `ds2321RtcGetTimeTest_eq`).

The clock is a chip on a bus, and all that is known of the drivers is `Clock`: transfers
with it may fail, and its registers hold what has been written.  What is observed of a
program is the list of writes to the clock that succeed.  Each function the tests are
made of is described by what it adds to that list, and `emits_perform_clock` puts these
together: what a call says it has done explains what has happened to the clock.

One thing has to be ruled out.  The utilities cut the code of a lookup down to eight bits,
so a lookup that fails with a multiple of 256 leaves them with the bus an earlier call has
selected (`Suite.Transfers`).  If that is another bus, they talk to another chip.  `OnBus`
says that this does not happen: no lookup fails that way, or no other bus is selected, as
right after boot.
-/

namespace BoardDiag

open Machine

variable {D : Type}

/-! ## The two tests, with what they write and print -/

/-- The fields of a time. -/
inductive RtcField where
  | sec | min | hour
  deriving DecidableEq

namespace RtcField

/-- The register of a field. -/
def reg : RtcField → BitVec 8
  | sec => ds2321RtcSecRegAddr
  | min => ds2321RtcMinRegAddr
  | hour => ds2321RtcHrRegAddr

/-- The largest value of a field. -/
def max : RtcField → ℕ
  | sec => 59
  | min => 59
  | hour => 23

/-- The value of a field in a configuration. -/
def value (a : ADs2321RtcSetTimeTest) : RtcField → BitVec 8
  | sec => a.sec_value
  | min => a.min_value
  | hour => a.hour_value

end RtcField

/-- `bcd2bin(val)`, as an `uint8_t`. -/
def bcd2bin (val : Byte) : BitVec 8 := (val &&& 0x0f) + (val >>> 4) * 10

/-- Read a register of the clock and convert what it holds, of which the lower seven bits
count. -/
def readRtcField (io : I2cDriver D) (testId : BitVec 32) (i2c_bus i2c_dev_addr : BitVec 8)
    (f : RtcField) : TestProg D (TestResultTypes × BitVec 8) := do
  let (status, data) ← eBBTFUtilsI2cRead io i2c_bus (i2c_dev_addr.setWidth 32) f.reg 1 1
  if status ≠ .pass then
    reportEvent testId .devRead (rtcAddress i2c_bus i2c_dev_addr f.reg)
    return (.fail, 0)
  return (status, bcd2bin (data.elim 0 (fun data => data 0) &&& 0x7f))

/-- `ds2321_rtc_get_time_test(testId, arg)`, with the time it prints, if it gets that far. -/
def ds2321RtcGetTime (io : I2cBusDriver D) (testId : BitVec 32)
    (arg : Option ADs2321RtcGetTimeTest) :
    TestProg D (TestResultTypes × Option (RtcField → BitVec 8)) := do
  match arg with
  | none =>
      testAssert .testDs2321Rtc 155
      return (.aborted, none)
  | some a =>
      let status ← ds2321RtcInit io testId a.i2c_dev_addr a.i2c_bus a.i2c_speed
      if status ≠ .pass then
        return (.fail, none)
      let (status, sec) ← readRtcField io.toI2cDriver testId a.i2c_bus a.i2c_dev_addr .sec
      if status ≠ .pass then
        return (.fail, none)
      let (status, min) ← readRtcField io.toI2cDriver testId a.i2c_bus a.i2c_dev_addr .min
      if status ≠ .pass then
        return (.fail, none)
      let (status, hour) ← readRtcField io.toI2cDriver testId a.i2c_bus a.i2c_dev_addr .hour
      if status ≠ .pass then
        return (status, none)
      return (status, some fun
        | .sec => sec
        | .min => min
        | .hour => hour)

/-- `ds2321_rtc_set_time_test(testId, arg)`, with the values whose registers it has written. -/
def ds2321RtcSetTime (io : I2cBusDriver D) (testId : BitVec 32)
    (arg : Option ADs2321RtcSetTimeTest) :
    TestProg D (TestResultTypes × List (RtcField × BitVec 8)) := do
  match arg with
  | none =>
      testAssert .testDs2321Rtc 230
      return (.aborted, [])
  | some a =>
      if 59 < a.sec_value ∨ 59 < a.min_value ∨ 23 < a.hour_value then
        testAssert .testDs2321Rtc 236
        return (.aborted, [])
      let status ← ds2321RtcInit io testId a.i2c_dev_addr a.i2c_bus a.i2c_speed
      if status ≠ .pass then
        return (.fail, [])
      let status ← writeRtcReg io.toI2cDriver testId a.i2c_bus a.i2c_dev_addr
        ds2321RtcSecRegAddr a.sec_value
      if status ≠ .pass then
        return (.fail, [])
      let status ← writeRtcReg io.toI2cDriver testId a.i2c_bus a.i2c_dev_addr
        ds2321RtcMinRegAddr a.min_value
      if status ≠ .pass then
        return (.fail, [(.sec, a.sec_value)])
      let status ← writeRtcReg io.toI2cDriver testId a.i2c_bus a.i2c_dev_addr
        ds2321RtcHrRegAddr a.hour_value
      if status ≠ .pass then
        return (status, [(.sec, a.sec_value), (.min, a.min_value)])
      return (status, [(.sec, a.sec_value), (.min, a.min_value), (.hour, a.hour_value)])

theorem readRtcReg_eq (io : I2cDriver D) (testId : BitVec 32) (i2c_bus i2c_dev_addr : BitVec 8)
    (f : RtcField) :
    readRtcReg io testId i2c_bus i2c_dev_addr f.reg =
      Prod.fst <$> readRtcField io testId i2c_bus i2c_dev_addr f := by
  simp only [readRtcReg, readRtcField, map_bind, apply_ite (Prod.fst <$> ·), map_pure]

/-- **Reading the time** is the test, if what it prints is left out. -/
theorem ds2321RtcGetTimeTest_eq (io : I2cBusDriver D) (testId : BitVec 32)
    (arg : Option ADs2321RtcGetTimeTest) :
    ds2321RtcGetTimeTest io testId arg = Prod.fst <$> ds2321RtcGetTime io testId arg := by
  cases arg with
  | none => rfl
  | some a =>
      have hread := fun f =>
        readRtcReg_eq io.toI2cDriver testId a.i2c_bus a.i2c_dev_addr f
      simp only [RtcField.reg] at hread
      simp only [ds2321RtcGetTimeTest, ds2321RtcGetTime, hread .sec, hread .min, hread .hour,
        bind_map_left, map_bind, apply_ite (Prod.fst <$> ·), map_pure, ite_self, bind_pure_comp]

/-- **Setting the time** is the test, if what it has written is left out. -/
theorem ds2321RtcSetTimeTest_eq (io : I2cBusDriver D) (testId : BitVec 32)
    (arg : Option ADs2321RtcSetTimeTest) :
    ds2321RtcSetTimeTest io testId arg = Prod.fst <$> ds2321RtcSetTime io testId arg := by
  cases arg with
  | none => rfl
  | some a =>
      simp only [ds2321RtcSetTimeTest, ds2321RtcSetTime, map_bind, apply_ite (Prod.fst <$> ·),
        map_pure, ite_self, bind_pure]

/-! ## A clock on a bus -/

/-- **A clock that holds what is written to it.**  It is the chip with the address `chip` on
the bus with the number `bus`; `IsBus` and `IsClock` are the handles U-Boot has for the
two.  A transfer with the clock may fail with any code.  A write that succeeds changes the
register it is for, a read that succeeds delivers what the register holds, and nothing else
changes a register. -/
structure I2cBusDriver.Clock (io : I2cBusDriver D) (bus chip : BitVec 8)
    (regs : D → BitVec 8 → Byte) (IsBus IsClock : Udevice → Prop) : Prop where
  lookup : ∀ b d, (io.uclassGetDeviceBySeq (bus.setWidth 32) d).1 = (0, some b) → IsBus b
  getChip : ∀ b dev d, IsBus b →
    (io.i2cGetChip b (chip.setWidth 32) 1 d).1.2 = some dev → IsClock dev
  write : ∀ dev reg byte d, IsClock dev →
    regs (io.dmI2cWrite dev (BitVec.setWidth 32 reg) [byte] d).2 =
      if (io.dmI2cWrite dev (BitVec.setWidth 32 reg) [byte] d).1 = 0 then
        Function.update (regs d) reg byte
      else regs d
  read : ∀ dev reg d, IsClock dev → (io.dmI2cRead dev (BitVec.setWidth 32 reg) 1 d).1.1 = 0 →
    (io.dmI2cRead dev (BitVec.setWidth 32 reg) 1 d).1.2 0 = regs d reg
  writel_still : ∀ value addr d, regs (io.writel value addr d) = regs d
  lookup_still : ∀ seq d, regs (io.uclassGetDeviceBySeq seq d).2 = regs d
  getChip_still : ∀ b chip_addr offset_len d,
    regs (io.i2cGetChip b chip_addr offset_len d).2 = regs d
  offsetLen_still : ∀ dev offset_len d, regs (io.i2cSetChipOffsetLen dev offset_len d).2 = regs d
  wrAddress_still : ∀ dev d, regs (io.setWrAddress dev d) = regs d
  read_still : ∀ dev offset len d, regs (io.dmI2cRead dev offset len d).2 = regs d
  getSpeed_still : ∀ b d, regs (io.dmI2cGetBusSpeed b d).2 = regs d
  setSpeed_still : ∀ b speed d, regs (io.dmI2cSetBusSpeed b speed d).2 = regs d

/-- The utilities do not go on with another bus than the clock's: either a lookup that fails
is seen to fail, or the bus that is selected, if there is one, is the clock's. -/
def Fixture.OnBus (io : I2cBusDriver D) (bus : BitVec 8) (IsBus : Udevice → Prop)
    (s : Fixture D) : Prop :=
  (∀ d, (io.uclassGetDeviceBySeq (bus.setWidth 32) d).1.1.setWidth 8 = 0#8 →
    (io.uclassGetDeviceBySeq (bus.setWidth 32) d).1.1 = 0) ∨
  ∀ b, s.i2cCurBus = some b → IsBus b

/-- What is seen of a run: the writes to registers of the clock that succeed. -/
def clocked (io : I2cBusDriver D) (bus : BitVec 8) (regs : D → BitVec 8 → Byte)
    (IsBus : Udevice → Prop) : Observation (Fixture D) (BitVec 8 × Byte) where
  inv s := s.OnBus io bus IsBus
  sees s l s' := regs s'.dev = applyWrites l (regs s.dev) ∧
    (s.OnBus io bus IsBus → s'.OnBus io bus IsBus)
  refl _ := ⟨rfl, fun h => h⟩
  trans h₁ h₂ := ⟨by rw [h₂.1, h₁.1, applyWrites_append], fun h => h₂.2 (h₁.2 h)⟩
  keeps hinv h := h.2 hinv

section Transfers

variable {io : I2cBusDriver D} {bus chip : BitVec 8} {regs : D → BitVec 8 → Byte}
  {IsBus IsClock : Udevice → Prop} {stop : Prop} {ρ : BitVec 8 → Byte}

/-- A step that changes neither the registers nor the bus that is selected. -/
theorem emits_still {α : Type} {P : Fixture D → Prop} {x : TestProg D α} {Q : α → Fixture D → Prop}
    (h : ∀ s, P s → ∃ a s', x.run s = .ok a s' ∧ regs s'.dev = regs s.dev ∧
      s'.i2cCurBus = s.i2cCurBus ∧ Q a s') :
    Emits (clocked io bus regs IsBus) stop P x fun a l s => l = [] ∧ Q a s := by
  intro s _ hs
  obtain ⟨a, s', hrun, hregs, hcur, hQ⟩ := h s hs
  refine .inl ⟨a, s', [], hrun, ⟨hregs, fun hbus => ?_⟩, rfl, hQ⟩
  unfold Fixture.OnBus
  rw [hcur]
  exact hbus

/-- Asking the drivers something that does not concern the registers. -/
theorem emits_drive_still {α : Type} {f : D → α × D} {A : α → Prop}
    (hf : ∀ d, regs (f d).2 = regs d) (hA : ∀ d, regs d = ρ → A (f d).1) :
    Emits (clocked io bus regs IsBus) stop (fun s => regs s.dev = ρ) (drive f)
      fun a l s => l = [] ∧ A a ∧ regs s.dev = ρ :=
  emits_still fun s hs => ⟨_, _, rfl, hf s.dev, rfl, hA s.dev hs, (hf s.dev).trans hs⟩

theorem emits_drive_quiet {α : Type} {f : D → α × D} (hf : ∀ d, regs (f d).2 = regs d) :
    Emits (clocked io bus regs IsBus) stop (fun s => regs s.dev = ρ) (drive f)
      fun _ l s => l = [] ∧ regs s.dev = ρ :=
  emits_still fun s hs => ⟨_, _, rfl, hf s.dev, rfl, (hf s.dev).trans hs⟩

theorem emits_reportEvent_still (testId : BitVec 32) (eventType : DiagErrEventIDTypes)
    (address : List (BitVec 32)) :
    Emits (clocked io bus regs IsBus) stop (fun s => regs s.dev = ρ)
      (reportEvent testId eventType address) fun _ l s => l = [] ∧ regs s.dev = ρ :=
  emits_still fun _ hs => ⟨_, _, rfl, rfl, rfl, hs⟩

theorem emits_testAssert_still (file : SourceFile) (line : ℕ) :
    Emits (clocked io bus regs IsBus) stop (fun s => regs s.dev = ρ) (testAssert file line)
      fun _ l s => l = [] ∧ regs s.dev = ρ :=
  emits_still fun _ hs => ⟨_, _, rfl, rfl, rfl, hs⟩

theorem emits_deref_still {α : Type} {p : Option α} (h : p = none → stop) :
    Emits (clocked io bus regs IsBus) stop (fun s => regs s.dev = ρ) (deref p)
      fun a l s => l = [] ∧ p = some a ∧ regs s.dev = ρ := by
  cases p with
  | none => exact .outOfBounds (h rfl)
  | some a => exact .pure fun s hs => ⟨rfl, rfl, hs⟩

variable (hclock : io.Clock bus chip regs IsBus IsClock)
include hclock

/-- A lookup leaves the registers alone, and the bus that is selected after it is the
clock's, if the one before was. -/
theorem lookup_clock {s : Fixture D} {ret : BitVec 32} {found : Option Udevice} {d : D}
    (hlookup : io.uclassGetDeviceBySeq (bus.setWidth 32) s.dev = ((ret, found), d)) :
    regs d = regs s.dev ∧ ((∀ b, s.i2cCurBus = some b → IsBus b) →
      ∀ b, (if ret = 0 then found else s.i2cCurBus) = some b → IsBus b) := by
  constructor
  · have hstill := hclock.lookup_still (bus.setWidth 32) s.dev
    rwa [hlookup] at hstill
  · intro hcur b hb
    by_cases hret : ret = 0
    · rw [if_pos hret] at hb
      exact hclock.lookup b s.dev (by rw [hlookup, hret, hb])
    · rw [if_neg hret] at hb
      exact hcur b hb

/-- Looking up the bus. -/
theorem emits_setI2cBus_clock :
    Emits (clocked io bus regs IsBus) stop (fun s => regs s.dev = ρ)
      (eBBTFUtilsSetI2cBus io.toI2cDriver (bus.setWidth 32))
      fun _ l s => l = [] ∧ regs s.dev = ρ := by
  intro s _ hs
  rcases hlookup : io.uclassGetDeviceBySeq (bus.setWidth 32) s.dev with ⟨⟨ret, found⟩, d⟩
  obtain ⟨hregs, hcur⟩ := lookup_clock hclock hlookup
  exact .inl ⟨ret, _, [], run_eBBTFUtilsSetI2cBus hlookup, ⟨hregs, Or.imp_right hcur⟩, rfl,
    hregs.trans hs⟩

/-- **Selecting the bus**: there is none to go on with, or it is the clock's. -/
theorem emits_selectBus_clock :
    Emits (clocked io bus regs IsBus) stop (fun s => regs s.dev = ρ)
      (selectBus io.toI2cDriver bus)
      fun r l s => l = [] ∧ (∀ b, r = some b → IsBus b) ∧ regs s.dev = ρ := by
  intro s hbus hs
  rcases hlookup : io.uclassGetDeviceBySeq (bus.setWidth 32) s.dev with ⟨⟨ret, found⟩, d⟩
  obtain ⟨hregs, hcur⟩ := lookup_clock hclock hlookup
  by_cases hlow : ret.setWidth 8 = 0
  · refine .inl ⟨_, _, [], run_selectBus_of_code hlookup hlow, ⟨hregs, Or.imp_right hcur⟩, rfl, ?_,
      hregs.trans hs⟩
    rcases hbus with hconv | hbus
    · -- the code is zero, so the bus has just been found
      have hret : ret = 0 := by
        have hcode := hconv s.dev
        rw [hlookup] at hcode
        exact hcode hlow
      rw [if_pos hret]
      rintro b rfl
      exact hclock.lookup b s.dev (by rw [hlookup, hret])
    · exact hcur hbus
  · exact .inl ⟨_, _, [], run_selectBus_of_error hlookup hlow, ⟨hregs, fun h => h⟩, rfl, nofun,
      hregs.trans hs⟩

/-- Finding the clock on its bus. -/
theorem emits_getChip_clock (hstop : ¬ io.ChipsFound → stop) {b : Udevice} (hb : IsBus b) :
    Emits (clocked io bus regs IsBus) stop (fun s => regs s.dev = ρ)
      (drive (io.i2cGetChip b (chip.setWidth 32) 1))
      fun r l s => l = [] ∧ ((∀ dev, r.2 = some dev → IsClock dev) ∧ (r.2 = none → stop)) ∧
        regs s.dev = ρ := by
  refine emits_drive_still (hclock.getChip_still b _ _) fun d _ =>
    ⟨fun dev => hclock.getChip b dev d hb, fun hnone => hstop fun hfound => ?_⟩
  have hsome := hfound b (chip.setWidth 32) 1 d
  rw [hnone] at hsome
  exact Bool.noConfusion hsome

/-- Setting the length of its addresses. -/
theorem emits_setChipOffsetLen_clock {dev : Option Udevice} (hdev : dev = none → stop)
    (ret addr_offset_len : BitVec 32) :
    Emits (clocked io bus regs IsBus) stop (fun s => regs s.dev = ρ)
      (setChipOffsetLen io.toI2cDriver ret dev addr_offset_len)
      fun _ l s => l = [] ∧ regs s.dev = ρ := by
  unfold setChipOffsetLen
  refine .ite (fun _ => .pure fun _ hs => ⟨rfl, hs⟩) fun _ => ?_
  refine .bind_silent (emits_deref_still hdev) fun dev => .of_fact fun _ => ?_
  exact emits_drive_quiet (hclock.offsetLen_still dev _)

/-- **A read of a register of the clock** delivers what the register holds, or fails. -/
theorem emits_i2cRead_clock (hstop : ¬ io.ChipsFound → stop) (reg : BitVec 8) :
    Emits (clocked io bus regs IsBus) stop (fun s => regs s.dev = ρ)
      (eBBTFUtilsI2cRead io.toI2cDriver bus (chip.setWidth 32) reg 1 1)
      fun r l s => l = [] ∧ (r.1 = .pass → ∃ data, r.2 = some data ∧ data 0 = ρ reg) ∧
        regs s.dev = ρ := by
  unfold eBBTFUtilsI2cRead
  refine .bind_silent (emits_selectBus_clock hclock) fun b => .of_fact fun hb => ?_
  cases b with
  | none => exact .pure fun _ hs => ⟨rfl, nofun, hs⟩
  | some b =>
      refine .bind_silent (emits_getChip_clock hclock hstop (hb b rfl)) fun a =>
        .of_fact fun ha => ?_
      obtain ⟨ret, dev⟩ := a
      refine .bind_silent (emits_setChipOffsetLen_clock hclock ha.2 ret 1) fun ret => ?_
      refine .bind_silent (I := fun r s => (r.1 = 0 → ∃ data, r.2 = some data ∧ data 0 = ρ reg) ∧
        regs s.dev = ρ) ?_ fun r => .of_fact fun hr => .ite (fun _ => ?_) fun hret => ?_
      · unfold readChip
        refine .ite (fun hret => .pure fun _ hs => ⟨rfl, fun h => absurd h hret, hs⟩) fun _ => ?_
        refine .bind_silent (emits_deref_still ha.2) fun dev' => .of_fact fun hdev => ?_
        refine .bind_silent (emits_drive_still (A := fun r => r.1 = 0 → r.2 0 = ρ reg)
          (hclock.read_still dev' _ _) fun d hd hret => ?_) fun r => .pure fun _ hs => ?_
        · exact (hclock.read dev' reg d (ha.1 dev' hdev) hret).trans (congrFun hd reg)
        · exact ⟨rfl, fun hret => ⟨r.2, rfl, hs.1 hret⟩, hs.2⟩
      · exact .bind_silent (emits_reportEvent_still _ _ _) fun _ =>
          .pure fun _ hs => ⟨rfl, nofun, hs⟩
      · exact .pure fun _ hs => ⟨rfl, fun _ => hr (not_not.mp hret), hs⟩

/-- Writing a byte to the clock. -/
theorem emits_dmI2cWrite_clock {dev : Udevice} (hdev : IsClock dev) (reg : BitVec 8)
    (byte : Byte) :
    Emits (clocked io bus regs IsBus) stop (fun s => regs s.dev = ρ)
      (drive (io.dmI2cWrite dev (reg.setWidth 32) [byte]))
      fun ret l s => l = (if ret = 0 then [(reg, byte)] else []) ∧
        regs s.dev = applyWrites l ρ := by
  intro s _ hs
  have hregs : regs (io.dmI2cWrite dev (reg.setWidth 32) [byte] s.dev).2 =
      applyWrites (if (io.dmI2cWrite dev (reg.setWidth 32) [byte] s.dev).1 = 0 then
        [(reg, byte)] else []) (regs s.dev) := by
    rw [hclock.write dev reg byte s.dev hdev]
    split <;> rfl
  exact .inl ⟨_, _, _, rfl, ⟨hregs, fun h => h⟩, rfl, hregs.trans (congrArg _ hs)⟩

/-- **A write to a register of the clock** is seen exactly if it passes. -/
theorem emits_i2cWrite_clock (hstop : ¬ io.ChipsFound → stop) (reg : BitVec 8) (byte : Byte) :
    Emits (clocked io bus regs IsBus) stop (fun s => regs s.dev = ρ)
      (eBBTFUtilsI2cWrite io.toI2cDriver bus (chip.setWidth 32) reg 1 [byte])
      fun r l s => (r = .pass ∧ l = [(reg, byte)] ∨ r = .fail ∧ l = []) ∧
        regs s.dev = applyWrites l ρ := by
  unfold eBBTFUtilsI2cWrite
  refine .bind_silent (emits_selectBus_clock hclock) fun b => .of_fact fun hb => ?_
  cases b with
  | none => exact .pure fun _ hs => ⟨.inr ⟨rfl, rfl⟩, hs⟩
  | some b =>
      refine .bind_silent (emits_getChip_clock hclock hstop (hb b rfl)) fun a =>
        .of_fact fun ha => ?_
      obtain ⟨ret, dev⟩ := a
      refine .bind_silent (emits_setChipOffsetLen_clock hclock ha.2 ret 1) fun ret => ?_
      refine .bind_silent (emits_deref_still ha.2) fun dev' => .of_fact fun hdev => ?_
      refine .bind_silent (emits_drive_quiet (hclock.wrAddress_still dev')) fun _ => ?_
      refine .bind (emits_dmI2cWrite_clock hclock (ha.1 dev' hdev) reg byte) fun ret l =>
        .of_fact fun hl => .ite (fun hret => ?_) fun hret => ?_
      · rw [if_neg hret] at hl
        subst hl
        exact .bind_silent (emits_reportEvent_still _ _ _) fun _ =>
          .pure fun _ hs => ⟨.inr ⟨rfl, rfl⟩, hs⟩
      · rw [if_pos (not_not.mp hret)] at hl
        subst hl
        exact .pure fun _ hs => ⟨.inl ⟨rfl, rfl⟩, hs⟩

omit hclock in
theorem emits_getI2cBus_still :
    Emits (clocked io bus regs IsBus) stop (fun s => regs s.dev = ρ) eBBTFUtilsGetI2cBus
      fun r l s => l = [] ∧ (r.1 = 0 → ∃ b, r.2 = some b) ∧ regs s.dev = ρ := by
  unfold eBBTFUtilsGetI2cBus
  refine .bind_silent (I := fun _ s => regs s.dev = ρ) (.get fun _ hs => ⟨rfl, hs⟩) fun t => ?_
  cases t.i2cCurBus with
  | none => exact .pure fun _ hs => ⟨rfl, fun h => absurd h (by decide), hs⟩
  | some b => exact .pure fun _ hs => ⟨rfl, fun _ => ⟨b, rfl⟩, hs⟩

/-- Setting the speed of the bus. -/
theorem emits_i2cBusSpeed_clock (speed : BitVec 32) :
    Emits (clocked io bus regs IsBus) stop (fun s => regs s.dev = ρ)
      (eBBTFUtilsI2cBusSpeed io speed) fun _ l s => l = [] ∧ regs s.dev = ρ := by
  unfold eBBTFUtilsI2cBusSpeed
  refine .bind_silent emits_getI2cBus_still fun r => .of_fact fun hr => ?_
  refine .ite (fun _ => .pure fun _ hs => ⟨rfl, hs⟩) fun hret => ?_
  refine .bind_silent (emits_deref_still fun hnone => ?_) fun b => .of_fact fun _ => ?_
  · obtain ⟨b, hb⟩ := hr (not_not.mp hret)
    rw [hnone] at hb
    cases hb
  · exact .bind_silent (emits_drive_quiet (hclock.getSpeed_still b)) fun _ =>
      emits_drive_quiet (hclock.setSpeed_still b speed)

end Transfers

/-! ## What a call does to the clock -/

/-- `DS2321_SELECT_EXT_CLK | DS2321_SELECT_EXT_32KHZ`: the bits the set-up sets. -/
def rtcSetup : Byte := 0x1C

/-- What the set-up writes, if it gets that far: the control register with three bits set. -/
def SetsUp (ρ : BitVec 8 → Byte) (l : List (BitVec 8 × Byte)) : Prop :=
  l = [] ∨ l = [(ds2321RtcCtlStatusRegAddr, ρ ds2321RtcCtlStatusRegAddr ||| rtcSetup)]

/-- What writing a field comes to on the bus. -/
def RtcField.encode (w : RtcField × BitVec 8) : BitVec 8 × Byte := (w.1.reg, bin2bcd w.2)

theorem RtcField.reg_ne_ctl (f : RtcField) : f.reg ≠ ds2321RtcCtlStatusRegAddr := by
  cases f <;> decide

/-- The set-up changes no register of the time. -/
theorem SetsUp.lastWrite_reg {ρ : BitVec 8 → Byte} {l : List (BitVec 8 × Byte)}
    (h : SetsUp ρ l) (f : RtcField) : lastWrite f.reg l = none := by
  rcases h with rfl | rfl
  · rfl
  · exact if_neg (Ne.symm f.reg_ne_ctl)

/-- What is made of the registers of the time. -/
def rtcShown (ρ : BitVec 8 → Byte) (f : RtcField) : BitVec 8 := bcd2bin (ρ f.reg &&& 0x7f)

/-- A call of one of the two tests. -/
inductive RtcCall where
  | set (testId : BitVec 32) (arg : Option ADs2321RtcSetTimeTest)
  | get (testId : BitVec 32) (arg : Option ADs2321RtcGetTimeTest)

/-- The call is for the clock at an address. -/
def RtcCall.On (bus chip : BitVec 8) : RtcCall → Prop
  | set _ arg => ∀ a ∈ arg, a.i2c_bus = bus ∧ a.i2c_dev_addr = chip
  | get _ arg => ∀ a ∈ arg, a.i2c_bus = bus ∧ a.i2c_dev_addr = chip

/-- What comes of a call: its verdict, and the values it has written or the time it has
printed. -/
inductive RtcDone where
  | set (status : TestResultTypes) (written : List (RtcField × BitVec 8))
  | get (status : TestResultTypes) (shown : Option (RtcField → BitVec 8))

/-- The values a call has written. -/
def RtcDone.written : RtcDone → List (RtcField × BitVec 8)
  | set _ written => written
  | get _ _ => []

/-- Make a call. -/
def RtcCall.perform (io : I2cBusDriver D) : RtcCall → TestProg D RtcDone
  | set testId arg => do
      let (status, written) ← ds2321RtcSetTime io testId arg
      return .set status written
  | get testId arg => do
      let (status, shown) ← ds2321RtcGetTime io testId arg
      return .get status shown

/-- **What comes of a call explains the writes to the clock** that succeed during it: the
set-up, and then the values the call says it has written, which are values of their
fields.  A set that is aborted makes none, and a get that passes has printed what the
registers hold. -/
inductive RtcDone.Explains (ρ : BitVec 8 → Byte) : RtcDone → List (BitVec 8 × Byte) → Prop
  | set {status : TestResultTypes} {written : List (RtcField × BitVec 8)}
      {setup : List (BitVec 8 × Byte)} (hsetup : SetsUp ρ setup)
      (hfits : ∀ w ∈ written, w.2.toNat ≤ w.1.max)
      (haborted : status = .aborted → setup = [] ∧ written = []) :
      Explains ρ (.set status written) (setup ++ written.map RtcField.encode)
  | get {status : TestResultTypes} {shown : Option (RtcField → BitVec 8)}
      {setup : List (BitVec 8 × Byte)} (hsetup : SetsUp ρ setup)
      (hshown : status = .pass → shown = some (rtcShown ρ)) :
      Explains ρ (.get status shown) setup

section Calls

variable {io : I2cBusDriver D} {bus chip : BitVec 8} {regs : D → BitVec 8 → Byte}
  {IsBus IsClock : Udevice → Prop} {stop : Prop} {ρ : BitVec 8 → Byte}
  (hclock : io.Clock bus chip regs IsBus IsClock) (hstop : ¬ io.ChipsFound → stop)
include hclock hstop

/-- **The set-up.** -/
theorem emits_init_clock (testId speed : BitVec 32) :
    Emits (clocked io bus regs IsBus) stop (fun s => regs s.dev = ρ)
      (ds2321RtcInit io testId chip bus speed)
      fun _ l s => SetsUp ρ l ∧ regs s.dev = applyWrites l ρ := by
  have hgiveUp : ∀ eventType address, Emits (clocked io bus regs IsBus) stop
      (fun s => regs s.dev = ρ) (do reportEvent testId eventType address; return .fail)
      fun (_ : TestResultTypes) l s => SetsUp ρ l ∧ regs s.dev = applyWrites l ρ :=
    fun _ _ => .bind_silent (emits_reportEvent_still _ _ _) fun _ => .pure fun _ hs =>
      ⟨.inl rfl, hs⟩
  unfold ds2321RtcInit cfgExpI2c1PinMux
  refine .bind_silent (.bind_silent (emits_drive_quiet (hclock.writel_still _ _)) fun _ =>
    emits_drive_quiet (hclock.writel_still _ _)) fun _ => ?_
  refine .bind_silent (emits_setI2cBus_clock hclock) fun _ =>
    .ite (fun _ => hgiveUp _ _) fun _ => ?_
  refine .bind_silent (emits_i2cBusSpeed_clock hclock speed) fun _ =>
    .ite (fun _ => hgiveUp _ _) fun _ => ?_
  refine .bind_silent (emits_i2cRead_clock hclock hstop ds2321RtcCtlStatusRegAddr) fun r =>
    .of_fact fun hr => ?_
  obtain ⟨status, data⟩ := r
  refine .ite (fun _ => hgiveUp _ _) fun hpass => ?_
  obtain ⟨data, rfl, hdata⟩ := hr (not_not.mp hpass)
  -- the register is written back as it was read, with the bits of the set-up
  have hval : data 0 ||| ds2321SelectExtClk ||| ds2321SelectExt32khz =
      ρ ds2321RtcCtlStatusRegAddr ||| rtcSetup := by
    rw [hdata, BitVec.or_assoc]
    rfl
  refine .bind (emits_i2cWrite_clock hclock hstop _ _) fun status l => .of_fact fun hl => ?_
  have hsetsUp : SetsUp ρ l := by
    rcases hl with ⟨-, rfl⟩ | ⟨-, rfl⟩
    · exact .inr (by rw [← hval]; rfl)
    · exact .inl rfl
  have hdone : ∀ r : TestResultTypes, Emits (clocked io bus regs IsBus) stop
      (fun s => regs s.dev = applyWrites l ρ) (pure r)
      fun _ m s => SetsUp ρ (l ++ m) ∧ regs s.dev = applyWrites (l ++ m) ρ :=
    fun _ => .pure fun s hs => by rw [List.append_nil]; exact ⟨hsetsUp, hs⟩
  exact .ite (fun _ => hdone _) fun _ => hdone _

/-- Reading a field. -/
theorem emits_readRtcField_clock (testId : BitVec 32) (f : RtcField) :
    Emits (clocked io bus regs IsBus) stop (fun s => regs s.dev = ρ)
      (readRtcField io.toI2cDriver testId bus chip f)
      fun r l s => l = [] ∧ (r.1 = .pass → r.2 = rtcShown ρ f) ∧ regs s.dev = ρ := by
  unfold readRtcField
  refine .bind_silent (emits_i2cRead_clock hclock hstop f.reg) fun r => .of_fact fun hr => ?_
  obtain ⟨status, data⟩ := r
  refine .ite (fun _ => ?_) fun hpass => .pure fun _ hs => ⟨rfl, fun _ => ?_, hs⟩
  · exact .bind_silent (emits_reportEvent_still _ _ _) fun _ => .pure fun _ hs => ⟨rfl, nofun, hs⟩
  · obtain ⟨data, rfl, hdata⟩ := hr (not_not.mp hpass)
    show bcd2bin (data 0 &&& 0x7f) = _
    rw [hdata]
    rfl

/-- Writing a field. -/
theorem emits_writeRtcReg_clock (testId : BitVec 32) (reg value : BitVec 8) :
    Emits (clocked io bus regs IsBus) stop (fun s => regs s.dev = ρ)
      (writeRtcReg io.toI2cDriver testId bus chip reg value)
      fun r l s => (r = .pass ∧ l = [(reg, bin2bcd value)] ∨ r = .fail ∧ l = []) ∧
        regs s.dev = applyWrites l ρ := by
  unfold writeRtcReg
  refine .bind (emits_i2cWrite_clock hclock hstop reg (bin2bcd value)) fun status l =>
    .of_fact fun hl => ?_
  rcases hl with ⟨rfl, rfl⟩ | ⟨rfl, rfl⟩
  · rw [if_neg (by decide)]
    exact .pure fun _ hs => ⟨.inl ⟨rfl, rfl⟩, hs⟩
  · rw [if_pos (by decide)]
    exact .bind_silent (emits_reportEvent_still _ _ _) fun _ =>
      .pure fun _ hs => ⟨.inr ⟨rfl, rfl⟩, hs⟩

omit hclock hstop in
/-- A time that is let through is one the clock can show. -/
theorem value_le_max {a : ADs2321RtcSetTimeTest}
    (h : ¬ (59 < a.sec_value ∨ 59 < a.min_value ∨ 23 < a.hour_value)) (f : RtcField) :
    (f.value a).toNat ≤ f.max := by
  simp only [not_or, BitVec.not_lt] at h
  cases f with
  | sec => exact h.1
  | min => exact h.2.1
  | hour => exact h.2.2

/-- **Setting the time.** -/
theorem emits_set_clock (testId : BitVec 32) (arg : Option ADs2321RtcSetTimeTest)
    (hon : ∀ a ∈ arg, a.i2c_bus = bus ∧ a.i2c_dev_addr = chip) :
    Emits (clocked io bus regs IsBus) stop (fun s => regs s.dev = ρ)
      (ds2321RtcSetTime io testId arg) fun r l _ => RtcDone.Explains ρ (.set r.1 r.2) l := by
  have haborted : ∀ line, Emits (clocked io bus regs IsBus) stop (fun s => regs s.dev = ρ)
      (do testAssert .testDs2321Rtc line; return (.aborted, []))
      fun r l _ => RtcDone.Explains ρ (.set r.1 r.2) l :=
    fun _ => .bind_silent (emits_testAssert_still _ _) fun _ =>
      .pure fun _ _ => .set (.inl rfl) nofun fun _ => ⟨rfl, rfl⟩
  cases arg with
  | none => exact haborted 230
  | some a =>
      obtain ⟨rfl, rfl⟩ := hon a rfl
      unfold ds2321RtcSetTime
      refine .ite (fun _ => haborted 236) fun hin => ?_
      have hfits : ∀ fs : List RtcField, ∀ w ∈ fs.map fun f => (f, f.value a),
          w.2.toNat ≤ w.1.max := fun fs => List.forall_mem_map.mpr fun f _ => value_le_max hin f
      refine .bind (emits_init_clock hclock hstop testId a.i2c_speed) fun _ setup =>
        .of_fact fun hsetup => .ite (fun _ => ?_) fun _ => ?_
      · exact .pure fun _ _ => .set hsetup (hfits []) nofun
      refine .bind (emits_writeRtcReg_clock hclock hstop testId _ a.sec_value) fun _ _ =>
        .of_fact fun hsec => ?_
      rcases hsec with ⟨rfl, rfl⟩ | ⟨rfl, rfl⟩
      case inr => exact .ite (fun _ => .pure fun _ _ => .set hsetup (hfits []) nofun) nofun
      refine .ite nofun fun _ => ?_
      refine .bind (emits_writeRtcReg_clock hclock hstop testId _ a.min_value) fun _ _ =>
        .of_fact fun hmin => ?_
      rcases hmin with ⟨rfl, rfl⟩ | ⟨rfl, rfl⟩
      case inr => exact .ite (fun _ => .pure fun _ _ => .set hsetup (hfits [.sec]) nofun) nofun
      refine .ite nofun fun _ => ?_
      refine .bind (emits_writeRtcReg_clock hclock hstop testId _ a.hour_value) fun _ _ =>
        .of_fact fun hhour => ?_
      rcases hhour with ⟨rfl, rfl⟩ | ⟨rfl, rfl⟩
      · exact .ite nofun fun _ => .pure fun _ _ => .set hsetup (hfits [.sec, .min, .hour]) nofun
      · exact .ite (fun _ => .pure fun _ _ => .set hsetup (hfits [.sec, .min]) nofun) nofun

/-- **Reading the time.** -/
theorem emits_get_clock (testId : BitVec 32) (arg : Option ADs2321RtcGetTimeTest)
    (hon : ∀ a ∈ arg, a.i2c_bus = bus ∧ a.i2c_dev_addr = chip) :
    Emits (clocked io bus regs IsBus) stop (fun s => regs s.dev = ρ)
      (ds2321RtcGetTime io testId arg) fun r l _ => RtcDone.Explains ρ (.get r.1 r.2) l := by
  cases arg with
  | none =>
      exact .bind_silent (emits_testAssert_still _ _) fun _ => .pure fun _ _ =>
        .get (.inl rfl) nofun
  | some a =>
      obtain ⟨rfl, rfl⟩ := hon a rfl
      unfold ds2321RtcGetTime
      refine .bind (emits_init_clock hclock hstop testId a.i2c_speed) fun _ setup =>
        .of_fact fun hsetup => ?_
      -- the registers of the time are the same after the set-up
      have hsame : rtcShown (applyWrites setup ρ) = rtcShown ρ := by
        funext f
        rw [rtcShown, applyWrites_apply, hsetup.lastWrite_reg f]
        rfl
      have hgiveUp : ∀ {P : Fixture D → Prop} {status}, status ≠ .pass →
          Emits (clocked io a.i2c_bus regs IsBus) stop P (pure (status, none))
            fun r m _ => RtcDone.Explains ρ (.get r.1 r.2) (setup ++ m) := by
        refine fun hstatus => .pure fun _ _ => ?_
        rw [List.append_nil]
        exact .get hsetup fun h => absurd h hstatus
      have hread := fun f => emits_readRtcField_clock hclock hstop (ρ := applyWrites setup ρ)
        testId f
      refine .ite (fun _ => hgiveUp nofun) fun _ => ?_
      refine .bind_silent (hread .sec) fun sec => .of_fact fun hsec =>
        .ite (fun _ => hgiveUp nofun) fun hsecPass => ?_
      refine .bind_silent (hread .min) fun min => .of_fact fun hmin =>
        .ite (fun _ => hgiveUp nofun) fun hminPass => ?_
      refine .bind_silent (hread .hour) fun hour => .of_fact fun hhour =>
        .ite (fun hhourPass => hgiveUp hhourPass) fun hhourPass => .pure fun _ _ => ?_
      rw [List.append_nil]
      refine .get hsetup fun _ => congrArg some ?_
      rw [← hsame]
      funext f
      cases f with
      | sec => exact hsec (not_not.mp hsecPass)
      | min => exact hmin (not_not.mp hminPass)
      | hour => exact hhour (not_not.mp hhourPass)

/-- **A call explains what it does to the clock.** -/
theorem emits_perform_clock {c : RtcCall} (hon : c.On bus chip) :
    Emits (clocked io bus regs IsBus) stop (fun s => regs s.dev = ρ) (c.perform io)
      fun o l _ => o.Explains ρ l := by
  cases c with
  | set testId arg =>
      exact .bind_pure (emits_set_clock hclock hstop testId arg hon) fun _ _ _ h => h
  | get testId arg =>
      exact .bind_pure (emits_get_clock hclock hstop testId arg hon) fun _ _ _ h => h

end Calls

end BoardDiag
