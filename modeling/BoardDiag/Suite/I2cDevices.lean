import BoardDiag.Suite.Eeprom

/-!
# The tests of the devices on the I2C buses

`testsuite/test_ds2321_rtc.c`, `testsuite/test_i2cprobe.c` and
`testsuite/test_tps65217_powerrail.c`, as they are built with `CONFIG_DM_I2C`.

* The two tests of the clock set it up and then read or write its registers, one
  transfer after another.  After a transfer that fails they report an event of their
  own --- except for the last one of the set-up, where the event is filled in and
  `ReportEvent` is missing.
* `i2cInterfaceTest` probes every address of a bus and compares what answers with a
  list.  If no bus is selected it leaves the scan with `CMD_RET_FAILURE`, the return
  code of a command; as a verdict that is `DIAG_TEST_RESULT_IN_PROGRESS`.
* `pwrRailingsTest` reads the registers of the power supply and prints them.  It only
  fails when a transfer does, and leaves the report to the I2C utilities.
-/

namespace BoardDiag

open Machine

variable {D : Type}

/-! ## The clock -/

/-- `DS2321_RTC_SEC_REG_ADDR`. -/
def ds2321RtcSecRegAddr : BitVec 8 := 0x00

/-- `DS2321_RTC_MIN_REG_ADDR`. -/
def ds2321RtcMinRegAddr : BitVec 8 := 0x01

/-- `DS2321_RTC_HR_REG_ADDR`. -/
def ds2321RtcHrRegAddr : BitVec 8 := 0x02

/-- `DS2321_RTC_CTL_STATUS_REG_ADDR`. -/
def ds2321RtcCtlStatusRegAddr : BitVec 8 := 0x0F

/-- `DS2321_SELECT_EXT_CLK`. -/
def ds2321SelectExtClk : Byte := 0x04

/-- `DS2321_SELECT_EXT_32KHZ`. -/
def ds2321SelectExt32khz : Byte := 0x18

/-- `A_ds2321_rtc_get_time_test`. -/
structure ADs2321RtcGetTimeTest where
  i2c_bus : BitVec 8
  i2c_speed : BitVec 32
  i2c_dev_addr : BitVec 8

/-- `A_ds2321_rtc_set_time_test`. -/
structure ADs2321RtcSetTimeTest where
  i2c_bus : BitVec 8
  i2c_speed : BitVec 32
  i2c_dev_addr : BitVec 8
  sec_value : BitVec 8
  min_value : BitVec 8
  hour_value : BitVec 8

/-- The addresses an event about a register of the clock carries. -/
def rtcAddress (bus dev_addr reg : BitVec 8) : List (BitVec 32) :=
  [bus.setWidth 32, dev_addr.setWidth 32, reg.setWidth 32]

/-- `ds2321_rtc_init(testId, chip_address, bus, speed)`.  The file has a copy of its own of
`cfg_exp_i2c1_pin_mux`. -/
def ds2321RtcInit (io : I2cBusDriver D) (testId : BitVec 32) (chip_address bus : BitVec 8)
    (speed : BitVec 32) : TestProg D TestResultTypes := do
  cfgExpI2c1PinMux io.toI2cDriver
  let setbus_status ← eBBTFUtilsSetI2cBus io.toI2cDriver (bus.setWidth 32)
  if setbus_status.setWidth 8 ≠ 0#8 then
    reportEvent testId .busNotFound [bus.setWidth 32]
    return .fail
  let setbus_status ← eBBTFUtilsI2cBusSpeed io speed
  if (setbus_status.setWidth 8).toInt < 0 then
    reportEvent testId .busInit [bus.setWidth 32]
    return .fail
  let (status, data) ← eBBTFUtilsI2cRead io.toI2cDriver bus (chip_address.setWidth 32)
    ds2321RtcCtlStatusRegAddr 1 1
  if status ≠ .pass then
    reportEvent testId .devRead (rtcAddress bus chip_address ds2321RtcCtlStatusRegAddr)
    return .fail
  let val := data.elim 0 (fun data => data 0) ||| ds2321SelectExtClk ||| ds2321SelectExt32khz
  let status ← eBBTFUtilsI2cWrite io.toI2cDriver bus (chip_address.setWidth 32)
    ds2321RtcCtlStatusRegAddr 1 [val]
  if status ≠ .pass then
    -- an event is filled in here, and not reported
    return .fail
  return status

/-- Read a register of the clock.  What it holds is only printed. -/
def readRtcReg (io : I2cDriver D) (testId : BitVec 32) (i2c_bus i2c_dev_addr reg : BitVec 8) :
    TestProg D TestResultTypes := do
  let (status, _) ← eBBTFUtilsI2cRead io i2c_bus (i2c_dev_addr.setWidth 32) reg 1 1
  if status ≠ .pass then
    reportEvent testId .devRead (rtcAddress i2c_bus i2c_dev_addr reg)
    return .fail
  return status

/-- `ds2321_rtc_get_time_test(testId, arg)`. -/
def ds2321RtcGetTimeTest (io : I2cBusDriver D) (testId : BitVec 32)
    (arg : Option ADs2321RtcGetTimeTest) : TestProg D TestResultTypes := do
  match arg with
  | none =>
      testAssert .testDs2321Rtc 155
      return .aborted
  | some a =>
      if (← ds2321RtcInit io testId a.i2c_dev_addr a.i2c_bus a.i2c_speed) ≠ .pass then
        return .fail
      if (← readRtcReg io.toI2cDriver testId a.i2c_bus a.i2c_dev_addr ds2321RtcSecRegAddr)
          ≠ .pass then
        return .fail
      if (← readRtcReg io.toI2cDriver testId a.i2c_bus a.i2c_dev_addr ds2321RtcMinRegAddr)
          ≠ .pass then
        return .fail
      readRtcReg io.toI2cDriver testId a.i2c_bus a.i2c_dev_addr ds2321RtcHrRegAddr

/-- `bin2bcd(val)`, as an `uint8_t`. -/
def bin2bcd (val : BitVec 8) : Byte := (val / 10) <<< 4 ||| val % 10

/-- Write a register of the clock. -/
def writeRtcReg (io : I2cDriver D) (testId : BitVec 32) (i2c_bus i2c_dev_addr reg : BitVec 8)
    (value : BitVec 8) : TestProg D TestResultTypes := do
  let status ← eBBTFUtilsI2cWrite io i2c_bus (i2c_dev_addr.setWidth 32) reg 1 [bin2bcd value]
  if status ≠ .pass then
    reportEvent testId .devWrite (rtcAddress i2c_bus i2c_dev_addr reg)
    return .fail
  return status

/-- The time is one the clock can show. -/
def ADs2321RtcSetTimeTest.inRange (a : ADs2321RtcSetTimeTest) : Bool :=
  !decide (59 < a.sec_value ∨ 59 < a.min_value ∨ 23 < a.hour_value)

/-- `ds2321_rtc_set_time_test(testId, arg)`. -/
def ds2321RtcSetTimeTest (io : I2cBusDriver D) (testId : BitVec 32)
    (arg : Option ADs2321RtcSetTimeTest) : TestProg D TestResultTypes := do
  match arg with
  | none =>
      testAssert .testDs2321Rtc 230
      return .aborted
  | some a =>
      if 59 < a.sec_value ∨ 59 < a.min_value ∨ 23 < a.hour_value then
        testAssert .testDs2321Rtc 236
        return .aborted
      if (← ds2321RtcInit io testId a.i2c_dev_addr a.i2c_bus a.i2c_speed) ≠ .pass then
        return .fail
      if (← writeRtcReg io.toI2cDriver testId a.i2c_bus a.i2c_dev_addr ds2321RtcSecRegAddr
          a.sec_value) ≠ .pass then
        return .fail
      if (← writeRtcReg io.toI2cDriver testId a.i2c_bus a.i2c_dev_addr ds2321RtcMinRegAddr
          a.min_value) ≠ .pass then
        return .fail
      writeRtcReg io.toI2cDriver testId a.i2c_bus a.i2c_dev_addr ds2321RtcHrRegAddr a.hour_value

section

variable {io : I2cBusDriver D} {testId : BitVec 32} {s s' : Fixture D}

/-- Without the set-up the clock is not read. -/
theorem run_ds2321RtcGetTimeTest_of_init {a : ADs2321RtcGetTimeTest}
    (h : (ds2321RtcInit io testId a.i2c_dev_addr a.i2c_bus a.i2c_speed).run s = .ok .fail s') :
    (ds2321RtcGetTimeTest io testId (some a)).run s = .ok .fail s' := by
  unfold ds2321RtcGetTimeTest
  simp only
  rw [EStateM.run_bind, h]
  rfl

/-- Without the set-up the clock is not set. -/
theorem run_ds2321RtcSetTimeTest_of_init {a : ADs2321RtcSetTimeTest} (hrange : a.inRange = true)
    (h : (ds2321RtcInit io testId a.i2c_dev_addr a.i2c_bus a.i2c_speed).run s = .ok .fail s') :
    (ds2321RtcSetTimeTest io testId (some a)).run s = .ok .fail s' := by
  rw [ADs2321RtcSetTimeTest.inRange, Bool.not_eq_true', decide_eq_false_iff_not] at hrange
  unfold ds2321RtcSetTimeTest
  simp only
  rw [if_neg hrange, EStateM.run_bind, h]
  rfl

end

/-! ## Probing a bus -/

/-- `MAX_I2C_DEVICE`. -/
def maxI2cDevice : ℕ := 128

/-- `A_I2C_interface_test`. -/
structure AI2cInterfaceTest where
  bus_no : BitVec 8
  dev_address_list : Vector (BitVec 8) maxI2cDevice
  dev_name_list : Vector (Option CString) maxI2cDevice
  no_of_device : BitVec 8

/-- The first of the listed devices that has the address `dev_id`.  The number of devices
is an `int8_t`, so there are none from 128 on. -/
def AI2cInterfaceTest.chip (a : AI2cInterfaceTest) (dev_id : ℕ) : Option (Fin maxI2cDevice) :=
  (List.finRange maxI2cDevice).find? fun chip =>
    decide ((chip : ℤ) < a.no_of_device.toInt) &&
      decide (a.dev_address_list[chip] = BitVec.ofNat 8 dev_id)

/-- The addresses an event about a device carries. -/
def AI2cInterfaceTest.address (a : AI2cInterfaceTest) (dev_id : ℕ) : List (BitVec 32) :=
  [a.bus_no.signExtend 32, BitVec.ofNat 32 dev_id]

/-- What the scan makes of the answer of an address: the new status. -/
def judgeProbe (testId : BitVec 32) (a : AI2cInterfaceTest) (dev_id : ℕ)
    (probe_status : BitVec 32) (status : TestResultTypes) : TestProg D TestResultTypes := do
  match a.chip dev_id with
  | none =>
      if probe_status = 0 then
        reportEvent testId .devUnexpectedDevice (a.address dev_id)
        return .fail
      return status
  | some chip =>
      if probe_status ≠ 0 then
        let string ← sprintfString (shownString a.dev_name_list[chip])
        reportEventString testId .devNotPresent (a.address dev_id) string
        return .fail
      return status

/-- The scan, from `dev_id` on. -/
def scanBus (io : I2cBusDriver D) (testId : BitVec 32) (a : AI2cInterfaceTest) :
    ℕ → ℕ → TestResultTypes → TestProg D TestResultTypes
  | _, 0, status => return status
  | dev_id, n + 1, status => do
      let (ret, bus) ← eBBTFUtilsGetI2cBus
      if ret ≠ 0 then
        -- `CMD_RET_FAILURE`
        return .inProgress
      let bus ← deref bus
      let probe_status ← drive (io.dmI2cProbe bus (BitVec.ofNat 32 dev_id))
      let status ← judgeProbe testId a dev_id probe_status status
      scanBus io testId a (dev_id + 1) n status

/-- `I2C_interface_test(testId, arg)`. -/
def i2cInterfaceTest (io : I2cBusDriver D) (testId : BitVec 32)
    (arg : Option AI2cInterfaceTest) : TestProg D TestResultTypes := do
  match arg with
  | none =>
      testAssert .testI2cprobe 37
      return .aborted
  | some a =>
      let bus_status ← eBBTFUtilsSetI2cBus io.toI2cDriver (a.bus_no.signExtend 32)
      if bus_status.toInt < 0 then
        reportEvent testId .busInit [a.bus_no.signExtend 32]
        return .fail
      scanBus io testId a 0 maxI2cDevice .pass

/-! ## The power supply -/

/-- `A_PWR_railings_test`. -/
structure APwrRailingsTest where
  i2c_bus_no : BitVec 8
  i2c_dev_addr : BitVec 8
  dev_name : CString

/-- `"TPS65217C"`. -/
def tps65217c : CString := .ofChars "TPS65217C".toList

/-- `pmic_regulation_regs`. -/
def pmicRegulationRegs : List (BitVec 8) := [0x0E, 0x0F, 0x10, 0x12, 0x13, 0x14, 0x15]

/-- `PMIC_STATUS_FLAGS`. -/
def pmicStatusFlags : BitVec 8 := 0x0C

/-- The loop of `PWR_railings_test`.  The cases of its `switch` are the registers it
reads; they print, and the default case fails. -/
def readRails (io : I2cDriver D) (a : APwrRailingsTest) :
    List (BitVec 8) → TestResultTypes → TestProg D TestResultTypes
  | [], status => return status
  | reg :: regs, _ => do
      let (status, _) ← eBBTFUtilsI2cRead io a.i2c_bus_no (a.i2c_dev_addr.setWidth 32) reg 1 1
      if status = .fail then
        return status
      let (status, _) ← eBBTFUtilsI2cRead io a.i2c_bus_no (a.i2c_dev_addr.setWidth 32)
        pmicStatusFlags 1 1
      if status = .fail then
        return status
      readRails io a regs (if reg ∈ pmicRegulationRegs then status else .fail)

/-- `PWR_railings_test(testId, arg)`.  It makes no use of its id. -/
def pwrRailingsTest (io : I2cDriver D) (arg : Option APwrRailingsTest) :
    TestProg D TestResultTypes := do
  match arg with
  | none =>
      testAssert .testTps65217Powerrail 45
      return .aborted
  | some a =>
      if a.dev_name ≠ tps65217c then
        return .aborted
      readRails io a pmicRegulationRegs .pass

/-! ## What the tests report -/

section Clock

variable {c testId : BitVec 32} {K : Report → Prop} {bus stop : Prop} {io : I2cBusDriver D}

/-- **Setting up the clock** ends as a transfer does: where it fails, a conventional lookup
makes sure that there is an error event --- one of its own, or of the utilities. -/
theorem emits_ds2321RtcInit (hK : Admits K c testId) (hU : Admits K c 0)
    (hbus : bus → io.FindsBus) (hstop : ¬ io.ChipsFound → stop) (chip_address i2c_bus : BitVec 8)
    (speed : BitVec 32) :
    Emits (logged c K bus) stop (fun _ => True)
      (ds2321RtcInit io testId chip_address i2c_bus speed)
      fun r l _ => Transferred io.toI2cDriver r l := by
  unfold ds2321RtcInit
  refine .bind_silent emits_cfgExpI2c1PinMux fun _ => ?_
  refine .bind_silent (emits_setI2cBus hbus _) fun ret => ?_
  refine .ite (fun _ => emits_reportEvent_transferred hK (by decide) _ []) fun _ => ?_
  refine Emits.conseq (P := fun _ => True) ?_ (fun _ _ => trivial) fun _ _ _ h => h
  refine .bind_silent (emits_i2cBusSpeed speed) fun ret => ?_
  refine .ite (fun _ => emits_reportEvent_transferred hK (by decide) _ []) fun _ => ?_
  refine emits_bind_transfer (emits_i2cRead hU hbus hstop _ _ _ _ _) ?_ ?_
  · rintro ⟨_, data⟩ rfl
    refine emits_bind_transfer (emits_i2cWrite hU hbus hstop _ _ _ _ _) ?_ ?_
    · rintro _ rfl
      exact .pure fun _ _ => .inl ⟨rfl, rfl⟩
    · rintro _ l rfl hl
      exact emits_transferred_fail rfl hl
  · rintro ⟨_, data⟩ l rfl -
    exact emits_reportEvent_transferred hK (by decide) _ l

theorem emits_readRtcReg {io : I2cDriver D} (hK : Admits K c testId) (hU : Admits K c 0)
    (hbus : bus → io.FindsBus) (hstop : ¬ io.ChipsFound → stop)
    (i2c_bus i2c_dev_addr reg : BitVec 8) :
    Emits (logged c K bus) stop (fun _ => True) (readRtcReg io testId i2c_bus i2c_dev_addr reg)
      fun r l _ => Transferred io r l := by
  unfold readRtcReg
  refine emits_bind_transfer (emits_i2cRead hU hbus hstop _ _ _ _ _) ?_ ?_
  · rintro ⟨_, data⟩ rfl
    exact .pure fun _ _ => .inl ⟨rfl, rfl⟩
  · rintro ⟨_, data⟩ l rfl -
    exact emits_reportEvent_transferred hK (by decide) _ l

theorem emits_writeRtcReg {io : I2cDriver D} (hK : Admits K c testId) (hU : Admits K c 0)
    (hbus : bus → io.FindsBus) (hstop : ¬ io.ChipsFound → stop)
    (i2c_bus i2c_dev_addr reg value : BitVec 8) :
    Emits (logged c K bus) stop (fun _ => True)
      (writeRtcReg io testId i2c_bus i2c_dev_addr reg value)
      fun r l _ => Transferred io r l := by
  unfold writeRtcReg
  refine emits_bind_transfer (emits_i2cWrite hU hbus hstop _ _ _ _ _) ?_ ?_
  · rintro _ rfl
    exact .pure fun _ _ => .inl ⟨rfl, rfl⟩
  · rintro _ l rfl -
    exact emits_reportEvent_transferred hK (by decide) _ l

/-- One transfer after another, as long as they pass. -/
theorem emits_then_transfer {io : I2cDriver D} {x y : TestProg D TestResultTypes}
    (hx : Emits (logged c K bus) stop (fun _ => True) x fun r l _ => Transferred io r l)
    (hy : Emits (logged c K bus) stop (fun _ => True) y fun r l _ => Transferred io r l) :
    Emits (logged c K bus) stop (fun _ => True)
      (do
        if (← x) ≠ .pass then
          return .fail
        y)
      fun r l _ => Transferred io r l := by
  refine emits_bind_transfer hx ?_ ?_
  · rintro _ rfl
    exact hy
  · rintro _ l rfl hl
    exact emits_transferred_fail rfl hl

theorem emits_ds2321RtcGetTimeTest (hK : Admits K c testId) (hbus : bus → io.FindsBus)
    (hstop : ¬ io.ChipsFound → stop) (arg : Option ADs2321RtcGetTimeTest)
    (hU : arg.isSome → Admits K c 0) :
    Emits (logged c K bus) stop (fun _ => True) (ds2321RtcGetTimeTest io testId arg)
      fun r l _ => Answers arg.isSome io.Conventional r l := by
  cases arg with
  | none => exact emits_unconfigured hK _ _ _
  | some a =>
      have hread := emits_readRtcReg hK (hU rfl) hbus hstop a.i2c_bus a.i2c_dev_addr
      refine emits_answers_of_transferred _ ?_
      refine emits_then_transfer (emits_ds2321RtcInit hK (hU rfl) hbus hstop _ _ _) ?_
      refine emits_then_transfer (hread ds2321RtcSecRegAddr) ?_
      exact emits_then_transfer (hread ds2321RtcMinRegAddr) (hread ds2321RtcHrRegAddr)

theorem emits_ds2321RtcSetTimeTest (hK : Admits K c testId) (hbus : bus → io.FindsBus)
    (hstop : ¬ io.ChipsFound → stop) (arg : Option ADs2321RtcSetTimeTest)
    (hU : arg.any (·.inRange) → Admits K c 0) :
    Emits (logged c K bus) stop (fun _ => True) (ds2321RtcSetTimeTest io testId arg)
      fun r l _ => Answers (arg.any (·.inRange)) io.Conventional r l := by
  cases arg with
  | none => exact emits_unconfigured hK _ _ _
  | some a =>
      unfold ds2321RtcSetTimeTest
      refine .ite (fun hout => ?_) fun hin => ?_
      · have hrange : a.inRange = false := by
          rw [ADs2321RtcSetTimeTest.inRange, decide_eq_true hout, Bool.not_true]
        rw [Option.any_some, hrange]
        exact emits_unconfigured hK _ _ _
      · have hrange : a.inRange = true := by
          rw [ADs2321RtcSetTimeTest.inRange, decide_eq_false hin, Bool.not_false]
        have hU := hU (by rw [Option.any_some, hrange])
        have hwrite := emits_writeRtcReg hK hU hbus hstop a.i2c_bus a.i2c_dev_addr
        refine emits_answers_of_transferred _ ?_
        refine emits_then_transfer (emits_ds2321RtcInit hK hU hbus hstop _ _ _) ?_
        refine emits_then_transfer (hwrite ds2321RtcSecRegAddr _) ?_
        exact emits_then_transfer (hwrite ds2321RtcMinRegAddr _) (hwrite ds2321RtcHrRegAddr _)

end Clock

section Scan

variable {c testId : BitVec 32} {K : Report → Prop} {bus stop : Prop} {io : I2cBusDriver D}
  {a : AI2cInterfaceTest}

/-- A lookup delivers a bus or a negative error code. -/
def I2cDriver.Errno (io : I2cDriver D) : Prop :=
  ∀ seq d, ((io.uclassGetDeviceBySeq seq d).1.1 = 0 ∧
    (io.uclassGetDeviceBySeq seq d).1.2.isSome) ∨ (io.uclassGetDeviceBySeq seq d).1.1.toInt < 0

/-- How the scan goes on from a status: it keeps the status and reports nothing, or it
fails and has reported an error. -/
def Judged (status r : TestResultTypes) (l : List Report) : Prop :=
  (r = status ∧ l = []) ∨ (r = .fail ∧ Erroneous l)

theorem Judged.trans {status r r' : TestResultTypes} {l m : List Report}
    (h : Judged status r l) (h' : Judged r r' m) : Judged status r' (l ++ m) := by
  rcases h with ⟨rfl, rfl⟩ | ⟨rfl, hl⟩
  · exact h'
  · rcases h' with ⟨rfl, rfl⟩ | ⟨rfl, hm⟩
    · exact .inr ⟨rfl, hl.append_left []⟩
    · exact .inr ⟨rfl, hm.append_right l⟩

/-- The names of the listed devices fit an event. -/
def AI2cInterfaceTest.NamesFit (a : AI2cInterfaceTest) : Prop :=
  ∀ chip : Fin maxI2cDevice, (shownString a.dev_name_list[chip]).length < diagDimStringEvent

theorem emits_judgeProbe (hK : Admits K c testId) (hstop : ¬ a.NamesFit → stop)
    {P : Fixture D → Prop} (hP : ∀ s r, P s → P (s.reported r)) (dev_id : ℕ)
    (probe_status : BitVec 32) (status : TestResultTypes) :
    Emits (logged c K bus) stop P (judgeProbe testId a dev_id probe_status status)
      fun r l s => Judged status r l ∧ P s := by
  have hkeep : Emits (logged c K bus) stop P (pure status) fun r l s => Judged status r l ∧ P s :=
    .pure fun s hs => ⟨.inl ⟨rfl, rfl⟩, hs⟩
  unfold judgeProbe
  cases a.chip dev_id with
  | none =>
      refine .ite (fun _ => ?_) fun _ => hkeep
      rw [reportEvent_eq]
      refine .bind (emits_report_frame hK (by decide) hP _ _) fun _ l => ?_
      exact .pure fun s hs => ⟨.inr ⟨rfl, hs.1.append_left []⟩, hs.2⟩
  | some chip =>
      refine .ite (fun _ => ?_) fun _ => hkeep
      refine .bind_silent (emits_sprintfString fun hlong => hstop fun hfit => ?_) fun string => ?_
      · exact absurd (hfit chip) (Nat.not_lt.mpr hlong)
      refine .bind (emits_report_frame hK (by decide) hP _ _) fun _ l => ?_
      exact .pure fun s hs => ⟨.inr ⟨rfl, hs.1.append_left []⟩, hs.2⟩

/-- **The scan of a selected bus.**  By induction on the number of addresses left; the bus
stays selected. -/
theorem emits_scanBus (hK : Admits K c testId) (hstop : ¬ a.NamesFit → stop) (dev : Udevice)
    (dev_id n : ℕ) (status : TestResultTypes) :
    Emits (logged c K bus) stop (fun s => s.i2cCurBus = some dev)
      (scanBus io testId a dev_id n status) fun r l _ => Judged status r l := by
  induction n generalizing dev_id status with
  | zero => exact .pure fun _ _ => .inl ⟨rfl, rfl⟩
  | succ n ih =>
      refine .bind_silent (I := fun r s => r = (0#32, some dev) ∧ s.i2cCurBus = some dev) ?_ ?_
      · refine emits_getI2cBus.conseq (fun _ hs => hs) ?_
        rintro r l s ⟨hl, hs, ⟨-, hnone⟩ | ⟨dev', hr, hsome⟩⟩
        · rw [hs] at hnone
          exact (Option.some_ne_none dev hnone).elim
        · rw [hs] at hsome
          exact ⟨hl, hr.trans (by rw [Option.some.inj hsome]; rfl), hs⟩
      · rintro ⟨ret, dev'⟩
        refine .of_fact fun h => ?_
        obtain ⟨rfl, rfl⟩ := Prod.mk.inj h
        refine .bind_silent (emits_deref nofun) fun dev' => .of_fact fun _ => ?_
        refine .bind_silent (emits_drive_frame (fun s d hs => hs) _) fun probe_status => ?_
        refine .bind (emits_judgeProbe hK hstop (fun s r hs => hs) dev_id probe_status status)
          fun status' l s hinv hs => ?_
        obtain ⟨hjudged, hs⟩ := hs
        exact Emits.conseq (ih (dev_id + 1) status') (fun _ hs => hs)
          (fun r m _ hr => hjudged.trans hr) s hinv hs

/-- Without a bus, the scan is left at its first address. -/
theorem emits_scanBus_none (dev_id n : ℕ) (status : TestResultTypes) :
    Emits (logged c K bus) stop (fun s : Fixture D => s.i2cCurBus = none)
      (scanBus io testId a dev_id (n + 1) status) fun r l _ => r = .inProgress ∧ l = [] := by
  refine .bind_silent (I := fun r s => r = (enodev, none) ∧ s.i2cCurBus = none) ?_ ?_
  · refine emits_getI2cBus.conseq (fun _ hs => hs) ?_
    rintro r l s ⟨hl, hs, ⟨hr, -⟩ | ⟨dev, -, hsome⟩⟩
    · exact ⟨hl, hr, hs⟩
    · exact absurd (hs.symm.trans hsome) (Option.some_ne_none dev).symm
  · rintro ⟨ret, dev⟩
    refine .of_fact fun h => ?_
    obtain ⟨rfl, rfl⟩ := Prod.mk.inj h
    exact .pure fun _ _ => ⟨rfl, rfl⟩

/-- **Probing a bus** reports an error exactly if it fails.  It has no verdict if it is left
without a bus, which takes a lookup that answers with something other than a bus or a
negative error code. -/
theorem emits_i2cInterfaceTest (hK : Admits K c testId) (hbus : bus → io.FindsBus)
    (arg : Option AI2cInterfaceTest) (hstop : ∀ a ∈ arg, ¬ a.NamesFit → stop) :
    Emits (logged c K bus) stop (fun _ => True) (i2cInterfaceTest io testId arg)
      fun r l _ => (r = .inProgress ∧ l = [] ∧ ¬ io.Errno) ∨ Answers arg.isSome True r l := by
  cases arg with
  | none => exact (emits_unconfigured hK _ _ _).conseq (fun _ hs => hs) fun _ _ _ h => .inr h
  | some a =>
      unfold i2cInterfaceTest
      refine .bind_silent (emits_setI2cBus hbus _) fun ret => ?_
      refine .ite (fun _ => ?_) fun hret => ?_
      · exact (emits_answers _ (emits_reportEvent_fail hK (by decide) _ True [])).conseq
          (fun _ hs => hs) fun _ _ _ h => .inr h
      · rintro s hinv ⟨d, hlookup, hsel⟩
        cases hcur : s.i2cCurBus with
        | some dev =>
            refine Emits.conseq (emits_scanBus hK (hstop a rfl) dev 0 maxI2cDevice .pass)
              (fun _ hs => hs) (fun r l _ h => .inr (Honest.answers ?_ _)) s hinv hcur
            rcases h with ⟨rfl, rfl⟩ | ⟨rfl, hl⟩
            · exact honest_pass True
            · exact honest_fail hl
        | none =>
            refine Emits.conseq (emits_scanBus_none 0 127 .pass) (fun _ hs => hs)
              (fun r l _ h => .inl ⟨h.1, h.2, fun herrno => ?_⟩) s hinv hcur
            rcases herrno (a.bus_no.signExtend 32) d with ⟨hzero, hfound⟩ | hneg
            · rw [← hsel (hlookup.trans hzero), hcur] at hfound
              exact Bool.noConfusion hfound
            · exact hret (hlookup ▸ hneg)

end Scan

section Rails

variable {c : BitVec 32} {K : Report → Prop} {bus stop : Prop} {io : I2cDriver D}

/-- The registers are read one after another, as long as the transfers pass. -/
theorem emits_readRails (hU : Admits K c 0) (hbus : bus → io.FindsBus)
    (hstop : ¬ io.ChipsFound → stop) (a : APwrRailingsTest) {regs : List (BitVec 8)}
    (hregs : regs ⊆ pmicRegulationRegs) :
    Emits (logged c K bus) stop (fun _ => True) (readRails io a regs .pass)
      fun r l _ => Transferred io r l := by
  induction regs with
  | nil => exact .pure fun _ _ => .inl ⟨rfl, rfl⟩
  | cons reg regs ih =>
      obtain ⟨hreg, hregs⟩ := List.cons_subset.mp hregs
      rw [readRails]
      refine emits_bind_transfer (emits_i2cRead hU hbus hstop _ _ _ _ _) ?_ ?_
      · rintro ⟨_, data⟩ rfl
        refine emits_bind_transfer (emits_i2cRead hU hbus hstop _ _ _ _ _) ?_ ?_
        · rintro ⟨_, data⟩ rfl
          simp only [hreg, if_true]
          exact ih hregs
        · rintro ⟨_, data⟩ l rfl hl
          exact emits_transferred_fail rfl hl
      · rintro ⟨_, data⟩ l rfl hl
        exact emits_transferred_fail rfl hl

/-- **Reading the power rails** ends as a transfer does, if it begins at all. -/
theorem emits_pwrRailingsTest {testId : BitVec 32} (hK : Admits K c testId)
    (hbus : bus → io.FindsBus) (hstop : ¬ io.ChipsFound → stop) (arg : Option APwrRailingsTest)
    (hU : ∀ a ∈ arg, a.dev_name = tps65217c → Admits K c 0) :
    Emits (logged c K bus) stop (fun _ => True) (pwrRailingsTest io arg)
      fun r l _ => Answers arg.isSome
        (io.Conventional ∨ ∀ a ∈ arg, a.dev_name ≠ tps65217c) r l := by
  cases arg with
  | none => exact emits_unconfigured hK _ _ _
  | some a =>
      unfold pwrRailingsTest
      refine .ite (fun _ => .pure fun _ _ => (honest_aborted _).answers _) fun hname => ?_
      have hrails := emits_readRails (hU a rfl (not_not.mp hname)) hbus hstop a
        (List.Subset.refl _)
      refine emits_answers _ (hrails.conseq (fun _ hs => hs) fun r l _ h => h.honest.mono ?_)
      exact fun hor => hor.resolve_right fun hne => hname (hne a rfl)

end Rails

end BoardDiag
