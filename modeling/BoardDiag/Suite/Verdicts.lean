import BoardDiag.Suite.Registered

/-!
# Verdicts and reports of the suite

Two questions about every test function, whatever its configuration, the tests that ran
before, and the board.

* *Does it come to a verdict?*  `suite_conclusive`: every call passes, fails or is
  aborted, as long as it stays within its pointers and arrays.  The scan of an I2C bus is
  the one test that can be left with something that is no verdict, and a lookup that
  keeps to its convention makes that impossible: once a bus is selected, one stays
  selected, through whatever tests are run.
* *Can one tell from the reports that it failed?*  `accountable_iff`: only for some
  configurations.  The test of a pin and the test of a flash on another bus fail without
  a word, and setting the clock to a time there is not reports an assertion and does not
  fail.  Where the lookup of a bus may succeed without delivering one, the tests of the
  clock and of the power supply can fail silently as well.

The boards the second answer needs are all `dull`: registers read as zero and everything
succeeds, except that a lookup may come back empty-handed.
-/

namespace BoardDiag

open Machine Relation

variable {D : Type}

/-! ## Verdicts -/

section Conclusive

variable (io : Drivers D) (fuel : ℕ)

/-- A test has been run. -/
def Ran (s s' : Fixture D) : Prop :=
  ∃ (t : SuiteTest) (testId : BitVec 32),
    (∃ r, (t.call io fuel testId).run s = .ok r s') ∨
      ∃ e, (t.call io fuel testId).run s = .error e s'

variable {io fuel}

/-- Any report may be made. -/
theorem admits_true (c testId : BitVec 32) : Admits (fun _ => True) c testId :=
  ⟨fun _ _ _ => trivial, fun _ _ => trivial⟩

/-- A call, for a reader who does not look at where its reports come from: what the test
answers, or why it stops; and whether a bus stays selected. -/
theorem call_cases (hfuel : 32 < fuel) (t : SuiteTest) (testId : BitVec 32) (s : Fixture D) :
    (∃ r s' l, (t.call io fuel testId).run s = .ok r s' ∧
      Sees (fun _ => True) io.i2c.FindsBus s l s' ∧
      ((r = .inProgress ∧ l = [] ∧ t.probes = true ∧ ¬ io.i2c.Errno) ∨
        Answers t.accepted (t.Loud io) r l)) ∨
    (¬ (io.Sound ∧ t.Fits) ∧ ∃ s' l, (t.call io fuel testId).run s = .error .outOfBounds s' ∧
      Sees (fun _ => True) io.i2c.FindsBus s l s') :=
  emits_call (admits_true s.curTestId testId) (fun h => h) hfuel t
    (fun _ => admits_true s.curTestId 0) (fun h => h) s rfl trivial

/-- **Once a bus is selected, one stays selected**, whatever test is run. -/
theorem Ran.bus_kept (hfuel : 32 < fuel) (hfinds : io.i2c.FindsBus) {s s' : Fixture D}
    (h : Ran io fuel s s') (hs : s.i2cCurBus.isSome) : s'.i2cCurBus.isSome := by
  obtain ⟨t, testId, hrun⟩ := h
  rcases call_cases hfuel t testId s with ⟨r, u, l, hok, hsees, -⟩ | ⟨-, u, l, herror, hsees⟩
  · rcases hrun with ⟨r', hr⟩ | ⟨e, he⟩
    · rw [hok] at hr
      cases hr
      exact hsees.bus_kept hfinds hs
    · rw [hok] at he
      cases he
  · rcases hrun with ⟨r', hr⟩ | ⟨e, he⟩
    · rw [herror] at hr
      cases hr
    · rw [herror] at he
      cases he
      exact hsees.bus_kept hfinds hs

theorem I2cDriver.Errno.findsBus {io : I2cDriver D} (h : io.Errno) : io.FindsBus := by
  intro seq d hret
  rcases h seq d with ⟨-, hfound⟩ | hneg
  · exact hfound
  · rw [hret] at hneg
    exact absurd hneg (by decide)

/-- Selecting a bus successfully selects one. -/
theorem isSome_of_setI2cBus {io : I2cDriver D} (hfinds : io.FindsBus) {busnum : BitVec 32}
    {s s' : Fixture D} (h : (eBBTFUtilsSetI2cBus io busnum).run s = .ok 0#32 s') :
    s'.i2cCurBus.isSome := by
  have hset : Emits (logged s.curTestId (fun _ => True) True) False (fun _ => True)
      (eBBTFUtilsSetI2cBus io busnum) _ := emits_setI2cBus (fun _ => hfinds) busnum
  rcases hset s rfl trivial with ⟨ret, u, l, hok, -, -, d, hret, hsel⟩ | ⟨hfalse, -⟩
  · rw [hok] at h
    cases h
    rw [hsel rfl]
    exact hfinds busnum d hret.symm
  · exact hfalse.elim

end Conclusive

/-- **Every call comes to a verdict.**  It passes, fails or is aborted, or it goes through a
null pointer or beyond an array, which it takes unsound drivers or a configuration that
does not fit for.  For the scan of a bus the lookup has to keep to its convention; then a
bus that has been selected successfully is selected ever after. -/
theorem suite_conclusive (io : Drivers D) {fuel : ℕ} (hfuel : 32 < fuel) :
    (∀ (t : SuiteTest) (testId : BitVec 32) (s : Fixture D), (t.probes = true → io.i2c.Errno) →
      (∃ r s', (t.call io fuel testId).run s = .ok r s' ∧ Conclusive r) ∨
      (¬ (io.Sound ∧ t.Fits) ∧ ∃ s', (t.call io fuel testId).run s = .error .outOfBounds s')) ∧
    (io.i2c.Errno → ∀ (busnum : BitVec 32) (s s' s'' : Fixture D),
      (eBBTFUtilsSetI2cBus io.i2c.toI2cDriver busnum).run s = .ok 0#32 s' →
      ReflTransGen (Ran io fuel) s' s'' → s''.i2cCurBus.isSome) := by
  constructor
  · intro t testId s hprobe
    rcases call_cases hfuel t testId s with ⟨r, s', l, hok, -, h⟩ | ⟨hstop, s', -, herror, -⟩
    · refine .inl ⟨r, s', hok, ?_⟩
      rcases h with ⟨-, -, hprobes, herrno⟩ | h
      · exact absurd (hprobe hprobes) herrno
      · exact h.1
    · exact .inr ⟨hstop, s', herror⟩
  · intro herrno busnum s s' s'' hset hran
    -- by induction on the tests that have been run since
    induction hran with
    | refl => exact isSome_of_setI2cBus herrno.findsBus hset
    | tail _ hlast ih => exact hlast.bus_kept hfuel herrno.findsBus ih

/-! ## Dull boards -/

/-- **A dull board**: registers read as zero, and everything succeeds.  What the lookup of
an I2C bus delivers may depend on whether a transfer has read from one. -/
def dull (found : Bool → Option Udevice) : Drivers Bool where
  i2c :=
    { writel := fun _ _ d => d
      uclassGetDeviceBySeq := fun _ d => ((0, found d), d)
      i2cGetChip := fun _ _ _ d => ((0, some 0), d)
      i2cSetChipOffsetLen := fun _ _ d => (0, d)
      setWrAddress := fun _ d => d
      dmI2cWrite := fun _ _ _ d => (0, d)
      dmI2cRead := fun _ _ _ _ => ((0, fun _ => 0), true)
      dmI2cGetBusSpeed := fun _ d => (0, d)
      dmI2cSetBusSpeed := fun _ _ d => (0, d)
      dmI2cProbe := fun _ _ d => (0, d) }
  flash :=
    { writel := fun _ _ d => d
      spiFindBusAndCs := fun _ _ d => ((0, some 0), d)
      deviceRemove := fun _ d => (0, d)
      spiFlashProbeBusCs := fun _ _ d => ((0, some 0), d)
      size := fun _ _ => 0
      spiFlashRead := fun _ _ _ d => ((0, fun _ => some 0), d)
      spiFlashErase := fun _ _ _ d => (0, d)
      spiFlashWrite := fun _ _ _ d => (0, d) }
  memory :=
    { store := fun _ _ d => d
      load := fun _ d => (0, d)
      flushDcacheAll := fun d => d }
  registers :=
    { rawWritel := fun _ _ d => d
      rawReadl := fun _ d => (0, d) }
  phy :=
    { miiphyRead := fun _ _ _ d => (some 0, d)
      miiphyWrite := fun _ _ _ _ d => d
      mdelay := fun d => d }
  mmc :=
    { findMmcDevice := fun _ d => (some 0, d)
      esdhcBase := fun _ _ => some 0
      clearHasInit := fun _ d => d
      mmcInit := fun _ d => (0, d)
      isSd := fun _ _ => true }
  net :=
    { stringToIp := fun _ => 0
      netLoop := fun _ d => (0, d) }

/-- A dull board on which every bus is found. -/
def dullBoard : Drivers Bool := dull fun _ => some 0

theorem conventional_dullBoard : dullBoard.i2c.Conventional := fun _ _ => .inl ⟨rfl, rfl⟩

theorem errno_dullBoard : dullBoard.i2c.Errno := fun _ _ => .inl ⟨rfl, rfl⟩

/-- A bus on which no device is expected. -/
def emptyBus : AI2cInterfaceTest where
  bus_no := 1
  dev_address_list := Vector.replicate maxI2cDevice 0
  dev_name_list := Vector.replicate maxI2cDevice none
  no_of_device := 0

theorem fits_emptyBus : (SuiteTest.i2cInterface (some emptyBus)).Fits := by
  rintro a ⟨⟩ chip
  rw [show emptyBus.dev_name_list[chip] = none from Vector.getElem_replicate chip.isLt]
  decide

theorem sound_dullBoard : dullBoard.Sound where
  chips := fun _ _ _ _ => rfl
  flash := ⟨fun _ _ _ _ => rfl, fun _ _ _ _ => rfl⟩
  priv := fun _ _ => rfl

theorem empty_bus_conclusive :
    dullBoard.i2c.Errno ∧ ∃ r s', ((SuiteTest.i2cInterface (some emptyBus)).call dullBoard 33 1).run
      (Fixture.atBoot false) = .ok r s' ∧ Conclusive r := by
  refine ⟨errno_dullBoard, ?_⟩
  rcases (suite_conclusive dullBoard (show 32 < 33 by decide)).1 (.i2cInterface (some emptyBus)) 1
    (Fixture.atBoot false) fun _ => errno_dullBoard with h | ⟨h, -⟩
  · exact h
  · exact absurd ⟨sound_dullBoard, fits_emptyBus⟩ h

/-! ## Reports -/

/-- **The verdict of a call agrees with what it reports**: it fails if and only if an error
has been reported since it began.  A call that does not return has to have a reason. -/
def Accountable (io : Drivers D) (fuel : ℕ) (t : SuiteTest) (testId : BitVec 32)
    (s : Fixture D) : Prop :=
  match (t.call io fuel testId).run s with
  | .ok r s' => ∃ l, s'.reports = s.reports ++ l ∧ (r = .fail ↔ Erroneous l)
  | .error .outOfBounds _ => ¬ (io.Sound ∧ t.Fits)
  | .error .outOfFuel _ => False

/-- **What the test fails from is reported, and it fails from what it reports**, on every
board --- or, if `conventional`, on every board with conventional lookups. -/
def SuiteTest.Diagnosed (conventional : Prop) : SuiteTest → Prop
  | gpio arg => ∀ a ∈ arg, a.gpio_direction ≠ 1#32
  | pwrRailings arg => conventional ∨ ∀ a ∈ arg, a.dev_name ≠ tps65217c
  | norFlash arg => ∀ a ∈ arg, a.spi_bus_no = 0
  | rtcSetTime arg => conventional ∧ arg.any (·.inRange) = true
  | rtcGetTime _ => conventional
  | _ => True

theorem Honest.fail_iff {loud : Prop} {r : TestResultTypes} {l : List Report}
    (h : Honest loud r l) (hloud : loud) : r = .fail ↔ Erroneous l := by
  rcases h with ⟨hr, hl⟩ | ⟨hr, hl⟩
  · refine iff_of_false (fun hfail => ?_) hl
    rw [hfail] at hr
    rcases hr with hr | hr
    · exact TestResultTypes.noConfusion hr
    · exact TestResultTypes.noConfusion hr
  · exact iff_of_true hr (hl hloud)

section Accountable

variable {io : Drivers D} {fuel : ℕ} {t : SuiteTest} {testId : BitVec 32} {s s' : Fixture D}

/-- A test that takes its configuration and fails from what it reports. -/
theorem accountable_of_loud (hfuel : 32 < fuel) (haccepted : t.accepted = true)
    (hloud : t.Loud io) (testId : BitVec 32) (s : Fixture D) : Accountable io fuel t testId s := by
  unfold Accountable
  rcases call_cases hfuel t testId s with ⟨r, s', l, hok, hsees, h⟩ | ⟨hstop, s', -, herror, -⟩
  · rw [hok]
    refine ⟨l, hsees.reports_eq, ?_⟩
    rcases h with ⟨rfl, rfl, -⟩ | h
    · exact iff_of_false (fun h => TestResultTypes.noConfusion h) not_erroneous_nil
    · exact (h.2 haccepted).fail_iff hloud
  · rw [herror]
    exact hstop

/-- A test that fails and reports nothing. -/
theorem not_accountable_of_silent (hrun : (t.call io fuel testId).run s = .ok .fail s')
    (hreports : s'.reports = s.reports) : ¬ Accountable io fuel t testId s := by
  unfold Accountable
  rw [hrun]
  rintro ⟨l, hl, hiff⟩
  have hnil : l = [] := List.append_cancel_left (hl.symm.trans (hreports.trans (by simp)))
  exact not_erroneous_nil (hnil ▸ hiff.mp rfl)

end Accountable

/-! ### Boards on which the tests are silent -/

/-- A pin that reads as zero, whatever is written. -/
theorem run_driveOutput_dull (a : AGpioTest) (s : Fixture Bool) :
    (driveOutput dullBoard.registers a).run s = .ok .fail s := by
  have hzero : ∀ x : BitVec 32, ¬ (0#32 &&& x ≠ 0#32) := fun x => not_not.mpr BitVec.zero_and
  by_cases henable : a.enable = 0#32
  · show (if a.enable ≠ 0#32 then _ else _ : TestProg Bool TestResultTypes).run s = _
    rw [if_neg (not_not.mpr henable)]
    show (if 0#32 &&& ~~~a.bit ≠ 0#32 then _ else _ : TestProg Bool TestResultTypes).run s = _
    rw [if_neg (hzero _)]
    rfl
  · show (if a.enable ≠ 0#32 then _ else _ : TestProg Bool TestResultTypes).run s = _
    rw [if_pos henable]
    show (if 0#32 &&& a.bit ≠ 0#32 then _ else _ : TestProg Bool TestResultTypes).run s = _
    rw [if_neg (hzero _)]
    show (if 0#32 &&& a.bit ≠ 0#32 then _ else _ : TestProg Bool TestResultTypes).run s = _
    rw [if_neg (hzero _)]
    rfl

theorem run_gpioTest_dull {a : AGpioTest} (hdir : a.gpio_direction = 1#32) (s : Fixture Bool) :
    (gpioTest dullBoard.registers (some a)).run s = .ok .fail s := by
  show (if a.gpio_direction = 1#32 then _ else _ : TestProg Bool TestResultTypes).run s = _
  rw [if_pos hdir]
  exact run_driveOutput_dull a s

theorem not_accountable_gpio {a : AGpioTest} (hdir : a.gpio_direction = 1#32) (fuel : ℕ)
    (testId : BitVec 32) (s : Fixture Bool) :
    ¬ Accountable dullBoard fuel (.gpio (some a)) testId s :=
  not_accountable_of_silent (run_gpioTest_dull hdir s) rfl

/-- A flash on another bus is not looked for. -/
theorem not_accountable_norFlash {io : Drivers D} {a : ANorFlashTest} (hbus : a.spi_bus_no ≠ 0)
    (fuel : ℕ) (testId : BitVec 32) (s : Fixture D) :
    ¬ Accountable io fuel (.norFlash (some a)) testId s := by
  have hrun : (norFlashTest io.flash testId (some a)).run s = .ok .fail s := by
    unfold norFlashTest
    simp only
    rw [if_pos hbus]
    rfl
  exact not_accountable_of_silent hrun rfl

/-- A dull board on which no bus is found, though no lookup fails. -/
def buslessBoard : Drivers Bool := dull fun _ => none

theorem run_pwrRailingsTest_busless {a : APwrRailingsTest} (hname : a.dev_name = tps65217c) :
    (pwrRailingsTest buslessBoard.i2c.toI2cDriver (some a)).run (Fixture.atBoot false) =
      .ok .fail (Fixture.atBoot false) := by
  show (if a.dev_name ≠ tps65217c then _ else _ : TestProg Bool TestResultTypes).run _ = _
  rw [if_neg (not_not.mpr hname)]
  rfl

theorem not_accountable_pwrRailings {a : APwrRailingsTest} (hname : a.dev_name = tps65217c)
    (fuel : ℕ) (testId : BitVec 32) :
    ¬ Accountable buslessBoard fuel (.pwrRailings (some a)) testId (Fixture.atBoot false) :=
  not_accountable_of_silent (run_pwrRailingsTest_busless hname) rfl

/-- A dull board that loses its buses once something has been read from one. -/
def lossyBoard : Drivers Bool := dull fun hasRead => if hasRead then none else some 0

/-- What the lossy board has come to when the set-up of the clock has failed: the status
register was read, and there was no bus left to write it back. -/
def lossyFixture : Fixture Bool := Fixture.atBoot true

/-- The missing `ReportEvent` of the set-up is missed. -/
theorem run_ds2321RtcInit_lossy (testId : BitVec 32) (chip_address i2c_bus : BitVec 8)
    (speed : BitVec 32) :
    (ds2321RtcInit lossyBoard.i2c testId chip_address i2c_bus speed).run (Fixture.atBoot false) =
      .ok .fail lossyFixture := rfl

theorem not_accountable_rtcGetTime (a : ADs2321RtcGetTimeTest) (fuel : ℕ) (testId : BitVec 32) :
    ¬ Accountable lossyBoard fuel (.rtcGetTime (some a)) testId (Fixture.atBoot false) :=
  not_accountable_of_silent
    (run_ds2321RtcGetTimeTest_of_init (run_ds2321RtcInit_lossy testId _ _ _)) rfl

theorem not_accountable_rtcSetTime {a : ADs2321RtcSetTimeTest} (hrange : a.inRange = true)
    (fuel : ℕ) (testId : BitVec 32) :
    ¬ Accountable lossyBoard fuel (.rtcSetTime (some a)) testId (Fixture.atBoot false) :=
  not_accountable_of_silent
    (run_ds2321RtcSetTimeTest_of_init hrange (run_ds2321RtcInit_lossy testId _ _ _)) rfl

/-- A time there is not fails an assertion, and not the test. -/
theorem not_accountable_of_range {io : Drivers D} {fuel : ℕ} {a : ADs2321RtcSetTimeTest}
    (hrange : a.inRange = false) (testId : BitVec 32) (s : Fixture D) :
    ¬ Accountable io fuel (.rtcSetTime (some a)) testId s := by
  rw [ADs2321RtcSetTimeTest.inRange, Bool.not_eq_false', decide_eq_true_eq] at hrange
  have hrun : ((SuiteTest.rtcSetTime (some a)).call io fuel testId).run s =
      .ok .aborted (s.reported (.errEventMsg 0 .assert .testDs2321Rtc 236)) := by
    show (ds2321RtcSetTimeTest io.i2c testId (some a)).run s = _
    unfold ds2321RtcSetTimeTest
    simp only
    rw [if_pos hrange]
    rfl
  unfold Accountable
  rw [hrun]
  rintro ⟨l, hl, hiff⟩
  have hnew : [.errEventMsg 0 .assert .testDs2321Rtc 236] = l := List.append_cancel_left hl
  have herror : Erroneous l := ⟨_, hnew ▸ List.mem_singleton.mpr rfl, rfl⟩
  exact TestResultTypes.noConfusion (hiff.mpr herror)

theorem SuiteTest.Diagnosed.accepted {conventional : Prop} {t : SuiteTest}
    (h : t.Diagnosed conventional) (harg : t.hasArg = true) : t.accepted = true := by
  cases t with
  | rtcSetTime arg => exact h.2
  | _ => exact harg

theorem SuiteTest.Diagnosed.loud {conventional : Prop} {io : Drivers D} {t : SuiteTest}
    (h : t.Diagnosed conventional) (hconv : conventional → io.i2c.Conventional) : t.Loud io := by
  cases t with
  | gpio arg => exact h
  | norFlash arg => exact h
  | pwrRailings arg => exact h.imp_left hconv
  | rtcSetTime arg => exact hconv h.1
  | rtcGetTime arg => exact hconv h
  | _ => trivial

/-- **Which tests can be relied on to fail exactly if they report an error.**  On every
board these are the tests that drive no pin, do not look for a flash on another bus than
the first, and make no use of the clock or of the power supply.  Where the lookups of I2C
buses are conventional, the tests of the clock and of the power supply are among them, as
long as the time to set is one. -/
theorem accountable_iff (t : SuiteTest) (harg : t.hasArg = true) (conventional : Prop) :
    (∀ (D : Type) (io : Drivers D) (fuel : ℕ) (testId : BitVec 32) (s : Fixture D), 32 < fuel →
      (conventional → io.i2c.Conventional) → Accountable io fuel t testId s) ↔
    t.Diagnosed conventional := by
  constructor
  · intro h
    -- each test that is left out is silent on one of the boards above
    have hdull := h Bool dullBoard 33 1 (Fixture.atBoot false) (by decide)
      fun _ => conventional_dullBoard
    cases t with
    | gpio arg =>
        rintro a rfl hdir
        exact not_accountable_gpio hdir 33 1 _ hdull
    | norFlash arg =>
        rintro a rfl
        by_contra hbus
        exact not_accountable_norFlash hbus 33 1 _ hdull
    | pwrRailings arg =>
        by_contra hnot
        obtain ⟨hconv, hname⟩ := not_or.mp hnot
        push Not at hname
        obtain ⟨a, rfl, hname⟩ := hname
        exact not_accountable_pwrRailings hname 33 1
          (h Bool buslessBoard 33 1 _ (by decide) fun hc => absurd hc hconv)
    | rtcSetTime arg =>
        obtain ⟨a, rfl⟩ := Option.isSome_iff_exists.mp harg
        have hrange : a.inRange = true := by
          rw [← Bool.not_eq_false]
          exact fun hout => not_accountable_of_range hout 1 _ hdull
        refine ⟨?_, hrange⟩
        by_contra hconv
        exact not_accountable_rtcSetTime hrange 33 1
          (h Bool lossyBoard 33 1 _ (by decide) fun hc => absurd hc hconv)
    | rtcGetTime arg =>
        obtain ⟨a, rfl⟩ := Option.isSome_iff_exists.mp harg
        show conventional
        by_contra hconv
        exact not_accountable_rtcGetTime a 33 1
          (h Bool lossyBoard 33 1 _ (by decide) fun hc => absurd hc hconv)
    | _ => trivial
  · intro h D io fuel testId s hfuel hconv
    exact accountable_of_loud hfuel (h.accepted harg) (h.loud hconv) testId s

/-- The configuration the clock is read with. -/
def rtcGetTimeArgs : ADs2321RtcGetTimeTest := ⟨1, 100000, 0x68⟩

theorem clock_accountable :
    (SuiteTest.rtcGetTime (some rtcGetTimeArgs)).hasArg = true ∧
    ∀ (D : Type) (io : Drivers D) (fuel : ℕ) (testId : BitVec 32) (s : Fixture D), 32 < fuel →
      (True → io.i2c.Conventional) →
      Accountable io fuel (.rtcGetTime (some rtcGetTimeArgs)) testId s :=
  ⟨rfl, (accountable_iff (.rtcGetTime (some rtcGetTimeArgs)) rfl True).mpr trivial⟩

/-- The configuration of `GPIO0_OUTPUT_ENABLE`. -/
def gpio0OutputEnable : AGpioTest where
  pad_ctrl_base_addr := 0x44E10000
  pad_ctrl_offset := 0x814
  pad_ctrl_val := 0x17
  gpio_bank_base_addr := 0x4804c000
  gpio_bank_enable_offset := 0x130
  gpio_bank_enable_val := 0x0
  gpio_direction := 1
  gpio_bank_output_offset := 0x134
  gpio_bank_datain_offset := 0x138
  gpio_bank_dataout_offset := 0x13C
  gpio_pin := 21
  enable := 1

/-- A pin that stays low fails the test, and nothing is reported. -/
theorem dead_pin_unreported :
    ((SuiteTest.gpio (some gpio0OutputEnable)).call dullBoard 33 1).run (Fixture.atBoot false) =
      .ok .fail (Fixture.atBoot false) ∧
    ¬ Accountable dullBoard 33 (.gpio (some gpio0OutputEnable)) 1 (Fixture.atBoot false) :=
  ⟨run_gpioTest_dull rfl _, not_accountable_gpio rfl 33 1 _⟩

end BoardDiag
