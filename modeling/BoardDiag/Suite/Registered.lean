import BoardDiag.Suite.I2cDevices
import BoardDiag.Suite.Memory
import BoardDiag.Suite.NorFlash
import BoardDiag.Suite.Peripherals

/-!
# The test suite as a whole

The fourteen test functions `testsuite/Makefile` builds for the am335x, as one function
of a test and its configuration.

`emits_call` puts together what the preceding files say of each test.  Every call
returns, or goes through a pointer or beyond an array --- and for that the drivers or
the configuration have to be at fault.  If it returns, it has a verdict; and the verdict
agrees with what has been reported, except for the tests and configurations that
`SuiteTest.Loud` leaves out.
-/

namespace BoardDiag

open Machine Relation

/-- The drivers a board has. -/
structure Drivers (D : Type) where
  i2c : I2cBusDriver D
  flash : SpiFlashDriver D
  memory : MemoryDriver D
  registers : RegisterDriver D
  phy : PhyDriver D
  mmc : MmcDriver D
  net : NetDriver D

/-- A test function with the configuration it is registered with. -/
inductive SuiteTest where
  | i2cInterface (arg : Option AI2cInterfaceTest)
  | ping (arg : Option APingTest)
  | mmcDetection (arg : Option AMmcDetectionTest)
  | mmcWriteRead (arg : Option AMmcWriteReadTest)
  | memoryDataLine (arg : Option AMemoryDataLineTest)
  | memoryAddressLine (arg : Option AMemoryAddressLineTest)
  | memoryPattern (arg : Option AMemoryPatternTest)
  | gpio (arg : Option AGpioTest)
  | ethernet (arg : Option AEthernetTest)
  | pwrRailings (arg : Option APwrRailingsTest)
  | eepromReadWrite (arg : Option AEepromReadWriteTest)
  | norFlash (arg : Option ANorFlashTest)
  | rtcSetTime (arg : Option ADs2321RtcSetTimeTest)
  | rtcGetTime (arg : Option ADs2321RtcGetTimeTest)

variable {D : Type}

namespace SuiteTest

/-- Call the test function with its configuration. -/
def call (io : Drivers D) (fuel : ℕ) (testId : BitVec 32) : SuiteTest → TestProg D TestResultTypes
  | i2cInterface arg => i2cInterfaceTest io.i2c testId arg
  | ping arg => pingTest io.net testId arg
  | mmcDetection arg => mmcDetectionTest io.mmc testId arg
  | mmcWriteRead arg => mmcWriteReadTest arg
  | memoryDataLine arg => memoryDataLineTest io.memory fuel testId arg
  | memoryAddressLine arg => memoryAddressLineTest io.memory fuel testId arg
  | memoryPattern arg => memoryPatternTest io.memory testId arg
  | gpio arg => gpioTest io.registers arg
  | ethernet arg => ethernetTest io.phy testId arg
  | pwrRailings arg => pwrRailingsTest io.i2c.toI2cDriver arg
  | eepromReadWrite arg => eepromReadWriteTest io.i2c.toI2cDriver testId arg
  | norFlash arg => norFlashTest io.flash testId arg
  | rtcSetTime arg => ds2321RtcSetTimeTest io.i2c testId arg
  | rtcGetTime arg => ds2321RtcGetTimeTest io.i2c testId arg

/-- The configuration is not null. -/
def hasArg : SuiteTest → Bool
  | i2cInterface arg => arg.isSome
  | ping arg => arg.isSome
  | mmcDetection arg => arg.isSome
  | mmcWriteRead arg => arg.isSome
  | memoryDataLine arg => arg.isSome
  | memoryAddressLine arg => arg.isSome
  | memoryPattern arg => arg.isSome
  | gpio arg => arg.isSome
  | ethernet arg => arg.isSome
  | pwrRailings arg => arg.isSome
  | eepromReadWrite arg => arg.isSome
  | norFlash arg => arg.isSome
  | rtcSetTime arg => arg.isSome
  | rtcGetTime arg => arg.isSome

/-- The configuration passes the assertions of the test. -/
def accepted : SuiteTest → Bool
  | rtcSetTime arg => arg.any (·.inRange)
  | t => t.hasArg

/-- The test gets as far as a transfer over an I2C bus. -/
def transfers : SuiteTest → Bool
  | pwrRailings arg => arg.any fun a => decide (a.dev_name = tps65217c)
  | eepromReadWrite arg => arg.isSome
  | rtcSetTime arg => arg.any (·.inRange)
  | rtcGetTime arg => arg.isSome
  | _ => false

/-- The test probes a bus. -/
def probes : SuiteTest → Bool
  | i2cInterface _ => true
  | _ => false

/-- What the test fails from is reported. -/
def Loud (io : Drivers D) : SuiteTest → Prop
  | gpio arg => ∀ a ∈ arg, a.gpio_direction ≠ 1#32
  | pwrRailings arg => io.i2c.Conventional ∨ ∀ a ∈ arg, a.dev_name ≠ tps65217c
  | norFlash arg => ∀ a ∈ arg, a.spi_bus_no = 0
  | rtcSetTime _ => io.i2c.Conventional
  | rtcGetTime _ => io.i2c.Conventional
  | _ => True

/-- The configuration leads neither through a null pointer nor beyond a buffer. -/
def Fits : SuiteTest → Prop
  | i2cInterface arg => ∀ a ∈ arg, a.NamesFit
  | ping arg => ∃ a ∈ arg, (pingFailedString a.ip_address).length < diagDimStringEvent
  | memoryDataLine arg => arg ≠ none
  | memoryAddressLine arg => arg ≠ none
  | norFlash arg => ∀ a ∈ arg, a.spi_len.toNat ≤ spiTestLen
  | _ => True

end SuiteTest

/-- The drivers deliver a device wherever the tests go on to use one. -/
structure Drivers.Sound (io : Drivers D) : Prop where
  chips : io.i2c.ChipsFound
  flash : io.flash.FindsFlash
  priv : io.mmc.HasPriv

section Call

variable {c testId : BitVec 32} {K : Report → Prop} {bus stop : Prop} {io : Drivers D} {fuel : ℕ}

/-- **What a call of a test reports and returns.** -/
theorem emits_call (hK : Admits K c testId) (hbus : bus → io.i2c.FindsBus) (hfuel : 32 < fuel)
    (t : SuiteTest) (hU : t.transfers = true → Admits K c 0)
    (hstop : ¬ (io.Sound ∧ t.Fits) → stop) :
    Emits (logged c K bus) stop (fun _ => True) (t.call io fuel testId)
      fun r l _ => (r = .inProgress ∧ l = [] ∧ t.probes = true ∧ ¬ io.i2c.Errno) ∨
        Answers t.accepted (t.Loud io) r l := by
  have hright : ∀ {x : TestProg D TestResultTypes} {Q : TestResultTypes → List Report → Prop}
      {p : TestResultTypes → List Report → Prop},
      Emits (logged c K bus) stop (fun _ => True) x (fun r l _ => Q r l) →
      Emits (logged c K bus) stop (fun _ => True) x fun r l _ => p r l ∨ Q r l :=
    fun h => h.conseq (fun _ hs => hs) fun _ _ _ hr => .inr hr
  have hchips : ¬ io.i2c.ChipsFound → stop := fun h => hstop fun hs => h hs.1.chips
  cases t with
  | i2cInterface arg =>
      refine (emits_i2cInterfaceTest hK hbus arg fun a ha hlong => hstop fun hs =>
        hlong (hs.2 a ha)).conseq (fun _ hs => hs) fun r l _ h => ?_
      exact h.imp_left fun h => ⟨h.1, h.2.1, rfl, h.2.2⟩
  | ping arg =>
      refine hright (emits_answers _ (emits_pingTest hK arg (fun hnull => hstop ?_)
        fun a ha hlong => hstop ?_))
      · rintro ⟨-, a, ha, -⟩
        rw [hnull] at ha
        exact absurd ha (Option.not_mem_none a)
      · rintro ⟨-, b, hb, hshort⟩
        obtain rfl := Option.mem_unique ha hb
        exact absurd hshort (Nat.not_lt.mpr hlong)
  | mmcDetection arg =>
      exact hright (emits_mmcDetectionTest hK (fun h => hstop fun hs => h hs.1.priv) arg)
  | mmcWriteRead arg => exact hright (emits_mmcWriteReadTest hK arg)
  | memoryDataLine arg =>
      exact hright (emits_answers _ (emits_memoryDataLineTest hK hfuel arg fun hnull =>
        hstop fun hs => hs.2 hnull))
  | memoryAddressLine arg =>
      exact hright (emits_answers _ (emits_memoryAddressLineTest hK hfuel arg fun hnull =>
        hstop fun hs => hs.2 hnull))
  | memoryPattern arg => exact hright (emits_memoryPatternTest hK arg)
  | gpio arg => exact hright (emits_gpioTest hK arg)
  | ethernet arg => exact hright (emits_ethernetTest hK arg)
  | pwrRailings arg =>
      refine hright (emits_pwrRailingsTest hK hbus hchips arg fun a ha hname => hU ?_)
      rw [SuiteTest.transfers, Option.mem_def.mp ha]
      exact decide_eq_true hname
  | eepromReadWrite arg => exact hright (emits_eepromReadWriteTest hK hbus hchips arg hU)
  | norFlash arg =>
      exact hright (emits_norFlashTest hK (fun h => hstop fun hs => h hs.1.flash) arg
        fun a ha hlong => hstop fun hs => absurd (hs.2 a ha) (Nat.not_le.mpr hlong))
  | rtcSetTime arg => exact hright (emits_ds2321RtcSetTimeTest hK hbus hchips arg hU)
  | rtcGetTime arg => exact hright (emits_ds2321RtcGetTimeTest hK hbus hchips arg hU)

end Call

end BoardDiag
