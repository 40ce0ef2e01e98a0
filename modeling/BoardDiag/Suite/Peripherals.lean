import BoardDiag.Suite.Reports

/-!
# The tests of pins, link, card and network

`testsuite/test_gpio.c`, `testsuite/test_eth.c`, `testsuite/test_mmc.c` and
`testsuite/test_ping.c`.

* `gpioTest` drives a pin and reads it back.  It returns a verdict and never reports
  anything.
* `ethernetTest` has the transceiver negotiate each of four speeds.  A transfer that
  fails leaves the variable it should have filled as it was, and a negotiation that is
  not complete in time counts as a good one.  The first speed is only printed.
* `mmcDetectionTest` looks for the controller at an address.  `mmcWriteReadTest`
  passes at once; what follows in the source is never reached.
* `pingTest` is the one test that uses its configuration without looking whether it
  has one, and does not look later either.
-/

namespace BoardDiag

open Machine

variable {D : Type}

/-! ## Pins -/

/-- What `__raw_writel` and `__raw_readl` do. -/
structure RegisterDriver (D : Type) where
  rawWritel (value addr : BitVec 32) : D → D
  rawReadl (addr : BitVec 32) : D → BitVec 32 × D

/-- `A_GPIO_test`. -/
structure AGpioTest where
  pad_ctrl_base_addr : BitVec 32
  pad_ctrl_offset : BitVec 32
  pad_ctrl_val : BitVec 32
  gpio_bank_base_addr : BitVec 32
  gpio_bank_enable_offset : BitVec 32
  gpio_bank_enable_val : BitVec 32
  gpio_direction : BitVec 32
  gpio_bank_output_offset : BitVec 32
  gpio_bank_datain_offset : BitVec 32
  gpio_bank_dataout_offset : BitVec 32
  gpio_pin : BitVec 32
  enable : BitVec 32

/-- `__raw_writel(value, addr)`. -/
def rawWritel (io : RegisterDriver D) (value addr : BitVec 32) : TestProg D Unit :=
  drive fun d => ((), io.rawWritel value addr d)

/-- `1 << a->gpio_pin`. -/
def AGpioTest.bit (a : AGpioTest) : BitVec 32 := 1#32 <<< a.gpio_pin.toNat

/-- The part of `GPIO_test` for an output. -/
def driveOutput (io : RegisterDriver D) (a : AGpioTest) : TestProg D TestResultTypes := do
  let reg ← drive (io.rawReadl (a.gpio_bank_base_addr + a.gpio_bank_output_offset))
  rawWritel io (reg &&& ~~~a.bit) (a.gpio_bank_base_addr + a.gpio_bank_output_offset)
  let reg ← drive (io.rawReadl (a.gpio_bank_base_addr + a.gpio_bank_datain_offset))
  if a.enable ≠ 0#32 then
    if reg &&& a.bit ≠ 0#32 then
      return .fail
    rawWritel io a.bit (a.gpio_bank_base_addr + a.gpio_bank_dataout_offset)
    let reg ← drive (io.rawReadl (a.gpio_bank_base_addr + a.gpio_bank_datain_offset))
    if reg &&& a.bit ≠ 0#32 then
      return .pass
    return .fail
  else
    rawWritel io (~~~a.bit) (a.gpio_bank_base_addr + a.gpio_bank_dataout_offset)
    let reg ← drive (io.rawReadl (a.gpio_bank_base_addr + a.gpio_bank_datain_offset))
    -- any other pin that reads as set makes the test pass
    if reg &&& ~~~a.bit ≠ 0#32 then
      return .pass
    return .fail

/-- `GPIO_test(testId, arg)`.  It makes no use of its id. -/
def gpioTest (io : RegisterDriver D) (arg : Option AGpioTest) : TestProg D TestResultTypes := do
  match arg with
  | none =>
      testAssert .testGpio 41
      return .aborted
  | some a =>
      rawWritel io a.pad_ctrl_val (a.pad_ctrl_base_addr + a.pad_ctrl_offset)
      rawWritel io a.gpio_bank_enable_val (a.gpio_bank_base_addr + a.gpio_bank_enable_offset)
      if a.gpio_direction = 1#32 then
        driveOutput io a
      else
        return .pass

/-! ## Link -/

/-- What the transceiver's registers do and how time passes. -/
structure PhyDriver (D : Type) where
  /-- `miiphy_read(devname, addr, reg, &value)`, with the value if one is assigned. -/
  miiphyRead (devname : CString) (addr reg : BitVec 8) : D → Option (BitVec 16) × D
  miiphyWrite (devname : CString) (addr reg : BitVec 8) (value : BitVec 16) : D → D
  /-- `mdelay(10)`. -/
  mdelay : D → D

/-- `A_Ethernet_test`. -/
structure AEthernetTest where
  dev_name : CString
  phy_addr : BitVec 8
  phy_name : CString

/-- `"LAN8710A"`. -/
def lan8710a : CString := .ofChars "LAN8710A".toList

/-- `MII_BMCR`. -/
def miiBmcr : BitVec 8 := 0x00

/-- `MII_BMSR`. -/
def miiBmsr : BitVec 8 := 0x01

/-- `MII_ANAR`. -/
def miiAnar : BitVec 8 := 0x04

/-- `MII_LPA`. -/
def miiLpa : BitVec 8 := 0x05

/-- `MII_BMCR_RESET`. -/
def miiBmcrReset : BitVec 16 := 0x8000

/-- `MII_BMCR_AN_ENA | MII_BMCR_RESTART`. -/
def miiBmcrRestart : BitVec 16 := 0x1000 ||| 0x0200

/-- `BMSR_LSTATUS`. -/
def bmsrLstatus : BitVec 16 := 0x0004

/-- `BMSR_ANEGCOMPLETE`. -/
def bmsrAnegcomplete : BitVec 16 := 0x0020

/-- `ADVERTISE_10HALF`. -/
def advertise10Half : BitVec 16 := 0x0020

/-- `ADVERTISE_10FULL`. -/
def advertise10Full : BitVec 16 := 0x0040

/-- `ADVERTISE_100HALF`. -/
def advertise100Half : BitVec 16 := 0x0080

/-- `ADVERTISE_100FULL`. -/
def advertise100Full : BitVec 16 := 0x0100

/-- The variables `Ethernet_test` reads registers into. -/
structure LinkVals where
  an_advert_val : BitVec 16
  an_lp_val : BitVec 16
  bm_sts_val : BitVec 16

/-- `miiphy_read(a->dev_name, a->phy_addr, reg, &value)`: the value afterwards. -/
def miiphyRead (io : PhyDriver D) (a : AEthernetTest) (reg : BitVec 8) (value : BitVec 16) :
    TestProg D (BitVec 16) := do
  let read ← drive (io.miiphyRead a.dev_name a.phy_addr reg)
  return read.getD value

/-- `miiphy_write(a->dev_name, a->phy_addr, reg, value)`. -/
def miiphyWrite (io : PhyDriver D) (a : AEthernetTest) (reg : BitVec 8) (value : BitVec 16) :
    TestProg D Unit :=
  drive fun d => ((), io.miiphyWrite a.dev_name a.phy_addr reg value d)

/-- The negotiation of one speed, and whether the link partner does not offer it. -/
def negotiate (io : PhyDriver D) (a : AEthernetTest) (advertise : BitVec 16) (v : LinkVals) :
    TestProg D (Bool × LinkVals) := do
  miiphyWrite io a miiBmcr 0x0000
  miiphyWrite io a miiBmcr miiBmcrReset
  miiphyWrite io a miiAnar advertise
  miiphyWrite io a miiBmcr miiBmcrRestart
  forFrom (fun _ _ => drive fun d => ((), io.mdelay d)) 0 200 ()
  let bm_sts_val ← miiphyRead io a miiBmsr v.bm_sts_val
  if bm_sts_val &&& bmsrAnegcomplete ≠ 0#16 then
    let an_advert_val ← miiphyRead io a miiAnar v.an_advert_val
    let an_lp_val ← miiphyRead io a miiLpa v.an_lp_val
    return (decide (an_lp_val &&& an_advert_val &&& advertise = 0#16),
      ⟨an_advert_val, an_lp_val, bm_sts_val⟩)
  else
    return (false, { v with bm_sts_val := bm_sts_val })

/-- `Ethernet_test(testId, arg)`. -/
def ethernetTest (io : PhyDriver D) (testId : BitVec 32) (arg : Option AEthernetTest) :
    TestProg D TestResultTypes := do
  match arg with
  | none =>
      testAssert .testEth 42
      return .aborted
  | some a =>
      if a.phy_name ≠ lan8710a then
        return .aborted
      let bm_sts_val ← miiphyRead io a miiBmsr 0
      if bm_sts_val &&& bmsrLstatus = 0#16 then
        reportEvent testId .devNotPresent []
        return .fail
      -- a mismatch at this speed is printed and not reported
      let (_, v) ← negotiate io a advertise10Half ⟨0, 0, bm_sts_val⟩
      let (mismatch, v) ← negotiate io a advertise10Full v
      if mismatch then
        reportEvent testId .devDataMismatch []
        return .fail
      let (mismatch, v) ← negotiate io a advertise100Half v
      if mismatch then
        reportEvent testId .devDataMismatch []
        return .fail
      let (mismatch, _) ← negotiate io a advertise100Full v
      if mismatch then
        reportEvent testId .devDataMismatch []
        return .fail
      return .pass

/-! ## Card -/

/-- What U-Boot's MMC drivers do and answer.  A `Udevice` stands for a `struct mmc *`. -/
structure MmcDriver (D : Type) where
  findMmcDevice (dev_id : ℕ) : D → Option Udevice × D
  /-- `mmc->priv->esdhc_base`, if there is private data. -/
  esdhcBase (mmc : Udevice) (d : D) : Option (BitVec 32)
  /-- `mmc->has_init = 0`. -/
  clearHasInit (mmc : Udevice) : D → D
  mmcInit (mmc : Udevice) : D → BitVec 32 × D
  /-- `IS_SD(mmc)`. -/
  isSd (mmc : Udevice) (d : D) : Bool

/-- `MAX_SDHC_CONTROLLERS`. -/
def maxSdhcControllers : ℕ := 16

/-- `A_MMC_Detection_Test`. -/
structure AMmcDetectionTest where
  base_address : BitVec 32

/-- `A_MMC_WRITE_READ_Test`, of which nothing is read. -/
structure AMmcWriteReadTest where
  base_address : BitVec 32
  block_start : BitVec 32
  block_cnt : BitVec 32
  mmc_test_dev : BitVec 32

/-- The body of the loop of `MMC_Dev_Init`: the device it breaks with, if it does, and its
number. -/
def checkController (io : MmcDriver D) (mmc_port_address : BitVec 32) (dev_id : ℕ) :
    TestProg D (Option (Udevice × ℕ)) := do
  match ← drive (io.findMmcDevice dev_id) with
  | none => return none
  | some mmc =>
      let s ← get
      let esdhc_base ← deref (io.esdhcBase mmc s.dev)
      if esdhc_base = mmc_port_address then
        return some (mmc, dev_id)
      return none

/-- `"%s detected on mmc[%d]"`. -/
def detectedString (isSd : Bool) (curr_device : ℕ) : List Byte :=
  ((if isSd then "SD Card" else "eMMC flash") ++ " detected on mmc[" ++ toString curr_device ++
    "]").toList.map ascii

/-- `MMC_Dev_Init(testId, mmc_port_address, &ommc_param)`. -/
def mmcDevInit (io : MmcDriver D) (testId mmc_port_address : BitVec 32) :
    TestProg D TestResultTypes := do
  match ← searchFrom (checkController io mmc_port_address) 0 maxSdhcControllers with
  | none =>
      reportEvent testId .devNotPresent [mmc_port_address]
      return .fail
  | some (mmc, dev_id) =>
      drive fun d => ((), io.clearHasInit mmc d)
      let mmc_init_status ← drive (io.mmcInit mmc)
      if mmc_init_status.toInt < 0 then
        reportEvent testId .devInit [mmc_port_address]
        return .fail
      let s ← get
      reportEventString testId .info [mmc_port_address, BitVec.ofNat 32 dev_id]
        (detectedString (io.isSd mmc s.dev) dev_id)
      return .pass

/-- `MMC_Detection_Test(testId, arg)`. -/
def mmcDetectionTest (io : MmcDriver D) (testId : BitVec 32) (arg : Option AMmcDetectionTest) :
    TestProg D TestResultTypes := do
  match arg with
  | none =>
      testAssert .testMmc 125
      return .aborted
  | some a => mmcDevInit io testId a.base_address

/-- `MMC_WRITE_READ_Test(testId, arg)`: both branches of the first check return. -/
def mmcWriteReadTest (arg : Option AMmcWriteReadTest) : TestProg D TestResultTypes := do
  match arg with
  | none =>
      testAssert .testMmc 234
      return .aborted
  | some _ => return .pass

/-! ## Network -/

/-- What U-Boot's network code does and answers. -/
structure NetDriver (D : Type) where
  /-- `string_to_ip(s).s_addr`. -/
  stringToIp (s : Option CString) : BitVec 32
  /-- `net_loop(PING)`, with `net_ping_ip` set. -/
  netLoop (net_ping_ip : BitVec 32) : D → BitVec 32 × D

/-- `A_ping_test`. -/
structure APingTest where
  ip_address : Option CString

/-- `"ping to %s failed"`. -/
def pingFailedString (ip_address : Option CString) : List Byte :=
  "ping to ".toList.map ascii ++ shownString ip_address ++ " failed".toList.map ascii

/-- `ping_test(testId, arg)`. -/
def pingTest (io : NetDriver D) (testId : BitVec 32) (arg : Option APingTest) :
    TestProg D TestResultTypes := do
  let a ← deref arg
  let net_ping_ip := io.stringToIp a.ip_address
  if net_ping_ip = 0#32 then
    reportEventString testId .devConfig [] ("Invalid IP address".toList.map ascii)
    return .fail
  let pingResult ← drive (io.netLoop net_ping_ip)
  if pingResult.toInt < 0 then
    let string ← sprintfString (pingFailedString a.ip_address)
    reportEventString testId .devDataTimeout [] string
    return .fail
  return .pass

/-! ## What the tests report -/

section Reports

variable {c testId : BitVec 32} {K : Report → Prop} {bus stop : Prop}

/-- **The test of a pin** reports nothing, so it is honest only about the pins it does not
drive. -/
theorem emits_gpioTest {io : RegisterDriver D} (hK : Admits K c testId) (arg : Option AGpioTest) :
    Emits (logged c K bus) stop (fun _ => True) (gpioTest io arg)
      fun r l _ => Answers arg.isSome (∀ a ∈ arg, a.gpio_direction ≠ 1#32) r l := by
  cases arg with
  | none => exact emits_unconfigured hK _ _ _
  | some a =>
      have hpass : ∀ loud, Emits (logged c K bus) stop (fun _ : Fixture D => True)
          (pure .pass) fun r l _ => Honest loud r l :=
        fun loud => .pure fun _ _ => honest_pass loud
      refine emits_answers _ ?_
      unfold gpioTest
      refine .bind_silent (emits_drive _) fun _ => .bind_silent (emits_drive _) fun _ => ?_
      refine .ite (fun hdir => ?_) fun _ => hpass _
      have hfail : Emits (logged c K bus) stop (fun _ : Fixture D => True) (pure .fail)
          fun r l _ => Honest (∀ b ∈ some a, b.gpio_direction ≠ 1#32) r l :=
        .pure fun _ _ => .inr ⟨rfl, fun h => absurd hdir (h a rfl)⟩
      unfold driveOutput
      refine .bind_silent (emits_drive _) fun _ => .bind_silent (emits_drive _) fun _ => ?_
      refine .bind_silent (emits_drive _) fun _ => .ite (fun _ => ?_) fun _ => ?_
      · refine .ite (fun _ => hfail) fun _ => ?_
        refine .bind_silent (emits_drive _) fun _ => .bind_silent (emits_drive _) fun _ => ?_
        exact .ite (fun _ => hpass _) fun _ => hfail
      · refine .bind_silent (emits_drive _) fun _ => .bind_silent (emits_drive _) fun _ => ?_
        exact .ite (fun _ => hpass _) fun _ => hfail

theorem emits_miiphyRead {io : PhyDriver D} (a : AEthernetTest) (reg : BitVec 8)
    (value : BitVec 16) :
    Emits (logged c K bus) stop (fun _ => True) (miiphyRead io a reg value)
      fun _ l _ => l = [] ∧ True :=
  .bind_silent (emits_drive _) fun _ => .pure fun _ _ => ⟨rfl, trivial⟩

theorem emits_negotiate {io : PhyDriver D} (a : AEthernetTest) (advertise : BitVec 16)
    (v : LinkVals) :
    Emits (logged c K bus) stop (fun _ => True) (negotiate io a advertise v)
      fun _ l _ => l = [] ∧ True := by
  unfold negotiate
  refine .bind_silent (emits_drive _) fun _ => .bind_silent (emits_drive _) fun _ => ?_
  refine .bind_silent (emits_drive _) fun _ => .bind_silent (emits_drive _) fun _ => ?_
  refine .bind_silent (.forFrom_silent (fun _ _ => emits_drive _) 0 200 ()) fun _ => ?_
  refine .bind_silent (emits_miiphyRead a _ _) fun _ => .ite (fun _ => ?_) fun _ => ?_
  · refine .bind_silent (emits_miiphyRead a _ _) fun _ => ?_
    refine .bind_silent (emits_miiphyRead a _ _) fun _ => ?_
    exact .pure fun _ _ => ⟨rfl, trivial⟩
  · exact .pure fun _ _ => ⟨rfl, trivial⟩

/-- **The test of the link** reports an error exactly if it fails. -/
theorem emits_ethernetTest {io : PhyDriver D} (hK : Admits K c testId)
    (arg : Option AEthernetTest) :
    Emits (logged c K bus) stop (fun _ => True) (ethernetTest io testId arg)
      fun r l _ => Answers arg.isSome True r l := by
  cases arg with
  | none => exact emits_unconfigured hK _ _ _
  | some a =>
      have hfail : ∀ {eventType}, eventType ≠ .info →
          Emits (logged c K bus) stop (fun _ : Fixture D => True)
            (do reportEvent testId eventType []; return .fail) fun r l _ => Honest True r l :=
        fun herror => emits_reportEvent_fail hK herror [] True []
      refine emits_answers _ ?_
      unfold ethernetTest
      refine .ite (fun _ => .pure fun _ _ => honest_aborted True) fun _ => ?_
      refine .bind_silent (emits_miiphyRead a _ _) fun _ => ?_
      refine .ite (fun _ => hfail (by decide)) fun _ => ?_
      refine .bind_silent (emits_negotiate a _ _) fun _ => ?_
      refine .bind_silent (emits_negotiate a _ _) fun _ => ?_
      refine .ite (fun _ => hfail (by decide)) fun _ => ?_
      refine .bind_silent (emits_negotiate a _ _) fun _ => ?_
      refine .ite (fun _ => hfail (by decide)) fun _ => ?_
      refine .bind_silent (emits_negotiate a _ _) fun _ => ?_
      exact .ite (fun _ => hfail (by decide)) fun _ => .pure fun _ _ => honest_pass True

/-- Every card that is found has private data. -/
def MmcDriver.HasPriv (io : MmcDriver D) : Prop := ∀ mmc d, (io.esdhcBase mmc d).isSome

theorem emits_checkController {io : MmcDriver D} (hstop : ¬ io.HasPriv → stop)
    (mmc_port_address : BitVec 32) (dev_id : ℕ) :
    Emits (logged c K bus) stop (fun _ => True) (checkController io mmc_port_address dev_id)
      fun r l _ => r.elim (l = [] ∧ True) fun _ => l = [] := by
  unfold checkController
  refine .bind_silent (emits_drive _) fun mmc => ?_
  cases mmc with
  | none => exact .pure fun _ _ => ⟨rfl, trivial⟩
  | some mmc =>
      refine .bind_silent emits_get fun s => ?_
      refine .bind_silent (emits_deref fun hnone => hstop fun hpriv => ?_) fun _ => ?_
      · have hsome := hpriv mmc s.dev
        rw [hnone] at hsome
        exact Bool.noConfusion hsome
      · exact .ite (fun _ => .pure fun _ _ => rfl) fun _ => .pure fun _ _ => ⟨rfl, trivial⟩

/-- **The detection of a card** reports an error exactly if it fails; that a card is there
is an information. -/
theorem emits_mmcDetectionTest {io : MmcDriver D} (hK : Admits K c testId)
    (hstop : ¬ io.HasPriv → stop) (arg : Option AMmcDetectionTest) :
    Emits (logged c K bus) stop (fun _ => True) (mmcDetectionTest io testId arg)
      fun r l _ => Answers arg.isSome True r l := by
  cases arg with
  | none => exact emits_unconfigured hK _ _ _
  | some a =>
      refine emits_answers _ ?_
      unfold mmcDetectionTest mmcDevInit
      refine .bind_search (.searchFrom (emits_checkController hstop a.base_address) _ _)
        (emits_reportEvent_fail hK (by decide) _ True []) ?_
      rintro ⟨mmc, dev_id⟩ l s hinv rfl
      refine Emits.bind_silent (P := fun _ => True) (emits_drive _) (fun _ => ?_) s hinv trivial
      refine .bind_silent (emits_drive _) fun _ => ?_
      refine .ite (fun _ => emits_reportEvent_fail hK (by decide) _ True []) fun _ => ?_
      refine .bind_silent emits_get fun s => ?_
      exact .bind_pure (emits_inform hK _ _) fun _ _ _ hl => .inl ⟨.inl rfl, hl⟩

theorem emits_mmcWriteReadTest (hK : Admits K c testId) (arg : Option AMmcWriteReadTest) :
    Emits (logged c K bus) stop (fun _ : Fixture D => True) (mmcWriteReadTest arg)
      fun r l _ => Answers arg.isSome True r l := by
  cases arg with
  | none => exact emits_unconfigured hK _ _ _
  | some a => exact .pure fun _ _ => (honest_pass True).answers _

/-- **The ping** reports an error exactly if it fails. -/
theorem emits_pingTest {io : NetDriver D} (hK : Admits K c testId) (arg : Option APingTest)
    (hnull : arg = none → stop)
    (hlong : ∀ a ∈ arg, diagDimStringEvent ≤ (pingFailedString a.ip_address).length → stop) :
    Emits (logged c K bus) stop (fun _ => True) (pingTest io testId arg)
      fun r l _ => Honest True r l := by
  have hfail : ∀ {eventType string}, eventType ≠ .info →
      Emits (logged c K bus) stop (fun _ : Fixture D => True)
        (do reportEventString testId eventType [] string; return .fail)
        fun r l _ => Honest True r l := by
    intro eventType string herror
    refine .bind (emits_report_frame hK herror (fun _ _ hs => hs) [] string) fun _ l => ?_
    exact .pure fun _ hl => honest_fail (hl.1.append_left [])
  unfold pingTest
  refine .bind_silent (emits_deref hnull) fun a => .of_fact fun harg => ?_
  refine .ite (fun _ => hfail (by decide)) fun _ => ?_
  refine .bind_silent (emits_drive _) fun _ => ?_
  refine .ite (fun _ => ?_) fun _ => .pure fun _ _ => honest_pass True
  exact .bind_silent (emits_sprintfString (hlong a harg)) fun _ => hfail (by decide)

end Reports

end BoardDiag
