import BoardDiag.Suite.I2cDevices
import Mathlib.Data.Finset.SymmDiff

/-!
# What the bus scan reports

`I2C_interface_test` probes the 128 addresses of a bus and compares what answers with
the devices its configuration lists.  Seen from outside it compares two sets: `R`, the
addresses that answer, and the addresses that are listed.  It should pass if they are
equal, and otherwise report each address of their difference once, in increasing order:
as an unexpected device if it only answers, and as a device that is not present, under
the name it is listed with first, if it is only listed.

That is what it does, except for one thing.  The name of a device that is not present
is copied into the event with `sprintf`, and the event has room for 255 characters.
`i2c_scan_iff` says that the scan reports the difference exactly if the names it has to
report fit.
-/

namespace BoardDiag

open Machine

variable {D : Type}

/-! ## The difference of two sets of addresses -/

namespace AI2cInterfaceTest

/-- The addresses that are listed. -/
def configured (a : AI2cInterfaceTest) : Finset ℕ :=
  (((List.finRange maxI2cDevice).filter fun (chip : Fin maxI2cDevice) =>
    decide ((chip : ℤ) < a.no_of_device.toInt)).map fun chip =>
      (a.dev_address_list.get chip).toNat).toFinset

theorem mem_configured_iff (a : AI2cInterfaceTest) (i : ℕ) :
    i ∈ a.configured ↔ ∃ chip : Fin maxI2cDevice, (chip : ℤ) < a.no_of_device.toInt ∧
      (a.dev_address_list.get chip).toNat = i := by
  simp [configured]

/-- The listed addresses have seven bits. -/
def SevenBit (a : AI2cInterfaceTest) : Prop :=
  ∀ chip : Fin maxI2cDevice, (chip : ℤ) < a.no_of_device.toInt →
    (a.dev_address_list.get chip).toNat < maxI2cDevice

theorem matches_iff (a : AI2cInterfaceTest) {i : ℕ} (hi : i < maxI2cDevice)
    (chip : Fin maxI2cDevice) :
    a.dev_address_list.get chip = BitVec.ofNat 8 i ↔ (a.dev_address_list.get chip).toNat = i := by
  have hmax : maxI2cDevice = 128 := rfl
  rw [← BitVec.toNat_inj, BitVec.toNat_ofNat, Nat.mod_eq_of_lt (by omega)]

theorem isSome_chip_iff (a : AI2cInterfaceTest) {i : ℕ} (hi : i < maxI2cDevice) :
    (a.chip i).isSome ↔ i ∈ a.configured := by
  rw [chip, List.find?_isSome, mem_configured_iff]
  simp only [List.mem_finRange, true_and, Bool.and_eq_true, decide_eq_true_eq]
  exact exists_congr fun chip => and_congr_right fun _ => a.matches_iff hi chip

/-- The name an address is listed with first. -/
def firstName (a : AI2cInterfaceTest) (i : ℕ) : List Byte :=
  (a.chip i).elim [] fun chip => shownString (a.dev_name_list.get chip)

theorem firstName_of_chip (a : AI2cInterfaceTest) {i : ℕ} {chip : Fin maxI2cDevice}
    (h : a.chip i = some chip) : a.firstName i = shownString (a.dev_name_list.get chip) := by
  rw [firstName, h, Option.elim_some]

/-- The report an address is due, if any, where the addresses in `R` answer: an unexpected
device if it only answers, a device that is not present if it is only listed. -/
def report (a : AI2cInterfaceTest) (curTestId testId : BitVec 32) (R : Finset ℕ) (i : ℕ) :
    Option Report :=
  if i ∈ R ∧ i ∉ a.configured then
    some (.event (eventInit curTestId testId .devUnexpectedDevice (a.address i)))
  else if i ∈ a.configured ∧ i ∉ R then
    some (.event { eventInit curTestId testId .devNotPresent (a.address i) with
      string := a.firstName i })
  else none

section Report

variable {a : AI2cInterfaceTest} {curTestId testId : BitVec 32} {R : Finset ℕ} {i : ℕ}

theorem report_of_unexpected (hR : i ∈ R) (hc : i ∉ a.configured) :
    a.report curTestId testId R i =
      some (.event (eventInit curTestId testId .devUnexpectedDevice (a.address i))) :=
  if_pos ⟨hR, hc⟩

theorem report_of_missing (hR : i ∉ R) (hc : i ∈ a.configured) :
    a.report curTestId testId R i =
      some (.event { eventInit curTestId testId .devNotPresent (a.address i) with
        string := a.firstName i }) := by
  rw [report, if_neg fun h => hR h.1, if_pos ⟨hc, hR⟩]

theorem report_of_agree (h : i ∈ R ↔ i ∈ a.configured) :
    a.report curTestId testId R i = none := by
  rw [report, if_neg fun h' => h'.2 (h.mp h'.1), if_neg fun h' => h'.2 (h.mpr h'.1)]

end Report

/-- The reports the addresses are due, in increasing order. -/
def reportsDue (a : AI2cInterfaceTest) (curTestId testId : BitVec 32) (R : Finset ℕ) :
    List Report :=
  (List.range maxI2cDevice).filterMap (a.report curTestId testId R)

/-- A report is due for the addresses in the difference of the sets. -/
theorem isSome_report_iff (a : AI2cInterfaceTest) (curTestId testId : BitVec 32)
    (R : Finset ℕ) (i : ℕ) :
    (a.report curTestId testId R i).isSome ↔ i ∈ symmDiff R a.configured := by
  rw [Finset.mem_symmDiff]
  by_cases hR : i ∈ R
  · by_cases hc : i ∈ a.configured
    · simp [report_of_agree (iff_of_true hR hc), hR, hc]
    · simp [report_of_unexpected hR hc, hR, hc]
  · by_cases hc : i ∈ a.configured
    · simp [report_of_missing hR hc, hR, hc]
    · simp [report_of_agree (iff_of_false hR hc), hR, hc]

/-- No report is due exactly if the sets are equal. -/
theorem reportsDue_eq_nil_iff (a : AI2cInterfaceTest) (curTestId testId : BitVec 32)
    {R : Finset ℕ} (hR : ∀ i ∈ R, i < maxI2cDevice) (ha : a.SevenBit) :
    a.reportsDue curTestId testId R = [] ↔ R = a.configured := by
  have hconfigured : ∀ i ∈ a.configured, i < maxI2cDevice := by
    intro i hi
    obtain ⟨chip, hchip, rfl⟩ := (a.mem_configured_iff i).mp hi
    exact ha chip hchip
  rw [reportsDue, List.filterMap_eq_nil_iff, ← symmDiff_eq_bot, Finset.bot_eq_empty,
    Finset.eq_empty_iff_forall_notMem]
  refine ⟨fun h i hi => ?_, fun h i _ => ?_⟩
  · have hlt : i < maxI2cDevice := by
      rcases Finset.mem_symmDiff.mp hi with h' | h'
      · exact hR i h'.1
      · exact hconfigured i h'.1
    have hsome := (a.isSome_report_iff curTestId testId R i).mpr hi
    rw [h i (List.mem_range.mpr hlt)] at hsome
    cases hsome
  · exact Option.not_isSome_iff_eq_none.mp fun hsome =>
      h i ((a.isSome_report_iff curTestId testId R i).mp hsome)

end AI2cInterfaceTest

/-! ## The scan -/

/-- **The addresses in `R` answer**: while the board is in a state with `P`, a probe of an
address of the bus returns zero exactly if the address is in `R`. -/
def I2cBusDriver.AnswersAt (io : I2cBusDriver D) (bus : Udevice) (R : Finset ℕ)
    (P : D → Prop) : Prop :=
  ∀ i < maxI2cDevice, ∀ d, P d → P (io.dmI2cProbe bus (BitVec.ofNat 32 i) d).2 ∧
    ((io.dmI2cProbe bus (BitVec.ofNat 32 i) d).1 = 0 ↔ i ∈ R)

/-- The bus is selected, the board is as it should be, and the reports are `l`. -/
structure Scanning (bus : Udevice) (P : D → Prop) (c : BitVec 32) (l : List Report)
    (s : Fixture D) : Prop where
  cur_bus : s.i2cCurBus = some bus
  board : P s.dev
  cur_test : s.curTestId = c
  reports : s.reports = l

theorem Scanning.reported {bus : Udevice} {P : D → Prop} {c : BitVec 32} {l : List Report}
    {s : Fixture D} (h : Scanning bus P c l s) (r : Report) :
    Scanning bus P c (l ++ [r]) (s.reported r) :=
  ⟨h.cur_bus, h.board, h.cur_test, congrArg (· ++ [r]) h.reports⟩

/-- The name that has to be reported for an address fits the event. -/
def AI2cInterfaceTest.NameFits (a : AI2cInterfaceTest) (R : Finset ℕ) (i : ℕ) : Prop :=
  i ∈ a.configured → i ∉ R → (a.firstName i).length < diagDimStringEvent

section Scan

variable {io : I2cBusDriver D} {testId c : BitVec 32} {a : AI2cInterfaceTest} {R : Finset ℕ}
  {bus : Udevice} {P : D → Prop} {i : ℕ} {code : BitVec 32}

/-- Judging an address whose name fits sends the report it is due. -/
theorem run_judgeProbe (hi : i < maxI2cDevice) (hcode : code = 0 ↔ i ∈ R)
    (hfits : a.NameFits R i) (status : TestResultTypes) (s : Fixture D) :
    (judgeProbe testId a i code status).run s =
      .ok (if (a.report s.curTestId testId R i).isSome then .fail else status)
        ((a.report s.curTestId testId R i).elim s s.reported) := by
  have hmem := a.isSome_chip_iff hi
  unfold judgeProbe
  cases hchip : a.chip i with
  | none =>
      have hc : i ∉ a.configured := by
        rw [← hmem, hchip]
        exact Bool.false_ne_true
      simp only
      by_cases hR : i ∈ R
      · rw [if_pos (hcode.mpr hR), AI2cInterfaceTest.report_of_unexpected hR hc]
        rfl
      · rw [if_neg fun h => hR (hcode.mp h),
          AI2cInterfaceTest.report_of_agree (iff_of_false hR hc)]
        rfl
  | some chip =>
      have hc : i ∈ a.configured := by
        rw [← hmem, hchip]
        rfl
      simp only
      by_cases hR : i ∈ R
      · rw [if_neg (not_not.mpr (hcode.mpr hR)),
          AI2cInterfaceTest.report_of_agree (iff_of_true hR hc)]
        rfl
      · have hname : a.firstName i = shownString a.dev_name_list[chip] :=
          a.firstName_of_chip hchip
        have hshort := hfits hc hR
        rw [hname] at hshort
        rw [if_pos fun h => hR (hcode.mp h), sprintfString, if_neg (Nat.not_le.mpr hshort),
          pure_bind, AI2cInterfaceTest.report_of_missing hR hc, hname]
        rfl

theorem triple_judgeProbe (hi : i < maxI2cDevice) (hcode : code = 0 ↔ i ∈ R)
    (hfits : a.NameFits R i) (status : TestResultTypes) (l : List Report) :
    Triple (Scanning bus P c l) (judgeProbe testId a i code status)
      fun r s => r = (if (a.report c testId R i).isSome then .fail else status) ∧
        Scanning bus P c (l ++ (a.report c testId R i).toList) s := by
  intro s hs
  refine ⟨_, _, run_judgeProbe hi hcode hfits status s, by rw [hs.cur_test], ?_⟩
  rw [hs.cur_test]
  cases a.report c testId R i with
  | none => rwa [Option.toList_none, List.append_nil]
  | some report => exact hs.reported report

/-- Judging an address whose name does not fit runs over the event. -/
theorem stops_judgeProbe (hi : i < maxI2cDevice) (hcode : code = 0 ↔ i ∈ R)
    (hlong : ¬ a.NameFits R i) (status : TestResultTypes) (l : List Report) :
    Stops (Scanning bus P c l) (judgeProbe testId a i code status) := by
  have hmem := a.isSome_chip_iff hi
  unfold AI2cInterfaceTest.NameFits at hlong
  push Not at hlong
  obtain ⟨hc, hR, hlen⟩ := hlong
  obtain ⟨chip, hchip⟩ := Option.isSome_iff_exists.mp (hmem.mpr hc)
  have hname : a.firstName i = shownString a.dev_name_list[chip] := a.firstName_of_chip hchip
  rw [hname] at hlen
  intro s hs
  refine ⟨s, ?_⟩
  rw [judgeProbe, hchip]
  simp only
  rw [if_pos fun h => hR (hcode.mp h), sprintfString, if_pos hlen]
  rfl

/-- Probing an address. -/
theorem triple_probe (h : io.AnswersAt bus R P) (hi : i < maxI2cDevice) (l : List Report) :
    Triple (Scanning bus P c l) (drive (io.dmI2cProbe bus (BitVec.ofNat 32 i)))
      fun code s => (code = 0 ↔ i ∈ R) ∧ Scanning bus P c l s := by
  intro s hs
  obtain ⟨hP, hcode⟩ := h i hi s.dev hs.board
  exact ⟨_, _, rfl, hcode, hs.cur_bus, hP, hs.cur_test, hs.reports⟩

theorem triple_getI2cBus (l : List Report) :
    Triple (Scanning bus P c l) eBBTFUtilsGetI2cBus
      fun r s => r = (0, some bus) ∧ Scanning bus P c l s := by
  intro s hs
  refine ⟨(0, some bus), s, ?_, rfl, hs⟩
  rw [eBBTFUtilsGetI2cBus, EStateM.run_bind, EStateM.run_get]
  simp only
  rw [hs.cur_bus]
  rfl

/-- **The scan reports the difference**, address by address, if the names fit. -/
theorem triple_scanBus (h : io.AnswersAt bus R P) (i n : ℕ) (hn : i + n ≤ maxI2cDevice)
    (hfits : ∀ j, i ≤ j → j < i + n → a.NameFits R j) (status : TestResultTypes)
    (l : List Report) :
    Triple (Scanning bus P c l) (scanBus io testId a i n status)
      fun r s => r = (if (List.range' i n).filterMap (a.report c testId R) = [] then status
          else .fail) ∧
        Scanning bus P c (l ++ (List.range' i n).filterMap (a.report c testId R)) s := by
  induction n generalizing i status l with
  | zero =>
      refine .pure fun s hs => ⟨rfl, ?_⟩
      rwa [List.range'_zero, List.filterMap_nil, List.append_nil]
  | succ n ih =>
      unfold scanBus
      refine .bind (triple_getI2cBus l) fun r => .of_fact ?_
      rintro rfl
      refine .ite (fun h => absurd rfl h) fun _ => ?_
      rw [deref_some, pure_bind]
      refine .bind (triple_probe h (by omega) l) fun code => .of_fact fun hcode => ?_
      refine .bind (triple_judgeProbe (by omega) hcode (hfits i (by omega) (by omega)) status l)
        fun r => .of_fact fun hr => ?_
      refine (ih (i + 1) (by omega) (fun j hj hjn => hfits j (by omega) (by omega)) r _).conseq
        (fun _ hs => hs) fun r' s hs => ?_
      rw [List.range'_succ, List.filterMap_cons]
      cases hreport : a.report c testId R i with
      | none =>
          rw [hreport, Option.toList_none, List.append_nil, hr, hreport] at hs
          exact hs
      | some report =>
          rw [hreport, Option.toList_some, List.append_assoc, hr, hreport] at hs
          refine ⟨?_, hs.2⟩
          rw [hs.1, if_neg (List.cons_ne_nil _ _)]
          exact ite_self _

/-- The scan runs over the event where a name does not fit. -/
theorem stops_scanBus (h : io.AnswersAt bus R P) (i n : ℕ) (hn : i + n ≤ maxI2cDevice) {j : ℕ}
    (hij : i ≤ j) (hjn : j < i + n) (hlong : ¬ a.NameFits R j) (status : TestResultTypes)
    (l : List Report) : Stops (Scanning bus P c l) (scanBus io testId a i n status) := by
  induction n generalizing i status l with
  | zero => exact absurd hjn (by omega)
  | succ n ih =>
      unfold scanBus
      refine .after (triple_getI2cBus l) fun r => .of_fact ?_
      rintro rfl
      simp only
      rw [if_neg (not_not.mpr rfl), deref_some, pure_bind]
      refine .after (triple_probe h (by omega) l) fun code => .of_fact fun hcode => ?_
      by_cases hfits : a.NameFits R i
      · -- this name fits, so a later one does not
        have hne : i ≠ j := by
          rintro rfl
          exact hlong hfits
        refine .after (triple_judgeProbe (by omega) hcode hfits status l)
          fun r => .of_fact fun _ => ?_
        exact ih (i + 1) (by omega) (by omega) (by omega) r _
      · exact (stops_judgeProbe (by omega) hcode hfits status l).bind

/-- A test whose bus is selected comes down to the scan. -/
theorem run_i2cInterfaceTest {s : Fixture D} {d : D}
    (hbus : io.uclassGetDeviceBySeq (a.bus_no.signExtend 32) s.dev = ((0, some bus), d)) :
    (i2cInterfaceTest io testId (some a)).run s =
      (scanBus io testId a 0 maxI2cDevice .pass).run
        { s with i2cCurBus := some bus, dev := d } := by
  rw [i2cInterfaceTest, EStateM.run_bind, run_eBBTFUtilsSetI2cBus hbus]
  rfl

theorem stops_i2cInterfaceTest (testId : BitVec 32) {s : Fixture D} {d : D}
    (hbus : io.uclassGetDeviceBySeq (a.bus_no.signExtend 32) s.dev = ((0, some bus), d))
    (h : io.AnswersAt bus R P) (hP : P d) (hi : i < maxI2cDevice) (hlong : ¬ a.NameFits R i) :
    ∃ s', (i2cInterfaceTest io testId (some a)).run s = .error .outOfBounds s' := by
  rw [run_i2cInterfaceTest hbus]
  exact stops_scanBus h 0 maxI2cDevice (by omega) (Nat.zero_le i) (by omega) hlong .pass
    s.reports _ ⟨rfl, hP, rfl, rfl⟩

end Scan

/-- **What the scan reports.**  For every set of addresses that answer and every
configuration whose listed addresses have seven bits, once the bus is selected: the test
passes if the sets are equal and fails otherwise, and has reported the difference, one
event for each address in increasing order, exactly if the first names of the listed
addresses that do not answer have less than 256 characters. -/
theorem i2c_scan_iff {io : I2cBusDriver D} (testId : BitVec 32) {a : AI2cInterfaceTest}
    {R : Finset ℕ} {bus : Udevice} {P : D → Prop} {s : Fixture D} {d : D}
    (hR : ∀ i ∈ R, i < maxI2cDevice) (ha : a.SevenBit)
    (hbus : io.uclassGetDeviceBySeq (a.bus_no.signExtend 32) s.dev = ((0, some bus), d))
    (hanswers : io.AnswersAt bus R P) (hP : P d) :
    (∃ s', (i2cInterfaceTest io testId (some a)).run s =
        .ok (if R = a.configured then .pass else .fail) s' ∧
        s'.reports = s.reports ++ a.reportsDue s.curTestId testId R) ↔
      ∀ i ∈ a.configured, i ∉ R → (a.firstName i).length < diagDimStringEvent := by
  constructor
  · rintro ⟨s', hrun, -⟩ i hi hiR
    have hlt : i < maxI2cDevice := by
      obtain ⟨chip, hchip, rfl⟩ := (a.mem_configured_iff i).mp hi
      exact ha chip hchip
    by_contra hlong
    obtain ⟨s'', hstop⟩ :=
      stops_i2cInterfaceTest testId hbus hanswers hP hlt fun hfits => hlong (hfits hi hiR)
    rw [hrun] at hstop
    cases hstop
  · intro hfits
    obtain ⟨r, s', hrun, hr, hs'⟩ := triple_scanBus hanswers 0 maxI2cDevice (by omega)
      (fun i _ _ => hfits i) .pass s.reports { s with i2cCurBus := some bus, dev := d }
      ⟨rfl, hP, rfl, rfl⟩
    have hdue : (List.range' 0 maxI2cDevice).filterMap (a.report s.curTestId testId R) =
        a.reportsDue s.curTestId testId R := by
      rw [AI2cInterfaceTest.reportsDue, List.range_eq_range']
    rw [hdue] at hr hs'
    simp only [a.reportsDue_eq_nil_iff s.curTestId testId hR ha] at hr
    refine ⟨s', ?_, hs'.reports⟩
    rw [run_i2cInterfaceTest hbus, ← hr]
    exact hrun

/-- A board with a bus on which the addresses in `R` answer. -/
def probeBoard (R : Finset ℕ) : I2cBusDriver Unit where
  writel _ _ d := d
  uclassGetDeviceBySeq _ d := ((0, some 0), d)
  i2cGetChip _ _ _ d := ((0, some 1), d)
  i2cSetChipOffsetLen _ _ d := (0, d)
  setWrAddress _ d := d
  dmI2cWrite _ _ _ d := (0, d)
  dmI2cRead _ _ _ d := ((0, fun _ => 0), d)
  dmI2cGetBusSpeed _ d := (0, d)
  dmI2cSetBusSpeed _ _ d := (0, d)
  dmI2cProbe _ chip_addr d := (if chip_addr.toNat ∈ R then 0 else -121, d)

theorem answersAt_probeBoard (R : Finset ℕ) : (probeBoard R).AnswersAt 0 R fun _ => True := by
  intro i hi d _
  have hmax : maxI2cDevice = 128 := rfl
  have hnat : (BitVec.ofNat 32 i).toNat = i := by
    rw [BitVec.toNat_ofNat, Nat.mod_eq_of_lt (by omega)]
  refine ⟨trivial, ?_⟩
  show (if (BitVec.ofNat 32 i).toNat ∈ R then (0 : BitVec 32) else -121) = 0 ↔ i ∈ R
  rw [hnat]
  by_cases hiR : i ∈ R
  · exact iff_of_true (if_pos hiR) hiR
  · rw [if_neg hiR]
    exact iff_of_false (by decide) hiR

/-- A configuration that lists one device. -/
def oneDevice (address : BitVec 8) (name : CString) : AI2cInterfaceTest where
  bus_no := 0
  dev_address_list := Vector.replicate maxI2cDevice address
  dev_name_list := Vector.replicate maxI2cDevice (some name)
  no_of_device := 1

section OneDevice

variable (address : BitVec 8) (name : CString)

theorem mem_configured_oneDevice (i : ℕ) :
    i ∈ (oneDevice address name).configured ↔ i = address.toNat := by
  have haddress : ∀ chip : Fin maxI2cDevice,
      (oneDevice address name).dev_address_list.get chip = address :=
    fun chip => Vector.getElem_replicate chip.isLt
  rw [AI2cInterfaceTest.mem_configured_iff]
  constructor
  · rintro ⟨chip, -, rfl⟩
    rw [haddress]
  · rintro rfl
    have hcount : ((0 : ℕ) : ℤ) < (1 : BitVec 8).toInt := by decide
    exact ⟨⟨0, by decide⟩, hcount, congrArg BitVec.toNat (haddress _)⟩

theorem sevenBit_oneDevice (h : address.toNat < maxI2cDevice) :
    (oneDevice address name).SevenBit := by
  intro chip _
  rwa [show (oneDevice address name).dev_address_list.get chip = address from
    Vector.getElem_replicate chip.isLt]

theorem firstName_oneDevice (h : address.toNat < maxI2cDevice) :
    (oneDevice address name).firstName address.toNat = name.bytes := by
  have hsome : ((oneDevice address name).chip address.toNat).isSome :=
    ((oneDevice address name).isSome_chip_iff h).mpr ((mem_configured_oneDevice _ _ _).mpr rfl)
  obtain ⟨chip, hchip⟩ := Option.isSome_iff_exists.mp hsome
  rw [AI2cInterfaceTest.firstName_of_chip _ hchip,
    show (oneDevice address name).dev_name_list.get chip = some name from
      Vector.getElem_replicate chip.isLt]
  rfl

end OneDevice

/-- Where a device is listed at 0x50 and one answers at 0x51, both are reported. -/
theorem oneDevice_reported :
    ∃ s', (i2cInterfaceTest (probeBoard {0x51}) 1
        (some (oneDevice 0x50 (.ofChars "EEPROM".toList)))).run (Fixture.atBoot ()) =
        .ok .fail s' ∧
      s'.reports = (oneDevice 0x50 (.ofChars "EEPROM".toList)).reportsDue 0 1 {0x51} := by
  have hne : ¬ ({0x51} : Finset ℕ) = (oneDevice 0x50 (.ofChars "EEPROM".toList)).configured := by
    intro h
    have hmem : 0x51 ∈ ({0x51} : Finset ℕ) := Finset.mem_singleton_self _
    rw [h, mem_configured_oneDevice] at hmem
    exact absurd hmem (by decide)
  have hscan := (i2c_scan_iff 1 (s := Fixture.atBoot ())
    (fun i hi => by rw [Finset.mem_singleton.mp hi]; decide)
    (sevenBit_oneDevice 0x50 (.ofChars "EEPROM".toList) (by decide)) rfl
    (answersAt_probeBoard {0x51}) trivial).mpr fun i hi _ => by
      rw [(mem_configured_oneDevice _ _ i).mp hi, firstName_oneDevice _ _ (by decide)]
      decide
  rw [if_neg hne] at hscan
  exact hscan

/-- A name of 256 characters. -/
def longName : CString where
  bytes := List.replicate 256 (ascii 'A')
  nul_free b hb := by
    rw [List.eq_of_mem_replicate hb]
    decide

/-- A device with such a name that does not answer is not reported: the name runs over the
event. -/
theorem long_name_not_reported :
    ¬ ∃ s', (i2cInterfaceTest (probeBoard ∅) 1 (some (oneDevice 0x50 longName))).run
        (Fixture.atBoot ()) =
        .ok (if ∅ = (oneDevice 0x50 longName).configured then .pass else .fail) s' ∧
      s'.reports = (oneDevice 0x50 longName).reportsDue 0 1 ∅ := by
  rintro ⟨s', hrun, -⟩
  have hlong : ¬ (oneDevice 0x50 longName).NameFits ∅ 0x50 := by
    intro hfits
    have hlen := hfits ((mem_configured_oneDevice _ _ _).mpr rfl) (Finset.notMem_empty _)
    rw [show 0x50 = (0x50 : BitVec 8).toNat from rfl, firstName_oneDevice _ _ (by decide),
      longName, List.length_replicate] at hlen
    exact absurd hlen (by decide)
  obtain ⟨s'', hstop⟩ := stops_i2cInterfaceTest 1 (s := Fixture.atBoot ()) rfl
    (answersAt_probeBoard ∅) trivial (by decide) hlong
  rw [hrun] at hstop
  cases hstop

end BoardDiag
