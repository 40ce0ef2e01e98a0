import BoardDiag.Machine.Emits
import BoardDiag.Suite.I2cUtils

/-!
# What a test reports

A test answers twice: with the verdict it returns, and with the events it reports on
the way.  The two are written by separate statements, and nothing makes them agree.

`logged` observes what a test adds to the event log.  It comes with three
parameters, so that one description of a test serves for everything that is said of
tests later: the id the event log has for the current test, a property every report
has, and whether the I2C bus that is selected stays selected.

`Honest` is the agreement that should be there: a test fails exactly if it has
reported an error.  The descriptions of the I2C utilities come with it --- and with
an exception.  When no bus is selected the utilities fail and report nothing.  A
lookup that either finds a bus or returns an error code that shows in its low byte
(`I2cDriver.Conventional`) keeps that from happening.
-/

namespace BoardDiag

open Machine

variable {D α : Type}

/-- The report is of an error: an event other than an information, or an error event. -/
def Report.isError : Report → Bool
  | .event e => e.eventType ≠ .info
  | .errEvent _ _ => true
  | .errEventMsg _ _ _ _ => true

/-- An error has been reported. -/
def Erroneous (l : List Report) : Prop := ∃ r ∈ l, r.isError = true

theorem not_erroneous_nil : ¬ Erroneous [] := by
  rintro ⟨r, hr, -⟩
  exact List.not_mem_nil hr

theorem Erroneous.append_left {l : List Report} (h : Erroneous l) (m : List Report) :
    Erroneous (l ++ m) := by
  obtain ⟨r, hr, herror⟩ := h
  exact ⟨r, List.mem_append_left m hr, herror⟩

theorem Erroneous.append_right {m : List Report} (h : Erroneous m) (l : List Report) :
    Erroneous (l ++ m) := by
  obtain ⟨r, hr, herror⟩ := h
  exact ⟨r, List.mem_append_right l hr, herror⟩

/-- **The verdict and the reports agree**: the test has failed and reported an error, or
has passed or been aborted and reported none.  A failure need only be reported if
`loud`. -/
def Honest (loud : Prop) (r : TestResultTypes) (l : List Report) : Prop :=
  ((r = .pass ∨ r = .aborted) ∧ ¬ Erroneous l) ∨ (r = .fail ∧ (loud → Erroneous l))

/-- **A verdict.** -/
def Conclusive (r : TestResultTypes) : Prop := r = .pass ∨ r = .fail ∨ r = .aborted

theorem Honest.conclusive {loud : Prop} {r : TestResultTypes} {l : List Report}
    (h : Honest loud r l) : Conclusive r := by
  rcases h with ⟨hr | hr, -⟩ | ⟨hr, -⟩
  · exact .inl hr
  · exact .inr (.inr hr)
  · exact .inr (.inl hr)

/-- **What a test answers**: a verdict, and one that agrees with its reports if it has been
given a configuration. -/
def Answers (configured : Bool) (loud : Prop) (r : TestResultTypes) (l : List Report) : Prop :=
  Conclusive r ∧ (configured = true → Honest loud r l)

theorem Honest.answers {loud : Prop} {r : TestResultTypes} {l : List Report}
    (h : Honest loud r l) (configured : Bool) : Answers configured loud r l :=
  ⟨h.conclusive, fun _ => h⟩

theorem honest_pass (loud : Prop) : Honest loud .pass [] :=
  .inl ⟨.inl rfl, not_erroneous_nil⟩

theorem honest_aborted (loud : Prop) : Honest loud .aborted [] :=
  .inl ⟨.inr rfl, not_erroneous_nil⟩

theorem honest_fail {loud : Prop} {l : List Report} (h : Erroneous l) : Honest loud .fail l :=
  .inr ⟨rfl, fun _ => h⟩

theorem Honest.mono {loud loud' : Prop} {r : TestResultTypes} {l : List Report}
    (h : Honest loud r l) (himp : loud' → loud) : Honest loud' r l :=
  h.imp_right fun hfail => ⟨hfail.1, fun hloud => hfail.2 (himp hloud)⟩

/-! ## Observing the event log -/

/-- What a test adds to the event log.  The current test id is `c` and stays `c`; every
report has `K`; and if `bus`, then once a bus is selected one stays selected. -/
structure Sees (K : Report → Prop) (bus : Prop) (s : Fixture D) (l : List Report)
    (s' : Fixture D) : Prop where
  curTestId_eq : s'.curTestId = s.curTestId
  reports_eq : s'.reports = s.reports ++ l
  reported : ∀ r ∈ l, K r
  bus_kept : bus → s.i2cCurBus.isSome → s'.i2cCurBus.isSome

def logged (c : BitVec 32) (K : Report → Prop) (bus : Prop) :
    Observation (Fixture D) Report where
  inv s := s.curTestId = c
  sees := Sees K bus
  refl s := ⟨rfl, (List.append_nil _).symm, fun r hr => absurd hr List.not_mem_nil, fun _ h => h⟩
  trans h₁ h₂ :=
    { curTestId_eq := h₂.curTestId_eq.trans h₁.curTestId_eq
      reports_eq := by rw [h₂.reports_eq, h₁.reports_eq, List.append_assoc]
      reported := fun r hr => (List.mem_append.mp hr).elim (h₁.reported r) (h₂.reported r)
      bus_kept := fun hbus hs => h₂.bus_kept hbus (h₁.bus_kept hbus hs) }
  keeps hinv h := h.curTestId_eq.trans hinv

/-- The reports a test with the id `testId` may make have `K`: its own events, with or
without a text, and its assertions.  The I2C utilities are a reporter with the id `0`. -/
structure Admits (K : Report → Prop) (c testId : BitVec 32) : Prop where
  event : ∀ eventType address string,
    K (.event { eventInit c testId eventType address with string := string })
  assert : ∀ file line, K (.errEventMsg 0 .assert file line)

section Rules

variable {c testId : BitVec 32} {K : Report → Prop} {bus stop : Prop} {P : Fixture D → Prop}

theorem sees_reported {s : Fixture D} {r : Report} (hK : K r) :
    Sees K bus s [r] (s.reported r) := by
  refine ⟨rfl, rfl, fun x hx => ?_, fun _ h => h⟩
  rw [List.mem_singleton.mp hx]
  exact hK

theorem sees_nil {s s' : Fixture D} (hid : s'.curTestId = s.curTestId)
    (hreports : s'.reports = s.reports) (hcur : s'.i2cCurBus = s.i2cCurBus) :
    Sees K bus s [] s' where
  curTestId_eq := hid
  reports_eq := by rw [hreports, List.append_nil]
  reported := fun _ hr => absurd hr List.not_mem_nil
  bus_kept := fun _ hs => by rwa [hcur]

/-- Calling a driver, when nothing is known of the board. -/
theorem emits_drive (f : D → α × D) :
    Emits (logged c K bus) stop P (drive f) fun _ l _ => l = [] ∧ True :=
  fun _ _ _ => .inl ⟨_, _, [], rfl, sees_nil rfl rfl rfl, rfl, trivial⟩

/-- Calling a driver, and what does not depend on the board. -/
theorem emits_drive_frame (hP : ∀ s d, P s → P { s with dev := d }) (f : D → α × D) :
    Emits (logged c K bus) stop P (drive f) fun _ l s => l = [] ∧ P s :=
  fun s _ hs => .inl ⟨_, _, [], rfl, sees_nil rfl rfl rfl, rfl, hP s _ hs⟩

/-- Writing a text for an event. -/
theorem emits_sprintfString {text : List Byte} (h : diagDimStringEvent ≤ text.length → stop) :
    Emits (logged c K bus) stop P (sprintfString text) fun _ l s => l = [] ∧ P s :=
  .ite (fun hlong => .outOfBounds (h hlong)) fun _ => .pure fun _ hs => ⟨rfl, hs⟩

/-- Reading the static variables of a test. -/
theorem emits_get :
    Emits (logged c K bus) stop (fun _ => True) (get : TestProg D (Fixture D))
      fun _ l _ => l = [] ∧ True :=
  .get fun _ _ => ⟨rfl, trivial⟩

/-- Writing to the static variables of a test. -/
theorem emits_modify {g : Fixture D → Fixture D} (hid : ∀ s, (g s).curTestId = s.curTestId)
    (hreports : ∀ s, (g s).reports = s.reports) (hcur : ∀ s, (g s).i2cCurBus = s.i2cCurBus) :
    Emits (logged c K bus) stop P (modify g : TestProg D Unit) fun _ l _ => l = [] ∧ True :=
  .modify fun s _ _ => ⟨[], sees_nil (hid s) (hreports s) (hcur s), rfl, trivial⟩

/-- Using a pointer. -/
theorem emits_deref {p : Option α} (h : p = none → stop) :
    Emits (logged c K bus) stop P (deref p) fun a l s => l = [] ∧ p = some a ∧ P s := by
  cases p with
  | none => exact .outOfBounds (h rfl)
  | some a => exact .pure fun s hs => ⟨rfl, rfl, hs⟩

/-- An event without a text. -/
theorem reportEvent_eq (testId : BitVec 32) (eventType : DiagErrEventIDTypes)
    (address : List (BitVec 32)) :
    (reportEvent testId eventType address : TestProg D Unit) =
      reportEventString testId eventType address [] := rfl

/-- **An error is reported**, with a text or without; and what does not depend on the
event log. -/
theorem emits_report_frame (hK : Admits K c testId) {eventType : DiagErrEventIDTypes}
    (herror : eventType ≠ .info) (hP : ∀ s r, P s → P (s.reported r)) (address : List (BitVec 32))
    (string : List Byte) :
    Emits (logged c K bus) stop P (reportEventString testId eventType address string)
      fun _ l s => Erroneous l ∧ P s := by
  refine .modify fun s hinv hs => ?_
  refine ⟨_, sees_reported ?_, ⟨_, List.mem_singleton.mpr rfl, decide_eq_true herror⟩, hP s _ hs⟩
  rw [show s.curTestId = c from hinv]
  exact hK.event eventType address string

/-- An information is no error. -/
theorem emits_inform (hK : Admits K c testId) (address : List (BitVec 32)) (string : List Byte) :
    Emits (logged c K bus) stop P (reportEventString testId .info address string)
      fun _ l _ => ¬ Erroneous l := by
  refine .modify fun s hinv _ => ⟨_, sees_reported ?_, ?_⟩
  · rw [show s.curTestId = c from hinv]
    exact hK.event .info address string
  · rintro ⟨r, hr, herror⟩
    rw [List.mem_singleton.mp hr] at herror
    exact Bool.noConfusion herror

/-- An error is reported. -/
theorem emits_report (hK : Admits K c testId) {eventType : DiagErrEventIDTypes}
    (herror : eventType ≠ .info) (address : List (BitVec 32)) :
    Emits (logged c K bus) stop P (reportEvent testId eventType address)
      fun _ l _ => Erroneous l :=
  (emits_report_frame hK herror (fun _ _ hs => hs) address []).conseq (fun _ _ => trivial)
    fun _ _ _ h => h.1

/-- An error is reported on the way out. -/
theorem emits_reportEvent (hK : Admits K c testId) {eventType : DiagErrEventIDTypes}
    (herror : eventType ≠ .info) (address : List (BitVec 32)) (a : α) :
    Emits (logged c K bus) stop P (do reportEvent testId eventType address; return a)
      fun r l _ => r = a ∧ Erroneous l :=
  .bind (emits_report hK herror address) fun _ _ => .pure fun _ hl => ⟨rfl, hl.append_left []⟩

/-- **An error is reported and the test fails.** -/
theorem emits_reportEvent_fail (hK : Admits K c testId) {eventType : DiagErrEventIDTypes}
    (herror : eventType ≠ .info) (address : List (BitVec 32)) (loud : Prop) (l : List Report) :
    Emits (logged c K bus) stop P (do reportEvent testId eventType address; return .fail)
      fun r m _ => Honest loud r (l ++ m) := by
  refine (emits_reportEvent hK herror address _).conseq (fun _ hs => hs) ?_
  rintro _ m _ ⟨rfl, hm⟩
  exact honest_fail (hm.append_right l)

/-- An error is reported, and a loop is left with it. -/
theorem emits_reportEvent_leave (hK : Admits K c testId) {eventType : DiagErrEventIDTypes}
    (herror : eventType ≠ .info) (address : List (BitVec 32)) :
    Emits (logged c K bus) stop P (do reportEvent testId eventType address; return some .fail)
      fun r l _ => r.elim (l = [] ∧ True) fun status => Honest True status l := by
  refine (emits_reportEvent hK herror address _).conseq (fun _ hs => hs) ?_
  rintro _ l _ ⟨rfl, hl⟩
  exact honest_fail hl

/-- The verdict a loop was left with is the verdict of the test. -/
theorem emits_status {loud : Prop} {status : TestResultTypes} {l : List Report} :
    Emits (logged c K bus) stop (fun _ : Fixture D => Honest loud status l) (pure status)
      fun r m _ => Honest loud r (l ++ m) := by
  refine .pure fun _ hs => ?_
  rw [List.append_nil]
  exact hs

/-- **An assertion fails and the test is aborted.** -/
theorem emits_testAssert (hK : Admits K c testId) (file : SourceFile) (line : ℕ) :
    Emits (logged c K bus) stop P (do testAssert file line; return .aborted)
      fun r l _ => r = TestResultTypes.aborted ∧ Erroneous l := by
  refine .bind (Q := fun _ l _ => Erroneous l) (.modify fun s _ _ => ?_) fun _ l =>
    .pure fun _ hl => ⟨rfl, hl.append_left []⟩
  exact ⟨_, sees_reported (hK.assert file line), _, List.mem_singleton.mpr rfl, rfl⟩

/-- A test that agrees with its reports answers. -/
theorem emits_answers {x : TestProg D TestResultTypes} {loud : Prop} (configured : Bool)
    (h : Emits (logged c K bus) stop P x fun r l _ => Honest loud r l) :
    Emits (logged c K bus) stop P x fun r l _ => Answers configured loud r l :=
  h.conseq (fun _ hs => hs) fun _ _ _ hr => hr.answers configured

/-- A test that is given no configuration and notices. -/
theorem emits_unconfigured (hK : Admits K c testId) (file : SourceFile) (line : ℕ) (loud : Prop) :
    Emits (logged c K bus) stop P (do testAssert file line; return .aborted)
      fun r l _ => Answers false loud r l :=
  (emits_testAssert hK file line).conseq (fun _ hs => hs) fun _ _ _ h =>
    ⟨.inr (.inr h.1), fun h => absurd h Bool.false_ne_true⟩

end Rules

/-! ## The I2C utilities -/

/-- A lookup that succeeds delivers a bus. -/
def I2cDriver.FindsBus (io : I2cDriver D) : Prop :=
  ∀ seq d, (io.uclassGetDeviceBySeq seq d).1.1 = 0 → (io.uclassGetDeviceBySeq seq d).1.2.isSome

/-- A lookup delivers a bus, or an error code that is still one as an `int8_t`. -/
def I2cDriver.Conventional (io : I2cDriver D) : Prop :=
  ∀ seq d, ((io.uclassGetDeviceBySeq seq d).1.1 = 0 ∧
    (io.uclassGetDeviceBySeq seq d).1.2.isSome) ∨
    (io.uclassGetDeviceBySeq seq d).1.1.setWidth 8 ≠ 0

/-- A chip is always assigned to the device it is asked for. -/
def I2cDriver.ChipsFound (io : I2cDriver D) : Prop :=
  ∀ bus chip_addr offset_len d, (io.i2cGetChip bus chip_addr offset_len d).1.2.isSome

section I2c

variable {c : BitVec 32} {K : Report → Prop} {bus stop : Prop} {io : I2cDriver D}

/-- Selecting a bus.  What is selected afterwards is what the lookup delivered, if it
succeeded. -/
theorem emits_setI2cBus (hbus : bus → io.FindsBus) (busnum : BitVec 32) :
    Emits (logged c K bus) stop (fun _ => True) (eBBTFUtilsSetI2cBus io busnum)
      fun ret l s => l = [] ∧ ∃ d, ret = (io.uclassGetDeviceBySeq busnum d).1.1 ∧
        (ret = 0 → s.i2cCurBus = (io.uclassGetDeviceBySeq busnum d).1.2) := by
  intro s _ _
  left
  by_cases hret : (io.uclassGetDeviceBySeq busnum s.dev).1.1 = 0
  · refine ⟨0, { s with
      dev := (io.uclassGetDeviceBySeq busnum s.dev).2
      i2cCurBus := (io.uclassGetDeviceBySeq busnum s.dev).1.2 }, [], ?_, ?_, rfl, s.dev, hret.symm,
      fun _ => rfl⟩
    · rw [eBBTFUtilsSetI2cBus, EStateM.run_bind, run_drive]
      simp only
      rw [if_neg (not_not.mpr hret)]
      rfl
    · exact ⟨rfl, (List.append_nil _).symm, fun _ hr => absurd hr List.not_mem_nil,
        fun h _ => hbus h busnum s.dev hret⟩
  · refine ⟨(io.uclassGetDeviceBySeq busnum s.dev).1.1,
      { s with dev := (io.uclassGetDeviceBySeq busnum s.dev).2 }, [], ?_, ?_, rfl, s.dev, rfl,
      fun h => absurd h hret⟩
    · rw [eBBTFUtilsSetI2cBus, EStateM.run_bind, run_drive]
      simp only
      rw [if_pos hret]
      rfl
    · exact sees_nil rfl rfl rfl

/-- Asking for the selected bus. -/
theorem emits_getI2cBus {P : Fixture D → Prop} :
    Emits (logged c K bus) stop P eBBTFUtilsGetI2cBus fun r l s => l = [] ∧ P s ∧
      ((r = (enodev, none) ∧ s.i2cCurBus = none) ∨
        ∃ dev, r = (0, some dev) ∧ s.i2cCurBus = some dev) := by
  intro s _ hs
  left
  cases hcur : s.i2cCurBus with
  | none =>
      refine ⟨(enodev, none), s, [], ?_, (logged c K bus).refl s, rfl, hs, .inl ⟨rfl, hcur⟩⟩
      rw [eBBTFUtilsGetI2cBus, EStateM.run_bind, EStateM.run_get]
      simp only
      rw [hcur]
      rfl
  | some dev =>
      refine ⟨(0, some dev), s, [], ?_, (logged c K bus).refl s, rfl, hs, .inr ⟨dev, rfl, hcur⟩⟩
      rw [eBBTFUtilsGetI2cBus, EStateM.run_bind, EStateM.run_get]
      simp only
      rw [hcur]
      rfl

/-- `eBBTF_utils_i2c_bus_speed` reports nothing. -/
theorem emits_i2cBusSpeed {io : I2cBusDriver D} (bus_speed : BitVec 32) :
    Emits (logged c K bus) stop (fun _ => True) (eBBTFUtilsI2cBusSpeed io bus_speed)
      fun _ l _ => l = [] ∧ True := by
  unfold eBBTFUtilsI2cBusSpeed
  refine .bind_silent emits_getI2cBus ?_
  rintro ⟨ret, dev⟩
  refine .ite (fun _ => .pure fun _ _ => ⟨rfl, trivial⟩) fun hret => ?_
  intro s hinv hs
  obtain ⟨-, ⟨h, -⟩ | ⟨dev, h, -⟩⟩ := hs
  · rw [Prod.mk.injEq] at h
    exact absurd (h.1 ▸ hret) (by decide)
  · obtain ⟨rfl, rfl⟩ := Prod.mk.inj h
    exact Emits.bind_silent (P := fun _ => True) (emits_drive _) (fun _ => emits_drive _) s hinv
      trivial

/-- **A bus is selected**, or none is, and then there is an error event, if the lookup is
a conventional one. -/
theorem emits_selectBus (hK : Admits K c 0) (hbus : bus → io.FindsBus) (bus_num : BitVec 8) :
    Emits (logged c K bus) stop (fun _ => True) (selectBus io bus_num)
      fun r l _ => (r.isSome ∧ l = []) ∨ (r = none ∧ (io.Conventional → Erroneous l)) := by
  unfold selectBus
  refine .bind_silent (emits_setI2cBus hbus _) fun ret => ?_
  refine .ite (fun _ => ?_) fun hret => ?_
  · exact (emits_reportEvent hK (by decide) _ none).conseq (fun _ hs => hs)
      fun r l _ h => .inr ⟨h.1, fun _ => h.2⟩
  · refine .bind_silent emits_getI2cBus ?_
    rintro ⟨ret', dev⟩ s hinv ⟨⟨d, hlookup, hsel⟩, ⟨h, hnone⟩ | ⟨dev', h, -⟩⟩
    · obtain ⟨rfl, rfl⟩ := Prod.mk.inj h
      refine .inl ⟨none, s, [], rfl, (logged c K bus).refl s, .inr ⟨rfl, fun hconv => ?_⟩⟩
      -- a conventional lookup has found a bus, since it has not failed
      rcases hconv (bus_num.setWidth 32) d with ⟨hzero, hfound⟩ | hlow
      · rw [← hsel (hlookup.trans hzero), hnone] at hfound
        exact absurd hfound (by decide)
      · exact absurd hlow (hlookup ▸ hret)
    · obtain ⟨rfl, rfl⟩ := Prod.mk.inj h
      exact .inl ⟨some dev', s, [], rfl, (logged c K bus).refl s, .inl ⟨rfl, rfl⟩⟩

/-- What is done with the bus, or without one. -/
theorem emits_bind_selectBus (hK : Admits K c 0) (hbus : bus → io.FindsBus) (bus_num : BitVec 8)
    {f : Option Udevice → TestProg D α} {R : α → List Report → Fixture D → Prop}
    (hsome : ∀ dev, Emits (logged c K bus) stop (fun _ => True) (f (some dev)) R)
    (hnone : ∀ l, (io.Conventional → Erroneous l) →
      Emits (logged c K bus) stop (fun _ => True) (f none) fun a m s => R a (l ++ m) s) :
    Emits (logged c K bus) stop (fun _ => True) (selectBus io bus_num >>= f) R := by
  refine .bind (emits_selectBus hK hbus bus_num) fun r l => ?_
  rintro s hinv (⟨hr, rfl⟩ | ⟨rfl, hl⟩)
  · obtain ⟨dev, rfl⟩ := Option.isSome_iff_exists.mp hr
    exact hsome dev s hinv trivial
  · exact hnone l hl s hinv trivial

/-- **A transfer** passes and reports nothing, or it fails; and then it reports an error,
if the lookup is a conventional one. -/
def Transferred (io : I2cDriver D) (r : TestResultTypes) (l : List Report) : Prop :=
  (r = .pass ∧ l = []) ∨ (r = .fail ∧ (io.Conventional → Erroneous l))

theorem Transferred.honest {r : TestResultTypes} {l : List Report} (h : Transferred io r l) :
    Honest io.Conventional r l := by
  rcases h with ⟨rfl, rfl⟩ | hfail
  · exact honest_pass _
  · exact .inr hfail

/-- A test that ends as a transfer does. -/
theorem emits_answers_of_transferred {x : TestProg D TestResultTypes} {P : Fixture D → Prop}
    (configured : Bool)
    (h : Emits (logged c K bus) stop P x fun r l _ => Transferred io r l) :
    Emits (logged c K bus) stop P x fun r l _ => Answers configured io.Conventional r l :=
  emits_answers configured (h.conseq (fun _ hs => hs) fun _ _ _ hr => hr.honest)

/-- An error is reported, as if a transfer had failed. -/
theorem emits_reportEvent_transferred {testId : BitVec 32} (hK : Admits K c testId)
    {eventType : DiagErrEventIDTypes} (herror : eventType ≠ .info) (address : List (BitVec 32))
    {P : Fixture D → Prop} (l : List Report) :
    Emits (logged c K bus) stop P (do reportEvent testId eventType address; return .fail)
      fun r m _ => Transferred io r (l ++ m) := by
  refine (emits_reportEvent hK herror address _).conseq (fun _ hs => hs) ?_
  rintro _ m _ ⟨rfl, hm⟩
  exact .inr ⟨rfl, fun _ => hm.append_right l⟩

/-- What is left after a transfer has failed has failed as well. -/
theorem emits_transferred_fail {status : α → TestResultTypes} {a : α} {P : Fixture D → Prop}
    {l : List Report} (ha : status a = .fail) (hl : io.Conventional → Erroneous l) :
    Emits (logged c K bus) stop P (pure a) fun r m _ => Transferred io (status r) (l ++ m) := by
  refine .pure fun _ _ => ?_
  rw [List.append_nil]
  exact .inr ⟨ha, hl⟩

/-- The chip is asked for; without one, the transfer would go through a stray pointer. -/
theorem emits_i2cGetChip (hstop : ¬ io.ChipsFound → stop) (dev : Udevice)
    (chip_addr offset_len : BitVec 32) :
    Emits (logged c K bus) stop (fun _ => True) (drive (io.i2cGetChip dev chip_addr offset_len))
      fun r l _ => l = [] ∧ (r.2 = none → stop) := by
  intro s _ _
  refine .inl ⟨_, _, [], rfl, sees_nil rfl rfl rfl, rfl, fun hnone => hstop fun hfound => ?_⟩
  have hsome := hfound dev chip_addr offset_len s.dev
  rw [hnone] at hsome
  exact Bool.noConfusion hsome

theorem emits_setChipOffsetLen {dev : Option Udevice} (hstop : dev = none → stop)
    (ret addr_offset_len : BitVec 32) :
    Emits (logged c K bus) stop (fun _ => True) (setChipOffsetLen io ret dev addr_offset_len)
      fun _ l _ => l = [] ∧ True := by
  unfold setChipOffsetLen
  refine .ite (fun _ => .pure fun _ _ => ⟨rfl, trivial⟩) fun _ => ?_
  refine .bind_silent (emits_deref hstop) fun dev => ?_
  exact emits_drive _

theorem emits_i2cWrite (hK : Admits K c 0) (hbus : bus → io.FindsBus)
    (hstop : ¬ io.ChipsFound → stop) (bus_num : BitVec 8) (chip_address : BitVec 32)
    (reg : BitVec 8) (addr_offset_len : BitVec 32) (write_value : List Byte) :
    Emits (logged c K bus) stop (fun _ => True)
      (eBBTFUtilsI2cWrite io bus_num chip_address reg addr_offset_len write_value)
      fun r l _ => Transferred io r l := by
  unfold eBBTFUtilsI2cWrite
  refine emits_bind_selectBus hK hbus bus_num (fun dev => ?_) fun l hl => ?_
  · refine .bind_silent (emits_i2cGetChip hstop dev chip_address addr_offset_len) ?_
    rintro ⟨ret, chip⟩ t hinvt hchip
    refine Emits.bind_silent (emits_setChipOffsetLen hchip ret addr_offset_len) (fun _ => ?_) t
      hinvt trivial
    refine .bind_silent (emits_deref hchip) fun chip => ?_
    refine .bind_silent (emits_drive _) fun _ => ?_
    refine .bind_silent (emits_drive _) fun ret => ?_
    exact .ite (fun _ => emits_reportEvent_transferred hK (by decide) _ []) fun _ =>
      .pure fun _ _ => .inl ⟨rfl, rfl⟩
  · exact emits_transferred_fail rfl hl

theorem emits_readChip {dev : Option Udevice} (hstop : dev = none → stop) (ret : BitVec 32)
    (reg : BitVec 8) (dlen : ℕ) :
    Emits (logged c K bus) stop (fun _ => True) (readChip io ret dev reg dlen)
      fun _ l _ => l = [] ∧ True := by
  unfold readChip
  refine .ite (fun _ => .pure fun _ _ => ⟨rfl, trivial⟩) fun _ => ?_
  refine .bind_silent (emits_deref hstop) fun dev => ?_
  refine .bind_silent (emits_drive _) fun r => ?_
  exact .pure fun _ _ => ⟨rfl, trivial⟩

theorem emits_i2cRead (hK : Admits K c 0) (hbus : bus → io.FindsBus)
    (hstop : ¬ io.ChipsFound → stop) (bus_num : BitVec 8) (chip_address : BitVec 32)
    (reg : BitVec 8) (addr_offset_len : BitVec 32) (dlen : ℕ) :
    Emits (logged c K bus) stop (fun _ => True)
      (eBBTFUtilsI2cRead io bus_num chip_address reg addr_offset_len dlen)
      fun r l _ => Transferred io r.1 l := by
  unfold eBBTFUtilsI2cRead
  refine emits_bind_selectBus hK hbus bus_num (fun dev => ?_) fun l hl => ?_
  · refine .bind_silent (emits_i2cGetChip hstop dev chip_address addr_offset_len) ?_
    rintro ⟨ret, chip⟩ t hinvt hchip
    refine Emits.bind_silent (emits_setChipOffsetLen hchip ret addr_offset_len) (fun ret => ?_) t
      hinvt trivial
    refine .bind_silent (emits_readChip hchip ret reg dlen) ?_
    rintro ⟨ret, data⟩
    refine .ite (fun _ => ?_) fun _ => .pure fun _ _ => .inl ⟨rfl, rfl⟩
    exact (emits_reportEvent hK (by decide) _ _).conseq (fun _ hs => hs)
      fun r l _ h => .inr ⟨congrArg Prod.fst h.1, fun _ => h.2⟩
  · exact emits_transferred_fail rfl hl

/-- **A transfer inside a test**: what comes after a transfer that passed reports what
the whole reports. -/
theorem emits_bind_transfer {β : Type} {x : TestProg D α} {status : α → TestResultTypes}
    {f : α → TestProg D β} {R : β → List Report → Fixture D → Prop}
    (hx : Emits (logged c K bus) stop (fun _ => True) x
      fun a l _ => Transferred io (status a) l)
    (hpass : ∀ a, status a = .pass → Emits (logged c K bus) stop (fun _ => True) (f a) R)
    (hfail : ∀ a l, status a = .fail → (io.Conventional → Erroneous l) →
      Emits (logged c K bus) stop (fun _ => True) (f a) fun b m s => R b (l ++ m) s) :
    Emits (logged c K bus) stop (fun _ => True) (x >>= f) R := by
  refine .bind hx fun a l s hinv hs => ?_
  rcases hs with ⟨hstatus, rfl⟩ | ⟨hstatus, hl⟩
  · exact hpass a hstatus s hinv trivial
  · exact hfail a l hstatus hl s hinv trivial

end I2c

end BoardDiag
