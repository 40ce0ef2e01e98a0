import BoardDiag.Suite.DeadStorage
import BoardDiag.Suite.Verdicts
import BoardDiag.Usage.Listed

/-!
# Whose event it is

An event carries the id of the test it belongs to.  The test functions pass their id to
`Event_Init`; the I2C utilities do not know it and pass zero, for which `Event_Init`
puts in the current test id kept by the event log.  `ReportResult` sets that to zero ---
and nothing ever sets it to anything else.

So the events of a failed transfer belong to nobody.  `events_attributed_iff` says in
which runs every event carries the id of the test it was reported by, on every board:
those in which no test is run that gets as far as a transfer, unless its id is zero.
The model of the framework leaves open what the tests do; here the tests are those of
the suite, so this is a statement about the two together.
-/

namespace BoardDiag

open Machine

variable {A D : Type} {B : Build}

/-! ## Events and the tests they are reported by -/

/-- The test that is running after an act: it has been called, and its result has not been
reported. -/
def Act.after (cur : Option (BitVec 32)) : Act A → Option (BitVec 32)
  | .call c => some c.testId
  | .result testId _ => if cur = some testId then none else cur
  | _ => cur

/-- The event an act reports, with the test that is running. -/
def Act.event (cur : Option (BitVec 32)) : Act A → List (BitVec 32 × DiagEventParams)
  | .testReport (.event e) => cur.toList.map fun testId => (testId, e)
  | _ => []

/-- **The events of a trace**, each with the id of the test it is reported by: the one whose
function has been called and whose result has not been reported yet. -/
def eventsOf : Option (BitVec 32) → List (Act A) → List (BitVec 32 × DiagEventParams)
  | _, [] => []
  | cur, x :: xs => x.event cur ++ eventsOf (x.after cur) xs

/-- The test that is running after a trace. -/
def runningAfter (cur : Option (BitVec 32)) (xs : List (Act A)) : Option (BitVec 32) :=
  xs.foldl Act.after cur

theorem eventsOf_append (cur : Option (BitVec 32)) (xs ys : List (Act A)) :
    eventsOf cur (xs ++ ys) = eventsOf cur xs ++ eventsOf (runningAfter cur xs) ys := by
  induction xs generalizing cur with
  | nil => rfl
  | cons x xs ih =>
      rw [List.cons_append, eventsOf, eventsOf, ih, List.append_assoc]
      rfl

/-- **A stretch of a trace**: it begins while `cur` is running and ends while `cur'` is, and
its events are those with `E`. -/
structure Stretch (cur cur' : Option (BitVec 32)) (E : BitVec 32 × DiagEventParams → Prop)
    (xs : List (Act A)) : Prop where
  running : runningAfter cur xs = cur'
  mem_events : ∀ p, p ∈ eventsOf cur xs ↔ E p

namespace Stretch

variable {cur cur' cur'' : Option (BitVec 32)} {E F : BitVec 32 × DiagEventParams → Prop}
  {x : Act A} {xs ys : List (Act A)}

theorem append (hx : Stretch cur cur' E xs) (hy : Stretch cur' cur'' F ys) :
    Stretch cur cur'' (fun p => E p ∨ F p) (xs ++ ys) where
  running := by
    rw [runningAfter, List.foldl_append]
    exact (congrArg (fun c => runningAfter c ys) hx.running).trans hy.running
  mem_events := fun p => by
    rw [eventsOf_append, List.mem_append, hx.running, hx.mem_events, hy.mem_events]

/-- An act that is no event of a test. -/
theorem cons (hx : x.event cur = []) (hxs : Stretch (x.after cur) cur' E xs) :
    Stretch cur cur' E (x :: xs) where
  running := hxs.running
  mem_events := fun p => by
    rw [eventsOf, hx, List.nil_append, hxs.mem_events]

/-- What is printed is no event, and no test is called or done. -/
theorem print (cur : Option (BitVec 32)) (ls : List Line) :
    Stretch cur cur (fun _ => False) (ls.map Act.print : List (Act A)) := by
  induction ls with
  | nil => exact ⟨rfl, fun p => iff_of_false List.not_mem_nil id⟩
  | cons l ls ih => exact cons rfl ih

/-- One report of a test. -/
theorem testReport (testId : BitVec 32) (r : Report) :
    Stretch (some testId) (some testId) (fun p => p.1 = testId ∧ .event p.2 = r)
      [(.testReport r : Act A)] := by
  refine ⟨rfl, fun p => ?_⟩
  cases r with
  | event e =>
      show p ∈ [(testId, e)] ↔ _
      rw [List.mem_singleton, Prod.ext_iff, Report.event.injEq]
  | errEvent id eventType =>
      exact iff_of_false List.not_mem_nil fun h => Report.noConfusion h.2
  | errEventMsg id eventType file line =>
      exact iff_of_false List.not_mem_nil fun h => Report.noConfusion h.2

/-- What a test reports while it runs. -/
theorem reports (logMask testId : BitVec 32) (reports : List Report) :
    Stretch (some testId) (some testId) (fun p => p.1 = testId ∧ .event p.2 ∈ reports)
      (reports.flatMap fun r => (.testReport r : Act A) :: (consoleShow logMask r).map .print) := by
  induction reports with
  | nil => exact ⟨rfl, fun p => iff_of_false List.not_mem_nil fun h => List.not_mem_nil h.2⟩
  | cons r reports ih =>
      have hshown := print (A := A) (some testId) (consoleShow logMask r)
      have hall := (testReport (A := A) testId r).append (hshown.append ih)
      refine ⟨hall.running, fun p => (hall.mem_events p).trans ?_⟩
      rw [false_or, ← and_or_left, List.mem_cons]

end Stretch

/-! ## Runs -/

namespace Session

variable (R : Registry A D)

/-- An event is reported by the test that is run. -/
def Reports (a : Session B A D) (testId : BitVec 32) (e : DiagEventParams) : Prop :=
  ∃ i r f, lookup (R.suite B) testId = some (i, r) ∧ r.testFunction = some f ∧
    .event e ∈ (f testId r.testArgs a.log.curTestId a.dev).2.1

theorem not_reports_of_unknown {a : Session B A D} {testId : BitVec 32}
    (hlookup : lookup (R.suite B) testId = none) (e : DiagEventParams) :
    ¬ a.Reports R testId e := by
  rintro ⟨i, r, f, hfound, -⟩
  rw [hlookup] at hfound
  exact Option.some_ne_none _ hfound.symm

/-- What is reported is what the function of the test that is found reports. -/
theorem reports_iff_of_lookup {a : Session B A D} {testId : BitVec 32} {i : ℕ}
    {r : Registration A D} (hlookup : lookup (R.suite B) testId = some (i, r))
    (e : DiagEventParams) :
    a.Reports R testId e ↔ ∃ f, r.testFunction = some f ∧
      .event e ∈ (f testId r.testArgs a.log.curTestId a.dev).2.1 := by
  constructor
  · rintro ⟨j, r', f, hfound, h⟩
    rw [hlookup] at hfound
    cases hfound
    exact ⟨f, h⟩
  · rintro ⟨f, h⟩
    exact ⟨i, r, f, hlookup, h⟩

/-- The report of a result ends the test it is for. -/
theorem stretch_result (testId : BitVec 32) {cur : Option (BitVec 32)}
    (hcur : cur = none ∨ cur = some testId) (logMask : BitVec 32) (r : TestResultTypes) :
    Stretch cur none (fun _ => False)
      ((.result testId r : Act A) :: (consoleShowresult logMask testId r).map .print) := by
  refine .cons rfl ?_
  have hafter : (Act.result testId r : Act A).after cur = none := by
    rcases hcur with rfl | rfl
    · rfl
    · exact if_pos rfl
  rw [hafter]
  exact .print none _

/-- A run without a test leaves one report of the framework and a result, and neither is
an event. -/
theorem exists_stretch_aborted (a : Session B A D) (testId : BitVec 32) (r : Report)
    {S : BitVec 32 × DiagEventParams → Prop} (hnone : ∀ p, ¬ S p) :
    ∃ acts, ((a.reported r).resultReported testId .aborted).trace = a.trace ++ acts ∧
      Stretch none none S acts := by
  have hshown : Stretch none none (fun _ => False)
      ((.report r : Act A) :: (consoleShow a.log.logMask r).map .print) :=
    .cons rfl (.print none _)
  have hall := hshown.append (stretch_result testId (.inl rfl) a.log.logMask .aborted)
  refine ⟨_, List.append_assoc _ _ _, hall.running, fun p => (hall.mem_events p).trans ?_⟩
  exact iff_of_false (fun h => h.elim id id) (hnone p)

/-- **What `RunDeviceTest` adds to the trace**: if it finds a test, the events that test
reports while it is running. -/
theorem exists_stretch_runTest (a : Session B A D) (testId : BitVec 32) :
    ∃ acts, (a.runTest R testId).2.trace = a.trace ++ acts ∧
      Stretch none none (fun p => p.1 = testId ∧ a.Reports R testId p.2) acts := by
  rw [runTest]
  cases hlookup : lookup (R.suite B) testId with
  | none =>
      exact exists_stretch_aborted a testId _ fun p h =>
        not_reports_of_unknown R hlookup p.2 h.2
  | some ir =>
      obtain ⟨i, r⟩ := ir
      have hreports := reports_iff_of_lookup (a := a) R hlookup
      simp only
      cases hf : r.testFunction with
      | none =>
          refine exists_stretch_aborted a testId _ ?_
          rintro p ⟨-, h⟩
          obtain ⟨f, hf', -⟩ := (hreports p.2).mp h
          exact Option.some_ne_none _ (hf'.symm.trans hf)
      | some f =>
          have hcall : Stretch none (some testId)
              (fun p => p.1 = testId ∧
                .event p.2 ∈ (f testId r.testArgs a.log.curTestId a.dev).2.1)
              (.print (.test testId r.description r.name) :: callActs a.log.logMask
                ⟨i, testId, r.testArgs, (f testId r.testArgs a.log.curTestId a.dev).1⟩
                (f testId r.testArgs a.log.curTestId a.dev).2.1) :=
            .cons rfl (.cons rfl (.reports _ testId _))
          have hall := hcall.append (stretch_result testId (.inr rfl) a.log.logMask
            (f testId r.testArgs a.log.curTestId a.dev).1)
          refine ⟨_, List.append_assoc _ _ _, hall.running, fun p => (hall.mem_events p).trans ?_⟩
          rw [or_false, hreports, hf]
          refine and_congr_right fun _ => ⟨fun h => ⟨f, rfl, h⟩, ?_⟩
          rintro ⟨f', hf', h⟩
          cases hf'
          exact h

/-- **Between two tests**: none is running, and the event log has no current test. -/
structure BetweenTests (a : Session B A D) : Prop where
  running_eq : runningAfter none a.trace = none
  curTestId_eq : a.log.curTestId = 0

theorem betweenTests_start (dev : D) : (start dev : Session B A D).BetweenTests := ⟨rfl, rfl⟩

/-- `ReportResult` leaves no current test. -/
theorem curTestId_runTest (a : Session B A D) (testId : BitVec 32) :
    (a.runTest R testId).2.log.curTestId = 0 := by
  rw [runTest]
  cases lookup (R.suite B) testId with
  | none => rfl
  | some ir =>
      simp only
      cases ir.2.testFunction with
      | none => rfl
      | some f => rfl

variable {R} {a : Session B A D}

theorem BetweenTests.runTest (h : a.BetweenTests) (testId : BitVec 32) :
    (a.runTest R testId).2.BetweenTests := by
  obtain ⟨acts, htrace, hacts⟩ := a.exists_stretch_runTest R testId
  refine ⟨?_, a.curTestId_runTest R testId⟩
  rw [htrace, runningAfter, List.foldl_append]
  exact (congrArg (fun c => runningAfter c acts) h.running_eq).trans hacts.running

/-- **The events after one more test** are those before and those it reports. -/
theorem BetweenTests.mem_eventsOf_runTest (h : a.BetweenTests) {testId : BitVec 32}
    {p : BitVec 32 × DiagEventParams} :
    p ∈ eventsOf none (a.runTest R testId).2.trace ↔
      p ∈ eventsOf none a.trace ∨ (p.1 = testId ∧ a.Reports R testId p.2) := by
  obtain ⟨acts, htrace, hacts⟩ := a.exists_stretch_runTest R testId
  rw [htrace, eventsOf_append, List.mem_append, h.running_eq, hacts.mem_events]

/-- Every event carries the id of the test it is reported by. -/
def Attributed (a : Session B A D) : Prop := ∀ p ∈ eventsOf none a.trace, p.2.objectId = p.1

/-- **Runs of tests that sign their events.**  By induction on the tests. -/
theorem BetweenTests.attributed_runTests {testIds : List (BitVec 32)} (h : a.BetweenTests)
    (ha : a.Attributed)
    (hsigned : ∀ testId ∈ testIds, ∀ (b : Session B A D) e, b.BetweenTests →
      b.Reports R testId e → e.objectId = testId) :
    (runTests R testIds a).2.Attributed := by
  induction testIds generalizing a with
  | nil => exact ha
  | cons testId testIds ih =>
      refine ih (h.runTest testId) ?_ fun t ht => hsigned t (List.mem_cons_of_mem testId ht)
      intro p hp
      rcases h.mem_eventsOf_runTest.mp hp with hold | ⟨hid, hnew⟩
      · exact ha p hold
      · rw [hid]
        exact hsigned testId List.mem_cons_self a p.2 h hnew

/-- What has been reported stays reported. -/
theorem BetweenTests.eventsOf_subset_runTests (h : a.BetweenTests) (testIds : List (BitVec 32)) :
    eventsOf none a.trace ⊆ eventsOf none (runTests R testIds a).2.trace := by
  induction testIds generalizing a with
  | nil => exact List.Subset.refl _
  | cons testId testIds ih =>
      refine List.Subset.trans (fun p hp => ?_) (ih (h.runTest testId))
      exact h.mem_eventsOf_runTest.mpr (.inl hp)

/-- **Runs with a test that does not.** -/
theorem BetweenTests.not_attributed_runTests {testIds : List (BitVec 32)} {testId : BitVec 32}
    (h : a.BetweenTests) (hmem : testId ∈ testIds)
    (hunsigned : ∀ b : Session B A D, b.BetweenTests →
      ∃ e, b.Reports R testId e ∧ e.objectId ≠ testId) :
    ¬ (runTests R testIds a).2.Attributed := by
  induction testIds generalizing a with
  | nil => exact absurd hmem List.not_mem_nil
  | cons t testIds ih =>
      rcases List.mem_cons.mp hmem with rfl | hrest
      · obtain ⟨e, hreports, hne⟩ := hunsigned a h
        have hnew : (testId, e) ∈ eventsOf none (a.runTest R testId).2.trace :=
          h.mem_eventsOf_runTest.mpr (.inr ⟨rfl, hreports⟩)
        intro hall
        exact hne (hall (testId, e) ((h.runTest testId).eventsOf_subset_runTests testIds hnew))
      · exact ih (h.runTest t) hrest

end Session

/-! ## The suite under the framework -/

/-- A test of the suite as the framework calls it.  It sees the current test id and reports
to the event log.  If it goes through a null pointer or beyond an array, what it has
reported by then counts, and what happens next is anyone's guess; it is left to be
aborted. -/
def SuiteTest.function (io : Drivers D) (fuel : ℕ) : TestFunction SuiteTest (Fixture D) :=
  fun testId t curTestId s =>
    match (t.call io fuel testId).run { s with curTestId := curTestId, reports := [] } with
    | .ok r s' => (r, s'.reports, s')
    | .error _ s' => (.aborted, s'.reports, s')

/-- `INVOKE_TEST_WITH_PARAM` for a test of the suite. -/
structure SuiteEntry where
  description : CString
  name : CString
  test : SuiteTest

/-- The tests of the suite a build registers, board by board. -/
structure SuiteList where
  tests : Board → List SuiteEntry
  fits : ∀ b, (tests b).length < 2 ^ 32

def SuiteEntry.registration (io : Drivers D) (fuel : ℕ) (e : SuiteEntry) :
    Registration SuiteTest (Fixture D) where
  description := e.description
  name := e.name
  testFunction := some (SuiteTest.function io fuel)
  testArgs := e.test

def SuiteList.registry (L : SuiteList) (io : Drivers D) (fuel : ℕ) :
    Registry SuiteTest (Fixture D) where
  tests b := (L.tests b).map (SuiteEntry.registration io fuel)
  fits b := by
    rw [List.length_map]
    exact L.fits b

/-- The test that is run for an id: the first one whose name has it. -/
def SuiteList.found (L : SuiteList) (B : Build) (testId : BitVec 32) : Option SuiteEntry :=
  (L.tests B.boardDefault).find? fun e => decide (calculateTestIdHash e.name = testId)

theorem map_lookup (suite : List (Registration A D)) (testId : BitVec 32) :
    (lookup suite testId).map Prod.snd = suite.find? fun r => decide (r.hash = testId) := by
  rw [List.find?_eq_bind_findIdx?_getElem?, lookup, locate, Option.map_bind]
  congr 1
  funext i
  rw [Function.comp_apply, Option.map_map]
  exact Option.map_id'

/-- The test that is found is the one that is run. -/
theorem SuiteList.map_lookup_registry (L : SuiteList) (io : Drivers D) (fuel : ℕ)
    (testId : BitVec 32) :
    (lookup ((L.registry io fuel).suite B) testId).map Prod.snd =
      (L.found B testId).map (SuiteEntry.registration io fuel) := by
  rw [map_lookup]
  exact List.find?_map

theorem SuiteList.reports_iff {L : SuiteList} {io : Drivers D} {fuel : ℕ}
    {a : Session B SuiteTest (Fixture D)} {testId : BitVec 32} {e : DiagEventParams} :
    a.Reports (L.registry io fuel) testId e ↔
      ∃ x, L.found B testId = some x ∧
        .event e ∈ (SuiteTest.function io fuel testId x.test a.log.curTestId a.dev).2.1 := by
  have hlookup := L.map_lookup_registry (B := B) io fuel testId
  constructor
  · rintro ⟨i, r, f, hfound, hf, he⟩
    rw [hfound, Option.map_some, eq_comm, Option.map_eq_some_iff] at hlookup
    obtain ⟨x, hx, rfl⟩ := hlookup
    cases hf
    exact ⟨x, hx, he⟩
  · rintro ⟨x, hx, he⟩
    rw [hx, Option.map_some, Option.map_eq_some_iff] at hlookup
    obtain ⟨⟨i, r⟩, hfound, rfl⟩ := hlookup
    exact ⟨i, x.registration io fuel, _, hfound, rfl, he⟩

/-- **A test that makes no transfer signs its events**, and a test with the id zero signs
them whatever it does. -/
theorem SuiteTest.objectId_eq {io : Drivers D} {fuel : ℕ} (hfuel : 32 < fuel) {t : SuiteTest}
    {testId : BitVec 32} (h : testId = 0 ∨ t.transfers = false) (s : Fixture D)
    {e : DiagEventParams} (he : .event e ∈ (SuiteTest.function io fuel testId t 0 s).2.1) :
    e.objectId = testId := by
  let K : Report → Prop := fun r => ∀ e, r = .event e → e.objectId = testId
  have hown : Admits K 0 testId := by
    refine ⟨?_, fun file line e he => Report.noConfusion he⟩
    rintro eventType address string e ⟨⟩
    show (if testId = 0 then 0 else testId) = testId
    split
    · next hzero => exact hzero.symm
    · rfl
  have hutils : t.transfers = true → Admits K 0 0 := by
    intro htransfers
    rcases h with rfl | hnot
    · exact hown
    · rw [htransfers] at hnot
      exact Bool.noConfusion hnot
  have hcall : Emits (logged 0 K False) True (fun _ => True) (t.call io fuel testId) _ :=
    emits_call hown False.elim hfuel t hutils fun _ => trivial
  -- what has been reported by the end, however it ended, has been seen
  have hreported : ∀ {s' : Fixture D} {l : List Report},
      Sees K False { s with curTestId := 0, reports := [] } l s' → .event e ∈ s'.reports →
        e.objectId = testId := by
    intro s' l hsees hmem
    rw [hsees.reports_eq, List.nil_append] at hmem
    exact hsees.reported _ hmem e rfl
  rw [SuiteTest.function] at he
  rcases hcall { s with curTestId := 0, reports := [] } rfl trivial with
    ⟨r, s', l, hok, hsees, -⟩ | ⟨-, s', l, herror, hsees⟩
  · rw [hok] at he
    exact hreported hsees he
  · rw [herror] at he
    exact hreported hsees he

/-- A dull board on which every transfer fails. -/
def stuckBoard : Drivers Bool :=
  { dullBoard with
    i2c := { dullBoard.i2c with
      dmI2cWrite := fun _ _ _ d => (1, d)
      dmI2cRead := fun _ _ _ d => ((1, fun _ => 0), d) } }

/-- What the utilities report of a transfer that fails, when no test is current. -/
def strayEvent (eventType : DiagErrEventIDTypes) (address : List (BitVec 32)) : Report :=
  .event (eventInit 0 0 eventType address)

/-- A test has reported such an event by the time it returns. -/
theorem SuiteTest.exists_objectId_of_run {io : Drivers D} {fuel : ℕ} {t : SuiteTest}
    {testId : BitVec 32} {s s' : Fixture D} {r : TestResultTypes}
    {eventType : DiagErrEventIDTypes} {address : List (BitVec 32)}
    (hrun : (t.call io fuel testId).run { s with curTestId := 0, reports := [] } = .ok r s')
    (hmem : strayEvent eventType address ∈ s'.reports) :
    ∃ e, .event e ∈ (SuiteTest.function io fuel testId t 0 s).2.1 ∧ e.objectId = 0 := by
  refine ⟨eventInit 0 0 eventType address, ?_, rfl⟩
  rw [SuiteTest.function, hrun]
  exact hmem

/-- The fixture after the set-up of the clock has failed on the stuck board. -/
def clockStuck (testId : BitVec 32) (chip_address i2c_bus : BitVec 8) (s : Fixture Bool) :
    Fixture Bool :=
  { s with
    curTestId := 0
    i2cCurBus := some 0
    reports :=
      [strayEvent .devRead (rtcAddress i2c_bus chip_address ds2321RtcCtlStatusRegAddr),
        .event (eventInit 0 testId .devRead
          (rtcAddress i2c_bus chip_address ds2321RtcCtlStatusRegAddr))] }

theorem run_ds2321RtcInit_stuck (testId : BitVec 32) (chip_address i2c_bus : BitVec 8)
    (speed : BitVec 32) (s : Fixture Bool) :
    (ds2321RtcInit stuckBoard.i2c testId chip_address i2c_bus speed).run
      { s with curTestId := 0, reports := [] } =
        .ok .fail (clockStuck testId chip_address i2c_bus s) := rfl

/-- **A test that makes a transfer** has the utilities report its failure. -/
theorem SuiteTest.exists_objectId_zero (fuel : ℕ) {t : SuiteTest} (h : t.transfers = true)
    (testId : BitVec 32) (s : Fixture Bool) :
    ∃ e, .event e ∈ (SuiteTest.function stuckBoard fuel testId t 0 s).2.1 ∧ e.objectId = 0 := by
  cases t with
  | eepromReadWrite arg =>
      obtain ⟨a, rfl⟩ := Option.isSome_iff_exists.mp h
      exact ⟨_, List.mem_append_left _ (List.mem_singleton.mpr rfl), rfl⟩
  | rtcGetTime arg =>
      obtain ⟨a, rfl⟩ := Option.isSome_iff_exists.mp h
      exact exists_objectId_of_run (run_ds2321RtcGetTimeTest_of_init
        (run_ds2321RtcInit_stuck testId _ _ _ s)) List.mem_cons_self
  | rtcSetTime arg =>
      obtain ⟨a, rfl, hrange⟩ := (Option.any_eq_true _ _).mp h
      exact exists_objectId_of_run (run_ds2321RtcSetTimeTest_of_init hrange
        (run_ds2321RtcInit_stuck testId _ _ _ s)) List.mem_cons_self
  | pwrRailings arg =>
      obtain ⟨a, rfl, hname⟩ := (Option.any_eq_true _ _).mp h
      have hrun : (pwrRailingsTest stuckBoard.i2c.toI2cDriver (some a)).run
          { s with curTestId := 0, reports := [] } = .ok .fail
            { s with
              curTestId := 0
              i2cCurBus := some 0
              reports := [strayEvent .devRead (rtcAddress a.i2c_bus_no a.i2c_dev_addr 0x0E)] } := by
        unfold pwrRailingsTest
        simp only
        rw [if_neg (not_not.mpr (of_decide_eq_true hname))]
        rfl
      exact exists_objectId_of_run hrun List.mem_cons_self
  | _ => exact Bool.noConfusion h

/-- **Which runs attribute their events.**  In a run of tests through `RunDeviceTest`, in any
order, from boot on, every event that is reported between the call of a test and its
result carries the id of that test, whatever the board does --- exactly if no test is run
that makes a transfer over an I2C bus, unless its id is zero. -/
theorem events_attributed_iff (B : Build) (L : SuiteList) (testIds : List (BitVec 32)) :
    (∀ (D : Type) (io : Drivers D) (fuel : ℕ) (dev : Fixture D), 32 < fuel →
      ∃ results s', (runDeviceTests testIds).run
          (State.boot (L.registry io fuel) dev : State B SuiteTest (Fixture D)) = .ok results s' ∧
        ∀ p ∈ eventsOf none s'.trace, p.2.objectId = p.1) ↔
    ∀ testId ∈ testIds, ∀ x, L.found B testId = some x → testId = 0 ∨ x.test.transfers = false := by
  constructor
  · intro h testId hmem x hx
    by_contra hnot
    obtain ⟨hid, htransfers⟩ := not_or.mp hnot
    rw [Bool.not_eq_false] at htransfers
    obtain ⟨results, s', hrun, hall⟩ := h Bool stuckBoard 33 (Fixture.atBoot false) (by decide)
    obtain ⟨s'', hrun', hembeds⟩ := (Embeds.boot (B := B) (L.registry stuckBoard 33)
      (Fixture.atBoot false)).run_runDeviceTests testIds
    rw [hrun'] at hrun
    cases hrun
    rw [hembeds.trace_eq] at hall
    refine (Session.betweenTests_start (Fixture.atBoot false)).not_attributed_runTests hmem
      (fun b hb => ?_) hall
    obtain ⟨e, he, hzero⟩ := SuiteTest.exists_objectId_zero 33 htransfers testId b.dev
    refine ⟨e, SuiteList.reports_iff.mpr ⟨x, hx, ?_⟩, fun heq => hid (heq.symm.trans hzero)⟩
    rw [hb.curTestId_eq]
    exact he
  · intro h D io fuel dev hfuel
    obtain ⟨s', hrun, hembeds⟩ :=
      (Embeds.boot (B := B) (L.registry io fuel) dev).run_runDeviceTests testIds
    refine ⟨_, s', hrun, ?_⟩
    rw [hembeds.trace_eq]
    refine (Session.betweenTests_start dev).attributed_runTests
      (fun p hp => absurd hp List.not_mem_nil) fun testId hmem b e hb hreports => ?_
    obtain ⟨x, hx, he⟩ := SuiteList.reports_iff.mp hreports
    rw [hb.curTestId_eq] at he
    exact SuiteTest.objectId_eq hfuel (h testId hmem x hx) b.dev he

/-- The EEPROM test as the board registers it. -/
def eepromEntry : SuiteEntry where
  description := .ofChars "EEPROM Read Write".toList
  name := .ofChars "EEPROM_Read_Write_test_EEPROM".toList
  test := .eepromReadWrite (some eepromArgs)

/-- A suite of this one test. -/
def eepromSuite : SuiteList where
  tests _ := [eepromEntry]
  fits _ := by decide

/-- The id of the EEPROM test. -/
def eepromId : BitVec 32 := calculateTestIdHash eepromEntry.name

/-- While the EEPROM test is running, an event is reported that names no test. -/
theorem eeprom_write_stray :
    eepromId ≠ 0 ∧ ∃ results s', (runDeviceTests [eepromId]).run
        (State.boot (eepromSuite.registry stuckBoard 33) (Fixture.atBoot false) :
          State smallBuild SuiteTest (Fixture Bool)) = .ok results s' ∧
      (eepromId, eventInit 0 0 .devWrite [1]) ∈ eventsOf none s'.trace ∧
      (eventInit 0 0 .devWrite [1]).objectId = 0 := by
  obtain ⟨s', hrun, hembeds⟩ := (Embeds.boot (B := smallBuild) (eepromSuite.registry stuckBoard 33)
    (Fixture.atBoot false)).run_runDeviceTests [eepromId]
  refine ⟨by decide +kernel, _, s', hrun, ?_, rfl⟩
  rw [hembeds.trace_eq]
  refine (Session.betweenTests_start (Fixture.atBoot false)).mem_eventsOf_runTest.mpr
    (.inr ⟨rfl, ?_⟩)
  refine SuiteList.reports_iff.mpr ⟨eepromEntry, ?_, List.mem_append_left _ ?_⟩
  · exact List.find?_cons_of_pos (decide_eq_true rfl)
  · exact List.mem_singleton.mpr rfl

end BoardDiag
