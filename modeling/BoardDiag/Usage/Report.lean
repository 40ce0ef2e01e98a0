import BoardDiag.Usage.Dispatch

/-!
# What the reports say

A command that runs tests ends with a report: for each test it was asked to run,
the name of the test and a verdict.  The verdict is drawn from three counters,
which have been through all earlier commands, and `DisplayTestResults` draws it
in seven branches.  What the operator reads it as is simple, and `Verdict.TrueOf`
says it without the counters: the verdict describes the results the test has
returned since boot and, among them, those it has returned to this command.

`reports_true_of_history` is the result.  It needs distinct ids --- otherwise a
report is about another test than the one it is made for --- and fewer than
`2 ^ 31` calls of each test, since the counts are printed as signed numbers.

Two facts carry it.  Nothing but `DisplayTestResults` reports on a test
(`SameReports`), so the reports of a command are those at its end.  And the
status it finds there is exact, with the new failures counted from the start of
the command.
-/

namespace BoardDiag

open Machine Relation

variable {B : Build} {A D : Type}

/-! ## Verdicts -/

/-- The verdict on a test that has failed at times, with the number of new
failures. -/
def mixedVerdict (totalFailCount runCount newFailCount : ℕ) : Verdict :=
  match newFailCount with
  | 0 => .failedOf totalFailCount runCount
  | 1 => .failedOfNewFailure totalFailCount runCount 1
  | c => .failedOfNewFailures totalFailCount runCount c

/-- The verdict is true of a test that has returned the results `rs`, the results
`new` among them to the latest command. -/
structure Verdict.TrueOf (v : Verdict) (rs new : List TestResultTypes) : Prop where
  notRun_iff : v = .notRun ↔ rs = []
  passed_iff : v = .passed ∨ v = .passedTimes rs.length ↔ rs ≠ [] ∧ ∀ r ∈ rs, r = .pass
  failed_iff : v = .failed ∨ v = .failedTimes (failures rs) ↔ rs ≠ [] ∧ ∀ r ∈ rs, r ≠ .pass
  /-- Otherwise the test has passed at times and failed at times. -/
  eq_mixed : (∃ r ∈ rs, r = .pass) → (∃ r ∈ rs, r ≠ .pass) →
    0 < failures rs ∧ failures rs < rs.length ∧ failures new ≤ failures rs ∧
      v = mixedVerdict (failures rs) rs.length (failures new)

theorem failures_eq_zero_iff {rs : List TestResultTypes} :
    failures rs = 0 ↔ ∀ r ∈ rs, r = .pass := by
  simp [failures, List.countP_eq_zero]

theorem failures_eq_length_iff {rs : List TestResultTypes} :
    failures rs = rs.length ↔ ∀ r ∈ rs, r ≠ .pass := by
  simp [failures, List.countP_eq_length]

/-- A count below `2 ^ 31` is printed as it is. -/
theorem toInt_ofNat_of_lt {n : ℕ} (h : n < 2 ^ 31) : (BitVec.ofNat 32 n).toInt = n := by
  have hn : (BitVec.ofNat 32 n).toNat = n := by
    rw [BitVec.toNat_ofNat]
    omega
  rw [BitVec.toInt_eq_toNat_of_lt (by omega), hn]

theorem ofNat_eq_ofNat_iff {m n : ℕ} (hm : m < 2 ^ 31) (hn : n < 2 ^ 31) :
    BitVec.ofNat 32 m = BitVec.ofNat 32 n ↔ m = n := by
  refine ⟨fun h => ?_, fun h => h ▸ rfl⟩
  have hnat := congrArg BitVec.toNat h
  rw [BitVec.toNat_ofNat, BitVec.toNat_ofNat] at hnat
  omega

/-- The classification, in natural numbers. -/
def classify (b a c : ℕ) : Verdict :=
  if b = 0 then .notRun
  else if b = 1 then if a = 0 then .passed else .failed
  else if a = 0 then .passedTimes b
  else if b = a then .failedTimes a
  else mixedVerdict a b c

/-- Below `2 ^ 31` the words of the source are as good as numbers. -/
theorem verdictOf_eq_classify {b a c : ℕ} (hb : b < 2 ^ 31) (ha : a ≤ b) (hc : c ≤ a) :
    verdictOf (BitVec.ofNat 32 b) (BitVec.ofNat 32 a) (BitVec.ofNat 32 c) =
      classify b a c := by
  have ha' : a < 2 ^ 31 := by omega
  have hc' : c < 2 ^ 31 := by omega
  have hzero {n : ℕ} (hn : n < 2 ^ 31) : BitVec.ofNat 32 n = 0 ↔ n = 0 :=
    ofNat_eq_ofNat_iff hn (by decide)
  have hone {n : ℕ} (hn : n < 2 ^ 31) : BitVec.ofNat 32 n = 1 ↔ n = 1 :=
    ofNat_eq_ofNat_iff hn (by decide)
  simp only [verdictOf, classify, hzero hb, hone hb, hzero ha', hzero hc', hone hc',
    ofNat_eq_ofNat_iff hb ha', toInt_ofNat_of_lt hb, toInt_ofNat_of_lt ha',
    toInt_ofNat_of_lt hc']
  -- only the last three branches are arranged differently
  match c with
  | 0 => rfl
  | 1 => rfl
  | c + 2 => rfl

/-- A mixed verdict is none of the others. -/
theorem mixedVerdict_ne (a b c : ℕ) :
    mixedVerdict a b c ≠ .notRun ∧ mixedVerdict a b c ≠ .passed ∧
      mixedVerdict a b c ≠ .failed ∧ (∀ n, mixedVerdict a b c ≠ .passedTimes n) ∧
      ∀ n, mixedVerdict a b c ≠ .failedTimes n := by
  match c with
  | 0 => simp [mixedVerdict]
  | 1 => simp [mixedVerdict]
  | c + 2 => simp [mixedVerdict]

/-- The four cases of the classification: no calls, no failures, only failures,
and some failures. -/
theorem classify_cases {b a : ℕ} (hle : a ≤ b) (c : ℕ) :
    (b = 0 ∧ classify b a c = .notRun) ∨
    (b ≠ 0 ∧ a = 0 ∧ (classify b a c = .passed ∨ classify b a c = .passedTimes b)) ∨
    (b ≠ 0 ∧ a = b ∧ (classify b a c = .failed ∨ classify b a c = .failedTimes a)) ∨
    (0 < a ∧ a < b ∧ classify b a c = mixedVerdict a b c) := by
  unfold classify
  by_cases hb : b = 0
  · exact .inl ⟨hb, if_pos hb⟩
  rw [if_neg hb]
  by_cases ha : a = 0
  · refine .inr (.inl ⟨hb, ha, ?_⟩)
    rw [if_pos ha, if_pos ha]
    exact (ite_eq_or_eq (b = 1) _ _).imp id id
  by_cases hab : a = b
  · refine .inr (.inr (.inl ⟨hb, hab, ?_⟩))
    rw [if_neg ha, if_neg ha, if_pos hab.symm]
    exact (ite_eq_or_eq (b = 1) _ _).imp id id
  · refine .inr (.inr (.inr ⟨by omega, by omega, ?_⟩))
    rw [if_neg (by omega), if_neg ha, if_neg (Ne.symm hab)]

/-- **The classification is true.** -/
theorem classify_trueOf (rs new : List TestResultTypes) (hnew : failures new ≤ failures rs) :
    (classify rs.length (failures rs) (failures new)).TrueOf rs new := by
  have hnil : rs = [] ↔ rs.length = 0 := List.length_eq_zero_iff.symm
  have hpass : ∀ {r}, r ∈ rs → r = .pass → failures rs ≠ rs.length :=
    fun hr hpass heq => failures_eq_length_iff.mp heq _ hr hpass
  have hfail : ∀ {r}, r ∈ rs → r ≠ .pass → failures rs ≠ 0 :=
    fun hr hfail heq => hfail (failures_eq_zero_iff.mp heq _ hr)
  have hcases := classify_cases (failures_le_length rs) (failures new)
  generalize classify rs.length (failures rs) (failures new) = v at hcases
  -- a verdict of one case is none of the others
  have hmixed := mixedVerdict_ne (failures rs) rs.length (failures new)
  refine ⟨?_, ?_, ?_, ?_⟩
  · rw [hnil]
    rcases hcases with ⟨hb, rfl⟩ | ⟨hb, -, rfl | rfl⟩ | ⟨hb, -, rfl | rfl⟩ | ⟨ha, hab, rfl⟩
    · simp [hb]
    · simp [hb]
    · simp [hb]
    · simp [hb]
    · simp [hb]
    · exact iff_of_false hmixed.1 (by omega)
  · rw [ne_eq, hnil, ← failures_eq_zero_iff]
    rcases hcases with ⟨hb, rfl⟩ | ⟨hb, ha, hv⟩ | ⟨hb, hab, rfl | rfl⟩ | ⟨ha, hab, rfl⟩
    · simp [hb]
    · exact iff_of_true hv ⟨hb, ha⟩
    · simp [hb, hab]
    · simp [hb, hab]
    · exact iff_of_false (not_or.mpr ⟨hmixed.2.1, hmixed.2.2.2.1 _⟩) (by omega)
  · rw [ne_eq, hnil, ← failures_eq_length_iff]
    rcases hcases with ⟨hb, rfl⟩ | ⟨hb, ha, rfl | rfl⟩ | ⟨hb, hab, hv⟩ | ⟨ha, hab, rfl⟩
    · simp [hb]
    · simp [hb, ha, Ne.symm hb]
    · simp [hb, ha, Ne.symm hb]
    · exact iff_of_true hv ⟨hb, hab⟩
    · exact iff_of_false (not_or.mpr ⟨hmixed.2.2.1, hmixed.2.2.2.2 _⟩) (by omega)
  · rintro ⟨r, hr, hrpass⟩ ⟨q, hq, hqfail⟩
    have hlt := hpass hr hrpass
    have hpos := hfail hq hqfail
    rcases hcases with ⟨hb, -⟩ | ⟨-, ha, -⟩ | ⟨-, hab, -⟩ | ⟨ha, hab, hv⟩
    · exact absurd hr (by simp [hnil.mpr hb])
    · exact absurd ha hpos
    · exact absurd hab hlt
    · exact ⟨ha, hab, hnew, hv⟩

/-! ## Nothing else reports -/

theorem linesOf_append (s t : List (Act A)) : linesOf (s ++ t) = linesOf s ++ linesOf t :=
  List.filterMap_append ..

theorem linesOf_map_print (ls : List Line) :
    linesOf (ls.map (Act.print : Line → Act A)) = ls := by
  rw [linesOf, List.filterMap_map]
  exact List.filterMap_some ..

/-- The lines of the reports in a trace. -/
def reportsOf (t : List (Act A)) : List Line := (linesOf t).filter Line.isReport

theorem reportsOf_append (s t : List (Act A)) :
    reportsOf (s ++ t) = reportsOf s ++ reportsOf t := by
  rw [reportsOf, linesOf_append, List.filter_append, reportsOf, reportsOf]

theorem reportsOf_map_print (ls : List Line) :
    reportsOf (ls.map (Act.print : Line → Act A)) = ls.filter Line.isReport := by
  rw [reportsOf, linesOf_map_print]

theorem Line.isReport_of_plain {l : Line} (h : l.plain = true) : l.isReport = false := by
  have hnot := (Bool.and_eq_true_iff.mp h).2
  rwa [Bool.not_eq_true'] at hnot

/-- Plain lines are no reports. -/
theorem reportsOf_print_plain {ls : List Line} (h : ∀ l ∈ ls, l.plain = true) :
    reportsOf (ls.map (Act.print : Line → Act A)) = [] := by
  rw [reportsOf_map_print, List.filter_eq_nil_iff]
  intro l hl
  rw [Line.isReport_of_plain (h l hl)]
  exact Bool.false_ne_true

/-- The session `b` has reported nothing that `a` has not. -/
def SameReports (a b : Session B A D) : Prop := reportsOf b.trace = reportsOf a.trace

namespace SameReports

variable {a b c : Session B A D}

theorem refl (a : Session B A D) : SameReports a a := rfl

theorem trans (hab : SameReports a b) (hbc : SameReports b c) : SameReports a c :=
  Eq.trans hbc hab

theorem of_reflTransGen (h : ReflTransGen SameReports a b) : SameReports a b := by
  induction h with
  | refl => exact .refl a
  | tail _ hstep ih => exact ih.trans hstep

theorem emit (a : Session B A D) {xs : List (Act A)} (h : reportsOf xs = []) :
    SameReports a (a.emit xs) := by
  show reportsOf (a.trace ++ xs) = reportsOf a.trace
  rw [reportsOf_append, h, List.append_nil]

theorem print (a : Session B A D) {ls : List Line} (h : ∀ l ∈ ls, l.plain = true) :
    SameReports a (a.print ls) :=
  .emit a (reportsOf_print_plain h)

theorem printLine (a : Session B A D) {l : Line} (h : l.plain = true) :
    SameReports a (a.print [l]) :=
  .print a fun l' hl' => by
    rw [List.mem_singleton.mp hl']
    exact h

theorem asserted (a : Session B A D) (line : ℕ) :
    SameReports a (a.reported (.errEventMsg 0 .assert .processDiagtestCmds line)) :=
  .emit a (reportsOf_print_plain (plain_consoleShow _ _))

theorem resultReported (a : Session B A D) (testId : BitVec 32) (r : TestResultTypes) :
    SameReports a (a.resultReported testId r) :=
  .emit a (reportsOf_print_plain (plain_consoleShowresult _ _ _))

end SameReports

namespace Session

variable {R : Registry A D} (a : Session B A D)

theorem sameReports_asked : SameReports a (a.asked R) := by
  unfold asked
  split
  · exact .refl a
  · exact .asserted a _

theorem sameReports_listed {options : TestList}
    (h : ∀ testId ∈ options.ids, testId ∈ hashes (R.suite B)) (showIndex showFlags : Bool) :
    SameReports a (a.listed R options showIndex showFlags) := by
  unfold listed
  split
  · exact .asserted a _
  · split
    · exact .asserted a _
    · exact .print a (plain_listLines h showIndex showFlags)

/-- What a test reports while it runs is not a report on it. -/
theorem reportsOf_testReports (logMask : BitVec 32) (reports : List Report) :
    reportsOf (reports.flatMap fun r =>
      (Act.testReport r : Act A) :: (consoleShow logMask r).map .print) = [] := by
  induction reports with
  | nil => rfl
  | cons r reports ih =>
      rw [List.flatMap_cons, reportsOf_append, ih, List.append_nil]
      exact reportsOf_print_plain (plain_consoleShow logMask r)

/-- `RunDeviceTest` reports on no test. -/
theorem sameReports_runTest {testId : BitVec 32} (h : testId ∈ hashes (R.suite B)) :
    SameReports a (a.runTest R testId).2 := by
  obtain ⟨i, r, hlookup, -, rfl⟩ := lookup_of_mem h
  unfold runTest
  rw [hlookup]
  cases hf : r.testFunction with
  | none =>
      simp only [hf]
      exact (SameReports.asserted a 265).trans (.resultReported _ _ _)
  | some f =>
      have hbooked : SameReports a
          ((a.print [.test r.hash r.description r.name]).booked i r f) :=
        (SameReports.printLine a rfl).trans (SameReports.emit _ rfl)
      simp only [hf]
      rw [invoke_eq]
      exact (hbooked.trans (.emit _ (reportsOf_testReports _ _))).trans (.resultReported _ _ _)

/-- Nor does `ExecuteAllTestListed`. -/
theorem sameReports_executed {options : TestList}
    (h : ∀ testId ∈ options.ids, testId ∈ hashes (R.suite B)) (fuel : ℕ) :
    SameReports a (a.executed R options fuel).2 := by
  unfold executed
  split
  · exact SameReports.asserted (a.logged options.logLevel) _
  · split
    · exact SameReports.asserted (a.logged options.logLevel) _
    · have hbegun : SameReports a (a.begun options.logLevel) := SameReports.emit a rfl
      refine hbegun.trans (.of_reflTransGen ?_)
      exact reflTransGen_passes (fun testId hid b => .single (b.sameReports_runTest (h testId hid)))
        _ _

end Session

/-! ## The reports of a command -/

/-- The report with a given verdict on the test registered at index `i`. -/
def reportOf (suite : List (Registration A D)) (i : ℕ) (v : Verdict) : List Line :=
  (suite[i]?.map fun r => [.result r.name r.description r.hash, .verdict v]).getD []

namespace Session

variable {R : Registry A D} (a : Session B A D)

/-- The verdict on the test registered at index `i`. -/
def verdict (i : ℕ) : Verdict :=
  verdictOf ((a.status i).runCount.setWidth 32) ((a.status i).totalFailCount.setWidth 32)
    ((a.status i).newFailCount.setWidth 32)

/-- The report on the test registered at index `i`. -/
def report (R : Registry A D) (i : ℕ) : List Line := reportOf (R.suite B) i (a.verdict i)

/-- At the full log level, every test is reported on. -/
theorem resultLines_hash (hnodup : (hashes (R.suite B)).Nodup) {i : ℕ}
    (hi : i < (R.suite B).length) :
    a.resultLines R logMaskAll (R.suite B)[i].hash = a.report R i := by
  have hmask : ¬ (logMaskAll &&& logMaskPass = 0 ∧
      (a.status i).totalFailCount.setWidth 32 = 0) := by
    have hpass : logMaskAll &&& logMaskPass ≠ 0 := by decide
    exact fun h => hpass h.1
  rw [resultLines, lookup_of_locate_some (locate_hash_iff_nodup.mpr hnodup i hi) hi]
  show reportLines _ _ _ _ = _
  rw [reportLines, if_neg hmask, report, reportOf, List.getElem?_eq_getElem hi]
  rfl

theorem map_resultLines_hashes (hnodup : (hashes (R.suite B)).Nodup) :
    (hashes (R.suite B)).map (a.resultLines R logMaskAll) =
      (List.range (R.suite B).length).map (a.report R) := by
  apply List.ext_getElem
  · rw [List.length_map, length_hashes, List.length_map, List.length_range]
  · intro i h₁ h₂
    rw [List.length_map, List.length_range] at h₂
    rw [List.getElem_map, List.getElem_map, List.getElem_range, ← a.resultLines_hash hnodup h₂]
    simp [hashes]

/-- A report is a report. -/
theorem filter_report (i : ℕ) : (a.report R i).filter Line.isReport = a.report R i := by
  rw [List.filter_eq_self]
  intro l hl
  unfold report reportOf at hl
  cases hr : (R.suite B)[i]? with
  | none =>
      rw [hr] at hl
      exact absurd hl List.not_mem_nil
  | some r =>
      rw [hr] at hl
      rcases List.mem_cons.mp hl with rfl | hl
      · rfl
      · rw [List.mem_singleton.mp hl]
        rfl

/-- With an empty options record both halves of `run_all_tests` give up. -/
theorem sameReports_conducted_of_empty {options : TestList}
    (h : ∀ testId ∈ options.ids, testId ∈ hashes (R.suite B))
    (h0 : options.testIdCount = 0) {fuel : ℕ}
    (hreturns : (a.conducted R options fuel).1 = true) :
    SameReports a (a.conducted R options fuel).2 := by
  have hexecuted : (a.executed R options fuel).1 = true := hreturns
  rw [conducted, hexecuted, if_pos rfl, resulted, if_pos h0]
  exact ((a.sameReports_executed h fuel).trans (.printLine _ rfl)).trans (.asserted _ _)

/-- The end of `run_all_tests` and of `runtestByTestId`: reports on all tests that
were to be run, with the status they are left with. -/
theorem reportsOf_conducted {options : TestList}
    (h : ∀ testId ∈ options.ids, testId ∈ hashes (R.suite B))
    (hlevel : options.logLevel = logMaskAll) (h0 : options.testIdCount ≠ 0)
    (hdim : options.testIdCount.toNat ≤ dimTestList) {shown : List ℕ}
    (hshown : ∀ b : Session B A D,
      options.ids.map (b.resultLines R logMaskAll) = shown.map (b.report R))
    {fuel : ℕ} (hreturns : (a.conducted R options fuel).1 = true) :
    reportsOf (a.conducted R options fuel).2.trace =
      reportsOf a.trace ++ shown.flatMap ((a.conducted R options fuel).2.report R) := by
  have hexecuted : (a.executed R options fuel).1 = true := hreturns
  have hbefore : SameReports a ((a.executed R options fuel).2.print [.newline]) :=
    (a.sameReports_executed h fuel).trans (.printLine _ rfl)
  have hend : (a.conducted R options fuel).2 =
      ((a.executed R options fuel).2.print [.newline]).print
        (shown.flatMap ((a.executed R options fuel).2.report R)) := by
    rw [conducted, hexecuted, if_pos rfl, resulted, if_neg h0, if_neg (Nat.not_lt.mpr hdim),
      hlevel, hshown, List.flatMap]
    rfl
  have hself : (shown.flatMap ((a.executed R options fuel).2.report R)).filter Line.isReport =
      shown.flatMap ((a.executed R options fuel).2.report R) := by
    rw [List.filter_flatMap]
    exact congrArg (List.flatMap · shown) (funext fun i => filter_report _ i)
  rw [hend]
  show reportsOf (_ ++ List.map _ _) = _
  rw [reportsOf_append, reportsOf_map_print, hself]
  exact congrArg (· ++ _) hbefore

end Session

/-- The tests a command reports on. -/
def Command.reportsOn (R : Registry A D) (B : Build) : Command → List ℕ
  | .runAll _ => List.range (R.testCount B)
  | .run testIndex => if testIndex.toNat < R.testCount B then [testIndex.toNat] else []
  | .missing | .invalid _ | .list | .runUsage => []

namespace Session

variable {R : Registry A D} (a : Session B A D)

theorem sameReports_showList : SameReports a (a.showList R) :=
  ((SameReports.printLine a rfl).trans (sameReports_asked _)).trans
    (sameReports_listed _ (fun _ hid => mem_hashes_of_mem_ids_allTests hid) true false)

theorem reportsOf_ranAll (hnodup : (hashes (R.suite B)).Nodup) {loopCnt : BitVec 32} {fuel : ℕ}
    (hreturns : (a.ranAll R loopCnt fuel).1 = true) :
    reportsOf (a.ranAll R loopCnt fuel).2.trace =
      reportsOf a.trace ++
        ((Command.runAll loopCnt).reportsOn R B).flatMap
          ((a.ranAll R loopCnt fuel).2.report R) := by
  have hids := mem_hashes_of_mem_ids_allOptions (R := R) (B := B) loopCnt
  have hbefore : SameReports a (a.announcedAll R loopCnt) :=
    (a.sameReports_asked.trans (sameReports_listed _ hids true true)).trans (.printLine _ rfl)
  have hcount : (R.allOptions B loopCnt).testIdCount.toNat = R.testCount B :=
    R.toNat_testIdCount_allTests B
  by_cases h0 : R.testCount B = 0
  · have hzero : (R.allOptions B loopCnt).testIdCount = 0 :=
      BitVec.eq_of_toNat_eq (hcount.trans h0)
    have hnone : (Command.runAll loopCnt).reportsOn R B = [] := by
      rw [Command.reportsOn, h0, List.range_zero]
    rw [hnone, List.flatMap_nil, List.append_nil]
    exact hbefore.trans (sameReports_conducted_of_empty _ hids hzero hreturns)
  · have hlong : (R.suite B).length ≤ dimTestList := by
      rw [R.testCount_eq_zero_iff] at h0
      omega
    have hshown : ∀ b : Session B A D,
        (R.allOptions B loopCnt).ids.map (b.resultLines R logMaskAll) =
          (List.range (R.testCount B)).map (b.report R) := by
      intro b
      have hall : (R.allOptions B loopCnt).ids = hashes (R.suite B) :=
        Registry.ids_allTests_eq hlong
      rw [hall, Registry.testCount_eq hlong, b.map_resultLines_hashes hnodup]
    refine (reportsOf_conducted _ hids rfl ?_ (hcount.trans_le (R.testCount_le B)) hshown
      hreturns).trans (congrArg (· ++ _) hbefore)
    intro hzero
    rw [hzero] at hcount
    exact h0 hcount.symm

theorem reportsOf_ranOne (hnodup : (hashes (R.suite B)).Nodup) {testIndex : BitVec 32}
    {fuel : ℕ} (hreturns : (a.ranOne R testIndex fuel).1 = true) :
    reportsOf (a.ranOne R testIndex fuel).2.trace =
      reportsOf a.trace ++
        ((Command.run testIndex).reportsOn R B).flatMap
          ((a.ranOne R testIndex fuel).2.report R) := by
  have hlen := R.length_ids_allTests B
  rw [Command.reportsOn]
  cases hget : (R.allTests B).ids[testIndex.toNat]? with
  | none =>
      have hout : ¬ testIndex.toNat < R.testCount B := by
        rw [List.getElem?_eq_none_iff] at hget
        omega
      rw [if_neg hout, List.flatMap_nil, List.append_nil]
      simp only [ranOne, hget]
      exact a.sameReports_asked.trans (.printLine _ rfl)
  | some testId =>
      obtain ⟨hin, hid⟩ := List.getElem?_eq_some_iff.mp hget
      rw [hlen] at hin
      have hids : ∀ id ∈ (singleOptions testId).ids, id ∈ hashes (R.suite B) :=
        fun _ hid => mem_hashes_of_mem_ids_singleOptions hget hid
      have hbefore : SameReports a (a.announcedOne R testId) :=
        ((a.sameReports_asked.trans (.printLine _ rfl)).trans
          (sameReports_listed _ hids false true)).trans (.printLine _ rfl)
      have hshown : ∀ b : Session B A D,
          (singleOptions testId).ids.map (b.resultLines R logMaskAll) =
            [testIndex.toNat].map (b.report R) := by
        intro b
        have hcount : R.testCount B ≤ (R.suite B).length := by
          rw [← hlen, R.ids_allTests, List.length_take, length_hashes]
          exact Nat.min_le_right _ _
        rw [ids_singleOptions, List.map_singleton, List.map_singleton,
          ← b.resultLines_hash hnodup (show testIndex.toNat < (R.suite B).length by omega), ← hid]
        simp [R.ids_allTests, hashes]
      rw [if_pos hin]
      simp only [ranOne, hget] at hreturns ⊢
      exact (reportsOf_conducted _ hids rfl (show (1 : BitVec 32) ≠ 0 by decide)
        (show (1 : BitVec 32).toNat ≤ dimTestList by decide) hshown hreturns).trans
        (congrArg (· ++ _) hbefore)

/-- **The reports of a command** that returns. -/
theorem reportsOf_command (hnodup : (hashes (R.suite B)).Nodup) {fuel : ℕ}
    {argv : List CString} (hreturns : (a.command R fuel argv).1 = true) :
    reportsOf (a.command R fuel argv).2.trace =
      reportsOf a.trace ++
        ((parse argv).reportsOn R B).flatMap ((a.command R fuel argv).2.report R) := by
  have hbanner : SameReports a (a.print [.banner]) := .printLine a rfl
  unfold command at hreturns ⊢
  rw [← show reportsOf (a.print [.banner]).trace = reportsOf a.trace from hbanner]
  cases hparse : parse argv with
  | missing => exact (List.append_nil _).symm
  | invalid arg => exact Eq.trans (SameReports.printLine _ rfl) (List.append_nil _).symm
  | list => exact Eq.trans (sameReports_showList _) (List.append_nil _).symm
  | runAll loopCnt =>
      rw [hparse] at hreturns
      exact reportsOf_ranAll _ hnodup hreturns
  | run testIndex =>
      rw [hparse] at hreturns
      exact reportsOf_ranOne _ hnodup hreturns
  | runUsage => exact (List.append_nil _).symm

end Session

/-! ## The reports are true -/

/-- The calls a command makes, and the new failures it leaves. -/
theorem Bench.exists_calls_perform (R : Registry A D) (fuel : ℕ) (cmd : Command)
    (b : Bench B A D) :
    ∃ cs, (b.perform R fuel cmd).2.calls = b.calls ++ cs ∧
      (cmd.reportsOn R B ≠ [] → ∀ i, ((b.perform R fuel cmd).2.status i).newFailCount =
        BitVec.ofNat B.ulong (failures (resultsIn i cs))) := by
  have hbatch : ∀ testIds k, ∃ cs, (b.runBatch R testIds k).calls = b.calls ++ cs ∧
      ∀ i, ((b.runBatch R testIds k).status i).newFailCount =
        BitVec.ofNat B.ulong (failures (resultsIn i cs)) := by
    intro testIds k
    obtain ⟨cs, hcs, hnew⟩ :=
      b.clearFailures.exists_calls_runTests R (List.replicate k testIds).flatten
    exact ⟨cs, hcs, fun i => (hnew i).trans (BitVec.zero_add _)⟩
  cases cmd with
  | missing => exact ⟨[], (List.append_nil _).symm, fun h => absurd rfl h⟩
  | invalid arg => exact ⟨[], (List.append_nil _).symm, fun h => absurd rfl h⟩
  | list => exact ⟨[], (List.append_nil _).symm, fun h => absurd rfl h⟩
  | runUsage => exact ⟨[], (List.append_nil _).symm, fun h => absurd rfl h⟩
  | runAll loopCnt =>
      by_cases h0 : R.testCount B = 0
      · rw [b.perform_runAll_of_eq_zero fuel h0, Command.reportsOn, h0]
        exact ⟨[], (List.append_nil _).symm, fun h => absurd rfl h⟩
      · rw [b.perform_runAll fuel h0]
        obtain ⟨cs, hcs, hnew⟩ := hbatch (R.allTests B).ids (Session.rounds loopCnt fuel)
        exact ⟨cs, hcs, fun _ => hnew⟩
  | run testIndex =>
      cases hget : (R.allTests B).ids[testIndex.toNat]? with
      | none =>
          rw [List.getElem?_eq_none_iff, R.length_ids_allTests] at hget
          rw [Command.reportsOn, if_neg (Nat.not_lt.mpr hget), b.perform_run_of_none]
          · exact ⟨[], (List.append_nil _).symm, fun h => absurd rfl h⟩
          · rwa [List.getElem?_eq_none_iff, R.length_ids_allTests]
      | some testId =>
          rw [b.perform_run fuel hget]
          obtain ⟨cs, hcs, hnew⟩ := hbatch [testId] (Session.rounds 0 fuel)
          exact ⟨cs, hcs, fun _ => hnew⟩

/-- The verdict on an exact status is true. -/
theorem Exact.verdict_trueOf {a : Session B A D} (h : Exact a) {i : ℕ}
    (hfew : (resultsOf i a.trace).length < 2 ^ 31) {new : List TestResultTypes}
    (hle : failures new ≤ failures (resultsOf i a.trace))
    (hnew : (a.status i).newFailCount = BitVec.ofNat B.ulong (failures new)) :
    (a.verdict i).TrueOf (resultsOf i a.trace) new := by
  have htotal := failures_le_length (resultsOf i a.trace)
  have hverdict : a.verdict i = classify (resultsOf i a.trace).length
      (failures (resultsOf i a.trace)) (failures new) := by
    rw [Session.verdict, hnew, h i, statusOf, BitVec.setWidth_ofNat_of_le B.ulong_ge,
      BitVec.setWidth_ofNat_of_le B.ulong_ge, BitVec.setWidth_ofNat_of_le B.ulong_ge]
    exact verdictOf_eq_classify hfew htotal hle
  rw [hverdict]
  exact classify_trueOf _ _ hle

/-- **The reports are true.**  Let the ids be distinct, and take a command, from
any reachable state, that returns when each test has been called fewer than
`2 ^ 31` times since boot.  The command reports on the tests it was asked to run
and on no others, and each verdict is true of the results the test has returned
since boot and of those it has returned to this command. -/
theorem reports_true_of_history {R : Registry A D} {dev : D} {s s' : State B A D}
    (h : Reachable R dev s) (hnodup : (hashes (R.suite B)).Nodup) {fuel : ℕ}
    {argv : List CString} {ret : CommandRet} (hrun : (doBoarddiag fuel argv).run s = .ok ret s')
    (hfew : ∀ i, (resultsOf i s'.trace).length < 2 ^ 31) :
    ∃ (cs : List (Call A)) (v : ℕ → Verdict),
      callsOf s'.trace = callsOf s.trace ++ cs ∧
      reportsOf s'.trace = reportsOf s.trace ++
        ((parse argv).reportsOn R B).flatMap (fun i => reportOf (R.suite B) i (v i)) ∧
      ∀ i ∈ (parse argv).reportsOn R B, (v i).TrueOf (resultsOf i s'.trace) (resultsIn i cs) := by
  obtain ⟨a, hemb, hidle, hexact, hcommand⟩ := h.exists_bench
  obtain ⟨t, hemb', hbench, hrun'⟩ := hcommand fuel argv
  obtain ⟨hreturns, -⟩ := a.bench_command (R := R) hidle fuel argv
  obtain ⟨cs, hcs, hnew⟩ := a.bench.exists_calls_perform R fuel (parse argv)
  rw [← hbench] at hcs hnew
  rw [hrun, ← hreturns] at hrun'
  cases hdone : (a.command R fuel argv).1 with
  | false =>
      rw [hdone] at hrun'
      exact absurd hrun' (by simp)
  | true =>
      rw [hdone, if_pos rfl] at hrun'
      injection hrun' with _ hstate
      subst hstate
      have hcalls : callsOf s'.trace = callsOf s.trace ++ cs := by
        rw [hemb.calls_eq, hemb'.calls_eq]
        exact hcs
      refine ⟨cs, (a.command R fuel argv).2.verdict, hcalls, ?_, fun i hi => ?_⟩
      · rw [hemb.trace_eq, hemb'.trace_eq]
        exact a.reportsOf_command hnodup hdone
      · have hle : failures (resultsIn i cs) ≤ failures (resultsOf i s'.trace) := by
          rw [resultsOf, hcalls, resultsIn_append, failures_append]
          exact Nat.le_add_left _ _
        have hfew' := hfew i
        rw [hemb'.trace_eq] at hfew' hle ⊢
        exact (hexact.moves (a.moves_command fuel argv)).verdict_trueOf hfew' hle
          (hnew (List.ne_nil_of_mem hi) i)

/-- The report of another `run 1` on the small suite. -/
theorem smallState_reports_true :
    ∃ s' cs v, (doBoarddiag 2 runOne).run smallState = .ok .success s' ∧
      callsOf s'.trace = callsOf smallState.trace ++ cs ∧
      reportsOf s'.trace = reportsOf smallState.trace ++ reportOf smallTests 1 v ∧
      v.TrueOf (resultsOf 1 s'.trace) (resultsIn 1 cs) := by
  have hobs : smallState.observe 2 runOne = some (.success, [0, 1, 0, 1, 0, 1, 1, 1]) := by
    decide +kernel
  unfold State.observe at hobs
  cases hrun : (doBoarddiag 2 runOne).run smallState with
  | error e s' =>
      rw [hrun] at hobs
      exact absurd hobs (by simp)
  | ok r s' =>
      rw [hrun] at hobs
      injection hobs with hobs
      injection hobs with hret hindex
      subst hret
      have hfew : ∀ i, (resultsOf i s'.trace).length < 2 ^ 31 := by
        intro i
        rw [resultsOf, length_resultsIn, hindex]
        exact Nat.lt_of_le_of_lt (List.count_le_length ..) (by decide)
      obtain ⟨cs, v, hcalls, hreports, htrue⟩ :=
        reports_true_of_history reachable_smallState (by decide +kernel) hrun hfew
      exact ⟨s', cs, v 1, rfl, hcalls, hreports, htrue 1 (by decide +kernel)⟩

end BoardDiag
