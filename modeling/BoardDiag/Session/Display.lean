import BoardDiag.Session.Execution

/-!
# Listing tests and their results in a session

`GetAvailableListOfTest`, `DisplayTestList` and `DisplayTestResults` only look:
the first copies the ids of the registered tests into an options record, the
other two print.  Here is what they copy and what they print, as functions of
the registered tests and the status of the session.

One branch of the source does not appear in `listedLines` and has no
counterpart: an entry found under an id has that id as the hash of its name, so
the "TestId is ... but calculated ..." line is never printed.  That is proved
where the source is followed, in `run_displayListed`.
-/

namespace BoardDiag

open Machine

variable {B : Build} {A D : Type}

/-- The ids of the registered tests. -/
def hashes (suite : List (Registration A D)) : List (BitVec 32) := suite.map Registration.hash

@[simp] theorem length_hashes (suite : List (Registration A D)) :
    (hashes suite).length = suite.length := List.length_map ..

/-! ## The options record of all tests -/

/-- An options record whose first `j` ids have been filled in. -/
def TestList.filled (options : TestList) (ids : List (BitVec 32)) (j : ℕ) : TestList :=
  { options with
    testIdList := Vector.ofFn fun i =>
      if i.val < j then ids.getD i.val 0 else options.testIdList[i] }

theorem TestList.filled_zero (options : TestList) (ids : List (BitVec 32)) :
    options.filled ids 0 = options := by
  cases options
  simp [filled]

/-- What `GetAvailableListOfTest` makes of an options record. -/
def TestList.available (options : TestList) (ids : List (BitVec 32)) : TestList :=
  { options.filled ids ids.length with testIdCount := BitVec.ofNat 32 ids.length }

theorem TestList.toNat_testIdCount_available (options : TestList) {ids : List (BitVec 32)}
    (h : ids.length ≤ dimTestList) :
    (options.available ids).testIdCount.toNat = ids.length := by
  rw [dimTestList] at h
  rw [available, BitVec.toNat_ofNat]
  exact Nat.mod_eq_of_lt (by omega)

/-- The record lists the ids it was filled with. -/
theorem TestList.ids_available (options : TestList) {ids : List (BitVec 32)}
    (h : ids.length ≤ dimTestList) : (options.available ids).ids = ids := by
  have hlen : (options.available ids).ids.length = ids.length := by
    rw [TestList.length_ids] <;> rw [options.toNat_testIdCount_available h]
    exact h
  apply List.ext_getElem hlen
  intro i h₁ h₂
  simp [TestList.ids, available, filled, h₂]

namespace Session

variable (R : Registry A D) (a : Session B A D)

/-- **`GetAvailableListOfTest`** refuses a list that is too long ... -/
theorem run_getAvailableListOfTest_of_overflow (options : TestList)
    (h : dimTestList < (R.suite B).length) :
    (getAvailableListOfTest options).run (a.state R) =
      .ok options ((a.reported (.errEventMsg 0 .assert .processDiagtestCmds 213)).state R) := by
  unfold getAvailableListOfTest
  rw [EStateM.run_bind, run_testListBound]
  simp only [gt_iff_lt, if_pos h]
  rfl

/-- One step of `GetAvailableListOfTest`. -/
theorem run_copyTestId (options : TestList) {j : ℕ} (hj : j < (R.suite B).length)
    (hdim : j < dimTestList) :
    (copyTestId j (options.filled (hashes (R.suite B)) j)).run (a.state R) =
      .ok (options.filled (hashes (R.suite B)) (j + 1)) (a.state R) := by
  unfold copyTestId
  rw [EStateM.run_bind, run_testEntryAt]
  simp only
  rw [EStateM.run_bind, a.run_readEntry R hj]
  simp only [entry, BitVec.setWidth_setWidth_of_le _ B.ulong_ge, BitVec.setWidth_eq]
  rw [TestList.setId, dif_pos hdim, EStateM.run_pure]
  refine congrArg (EStateM.Result.ok · _) ?_
  simp only [TestList.filled, TestList.mk.injEq, and_true, true_and]
  apply Vector.ext
  intro i hi
  rw [Vector.getElem_set]
  by_cases hij : j = i
  · subst hij
    simp [hashes, hj]
  · rw [if_neg hij]
    simp only [Vector.getElem_ofFn]
    by_cases hlt : i < j
    · rw [if_pos hlt, if_pos (by omega)]
    · rw [if_neg hlt, if_neg (by omega)]

/-- ... and lists all registered tests otherwise. -/
theorem run_getAvailableListOfTest (options : TestList)
    (h : (R.suite B).length ≤ dimTestList) :
    (getAvailableListOfTest options).run (a.state R) =
      .ok (options.available (hashes (R.suite B))) (a.state R) := by
  have hloop := run_forFrom copyTestId (fun j => options.filled (hashes (R.suite B)) j)
    (fun _ => a.state R) 0 (R.suite B).length
    fun j _ hj => a.run_copyTestId R options (by omega) (by omega)
  rw [TestList.filled_zero, Nat.zero_add] at hloop
  unfold getAvailableListOfTest
  rw [EStateM.run_bind, run_testListBound]
  simp only [gt_iff_lt, if_neg (Nat.not_lt.mpr h)]
  rw [EStateM.run_bind, hloop]
  simp [TestList.available]

/-! ## Loops that print -/

/-- A loop whose body prints a line or more prints them one after the other. -/
theorem run_printing (body : ℕ → Diag B A D Unit) (ls : List (List Line))
    (h : ∀ (j : ℕ) (hj : j < ls.length) (ps : List Line),
      (body j).run ((a.print ps).state R) = .ok () ((a.print (ps ++ ls[j])).state R))
    (ps : List Line) :
    (forFrom (fun j _ => body j) 0 ls.length ()).run ((a.print ps).state R) =
      .ok () ((a.print (ps ++ ls.flatten)).state R) := by
  have hloop := run_forFrom (fun j _ => body j) (fun _ => ())
    (fun j => (a.print (ps ++ (ls.take j).flatten)).state R) 0 ls.length fun j _ hj => by
      have hj' : j < ls.length := by omega
      rw [h j hj', ← List.take_append_getElem hj', List.flatten_append,
        List.flatten_singleton, List.append_assoc]
  rw [Nat.zero_add, List.take_zero, List.take_length] at hloop
  simpa using hloop

end Session

/-! ## The listing -/

/-- The tests with a given id. -/
def sharing (suite : List (Registration A D)) (testId : BitVec 32) :
    List (Registration A D) :=
  suite.filter fun r => decide (r.hash = testId)

theorem sharing_append_of_eq (suite : List (Registration A D)) {testId : BitVec 32}
    {r : Registration A D} (h : r.hash = testId) :
    sharing (suite ++ [r]) testId = sharing suite testId ++ [r] := by
  rw [sharing, List.filter_append, List.filter_cons_of_pos (by simpa using h)]
  rfl

theorem sharing_append_of_ne (suite : List (Registration A D)) {testId : BitVec 32}
    {r : Registration A D} (h : r.hash ≠ testId) :
    sharing (suite ++ [r]) testId = sharing suite testId := by
  rw [sharing, List.filter_append, List.filter_cons_of_neg (by simpa using h),
    List.filter_nil, List.append_nil]
  rfl

/-- The complaints of `DisplayTestList` about an id: one for each registered test
with that id but the first. -/
def sameTestIdLines (suite : List (Registration A D)) (testId : BitVec 32) : List Line :=
  ((sharing suite testId).drop 1).map fun r => .sameTestId r.name

/-- What `DisplayTestList` prints for the `j`-th listed id. -/
def listedLines (suite : List (Registration A D)) (showIndex : Bool) (j : ℕ)
    (testId : BitVec 32) : List Line :=
  (if showIndex then [.index j] else []) ++
    match lookup suite testId with
    | none => [.testNotFound testId]
    | some (_, r) => .test testId r.description r.name :: sameTestIdLines suite testId

/-- The flags `DisplayTestList` prints. -/
def flagLines (options : TestList) (showFlags : Bool) : List Line :=
  (if showFlags ∧ options.exitOnErr ≠ 0 then [.exit] else []) ++
    if showFlags ∧ options.loopCnt ≠ 0 then [.repeatTimes options.loopCnt.toInt] else []

/-- What `DisplayTestList` prints past its guards. -/
def listLines (suite : List (Registration A D)) (options : TestList)
    (showIndex showFlags : Bool) : List Line :=
  flagLines options showFlags ++ (options.ids.mapIdx (listedLines suite showIndex)).flatten

namespace Session

variable (R : Registry A D) (a : Session B A D)

/-- One step of the scan for entries that share an id: the matches among the
first `j` entries have been counted, and all of them but the first named. -/
theorem run_showSameTestId (testId : BitVec 32) {j : ℕ} (hj : j < (R.suite B).length) :
    (showSameTestId testId (some B.boardDefault) j
        (sharing ((R.suite B).take j) testId).length).run
        ((a.print (sameTestIdLines ((R.suite B).take j) testId)).state R) =
      .ok (sharing ((R.suite B).take (j + 1)) testId).length
        ((a.print (sameTestIdLines ((R.suite B).take (j + 1)) testId)).state R) := by
  unfold showSameTestId
  rw [EStateM.run_bind]
  simp only [entryOf, EStateM.run_pure]
  rw [EStateM.run_bind, run_readEntry R _ hj, ← List.take_append_getElem hj]
  simp only [entry, setWidth_ulong_inj, sameTestIdLines]
  by_cases hmatch : (R.suite B)[j].hash = testId
  · rw [if_pos hmatch, sharing_append_of_eq _ hmatch]
    cases sharing ((R.suite B).take j) testId with
    | nil => rfl
    | cons r rs =>
        rw [if_pos (by simp), EStateM.run_bind, run_printf, print_print]
        simp
  · rw [if_neg hmatch, sharing_append_of_ne _ hmatch]
    rfl

/-- The scan for entries that share an id. -/
theorem run_scan (testId : BitVec 32) :
    (forFrom (showSameTestId testId (some B.boardDefault)) 0 (R.suite B).length 0).run
        (a.state R) =
      .ok (sharing (R.suite B) testId).length
        ((a.print (sameTestIdLines (R.suite B) testId)).state R) := by
  have hloop := run_forFrom (showSameTestId testId (some B.boardDefault))
    (fun j => (sharing ((R.suite B).take j) testId).length)
    (fun j => (a.print (sameTestIdLines ((R.suite B).take j) testId)).state R) 0
    (R.suite B).length fun j _ hj => a.run_showSameTestId R testId (by omega : j < _)
  rw [Nat.zero_add, List.take_length, List.take_zero] at hloop
  simpa [sameTestIdLines, sharing] using hloop

/-- The entry `DisplayTestList` has found.  The check of the calculated id against
the listed one succeeds: an entry is only found under the hash of its name. -/
theorem run_displayEntry {testId : BitVec 32} {i : ℕ} (hi : i < (R.suite B).length)
    (hhash : (R.suite B)[i].hash = testId) :
    (displayEntry testId ⟨B.boardDefault, i⟩).run (a.state R) =
      .ok () ((a.print (.test testId (R.suite B)[i].description (R.suite B)[i].name ::
        sameTestIdLines (R.suite B) testId)).state R) := by
  have hcalculated : calculateTestIdHash (a.entry i (R.suite B)[i]).name = testId := hhash
  unfold displayEntry
  rw [EStateM.run_bind, run_readEntry R a hi]
  simp only
  rw [EStateM.run_bind, run_printf]
  simp only
  rw [EStateM.run_bind, run_printfIf, if_neg (not_not.mpr hcalculated), print_nil]
  simp only
  rw [EStateM.run_bind, run_testListBound]
  simp only
  rw [EStateM.run_bind, run_requestTestList]
  simp only
  rw [EStateM.run_bind, run_scan, print_print]
  rfl

/-- The body of the loop of `DisplayTestList`. -/
theorem run_displayListed {options : TestList} (showIndex : Bool) {j : ℕ}
    (hj : j < options.ids.length) :
    (displayListed options showIndex j).run (a.state R) =
      .ok () ((a.print (listedLines (R.suite B) showIndex j options.ids[j])).state R) := by
  unfold displayListed
  rw [EStateM.run_bind, run_getId R a hj]
  simp only
  rw [EStateM.run_bind, run_locateTest]
  simp only
  rw [EStateM.run_bind, run_printfIf]
  cases hloc : locate (R.suite B) options.ids[j] with
  | none =>
      simp only [Option.map_none, listedLines, lookup_of_locate_none hloc]
      rw [run_printf, print_print]
  | some i =>
      obtain ⟨hi, hhash, -⟩ := locate_eq_some_iff.mp hloc
      simp only [Option.map_some, listedLines, lookup_of_locate_some hloc hi]
      rw [run_displayEntry R _ hi hhash, print_print]

/-- **The checks of a list** that the displaying functions begin with: what they report of
a bad one, and that the ids are as many as they are said to be where they go on. -/
theorem run_checkedCount {options : TestList} {refuse₀ refuse₁ x : Diag B A D Unit}
    {b₀ b₁ b : Session B A D} (h₀ : refuse₀.run (a.state R) = .ok () (b₀.state R))
    (h₁ : refuse₁.run (a.state R) = .ok () (b₁.state R))
    (hx : options.ids.length = options.testIdCount.toNat →
      x.run (a.state R) = .ok () (b.state R)) :
    (if options.testIdCount = 0 then refuse₀
      else if options.testIdCount.toNat > dimTestList then refuse₁ else x).run (a.state R) =
    .ok () ((if options.testIdCount = 0 then b₀
      else if options.testIdCount.toNat > dimTestList then b₁ else b).state R) := by
  by_cases h0 : options.testIdCount = 0
  · rw [if_pos h0, if_pos h0]
    exact h₀
  · rw [if_neg h0, if_neg h0]
    by_cases hdim : options.testIdCount.toNat > dimTestList
    · rw [if_pos hdim, if_pos hdim]
      exact h₁
    · rw [if_neg hdim, if_neg hdim]
      exact hx (TestList.length_ids (Nat.not_lt.mp hdim))

/-- `DisplayTestList`, on a session. -/
def listed (options : TestList) (showIndex showFlags : Bool) : Session B A D :=
  if options.testIdCount = 0 then a.reported (.errEventMsg 0 .assert .processDiagtestCmds 290)
  else if options.testIdCount.toNat > dimTestList then
    a.reported (.errEventMsg 0 .assert .processDiagtestCmds 296)
  else a.print (listLines (R.suite B) options showIndex showFlags)

/-- **`DisplayTestList`** prints the listing. -/
theorem run_displayTestList (options : TestList) (showIndex showFlags : Bool) :
    (displayTestList options showIndex showFlags).run (a.state R) =
      .ok () ((a.listed R options showIndex showFlags).state R) := by
  unfold displayTestList listed
  refine a.run_checkedCount R rfl rfl fun hlen => ?_
  have hloop := a.run_printing R (displayListed options showIndex)
    (options.ids.mapIdx (listedLines (R.suite B) showIndex)) (fun j hj ps => by
      rw [List.length_mapIdx] at hj
      rw [run_displayListed R _ showIndex hj, print_print, List.getElem_mapIdx])
    (flagLines options showFlags)
  rw [List.length_mapIdx, hlen] at hloop
  rw [listLines, ← hloop, EStateM.run_bind, run_printfIf]
  simp only
  rw [EStateM.run_bind, run_printfIf, print_print]
  rfl

end Session

/-! ## The results -/

/-- What `DisplayTestResults` prints for a test with a given status. -/
def reportLines (logLevel : BitVec 32) (r : Registration A D) (testId : BitVec 32)
    (st : Status B.ulong) : List Line :=
  if logLevel &&& logMaskPass = 0 ∧ st.totalFailCount.setWidth 32 = 0 then []
  else
    [.result r.name r.description testId,
      .verdict (verdictOf (st.runCount.setWidth 32) (st.totalFailCount.setWidth 32)
        (st.newFailCount.setWidth 32))]

namespace Session

variable (R : Registry A D) (a : Session B A D)

/-- What `DisplayTestResults` prints for a listed id. -/
def resultLines (logLevel testId : BitVec 32) : List Line :=
  match lookup (R.suite B) testId with
  | none => [.unknownTest testId]
  | some (i, r) => reportLines logLevel r testId (a.status i)

/-- The body of the loop of `DisplayTestResults`. -/
theorem run_displayResult {options : TestList} {j : ℕ} (hj : j < options.ids.length) :
    (displayResult options j).run (a.state R) =
      .ok () ((a.print (a.resultLines R options.logLevel options.ids[j])).state R) := by
  unfold displayResult
  rw [EStateM.run_bind, run_getId R a hj]
  simp only
  rw [EStateM.run_bind, run_locateTest]
  cases hloc : locate (R.suite B) options.ids[j] with
  | none =>
      simp only [Option.map_none, resultLines, lookup_of_locate_none hloc]
      rfl
  | some i =>
      obtain ⟨hi, -⟩ := locate_eq_some_iff.mp hloc
      simp only [Option.map_some, resultLines, lookup_of_locate_some hloc hi]
      rw [EStateM.run_bind, run_readEntry R a hi]
      simp only
      by_cases hskip : options.logLevel &&& logMaskPass = 0 ∧
          (a.entry i (R.suite B)[i]).status.totalFailCount.setWidth 32 = 0
      · have hlines : reportLines options.logLevel (R.suite B)[i] options.ids[j] (a.status i) =
            [] := if_pos hskip
        rw [if_pos hskip, hlines, print_nil]
        rfl
      · have hlines : reportLines options.logLevel (R.suite B)[i] options.ids[j] (a.status i) =
            [.result _ _ _, .verdict _] := if_neg hskip
        rw [if_neg hskip, hlines, EStateM.run_bind, run_printf]
        simp only
        rw [run_printf, print_print]
        rfl

/-- `DisplayTestResults`, on a session. -/
def resulted (options : TestList) : Session B A D :=
  if options.testIdCount = 0 then a.reported (.errEventMsg 0 .assert .processDiagtestCmds 358)
  else if options.testIdCount.toNat > dimTestList then
    a.reported (.errEventMsg 0 .assert .processDiagtestCmds 364)
  else a.print (options.ids.map (a.resultLines R options.logLevel)).flatten

/-- **`DisplayTestResults`** prints the results. -/
theorem run_displayTestResults (options : TestList) :
    (displayTestResults options).run (a.state R) =
      .ok () ((a.resulted R options).state R) := by
  unfold displayTestResults resulted
  refine a.run_checkedCount R rfl rfl fun hlen => ?_
  have hloop := a.run_printing R (displayResult options)
    (options.ids.map (a.resultLines R options.logLevel)) (fun j hj ps => by
      rw [List.length_map] at hj
      rw [run_displayResult R _ hj, print_print, List.getElem_map]
      rfl) []
  rw [List.length_map, hlen] at hloop
  rw [print_nil, List.nil_append] at hloop
  exact hloop

end Session

end BoardDiag
