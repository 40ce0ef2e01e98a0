import BoardDiag.History.Bench
import BoardDiag.Usage.CommandLine
import Mathlib.Data.List.Nodup

/-!
# Which test a number stands for

`boarddiag run k` goes from the index `k` to an id, the hash of the `k`-th name,
and from the id back to an entry, the first one with that id.  If two names hash
to the same id the second of them is out of reach.

`boarddiag list` makes the same detour: at index `k` it shows the entry *found*
under the `k`-th id.  So what is listed at `k` is what `run k` executes, even for
a test that is out of reach --- there the listing shows the wrong test, as `run`
runs the wrong test.  What gives the shadowed test away is the complaint about
an id that occurs twice, and it is made exactly if the ids are not distinct
(`run_executes_listed`).
-/

namespace BoardDiag

open Machine

variable {B : Build} {A D : Type}

/-- `r`, registered at `j`, is the first test with the id of the `k`-th one. -/
structure FirstWithId (suite : List (Registration A D)) (k j : ℕ) (r : Registration A D) :
    Prop where
  registered : suite[j]? = some r
  same_id : (hashes suite)[k]? = some r.hash
  first : ∀ i < j, (hashes suite)[i]? ≠ some r.hash

theorem FirstWithId.lookup_eq {suite : List (Registration A D)} {k j : ℕ}
    {r : Registration A D} (h : FirstWithId suite k j r) :
    lookup suite r.hash = some (j, r) := by
  obtain ⟨hj, rfl⟩ := List.getElem?_eq_some_iff.mp h.registered
  refine lookup_of_locate_some (locate_eq_some_iff.mpr ⟨hj, rfl, fun i hi hsame => ?_⟩) hj
  refine h.first i hi ?_
  rw [hashes, List.getElem?_map, List.getElem?_eq_getElem (by omega), Option.map_some, hsame]

/-- There is one for every index. -/
theorem exists_firstWithId (suite : List (Registration A D)) {k : ℕ} (hk : k < suite.length) :
    ∃ j r, FirstWithId suite k j r := by
  have hmem : suite[k].hash ∈ hashes suite := List.mem_map_of_mem (List.getElem_mem hk)
  cases hloc : locate suite suite[k].hash with
  | none =>
      obtain ⟨i, r, hlookup, -⟩ := lookup_of_mem hmem
      rw [lookup_of_locate_none hloc] at hlookup
      exact absurd hlookup (by simp)
  | some j =>
      obtain ⟨hj, hsame, hfirst⟩ := locate_eq_some_iff.mp hloc
      refine ⟨j, suite[j], List.getElem?_eq_getElem hj, ?_, fun i hi hsome => ?_⟩
      · rw [hashes, List.getElem?_map, List.getElem?_eq_getElem hk, Option.map_some, hsame]
      · rw [hashes, List.getElem?_map, List.getElem?_eq_getElem (by omega), Option.map_some]
          at hsome
        exact hfirst i hi ((Option.some.inj hsome).trans hsame)

/-- Every test is the first with its id exactly if the ids are distinct. -/
theorem firstWithId_self_iff_nodup {suite : List (Registration A D)} :
    (∀ k r, suite[k]? = some r → FirstWithId suite k k r) ↔ (hashes suite).Nodup := by
  rw [nodup_hashes_iff]
  constructor
  · intro h i j hi hj hij hsame
    have hfirst := (h j suite[j] (List.getElem?_eq_getElem hj)).first i hij
    rw [hashes, List.getElem?_map, List.getElem?_eq_getElem hi, Option.map_some, hsame] at hfirst
    exact hfirst rfl
  · intro h k r hr
    obtain ⟨hk, rfl⟩ := List.getElem?_eq_some_iff.mp hr
    refine ⟨hr, ?_, fun i hi hsome => ?_⟩
    · rw [hashes, List.getElem?_map, hr, Option.map_some]
    · rw [hashes, List.getElem?_map, List.getElem?_eq_getElem (by omega), Option.map_some]
        at hsome
      exact h i k (by omega) hk hi (Option.some.inj hsome)

/-! ## A single run -/

/-- Without early exits and with fuel to spare, `run` makes one round. -/
theorem rounds_zero {fuel : ℕ} (h : 1 < fuel) : Session.rounds 0 fuel = 1 := by
  rw [Session.rounds, if_pos (by decide)]
  exact Nat.min_eq_right (Nat.le_of_lt h)

theorem Bench.runBatch_single (R : Registry A D) (testId : BitVec 32) (b : Bench B A D) :
    b.runBatch R [testId] 1 = b.clearFailures.runTest R testId := rfl

/-- The `k`-th id of the list of all tests. -/
theorem Registry.ids_allTests_getElem? {R : Registry A D}
    (hdim : (R.suite B).length ≤ dimTestList) {k : ℕ} {testId : BitVec 32}
    (hid : (hashes (R.suite B))[k]? = some testId) :
    (R.allTests B).ids[(BitVec.ofNat 32 k).toNat]? = some testId := by
  obtain ⟨hk, -⟩ := List.getElem?_eq_some_iff.mp hid
  rw [length_hashes] at hk
  rw [BitVec.toNat_ofNat, Nat.mod_eq_of_lt (Nat.lt_trans hk (R.fits B.boardDefault)),
    Registry.ids_allTests_eq hdim, hid]

/-- `run k`, on the bench. -/
theorem Bench.perform_isRun {R : Registry A D} (hdim : (R.suite B).length ≤ dimTestList)
    {argv : List CString} {k : ℕ} (hargv : IsRun argv k) {testId : BitVec 32}
    (hid : (hashes (R.suite B))[k]? = some testId) {fuel : ℕ} (hfuel : 1 < fuel)
    (b : Bench B A D) :
    b.perform R fuel (parse argv) = (true, b.clearFailures.runTest R testId) := by
  rw [hargv.parse_eq, b.perform_run fuel (Registry.ids_allTests_getElem? hdim hid),
    decide_eq_true hfuel, rounds_zero hfuel, Bench.runBatch_single]

/-- `run k` returns `0` for an index on the list. -/
theorem IsRun.ret_eq_success {R : Registry A D} (hdim : (R.suite B).length ≤ dimTestList)
    {argv : List CString} {k : ℕ} (hargv : IsRun argv k) (hk : k < (R.suite B).length) :
    (parse argv).ret R B = .success := by
  have hfits := R.fits B.boardDefault
  have hmod : k % 2 ^ 32 = k := Nat.mod_eq_of_lt (Nat.lt_trans hk hfits)
  rw [hargv.parse_eq, Command.ret, BitVec.toNat_ofNat, hmod, Registry.testCount_eq hdim,
    if_pos hk]

/-! ## The listing -/

/-- An id is complained about as often as it occurs too often. -/
theorem exists_sameTestId_iff_nodup (suite : List (Registration A D)) :
    (∃ testId ∈ hashes suite, ∃ name, Line.sameTestId name ∈ sameTestIdLines suite testId) ↔
      ¬ (hashes suite).Nodup := by
  have hcount : ∀ testId, (sharing suite testId).length = (hashes suite).count testId := by
    intro testId
    rw [sharing, hashes, ← List.countP_eq_length_filter, List.count, List.countP_map]
    rfl
  have hcomplaint : ∀ testId, (∃ name, Line.sameTestId name ∈ sameTestIdLines suite testId) ↔
      1 < (hashes suite).count testId := by
    intro testId
    rw [← hcount]
    constructor
    · rintro ⟨name, hname⟩
      obtain ⟨r, hr, -⟩ := List.mem_map.mp hname
      have hpos := List.length_pos_of_mem hr
      rw [List.length_drop] at hpos
      omega
    · intro hlong
      have hpos : 0 < ((sharing suite testId).drop 1).length := by
        rw [List.length_drop]
        omega
      obtain ⟨r, hr⟩ := List.exists_mem_of_length_pos hpos
      exact ⟨r.name, List.mem_map_of_mem hr⟩
  rw [List.nodup_iff_count_le_one]
  constructor
  · rintro ⟨testId, -, hname⟩ hall
    have := (hcomplaint testId).mp hname
    have := hall testId
    omega
  · intro hnot
    push Not at hnot
    obtain ⟨testId, hmany⟩ := hnot
    exact ⟨testId, List.count_pos_iff.mp (by omega), (hcomplaint testId).mpr hmany⟩

/-- What `boarddiag list` prints. -/
def listing (suite : List (Registration A D)) (board : Board) : List Line :=
  .banner :: .listAvailableTests (some board) ::
    ((hashes suite).mapIdx (listedLines suite true)).flatten

/-- At index `k` the listing shows the first test with the `k`-th id. -/
theorem FirstWithId.listedLines_eq {suite : List (Registration A D)} {k j : ℕ}
    {r : Registration A D} (h : FirstWithId suite k j r) :
    listedLines suite true k r.hash =
      .index k :: .test r.hash r.description r.name :: sameTestIdLines suite r.hash := by
  rw [listedLines, h.lookup_eq]
  rfl

/-- The lines of the listing for the `k`-th id. -/
theorem exists_listedLines_eq {suite : List (Registration A D)} {k : ℕ}
    (hk : k < (hashes suite).length) :
    ∃ r : Registration A D, listedLines suite true k (hashes suite)[k] =
      .index k :: .test (hashes suite)[k] r.description r.name ::
        sameTestIdLines suite (hashes suite)[k] := by
  have hk' := hk
  rw [length_hashes] at hk'
  obtain ⟨j, r, hfirst⟩ := exists_firstWithId suite hk'
  have hid : (hashes suite)[k] = r.hash := by
    simpa [List.getElem?_eq_getElem, hk'] using hfirst.same_id
  refine ⟨r, ?_⟩
  rw [hid]
  exact hfirst.listedLines_eq

/-- The listing complains exactly if the ids are not distinct. -/
theorem sameTestId_mem_listing_iff (suite : List (Registration A D)) (board : Board) :
    (∃ name, Line.sameTestId name ∈ listing suite board) ↔ ¬ (hashes suite).Nodup := by
  rw [← exists_sameTestId_iff_nodup]
  constructor
  · rintro ⟨name, hname⟩
    rcases List.mem_cons.mp hname with hline | hname
    · exact absurd hline (by simp)
    rcases List.mem_cons.mp hname with hline | hname
    · exact absurd hline (by simp)
    obtain ⟨ls, hls, hname⟩ := List.mem_flatten.mp hname
    obtain ⟨k, hk, rfl⟩ := List.mem_mapIdx.mp hls
    obtain ⟨r, hlines⟩ := exists_listedLines_eq hk
    rw [hlines] at hname
    refine ⟨(hashes suite)[k], List.getElem_mem hk, name, ?_⟩
    simpa using hname
  · rintro ⟨testId, hmem, name, hname⟩
    obtain ⟨k, hk, rfl⟩ := List.getElem_of_mem hmem
    refine ⟨name, List.mem_cons_of_mem _ (List.mem_cons_of_mem _ (List.mem_flatten.mpr
      ⟨_, List.mem_mapIdx.mpr ⟨k, hk, rfl⟩, ?_⟩))⟩
    obtain ⟨r, hlines⟩ := exists_listedLines_eq hk
    rw [hlines]
    exact List.mem_cons_of_mem _ (List.mem_cons_of_mem _ hname)

/-- **`list`** prints the listing and does nothing else. -/
theorem Session.trace_command_list {R : Registry A D} (hpos : 1 ≤ (R.suite B).length)
    (hdim : (R.suite B).length ≤ dimTestList) (a : Session B A D) (fuel : ℕ)
    {argv : List CString} (hparse : parse argv = .list) :
    (a.command R fuel argv).2.trace =
      a.trace ++ (listing (R.suite B) B.boardDefault).map .print := by
  have hcount : (R.allTests B).testIdCount.toNat = (R.suite B).length := by
    rw [R.toNat_testIdCount_allTests, Registry.testCount_eq hdim]
  have hne : (R.allTests B).testIdCount ≠ 0 := by
    intro h0
    rw [h0] at hcount
    exact absurd hcount.symm (Nat.ne_of_gt hpos)
  have hids : ({ R.allTests B with logLevel := logMaskAll } : TestList).ids =
      hashes (R.suite B) := Registry.ids_allTests_eq hdim
  rw [command, hparse, perform, showList, asked, if_pos hdim, listed, if_neg hne,
    if_neg (Nat.not_lt.mpr (hcount.trans_le hdim)), listLines, hids]
  simp [listing, flagLines]

/-! ## Tests without a function -/

/-- A missing function is reported as an aborted test. -/
theorem Session.trace_runTest_of_null {R : Registry A D} (a : Session B A D) {j : ℕ}
    {r : Registration A D} {testId : BitVec 32}
    (hlookup : lookup (R.suite B) testId = some (j, r)) (hf : r.testFunction = none) :
    ∃ xs, (a.runTest R testId).2.trace = a.trace ++ xs ∧ .result testId .aborted ∈ xs := by
  refine ⟨.report (.errEventMsg 0 .assert .processDiagtestCmds 265) ::
    ((consoleShow a.log.logMask (.errEventMsg 0 .assert .processDiagtestCmds 265)).map .print ++
      .result testId .aborted ::
        (consoleShowresult a.log.logMask testId .aborted).map .print), ?_, by simp⟩
  simp [runTest, hlookup, hf, reported, resultReported, emit]

/-- What `run` has run when it returns. -/
theorem Session.conducted_single {R : Registry A D} (a : Session B A D)
    {testId : BitVec 32} (h : testId ∈ hashes (R.suite B)) {fuel : ℕ} (hfuel : 1 < fuel) :
    ∃ xs, (a.conducted R (singleOptions testId) fuel).2.trace =
      ((a.begun logMaskAll).runTest R testId).2.trace ++ xs := by
  have hone : ¬ (singleOptions testId).testIdCount = 0 := by
    show ¬ (1 : BitVec 32) = 0
    decide
  have hdim : ¬ (singleOptions testId).testIdCount.toNat > dimTestList := by
    show ¬ (1 : BitVec 32).toNat > dimTestList
    decide
  have hgo : (stepListed R 0 testId (a.begun logMaskAll)).1 = false :=
    decide_eq_false fun h => h.2 rfl
  have hbatch : (a.executed R (singleOptions testId) fuel).2 =
      ((a.begun logMaskAll).runTest R testId).2 := by
    rw [executed, if_neg hone, if_neg hdim]
    show (a.batch R (singleOptions testId) (rounds 0 fuel)).2 = _
    rw [rounds_zero hfuel, batch, ids_singleOptions]
    show (runUntil (stepListed R 0) [testId] (a.begun logMaskAll)).2 = _
    rw [runUntil_cons_of_go hgo]
    rfl
  have hids : ∀ id ∈ (singleOptions testId).ids, id ∈ hashes (R.suite B) := by
    intro id hid
    rw [ids_singleOptions] at hid
    rwa [List.mem_singleton.mp hid]
  rw [← hbatch]
  unfold conducted
  dsimp only
  split
  · obtain ⟨xs, htrace, -⟩ := ((quiet_printLine (a.executed R (singleOptions testId) fuel).2
      (l := .newline) rfl).trans (quiet_resulted _ hids)).trace_eq
    exact ⟨xs, htrace⟩
  · exact ⟨[], (List.append_nil _).symm⟩

theorem Session.aborted_mem_command {R : Registry A D} (a : Session B A D)
    (hdim : (R.suite B).length ≤ dimTestList) {argv : List CString} {k j : ℕ}
    (hargv : IsRun argv k) {r : Registration A D} (hfirst : FirstWithId (R.suite B) k j r)
    (hf : r.testFunction = none) {fuel : ℕ} (hfuel : 1 < fuel) :
    ∃ xs, (a.command R fuel argv).2.trace = a.trace ++ xs ∧ .result r.hash .aborted ∈ xs := by
  have hmem : r.hash ∈ hashes (R.suite B) := List.mem_of_getElem? hfirst.same_id
  have hget := Registry.ids_allTests_getElem? hdim hfirst.same_id
  have hbanner : Quiet a (a.print [.banner]) := a.quiet_printLine rfl
  obtain ⟨xs, hxs, -⟩ := (hbanner.trans (quiet_announcedOne _ hget)).trace_eq
  have hcommand : (a.command R fuel argv).2 =
      (((a.print [.banner]).announcedOne R r.hash).conducted R
        (singleOptions r.hash) fuel).2 := by
    rw [command, hargv.parse_eq, perform, ranOne, hget]
  obtain ⟨ys, hys, hmem'⟩ := trace_runTest_of_null
    (((a.print [.banner]).announcedOne R r.hash).begun logMaskAll) hfirst.lookup_eq hf
  obtain ⟨zs, hzs⟩ := conducted_single ((a.print [.banner]).announcedOne R r.hash) hmem hfuel
  have hbegun : (((a.print [.banner]).announcedOne R r.hash).begun logMaskAll).trace =
      ((a.print [.banner]).announcedOne R r.hash).trace ++ [.batch] := rfl
  refine ⟨xs ++ [.batch] ++ ys ++ zs, ?_, by simp [hmem']⟩
  rw [hcommand, hzs, hys, hbegun, hxs]
  simp only [List.append_assoc]

/-! ## What `run k` does -/

/-- A session whose bench was only cleared, in the states of the source. -/
theorem Embeds.of_bench_clearFailures {R : Registry A D} {s s' : State B A D}
    {a a' : Session B A D} (hemb : Embeds R s a) (hemb' : Embeds R s' a')
    (hbench : a'.bench = a.bench.clearFailures) :
    callsOf s'.trace = callsOf s.trace ∧ s'.dev = s.dev ∧
      ∀ (i : ℕ) (e e' : TestParamEntry B A D), s.entries[i]? = some e →
        s'.entries[i]? = some e' → e'.status = { e.status with newFailCount := 0 } := by
  refine ⟨?_, ?_, fun i e e' he he' => ?_⟩
  · rw [hemb.calls_eq, hemb'.calls_eq, hbench]
    rfl
  · rw [hemb.dev_eq_bench, hemb'.dev_eq_bench, hbench]
    rfl
  · rw [hemb.status_eq_bench he, hemb'.status_eq_bench he', hbench]
    rfl

/-- A session whose bench was cleared and then called once, in the states of the
source. -/
theorem Embeds.of_bench_call {R : Registry A D} {s s' : State B A D} {a a' : Session B A D}
    (hemb : Embeds R s a) (hemb' : Embeds R s' a') {j : ℕ} {r : Registration A D}
    {f : TestFunction A D} (hbench : a'.bench = a.bench.clearFailures.call j r f) :
    callsOf s'.trace = callsOf s.trace ++
        [⟨j, r.hash, r.testArgs, (f r.hash r.testArgs 0 s.dev).1⟩] ∧
      s'.dev = (f r.hash r.testArgs 0 s.dev).2.2 ∧
      (∀ (i : ℕ) (e e' : TestParamEntry B A D), s.entries[i]? = some e →
        s'.entries[i]? = some e' → i ≠ j →
        e'.status = { e.status with newFailCount := 0 }) ∧
      ∀ (e e' : TestParamEntry B A D), s.entries[j]? = some e → s'.entries[j]? = some e' →
        e'.status = Status.afterCall { e.status with newFailCount := 0 }
          (f r.hash r.testArgs 0 s.dev).1 := by
  refine ⟨?_, ?_, fun i e e' he he' hij => ?_, fun e e' he he' => ?_⟩
  · rw [hemb.calls_eq, hemb'.calls_eq, hemb.dev_eq_bench, hbench]
    rfl
  · rw [hemb.dev_eq_bench, hemb'.dev_eq_bench, hbench]
    rfl
  · rw [hemb.status_eq_bench he, hemb'.status_eq_bench he', hbench]
    exact Function.update_of_ne hij _ _
  · rw [hemb.status_eq_bench he, hemb'.status_eq_bench he', hemb.dev_eq_bench, hbench]
    exact Function.update_self _ _ _

/-- **A number stands for the test that is listed under it.**  On a list of 1 to
200 tests and from any reachable state:

* `run k` calls the function of the first test with the `k`-th id, once and with
  that test's arguments, or reports the test as aborted if it has none; it clears
  the new failures and otherwise changes the status of that test only;
* `list` shows, at index `k`, just that test;
* every number leads to its own test exactly if the ids are distinct;
* `list` complains about an id exactly if they are not. -/
theorem run_executes_listed {R : Registry A D} {dev : D} {s : State B A D}
    (h : Reachable R dev s) (hpos : 1 ≤ (R.suite B).length)
    (hdim : (R.suite B).length ≤ 200) :
    (∀ k < (R.suite B).length, ∃ j r, FirstWithId (R.suite B) k j r ∧
      ∀ argv fuel, IsRun argv k → 1 < fuel →
        ∃ s', (doBoarddiag fuel argv).run s = .ok .success s' ∧
          (∀ i e e', s.entries[i]? = some e → s'.entries[i]? = some e' → i ≠ j →
            e'.status = { e.status with newFailCount := 0 }) ∧
          match r.testFunction with
          | none =>
              callsOf s'.trace = callsOf s.trace ∧ s'.dev = s.dev ∧
              (∃ xs, s'.trace = s.trace ++ xs ∧ .result r.hash .aborted ∈ xs) ∧
              ∀ e e', s.entries[j]? = some e → s'.entries[j]? = some e' →
                e'.status = { e.status with newFailCount := 0 }
          | some f =>
              callsOf s'.trace = callsOf s.trace ++
                [⟨j, r.hash, r.testArgs, (f r.hash r.testArgs 0 s.dev).1⟩] ∧
              s'.dev = (f r.hash r.testArgs 0 s.dev).2.2 ∧
              ∀ e e', s.entries[j]? = some e → s'.entries[j]? = some e' →
                e'.status = Status.afterCall { e.status with newFailCount := 0 }
                  (f r.hash r.testArgs 0 s.dev).1) ∧
    (∀ argv fuel, IsList argv → ∃ s', (doBoarddiag fuel argv).run s = .ok .success s' ∧
      s'.trace = s.trace ++ (listing (R.suite B) B.boardDefault).map .print) ∧
    (∀ k j r, FirstWithId (R.suite B) k j r → listedLines (R.suite B) true k r.hash =
      .index k :: .test r.hash r.description r.name :: sameTestIdLines (R.suite B) r.hash) ∧
    ((∀ k r, (R.suite B)[k]? = some r → FirstWithId (R.suite B) k k r) ↔
      (hashes (R.suite B)).Nodup) ∧
    ((∃ name, Line.sameTestId name ∈ listing (R.suite B) B.boardDefault) ↔
      ¬ (hashes (R.suite B)).Nodup) := by
  obtain ⟨a, hemb, hidle, -, hcommand⟩ := h.exists_bench
  refine ⟨fun k hk => ?_, fun argv fuel hlist => ?_, fun k j r hfirst => hfirst.listedLines_eq,
    firstWithId_self_iff_nodup, sameTestId_mem_listing_iff _ _⟩
  · obtain ⟨j, r, hfirst⟩ := exists_firstWithId (R.suite B) hk
    refine ⟨j, r, hfirst, fun argv fuel hargv hfuel => ?_⟩
    obtain ⟨s', hemb', hbench, hrun⟩ := hcommand fuel argv
    rw [a.bench.perform_isRun hdim hargv hfirst.same_id hfuel] at hbench hrun
    rw [hargv.ret_eq_success hdim hk] at hrun
    rw [Bench.runTest, hfirst.lookup_eq] at hbench
    cases hf : r.testFunction with
    | none =>
        simp only [hf] at hbench
        obtain ⟨hcalls, hdev, hcleared⟩ := hemb.of_bench_clearFailures hemb' hbench
        obtain ⟨xs, hxs, hmem⟩ := a.aborted_mem_command hdim hargv hfirst hf hfuel
        refine ⟨s', hrun, fun i e e' he he' _ => hcleared i e e' he he', hcalls, hdev,
          ⟨xs, ?_, hmem⟩, hcleared j⟩
        rw [hemb.trace_eq, hemb'.trace_eq, hxs]
    | some f =>
        simp only [hf] at hbench
        obtain ⟨hcalls, hdev, hothers, hself⟩ := hemb.of_bench_call hemb' hbench
        exact ⟨s', hrun, hothers, hcalls, hdev, hself⟩
  · obtain ⟨cmd, sub, rfl, hsub⟩ := hlist
    have hparse : parse [cmd, sub] = .list := parse_of_list hsub []
    obtain ⟨s', hemb', -, hrun⟩ := hcommand fuel [cmd, sub]
    rw [hparse] at hrun
    refine ⟨s', hrun, ?_⟩
    rw [hemb'.trace_eq, hemb.trace_eq, a.trace_command_list hpos hdim fuel hparse]

/-- Two tests of the same name. -/
def twinTests : List (Registration Unit Unit) :=
  [⟨.ofChars ['P'], .ofChars ['e', 'e', 'p'], some fun _ _ _ _ => (.pass, [], ()), ()⟩,
    ⟨.ofChars ['Q'], .ofChars ['e', 'e', 'p'], some fun _ _ _ _ => (.fail, [], ()), ()⟩]

def twinRegistry : Registry Unit Unit where
  tests _ := twinTests
  fits _ := by decide

/-- The lines printed in a trace. -/
def linesOf (t : List (Act A)) : List Line :=
  t.filterMap fun
    | .print l => some l
    | _ => none

/-- Two tests share an id, and yet both numbers run the test listed under them:
the first one, which is listed under both. -/
theorem twins_run_as_listed :
    ¬ (hashes twinTests).Nodup ∧
    linesOf ((State.boot twinRegistry () : State smallBuild Unit Unit).afterScript 0
        [[.ofChars ['b', 'd'], wordList]]).trace =
      [.banner, .listAvailableTests (some .am335xBbb),
        .index 0, .test (calculateTestIdHash (.ofChars ['e', 'e', 'p'])) (.ofChars ['P'])
          (.ofChars ['e', 'e', 'p']), .sameTestId (.ofChars ['e', 'e', 'p']),
        .index 1, .test (calculateTestIdHash (.ofChars ['e', 'e', 'p'])) (.ofChars ['P'])
          (.ofChars ['e', 'e', 'p']), .sameTestId (.ofChars ['e', 'e', 'p'])] ∧
    (State.boot twinRegistry () : State smallBuild Unit Unit).observe 2
      [.ofChars ['b', 'd'], wordRun, .ofChars ['0']] = some (.success, [0]) ∧
    (State.boot twinRegistry () : State smallBuild Unit Unit).observe 2
      [.ofChars ['b', 'd'], wordRun, .ofChars ['1']] = some (.success, [0]) :=
  ⟨by decide +kernel, by decide +kernel, by decide +kernel, by decide +kernel⟩

/-- The second test of the small suite. -/
theorem smallState_run_one :
    ∃ j r, FirstWithId smallTests 1 j r ∧
      ∃ s', (doBoarddiag 2 runOne).run smallState = .ok .success s' := by
  obtain ⟨hrun, -⟩ := run_executes_listed reachable_smallState (by decide) (by decide)
  obtain ⟨j, r, hfirst, hargv⟩ := hrun 1 (by decide)
  obtain ⟨s', hok, -⟩ := hargv runOne 2
    ⟨_, _, _, rfl, by decide, by decide, by decide⟩ (by decide)
  exact ⟨j, r, hfirst, s', hok⟩

end BoardDiag
