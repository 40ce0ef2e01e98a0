import BoardDiag.Session.Command

/-!
# What a session can do

Whatever the command, a session only ever moves in three ways:

* it does something *quiet*: it prints, reports or changes the log, and neither
  calls a test nor begins a batch;
* it begins a batch, which clears the new-failure counts;
* it calls the function of a registered test, which is booked on the entry of
  that test.

`moves_perform` says that every command, whether it returns or is cut off, is a
sequence of such moves.  An invariant of the framework is therefore three small
facts, one for each kind of move, and nothing about loops, look-ups or options
records.

The quiet moves are also *sound*: nothing in them says that a test was not
found, or that an id is not the hash of a name.  The ids a command works with
are copied from the registered tests, and that is why.
-/

namespace BoardDiag

open Machine Relation

variable {B : Build} {A D : Type}

/-! ## Quiet and sound acts -/

/-- An act that neither calls a test nor begins a batch. -/
def Act.quiet : Act A → Bool
  | .call _ | .batch => false
  | .print _ | .report _ | .testReport _ | .result _ _ => true

/-- A line that does not complain about an id. -/
def Line.sound : Line → Bool
  | .testNotFound _ | .unknownTest _ | .testIdDiffers _ _ => false
  | _ => true

/-- A line that reports on a test. -/
def Line.isReport : Line → Bool
  | .result _ _ _ | .verdict _ => true
  | _ => false

/-- A line that neither complains about an id nor reports on a test. -/
def Line.plain (l : Line) : Bool := l.sound && !l.isReport

theorem Line.sound_of_plain {l : Line} (h : l.plain = true) : l.sound = true :=
  (Bool.and_eq_true_iff.mp h).1

/-- An act in which the framework does not complain about an id. -/
def Act.sound : Act A → Bool
  | .print l => l.sound
  | .report (.errEvent _ .testNotFound) => false
  | _ => true

/-- Acts that are quiet and sound. -/
def Harmless (xs : List (Act A)) : Prop := ∀ x ∈ xs, x.quiet = true ∧ x.sound = true

theorem harmless_nil : Harmless ([] : List (Act A)) := by
  intro x hx
  exact absurd hx List.not_mem_nil

theorem harmless_cons {x : Act A} {xs : List (Act A)} (hquiet : x.quiet = true)
    (hsound : x.sound = true) (hxs : Harmless xs) : Harmless (x :: xs) := by
  intro y hy
  rcases List.mem_cons.mp hy with rfl | hy
  · exact ⟨hquiet, hsound⟩
  · exact hxs y hy

theorem Harmless.append {xs ys : List (Act A)} (hxs : Harmless xs) (hys : Harmless ys) :
    Harmless (xs ++ ys) := by
  intro x hx
  rcases List.mem_append.mp hx with hx | hx
  · exact hxs x hx
  · exact hys x hx

/-- Printing sound lines does no harm. -/
theorem harmless_print {ls : List Line} (h : ∀ l ∈ ls, l.sound = true) :
    Harmless (ls.map (Act.print : Line → Act A)) := by
  intro x hx
  obtain ⟨l, hl, rfl⟩ := List.mem_map.mp hx
  exact ⟨rfl, h l hl⟩

theorem harmless_print_plain {ls : List Line} (h : ∀ l ∈ ls, l.plain = true) :
    Harmless (ls.map (Act.print : Line → Act A)) :=
  harmless_print fun l hl => Line.sound_of_plain (h l hl)

theorem plain_consoleShow (logMask : BitVec 32) (r : Report) :
    ∀ l ∈ consoleShow logMask r, l.plain = true := by
  intro l hl
  cases r with
  | event e =>
      rw [List.mem_singleton.mp hl]
      rfl
  | errEvent testId eventType =>
      rw [consoleShow] at hl
      split at hl
      · exact absurd hl List.not_mem_nil
      · rw [List.mem_singleton.mp hl]
        rfl
  | errEventMsg testId eventType file line =>
      rw [consoleShow] at hl
      split at hl
      · exact absurd hl List.not_mem_nil
      · rw [List.mem_singleton.mp hl]
        rfl

theorem plain_consoleShowresult (logMask testId : BitVec 32) (r : TestResultTypes) :
    ∀ l ∈ consoleShowresult logMask testId r, l.plain = true := by
  intro l hl
  unfold consoleShowresult at hl
  split at hl
  · exact absurd hl List.not_mem_nil
  · rw [List.mem_singleton.mp hl]
    rfl

/-- What a test reports while it runs does no harm. -/
theorem harmless_testReports (logMask : BitVec 32) (reports : List Report) :
    Harmless (reports.flatMap fun r =>
      (Act.testReport r : Act A) :: (consoleShow logMask r).map .print) := by
  intro x hx
  obtain ⟨r, -, hx⟩ := List.mem_flatMap.mp hx
  exact harmless_cons rfl rfl (harmless_print_plain (plain_consoleShow logMask r)) x hx

/-! ## Moves -/

/-- A quiet move. -/
structure Quiet (a b : Session B A D) : Prop where
  status_eq : b.status = a.status
  dev_eq : b.dev = a.dev
  curTestId : b.log.curTestId = a.log.curTestId ∨ b.log.curTestId = 0
  trace_eq : ∃ xs, b.trace = a.trace ++ xs ∧ Harmless xs

namespace Quiet

variable {a b c : Session B A D}

theorem refl (a : Session B A D) : Quiet a a :=
  ⟨rfl, rfl, .inl rfl, [], (List.append_nil _).symm, harmless_nil⟩

theorem trans (hab : Quiet a b) (hbc : Quiet b c) : Quiet a c := by
  obtain ⟨xs, hxs, hharm⟩ := hab.trace_eq
  obtain ⟨ys, hys, hharm'⟩ := hbc.trace_eq
  refine ⟨hbc.status_eq.trans hab.status_eq, hbc.dev_eq.trans hab.dev_eq, ?_, xs ++ ys, ?_,
    hharm.append hharm'⟩
  · rcases hbc.curTestId with h | h
    · rw [h]
      exact hab.curTestId
    · exact .inr h
  · rw [hys, hxs, List.append_assoc]

theorem emit (a : Session B A D) {xs : List (Act A)} (h : Harmless xs) : Quiet a (a.emit xs) :=
  ⟨rfl, rfl, .inl rfl, xs, rfl, h⟩

theorem print (a : Session B A D) {ls : List Line} (h : ∀ l ∈ ls, l.sound = true) :
    Quiet a (a.print ls) :=
  .emit a (harmless_print h)

theorem asserted (a : Session B A D) (line : ℕ) :
    Quiet a (a.reported (.errEventMsg 0 .assert .processDiagtestCmds line)) :=
  .emit a (harmless_cons rfl rfl (harmless_print_plain (plain_consoleShow _ _)))

theorem resultReported (a : Session B A D) (testId : BitVec 32) (r : TestResultTypes) :
    Quiet a (a.resultReported testId r) :=
  ⟨rfl, rfl, .inr rfl, _, rfl,
    harmless_cons rfl rfl (harmless_print_plain (plain_consoleShowresult _ _ _))⟩

theorem logged (a : Session B A D) (logLevel : BitVec 32) : Quiet a (a.logged logLevel) :=
  ⟨rfl, rfl, .inl rfl, [], (List.append_nil _).symm, harmless_nil⟩

end Quiet

namespace Session

/-- A call of the function `f` of the test `r` registered at index `i`, without
what is printed before it and reported after it. -/
def booked (a : Session B A D) (i : ℕ) (r : Registration A D) (f : TestFunction A D) :
    Session B A D :=
  let out := f r.hash r.testArgs a.log.curTestId a.dev
  { a with
    status := Function.update a.status i ((a.status i).afterCall out.1)
    dev := out.2.2
    trace := a.trace ++ [.call ⟨i, r.hash, r.testArgs, out.1⟩] }

end Session

/-- What a session can do in one step. -/
inductive Move (R : Registry A D) : Session B A D → Session B A D → Prop
  | quiet {a b : Session B A D} (h : Quiet a b) : Move R a b
  /-- A batch begins. -/
  | batch (a : Session B A D) : Move R a (a.emit [.batch]).clearFailures
  /-- A registered test is called. -/
  | call (a : Session B A D) {i : ℕ} {r : Registration A D} {f : TestFunction A D}
      (hr : (R.suite B)[i]? = some r) (hf : r.testFunction = some f) :
      Move R a (a.booked i r f)

/-- What a session can do in any number of steps. -/
abbrev Moves (R : Registry A D) : Session B A D → Session B A D → Prop :=
  ReflTransGen (Move R)

/-! ## Commands are moves -/

theorem lookup_of_mem {suite : List (Registration A D)} {testId : BitVec 32}
    (h : testId ∈ hashes suite) :
    ∃ i r, lookup suite testId = some (i, r) ∧ suite[i]? = some r ∧ r.hash = testId := by
  obtain ⟨r, hr, hhash⟩ := List.mem_map.mp h
  cases hloc : locate suite testId with
  | none =>
      have hnone := List.findIdx?_eq_none_iff.mp hloc r hr
      exact absurd hhash (of_decide_eq_false hnone)
  | some i =>
      obtain ⟨hi, hid, -⟩ := locate_eq_some_iff.mp hloc
      exact ⟨i, suite[i], lookup_of_locate_some hloc hi, List.getElem?_eq_getElem hi, hid⟩

theorem mem_hashes_of_mem_ids_allTests {R : Registry A D} {testId : BitVec 32}
    (h : testId ∈ (R.allTests B).ids) : testId ∈ hashes (R.suite B) := by
  rw [R.ids_allTests] at h
  exact List.mem_of_mem_take h

theorem mem_hashes_of_mem_ids_allOptions {R : Registry A D} (loopCnt : BitVec 32) :
    ∀ testId ∈ (R.allOptions B loopCnt).ids, testId ∈ hashes (R.suite B) :=
  fun _ h => mem_hashes_of_mem_ids_allTests h

theorem mem_hashes_of_mem_ids_singleOptions {R : Registry A D} {id testId : BitVec 32} {k : ℕ}
    (hget : (R.allTests B).ids[k]? = some testId) (h : id ∈ (singleOptions testId).ids) :
    id ∈ hashes (R.suite B) := by
  rw [ids_singleOptions] at h
  rw [List.mem_singleton.mp h]
  exact mem_hashes_of_mem_ids_allTests (List.mem_of_getElem? hget)

theorem plain_flagLines (options : TestList) (showFlags : Bool) :
    ∀ l ∈ flagLines options showFlags, l.plain = true := by
  intro l hl
  rcases List.mem_append.mp hl with hl | hl
  · split at hl
    · rw [List.mem_singleton.mp hl]
      rfl
    · exact absurd hl List.not_mem_nil
  · split at hl
    · rw [List.mem_singleton.mp hl]
      rfl
    · exact absurd hl List.not_mem_nil

theorem plain_sameTestIdLines (suite : List (Registration A D)) (testId : BitVec 32) :
    ∀ l ∈ sameTestIdLines suite testId, l.plain = true := by
  intro l hl
  obtain ⟨r, -, rfl⟩ := List.mem_map.mp hl
  rfl

/-- Listing the id of a registered test finds it. -/
theorem plain_listedLines {suite : List (Registration A D)} {testId : BitVec 32}
    (h : testId ∈ hashes suite) (showIndex : Bool) (j : ℕ) :
    ∀ l ∈ listedLines suite showIndex j testId, l.plain = true := by
  obtain ⟨i, r, hlookup, -, -⟩ := lookup_of_mem h
  intro l hl
  unfold listedLines at hl
  rw [hlookup] at hl
  rcases List.mem_append.mp hl with hl | hl
  · split at hl
    · rw [List.mem_singleton.mp hl]
      rfl
    · exact absurd hl List.not_mem_nil
  · rcases List.mem_cons.mp hl with rfl | hl
    · rfl
    · exact plain_sameTestIdLines suite testId l hl

/-- Listing the ids of registered tests finds them. -/
theorem plain_listLines {suite : List (Registration A D)} {options : TestList}
    (h : ∀ testId ∈ options.ids, testId ∈ hashes suite) (showIndex showFlags : Bool) :
    ∀ l ∈ listLines suite options showIndex showFlags, l.plain = true := by
  intro l hl
  rcases List.mem_append.mp hl with hl | hl
  · exact plain_flagLines options showFlags l hl
  · obtain ⟨ls, hls, hl⟩ := List.mem_flatten.mp hl
    obtain ⟨j, hj, rfl⟩ := List.mem_mapIdx.mp hls
    exact plain_listedLines (h _ (List.getElem_mem hj)) showIndex j l hl

theorem sound_reportLines (logLevel : BitVec 32) (r : Registration A D) (testId : BitVec 32)
    (st : Status B.ulong) : ∀ l ∈ reportLines logLevel r testId st, l.sound = true := by
  intro l hl
  unfold reportLines at hl
  split at hl
  · exact absurd hl List.not_mem_nil
  · rcases List.mem_cons.mp hl with rfl | hl
    · rfl
    · rw [List.mem_singleton.mp hl]
      rfl

namespace Session

variable {R : Registry A D} (a : Session B A D)

/-- A call is an announcement, the call itself, and what is reported after it. -/
theorem invoke_eq (i : ℕ) (r : Registration A D) (f : TestFunction A D) :
    (a.invoke i r f r.hash).2 =
      (((a.print [.test r.hash r.description r.name]).booked i r f).emit
        ((f r.hash r.testArgs a.log.curTestId a.dev).2.1.flatMap fun rep =>
          .testReport rep :: (consoleShow a.log.logMask rep).map .print)).resultReported
        r.hash (f r.hash r.testArgs a.log.curTestId a.dev).1 := by
  simp [invoke, booked, emit, print, Session.resultReported, callActs]

theorem moves_invoke {i : ℕ} {r : Registration A D} {f : TestFunction A D}
    (hr : (R.suite B)[i]? = some r) (hf : r.testFunction = some f) :
    Moves R a (a.invoke i r f r.hash).2 := by
  have hbefore : Quiet a (a.print [.test r.hash r.description r.name]) :=
    .print a fun l hl => by
      rw [List.mem_singleton.mp hl]
      rfl
  rw [invoke_eq]
  refine .head (.quiet hbefore) (.head (.call _ hr hf) (.single (.quiet ?_)))
  exact Quiet.trans (.emit _ (harmless_testReports _ _)) (.resultReported _ _ _)

/-- `RunDeviceTest` on the id of a registered test. -/
theorem moves_runTest {testId : BitVec 32} (h : testId ∈ hashes (R.suite B)) :
    Moves R a (a.runTest R testId).2 := by
  obtain ⟨i, r, hlookup, hr, rfl⟩ := lookup_of_mem h
  unfold runTest
  rw [hlookup]
  cases hf : r.testFunction with
  | none =>
      simp only [hf]
      exact .single (.quiet ((Quiet.asserted a 265).trans (.resultReported _ _ _)))
  | some f =>
      simp only [hf]
      exact a.moves_invoke hr hf

theorem moves_batch {options : TestList} (h : ∀ testId ∈ options.ids, testId ∈ hashes (R.suite B))
    (k : ℕ) : Moves R a (a.batch R options k).2 := by
  have hloops : Moves R (a.begun options.logLevel) (a.batch R options k).2 :=
    reflTransGen_passes (fun testId hid b => b.moves_runTest (h testId hid)) k _
  exact .head (.quiet (.logged a options.logLevel)) (.head (.batch _) hloops)

theorem moves_executed {options : TestList}
    (h : ∀ testId ∈ options.ids, testId ∈ hashes (R.suite B)) (fuel : ℕ) :
    Moves R a (a.executed R options fuel).2 := by
  unfold executed
  split
  · exact .single (.quiet ((Quiet.logged a _).trans (.asserted _ _)))
  · split
    · exact .single (.quiet ((Quiet.logged a _).trans (.asserted _ _)))
    · exact a.moves_batch h _

/-- Listing registered tests does no harm. -/
theorem quiet_listed {options : TestList}
    (h : ∀ testId ∈ options.ids, testId ∈ hashes (R.suite B)) (showIndex showFlags : Bool) :
    Quiet a (a.listed R options showIndex showFlags) := by
  unfold listed
  split
  · exact .asserted a _
  · split
    · exact .asserted a _
    · exact .emit a (harmless_print_plain (plain_listLines h showIndex showFlags))

/-- Reporting on registered tests does no harm. -/
theorem quiet_resulted {options : TestList}
    (h : ∀ testId ∈ options.ids, testId ∈ hashes (R.suite B)) :
    Quiet a (a.resulted R options) := by
  have hlines : ∀ l ∈ (options.ids.map (a.resultLines R options.logLevel)).flatten,
      l.sound = true := by
    intro l hl
    obtain ⟨ls, hls, hl⟩ := List.mem_flatten.mp hl
    obtain ⟨testId, hid, rfl⟩ := List.mem_map.mp hls
    obtain ⟨i, r, hlookup, -, -⟩ := lookup_of_mem (h testId hid)
    unfold resultLines at hl
    rw [hlookup] at hl
    exact sound_reportLines _ _ _ _ l hl
  unfold resulted
  split
  · exact .asserted a _
  · split
    · exact .asserted a _
    · exact .print a hlines

theorem quiet_asked : Quiet a (a.asked R) := by
  unfold asked
  split
  · exact .refl a
  · exact .asserted a _

/-- Printing one sound line. -/
theorem quiet_printLine {l : Line} (h : l.sound = true) : Quiet a (a.print [l]) :=
  .print a fun l' hl' => by
    rw [List.mem_singleton.mp hl']
    exact h

/-- `list` is a quiet move. -/
theorem quiet_showList : Quiet a (a.showList R) :=
  ((a.quiet_printLine rfl).trans (quiet_asked _)).trans
    (quiet_listed _ (fun _ hid => mem_hashes_of_mem_ids_allTests hid) true false)

theorem moves_conducted {options : TestList}
    (h : ∀ testId ∈ options.ids, testId ∈ hashes (R.suite B)) (fuel : ℕ) :
    Moves R a (a.conducted R options fuel).2 := by
  unfold conducted
  split
  · exact (a.moves_executed h fuel).tail
      (.quiet ((quiet_printLine _ rfl).trans (quiet_resulted _ h)))
  · exact a.moves_executed h fuel

theorem quiet_announcedAll (loopCnt : BitVec 32) : Quiet a (a.announcedAll R loopCnt) := by
  have hlisted := (a.asked R).quiet_listed
    (mem_hashes_of_mem_ids_allOptions (R := R) loopCnt) true true
  exact (a.quiet_asked.trans hlisted).trans (quiet_printLine _ rfl)

theorem quiet_announcedOne {testId : BitVec 32} {k : ℕ}
    (hget : (R.allTests B).ids[k]? = some testId) : Quiet a (a.announcedOne R testId) := by
  have hlisted := ((a.asked R).print [.runTheFollowingTests]).quiet_listed
    (fun _ hid => mem_hashes_of_mem_ids_singleOptions hget hid) false true
  exact ((a.quiet_asked.trans (quiet_printLine _ rfl)).trans hlisted).trans
    (quiet_printLine _ rfl)

theorem moves_ranAll (loopCnt : BitVec 32) (fuel : ℕ) :
    Moves R a (a.ranAll R loopCnt fuel).2 :=
  .head (.quiet (a.quiet_announcedAll loopCnt))
    (moves_conducted _ (mem_hashes_of_mem_ids_allOptions loopCnt) fuel)

theorem moves_ranOne (testIndex : BitVec 32) (fuel : ℕ) :
    Moves R a (a.ranOne R testIndex fuel).2 := by
  unfold ranOne
  split
  · next testId hget =>
      exact .head (.quiet (a.quiet_announcedOne hget))
        (moves_conducted _ (fun _ hid => mem_hashes_of_mem_ids_singleOptions hget hid) fuel)
  · exact .single (.quiet (a.quiet_asked.trans (quiet_printLine _ rfl)))

/-- **Every command is a sequence of moves**, whether it returns or is cut off. -/
theorem moves_perform (fuel : ℕ) (cmd : Command) : Moves R a (perform R fuel cmd a).2 := by
  cases cmd with
  | missing => exact .refl
  | invalid arg => exact .single (.quiet (a.quiet_printLine rfl))
  | list => exact .single (.quiet a.quiet_showList)
  | runAll loopCnt => exact a.moves_ranAll loopCnt fuel
  | run testIndex => exact a.moves_ranOne testIndex fuel
  | runUsage => exact .refl

theorem moves_command (fuel : ℕ) (argv : List CString) :
    Moves R a (a.command R fuel argv).2 :=
  .head (.quiet (a.quiet_printLine rfl)) (moves_perform _ fuel (parse argv))

end Session

end BoardDiag
