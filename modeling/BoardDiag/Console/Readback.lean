import BoardDiag.Console.Render
import BoardDiag.History.Reachable

/-!
# The console is a record of the session

What a session does is its trace: the tests it calls, what they report, what it reports
itself, and what it prints.  Somebody who sits at the serial console has the text and
nothing else.  The framework prints a line for each report, but it prints other lines as
well, the tests print what they like between them, and the listings print half a line at a
time.

`console` is the text of a trace.  `Transcript` says what the trace of a session looks
like: the line of a report stands behind the report, and the other lines are complete and
are not lines of the event log.  Every command appends a transcript, whatever the tests do
and whether the command returns or not (`Session.Legible.command`), because the log mask of
a command is always the full one.  So the reports and the results can be read back from
the text, all of them and in order (`readLog_console_afterScript`).

The tests may print complete lines of their own, as long as these are not lines of the
event log (`Tame`).
-/

namespace BoardDiag

open Machine Relation

variable {B : Build} {A D : Type}

/-! ## The text of a trace -/

/-- The entry of the event log that belongs to an act. -/
def Report.entry : Report → LogEntry
  | .event e => .evt e.objectId e.eventType
  | .errEvent testId eventType => .err testId eventType
  | .errEventMsg testId eventType _ _ => .emg testId eventType

/-- What an act puts on record. -/
def Act.entry : Act A → Option LogEntry
  | .report r | .testReport r => some r.entry
  | .result testId r => some (.res testId r)
  | .print _ | .call _ | .batch => none

section Console

variable (cfg : ConsoleConfig)

/-- The text of a trace.  A test may print before each of its reports and before it
returns: `chatter` is what the tests print on these occasions, one after another. -/
def console : (ℕ → List (List Byte)) → List (Act A) → List Byte
  | _, [] => []
  | chatter, .print l :: xs => l.text cfg ++ console chatter xs
  | chatter, .testReport _ :: xs => joined (chatter 0) ++ console (fun n => chatter (n + 1)) xs
  | chatter, .result _ _ :: xs => joined (chatter 0) ++ console (fun n => chatter (n + 1)) xs
  | chatter, .report _ :: xs | chatter, .call _ :: xs | chatter, .batch :: xs =>
      console chatter xs

/-- The tests print complete lines that are not lines of the event log. -/
def Tame (chatter : ℕ → List (List Byte)) : Prop :=
  ∀ n, ∀ row ∈ chatter n, lineFeed ∉ row ∧ readLog row = none

theorem Tame.tail {chatter : ℕ → List (List Byte)} (h : Tame chatter) :
    Tame fun n => chatter (n + 1) := fun n => h (n + 1)

/-- The event log in a text. -/
def logOf (text : List Byte) : List LogEntry := found readLog text

/-- What the tests print does not matter. -/
theorem Tame.logOf_append {chatter : ℕ → List (List Byte)} (h : Tame chatter) (n : ℕ)
    (rest : List Byte) : logOf (joined (chatter n) ++ rest) = logOf rest := by
  have hnone : (chatter n).filterMap readLog = [] :=
    List.filterMap_eq_nil_iff.mpr fun row hrow => (h n row hrow).2
  rw [logOf, found_joined_append _ (fun row hrow => (h n row hrow).1), hnone, List.nil_append,
    logOf]

/-! ## Transcripts -/

/-- A line that is complete, has no line breaks but its own, and is printed as it is. -/
structure Line.Whole (l : Line) : Prop where
  clean : lineFeed ∉ l.strings cfg.file
  fits : l.Fits cfg
  stub_eq : l.stub = []

variable {cfg}

theorem Line.Whole.text_eq {l : Line} (h : l.Whole cfg) :
    l.text cfg = joined (l.rows cfg.file) := by
  rw [h.fits.text_eq, h.stub_eq, List.append_nil]

theorem Line.whole {l : Line} (hnumbers : Narrow l.numbers) (h : cfg.Prints (l.strings cfg.file))
    (hstub : l.stub = []) : l.Whole cfg := ⟨h.clean, Line.fits hnumbers h, hstub⟩

/-- A reader finds in a complete line what is in its rows. -/
theorem Line.Whole.found_append {α : Type} (read : List Byte → Option α) {l : Line}
    (h : l.Whole cfg) (rest : List Byte) :
    found read (l.text cfg ++ rest) = (l.rows cfg.file).filterMap read ++ found read rest := by
  rw [h.text_eq, found_joined_append read (Line.lineFeed_notMem h.clean)]

theorem Line.Whole.logOf_append {l : Line} (h : l.Whole cfg) (rest : List Byte) :
    logOf (l.text cfg ++ rest) = l.logged ++ logOf rest := by
  rw [logOf, h.found_append, filterMap_readLog_rows, logOf]

/-- A number and the rest of the line are one row. -/
theorem Line.Whole.found_numbered {α : Type} (read : List Byte → Option α) {l : Line}
    (h : l.Whole cfg) {row : List Byte} (hrow : l.rows cfg.file = [row]) {i : ℤ}
    (hi : (Line.index i).Fits cfg) (rest : List Byte) :
    found read ((Line.index i).text cfg ++ (l.text cfg ++ rest)) =
      (read (padLeft 4 (signedDecimal i) ++ chars " -- " ++ row)).toList ++ found read rest := by
  have hlf : lineFeed ∉ row :=
    Line.lineFeed_notMem h.clean row (by rw [hrow]; exact List.mem_singleton_self _)
  have hnumber : lineFeed ∉ padLeft 4 (signedDecimal i) ++ chars " -- " := by
    rw [padLeft, List.mem_append, List.mem_append, not_or, not_or]
    refine ⟨⟨fun hmem => ?_, lineFeed_notMem_signedDecimal i⟩, by decide⟩
    exact absurd (List.eq_of_mem_replicate hmem) (by decide)
  have htext : (Line.index i).text cfg ++ (l.text cfg ++ rest) =
      (padLeft 4 (signedDecimal i) ++ chars " -- " ++ row) ++ lineFeed :: rest := by
    rw [h.text_eq, hrow, joined_cons, hi.text_eq, Line.stub, Line.rows]
    simp [joined]
  rw [htext, found_append_lineFeed]
  rw [List.mem_append, not_or]
  exact ⟨hnumber, hlf⟩

variable (cfg)

/-- A complete line that is not in the event log. -/
structure Line.Remark (l : Line) : Prop extends l.Whole cfg where
  logged_eq : l.logged = []

/-- The line that belongs to a report. -/
def Report.line : Report → Line
  | .event e => .evt e
  | .errEvent testId eventType => .err testId eventType
  | .errEventMsg testId eventType file line => .emg testId eventType file line

/-- The text a report comes with has no line breaks in it and leaves room for the rest. -/
structure Report.Clean (r : Report) : Prop where
  narrow : Narrow r.line.numbers
  prints : cfg.Prints (r.line.strings cfg.file)

/-- What the trace of a session looks like. -/
inductive Transcript : List (Act A) → Prop
  | nil : Transcript []
  | batch {xs : List (Act A)} (hxs : Transcript xs) : Transcript (.batch :: xs)
  | call (c : Call A) {xs : List (Act A)} (hxs : Transcript xs) : Transcript (.call c :: xs)
  | remark {l : Line} (hl : l.Remark cfg) {xs : List (Act A)} (hxs : Transcript xs) :
      Transcript (.print l :: xs)
  /-- A number, and the rest of the line. -/
  | numbered {i : ℤ} (hi : (Line.index i).Fits cfg) {l : Line} (hl : l.Remark cfg)
      {row : List Byte} (hrow : l.rows cfg.file = [row]) {xs : List (Act A)} (hxs : Transcript xs) :
      Transcript (.print (.index i) :: .print l :: xs)
  | report {r : Report} (hr : r.Clean cfg) {xs : List (Act A)} (hxs : Transcript xs) :
      Transcript (.report r :: .print r.line :: xs)
  | testReport {r : Report} (hr : r.Clean cfg) {xs : List (Act A)} (hxs : Transcript xs) :
      Transcript (.testReport r :: .print r.line :: xs)
  | result {testId : BitVec 32} {r : TestResultTypes} (hr : (Line.res testId r).Whole cfg)
      {xs : List (Act A)} (hxs : Transcript xs) :
      Transcript (.result testId r :: .print (.res testId r) :: xs)

end Console

section Transcript

variable {cfg : ConsoleConfig} {xs ys : List (Act A)}

theorem Report.stub_line (r : Report) : r.line.stub = [] := by
  cases r <;> rfl

theorem Report.logged_line (r : Report) : r.line.logged = [r.entry] := by
  cases r <;> rfl

theorem Report.Clean.logOf_append {r : Report} (h : r.Clean cfg) (rest : List Byte) :
    logOf (r.line.text cfg ++ rest) = r.entry :: logOf rest := by
  rw [(Line.whole h.narrow h.prints r.stub_line).logOf_append, r.logged_line]
  rfl

/-- The number in front of a line does not make it a line of the event log. -/
theorem Line.Remark.logOf_numbered {l : Line} (h : l.Remark cfg) {row : List Byte}
    (hrow : l.rows cfg.file = [row]) {i : ℤ} (hi : (Line.index i).Fits cfg) (rest : List Byte) :
    logOf ((Line.index i).text cfg ++ (l.text cfg ++ rest)) = logOf rest := by
  rw [logOf, h.found_numbered readLog hrow hi, readLog_index_append]
  rfl

/-- **A transcript is read back**: the reader finds what was put on record. -/
theorem Transcript.logOf_console (h : Transcript cfg xs) {chatter : ℕ → List (List Byte)}
    (hchatter : Tame chatter) :
    logOf (console cfg chatter xs) = xs.filterMap Act.entry := by
  induction h generalizing chatter with
  | nil => rfl
  | batch _ ih => exact ih hchatter
  | call c _ ih => exact ih hchatter
  | remark hl _ ih =>
      rw [console, hl.logOf_append, hl.logged_eq, List.nil_append, ih hchatter]
      rfl
  | numbered hi hl hrow _ ih =>
      rw [console, console, hl.logOf_numbered hrow hi, ih hchatter]
      rfl
  | report hr _ ih =>
      rw [console, console, hr.logOf_append, ih hchatter]
      rfl
  | testReport hr _ ih =>
      rw [console, hchatter.logOf_append, console, hr.logOf_append, ih hchatter.tail]
      rfl
  | result hr _ ih =>
      rw [console, hchatter.logOf_append, console, hr.logOf_append, ih hchatter.tail]
      rfl

theorem Transcript.append (hxs : Transcript cfg xs) (hys : Transcript cfg ys) :
    Transcript cfg (xs ++ ys) := by
  induction hxs with
  | nil => exact hys
  | batch _ ih => exact .batch ih
  | call c _ ih => exact .call c ih
  | remark hl _ ih => exact .remark hl ih
  | numbered hi hl hrow _ ih => exact .numbered hi hl hrow ih
  | report hr _ ih => exact .report hr ih
  | testReport hr _ ih => exact .testReport hr ih
  | result hr _ ih => exact .result hr ih

theorem transcript_print {ls : List Line} (h : ∀ l ∈ ls, l.Remark cfg) :
    Transcript cfg (ls.map (Act.print : Line → Act A)) := by
  induction ls with
  | nil => exact .nil
  | cons l ls ih =>
      exact .remark (h l List.mem_cons_self) (ih fun l' hl' => h l' (List.mem_cons_of_mem _ hl'))

theorem transcript_flatMap {α : Type} {f : α → List (Act A)} {l : List α}
    (h : ∀ x ∈ l, Transcript cfg (f x)) : Transcript cfg (l.flatMap f) := by
  induction l with
  | nil => exact .nil
  | cons x l ih =>
      rw [List.flatMap_cons]
      exact (h x List.mem_cons_self).append (ih fun y hy => h y (List.mem_cons_of_mem _ hy))

end Transcript

/-! ## Results and calls -/

/-- The result an act reports for a test. -/
def Act.outcome (testId : BitVec 32) : Act A → Option TestResultTypes
  | .result id r => if id = testId then some r else none
  | _ => none

/-- The results reported for a test, in order. -/
def outcomes (testId : BitVec 32) (xs : List (Act A)) : List TestResultTypes :=
  xs.filterMap (Act.outcome testId)

/-- A test that can be called: it has a function, and no test before it has its id. -/
def Registry.Callable (R : Registry A D) (B : Build) (i : ℕ) (r : Registration A D) : Prop :=
  lookup (R.suite B) r.hash = some (i, r) ∧ r.testFunction ≠ none

theorem getElem?_of_lookup {suite : List (Registration A D)} {testId : BitVec 32} {i : ℕ}
    {r : Registration A D} (h : lookup suite testId = some (i, r)) :
    suite[i]? = some r ∧ r.hash = testId := by
  obtain ⟨j, hloc, hget⟩ := Option.bind_eq_some_iff.mp h
  obtain ⟨r', hr', hsame⟩ := Option.map_eq_some_iff.mp hget
  obtain ⟨rfl, rfl⟩ := Prod.mk.inj hsame
  obtain ⟨hj, hid, -⟩ := locate_eq_some_iff.mp hloc
  rw [List.getElem?_eq_getElem hj, Option.some_inj] at hr'
  exact ⟨by rw [List.getElem?_eq_getElem hj, hr'], by rw [← hr', hid]⟩

theorem mem_of_lookup {suite : List (Registration A D)} {testId : BitVec 32} {i : ℕ}
    {r : Registration A D} (h : lookup suite testId = some (i, r)) : r ∈ suite :=
  List.mem_of_getElem? (getElem?_of_lookup h).1

/-- The results that are reported for a test are the results of its calls. -/
def Tallied (R : Registry A D) (B : Build) (xs : List (Act A)) : Prop :=
  ∀ i r, R.Callable B i r → outcomes r.hash xs = resultsOf i xs

section Tallied

variable {R : Registry A D} {xs ys : List (Act A)}

theorem outcomes_append (testId : BitVec 32) (xs ys : List (Act A)) :
    outcomes testId (xs ++ ys) = outcomes testId xs ++ outcomes testId ys :=
  List.filterMap_append ..

theorem Tallied.append (hxs : Tallied R B xs) (hys : Tallied R B ys) :
    Tallied R B (xs ++ ys) := by
  intro i r hr
  rw [outcomes_append, resultsOf_append, hxs i r hr, hys i r hr]

/-- An act that is neither a call nor a result. -/
def Act.idle : Act A → Bool
  | .call _ | .result _ _ => false
  | .print _ | .report _ | .testReport _ | .batch => true

theorem callsOf_of_idle (h : ∀ x ∈ xs, x.idle = true) : callsOf xs = [] := by
  rw [callsOf, List.filterMap_eq_nil_iff]
  intro x hx
  have hidle := h x hx
  cases x with
  | call c => exact absurd hidle Bool.false_ne_true
  | _ => rfl

theorem outcomes_of_idle (testId : BitVec 32) (h : ∀ x ∈ xs, x.idle = true) :
    outcomes testId xs = [] := by
  rw [outcomes, List.filterMap_eq_nil_iff]
  intro x hx
  have hidle := h x hx
  cases x with
  | result id r => exact absurd hidle Bool.false_ne_true
  | _ => rfl

theorem tallied_of_idle (h : ∀ x ∈ xs, x.idle = true) : Tallied R B xs := by
  intro i r _
  rw [outcomes_of_idle _ h, resultsOf, callsOf_of_idle h]
  rfl

theorem idle_of_mem_print {ls : List Line} :
    ∀ x ∈ ls.map (Act.print : Line → Act A), x.idle = true := by
  intro x hx
  obtain ⟨l, -, rfl⟩ := List.mem_map.mp hx
  rfl

theorem idle_of_mem_testReports {logMask : BitVec 32} {reports : List Report} :
    ∀ x ∈ reports.flatMap fun r =>
      (Act.testReport r : Act A) :: (consoleShow logMask r).map .print, x.idle = true := by
  intro x hx
  obtain ⟨r, -, hx⟩ := List.mem_flatMap.mp hx
  rcases List.mem_cons.mp hx with rfl | hx
  · rfl
  · exact idle_of_mem_print x hx

/-- A result that is not the result of a call belongs to no test that can be called. -/
theorem tallied_result {testId : BitVec 32} (h : ∀ i r, R.Callable B i r → r.hash ≠ testId)
    (r : TestResultTypes) (ls : List Line) :
    Tallied R B (.result testId r :: ls.map (Act.print : Line → Act A)) := by
  intro i r' hr'
  have hskip : (Act.result testId r : Act A).outcome r'.hash = none :=
    if_neg (Ne.symm (h i r' hr'))
  have hprint : Tallied R B (ls.map (Act.print : Line → Act A)) := tallied_of_idle idle_of_mem_print
  rw [outcomes, List.filterMap_cons_none hskip]
  exact hprint i r' hr'

/-- A call, what is reported during it, and its result. -/
theorem tallied_call {testId : BitVec 32} {i : ℕ} {r : Registration A D}
    (hlookup : lookup (R.suite B) testId = some (i, r)) (testArgs : A) (res : TestResultTypes)
    {xs : List (Act A)} (hxs : ∀ x ∈ xs, x.idle = true) (ls : List Line) :
    Tallied R B (.call ⟨i, testId, testArgs, res⟩ :: xs ++
      .result testId res :: ls.map (Act.print : Line → Act A)) := by
  intro j r' hr'
  have hcalls : callsOf (.call ⟨i, testId, testArgs, res⟩ :: xs ++
      .result testId res :: ls.map (Act.print : Line → Act A)) = [⟨i, testId, testArgs, res⟩] := by
    rw [callsOf_append]
    show _ :: callsOf xs ++ callsOf (ls.map Act.print) = _
    rw [callsOf_of_idle hxs, callsOf_of_idle idle_of_mem_print]
    rfl
  have hids : outcomes r'.hash (.call ⟨i, testId, testArgs, res⟩ :: xs ++
      .result testId res :: ls.map (Act.print : Line → Act A)) =
        if testId = r'.hash then [res] else [] := by
    rw [outcomes_append]
    show outcomes r'.hash xs ++ _ = _
    rw [outcomes_of_idle _ hxs, List.nil_append]
    by_cases heq : testId = r'.hash
    · have hfound : (Act.result testId res : Act A).outcome r'.hash = some res := if_pos heq
      rw [if_pos heq, outcomes, List.filterMap_cons_some hfound, ← outcomes,
        outcomes_of_idle _ idle_of_mem_print]
    · have hskip : (Act.result testId res : Act A).outcome r'.hash = none := if_neg heq
      rw [if_neg heq, outcomes, List.filterMap_cons_none hskip, ← outcomes,
        outcomes_of_idle _ idle_of_mem_print]
  have hsame : testId = r'.hash ↔ i = j := by
    obtain ⟨hget, hhash⟩ := getElem?_of_lookup hlookup
    obtain ⟨hget', -⟩ := getElem?_of_lookup hr'.1
    constructor
    · intro heq
      rw [heq, hr'.1] at hlookup
      exact (congrArg Prod.fst (Option.some.inj hlookup)).symm
    · rintro rfl
      rw [hget] at hget'
      rw [← hhash, Option.some.inj hget']
  rw [hids, resultsOf, hcalls, resultsIn]
  by_cases hij : i = j
  · rw [if_pos (hsame.mpr hij)]
    simp [hij]
  · rw [if_neg (mt hsame.mp hij)]
    simp [hij]

end Tallied

/-! ## Sessions -/

/-- The strings the framework prints have no line breaks in them and leave room in the buffer:
the names and the descriptions of the tests, the texts of their events, and the names of the
source files. -/
structure Registry.Printable (R : Registry A D) (B : Build) (cfg : ConsoleConfig) : Prop where
  file_prints : ∀ f, cfg.Prints (cfg.file f).bytes
  test_prints : ∀ r ∈ R.suite B, cfg.Prints (r.description.bytes ++ r.name.bytes)
  report_clean : ∀ r ∈ R.suite B, ∀ f, r.testFunction = some f → ∀ testId curTestId dev,
    ∀ rep ∈ (f testId r.testArgs curTestId dev).2.1, rep.Clean cfg

/-- A session that has logged everything so far. -/
structure Session.Legible (R : Registry A D) (cfg : ConsoleConfig) (a : Session B A D) : Prop where
  logMask_eq : a.log.logMask = logMaskAll
  transcript : Transcript cfg a.trace
  tallied : Tallied R B a.trace

theorem consoleShow_logMaskAll (r : Report) : consoleShow logMaskAll r = [r.line] := by
  cases r <;> rfl

theorem consoleShowresult_logMaskAll (testId : BitVec 32) (r : TestResultTypes) :
    consoleShowresult logMaskAll testId r = [.res testId r] := by
  cases r <;> rfl

section Lines

variable {R : Registry A D} {cfg : ConsoleConfig}

/-- A complete line with no strings in it, that is not in the event log. -/
def Line.fixed : Line → Bool
  | .banner | .listAvailableTests _ | .runTheFollowingTests | .outOfRange _ | .newline | .exit
  | .repeatTimes _ | .testNotFound _ | .unknownTest _ | .verdict _ => true
  | _ => false

theorem narrow_nil : Narrow [] := fun _ h => absurd h List.not_mem_nil

theorem narrow_toInt (ws : List (BitVec 32)) : Narrow (ws.map BitVec.toInt) := by
  intro n hn
  obtain ⟨w, -, rfl⟩ := List.mem_map.mp hn
  have hlt := BitVec.toInt_lt (x := w)
  have hle := BitVec.le_toInt (x := w)
  omega

theorem narrow_natCast {n : ℕ} (h : n < 2 ^ 32) : Narrow [(n : ℤ)] := by
  intro m hm
  rw [List.mem_singleton.mp hm]
  exact h

theorem narrow_verdictOf (runCount totalFailCount newFailCount : BitVec 32) :
    Narrow (verdictOf runCount totalFailCount newFailCount).numbers := by
  unfold verdictOf
  split_ifs
  · exact narrow_nil
  · exact narrow_nil
  · exact narrow_nil
  · exact narrow_toInt [runCount]
  · exact narrow_toInt [totalFailCount]
  · exact narrow_toInt [totalFailCount, runCount]
  · exact narrow_toInt [totalFailCount, runCount, newFailCount]
  · exact narrow_toInt [totalFailCount, runCount, newFailCount]

/-- There is room for a line with no strings in it. -/
theorem Registry.Printable.blank (hR : R.Printable B cfg) : cfg.Prints [] :=
  (hR.file_prints .processDiagtestCmds).nil

theorem Registry.Printable.remark_of_fixed (hR : R.Printable B cfg) {l : Line}
    (h : l.fixed = true) (hnumbers : Narrow l.numbers) : l.Remark cfg := by
  cases l with
  | banner | listAvailableTests _ | runTheFollowingTests | outOfRange _ | newline | exit
  | repeatTimes _ | testNotFound _ | unknownTest _ | verdict _ =>
      exact ⟨Line.whole hnumbers hR.blank rfl, rfl⟩
  | _ => exact absurd h Bool.false_ne_true

theorem Registry.Printable.fits_index (hR : R.Printable B cfg) {j : ℕ} (hj : j < 2 ^ 32) :
    (Line.index j).Fits cfg := Line.fits (narrow_natCast hj) hR.blank

theorem Registry.Printable.whole_res (hR : R.Printable B cfg) (testId : BitVec 32)
    (r : TestResultTypes) : (Line.res testId r).Whole cfg := Line.whole narrow_nil hR.blank rfl

theorem Registry.Printable.remark_flagLines (hR : R.Printable B cfg) (options : TestList)
    (showFlags : Bool) : ∀ l ∈ flagLines options showFlags, l.Remark cfg := by
  intro l hl
  rcases List.mem_append.mp hl with hl | hl
  · split at hl
    · rw [List.mem_singleton.mp hl]
      exact hR.remark_of_fixed rfl narrow_nil
    · exact absurd hl List.not_mem_nil
  · split at hl
    · rw [List.mem_singleton.mp hl]
      exact hR.remark_of_fixed rfl (narrow_toInt [options.loopCnt])
    · exact absurd hl List.not_mem_nil

theorem Registry.Printable.remark_sameTestIdLines (hR : R.Printable B cfg) (testId : BitVec 32) :
    ∀ l ∈ sameTestIdLines (R.suite B) testId, l.Remark cfg := by
  intro l hl
  obtain ⟨r, hr, rfl⟩ := List.mem_map.mp hl
  have hprints := hR.test_prints r (List.mem_of_mem_filter (List.mem_of_mem_drop hr))
  exact ⟨Line.whole narrow_nil hprints.right rfl, rfl⟩

theorem Registry.Printable.remark_test (hR : R.Printable B cfg) {r : Registration A D}
    (hr : r ∈ R.suite B) (testId : BitVec 32) :
    (Line.test testId r.description r.name).Remark cfg :=
  ⟨Line.whole narrow_nil (hR.test_prints r hr) rfl, rfl⟩

/-- A line of a listing is complete, with its number or without it. -/
theorem Registry.Printable.transcript_listedLines (hR : R.Printable B cfg) (showIndex : Bool)
    {j : ℕ} (hj : j < 2 ^ 32) (testId : BitVec 32) :
    Transcript cfg
      ((listedLines (R.suite B) showIndex j testId).map (Act.print : Line → Act A)) := by
  -- what follows the number is one row and some complaints
  have hrest : ∀ {l : Line} {row : List Byte} {ls : List Line}, l.Remark cfg →
      l.rows cfg.file = [row] → (∀ l' ∈ ls, l'.Remark cfg) →
      Transcript cfg (((if showIndex then [Line.index j] else []) ++ l :: ls).map
        (Act.print : Line → Act A)) := by
    intro l row ls hl hrow hls
    cases showIndex with
    | false => exact .remark hl (transcript_print hls)
    | true => exact .numbered (hR.fits_index hj) hl hrow (transcript_print hls)
  unfold listedLines
  cases hlookup : lookup (R.suite B) testId with
  | none =>
      exact hrest (hR.remark_of_fixed rfl narrow_nil) rfl fun _ h => absurd h List.not_mem_nil
  | some found =>
      exact hrest (hR.remark_test (mem_of_lookup hlookup) testId) rfl
        (hR.remark_sameTestIdLines testId)

theorem Registry.Printable.transcript_listLines (hR : R.Printable B cfg) (options : TestList)
    (showIndex showFlags : Bool) :
    Transcript cfg
      ((listLines (R.suite B) options showIndex showFlags).map (Act.print : Line → Act A)) := by
  rw [listLines, List.map_append, List.map_flatten]
  refine (transcript_print (hR.remark_flagLines options showFlags)).append ?_
  rw [← List.flatMap_id]
  refine transcript_flatMap fun xs hxs => ?_
  obtain ⟨ls, hls, rfl⟩ := List.mem_map.mp hxs
  obtain ⟨j, hj, rfl⟩ := List.mem_mapIdx.mp hls
  have hcount : options.ids.length ≤ options.testIdCount.toNat := List.length_take_le _ _
  exact hR.transcript_listedLines showIndex
    (hj.trans_le (hcount.trans options.testIdCount.isLt.le)) _

theorem Registry.Printable.remark_reportLines (hR : R.Printable B cfg) {r : Registration A D}
    (hr : r ∈ R.suite B) (logLevel testId : BitVec 32) (st : Status B.ulong) :
    ∀ l ∈ reportLines logLevel r testId st, l.Remark cfg := by
  intro l hl
  unfold reportLines at hl
  split at hl
  · exact absurd hl List.not_mem_nil
  · rcases List.mem_cons.mp hl with rfl | hl
    · exact ⟨Line.whole narrow_nil (hR.test_prints r hr) rfl, rfl⟩
    · rw [List.mem_singleton.mp hl]
      exact hR.remark_of_fixed rfl (narrow_verdictOf _ _ _)

theorem Registry.Printable.remark_resultLines (hR : R.Printable B cfg) (a : Session B A D)
    (logLevel testId : BitVec 32) : ∀ l ∈ a.resultLines R logLevel testId, l.Remark cfg := by
  intro l hl
  unfold Session.resultLines at hl
  split at hl
  · rw [List.mem_singleton.mp hl]
    exact hR.remark_of_fixed rfl narrow_nil
  · next i r hlookup => exact hR.remark_reportLines (mem_of_lookup hlookup) _ _ _ l hl

/-- The argument a command complains about is one of those it was given. -/
theorem mem_of_parse_invalid {argv : List CString} {arg : CString}
    (h : parse argv = .invalid arg) : arg ∈ argv := by
  have hrunAll : ∀ args, parseRunAll args ≠ .invalid arg := by
    intro args
    unfold parseRunAll
    split <;> exact nofun
  have hrun : ∀ args, parseRun args ≠ .invalid arg := by
    intro args
    unfold parseRun
    split <;> exact nofun
  unfold parse at h
  split at h
  · next sub args =>
      split at h
      · exact nomatch h
      · split at h
        · exact absurd h (hrunAll _)
        · split at h
          · exact absurd h (hrun _)
          · injection h with hsub
            rw [← hsub]
            exact List.mem_cons_of_mem _ List.mem_cons_self
  · exact nomatch h

end Lines

namespace Session.Legible

variable {R : Registry A D} {cfg : ConsoleConfig} {a : Session B A D}

theorem start (dev : D) : (Session.start dev : Session B A D).Legible R cfg :=
  ⟨rfl, .nil, fun _ _ _ => rfl⟩

theorem emit (h : a.Legible R cfg) {xs : List (Act A)} (hxs : Transcript cfg xs)
    (hidle : ∀ x ∈ xs, x.idle = true) : (a.emit xs).Legible R cfg :=
  ⟨h.logMask_eq, h.transcript.append hxs, h.tallied.append (tallied_of_idle hidle)⟩

theorem print (h : a.Legible R cfg) {ls : List Line} (hls : ∀ l ∈ ls, l.Remark cfg) :
    (a.print ls).Legible R cfg := h.emit (transcript_print hls) idle_of_mem_print

theorem printLine (h : a.Legible R cfg) {l : Line} (hl : l.Remark cfg) :
    (a.print [l]).Legible R cfg := h.emit (.remark hl .nil) idle_of_mem_print

theorem printFixed (h : a.Legible R cfg) (hR : R.Printable B cfg) (l : Line)
    (hl : l.fixed = true) (hnumbers : Narrow l.numbers) : (a.print [l]).Legible R cfg :=
  h.printLine (hR.remark_of_fixed hl hnumbers)

/-- A report of the framework itself is printed. -/
theorem reported (h : a.Legible R cfg) {r : Report} (hr : r.Clean cfg) :
    (a.reported r).Legible R cfg := by
  rw [Session.reported, h.logMask_eq, consoleShow_logMaskAll]
  refine h.emit (.report hr .nil) fun x hx => ?_
  rcases List.mem_cons.mp hx with rfl | hx
  · rfl
  · exact idle_of_mem_print x hx

theorem asserted (h : a.Legible R cfg) (hR : R.Printable B cfg) {line : ℕ}
    (hline : line < 2 ^ 32) :
    (a.reported (.errEventMsg 0 .assert .processDiagtestCmds line)).Legible R cfg :=
  h.reported ⟨narrow_natCast hline, hR.file_prints _⟩

/-- A result without a call. -/
theorem resultReported (h : a.Legible R cfg) (hR : R.Printable B cfg) {testId : BitVec 32}
    (hid : ∀ i r, R.Callable B i r → r.hash ≠ testId) (r : TestResultTypes) :
    (a.resultReported testId r).Legible R cfg := by
  refine ⟨h.logMask_eq, h.transcript.append ?_, h.tallied.append (tallied_result hid r _)⟩
  rw [h.logMask_eq, consoleShowresult_logMaskAll]
  exact .result (hR.whole_res testId r) .nil

/-- A call: the test is announced, its reports are printed, and so is its result. -/
theorem invoke (h : a.Legible R cfg) (hR : R.Printable B cfg) {testId : BitVec 32} {i : ℕ}
    {r : Registration A D} (hlookup : lookup (R.suite B) testId = some (i, r))
    {f : TestFunction A D} (hf : r.testFunction = some f) :
    (a.invoke i r f testId).2.Legible R cfg := by
  have hr := mem_of_lookup hlookup
  obtain ⟨res, reports, dev, hout⟩ : ∃ res reports dev,
      f testId r.testArgs a.log.curTestId a.dev = (res, reports, dev) := ⟨_, _, _, rfl⟩
  have hclean : ∀ rep ∈ reports, rep.Clean cfg := by
    have hall := hR.report_clean r hr f hf testId a.log.curTestId a.dev
    rwa [hout] at hall
  have hannounced := h.printLine (hR.remark_test hr testId)
  have htrace : (a.invoke i r f testId).2.trace =
      (a.print [.test testId r.description r.name]).trace ++
        (.call ⟨i, testId, r.testArgs, res⟩ ::
          (reports.flatMap fun rep =>
            (Act.testReport rep : Act A) :: (consoleShow a.log.logMask rep).map .print) ++
          .result testId res :: (consoleShowresult a.log.logMask testId res).map .print) := by
    simp [Session.invoke, Session.resultReported, callActs, hout]
  refine ⟨h.logMask_eq, ?_, ?_⟩
  · rw [htrace, h.logMask_eq, consoleShowresult_logMaskAll]
    have hresult : Transcript cfg [(.result testId res : Act A), .print (.res testId res)] :=
      .result (hR.whole_res testId res) .nil
    refine hannounced.transcript.append (.call _ (Transcript.append ?_ hresult))
    refine transcript_flatMap fun rep hrep => ?_
    rw [consoleShow_logMaskAll]
    exact .testReport (hclean rep hrep) .nil
  · rw [htrace]
    exact hannounced.tallied.append (tallied_call hlookup _ res idle_of_mem_testReports _)

theorem runTest (h : a.Legible R cfg) (hR : R.Printable B cfg) (testId : BitVec 32) :
    (a.runTest R testId).2.Legible R cfg := by
  unfold Session.runTest
  cases hlookup : lookup (R.suite B) testId with
  | none =>
      have hreported := h.reported (r := .errEvent testId .testNotFound) ⟨narrow_nil, hR.blank⟩
      refine hreported.resultReported hR ?_ _
      rintro i r ⟨hsome, -⟩ rfl
      exact nomatch hlookup.symm.trans hsome
  | some found =>
      obtain ⟨i, r⟩ := found
      cases hf : r.testFunction with
      | none =>
          simp only [hf]
          have hasserted : (a.reported
              (.errEventMsg 0 .assert .processDiagtestCmds 265)).Legible R cfg :=
            h.asserted hR (by decide)
          refine hasserted.resultReported hR ?_ _
          rintro j r' ⟨hsome, hr'⟩ rfl
          obtain ⟨-, rfl⟩ := Prod.mk.inj (Option.some.inj (hlookup.symm.trans hsome))
          exact hr' hf
      | some f =>
          simp only [hf]
          exact h.invoke hR hlookup hf

/-- The loops of `ExecuteAllTestListed`, under the full log mask. -/
theorem batch (h : a.Legible R cfg) (hR : R.Printable B cfg) {options : TestList}
    (hmask : options.logLevel = logMaskAll) (k : ℕ) :
    (a.batch R options k).2.Legible R cfg := by
  have hbegun : (a.begun options.logLevel).Legible R cfg :=
    ⟨hmask, h.transcript.append (.batch .nil), h.tallied.append fun _ _ _ => rfl⟩
  have hloops : ReflTransGen (fun b c : Session B A D => b.Legible R cfg → c.Legible R cfg)
      (a.begun options.logLevel) (a.batch R options k).2 :=
    reflTransGen_passes (fun testId _ b => .single fun hb => hb.runTest hR testId) k _
  generalize (a.batch R options k).2 = b at hloops ⊢
  induction hloops with
  | refl => exact hbegun
  | tail _ hstep ih => exact hstep ih

theorem executed (h : a.Legible R cfg) (hR : R.Printable B cfg) {options : TestList}
    (hmask : options.logLevel = logMaskAll) (fuel : ℕ) :
    (a.executed R options fuel).2.Legible R cfg := by
  have hlogged : (a.logged options.logLevel).Legible R cfg := ⟨hmask, h.transcript, h.tallied⟩
  unfold Session.executed
  split
  · exact hlogged.asserted hR (by decide)
  · split
    · exact hlogged.asserted hR (by decide)
    · exact h.batch hR hmask _

theorem listed (h : a.Legible R cfg) (hR : R.Printable B cfg) (options : TestList)
    (showIndex showFlags : Bool) : (a.listed R options showIndex showFlags).Legible R cfg := by
  unfold Session.listed
  split
  · exact h.asserted hR (by decide)
  · split
    · exact h.asserted hR (by decide)
    · exact h.emit (hR.transcript_listLines options showIndex showFlags) idle_of_mem_print

theorem resulted (h : a.Legible R cfg) (hR : R.Printable B cfg) (options : TestList) :
    (a.resulted R options).Legible R cfg := by
  unfold Session.resulted
  split
  · exact h.asserted hR (by decide)
  · split
    · exact h.asserted hR (by decide)
    · refine h.print fun l hl => ?_
      obtain ⟨ls, hls, hl⟩ := List.mem_flatten.mp hl
      obtain ⟨testId, -, rfl⟩ := List.mem_map.mp hls
      exact hR.remark_resultLines a _ testId l hl

theorem asked (h : a.Legible R cfg) (hR : R.Printable B cfg) : (a.asked R).Legible R cfg := by
  unfold Session.asked
  split
  · exact h
  · exact h.asserted hR (by decide)

theorem showList (h : a.Legible R cfg) (hR : R.Printable B cfg) : (a.showList R).Legible R cfg :=
  ((h.printFixed hR (.listAvailableTests _) rfl narrow_nil).asked hR).listed hR _ true false

theorem conducted (h : a.Legible R cfg) (hR : R.Printable B cfg) {options : TestList}
    (hmask : options.logLevel = logMaskAll) (fuel : ℕ) :
    (a.conducted R options fuel).2.Legible R cfg := by
  have hexecuted := h.executed hR hmask fuel
  unfold Session.conducted
  split
  · exact (hexecuted.printFixed hR .newline rfl narrow_nil).resulted hR options
  · exact hexecuted

theorem ranAll (h : a.Legible R cfg) (hR : R.Printable B cfg) (loopCnt : BitVec 32) (fuel : ℕ) :
    (a.ranAll R loopCnt fuel).2.Legible R cfg := by
  have hannounced : (a.announcedAll R loopCnt).Legible R cfg :=
    ((h.asked hR).listed hR _ true true).printFixed hR .newline rfl narrow_nil
  exact hannounced.conducted hR rfl fuel

theorem ranOne (h : a.Legible R cfg) (hR : R.Printable B cfg) (testIndex : BitVec 32) (fuel : ℕ) :
    (a.ranOne R testIndex fuel).2.Legible R cfg := by
  unfold Session.ranOne
  split
  · next testId _ =>
      have hannounced : (a.announcedOne R testId).Legible R cfg :=
        (((h.asked hR).printFixed hR .runTheFollowingTests rfl narrow_nil).listed hR _ false
          true).printFixed hR .newline rfl narrow_nil
      exact hannounced.conducted hR rfl fuel
  · exact (h.asked hR).printFixed hR (.outOfRange _) rfl (narrow_toInt [testIndex])

/-- **Every command keeps the record**, whether it returns or is cut off. -/
theorem command (h : a.Legible R cfg) (hR : R.Printable B cfg) (fuel : ℕ) {argv : List CString}
    (hargv : ∀ arg ∈ argv, cfg.Prints arg.bytes) :
    (a.command R fuel argv).2.Legible R cfg := by
  have hbanner : (a.print [.banner]).Legible R cfg := h.printFixed hR .banner rfl narrow_nil
  unfold Session.command
  cases hparse : parse argv with
  | missing => exact hbanner
  | runUsage => exact hbanner
  | invalid arg =>
      have hprints := hargv arg (mem_of_parse_invalid hparse)
      exact hbanner.printLine ⟨Line.whole narrow_nil hprints rfl, rfl⟩
  | list => exact hbanner.showList hR
  | runAll loopCnt => exact hbanner.ranAll hR loopCnt fuel
  | run testIndex => exact hbanner.ranOne hR testIndex fuel

end Session.Legible

/-! ## Scripts -/

section Scripts

variable {R : Registry A D} {cfg : ConsoleConfig}

/-- A script leaves a session that has logged everything and that moves lead to. -/
theorem Embeds.exists_legible_afterScript (hR : R.Printable B cfg) (fuel : ℕ)
    {argvs : List (List CString)} (hargvs : ∀ argv ∈ argvs, ∀ arg ∈ argv, cfg.Prints arg.bytes)
    {s : State B A D} {a : Session B A D} (hemb : Embeds R s a) (ha : a.Legible R cfg) :
    ∃ b : Session B A D, Embeds R (s.afterScript fuel argvs) b ∧ b.Legible R cfg ∧
      Moves R a b := by
  induction argvs generalizing s a with
  | nil => exact ⟨a, hemb, ha, .refl⟩
  | cons argv argvs ih =>
      obtain ⟨s', hemb', hrun⟩ := hemb.run_doBoarddiag fuel argv
      have ha' := ha.command hR fuel (hargvs argv List.mem_cons_self)
      have hmoves := a.moves_command (R := R) fuel argv
      have hargvs' := fun argv' h => hargvs argv' (List.mem_cons_of_mem _ h)
      have hafter : s.afterScript fuel (argv :: argvs) =
          if (a.command R fuel argv).1 then s'.afterScript fuel argvs else s' := by
        rw [State.afterScript, script, EStateM.run_bind, hrun]
        cases (a.command R fuel argv).1 <;> rfl
      rw [hafter]
      split
      · obtain ⟨b, hembb, hb, hmoves'⟩ := ih hargvs' hemb' ha'
        exact ⟨b, hembb, hb, hmoves.trans hmoves'⟩
      · exact ⟨_, hemb', ha', hmoves⟩

/-- **The console is a record of the session.**  Whatever the commands are, whatever the
tests do, and whether the last command returns or is cut off, the lines of the event log that
can be read on the console are the reports and the results there have been, all of them and in
order. -/
theorem readLog_console_afterScript (hR : R.Printable B cfg) (fuel : ℕ)
    {argvs : List (List CString)} (hargvs : ∀ argv ∈ argvs, ∀ arg ∈ argv, cfg.Prints arg.bytes)
    (dev : D) {chatter : ℕ → List (List Byte)} (hchatter : Tame chatter) :
    logOf (console cfg chatter ((State.boot R dev : State B A D).afterScript fuel argvs).trace) =
      ((State.boot R dev : State B A D).afterScript fuel argvs).trace.filterMap Act.entry := by
  obtain ⟨b, hemb, hb, -⟩ := (Embeds.boot R dev).exists_legible_afterScript hR fuel hargvs
    (Session.Legible.start dev)
  rw [hemb.trace_eq]
  exact hb.transcript.logOf_console hchatter

/-- A test that cannot read its device. -/
def unreadable : Registration Unit Unit where
  description := .ofChars ['N']
  name := .ofChars ['n', 'o', 'r']
  testFunction := some fun testId _ _ _ => (.fail, [.errEvent testId .devRead], ())
  testArgs := ()

/-- A board with that test. -/
def unreadableRegistry : Registry Unit Unit where
  tests _ := [unreadable]
  fits _ := by decide

/-- `boarddiag run 0`. -/
def runZero : List CString := [.ofChars ['b', 'd'], wordRun, .ofChars ['0']]

/-- A buffer of 1024 bytes, a prompt and 16 bytes. -/
def boneConsole : ConsoleConfig := ⟨fun _ => .ofChars ['c'], 1044⟩

theorem printable_unreadable : unreadableRegistry.Printable smallBuild boneConsole where
  file_prints _ := show boneConsole.Prints (CString.ofChars ['c']).bytes by decide
  test_prints := by decide
  report_clean := by
    intro r hr f hf testId curTestId dev rep hrep
    obtain rfl := List.mem_singleton.mp hr
    obtain rfl := Option.some.inj hf
    obtain rfl := List.mem_singleton.mp hrep
    exact ⟨narrow_nil, show boneConsole.Prints [] by decide⟩

/-- What a test might print. -/
theorem tame_chatter : Tame fun _ => [chars "            SF: Read"] := by
  intro _ row hrow
  rw [List.mem_singleton.mp hrow]
  decide

/-- The console of that board after two runs. -/
theorem readLog_console_unreadable :
    logOf (console boneConsole (fun _ => [chars "            SF: Read"])
      ((State.boot unreadableRegistry () : State smallBuild Unit Unit).afterScript 4
        [runZero, runZero]).trace) =
      [.err unreadable.hash .devRead,
        .res unreadable.hash .fail,
        .err unreadable.hash .devRead,
        .res unreadable.hash .fail] :=
  (readLog_console_afterScript printable_unreadable 4 (by decide) () tame_chatter).trans
    (by decide +kernel)

/-! ## Counting on the console -/

/-- The result an entry of the event log gives for a test. -/
def LogEntry.outcome (testId : BitVec 32) : LogEntry → Option TestResultTypes
  | .res id r => if id = testId then some r else none
  | _ => none

theorem filterMap_outcome_entry (testId : BitVec 32) (xs : List (Act A)) :
    (xs.filterMap Act.entry).filterMap (LogEntry.outcome testId) = outcomes testId xs := by
  rw [List.filterMap_filterMap, outcomes]
  refine List.filterMap_congr fun x _ => ?_
  cases x with
  | report r => cases r <;> rfl
  | testReport r => cases r <;> rfl
  | _ => rfl

/-- The results a text gives for a test. -/
def resultsOnConsole (testId : BitVec 32) (text : List Byte) : List TestResultTypes :=
  (logOf text).filterMap (LogEntry.outcome testId)

/-- **What the status of a test says can be counted on the console.**  For a test that has a
function and whose id is not the id of a test before it, after any commands: the number of its
runs, the number of those that did not pass and the last result are those of the `Res:` lines
with its id. -/
theorem status_counted_on_console (hR : R.Printable B cfg) (fuel : ℕ)
    {argvs : List (List CString)} (hargvs : ∀ argv ∈ argvs, ∀ arg ∈ argv, cfg.Prints arg.bytes)
    (dev : D) {chatter : ℕ → List (List Byte)} (hchatter : Tame chatter) {i : ℕ}
    {r : Registration A D} (hr : R.Callable B i r) {e : TestParamEntry B A D}
    (he : ((State.boot R dev : State B A D).afterScript fuel argvs).entries[i]? = some e) :
    let results := resultsOnConsole r.hash (console cfg chatter
      ((State.boot R dev : State B A D).afterScript fuel argvs).trace)
    e.status.runCount = BitVec.ofNat B.ulong results.length ∧
      e.status.totalFailCount = BitVec.ofNat B.ulong (failures results) ∧
      e.status.resultFromSingleRun = results.getLast?.getD .notStarted := by
  intro results
  obtain ⟨b, hemb, hb, hmoves⟩ := (Embeds.boot R dev).exists_legible_afterScript hR fuel hargvs
    (Session.Legible.start dev)
  have hcount : results = resultsOf i b.trace := by
    show resultsOnConsole _ _ = _
    rw [resultsOnConsole, hemb.trace_eq, hb.transcript.logOf_console hchatter,
      filterMap_outcome_entry, hb.tallied i r hr]
  rw [(hemb.status_eq he).2, (exact_start dev).moves hmoves i, hcount]
  exact ⟨rfl, rfl, rfl⟩

theorem status_counted_unreadable :
    ∃ e, ((State.boot unreadableRegistry () : State smallBuild Unit Unit).afterScript 4
        [runZero, runZero]).entries[0]? = some e ∧
      e.status.totalFailCount = BitVec.ofNat 32 (failures (resultsOnConsole
        unreadable.hash (console boneConsole
          (fun _ => [chars "            SF: Read"])
          ((State.boot unreadableRegistry () : State smallBuild Unit Unit).afterScript 4
            [runZero, runZero]).trace))) := by
  have hsome : (((State.boot unreadableRegistry () : State smallBuild Unit Unit).afterScript 4
      [runZero, runZero]).entries[0]?).isSome := by decide +kernel
  obtain ⟨e, he⟩ := Option.isSome_iff_exists.mp hsome
  have hfirst : locate (unreadableRegistry.suite smallBuild) unreadable.hash = some 0 := by
    decide +kernel
  have hcallable : unreadableRegistry.Callable smallBuild 0 unreadable :=
    ⟨lookup_of_locate_some hfirst Nat.zero_lt_one, nofun⟩
  exact ⟨e, he, (status_counted_on_console printable_unreadable 4 (by decide) () tame_chatter
    hcallable he).2.1⟩

end Scripts

end BoardDiag
