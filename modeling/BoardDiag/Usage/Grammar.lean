import BoardDiag.History.Bench
import BoardDiag.Usage.CommandLine

/-!
# Which command lines do something

Two questions about a command line that ought to be refused.

*Is everything refused that is not documented?*  No.  `do_boarddiag` looks at the
number of arguments, not at the arguments: it never looks at the word before the
number of rounds, nor at where the reading of a number stopped, nor at whether
the number was too large.  `executes_only_documented_iff` says exactly which
lines the promise holds for.

*Does a refused line leave everything alone?*  Yes: whatever returns
`CMD_RET_USAGE`, every listing, and every command on a list that is empty or too
long, calls no test and changes no status.  The index of `run` is compared after
it has been cut to 32 bits, so a number of `2 ^ 32` or more can come back into
range; `refuses_out_of_range_iff` says when.
-/

namespace BoardDiag

open Machine

variable {B : Build} {A D : Type}

/-! ## Commands that do nothing -/

/-- A command that neither calls a test nor touches a status. -/
def Command.inert (R : Registry A D) (B : Build) : Command → Bool
  | .missing | .invalid _ | .list | .runUsage => true
  | .runAll _ => decide (R.testCount B = 0)
  | .run testIndex => decide (R.testCount B ≤ testIndex.toNat)

theorem Bench.perform_of_inert {R : Registry A D} {cmd : Command}
    (h : cmd.inert R B = true) (b : Bench B A D) (fuel : ℕ) :
    b.perform R fuel cmd = (true, b) := by
  cases cmd with
  | missing => rfl
  | invalid arg => rfl
  | list => rfl
  | runUsage => rfl
  | runAll loopCnt => exact b.perform_runAll_of_eq_zero fuel (of_decide_eq_true h) loopCnt
  | run testIndex =>
      have hout : R.testCount B ≤ testIndex.toNat := of_decide_eq_true h
      refine b.perform_run_of_none fuel (List.getElem?_eq_none ?_)
      rwa [R.length_ids_allTests]

theorem Command.inert_of_ret_eq_usage {R : Registry A D} {cmd : Command}
    (h : cmd.ret R B = .usage) : cmd.inert R B = true := by
  cases cmd with
  | missing => rfl
  | invalid arg => rfl
  | list => rfl
  | runUsage => rfl
  | runAll loopCnt => exact absurd h (by simp [Command.ret])
  | run testIndex =>
      rw [Command.ret] at h
      split at h
      · exact absurd h (by simp)
      · next hout => exact decide_eq_true (Nat.not_lt.mp hout)

/-- On an empty list, and on one that is too long, no command does anything. -/
theorem Command.inert_of_testCount_eq_zero {R : Registry A D} (h : R.testCount B = 0)
    (cmd : Command) : cmd.inert R B = true := by
  cases cmd with
  | missing => rfl
  | invalid arg => rfl
  | list => rfl
  | runUsage => rfl
  | runAll loopCnt => exact decide_eq_true h
  | run testIndex => exact decide_eq_true (by omega)

/-- What it is for a command to leave the tests alone: no test has been called
and no status has changed. -/
def Untouched (s s' : State B A D) : Prop :=
  callsOf s'.trace = callsOf s.trace ∧
    s'.entries.map TestParamEntry.status = s.entries.map TestParamEntry.status

theorem Embeds.entries_status {R : Registry A D} {s : State B A D} {a : Session B A D}
    (h : Embeds R s a) :
    s.entries.map TestParamEntry.status = (R.suite B).mapIdx fun i _ => a.bench.status i := by
  have hmap := congrArg (List.map Prod.snd) h.entries_eq
  rw [List.map_map] at hmap
  refine hmap.trans (List.ext_getElem ?_ fun i h₁ h₂ => ?_)
  · simp
  · simp [Session.bench]

/-- States with the same bench differ in nothing that matters to the tests. -/
theorem untouched_of_bench_eq {R : Registry A D} {s s' : State B A D} {a a' : Session B A D}
    (h : Embeds R s a) (h' : Embeds R s' a') (hbench : a'.bench = a.bench) :
    Untouched s s' := by
  refine ⟨?_, ?_⟩
  · rw [h.calls_eq, h'.calls_eq, hbench]
  · rw [h.entries_status, h'.entries_status, hbench]

/-- **An inert command returns and leaves the tests alone**, on any amount of
fuel. -/
theorem Reachable.run_of_inert {R : Registry A D} {dev : D} {s : State B A D}
    (h : Reachable R dev s) {argv : List CString} (hinert : (parse argv).inert R B = true)
    (fuel : ℕ) :
    ∃ s', (doBoarddiag fuel argv).run s = .ok ((parse argv).ret R B) s' ∧
      Untouched s s' := by
  obtain ⟨a, hemb, -, -, hcommand⟩ := h.exists_bench
  obtain ⟨s', hemb', hbench, hrun⟩ := hcommand fuel argv
  rw [a.bench.perform_of_inert hinert fuel] at hbench hrun
  exact ⟨s', hrun, untouched_of_bench_eq hemb hemb' hbench⟩

/-- A command that returns returns what it should. -/
theorem Reachable.ret_of_run {R : Registry A D} {dev : D} {s s' : State B A D}
    (h : Reachable R dev s) {argv : List CString} {fuel : ℕ} {r : CommandRet}
    (hrun : (doBoarddiag fuel argv).run s = .ok r s') : r = (parse argv).ret R B := by
  obtain ⟨s₁, a, -, -, hok | herr⟩ := h.exists_command fuel argv
  · rw [hrun] at hok
    injection hok
  · rw [hrun] at herr
    exact absurd herr (by simp)

/-! ## The documented lines -/

/-- The documented lines that execute tests, on a list of `count` tests: the
number of rounds fits the 32 bits it is kept in, and the test is on the list. -/
def Documented (count : ℕ) (argv : List CString) : Prop :=
  IsRunAll argv ∨ (∃ n < 2 ^ 32, IsRunAllLoop argv n) ∨ ∃ k < count, IsRun argv k

/-- The lines `do_boarddiag` refuses: there is no sub-command, or it is none of
the three words, or it is `run` with any number of arguments but one, or with
one that does not read as the number of a test, modulo `2 ^ 32`. -/
def Refused (count : ℕ) : List CString → Prop
  | _ :: sub :: args =>
      subCmd wordList 1 sub = false ∧ subCmd wordRunAll 4 sub = false ∧
        (subCmd wordRun 2 sub = true → ∀ testNum, args = [testNum] →
          count ≤ testNum.numberRead % 2 ^ 32)
  | _ => True

theorem ret_parseRun_eq_usage_iff (R : Registry A D) (args : List CString) :
    (parseRun args).ret R B = .usage ↔
      ∀ testNum, args = [testNum] → R.testCount B ≤ testNum.numberRead % 2 ^ 32 := by
  rcases parseRun_cases args with ⟨testNum, rfl, hnum⟩ | ⟨hlen, husage⟩
  · rw [hnum, Command.ret, argValue, BitVec.toNat_ofNat]
    split
    · next hin =>
        refine iff_of_false (fun h => by cases h) fun h => ?_
        exact absurd (h testNum rfl) (Nat.not_le.mpr hin)
    · next hout =>
        refine iff_of_true rfl fun number hnumber => ?_
        injection hnumber with hnumber
        rw [← hnumber]
        exact Nat.not_lt.mp hout
  · rw [husage]
    refine iff_of_true rfl fun testNum hargs => ?_
    exact absurd (congrArg List.length hargs) hlen

theorem ret_parseRunAll (R : Registry A D) (args : List CString) :
    (parseRunAll args).ret R B = .success := by
  rcases parseRunAll_cases args with ⟨word, times, -, htimes⟩ | ⟨-, hzero⟩
  · rw [htimes]
    rfl
  · rw [hzero]
    rfl

/-- **`CMD_RET_USAGE` is returned for the refused lines**, and for no others. -/
theorem ret_parse_eq_usage_iff (R : Registry A D) (argv : List CString) :
    (parse argv).ret R B = .usage ↔ Refused (R.testCount B) argv := by
  rcases parse_cases argv with ⟨hlen, hmissing⟩ | ⟨cmd, sub, args, rfl, hcases⟩
  · rw [hmissing]
    match argv with
    | [] => exact iff_of_true rfl trivial
    | [_] => exact iff_of_true rfl trivial
  · rcases hcases with ⟨hlist, hparse⟩ | ⟨hrunAll, hparse⟩ | ⟨hrun, hparse⟩ |
      ⟨hlist, hrunAll, hrun, hparse⟩
    · rw [hparse]
      refine iff_of_false (fun h => by cases h) fun ⟨hnot, _⟩ => ?_
      exact Bool.false_ne_true (hnot.symm.trans hlist)
    · rw [hparse, ret_parseRunAll]
      refine iff_of_false (fun h => by cases h) fun ⟨_, hnot, _⟩ => ?_
      exact Bool.false_ne_true (hnot.symm.trans hrunAll)
    · rw [hparse, ret_parseRun_eq_usage_iff]
      exact ⟨fun h => ⟨not_list_of_run hrun, not_runAll_of_run hrun, fun _ => h⟩,
        fun h => h.2.2 hrun⟩
    · rw [hparse]
      refine iff_of_true rfl ⟨hlist, hrunAll, fun h => ?_⟩
      exact absurd (hrun.symm.trans h) Bool.false_ne_true

/-- A line that is not documented gets `CMD_RET_USAGE` and runs nothing: what is
promised, for one line. -/
def RefusedUnless (documented : Prop) (s : State B A D) (argv : List CString) : Prop :=
  ¬ documented → ∀ fuel, ∃ s', (doBoarddiag fuel argv).run s = .ok .usage s' ∧
    callsOf s'.trace = callsOf s.trace

theorem Reachable.refusedUnless_iff {R : Registry A D} {dev : D} {s : State B A D}
    (h : Reachable R dev s) (documented : Prop) (argv : List CString) :
    RefusedUnless documented s argv ↔ documented ∨ Refused (R.testCount B) argv := by
  constructor
  · intro hrefused
    by_cases hdoc : documented
    · exact .inl hdoc
    · obtain ⟨s', hrun, -⟩ := hrefused hdoc 0
      exact .inr ((ret_parse_eq_usage_iff R argv).mp (h.ret_of_run hrun).symm)
  · rintro (hdoc | href) hnot fuel
    · exact absurd hdoc hnot
    · have hret := (ret_parse_eq_usage_iff R argv).mpr href
      obtain ⟨s', hrun, huntouched⟩ :=
        h.run_of_inert (Command.inert_of_ret_eq_usage hret) fuel
      rw [hret] at hrun
      exact ⟨s', hrun, huntouched.1⟩

/-- **When only documented lines execute tests.**  The promise holds for a line
exactly if the line is documented or one of those the code refuses --- taking
the documented lines to be those that run tests, and also taking `list` to be
one of them. -/
theorem executes_only_documented_iff {R : Registry A D} {dev : D} {s : State B A D}
    (h : Reachable R dev s) (argv : List CString) :
    (RefusedUnless (Documented (R.suite B).length argv) s argv ↔
      Documented (R.suite B).length argv ∨ Refused (R.testCount B) argv) ∧
    (RefusedUnless (IsList argv ∨ Documented (R.suite B).length argv) s argv ↔
      (IsList argv ∨ Documented (R.suite B).length argv) ∨ Refused (R.testCount B) argv) :=
  ⟨h.refusedUnless_iff _ argv, h.refusedUnless_iff _ argv⟩

/-- `boarddiag run abc`. -/
def runAbc : List CString := [.ofChars ['b', 'd'], wordRun, .ofChars ['a', 'b', 'c']]

theorem not_documented_runAbc (count : ℕ) : ¬ Documented count runAbc := by
  rintro (⟨cmd, sub, hargv, -⟩ | ⟨n, -, cmd, sub, loop, times, hargv, -⟩ |
    ⟨k, -, cmd, sub, testNum, hargv, -, hnum, -⟩)
  · exact absurd (congrArg List.length hargv) (by simp [runAbc])
  · exact absurd (congrArg List.length hargv) (by simp [runAbc])
  · injection hargv with _ hargv
    injection hargv with _ hargv
    injection hargv with hnumber _
    rw [← hnumber] at hnum
    exact absurd hnum (by decide)

/-- A word where a number is expected runs the first test. -/
theorem runAbc_executes :
    ¬ Documented smallTests.length runAbc ∧
      (State.boot smallRegistry () : State smallBuild Unit Unit).observe 2 runAbc =
        some (.success, [0]) :=
  ⟨not_documented_runAbc _, by decide +kernel⟩

/-- The promise for two lines from boot: it fails for the first, and holds for the
second, which the code refuses. -/
theorem runAbc_documented_iff :
    ¬ RefusedUnless (Documented smallTests.length runAbc)
        (State.boot smallRegistry () : State smallBuild Unit Unit) runAbc ∧
      RefusedUnless (Documented smallTests.length [wordRun])
        (State.boot smallRegistry () : State smallBuild Unit Unit) [wordRun] := by
  have hboot : Reachable smallRegistry ()
      (State.boot smallRegistry () : State smallBuild Unit Unit) := .refl
  refine ⟨fun hrefused => ?_, ?_⟩
  · rcases (executes_only_documented_iff hboot runAbc).1.mp hrefused with hdoc | href
    · exact not_documented_runAbc _ hdoc
    · have hcount := href.2.2 (by decide) (.ofChars ['a', 'b', 'c']) rfl
      exact absurd hcount (by decide)
  · exact (executes_only_documented_iff hboot [wordRun]).1.mpr (.inr trivial)

/-! ## Refused lines -/

/-- What is promised about lines that ought to have no effect, for one line: if
it returns `CMD_RET_USAGE`, or is a listing, or the list of tests is empty or too
long, then it leaves the tests alone --- in the last two cases it also returns
--- and a `run` with a number that is not on the list returns
`CMD_RET_USAGE`. -/
structure RefusesSafely (R : Registry A D) (s : State B A D) (argv : List CString) :
    Prop where
  usage : ∀ fuel s', (doBoarddiag fuel argv).run s = .ok .usage s' → Untouched s s'
  list : ∀ cmd sub args, argv = cmd :: sub :: args → subCmd wordList 1 sub = true →
    ∀ fuel, ∃ s', (doBoarddiag fuel argv).run s = .ok .success s' ∧ Untouched s s'
  noTests : (R.suite B).length = 0 ∨ dimTestList < (R.suite B).length →
    ∀ fuel, ∃ r s', (doBoarddiag fuel argv).run s = .ok r s' ∧ Untouched s s'
  outOfRange : ∀ k, IsRun argv k → (R.suite B).length ≤ k →
    ∀ fuel, ∃ s', (doBoarddiag fuel argv).run s = .ok .usage s'

/-- A `run` line is refused if its number, cut to 32 bits, is not on the list. -/
theorem IsRun.ret_eq_usage_iff {R : Registry A D} {argv : List CString} {k : ℕ}
    (h : IsRun argv k) :
    (parse argv).ret R B = .usage ↔ R.testCount B ≤ k % 2 ^ 32 := by
  rw [h.parse_eq, Command.ret, BitVec.toNat_ofNat]
  split
  · exact iff_of_false (by simp) (by omega)
  · exact iff_of_true rfl (by omega)

/-- **When refused lines are harmless.**  For every reachable state and every
line, the promise holds unless the line is a `run` whose number is not on the
list but comes back onto it when it is cut to 32 bits. -/
theorem refuses_out_of_range_iff {R : Registry A D} {dev : D} {s : State B A D}
    (h : Reachable R dev s) (argv : List CString) :
    RefusesSafely R s argv ↔
      ∀ k, IsRun argv k → (R.suite B).length ≤ k → R.testCount B ≤ k % 2 ^ 32 := by
  constructor
  · intro hsafe k hrun hk
    obtain ⟨s', hok⟩ := hsafe.outOfRange k hrun hk 0
    exact hrun.ret_eq_usage_iff.mp (h.ret_of_run hok).symm
  · intro hwrap
    refine ⟨?_, ?_, ?_, ?_⟩
    · intro fuel s' hok
      have hret := (h.ret_of_run hok).symm
      obtain ⟨s₁, hrun, huntouched⟩ :=
        h.run_of_inert (Command.inert_of_ret_eq_usage hret) fuel
      rw [hok] at hrun
      injection hrun with _ hs
      rwa [hs]
    · rintro cmd sub args rfl hlist fuel
      have hparse : parse (cmd :: sub :: args) = .list := parse_of_list hlist args
      have hinert : (parse (cmd :: sub :: args)).inert R B = true := by
        rw [hparse]
        rfl
      have hrun := h.run_of_inert hinert fuel
      rwa [hparse] at hrun
    · intro hlen fuel
      have hzero := (R.testCount_eq_zero_iff B).mpr hlen
      obtain ⟨s', hrun, huntouched⟩ :=
        h.run_of_inert (Command.inert_of_testCount_eq_zero hzero (parse argv)) fuel
      exact ⟨_, s', hrun, huntouched⟩
    · intro k hrun hk fuel
      have hret := (hrun.ret_eq_usage_iff (R := R) (B := B)).mpr (hwrap k hrun hk)
      obtain ⟨s', hok, -⟩ := h.run_of_inert (Command.inert_of_ret_eq_usage hret) fuel
      rw [hret] at hok
      exact ⟨s', hok⟩

/-- `boarddiag run 4294967296`. -/
def runTwoPow32 : List CString :=
  [.ofChars ['b', 'd'], wordRun, .ofChars ['4', '2', '9', '4', '9', '6', '7', '2', '9', '6']]

theorem isRun_runTwoPow32 : IsRun runTwoPow32 (2 ^ 32) :=
  ⟨_, _, _, rfl, by decide, by decide, by decide⟩

/-- A number that is not on the list runs the first test. -/
theorem runTwoPow32_executes :
    IsRun runTwoPow32 (2 ^ 32) ∧ smallTests.length ≤ 2 ^ 32 ∧
      (State.boot smallRegistry () : State smallBuild Unit Unit).observe 2 runTwoPow32 =
        some (.success, [0]) :=
  ⟨isRun_runTwoPow32, by decide, by decide +kernel⟩

/-- The promise for two lines from boot: it holds for the first and fails for the
second. -/
theorem runTwoPow32_refuses_iff :
    RefusesSafely smallRegistry (State.boot smallRegistry () : State smallBuild Unit Unit)
        [wordRun] ∧
      ¬ RefusesSafely smallRegistry
        (State.boot smallRegistry () : State smallBuild Unit Unit) runTwoPow32 := by
  have hboot : Reachable smallRegistry ()
      (State.boot smallRegistry () : State smallBuild Unit Unit) := .refl
  refine ⟨(refuses_out_of_range_iff hboot _).mpr ?_, fun hsafe => ?_⟩
  · rintro k ⟨cmd, sub, testNum, hargv, -⟩
    exact absurd (congrArg List.length hargv) (by simp)
  · have hcount := (refuses_out_of_range_iff hboot _).mp hsafe _ isRun_runTwoPow32 (by decide)
    exact absurd hcount (by decide)

end BoardDiag
