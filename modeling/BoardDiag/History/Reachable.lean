import BoardDiag.History.Status

/-!
# Commands from boot

A state is reachable if some sequence of commands, each of which returned, leads
to it from the state U-Boot starts in.  The commands are arbitrary argument
vectors: listings, single runs, repeated runs, and lines that are rejected.

Every reachable state stands for a session that was reached from the first one
by moves (`Reachable.exists_session`), and so does whatever state one more
command leaves, even if it is cut off (`Reachable.exists_command`).  The two
safety theorems follow from what moves keep:

* `reachable_status_exact`: the status of every entry is the summary of its calls
  since boot.  In particular the lazy initialisation of the list, which writes
  zeros into every status, never gets to see anything else;
* `reachable_command_safe`: no command leaves an array, and none of them prints
  or reports that a test is unknown or that an id does not fit its name.
-/

namespace BoardDiag

open Machine Relation

variable {B : Build} {A D : Type}

/-- One command that returns. -/
def Step (s s' : State B A D) : Prop :=
  ∃ fuel argv r, (doBoarddiag fuel argv).run s = .ok r s'

/-- The states some sequence of commands leads to. -/
def Reachable (R : Registry A D) (dev : D) (s : State B A D) : Prop :=
  ReflTransGen Step (State.boot R dev) s

/-- A sequence of commands. -/
def script (fuel : ℕ) : List (List CString) → Diag B A D Unit
  | [] => return
  | argv :: argvs => do
      let _ ← doBoarddiag fuel argv
      script fuel argvs

/-- The state a sequence of commands leaves, whether it returns or not. -/
def State.afterScript (fuel : ℕ) (argvs : List (List CString)) (s : State B A D) :
    State B A D :=
  match (script fuel argvs).run s with
  | .ok _ s' => s'
  | .error _ s' => s'

/-- Whether a sequence of commands returns. -/
def State.returns (fuel : ℕ) (argvs : List (List CString)) (s : State B A D) : Bool :=
  match (script fuel argvs).run s with
  | .ok _ _ => true
  | .error _ _ => false

/-- What one command returns and which tests have been called by then, if it
returns. -/
def State.observe (fuel : ℕ) (argv : List CString) (s : State B A D) :
    Option (CommandRet × List ℕ) :=
  match (doBoarddiag fuel argv).run s with
  | .ok r s' => some (r, (callsOf s'.trace).map Call.index)
  | .error _ _ => none

/-- A sequence of commands is a sequence of steps. -/
theorem reflTransGen_of_script {fuel : ℕ} {argvs : List (List CString)} {s s' : State B A D}
    {u : Unit} (h : (script fuel argvs).run s = .ok u s') : ReflTransGen Step s s' := by
  induction argvs generalizing s with
  | nil =>
      injection h with _ hs
      exact hs ▸ .refl
  | cons argv argvs ih =>
      rw [script, EStateM.run_bind] at h
      cases hrun : (doBoarddiag fuel argv).run s with
      | ok r s₁ =>
          rw [hrun] at h
          exact .head ⟨fuel, argv, r, hrun⟩ (ih h)
      | error e s₁ =>
          rw [hrun] at h
          exact absurd h (by simp)

theorem Reachable.afterScript {R : Registry A D} {dev : D} {s : State B A D}
    (hs : Reachable R dev s) {fuel : ℕ} {argvs : List (List CString)}
    (h : s.returns fuel argvs = true) : Reachable R dev (s.afterScript fuel argvs) := by
  unfold State.returns at h
  unfold State.afterScript
  split at h
  · next hrun => exact hs.trans (reflTransGen_of_script hrun)
  · exact absurd h Bool.false_ne_true

/-- **Reachable states stand for sessions reached by moves.** -/
theorem Reachable.exists_session {R : Registry A D} {dev : D} {s : State B A D}
    (h : Reachable R dev s) : ∃ a, Embeds R s a ∧ Moves R (Session.start dev) a := by
  induction h with
  | refl => exact ⟨Session.start dev, Embeds.boot R dev, .refl⟩
  | tail _ hstep ih =>
      obtain ⟨a, hemb, hmoves⟩ := ih
      obtain ⟨fuel, argv, r, hrun⟩ := hstep
      obtain ⟨s', hemb', hrun'⟩ := hemb.run_doBoarddiag fuel argv
      refine ⟨(a.command R fuel argv).2, ?_, hmoves.trans (a.moves_command fuel argv)⟩
      rw [hrun] at hrun'
      split at hrun'
      · injection hrun' with _ hs
        rwa [hs]
      · exact absurd hrun' (by simp)

/-- One more command, cut off or not. -/
theorem Reachable.exists_command {R : Registry A D} {dev : D} {s : State B A D}
    (h : Reachable R dev s) (fuel : ℕ) (argv : List CString) :
    ∃ s' a, Embeds R s' a ∧ Moves R (Session.start dev) a ∧
      ((doBoarddiag fuel argv).run s = .ok ((parse argv).ret R B) s' ∨
        (doBoarddiag fuel argv).run s = .error .outOfFuel s') := by
  obtain ⟨a, hemb, hmoves⟩ := h.exists_session
  obtain ⟨s', hemb', hrun⟩ := hemb.run_doBoarddiag fuel argv
  refine ⟨s', _, hemb', hmoves.trans (a.moves_command fuel argv), ?_⟩
  split at hrun
  · exact .inl hrun
  · exact .inr hrun

/-! ## A small suite

A 32-bit build with three registered tests, to run things on: one test passes,
one fails, and one has no function. -/

def smallBuild : Build where
  ulong := 32
  ulong_ge := Nat.le_refl _
  boardDefault := .am335xBbb

def smallTests : List (Registration Unit Unit) :=
  [⟨.ofChars ['E'], .ofChars ['e', 'e', 'p'], some fun _ _ _ _ => (.pass, [], ()), ()⟩,
    ⟨.ofChars ['N'], .ofChars ['n', 'o', 'r'], some fun _ _ _ _ => (.fail, [], ()), ()⟩,
    ⟨.ofChars ['Z'], .ofChars ['n', 'u', 'l', 'l'], none, ()⟩]

def smallRegistry : Registry Unit Unit where
  tests _ := smallTests
  fits _ := by decide

/-- `boarddiag run 1`. -/
def runOne : List CString := [.ofChars ['b', 'd'], wordRun, .ofChars ['1']]

/-- `boarddiag runAll loop 2`. -/
def runAllLoopTwo : List CString :=
  [.ofChars ['b', 'd'], wordRunAll, .ofChars ['l', 'o', 'o', 'p'], .ofChars ['2']]

/-- The small suite after `runAll loop 2` and `run 1`. -/
def smallState : State smallBuild Unit Unit :=
  (State.boot smallRegistry ()).afterScript 4 [runAllLoopTwo, runOne]

theorem reachable_smallState : Reachable smallRegistry () smallState :=
  Reachable.afterScript .refl (by decide +kernel)

/-! ## Exact statuses -/

/-- The status of an entry, as the session has it. -/
theorem Embeds.status_eq {R : Registry A D} {s : State B A D} {a : Session B A D}
    (h : Embeds R s a) {i : ℕ} {e : TestParamEntry B A D} (he : s.entries[i]? = some e) :
    (R.suite B)[i]? = some e.toRegistration ∧ e.status = a.status i := by
  have hboth := congrArg (·[i]?) h.entries_eq
  simp only [List.getElem?_map, he, Option.map_some, List.getElem?_mapIdx] at hboth
  obtain ⟨r, hr, hpair⟩ := Option.map_eq_some_iff.mp hboth.symm
  injection hpair with hreg hstatus
  exact ⟨by rw [hr, hreg], hstatus.symm⟩

/-- **The status of every entry is exact**, after any sequence of commands from
boot: it counts the calls of the entry's function, those that did not pass, and
those that did not pass since the latest batch began, modulo the width of
`unsigned long`, and keeps the result of the last call. -/
theorem reachable_status_exact {R : Registry A D} {dev : D} {s : State B A D}
    (h : Reachable R dev s) {i : ℕ} {e : TestParamEntry B A D} (he : s.entries[i]? = some e) :
    e.status.runCount = BitVec.ofNat B.ulong (resultsOf i s.trace).length ∧
    e.status.totalFailCount = BitVec.ofNat B.ulong (failures (resultsOf i s.trace)) ∧
    e.status.newFailCount =
      BitVec.ofNat B.ulong (failures (resultsOf i (lastBatch s.trace))) ∧
    e.status.resultFromSingleRun = (resultsOf i s.trace).getLast?.getD .notStarted ∧
    ((resultsOf i s.trace).length < 2 ^ B.ulong →
      e.status.newFailCount ≤ e.status.totalFailCount ∧
        e.status.totalFailCount ≤ e.status.runCount) := by
  obtain ⟨a, hemb, hmoves⟩ := h.exists_session
  have hstatus : e.status = statusOf B.ulong i s.trace := by
    rw [(hemb.status_eq he).2, hemb.trace_eq]
    exact (exact_start dev).moves hmoves i
  have htotal := failures_le_length (resultsOf i s.trace)
  have hnew := failures_lastBatch_le i s.trace
  rw [hstatus]
  refine ⟨rfl, rfl, rfl, rfl, fun hlt => ?_⟩
  simp only [statusOf, BitVec.le_def, BitVec.toNat_ofNat]
  rw [Nat.mod_eq_of_lt hlt, Nat.mod_eq_of_lt (Nat.lt_of_le_of_lt htotal hlt),
    Nat.mod_eq_of_lt (Nat.lt_of_le_of_lt (Nat.le_trans hnew htotal) hlt)]
  exact ⟨hnew, htotal⟩

/-- The failing test of the small suite, after three rounds and a single run. -/
theorem smallState_status_exact :
    ∃ e, smallState.entries[1]? = some e ∧ (resultsOf 1 smallState.trace).length = 4 ∧
      e.status.runCount = 4#32 ∧ e.status.totalFailCount = 4#32 ∧
      e.status.newFailCount = 1#32 := by
  have hsome : (smallState.entries[1]?).isSome := by decide +kernel
  obtain ⟨e, he⟩ := Option.isSome_iff_exists.mp hsome
  obtain ⟨hrun, htotal, hnew, -, -⟩ := reachable_status_exact reachable_smallState he
  refine ⟨e, he, by decide +kernel, ?_, ?_, ?_⟩
  · have hfour : BitVec.ofNat 32 (resultsOf 1 smallState.trace).length = 4#32 := by
      decide +kernel
    exact hrun.trans hfour
  · have hfour : BitVec.ofNat 32 (failures (resultsOf 1 smallState.trace)) = 4#32 := by
      decide +kernel
    exact htotal.trans hfour
  · have hone : BitVec.ofNat 32 (failures (resultsOf 1 (lastBatch smallState.trace))) =
        1#32 := by
      decide +kernel
    exact hnew.trans hone

/-! ## Safety -/

/-- No complaint about an id has been made. -/
def Sound (a : Session B A D) : Prop := ∀ x ∈ a.trace, x.sound = true

theorem Sound.move {R : Registry A D} {a b : Session B A D} (ha : Sound a)
    (h : Move R a b) : Sound b := by
  cases h with
  | quiet h =>
      obtain ⟨xs, htrace, hharm⟩ := h.trace_eq
      intro x hx
      rw [htrace] at hx
      rcases List.mem_append.mp hx with hx | hx
      · exact ha x hx
      · exact (hharm x hx).2
  | batch =>
      intro x hx
      rcases List.mem_append.mp hx with hx | hx
      · exact ha x hx
      · rw [List.mem_singleton.mp hx]
        rfl
  | call =>
      intro x hx
      rcases List.mem_append.mp hx with hx | hx
      · exact ha x hx
      · rw [List.mem_singleton.mp hx]
        rfl

theorem Sound.moves {R : Registry A D} {a b : Session B A D} (ha : Sound a)
    (h : Moves R a b) : Sound b := by
  induction h with
  | refl => exact ha
  | tail _ hmove ih => exact ih.move hmove

/-- **No command leaves an array or meets an unknown test.**  From a reachable
state, a command returns or runs out of fuel, so no index of `testIdList` or of
the registered list is out of range; and nothing the framework has printed or
reported by then says that a test was not found, is unknown, or has an id other
than the hash of its name. -/
theorem reachable_command_safe {R : Registry A D} {dev : D} {s : State B A D}
    (h : Reachable R dev s) (fuel : ℕ) (argv : List CString) :
    ∃ s', ((∃ r, (doBoarddiag fuel argv).run s = .ok r s') ∨
        (doBoarddiag fuel argv).run s = .error .outOfFuel s') ∧
      ∀ x ∈ s'.trace,
        (∀ testId, x ≠ .print (.testNotFound testId)) ∧
        (∀ testId, x ≠ .print (.unknownTest testId)) ∧
        (∀ testId, x ≠ .report (.errEvent testId .testNotFound)) ∧
        ∀ testId calculated, x ≠ .print (.testIdDiffers testId calculated) := by
  obtain ⟨s', a, hemb, hmoves, hrun⟩ := h.exists_command fuel argv
  have hstart : Sound (Session.start dev : Session B A D) :=
    fun x hx => absurd hx List.not_mem_nil
  refine ⟨s', hrun.imp (fun hok => ⟨_, hok⟩) id, fun x hx => ?_⟩
  rw [hemb.trace_eq] at hx
  have hsound := hstart.moves hmoves x hx
  refine ⟨?_, ?_, ?_, ?_⟩
  · rintro testId rfl
    exact Bool.false_ne_true hsound
  · rintro testId rfl
    exact Bool.false_ne_true hsound
  · rintro testId rfl
    exact Bool.false_ne_true hsound
  · rintro testId calculated rfl
    exact Bool.false_ne_true hsound

theorem smallState_command_safe :
    ∃ s', ((∃ r, (doBoarddiag 2 runOne).run smallState = .ok r s') ∨
        (doBoarddiag 2 runOne).run smallState = .error .outOfFuel s') ∧
      ∀ x ∈ s'.trace, ∀ testId, x ≠ .print (.testNotFound testId) := by
  obtain ⟨s', hrun, hsound⟩ := reachable_command_safe reachable_smallState 2 runOne
  exact ⟨s', hrun, fun x hx => (hsound x hx).1⟩

end BoardDiag
