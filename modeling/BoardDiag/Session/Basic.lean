import BoardDiag.Model.Command

/-!
# Sessions

Once the test list has been picked up, most of the framework's state never
changes again: the list a pointer refers to, its length, the names and the ids
computed from them.  What is left is a *session*: the status of each entry, the
event log, the board and the trace.

`Session.state` puts a session back among the states the code runs on, and every
function of the model is shown to run on such states the way a plain function on
sessions does.  Because `Session.state` computes the ids from the names, "the id
of an entry is the hash of its name" needs no invariant: no session can say
otherwise.

`Session.unready` is the other shape a state can have, before anything has asked
for the list.  `run_ensureTestList_unready` is the lazy initialisation: it takes
the second shape to the first, and on the first it does nothing.
-/

namespace BoardDiag

open Machine

variable {B : Build} {A D : Type}

/-- What changes once the test list is known. -/
structure Session (B : Build) (A D : Type) where
  status : ℕ → Status B.ulong
  log : EventLog
  dev : D
  trace : List (Act A)

/-- The tests registered for the board the build is for. -/
def Registry.suite (R : Registry A D) (B : Build) : List (Registration A D) :=
  R.tests B.boardDefault

/-- The id of a registered test. -/
def Registration.hash (r : Registration A D) : BitVec 32 := calculateTestIdHash r.name

namespace Session

/-- The entry of the test registered at index `i`. -/
def entry (a : Session B A D) (i : ℕ) (r : Registration A D) : TestParamEntry B A D where
  toRegistration := r
  testId := r.hash.setWidth B.ulong
  request := ⟨.idle, .idle⟩
  status := a.status i

/-- The state of the framework in a session. -/
def state (R : Registry A D) (a : Session B A D) : State B A D where
  lists := Function.update (fun b => (R.tests b).map Registration.atBoot) B.boardDefault
    ((R.suite B).mapIdx a.entry)
  testList := some B.boardDefault
  testListDim := BitVec.ofNat 32 (R.suite B).length
  testNameList := some B.boardDefault
  log := a.log
  dev := a.dev
  trace := a.trace

/-- The state of the framework before the test list has been picked up. -/
def unready (R : Registry A D) (a : Session B A D) : State B A D where
  lists b := (R.tests b).map Registration.atBoot
  testList := none
  testListDim := 0
  testNameList := none
  log := a.log
  dev := a.dev
  trace := a.trace

/-- The session U-Boot starts. -/
def start (dev : D) : Session B A D where
  status _ := Status.cleared B.ulong
  log := EventLog.atBoot
  dev := dev
  trace := []

/-! ## Small changes to a session -/

/-- Append to the trace. -/
def emit (a : Session B A D) (xs : List (Act A)) : Session B A D :=
  { a with trace := a.trace ++ xs }

/-- Print some lines. -/
def print (a : Session B A D) (ls : List Line) : Session B A D := a.emit (ls.map .print)

/-- Change the status of one entry. -/
def setStatus (a : Session B A D) (i : ℕ) (st : Status B.ulong) : Session B A D :=
  { a with status := Function.update a.status i st }

@[simp] theorem emit_nil (a : Session B A D) : a.emit [] = a := by
  cases a
  simp [emit]

@[simp] theorem emit_emit (a : Session B A D) (xs ys : List (Act A)) :
    (a.emit xs).emit ys = a.emit (xs ++ ys) := by
  simp [emit]

@[simp] theorem print_nil (a : Session B A D) : a.print [] = a := by
  simp [print]

@[simp] theorem print_print (a : Session B A D) (xs ys : List Line) :
    (a.print xs).print ys = a.print (xs ++ ys) := by
  simp [print]

@[simp] theorem trace_print (a : Session B A D) (ls : List Line) :
    (a.print ls).trace = a.trace ++ ls.map .print := rfl

/-- Entries depend on the status only. -/
theorem entry_congr {a b : Session B A D} {i : ℕ} (h : a.status i = b.status i)
    (r : Registration A D) : a.entry i r = b.entry i r := by
  rw [entry, entry, h]

/-! ## The lists of a session's state -/

variable (R : Registry A D) (a : Session B A D)

theorem lists_state_default :
    (a.state R).lists B.boardDefault = (R.suite B).mapIdx a.entry := by
  simp [state]

@[simp] theorem length_lists_state :
    ((a.state R).lists B.boardDefault).length = (R.suite B).length := by
  rw [lists_state_default, List.length_mapIdx]

/-- Overwriting the default list of a session's state gives the state of another
session, as soon as the list is the one that session describes. -/
theorem update_lists_state (b : Session B A D) :
    Function.update (a.state R).lists B.boardDefault ((R.suite B).mapIdx b.entry) =
      (b.state R).lists := by
  simp [state]

/-- Changing the status of one entry, in the list. -/
theorem modify_mapIdx_entry {i : ℕ} (g : Status B.ulong → Status B.ulong)
    {f : TestParamEntry B A D → TestParamEntry B A D}
    (hf : ∀ e, f e = { e with status := g e.status }) (l : List (Registration A D)) :
    (l.mapIdx a.entry).modify i f =
      l.mapIdx (a.setStatus i (g (a.status i))).entry := by
  apply List.ext_getElem
  · simp
  · intro j h₁ h₂
    rw [List.getElem_modify, List.getElem_mapIdx, List.getElem_mapIdx]
    by_cases hij : i = j
    · subst hij
      rw [if_pos rfl, hf]
      simp [entry, setStatus]
    · rw [if_neg hij]
      apply entry_congr
      simp [setStatus, Function.update_of_ne (Ne.symm hij)]

/-! ## The basic functions on a session -/

@[simp] theorem run_act (x : Act A) : (act x).run (a.state R) = .ok () ((a.emit [x]).state R) :=
  rfl

@[simp] theorem run_printf (l : Line) :
    (printf l).run (a.state R) = .ok () ((a.print [l]).state R) := rfl

theorem run_printfIf (c : Prop) [Decidable c] (l : Line) :
    (printfIf c l).run (a.state R) =
      .ok () ((a.print (if c then [l] else [])).state R) := by
  by_cases hc : c
  · rw [printfIf, if_pos hc, if_pos hc, run_printf]
  · rw [printfIf, if_neg hc, if_neg hc, print_nil, EStateM.run_pure]

/-- The lazy initialisation does nothing a second time. -/
@[simp] theorem run_ensureTestList : ensureTestList.run (a.state R) = .ok () (a.state R) := by
  rfl

/-- The list while it is being initialised: the first `j` entries are done. -/
def initialising (j : ℕ) : State B A D :=
  { a.state R with
    lists := Function.update (fun b => (R.tests b).map Registration.atBoot) B.boardDefault
      ((R.suite B).mapIdx fun i r => if i < j then a.entry i r else r.atBoot) }

theorem initialising_zero :
    a.initialising R 0 =
      { a.unready R with
        testList := some B.boardDefault
        testListDim := BitVec.ofNat 32 (R.suite B).length
        testNameList := some B.boardDefault } := by
  simp only [initialising, state, unready, Nat.not_lt_zero, if_false, State.mk.injEq,
    and_true]
  rw [Function.update_eq_self_iff]
  apply List.ext_getElem
  · simp [Registry.suite]
  · intro i h₁ h₂
    simp [Registry.suite]

theorem initialising_length : a.initialising R (R.suite B).length = a.state R := by
  simp only [initialising, state, State.mk.injEq, and_true]
  congr 1
  apply List.ext_getElem
  · simp
  · intro i h₁ h₂
    rw [List.length_mapIdx] at h₁
    simp [h₁]

/-- One step of the initialisation. -/
theorem run_initEntry (hcleared : a.status = fun _ => Status.cleared B.ulong) {j : ℕ}
    (hj : j < (R.suite B).length) :
    (modifyEntry ⟨B.boardDefault, j⟩ initEntry).run (a.initialising R j) =
      .ok () (a.initialising R (j + 1)) := by
  have hlist : (a.initialising R j).lists B.boardDefault =
      (R.suite B).mapIdx fun i r => if i < j then a.entry i r else r.atBoot := by
    simp [initialising]
  have hlen : j < ((a.initialising R j).lists B.boardDefault).length := by
    rw [hlist, List.length_mapIdx]
    exact hj
  have hnext : ((a.initialising R j).lists B.boardDefault).modify j initEntry =
      (R.suite B).mapIdx fun i r => if i < j + 1 then a.entry i r else r.atBoot := by
    rw [hlist]
    apply List.ext_getElem
    · simp
    · intro i h₁ h₂
      rw [List.getElem_modify, List.getElem_mapIdx, List.getElem_mapIdx]
      by_cases hij : j = i
      · subst hij
        rw [if_pos rfl, if_neg (Nat.lt_irrefl _), if_pos (Nat.lt_succ_self _)]
        simp [initEntry, entry, Registration.atBoot, hcleared, Registration.hash]
      · rw [if_neg hij]
        by_cases hlt : i < j
        · rw [if_pos hlt, if_pos (Nat.lt_succ_of_lt hlt)]
        · rw [if_neg hlt, if_neg (by omega)]
  unfold modifyEntry
  rw [EStateM.run_bind, EStateM.run_get]
  simp only [if_pos hlen, hnext, EStateM.run_set]
  simp [initialising]

/-- **The lazy initialisation.**  The first request for the list computes every
id and clears every status --- which the registered entries start with anyway,
so nothing that was counted is lost. -/
theorem run_ensureTestList_unready (hcleared : a.status = fun _ => Status.cleared B.ulong) :
    ensureTestList.run (a.unready R) = .ok () (a.state R) := by
  have hfits : (BitVec.ofNat 32 (R.suite B).length).toNat = (R.suite B).length := by
    rw [BitVec.toNat_ofNat]
    exact Nat.mod_eq_of_lt (R.fits B.boardDefault)
  have hloop := run_forFrom (fun testIndex (_ : Unit) =>
      modifyEntry ⟨B.boardDefault, testIndex⟩ initEntry) (fun _ => ())
    (a.initialising R) 0 (R.suite B).length
    (fun j _ hj => a.run_initEntry R hcleared (by omega))
  rw [Nat.zero_add, initialising_length, initialising_zero] at hloop
  unfold ensureTestList processTestList
  rw [EStateM.run_bind, EStateM.run_get, Board.ofIndex_index]
  simp only [unready, if_true, EStateM.run_bind, EStateM.run_modify, EStateM.run_get]
  simp only [List.length_map]
  rw [show (R.tests B.boardDefault).length = (R.suite B).length from rfl, hfits]
  exact hloop

/-! ## Requests for the list -/

@[simp] theorem run_requestTestList :
    requestTestList.run (a.state R) = .ok (some B.boardDefault) (a.state R) := rfl

@[simp] theorem run_requestTestListName :
    requestTestListName.run (a.state R) = .ok (some B.boardDefault) (a.state R) := rfl

/-- The number of registered tests survives its way through the counters. -/
@[simp] theorem run_testListBound :
    testListBound.run (a.state R) = .ok (R.suite B).length (a.state R) := by
  have hfits : (R.suite B).length < 2 ^ 32 := R.fits B.boardDefault
  have hulong : 2 ^ 32 ≤ 2 ^ B.ulong := Nat.pow_le_pow_right (by omega) B.ulong_ge
  have hdim : (((BitVec.ofNat 32 (R.suite B).length).setWidth B.ulong).setWidth 32).toNat =
      (R.suite B).length := by
    simp only [BitVec.toNat_setWidth, BitVec.toNat_ofNat]
    rw [Nat.mod_eq_of_lt hfits, Nat.mod_eq_of_lt (Nat.lt_of_lt_of_le hfits hulong),
      Nat.mod_eq_of_lt hfits]
  unfold testListBound requestTestListDim
  rw [EStateM.run_bind, EStateM.run_bind, run_ensureTestList]
  exact congrArg (EStateM.Result.ok · _) hdim

@[simp] theorem run_testEntryAt (i : ℕ) :
    (testEntryAt i).run (a.state R) = .ok ⟨B.boardDefault, i⟩ (a.state R) := rfl

theorem run_readEntry {i : ℕ} (h : i < (R.suite B).length) :
    (readEntry ⟨B.boardDefault, i⟩).run (a.state R) =
      .ok (a.entry i (R.suite B)[i]) (a.state R) := by
  unfold readEntry
  rw [EStateM.run_bind, EStateM.run_get]
  simp only
  rw [run_fetch (by simpa using h)]
  simp [lists_state_default]

/-- An assignment to the status of an entry. -/
theorem run_modifyEntry {i : ℕ} (h : i < (R.suite B).length)
    (g : Status B.ulong → Status B.ulong)
    {f : TestParamEntry B A D → TestParamEntry B A D}
    (hf : ∀ e, f e = { e with status := g e.status }) :
    (modifyEntry ⟨B.boardDefault, i⟩ f).run (a.state R) =
      .ok () ((a.setStatus i (g (a.status i))).state R) := by
  have hlen : i < ((a.state R).lists B.boardDefault).length := by simpa using h
  unfold modifyEntry
  rw [EStateM.run_bind, EStateM.run_get]
  simp only [if_pos hlen, EStateM.run_set]
  rw [lists_state_default, modify_mapIdx_entry a g hf, update_lists_state]
  rfl

/-! ## The event log -/

/-- A report of the framework itself. -/
def reported (a : Session B A D) (r : Report) : Session B A D :=
  a.emit (.report r :: (consoleShow a.log.logMask r).map .print)

/-- `ReportResult`, on a session. -/
def resultReported (a : Session B A D) (testId : BitVec 32) (r : TestResultTypes) :
    Session B A D :=
  { a with
    log := { a.log with curTestId := 0 }
    trace := a.trace ++
      (.result testId r :: (consoleShowresult a.log.logMask testId r).map .print) }

end Session

/-! ## Looking an id up -/

/-- The first registered test with a given id. -/
def locate (suite : List (Registration A D)) (testId : BitVec 32) : Option ℕ :=
  suite.findIdx? fun r => decide (r.hash = testId)

theorem locate_eq_some_iff {suite : List (Registration A D)} {testId : BitVec 32} {i : ℕ} :
    locate suite testId = some i ↔
      ∃ h : i < suite.length, suite[i].hash = testId ∧
        ∀ j (hji : j < i), suite[j].hash ≠ testId := by
  simp [locate, List.findIdx?_eq_some_iff_getElem]

/-- An id widened to an `unsigned long` is still the same id. -/
theorem setWidth_ulong_inj {x y : BitVec 32} :
    x.setWidth B.ulong = y.setWidth B.ulong ↔ x = y := by
  constructor
  · intro h
    have h' := congrArg (BitVec.setWidth 32) h
    rwa [BitVec.setWidth_setWidth_of_le _ B.ulong_ge, BitVec.setWidth_setWidth_of_le _ B.ulong_ge,
      BitVec.setWidth_eq, BitVec.setWidth_eq] at h'
  · rintro rfl
    rfl

/-- **`LocateTest`** finds the first registered test with the id. -/
theorem Session.run_locateTest (R : Registry A D) (a : Session B A D) (testId : BitVec 32) :
    (locateTest testId).run (a.state R) =
      .ok ((locate (R.suite B) testId).map (EntryPtr.mk B.boardDefault)) (a.state R) := by
  unfold locateTest
  rw [EStateM.run_bind, run_testListBound]
  refine (run_searchFrom_findIdx? (fun r => decide (r.hash = testId))
    (EntryPtr.mk B.boardDefault) (R.suite B) 0 fun j hj => ?_).trans ?_
  · unfold matchTestId
    rw [Nat.zero_add, EStateM.run_bind, run_testEntryAt]
    simp only
    rw [EStateM.run_bind, a.run_readEntry R hj]
    simp only [entry, setWidth_ulong_inj, decide_eq_true_eq]
    split <;> rfl
  · simp [locate]

end BoardDiag
