import BoardDiag.History.Reachable
import BoardDiag.Usage.CommandLine
import Mathlib.Data.List.Find

/-!
# Which sub-command a word stands for

`isSubCmd` walks through the argument and the command word with one index.  It looks for
the terminator of the argument only.  The terminator of the word is not looked for, but
it is different from every character of an argument, so the walk ends there at the
latest, and `isSubCmd` decides what it should: whether the argument abbreviates the word
to at least `minMatch` characters.

`do_boarddiag` tries `list`, `runAll` and `run` one after the other.  A word can abbreviate
both `runAll` and `run`, but then it has at most three characters, and `runAll` asks for
four.  So at most one of the three tests succeeds, and they could be made in any order:
`doBoarddiagInOrder` is `do_boarddiag` with the tests made in a given order, and the order
makes no difference to it (`run_doBoarddiagInOrder`).
-/

namespace BoardDiag

open Machine

variable {B : Build} {A D σ : Type}

/-! ## Abbreviations -/

/-- `toLower` forgets the case of letters and nothing else. -/
theorem foldCase_eq_iff (c d : Byte) : foldCase c = foldCase d ↔ EqCase c d := by
  have hc := c.isLt
  have hd := d.isLt
  have hA : 'A'.toNat = 65 := rfl
  have hZ : 'Z'.toNat = 90 := rfl
  have ha : 'a'.toNat = 97 := rfl
  have hupper : (ascii 'A').toNat = 65 ∧ (ascii 'Z').toNat = 90 := ⟨rfl, rfl⟩
  have hgap : (32 : Byte).toNat = 32 := rfl
  unfold foldCase toLower EqCase IsUpper
  simp only [BitVec.le_def, ← BitVec.toNat_inj, BitVec.toNat_add, hupper, hgap, hA, hZ, ha]
  split <;> split <;> omega

/-- Initial segments, letters of either case being the same. -/
theorem map_foldCase_prefix_iff (l m : List Byte) :
    l.map foldCase <+: m.map foldCase ↔ ∃ p, p <+: m ∧ List.Forall₂ EqCase l p := by
  have hsame : ∀ p, l.map foldCase = p.map foldCase ↔ List.Forall₂ EqCase l p := by
    intro p
    rw [← List.forall₂_eq_eq_eq, List.forall₂_map_left_iff, List.forall₂_map_right_iff]
    simp only [foldCase_eq_iff]
  rw [List.prefix_map_iff]
  simp only [hsame]

instance (s t : CString) : Decidable (s.Abbreviates t) :=
  decidable_of_iff _ (map_foldCase_prefix_iff s.bytes t.bytes)

/-- **`subCmd` is what `isSubCmd` is for.** -/
theorem subCmd_iff_abbreviates {cmd : CString} {minMatch : ℕ} {arg : CString} :
    subCmd cmd minMatch arg = true ↔ minMatch ≤ arg.strlen ∧ arg.Abbreviates cmd := by
  rw [subCmd_iff, map_foldCase_prefix_iff]
  rfl

/-- A negative `minMatch` asks for no more than zero does. -/
theorem isSubCmd_toNat (cmd : CString) (minMatch : ℤ) (arg : CString) :
    (isSubCmd cmd minMatch arg : Prog σ Bool) = isSubCmd cmd (minMatch.toNat : ℤ) arg := by
  have hbody : (matchChar cmd minMatch arg : ℕ → Prog σ (Option Bool)) =
      matchChar cmd (minMatch.toNat : ℤ) arg := by
    funext i
    have henough : ((i : ℤ) ≥ minMatch) = ((i : ℤ) ≥ (minMatch.toNat : ℤ)) := by
      rw [eq_iff_iff]
      omega
    unfold matchChar
    simp only [henough]
  rw [isSubCmd, isSubCmd, hbody]

/-- **`isSubCmd`, whatever `minMatch` is**: it returns, so it has read neither string past
its terminator. -/
theorem run_isSubCmd_int {cmd : CString} (h : cmd.strlen < 256) (minMatch : ℤ) (arg : CString)
    (st : σ) :
    (isSubCmd cmd minMatch arg).run st = .ok (subCmd cmd minMatch.toNat arg) st := by
  rw [isSubCmd_toNat]
  exact run_isSubCmd h minMatch.toNat arg st

/-! ## The three sub-commands -/

/-- The sub-commands of `do_boarddiag`. -/
inductive SubCommand where
  | list
  | runAll
  | run
  deriving DecidableEq

namespace SubCommand

/-- The word a sub-command is tested with. -/
def word : SubCommand → CString
  | list => wordList
  | runAll => wordRunAll
  | run => wordRun

/-- The number of characters an abbreviation has to have. -/
def minMatch : SubCommand → ℕ
  | list => 1
  | runAll => 4
  | run => 2

/-- The test for a sub-command. -/
def test (c : SubCommand) (arg : CString) : Prog σ Bool := isSubCmd c.word c.minMatch arg

/-- What the test finds out. -/
def stands (arg : CString) (c : SubCommand) : Bool := subCmd c.word c.minMatch arg

theorem run_test (c : SubCommand) (arg : CString) (st : σ) :
    (c.test arg).run st = .ok (stands arg c) st := by
  have hword : c.word.bytes.length < 256 := by cases c <;> decide
  exact run_isSubCmd hword c.minMatch arg st

/-- What stands for another sub-command does not stand for `list`. -/
theorem not_stands_list {arg : CString} (c : SubCommand) (hc : c ≠ list)
    (h : stands arg c = true) : ¬ stands arg list = true := by
  rw [Bool.not_eq_true]
  cases c with
  | list => exact absurd rfl hc
  | runAll => exact not_list_of_runAll h
  | run => exact not_list_of_run h

/-- **An argument stands for one sub-command at most.** -/
theorem stands_unique {arg : CString} {c c' : SubCommand} (h : stands arg c = true)
    (h' : stands arg c' = true) : c = c' := by
  have hboth : ¬ (stands arg runAll = true ∧ stands arg run = true) := by
    rintro ⟨hrunAll, hrun⟩
    exact Bool.false_ne_true ((not_runAll_of_run hrun).symm.trans hrunAll)
  cases c with
  | list =>
      by_contra hne
      exact not_stands_list c' (Ne.symm hne) h' h
  | runAll =>
      cases c' with
      | list => exact absurd h' (not_stands_list runAll nofun h)
      | runAll => rfl
      | run => exact absurd ⟨h, h'⟩ hboth
  | run =>
      cases c' with
      | list => exact absurd h' (not_stands_list run nofun h)
      | runAll => exact absurd ⟨h', h⟩ hboth
      | run => rfl

/-! ## In any order -/

/-- The first sub-command of a list whose test succeeds. -/
def first : List SubCommand → CString → Prog σ (Option SubCommand)
  | [], _ => return none
  | c :: order, arg => do
      if ← c.test arg then
        return some c
      first order arg

theorem run_first (order : List SubCommand) (arg : CString) (st : σ) :
    (first order arg).run st = .ok (order.find? (stands arg)) st := by
  induction order with
  | nil => rfl
  | cons c order ih =>
      rw [first, EStateM.run_bind, run_test, List.find?_cons]
      cases stands arg c with
      | true => rfl
      | false => exact ih

/-- The order in which `do_boarddiag` makes the tests. -/
def order : List SubCommand := [list, runAll, run]

/-- What the tests find does not depend on their order. -/
theorem find?_of_perm {tests : List SubCommand} (h : tests.Perm order) (arg : CString) :
    tests.find? (stands arg) = order.find? (stands arg) :=
  List.find?_eq_find?_of_perm h fun _ hc _ hc' => stands_unique hc.2 hc'.2

end SubCommand

/-- The body of the loop of `do_boarddiag`, with the tests made in a given order. -/
def dispatchInOrder (tests : List SubCommand) (fuel : ℕ) (argv : List CString) :
    Diag B A D CommandRet := do
  match ← processNextArg 0 argv.length argv with
  | (_, none) => return .usage
  | (cmdArgIndex, some nextCmdArg) =>
      match ← SubCommand.first tests nextCmdArg with
      | some .list =>
          showTestList
          return .success
      | some .runAll => runAllBranch fuel cmdArgIndex argv
      | some .run => runBranch fuel cmdArgIndex argv
      | none =>
          printf (.invalidOption nextCmdArg)
          return .usage

/-- `do_boarddiag`, with the tests made in a given order. -/
def doBoarddiagInOrder (tests : List SubCommand) (fuel : ℕ) (argv : List CString) :
    Diag B A D CommandRet := do
  printf .banner
  dispatchInOrder tests fuel argv

theorem run_dispatchInOrder {tests : List SubCommand} (h : tests.Perm SubCommand.order)
    (fuel : ℕ) (argv : List CString) (s : State B A D) :
    (dispatchInOrder tests fuel argv).run s = (dispatch fuel argv).run s := by
  match argv with
  | [] => rfl
  | [_] => rfl
  | cmd :: sub :: args =>
      have hfirst : (SubCommand.first tests sub).run s =
          .ok (SubCommand.order.find? (SubCommand.stands sub)) s := by
        rw [SubCommand.run_first, SubCommand.find?_of_perm h]
      unfold dispatchInOrder
      rw [run_dispatch, EStateM.run_bind, run_processNextArg_zero]
      simp only
      rw [EStateM.run_bind, hfirst]
      cases hfound : SubCommand.order.find? (SubCommand.stands sub) with
      | none =>
          have hnone : ∀ c ∈ SubCommand.order, SubCommand.stands sub c = false :=
            fun c hc => eq_false_of_ne_true (List.find?_eq_none.mp hfound c hc)
          rw [parse_of_invalid (hnone .list (by decide)) (hnone .runAll (by decide))
            (hnone .run (by decide))]
          rfl
      | some c =>
          have hstands : SubCommand.stands sub c = true := List.find?_some hfound
          cases c with
          | list =>
              rw [parse_of_list hstands]
              rfl
          | runAll =>
              rw [parse_of_runAll hstands]
              exact run_runAllBranch fuel cmd sub args s
          | run =>
              rw [parse_of_run hstands]
              exact run_runBranch fuel cmd sub args s

/-- **The order of the tests makes no difference to `do_boarddiag`.** -/
theorem run_doBoarddiagInOrder {tests : List SubCommand} (h : tests.Perm SubCommand.order)
    (fuel : ℕ) (argv : List CString) (s : State B A D) :
    (doBoarddiagInOrder tests fuel argv).run s = (doBoarddiag fuel argv).run s :=
  run_dispatchInOrder h fuel argv _

/-- **Sub-commands are unambiguous.**

* On a word of fewer than 256 characters `isSubCmd` returns, without having read either
  string past its terminator, and it finds a match exactly if the argument abbreviates the
  word to at least `minMatch` characters.
* Of the three tests of `do_boarddiag`, at most one succeeds.
* `do_boarddiag` does the same, in whatever order it makes them. -/
theorem sub_commands_unambiguous :
    (∀ (cmd : CString) (minMatch : ℤ) (arg : CString) (st : σ), cmd.strlen < 256 →
      ∃ r, (isSubCmd cmd minMatch arg).run st = .ok r st ∧
        (r = true ↔ arg.Abbreviates cmd ∧ minMatch ≤ arg.strlen)) ∧
    (∀ (arg : CString) (st : σ) (c c' : SubCommand), (c.test arg).run st = .ok true st →
      (c'.test arg).run st = .ok true st → c = c') ∧
    ∀ (tests : List SubCommand), tests.Perm SubCommand.order →
      ∀ (fuel : ℕ) (argv : List CString) (s : State B A D),
        (doBoarddiagInOrder tests fuel argv).run s = (doBoarddiag fuel argv).run s := by
  refine ⟨fun cmd minMatch arg st hcmd => ?_, fun arg st c c' h h' => ?_,
    fun tests h => run_doBoarddiagInOrder h⟩
  · refine ⟨_, run_isSubCmd_int hcmd minMatch arg st, ?_⟩
    rw [subCmd_iff_abbreviates, Int.toNat_le, and_comm]
  · rw [SubCommand.run_test] at h h'
    injection h with hc
    injection h' with hc'
    exact SubCommand.stands_unique hc hc'

/-- `RUNA`. -/
def wordRUNA : CString := .ofChars ['R', 'U', 'N', 'A']

/-- **`boarddiag RUNA` runs all tests**: `RUNA` abbreviates `runAll`, so it does not stand for
`run`, and `run` might as well be tried first. -/
theorem runA_unambiguous :
    (isSubCmd wordRunAll 4 wordRUNA).run () = .ok true () ∧
    (isSubCmd wordRun 2 wordRUNA).run () ≠ .ok true () ∧
    (doBoarddiagInOrder [.run, .list, .runAll] 2 [.ofChars ['b', 'd'], wordRUNA]).run smallState =
      (doBoarddiag 2 [.ofChars ['b', 'd'], wordRUNA]).run smallState := by
  obtain ⟨hdecides, honce, horder⟩ := @sub_commands_unambiguous smallBuild Unit Unit Unit
  have hrunAll : (isSubCmd wordRunAll 4 wordRUNA).run () = .ok true () := by
    obtain ⟨r, hrun, hr⟩ := hdecides wordRunAll 4 wordRUNA () (by decide)
    rw [hrun, hr.mpr ⟨by decide, by decide⟩]
  refine ⟨hrunAll, fun hrun => ?_, horder _ (by decide) _ _ _⟩
  exact absurd (honce wordRUNA () .runAll .run hrunAll hrun) nofun

end BoardDiag
