import BoardDiag.Session.Parse

/-!
# The documented command lines

The usage text of the command, and the README and Getting-Started files, promise
four forms:

* `list`,
* `run <test_num>`,
* `runAll`,
* `runAll loop <times>`,

where a sub-command word may be abbreviated and written in either case, as far as
`isSubCmd` allows, and the numbers are decimal.  This module says what it is for
an argument vector to have one of these forms, independently of how the code
takes vectors apart, and shows that the code takes each form for what it is.
The converse is another matter.
-/

namespace BoardDiag

open Machine

/-- The word `loop`. -/
def wordLoop : CString := .ofChars ['l', 'o', 'o', 'p']

/-- `boarddiag list`. -/
def IsList (argv : List CString) : Prop :=
  ∃ cmd sub, argv = [cmd, sub] ∧ subCmd wordList 1 sub = true

/-- `boarddiag runAll`. -/
def IsRunAll (argv : List CString) : Prop :=
  ∃ cmd sub, argv = [cmd, sub] ∧ subCmd wordRunAll 4 sub = true

/-- `boarddiag runAll loop n`.  The word `loop` is spelled out, in either case. -/
def IsRunAllLoop (argv : List CString) (n : ℕ) : Prop :=
  ∃ cmd sub loop times, argv = [cmd, sub, loop, times] ∧ subCmd wordRunAll 4 sub = true ∧
    subCmd wordLoop 4 loop = true ∧ times.IsNumeral ∧ times.numberRead = n

/-- `boarddiag run k`. -/
def IsRun (argv : List CString) (k : ℕ) : Prop :=
  ∃ cmd sub testNum, argv = [cmd, sub, testNum] ∧ subCmd wordRun 2 sub = true ∧
    testNum.IsNumeral ∧ testNum.numberRead = k

/-! ## Words that exclude one another -/

theorem subCmd_iff {cmd : CString} {minMatch : ℕ} {arg : CString} :
    subCmd cmd minMatch arg = true ↔
      minMatch ≤ arg.bytes.length ∧ arg.bytes.map foldCase <+: cmd.bytes.map foldCase := by
  rw [subCmd, Bool.and_eq_true, decide_eq_true_iff, List.isPrefixOf_iff_prefix]

/-- A nonempty argument abbreviates words with one first letter only. -/
theorem subCmd_head {c₁ c₂ : CString} {m₁ m₂ : ℕ} {arg : CString} (hm : 0 < m₁)
    (h₁ : subCmd c₁ m₁ arg = true) (h₂ : subCmd c₂ m₂ arg = true) :
    (c₁.bytes.map foldCase).head? = (c₂.bytes.map foldCase).head? := by
  obtain ⟨hlen, t₁, ht₁⟩ := subCmd_iff.mp h₁
  obtain ⟨-, t₂, ht₂⟩ := subCmd_iff.mp h₂
  obtain ⟨b, bs, hbs⟩ := List.exists_cons_of_length_pos (Nat.lt_of_lt_of_le hm hlen)
  rw [← ht₁, ← ht₂, hbs]
  rfl

/-- No argument is longer than the word it abbreviates. -/
theorem length_le_of_subCmd {cmd : CString} {minMatch : ℕ} {arg : CString}
    (h : subCmd cmd minMatch arg = true) : arg.bytes.length ≤ cmd.bytes.length := by
  have hprefix := (subCmd_iff.mp h).2.length_le
  rwa [List.length_map, List.length_map] at hprefix

/-- What abbreviates a word with another first letter than `list` is not `list`. -/
theorem not_list_of_head {cmd sub : CString} {minMatch : ℕ}
    (hhead : (wordList.bytes.map foldCase).head? ≠ (cmd.bytes.map foldCase).head?)
    (h : subCmd cmd minMatch sub = true) : subCmd wordList 1 sub = false := by
  rw [Bool.eq_false_iff]
  intro hlist
  exact hhead (subCmd_head Nat.one_pos hlist h)

theorem not_list_of_runAll {sub : CString} (h : subCmd wordRunAll 4 sub = true) :
    subCmd wordList 1 sub = false :=
  not_list_of_head (by decide) h

theorem not_list_of_run {sub : CString} (h : subCmd wordRun 2 sub = true) :
    subCmd wordList 1 sub = false :=
  not_list_of_head (by decide) h

theorem not_runAll_of_run {sub : CString} (h : subCmd wordRun 2 sub = true) :
    subCmd wordRunAll 4 sub = false := by
  rw [Bool.eq_false_iff]
  intro hrunAll
  have hlong := (subCmd_iff.mp hrunAll).1
  have hshort : sub.bytes.length ≤ 3 := length_le_of_subCmd h
  omega

/-! ## What the code makes of them -/

theorem parse_of_list {cmd sub : CString} (h : subCmd wordList 1 sub = true)
    (args : List CString) : parse (cmd :: sub :: args) = .list := by
  rw [parse, if_pos h]

theorem parse_of_runAll {cmd sub : CString} (h : subCmd wordRunAll 4 sub = true)
    (args : List CString) : parse (cmd :: sub :: args) = parseRunAll args := by
  rw [parse, not_list_of_runAll h, if_neg Bool.false_ne_true, if_pos h]

theorem parse_of_run {cmd sub : CString} (h : subCmd wordRun 2 sub = true)
    (args : List CString) : parse (cmd :: sub :: args) = parseRun args := by
  rw [parse, not_list_of_run h, not_runAll_of_run h, if_neg Bool.false_ne_true,
    if_neg Bool.false_ne_true, if_pos h]

theorem parse_of_invalid {cmd sub : CString} (hlist : subCmd wordList 1 sub = false)
    (hrunAll : subCmd wordRunAll 4 sub = false) (hrun : subCmd wordRun 2 sub = false)
    (args : List CString) : parse (cmd :: sub :: args) = .invalid sub := by
  rw [parse, hlist, hrunAll, hrun, if_neg Bool.false_ne_true, if_neg Bool.false_ne_true,
    if_neg Bool.false_ne_true]

/-- **What a line can be**, case by case. -/
theorem parse_cases (argv : List CString) :
    (argv.length < 2 ∧ parse argv = .missing) ∨
    ∃ cmd sub args, argv = cmd :: sub :: args ∧
      ((subCmd wordList 1 sub = true ∧ parse argv = .list) ∨
        (subCmd wordRunAll 4 sub = true ∧ parse argv = parseRunAll args) ∨
        (subCmd wordRun 2 sub = true ∧ parse argv = parseRun args) ∨
        (subCmd wordList 1 sub = false ∧ subCmd wordRunAll 4 sub = false ∧
          subCmd wordRun 2 sub = false ∧ parse argv = .invalid sub)) := by
  match argv with
  | [] => exact .inl ⟨Nat.zero_lt_two, rfl⟩
  | [_] => exact .inl ⟨Nat.one_lt_two, rfl⟩
  | cmd :: sub :: args =>
      refine .inr ⟨cmd, sub, args, rfl, ?_⟩
      cases hlist : subCmd wordList 1 sub with
      | true => exact .inl ⟨rfl, parse_of_list hlist args⟩
      | false =>
          cases hrunAll : subCmd wordRunAll 4 sub with
          | true => exact .inr (.inl ⟨rfl, parse_of_runAll hrunAll args⟩)
          | false =>
              cases hrun : subCmd wordRun 2 sub with
              | true => exact .inr (.inr (.inl ⟨rfl, parse_of_run hrun args⟩))
              | false =>
                  exact .inr (.inr (.inr ⟨rfl, rfl, rfl, parse_of_invalid hlist hrunAll hrun args⟩))

/-- The arguments of `runAll` count only if there are two. -/
theorem parseRunAll_cases (args : List CString) :
    (∃ word times, args = [word, times] ∧ parseRunAll args = .runAll (argValue times)) ∨
      args.length ≠ 2 ∧ parseRunAll args = .runAll 0 := by
  match args with
  | [] => exact .inr ⟨by simp, rfl⟩
  | [_] => exact .inr ⟨by simp, rfl⟩
  | [word, times] => exact .inl ⟨word, times, rfl, rfl⟩
  | _ :: _ :: _ :: _ => exact .inr ⟨by simp, rfl⟩

/-- The arguments of `run` count only if there is one. -/
theorem parseRun_cases (args : List CString) :
    (∃ testNum, args = [testNum] ∧ parseRun args = .run (argValue testNum)) ∨
      args.length ≠ 1 ∧ parseRun args = .runUsage := by
  match args with
  | [] => exact .inr ⟨by simp, rfl⟩
  | [testNum] => exact .inl ⟨testNum, rfl, rfl⟩
  | _ :: _ :: _ => exact .inr ⟨by simp, rfl⟩

theorem IsRunAll.parse_eq {argv : List CString} (h : IsRunAll argv) :
    parse argv = .runAll 0 := by
  obtain ⟨cmd, sub, rfl, hsub⟩ := h
  exact parse_of_runAll hsub []

theorem IsRunAllLoop.parse_eq {argv : List CString} {n : ℕ} (h : IsRunAllLoop argv n) :
    parse argv = .runAll (BitVec.ofNat 32 n) := by
  obtain ⟨cmd, sub, loop, times, rfl, hsub, -, -, rfl⟩ := h
  exact parse_of_runAll hsub [loop, times]

theorem IsRun.parse_eq {argv : List CString} {k : ℕ} (h : IsRun argv k) :
    parse argv = .run (BitVec.ofNat 32 k) := by
  obtain ⟨cmd, sub, testNum, rfl, hsub, -, rfl⟩ := h
  exact parse_of_run hsub [testNum]

end BoardDiag
