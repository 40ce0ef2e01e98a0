import BoardDiag.Model.Command

/-!
# Reading the command line

`do_boarddiag` decides what to do by a chain of tests on the words of its
argument vector.  `parse` is that decision on its own: a plain function from
argument vectors to commands, which touches no state.  `run_doBoarddiag` says
that running the command is printing the banner and carrying out what `parse`
has found.

Three facts are behind it:

* `isSubCmd` compares words character by character, up to 256 of them.  The
  words it is used with are far shorter, so it computes `subCmd`: the argument
  is long enough and, letters of either case being the same, an initial segment
  of the word;
* `simple_strtoul` reads the decimal digits an argument begins with, modulo the
  width of `unsigned long`, so what `ProcessNextCmdArg` stores is `numberRead`
  modulo `2 ^ 32` whatever that width is;
* the vector is only ever read below its length.
-/

namespace BoardDiag

open Machine

variable {B : Build} {A D σ : Type}

/-! ## Sub-command words -/

/-- A character with its case forgotten. -/
def foldCase (c : Byte) : ℕ := toLower c.toNat

/-- What `isSubCmd` decides: the argument abbreviates the word to at least
`minMatch` characters, in any case. -/
def subCmd (cmd : CString) (minMatch : ℕ) (arg : CString) : Bool :=
  decide (minMatch ≤ arg.bytes.length) &&
    (arg.bytes.map foldCase).isPrefixOf (cmd.bytes.map foldCase)

theorem foldCase_ne_zero {c : Byte} (h : c ≠ 0) : foldCase c ≠ 0 := by
  have hpos : c.toNat ≠ 0 := fun h0 => h (BitVec.eq_of_toNat_eq h0)
  have hA : 'A'.toNat = 65 := rfl
  have ha : 'a'.toNat = 97 := rfl
  unfold foldCase toLower
  split
  · omega
  · exact hpos

theorem run_readChar_of_lt {s : CString} {i : ℕ} (h : i < s.bytes.length) (st : σ) :
    (readChar s i).run st = .ok s.bytes[i] st := by
  rw [readChar, CString.charAt_of_lt h]
  rfl

theorem run_readChar_length (s : CString) (st : σ) :
    (readChar s s.bytes.length).run st = .ok 0 st := by
  rw [readChar, CString.charAt_length]
  rfl

/-- A step of `isSubCmd` at the end of the argument. -/
theorem run_matchChar_length (cmd : CString) (minMatch : ℕ) (arg : CString) (st : σ) :
    (matchChar cmd minMatch arg arg.bytes.length).run st =
      .ok (some (decide (minMatch ≤ arg.bytes.length))) st := by
  unfold matchChar
  rw [EStateM.run_bind, run_readChar_length]
  simp

/-- A step of `isSubCmd` within the argument.  Where the word has ended, its
terminator matches no character. -/
theorem run_matchChar_of_lt (cmd : CString) (minMatch : ℕ) (arg : CString) (st : σ) {i : ℕ}
    (hlt : i < arg.bytes.length) (hcmd : i ≤ cmd.bytes.length) :
    (matchChar cmd minMatch arg i).run st =
      .ok (if cmd.bytes[i]?.map foldCase = some (foldCase arg.bytes[i]) then none
        else some false) st := by
  have hne : arg.bytes[i] ≠ 0 := CString.charAt_ne_zero hlt
  unfold matchChar
  rw [EStateM.run_bind, run_readChar_of_lt hlt]
  simp only [if_neg hne]
  rw [EStateM.run_bind]
  rcases Nat.lt_or_eq_of_le hcmd with hlt' | heq
  · rw [run_readChar_of_lt hlt', List.getElem?_eq_getElem hlt', Option.map_some]
    by_cases hc : toLower arg.bytes[i].toNat = toLower cmd.bytes[i].toNat
    · have hsame : some (foldCase cmd.bytes[i]) = some (foldCase arg.bytes[i]) :=
        congrArg some hc.symm
      simp only [if_pos hsame, if_neg (not_not.mpr hc)]
      rfl
    · have hdiff : some (foldCase cmd.bytes[i]) ≠ some (foldCase arg.bytes[i]) :=
        fun h => hc (Option.some.inj h).symm
      simp only [if_neg hdiff, if_pos hc]
      rfl
  · subst heq
    have hc : toLower (BitVec.toNat arg.bytes[cmd.bytes.length]) ≠ toLower (0 : Byte).toNat :=
      foldCase_ne_zero hne
    rw [run_readChar_length, List.getElem?_length, Option.map_none, if_neg (by simp)]
    simp only
    rw [if_pos hc]
    rfl

/-- The loop of `isSubCmd` from its `i`-th step on, when the first `i` characters
agree. -/
theorem run_matchLoop (cmd : CString) (minMatch : ℕ) (arg : CString) (st : σ) (n i : ℕ)
    (hcmd : i ≤ cmd.bytes.length) (harg : i ≤ arg.bytes.length)
    (hn : cmd.bytes.length < i + n) :
    (searchFrom (matchChar cmd minMatch arg) i n).run st =
      .ok (some (decide (minMatch ≤ arg.bytes.length) &&
        ((arg.bytes.drop i).map foldCase).isPrefixOf
          ((cmd.bytes.drop i).map foldCase))) st := by
  induction n generalizing i with
  | zero => omega
  | succ n ih =>
      rw [searchFrom, EStateM.run_bind]
      rcases Nat.lt_or_eq_of_le harg with hlt | heq
      · rw [run_matchChar_of_lt cmd minMatch arg st hlt hcmd, List.drop_eq_getElem_cons hlt]
        rcases Nat.lt_or_eq_of_le hcmd with hlt' | heq'
        · rw [List.getElem?_eq_getElem hlt', List.drop_eq_getElem_cons hlt']
          simp only [Option.map_some, Option.some.injEq, List.map_cons,
            List.isPrefixOf_cons_cons]
          by_cases hc : foldCase cmd.bytes[i] = foldCase arg.bytes[i]
          · rw [if_pos hc, hc, beq_self_eq_true, Bool.true_and]
            exact ih (i + 1) hlt' hlt (by omega)
          · rw [if_neg hc, beq_false_of_ne (Ne.symm hc), Bool.false_and, Bool.and_false]
            rfl
        · subst heq'
          simp only [List.getElem?_length, List.drop_length, List.map_cons, List.map_nil,
            List.isPrefixOf_cons_nil, Bool.and_false]
          rfl
      · subst heq
        rw [run_matchChar_length, List.drop_length]
        simp

/-- **`isSubCmd`** on a word of fewer than 256 characters. -/
theorem run_isSubCmd {cmd : CString} (h : cmd.bytes.length < 256) (minMatch : ℕ)
    (arg : CString) (st : σ) :
    (isSubCmd cmd minMatch arg).run st = .ok (subCmd cmd minMatch arg) st := by
  unfold isSubCmd
  rw [EStateM.run_bind, run_matchLoop cmd minMatch arg st 256 0 (Nat.zero_le _)
    (Nat.zero_le _) (by omega)]
  rfl

/-! ## Numbers -/

/-- A digit below ten is a decimal digit. -/
theorem decimalDigit_eq (c : Byte) :
    decimalDigit c = (digitValue c).bind fun value => if value < 10 then some value else none := by
  revert c
  decide +kernel

/-- The loop of `simple_strtoul`: what has been read, moved up by the digits to
come, and the digits to come. -/
theorem strtoulLoop_eq (w n : ℕ) (cp : List Byte) :
    strtoulLoop w 10 (BitVec.ofNat w n) cp =
      BitVec.ofNat w (n * 10 ^ (leadingDigits cp).length + ofDecimal (leadingDigits cp)) := by
  induction cp generalizing n with
  | nil => simp [strtoulLoop, leadingDigits, ofDecimal]
  | cons c cp ih =>
      have hdigit := decimalDigit_eq c
      rw [strtoulLoop, leadingDigits]
      cases hv : digitValue c with
      | none =>
          rw [hv] at hdigit
          simp [hdigit, ofDecimal]
      | some value =>
          rw [hv, Option.bind_some] at hdigit
          by_cases hlt : value < 10
          · rw [if_pos hlt] at hdigit
            simp only [hdigit, if_pos hlt]
            rw [← BitVec.ofNat_mul, ← BitVec.ofNat_add, ih, ofDecimal_cons, List.length_cons]
            congr 1
            ring
          · rw [if_neg hlt] at hdigit
            simp [hdigit, if_neg hlt, ofDecimal]

/-- **`simple_strtoul`** reads the leading decimal digits modulo the width of its
result. -/
theorem simpleStrtoul_eq (w : ℕ) (cp : CString) :
    simpleStrtoul w cp = BitVec.ofNat w cp.numberRead := by
  rw [simpleStrtoul, show (0 : BitVec w) = BitVec.ofNat w 0 from rfl, strtoulLoop_eq,
    Nat.zero_mul, Nat.zero_add]
  rfl

/-- What `ProcessNextCmdArg` stores. -/
def argValue (arg : CString) : BitVec 32 := BitVec.ofNat 32 arg.numberRead

theorem setWidth_simpleStrtoul (arg : CString) :
    (simpleStrtoul B.ulong arg).setWidth 32 = argValue arg := by
  rw [simpleStrtoul_eq, argValue, BitVec.setWidth_ofNat_of_le B.ulong_ge]

/-! ## Commands -/

/-- What a command line asks for. -/
inductive Command where
  /-- There is no sub-command. -/
  | missing
  /-- The sub-command is none of the three. -/
  | invalid (arg : CString)
  | list
  | runAll (loopCnt : BitVec 32)
  | run (testIndex : BitVec 32)
  /-- `run`, with any number of arguments but one. -/
  | runUsage
  deriving DecidableEq

/-- The arguments of `runAll`: two of them, the second a number, or anything. -/
def parseRunAll : List CString → Command
  | [_, times] => .runAll (argValue times)
  | _ => .runAll 0

/-- The arguments of `run`: exactly one. -/
def parseRun : List CString → Command
  | [testNum] => .run (argValue testNum)
  | _ => .runUsage

/-- The decisions of `do_boarddiag`. -/
def parse : List CString → Command
  | _ :: sub :: args =>
      if subCmd wordList 1 sub then .list
      else if subCmd wordRunAll 4 sub then parseRunAll args
      else if subCmd wordRun 2 sub then parseRun args
      else .invalid sub
  | _ => .missing

/-- What `do_boarddiag` does about it. -/
def Command.exec (fuel : ℕ) : Command → Diag B A D CommandRet
  | .missing => return .usage
  | .invalid arg => do
      printf (.invalidOption arg)
      return .usage
  | .list => do
      showTestList
      return .success
  | .runAll loopCnt => do
      runAllTests fuel 0 loopCnt logMaskAll
      return .success
  | .run testIndex => runtestByTestId fuel [testIndex] 0 0 logMaskAll
  | .runUsage => return .usage

/-- The `runAll` branch looks at its arguments only if there are two. -/
theorem run_runAllBranch (fuel : ℕ) (cmd sub : CString) (args : List CString)
    (s : State B A D) :
    (runAllBranch fuel 1 (cmd :: sub :: args)).run s =
      ((parseRunAll args).exec fuel).run s := by
  match args with
  | [_, times] =>
      rw [parseRunAll, ← setWidth_simpleStrtoul (B := B) times]
      rfl
  | [] => rfl
  | [_] => rfl
  | _ :: _ :: _ :: _ => rfl

/-- The `run` branch wants exactly one argument. -/
theorem run_runBranch (fuel : ℕ) (cmd sub : CString) (args : List CString)
    (s : State B A D) :
    (runBranch fuel 1 (cmd :: sub :: args)).run s =
      ((parseRun args).exec fuel).run s := by
  match args with
  | [testNum] =>
      rw [parseRun, ← setWidth_simpleStrtoul (B := B) testNum]
      rfl
  | [] => rfl
  | _ :: _ :: _ => rfl

/-- The first argument that is fetched is the sub-command word. -/
theorem run_processNextArg_zero (cmd sub : CString) (args : List CString) (s : State B A D) :
    (processNextArg 0 (cmd :: sub :: args).length (cmd :: sub :: args)).run s =
      .ok (1, some sub) s :=
  rfl

/-- The chain of tests on the sub-command word. -/
theorem run_dispatch (fuel : ℕ) (argv : List CString) (s : State B A D) :
    (dispatch fuel argv).run s = ((parse argv).exec fuel).run s := by
  match argv with
  | [] => rfl
  | [_] => rfl
  | cmd :: sub :: args =>
      have hlist : (isSubCmd wordList 1 sub).run s = .ok (subCmd wordList 1 sub) s :=
        run_isSubCmd (by decide) 1 sub s
      have hrunAll : (isSubCmd wordRunAll 4 sub).run s = .ok (subCmd wordRunAll 4 sub) s :=
        run_isSubCmd (by decide) 4 sub s
      have hrun : (isSubCmd wordRun 2 sub).run s = .ok (subCmd wordRun 2 sub) s :=
        run_isSubCmd (by decide) 2 sub s
      unfold dispatch parse
      rw [EStateM.run_bind, run_processNextArg_zero]
      simp only
      rw [EStateM.run_bind, hlist]
      cases subCmd wordList 1 sub with
      | true => rfl
      | false =>
          simp only [Bool.false_eq_true, if_false]
          rw [EStateM.run_bind, hrunAll]
          cases subCmd wordRunAll 4 sub with
          | true => exact run_runAllBranch fuel cmd sub args s
          | false =>
              simp only [Bool.false_eq_true, if_false]
              rw [EStateM.run_bind, hrun]
              cases subCmd wordRun 2 sub with
              | true => exact run_runBranch fuel cmd sub args s
              | false => rfl

/-- **`do_boarddiag`** prints its banner, decides what it is asked for, and does
it. -/
theorem run_doBoarddiag (fuel : ℕ) (argv : List CString) (s : State B A D) :
    (doBoarddiag fuel argv).run s =
      ((parse argv).exec fuel).run { s with trace := s.trace ++ [.print .banner] } :=
  run_dispatch fuel argv _

end BoardDiag
