import BoardDiag.Machine.LinkerList
import BoardDiag.Usage.Dispatch

/-!
# Where the list of tests comes from

`include/linker_lists.h` of U-Boot, the line `KEEP(*(SORT(.u_boot_list*)))` of its linker script,
and the macros of `common/process_diagtest_cmds.h` that use them.

Tests are declared wherever it is convenient, and nobody writes down a list of them.
`INVOKE_TEST_WITH_PARAM` puts an entry into a section whose name is made of the name of the
board's list and the name of the test, and `ProcessTestList` takes for the list what lies
between two marks.  So it is the linker that decides on the numbers by which tests are run.

`run_number_is_rank` is what becomes of that.  The number of a test is the number of tests of
its board that come before it in the order of `strcmp`, wherever they have been declared and
in whatever order the program has been linked; and what has been declared for another board
does not count, even if there is no such board.

This rests on names.  The marks of a list do not keep off what sorts between them, and the
entries of a list `testList_am335x_bbb_2` sort between the marks of `testList_am335x_bbb`.
-/

namespace BoardDiag

open Machine

variable {ε : Type}

/-! ## Linker lists -/

/-- The bytes of a name as numbers: what `strcmp` compares. -/
def sortKey (s : CString) : List ℕ := s.bytes.map BitVec.toNat

/-- An entry that is declared with `ll_entry_declare(type, name, list)`. -/
structure LlEntry (ε : Type) where
  list : CString
  name : CString
  entry : ε

/-- `.u_boot_list_2_`. -/
def uBootList2 : CString :=
  .ofChars ['.', 'u', '_', 'b', 'o', 'o', 't', '_', 'l', 'i', 's', 't', '_', '2', '_']

/-- `ll_entry_declare(type, name, list)`: the section `.u_boot_list_2_"#list"_2_"#name`. -/
def llEntryDeclare (d : LlEntry ε) : LinkSection (List ℕ) (LlEntry ε) where
  name := sortKey (uBootList2 ++ d.list ++ .ofChars ['_', '2', '_'] ++ d.name)
  content := [d]

/-- The mark of `ll_entry_start(type, list)`: the section `.u_boot_list_2_"#list"_1`. -/
def llEntryStart (list : CString) : LinkSection (List ℕ) (LlEntry ε) where
  name := sortKey (uBootList2 ++ list ++ .ofChars ['_', '1'])
  content := []

/-- The mark of `ll_entry_end(type, list)`: the section `.u_boot_list_2_"#list"_3`. -/
def llEntryEnd (list : CString) : LinkSection (List ℕ) (LlEntry ε) where
  name := sortKey (uBootList2 ++ list ++ .ofChars ['_', '3'])
  content := []

/-- The sections of a program with some declarations that uses some lists. -/
def llSections (declared : List (LlEntry ε)) (used : List CString) :
    List (LinkSection (List ℕ) (LlEntry ε)) :=
  declared.map llEntryDeclare ++ used.flatMap fun list => [llEntryStart list, llEntryEnd list]

/-- What lies between `ll_entry_start(type, list)` and `ll_entry_end(type, list)`, and is counted
by `ll_entry_count(type, list)`, once the sections have been linked. -/
def llEntries (sections : List (LinkSection (List ℕ) (LlEntry ε))) (list : CString) :
    List (LlEntry ε) :=
  region (link sections) (llEntryStart (ε := ε) list).name (llEntryEnd (ε := ε) list).name

/-- The name of the section of an entry. -/
def LlEntry.key (d : LlEntry ε) : List ℕ := (llEntryDeclare d).name

/-- The section of an entry is sorted between the marks of a list. -/
def LlEntry.Between (list : CString) (d : LlEntry ε) : Prop :=
  (llEntryStart (ε := ε) list).name ≤ d.key ∧ d.key < (llEntryEnd (ε := ε) list).name

instance (list : CString) (d : LlEntry ε) : Decidable (d.Between list) :=
  inferInstanceAs (Decidable (_ ∧ _))

/-! ## What lies between the marks -/

section Between

variable {declared : List (LlEntry ε)} {used : List CString} {list : CString}

theorem sortKey_append (s t : CString) : sortKey (s ++ t) = sortKey s ++ sortKey t :=
  List.map_append

theorem sortKey_injective {s t : CString} (h : sortKey s = sortKey t) : s = t :=
  CString.ext (List.map_injective_iff.mpr (fun _ _ => BitVec.eq_of_toNat_eq) h)

/-- What the names of the sections of a list begin with. -/
def stem (list : CString) : List ℕ := sortKey (uBootList2 ++ list)

theorem key_eq (d : LlEntry ε) : d.key = stem d.list ++ (95 :: 50 :: 95 :: sortKey d.name) := by
  rw [LlEntry.key, llEntryDeclare, sortKey_append, sortKey_append, ← stem, List.append_assoc]
  rfl

theorem name_llEntryStart : (llEntryStart (ε := ε) list).name = stem list ++ [95, 49] := by
  rw [llEntryStart, sortKey_append]
  rfl

theorem name_llEntryEnd : (llEntryEnd (ε := ε) list).name = stem list ++ [95, 51] := by
  rw [llEntryEnd, sortKey_append]
  rfl

/-- The entries of a list are between its marks. -/
theorem between_of_list_eq {d : LlEntry ε} (h : d.list = list) : d.Between list := by
  rw [LlEntry.Between, name_llEntryStart, name_llEntryEnd, key_eq, h, append_lt_append_iff,
    ← not_lt, append_lt_append_iff]
  constructor
  · simp [List.cons_lt_cons_iff]
  · simp [List.cons_lt_cons_iff]

section Linked

variable {sections : List (LinkSection (List ℕ) (LlEntry ε))}
  (hsections : sections.Perm (llSections declared used)) (hused : list ∈ used)

include hsections hused

/-- The marks are there. -/
theorem exists_mark {s : LinkSection (List ℕ) (LlEntry ε)}
    (hs : s = llEntryStart list ∨ s = llEntryEnd list) :
    ∃ t ∈ link sections, t.name = s.name := by
  refine ⟨s, (link_perm sections).mem_iff.mpr (hsections.mem_iff.mpr ?_), rfl⟩
  rw [llSections, List.mem_append, List.mem_flatMap]
  exact .inr ⟨list, hused, by simpa using hs⟩

/-- **What lies between the marks**: the entries of the list, in the order of the names of
their sections, if nothing else is sorted there. -/
theorem llEntries_spec (hclear : ∀ d ∈ declared, d.list ≠ list → ¬ d.Between list) :
    (llEntries sections list).Perm (declared.filter fun d => decide (d.list = list)) ∧
      (llEntries sections list).Pairwise fun d e => d.key ≤ e.key := by
  have hle : (llEntryStart (ε := ε) list).name ≤ (llEntryEnd (ε := ε) list).name := by
    rw [name_llEntryStart, name_llEntryEnd, ← not_lt, append_lt_append_iff]
    simp [List.cons_lt_cons_iff]
  have hregion := region_eq (pairwise_link sections) hle
    (exists_mark hsections hused (.inl rfl)) (exists_mark hsections hused (.inr rfl))
  rw [llEntries, hregion, contents]
  constructor
  · -- of what is between, the marks are empty
    refine ((((link_perm sections).trans hsections).filter _).flatMap_right _).trans ?_
    rw [llSections, List.filter_append, List.flatMap_append, List.filter_map, List.flatMap_map]
    have hmarks : ((used.flatMap fun list => [llEntryStart list, llEntryEnd list]).filter
        (LinkSection.between (llEntryStart (ε := ε) list).name
          (llEntryEnd (ε := ε) list).name)).flatMap
        (LinkSection.content : _ → List (LlEntry ε)) = [] := by
      refine List.flatMap_eq_nil_iff.mpr fun s hs => ?_
      obtain ⟨list', -, hs'⟩ := List.mem_flatMap.mp (List.mem_of_mem_filter hs)
      rcases List.mem_pair.mp hs' with rfl | rfl
      · rfl
      · rfl
    rw [hmarks, List.append_nil]
    show (List.flatMap (fun d => [d]) _).Perm _
    rw [List.flatMap_singleton']
    refine List.Perm.of_eq (List.filter_congr fun d hd => ?_)
    rw [Function.comp_apply, Bool.eq_iff_iff, LinkSection.between_iff, decide_eq_true_iff]
    show d.Between list ↔ _
    by_cases hlist : d.list = list
    · exact iff_of_true (between_of_list_eq hlist) hlist
    · exact iff_of_false (hclear d hd hlist) hlist
  · rw [List.pairwise_flatMap]
    -- an entry has the name of its section
    have hname : ∀ s ∈ link sections, ∀ d ∈ s.content, d.key = s.name := by
      intro s hs d hd
      have hmem := hsections.mem_iff.mp ((link_perm sections).mem_iff.mp hs)
      rw [llSections, List.mem_append, List.mem_map, List.mem_flatMap] at hmem
      rcases hmem with ⟨e, -, rfl⟩ | ⟨list', -, hs'⟩
      · rw [List.mem_singleton.mp hd]
        rfl
      · rcases List.mem_pair.mp hs' with rfl | rfl
        · exact absurd hd List.not_mem_nil
        · exact absurd hd List.not_mem_nil
    refine ⟨fun s hs => List.pairwise_of_forall_mem_list ?_, ?_⟩
    · intro d hd e he
      have hmem := List.mem_of_mem_filter hs
      rw [hname s hmem d hd, hname s hmem e he]
    · refine ((pairwise_link sections).filter _).imp_of_mem fun hs ht hst d hd e he => ?_
      rwa [hname _ (List.mem_of_mem_filter hs) d hd, hname _ (List.mem_of_mem_filter ht) e he]

/-- **The place of an entry in its list** is the number of entries with smaller names, if no
two have one name. -/
theorem llEntries_getElem? (hclear : ∀ d ∈ declared, d.list ≠ list → ¬ d.Between list)
    (hnames : ((declared.filter fun d => decide (d.list = list)).map LlEntry.name).Nodup)
    {d : LlEntry ε} (hd : d ∈ declared) (hlist : d.list = list) :
    (llEntries sections list)[(declared.filter fun d => decide (d.list = list)).countP
      fun e => isBelow (sortKey e.name) (sortKey d.name)]? = some d := by
  obtain ⟨hperm, hsorted⟩ := llEntries_spec hsections hused hclear
  have hof : ∀ e ∈ llEntries sections list, e.list = list := fun e he => by
    simpa using List.of_mem_filter (hperm.mem_iff.mp he)
  have hdistinct := (hperm.map LlEntry.name).nodup_iff.mpr hnames
  have hkey : ∀ {e f : LlEntry ε}, e.list = list → f.list = list →
      (e.key < f.key ↔ sortKey e.name < sortKey f.name) := by
    intro e f he hf
    rw [key_eq, key_eq, he, hf, append_lt_append_iff]
    simp only [List.cons_lt_cons_self]
  have hstrict : (llEntries sections list).Pairwise fun d e => d.key < e.key := by
    refine (hsorted.and (List.pairwise_map.mp hdistinct)).imp_of_mem ?_
    rintro e f he hf ⟨hle, hne⟩
    refine lt_of_le_of_ne hle fun hsame => hne ?_
    have hlt := hkey (hof e he) (hof f hf)
    have hgt := hkey (hof f hf) (hof e he)
    rw [hsame, iff_false_left (lt_irrefl _), not_lt] at hlt
    rw [hsame, iff_false_left (lt_irrefl _), not_lt] at hgt
    exact sortKey_injective (le_antisymm hgt hlt)
  have hmem : d ∈ llEntries sections list :=
    hperm.mem_iff.mpr (List.mem_filter.mpr ⟨hd, decide_eq_true hlist⟩)
  have hplace := getElem?_countP hstrict hmem
  rw [hperm.countP_eq] at hplace
  rw [← hplace]
  congr 1
  refine List.countP_congr fun e he => ?_
  have he' : e.list = list := by simpa using List.of_mem_filter he
  rw [isBelow_iff, isBelow_iff, hkey he' hlist]

end Linked

end Between

/-! ## The tests of a program -/

variable {B : Build} {A D ω : Type}

/-- `testList_##board`. -/
def testListOf (board : CString) : CString :=
  .ofChars ['t', 'e', 's', 't', 'L', 'i', 's', 't', '_'] ++ board

/-- The names by which `ProcessTestList` knows the boards. -/
def Board.token : Board → CString
  | .bcm2836Rpi2 => .ofChars ['b', 'c', 'm', '2', '8', '3', '6', '_', 'r', 'p', 'i', '2']
  | .am335xBbb => .ofChars ['a', 'm', '3', '3', '5', 'x', '_', 'b', 'b', 'b']

/-- A line `INVOKE_TEST_WITH_PARAM(board, description, function, argument) = ...`. -/
structure Declaration (A D : Type) where
  board : CString
  description : CString
  function : CString
  argument : CString
  testFunction : TestFunction A D
  testArgs : A

namespace Declaration

variable (d : Declaration A D)

/-- `function##_##argument`. -/
def name : CString := d.function ++ .ofChars ['_'] ++ d.argument

/-- What is registered. -/
def registration : Registration A D :=
  invokeTestWithParamEntry d.description d.function d.argument d.testFunction d.testArgs

/-- `INVOKE_TEST_WITH_PARAM(board, description, function, argument)`. -/
def invokeTestWithParam : LlEntry (Registration A D ⊕ ω) where
  list := testListOf d.board
  name := d.name
  entry := .inl d.registration

end Declaration

/-- The tests a program declares, and what else it has in linker lists.  No two symbols are the
same, or the program could not be linked. -/
structure Program (A D ω : Type) where
  tests : List (Declaration A D)
  others : List (LlEntry ω)
  distinct : ∀ b : Board,
    ((tests.filter fun d => decide (d.board = b.token)).map Declaration.name).Nodup

namespace Program

variable (p : Program A D ω)

/-- All that is declared. -/
def declared : List (LlEntry (Registration A D ⊕ ω)) :=
  p.tests.map Declaration.invokeTestWithParam ++
    p.others.map fun d => ⟨d.list, d.name, .inr d.entry⟩

/-- Nothing but its tests is sorted between the marks of the list of a board. -/
structure Clear (b : Board) : Prop where
  tests : ∀ d ∈ p.tests, d.board ≠ b.token →
    ¬ (d.invokeTestWithParam (ω := ω)).Between (testListOf b.token)
  others : ∀ d ∈ p.others, ¬ d.Between (testListOf b.token)

/-- The tests of a board. -/
def testsOf (b : Board) : List (Declaration A D) :=
  p.tests.filter fun d => decide (d.board = b.token)

/-- The number of tests of a board that come before a test. -/
def rank (b : Board) (d : Declaration A D) : ℕ :=
  (p.testsOf b).countP fun e => isBelow (sortKey e.name) (sortKey d.name)

end Program

-- a name that goes on after an underscore may well be sorted there
example : (⟨testListOf (.ofChars "am335x_bbb_2".toList), .ofChars "ping_test_eth".toList, ()⟩ :
    LlEntry Unit).Between (testListOf Board.am335xBbb.token) := by decide +kernel

/-- The lists that are asked for: by `ProcessTestList` those of the boards, and others. -/
def usedLists (more : List CString) : List CString :=
  [testListOf Board.bcm2836Rpi2.token, testListOf Board.am335xBbb.token] ++ more

/-- The list `ProcessTestList` finds for a board. -/
def linkedTests (sections : List (LinkSection (List ℕ) (LlEntry (Registration A D ⊕ ω))))
    (b : Board) : List (Registration A D) :=
  (llEntries sections (testListOf b.token)).filterMap fun d => d.entry.getLeft?

/-- **Running a test by its number**, if the ids are distinct: the test at this place is called,
on the board as it is. -/
theorem Reachable.run_number {R : Registry A D} {dev : D} {s : State B A D}
    (h : Reachable R dev s) (hdim : (R.suite B).length ≤ dimTestList)
    (hids : (hashes (R.suite B)).Nodup) {k : ℕ} {r : Registration A D}
    (hr : (R.suite B)[k]? = some r) {f : TestFunction A D} (hf : r.testFunction = some f)
    {argv : List CString} (hargv : IsRun argv k) {fuel : ℕ} (hfuel : 1 < fuel) :
    ∃ s', (doBoarddiag fuel argv).run s = .ok .success s' ∧
      s'.dev = (f r.hash r.testArgs 0 s.dev).2.2 ∧
      callsOf s'.trace = callsOf s.trace ++
        [⟨k, r.hash, r.testArgs, (f r.hash r.testArgs 0 s.dev).1⟩] := by
  obtain ⟨hk, hentry⟩ := List.getElem?_eq_some_iff.mp hr
  have hid : (hashes (R.suite B))[k]? = some r.hash := by
    rw [hashes, List.getElem?_map, hr, Option.map_some]
  have hlookup : lookup (R.suite B) r.hash = some (k, r) := by
    have hfirst := locate_hash_iff_nodup.mpr hids k hk
    rw [hentry] at hfirst
    rw [lookup_of_locate_some hfirst hk, hentry]
  obtain ⟨a, hemb, -, -, hcommand⟩ := h.exists_bench
  obtain ⟨s', hemb', hbench, hrun⟩ := hcommand fuel argv
  rw [a.bench.perform_isRun hdim hargv hid hfuel] at hbench hrun
  rw [hargv.ret_eq_success hdim hk] at hrun
  rw [Bench.runTest, hlookup] at hbench
  simp only [hf] at hbench
  refine ⟨s', hrun, ?_, ?_⟩
  · rw [hemb'.dev_eq_bench, hbench, hemb.dev_eq_bench]
    rfl
  · rw [hemb'.calls_eq, hbench, hemb.calls_eq, hemb.dev_eq_bench]
    rfl

section Tests

variable {p : Program A D ω} {b : Board}

theorem testListOf_injective {s t : CString} (h : testListOf s = testListOf t) : s = t := by
  have hbytes := congrArg CString.bytes h
  exact CString.ext (List.append_cancel_left hbytes)

theorem Program.Clear.not_between (h : p.Clear b) : ∀ d ∈ p.declared,
    d.list ≠ testListOf b.token → ¬ d.Between (testListOf b.token) := by
  intro d hd hne
  rw [Program.declared, List.mem_append, List.mem_map, List.mem_map] at hd
  rcases hd with ⟨t, ht, rfl⟩ | ⟨o, ho, rfl⟩
  · exact h.tests t ht fun hboard => hne (congrArg testListOf hboard)
  · exact h.others o ho

/-- What is declared for a board are its tests. -/
theorem Program.Clear.declared_filter (h : p.Clear b) :
    (p.declared.filter fun d => decide (d.list = testListOf b.token)) =
      (p.testsOf b).map Declaration.invokeTestWithParam := by
  have hothers : (p.others.map fun d : LlEntry ω =>
      (⟨d.list, d.name, .inr d.entry⟩ : LlEntry (Registration A D ⊕ ω))).filter
        (fun d => decide (d.list = testListOf b.token)) = [] := by
    refine List.filter_eq_nil_iff.mpr fun d hd => ?_
    obtain ⟨o, ho, rfl⟩ := List.mem_map.mp hd
    rw [decide_eq_true_iff]
    exact fun hsame => h.others o ho (between_of_list_eq hsame)
  rw [Program.declared, List.filter_append, hothers, List.append_nil, List.filter_map,
    Program.testsOf]
  congr 1
  refine List.filter_congr fun d _ => ?_
  rw [Function.comp_apply, decide_eq_decide]
  exact ⟨testListOf_injective, congrArg testListOf⟩

variable {sections : List (LinkSection (List ℕ) (LlEntry (Registration A D ⊕ ω)))}
  {more : List CString} (hsections : sections.Perm (llSections p.declared (usedLists more)))
  (hclear : p.Clear b)

include hsections hclear

omit hsections hclear in
theorem testListOf_mem_usedLists : testListOf b.token ∈ usedLists more := by
  cases b <;> simp [usedLists]

/-- **The list of a board** consists of what has been declared for it. -/
theorem linkedTests_perm :
    (linkedTests sections b).Perm ((p.testsOf b).map Declaration.registration) := by
  have hperm := (llEntries_spec hsections testListOf_mem_usedLists
    hclear.not_between).1.filterMap fun d => d.entry.getLeft?
  rw [hclear.declared_filter, List.filterMap_map] at hperm
  have hmap : (p.testsOf b).filterMap ((fun d : LlEntry (Registration A D ⊕ ω) =>
      d.entry.getLeft?) ∘ Declaration.invokeTestWithParam) =
      (p.testsOf b).map Declaration.registration :=
    congrFun (List.filterMap_eq_map (f := Declaration.registration)) _
  rwa [hmap] at hperm

/-- **The place of a test** on the list of its board is its rank. -/
theorem linkedTests_getElem? {d : Declaration A D} (hd : d ∈ p.testsOf b) :
    (linkedTests sections b)[p.rank b d]? = some d.registration := by
  have hnames : ((p.declared.filter fun d => decide (d.list = testListOf b.token)).map
      LlEntry.name).Nodup := by
    rw [hclear.declared_filter, List.map_map]
    exact p.distinct b
  obtain ⟨hd', hboard⟩ := List.mem_filter.mp hd
  have hdeclared : (d.invokeTestWithParam : LlEntry (Registration A D ⊕ ω)) ∈ p.declared :=
    List.mem_append_left _ (List.mem_map_of_mem hd')
  have hplace := llEntries_getElem? hsections testListOf_mem_usedLists hclear.not_between hnames
    hdeclared (congrArg testListOf (of_decide_eq_true hboard))
  rw [hclear.declared_filter, List.countP_map] at hplace
  -- between the marks there are tests only
  have hall : ∀ e ∈ llEntries sections (testListOf b.token), e.entry.getLeft?.isSome := by
    intro e he
    have hmem :=
      (llEntries_spec hsections testListOf_mem_usedLists hclear.not_between).1.mem_iff.mp he
    rw [hclear.declared_filter] at hmem
    obtain ⟨t, -, rfl⟩ := List.mem_map.mp hmem
    rfl
  have hrank : (p.testsOf b).countP ((fun e : LlEntry (Registration A D ⊕ ω) =>
      isBelow (sortKey e.name) (sortKey (d.invokeTestWithParam (ω := ω)).name)) ∘
      Declaration.invokeTestWithParam) = p.rank b d := rfl
  rw [hrank] at hplace
  rw [linkedTests, getElem?_filterMap_of_isSome hall, hplace]
  rfl

/-- A list of all tests of a board, each at the place that is its rank, is the list of the
board. -/
theorem linkedTests_eq {l : List (Declaration A D)} (hlength : l.length = (p.testsOf b).length)
    (hl : ∀ k (hk : k < l.length), l[k] ∈ p.testsOf b ∧ p.rank b l[k] = k) :
    linkedTests sections b = l.map Declaration.registration := by
  have hlinked : (linkedTests sections b).length = l.length := by
    rw [(linkedTests_perm hsections hclear).length_eq, List.length_map, hlength]
  refine List.ext_getElem? fun k => ?_
  by_cases hk : k < l.length
  · obtain ⟨hmem, hrank⟩ := hl k hk
    have hplace := linkedTests_getElem? hsections hclear hmem
    rw [hrank] at hplace
    rw [hplace, List.getElem?_map, List.getElem?_eq_getElem hk, Option.map_some]
  · rw [List.getElem?_eq_none (by omega), List.getElem?_eq_none (by rw [List.length_map]; omega)]

omit hclear in
/-- **The number of a test.**  Wherever the tests of a program are declared, in whatever order it
is linked, and whatever else it has in linker lists as long as none of that is sorted between
the marks of the board's list: the tests on the list are those that have been declared for the
board of the build, each at the place that is the number of these tests with smaller names; and if
there are at most 200 of them and no two have one id, `run` with this number, from any state
that can be reached, calls this test and no other. -/
theorem run_number_is_rank (hclear : p.Clear B.boardDefault) {R : Registry A D}
    (hR : R.suite B = linkedTests sections B.boardDefault)
    (hdim : (p.testsOf B.boardDefault).length ≤ dimTestList)
    (hids : ((p.testsOf B.boardDefault).map fun d => d.registration.hash).Nodup) {dev : D}
    {s : State B A D} (h : Reachable R dev s) {fuel : ℕ} (hfuel : 1 < fuel) :
    (R.suite B).Perm ((p.testsOf B.boardDefault).map Declaration.registration) ∧
      ∀ d ∈ p.testsOf B.boardDefault,
        (R.suite B)[p.rank B.boardDefault d]? = some d.registration ∧
        ∀ argv, IsRun argv (p.rank B.boardDefault d) →
          ∃ s', (doBoarddiag fuel argv).run s = .ok .success s' ∧
            (callsOf s'.trace).map Call.index =
              (callsOf s.trace).map Call.index ++ [p.rank B.boardDefault d] := by
  have hperm : (R.suite B).Perm ((p.testsOf B.boardDefault).map Declaration.registration) :=
    hR ▸ linkedTests_perm hsections hclear
  have hdim' : (R.suite B).length ≤ dimTestList := by
    rwa [hperm.length_eq, List.length_map]
  have hids' : (hashes (R.suite B)).Nodup := by
    rw [hashes, (hperm.map _).nodup_iff, List.map_map]
    exact hids
  refine ⟨hperm, fun d hd => ?_⟩
  have hplace : (R.suite B)[p.rank B.boardDefault d]? = some d.registration := by
    rw [hR, linkedTests_getElem? hsections hclear hd]
  refine ⟨hplace, fun argv hargv => ?_⟩
  obtain ⟨s', hrun, -, hcalls⟩ := h.run_number hdim' hids' hplace rfl hargv hfuel
  refine ⟨s', hrun, ?_⟩
  rw [hcalls, List.map_append]
  rfl

end Tests

/-! ## The clock of the BeagleBone -/

/-- A test of the clock that passes, for a board. -/
def clockTest (board : CString) (function : List Char) : Declaration Unit Unit where
  board := board
  description := .ofChars ['R', 'T', 'C']
  function := .ofChars function
  argument := .ofChars "value".toList
  testFunction := fun _ _ _ d => (.pass, [], d)
  testArgs := ()

/-- The two tests of the clock in the order of `am335x_bbb.c`, and one for a board that
`ProcessTestList` does not know. -/
def clockTests : List (Declaration Unit Unit) :=
  [clockTest Board.am335xBbb.token "ds2321_rtc_set_time_test".toList,
    clockTest (.ofChars "bcm2836_bbb".toList) "ds2321_rtc_adjust_time_test".toList,
    clockTest Board.am335xBbb.token "ds2321_rtc_get_time_test".toList]

/-- A program with these tests and with a command. -/
def clockProgram : Program Unit Unit Unit where
  tests := clockTests
  others := [⟨.ofChars "cmd".toList, .ofChars "boarddiag".toList, ()⟩]
  distinct b := by cases b <;> decide +kernel

theorem clear_clockProgram (b : Board) : clockProgram.Clear b where
  tests := by cases b <;> decide +kernel
  others := by cases b <;> decide +kernel

/-- The sections, the last one first. -/
def clockSections : List (LinkSection (List ℕ) (LlEntry (Registration Unit Unit ⊕ Unit))) :=
  (llSections clockProgram.declared (usedLists [.ofChars "cmd".toList])).reverse

theorem clockSections_perm : clockSections.Perm
    (llSections clockProgram.declared (usedLists [.ofChars "cmd".toList])) :=
  List.reverse_perm _

/-- What `ProcessTestList` finds in the linked program. -/
def clockRegistry : Registry Unit Unit where
  tests := linkedTests clockSections
  fits b := by
    rw [(linkedTests_perm clockSections_perm (clear_clockProgram b)).length_eq, List.length_map]
    cases b <;> decide +kernel

/-- The time is read by `run 0` and set by `run 1`, though it is set first in the file. -/
theorem run_number_is_rank_clock :
    (clockRegistry.suite smallBuild)[0]?.map Registration.name =
        some (.ofChars "ds2321_rtc_get_time_test_value".toList) ∧
      ∃ s', (doBoarddiag 2 [.ofChars ['b', 'd'], wordRun, .ofChars ['1']]).run
          (State.boot clockRegistry () : State smallBuild Unit Unit) = .ok .success s' ∧
        (callsOf s'.trace).map Call.index = [1] := by
  have hboot : Reachable clockRegistry ()
      (State.boot clockRegistry () : State smallBuild Unit Unit) := .refl
  obtain ⟨-, hnumbers⟩ := run_number_is_rank clockSections_perm (clear_clockProgram _) rfl
    (by decide +kernel) (by decide +kernel) hboot Nat.one_lt_two
  obtain ⟨hget, -⟩ := hnumbers
    (clockTest Board.am335xBbb.token "ds2321_rtc_get_time_test".toList)
    (List.mem_filter.mpr ⟨by simp [clockProgram, clockTests], by decide +kernel⟩)
  obtain ⟨-, hset⟩ := hnumbers
    (clockTest Board.am335xBbb.token "ds2321_rtc_set_time_test".toList)
    (List.mem_filter.mpr ⟨by simp [clockProgram, clockTests], by decide +kernel⟩)
  have hrank : clockProgram.rank .am335xBbb
      (clockTest Board.am335xBbb.token "ds2321_rtc_get_time_test".toList) = 0 := by
    decide +kernel
  have hrank' : clockProgram.rank .am335xBbb
      (clockTest Board.am335xBbb.token "ds2321_rtc_set_time_test".toList) = 1 := by
    decide +kernel
  obtain ⟨s', hrun, hcalls⟩ := hset [.ofChars ['b', 'd'], wordRun, .ofChars ['1']]
    ⟨_, _, _, rfl, by decide, by decide, hrank'.symm ▸ by decide⟩
  refine ⟨?_, s', hrun, hcalls.trans ?_⟩
  · rw [← hrank]
    exact (congrArg (Option.map Registration.name) hget).trans (by decide +kernel)
  · exact congrArg ([] ++ [·]) hrank'

end BoardDiag
