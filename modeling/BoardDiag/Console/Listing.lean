import BoardDiag.Console.Readback
import BoardDiag.Usage.Dispatch

/-!
# Typing what is listed

`boarddiag list` prints a row for each test: its number in a column of four, its id in eight
digits, its description and its name.  `boarddiag run` takes a number.  `readListed` takes
the number and the id out of a row, and `run_what_is_listed` closes the circle: whatever row of
the listing one reads a number from, `run` with that number calls the test that has the id in
the same row, from that state or any other.

The banner, the heading and the complaints about ids that occur twice are not taken for rows.
-/

namespace BoardDiag

open Machine

variable {B : Build} {A D : Type}

/-- The number and the id in a row of the listing. -/
def readListed (row : List Byte) : Option (ℕ × BitVec 32) :=
  (splitNumber row).bind fun p =>
    if p.2.take 4 = chars " -- " then
      (readHex ((p.2.drop 4).take 8)).map fun testId => (p.1, BitVec.ofNat 32 testId)
    else none

/-- **A row of the listing is read back.** -/
theorem readListed_numbered (k : ℕ) (testId : BitVec 32) (text : List Byte) :
    readListed (padLeft 4 (signedDecimal k) ++ chars " -- " ++ (hex8 testId ++ text)) =
      some (k, testId) := by
  have hlen : (hex8 testId).length = 8 := length_hexDigits 8 _
  have hdash : chars " -- " = ascii ' ' :: chars "-- " := by decide
  have hsplit : splitNumber (padLeft 4 (signedDecimal k) ++ chars " -- " ++ (hex8 testId ++ text)) =
      some (k, chars " -- " ++ (hex8 testId ++ text)) := by
    rw [List.append_assoc, hdash, List.cons_append]
    exact splitNumber_padLeft 4 k (by decide) _
  have hhex : ((chars " -- " ++ (hex8 testId ++ text)).drop 4).take 8 = hex8 testId :=
    List.take_left' hlen
  have hmark : (chars " -- " ++ (hex8 testId ++ text)).take 4 = chars " -- " := List.take_left' rfl
  rw [readListed, hsplit, Option.bind_some]
  simp only
  rw [if_pos hmark, hhex, readHex_hex8, Option.map_some, BitVec.ofNat_toNat, BitVec.setWidth_eq]

section Listing

variable {R : Registry A D} {cfg : ConsoleConfig}

/-- What is read from the text of printed lines. -/
theorem found_console_print_append {α : Type} (read : List Byte → Option α)
    (chatter : ℕ → List (List Byte)) {ls : List Line} (h : ∀ l ∈ ls, l.Whole cfg)
    (xs : List (Act A)) :
    found read (console cfg chatter (ls.map .print ++ xs)) =
      (ls.flatMap fun l => (l.rows cfg.file).filterMap read) ++
        found read (console cfg chatter xs) := by
  induction ls with
  | nil => rfl
  | cons l ls ih =>
      rw [List.map_cons, List.cons_append, console, (h l List.mem_cons_self).found_append,
        ih fun l' hl' => h l' (List.mem_cons_of_mem _ hl'), List.flatMap_cons, List.append_assoc]

/-- The rows of one listed id: the number and the id are found, the complaints are not. -/
theorem Registry.Printable.found_listedLines (hR : R.Printable B cfg)
    (chatter : ℕ → List (List Byte)) {k : ℕ} (hk : k < (hashes (R.suite B)).length)
    (xs : List (Act A)) :
    found readListed (console cfg chatter
        ((listedLines (R.suite B) true k (hashes (R.suite B))[k]).map .print ++ xs)) =
      (k, (hashes (R.suite B))[k]) :: found readListed (console cfg chatter xs) := by
  have hk' : k < (R.suite B).length := by rwa [length_hashes] at hk
  obtain ⟨j, r, hfirst⟩ := exists_firstWithId (R.suite B) hk'
  have hr : r ∈ R.suite B := mem_of_lookup hfirst.lookup_eq
  have hid : (hashes (R.suite B))[k] = r.hash := by
    simpa [List.getElem?_eq_getElem, hk'] using hfirst.same_id
  have htest := (hR.remark_test hr r.hash).toWhole
  have hindex := hR.fits_index (hk'.trans (R.fits B.boardDefault))
  have hrow : (Line.test r.hash r.description r.name).rows cfg.file =
      [hex8 r.hash ++ (chars " -- " ++ r.description.bytes ++ chars " -- " ++ r.name.bytes)] := by
    simp [Line.rows]
  have hcomplaints : (sameTestIdLines (R.suite B) r.hash).flatMap
      (fun l => (l.rows cfg.file).filterMap readListed) = [] := by
    refine List.flatMap_eq_nil_iff.mpr fun l hl => ?_
    obtain ⟨r', -, rfl⟩ := List.mem_map.mp hl
    rfl
  rw [hid, hfirst.listedLines_eq, List.map_cons, List.map_cons, List.cons_append,
    List.cons_append, console, console, htest.found_numbered readListed hrow hindex,
    readListed_numbered, found_console_print_append readListed chatter fun l hl =>
      (hR.remark_sameTestIdLines _ l hl).toWhole, hcomplaints]
  rfl

/-- **What is read from a listing**: the ids of the tests, numbered. -/
theorem Registry.Printable.found_listing (hR : R.Printable B cfg)
    (chatter : ℕ → List (List Byte)) :
    found readListed (console cfg chatter
        ((listing (R.suite B) B.boardDefault).map (Act.print : Line → Act A))) =
      (hashes (R.suite B)).mapIdx fun k testId => (k, testId) := by
  -- from the `k`-th row on, by induction on what is left
  have hrows : ∀ n k, (hashes (R.suite B)).length = k + n →
      found readListed (console cfg chatter
        (((((hashes (R.suite B)).mapIdx (listedLines (R.suite B) true)).drop k).flatten).map
          (Act.print : Line → Act A))) =
        ((hashes (R.suite B)).mapIdx fun k testId => (k, testId)).drop k := by
    intro n
    induction n with
    | zero =>
        intro k hlen
        rw [List.drop_eq_nil_of_le (by simp [hlen]), List.drop_eq_nil_of_le (by simp [hlen])]
        rfl
    | succ n ih =>
        intro k hlen
        have hk : k < (hashes (R.suite B)).length := by omega
        have hlines := List.drop_eq_getElem_cons (l := (hashes (R.suite B)).mapIdx
          (listedLines (R.suite B) true)) (by rwa [List.length_mapIdx])
        have hpairs := List.drop_eq_getElem_cons (l := (hashes (R.suite B)).mapIdx
          fun k testId => (k, testId)) (by rwa [List.length_mapIdx])
        rw [hlines, hpairs, List.flatten_cons, List.map_append, List.getElem_mapIdx,
          List.getElem_mapIdx, hR.found_listedLines chatter hk, ih (k + 1) (by omega)]
  have hheading : ∀ l ∈ [Line.banner, .listAvailableTests (some B.boardDefault)],
      l.Whole cfg := by
    intro l hl
    rcases List.mem_cons.mp hl with rfl | hl
    · exact Line.whole narrow_nil hR.blank rfl
    · rw [List.mem_singleton.mp hl]
      exact Line.whole narrow_nil hR.blank rfl
  have hall := hrows _ 0 (Nat.zero_add _).symm
  rw [List.drop_zero, List.drop_zero] at hall
  rw [listing, ← hall]
  refine (found_console_print_append readListed chatter hheading _).trans ?_
  rfl

/-- **Typing what is listed.**  From any reachable state of a board with 1 to 200 tests, `list`
prints a text from which the ids of the tests are read, numbered from zero.  If a number is
read from a row of that text, then `run` with this number, from any state that can be reached,
calls the first test with the id in the same row, and no other. -/
theorem run_what_is_listed {dev : D} {s : State B A D} (h : Reachable R dev s)
    (hR : R.Printable B cfg) (hpos : 1 ≤ (R.suite B).length)
    (hdim : (R.suite B).length ≤ dimTestList) {argv : List CString} (hlist : IsList argv)
    {fuel : ℕ} (hfuel : 1 < fuel) (chatter : ℕ → List (List Byte)) :
    ∃ s' xs, (doBoarddiag fuel argv).run s = .ok .success s' ∧ s'.trace = s.trace ++ xs ∧
      found readListed (console cfg chatter xs) =
        ((hashes (R.suite B)).mapIdx fun k testId => (k, testId)) ∧
      ∀ row ∈ lines (console cfg chatter xs), ∀ k testId, readListed row = some (k, testId) →
        ∀ t : State B A D, Reachable R dev t → ∀ argv', IsRun argv' k →
          ∃ t', (doBoarddiag fuel argv').run t = .ok .success t' ∧
            (callsOf t'.trace).map Call.index =
              (callsOf t.trace).map Call.index ++ (callee (R.suite B) testId).toList := by
  obtain ⟨cmd, sub, rfl, hsub⟩ := hlist
  have hparse : parse [cmd, sub] = .list := parse_of_list hsub []
  obtain ⟨a, hemb, -, -, hcommand⟩ := h.exists_bench
  obtain ⟨s', hemb', -, hrun⟩ := hcommand fuel [cmd, sub]
  rw [hparse] at hrun
  have hfound := hR.found_listing (A := A) chatter
  refine ⟨s', _, hrun, by
    rw [hemb'.trace_eq, hemb.trace_eq, a.trace_command_list hpos hdim fuel hparse], hfound, ?_⟩
  intro row hrow k testId hread t ht argv' hargv'
  -- the row is one of those that were found
  have hmem : (k, testId) ∈ (hashes (R.suite B)).mapIdx fun k testId => (k, testId) := by
    rw [← hfound]
    exact List.mem_filterMap.mpr ⟨row, hrow, hread⟩
  obtain ⟨j, hj, hpair⟩ := List.mem_mapIdx.mp hmem
  obtain ⟨rfl, hid⟩ := Prod.mk.inj hpair
  have hid' : (hashes (R.suite B))[j]? = some testId := by
    rw [List.getElem?_eq_getElem hj, hid]
  obtain ⟨b, hembt, -, -, hcommandt⟩ := ht.exists_bench
  obtain ⟨t', hembt', hbench, hrunt⟩ := hcommandt fuel argv'
  rw [b.bench.perform_isRun hdim hargv' hid' hfuel] at hbench hrunt
  rw [hargv'.ret_eq_success hdim (by rwa [length_hashes] at hj)] at hrunt
  refine ⟨t', hrunt, ?_⟩
  rw [hembt'.calls_eq, hbench, Bench.calls_runTest, hembt.calls_eq]
  rfl

/-- The listing of a board with one test. -/
theorem run_what_is_listed_unreadable :
    ∃ (s' : State smallBuild Unit Unit) (xs : List (Act Unit)),
      (doBoarddiag 2 [.ofChars ['b', 'd'], wordList]).run (State.boot unreadableRegistry ()) =
        .ok .success s' ∧
      found readListed (console boneConsole (fun _ => []) xs) =
        [(0, unreadable.hash)] := by
  have hboot : Reachable unreadableRegistry ()
      (State.boot unreadableRegistry () : State smallBuild Unit Unit) := .refl
  obtain ⟨s', xs, hrun, -, hfound, -⟩ :=
    run_what_is_listed hboot printable_unreadable (by decide) (by decide)
      ⟨.ofChars ['b', 'd'], wordList, rfl, by decide⟩ Nat.one_lt_two fun _ => []
  exact ⟨s', xs, hrun, hfound⟩

end Listing

end BoardDiag
