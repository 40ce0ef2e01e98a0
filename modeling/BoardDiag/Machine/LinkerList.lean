import Mathlib.Data.List.Lex
import Mathlib.Order.Lattice

/-!
# Arrays a linker makes

A linker that is told to sort its input sections by name can be used to collect an array from
all over a program: every element goes into a section of its own, and the sections have names
that begin alike.  Two empty sections with names just below and just above theirs mark the
beginning and the end.

`region_eq` says what lies between two such marks, whatever else there is to be linked: the
contents of the sections whose names are between the names of the marks, in the order of their
names.  `getElem?_countP` says at which place a section with a name of its own is then.
-/

namespace BoardDiag
namespace Machine

/-! ## The order of names -/

section Names

variable {α : Type} [LinearOrder α]

theorem append_lt_append_iff (p a b : List α) : p ++ a < p ++ b ↔ a < b := by
  induction p with
  | nil => rfl
  | cons x p ih => rw [List.cons_append, List.cons_append, List.cons_lt_cons_self, ih]

end Names

/-! ## Sections -/

/-- An input section. -/
structure LinkSection (κ ε : Type) where
  name : κ
  content : List ε

section Link

variable {κ ε : Type} [LinearOrder κ]

/-- The sections, sorted by name.  Sections with one name stay in the order in which they
came. -/
def link (l : List (LinkSection κ ε)) : List (LinkSection κ ε) :=
  l.mergeSort fun s t => decide (s.name ≤ t.name)

/-- What the sections hold, one after the other. -/
def contents (l : List (LinkSection κ ε)) : List ε := l.flatMap LinkSection.content

/-- Where the first section with a name begins. -/
def addressOf (l : List (LinkSection κ ε)) (m : κ) : ℕ :=
  (contents (l.takeWhile fun s => decide (s.name ≠ m))).length

/-- What lies between the beginnings of two sections. -/
def region (l : List (LinkSection κ ε)) (m₁ m₂ : κ) : List ε :=
  ((contents l).drop (addressOf l m₁)).take (addressOf l m₂ - addressOf l m₁)

/-- The name of a section is between two others, or is the first of them. -/
def LinkSection.between (m₁ m₂ : κ) (s : LinkSection κ ε) : Bool :=
  decide (m₁ ≤ s.name) && decide (s.name < m₂)

theorem LinkSection.between_iff {m₁ m₂ : κ} {s : LinkSection κ ε} :
    s.between m₁ m₂ = true ↔ m₁ ≤ s.name ∧ s.name < m₂ := by
  rw [between, Bool.and_eq_true, decide_eq_true_iff, decide_eq_true_iff]

theorem link_perm (l : List (LinkSection κ ε)) : (link l).Perm l := List.mergeSort_perm l _

theorem pairwise_link (l : List (LinkSection κ ε)) :
    (link l).Pairwise fun s t => s.name ≤ t.name := by
  have hsorted := @List.pairwise_mergeSort _ (fun s t : LinkSection κ ε => decide (s.name ≤ t.name))
    (fun a b c hab hbc => decide_eq_true ((of_decide_eq_true hab).trans (of_decide_eq_true hbc)))
    (fun a b => by simpa using le_total a.name b.name) l
  exact hsorted.imp of_decide_eq_true

section Sorted

variable {l : List (LinkSection κ ε)} (hl : l.Pairwise fun s t => s.name ≤ t.name)

include hl

/-- Sorted sections fall into two parts at a name. -/
theorem filter_lt_append (m : κ) :
    (l.filter fun s => decide (s.name < m)) ++ (l.filter fun s => decide (m ≤ s.name)) = l := by
  induction l with
  | nil => rfl
  | cons s l ih =>
      obtain ⟨hs, hrest⟩ := List.pairwise_cons.mp hl
      by_cases hlt : s.name < m
      · rw [List.filter_cons_of_pos (by simpa using hlt),
          List.filter_cons_of_neg (by simpa using hlt), List.cons_append, ih hrest]
      · have hle := not_lt.mp hlt
        have hnone : (l.filter fun s => decide (s.name < m)) = [] :=
          List.filter_eq_nil_iff.mpr fun t ht => by simpa using hle.trans (hs t ht)
        have hall : (l.filter fun s => decide (m ≤ s.name)) = l :=
          List.filter_eq_self.mpr fun t ht => decide_eq_true (hle.trans (hs t ht))
        rw [List.filter_cons_of_neg (by simpa using hle),
          List.filter_cons_of_pos (by simpa using hle), hnone, hall, List.nil_append]

/-- Before the first section with a name are those with smaller names. -/
theorem takeWhile_eq_filter {m : κ} (hm : ∃ s ∈ l, s.name = m) :
    (l.takeWhile fun s => decide (s.name ≠ m)) = l.filter fun s => decide (s.name < m) := by
  induction l with
  | nil =>
      obtain ⟨s, hs, -⟩ := hm
      exact absurd hs (List.not_mem_nil)
  | cons s l ih =>
      obtain ⟨hs, hrest⟩ := List.pairwise_cons.mp hl
      by_cases hname : s.name = m
      · rw [List.takeWhile_cons_of_neg (by simpa using hname), eq_comm, List.filter_eq_nil_iff]
        intro t ht
        rcases List.mem_cons.mp ht with rfl | ht
        · simp [hname]
        · simpa using hname.symm.le.trans (hs t ht)
      · obtain ⟨t, ht, htm⟩ := hm
        have ht' : t ∈ l := by
          rcases List.mem_cons.mp ht with rfl | ht
          · exact absurd htm hname
          · exact ht
        have hlt : s.name < m := lt_of_le_of_ne (htm ▸ hs t ht') hname
        rw [List.takeWhile_cons_of_pos (by simpa using hname),
          List.filter_cons_of_pos (by simpa using hlt), ih hrest ⟨t, ht', htm⟩]

/-- **What lies between two marks.** -/
theorem region_eq {m₁ m₂ : κ} (hle : m₁ ≤ m₂) (h₁ : ∃ s ∈ l, s.name = m₁)
    (h₂ : ∃ s ∈ l, s.name = m₂) :
    region l m₁ m₂ = contents (l.filter (LinkSection.between m₁ m₂)) := by
  have haddr₁ : addressOf l m₁ = (contents (l.filter fun s => decide (s.name < m₁))).length := by
    rw [addressOf, takeWhile_eq_filter hl h₁]
  have hsplit : contents l = contents (l.filter fun s => decide (s.name < m₁)) ++
      contents (l.filter fun s => decide (m₁ ≤ s.name)) := by
    rw [contents, contents, contents, ← List.flatMap_append, filter_lt_append hl]
  -- what is below the second mark falls into two parts at the first
  have hbelow : (l.filter fun s => decide (s.name < m₂)) =
      (l.filter fun s => decide (s.name < m₁)) ++
        l.filter (LinkSection.between m₁ m₂) := by
    have hparts := filter_lt_append (hl.filter fun s => decide (s.name < m₂)) m₁
    rw [List.filter_filter, List.filter_filter] at hparts
    rw [← hparts]
    congr 1
    refine List.filter_congr fun s _ => ?_
    by_cases hs : s.name < m₁
    · simp [hs, hs.trans_le hle]
    · simp [hs]
  have haddr₂ : addressOf l m₂ = addressOf l m₁ +
      (contents (l.filter (LinkSection.between m₁ m₂))).length := by
    rw [addressOf, takeWhile_eq_filter hl h₂, hbelow, contents, List.flatMap_append,
      List.length_append, haddr₁]
    rfl
  -- and the rest falls into two parts at the second
  have hrest : contents (l.filter fun s => decide (m₁ ≤ s.name)) =
      contents (l.filter (LinkSection.between m₁ m₂)) ++
        contents ((l.filter fun s => decide (m₁ ≤ s.name)).filter
          fun s => decide (m₂ ≤ s.name)) := by
    have hparts := filter_lt_append (hl.filter fun s => decide (m₁ ≤ s.name)) m₂
    rw [List.filter_filter] at hparts
    rw [contents, contents, contents, ← List.flatMap_append]
    nth_rewrite 1 [← hparts]
    congr 2
    exact List.filter_congr fun s _ => Bool.and_comm _ _
  rw [region, haddr₂, Nat.add_sub_cancel_left, hsplit, haddr₁, List.drop_left, hrest,
    List.take_left]

end Sorted

end Link

/-! ## Places -/

/-- Whether something is below something else. -/
def isBelow {κ : Type} [LinearOrder κ] (a b : κ) : Bool := decide (a < b)

theorem isBelow_iff {κ : Type} [LinearOrder κ] {a b : κ} : isBelow a b = true ↔ a < b :=
  decide_eq_true_iff

/-- **The place of an element** in a sorted list is the number of smaller elements. -/
theorem getElem?_countP {β κ : Type} [LinearOrder κ] {key : β → κ} {l : List β}
    (hl : l.Pairwise fun x y => key x < key y) {x : β} (hx : x ∈ l) :
    l[l.countP fun y => isBelow (key y) (key x)]? = some x := by
  induction l with
  | nil => exact absurd hx List.not_mem_nil
  | cons y l ih =>
      obtain ⟨hy, hrest⟩ := List.pairwise_cons.mp hl
      rcases List.mem_cons.mp hx with rfl | hmem
      · have hnone : l.countP (fun y => isBelow (key y) (key x)) = 0 :=
          List.countP_eq_zero.mpr fun z hz => by
            rw [isBelow_iff]
            exact (hy z hz).not_gt
        rw [List.countP_cons_of_neg (by rw [isBelow_iff]; exact lt_irrefl _), hnone]
        rfl
      · rw [List.countP_cons_of_pos (by rw [isBelow_iff]; exact hy x hmem), List.getElem?_cons_succ,
          ih hrest hmem]

/-- Where every element is turned into something, places stay. -/
theorem getElem?_filterMap_of_isSome {β γ : Type} {l : List β} {g : β → Option γ}
    (hall : ∀ x ∈ l, (g x).isSome) (k : ℕ) : (l.filterMap g)[k]? = l[k]?.bind g := by
  induction l generalizing k with
  | nil => rfl
  | cons x l ih =>
      obtain ⟨y, hy⟩ := Option.isSome_iff_exists.mp (hall x List.mem_cons_self)
      rw [List.filterMap_cons_some hy]
      cases k with
      | zero => exact hy.symm
      | succ k => exact ih (fun z hz => hall z (List.mem_cons_of_mem _ hz)) k

end Machine
end BoardDiag
