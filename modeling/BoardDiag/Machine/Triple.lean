import BoardDiag.Machine.Program
import Mathlib.Data.List.OfFn

/-!
# Triples and buffers

A triple `Triple P x Q` says that `x`, begun in a state with `P`, returns, and
what it returns and the state it leaves have `Q`.  It speaks of total
correctness: a program that stops early has no triple unless nothing satisfies
its precondition.  `Stops P x` is the opposite: begun in a state with `P`, the
program leaves an array.

There is a rule for each way programs are put together, and for the loop that may
be left early there are three: it is not left early, it is left at the first
index that is bad, and it keeps an invariant however it is left.

The second half is about buffers: an array of fixed length of which a stretch
is overwritten.
-/

namespace BoardDiag
namespace Machine

variable {σ α β : Type}

/-! ## Triples -/

/-- Begun in a state with `P`, the program returns with `Q`. -/
def Triple (P : σ → Prop) (x : Prog σ α) (Q : α → σ → Prop) : Prop :=
  ∀ s, P s → ∃ a s', x.run s = .ok a s' ∧ Q a s'

/-- Begun in a state with `P`, the program leaves an array. -/
def Stops (P : σ → Prop) (x : Prog σ α) : Prop :=
  ∀ s, P s → ∃ s', x.run s = .error .outOfBounds s'

section Rules

variable {P P' : σ → Prop} {Q Q' : α → σ → Prop} {R : β → σ → Prop} {x y : Prog σ α}
  {f : α → Prog σ β}

theorem Triple.pure {a : α} (h : ∀ s, P s → Q a s) : Triple P (pure a : Prog σ α) Q :=
  fun s hs => ⟨a, s, rfl, h s hs⟩

theorem Triple.bind (hx : Triple P x Q) (hf : ∀ a, Triple (Q a) (f a) R) :
    Triple P (x >>= f) R := by
  intro s hs
  obtain ⟨a, s₁, hrun, hQ⟩ := hx s hs
  obtain ⟨b, s₂, hrun', hR⟩ := hf a s₁ hQ
  refine ⟨b, s₂, ?_, hR⟩
  rw [EStateM.run_bind, hrun]
  exact hrun'

theorem Triple.conseq (hx : Triple P x Q) (hP : ∀ s, P' s → P s)
    (hQ : ∀ a s, Q a s → Q' a s) : Triple P' x Q' := by
  intro s hs
  obtain ⟨a, s', hrun, h⟩ := hx s (hP s hs)
  exact ⟨a, s', hrun, hQ a s' h⟩

theorem Triple.modify {g : σ → σ} {Q : Unit → σ → Prop} (h : ∀ s, P s → Q () (g s)) :
    Triple P (modify g : Prog σ Unit) Q :=
  fun s hs => ⟨(), g s, rfl, h s hs⟩

theorem Triple.get {Q : σ → σ → Prop} (h : ∀ s, P s → Q s s) :
    Triple P (get : Prog σ σ) Q :=
  fun s hs => ⟨s, s, rfl, h s hs⟩

theorem Triple.ite {c : Prop} [Decidable c] (hx : c → Triple P x Q)
    (hy : ¬ c → Triple P y Q) : Triple P (if c then x else y) Q := by
  by_cases hc : c
  · rw [if_pos hc]
    exact hx hc
  · rw [if_neg hc]
    exact hy hc

/-- A fact in the precondition may be used outside. -/
theorem Triple.of_fact {p : Prop} (h : p → Triple P x Q) :
    Triple (fun s => p ∧ P s) x Q :=
  fun s hs => h hs.1 s hs.2

/-- A part of the state may be given a name: what it is before the program begins. -/
theorem Triple.of_view {τ : Type} (view : σ → τ)
    (h : ∀ s₀, P s₀ → Triple (fun s => view s = view s₀) x Q) : Triple P x Q :=
  fun s hs => h s hs s rfl

theorem Triple.of_exists {ι : Type} {I : ι → σ → Prop} (h : ∀ i, Triple (I i) x Q) :
    Triple (fun s => ∃ i, I i s) x Q := by
  rintro s ⟨i, hs⟩
  exact h i s hs

/-- A check that does not fire. -/
theorem Triple.bind_check {I : σ → Prop} {c : α → Prop} [DecidablePred c] {z y : Prog σ β}
    (hx : Triple P x fun a s => ¬ c a ∧ I s) (hy : Triple I y R) :
    Triple P (x >>= fun a => if c a then z else y) R :=
  .bind hx fun _ => .of_fact fun hc => .ite (fun h => absurd h hc) fun _ => hy

/-- **A loop that is never left early.** -/
theorem Triple.searchFrom {I : ℕ → σ → Prop} {body : ℕ → Prog σ (Option α)} (i n : ℕ)
    (h : ∀ j, i ≤ j → j < i + n →
      Triple (I j) (body j) (fun r s => r = none ∧ I (j + 1) s)) :
    Triple (I i) (searchFrom body i n) (fun r s => r = none ∧ I (i + n) s) := by
  induction n generalizing i with
  | zero => exact .pure fun s hs => ⟨rfl, hs⟩
  | succ n ih =>
      refine .bind (h i (Nat.le_refl i) (by omega)) fun r => .of_fact fun hr => ?_
      subst hr
      have hrest := ih (i + 1) fun j hj hjn => h j (by omega) (by omega)
      rwa [show i + 1 + n = i + (n + 1) by omega] at hrest

/-- **A loop that looks for something**: it is left at the first index that is bad, or
runs to its end if there is none. -/
theorem Triple.searchFrom_until {I : ℕ → σ → Prop} {B : ℕ → Prop} {Q : ℕ → α → σ → Prop}
    {body : ℕ → Prog σ (Option α)} (i n : ℕ)
    (hgood : ∀ j, i ≤ j → j < i + n → ¬ B j →
      Triple (I j) (body j) fun r s => r = none ∧ I (j + 1) s)
    (hbad : ∀ j, i ≤ j → j < i + n → B j →
      Triple (I j) (body j) fun r s => ∃ a, r = some a ∧ Q j a s) :
    Triple (I i) (Machine.searchFrom body i n) fun r s =>
      (r = none ∧ (∀ j, i ≤ j → j < i + n → ¬ B j) ∧ I (i + n) s) ∨
      ∃ j a, (i ≤ j ∧ j < i + n ∧ B j ∧ ∀ l, i ≤ l → l < j → ¬ B l) ∧
        r = some a ∧ Q j a s := by
  induction n generalizing i with
  | zero => exact .pure fun s hs => .inl ⟨rfl, fun j hj hjn => absurd hjn (by omega), hs⟩
  | succ n ih =>
      by_cases hi : B i
      · refine .bind (hbad i (Nat.le_refl i) (by omega) hi) fun r => .of_exists fun a =>
          .of_fact fun hr => ?_
        subst hr
        exact .pure fun s hs => .inr ⟨i, a, ⟨Nat.le_refl i, by omega, hi,
          fun l hil hli => absurd hil (by omega)⟩, rfl, hs⟩
      · refine .bind (hgood i (Nat.le_refl i) (by omega) hi) fun r => .of_fact fun hr => ?_
        subst hr
        refine (ih (i + 1) (fun j hj hjn => hgood j (by omega) (by omega))
          (fun j hj hjn => hbad j (by omega) (by omega))).conseq (fun _ hs => hs) ?_
        rintro r s (⟨hr, hall, hs⟩ | ⟨j, a, ⟨hij, hjn, hj, hleast⟩, hr, hs⟩)
        · refine .inl ⟨hr, fun j hij hjn => ?_, by rwa [Nat.add_right_comm] at hs⟩
          rcases Nat.eq_or_lt_of_le hij with rfl | hlt
          · exact hi
          · exact hall j hlt (by omega)
        · refine .inr ⟨j, a, ⟨by omega, by omega, hj, fun l hil hlj => ?_⟩, hr, hs⟩
          rcases Nat.eq_or_lt_of_le hil with rfl | hlt
          · exact hi
          · exact hleast l hlt hlj

/-- **A loop whose body keeps an invariant**, however it is left. -/
theorem Triple.searchFrom_keeps {I : σ → Prop} {body : ℕ → Prog σ (Option α)} (i n : ℕ)
    (h : ∀ j, i ≤ j → j < i + n → Triple I (body j) fun _ s => I s) :
    Triple I (Machine.searchFrom body i n) fun _ s => I s := by
  induction n generalizing i with
  | zero => exact .pure fun _ hs => hs
  | succ n ih =>
      refine .bind (h i (Nat.le_refl i) (by omega)) fun r => ?_
      cases r with
      | some a => exact .pure fun _ hs => hs
      | none => exact ih (i + 1) fun j hj hjn => h j (by omega) (by omega)

/-- **A counted loop**, with what holds of the locals and the state at each index. -/
theorem Triple.forFrom {I : ℕ → β → σ → Prop} {body : ℕ → β → Prog σ β} (i n : ℕ) (b : β)
    (h : ∀ j b, i ≤ j → j < i + n → Triple (I j b) (body j b) fun b' s => I (j + 1) b' s) :
    Triple (I i b) (forFrom body i n b) fun b' s => I (i + n) b' s := by
  induction n generalizing i b with
  | zero => exact .pure fun _ hs => hs
  | succ n ih =>
      refine .bind (h i b (Nat.le_refl i) (by omega)) fun b' => ?_
      have hrest := ih (i + 1) b' fun j b'' hj hjn => h j b'' (by omega) (by omega)
      rwa [Nat.add_right_comm] at hrest

theorem Stops.bind (hx : Stops P x) : Stops P (x >>= f) := by
  intro s hs
  obtain ⟨s', hrun⟩ := hx s hs
  refine ⟨s', ?_⟩
  rw [EStateM.run_bind, hrun]

theorem Stops.after (hx : Triple P x Q) (hf : ∀ a, Stops (Q a) (f a)) :
    Stops P (x >>= f) := by
  intro s hs
  obtain ⟨a, s₁, hrun, hQ⟩ := hx s hs
  obtain ⟨s₂, hrun'⟩ := hf a s₁ hQ
  refine ⟨s₂, ?_⟩
  rw [EStateM.run_bind, hrun]
  exact hrun'

theorem Stops.of_fact {p : Prop} (h : p → Stops P x) : Stops (fun s => p ∧ P s) x :=
  fun s hs => h hs.1 s hs.2

end Rules

/-! ## Buffers -/

section Buffers

variable {n : ℕ}

/-- The buffer with the `len` elements from `start` on replaced.  Irreducible, since
nothing is gained by unfolding a long buffer element by element. -/
@[irreducible] def overwrite (buf : Vector α n) (start len : ℕ) (data : ℕ → α) : Vector α n :=
  Vector.ofFn fun i => if start ≤ i ∧ i < start + len then data (i - start) else buf[i]

theorem getElem_overwrite (buf : Vector α n) (start len : ℕ) (data : ℕ → α) {i : ℕ}
    (hi : i < n) :
    (overwrite buf start len data)[i] =
      if start ≤ i ∧ i < start + len then data (i - start) else buf[i] := by
  simp [overwrite]

/-- The first `m` elements of the buffer are given by `e`. -/
def Holds (buf : Vector α n) (m : ℕ) (e : ℕ → α) : Prop :=
  ∀ i (hi : i < n), i < m → buf[i] = e i

theorem holds_zero (buf : Vector α n) (e : ℕ → α) : Holds buf 0 e :=
  fun _ _ h => absurd h (Nat.not_lt_zero _)

/-- Filling a buffer, stretch by stretch. -/
theorem Holds.overwrite {buf : Vector α n} {m : ℕ} {e : ℕ → α} (h : Holds buf m e) {len : ℕ}
    {data : ℕ → α} (hdata : ∀ j < len, data j = e (m + j)) :
    Holds (overwrite buf m len data) (m + len) e := by
  intro i hi him
  rw [getElem_overwrite]
  by_cases hmi : m ≤ i
  · rw [if_pos ⟨hmi, him⟩, hdata (i - m) (by omega), Nat.add_sub_cancel' hmi]
  · rw [if_neg fun hin => hmi hin.1]
    exact h i hi (by omega)

theorem Holds.eq_replicate_iff {buf : Vector α n} {e : ℕ → α} (h : Holds buf n e) (a : α) :
    buf = Vector.replicate n a ↔ ∀ i < n, e i = a := by
  constructor
  · rintro rfl i hi
    rw [← h i hi hi, Vector.getElem_replicate]
  · intro ha
    apply Vector.ext
    intro i hi
    rw [h i hi hi, ha i hi, Vector.getElem_replicate]

/-- The buffer with what has been delivered of the first `len` elements.  What has not been
stays. -/
@[irreducible] def deliver (buf : Vector α n) (len : ℕ) (data : ℕ → Option α) : Vector α n :=
  Vector.ofFn fun i => if i < len then (data i).getD buf[i] else buf[i]

theorem getElem_deliver_of_lt (buf : Vector α n) {len : ℕ} (data : ℕ → Option α) {i : ℕ}
    (hi : i < n) (hlen : i < len) : (deliver buf len data)[i] = (data i).getD buf[i] := by
  simp [deliver, hlen]

theorem getElem_deliver_of_le (buf : Vector α n) {len : ℕ} (data : ℕ → Option α) {i : ℕ}
    (hi : i < n) (hlen : len ≤ i) : (deliver buf len data)[i] = buf[i] := by
  simp [deliver, Nat.not_lt.mpr hlen]

theorem holds_deliver (buf : Vector α n) {len : ℕ} {data : ℕ → Option α} {e : ℕ → α}
    (hdata : ∀ i < len, data i = some (e i)) : Holds (deliver buf len data) len e := by
  intro i hi hlen
  rw [getElem_deliver_of_lt buf data hi hlen, hdata i hlen, Option.getD_some]

/-- A delivery of the first `len` elements of a sequence. -/
def firstOf (len : ℕ) (e : ℕ → α) : ℕ → Option α := fun i => if i < len then some (e i) else none

theorem firstOf_of_lt {len i : ℕ} (e : ℕ → α) (hi : i < len) : firstOf len e i = some (e i) :=
  if_pos hi

/-- Two deliveries, of which the second goes behind index `n`.  It wins where both deliver
something. -/
def behind (n : ℕ) (first rest : ℕ → Option α) : ℕ → Option α :=
  fun i => if i < n then first i else (rest (i - n)).or (first i)

theorem behind_firstOf {n len : ℕ} (e : ℕ → α) (hn : n ≤ len) :
    behind n (firstOf n e) (firstOf (len - n) fun i => e (n + i)) = firstOf len e := by
  funext i
  rw [behind]
  by_cases hi : i < n
  · rw [if_pos hi, firstOf_of_lt e hi, firstOf_of_lt e (by omega)]
  · rw [if_neg hi, firstOf, firstOf, firstOf, if_neg hi, Option.or_none,
      Nat.add_sub_cancel' (by omega)]
    exact if_congr (by omega) rfl rfl

@[simp]
theorem behind_none (n : ℕ) (first : ℕ → Option α) : behind n first (fun _ => none) = first :=
  funext fun _ => ite_eq_left_iff.mpr fun _ => Option.none_or

/-- Two buffers are equal after something has been delivered to both if they begin alike then,
and ended alike before. -/
theorem deliver_eq_deliver_iff {a b : Vector α n} {len : ℕ} {f g : ℕ → Option α} :
    deliver a len f = deliver b len g ↔
      (∀ i (hi : i < n), i < len → (f i).getD a[i] = (g i).getD b[i]) ∧
        ∀ i (hi : i < n), len ≤ i → a[i] = b[i] := by
  constructor
  · intro heq
    constructor
    · intro i hi hlen
      rw [← getElem_deliver_of_lt a f hi hlen, ← getElem_deliver_of_lt b g hi hlen, heq]
    · intro i hi hlen
      rw [← getElem_deliver_of_le a f hi hlen, ← getElem_deliver_of_le b g hi hlen, heq]
  · rintro ⟨hbegin, hend⟩
    apply Vector.ext
    intro i hi
    by_cases hlen : i < len
    · rw [getElem_deliver_of_lt a f hi hlen, getElem_deliver_of_lt b g hi hlen, hbegin i hi hlen]
    · rw [getElem_deliver_of_le a f hi (by omega), getElem_deliver_of_le b g hi (by omega),
        hend i hi (by omega)]

/-- Where all is delivered, nothing is left of what a buffer began with. -/
theorem take_toList_deliver (a b : Vector α n) {len : ℕ} {data : ℕ → Option α}
    (hdata : ∀ i < len, (data i).isSome) :
    (deliver a len data).toList.take len = (deliver b len data).toList.take len := by
  apply List.ext_getElem
  · simp
  · intro i hi hi'
    rw [List.length_take, Vector.length_toList] at hi
    obtain ⟨x, hx⟩ := Option.isSome_iff_exists.mp (hdata i (by omega))
    rw [List.getElem_take, List.getElem_take, Vector.getElem_toList, Vector.getElem_toList,
      getElem_deliver_of_lt a data (by omega) (by omega),
      getElem_deliver_of_lt b data (by omega) (by omega), hx, Option.getD_some, Option.getD_some]

end Buffers

end Machine
end BoardDiag
