import Mathlib.Data.List.Basic
import Mathlib.Logic.Function.Iterate
import Mathlib.Logic.Relation
import Mathlib.Tactic.Common

/-!
# Programs that may stop before they return

A C function is a state transformer that normally returns.  Two things can go
wrong on the way: an index can leave the array it is used on, and a loop can
run on past any bound.  Both are recorded as a `Stop`, and the state reached at
that point is kept --- a run that never ends has still done something, and what
it has done up to any point has to stay visible.

The core library's `EStateM` is exactly this monad, so `Prog` is an abbreviation
for it and its `run_bind`, `run_get` and `run_modify` are used as they stand.

## Loops

* `forFrom` is the counted loop `for (i = 0; i < n; ++i)` with loop-carried
  locals;
* `searchFrom` is the counted loop whose body may return from the function;
* `whileFuel` is the loop whose bound is only known while it runs.  It is the
  one place where a program can run out of fuel.

## Loops against their meaning

`runUntil` is what a loop with an early exit computes, as a function: it works
through a list and stops at the first element that asks it to.  The rules at the
end of the file turn a proof about one pass through a loop body into an equation
between the loop and `runUntil`, read through an embedding `emb` of the states
one reasons about into the states the program runs on.
-/

namespace BoardDiag
namespace Machine

/-- Why a program stops before it returns. -/
inductive Stop where
  /-- An index outside its array, or a null pointer, was used. -/
  | outOfBounds
  /-- The fuel given to a loop ran out. -/
  | outOfFuel
  deriving DecidableEq, Repr

/-- A program on states `σ` that returns an `α` or stops. -/
abbrev Prog (σ α : Type) := EStateM Stop σ α

variable {σ τ α β ι : Type}

theorem run_stop (e : Stop) (s : σ) :
    EStateM.run (throw e : Prog σ α) s = .error e s := rfl

/-- A program that begins the same way in two states goes on the same way. -/
theorem run_bind_congr {x : Prog σ α} {s t : σ} (h : x.run s = x.run t)
    (f : α → Prog σ β) : (x >>= f).run s = (x >>= f).run t := by
  rw [EStateM.run_bind, EStateM.run_bind, h]

/-- Read an array at an index. -/
def fetch (l : List α) (i : ℕ) : Prog σ α :=
  match l[i]? with
  | some a => pure a
  | none => throw .outOfBounds

theorem run_fetch {l : List α} {i : ℕ} (h : i < l.length) (s : σ) :
    (fetch l i : Prog σ α).run s = .ok l[i] s := by
  unfold fetch
  rw [List.getElem?_eq_getElem h]
  rfl

/-! ## Loops -/

/-- `for (i = start; i < start + n; ++i)`, with the locals the body changes
passed along. -/
def forFrom (body : ℕ → β → Prog σ β) : ℕ → ℕ → β → Prog σ β
  | _, 0, b => pure b
  | i, n + 1, b => do
      let b' ← body i b
      forFrom body (i + 1) n b'

/-- `for (i = start; i < start + n; ++i)`, where the body may return from the
enclosing function. -/
def searchFrom (body : ℕ → Prog σ (Option α)) : ℕ → ℕ → Prog σ (Option α)
  | _, 0 => pure none
  | i, n + 1 => do
      match ← body i with
      | some a => pure (some a)
      | none => searchFrom body (i + 1) n

/-- `for (i = start; cond i; i = next i)`, where the body may return from the
enclosing function.  Each test of the condition costs one unit of fuel. -/
def whileFuel (cond : ι → Bool) (next : ι → ι) (body : ι → Prog σ (Option α)) :
    ℕ → ι → Prog σ (Option α)
  | 0, _ => throw .outOfFuel
  | fuel + 1, i =>
      if cond i then do
        match ← body i with
        | some a => pure (some a)
        | none => whileFuel cond next body fuel (next i)
      else
        pure none

/-- **Counted loops, step by step.**  If the body takes the locals and the state
from their `j`-th to their `j + 1`-st value, the loop takes them from the first
value to the last. -/
theorem run_forFrom (body : ℕ → β → Prog σ β) (B : ℕ → β) (S : ℕ → σ) (i n : ℕ)
    (h : ∀ j, i ≤ j → j < i + n → (body j (B j)).run (S j) = .ok (B (j + 1)) (S (j + 1))) :
    (forFrom body i n (B i)).run (S i) = .ok (B (i + n)) (S (i + n)) := by
  induction n generalizing i with
  | zero => rfl
  | succ n ih =>
      rw [forFrom, EStateM.run_bind, h i (Nat.le_refl i) (by omega)]
      have hrest := ih (i + 1) fun j hj hjn => h j (by omega) (by omega)
      rw [show i + (n + 1) = i + 1 + n by omega]
      exact hrest

/-- Counting from one later is counting the same bodies from one earlier. -/
theorem searchFrom_succ (body : ℕ → Prog σ (Option α)) (i n : ℕ) :
    searchFrom body (i + 1) n = searchFrom (fun j => body (j + 1)) i n := by
  induction n generalizing i with
  | zero => rfl
  | succ n ih =>
      rw [searchFrom, searchFrom]
      congr 1
      funext r
      cases r with
      | none => exact ih (i + 1)
      | some a => rfl

/-- **A loop that leaves after `m` passes is a counted loop**, if it has fuel for
them. -/
theorem whileFuel_eq_searchFrom {cond : ι → Bool} {next : ι → ι}
    (body : ι → Prog σ (Option α)) {m fuel : ℕ} {i : ι}
    (hgo : ∀ j, j < m → cond (next^[j] i) = true) (hexit : cond (next^[m] i) = false)
    (hfuel : m < fuel) :
    whileFuel cond next body fuel i = searchFrom (fun j => body (next^[j] i)) 0 m := by
  induction m generalizing fuel i with
  | zero =>
      obtain ⟨fuel, rfl⟩ := Nat.exists_eq_succ_of_ne_zero (Nat.ne_of_gt hfuel)
      rw [Function.iterate_zero, id] at hexit
      rw [whileFuel, if_neg (by rw [hexit]; exact Bool.false_ne_true)]
      rfl
  | succ m ih =>
      obtain ⟨fuel, rfl⟩ := Nat.exists_eq_succ_of_ne_zero (Nat.ne_zero_of_lt hfuel)
      have hi : cond i = true := hgo 0 (Nat.succ_pos m)
      rw [whileFuel, if_pos hi, searchFrom, Function.iterate_zero, id]
      congr 1
      funext r
      cases r with
      | some a => rfl
      | none =>
          have hrest := @ih fuel (next i)
            (fun j hj => by
              have := hgo (j + 1) (by omega)
              rwa [Function.iterate_succ_apply] at this)
            (by rwa [Function.iterate_succ_apply] at hexit) (by omega)
          rw [searchFrom_succ]
          exact hrest

/-- **A loop whose condition never fails** and whose body never returns from the function
uses up whatever fuel it is given. -/
theorem run_whileFuel_of_endless {cond : ι → Bool} {next : ι → ι}
    {body : ι → Prog σ (Option α)} (hgo : ∀ i, cond i = true)
    (hbody : ∀ i s, ∃ s', (body i).run s = .ok none s') (fuel : ℕ) (i : ι) (s : σ) :
    ∃ s', (whileFuel cond next body fuel i).run s = .error .outOfFuel s' := by
  induction fuel generalizing i s with
  | zero => exact ⟨s, rfl⟩
  | succ fuel ih =>
      obtain ⟨s₁, hrun⟩ := hbody i s
      obtain ⟨s₂, hrest⟩ := ih (next i) s₁
      refine ⟨s₂, ?_⟩
      rw [whileFuel, if_pos (hgo i), EStateM.run_bind, hrun]
      exact hrest

/-- A search whose body only looks at the `j`-th element of a list finds the first
one it looks for. -/
theorem run_searchFrom_findIdx? {body : ℕ → Prog σ (Option β)} {s : σ} (p : α → Bool)
    (f : ℕ → β) (xs : List α) (i : ℕ)
    (h : ∀ (j : ℕ) (hj : j < xs.length), (body (i + j)).run s =
      .ok (if p xs[j] then some (f (i + j)) else none) s) :
    (searchFrom body i xs.length).run s =
      .ok ((xs.findIdx? p).map fun j => f (i + j)) s := by
  induction xs generalizing i with
  | nil => rfl
  | cons x xs ih =>
      have h0 := h 0 (by simp)
      rw [Nat.add_zero, List.getElem_cons_zero] at h0
      rw [List.length_cons, searchFrom, EStateM.run_bind, h0, List.findIdx?_cons]
      cases hp : p x with
      | true => rfl
      | false =>
          have hrest := ih (i + 1) fun j hj => by
            have hj1 := h (j + 1) (by simpa using hj)
            rwa [List.getElem_cons_succ, show i + (j + 1) = i + 1 + j by omega] at hj1
          simp only [Bool.false_eq_true, if_false, Option.map_map]
          rw [hrest]
          congr 2
          funext j
          rw [Function.comp_apply, Nat.add_assoc, Nat.add_comm 1 j]

/-! ## What a loop with an early exit computes -/

/-- Work through a list, stopping after the first element whose step asks for
it.  The Boolean says whether one did. -/
def runUntil (step : α → τ → Bool × τ) : List α → τ → Bool × τ
  | [], t => (false, t)
  | x :: xs, t =>
      if (step x t).1 then (true, (step x t).2) else runUntil step xs (step x t).2

@[simp] theorem runUntil_nil (step : α → τ → Bool × τ) (t : τ) :
    runUntil step [] t = (false, t) := rfl

theorem runUntil_cons_of_stop {step : α → τ → Bool × τ} {x : α} {t : τ}
    (h : (step x t).1 = true) (xs : List α) :
    runUntil step (x :: xs) t = (true, (step x t).2) := by
  rw [runUntil, if_pos h]

theorem runUntil_cons_of_go {step : α → τ → Bool × τ} {x : α} {t : τ}
    (h : (step x t).1 = false) (xs : List α) :
    runUntil step (x :: xs) t = runUntil step xs (step x t).2 := by
  rw [runUntil, if_neg (by rw [h]; exact Bool.false_ne_true)]

/-- If no step asks to stop, it is a fold. -/
theorem runUntil_eq_foldl (f : τ → α → τ) (xs : List α) (t : τ) :
    runUntil (fun x t => (false, f t x)) xs t = (false, xs.foldl f t) := by
  induction xs generalizing t with
  | nil => rfl
  | cons x xs ih =>
      rw [runUntil_cons_of_go rfl, ih]
      rfl

/-- Working through two lists, one after the other. -/
theorem runUntil_append (step : α → τ → Bool × τ) (xs ys : List α) (t : τ) :
    runUntil step (xs ++ ys) t =
      if (runUntil step xs t).1 then runUntil step xs t
      else runUntil step ys (runUntil step xs t).2 := by
  induction xs generalizing t with
  | nil => rfl
  | cons x xs ih =>
      rw [List.cons_append]
      cases h : (step x t).1 with
      | true => rw [runUntil_cons_of_stop h, runUntil_cons_of_stop h, if_pos rfl]
      | false => rw [runUntil_cons_of_go h, runUntil_cons_of_go h, ih]

/-- One pass over `xs` is run `k` times, stopping as soon as an element asks for
it. -/
def passes (step : α → τ → Bool × τ) (xs : List α) (k : ℕ) (t : τ) : Bool × τ :=
  runUntil step (List.replicate k xs).flatten t

@[simp] theorem passes_zero (step : α → τ → Bool × τ) (xs : List α) (t : τ) :
    passes step xs 0 t = (false, t) := rfl

theorem passes_succ (step : α → τ → Bool × τ) (xs : List α) (k : ℕ) (t : τ) :
    passes step xs (k + 1) t =
      if (runUntil step xs t).1 then runUntil step xs t
      else passes step xs k (runUntil step xs t).2 := by
  rw [passes, List.replicate_succ, List.flatten_cons, runUntil_append]
  rfl

/-- If every step moves along a relation, so does the whole of `runUntil`. -/
theorem reflTransGen_runUntil {r : τ → τ → Prop} {step : α → τ → Bool × τ} {xs : List α}
    (h : ∀ x ∈ xs, ∀ t, Relation.ReflTransGen r t (step x t).2) (t : τ) :
    Relation.ReflTransGen r t (runUntil step xs t).2 := by
  induction xs generalizing t with
  | nil => exact .refl
  | cons x xs ih =>
      have hx := h x List.mem_cons_self t
      cases hs : (step x t).1 with
      | true =>
          rw [runUntil_cons_of_stop hs]
          exact hx
      | false =>
          rw [runUntil_cons_of_go hs]
          exact hx.trans (ih (fun y hy => h y (List.mem_cons_of_mem x hy)) (step x t).2)

/-- ... and so does any number of passes. -/
theorem reflTransGen_passes {r : τ → τ → Prop} {step : α → τ → Bool × τ} {xs : List α}
    (h : ∀ x ∈ xs, ∀ t, Relation.ReflTransGen r t (step x t).2) (k : ℕ) (t : τ) :
    Relation.ReflTransGen r t (passes step xs k t).2 := by
  refine reflTransGen_runUntil (fun x hx => h x ?_) t
  obtain ⟨ys, hys, hxys⟩ := List.mem_flatten.mp hx
  rwa [List.eq_of_mem_replicate hys] at hxys

/-! ## Loops read through an embedding -/

section Embedding

variable (emb : τ → σ) {step : α → τ → Bool × τ}

/-- How a loop that ends reports whether it was left early. -/
def exitOf (stopped : Bool) : Option Unit := if stopped then some () else none

/-- **A counted loop with an early exit** runs `runUntil` over what it reads. -/
theorem run_searchFrom {body : ℕ → Prog σ (Option Unit)} (xs : List α) (i : ℕ) (t : τ)
    (h : ∀ (j : ℕ) (hj : j < xs.length) (t : τ), (body (i + j)).run (emb t) =
      .ok (exitOf (step xs[j] t).1) (emb (step xs[j] t).2)) :
    (searchFrom body i xs.length).run (emb t) =
      .ok (exitOf (runUntil step xs t).1) (emb (runUntil step xs t).2) := by
  induction xs generalizing i t with
  | nil => rfl
  | cons x xs ih =>
      have h0 := h 0 (by simp) t
      rw [Nat.add_zero, List.getElem_cons_zero] at h0
      rw [List.length_cons, searchFrom, EStateM.run_bind, h0]
      cases hs : (step x t).1 with
      | true => rw [runUntil_cons_of_stop hs]; rfl
      | false =>
          rw [runUntil_cons_of_go hs]
          refine ih (i + 1) (step x t).2 fun j hj t => ?_
          have hj1 := h (j + 1) (by simpa using hj) t
          rwa [List.getElem_cons_succ, show i + (j + 1) = i + 1 + j by omega] at hj1

variable {cond : ι → Bool} {next : ι → ι} {body : ι → Prog σ (Option Unit)} {xs : List α}

/-- **A loop that leaves after `m` passes.**  With more than `m` units of fuel it
returns; with less it is cut off, and the state it is cut off in is the one
after as many passes as there was fuel. -/
theorem run_whileFuel_of_exit
    (hbody : ∀ i t, (body i).run (emb t) =
      .ok (exitOf (runUntil step xs t).1) (emb (runUntil step xs t).2))
    (m fuel : ℕ) (i : ι) (t : τ) (hgo : ∀ j, j < m → cond (next^[j] i) = true)
    (hexit : cond (next^[m] i) = false) :
    (whileFuel cond next body fuel i).run (emb t) =
      if (passes step xs (min fuel m) t).1 then
        .ok (some ()) (emb (passes step xs (min fuel m) t).2)
      else if m < fuel then .ok none (emb (passes step xs (min fuel m) t).2)
      else .error .outOfFuel (emb (passes step xs (min fuel m) t).2) := by
  induction fuel generalizing m i t with
  | zero => simp [whileFuel, run_stop]
  | succ fuel ih =>
      cases m with
      | zero =>
          rw [Function.iterate_zero, id] at hexit
          simp [whileFuel, hexit]
      | succ m =>
          have hi : cond i = true := hgo 0 (by omega)
          rw [whileFuel, if_pos hi, EStateM.run_bind, hbody, Nat.add_min_add_right,
            passes_succ]
          cases hs : (runUntil step xs t).1 with
          | true => simp [exitOf, hs]
          | false =>
              have hrest := ih m (next i) (runUntil step xs t).2
                (fun j hj => by
                  have := hgo (j + 1) (by omega)
                  rwa [Function.iterate_succ_apply] at this)
                (by rwa [Function.iterate_succ_apply] at hexit)
              simpa [exitOf] using hrest

/-- **A loop whose condition never fails** is only ever left early: otherwise it
uses up whatever fuel it is given. -/
theorem run_whileFuel_of_forever
    (hbody : ∀ i t, (body i).run (emb t) =
      .ok (exitOf (runUntil step xs t).1) (emb (runUntil step xs t).2))
    (hgo : ∀ i, cond i = true) (fuel : ℕ) (i : ι) (t : τ) :
    (whileFuel cond next body fuel i).run (emb t) =
      if (passes step xs fuel t).1 then .ok (some ()) (emb (passes step xs fuel t).2)
      else .error .outOfFuel (emb (passes step xs fuel t).2) := by
  induction fuel generalizing i t with
  | zero => simp [whileFuel, run_stop]
  | succ fuel ih =>
      rw [whileFuel, if_pos (hgo i), EStateM.run_bind, hbody, passes_succ]
      cases hs : (runUntil step xs t).1 with
      | true => simp [exitOf, hs]
      | false => simpa [exitOf] using ih (next i) (runUntil step xs t).2

end Embedding

end Machine
end BoardDiag
