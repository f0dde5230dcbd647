/-
The recent part of a history.

* `latest p` — the last entry that meets `p`.
* `fromLast p` — the history from the last entry that meets `p` on.
* `inContext p q` — the entries that meet `q`, each with the last entry before it that
  meets `p`.

Each comes with what one more entry makes of it (`latest_concat`, `fromLast_concat`), which
is how a program that keeps it in a variable updates that variable.
-/

import Mathlib.Data.List.Basic

namespace Rmuduo.Lib

variable {α : Type} {p q : α → Bool} {x : α} {xs ys : List α}

/-! ### The last entry that meets a condition -/

/-- The last entry of the history that meets `p`. -/
def latest (p : α → Bool) (xs : List α) : Option α := (xs.filter p).getLast?

@[simp] theorem latest_nil : latest p [] = none := rfl

theorem latest_append : latest p (xs ++ ys) = (latest p ys).or (latest p xs) := by
  simp [latest]

theorem latest_concat : latest p (xs ++ [x]) = if p x then some x else latest p xs := by
  rw [latest_append]
  cases h : p x <;> simp [latest, h]

/-- The first entry, as what the others fall back on. -/
theorem latest_cons_or (context : Option α) : (latest p (x :: xs)).or context =
    (latest p xs).or (if p x then some x else context) := by
  rw [← List.singleton_append, latest_append]
  cases h : p x <;> simp [latest, h]

theorem latest_eq_none : latest p xs = none ↔ ∀ x ∈ xs, p x = false := by
  simp [latest]

theorem latest_mem (h : latest p xs = some x) : x ∈ xs :=
  (List.mem_filter.mp (List.mem_of_getLast? h)).1

theorem latest_meets (h : latest p xs = some x) : p x = true :=
  (List.mem_filter.mp (List.mem_of_getLast? h)).2

/-- Looking for the last entry in what was found changes nothing. -/
theorem latest_toList : latest p (latest p xs).toList = latest p xs := by
  cases h : latest p xs with
  | none => rfl
  | some x => simp [latest, latest_meets h]

/-! ### The history from there on -/

/-- The history from the last entry that meets `p` on: nothing, if there is none. -/
def fromLast (p : α → Bool) : List α → List α
  | [] => []
  | x :: xs => if xs.any p then fromLast p xs else if p x then x :: xs else []

@[simp] theorem fromLast_nil : fromLast p [] = [] := rfl

theorem fromLast_of_none (h : xs.any p = false) : fromLast p xs = [] := by
  cases xs with
  | nil => rfl
  | cons x xs =>
      simp only [List.any_cons, Bool.or_eq_false_iff] at h
      simp [fromLast, h.1, h.2]

theorem fromLast_eq_nil : fromLast p xs = [] ↔ ∀ x ∈ xs, p x = false := by
  induction xs with
  | nil => simp
  | cons x xs ih =>
      rw [fromLast, List.forall_mem_cons]
      cases hxs : xs.any p with
      | true =>
          obtain ⟨y, hy, hpy⟩ := List.any_eq_true.mp hxs
          rw [if_pos rfl, ih]
          constructor
          · intro h
            rw [h y hy] at hpy
            cases hpy
          · intro h
            exact h.2
      | false =>
          have hnone := List.any_eq_false.mp hxs
          simp only [Bool.not_eq_true] at hnone
          cases hx : p x with
          | true => simp
          | false => simpa using hnone

/-- An entry that meets `p` starts over, and another one is kept if one has met `p`. -/
theorem fromLast_concat : fromLast p (xs ++ [x]) =
    if p x then [x] else if xs.any p then fromLast p xs ++ [x] else [] := by
  induction xs with
  | nil => simp [fromLast]
  | cons y ys ih =>
      cases hx : p x with
      | true => simpa [fromLast, hx] using ih
      | false =>
          cases hys : ys.any p with
          | true => simpa [fromLast, hx, hys] using ih
          | false => cases hy : p y <;> simp [fromLast, hx, hys, hy]

theorem fromLast_suffix (p : α → Bool) (xs : List α) : fromLast p xs <:+ xs := by
  induction xs with
  | nil => exact List.suffix_rfl
  | cons x xs ih =>
      unfold fromLast
      split
      · exact ih.trans (List.suffix_cons x xs)
      · split
        · exact List.suffix_rfl
        · exact List.nil_suffix

/-- A filter that lets `p` pass. -/
theorem fromLast_filter (h : ∀ x, p x = true → q x = true) :
    fromLast p (xs.filter q) = (fromLast p xs).filter q := by
  have hany (ys : List α) : (ys.filter q).any p = ys.any p := by
    induction ys with
    | nil => rfl
    | cons y ys ih =>
        cases hq : q y with
        | true => simp [hq, ih]
        | false =>
            have hp : p y = false := Bool.eq_false_iff.mpr fun hp => by simp [h y hp] at hq
            simp [hq, hp, ih]
  induction xs with
  | nil => rfl
  | cons x xs ih =>
      cases hx : q x with
      | true =>
          rw [List.filter_cons_of_pos hx, fromLast, fromLast, hany, ih]
          split
          · rfl
          · split <;> simp [hx]
      | false =>
          have hp : p x = false := Bool.eq_false_iff.mpr fun hp => by simp [h x hp] at hx
          rw [List.filter_cons_of_neg (Bool.eq_false_iff.mp hx), ih, fromLast, hp]
          cases hxs : xs.any p with
          | true => rfl
          | false => simp [fromLast_of_none hxs]

/-! ### Entries in context -/

/-- The entries that meet `q`, each with the last entry before it that meets `p`; `context` is
the one before the first entry. -/
def inContext (p q : α → Bool) : Option α → List α → List (Option α × α)
  | _, [] => []
  | context, x :: xs =>
      (if q x then [(context, x)] else []) ++ inContext p q (if p x then some x else context) xs

variable {context : Option α}

theorem inContext_append : inContext p q context (xs ++ ys) =
    inContext p q context xs ++ inContext p q ((latest p xs).or context) ys := by
  induction xs generalizing context with
  | nil => rfl
  | cons x xs ih =>
      rw [List.cons_append, inContext, inContext, ih, List.append_assoc, latest_cons_or]

@[simp] theorem inContext_map_snd (p q : α → Bool) (context : Option α) (xs : List α) :
    (inContext p q context xs).map Prod.snd = xs.filter q := by
  induction xs generalizing context with
  | nil => rfl
  | cons x xs ih =>
      rw [inContext, List.map_append, ih]
      cases hx : q x <;> simp [hx]

/-- Where nothing meets `p`, the context stays. -/
theorem inContext_of_none (h : ∀ x ∈ xs, p x = false) :
    inContext p q context xs = (xs.filter q).map fun x => (context, x) := by
  induction xs with
  | nil => rfl
  | cons x xs ih =>
      have hxs := ih fun y hy => h y (List.mem_cons_of_mem _ hy)
      have hx := h x List.mem_cons_self
      rw [inContext, if_neg (Bool.eq_false_iff.mp hx), hxs]
      cases hq : q x <;> simp [hq]

/-- Every entry has one and the same context. -/
theorem inContext_eq_const {c : Option α} :
    (xs.filter q).map (fun x => (c, x)) = inContext p q context xs ↔
      ∀ entry ∈ inContext p q context xs, entry.1 = c := by
  rw [← inContext_map_snd p q context xs, List.map_map]
  constructor
  · intro h entry hentry
    rw [← h] at hentry
    obtain ⟨x, -, rfl⟩ := List.mem_map.mp hentry
    rfl
  · intro h
    conv_rhs => rw [← List.map_id (inContext p q context xs)]
    refine List.map_congr_left fun entry hentry => ?_
    rw [← h entry hentry]
    rfl

/-- An entry and its context, as a place in the history. -/
theorem mem_inContext {c : Option α} {y : α} : (c, y) ∈ inContext p q context xs ↔
    ∃ before after, xs = before ++ y :: after ∧ q y = true ∧ c = (latest p before).or context := by
  induction xs generalizing context with
  | nil => simp [inContext]
  | cons x xs ih =>
      rw [inContext, List.mem_append, ih]
      constructor
      · rintro (hmem | ⟨before, after, rfl, hy, rfl⟩)
        · cases hx : q x with
          | false => simp [hx] at hmem
          | true =>
              simp only [hx, if_true, List.mem_singleton, Prod.mk.injEq] at hmem
              obtain ⟨rfl, rfl⟩ := hmem
              exact ⟨[], xs, rfl, hx, rfl⟩
        · exact ⟨x :: before, after, rfl, hy, (latest_cons_or context).symm⟩
      · rintro ⟨before, after, hsplit, hy, rfl⟩
        cases before with
        | nil =>
            cases hsplit
            exact .inl (by simp [hy])
        | cons z before =>
            cases hsplit
            exact .inr ⟨before, after, rfl, hy, latest_cons_or context⟩

end Rmuduo.Lib
