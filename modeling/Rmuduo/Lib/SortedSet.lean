/-
Sorted sets.

A set is the list of its elements in strictly increasing order, so its first element is the
least and a traversal is a recursion on the list.

* `insert`, and `List.erase`, keep the order.
* `head_le` — the first element is the least.
* `takeWhile_lt`, `dropWhile_lt` — what stands below a bound, and what does not.
-/

import Mathlib.Data.List.Pairwise
import Mathlib.Data.List.Sort
import Mathlib.Order.Lattice

namespace Rmuduo.Lib.SortedSet

variable {α : Type} [LinearOrder α]

/-- Elements in strictly increasing order. -/
def Sorted (xs : List α) : Prop := xs.Pairwise (· < ·)

/-- An element that is present is not inserted again. -/
def insert (x : α) (xs : List α) : List α :=
  if x ∈ xs then xs else xs.orderedInsert (· ≤ ·) x

variable {x y : α} {xs : List α}

theorem sorted_nil : Sorted ([] : List α) := List.Pairwise.nil

theorem Sorted.nodup (h : Sorted xs) : xs.Nodup :=
  h.imp ne_of_lt

@[simp] theorem mem_insert : y ∈ insert x xs ↔ y = x ∨ y ∈ xs := by
  unfold insert
  by_cases h : x ∈ xs
  · rw [if_pos h]
    constructor
    · exact Or.inr
    · rintro (rfl | hy)
      · exact h
      · exact hy
  · rw [if_neg h]
    exact List.mem_orderedInsert (· ≤ ·)

theorem sorted_insert (h : Sorted xs) (x : α) : Sorted (insert x xs) := by
  unfold insert
  by_cases hx : x ∈ xs
  · rw [if_pos hx]
    exact h
  · rw [if_neg hx]
    induction xs with
    | nil => exact List.pairwise_singleton _ _
    | cons z zs ih =>
        obtain ⟨hz, hzs⟩ := List.pairwise_cons.mp h
        obtain ⟨hne, hnot⟩ := not_or.mp (mt List.mem_cons.mpr hx)
        rw [List.orderedInsert_cons]
        by_cases hle : x ≤ z
        · rw [if_pos hle]
          have hlt : x < z := lt_of_le_of_ne hle hne
          refine List.pairwise_cons.mpr ⟨?_, h⟩
          intro w hw
          rcases List.mem_cons.mp hw with rfl | hw
          · exact hlt
          · exact hlt.trans (hz w hw)
        · rw [if_neg hle]
          refine List.pairwise_cons.mpr ⟨?_, ih hzs hnot⟩
          intro w hw
          rcases (List.mem_orderedInsert (· ≤ ·)).mp hw with rfl | hw
          · exact lt_of_not_ge hle
          · exact hz w hw

theorem sorted_erase (h : Sorted xs) (x : α) : Sorted (xs.erase x) :=
  h.sublist List.erase_sublist

theorem mem_erase (h : Sorted xs) : y ∈ xs.erase x ↔ y ≠ x ∧ y ∈ xs :=
  h.nodup.mem_erase_iff

/-- The first element is the least. -/
theorem head_le (h : Sorted xs) (hx : xs.head? = some x) (hy : y ∈ xs) : x ≤ y := by
  cases xs with
  | nil => cases hx
  | cons z zs =>
      cases hx
      rcases List.mem_cons.mp hy with rfl | hy
      · exact le_refl y
      · exact le_of_lt ((List.pairwise_cons.mp h).1 y hy)

/-! ### Below a bound -/

theorem takeWhile_lt (h : Sorted xs) (bound : α) :
    xs.takeWhile (· < bound) = xs.filter (· < bound) := by
  induction xs with
  | nil => rfl
  | cons z zs ih =>
      obtain ⟨hz, hzs⟩ := List.pairwise_cons.mp h
      by_cases hlt : z < bound
      · rw [List.takeWhile_cons_of_pos (by simpa using hlt),
          List.filter_cons_of_pos (by simpa using hlt), ih hzs]
      · rw [List.takeWhile_cons_of_neg (by simpa using hlt), eq_comm, List.filter_eq_nil_iff]
        intro w hw
        rcases List.mem_cons.mp hw with rfl | hw
        · simpa using hlt
        · simpa using le_of_lt (lt_of_le_of_lt (not_lt.mp hlt) (hz w hw))

theorem dropWhile_lt (h : Sorted xs) (bound : α) :
    xs.dropWhile (· < bound) = xs.filter (¬ · < bound) := by
  induction xs with
  | nil => rfl
  | cons z zs ih =>
      obtain ⟨hz, hzs⟩ := List.pairwise_cons.mp h
      by_cases hlt : z < bound
      · rw [List.dropWhile_cons_of_pos (by simpa using hlt),
          List.filter_cons_of_neg (by simpa using hlt), ih hzs]
      · rw [List.dropWhile_cons_of_neg (by simpa using hlt), eq_comm, List.filter_eq_self]
        intro w hw
        rcases List.mem_cons.mp hw with rfl | hw
        · simpa using hlt
        · simpa using le_of_lt (lt_of_le_of_lt (not_lt.mp hlt) (hz w hw))

end Rmuduo.Lib.SortedSet
