/-
Copies into a vector, element by element, as `std::copy` makes them.

A copy that would read or write outside the vector has no result.

* `copyInto_eq` — a copy from elsewhere, when there is room.
* `copyWithin_eq` — a copy towards the front within the vector: ranges may overlap.
* `slice` — a part of the vector, and what the copies do to it.
-/

import Mathlib.Data.List.Basic

namespace Rmuduo.Lib

variable {α : Type}

/-- The elements from `first` up to `last`. -/
def slice (first last : Nat) (v : List α) : List α :=
  (v.drop first).take (last - first)

/-- `v` with `data` in the place of what stands from `dest` on. -/
def overwrite (v data : List α) (dest : Nat) : List α :=
  v.take dest ++ data ++ v.drop (dest + data.length)

/-- The elements of `data`, to `dest` and behind. -/
def copyInto : List α → List α → Nat → Option (List α)
  | v, [], _ => some v
  | v, x :: data, dest =>
      if dest < v.length then copyInto (v.set dest x) data (dest + 1) else none

/-- `n` elements from `first` on, to `dest` and behind, the first one first. -/
def copyWithin : Nat → Nat → Nat → List α → Option (List α)
  | 0, _, _, v => some v
  | n + 1, first, dest, v =>
      match v[first]? with
      | none => none
      | some x =>
          if dest < v.length then copyWithin n (first + 1) (dest + 1) (v.set dest x) else none

theorem overwrite_nil (v : List α) (dest : Nat) : overwrite v [] dest = v := by
  simp [overwrite]

/-- One element, then the rest behind it. -/
theorem overwrite_set {v : List α} {dest : Nat} (h : dest < v.length) (x : α) (data : List α) :
    overwrite (v.set dest x) data (dest + 1) = overwrite v (x :: data) dest := by
  have htake : (v.set dest x).take (dest + 1) = v.take dest ++ [x] := by
    rw [List.take_add_one, List.take_set_of_le (Nat.le_refl dest), List.getElem?_set_self h]
    rfl
  have hdrop : (v.set dest x).drop (dest + 1 + data.length) =
      v.drop (dest + (data.length + 1)) := by
    rw [List.drop_set_of_lt (by omega)]
    congr 1
    omega
  unfold overwrite
  rw [htake, hdrop]
  simp

theorem copyInto_eq {v data : List α} {dest : Nat} (h : dest + data.length ≤ v.length) :
    copyInto v data dest = some (overwrite v data dest) := by
  induction data generalizing v dest with
  | nil => rw [overwrite_nil, copyInto]
  | cons x data ih =>
      have hlt : dest < v.length := by
        rw [List.length_cons] at h
        omega
      rw [copyInto, if_pos hlt, ih, overwrite_set hlt]
      rw [List.length_set]
      rw [List.length_cons] at h
      omega

/-- Elements behind a place are not changed by writing to it. -/
theorem slice_set {v : List α} {first last dest : Nat} (h : dest < first) (x : α) :
    slice first last (v.set dest x) = slice first last v := by
  unfold slice
  rw [List.drop_set_of_lt h]

theorem slice_cons {v : List α} {first n : Nat} {x : α} (h : v[first]? = some x) :
    slice first (first + (n + 1)) v = x :: slice (first + 1) (first + 1 + n) v := by
  obtain ⟨hlt, hx⟩ := List.getElem?_eq_some_iff.mp h
  unfold slice
  rw [List.drop_eq_getElem_cons hlt, hx, Nat.add_sub_cancel_left, Nat.add_sub_cancel_left]
  rfl

theorem length_slice {v : List α} {first last : Nat} (h : last ≤ v.length) :
    (slice first last v).length = last - first := by
  unfold slice
  rw [List.length_take, List.length_drop]
  omega

/-- A copy towards the front moves the elements as they were: each is read before it is
written over. -/
theorem copyWithin_eq {n first dest : Nat} {v : List α} (forward : dest ≤ first)
    (h : first + n ≤ v.length) :
    copyWithin n first dest v = some (overwrite v (slice first (first + n) v) dest) := by
  induction n generalizing first dest v with
  | zero => simp [copyWithin, slice, overwrite_nil]
  | succ n ih =>
      have hfirst : first < v.length := by omega
      have hx : v[first]? = some v[first] := List.getElem?_eq_getElem hfirst
      have hdest : dest < v.length := by omega
      have hlength : first + 1 + n ≤ (v.set dest v[first]).length := by
        rw [List.length_set]
        omega
      rw [copyWithin, hx]
      dsimp only
      rw [if_pos hdest, ih (by omega) hlength, slice_set (by omega), overwrite_set hdest,
        slice_cons hx]

/-! ### Slices after a copy -/

theorem length_overwrite {v data : List α} {dest : Nat} (h : dest + data.length ≤ v.length) :
    (overwrite v data dest).length = v.length := by
  unfold overwrite
  simp only [List.length_append, List.length_take, List.length_drop]
  omega

/-- What was written behind a slice extends it. -/
theorem slice_overwrite {v : List α} (data : List α) {first last : Nat} (h : first ≤ last)
    (hlast : last ≤ v.length) :
    slice first (last + data.length) (overwrite v data last) = slice first last v ++ data := by
  have hfront : ((v.take last).drop first).length = last - first := by
    rw [List.length_drop, List.length_take, Nat.min_eq_left hlast]
  unfold slice overwrite
  rw [List.append_assoc, List.drop_append_of_le_length (by rw [List.length_take]; omega),
    ← List.append_assoc, List.take_left' (by rw [List.length_append, hfront]; omega)]
  rw [List.drop_take]

/-- What was written at a place stands there. -/
theorem slice_overwrite_self {v data : List α} {dest : Nat} (hdest : dest ≤ v.length) :
    slice dest (dest + data.length) (overwrite v data dest) = data := by
  rw [slice_overwrite data (Nat.le_refl dest) hdest]
  simp [slice]

end Rmuduo.Lib
