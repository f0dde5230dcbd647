/-
Ordered maps.

A map is the list of its entries in increasing order of their keys, so a traversal
is a recursion on the list and two maps with the same entries are equal.

* `emplace` keeps the entry of a key that is present, `assign` replaces it; both
  keep the order (`ordered_emplace`, `ordered_assign`).
* `lookup_assign` — what a later lookup finds.
* `emplace_last` — an entry above all others goes to the end, so re-inserting the
  entries of a map in order rebuilds it.
* `lookup_assignAll_last` — the last entry that is assigned to a key.
* `mem_assignAll_iff` — a map that entries with different keys are assigned to has just
  these entries.
-/

import Mathlib.Data.List.Lex
import Mathlib.Data.List.Nodup
import Mathlib.Data.List.Pairwise
import Mathlib.Order.Lattice

namespace Rmuduo.Lib

/-- Bytes are ordered as unsigned numbers, as `std::char_traits<char>` compares them. -/
instance instLinearOrderUInt8 : LinearOrder UInt8 where
  le_refl := UInt8.le_refl
  le_trans _ _ _ := UInt8.le_trans
  le_antisymm _ _ := UInt8.le_antisymm
  le_total := UInt8.le_total
  lt_iff_le_not_ge a b := by
    rw [UInt8.le_iff_toNat_le, UInt8.le_iff_toNat_le, UInt8.lt_iff_toNat_lt]
    omega
  toDecidableLE := inferInstance
  toDecidableLT := inferInstance
  toDecidableEq := inferInstance

namespace OrderedMap

variable {κ ν : Type} [LinearOrder κ]

/-- Entries in strictly increasing order of their keys. -/
def Ordered (m : List (κ × ν)) : Prop :=
  m.Pairwise fun a b => a.1 < b.1

/-- `emplace`: insert an entry unless its key is present. -/
def emplace (key : κ) (value : ν) : List (κ × ν) → List (κ × ν)
  | [] => [(key, value)]
  | (k, v) :: m =>
      if key < k then (key, value) :: (k, v) :: m
      else if key = k then (k, v) :: m
      else (k, v) :: emplace key value m

/-- `m[key] = value`: insert an entry or replace its value. -/
def assign (key : κ) (value : ν) : List (κ × ν) → List (κ × ν)
  | [] => [(key, value)]
  | (k, v) :: m =>
      if key < k then (key, value) :: (k, v) :: m
      else if key = k then (k, value) :: m
      else (k, v) :: assign key value m

/-- `find`. -/
def lookup (key : κ) : List (κ × ν) → Option ν
  | [] => none
  | (k, v) :: m => if key = k then some v else lookup key m

theorem ordered_nil : Ordered ([] : List (κ × ν)) := List.Pairwise.nil

theorem key_of_mem_emplace {key : κ} {value : ν} {m : List (κ × ν)} {e : κ × ν}
    (h : e ∈ emplace key value m) : e = (key, value) ∨ e ∈ m := by
  induction m with
  | nil => exact .inl (List.mem_singleton.mp h)
  | cons a m ih =>
      obtain ⟨k, v⟩ := a
      unfold emplace at h
      split at h
      · exact List.mem_cons.mp h
      · split at h
        · exact .inr h
        · rcases List.mem_cons.mp h with rfl | h
          · exact .inr List.mem_cons_self
          · exact (ih h).imp_right (List.mem_cons_of_mem _)

theorem ordered_emplace {key : κ} {value : ν} {m : List (κ × ν)} (h : Ordered m) :
    Ordered (emplace key value m) := by
  induction m with
  | nil => exact List.pairwise_singleton _ _
  | cons a m ih =>
      obtain ⟨k, v⟩ := a
      obtain ⟨hfirst, hrest⟩ := List.pairwise_cons.mp h
      unfold emplace
      split
      · rename_i hlt
        refine List.pairwise_cons.mpr ⟨fun e he => ?_, h⟩
        rcases List.mem_cons.mp he with rfl | he
        · exact hlt
        · exact lt_trans hlt (hfirst e he)
      · split
        · exact h
        · rename_i hnlt hne
          have hk : k < key := lt_of_le_of_ne (not_lt.mp hnlt) (Ne.symm hne)
          refine List.pairwise_cons.mpr ⟨fun e he => ?_, ih hrest⟩
          rcases key_of_mem_emplace he with rfl | he
          · exact hk
          · exact hfirst e he

theorem key_of_mem_assign {key : κ} {value : ν} {m : List (κ × ν)} {e : κ × ν}
    (h : e ∈ assign key value m) : e = (key, value) ∨ e ∈ m := by
  induction m with
  | nil => exact .inl (List.mem_singleton.mp h)
  | cons a m ih =>
      obtain ⟨k, v⟩ := a
      unfold assign at h
      split at h
      · exact List.mem_cons.mp h
      · split at h
        · rename_i heq
          subst heq
          exact (List.mem_cons.mp h).imp_right (List.mem_cons_of_mem _)
        · rcases List.mem_cons.mp h with rfl | h
          · exact .inr List.mem_cons_self
          · exact (ih h).imp_right (List.mem_cons_of_mem _)

theorem ordered_assign {key : κ} {value : ν} {m : List (κ × ν)} (h : Ordered m) :
    Ordered (assign key value m) := by
  induction m with
  | nil => exact List.pairwise_singleton _ _
  | cons a m ih =>
      obtain ⟨k, v⟩ := a
      obtain ⟨hfirst, hrest⟩ := List.pairwise_cons.mp h
      unfold assign
      split
      · rename_i hlt
        refine List.pairwise_cons.mpr ⟨fun e he => ?_, h⟩
        rcases List.mem_cons.mp he with rfl | he
        · exact hlt
        · exact lt_trans hlt (hfirst e he)
      · split
        · exact List.pairwise_cons.mpr ⟨hfirst, hrest⟩
        · rename_i hnlt hne
          have hk : k < key := lt_of_le_of_ne (not_lt.mp hnlt) (Ne.symm hne)
          refine List.pairwise_cons.mpr ⟨fun e he => ?_, ih hrest⟩
          rcases key_of_mem_assign he with rfl | he
          · exact hk
          · exact hfirst e he

theorem lookup_assign (key key' : κ) (value : ν) (m : List (κ × ν)) :
    lookup key' (assign key value m) = if key' = key then some value else lookup key' m := by
  induction m with
  | nil => rfl
  | cons a m ih =>
      obtain ⟨k, v⟩ := a
      unfold assign
      split
      · rfl
      · split
        · rename_i heq
          subst heq
          by_cases h : key' = key
          · simp [lookup, h]
          · simp [lookup, h]
        · rename_i hne
          by_cases h : key' = k
          · subst h
            simp [lookup, Ne.symm hne]
          · simp [lookup, h, ih]

/-- An entry above all others goes to the end. -/
theorem emplace_last {key : κ} {value : ν} {m : List (κ × ν)} (h : ∀ e ∈ m, e.1 < key) :
    emplace key value m = m ++ [(key, value)] := by
  induction m with
  | nil => rfl
  | cons a m ih =>
      obtain ⟨k, v⟩ := a
      have hk : k < key := h (k, v) List.mem_cons_self
      rw [emplace, if_neg (not_lt.mpr hk.le), if_neg hk.ne',
        ih fun e he => h e (List.mem_cons_of_mem _ he)]
      rfl

/-! ### Lookups and entries -/

theorem mem_of_lookup {key : κ} {value : ν} {m : List (κ × ν)} (h : lookup key m = some value) :
    (key, value) ∈ m := by
  induction m with
  | nil => cases h
  | cons a m ih =>
      obtain ⟨k, v⟩ := a
      unfold lookup at h
      split at h
      · rename_i heq
        cases h
        rw [heq]
        exact List.mem_cons_self
      · exact List.mem_cons_of_mem _ (ih h)

/-- Keys are not repeated, so every entry is found. -/
theorem lookup_of_mem {key : κ} {value : ν} {m : List (κ × ν)} (hm : Ordered m)
    (h : (key, value) ∈ m) : lookup key m = some value := by
  induction m with
  | nil => cases h
  | cons a m ih =>
      obtain ⟨k, v⟩ := a
      obtain ⟨hfirst, hrest⟩ := List.pairwise_cons.mp hm
      unfold lookup
      rcases List.mem_cons.mp h with heq | h
      · cases heq
        exact if_pos rfl
      · have hlt : k < key := hfirst _ h
        rw [if_neg hlt.ne']
        exact ih hrest h

/-- Assign the entries of a list, in order. -/
def assignAll (m : List (κ × ν)) (entries : List (κ × ν)) : List (κ × ν) :=
  entries.foldl (fun m e => assign e.1 e.2 m) m

theorem ordered_assignAll {m : List (κ × ν)} (h : Ordered m) (entries : List (κ × ν)) :
    Ordered (assignAll m entries) := by
  induction entries generalizing m with
  | nil => exact h
  | cons e entries ih => exact ih (ordered_assign h)

theorem mem_assignAll {m entries : List (κ × ν)} {e : κ × ν} (h : e ∈ assignAll m entries) :
    e ∈ entries ∨ e ∈ m := by
  induction entries generalizing m with
  | nil => exact .inr h
  | cons a entries ih =>
      rcases ih h with h | h
      · exact .inl (List.mem_cons_of_mem _ h)
      · rcases key_of_mem_assign h with rfl | h
        · exact .inl List.mem_cons_self
        · exact .inr h

/-- A key that had a value, or is assigned one, has one. -/
theorem lookup_assignAll_ne_none {key : κ} {m entries : List (κ × ν)}
    (h : lookup key m ≠ none ∨ key ∈ entries.map Prod.fst) :
    lookup key (assignAll m entries) ≠ none := by
  induction entries generalizing m with
  | nil =>
      rcases h with h | h
      · exact h
      · cases h
  | cons e entries ih =>
      apply ih
      rw [lookup_assign]
      by_cases hkey : key = e.1
      · rw [if_pos hkey]
        exact .inl (by simp)
      · rw [if_neg hkey]
        refine h.imp_right fun hmem => ?_
        exact (List.mem_cons.mp hmem).resolve_left hkey

theorem lookup_assignAll_of_notMem {key : κ} {m entries : List (κ × ν)}
    (h : key ∉ entries.map Prod.fst) : lookup key (assignAll m entries) = lookup key m := by
  induction entries generalizing m with
  | nil => rfl
  | cons e entries ih =>
      obtain ⟨hfirst, hrest⟩ := not_or.mp fun hmem => h (List.mem_cons.mpr hmem)
      rw [assignAll, List.foldl_cons, ← assignAll, ih hrest, lookup_assign, if_neg hfirst]

/-- The last entry of a key is the one that is found. -/
theorem lookup_assignAll_last {key : κ} {value : ν} {m before after : List (κ × ν)}
    (h : key ∉ after.map Prod.fst) :
    lookup key (assignAll m (before ++ (key, value) :: after)) = some value := by
  rw [assignAll, List.foldl_append, List.foldl_cons, ← assignAll, lookup_assignAll_of_notMem h,
    lookup_assign, if_pos rfl]

/-- **Entries with different keys** are all in the map, and nothing else is. -/
theorem mem_assignAll_iff {entries : List (κ × ν)} (hnodup : (entries.map Prod.fst).Nodup)
    {e : κ × ν} : e ∈ assignAll [] entries ↔ e ∈ entries := by
  constructor
  · intro h
    exact (mem_assignAll h).resolve_right List.not_mem_nil
  · intro h
    have hfound : lookup e.1 (assignAll [] entries) ≠ none :=
      lookup_assignAll_ne_none (.inr (List.mem_map_of_mem h))
    obtain ⟨value, hvalue⟩ := Option.ne_none_iff_exists'.mp hfound
    have hmem := mem_of_lookup hvalue
    have hentry := (mem_assignAll hmem).resolve_right List.not_mem_nil
    have hsame : (e.1, value) = e := List.inj_on_of_nodup_map hnodup hentry h rfl
    rwa [hsame] at hmem

end OrderedMap

end Rmuduo.Lib
