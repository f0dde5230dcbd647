/-
Stores with a second index.

Values are held under a primary key. A second table has the primary key of a value under its
secondary key, and a search by the secondary key goes through both. A value is put in only
when both of its keys are free.

* `Indexed` — the two tables agree.
* `Indexed.put` — putting in a value keeps them so.
* `Indexed.find_eq_some` — what a search by the secondary key finds.
* `Indexed.eq_of_id` — no two values share a secondary key.
-/

import Mathlib.Logic.Function.Basic

namespace Rmuduo.Lib.SecondaryIndex

variable {κ ι ν : Type}

/-- The search by the secondary key. -/
def find (values : κ → Option ν) (keys : ι → Option κ) (i : ι) : Option ν :=
  (keys i).bind values

/-- Every value is under its own primary key, and the second table has the keys of the values
that are held, and no others. -/
structure Indexed (key : ν → κ) (id : ν → ι) (values : κ → Option ν) (keys : ι → Option κ) :
    Prop where
  named : ∀ {k v}, values k = some v → key v = k
  indexed : ∀ {k v}, values k = some v → keys (id v) = some k
  found : ∀ {i k}, keys i = some k → ∃ v, values k = some v ∧ id v = i

theorem indexed_empty (key : ν → κ) (id : ν → ι) :
    Indexed key id (fun _ => none) (fun _ => none) where
  named h := nomatch h
  indexed h := nomatch h
  found h := nomatch h

namespace Indexed

variable {key : ν → κ} {id : ν → ι} {values : κ → Option ν} {keys : ι → Option κ} {i : ι} {v w : ν}

theorem find_eq_some (h : Indexed key id values keys) :
    find values keys i = some v ↔ id v = i ∧ values (key v) = some v := by
  constructor
  · intro hfind
    obtain ⟨k, hk, hv⟩ := Option.bind_eq_some_iff.mp hfind
    obtain ⟨w, hw, rfl⟩ := h.found hk
    obtain rfl : w = v := Option.some.inj (hw.symm.trans hv)
    exact ⟨rfl, by rw [h.named hv]; exact hv⟩
  · rintro ⟨rfl, hv⟩
    simp [find, h.indexed hv, hv]

theorem eq_of_id (h : Indexed key id values keys) (hv : values (key v) = some v)
    (hw : values (key w) = some w) (heq : id v = id w) : v = w := by
  have hkeys : some (key v) = some (key w) := by rw [← h.indexed hv, heq, h.indexed hw]
  have hkey : key v = key w := Option.some.inj hkeys
  rw [hkey, hw] at hv
  exact (Option.some.inj hv).symm

theorem keys_eq_none (h : Indexed key id values keys) :
    keys i = none ↔ find values keys i = none := by
  constructor
  · intro hnone
    simp [find, hnone]
  · intro hnone
    cases hk : keys i with
    | none => rfl
    | some k =>
        obtain ⟨v, hv, -⟩ := h.found hk
        simp [find, hk, hv] at hnone

variable [DecidableEq κ] [DecidableEq ι]

/-- A value both of whose keys are free is put into both tables. -/
theorem put (h : Indexed key id values keys) (hkey : values (key v) = none)
    (hid : keys (id v) = none) :
    Indexed key id (Function.update values (key v) (some v))
      (Function.update keys (id v) (some (key v))) where
  named {k w} hw := by
    by_cases hk : k = key v
    · subst hk
      simp only [Function.update_self, Option.some.injEq] at hw
      rw [hw]
    · rw [Function.update_of_ne hk] at hw
      exact h.named hw
  indexed {k w} hw := by
    by_cases hk : k = key v
    · subst hk
      simp only [Function.update_self, Option.some.injEq] at hw
      simp [← hw]
    · rw [Function.update_of_ne hk] at hw
      have hne : id w ≠ id v := by
        intro heq
        rw [← heq, h.indexed hw] at hid
        cases hid
      rw [Function.update_of_ne hne, h.indexed hw]
  found {i k} hk := by
    by_cases hi : i = id v
    · subst hi
      simp only [Function.update_self, Option.some.injEq] at hk
      exact ⟨v, by simp [← hk]⟩
    · rw [Function.update_of_ne hi] at hk
      obtain ⟨w, hw, rfl⟩ := h.found hk
      have hne : k ≠ key v := by
        rintro rfl
        rw [hkey] at hw
        cases hw
      exact ⟨w, by rw [Function.update_of_ne hne, hw], rfl⟩

end Indexed

end Rmuduo.Lib.SecondaryIndex
