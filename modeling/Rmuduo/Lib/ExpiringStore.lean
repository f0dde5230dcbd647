/-
Stores whose entries expire.

An entry that has expired may be dropped at any later time: by a sweep over the store, or
when its key is looked up. What the store holds is then no record of what was put into it.
`Tracks` ties the store to that record, the value that was put last under each key.

* `Tracks.later`, `Tracks.sweep`, `Tracks.drop`, `Tracks.update` — what keeps the tie.
* `Tracks.live_iff` — an entry that has not expired is in the store exactly when it was put
  last under its key.
-/

import Mathlib.Order.Lattice
import Mathlib.Logic.Function.Basic

namespace Rmuduo.Lib.ExpiringStore

variable {κ ν τ : Type} [LinearOrder τ] {expireAt : ν → τ}

/-- The entries that have not expired. -/
def live (expireAt : ν → τ) (now : τ) (store : κ → Option ν) : κ → Option ν :=
  fun k => (store k).filter fun v => now < expireAt v

theorem live_eq_some {now : τ} {store : κ → Option ν} {k : κ} {v : ν} :
    live expireAt now store k = some v ↔ store k = some v ∧ now < expireAt v := by
  simp [live, Option.filter_eq_some_iff]

/-- At `now`, what the store holds was put last under its key, and what was put last and has
not expired is held. -/
structure Tracks (expireAt : ν → τ) (now : τ) (store last : κ → Option ν) : Prop where
  held : ∀ {k v}, store k = some v → last k = some v
  kept : ∀ {k v}, last k = some v → now < expireAt v → store k = some v

theorem tracks_empty (now : τ) :
    Tracks expireAt now (fun _ : κ => none) (fun _ => none) where
  held h := nomatch h
  kept h := nomatch h

namespace Tracks

variable {now now' : τ} {store last : κ → Option ν} {k : κ} {v : ν}

theorem later (h : Tracks expireAt now store last) (hle : now ≤ now') :
    Tracks expireAt now' store last where
  held := h.held
  kept hlast hlive := h.kept hlast (lt_of_le_of_lt hle hlive)

theorem sweep (h : Tracks expireAt now store last) :
    Tracks expireAt now (live expireAt now store) last where
  held hstore := h.held (live_eq_some.mp hstore).1
  kept hlast hlive := live_eq_some.mpr ⟨h.kept hlast hlive, hlive⟩

theorem live_iff (h : Tracks expireAt now store last) (hle : now ≤ now') :
    store k = some v ∧ now' < expireAt v ↔ last k = some v ∧ now' < expireAt v := by
  constructor
  · rintro ⟨hstore, hlive⟩
    exact ⟨h.held hstore, hlive⟩
  · rintro ⟨hlast, hlive⟩
    exact ⟨h.kept hlast (lt_of_le_of_lt hle hlive), hlive⟩

variable [DecidableEq κ]

/-- An expired entry may go. -/
theorem drop (h : Tracks expireAt now store last) (hk : store k = some v)
    (expired : expireAt v ≤ now) : Tracks expireAt now (Function.update store k none) last where
  held {j w} hstore := by
    by_cases hj : j = k
    · subst hj
      rw [Function.update_self] at hstore
      cases hstore
    · rw [Function.update_of_ne hj] at hstore
      exact h.held hstore
  kept {j w} hlast hlive := by
    by_cases hj : j = k
    · subst hj
      obtain rfl : v = w := Option.some.inj ((h.held hk).symm.trans hlast)
      exact absurd hlive (not_lt_of_ge expired)
    · rw [Function.update_of_ne hj]
      exact h.kept hlast hlive

/-- What is put in, or taken away as if it had never been put in. -/
theorem update (h : Tracks expireAt now store last) (k : κ) (x : Option ν) :
    Tracks expireAt now (Function.update store k x) (Function.update last k x) where
  held {j w} hstore := by
    by_cases hj : j = k
    · subst hj
      rw [Function.update_self] at hstore ⊢
      exact hstore
    · rw [Function.update_of_ne hj] at hstore ⊢
      exact h.held hstore
  kept {j w} hlast hlive := by
    by_cases hj : j = k
    · subst hj
      rw [Function.update_self] at hlast ⊢
      exact hlast
    · rw [Function.update_of_ne hj] at hlast ⊢
      exact h.kept hlast hlive

end Tracks

end Rmuduo.Lib.ExpiringStore
