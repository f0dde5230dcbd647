/-
Tables of open descriptors.

A descriptor that is opened is the lowest one that is free below the limit.

* `allocate_eq_some` — what is opened was free.
* `entry_allocate`, `entry_put`, `entry_clear` — what is open stays as it is.
-/

import Mathlib.Logic.Function.Basic

namespace Rmuduo.Lib

/-- What the descriptors of a process stand for. -/
structure FdTable (α : Type) where
  limit : Nat
  entry : Nat → Option α

namespace FdTable

variable {α : Type}

def lowestFree (t : FdTable α) : Option Nat :=
  (List.range t.limit).find? fun n => (t.entry n).isNone

def put (t : FdTable α) (n : Nat) (a : α) : FdTable α :=
  { t with entry := Function.update t.entry n (some a) }

def clear (t : FdTable α) (n : Nat) : FdTable α :=
  { t with entry := Function.update t.entry n none }

/-- Opens the lowest free descriptor, if there is one. -/
def allocate (t : FdTable α) (a : α) : FdTable α × Option Nat :=
  match t.lowestFree with
  | none => (t, none)
  | some n => (t.put n a, some n)

variable {t : FdTable α} {n m : Nat} {a b : α}

@[simp] theorem entry_put_self : (t.put n a).entry n = some a := Function.update_self ..

theorem entry_put (h : n ≠ m) : (t.put m a).entry n = t.entry n := Function.update_of_ne h ..

@[simp] theorem entry_clear_self : (t.clear n).entry n = none := Function.update_self ..

theorem entry_clear (h : n ≠ m) : (t.clear m).entry n = t.entry n := Function.update_of_ne h ..

/-- What stands for different things is not the same descriptor. -/
theorem ne_of_entry (hn : t.entry n = some a) (hm : t.entry m = some b) (hab : a ≠ b) :
    n ≠ m := by
  rintro rfl
  exact hab (Option.some.inj (hn.symm.trans hm))

theorem entry_of_lowestFree (h : t.lowestFree = some n) : t.entry n = none := by
  simpa using List.find?_some h

/-- What is open is not what is opened next. -/
theorem ne_of_lowestFree (hopen : t.entry n = some a) (hfree : t.lowestFree = some m) : n ≠ m := by
  rintro rfl
  rw [entry_of_lowestFree hfree] at hopen
  cases hopen

theorem entry_allocate (h : t.entry n = some a) : (t.allocate b).1.entry n = some a := by
  simp only [allocate]
  split
  · exact h
  · rename_i m hfree
    rw [entry_put (ne_of_lowestFree h hfree), h]

theorem allocate_eq_some (h : (t.allocate a).2 = some n) :
    t.entry n = none ∧ (t.allocate a).1.entry n = some a := by
  simp only [allocate] at h ⊢
  split at h
  · cases h
  · rename_i m hfree
    cases h
    simp [entry_of_lowestFree hfree]

end FdTable

end Rmuduo.Lib
