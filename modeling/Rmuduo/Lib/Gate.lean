/-
A gate: one thread waits under a mutex for a value that another one sets once.

The thread that waits takes the mutex and tests the value, in a loop; when the test fails, it gives
the mutex back and blocks, in one step. The other thread takes the mutex, sets the value and wakes
the one that is blocked. A thread that is blocked may also wake up by itself.

* `Gate.Sound.step` — what the mutex protects.
* `Gate.Sound.awake` — nobody is blocked when the value is set.
* `Gate.work_step` — every step but a spurious wake-up comes closer to the end.
* `Gate.Sound.setter_goesOn`, `waiter_goesOn` — as long as not both are through, one of them can
  go on.
-/

import Mathlib.Tactic.Common

namespace Rmuduo.Lib

/-- Where the thread that waits is. -/
inductive Waiter where
  /-- It has to take the mutex. -/
  | outside
  /-- It has the mutex, and has to test the value. -/
  | testing
  | blocked
  /-- The test has been passed, and it still has the mutex. -/
  | leaving
  | through
deriving DecidableEq, Repr

/-- Where the thread that sets the value is. -/
inductive Setter where
  | outside
  | setting
  | leaving
  | through
deriving DecidableEq, Repr

inductive Side where
  | waiter
  | setter
deriving DecidableEq, Repr

/-- The code of the two threads: the test, the assignment, and whether it is followed by a
notification. -/
structure GateCode (σ : Type) where
  passes : σ → Bool
  set : σ → σ
  notifies : σ → Bool

/-- The value, the holder of the mutex, and the two threads. -/
structure Gate (σ : Type) where
  value : σ
  mutex : Option Side := none
  waiter : Waiter := .outside
  setter : Setter := .outside

inductive GateStep where
  | lock (side : Side)
  | test
  | set
  | unlock (side : Side)
  /-- A spurious wake-up. -/
  | wake
deriving DecidableEq, Repr

namespace GateStep

def side : GateStep → Side
  | .lock side => side
  | .test => .waiter
  | .set => .setter
  | .unlock side => side
  | .wake => .waiter

end GateStep

namespace Gate

section Steps

variable {σ : Type}

def step (code : GateCode σ) (g : Gate σ) : GateStep → Gate σ
  | .lock .waiter => { g with mutex := some .waiter, waiter := .testing }
  | .lock .setter => { g with mutex := some .setter, setter := .setting }
  | .test =>
      if code.passes g.value then { g with waiter := .leaving }
      else { g with mutex := none, waiter := .blocked }
  | .set =>
      { g with
        value := code.set g.value
        setter := .leaving
        waiter :=
          if code.notifies (code.set g.value) ∧ g.waiter = .blocked then .outside else g.waiter }
  | .unlock .waiter => { g with mutex := none, waiter := .through }
  | .unlock .setter => { g with mutex := none, setter := .through }
  | .wake => { g with waiter := .outside }

/-- The steps that can come next. -/
def Possible (g : Gate σ) : GateStep → Prop
  | .lock .waiter => g.mutex = none ∧ g.waiter = .outside
  | .lock .setter => g.mutex = none ∧ g.setter = .outside
  | .test => g.waiter = .testing
  | .set => g.setter = .setting
  | .unlock .waiter => g.waiter = .leaving
  | .unlock .setter => g.setter = .leaving
  | .wake => g.waiter = .blocked

instance (g : Gate σ) (e : GateStep) : Decidable (g.Possible e) :=
  match e with
  | .lock .waiter => inferInstanceAs (Decidable (g.mutex = none ∧ g.waiter = .outside))
  | .lock .setter => inferInstanceAs (Decidable (g.mutex = none ∧ g.setter = .outside))
  | .test => inferInstanceAs (Decidable (g.waiter = .testing))
  | .set => inferInstanceAs (Decidable (g.setter = .setting))
  | .unlock .waiter => inferInstanceAs (Decidable (g.waiter = .leaving))
  | .unlock .setter => inferInstanceAs (Decidable (g.setter = .leaving))
  | .wake => inferInstanceAs (Decidable (g.waiter = .blocked))

end Steps

/-! ### What the mutex protects -/

/-- The value has been set. -/
def IsSet {σ : Type} (g : Gate σ) : Prop := g.setter = .leaving ∨ g.setter = .through

section Invariant

variable {σ : Type} {code : GateCode σ} {init : σ} {g : Gate σ} {e : GateStep}

/-- The test fails at first, and not any more when the value has been set; and then the thread that
is blocked is woken. -/
structure Opens (code : GateCode σ) (init : σ) : Prop where
  closed : code.passes init = false
  opened : code.passes (code.set init) = true
  notified : code.notifies (code.set init) = true

structure Sound (code : GateCode σ) (init : σ) (g : Gate σ) : Prop where
  waiter : g.mutex = some .waiter ↔ g.waiter = .testing ∨ g.waiter = .leaving
  setter : g.mutex = some .setter ↔ g.setter = .setting ∨ g.setter = .leaving
  unset : ¬ g.IsSet → g.value = init
  set : g.IsSet → g.value = code.set init
  /-- No wake-up is lost. -/
  blocked : g.waiter = .blocked → ¬ g.IsSet
  passed : g.waiter = .leaving ∨ g.waiter = .through → g.IsSet

theorem sound_init (code : GateCode σ) (init : σ) : Sound code init { value := init } where
  waiter := by simp
  setter := by simp
  unset _ := rfl
  set h := by simp [IsSet] at h
  blocked h := by cases h
  passed h := by simp at h

/-- The test is passed exactly when the value has been set. -/
theorem Sound.passes_iff (opens : Opens code init) (h : Sound code init g) :
    code.passes g.value = true ↔ g.IsSet := by
  by_cases hset : g.IsSet
  · simp [h.set hset, opens.opened, hset]
  · simp [h.unset hset, opens.closed, hset]

theorem Sound.step (opens : Opens code init) (h : Sound code init g) (possible : g.Possible e) :
    Sound code init (g.step code e) := by
  have hpasses := h.passes_iff opens
  obtain ⟨value, mutex, waiter, setter⟩ := g
  obtain ⟨hwaiter, hsetter, hunset, hset, hblocked, hpassed⟩ := h
  cases e with
  | lock side =>
      cases side with
      | waiter =>
          obtain ⟨rfl, rfl⟩ := possible
          constructor <;> simp_all [Gate.step, IsSet]
      | setter =>
          obtain ⟨rfl, rfl⟩ := possible
          constructor <;> simp_all [Gate.step, IsSet]
  | test =>
      obtain rfl : waiter = .testing := possible
      simp only [Gate.step]
      split
      · rename_i passed
        exact ⟨by simp_all, hsetter, hunset, hset, nofun, fun _ => hpasses.mp passed⟩
      · rename_i failed
        refine ⟨by simp, ?_, hunset, hset, fun _ hisSet => failed (hpasses.mpr hisSet), by simp⟩
        simp_all
  | set =>
      obtain rfl : setter = .setting := possible
      have hvalue : value = init := hunset (by simp [IsSet])
      subst hvalue
      refine ⟨?_, by simp_all [Gate.step], ?_, fun _ => rfl, ?_, fun _ => .inl rfl⟩
      · simp only [Gate.step, opens.notified, true_and]
        split <;> simp_all
      · exact fun hisSet => absurd (.inl rfl) hisSet
      · simp only [Gate.step, opens.notified, true_and]
        split <;> simp_all
  | unlock side =>
      cases side with
      | waiter =>
          obtain rfl : waiter = .leaving := possible
          constructor <;> simp_all [Gate.step, IsSet]
      | setter =>
          obtain rfl : setter = .leaving := possible
          constructor <;> simp_all [Gate.step, IsSet]
  | wake =>
      obtain rfl : waiter = .blocked := possible
      constructor <;> simp_all [Gate.step, IsSet]

/-- **No wake-up is lost.** The thread that waits is not blocked when the value has been set. -/
theorem Sound.awake (h : Sound code init g) (isSet : g.IsSet) : g.waiter ≠ .blocked :=
  fun blocked => h.blocked blocked isSet

/-! ### What one side leaves alone -/

theorem step_setter (he : e.side = .waiter) : (g.step code e).setter = g.setter := by
  cases e with
  | lock side =>
      obtain rfl : side = .waiter := he
      rfl
  | test =>
      rw [Gate.step]
      split <;> rfl
  | set => cases he
  | unlock side =>
      obtain rfl : side = .waiter := he
      rfl
  | wake => rfl

/-- A waiter that is through takes no step, and none is taken for it. -/
theorem step_through (possible : g.Possible e) (through : g.waiter = .through) :
    e.side = .setter ∧ (g.step code e).waiter = .through := by
  obtain ⟨value, mutex, waiter, setter⟩ := g
  obtain rfl : waiter = .through := through
  cases e with
  | lock side =>
      cases side with
      | waiter => cases possible.2
      | setter => exact ⟨rfl, rfl⟩
  | test => cases possible
  | set => exact ⟨rfl, by simp [Gate.step]⟩
  | unlock side =>
      cases side with
      | waiter => cases possible
      | setter => exact ⟨rfl, rfl⟩
  | wake => cases possible

/-- A waiter that has not begun takes no step but the first. -/
theorem step_outside (possible : g.Possible e) (he : e.side = .setter)
    (outside : g.waiter = .outside) : (g.step code e).waiter = .outside := by
  obtain ⟨value, mutex, waiter, setter⟩ := g
  obtain rfl : waiter = .outside := outside
  cases e with
  | lock side =>
      obtain rfl : side = .setter := he
      rfl
  | test => cases possible
  | set => simp [Gate.step]
  | unlock side =>
      obtain rfl : side = .setter := he
      rfl
  | wake => cases possible

/-- The waiter gets through by giving the mutex back. -/
theorem step_ne_through (hwaiter : g.waiter ≠ .through) (he : e ≠ .unlock .waiter) :
    (g.step code e).waiter ≠ .through := by
  obtain ⟨value, mutex, waiter, setter⟩ := g
  cases e with
  | lock side =>
      cases side with
      | waiter => exact nofun
      | setter => exact hwaiter
  | test =>
      rw [Gate.step]
      split
      · exact nofun
      · exact nofun
  | set =>
      simp only [Gate.step]
      split
      · exact nofun
      · exact hwaiter
  | unlock side =>
      cases side with
      | waiter => exact absurd rfl he
      | setter => exact hwaiter
  | wake => exact nofun

/-! ### The way to the end -/

/-- As long as the value is not set and the mutex given back, the setter can go on, or the waiter
has the mutex and can. -/
theorem Sound.setter_goesOn (h : Sound code init g) (hsetter : g.setter ≠ .through) :
    ∃ e, e ≠ .wake ∧ g.Possible e ∧ (e.side = .waiter → g.mutex = some .waiter) := by
  cases hat : g.setter with
  | outside =>
      cases hmutex : g.mutex with
      | none => exact ⟨.lock .setter, nofun, ⟨hmutex, hat⟩, nofun⟩
      | some side =>
          cases side with
          | waiter =>
              rcases h.waiter.mp hmutex with htesting | hleaving
              · exact ⟨.test, nofun, htesting, fun _ => rfl⟩
              · exact ⟨.unlock .waiter, nofun, hleaving, fun _ => rfl⟩
          | setter =>
              have hinside := h.setter.mp hmutex
              simp [hat] at hinside
  | setting => exact ⟨.set, nofun, hat, nofun⟩
  | leaving => exact ⟨.unlock .setter, nofun, hat, nofun⟩
  | through => exact absurd hat hsetter

/-- When the setter is through, the waiter can go on until it is. -/
theorem Sound.waiter_goesOn (h : Sound code init g) (hsetter : g.setter = .through)
    (hwaiter : g.waiter ≠ .through) : ∃ e, e ≠ .wake ∧ g.Possible e ∧ e.side = .waiter := by
  cases hat : g.waiter with
  | outside =>
      have hmutex : g.mutex = none := by
        cases hmutex : g.mutex with
        | none => rfl
        | some side =>
            cases side with
            | waiter =>
                have hinside := h.waiter.mp hmutex
                simp [hat] at hinside
            | setter =>
                have hinside := h.setter.mp hmutex
                simp [hsetter] at hinside
      exact ⟨.lock .waiter, nofun, ⟨hmutex, hat⟩, rfl⟩
  | testing => exact ⟨.test, nofun, hat, rfl⟩
  | blocked => exact absurd hat (h.awake (.inr hsetter))
  | leaving => exact ⟨.unlock .waiter, nofun, hat, rfl⟩
  | through => exact absurd hat hwaiter

end Invariant

/-! ### Counting -/

/-- What the waiter may still have to do. It may have to test twice. -/
def waiterWork : Waiter → Nat
  | .outside => 4
  | .testing => 3
  | .blocked => 2
  | .leaving => 1
  | .through => 0

/-- What the setter has to do, and what the waiter has to do because of it. -/
def setterWork : Setter → Nat
  | .outside => 5
  | .setting => 4
  | .leaving => 1
  | .through => 0

def work {σ : Type} (g : Gate σ) : Nat := waiterWork g.waiter + setterWork g.setter

section Counting

variable {σ : Type} {code : GateCode σ} {g : Gate σ} {e : GateStep}

variable (code) in
/-- Every step but a spurious wake-up leaves less to do. -/
theorem work_step (possible : g.Possible e) (he : e ≠ .wake) : work (g.step code e) < work g := by
  obtain ⟨value, mutex, waiter, setter⟩ := g
  cases e with
  | lock side =>
      cases side with
      | waiter =>
          obtain ⟨-, rfl⟩ := possible
          simp [step, work, waiterWork]
      | setter =>
          obtain ⟨-, rfl⟩ := possible
          simp [step, work, setterWork]
  | test =>
      obtain rfl : waiter = .testing := possible
      rw [step]
      split <;> simp [work, waiterWork]
  | set =>
      obtain rfl : setter = .setting := possible
      simp only [step, work]
      split
      · rename_i woken
        simp [woken.2, waiterWork, setterWork]
      · simp [setterWork]
  | unlock side =>
      cases side with
      | waiter =>
          obtain rfl : waiter = .leaving := possible
          simp [step, work, waiterWork]
      | setter =>
          obtain rfl : setter = .leaving := possible
          simp [step, work, setterWork]
  | wake => exact absurd rfl he

variable (code) in
theorem work_wake (possible : g.Possible .wake) : work (g.step code .wake) = work g + 2 := by
  obtain ⟨value, mutex, waiter, setter⟩ := g
  obtain rfl : waiter = .blocked := possible
  exact Nat.add_right_comm 2 2 _

end Counting

end Gate

end Rmuduo.Lib
