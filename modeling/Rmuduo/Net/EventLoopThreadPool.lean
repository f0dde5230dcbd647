/-
How a pool gets its loops (`net/EventLoopThreadPool.cc`, `net/EventLoopThread.cc`, `net/Thread.cc`,
`net/CountDownLatch.cc`).

`start` makes the threads one after another. For each of them it waits twice: in `Thread::start` for
`tid_`, at a latch, and in `startLoop` for `loop_`, at a condition variable. Both are a gate. The new
thread sets `tid_`, counts down, has an `EventLoop` on its stack, runs the callback on it, publishes
its address and enters `loop()`, which it does not leave.

Thread ids and stacks are those of the system: no two threads that are alive share one.

* `ThreadStep`, `PoolStep`, `Possible` — the steps of the threads and of the caller.
* `Sound.step` — what every step keeps.
* `loops_published` — what is in `loops_`, at any time and when `start` returns.
* `start_returns` — `start` does return.
-/

import Mathlib.Data.Fintype.EquivFin
import Mathlib.Data.List.Nodup
import Rmuduo.Lib.Gate
import Rmuduo.Lib.System

namespace Rmuduo.Net

open Lib Lib.System

/-- Where a loop is. -/
abbrev LoopAddress := Nat

/-! ### A thread -/

/-- `CountDownLatch::wait` and `countDown`. -/
def countDown : GateCode Int where
  passes count := !decide (0 < count)
  set count := count - 1
  notifies count := count == 0

/-- What `startLoop` and `threadFunc` do under `mutex_`. -/
def publish (loop : LoopAddress) : GateCode (Option LoopAddress) where
  passes := Option.isSome
  set _ := some loop
  notifies _ := true

/-- Where the new thread is. -/
inductive ThreadPoint where
  | begun
  /-- `tid_` is set. -/
  | named
  /-- It has counted down, and constructed its loop. -/
  | built
  /-- `callback_` has been called, if there is one. -/
  | initialized
  /-- In `loop()`. -/
  | looping
deriving DecidableEq, Repr

/-- An `EventLoopThread`, with its `Thread` and the latch of that. -/
structure EventLoopThread where
  /-- The id of the thread, and the address of the loop on its stack. -/
  self : Nat
  loop : LoopAddress
  point : ThreadPoint := .begun
  tid : Nat := 0
  latch : Gate Int := { value := 1 }
  gate : Gate (Option LoopAddress) := { value := none }

/-- What happens at the gates of a thread, and what it does by itself. -/
inductive ThreadStep where
  | latch (e : GateStep)
  | gate (e : GateStep)
  | setTid
  | construct
  | callback
  | enterLoop
deriving DecidableEq, Repr

namespace ThreadStep

/-- A spurious wake-up. -/
def wakes : ThreadStep → Bool
  | .latch e => e = .wake
  | .gate e => e = .wake
  | _ => false

end ThreadStep

namespace EventLoopThread

def step (t : EventLoopThread) : ThreadStep → EventLoopThread
  | .latch e => { t with latch := t.latch.step countDown e }
  | .gate e => { t with gate := t.gate.step (publish t.loop) e }
  | .setTid => { t with tid := t.self, point := .named }
  | .construct => { t with point := .built }
  | .callback => { t with point := .initialized }
  | .enterLoop => { t with point := .looping }

def Possible (t : EventLoopThread) : ThreadStep → Prop
  | .latch e => t.latch.Possible e ∧ (e.side = .setter → t.point = .named)
  | .gate e => t.gate.Possible e ∧ (e.side = .setter → t.point = .initialized)
  | .setTid => t.point = .begun
  | .construct => t.point = .named ∧ t.latch.setter = .through
  | .callback => t.point = .built
  | .enterLoop => t.point = .initialized ∧ t.gate.setter = .through

instance (t : EventLoopThread) (e : ThreadStep) : Decidable (t.Possible e) :=
  match e with
  | .latch e =>
      inferInstanceAs (Decidable (t.latch.Possible e ∧ (e.side = .setter → t.point = .named)))
  | .gate e =>
      inferInstanceAs (Decidable (t.gate.Possible e ∧ (e.side = .setter → t.point = .initialized)))
  | .setTid => inferInstanceAs (Decidable (t.point = .begun))
  | .construct => inferInstanceAs (Decidable (t.point = .named ∧ t.latch.setter = .through))
  | .callback => inferInstanceAs (Decidable (t.point = .built))
  | .enterLoop => inferInstanceAs (Decidable (t.point = .initialized ∧ t.gate.setter = .through))

end EventLoopThread

/-! ### The pool -/

/-- Where the thread that calls `EventLoopThreadPool::start` is. -/
inductive Caller where
  /-- At the condition of the loop. -/
  | between
  /-- In `latch_.wait()` of the last thread. -/
  | latching
  /-- In `startLoop`, behind `thread_.start()`. -/
  | waiting
  | returned
deriving DecidableEq, Repr

structure EventLoopThreadPool where
  baseLoop : LoopAddress
  numThreads : Int
  /-- There is a callback. -/
  callback : Bool
  caller : Caller := .between
  threads : List EventLoopThread := []
  loops : List (Option LoopAddress) := []
  /-- The variable `loop` of `startLoop`. -/
  loop : Option LoopAddress := none
  /-- The loops that the callback has been called with. -/
  called : List LoopAddress := []

inductive PoolStep where
  /-- `startLoop` is called, and `Thread::start` has the system make a thread. -/
  | spawn (self : Nat) (loop : LoopAddress)
  | thread (i : Nat) (e : ThreadStep)
  /-- `Thread::start` returns. -/
  | started
  /-- `startLoop` returns. -/
  | pushLoop
  /-- `start` returns. -/
  | returns
deriving DecidableEq, Repr

namespace PoolStep

def wakes : PoolStep → Bool
  | .thread _ e => e.wakes
  | _ => false

end PoolStep

namespace EventLoopThreadPool

def step (s : EventLoopThreadPool) : PoolStep → EventLoopThreadPool
  | .spawn self loop =>
      { s with
        caller := .latching
        threads := s.threads ++ [{ self := self, loop := loop }]
        loop := none }
  | .thread i e =>
      match s.threads[i]? with
      | none => s
      | some t =>
          { s with
            threads := s.threads.set i (t.step e)
            loop := if e = .gate (.unlock .waiter) then t.gate.value else s.loop
            called := if e = .callback ∧ s.callback then s.called ++ [t.loop] else s.called }
  | .started => { s with caller := .waiting }
  | .pushLoop => { s with caller := .between, loops := s.loops ++ [s.loop] }
  | .returns =>
      { s with
        caller := .returned
        called := if s.numThreads = 0 ∧ s.callback then s.called ++ [s.baseLoop] else s.called }

/-- Something holds of a thread. -/
def At (s : EventLoopThreadPool) (i : Nat) (P : EventLoopThread → Prop) : Prop :=
  ∃ t, s.threads[i]? = some t ∧ P t

instance (s : EventLoopThreadPool) (i : Nat) (P : EventLoopThread → Prop) [DecidablePred P] :
    Decidable (s.At i P) :=
  match h : s.threads[i]? with
  | none => .isFalse fun ⟨_, ht, _⟩ => by
      rw [h] at ht
      cases ht
  | some t => decidable_of_iff (P t) (by simp [At, h])

/-- The step is not one of the caller at a gate, or the caller is at this gate. -/
def CallerAt (s : EventLoopThreadPool) (i : Nat) : ThreadStep → Prop
  | .latch e => e.side = .waiter → s.caller = .latching ∧ i + 1 = s.threads.length
  | .gate e => e.side = .waiter → s.caller = .waiting ∧ i + 1 = s.threads.length
  | _ => True

instance (s : EventLoopThreadPool) (i : Nat) (e : ThreadStep) : Decidable (s.CallerAt i e) :=
  match e with
  | .latch e =>
      inferInstanceAs (Decidable (e.side = .waiter → s.caller = .latching ∧ i + 1 = s.threads.length))
  | .gate e =>
      inferInstanceAs (Decidable (e.side = .waiter → s.caller = .waiting ∧ i + 1 = s.threads.length))
  | .setTid => .isTrue trivial
  | .construct => .isTrue trivial
  | .callback => .isTrue trivial
  | .enterLoop => .isTrue trivial

/-- The steps that can come next. -/
def Possible (s : EventLoopThreadPool) : PoolStep → Prop
  | .spawn self loop =>
      s.caller = .between ∧ (s.threads.length : Int) < s.numThreads ∧ 0 < self ∧
        loop ≠ s.baseLoop ∧ ∀ t ∈ s.threads, t.self ≠ self ∧ t.loop ≠ loop
  | .thread i e => s.At i (·.Possible e) ∧ s.CallerAt i e
  | .started =>
      s.caller = .latching ∧ s.At (s.threads.length - 1) (·.latch.waiter = .through)
  | .pushLoop =>
      s.caller = .waiting ∧ s.At (s.threads.length - 1) (·.gate.waiter = .through)
  | .returns => s.caller = .between ∧ s.numThreads ≤ s.threads.length

instance (s : EventLoopThreadPool) (e : PoolStep) : Decidable (s.Possible e) :=
  match e with
  | .spawn self loop =>
      inferInstanceAs (Decidable (s.caller = .between ∧ (s.threads.length : Int) < s.numThreads ∧
        0 < self ∧ loop ≠ s.baseLoop ∧ ∀ t ∈ s.threads, t.self ≠ self ∧ t.loop ≠ loop))
  | .thread i e => inferInstanceAs (Decidable (s.At i (·.Possible e) ∧ s.CallerAt i e))
  | .started =>
      inferInstanceAs (Decidable (s.caller = .latching ∧
        s.At (s.threads.length - 1) (·.latch.waiter = .through)))
  | .pushLoop =>
      inferInstanceAs (Decidable (s.caller = .waiting ∧
        s.At (s.threads.length - 1) (·.gate.waiter = .through)))
  | .returns => inferInstanceAs (Decidable (s.caller = .between ∧ s.numThreads ≤ s.threads.length))

/-- The pool before `start`. -/
def init (baseLoop : LoopAddress) (numThreads : Int) (callback : Bool) : EventLoopThreadPool :=
  { baseLoop := baseLoop, numThreads := numThreads, callback := callback }

end EventLoopThreadPool

/-! ### What a step keeps of a thread -/

theorem opens_countDown : Gate.Opens countDown 1 where
  closed := by decide
  opened := by decide
  notified := by decide

theorem opens_publish (loop : LoopAddress) : Gate.Opens (publish loop) none where
  closed := rfl
  opened := rfl
  notified := rfl

/-- How far a thread has come. -/
def ThreadPoint.rank : ThreadPoint → Nat
  | .begun => 0
  | .named => 1
  | .built => 2
  | .initialized => 3
  | .looping => 4

section Ranks

open ThreadPoint

@[simp] theorem rank_begun : begun.rank = 0 := rfl

@[simp] theorem rank_named : named.rank = 1 := rfl

@[simp] theorem rank_built : built.rank = 2 := rfl

@[simp] theorem rank_initialized : initialized.rank = 3 := rfl

@[simp] theorem rank_looping : looping.rank = 4 := rfl

end Ranks

namespace EventLoopThread

structure Sound (t : EventLoopThread) : Prop where
  latch : t.latch.Sound countDown 1
  gate : t.gate.Sound (publish t.loop) none
  self : 0 < t.self
  tid : 1 ≤ t.point.rank → t.tid = t.self
  counting : t.latch.setter ≠ .outside → 1 ≤ t.point.rank
  counted : 2 ≤ t.point.rank → t.latch.setter = .through
  publishing : t.gate.setter ≠ .outside → 3 ≤ t.point.rank
  published : 4 ≤ t.point.rank → t.gate.setter = .through

/-- The caller is through with the thread. -/
structure Joined (t : EventLoopThread) : Prop where
  latch : t.latch.waiter = .through
  gate : t.gate.waiter = .through

variable {t : EventLoopThread} {e : ThreadStep}

theorem sound_begun {self : Nat} (hself : 0 < self) (loop : LoopAddress) :
    Sound { self := self, loop := loop } where
  latch := Gate.sound_init countDown 1
  gate := Gate.sound_init (publish loop) none
  self := hself
  tid := by simp
  counting := by simp
  counted := by simp
  publishing := by simp
  published := by simp

theorem Sound.step (h : t.Sound) (possible : t.Possible e) : (t.step e).Sound := by
  obtain ⟨self, loop, point, tid, latch, gate⟩ := t
  obtain ⟨hlatch, hgate, hself, htid, hcounting, hcounted, hpublishing, hpublished⟩ := h
  dsimp only at *
  cases e with
  | latch e =>
      obtain ⟨hpossible, hpoint⟩ := possible
      refine ⟨hlatch.step opens_countDown hpossible, hgate, hself, htid, ?_, ?_, hpublishing,
        hpublished⟩
      · intro hsetter
        cases hside : e.side with
        | waiter => exact hcounting (Gate.step_setter hside ▸ hsetter)
        | setter => simp [step, hpoint hside]
      · intro hrank
        cases hside : e.side with
        | waiter => exact (Gate.step_setter hside).trans (hcounted hrank)
        | setter => simp [step, hpoint hside] at hrank
  | gate e =>
      obtain ⟨hpossible, hpoint⟩ := possible
      refine ⟨hlatch, hgate.step (opens_publish loop) hpossible, hself, htid, hcounting, hcounted,
        ?_, ?_⟩
      · intro hsetter
        cases hside : e.side with
        | waiter => exact hpublishing (Gate.step_setter hside ▸ hsetter)
        | setter => simp [step, hpoint hside]
      · intro hrank
        cases hside : e.side with
        | waiter => exact (Gate.step_setter hside).trans (hpublished hrank)
        | setter => simp [step, hpoint hside] at hrank
  | setTid =>
      obtain rfl : point = .begun := possible
      have hunpublished : gate.setter = .outside := by simpa using hpublishing
      exact ⟨hlatch, hgate, hself, fun _ => rfl, by simp [step], by simp [step],
        by simp [step, hunpublished], by simp [step]⟩
  | construct =>
      obtain ⟨rfl, hthrough⟩ := possible
      have hunpublished : gate.setter = .outside := by simpa using hpublishing
      exact ⟨hlatch, hgate, hself, fun _ => htid (by simp), by simp [step], fun _ => hthrough,
        by simp [step, hunpublished], by simp [step]⟩
  | callback =>
      obtain rfl : point = .built := possible
      exact ⟨hlatch, hgate, hself, fun _ => htid (by simp), by simp [step],
        fun _ => hcounted (by simp), by simp [step], by simp [step]⟩
  | enterLoop =>
      obtain ⟨rfl, hthrough⟩ := possible
      exact ⟨hlatch, hgate, hself, fun _ => htid (by simp), by simp [step],
        fun _ => hcounted (by simp), by simp [step], fun _ => hthrough⟩

theorem Joined.step (h : t.Joined) (possible : t.Possible e) : (t.step e).Joined := by
  cases e with
  | latch e => exact ⟨(Gate.step_through possible.1 h.latch).2, h.gate⟩
  | gate e => exact ⟨h.latch, (Gate.step_through possible.1 h.gate).2⟩
  | setTid => exact ⟨h.latch, h.gate⟩
  | construct => exact ⟨h.latch, h.gate⟩
  | callback => exact ⟨h.latch, h.gate⟩
  | enterLoop => exact ⟨h.latch, h.gate⟩

/-- A caller that is through has seen the loop, and the thread has come so far. -/
theorem Sound.rank_of_through (h : t.Sound) (through : t.gate.waiter = .through) :
    3 ≤ t.point.rank := by
  refine h.publishing ?_
  rcases h.gate.passed (.inr through) with hsetter | hsetter
  · exact hsetter ▸ nofun
  · exact hsetter ▸ nofun

theorem step_loop (t : EventLoopThread) (e : ThreadStep) : (t.step e).loop = t.loop := by
  cases e <;> rfl

/-- Only the call of the callback brings a thread past it. -/
theorem rank_step (possible : t.Possible e) (he : e ≠ .callback) :
    3 ≤ (t.step e).point.rank ↔ 3 ≤ t.point.rank := by
  cases e with
  | latch e => rfl
  | gate e => rfl
  | setTid => simp [step, show t.point = .begun from possible]
  | construct => simp [step, possible.1]
  | callback => exact absurd rfl he
  | enterLoop => simp [step, possible.1]

/-- A thread that the caller is through with does not call the callback. -/
theorem Joined.ne_callback (h : t.Joined) (sound : t.Sound) (possible : t.Possible e) :
    e ≠ .callback := by
  rintro rfl
  have hrank := sound.rank_of_through h.gate
  simp [show t.point = .built from possible] at hrank

theorem Joined.up (h : t.Joined) (sound : t.Sound) :
    0 < t.tid ∧ (t.point = .initialized ∨ t.point = .looping) := by
  have hrank := sound.rank_of_through h.gate
  refine ⟨?_, ?_⟩
  · rw [sound.tid (by omega)]
    exact sound.self
  · cases hpoint : t.point with
    | initialized => exact .inl rfl
    | looping => exact .inr rfl
    | _ => simp [hpoint] at hrank

theorem Joined.ne_unlock (h : t.Joined) (possible : t.Possible e) :
    e ≠ .gate (.unlock .waiter) := by
  rintro rfl
  have hleaving : t.gate.waiter = .leaving := possible.1
  rw [h.gate] at hleaving
  cases hleaving

end EventLoopThread

/-! ### What a step keeps of the pool -/

namespace EventLoopThreadPool

open EventLoopThread

/-- What the callback has been called with, if there is one. -/
def calledFor (callback : Bool) (loops : List LoopAddress) : List LoopAddress :=
  if callback then loops else []

/-- How far the caller is with the last thread. -/
def Entered (s : EventLoopThreadPool) (t : EventLoopThread) : Prop :=
  s.caller = .latching ∧ t.gate.waiter = .outside ∨
    s.caller = .waiting ∧ t.latch.waiter = .through ∧
      (t.gate.waiter = .through → s.loop = some t.loop)

theorem Entered.busy {s : EventLoopThreadPool} {t : EventLoopThread} (h : s.Entered t) :
    ¬ (s.caller = .between ∨ s.caller = .returned) := by
  rintro (hat | hat)
  · rcases h with ⟨hcaller, -⟩ | ⟨hcaller, -⟩ <;> simp [hat] at hcaller
  · rcases h with ⟨hcaller, -⟩ | ⟨hcaller, -⟩ <;> simp [hat] at hcaller

/-- The caller is through with all threads, or with all but the last. -/
inductive Phase (s : EventLoopThreadPool) : Prop where
  | settled (caller : s.caller = .between ∨ s.caller = .returned)
      (joined : ∀ t ∈ s.threads, t.Joined) (loops : s.loops = s.threads.map fun t => some t.loop)
      (called : s.called = calledFor s.callback (s.threads.map EventLoopThread.loop ++
        if s.caller = .returned ∧ s.numThreads = 0 then [s.baseLoop] else []))
  | starting (front : List EventLoopThread) {t : EventLoopThread} (entered : s.Entered t)
      (threads : s.threads = front ++ [t]) (joined : ∀ t ∈ front, t.Joined)
      (loops : s.loops = front.map fun t => some t.loop)
      (called : s.called = calledFor s.callback (front.map EventLoopThread.loop ++
        if 3 ≤ t.point.rank then [t.loop] else []))

structure Sound (s : EventLoopThreadPool) : Prop where
  threads : ∀ t ∈ s.threads, t.Sound
  phase : s.Phase
  distinct : (s.baseLoop :: s.threads.map EventLoopThread.loop).Nodup
  count : s.threads.length ≤ s.numThreads.toNat
  returned : s.caller = .returned → s.numThreads.toNat ≤ s.threads.length

section Steps

variable {s : EventLoopThreadPool} {t : EventLoopThread} {i : Nat} {e : ThreadStep}

theorem map_set {α : Type} {f : EventLoopThread → α} {l : List EventLoopThread}
    {t' : EventLoopThread} (hi : l[i]? = some t) (h : f t' = f t) :
    (l.set i t').map f = l.map f := by
  obtain ⟨hlt, rfl⟩ := List.getElem?_eq_some_iff.mp hi
  have hlt' : i < (l.map f).length := by simpa using hlt
  rw [List.map_set, h, ← List.getElem_map f (h := hlt'), List.set_getElem_self]

theorem step_thread (hi : s.threads[i]? = some t) : s.step (.thread i e) =
    { s with
      threads := s.threads.set i (t.step e)
      loop := if e = .gate (.unlock .waiter) then t.gate.value else s.loop
      called := if e = .callback ∧ s.callback then s.called ++ [t.loop] else s.called } := by
  simp only [EventLoopThreadPool.step, hi]

/-- A step of the last thread, or of the caller at one of its gates. -/
theorem Entered.step (h : s.Entered t) (sound : t.Sound) (possible : t.Possible e)
    (hi : s.threads[i]? = some t) (at' : s.CallerAt i e) :
    (s.step (.thread i e)).Entered (t.step e) := by
  rw [step_thread hi]
  rcases h with ⟨hcaller, houtside⟩ | ⟨hcaller, hthrough, htaken⟩
  · refine .inl ⟨hcaller, ?_⟩
    cases e with
    | gate e =>
        cases hside : e.side with
        | waiter =>
            have hwaiting := (at' hside).1
            rw [hcaller] at hwaiting
            cases hwaiting
        | setter => exact Gate.step_outside possible.1 hside houtside
    | _ => exact houtside
  · refine .inr ⟨hcaller, ?_, ?_⟩
    · cases e with
      | latch e => exact (Gate.step_through possible.1 hthrough).2
      | _ => exact hthrough
    · cases e with
      | gate e =>
          intro hafter
          by_cases he : e = .unlock .waiter
          · subst he
            have hvalue := sound.gate.set (sound.gate.passed (.inl possible.1))
            simpa [publish, step_loop] using hvalue
          · have hbefore : t.gate.waiter = .through := by
              by_contra hne
              exact Gate.step_ne_through hne he hafter
            simpa [he, step_loop] using htaken hbefore
      | _ => exact htaken

/-- A step of a thread that the caller is through with changes nothing but that thread. -/
theorem step_joined (hjoined : t.Joined) (sound : t.Sound) (possible : t.Possible e)
    (hi : s.threads[i]? = some t) :
    s.step (.thread i e) = { s with threads := s.threads.set i (t.step e) } := by
  simp [step_thread hi, hjoined.ne_callback sound possible, hjoined.ne_unlock possible]

/-- What the callback has been called with, when the last thread has taken a step. -/
theorem called_step {loops : List LoopAddress} (possible : t.Possible e)
    (hi : s.threads[i]? = some t)
    (called : s.called = calledFor s.callback (loops ++ if 3 ≤ t.point.rank then [t.loop] else [])) :
    (s.step (.thread i e)).called = calledFor (s.step (.thread i e)).callback
      (loops ++ if 3 ≤ (t.step e).point.rank then [(t.step e).loop] else []) := by
  simp only [step_thread hi, called, step_loop]
  by_cases he : e = .callback
  · subst he
    have hpoint : t.point = .built := possible
    cases s.callback <;> simp [calledFor, hpoint, EventLoopThread.step]
  · simp [he, rank_step possible he]

theorem Phase.thread (h : s.Phase) (sound : ∀ t ∈ s.threads, t.Sound)
    (hi : s.threads[i]? = some t) (possible : t.Possible e) (at' : s.CallerAt i e) :
    (s.step (.thread i e)).Phase := by
  have hsound := sound t (List.mem_of_getElem? hi)
  have hkept {l : List EventLoopThread} (hl : l[i]? = some t) (joined : ∀ t ∈ l, t.Joined) :
      ∀ t' ∈ l.set i (t.step e), t'.Joined := by
    intro t' ht'
    rcases List.mem_or_eq_of_mem_set ht' with hmem | rfl
    · exact joined t' hmem
    · exact (joined t (List.mem_of_getElem? hl)).step possible
  cases h with
  | settled caller joined loops called =>
      have hjoined := joined t (List.mem_of_getElem? hi)
      rw [step_joined hjoined hsound possible hi]
      refine .settled caller (hkept hi joined) ?_ ?_
      · have hloops := map_set (f := fun t => some t.loop) hi (congrArg some (step_loop t e))
        exact loops.trans hloops.symm
      · rw [called]
        simp only [calledFor, map_set hi (step_loop t e)]
  | @starting front last entered threads joined loops called =>
      by_cases hfront : i < front.length
      · -- A thread that the caller is through with.
        have hi' : front[i]? = some t := by
          rwa [threads, List.getElem?_append_left hfront] at hi
        have hjoined := joined t (List.mem_of_getElem? hi')
        rw [step_joined hjoined hsound possible hi]
        refine .starting (front.set i (t.step e)) entered ?_ (hkept hi' joined) ?_ ?_
        · simp [threads, hfront]
        · have hloops := map_set (f := fun t => some t.loop) hi' (congrArg some (step_loop t e))
          exact loops.trans hloops.symm
        · rw [called]
          simp only [calledFor, map_set hi' (step_loop t e)]
      · -- The last thread.
        have hlen : i = front.length := by
          have hlt := (List.getElem?_eq_some_iff.mp hi).1
          rw [threads, List.length_append, List.length_singleton] at hlt
          omega
        have hlast : last = t := by
          rw [threads, hlen, List.getElem?_append_right (Nat.le_refl _)] at hi
          simpa using hi
        subst hlast
        refine .starting front (entered.step hsound possible hi at') ?_ joined ?_
          (called_step possible hi called)
        · rw [step_thread hi]
          simp [threads, hlen]
        · rw [step_thread hi]
          exact loops

theorem Sound.thread (h : s.Sound) (possible : s.Possible (.thread i e)) :
    (s.step (.thread i e)).Sound := by
  obtain ⟨⟨t, hi, hpossible⟩, at'⟩ := possible
  have hloop := map_set (f := EventLoopThread.loop) hi (step_loop t e)
  refine ⟨?_, h.phase.thread h.threads hi hpossible at', ?_, ?_, ?_⟩
  · rw [step_thread hi]
    intro t' ht'
    rcases List.mem_or_eq_of_mem_set ht' with hmem | rfl
    · exact h.threads t' hmem
    · exact (h.threads t (List.mem_of_getElem? hi)).step hpossible
  · rw [step_thread hi]
    dsimp only
    rw [hloop]
    exact h.distinct
  · rw [step_thread hi]
    exact (List.length_set ..).trans_le h.count
  · rw [step_thread hi]
    intro hreturned
    exact (h.returned hreturned).trans_eq (List.length_set ..).symm

/-- The caller begins with a thread. -/
theorem Sound.spawn {self : Nat} {loop : LoopAddress} (h : s.Sound)
    (possible : s.Possible (.spawn self loop)) : (s.step (.spawn self loop)).Sound := by
  obtain ⟨hcaller, hcount, hself, hbase, hfresh⟩ := possible
  have hdistinct := h.distinct
  refine ⟨?_, ?_, ?_, ?_, ?_⟩
  · intro t ht
    rcases List.mem_append.mp ht with hold | hnew
    · exact h.threads t hold
    · obtain rfl := List.mem_singleton.mp hnew
      exact sound_begun hself loop
  · cases h.phase with
    | settled caller joined loops called =>
        refine .starting s.threads (.inl ⟨rfl, rfl⟩) rfl joined loops ?_
        simpa [EventLoopThreadPool.step, calledFor, hcaller] using called
    | starting _ entered => exact absurd (.inl hcaller) entered.busy
  · simp only [EventLoopThreadPool.step, List.map_append, List.map_cons, List.map_nil]
    rw [← List.cons_append, List.nodup_append]
    refine ⟨hdistinct, List.nodup_singleton _, ?_⟩
    intro a ha b hb
    obtain rfl := List.mem_singleton.mp hb
    rintro rfl
    rcases List.mem_cons.mp ha with hba | ha
    · exact hbase hba
    · obtain ⟨t, ht, htl⟩ := List.mem_map.mp ha
      exact (hfresh t ht).2 htl
  · simp only [EventLoopThreadPool.step, List.length_append, List.length_singleton]
    omega
  · exact nofun

theorem Sound.started (h : s.Sound) (possible : s.Possible .started) :
    (s.step .started).Sound := by
  obtain ⟨hcaller, t, ht, hthrough⟩ := possible
  refine ⟨h.threads, ?_, h.distinct, h.count, nofun⟩
  cases h.phase with
  | settled caller => simp [hcaller] at caller
  | @starting front last entered threads joined loops called =>
      obtain rfl : last = t := by simpa [threads] using ht
      refine .starting front (.inr ⟨rfl, hthrough, fun hgate => ?_⟩) threads joined loops called
      rcases entered with ⟨-, houtside⟩ | ⟨hat, -⟩
      · rw [houtside] at hgate
        cases hgate
      · rw [hcaller] at hat
        cases hat

theorem Sound.pushLoop (h : s.Sound) (possible : s.Possible .pushLoop) :
    (s.step .pushLoop).Sound := by
  obtain ⟨hcaller, t, ht, hthrough⟩ := possible
  refine ⟨h.threads, ?_, h.distinct, h.count, nofun⟩
  cases h.phase with
  | settled caller => simp [hcaller] at caller
  | @starting front last entered threads joined loops called =>
      obtain rfl : last = t := by simpa [threads] using ht
      rcases entered with ⟨hat, -⟩ | ⟨-, hlatch, htaken⟩
      · rw [hcaller] at hat
        cases hat
      have hrank := (h.threads last (by simp [threads])).rank_of_through hthrough
      refine .settled (.inl rfl) ?_ ?_ ?_
      · intro t' ht'
        rw [EventLoopThreadPool.step, threads, List.mem_append] at ht'
        rcases ht' with hfront | hlast
        · exact joined t' hfront
        · obtain rfl := List.mem_singleton.mp hlast
          exact ⟨hlatch, hthrough⟩
      · simp [EventLoopThreadPool.step, threads, loops, htaken hthrough]
      · simpa [EventLoopThreadPool.step, calledFor, threads, hrank] using called

theorem Sound.returns (h : s.Sound) (possible : s.Possible .returns) :
    (s.step .returns).Sound := by
  obtain ⟨hcaller, hcount⟩ := possible
  refine ⟨h.threads, ?_, h.distinct, h.count, fun _ => ?_⟩
  · cases h.phase with
    | settled caller joined loops called =>
        refine .settled (.inr rfl) joined loops ?_
        simp only [EventLoopThreadPool.step, called]
        cases s.callback <;> simp [calledFor, hcaller]
        split <;> simp
    | starting _ entered => exact absurd (.inl hcaller) entered.busy
  · have hlen : s.numThreads.toNat ≤ s.threads.length := by omega
    exact hlen

theorem Sound.step {e : PoolStep} (h : s.Sound) (possible : s.Possible e) : (s.step e).Sound := by
  cases e with
  | spawn self loop => exact h.spawn possible
  | thread i e => exact h.thread possible
  | started => exact h.started possible
  | pushLoop => exact h.pushLoop possible
  | returns => exact h.returns possible

theorem sound_init (baseLoop : LoopAddress) (numThreads : Int) (callback : Bool) :
    (init baseLoop numThreads callback).Sound where
  threads _ ht := absurd ht List.not_mem_nil
  phase := .settled (.inl rfl) (fun _ ht => absurd ht List.not_mem_nil) rfl
    (by simp [init, calledFor])
  distinct := List.nodup_singleton _
  count := Nat.zero_le _
  returned h := by cases h

end Steps

/-! ### What is published -/

/-- What `loops_` holds: loops of threads that have set their id and initialized the loop, none of
them twice; the callback has been called with each of them before, and with none twice; and `start`
comes back with as many as it has been asked for. -/
structure Published (s : EventLoopThreadPool) : Prop where
  up : ∀ l ∈ s.loops, ∃ t ∈ s.threads, l = some t.loop ∧ 0 < t.tid ∧
    (t.point = .initialized ∨ t.point = .looping)
  distinct : (some s.baseLoop :: s.loops).Nodup
  once : s.called.Nodup
  called : s.callback = true → s.loops <+: s.called.map some
  uncalled : s.callback = false → s.called = []
  whole : s.caller = .returned → s.loops.length = s.numThreads.toNat ∧
    (s.callback = true →
      s.called.map some = if s.numThreads = 0 then [some s.baseLoop] else s.loops)

section Published

variable {s : EventLoopThreadPool}

/-- The threads that the caller is through with, and what else the callback has been called with. -/
theorem Sound.joined (h : s.Sound) : ∃ front more, front <+: s.threads ∧
    (∀ t ∈ front, t.Joined) ∧ (s.loops = front.map fun t => some t.loop) ∧
      s.called = calledFor s.callback (front.map EventLoopThread.loop ++ more) ∧
        (front.map EventLoopThread.loop ++ more).Nodup := by
  have hbase := List.nodup_cons.mp h.distinct
  cases h.phase with
  | settled caller joined loops called =>
      refine ⟨s.threads, _, List.prefix_refl _, joined, loops, called, ?_⟩
      split
      · rw [List.nodup_append]
        refine ⟨hbase.2, List.nodup_singleton _, ?_⟩
        rintro a ha b hb rfl
        obtain rfl := List.mem_singleton.mp hb
        exact hbase.1 ha
      · rw [List.append_nil]
        exact hbase.2
  | @starting front t entered threads joined loops called =>
      refine ⟨front, _, ⟨[t], threads.symm⟩, joined, loops, called, ?_⟩
      have hall := hbase.2
      rw [threads, List.map_append, List.map_cons, List.map_nil] at hall
      split
      · exact hall
      · rw [List.append_nil]
        exact (List.nodup_append.mp hall).1

theorem Sound.published (h : s.Sound) : s.Published := by
  obtain ⟨front, more, hfront, hjoined, hloops, hcalled, hnodup⟩ := h.joined
  have hsome : s.loops = (front.map EventLoopThread.loop).map some := by
    rw [hloops, List.map_map]
    rfl
  refine ⟨?_, ?_, ?_, ?_, ?_, ?_⟩
  · intro l hl
    rw [hloops] at hl
    obtain ⟨t, ht, rfl⟩ := List.mem_map.mp hl
    have hmem := hfront.subset ht
    exact ⟨t, hmem, rfl, (hjoined t ht).up (h.threads t hmem)⟩
  · have hsub : (s.baseLoop :: front.map EventLoopThread.loop).Nodup :=
      h.distinct.sublist ((hfront.map _).sublist.cons_cons _)
    rw [hsome, ← List.map_cons]
    exact hsub.map fun _ _ heq => Option.some.inj heq
  · rw [hcalled, calledFor]
    split
    · exact hnodup
    · exact List.nodup_nil
  · intro hcallback
    rw [hcalled, calledFor, if_pos hcallback, List.map_append, hsome]
    exact List.prefix_append _ _
  · intro hcallback
    simp [hcalled, calledFor, hcallback]
  · intro hreturned
    cases h.phase with
    | settled caller joined loops called =>
        have hlen : s.threads.length = s.numThreads.toNat :=
          Nat.le_antisymm h.count (h.returned hreturned)
        refine ⟨by simp [loops, hlen], fun hcallback => ?_⟩
        rw [called, calledFor, if_pos hcallback]
        by_cases hzero : s.numThreads = 0
        · have hnone : s.threads = [] := List.eq_nil_of_length_eq_zero (by simp [hlen, hzero])
          simp [hreturned, hzero, hnone]
        · simp [hzero, loops]
    | starting _ entered => exact absurd (.inr hreturned) entered.busy

end Published

/-! ### The way to the end -/

/-- The thread can go on by itself, or the caller has one of its mutexes and can. -/
theorem goesOn_thread {t : EventLoopThread} (h : t.Sound) (hpoint : t.point ≠ .looping) :
    ∃ e, e.wakes = false ∧ t.Possible e ∧
      (∀ g, e = .latch g → g.side = .waiter → t.latch.mutex = some .waiter) ∧
        ∀ g, e = .gate g → g.side = .waiter → t.gate.mutex = some .waiter := by
  cases hat : t.point with
  | begun => exact ⟨.setTid, rfl, hat, nofun, nofun⟩
  | named =>
      by_cases hthrough : t.latch.setter = .through
      · exact ⟨.construct, rfl, ⟨hat, hthrough⟩, nofun, nofun⟩
      · obtain ⟨g, hwake, hpossible, hmutex⟩ := h.latch.setter_goesOn hthrough
        refine ⟨.latch g, by simpa [ThreadStep.wakes] using hwake, ⟨hpossible, fun _ => hat⟩, ?_,
          nofun⟩
        rintro _ ⟨⟩
        exact hmutex
  | built => exact ⟨.callback, rfl, hat, nofun, nofun⟩
  | initialized =>
      by_cases hthrough : t.gate.setter = .through
      · exact ⟨.enterLoop, rfl, ⟨hat, hthrough⟩, nofun, nofun⟩
      · obtain ⟨g, hwake, hpossible, hmutex⟩ := h.gate.setter_goesOn hthrough
        refine ⟨.gate g, by simpa [ThreadStep.wakes] using hwake, ⟨hpossible, fun _ => hat⟩, nofun,
          ?_⟩
        rintro _ ⟨⟩
        exact hmutex
  | looping => exact absurd hat hpoint

/-- `start` has returned, and all threads are in `loop()`. -/
def Ended (s : EventLoopThreadPool) : Prop :=
  s.caller = .returned ∧ ∀ t ∈ s.threads, t.point = .looping

section GoingOn

variable {s : EventLoopThreadPool} {t : EventLoopThread} {e : ThreadStep}

/-- A thread goes on that the caller is through with. -/
theorem Sound.goesOn_joined (h : s.Sound) (ht : t ∈ s.threads) (joined : t.Joined)
    (hpoint : t.point ≠ .looping) : ∃ e, e.wakes = false ∧ s.Possible e := by
  obtain ⟨i, hi, rfl⟩ := List.getElem_of_mem ht
  have hsound := h.threads _ ht
  obtain ⟨e, hwakes, hpossible, hlatch, hgate⟩ := goesOn_thread hsound hpoint
  refine ⟨.thread i e, hwakes, ⟨_, List.getElem?_eq_getElem hi, hpossible⟩, ?_⟩
  cases e with
  | latch g =>
      intro hside
      have hinside := hsound.latch.waiter.mp (hlatch g rfl hside)
      simp [joined.latch] at hinside
  | gate g =>
      intro hside
      have hinside := hsound.gate.waiter.mp (hgate g rfl hside)
      simp [joined.gate] at hinside
  | _ => trivial

/-- The last thread goes on, or the caller at its gates. -/
theorem Sound.goesOn_last {front : List EventLoopThread} (h : s.Sound) (entered : s.Entered t)
    (threads : s.threads = front ++ [t]) : ∃ e, e.wakes = false ∧ s.Possible e := by
  have hlen : front.length + 1 = s.threads.length := by simp [threads]
  have hi : s.threads[front.length]? = some t := by simp [threads]
  have hlast : s.threads[s.threads.length - 1]? = some t := by rwa [← hlen]
  have hsound := h.threads t (List.mem_of_getElem? hi)
  rcases entered with ⟨hcaller, houtside⟩ | ⟨hcaller, hlatched, -⟩
  · by_cases hthrough : t.latch.waiter = .through
    · exact ⟨.started, rfl, hcaller, t, hlast, hthrough⟩
    by_cases hset : t.latch.setter = .through
    · -- The thread has counted down, so the caller is not blocked.
      obtain ⟨g, hwake, hpossible, hside⟩ := hsound.latch.waiter_goesOn hset hthrough
      refine ⟨.thread front.length (.latch g), ?_, ⟨t, hi, hpossible, ?_⟩, fun _ => ⟨hcaller, hlen⟩⟩
      · simpa [PoolStep.wakes, ThreadStep.wakes] using hwake
      · rw [hside]
        exact nofun
    · have hpoint : t.point ≠ .looping := fun hat => hset (hsound.counted (by simp [hat]))
      obtain ⟨e, hwakes, hpossible, -, hgate⟩ := goesOn_thread hsound hpoint
      refine ⟨.thread front.length e, hwakes, ⟨t, hi, hpossible⟩, ?_⟩
      cases e with
      | latch g => exact fun _ => ⟨hcaller, hlen⟩
      | gate g =>
          intro hside
          have hinside := hsound.gate.waiter.mp (hgate g rfl hside)
          simp [houtside] at hinside
      | _ => trivial
  · by_cases hthrough : t.gate.waiter = .through
    · exact ⟨.pushLoop, rfl, hcaller, t, hlast, hthrough⟩
    by_cases hset : t.gate.setter = .through
    · obtain ⟨g, hwake, hpossible, hside⟩ := hsound.gate.waiter_goesOn hset hthrough
      refine ⟨.thread front.length (.gate g), ?_, ⟨t, hi, hpossible, ?_⟩, fun _ => ⟨hcaller, hlen⟩⟩
      · simpa [PoolStep.wakes, ThreadStep.wakes] using hwake
      · rw [hside]
        exact nofun
    · have hpoint : t.point ≠ .looping := fun hat => hset (hsound.published (by simp [hat]))
      obtain ⟨e, hwakes, hpossible, hlatch, -⟩ := goesOn_thread hsound hpoint
      refine ⟨.thread front.length e, hwakes, ⟨t, hi, hpossible⟩, ?_⟩
      cases e with
      | latch g =>
          intro hside
          have hinside := hsound.latch.waiter.mp (hlatch g rfl hside)
          simp [hlatched] at hinside
      | gate g => exact fun _ => ⟨hcaller, hlen⟩
      | _ => trivial

/-- **`start` does not hang.** Before all is done, something can go on other than by a spurious
wake-up. -/
theorem Sound.goesOn (h : s.Sound) (unended : ¬ s.Ended) : ∃ e, e.wakes = false ∧ s.Possible e := by
  cases h.phase with
  | settled caller joined loops called =>
      rcases caller with hcaller | hcaller
      · by_cases hcount : (s.threads.length : Int) < s.numThreads
        · obtain ⟨self, hself⟩ := Infinite.exists_notMem_finset
            (insert 0 (s.threads.map EventLoopThread.self).toFinset)
          obtain ⟨loop, hloop⟩ := Infinite.exists_notMem_finset
            (insert s.baseLoop (s.threads.map EventLoopThread.loop).toFinset)
          simp only [Finset.mem_insert, List.mem_toFinset, List.mem_map, not_or, not_exists,
            not_and] at hself hloop
          exact ⟨.spawn self loop, rfl, hcaller, hcount, Nat.pos_of_ne_zero hself.1, hloop.1,
            fun t ht => ⟨hself.2 t ht, hloop.2 t ht⟩⟩
        · exact ⟨.returns, rfl, hcaller, Int.not_lt.mp hcount⟩
      · have hexists : ∃ t ∈ s.threads, t.point ≠ .looping := by
          by_contra hnone
          exact unended ⟨hcaller, fun t ht => by_contra fun hpoint => hnone ⟨t, ht, hpoint⟩⟩
        obtain ⟨t, ht, hpoint⟩ := hexists
        exact h.goesOn_joined ht (joined t ht) hpoint
  | starting _ entered threads => exact h.goesOn_last entered threads

end GoingOn

/-! ### Counting -/

/-- What is left to do for a thread. -/
def threadWork (t : EventLoopThread) : Nat := 4 - t.point.rank + t.latch.work + t.gate.work

def threadsWork : List EventLoopThread → Nat
  | [] => 0
  | t :: threads => threadWork t + threadsWork threads

def callerWork : Caller → Nat
  | .latching => 3
  | .waiting => 2
  | .between => 1
  | .returned => 0

/-- What is left to do, when a thread takes 25 steps from `startLoop` on. -/
def work (s : EventLoopThreadPool) : Nat :=
  threadsWork s.threads + callerWork s.caller + 25 * (s.numThreads.toNat - s.threads.length)

section Counting

variable {s : EventLoopThreadPool} {t : EventLoopThread} {i : Nat} {e : ThreadStep}

theorem threadWork_step (possible : t.Possible e) (he : e.wakes = false) :
    threadWork (t.step e) < threadWork t := by
  cases e with
  | latch g =>
      have hless := Gate.work_step countDown possible.1
        (by simpa [ThreadStep.wakes] using he)
      simp only [threadWork, EventLoopThread.step]
      omega
  | gate g =>
      have hless := Gate.work_step (publish t.loop) possible.1
        (by simpa [ThreadStep.wakes] using he)
      simp only [threadWork, EventLoopThread.step]
      omega
  | setTid => simp [threadWork, EventLoopThread.step, show t.point = .begun from possible]
  | construct => simp [threadWork, EventLoopThread.step, possible.1]
  | callback => simp [threadWork, EventLoopThread.step, show t.point = .built from possible]
  | enterLoop => simp [threadWork, EventLoopThread.step, possible.1]

theorem threadWork_wake (possible : t.Possible e) (he : e.wakes = true) :
    threadWork (t.step e) = threadWork t + 2 := by
  cases e with
  | latch g =>
      obtain rfl : g = .wake := by simpa [ThreadStep.wakes] using he
      have hmore := Gate.work_wake countDown possible.1
      simp only [threadWork, EventLoopThread.step]
      omega
  | gate g =>
      obtain rfl : g = .wake := by simpa [ThreadStep.wakes] using he
      have hmore := Gate.work_wake (publish t.loop) possible.1
      simp only [threadWork, EventLoopThread.step]
      omega
  | _ => cases he

theorem threadsWork_concat (threads : List EventLoopThread) (t : EventLoopThread) :
    threadsWork (threads ++ [t]) = threadsWork threads + threadWork t := by
  induction threads with
  | nil => exact Nat.add_comm _ _
  | cons u threads ih =>
      rw [List.cons_append, threadsWork, threadsWork, ih, Nat.add_assoc]

theorem threadsWork_set {threads : List EventLoopThread} (t' : EventLoopThread)
    (hi : threads[i]? = some t) :
    threadsWork (threads.set i t') + threadWork t = threadsWork threads + threadWork t' := by
  induction threads generalizing i with
  | nil => cases hi
  | cons u threads ih =>
      cases i with
      | zero =>
          cases hi
          simp only [List.set_cons_zero, threadsWork]
          omega
      | succ i =>
          have hrest := ih (i := i) (by simpa using hi)
          simp only [List.set_cons_succ, threadsWork]
          omega

theorem work_thread (hi : s.threads[i]? = some t) :
    work (s.step (.thread i e)) + threadWork t = work s + threadWork (t.step e) := by
  have hthreads := threadsWork_set (t.step e) hi
  rw [step_thread hi]
  simp only [work, List.length_set]
  omega

/-- Every step but a spurious wake-up comes closer to the end. -/
theorem work_step (e : PoolStep) (possible : s.Possible e) (he : e.wakes = false) :
    work (s.step e) < work s := by
  cases e with
  | spawn self loop =>
      obtain ⟨hcaller, hcount, -⟩ := possible
      have hlen : s.threads.length < s.numThreads.toNat := by omega
      simp only [EventLoopThreadPool.step, work, hcaller, threadsWork_concat, List.length_append,
        List.length_singleton]
      have hnew : threadWork { self := self, loop := loop } = 22 := rfl
      rw [hnew]
      simp only [callerWork]
      omega
  | thread i e =>
      obtain ⟨⟨t, hi, hpossible⟩, -⟩ := possible
      have hless := threadWork_step hpossible he
      have hwork := work_thread (e := e) hi
      omega
  | started => simp [EventLoopThreadPool.step, work, possible.1, callerWork]
  | pushLoop => simp [EventLoopThreadPool.step, work, possible.1, callerWork]
  | returns => simp [EventLoopThreadPool.step, work, possible.1, callerWork]

theorem work_wake (e : PoolStep) (possible : s.Possible e) (he : e.wakes = true) :
    work (s.step e) ≤ work s + 2 := by
  cases e with
  | thread i e =>
      obtain ⟨⟨t, hi, hpossible⟩, -⟩ := possible
      have hmore := threadWork_wake hpossible he
      have hwork := work_thread (e := e) hi
      omega
  | _ => cases he

end Counting

/-! ### Whole runs -/

section Runs

variable {baseLoop : LoopAddress} {numThreads : Int} {callback : Bool} {es : List PoolStep}

theorem sound_run (along : Along step Possible (init baseLoop numThreads callback) es) :
    (run step (init baseLoop numThreads callback) es).Sound :=
  run_invariant (fun _ _ possible h => h.step possible) along
    (sound_init baseLoop numThreads callback)

/-- **What is published is ready.** At any time of any run: what `loops_` holds are loops of threads
whose ids are known and that have initialized them, all different and none the base loop, and the
callback has been called with each of them, in this order. When `start` returns they are as many as
it has been asked for. -/
theorem loops_published (along : Along step Possible (init baseLoop numThreads callback) es) :
    (run step (init baseLoop numThreads callback) es).Published :=
  (sound_run along).published

/-- **`start` returns.** A run is not longer than 25 steps for each thread and one more, and three
for each spurious wake-up; and a run that cannot go on, or only by such, has come to the end: `start`
has returned, and all threads are in `loop()`. -/
theorem start_returns (along : Along step Possible (init baseLoop numThreads callback) es) :
    es.length ≤ 25 * numThreads.toNat + 1 + 3 * es.countP PoolStep.wakes ∧
      ((∀ e, (run step (init baseLoop numThreads callback) es).Possible e → e.wakes = true) →
        (run step (init baseLoop numThreads callback) es).Ended) := by
  constructor
  · have hlength := length_add_work_le work PoolStep.wakes (k := 2)
      (fun _ => work_step) (fun _ => work_wake) along
    have hwork : work (init baseLoop numThreads callback) = 25 * numThreads.toNat + 1 := by
      simp [work, init, threadsWork, callerWork, Nat.add_comm]
    omega
  · intro stuck
    by_contra unended
    obtain ⟨e, hwakes, possible⟩ := (sound_run along).goesOn unended
    rw [stuck e possible] at hwakes
    cases hwakes

/-- The caller blocks at the latch, and finds the loop published. -/
def oneThread : List PoolStep := [
  .spawn 7 100, .thread 0 (.latch (.lock .waiter)), .thread 0 (.latch .test), .thread 0 .setTid,
  .thread 0 (.latch (.lock .setter)), .thread 0 (.latch .set), .thread 0 (.latch (.unlock .setter)),
  .thread 0 (.latch (.lock .waiter)), .thread 0 (.latch .test),
  .thread 0 (.latch (.unlock .waiter)), .started, .thread 0 .construct, .thread 0 .callback,
  .thread 0 (.gate (.lock .setter)), .thread 0 (.gate .set), .thread 0 (.gate (.unlock .setter)),
  .thread 0 .enterLoop, .thread 0 (.gate (.lock .waiter)), .thread 0 (.gate .test),
  .thread 0 (.gate (.unlock .waiter)), .pushLoop, .returns]

theorem along_oneThread : Along step Possible (init 1 1 true) oneThread := by decide +kernel

theorem loops_published_oneThread : (run step (init 1 1 true) oneThread).loops = [some 100] ∧
    (run step (init 1 1 true) oneThread).Published :=
  ⟨by decide +kernel, loops_published along_oneThread⟩

/-- What a thread could do, but for spurious wake-ups. -/
def threadSteps : List ThreadStep :=
  [.latch (.lock .waiter), .latch (.lock .setter), .latch .test, .latch .set,
    .latch (.unlock .waiter), .latch (.unlock .setter), .gate (.lock .waiter), .gate (.lock .setter),
    .gate .test, .gate .set, .gate (.unlock .waiter), .gate (.unlock .setter), .setTid, .construct,
    .callback, .enterLoop]

theorem mem_threadSteps {e : ThreadStep} (h : e.wakes ≠ true) : e ∈ threadSteps := by
  cases e with
  | latch e =>
      cases e with
      | lock side => cases side <;> decide
      | unlock side => cases side <;> decide
      | wake => exact absurd rfl h
      | _ => decide
  | gate e =>
      cases e with
      | lock side => cases side <;> decide
      | unlock side => cases side <;> decide
      | wake => exact absurd rfl h
      | _ => decide
  | _ => decide

/-- At the end of the run nobody can go on. -/
theorem stuck_oneThread (e : PoolStep)
    (possible : (run step (init 1 1 true) oneThread).Possible e) : e.wakes = true := by
  have hend : (run step (init 1 1 true) oneThread).caller = .returned ∧
      (run step (init 1 1 true) oneThread).threads.length = 1 ∧
      ∀ e ∈ threadSteps, ¬ (run step (init 1 1 true) oneThread).Possible (.thread 0 e) := by
    decide +kernel
  obtain ⟨hcaller, hlength, hthread⟩ := hend
  generalize run step (init 1 1 true) oneThread = s at possible hcaller hlength hthread
  cases e with
  | spawn self loop => cases hcaller.symm.trans possible.1
  | started => cases hcaller.symm.trans possible.1
  | pushLoop => cases hcaller.symm.trans possible.1
  | returns => cases hcaller.symm.trans possible.1
  | thread i e =>
      obtain ⟨t, ht, -⟩ := possible.1
      obtain ⟨hi, -⟩ := List.getElem?_eq_some_iff.mp ht
      obtain rfl : i = 0 := by omega
      by_contra hwakes
      exact hthread e (mem_threadSteps hwakes) possible

theorem start_returns_oneThread : oneThread.length ≤ 25 * 1 + 1 + 3 * 0 ∧
    (run step (init 1 1 true) oneThread).Ended :=
  ⟨(start_returns along_oneThread).1, (start_returns along_oneThread).2 stuck_oneThread⟩

end Runs

end EventLoopThreadPool

end Rmuduo.Net
