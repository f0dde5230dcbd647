/-
The timer queue of a loop (`net/TimerQueue.h`, `net/TimerQueue.cc`, `net/Timer.h`,
`net/Timer.cc`, `net/TimerId.h`).

`Timer` objects live at addresses: `heap` holds those that
have been created and not deleted, and an access to an address without an object is a
`Misuse`. A freed address may be handed out again. The order of events is kept in `log`, which
no function of the source reads.

`timerfd` is the setting of the descriptor: when it was made, and the time it fires at. It stays
until the descriptor is read after it has fired. The methods that hand calls over to the thread
of the loop (`addTimer`, `cancel`) and the destructor are left out; a step of `TimerLoop` is a
call in that thread, and `handleRead` is cut where it calls the timers' callbacks.
-/

import Mathlib.Data.Finset.Basic
import Mathlib.Data.Prod.Lex
import Mathlib.Logic.Function.Basic
import Rmuduo.Lib.SortedSet
import Rmuduo.Lib.System
import Rmuduo.Net.Timestamp

namespace Rmuduo.Net

open Lib Lib.System

/-! ### Timers -/

/-- A `Timer*`. -/
abbrev Address := Nat

def UINTPTR_MAX : Address := 0xffffffffffffffff

/-- A `Timer`; the interval in microseconds, as `addTime` casts it. A timer repeats if its
interval in seconds is positive; what the cast then gives is not negative, unless it is too large
for it. -/
structure Timer where
  expiration : Timestamp
  interval : Int64
  repeats : Bool
  sequece : Int

/-- `Timer::restart`. -/
def Timer.restart (timer : Timer) (now : Timestamp) : Timer :=
  { timer with expiration := if timer.repeats then addTime now timer.interval else .invalid }

theorem toInt_restart {timer : Timer} {now : Timestamp} (repeats : timer.repeats = true)
    (low : -2 ^ 63 ≤ now.toInt + timer.interval.toInt)
    (high : now.toInt + timer.interval.toInt < 2 ^ 63) :
    (timer.restart now).expiration.toInt = now.toInt + timer.interval.toInt := by
  rw [Timer.restart, if_pos repeats]
  exact toInt_addTime ⟨low, high⟩

/-- A `TimerId`, and an `ActiveTimer`. -/
structure TimerId where
  timer : Address
  sequence : Int
deriving DecidableEq, Repr

/-- An entry of `timers_`: ordered by expiration, then by address. -/
structure Entry where
  expiration : Timestamp
  timer : Address
deriving Repr

namespace Entry

def key (e : Entry) : Timestamp ×ₗ Nat := toLex (e.expiration, e.timer)

instance instLinearOrderEntry : LinearOrder Entry :=
  LinearOrder.lift' key (by
    rintro ⟨e, a⟩ ⟨e', a'⟩ h
    cases h
    rfl)

theorem lt_iff {e e' : Entry} :
    e < e' ↔ e.expiration < e'.expiration ∨
      e.expiration = e'.expiration ∧ e.timer < e'.timer :=
  Prod.Lex.toLex_lt_toLex

theorem le_expiration {e e' : Entry} (h : e ≤ e') : e.expiration ≤ e'.expiration := by
  rcases lt_or_eq_of_le h with hlt | rfl
  · rcases lt_iff.mp hlt with hlt | ⟨heq, -⟩
    · exact le_of_lt hlt
    · exact le_of_eq heq
  · exact le_refl _

end Entry

/-! ### The queue -/

/-- What happens to a timer, and a cancellation of it. -/
inductive TimerAction where
  | created | inserted | ran | restarted | deleted | cancelled
deriving DecidableEq, Repr

structure TimerEvent where
  action : TimerAction
  id : TimerId
deriving DecidableEq, Repr

/-- A setting of the timerfd: the time it fires at is the kernel's, which does not overflow. -/
structure Arming where
  setAt : Timestamp
  deadline : Int
deriving DecidableEq, Repr

/-- An access to a timer that is not there. -/
inductive Misuse where
  | dangling
deriving DecidableEq, Repr

/-- `struct timespec`. -/
structure TimeSpec where
  tv_sec : Int64
  tv_nsec : Int64

/-- `howMuchTimeFromNow`, at the time `clock`. -/
def howMuchTimeFromNow (when_ clock : Timestamp) : TimeSpec :=
  let microseconds := if when_ - clock < 100 then 100 else when_ - clock
  { tv_sec := microseconds / Timestamp.kMicroSecondsPerSecond
    tv_nsec := microseconds % Timestamp.kMicroSecondsPerSecond * 1000 }

structure TimerQueue where
  timers : List Entry := []
  activeTimers : Finset TimerId := ∅
  callingExpiredTimers : Bool := false
  cancelingTimers : Finset TimerId := ∅
  timerfd : Option Arming := none
  heap : Address → Option Timer := fun _ => none
  log : List TimerEvent := []

namespace TimerQueue

def note (q : TimerQueue) (action : TimerAction) (id : TimerId) : TimerQueue :=
  { q with log := q.log ++ [⟨action, id⟩] }

/-- The timer that a pointer points to. -/
def deref (q : TimerQueue) (a : Address) : Except Misuse Timer :=
  match q.heap a with
  | none => .error .dangling
  | some timer => .ok timer

/-- `new Timer`. -/
def newTimer (q : TimerQueue) (a : Address) (timer : Timer) : TimerQueue :=
  { q with heap := Function.update q.heap a (some timer) }.note .created ⟨a, timer.sequece⟩

/-- `delete`. -/
def delete (q : TimerQueue) (a : Address) : Except Misuse TimerQueue := do
  let timer ← q.deref a
  return { q with heap := Function.update q.heap a none }.note .deleted ⟨a, timer.sequece⟩

/-- `resetTimerfd`, at the time `clock`. -/
def resetTimerfd (q : TimerQueue) (clock expiration : Timestamp) : TimerQueue :=
  let delay := howMuchTimeFromNow expiration clock
  { q with timerfd := some {
      setAt := clock
      deadline := clock.toInt + (delay.tv_sec.toInt * 1000000 + delay.tv_nsec.toInt / 1000) } }

/-- `readTimerfd`: the descriptor fires once. -/
def readTimerfd (q : TimerQueue) (now : Timestamp) : TimerQueue :=
  { q with timerfd := q.timerfd.filter fun arming => ¬ arming.deadline ≤ now.toInt }

/-- `insert`, with whether the earliest expiration has changed. -/
def insert (q : TimerQueue) (a : Address) : Except Misuse (Bool × TimerQueue) := do
  let timer ← q.deref a
  let earliestChanged := q.timers.head?.all fun first => timer.expiration < first.expiration
  return (earliestChanged, { q with
    timers := SortedSet.insert ⟨timer.expiration, a⟩ q.timers
    activeTimers := Insert.insert (⟨a, timer.sequece⟩ : TimerId) q.activeTimers }.note .inserted
      ⟨a, timer.sequece⟩)

def addTimerInLoop (q : TimerQueue) (clock : Timestamp) (a : Address) :
    Except Misuse TimerQueue := do
  let (earliestChanged, q) ← q.insert a
  if earliestChanged then
    let timer ← q.deref a
    return q.resetTimerfd clock timer.expiration
  else return q

def cancelInLoop (q : TimerQueue) (id : TimerId) : Except Misuse TimerQueue := do
  let q := q.note .cancelled id
  if id ∈ q.activeTimers then
    let timer ← q.deref id.timer
    let q := { q with timers := q.timers.erase ⟨timer.expiration, id.timer⟩ }
    let q ← q.delete id.timer
    return { q with activeTimers := q.activeTimers.erase id }
  else if q.callingExpiredTimers then
    return { q with cancelingTimers := Insert.insert id q.cancelingTimers }
  else return q

/-- The loop of `getExpired` over the expired entries. -/
def forget (q : TimerQueue) (it : Entry) : Except Misuse TimerQueue := do
  let timer ← q.deref it.timer
  return { q with activeTimers := q.activeTimers.erase ⟨it.timer, timer.sequece⟩ }

def getExpired (q : TimerQueue) (now : Timestamp) : Except Misuse (List Entry × TimerQueue) := do
  let sentry : Entry := ⟨now, UINTPTR_MAX⟩
  let expired := q.timers.takeWhile (· < sentry)
  let q ← expired.foldlM forget { q with timers := q.timers.dropWhile (· < sentry) }
  return (expired, q)

/-- `it.second->run()`; what the callback does are the calls that follow. -/
def run (q : TimerQueue) (it : Entry) : Except Misuse TimerQueue := do
  let timer ← q.deref it.timer
  return q.note .ran ⟨it.timer, timer.sequece⟩

/-- `it.second->restart(now)`. -/
def restart (q : TimerQueue) (now : Timestamp) (a : Address) : Except Misuse TimerQueue := do
  let timer ← q.deref a
  return { q with heap := Function.update q.heap a (some (timer.restart now)) }.note .restarted
    ⟨a, timer.sequece⟩

/-- The loop of `reset` over the expired entries. -/
def resetTimer (now : Timestamp) (q : TimerQueue) (it : Entry) : Except Misuse TimerQueue := do
  let timer ← q.deref it.timer
  if timer.repeats = true ∧ ⟨it.timer, timer.sequece⟩ ∉ q.cancelingTimers then
    let q ← q.restart now it.timer
    let (_, q) ← q.insert it.timer
    return q
  else q.delete it.timer

def reset (q : TimerQueue) (expired : List Entry) (now clock : Timestamp) :
    Except Misuse TimerQueue := do
  let q ← expired.foldlM (resetTimer now) q
  match q.timers.head? with
  | none => return q
  | some first =>
      let timer ← q.deref first.timer
      if timer.expiration.valid then return q.resetTimerfd clock timer.expiration else return q

end TimerQueue

/-! ### The loop's calls -/

/-- `handleRead` while it runs the expired timers: those that it has taken out, and those that
are still to be run. -/
structure Reading where
  now : Timestamp
  expired : List Entry
  left : List Entry

structure TimerLoop where
  queue : TimerQueue := {}
  reading : Option Reading := none

/-- A call in the thread of the loop, or a part of `handleRead`. -/
inductive TimerCall where
  /-- `addTimerInLoop` for a new timer at this address. -/
  | addTimerInLoop (a : Address) (timer : Timer) (clock : Timestamp)
  | cancelInLoop (id : TimerId)
  /-- `handleRead` up to its loop. -/
  | handleRead (now : Timestamp)
  /-- The loop of `handleRead` calls the next callback. -/
  | runNext
  /-- `handleRead` behind its loop. -/
  | reset (clock : Timestamp)

namespace TimerLoop

def step (s : TimerLoop) : TimerCall → Except Misuse TimerLoop
  | .addTimerInLoop a timer clock => do
      let q ← (s.queue.newTimer a timer).addTimerInLoop clock a
      return { s with queue := q }
  | .cancelInLoop id => do
      let q ← s.queue.cancelInLoop id
      return { s with queue := q }
  | .handleRead now => do
      let (expired, q) ← (s.queue.readTimerfd now).getExpired now
      return {
        queue := { q with callingExpiredTimers := true, cancelingTimers := ∅ }
        reading := some ⟨now, expired, expired⟩ }
  | .runNext =>
      match s.reading with
      | some ⟨now, expired, it :: left⟩ => do
          let q ← s.queue.run it
          return { queue := q, reading := some ⟨now, expired, left⟩ }
      | _ => return s
  | .reset clock =>
      match s.reading with
      | some ⟨now, expired, []⟩ => do
          let q ← { s.queue with callingExpiredTimers := false }.reset expired now clock
          return { queue := q, reading := none }
      | _ => return s

/-- Calls are made between two calls of `handleRead`, or by a callback that it runs. -/
def CanCall (s : TimerLoop) : Prop :=
  ∀ r ∈ s.reading, r.left ≠ r.expired

/-- The calls that can come next. A timer that is added is a new one: its address is not in use,
and no timer has had its sequence number before. The clock has passed the Epoch. -/
def Possible (s : TimerLoop) : TimerCall → Prop
  | .addTimerInLoop a timer _ => s.CanCall ∧ s.queue.heap a = none ∧ a < UINTPTR_MAX ∧
      ∀ event ∈ s.queue.log, event.action = .created → event.id.sequence ≠ timer.sequece
  | .cancelInLoop _ => s.CanCall
  | .handleRead now => s.reading = none ∧ now.valid
  | .runNext => ∃ r ∈ s.reading, r.left ≠ []
  | .reset _ => ∃ r ∈ s.reading, r.left = []

instance instDecidableCanCall (s : TimerLoop) : Decidable s.CanCall :=
  inferInstanceAs (Decidable (∀ r ∈ s.reading, r.left ≠ r.expired))

instance instDecidablePossible (s : TimerLoop) (call : TimerCall) :
    Decidable (s.Possible call) :=
  match call with
  | .addTimerInLoop a timer _ =>
      inferInstanceAs (Decidable (s.CanCall ∧ s.queue.heap a = none ∧ a < UINTPTR_MAX ∧
        ∀ event ∈ s.queue.log, event.action = .created → event.id.sequence ≠ timer.sequece))
  | .cancelInLoop _ => inferInstanceAs (Decidable s.CanCall)
  | .handleRead now => inferInstanceAs (Decidable (s.reading = none ∧ now.valid))
  | .runNext => inferInstanceAs (Decidable (∃ r ∈ s.reading, r.left ≠ []))
  | .reset _ => inferInstanceAs (Decidable (∃ r ∈ s.reading, r.left = []))

end TimerLoop

end Rmuduo.Net
