/-
Channels (`net/Channel.h`, `net/Channel.cc`): the events a descriptor is polled for, and the
callbacks that a poll result runs.

Of `EPollPoller::updateChannel` and `removeChannel` this module keeps what they do to the
channel's index (`EPollPoller` has the rest). The log, the guard by a weak pointer and
`eventHandling_` are left out.

* `isWriting_enableWriting` and its siblings — write interest after each change of interest.
-/

import Mathlib.Data.List.Basic

namespace Rmuduo.Net

def EPOLLIN : UInt32 := 0x001
def EPOLLPRI : UInt32 := 0x002
def EPOLLOUT : UInt32 := 0x004
def EPOLLERR : UInt32 := 0x008
def EPOLLHUP : UInt32 := 0x010

/-- The `index` of a channel: unknown to the poller, registered, or deregistered. -/
inductive PollerIndex where
  | kNew | kAdded | kDeleted
deriving DecidableEq, Repr

structure Channel where
  events : UInt32 := 0
  index : PollerIndex := .kNew
deriving DecidableEq

/-- The callbacks of a channel. -/
inductive Handler where
  | close | error | read | write
deriving DecidableEq, Repr

namespace Channel

def kNoneEvent : UInt32 := 0
def kReadEvent : UInt32 := EPOLLIN ||| EPOLLPRI
def kWriteEvent : UInt32 := EPOLLOUT

def isNonEvent (ch : Channel) : Bool := ch.events = kNoneEvent
def isWriting (ch : Channel) : Bool := ch.events &&& kWriteEvent ≠ 0

/-- The channel is polled. -/
def registered (ch : Channel) : Bool := ch.index = .kAdded

/-- `EPollPoller::updateChannel`. -/
def update (ch : Channel) : Channel :=
  match ch.index with
  | .kNew | .kDeleted => { ch with index := .kAdded }
  | .kAdded => if ch.isNonEvent then { ch with index := .kDeleted } else ch

def enableReading (ch : Channel) : Channel :=
  update { ch with events := ch.events ||| kReadEvent }

def disableReading (ch : Channel) : Channel :=
  update { ch with events := ch.events &&& ~~~kReadEvent }

def enableWriting (ch : Channel) : Channel :=
  update { ch with events := ch.events ||| kWriteEvent }

def disableWriting (ch : Channel) : Channel :=
  update { ch with events := ch.events &&& ~~~kWriteEvent }

def disableAll (ch : Channel) : Channel :=
  update { ch with events := kNoneEvent }

/-- `EPollPoller::removeChannel`. -/
def remove (ch : Channel) : Channel :=
  { ch with index := .kNew }

/-- `handleEventWithGuard`: the callbacks that a poll result runs, in this order. -/
def handlers (revents : UInt32) : List Handler :=
  (if revents &&& EPOLLHUP ≠ 0 ∧ revents &&& EPOLLIN = 0 then [.close] else []) ++
  (if revents &&& EPOLLERR ≠ 0 then [.error] else []) ++
  (if revents &&& (EPOLLIN ||| EPOLLPRI) ≠ 0 then [.read] else []) ++
  (if revents &&& EPOLLOUT ≠ 0 then [.write] else [])

/-! ### Interest in writing -/

theorem or_and_right (x y z : UInt32) : (x ||| y) &&& z = (x &&& z) ||| (y &&& z) :=
  UInt32.toBitVec_inj.mp BitVec.and_or_distrib_right

theorem or_and_absorb (x y : UInt32) : (x ||| y) &&& y = y := by
  rw [← UInt32.toBitVec_inj]
  ext i hi
  cases h : x.toBitVec[i] <;> simp [h]

@[simp] theorem update_events (ch : Channel) : ch.update.events = ch.events := by
  unfold update
  split
  · rfl
  · rfl
  · split <;> rfl

theorem isWriting_update (ch : Channel) : ch.update.isWriting = ch.isWriting := by
  unfold isWriting
  rw [update_events]

@[simp] theorem isWriting_enableReading (ch : Channel) :
    ch.enableReading.isWriting = ch.isWriting := by
  unfold enableReading
  rw [isWriting_update]
  unfold isWriting
  dsimp only
  rw [or_and_right, show kReadEvent &&& kWriteEvent = 0 by decide, UInt32.or_zero]

@[simp] theorem isWriting_enableWriting (ch : Channel) : ch.enableWriting.isWriting = true := by
  unfold enableWriting
  rw [isWriting_update]
  unfold isWriting
  dsimp only
  rw [or_and_absorb]
  decide

@[simp] theorem isWriting_disableWriting (ch : Channel) :
    ch.disableWriting.isWriting = false := by
  unfold disableWriting
  rw [isWriting_update]
  unfold isWriting
  dsimp only
  rw [UInt32.and_assoc, UInt32.not_and_self, UInt32.and_zero]
  decide

end Channel

end Rmuduo.Net
