/-
The poller of a loop and its channels (`net/EPollPoller.h`, `net/EPollPoller.cc`, `net/Poller.cc`,
with the changes of interest in `net/Channel.cc`).

`channel` holds what `Channel` has of a channel, `interest` is what the kernel has registered with
the epoll instance. `epoll_ctl` fails where it adds what is registered, or modifies or deletes
what is not; `failed` is the history of its failures, which nothing reads. `poll` is left out.

* `perform_moves` — what an operation on a channel does, which no `epoll_ctl` fails in.
* `inStep_run` — index, map and kernel after any operations.
* `interest_mirrors_iff` — when the kernel has the channels with interest and no others.
* `disableAll_registers` — a channel without interest that is registered for it.
-/

import Rmuduo.Lib.System
import Rmuduo.Net.Channel

namespace Rmuduo.Net

open Lib.System

/-! ### The kernel -/

inductive EpollOp where
  | EPOLL_CTL_ADD | EPOLL_CTL_DEL | EPOLL_CTL_MOD
deriving DecidableEq, Repr

/-- An `epoll_event`, with the channel in `data.ptr`. -/
structure EpollEvent (Chan : Type) where
  events : UInt32
  ptr : Chan
deriving DecidableEq

/-- `epoll_ctl` on the registered descriptors; `none` when it fails. -/
def epollCtl {Chan : Type} (interest : Int → Option (EpollEvent Chan)) (operation : EpollOp)
    (fd : Int) (evt : EpollEvent Chan) : Option (Int → Option (EpollEvent Chan)) :=
  match operation with
  | .EPOLL_CTL_ADD =>
      if (interest fd).isSome then none else some (Function.update interest fd (some evt))
  | .EPOLL_CTL_DEL =>
      if (interest fd).isSome then some (Function.update interest fd none) else none
  | .EPOLL_CTL_MOD =>
      if (interest fd).isSome then some (Function.update interest fd (some evt)) else none

/-! ### The poller -/

structure EPollPoller (Chan : Type) where
  channel : Chan → Channel := fun _ => {}
  added2Loop : Chan → Bool := fun _ => false
  channels : Int → Option Chan := fun _ => none
  interest : Int → Option (EpollEvent Chan) := fun _ => none
  failed : List (EpollOp × Chan) := []

/-- What is called on a channel. -/
inductive ChannelOp where
  | enableReading | disableReading | enableWriting | disableWriting | disableAll | remove
deriving DecidableEq, Repr

namespace EPollPoller

variable {Chan : Type} [DecidableEq Chan] (fd : Chan → Int)

def setIndex (p : EPollPoller Chan) (c : Chan) (index : PollerIndex) : EPollPoller Chan :=
  { p with channel := Function.update p.channel c { p.channel c with index := index } }

def update (p : EPollPoller Chan) (operation : EpollOp) (c : Chan) : EPollPoller Chan :=
  match epollCtl p.interest operation (fd c) ⟨(p.channel c).events, c⟩ with
  | some interest => { p with interest := interest }
  | none => { p with failed := p.failed ++ [(operation, c)] }

def updateChannel (p : EPollPoller Chan) (c : Chan) : EPollPoller Chan :=
  let index := (p.channel c).index
  if index = .kNew ∨ index = .kDeleted then
    let p :=
      if index = .kNew then { p with channels := Function.update p.channels (fd c) (some c) } else p
    (p.setIndex c .kAdded).update fd .EPOLL_CTL_ADD c
  else if (p.channel c).isNonEvent then (p.update fd .EPOLL_CTL_DEL c).setIndex c .kDeleted
  else p.update fd .EPOLL_CTL_MOD c

def removeChannel (p : EPollPoller Chan) (c : Chan) : EPollPoller Chan :=
  let p := { p with channels := Function.update p.channels (fd c) none }
  let index := (p.channel c).index
  let p := if index = .kAdded then p.update fd .EPOLL_CTL_DEL c else p
  p.setIndex c .kNew

def setEvents (p : EPollPoller Chan) (c : Chan) (events : UInt32) : EPollPoller Chan :=
  { p with channel := Function.update p.channel c { p.channel c with events := events } }

/-- `Channel::update`. -/
def updateThrough (p : EPollPoller Chan) (c : Chan) : EPollPoller Chan :=
  updateChannel fd { p with added2Loop := Function.update p.added2Loop c true } c

/-- `Channel::remove`. -/
def remove (p : EPollPoller Chan) (c : Chan) : EPollPoller Chan :=
  removeChannel fd { p with added2Loop := Function.update p.added2Loop c false } c

def perform (p : EPollPoller Chan) : Chan × ChannelOp → EPollPoller Chan
  | (c, .enableReading) =>
      (p.setEvents c ((p.channel c).events ||| Channel.kReadEvent)).updateThrough fd c
  | (c, .disableReading) =>
      (p.setEvents c ((p.channel c).events &&& ~~~Channel.kReadEvent)).updateThrough fd c
  | (c, .enableWriting) =>
      (p.setEvents c ((p.channel c).events ||| Channel.kWriteEvent)).updateThrough fd c
  | (c, .disableWriting) =>
      (p.setEvents c ((p.channel c).events &&& ~~~Channel.kWriteEvent)).updateThrough fd c
  | (c, .disableAll) => (p.setEvents c Channel.kNoneEvent).updateThrough fd c
  | (c, .remove) => p.remove fd c

/-! ### What an operation does -/

/-- What `Channel` has of the operation. -/
def onChannel : ChannelOp → Channel → Channel
  | .enableReading => Channel.enableReading
  | .disableReading => Channel.disableReading
  | .enableWriting => Channel.enableWriting
  | .disableWriting => Channel.disableWriting
  | .disableAll => Channel.disableAll
  | .remove => Channel.remove

/-- What the kernel has for a channel that is registered. -/
def registration (ch : Channel) (c : Chan) : Option (EpollEvent Chan) :=
  if ch.registered then some ⟨ch.events, c⟩ else none

/-- The entry of a channel in the map. -/
def entry (ch : Channel) (c : Chan) : Option Chan :=
  if ch.index = .kNew then none else some c

/-- The map and the kernel agree with the indexes of the channels, and no `epoll_ctl` has
failed. -/
structure InStep (p : EPollPoller Chan) : Prop where
  interest : ∀ c, p.interest (fd c) = registration (p.channel c) c
  outside : ∀ f, (∀ c, fd c ≠ f) → p.interest f = none
  channels : ∀ c, p.channels (fd c) = entry (p.channel c) c
  added2Loop : ∀ c, p.added2Loop c = true ↔ (p.channel c).index ≠ .kNew
  deleted : ∀ c, (p.channel c).index = .kDeleted → (p.channel c).events = Channel.kNoneEvent
  failed : p.failed = []

/-- One channel has changed, to `ch`, and the map and the kernel with it. -/
structure Moves (p : EPollPoller Chan) (c : Chan) (ch : Channel) (p' : EPollPoller Chan) :
    Prop where
  channel : p'.channel = Function.update p.channel c ch
  added2Loop : p'.added2Loop = Function.update p.added2Loop c (decide (ch.index ≠ .kNew))
  channels : p'.channels = Function.update p.channels (fd c) (entry ch c)
  interest : p'.interest = Function.update p.interest (fd c) (registration ch c)
  failed : p'.failed = p.failed

section Steps

variable {fd} {p p' : EPollPoller Chan} {c : Chan} {ch : Channel}

omit [DecidableEq Chan] in
theorem inStep_init : InStep fd ({} : EPollPoller Chan) := by
  constructor <;> simp [registration, entry, Channel.registered]

/-- A change of interest. -/
theorem setEvents_moves (h : InStep fd p) (c : Chan) (events : UInt32) :
    Moves fd p c (Channel.update { p.channel c with events := events })
      ((p.setEvents c events).updateThrough fd c) := by
  have hinterest := h.interest c
  have hchannels := h.channels c
  cases hindex : (p.channel c).index with
  | kNew =>
      simp only [registration, Channel.registered, hindex] at hinterest
      constructor <;> simp [updateThrough, updateChannel, setEvents, setIndex, update, epollCtl,
        hindex, hinterest, Channel.update, registration, entry, Channel.registered]
  | kDeleted =>
      simp only [registration, Channel.registered, hindex] at hinterest
      simp only [entry, hindex] at hchannels
      constructor <;> simp [updateThrough, updateChannel, setEvents, setIndex, update, epollCtl,
        hindex, hinterest, Channel.update, registration, entry, Channel.registered, hchannels]
  | kAdded =>
      simp only [registration, Channel.registered, hindex] at hinterest
      simp only [entry, hindex] at hchannels
      by_cases hnone : events = Channel.kNoneEvent
      · constructor <;> simp [updateThrough, updateChannel, setEvents, setIndex, update, epollCtl,
          hindex, hinterest, Channel.update, registration, entry, Channel.registered, hchannels,
          Channel.isNonEvent, hnone]
      · constructor <;> simp [updateThrough, updateChannel, setEvents, update, epollCtl, hindex,
          hinterest, Channel.update, registration, entry, Channel.registered, hchannels,
          Channel.isNonEvent, hnone]

theorem remove_moves (h : InStep fd p) (c : Chan) :
    Moves fd p c (p.channel c).remove (p.remove fd c) := by
  have hinterest := h.interest c
  by_cases hindex : (p.channel c).index = .kAdded
  · simp only [registration, Channel.registered, hindex] at hinterest
    constructor <;> simp [remove, removeChannel, setIndex, update, epollCtl, hindex, hinterest,
      Channel.remove, registration, entry, Channel.registered]
  · simp only [registration, Channel.registered, hindex] at hinterest
    constructor <;> simp [remove, removeChannel, setIndex, hindex, hinterest, Channel.remove,
      registration, entry, Channel.registered]

/-- **One operation**, as long as everything is in step: the channel changes, the map and the
kernel follow, and no `epoll_ctl` fails. -/
theorem perform_moves (h : InStep fd p) (c : Chan) (op : ChannelOp) :
    Moves fd p c (onChannel op (p.channel c)) (perform fd p (c, op)) := by
  cases op with
  | enableReading => exact setEvents_moves h c _
  | disableReading => exact setEvents_moves h c _
  | enableWriting => exact setEvents_moves h c _
  | disableWriting => exact setEvents_moves h c _
  | disableAll => exact setEvents_moves h c _
  | remove => exact remove_moves h c

/-- A change of the events, for every operation but `remove`. -/
theorem onChannel_cases (op : ChannelOp) (ch : Channel) :
    (op = .remove ∧ onChannel op ch = ch.remove) ∨
      op ≠ .remove ∧ ∃ events, onChannel op ch = Channel.update { ch with events := events } := by
  cases op with
  | remove => exact .inl ⟨rfl, rfl⟩
  | enableReading => exact .inr ⟨nofun, _, rfl⟩
  | disableReading => exact .inr ⟨nofun, _, rfl⟩
  | enableWriting => exact .inr ⟨nofun, _, rfl⟩
  | disableWriting => exact .inr ⟨nofun, _, rfl⟩
  | disableAll => exact .inr ⟨nofun, _, rfl⟩

theorem onChannel_deleted {op : ChannelOp} (h : (onChannel op ch).index = .kDeleted) :
    (onChannel op ch).events = Channel.kNoneEvent := by
  rcases onChannel_cases op ch with ⟨-, heq⟩ | ⟨-, events, heq⟩
  · rw [heq] at h
    cases h
  · rw [heq] at h ⊢
    cases hindex : ch.index with
    | kNew => simp [Channel.update, hindex] at h
    | kDeleted => simp [Channel.update, hindex] at h
    | kAdded =>
        by_cases hnone : events = Channel.kNoneEvent
        · simpa using hnone
        · simp [Channel.update, hindex, Channel.isNonEvent, hnone] at h

/-- An operation other than `remove` deregisters a channel only when it was registered. -/
theorem onChannel_registered {op : ChannelOp} :
    ((onChannel op ch).registered = true → (onChannel op ch).events ≠ Channel.kNoneEvent) ↔
      op = .remove ∨ (onChannel op ch).events ≠ Channel.kNoneEvent ∨ ch.registered = true := by
  rcases onChannel_cases op ch with ⟨rfl, heq⟩ | ⟨hop, events, heq⟩
  · simp [heq, Channel.remove, Channel.registered]
  · rw [heq, Channel.update_events]
    cases hindex : ch.index with
    | kNew => simp [Channel.update, hindex, Channel.registered, hop]
    | kDeleted => simp [Channel.update, hindex, Channel.registered, hop]
    | kAdded =>
        by_cases hnone : events = Channel.kNoneEvent
        · simp [Channel.update, hindex, Channel.registered, Channel.isNonEvent, hnone]
        · simp [hnone]

omit [DecidableEq Chan] in
theorem InStep.added_of (h : InStep fd p) (hregistered : (p.channel c).registered = true) :
    p.added2Loop c = true := by
  rw [h.added2Loop]
  intro hnew
  simp [Channel.registered, hnew] at hregistered

omit [DecidableEq Chan] in
theorem InStep.registered_of (h : InStep fd p) (hadded : p.added2Loop c = true)
    (hevents : (p.channel c).events ≠ Channel.kNoneEvent) : (p.channel c).registered = true := by
  rw [h.added2Loop] at hadded
  have hdeleted : (p.channel c).index ≠ .kDeleted := fun hindex => hevents (h.deleted c hindex)
  cases hindex : (p.channel c).index with
  | kNew => exact absurd hindex hadded
  | kDeleted => exact absurd hindex hdeleted
  | kAdded => simp [Channel.registered, hindex]

theorem InStep.moved (h : InStep fd p) (distinct : Function.Injective fd) (hm : Moves fd p c ch p')
    (hdeleted : ch.index = .kDeleted → ch.events = Channel.kNoneEvent) : InStep fd p' where
  interest d := by
    rw [hm.interest, hm.channel]
    by_cases hd : d = c
    · simp [hd]
    · rw [Function.update_of_ne (distinct.ne hd), Function.update_of_ne hd, h.interest d]
  outside f hf := by
    rw [hm.interest, Function.update_of_ne (hf c).symm, h.outside f hf]
  channels d := by
    rw [hm.channels, hm.channel]
    by_cases hd : d = c
    · simp [hd]
    · rw [Function.update_of_ne (distinct.ne hd), Function.update_of_ne hd, h.channels d]
  added2Loop d := by
    rw [hm.added2Loop, hm.channel]
    by_cases hd : d = c
    · simp [hd]
    · rw [Function.update_of_ne hd, Function.update_of_ne hd, h.added2Loop d]
  deleted d := by
    rw [hm.channel]
    by_cases hd : d = c
    · simpa [hd] using hdeleted
    · rw [Function.update_of_ne hd]
      exact h.deleted d
  failed := hm.failed.trans h.failed

theorem InStep.performed (h : InStep fd p) (distinct : Function.Injective fd)
    (x : Chan × ChannelOp) : InStep fd (perform fd p x) :=
  h.moved distinct (perform_moves h x.1 x.2) onChannel_deleted

theorem inStep_run (distinct : Function.Injective fd) (ops : List (Chan × ChannelOp)) :
    InStep fd (run (perform fd) {} ops) :=
  run_invariant_always (fun _ x h => h.performed distinct x) ops inStep_init

/-! ### Interest -/

end Steps

/-- The kernel has the channels that have not been removed and have interest, each with its mask,
and no others. -/
def Mirrors (p : EPollPoller Chan) : Prop :=
  ∀ f evt, p.interest f = some evt ↔
    ∃ c, fd c = f ∧ p.added2Loop c = true ∧ (p.channel c).events ≠ Channel.kNoneEvent ∧
      evt = ⟨(p.channel c).events, c⟩

/-- An operation that leaves a channel without interest is called on a channel that has some, and
is not removed. -/
def Proper (p : EPollPoller Chan) : Chan × ChannelOp → Prop
  | (c, op) =>
      op = .remove ∨ (onChannel op (p.channel c)).events ≠ Channel.kNoneEvent ∨
        p.added2Loop c = true ∧ (p.channel c).events ≠ Channel.kNoneEvent

instance (p : EPollPoller Chan) (x : Chan × ChannelOp) : Decidable (Proper p x) :=
  match x with
  | (c, op) => inferInstanceAs (Decidable
      (op = .remove ∨ (onChannel op (p.channel c)).events ≠ Channel.kNoneEvent ∨
        p.added2Loop c = true ∧ (p.channel c).events ≠ Channel.kNoneEvent))

section Interest

variable {fd} {p : EPollPoller Chan} {c : Chan}

omit [DecidableEq Chan] in
theorem registration_eq_some {ch : Channel} {evt : EpollEvent Chan} :
    registration ch c = some evt ↔ ch.registered = true ∧ evt = ⟨ch.events, c⟩ := by
  unfold registration
  split <;> simp [*, eq_comm]

omit [DecidableEq Chan] in
/-- Everything is in step: so only the mask of a registered channel can be wrong. -/
theorem InStep.mirrors_iff (h : InStep fd p) :
    Mirrors fd p ↔
      ∀ c, (p.channel c).registered = true → (p.channel c).events ≠ Channel.kNoneEvent := by
  constructor
  · intro hmirrors c hregistered
    have hkernel := (h.interest c).trans (if_pos hregistered)
    obtain ⟨d, -, -, hevents, heq⟩ := (hmirrors _ _).mp hkernel
    obtain rfl : c = d := congrArg EpollEvent.ptr heq
    exact hevents
  · intro hmasks f evt
    constructor
    · intro hkernel
      obtain ⟨c, rfl⟩ : ∃ c, fd c = f := by
        by_contra hnone
        simp [h.outside f (not_exists.mp hnone)] at hkernel
      rw [h.interest, registration_eq_some] at hkernel
      obtain ⟨hregistered, rfl⟩ := hkernel
      exact ⟨c, rfl, h.added_of hregistered, hmasks c hregistered, rfl⟩
    · rintro ⟨c, rfl, hadded, hevents, rfl⟩
      rw [h.interest, registration_eq_some]
      exact ⟨h.registered_of hadded hevents, rfl⟩

/-- One operation goes on mirroring interest exactly when it is proper. -/
theorem InStep.mirrors_perform (h : InStep fd p) (distinct : Function.Injective fd)
    (hmirrors : Mirrors fd p) (x : Chan × ChannelOp) :
    Mirrors fd (perform fd p x) ↔ Proper p x := by
  obtain ⟨c, op⟩ := x
  have hmasks := h.mirrors_iff.mp hmirrors
  have hregistered : (p.channel c).registered = true ↔
      p.added2Loop c = true ∧ (p.channel c).events ≠ Channel.kNoneEvent := by
    constructor
    · intro hregistered
      exact ⟨h.added_of hregistered, hmasks c hregistered⟩
    · rintro ⟨hadded, hevents⟩
      exact h.registered_of hadded hevents
  rw [(h.performed distinct (c, op)).mirrors_iff, (perform_moves h c op).channel, Proper,
    ← hregistered, ← onChannel_registered]
  constructor
  · intro hall
    simpa using hall c
  · intro hone d
    by_cases hd : d = c
    · simpa [hd] using hone
    · simpa [Function.update_of_ne hd] using hmasks d

/-- **The kernel mirrors the interest of the channels** in every state of a run if and only if no
operation leaves a channel without interest that has none already, or that is removed. No
`epoll_ctl` fails in any run. -/
theorem interest_mirrors_iff (distinct : Function.Injective fd) (ops : List (Chan × ChannelOp)) :
    (∀ before, before <+: ops → (run (perform fd) {} before).failed = []) ∧
    ((∀ before, before <+: ops → Mirrors fd (run (perform fd) {} before)) ↔
      Along (perform fd) Proper {} ops) := by
  refine ⟨fun before _ => (inStep_run distinct before).failed, ?_⟩
  refine prefixes_iff_along (Q := fun ops => Mirrors fd (run (perform fd) {} ops)) ?_ ?_ ops
  · rw [run_nil, inStep_init.mirrors_iff]
    simp [Channel.registered]
  · intro ops x hbefore
    rw [run_append]
    exact (inStep_run distinct ops).mirrors_perform distinct hbefore x

end Interest

/-- The descriptors of two channels. -/
def twoFds : Bool → Int
  | false => 5
  | true => 6

theorem twoFds_injective : Function.Injective twoFds := by
  intro c d h
  cases c <;> cases d <;> first | rfl | exact absurd h (by decide)

/-- Two channels, one of which loses its interest and one of which is removed and comes back. -/
def twoChannels : List (Bool × ChannelOp) :=
  [(true, .enableReading), (false, .enableReading), (true, .enableWriting), (true, .disableAll),
    (false, .remove), (false, .enableWriting), (true, .enableReading)]

theorem interest_mirrors_twoChannels :
    Along (perform twoFds) Proper {} twoChannels ∧
      ∀ before, before <+: twoChannels → (run (perform twoFds) {} before).failed = [] ∧
        Mirrors twoFds (run (perform twoFds) {} before) := by
  have hproper : Along (perform twoFds) Proper {} twoChannels :=
    ⟨by decide, by decide, by decide, by decide, by decide, by decide, by decide, trivial⟩
  obtain ⟨hfailed, hmirrors⟩ := interest_mirrors_iff twoFds_injective twoChannels
  exact ⟨hproper, fun before hbefore => ⟨hfailed before hbefore, hmirrors.mpr hproper before hbefore⟩⟩

/-- A channel without interest is registered by a `disableAll`: as when an acceptor is destroyed
that has not listened, or behind another `disableAll`. -/
theorem disableAll_registers :
    (run (perform twoFds) {} [(false, .disableAll)]).interest 5 = some ⟨0, false⟩ ∧
    (run (perform twoFds) {} [(false, .enableReading), (false, .disableAll),
      (false, .disableAll)]).interest 5 = some ⟨0, false⟩ ∧
    ¬ Mirrors twoFds (run (perform twoFds) {} [(false, .disableAll)]) := by
  have hkernel : (run (perform twoFds) {} [(false, .disableAll)]).interest 5 =
      some ⟨0, false⟩ := by decide
  refine ⟨hkernel, by decide, fun hmirrors => ?_⟩
  obtain ⟨c, -, -, hevents, heq⟩ := (hmirrors 5 ⟨0, false⟩).mp hkernel
  exact hevents (congrArg EpollEvent.events heq).symm

end EPollPoller

end Rmuduo.Net
