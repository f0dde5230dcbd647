/-
A loop and the threads that call it (`net/EventLoop.h`, `net/EventLoop.cc`,
`net/EventLoopThread.cc`).

A step is what one thread does without another one seeing anything in between: a read or a write
of a member that is shared, an operation on the queue under its lock, a read or a write of the
eventfd, or the begin of a callback. What a callback does are the calls that follow, in the
thread of the loop. `enqueued` and `executed` are histories, which no function of the source
reads; `looping_` and `eventHandling_`, which decide nothing, and the timers are left out: the
channel of the timer queue is one of the others.
-/

import Mathlib.Data.List.Basic
import Mathlib.Logic.Function.Basic
import Rmuduo.Lib.System

namespace Rmuduo.Net

open Lib Lib.System

/-- A `pid_t`. -/
abbrev ThreadId := Nat

/-- A channel that `poll` reports. -/
inductive ActiveChannel where
  | wakeupChannel
  | other
deriving DecidableEq, Repr

/-- Where the thread of the loop stands in `loop`. -/
inductive LoopPoint where
  /-- Before the call. -/
  | outside
  /-- At the condition of the `while`. -/
  | condition
  | poll
  /-- Going through the active channels; those are left. -/
  | channels (left : List ActiveChannel)
  /-- In `doPendingFunctors`, in front of the swap. -/
  | swap
  /-- In `doPendingFunctors`, behind it. -/
  | functors
  | returned
deriving DecidableEq, Repr

/-- The channels that are still to handle their events. -/
def LoopPoint.left : LoopPoint → List ActiveChannel
  | .channels left => left
  | _ => []

/-- What a thread has still to do in the call that it has begun. -/
inductive Remaining where
  | nothing
  /-- The `wakeup` of `queueInLoop`. -/
  | wakeupForFunctor
  /-- The `wakeup` of `quit`. -/
  | wakeupForQuit
deriving DecidableEq, Repr

/-- The most that an eventfd counts to. -/
def EVENTFD_MAX : Nat := 0xfffffffffffffffe

structure EventLoop (Functor : Type) where
  threadId : ThreadId
  point : LoopPoint := .outside
  quit_ : Bool := false
  wakeupFd : Nat := 0
  callingPendingFunctors : Bool := false
  pendingFunctors : List Functor := []
  /-- The functors that `doPendingFunctors` has taken and not called yet. -/
  functors : List Functor := []
  /-- The thread of the loop is in a callback. -/
  inCallback : Bool := false
  remaining : ThreadId → Remaining := fun _ => .nothing
  enqueued : List Functor := []
  executed : List Functor := []

variable {Functor : Type}

namespace EventLoop

def isInLoopThread (loop : EventLoop Functor) (tid : ThreadId) : Bool :=
  loop.threadId = tid

/-- The write of `wakeup`; a full counter is left as it is. -/
def wakeup (loop : EventLoop Functor) : EventLoop Functor :=
  { loop with
    wakeupFd := if loop.wakeupFd < EVENTFD_MAX then loop.wakeupFd + 1 else loop.wakeupFd }

/-- The read of the eventfd. -/
def handleRead (loop : EventLoop Functor) : EventLoop Functor :=
  { loop with wakeupFd := 0 }

/-- `queueInLoop` up to its `wakeup`, by the thread `tid`. -/
def queueInLoop (loop : EventLoop Functor) (tid : ThreadId) (cb : Functor) : EventLoop Functor :=
  { loop with
    pendingFunctors := loop.pendingFunctors ++ [cb]
    enqueued := loop.enqueued ++ [cb]
    remaining := Function.update loop.remaining tid
      (if ¬ loop.isInLoopThread tid ∨ loop.callingPendingFunctors then .wakeupForFunctor
        else .nothing) }

/-- `quit` up to its `wakeup`, by the thread `tid`. -/
def quit (loop : EventLoop Functor) (tid : ThreadId) : EventLoop Functor :=
  { loop with
    quit_ := false
    remaining := Function.update loop.remaining tid
      (if ¬ loop.isInLoopThread tid then .wakeupForQuit else .nothing) }

/-! ### Steps -/

inductive Step (Functor : Type) where
  /-- The thread of the loop calls `loop`. -/
  | loop
  /-- It comes to the condition of the `while`. -/
  | condition
  /-- `poll` returns these channels. -/
  | poll (active : List ActiveChannel)
  /-- The next channel handles its event. -/
  | handleEvent
  /-- The thread of the loop enters `doPendingFunctors`. -/
  | doPendingFunctors
  | swap
  /-- It calls the next functor. -/
  | callFunctor
  /-- It leaves `doPendingFunctors`. -/
  | leave
  | queueInLoop (tid : ThreadId) (cb : Functor)
  | quit (tid : ThreadId)
  /-- A thread comes to the `wakeup` of its call. -/
  | wakeup (tid : ThreadId)
deriving DecidableEq, Repr

def step (loop : EventLoop Functor) : Step Functor → EventLoop Functor
  | .loop => { loop with quit_ := false, point := .condition }
  | .condition => { loop with point := if loop.quit_ then .returned else .poll }
  | .poll active => { loop with point := .channels active }
  | .handleEvent =>
      match loop.point with
      | .channels (.wakeupChannel :: left) =>
          { loop.handleRead with point := .channels left, inCallback := false }
      | .channels (.other :: left) => { loop with point := .channels left, inCallback := true }
      | _ => loop
  | .doPendingFunctors =>
      { loop with
        functors := [], callingPendingFunctors := true, inCallback := false, point := .swap }
  | .swap =>
      { loop with
        functors := loop.pendingFunctors, pendingFunctors := loop.functors, point := .functors }
  | .callFunctor =>
      match loop.functors with
      | [] => loop
      | cb :: functors =>
          { loop with functors := functors, executed := loop.executed ++ [cb], inCallback := true }
  | .leave =>
      { loop with callingPendingFunctors := false, inCallback := false, point := .condition }
  | .queueInLoop tid cb => loop.queueInLoop tid cb
  | .quit tid => loop.quit tid
  | .wakeup tid =>
      { loop.wakeup with remaining := Function.update loop.remaining tid .nothing }

/-- A thread can make a call when it has finished the one before, and the thread of the loop only
in a callback. -/
def CanCall (loop : EventLoop Functor) (tid : ThreadId) : Prop :=
  loop.remaining tid = .nothing ∧ (loop.isInLoopThread tid → loop.inCallback)

/-- The thread of the loop can go on when it has finished the calls of its callback. -/
def CanGoOn (loop : EventLoop Functor) : Prop := loop.remaining loop.threadId = .nothing

/-- The steps that can come next. `poll` reports the wakeup channel only when there is something
to read, but it need not report it then, and it can always be interrupted or time out. -/
def Possible (loop : EventLoop Functor) : Step Functor → Prop
  | .loop => loop.point = .outside
  | .condition => loop.point = .condition
  | .poll active => loop.point = .poll ∧ (.wakeupChannel ∈ active → 0 < loop.wakeupFd)
  | .handleEvent => loop.point.left ≠ [] ∧ loop.CanGoOn
  | .doPendingFunctors => loop.point = .channels [] ∧ loop.CanGoOn
  | .swap => loop.point = .swap
  | .callFunctor => loop.point = .functors ∧ loop.functors ≠ [] ∧ loop.CanGoOn
  | .leave => loop.point = .functors ∧ loop.functors = [] ∧ loop.CanGoOn
  | .queueInLoop tid _ => loop.CanCall tid
  | .quit tid => loop.CanCall tid
  | .wakeup tid => loop.remaining tid ≠ .nothing

instance instDecidableCanCall (loop : EventLoop Functor) (tid : ThreadId) :
    Decidable (loop.CanCall tid) :=
  inferInstanceAs (Decidable (loop.remaining tid = .nothing ∧
    (loop.isInLoopThread tid → loop.inCallback)))

instance instDecidableCanGoOn (loop : EventLoop Functor) : Decidable loop.CanGoOn :=
  inferInstanceAs (Decidable (loop.remaining loop.threadId = .nothing))

instance instDecidablePossible (loop : EventLoop Functor) (step : Step Functor) :
    Decidable (loop.Possible step) :=
  match step with
  | .loop => inferInstanceAs (Decidable (loop.point = .outside))
  | .condition => inferInstanceAs (Decidable (loop.point = .condition))
  | .poll active => inferInstanceAs (Decidable
      (loop.point = .poll ∧ (.wakeupChannel ∈ active → 0 < loop.wakeupFd)))
  | .handleEvent => inferInstanceAs (Decidable (loop.point.left ≠ [] ∧ loop.CanGoOn))
  | .doPendingFunctors =>
      inferInstanceAs (Decidable (loop.point = .channels [] ∧ loop.CanGoOn))
  | .swap => inferInstanceAs (Decidable (loop.point = .swap))
  | .callFunctor => inferInstanceAs (Decidable
      (loop.point = .functors ∧ loop.functors ≠ [] ∧ loop.CanGoOn))
  | .leave => inferInstanceAs (Decidable
      (loop.point = .functors ∧ loop.functors = [] ∧ loop.CanGoOn))
  | .queueInLoop tid _ => inferInstanceAs (Decidable (loop.CanCall tid))
  | .quit tid => inferInstanceAs (Decidable (loop.CanCall tid))
  | .wakeup tid => inferInstanceAs (Decidable (loop.remaining tid ≠ .nothing))

end EventLoop

end Rmuduo.Net
