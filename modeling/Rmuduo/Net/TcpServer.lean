/-
A server and its loops (`net/TcpServer.cc`, `net/EventLoopThreadPool.cc`, with what
`net/TcpConnection.cc` and `net/EventLoop.cc` do for them).

The base loop is loop 0, and `loops_[i]` of the pool is loop `i + 1`. A connection is its number, and
what the server and other threads see of it: its loop, its state, whether it is polled and who owns it.
A step is what one thread does without another one seeing anything in between. The destructor of the
server is left out: it waits for the loops of the pool, which `quit` does not stop.

Whether a write leaves something is not modelled: what `sendInLoop` may put into the poller is polled
then. `history` and `dangling` are read by no function of the source. `nextConnId_` is taken not to
overflow, which needs fewer than 2^31 connections.

* `ServerStep`, `step`, `Possible` — the steps.
* `connName_inj` — no two connections have one name.
-/

import Rmuduo.Lib.Lines
import Rmuduo.Lib.System
import Rmuduo.Net.TcpConnection

namespace Rmuduo.Net

open Lib Lib.System

/-! ### Tasks of the loops -/

/-- What is queued in a loop. -/
inductive ServerTask where
  | connectEstablished (c : Nat)
  | removeConnectionInLoop (c : Nat)
  | connectDestroyed (c : Nat)
  /-- `writeCompleteCallback_` or `highWaterMarkCallback_`. -/
  | notice (c : Nat)
  /-- What `send` of another thread queues. -/
  | sendInLoop (c : Nat)
  /-- What `shutdown` of another thread queues. -/
  | shutdownInLoop (c : Nat)
deriving DecidableEq, Repr

namespace ServerTask

def conn : ServerTask → Nat
  | .connectEstablished c => c
  | .removeConnectionInLoop c => c
  | .connectDestroyed c => c
  | .notice c => c
  | .sendInLoop c => c
  | .shutdownInLoop c => c

/-- The task has a plain `this`. The others have a `shared_ptr`. -/
def plain : ServerTask → Bool
  | .sendInLoop _ => true
  | .shutdownInLoop _ => true
  | _ => false

/-- The task belongs to the life of the connection. -/
def booked : ServerTask → Bool
  | .connectEstablished _ => true
  | .removeConnectionInLoop _ => true
  | .connectDestroyed _ => true
  | _ => false

end ServerTask

/-- `pendingFunctors_`, and the functors that `doPendingFunctors` has taken: those that are left, and
those that it has called, which are destroyed when it returns. -/
structure LoopTasks where
  pendingFunctors : List ServerTask := []
  functors : List ServerTask := []
  called : List ServerTask := []

namespace LoopTasks

/-- The tasks that are still to be called, in order. -/
def toCall (l : LoopTasks) : List ServerTask := l.functors ++ l.pendingFunctors

/-- The tasks that exist. -/
def kept (l : LoopTasks) : List ServerTask := l.called ++ l.toCall

/-- The next of the functors that have been taken. -/
def next (l : LoopTasks) : Option (ServerTask × LoopTasks) :=
  match l.functors with
  | [] => none
  | task :: functors =>
      some (task, { l with functors := functors, called := l.called ++ [task] })

/-- The loop is not in `doPendingFunctors`. -/
def Idle (l : LoopTasks) : Prop := l.functors = [] ∧ l.called = []

instance (l : LoopTasks) : Decidable l.Idle := inferInstanceAs (Decidable (_ ∧ _))

end LoopTasks

/-! ### The server -/

/-- What happens to a connection. -/
inductive LifeEvent where
  | created (c : Nat)
  | established (c : Nat)
  | closed (c : Nat)
  | removed (c : Nat)
  | destroyed (c : Nat)
deriving DecidableEq, Repr

structure TcpServer where
  name : Bytes
  ipPort : Bytes
  numThreads : Nat
  next : Nat := 0
  nextConnId : Nat := 1
  connections : Bytes → Option Nat := fun _ => none
  ioLoop : Nat → Nat := fun _ => 0
  state : Nat → StateE := fun _ => .kConnecting
  /-- The poller can report events of its channel. -/
  polled : Nat → Bool := fun _ => false
  loops : Nat → LoopTasks := fun _ => {}
  /-- The references that the application holds to a connection. -/
  held : Nat → Nat := fun _ => 0
  /-- The threads in `send` or `shutdown` that have found it connected; each holds a reference. -/
  calling : Nat → Nat := fun _ => 0
  /-- Those that have gone on in `shutdown` to set the state. -/
  shutting : Nat → Nat := fun _ => 0
  history : List LifeEvent := []
  /-- A task with a plain `this` has been called when the connection had no owner. -/
  dangling : Bool := false

namespace TcpServer

def note (s : TcpServer) (e : LifeEvent) : TcpServer := { s with history := s.history ++ [e] }

def setLoop (s : TcpServer) (i : Nat) (l : LoopTasks) : TcpServer :=
  { s with loops := Function.update s.loops i l }

/-- `EventLoop::queueInLoop`. -/
def queueInLoop (s : TcpServer) (i : Nat) (task : ServerTask) : TcpServer :=
  s.setLoop i { s.loops i with pendingFunctors := (s.loops i).pendingFunctors ++ [task] }

/-- `EventLoopThreadPool::getNextLoop`. -/
def getNextLoop (s : TcpServer) : Nat × TcpServer :=
  if s.numThreads = 0 then (0, s)
  else (s.next + 1, { s with next := if s.numThreads ≤ s.next + 1 then 0 else s.next + 1 })

def connName (s : TcpServer) (c : Nat) : Bytes :=
  s.name ++ ascii "-" ++ s.ipPort ++ ascii "#" ++ decimal c

def setState (s : TcpServer) (c : Nat) (state : StateE) : TcpServer :=
  { s with state := Function.update s.state c state }

def setPolled (s : TcpServer) (c : Nat) (polled : Bool) : TcpServer :=
  { s with polled := Function.update s.polled c polled }

def connectEstablished (s : TcpServer) (c : Nat) : TcpServer :=
  ((s.setState c .kConnected).setPolled c true).note (.established c)

def connectDestroyed (s : TcpServer) (c : Nat) : TcpServer :=
  let s := if s.state c = StateE.kConnected then s.setState c .kDisconnected else s
  (s.setPolled c false).note (.destroyed c)

def newConnection (s : TcpServer) : TcpServer :=
  let (ioLoop, s) := s.getNextLoop
  let c := s.nextConnId
  let s := { s with
    nextConnId := c + 1
    connections := Function.update s.connections (s.connName c) (some c)
    ioLoop := Function.update s.ioLoop c ioLoop }.note (.created c)
  if ioLoop = 0 then s.connectEstablished c else s.queueInLoop ioLoop (.connectEstablished c)

def removeConnectionInLoop (s : TcpServer) (c : Nat) : TcpServer :=
  ({ s with
    connections := Function.update s.connections (s.connName c) none }.note (.removed c)).queueInLoop
      (s.ioLoop c) (.connectDestroyed c)

/-- `removeConnection`, in the thread of a loop. -/
def removeConnection (s : TcpServer) (i c : Nat) : TcpServer :=
  if i = 0 then s.removeConnectionInLoop c else s.queueInLoop 0 (.removeConnectionInLoop c)

/-- `TcpConnection::handleClose`. The event that it handles can have it called once more. -/
def handleClose (s : TcpServer) (c : Nat) : TcpServer :=
  ((s.setState c .kDisconnected).note (.closed c)).removeConnection (s.ioLoop c) c

/-- Something has a `shared_ptr` to the connection: the map, the application or a task. -/
def Owned (s : TcpServer) (c : Nat) : Prop :=
  s.connections (s.connName c) = some c ∨ 0 < s.held c ∨
    ∃ i < s.numThreads + 1, ∃ task ∈ (s.loops i).kept, task.plain = false ∧ task.conn = c

instance (s : TcpServer) (c : Nat) : Decidable (s.Owned c) :=
  inferInstanceAs (Decidable (_ ∨ _ ∨ _))

/-- The plain `this` of a task is followed. -/
def followThis (s : TcpServer) (c : Nat) : TcpServer :=
  { s with dangling := s.dangling || !decide (s.Owned c) }

/-- `TcpConnection::sendInLoop`, which gives up for a connection that has been closed. -/
def sendInLoop (s : TcpServer) (c : Nat) : TcpServer :=
  if s.state c = .kDisconnected then s.followThis c else (s.followThis c).setPolled c true

/-- The call of a task. -/
def perform (s : TcpServer) : ServerTask → TcpServer
  | .connectEstablished c => s.connectEstablished c
  | .removeConnectionInLoop c => s.removeConnectionInLoop c
  | .connectDestroyed c => s.connectDestroyed c
  | .notice _ => s
  | .sendInLoop c => s.sendInLoop c
  | .shutdownInLoop c => s.followThis c

/-! ### Steps -/

inductive ServerStep where
  /-- The acceptor has a connection. -/
  | newConnection
  | handleClose (c : Nat)
  /-- A loop takes its pending functors, calls the next of them, and destroys them. -/
  | swap (i : Nat)
  | callFunctor (i : Nat)
  | leave (i : Nat)
  /-- The loop of a connection queues a callback. -/
  | queueNotice (c : Nat)
  /-- The application takes a reference, which a callback has given to it, and gives one back. -/
  | hold (c : Nat)
  | release (c : Nat)
  /-- `send` or `shutdown` in another thread: the test of the state, and the rest of it. `shutdown`
  sets the state before it queues its task. -/
  | testState (c : Nat)
  | queueSend (c : Nat)
  | setDisconnecting (c : Nat)
  | queueShutdown (c : Nat)
  /-- `shutdown` in the thread of the loop. -/
  | shutdown (c : Nat)
deriving DecidableEq, Repr

def callFunctor (s : TcpServer) (i : Nat) : TcpServer :=
  match (s.loops i).next with
  | none => s
  | some (task, l) => (s.setLoop i l).perform task

/-- A thread comes to the end of its `send`. -/
def finishSend (s : TcpServer) (c : Nat) : TcpServer :=
  { s with calling := Function.update s.calling c (s.calling c - 1) }

/-- A thread in `shutdown` goes on to `setState`. -/
def setDisconnecting (s : TcpServer) (c : Nat) : TcpServer :=
  { s.setState c .kDisconnecting with
    calling := Function.update s.calling c (s.calling c - 1)
    shutting := Function.update s.shutting c (s.shutting c + 1) }

/-- A thread comes to the end of its `shutdown`. -/
def finishShutdown (s : TcpServer) (c : Nat) : TcpServer :=
  { s with shutting := Function.update s.shutting c (s.shutting c - 1) }

def step (s : TcpServer) : ServerStep → TcpServer
  | .newConnection => s.newConnection
  | .handleClose c => s.handleClose c
  | .swap i => s.setLoop i { functors := (s.loops i).pendingFunctors }
  | .callFunctor i => s.callFunctor i
  | .leave i => s.setLoop i { s.loops i with called := [] }
  | .queueNotice c => s.queueInLoop (s.ioLoop c) (.notice c)
  | .hold c => { s with held := Function.update s.held c (s.held c + 1) }
  | .release c => { s with held := Function.update s.held c (s.held c - 1) }
  | .testState c => { s with calling := Function.update s.calling c (s.calling c + 1) }
  | .queueSend c => (s.finishSend c).queueInLoop (s.ioLoop c) (.sendInLoop c)
  | .setDisconnecting c => s.setDisconnecting c
  | .queueShutdown c => (s.finishShutdown c).queueInLoop (s.ioLoop c) (.shutdownInLoop c)
  | .shutdown c => s.setState c .kDisconnecting

/-- An event of a channel is handled when it is polled and something owns the connection, to which it
is tied. A callback is queued in such an event, or by `sendInLoop`, behind which it is polled. -/
def Handles (s : TcpServer) (c : Nat) : Prop := s.polled c = true ∧ s.Owned c

instance (s : TcpServer) (c : Nat) : Decidable (s.Handles c) :=
  inferInstanceAs (Decidable (_ ∧ _))

/-- The steps that can come next. A loop handles events when it is not in `doPendingFunctors`. -/
def Possible (s : TcpServer) : ServerStep → Prop
  | .newConnection => (s.loops 0).Idle
  | .handleClose c => s.Handles c ∧ (s.loops (s.ioLoop c)).Idle
  | .swap i => i < s.numThreads + 1 ∧ (s.loops i).Idle
  | .callFunctor i => (s.loops i).functors ≠ []
  | .leave i => (s.loops i).functors = []
  | .queueNotice c => s.Handles c
  | .hold c => s.Owned c ∧ .established c ∈ s.history
  | .release c => s.calling c + s.shutting c < s.held c
  | .testState c => s.calling c + s.shutting c < s.held c ∧ s.state c = .kConnected
  | .queueSend c => 0 < s.calling c
  | .setDisconnecting c => 0 < s.calling c
  | .queueShutdown c => 0 < s.shutting c
  | .shutdown c => s.state c = .kConnected

instance (s : TcpServer) (e : ServerStep) : Decidable (s.Possible e) :=
  match e with
  | .newConnection => inferInstanceAs (Decidable (s.loops 0).Idle)
  | .handleClose c =>
      inferInstanceAs (Decidable (s.Handles c ∧ (s.loops (s.ioLoop c)).Idle))
  | .swap i => inferInstanceAs (Decidable (i < s.numThreads + 1 ∧ (s.loops i).Idle))
  | .callFunctor i => inferInstanceAs (Decidable ((s.loops i).functors ≠ []))
  | .leave i => inferInstanceAs (Decidable ((s.loops i).functors = []))
  | .queueNotice c => inferInstanceAs (Decidable (s.Handles c))
  | .hold c => inferInstanceAs (Decidable (s.Owned c ∧ .established c ∈ s.history))
  | .release c => inferInstanceAs (Decidable (s.calling c + s.shutting c < s.held c))
  | .testState c => inferInstanceAs
      (Decidable (s.calling c + s.shutting c < s.held c ∧ s.state c = .kConnected))
  | .queueSend c => inferInstanceAs (Decidable (0 < s.calling c))
  | .setDisconnecting c => inferInstanceAs (Decidable (0 < s.calling c))
  | .queueShutdown c => inferInstanceAs (Decidable (0 < s.shutting c))
  | .shutdown c => inferInstanceAs (Decidable (s.state c = .kConnected))

/-- The server after `start`, with this many loops in its pool. -/
def start (name ipPort : Bytes) (numThreads : Nat) : TcpServer :=
  { name := name, ipPort := ipPort, numThreads := numThreads }

/-- The states that the steps reach. -/
def Reached (name ipPort : Bytes) (numThreads : Nat) (s : TcpServer) : Prop :=
  Reachable (total step) Possible (start name ipPort numThreads) s

/-! ### Names -/

theorem connName_inj {s : TcpServer} {c d : Nat} (h : s.connName c = s.connName d) : c = d := by
  have hdecimal : decimal c = decimal d := List.append_cancel_left h
  have hvalue := congrArg digitsValue hdecimal
  rwa [digitsValue_decimal, digitsValue_decimal] at hvalue

end TcpServer

end Rmuduo.Net
