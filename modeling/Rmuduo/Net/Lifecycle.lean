/-
The life of a connection (`net/TcpConnection.cc`, `net/Channel.cc`, `net/TcpServer.cc`).

A run begins with a connection that is connecting, and ends with `connectDestroyed`, which the
server queues when the connection has closed or when the server itself is destroyed. A step is
one callback of the channel, one task of the loop or one call in its thread; what a callback does
are the calls that follow. A `shutdown` of another thread is cut between its test of the state
and its change of it, and queues its rest; so does a `send`.

* `Orderly` — steps that do not destroy a connection that is shutting down, nor close one that is
  closed.
* `Lifecycle.callbacks_paired` — in a run of such steps the connection goes up once and down
  once, and is closed at most once.
* `Lifecycle.callbacks_unpaired` — other runs, in which this fails.
-/

import Rmuduo.Net.TcpConnection

namespace Rmuduo.Net

open Lib Lib.System

/-! ### Steps -/

/-- What another thread queues in the loop. -/
inductive Task where
  | sendInLoop (data : Bytes)
  | shutdownInLoop
deriving DecidableEq, Repr

structure Lifecycle where
  conn : TcpConnection
  /-- The callbacks that are left of the poll result being handled. -/
  todo : List Handler := []
  tasks : List Task := []
  /-- The threads in `shutdown` that have found the connection connected. -/
  shuttingDown : Nat := 0
  destroyed : Bool := false

namespace Lifecycle

inductive Step where
  | connectEstablished
  /-- `Channel::handleEventWithGuard` begins. -/
  | handleEvent (revents : UInt32)
  /-- Its next callback, with what `readv` gives, what the message callback retrieves and what
  `write` gives. -/
  | callback (result : Option Bytes) (retrieved : Nat) (written : WriteResult)
  | send (result : WriteResult) (data : Bytes)
  | shutdown
  /-- `send` in another thread. -/
  | queueSend (data : Bytes)
  /-- `shutdown` in another thread: its test of the state. -/
  | testState
  /-- The rest of it. -/
  | setState
  /-- The loop runs the next task. -/
  | runTask (result : WriteResult)
  | connectDestroyed
deriving Repr

/-- The next callback of the channel. -/
def callback (s : Lifecycle) (result : Option Bytes) (retrieved : Nat) (written : WriteResult) :
    Except Failure Lifecycle :=
  match s.todo with
  | [] => .ok s
  | .close :: todo => .ok { s with conn := s.conn.handleClose, todo := todo }
  | .error :: todo => .ok { s with todo := todo }
  | .read :: todo => do
      let conn ← s.conn.handleRead result retrieved
      return { s with conn := conn, todo := todo }
  | .write :: todo => .ok { s with conn := s.conn.handleWrite written, todo := todo }

def runTask (s : Lifecycle) (result : WriteResult) : Except Failure Lifecycle :=
  match s.tasks with
  | [] => .ok s
  | .sendInLoop data :: tasks => do
      let conn ← s.conn.sendInLoop result data
      return { s with conn := conn, tasks := tasks }
  | .shutdownInLoop :: tasks => .ok { s with conn := s.conn.shutdownInLoop, tasks := tasks }

def step (s : Lifecycle) : Step → Except Failure Lifecycle
  | .connectEstablished => .ok { s with conn := s.conn.connectEstablished }
  | .handleEvent revents => .ok { s with todo := Channel.handlers revents }
  | .callback result retrieved written => s.callback result retrieved written
  | .send result data => do
      let conn ← s.conn.send result data
      return { s with conn := conn }
  | .shutdown => .ok { s with conn := s.conn.shutdown }
  | .queueSend data =>
      .ok (if s.conn.connected then { s with tasks := s.tasks ++ [.sendInLoop data] } else s)
  | .testState =>
      .ok (if s.conn.connected then { s with shuttingDown := s.shuttingDown + 1 } else s)
  | .setState => .ok { s with
      conn := { s.conn with state := .kDisconnecting }
      shuttingDown := s.shuttingDown - 1
      tasks := s.tasks ++ [.shutdownInLoop] }
  | .runTask result => s.runTask result
  | .connectDestroyed => .ok { s with conn := s.conn.connectDestroyed, destroyed := true }

/-- The connection has been established, and not destroyed. -/
def Alive (s : Lifecycle) : Prop := s.conn.state ≠ .kConnecting ∧ s.destroyed = false

/-- The steps that can come next. The loop goes through the callbacks of a poll result before it
polls again or runs a task. -/
def Possible (s : Lifecycle) : Step → Prop
  | .connectEstablished => s.conn.state = .kConnecting ∧ s.destroyed = false
  | .handleEvent _ => s.Alive ∧ s.todo = [] ∧ s.conn.channel.registered
  | .callback .. => s.Alive ∧ s.todo ≠ []
  | .setState => s.Alive ∧ 0 < s.shuttingDown
  | .runTask _ => s.Alive ∧ s.todo = [] ∧ s.tasks ≠ []
  | _ => s.Alive

instance instDecidableAlive (s : Lifecycle) : Decidable s.Alive :=
  inferInstanceAs (Decidable (s.conn.state ≠ .kConnecting ∧ s.destroyed = false))

instance instDecidablePossible (s : Lifecycle) (step : Step) : Decidable (s.Possible step) :=
  match step with
  | .connectEstablished =>
      inferInstanceAs (Decidable (s.conn.state = .kConnecting ∧ s.destroyed = false))
  | .handleEvent _ => inferInstanceAs (Decidable
      (s.Alive ∧ s.todo = [] ∧ s.conn.channel.registered))
  | .callback .. => inferInstanceAs (Decidable (s.Alive ∧ s.todo ≠ []))
  | .setState => inferInstanceAs (Decidable (s.Alive ∧ 0 < s.shuttingDown))
  | .runTask _ => inferInstanceAs (Decidable (s.Alive ∧ s.todo = [] ∧ s.tasks ≠ []))
  | .send .. => inferInstanceAs (Decidable s.Alive)
  | .shutdown => inferInstanceAs (Decidable s.Alive)
  | .queueSend _ => inferInstanceAs (Decidable s.Alive)
  | .testState => inferInstanceAs (Decidable s.Alive)
  | .connectDestroyed => inferInstanceAs (Decidable s.Alive)

end Lifecycle

/-! ### What a step does to the life of the connection -/

namespace TcpConnection

def connectionOf : Callback → Option Bool
  | .connection connected => some connected
  | _ => none

/-- The calls of `connectionCallback_`, each with `connected()`. -/
def connections (c : TcpConnection) : List Bool := c.callbacks.filterMap connectionOf

/-- The number of calls of `closeCallback_`. -/
def closes (c : TcpConnection) : Nat := c.callbacks.count .close

/-- Before `connectEstablished`. -/
structure Connecting (c : TcpConnection) : Prop where
  state : c.state = .kConnecting
  connections : c.connections = []
  closes : c.closes = 0

/-- The user has been told that the connection is up, and nothing else. -/
structure Up (c : TcpConnection) : Prop where
  state : c.state = .kConnected ∨ c.state = .kDisconnecting
  connections : c.connections = [true]
  closes : c.closes = 0

/-- The connection has been closed, and the user has been told. A `shutdown` that has found it
connected can set the state back to `kDisconnecting`. -/
structure Closed (c : TcpConnection) : Prop where
  state : c.state = .kDisconnected ∨ c.state = .kDisconnecting
  connections : c.connections = [true, false]
  closes : c.closes = 1

/-- The state is the same, and so are the callbacks that have been called. -/
def SameLife (c c' : TcpConnection) : Prop :=
  c'.state = c.state ∧ c'.callbacks = c.callbacks

section Functions

variable {c c' c'' : TcpConnection}

theorem SameLife.refl (c : TcpConnection) : SameLife c c := ⟨rfl, rfl⟩

theorem SameLife.trans (h : SameLife c c') (h' : SameLife c' c'') : SameLife c c'' :=
  ⟨h'.1.trans h.1, h'.2.trans h.2⟩

theorem SameLife.connections (h : SameLife c c') : c'.connections = c.connections := by
  rw [TcpConnection.connections, h.2]
  rfl

theorem SameLife.closes (h : SameLife c c') : c'.closes = c.closes := by
  rw [TcpConnection.closes, h.2]
  rfl

theorem Up.same (h : c.Up) (same : SameLife c c') : c'.Up where
  state := same.1 ▸ h.state
  connections := same.connections.trans h.connections
  closes := same.closes.trans h.closes

theorem Closed.same (h : c.Closed) (same : SameLife c c') : c'.Closed where
  state := same.1 ▸ h.state
  connections := same.connections.trans h.connections
  closes := same.closes.trans h.closes

theorem writeDirectly_sameLife (c : TcpConnection) (result : WriteResult) (data : Bytes) :
    SameLife c (c.writeDirectly result data).1 := by
  unfold writeDirectly
  split
  · split
    · dsimp only
      split
      · exact ⟨rfl, rfl⟩
      · exact ⟨rfl, rfl⟩
    · exact ⟨rfl, rfl⟩
  · exact ⟨rfl, rfl⟩

theorem noticeHighWaterMark_sameLife (c : TcpConnection) (remaining : Nat) :
    SameLife c (c.noticeHighWaterMark remaining) := by
  unfold noticeHighWaterMark
  dsimp only
  split
  · exact ⟨rfl, rfl⟩
  · exact ⟨rfl, rfl⟩

theorem ensureWriting_sameLife (c : TcpConnection) : SameLife c c.ensureWriting := by
  unfold ensureWriting
  split
  · exact ⟨rfl, rfl⟩
  · exact ⟨rfl, rfl⟩

theorem bufferRest_sameLife {rest : Bytes} (h : c.bufferRest rest = .ok c') :
    SameLife c c' := by
  obtain ⟨outputBuffer, -, heq⟩ := bind_eq_ok.mp h
  cases heq
  have hnotice := noticeHighWaterMark_sameLife c rest.length
  have hbuffer : SameLife (c.noticeHighWaterMark rest.length)
      { c.noticeHighWaterMark rest.length with outputBuffer := outputBuffer } := ⟨rfl, rfl⟩
  exact (hnotice.trans hbuffer).trans (ensureWriting_sameLife _)

theorem sendInLoop_sameLife {result : WriteResult} {data : Bytes}
    (h : c.sendInLoop result data = .ok c') : SameLife c c' := by
  unfold sendInLoop at h
  split at h
  · cases h
    exact .refl c
  · have hdirect := writeDirectly_sameLife c result data
    dsimp only at h
    split at h
    · exact hdirect.trans (bufferRest_sameLife h)
    · cases h
      exact hdirect

theorem send_sameLife {result : WriteResult} {data : Bytes} (h : c.send result data = .ok c') :
    SameLife c c' := by
  unfold send at h
  split at h
  · exact sendInLoop_sameLife h
  · cases h
    exact .refl c

theorem shutdownInLoop_sameLife (c : TcpConnection) : SameLife c c.shutdownInLoop := by
  unfold shutdownInLoop
  split
  · exact ⟨rfl, rfl⟩
  · exact ⟨rfl, rfl⟩

theorem flushed_sameLife (c : TcpConnection) : SameLife c c.flushed := by
  unfold flushed
  dsimp only
  split
  · split
    · exact SameLife.trans ⟨rfl, rfl⟩ (shutdownInLoop_sameLife _)
    · exact ⟨rfl, rfl⟩
  · split
    · exact SameLife.trans ⟨rfl, rfl⟩ (shutdownInLoop_sameLife _)
    · exact ⟨rfl, rfl⟩

theorem handleWrite_sameLife (c : TcpConnection) (result : WriteResult) :
    SameLife c (c.handleWrite result) := by
  unfold handleWrite
  split
  · split
    · split
      · rename_i n _
        have hwritten : SameLife c { c with
            written := c.written ++ c.outputBuffer.readable.take n
            outputBuffer := c.outputBuffer.retrieve n } := ⟨rfl, rfl⟩
        dsimp only
        split
        · exact hwritten.trans (flushed_sameLife _)
        · exact hwritten
      · exact .refl c
    · exact .refl c
  · exact .refl c

theorem connections_append {callbacks : List Callback}
    (h : c'.callbacks = c.callbacks ++ callbacks) :
    c'.connections = c.connections ++ callbacks.filterMap connectionOf := by
  rw [TcpConnection.connections, h, List.filterMap_append]
  rfl

theorem closes_append {callbacks : List Callback}
    (h : c'.callbacks = c.callbacks ++ callbacks) :
    c'.closes = c.closes + callbacks.count .close := by
  rw [TcpConnection.closes, h, List.count_append]
  rfl

theorem Connecting.connectEstablished (h : c.Connecting) : c.connectEstablished.Up := by
  have hcallbacks : c.connectEstablished.callbacks = c.callbacks ++ [.connection true] := rfl
  constructor
  · exact Or.inl rfl
  · rw [connections_append hcallbacks, h.connections]
    rfl
  · rw [closes_append hcallbacks, h.closes]
    rfl

theorem Up.handleClose (h : c.Up) : c.handleClose.Closed := by
  have hcallbacks : c.handleClose.callbacks = c.callbacks ++ [.connection false, .close] :=
    List.append_assoc ..
  constructor
  · exact Or.inl rfl
  · rw [connections_append hcallbacks, h.connections]
    rfl
  · rw [closes_append hcallbacks, h.closes]
    rfl

/-- A message changes nothing. -/
theorem Up.message (h : c.Up) (hstate : c'.state = c.state)
    (hcallbacks : c'.callbacks = c.callbacks ++ [.message]) : c'.Up where
  state := hstate ▸ h.state
  connections := by
    rw [connections_append hcallbacks, h.connections]
    rfl
  closes := by
    rw [closes_append hcallbacks, h.closes]
    rfl

theorem Closed.message (h : c.Closed) (hstate : c'.state = c.state)
    (hcallbacks : c'.callbacks = c.callbacks ++ [.message]) : c'.Closed where
  state := hstate ▸ h.state
  connections := by
    rw [connections_append hcallbacks, h.connections]
    rfl
  closes := by
    rw [closes_append hcallbacks, h.closes]
    rfl

/-- What a call of `handleRead` comes to: nothing, a message, or at the end of the input the
close of the connection. -/
theorem handleRead_cases {result : Option Bytes} {retrieved : Nat}
    (h : c.handleRead result retrieved = .ok c') :
    SameLife c c' ∨ (c'.state = c.state ∧ c'.callbacks = c.callbacks ++ [.message]) ∨
      result = some [] ∧ ∃ c₁, SameLife c c₁ ∧ c' = c₁.handleClose := by
  obtain ⟨⟨n, inputBuffer⟩, hread, h⟩ := bind_eq_ok.mp h
  dsimp only at h
  split at h
  · cases h
    exact Or.inr (Or.inl ⟨rfl, rfl⟩)
  · split at h
    · rename_i hpos hzero
      cases h
      refine Or.inr (Or.inr ⟨?_, { c with inputBuffer := inputBuffer }, ⟨rfl, rfl⟩, rfl⟩)
      cases result with
      | none =>
          cases hread
          exact absurd hzero (by decide)
      | some data =>
          have hlength := Buffer.readFd_count hread
          rw [hzero] at hlength
          rw [List.length_eq_zero_iff.mp (Int.ofNat_eq_zero.mp hlength.symm)]
    · cases h
      exact Or.inl ⟨rfl, rfl⟩

theorem Up.shutdown (h : c.Up) : c.shutdown.Up := by
  unfold TcpConnection.shutdown
  split
  · have hdown : Up { c with state := .kDisconnecting } :=
      ⟨Or.inr rfl, h.connections, h.closes⟩
    exact hdown.same (shutdownInLoop_sameLife _)
  · exact h

theorem Closed.not_connected (h : c.Closed) : c.state ≠ .kConnected := by
  intro hstate
  rcases h.state with hdown | hdown
  · cases hstate.symm.trans hdown
  · cases hstate.symm.trans hdown

theorem Closed.shutdown (h : c.Closed) : c.shutdown.Closed := by
  rw [TcpConnection.shutdown, if_neg h.not_connected]
  exact h

/-- The server gives up a connection that is up, and not shutting down. -/
theorem Up.connectDestroyed (h : c.Up) (hstate : c.state = .kConnected) :
    c.connectDestroyed.connections = [true, false] ∧ c.connectDestroyed.closes = 0 := by
  have hcallbacks : c.connectDestroyed.callbacks = c.callbacks ++ [.connection false] := by
    rw [TcpConnection.connectDestroyed, if_pos hstate]
    rfl
  constructor
  · rw [connections_append hcallbacks, h.connections]
    rfl
  · rw [closes_append hcallbacks, h.closes]
    rfl

theorem Closed.connectDestroyed (h : c.Closed) :
    c.connectDestroyed.connections = [true, false] ∧ c.connectDestroyed.closes = 1 := by
  have hcallbacks : c.connectDestroyed.callbacks = c.callbacks ++ [] := by
    rw [TcpConnection.connectDestroyed, if_neg h.not_connected, List.append_nil]
  constructor
  · rw [connections_append hcallbacks, h.connections]
    rfl
  · rw [closes_append hcallbacks, h.closes]
    rfl

end Functions

end TcpConnection

/-! ### Every run -/

namespace Lifecycle

/-- `handleClose` has been called. -/
def closed (s : Lifecycle) : Bool := 0 < s.conn.closes

/-- The steps of an orderly run: a connection is not destroyed while it is shutting down, and one
that has been closed does not get a hangup nor the end of the input. -/
def Orderly (s : Lifecycle) (step : Step) : Prop :=
  s.Possible step ∧
    match step with
    | .handleEvent revents => s.closed → .close ∉ Channel.handlers revents
    | .callback result _ _ => s.closed → s.todo.head? = some .read → result ≠ some []
    | .connectDestroyed => s.conn.state = .kDisconnecting → s.closed
    | _ => True

instance instDecidableOrderly (s : Lifecycle) (step : Step) : Decidable (s.Orderly step) :=
  match step with
  | .handleEvent revents => inferInstanceAs (Decidable (s.Possible (.handleEvent revents) ∧
      (s.closed → .close ∉ Channel.handlers revents)))
  | .callback result retrieved written => inferInstanceAs (Decidable
      (s.Possible (.callback result retrieved written) ∧
        (s.closed → s.todo.head? = some .read → result ≠ some [])))
  | .connectDestroyed => inferInstanceAs (Decidable (s.Possible .connectDestroyed ∧
      (s.conn.state = .kDisconnecting → s.closed)))
  | .connectEstablished =>
      inferInstanceAs (Decidable (s.Possible .connectEstablished ∧ True))
  | .send result data => inferInstanceAs (Decidable (s.Possible (.send result data) ∧ True))
  | .shutdown => inferInstanceAs (Decidable (s.Possible .shutdown ∧ True))
  | .queueSend data => inferInstanceAs (Decidable (s.Possible (.queueSend data) ∧ True))
  | .testState => inferInstanceAs (Decidable (s.Possible .testState ∧ True))
  | .setState => inferInstanceAs (Decidable (s.Possible .setState ∧ True))
  | .runTask result => inferInstanceAs (Decidable (s.Possible (.runTask result) ∧ True))

/-- The connection goes up and then down, each once, and is closed at most once. -/
structure Paired (s : Lifecycle) : Prop where
  order : s.conn.connections <+: [true, false]
  once : s.conn.closes ≤ 1
  ended : s.destroyed → s.conn.connections = [true, false]

/-- What each step of an orderly run keeps. A close callback comes first among those of a poll
result, and only while the connection is up. -/
structure Regular (s : Lifecycle) : Prop where
  stage : s.destroyed = false → s.conn.Connecting ∨ s.conn.Up ∨ s.conn.Closed
  ended : s.destroyed → s.conn.connections = [true, false] ∧ s.conn.closes ≤ 1
  head : s.destroyed = false → s.todo.head? = some .close → s.conn.Up
  tail : .close ∉ s.todo.tail

section Steps

variable {s s' : Lifecycle}

theorem close_not_mem_tail (revents : UInt32) : .close ∉ (Channel.handlers revents).tail := by
  have hrest : .close ∉ (if revents &&& EPOLLERR ≠ 0 then [Handler.error] else []) ++
      ((if revents &&& (EPOLLIN ||| EPOLLPRI) ≠ 0 then [.read] else []) ++
        (if revents &&& EPOLLOUT ≠ 0 then [.write] else [])) := by
    simp only [List.mem_append, not_or]
    refine ⟨?_, ?_, ?_⟩
    · split <;> simp
    · split <;> simp
    · split <;> simp
  unfold Channel.handlers
  rw [List.append_assoc, List.append_assoc]
  split
  · exact hrest
  · intro hmem
    exact hrest (List.mem_of_mem_tail hmem)

theorem Regular.alive (h : s.Regular) (alive : s.Alive) : s.conn.Up ∨ s.conn.Closed := by
  obtain ⟨hstate, hdestroyed⟩ := alive
  exact (h.stage hdestroyed).resolve_left fun hconnecting => hstate hconnecting.state

theorem closed_eq_false (h : s.conn.Up) : s.closed = false := by
  simp [closed, h.closes]

theorem Regular.paired (h : s.Regular) : s.Paired := by
  cases hdestroyed : s.destroyed with
  | true =>
      obtain ⟨hconnections, hcloses⟩ := h.ended hdestroyed
      exact ⟨hconnections ▸ List.prefix_refl _, hcloses, fun _ => hconnections⟩
  | false =>
      have hnot : ¬ s.destroyed := by simp [hdestroyed]
      rcases h.stage hdestroyed with hlife | hlife | hlife
      · exact ⟨hlife.connections ▸ List.nil_prefix, by rw [hlife.closes]; exact Nat.zero_le 1,
          fun hin => absurd hin hnot⟩
      · exact ⟨hlife.connections ▸ ⟨[false], rfl⟩, by rw [hlife.closes]; exact Nat.zero_le 1,
          fun hin => absurd hin hnot⟩
      · exact ⟨hlife.connections ▸ List.prefix_refl _, le_of_eq hlife.closes,
          fun hin => absurd hin hnot⟩

/-- A step that closes nothing. -/
theorem Regular.change (h : s.Regular) (alive : s.Alive) (hdestroyed : s'.destroyed = false)
    (up : s.conn.Up → s'.conn.Up) (closed : s.conn.Closed → s'.conn.Closed)
    (htodo : s'.todo = s.todo ∨ s'.todo = s.todo.tail) : s'.Regular where
  stage _ := Or.inr ((h.alive alive).imp up closed)
  ended hin := absurd hin (by simp [hdestroyed])
  head _ hhead := by
    rcases htodo with htodo | htodo
    · exact up (h.head alive.2 (htodo ▸ hhead))
    · exact absurd (List.mem_of_head? (htodo ▸ hhead)) h.tail
  tail := by
    rcases htodo with htodo | htodo
    · exact htodo ▸ h.tail
    · exact fun hmem => h.tail (List.mem_of_mem_tail (htodo ▸ hmem))

theorem Regular.sameLife (h : s.Regular) (alive : s.Alive) (hdestroyed : s'.destroyed = false)
    (same : TcpConnection.SameLife s.conn s'.conn)
    (htodo : s'.todo = s.todo ∨ s'.todo = s.todo.tail) : s'.Regular :=
  h.change alive hdestroyed (fun up => up.same same) (fun closed => closed.same same) htodo

/-- The connection, which is up, is closed. -/
theorem Regular.close (h : s.Regular) (hdestroyed : s'.destroyed = false)
    (closed : s'.conn.Closed) (htodo : s'.todo = s.todo.tail) : s'.Regular where
  stage _ := Or.inr (Or.inr closed)
  ended hin := absurd hin (by simp [hdestroyed])
  head _ hhead := absurd (List.mem_of_head? (htodo ▸ hhead)) h.tail
  tail hmem := h.tail (List.mem_of_mem_tail (htodo ▸ hmem))

theorem Regular.callback (h : s.Regular) (alive : s.Alive) {result : Option Bytes}
    {retrieved : Nat} {written : WriteResult}
    (orderly : s.closed → s.todo.head? = some .read → result ≠ some [])
    (taken : s.callback result retrieved written = .ok s') : s'.Regular := by
  unfold Lifecycle.callback at taken
  cases htodo : s.todo with
  | nil =>
      rw [htodo] at taken
      cases taken
      exact h
  | cons handler todo =>
      have htail : todo = s.todo.tail := by rw [htodo]; rfl
      rw [htodo] at taken
      cases handler with
      | close =>
          cases taken
          have hup : s.conn.Up := h.head alive.2 (by rw [htodo]; rfl)
          exact h.close alive.2 hup.handleClose htail
      | error =>
          cases taken
          exact h.sameLife alive alive.2 (.refl _) (Or.inr htail)
      | read =>
          obtain ⟨conn, hread, heq⟩ := bind_eq_ok.mp taken
          cases heq
          rcases TcpConnection.handleRead_cases hread with
            same | ⟨hstate, hcallbacks⟩ | ⟨hend, conn₁, same, rfl⟩
          · exact h.sameLife alive alive.2 same (Or.inr htail)
          · exact h.change alive alive.2 (fun up => up.message hstate hcallbacks)
              (fun closed => closed.message hstate hcallbacks) (Or.inr htail)
          · rcases h.alive alive with hup | hclosed
            · exact h.close alive.2 (hup.same same).handleClose htail
            · have hin : s.closed := by simp [Lifecycle.closed, hclosed.closes]
              exact absurd hend (orderly hin (by rw [htodo]; rfl))
      | write =>
          cases taken
          exact h.sameLife alive alive.2 (TcpConnection.handleWrite_sameLife _ _) (Or.inr htail)

theorem Regular.runTask (h : s.Regular) (alive : s.Alive) {result : WriteResult}
    (taken : s.runTask result = .ok s') : s'.Regular := by
  unfold Lifecycle.runTask at taken
  cases htasks : s.tasks with
  | nil =>
      rw [htasks] at taken
      cases taken
      exact h
  | cons task tasks =>
      rw [htasks] at taken
      cases task with
      | sendInLoop data =>
          obtain ⟨conn, hsend, heq⟩ := bind_eq_ok.mp taken
          cases heq
          exact h.sameLife alive alive.2 (TcpConnection.sendInLoop_sameLife hsend) (Or.inl rfl)
      | shutdownInLoop =>
          cases taken
          exact h.sameLife alive alive.2 (TcpConnection.shutdownInLoop_sameLife _) (Or.inl rfl)

theorem Regular.connectDestroyed (h : s.Regular) (alive : s.Alive)
    (orderly : s.conn.state = .kDisconnecting → s.closed) :
    Regular { s with conn := s.conn.connectDestroyed, destroyed := true } where
  stage := nofun
  ended _ := by
    rcases h.alive alive with hup | hclosed
    · have hstate : s.conn.state = .kConnected := by
        refine hup.state.resolve_right fun hstate => ?_
        have hin := orderly hstate
        rw [closed_eq_false hup] at hin
        cases hin
      obtain ⟨hconnections, hcloses⟩ := hup.connectDestroyed hstate
      exact ⟨hconnections, by rw [hcloses]; exact Nat.zero_le 1⟩
    · obtain ⟨hconnections, hcloses⟩ := hclosed.connectDestroyed
      exact ⟨hconnections, Nat.le_of_eq hcloses⟩
  head := nofun
  tail := h.tail

/-- Every step of an orderly run. -/
theorem Regular.step (h : s.Regular) {step : Step} (orderly : s.Orderly step)
    (taken : s.step step = .ok s') : s'.Regular := by
  obtain ⟨possible, orderly⟩ := orderly
  cases step with
  | connectEstablished =>
      obtain ⟨hstate, hdestroyed⟩ := possible
      cases taken
      have hnot : ¬ s.conn.Up := by
        intro hup
        rcases hup.state with hup | hup
        · cases hstate.symm.trans hup
        · cases hstate.symm.trans hup
      have hconnecting : s.conn.Connecting := by
        rcases h.stage hdestroyed with hlife | hlife | hlife
        · exact hlife
        · exact absurd hlife hnot
        · rcases hlife.state with hdown | hdown
          · cases hstate.symm.trans hdown
          · cases hstate.symm.trans hdown
      constructor
      · exact fun _ => Or.inr (Or.inl hconnecting.connectEstablished)
      · exact fun hin => absurd hin (by simp [hdestroyed])
      · exact fun _ hhead => absurd (h.head hdestroyed hhead) hnot
      · exact h.tail
  | handleEvent revents =>
      obtain ⟨alive, -, -⟩ := possible
      cases taken
      constructor
      · exact h.stage
      · exact h.ended
      · intro _ hhead
        refine (h.alive alive).resolve_right fun hclosed => ?_
        have hin : s.closed := by simp [closed, hclosed.closes]
        exact orderly hin (List.mem_of_head? hhead)
      · exact close_not_mem_tail revents
  | callback result retrieved written => exact h.callback possible.1 orderly taken
  | send result data =>
      have alive : s.Alive := possible
      obtain ⟨conn, hsend, heq⟩ := bind_eq_ok.mp taken
      cases heq
      exact h.sameLife alive alive.2 (TcpConnection.send_sameLife hsend) (Or.inl rfl)
  | shutdown =>
      have alive : s.Alive := possible
      cases taken
      exact h.change alive alive.2 TcpConnection.Up.shutdown TcpConnection.Closed.shutdown
        (Or.inl rfl)
  | queueSend data =>
      have alive : s.Alive := possible
      cases taken
      split
      · exact h.sameLife alive alive.2 (.refl _) (Or.inl rfl)
      · exact h
  | testState =>
      have alive : s.Alive := possible
      cases taken
      split
      · exact h.sameLife alive alive.2 (.refl _) (Or.inl rfl)
      · exact h
  | setState =>
      obtain ⟨alive, -⟩ := possible
      cases taken
      exact h.change alive alive.2
        (fun hup => ⟨Or.inr rfl, hup.connections, hup.closes⟩)
        (fun hclosed => ⟨Or.inr rfl, hclosed.connections, hclosed.closes⟩) (Or.inl rfl)
  | runTask result => exact h.runTask possible.1 taken
  | connectDestroyed =>
      cases taken
      exact h.connectDestroyed possible orderly

end Steps

/-- A connection that has been constructed, and the run that it is in. -/
def start (highWaterMark : Nat) (hasWriteCompleteCallback hasHighWaterMarkCallback : Bool) :
    Lifecycle where
  conn := {
    highWaterMark := highWaterMark
    hasWriteCompleteCallback := hasWriteCompleteCallback
    hasHighWaterMarkCallback := hasHighWaterMarkCallback }

theorem regular_start (highWaterMark : Nat)
    (hasWriteCompleteCallback hasHighWaterMarkCallback : Bool) :
    (start highWaterMark hasWriteCompleteCallback hasHighWaterMarkCallback).Regular where
  stage _ := Or.inl ⟨rfl, rfl, rfl⟩
  ended := nofun
  head _ := nofun
  tail := by simp [start]

/-- In every orderly run the connection goes up once and down once, and is closed at most once,
whatever is polled, read, sent and shut down, and whenever the server is destroyed. -/
theorem callbacks_paired {highWaterMark : Nat}
    {hasWriteCompleteCallback hasHighWaterMarkCallback : Bool} {s : Lifecycle}
    (h : Reachable step Orderly
      (start highWaterMark hasWriteCompleteCallback hasHighWaterMarkCallback) s) :
    s.Paired := by
  have hregular : s.Regular := h.invariant (I := Regular)
    (fun orderly hs taken => hs.step orderly taken)
    (regular_start highWaterMark hasWriteCompleteCallback hasHighWaterMarkCallback)
  exact hregular.paired

/-- The peer sends something, the user shuts the connection down, the peer closes it and the
server gives it up. -/
def shutdownAndClose : List Step :=
  [.connectEstablished, .handleEvent EPOLLIN, .callback (some [72, 105]) 2 (.wrote 0), .shutdown,
    .handleEvent EPOLLIN, .callback (some []) 0 (.wrote 0), .connectDestroyed]

theorem shutdownAndClose_paired : ∃ s : Lifecycle, s.destroyed = true ∧ s.Paired := by
  have hrun : (follow step Orderly (start 1024 false false) shutdownAndClose).map
      (fun s => s.destroyed) = some true := by decide +kernel
  obtain ⟨s, hfollow, hdestroyed⟩ := Option.map_eq_some_iff.mp hrun
  exact ⟨s, hdestroyed, callbacks_paired (Reachable.start.of_follow hfollow)⟩

/-- The server is destroyed while the connection is shutting down. -/
def destroyedInShutdown : List Step := [.connectEstablished, .shutdown, .connectDestroyed]

/-- A hangup with urgent data, and then the end of the input. -/
def urgentHangup : List Step :=
  [.connectEstablished, .handleEvent (EPOLLHUP ||| EPOLLPRI), .callback none 0 (.wrote 0),
    .callback (some []) 0 (.wrote 0)]

/-- Another thread has sent something, and finds the connection connected when it begins to shut
it down; then the connection is closed, and what was sent has it polled again. -/
def reopened : List Step :=
  [.connectEstablished, .queueSend [72], .testState, .handleEvent EPOLLHUP,
    .callback none 0 (.wrote 0), .setState, .runTask (.wrote 0), .handleEvent EPOLLHUP,
    .callback none 0 (.wrote 0)]

theorem callbacks_unpaired :
    (¬ ∀ s, Reachable step Possible (start 1024 false false) s → s.Paired) ∧
    ∀ steps ∈ [urgentHangup, reopened], ∃ s, Reachable step Possible (start 1024 false false) s ∧
      s.conn.connections = [true, false, false] ∧ s.conn.closes = 2 := by
  constructor
  · intro h
    have hrun : (follow step Possible (start 1024 false false) destroyedInShutdown).map (fun s =>
        (s.destroyed, s.conn.connections)) = some (true, [true]) := by decide +kernel
    obtain ⟨s, hfollow, hrun⟩ := Option.map_eq_some_iff.mp hrun
    obtain ⟨hdestroyed, hconnections⟩ := Prod.mk.inj hrun
    have hpaired := (h s (Reachable.start.of_follow hfollow)).ended hdestroyed
    cases hconnections.symm.trans hpaired
  · intro steps hsteps
    have hrun : (follow step Possible (start 1024 false false) steps).map (fun s =>
        (s.conn.connections, s.conn.closes)) = some ([true, false, false], 2) := by
      simp only [List.mem_cons, List.not_mem_nil, or_false] at hsteps
      rcases hsteps with rfl | rfl
      · decide +kernel
      · decide +kernel
    obtain ⟨s, hfollow, hrun⟩ := Option.map_eq_some_iff.mp hrun
    obtain ⟨hconnections, hcloses⟩ := Prod.mk.inj hrun
    exact ⟨s, Reachable.start.of_follow hfollow, hconnections, hcloses⟩

end Lifecycle

end Rmuduo.Net
