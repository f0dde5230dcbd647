/-
Bytes of a connection (`onMessage` of `rtmp/RtmpConnection.cc` and `rtmp/RtmpServer.cc`,
`handleRead` of `net/TcpConnection.cc`).

`onMessage` first works on the bytes alone: handshake, then the chunk parser on all that is
there. Only then does it handle the messages, one after the other, until a handler returns
`false`. So it is two functions here: `readMessages`, up to the loop, and `handleMessages`,
the loop.

* `Reads.quiet` — reading bytes touches no session.
* `receive_refines` — receiving bytes is a run of transport events, messages and at most
  one shutdown, all of the connection that the bytes came from. So what holds after every
  run of messages holds after every run of bytes (`netAfter_refines`).
-/

import Rmuduo.Rtmp.ChunkReader
import Rmuduo.Rtmp.Handshake
import Rmuduo.Rtmp.SessionStore

namespace Rmuduo.Rtmp

open Lib System

/-! ### Receiving -/

namespace RtmpServer

def inputBuffer (s : RtmpServer) (c : ConnId) : Bytes :=
  match s.connections c with
  | some conn => conn.inputBuffer
  | none => []

/-- The chunk parser on what the handshake has left in the buffer. The messages that have
been parsed before an error are never handled. -/
def parseMessages (s : RtmpServer) (c : ConnId) : RtmpServer × Option (List RtmpMessage) :=
  if (s.inputBuffer c).length = 0 then (s, some [])
  else
    let r := parse (s.context c).chunkParser (s.inputBuffer c)
    let s := s.modifyConnection c fun conn => { conn with
      inputBuffer := r.buf
      context := { conn.context with chunkParser := r.parser } }
    if r.error.isSome then (s, none) else (s, some r.messages)

/-- `onMessage` up to the loop over the messages. `none` is the return value `false`. -/
def readMessages (env : Environment) (s : RtmpServer) (c : ConnId) :
    RtmpServer × Option (List RtmpMessage) :=
  let received := (s.inputBuffer c).length
  let s := s.modifyContext c fun context => { context with
    receivedBytes := context.receivedBytes + received }
  if (s.context c).handshake = .kHandshakeDone then s.parseMessages c
  else
    let r := process (env.random c) (s.context c).handshake (s.inputBuffer c)
    let s := s.modifyConnection c fun conn => { conn with
      inputBuffer := r.buf
      context := { conn.context with handshake := r.state } }
    if r.error.isSome then (s, none)
    else
      let s := if r.response = [] then s else s.send c r.response
      if r.state = .kHandshakeDone then s.parseMessages c else (s, some [])

/-- The loop of `onMessage`: the first `false` ends it, and the other messages are lost. -/
def handleMessages (env : Environment) (s : RtmpServer) (c : ConnId) :
    List RtmpMessage → RtmpServer × Bool
  | [] => (s, true)
  | message :: messages =>
      match s.handleMessage env c message with
      | (s, false) => (s, false)
      | (s, true) => s.handleMessages env c messages

def onMessage (env : Environment) (s : RtmpServer) (c : ConnId) : RtmpServer × Bool :=
  match s.readMessages env c with
  | (s, none) => (s, false)
  | (s, some messages) => s.handleMessages env c messages

/-- `inputBuffer_.readFd`. -/
def append (s : RtmpServer) (c : ConnId) (data : Bytes) : RtmpServer :=
  s.modifyConnection c fun conn => { conn with inputBuffer := conn.inputBuffer ++ data }

/-- `handleRead` with `RtmpServer::onMessage`. -/
def receive (env : Environment) (s : RtmpServer) (c : ConnId) (data : Bytes) : RtmpServer :=
  match (s.append c data).onMessage env c with
  | (s, true) => s
  | (s, false) => s.shutdown c

end RtmpServer

/-- What the network does to the server. -/
inductive NetEvent where
  | accept
  | receive (c : ConnId) (data : Bytes)
  | close (c : ConnId)

namespace RtmpServer

/-- One event. A connection that is gone receives nothing, and no bytes are no event. -/
def netStep (env : Environment) (s : RtmpServer) : NetEvent → RtmpServer
  | .accept => s.accept
  | .receive c data => if s.live c = true ∧ data ≠ [] then s.receive env c data else s
  | .close c => if s.live c then s.close c else s

def netAfter (env : Environment) (es : List NetEvent) : RtmpServer :=
  run (netStep env) {} es

/-! ### Reading -/

/-- What reading the bytes of a connection comes down to. -/
def Event.IsReading (c : ConnId) : Event → Prop
  | .transport d _ => d = c
  | .respond d _ => d = c
  | _ => False

/-- What happens below the messages of a connection: its bytes are read, or answered. -/
def Reads (env : Environment) (c : ConnId) (s s' : RtmpServer) : Prop :=
  ∃ es, s' = run (step env) s es ∧ ∀ e ∈ es, Event.IsReading c e

section Reading

variable {env : Environment} {s s' s₁ : RtmpServer} {c : ConnId}

theorem Reads.refl (s : RtmpServer) : Reads env c s s := ⟨[], rfl, by simp⟩

theorem Reads.trans (h : Reads env c s s₁) (h' : Reads env c s₁ s') : Reads env c s s' := by
  obtain ⟨es, rfl, hes⟩ := h
  obtain ⟨fs, rfl, hfs⟩ := h'
  refine ⟨es ++ fs, (run_append _ _ _ _).symm, ?_⟩
  intro e he
  rcases List.mem_append.mp he with he | he
  · exact hes e he
  · exact hfs e he

/-- A change of a connection below the messages. -/
theorem reads_modifyConnection {f : Connection → Connection}
    (hf : ∀ conn, ∃ t, f conn = conn.withTransport t) (s : RtmpServer) (c : ConnId) :
    Reads env c s (s.modifyConnection c f) := by
  have hsame : ∃ t, (s.connections c).map f = (s.connections c).map (·.withTransport t) := by
    cases s.connections c with
    | none => exact ⟨⟨.kWaitC0C1, {}, 0, []⟩, rfl⟩
    | some conn =>
        obtain ⟨t, ht⟩ := hf conn
        exact ⟨t, congrArg some ht⟩
  obtain ⟨t, ht⟩ := hsame
  refine ⟨[.transport c t], ?_, by simp [Event.IsReading]⟩
  simp only [run_cons, run_nil, step, modifyConnection, ht]

theorem reads_send (data : Bytes) : Reads env c s (s.send c data) :=
  ⟨[.respond c data], rfl, by simp [Event.IsReading]⟩

theorem reads_append (data : Bytes) : Reads env c s (s.append c data) :=
  reads_modifyConnection (fun conn => ⟨⟨conn.context.handshake, conn.context.chunkParser,
    conn.context.receivedBytes, conn.inputBuffer ++ data⟩, rfl⟩) s c

theorem reads_parseMessages : Reads env c s (s.parseMessages c).1 := by
  unfold parseMessages
  dsimp only
  split
  · exact .refl s
  · split
    all_goals exact reads_modifyConnection (fun conn => ⟨⟨conn.context.handshake, _,
      conn.context.receivedBytes, _⟩, rfl⟩) s c

theorem reads_handshake (s : RtmpServer) (c : ConnId) (r : HandshakeResult) :
    Reads env c s (s.modifyConnection c fun conn => { conn with
      inputBuffer := r.buf
      context := { conn.context with handshake := r.state } }) :=
  reads_modifyConnection (fun conn => ⟨⟨r.state, conn.context.chunkParser,
    conn.context.receivedBytes, r.buf⟩, rfl⟩) s c

theorem reads_readMessages : Reads env c s (s.readMessages env c).1 := by
  have counted : Reads env c s (s.modifyContext c fun context => { context with
      receivedBytes := context.receivedBytes + (s.inputBuffer c).length }) :=
    reads_modifyConnection (fun conn => ⟨⟨conn.context.handshake, conn.context.chunkParser, _,
      conn.inputBuffer⟩, rfl⟩) s c
  unfold readMessages
  dsimp only
  split
  · exact counted.trans reads_parseMessages
  · split
    · exact counted.trans (reads_handshake ..)
    · have answered : ∀ {s₂ : RtmpServer} {r : HandshakeResult}, Reads env c s s₂ →
          Reads env c s (if r.response = [] then s₂ else s₂.send c r.response) := by
        intro s₂ r hs₂
        split
        · exact hs₂
        · exact hs₂.trans (reads_send _)
      split
      · exact (answered (counted.trans (reads_handshake ..))).trans reads_parseMessages
      · exact answered (counted.trans (reads_handshake ..))

/-- Reading is quiet. -/
theorem Reads.quiet (h : Reads env c s s') : Quiet s s' := by
  obtain ⟨es, rfl, hes⟩ := h
  induction es generalizing s with
  | nil => exact .refl s
  | cons e es ih =>
      have hfirst : Quiet s (step env s e) := by
        cases e with
        | transport d t =>
            exact quiet_modifyConnection (f := (·.withTransport t))
              (fun _ => rfl) (fun _ => rfl) (fun _ => rfl) s d
        | respond d data => exact quiet_send s d data
        | accept => exact (hes _ List.mem_cons_self).elim
        | message => exact (hes _ List.mem_cons_self).elim
        | shutdown => exact (hes _ List.mem_cons_self).elim
        | close => exact (hes _ List.mem_cons_self).elim
      exact hfirst.trans (ih fun e he => hes e (List.mem_cons_of_mem _ he))

end Reading

/-! ### Bytes refine messages -/

/-- An event of a connection that neither begins nor ends it. -/
def Event.Concerns (c : ConnId) : Event → Prop
  | .message d _ => d = c
  | .transport d _ => d = c
  | .respond d _ => d = c
  | .shutdown d => d = c
  | .accept => False
  | .close _ => False

section Refinement

variable {env : Environment} {s : RtmpServer} {c : ConnId}

theorem Event.IsReading.concerns {e : Event} (h : Event.IsReading c e) : Event.Concerns c e := by
  cases e with
  | transport => exact h
  | respond => exact h
  | accept => exact h
  | message => exact h.elim
  | shutdown => exact h.elim
  | close => exact h

/-- A live connection stays live while its messages are handled. -/
theorem handleMessage_live (env : Environment) (message : RtmpMessage) (hlive : s.live c = true) :
    (s.handleMessage env c message).1.live c = true :=
  ((handleMessage_cases env s c message hlive).live c).trans hlive

/-- The loop over the messages, with the shutdown that a rejected one leads to. -/
theorem handleMessages_run (env : Environment) (hlive : s.live c = true)
    (messages : List RtmpMessage) :
    ∃ es, (match s.handleMessages env c messages with
        | (s, true) => s
        | (s, false) => s.shutdown c) = run (step env) s es ∧ ∀ e ∈ es, Event.Concerns c e := by
  induction messages generalizing s with
  | nil => exact ⟨[], rfl, by simp⟩
  | cons message messages ih =>
      have hstep : step env s (.message c message) =
          match s.handleMessage env c message with
          | (s, true) => s
          | (s, false) => s.shutdown c := if_pos hlive
      have hlive' := handleMessage_live env message hlive
      unfold handleMessages
      cases hm : s.handleMessage env c message with
      | mk s' ok =>
          rw [hm] at hstep hlive'
          cases ok with
          | false => exact ⟨[.message c message], hstep.symm, by simp [Event.Concerns]⟩
          | true =>
              obtain ⟨es, hes, hconcerns⟩ := ih hlive'
              refine ⟨.message c message :: es, ?_, ?_⟩
              · rw [run_cons, hstep]
                exact hes
              · intro e he
                rcases List.mem_cons.mp he with rfl | he
                · rfl
                · exact hconcerns e he

/-- **Receiving bytes is a run of messages.** The bytes of a live connection are read, the
messages that they complete are handled in order, and the connection is shut down at most
once, at the end. -/
theorem receive_refines (env : Environment) (hlive : s.live c = true) (data : Bytes) :
    ∃ es, s.receive env c data = run (step env) s es ∧ ∀ e ∈ es, Event.Concerns c e := by
  have hread : Reads env c s ((s.append c data).readMessages env c).1 :=
    (reads_append data).trans reads_readMessages
  have hlive' : ((s.append c data).readMessages env c).1.live c = true :=
    (live_congr (hread.quiet.binding c)).trans hlive
  obtain ⟨es, hes, hreading⟩ := hread
  unfold receive onMessage
  cases hm : (s.append c data).readMessages env c with
  | mk s₁ messages =>
      rw [hm] at hes hlive'
      have hes : s₁ = run (step env) s es := hes
      cases messages with
      | none =>
          refine ⟨es ++ [.shutdown c], ?_, ?_⟩
          · rw [run_append, ← hes]
            rfl
          · intro e he
            rcases List.mem_append.mp he with he | he
            · exact (hreading e he).concerns
            · rw [List.mem_singleton.mp he]
              rfl
      | some messages =>
          obtain ⟨fs, hfs, hconcerns⟩ := handleMessages_run env hlive' messages
          refine ⟨es ++ fs, ?_, ?_⟩
          · rw [run_append, ← hes, ← hfs]
          · intro e he
            rcases List.mem_append.mp he with he | he
            · exact (hreading e he).concerns
            · exact hconcerns e he

theorem netStep_refines (env : Environment) (s : RtmpServer) (e : NetEvent) :
    ∃ es, netStep env s e = run (step env) s es := by
  cases e with
  | accept => exact ⟨[.accept], rfl⟩
  | close c => exact ⟨[.close c], rfl⟩
  | receive c data =>
      by_cases h : s.live c = true ∧ data ≠ []
      · obtain ⟨es, hes, -⟩ := receive_refines env h.1 data
        exact ⟨es, (if_pos h).trans hes⟩
      · exact ⟨[], if_neg h⟩

/-- Every run of bytes is a run of messages. -/
theorem netAfter_refines (env : Environment) (es : List NetEvent) :
    ∃ fs, netAfter env es = after env fs := by
  have hrun : ∀ s, ∃ fs, run (netStep env) s es = run (step env) s fs := by
    induction es with
    | nil => exact fun s => ⟨[], rfl⟩
    | cons e es ih =>
        intro s
        obtain ⟨fs, hfs⟩ := netStep_refines env s e
        obtain ⟨gs, hgs⟩ := ih (netStep env s e)
        exact ⟨fs ++ gs, by rw [run_cons, hgs, hfs, run_append]⟩
  exact hrun {}

end Refinement

end RtmpServer

/-! ### What clients send, in bytes -/

namespace Client

/-- C0, C1 and C2. -/
def handshake : Bytes := [kVersion] ++ List.replicate (2 * kHandshakePacketSize) 0

def bytes (messages : List RtmpMessage) : Bytes :=
  messages.flatMap fun message => encodeMessage message kDefaultChunkSize

/-- A command message that no handler accepts. -/
def malformed : RtmpMessage := command 0 [.null]

end Client

end Rmuduo.Rtmp
