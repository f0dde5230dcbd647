/-
Runs of the server, and what one step of a run can do.

An event is one thing that happens on the loop: a connection is accepted or closed, a
complete message is handled, or the bytes below the messages move on. `step` runs the
handlers.

Every handler comes down to a few moves. Most of what happens is `Quiet`: it touches no
session and no connection's role or binding. The others are `becomePublisher`,
`becomePlayer`, `replay`, `media`, `leave` and the arrival and departure of connections.

* `handlePublish_cases`, `handlePlay_cases`, `handleMessage_cases` — what a handler does,
  guards included.
* `step_moves` — a step is a sequence of moves, so an invariant that each move keeps
  holds in every reachable state (`after_invariant`).
-/

import Mathlib.Logic.Relation
import Rmuduo.Lib.System
import Rmuduo.Rtmp.Server

namespace Rmuduo.Rtmp

open Lib

/-! ### Events -/

/-- What is below the messages: handshake, chunk parser, byte counter, unread bytes. -/
structure Transport where
  handshake : HandshakeState
  chunkParser : RtmpChunkParser
  receivedBytes : Nat
  inputBuffer : Bytes

def Connection.withTransport (conn : Connection) (t : Transport) : Connection :=
  { conn with
    inputBuffer := t.inputBuffer
    context := { conn.context with
      handshake := t.handshake
      chunkParser := t.chunkParser
      receivedBytes := t.receivedBytes } }

inductive Event where
  /-- A new connection. -/
  | accept
  /-- A complete message of a connection. -/
  | message (c : ConnId) (message : RtmpMessage)
  /-- Bytes of a connection are read, short of a message. -/
  | transport (c : ConnId) (t : Transport)
  /-- The handshake answers. -/
  | respond (c : ConnId) (response : Bytes)
  /-- The server gives a connection up. -/
  | shutdown (c : ConnId)
  /-- A connection is gone. -/
  | close (c : ConnId)

namespace RtmpServer

/-- One event. Nothing is dispatched for a connection that is gone. -/
def step (env : Environment) (s : RtmpServer) : Event → RtmpServer
  | .accept => s.accept
  | .message c message =>
      if s.live c then
        match s.handleMessage env c message with
        | (s, true) => s
        | (s, false) => s.shutdown c
      else s
  | .transport c t => s.modifyConnection c (·.withTransport t)
  | .respond c response => s.send c response
  | .shutdown c => s.shutdown c
  | .close c => if s.live c then s.close c else s

/-- The server after a run from its start. -/
def after (env : Environment) (es : List Event) : RtmpServer :=
  System.run (step env) {} es

/-! ### Quiet moves -/

/-- What the sessions depend on in a connection. -/
def binding (s : RtmpServer) (c : ConnId) :
    Option (ConnState × ConnectionRole × Option SessionId) :=
  (s.connections c).map fun conn => (conn.state, conn.context.role, conn.context.session)

/-- Sending bytes and asking the callback. -/
def isQuiet : Action → Bool
  | .send _ _ => true
  | .authorize _ _ _ _ _ => true
  | .media _ _ _ _ => false
  | .create _ _ => false

/-- No session changes, and no connection's state, role or binding. -/
structure Quiet (s s' : RtmpServer) : Prop where
  sessions : s'.sessions = s.sessions
  heap : s'.heap = s.heap
  nextSession : s'.nextSession = s.nextSession
  nextConn : s'.nextConn = s.nextConn
  binding : ∀ c, s'.binding c = s.binding c
  log : ∃ actions, s'.log = s.log ++ actions ∧ ∀ a ∈ actions, isQuiet a

theorem Quiet.refl (s : RtmpServer) : Quiet s s :=
  ⟨rfl, rfl, rfl, rfl, fun _ => rfl, [], by simp⟩

theorem Quiet.trans {s₁ s₂ s₃ : RtmpServer} (h : Quiet s₁ s₂) (h' : Quiet s₂ s₃) :
    Quiet s₁ s₃ where
  sessions := h'.sessions.trans h.sessions
  heap := h'.heap.trans h.heap
  nextSession := h'.nextSession.trans h.nextSession
  nextConn := h'.nextConn.trans h.nextConn
  binding c := (h'.binding c).trans (h.binding c)
  log := by
    obtain ⟨a, ha, hqa⟩ := h.log
    obtain ⟨b, hb, hqb⟩ := h'.log
    refine ⟨a ++ b, by rw [hb, ha, List.append_assoc], fun x hx => ?_⟩
    rcases List.mem_append.mp hx with hx | hx
    · exact hqa x hx
    · exact hqb x hx

section Views

variable {s s' : RtmpServer} {c d : ConnId}

theorem connected_eq_binding (s : RtmpServer) (c : ConnId) :
    s.connected c = (s.binding c).any fun b => b.1 = .kConnected := by
  unfold connected binding
  cases s.connections c <;> rfl

theorem live_eq_binding (s : RtmpServer) (c : ConnId) :
    s.live c = (s.binding c).any fun b => b.1 ≠ .kDisconnected := by
  unfold live binding
  cases s.connections c <;> rfl

theorem role_eq_binding (s : RtmpServer) (c : ConnId) :
    (s.context c).role = ((s.binding c).map (·.2.1)).getD .kUnknown := by
  unfold context binding
  cases s.connections c <;> rfl

theorem session_eq_binding (s : RtmpServer) (c : ConnId) :
    (s.context c).session = ((s.binding c).map (·.2.2)).getD none := by
  unfold context binding
  cases s.connections c <;> rfl

theorem connected_congr (h : s'.binding c = s.binding c) : s'.connected c = s.connected c := by
  rw [connected_eq_binding, connected_eq_binding, h]

theorem live_congr (h : s'.binding c = s.binding c) : s'.live c = s.live c := by
  rw [live_eq_binding, live_eq_binding, h]

theorem role_congr (h : s'.binding c = s.binding c) :
    (s'.context c).role = (s.context c).role := by
  rw [role_eq_binding, role_eq_binding, h]

theorem session_congr (h : s'.binding c = s.binding c) :
    (s'.context c).session = (s.context c).session := by
  rw [session_eq_binding, session_eq_binding, h]

theorem live_of_connected (h : s.connected c = true) : s.live c = true := by
  unfold connected at h
  unfold live
  cases hc : s.connections c with
  | none =>
      rw [hc] at h
      cases h
  | some conn =>
      rw [hc] at h
      simp only [decide_eq_true_eq] at h ⊢
      rw [h]
      decide

theorem binding_modifyConnection_ne {f : Connection → Connection} (h : d ≠ c) :
    (s.modifyConnection c f).binding d = s.binding d := by
  simp [binding, modifyConnection, Function.update_of_ne h]

theorem binding_modifyConnection_self {f : Connection → Connection} :
    (s.modifyConnection c f).binding c = (s.connections c).map fun conn =>
      ((f conn).state, (f conn).context.role, (f conn).context.session) := by
  simp [binding, modifyConnection, Option.map_map, Function.comp_def]

end Views

theorem quiet_modifyConnection {f : Connection → Connection} (hstate : ∀ x, (f x).state = x.state)
    (hrole : ∀ x, (f x).context.role = x.context.role)
    (hsession : ∀ x, (f x).context.session = x.context.session) (s : RtmpServer) (c : ConnId) :
    Quiet s (s.modifyConnection c f) where
  sessions := rfl
  heap := rfl
  nextSession := rfl
  nextConn := rfl
  binding d := by
    by_cases hd : d = c
    · subst hd
      rw [binding_modifyConnection_self]
      simp only [hstate, hrole, hsession]
      rfl
    · exact binding_modifyConnection_ne hd
  log := ⟨[], by simp [modifyConnection]⟩

theorem quiet_modifyContext {f : RtmpConnectionContext → RtmpConnectionContext}
    (hrole : ∀ x, (f x).role = x.role) (hsession : ∀ x, (f x).session = x.session)
    (s : RtmpServer) (c : ConnId) : Quiet s (s.modifyContext c f) :=
  quiet_modifyConnection (f := fun conn => { conn with context := f conn.context })
    (fun _ => rfl) (fun x => hrole x.context) (fun x => hsession x.context) s c

theorem quiet_send (s : RtmpServer) (c : ConnId) (data : Bytes) : Quiet s (s.send c data) := by
  unfold send
  split
  · exact ⟨rfl, rfl, rfl, rfl, fun _ => rfl, [.send c data], rfl, by simp [isQuiet]⟩
  · exact .refl s

theorem quiet_sendOnStatus (s : RtmpServer) (c : ConnId) (messageStreamId : UInt32)
    (code description : String) (error : Bool) :
    Quiet s (s.sendOnStatus c messageStreamId code description error) :=
  quiet_send ..

/-! ### Joining a session -/

/-- The permission to publish or play a stream key has been granted to `c`, unless there is
no callback to grant it. -/
def Granted (env : Environment) (log : List Action) (c : ConnId) (streamKey : Bytes)
    (publish : Bool) : Prop :=
  env.authCallback = none ∨ ∃ ticket, Action.authorize c streamKey ticket publish true ∈ log

/-- The answer that the callback gives to the next question. -/
def allows (env : Environment) (s : RtmpServer) (streamKey ticket : Bytes) (publish : Bool) :
    Bool :=
  match env.authCallback with
  | none => true
  | some callback => callback s.authCalls streamKey ticket publish

/-- Asking the callback is quiet, and a grant is on record. -/
theorem authorize_cases {env : Environment} {s s' : RtmpServer} {c : ConnId}
    {streamKey ticket : Bytes} {publish granted : Bool}
    (h : authorize env s c streamKey ticket publish = (s', granted)) :
    Quiet s s' ∧ allows env s streamKey ticket publish = granted ∧
      (granted = true → Granted env s'.log c streamKey publish) := by
  unfold authorize at h
  unfold allows
  cases hcb : env.authCallback with
  | none =>
      rw [hcb] at h
      cases h
      exact ⟨.refl s, rfl, fun _ => .inl hcb⟩
  | some callback =>
      rw [hcb] at h
      cases h
      refine ⟨⟨rfl, rfl, rfl, rfl, fun _ => rfl, _, rfl, by simp [isQuiet]⟩, rfl, fun hg => ?_⟩
      exact .inr ⟨ticket, by simp [record, hg]⟩

/-- The publisher slot of the stream key is free, or `c` holds it. -/
def SlotFree (s : RtmpServer) (streamKey : Bytes) (c : ConnId) : Prop :=
  ∀ sid session, s.sessions streamKey = some sid → s.heap sid = some session →
    session.publisher = none ∨ session.publisher = some c

/-- Join the session of a stream key in a role: `getOrCreateSession`, the session's part,
`setRole` and `bindSession`. -/
def join (s : RtmpServer) (c : ConnId) (streamKey : Bytes) (role : ConnectionRole)
    (enter : RtmpSession → RtmpSession) : RtmpServer :=
  let r := s.getOrCreateSession streamKey
  (r.1.modifySession r.2 enter).modifyContext c fun context => { context with
    role := role
    session := some r.2 }

/-- Joining as the publisher, when the session takes it. -/
def becomePublisher (s : RtmpServer) (c : ConnId) (streamKey : Bytes) : RtmpServer :=
  s.join c streamKey .kPublisher fun session => (session.setPublisher c).1

def becomePlayer (s : RtmpServer) (c : ConnId) (streamKey : Bytes) : RtmpServer :=
  s.join c streamKey .kPlayer (·.addPlayer c)

/-! ### What a step can do -/

/-- One thing that a step does to the sessions. -/
inductive Move (env : Environment) : RtmpServer → RtmpServer → Prop where
  | quiet {s s' : RtmpServer} (h : Quiet s s') : Move env s s'
  | becomePublisher {s : RtmpServer} {c : ConnId} {streamKey : Bytes}
      (live : s.live c = true) (named : streamKey ≠ [])
      (granted : Granted env s.log c streamKey true)
      (free : s.SlotFree streamKey c) : Move env s (s.becomePublisher c streamKey)
  | becomePlayer {s : RtmpServer} {c : ConnId} {streamKey : Bytes}
      (live : s.live c = true) (named : streamKey ≠ [])
      (granted : Granted env s.log c streamKey false) :
      Move env s (s.becomePlayer c streamKey)
  | replay {s : RtmpServer} {c : ConnId} {sid : SessionId} {session : RtmpSession}
      (alive : s.heap sid = some session) (player : c ∈ session.players) (n : UInt32) :
      Move env s (s.replayCachedMessagesToPlayer sid c n)
  | media {s : RtmpServer} {c : ConnId} {sid : SessionId} {session : RtmpSession}
      (live : s.live c = true) (role : (s.context c).role = .kPublisher)
      (bound : (s.context c).session = some sid) (alive : s.heap sid = some session)
      (message : RtmpMessage) (n : UInt32) : Move env s (s.onMediaMessage sid ⟨c, message⟩ n)
  | leave {s : RtmpServer} (c : ConnId) : Move env s (s.detachConnectionFromSession c)
  | shutdown {s : RtmpServer} (c : ConnId) : Move env s (s.shutdown c)
  | accept {s : RtmpServer} : Move env s s.accept
  | close {s : RtmpServer} {c : ConnId} (live : s.live c = true) : Move env s (s.close c)

/-- Moves one after the other. -/
abbrev Moves (env : Environment) : RtmpServer → RtmpServer → Prop :=
  Relation.ReflTransGen (Move env)

/-! ### What the handlers do -/

/-- The stream key and the ticket that a publish or play command asks for: the checks pass
and, with the stream name in place, the context has a stream key. -/
def requestedKey (context : RtmpConnectionContext) (command : RtmpCommandMessage) :
    Option (Bytes × Bytes) :=
  match requestedTarget context command with
  | none => none
  | some target =>
      let streamKey := { context with streamName := target.streamName }.streamKey
      if streamKey = [] then none else some (streamKey, target.ticket)

/-- The stream key under which a publish command is accepted. -/
def Publishes (env : Environment) (s : RtmpServer) (c : ConnId) (command : RtmpCommandMessage)
    (streamKey : Bytes) : Prop :=
  ∃ ticket, requestedKey (s.context c) command = some (streamKey, ticket) ∧
    allows env s streamKey ticket true = true ∧ s.SlotFree streamKey c

/-- The stream key under which a play command is accepted. -/
def Plays (env : Environment) (s : RtmpServer) (c : ConnId) (command : RtmpCommandMessage)
    (streamKey : Bytes) : Prop :=
  ∃ ticket, requestedKey (s.context c) command = some (streamKey, ticket) ∧
    allows env s streamKey ticket false = true

theorem context_modifyContext {s : RtmpServer} {c : ConnId}
    (f : RtmpConnectionContext → RtmpConnectionContext) (h : s.live c = true) :
    (s.modifyContext c f).context c = f (s.context c) := by
  unfold live at h
  unfold context modifyContext modifyConnection
  cases hc : s.connections c with
  | none =>
      rw [hc] at h
      cases h
  | some conn => simp

theorem setPublisher_of_some {s : RtmpServer} {sid : SessionId} {session : RtmpSession}
    (h : s.heap sid = some session) (c : ConnId) :
    s.setPublisher sid c =
      (s.modifySession sid fun x => (x.setPublisher c).1, (session.setPublisher c).2) := by
  unfold setPublisher
  rw [h]

/-- `getOrCreateSession` finds the session of the key. -/
theorem getOrCreateSession_of_some {s : RtmpServer} {streamKey : Bytes} {sid : SessionId}
    (h : s.sessions streamKey = some sid) : s.getOrCreateSession streamKey = (s, sid) := by
  simp [getOrCreateSession, h]

/-- Or it makes one. -/
theorem getOrCreateSession_of_none {s : RtmpServer} {streamKey : Bytes}
    (h : s.sessions streamKey = none) :
    s.getOrCreateSession streamKey =
      ({ s.record [.create s.nextSession streamKey] with
        sessions := Function.update s.sessions streamKey (some s.nextSession)
        heap := Function.update s.heap s.nextSession (some { streamKey := streamKey })
        nextSession := s.nextSession + 1 }, s.nextSession) := by
  simp [getOrCreateSession, h]

/-- `getOrCreateSession` finds the session of the key, or makes one with a free slot. -/
theorem getOrCreateSession_cases (s : RtmpServer) (streamKey : Bytes) :
    (∃ sid, s.sessions streamKey = some sid ∧ s.getOrCreateSession streamKey = (s, sid)) ∨
    (s.sessions streamKey = none ∧
      (s.getOrCreateSession streamKey).2 = s.nextSession ∧
      (s.getOrCreateSession streamKey).1.heap s.nextSession =
        some { streamKey := streamKey }) := by
  cases h : s.sessions streamKey with
  | some sid => exact .inl ⟨sid, rfl, getOrCreateSession_of_some h⟩
  | none =>
      rw [getOrCreateSession_of_none h]
      exact .inr ⟨rfl, rfl, Function.update_self ..⟩

theorem modifySession_of_rejected {s : RtmpServer} {sid : SessionId} {session : RtmpSession}
    (h : s.heap sid = some session) {c : ConnId} (hr : (session.setPublisher c).2 = false) :
    s.modifySession sid (fun x => (x.setPublisher c).1) = s := by
  have hsame : Function.update s.heap sid
      ((s.heap sid).map fun x => (x.setPublisher c).1) = s.heap := by
    rw [h, Option.map_some, RtmpSession.setPublisher_rejects hr, ← h]
    exact Function.update_eq_self sid s.heap
  unfold modifySession
  rw [hsame]

theorem SlotFree.of_quiet {s s' : RtmpServer} (h : Quiet s s') {streamKey : Bytes} {c : ConnId} :
    s'.SlotFree streamKey c ↔ s.SlotFree streamKey c := by
  unfold SlotFree
  rw [h.sessions, h.heap]

/-- The session refuses the publisher and nothing has changed, or the slot was free. -/
theorem setPublisher_cases (s : RtmpServer) (c : ConnId) (streamKey : Bytes) :
    (s.getOrCreateSession streamKey).1.setPublisher (s.getOrCreateSession streamKey).2 c =
        (s, false) ∨
      s.SlotFree streamKey c ∧
        (s.getOrCreateSession streamKey).1.setPublisher (s.getOrCreateSession streamKey).2 c =
          ((s.getOrCreateSession streamKey).1.modifySession (s.getOrCreateSession streamKey).2
            fun x => (x.setPublisher c).1, true) := by
  rcases getOrCreateSession_cases s streamKey with ⟨sid, hkey, hget⟩ | ⟨hkey, hsid, hnew⟩
  · rw [hget]
    dsimp only
    cases hheap : s.heap sid with
    | none => exact .inl (by rw [setPublisher, hheap])
    | some session =>
        rw [setPublisher_of_some hheap]
        cases hr : (session.setPublisher c).2 with
        | false => exact .inl (by rw [modifySession_of_rejected hheap hr])
        | true =>
            refine .inr ⟨fun sid' session' hsid' hheap' => ?_, rfl⟩
            rw [hkey] at hsid'
            cases hsid'
            rw [hheap] at hheap'
            cases hheap'
            exact RtmpSession.setPublisher_accepts.mp hr
  · right
    rw [hsid, setPublisher_of_some hnew]
    refine ⟨fun sid' session' hsid' => ?_, rfl⟩
    rw [hkey] at hsid'
    cases hsid'

/-- A publish command is quietly refused, or makes `c` the publisher of the stream key it
asks for. -/
theorem handlePublish_cases (env : Environment) (s : RtmpServer) (c : ConnId)
    (command : RtmpCommandMessage) (hlive : s.live c = true) :
    Quiet s (s.handlePublish env c command).1 ∨
    ∃ streamKey s₁, Publishes env s c command streamKey ∧ streamKey ≠ [] ∧ Quiet s s₁ ∧
      Granted env s₁.log c streamKey true ∧
      Quiet (s₁.becomePublisher c streamKey) (s.handlePublish env c command).1 := by
  unfold handlePublish
  cases htarget : requestedTarget (s.context c) command with
  | none => exact .inl (.refl s)
  | some target =>
      dsimp only
      obtain ⟨s₀, hs₀⟩ : ∃ s₀, s₀ = s.modifyContext c fun context => { context with
          streamName := target.streamName
          publishType := requestedType context command } := ⟨_, rfl⟩
      rw [← hs₀]
      have hquiet : Quiet s s₀ := by
        rw [hs₀]
        exact quiet_modifyContext (fun _ => by rfl) (fun _ => by rfl) s c
      have hsame : allows env s₀ = allows env s := by
        rw [hs₀]
        rfl
      have hnamed : requestedKey (s.context c) command =
          if (s₀.context c).streamKey = [] then none
          else some ((s₀.context c).streamKey, target.ticket) := by
        rw [requestedKey, htarget, hs₀, context_modifyContext _ hlive]
        rfl
      by_cases hempty : (s₀.context c).streamKey = []
      · rw [if_pos hempty]
        exact .inl hquiet
      · rw [if_neg hempty]
        rw [if_neg hempty] at hnamed
        unfold authorizePublish
        cases hauth : s₀.authorize env c (s₀.context c).streamKey target.ticket true with
        | mk s₁ granted =>
            obtain ⟨hasked, hallows, hgranted⟩ := authorize_cases hauth
            cases granted with
            | false => exact .inl ((hquiet.trans hasked).trans (quiet_sendOnStatus ..))
            | true =>
                dsimp only
                rcases setPublisher_cases s₁ c (s₀.context c).streamKey with hset | ⟨hfree, hset⟩
                · rw [hset]
                  exact .inl ((hquiet.trans hasked).trans (quiet_sendOnStatus ..))
                · rw [hset]
                  refine .inr ⟨(s₀.context c).streamKey, s₁, ⟨target.ticket, hnamed, ?_, ?_⟩,
                    hempty, hquiet.trans hasked, hgranted rfl, quiet_sendOnStatus ..⟩
                  · rw [← hsame]
                    exact hallows
                  · exact (SlotFree.of_quiet (hquiet.trans hasked)).mp hfree

/-- A play command is quietly refused, or makes `c` a player of the stream key it asks for,
which then gets what the session has cached. -/
theorem handlePlay_cases (env : Environment) (s : RtmpServer) (c : ConnId)
    (command : RtmpCommandMessage) (hlive : s.live c = true) :
    (Quiet s (s.handlePlay env c command).1 ∧ ∀ streamKey, ¬ Plays env s c command streamKey) ∨
    ∃ streamKey s₁ s₂ n, Plays env s c command streamKey ∧ streamKey ≠ [] ∧ Quiet s s₁ ∧
      Granted env s₁.log c streamKey false ∧
      Quiet (s₁.becomePlayer c streamKey) s₂ ∧
      (s.handlePlay env c command).1 =
        s₂.replayCachedMessagesToPlayer (s₁.getOrCreateSession streamKey).2 c n := by
  unfold handlePlay Plays
  cases htarget : requestedTarget (s.context c) command with
  | none =>
      refine .inl ⟨.refl s, ?_⟩
      rintro streamKey ⟨ticket, hrequested, -⟩
      rw [requestedKey, htarget] at hrequested
      cases hrequested
  | some target =>
      dsimp only
      obtain ⟨s₀, hs₀⟩ : ∃ s₀, s₀ = s.modifyContext c fun context => { context with
          streamName := target.streamName } := ⟨_, rfl⟩
      rw [← hs₀]
      have hquiet : Quiet s s₀ := by
        rw [hs₀]
        exact quiet_modifyContext (fun _ => by rfl) (fun _ => by rfl) s c
      have hsame : allows env s₀ = allows env s := by
        rw [hs₀]
        rfl
      have hnamed : requestedKey (s.context c) command =
          if (s₀.context c).streamKey = [] then none
          else some ((s₀.context c).streamKey, target.ticket) := by
        rw [requestedKey, htarget, hs₀, context_modifyContext _ hlive]
      by_cases hempty : (s₀.context c).streamKey = []
      · rw [if_pos hempty]
        rw [if_pos hempty] at hnamed
        refine .inl ⟨hquiet, ?_⟩
        rintro streamKey ⟨ticket, hrequested, -⟩
        rw [hnamed] at hrequested
        cases hrequested
      · rw [if_neg hempty]
        rw [if_neg hempty] at hnamed
        unfold authorizePlay
        cases hauth : s₀.authorize env c (s₀.context c).streamKey target.ticket false with
        | mk s₁ granted =>
            obtain ⟨hasked, hallows, hgranted⟩ := authorize_cases hauth
            rw [hsame] at hallows
            cases granted with
            | false =>
                refine .inl ⟨(hquiet.trans hasked).trans (quiet_sendOnStatus ..), ?_⟩
                rintro streamKey ⟨ticket, hrequested, hallowed⟩
                rw [hnamed] at hrequested
                cases hrequested
                rw [hallows] at hallowed
                cases hallowed
            | true =>
                exact .inr ⟨(s₀.context c).streamKey, s₁, _, _, ⟨target.ticket, hnamed, hallows⟩,
                  hempty, hquiet.trans hasked, hgranted rfl, quiet_sendOnStatus .., rfl⟩

/-- A media message is ignored, or goes to the session that its publisher is bound to. -/
theorem handleMediaMessage_cases (s : RtmpServer) (c : ConnId) (message : RtmpMessage) :
    (s.handleMediaMessage c message).1 = s ∨
    ∃ sid session n, (s.context c).role = .kPublisher ∧ (s.context c).session = some sid ∧
      s.heap sid = some session ∧
      (s.handleMediaMessage c message).1 = s.onMediaMessage sid ⟨c, message⟩ n := by
  unfold handleMediaMessage
  split
  · exact .inl rfl
  · rename_i hrole
    cases hlock : s.lock c with
    | none => exact .inl rfl
    | some sid =>
        unfold lock at hlock
        obtain ⟨hsession, halive⟩ := Option.filter_eq_some_iff.mp hlock
        obtain ⟨session, hheap⟩ := Option.isSome_iff_exists.mp halive
        exact .inr ⟨sid, session, _, by simpa using hrole, hsession, hheap, rfl⟩

theorem quiet_handleConnect (s : RtmpServer) (c : ConnId) (command : RtmpCommandMessage) :
    Quiet s (s.handleConnect c command).1 := by
  unfold handleConnect
  split
  · exact .refl s
  · dsimp only
    split
    · exact .refl s
    · split
      · exact .refl s
      · exact (((quiet_modifyContext (fun _ => by rfl) (fun _ => by rfl) s c).trans
          (quiet_send ..)).trans (quiet_send ..)).trans ((quiet_send ..).trans (quiet_send ..))

theorem quiet_handleCreateStream (s : RtmpServer) (c : ConnId) (command : RtmpCommandMessage) :
    Quiet s (s.handleCreateStream c command).1 :=
  (quiet_modifyContext (fun _ => by rfl) (fun _ => by rfl) s c).trans (quiet_send ..)

theorem quiet_setInChunkSize (s : RtmpServer) (c : ConnId) (chunkSize : UInt32) :
    Quiet s (s.setInChunkSize c chunkSize) :=
  quiet_modifyContext (fun _ => by rfl) (fun _ => by rfl) s c

/-- The command that a message carries. -/
def commandOf (message : RtmpMessage) : Option RtmpCommandMessage :=
  if message.typeId ≠ kMessageTypeCommandAmf0 then none
  else
    match decodeCommandMessageAmf0 message with
    | .error _ => none
    | .ok command => some command

/-- A message that carries a command goes to the handler of commands. -/
theorem handleMessage_command (env : Environment) {s : RtmpServer} {c : ConnId}
    {message : RtmpMessage} {command : RtmpCommandMessage}
    (h : commandOf message = some command) :
    s.handleMessage env c message = s.handleCommandMessage env c command := by
  unfold commandOf at h
  split at h
  · cases h
  · rename_i htype
    have htype : message.typeId = kMessageTypeCommandAmf0 := not_not.mp htype
    have hother : ¬ (message.typeId = kMessageTypeSetChunkSize ∧ 4 ≤ message.payload.length) := by
      rintro ⟨hsize, -⟩
      rw [htype] at hsize
      cases hsize
    unfold handleMessage
    rw [if_neg hother, if_pos htype]
    cases hdecode : decodeCommandMessageAmf0 message with
    | error e =>
        rw [hdecode] at h
        cases h
    | ok decoded =>
        rw [hdecode] at h
        cases h
        rfl

/-- A message that goes to `handleMediaMessage`. -/
def isMedia (message : RtmpMessage) : Prop :=
  message.typeId = kMessageTypeDataAmf0 ∨ message.typeId = kMessageTypeAudio ∨
    message.typeId = kMessageTypeVideo

instance (message : RtmpMessage) : Decidable (isMedia message) := by
  unfold isMedia; infer_instance

theorem commandOf_of_typeId {m : RtmpMessage} (h : m.typeId ≠ kMessageTypeCommandAmf0) :
    commandOf m = none := by
  simp [commandOf, h]

theorem commandOf_of_isMedia {m : RtmpMessage} (h : isMedia m) : commandOf m = none := by
  apply commandOf_of_typeId
  rcases h with h | h | h <;> rw [h] <;> decide

/-- What handling a message of `c` can do to the server. -/
inductive MessageEffect (env : Environment) (s : RtmpServer) (c : ConnId)
    (message : RtmpMessage) (s' : RtmpServer) : Prop where
  | quiet (h : Quiet s s')
  | publish {command : RtmpCommandMessage} {streamKey : Bytes} {s₁ : RtmpServer}
      (hcommand : commandOf message = some command) (hname : command.name = ascii "publish")
      (accepted : Publishes env s c command streamKey) (named : streamKey ≠ [])
      (asked : Quiet s s₁) (granted : Granted env s₁.log c streamKey true)
      (joined : Quiet (s₁.becomePublisher c streamKey) s')
  | play {command : RtmpCommandMessage} {streamKey : Bytes} {s₁ s₂ : RtmpServer} {n : UInt32}
      (hcommand : commandOf message = some command) (hname : command.name = ascii "play")
      (accepted : Plays env s c command streamKey) (named : streamKey ≠ [])
      (asked : Quiet s s₁) (granted : Granted env s₁.log c streamKey false)
      (joined : Quiet (s₁.becomePlayer c streamKey) s₂)
      (replayed : s' = s₂.replayCachedMessagesToPlayer (s₁.getOrCreateSession streamKey).2 c n)
  | leave {command : RtmpCommandMessage} (hcommand : commandOf message = some command)
      (hname : command.name = ascii "deleteStream" ∨ command.name = ascii "closeStream")
      (accepted : s.deleteCheck c command = .accepted)
      (left : s' = s.detachConnectionFromSession c)
  | media {sid : SessionId} {session : RtmpSession} {n : UInt32} (hmedia : isMedia message)
      (role : (s.context c).role = .kPublisher) (bound : (s.context c).session = some sid)
      (alive : s.heap sid = some session) (sent : s' = s.onMediaMessage sid ⟨c, message⟩ n)

theorem handleMessage_cases (env : Environment) (s : RtmpServer) (c : ConnId)
    (message : RtmpMessage) (hlive : s.live c = true) :
    MessageEffect env s c message (s.handleMessage env c message).1 := by
  unfold handleMessage
  split
  · exact .quiet (quiet_setInChunkSize ..)
  · split
    · rename_i htype
      cases hdecode : decodeCommandMessageAmf0 message with
      | error e => exact .quiet (.refl s)
      | ok command =>
          have hcommand : commandOf message = some command := by
            simp [commandOf, htype, hdecode]
          dsimp only
          unfold handleCommandMessage
          split
          · exact .quiet (quiet_handleConnect ..)
          · split
            · exact .quiet (quiet_handleCreateStream ..)
            · split
              · rename_i hname
                rcases handlePublish_cases env s c command hlive with h | ⟨streamKey, s₁, h⟩
                · exact .quiet h
                · exact .publish hcommand hname h.1 h.2.1 h.2.2.1 h.2.2.2.1 h.2.2.2.2
              · split
                · rename_i hname
                  rcases handlePlay_cases env s c command hlive with h | ⟨streamKey, s₁, s₂, n, h⟩
                  · exact .quiet h.1
                  · exact .play hcommand hname h.1 h.2.1 h.2.2.1 h.2.2.2.1 h.2.2.2.2.1 h.2.2.2.2.2
                · split
                  · rename_i hname
                    unfold handleDeleteStream
                    cases hcheck : s.deleteCheck c command with
                    | ignored => exact .quiet (.refl s)
                    | mismatch => exact .quiet (.refl s)
                    | accepted => exact .leave hcommand hname hcheck rfl
                  · exact .quiet (.refl s)
    · split
      · rename_i hmedia
        rcases handleMediaMessage_cases s c message with
          h | ⟨sid, session, n, hrole, hbound, hheap, h⟩
        · exact .quiet (by rw [h]; exact .refl s)
        · exact .media hmedia hrole hbound hheap h
      · exact .quiet (.refl s)

/-! ### Runs of moves -/

theorem becomePlayer_heap {s : RtmpServer} {c : ConnId} {streamKey : Bytes} {session : RtmpSession}
    (h : (s.becomePlayer c streamKey).heap (s.getOrCreateSession streamKey).2 = some session) :
    c ∈ session.players := by
  have hheap : (s.becomePlayer c streamKey).heap (s.getOrCreateSession streamKey).2 =
      ((s.getOrCreateSession streamKey).1.heap (s.getOrCreateSession streamKey).2).map
        (·.addPlayer c) := Function.update_self ..
  rw [hheap] at h
  obtain ⟨old, -, rfl⟩ := Option.map_eq_some_iff.mp h
  exact RtmpSession.mem_addPlayer.mpr (.inr rfl)

theorem replay_move (env : Environment) {s : RtmpServer} {sid : SessionId} {c : ConnId} {n : UInt32}
    (h : ∀ session, s.heap sid = some session → c ∈ session.players) :
    Move env s (s.replayCachedMessagesToPlayer sid c n) := by
  cases hheap : s.heap sid with
  | none =>
      refine .quiet ?_
      unfold replayCachedMessagesToPlayer
      rw [hheap]
      exact .refl s
  | some session => exact .replay hheap (h session hheap) n

theorem MessageEffect.moves {env : Environment} {s s' : RtmpServer} {c : ConnId}
    {message : RtmpMessage} (hlive : s.live c = true) (h : MessageEffect env s c message s') :
    Moves env s s' := by
  cases h with
  | quiet h => exact .single (.quiet h)
  | publish hcommand hname accepted named asked granted joined =>
      obtain ⟨ticket, -, -, free⟩ := accepted
      have hlive₁ := (live_congr (asked.binding c)).trans hlive
      exact ((Relation.ReflTransGen.single (.quiet asked)).tail
        (.becomePublisher hlive₁ named granted ((SlotFree.of_quiet asked).mpr free))).tail
        (.quiet joined)
  | play hcommand hname accepted named asked granted joined replayed =>
      have hlive₁ := (live_congr (asked.binding c)).trans hlive
      rw [replayed]
      refine (((Relation.ReflTransGen.single (.quiet asked)).tail
        (.becomePlayer hlive₁ named granted)).tail (.quiet joined)).tail (replay_move env ?_)
      intro session hsession
      rw [joined.heap] at hsession
      exact becomePlayer_heap hsession
  | leave hcommand hname accepted left => exact left ▸ .single (.leave c)
  | media hmedia role bound alive sent =>
      exact sent ▸ .single (.media hlive role bound alive message _)

theorem step_message_handled {env : Environment} {s s₁ : RtmpServer} {c : ConnId}
    {message : RtmpMessage} (hlive : s.live c = true)
    (h : s.handleMessage env c message = (s₁, true)) : step env s (.message c message) = s₁ := by
  simp only [step, if_pos hlive, h]

theorem step_message_refused {env : Environment} {s s₁ : RtmpServer} {c : ConnId}
    {message : RtmpMessage} (hlive : s.live c = true)
    (h : s.handleMessage env c message = (s₁, false)) :
    step env s (.message c message) = s₁.shutdown c := by
  simp only [step, if_pos hlive, h]

/-- A message is handled, and its connection is shut down if the handler says so. -/
theorem step_message_eq (env : Environment) {s : RtmpServer} {c : ConnId} (message : RtmpMessage)
    (hlive : s.live c = true) :
    step env s (.message c message) = (s.handleMessage env c message).1 ∨
      step env s (.message c message) = (s.handleMessage env c message).1.shutdown c := by
  cases h : (s.handleMessage env c message).2 with
  | true => exact .inl (step_message_handled hlive (Prod.ext rfl h))
  | false => exact .inr (step_message_refused hlive (Prod.ext rfl h))

theorem step_message (env : Environment) {s : RtmpServer} {c : ConnId} (message : RtmpMessage)
    (hlive : s.live c = true) :
    ∃ s₁, MessageEffect env s c message s₁ ∧
      (step env s (.message c message) = s₁ ∨ step env s (.message c message) = s₁.shutdown c) :=
  ⟨_, handleMessage_cases env s c message hlive, step_message_eq env message hlive⟩

theorem step_message_dead (env : Environment) {s : RtmpServer} {c : ConnId} (message : RtmpMessage)
    (hdead : ¬ s.live c = true) : step env s (.message c message) = s :=
  if_neg hdead

/-- A step is a sequence of moves. -/
theorem step_moves (env : Environment) (s : RtmpServer) (e : Event) :
    Moves env s (step env s e) := by
  cases e with
  | accept => exact .single .accept
  | transport c t =>
      exact .single (.quiet (quiet_modifyConnection (f := (·.withTransport t))
        (fun _ => rfl) (fun _ => rfl) (fun _ => rfl) s c))
  | respond c response => exact .single (.quiet (quiet_send s c response))
  | shutdown c => exact .single (.shutdown c)
  | close c =>
      dsimp only [step]
      split
      · rename_i h
        exact .single (.close h)
      · exact .refl
  | message c message =>
      by_cases hlive : s.live c = true
      · obtain ⟨s₁, heffect, hstep | hstep⟩ := step_message env message hlive
        · exact hstep ▸ heffect.moves hlive
        · exact hstep ▸ (heffect.moves hlive).tail (.shutdown c)
      · rw [step_message_dead env message hlive]

theorem moves_invariant {env : Environment} {I : RtmpServer → Prop}
    (keep : ∀ s s', Move env s s' → I s → I s') {s s' : RtmpServer} (h : Moves env s s')
    (hs : I s) : I s' := by
  induction h with
  | refl => exact hs
  | tail _ hmove ih => exact keep _ _ hmove ih

theorem run_moves (env : Environment) (s : RtmpServer) (es : List Event) :
    Moves env s (System.run (step env) s es) := by
  induction es generalizing s with
  | nil => exact .refl
  | cons e es ih => exact (step_moves env s e).trans (ih (step env s e))

/-- An invariant that every move keeps holds after every run. -/
theorem after_invariant {env : Environment} {I : RtmpServer → Prop}
    (keep : ∀ s s', Move env s s' → I s → I s') (init : I {}) (es : List Event) :
    I (after env es) :=
  System.run_invariant_always (fun s e => moves_invariant keep (step_moves env s e)) es init

end RtmpServer

/-! ### What clients send -/

namespace Client

/-- A command message on a message stream. -/
def command (messageStreamId : UInt32) (values : List Amf0Value) : RtmpMessage :=
  let payload := appendValues values
  { messageLength := payload.length.toUInt32
    typeId := kMessageTypeCommandAmf0
    messageStreamId := messageStreamId
    chunkStreamId := kChunkStreamIdCommand
    payload := payload }

def connect (app : Bytes) : RtmpMessage :=
  command 0 [.string (ascii "connect"), .number 0, .object [(ascii "app", .string app)]]

def createStream : RtmpMessage :=
  command 0 [.string (ascii "createStream"), .number 0, .null]

/-- A command that names a stream: `publish` or `play`. -/
def request (name : String) (streamId : UInt32) (streamName : Bytes) : RtmpMessage :=
  command streamId [.string (ascii name), .number 0, .null, .string streamName]

def deleteStream (streamId : UInt32) : RtmpMessage :=
  command streamId [.string (ascii "deleteStream"), .number 0, .null]

/-- A video frame. -/
def video (streamId : UInt32) (payload : Bytes) : RtmpMessage :=
  { messageLength := payload.length.toUInt32
    typeId := kMessageTypeVideo
    messageStreamId := streamId
    chunkStreamId := 6
    payload := payload }

/-- A connection comes, names its app and opens stream 1. -/
def opening (c : ConnId) (app : Bytes) : List Event :=
  [.accept, .message c (connect app), .message c createStream]

/-- It then publishes a stream. -/
def publishing (c : ConnId) (app streamName : Bytes) : List Event :=
  opening c app ++ [.message c (request "publish" 1 streamName)]

end Client

end Rmuduo.Rtmp
