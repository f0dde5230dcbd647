/-
What the handlers leave of the bytes below them.

A connection's handshake, chunk parser and unread bytes are its `transport`. Handlers touch
none of it, except that `SetChunkSize` sets the chunk size of the connection's own parser;
and reading bytes depends on nothing else (`Transport.read`).

* `handleMessage_transport` — what handling a message leaves of a transport.
* `readMessages_transport` — reading the bytes of a connection is a function of its
  transport.
* `receive_transport_ne` — receiving bytes leaves the other connections alone.
* `netStep_cases` — what an event is to a connection.
-/

import Rmuduo.Rtmp.ChunkSizeChange
import Rmuduo.Rtmp.OnMessage

namespace Rmuduo.Rtmp

open Lib System

/-! ### Transports -/

def Connection.transport (conn : Connection) : Transport where
  handshake := conn.context.handshake
  chunkParser := conn.context.chunkParser
  receivedBytes := conn.context.receivedBytes
  inputBuffer := conn.inputBuffer

namespace Transport

/-- The chunk size that a message sets. -/
def resized (t : Transport) (message : RtmpMessage) : Transport :=
  { t with chunkParser :=
      t.chunkParser.setInChunkSize (sizeAfter t.chunkParser.inChunkSize message) }

def append (t : Transport) (data : Bytes) : Transport :=
  { t with inputBuffer := t.inputBuffer ++ data }

/-- `parseMessages`, as far as the transport goes. -/
def parse (t : Transport) : Transport × Option (List RtmpMessage) :=
  if t.inputBuffer.length = 0 then (t, some [])
  else
    let r := Rtmp.parse t.chunkParser t.inputBuffer
    ({ t with inputBuffer := r.buf, chunkParser := r.parser },
      if r.error.isSome then none else some r.messages)

/-- The handshake and the parser behind it. -/
def shakeAndParse (random : Fin 1528 → UInt8) (t : Transport) :
    Transport × Option (List RtmpMessage) :=
  if t.handshake = .kHandshakeDone then t.parse
  else
    let r := process random t.handshake t.inputBuffer
    let t := { t with inputBuffer := r.buf, handshake := r.state }
    if r.error.isSome then (t, none)
    else if r.state = .kHandshakeDone then t.parse
    else (t, some [])

/-- `readMessages`, as far as the transport goes. -/
def read (random : Fin 1528 → UInt8) (t : Transport) : Transport × Option (List RtmpMessage) :=
  ({ t with receivedBytes := t.receivedBytes + t.inputBuffer.length } : Transport).shakeAndParse
    random

/-- What has arrived is counted. -/
def counted (t : Transport) : Transport :=
  { t with receivedBytes := t.receivedBytes + t.inputBuffer.length }

/-- The handshake has taken its bytes. -/
def handshaken (random : Fin 1528 → UInt8) (t : Transport) : Transport :=
  { t with
    inputBuffer := (process random t.handshake t.inputBuffer).buf
    handshake := (process random t.handshake t.inputBuffer).state }

/-- What `read` does: it parses where the handshake is done; else the handshake comes first, and
the parser behind it once the handshake is done. An error of the handshake leaves it waiting. -/
theorem read_cases (random : Fin 1528 → UInt8) (t : Transport) :
    (t.handshake = .kHandshakeDone ∧ t.read random = t.counted.parse) ∨
    (t.handshake ≠ .kHandshakeDone ∧ (t.counted.handshaken random).handshake = .kHandshakeDone ∧
      t.read random = (t.counted.handshaken random).parse) ∨
    (t.handshake ≠ .kHandshakeDone ∧ (t.counted.handshaken random).handshake ≠ .kHandshakeDone ∧
      t.read random = (t.counted.handshaken random,
        if (process random t.handshake t.inputBuffer).error.isSome then none else some [])) := by
  have hread : t.read random = t.counted.shakeAndParse random := rfl
  by_cases hdone : t.handshake = .kHandshakeDone
  · exact .inl ⟨hdone, hread.trans (if_pos hdone)⟩
  · have hshaken : t.read random =
        if (process random t.handshake t.inputBuffer).error.isSome then
          (t.counted.handshaken random, none)
        else if (process random t.handshake t.inputBuffer).state = .kHandshakeDone then
          (t.counted.handshaken random).parse
        else (t.counted.handshaken random, some []) := hread.trans (if_neg hdone)
    by_cases herror : (process random t.handshake t.inputBuffer).error.isSome
    · refine .inr (.inr ⟨hdone, ?_, ?_⟩)
      · change (process random t.handshake t.inputBuffer).state ≠ .kHandshakeDone
        rwa [(process_of_error (Option.isSome_iff_ne_none.mp herror)).1]
      · rw [hshaken, if_pos herror, if_pos herror]
    · rw [if_neg herror] at hshaken
      by_cases hnow : (process random t.handshake t.inputBuffer).state = .kHandshakeDone
      · exact .inr (.inl ⟨hdone, hnow, hshaken.trans (if_pos hnow)⟩)
      · refine .inr (.inr ⟨hdone, hnow, ?_⟩)
        rw [hshaken, if_neg hnow, if_neg herror]

end Transport

namespace RtmpServer

/-- A view of a connection, if there is one. -/
def viewed {α : Type} (view : Connection → α) (s : RtmpServer) (c : ConnId) : Option α :=
  (s.connections c).map view

def transport (s : RtmpServer) (c : ConnId) : Option Transport :=
  (s.connections c).map Connection.transport

/-- The view shows nothing of a connection but what a command leaves as it is: the transport and
the chunk size. -/
def Below {α : Type} (view : Connection → α) : Prop :=
  ∀ conn state context, context.handshake = conn.context.handshake →
    context.chunkParser = conn.context.chunkParser →
    context.receivedBytes = conn.context.receivedBytes →
    context.inChunkSize = conn.context.inChunkSize →
    view { conn with state := state, context := context } = view conn

theorem below_transport : Below Connection.transport := by
  intro conn state context hhandshake hparser hreceived _
  simp only [Connection.transport, hhandshake, hparser, hreceived]

section Views

variable {α : Type} {view : Connection → α} {s s' : RtmpServer} {c d : ConnId} {t : Transport}

theorem viewed_of_connections (h : s'.connections = s.connections) :
    s'.viewed view c = s.viewed view c := by
  unfold viewed
  rw [h]

theorem viewed_modifyConnection_ne {f : Connection → Connection} (h : c ≠ d) :
    (s.modifyConnection d f).viewed view c = s.viewed view c := by
  simp [viewed, modifyConnection, Function.update_of_ne h]

/-- A change of a connection, seen as a change of a view. -/
theorem viewed_modifyConnection {f : Connection → Connection} {g : α → α}
    (h : ∀ conn, view (f conn) = g (view conn)) :
    (s.modifyConnection c f).viewed view c = (s.viewed view c).map g := by
  unfold viewed modifyConnection
  dsimp only
  rw [Function.update_self, Option.map_map, Option.map_map]
  congr 1
  funext conn
  exact h conn

/-- A change of a connection that does not show. -/
theorem viewed_modifyConnection_same {f : Connection → Connection}
    (h : ∀ conn, view (f conn) = view conn) :
    (s.modifyConnection d f).viewed view c = s.viewed view c := by
  by_cases hcd : c = d
  · subst hcd
    rw [viewed_modifyConnection (g := id) h, Option.map_id]
    rfl
  · exact viewed_modifyConnection_ne hcd

theorem viewed_modifyContext (hview : Below view)
    {f : RtmpConnectionContext → RtmpConnectionContext}
    (hhandshake : ∀ x, (f x).handshake = x.handshake)
    (hparser : ∀ x, (f x).chunkParser = x.chunkParser)
    (hreceived : ∀ x, (f x).receivedBytes = x.receivedBytes)
    (hsize : ∀ x, (f x).inChunkSize = x.inChunkSize) :
    (s.modifyContext d f).viewed view c = s.viewed view c :=
  viewed_modifyConnection_same fun conn => hview conn conn.state _ (hhandshake _) (hparser _)
    (hreceived _) (hsize _)

theorem transport_of_connections (h : s'.connections = s.connections) :
    s'.transport c = s.transport c :=
  viewed_of_connections h

theorem transport_modifyConnection {f : Connection → Connection} {g : Transport → Transport}
    (h : ∀ conn, (f conn).transport = g conn.transport) :
    (s.modifyConnection c f).transport c = (s.transport c).map g :=
  viewed_modifyConnection h

theorem send_connections (data : Bytes) : (s.send d data).connections = s.connections := by
  unfold send
  split <;> rfl

theorem sendOnStatus_connections {messageStreamId : UInt32} {code description : String}
    {error : Bool} :
    (s.sendOnStatus d messageStreamId code description error).connections = s.connections :=
  send_connections _

theorem authorize_connections (env : Environment) (s : RtmpServer) (d : ConnId)
    (streamKey ticket : Bytes) (publish : Bool) :
    (authorize env s d streamKey ticket publish).1.connections = s.connections := by
  unfold authorize
  split <;> rfl

theorem setPublisher_connections (s : RtmpServer) (sid : SessionId) (d : ConnId) :
    (s.setPublisher sid d).1.connections = s.connections := by
  unfold RtmpServer.setPublisher
  split <;> rfl

theorem replay_connections {sid : SessionId} {n : UInt32} :
    (s.replayCachedMessagesToPlayer sid d n).connections = s.connections := by
  obtain ⟨actions, h⟩ := replay_frame s sid d n
  rw [h]
  rfl

theorem onMediaMessage_connections {sid : SessionId} {media : Media} {n : UInt32} :
    (s.onMediaMessage sid media n).connections = s.connections := by
  unfold onMediaMessage broadcastMessage
  split <;> rfl

end Views

/-! ### Handlers -/

section Handlers

variable {α : Type} {view : Connection → α} {env : Environment} {s : RtmpServer} {c d : ConnId}
  {command : RtmpCommandMessage}

theorem handleConnect_viewed (hview : Below view) :
    (s.handleConnect d command).1.viewed view c = s.viewed view c := by
  unfold handleConnect
  split
  · rfl
  · dsimp only
    split
    · rfl
    · split
      · rfl
      · have hsent : ∀ (s₁ : RtmpServer) (window bandwidth size : UInt32),
            ((((s₁.sendWindowAcknowledgementSize d window).sendSetPeerBandwidth d
              bandwidth).sendSetChunkSize d size).sendConnectSuccess d command).connections =
              s₁.connections := by
          intro s₁ window bandwidth size
          simp only [sendConnectSuccess, sendSetChunkSize, sendSetPeerBandwidth,
            sendWindowAcknowledgementSize, sendCommand, sendControl, send_connections]
        exact (viewed_of_connections (hsent _ _ _ _)).trans
          (viewed_modifyContext hview (fun _ => by rfl) (fun _ => by rfl) (fun _ => by rfl)
            fun _ => by rfl)

theorem handleCreateStream_viewed (hview : Below view) :
    (s.handleCreateStream d command).1.viewed view c = s.viewed view c := by
  unfold handleCreateStream
  exact (viewed_of_connections (send_connections _)).trans
    (viewed_modifyContext hview (fun _ => rfl) (fun _ => rfl) (fun _ => rfl) (fun _ => rfl))

theorem handlePublish_viewed (hview : Below view) :
    (s.handlePublish env d command).1.viewed view c = s.viewed view c := by
  unfold handlePublish
  split
  · rfl
  · rename_i target htarget
    have hnamed : (s.modifyContext d fun context => { context with
        streamName := target.streamName
        publishType := requestedType context command }).viewed view c = s.viewed view c :=
      viewed_modifyContext hview (fun _ => rfl) (fun _ => rfl) (fun _ => rfl) (fun _ => rfl)
    dsimp only
    generalize s.modifyContext d _ = s₁ at hnamed ⊢
    split
    · exact hnamed
    · have hasked := authorize_connections env s₁ d (s₁.context d).streamKey target.ticket true
      unfold authorizePublish
      split
      · rename_i s₂ hauth
        rw [hauth] at hasked
        exact (viewed_of_connections (sendOnStatus_connections.trans hasked)).trans hnamed
      · rename_i s₂ hauth
        rw [hauth] at hasked
        have hset := setPublisher_connections (s₂.getOrCreateSession (s₁.context d).streamKey).1
          (s₂.getOrCreateSession (s₁.context d).streamKey).2 d
        have hjoined : ((s₂.getOrCreateSession (s₁.context d).streamKey).1.setPublisher
            (s₂.getOrCreateSession (s₁.context d).streamKey).2 d).1.viewed view c =
            s.viewed view c :=
          (viewed_of_connections
            (hset.trans (getOrCreateSession_connections.trans hasked))).trans hnamed
        split
        · rename_i s₃ hs₃
          rw [hs₃] at hjoined
          exact (viewed_of_connections sendOnStatus_connections).trans hjoined
        · rename_i s₃ hs₃
          rw [hs₃] at hjoined
          exact ((viewed_of_connections sendOnStatus_connections).trans
            (viewed_modifyContext hview (fun _ => by rfl) (fun _ => by rfl) (fun _ => by rfl)
              fun _ => by rfl)).trans hjoined

theorem handlePlay_viewed (hview : Below view) :
    (s.handlePlay env d command).1.viewed view c = s.viewed view c := by
  unfold handlePlay
  split
  · rfl
  · rename_i target htarget
    have hnamed : (s.modifyContext d fun context => { context with
        streamName := target.streamName }).viewed view c = s.viewed view c :=
      viewed_modifyContext hview (fun _ => rfl) (fun _ => rfl) (fun _ => rfl) (fun _ => rfl)
    dsimp only
    generalize s.modifyContext d _ = s₁ at hnamed ⊢
    split
    · exact hnamed
    · have hasked := authorize_connections env s₁ d (s₁.context d).streamKey target.ticket false
      unfold authorizePlay
      split
      · rename_i s₂ hauth
        rw [hauth] at hasked
        exact (viewed_of_connections (sendOnStatus_connections.trans hasked)).trans hnamed
      · rename_i s₂ hauth
        rw [hauth] at hasked
        have hjoined : ((s₂.getOrCreateSession (s₁.context d).streamKey).1.modifySession
            (s₂.getOrCreateSession (s₁.context d).streamKey).2 (·.addPlayer d)).viewed view c =
            s.viewed view c :=
          (viewed_of_connections (getOrCreateSession_connections.trans hasked)).trans hnamed
        exact ((viewed_of_connections
          (replay_connections.trans sendOnStatus_connections)).trans
            (viewed_modifyContext hview (fun _ => by rfl) (fun _ => by rfl) (fun _ => by rfl)
              fun _ => by rfl)).trans hjoined

theorem handleDeleteStream_viewed (hview : Below view) :
    (s.handleDeleteStream d command).1.viewed view c = s.viewed view c := by
  unfold handleDeleteStream
  split
  · rfl
  · rfl
  · unfold detachConnectionFromSession
    dsimp only
    exact (viewed_modifyContext hview (fun _ => by rfl) (fun _ => by rfl) (fun _ => by rfl)
      fun _ => by rfl).trans (viewed_of_connections (cleanupConnection_connections s d))

/-- Commands do not show in such a view. -/
theorem handleCommandMessage_viewed (hview : Below view) :
    (s.handleCommandMessage env d command).1.viewed view c = s.viewed view c := by
  unfold handleCommandMessage
  split_ifs
  · exact handleConnect_viewed hview
  · exact handleCreateStream_viewed hview
  · exact handlePublish_viewed hview
  · exact handlePlay_viewed hview
  · exact handleDeleteStream_viewed hview
  · rfl

end Handlers

/-! ### Messages -/

section Messages

variable {env : Environment} {s : RtmpServer} {c d : ConnId} {message : RtmpMessage}

/-- No other message shows in such a view. -/
theorem handleMessage_viewed {α : Type} {view : Connection → α} (hview : Below view)
    (h : ¬ Resizes message) :
    (s.handleMessage env d message).1.viewed view c = s.viewed view c := by
  unfold handleMessage
  split_ifs with hsize
  · exact absurd hsize h
  · split
    · rfl
    · exact handleCommandMessage_viewed hview
  · unfold handleMediaMessage
    split_ifs
    · rfl
    · split
      · rfl
      · exact viewed_of_connections onMediaMessage_connections
  · rfl

theorem handleMessage_resizes (h : Resizes message) :
    (s.handleMessage env c message).1 = s.setInChunkSize c (readUint32BE message.payload) := by
  unfold Resizes at h
  unfold handleMessage
  rw [if_pos h]

/-- A message leaves the transport of its connection as it is, but for the chunk size that it
sets. -/
theorem handleMessage_transport :
    (s.handleMessage env c message).1.transport c = (s.transport c).map (·.resized message) := by
  by_cases hsize : Resizes message
  · rw [handleMessage_resizes hsize]
    apply transport_modifyConnection
    intro conn
    rw [Transport.resized, sizeAfter_of_resizes hsize]
    rfl
  · have hid : (fun t : Transport => t.resized message) = id := by
      funext t
      rw [Transport.resized, sizeAfter_of_not_resizes hsize]
      rfl
    rw [hid, Option.map_id]
    exact handleMessage_viewed below_transport hsize

theorem handleMessage_viewed_ne {α : Type} {view : Connection → α} (hview : Below view)
    (env : Environment) (s : RtmpServer) (message : RtmpMessage) (h : c ≠ d) :
    (s.handleMessage env d message).1.viewed view c = s.viewed view c := by
  by_cases hsize : Resizes message
  · rw [handleMessage_resizes hsize]
    exact viewed_modifyConnection_ne h
  · exact handleMessage_viewed hview hsize

theorem shutdown_viewed {α : Type} {view : Connection → α} (hview : Below view) :
    (s.shutdown d).viewed view c = s.viewed view c := by
  refine viewed_modifyConnection_same fun conn => ?_
  split
  · exact hview conn _ _ rfl rfl rfl rfl
  · rfl

theorem close_viewed {α : Type} {view : Connection → α} (hview : Below view) :
    (s.close d).viewed view c = s.viewed view c :=
  (viewed_of_connections (cleanupConnection_connections _ d)).trans
    (viewed_modifyConnection_same fun conn => hview conn _ _ rfl rfl rfl rfl)

theorem shutdown_transport : (s.shutdown d).transport c = s.transport c :=
  shutdown_viewed below_transport

theorem close_transport : (s.close d).transport c = s.transport c :=
  close_viewed below_transport

/-- A step of one connection does not show in a view of the others. -/
theorem step_viewed_ne {α : Type} {view : Connection → α} (hview : Below view) {e : Event}
    (he : Event.Concerns d e) (h : c ≠ d) :
    (step env s e).viewed view c = s.viewed view c := by
  cases e with
  | accept => exact he.elim
  | close => exact he.elim
  | transport d' t =>
      cases he
      exact viewed_modifyConnection_ne h
  | respond d' data =>
      cases he
      exact viewed_of_connections (send_connections data)
  | shutdown d' => exact shutdown_viewed hview
  | message d' message =>
      cases he
      have hm := handleMessage_viewed_ne hview env s message h
      dsimp only [step]
      split
      · split
        · rename_i s' hhandled
          rwa [hhandled] at hm
        · rename_i s' hhandled
          rw [hhandled] at hm
          exact (shutdown_viewed hview).trans hm
      · rfl

theorem receive_viewed_ne {α : Type} {view : Connection → α} (hview : Below view)
    (env : Environment) {data : Bytes} (hlive : s.live d = true) (h : c ≠ d) :
    (s.receive env d data).viewed view c = s.viewed view c := by
  obtain ⟨es, hes, hconcerns⟩ := receive_refines env hlive data
  have hrun : ∀ s : RtmpServer, (run (step env) s es).viewed view c = s.viewed view c := by
    clear hes
    induction es with
    | nil => exact fun _ => rfl
    | cons e es ih =>
        intro s
        have hrest := ih (fun e' he' => hconcerns e' (List.mem_cons_of_mem _ he')) (step env s e)
        exact hrest.trans (step_viewed_ne hview (hconcerns e List.mem_cons_self) h)
  rw [hes]
  exact hrun s

theorem receive_transport_ne (env : Environment) {data : Bytes} (hlive : s.live d = true)
    (h : c ≠ d) : (s.receive env d data).transport c = s.transport c :=
  receive_viewed_ne below_transport env hlive h

end Messages

/-! ### Reading -/

section Reading

variable {env : Environment} {s : RtmpServer} {c : ConnId} {t : Transport}

theorem context_of_transport (h : s.transport c = some t) :
    (s.context c).handshake = t.handshake ∧ (s.context c).chunkParser = t.chunkParser ∧
      (s.context c).receivedBytes = t.receivedBytes ∧ s.inputBuffer c = t.inputBuffer := by
  obtain ⟨conn, hc, rfl⟩ := Option.map_eq_some_iff.mp h
  unfold context inputBuffer
  rw [hc]
  exact ⟨rfl, rfl, rfl, rfl⟩

theorem append_transport (h : s.transport c = some t) (data : Bytes) :
    (s.append c data).transport c = some (t.append data) := by
  have hmap : (s.append c data).transport c = (s.transport c).map (·.append data) :=
    transport_modifyConnection fun _ => rfl
  rw [hmap, h]
  rfl

theorem parseMessages_transport (h : s.transport c = some t) :
    (s.parseMessages c).1.transport c = some t.parse.1 ∧ (s.parseMessages c).2 = t.parse.2 := by
  obtain ⟨-, hparser, -, hbuf⟩ := context_of_transport h
  unfold parseMessages Transport.parse
  rw [hparser, hbuf]
  dsimp only
  split_ifs
  · exact ⟨h, rfl⟩
  all_goals
    refine ⟨?_, rfl⟩
    rw [transport_modifyConnection (g := fun u => { u with
      inputBuffer := (parse t.chunkParser t.inputBuffer).buf
      chunkParser := (parse t.chunkParser t.inputBuffer).parser }) fun _ => rfl, h]
    rfl

/-- Reading the bytes of a connection depends on its transport, and changes nothing else of
it. -/
theorem readMessages_transport (env : Environment) (h : s.transport c = some t) :
    (s.readMessages env c).1.transport c = some (t.read (env.random c)).1 ∧
      (s.readMessages env c).2 = (t.read (env.random c)).2 := by
  obtain ⟨-, -, -, hlen⟩ := context_of_transport h
  have hcounted : (s.modifyContext c fun context => { context with
      receivedBytes := context.receivedBytes + (s.inputBuffer c).length }).transport c =
      some { t with receivedBytes := t.receivedBytes + t.inputBuffer.length } := by
    rw [modifyContext, transport_modifyConnection (g := fun u => { u with
      receivedBytes := u.receivedBytes + (s.inputBuffer c).length }) fun _ => rfl, h, hlen]
    rfl
  unfold readMessages Transport.read
  dsimp only
  generalize s.modifyContext c _ = s₁ at hcounted ⊢
  generalize ({ t with receivedBytes := t.receivedBytes + t.inputBuffer.length } :
    Transport) = t₁ at hcounted ⊢
  obtain ⟨hhandshake, -, -, hbuf⟩ := context_of_transport hcounted
  unfold Transport.shakeAndParse
  rw [hhandshake, hbuf]
  dsimp only
  by_cases hdone : t₁.handshake = .kHandshakeDone
  · rw [if_pos hdone, if_pos hdone]
    exact parseMessages_transport hcounted
  · rw [if_neg hdone, if_neg hdone]
    generalize process (env.random c) t₁.handshake t₁.inputBuffer = r
    have hshaken : (s₁.modifyConnection c fun conn => { conn with
        inputBuffer := r.buf
        context := { conn.context with handshake := r.state } }).transport c =
        some { t₁ with inputBuffer := r.buf, handshake := r.state } := by
      rw [transport_modifyConnection (g := fun u => { u with
        inputBuffer := r.buf
        handshake := r.state }) fun _ => rfl, hcounted]
      rfl
    by_cases herror : r.error.isSome
    · rw [if_pos herror, if_pos herror]
      exact ⟨hshaken, rfl⟩
    · have hanswered : ∀ s₂ : RtmpServer, (if r.response = [] then s₂
          else s₂.send c r.response).transport c = s₂.transport c := by
        intro s₂
        split
        · rfl
        · exact transport_of_connections (send_connections r.response)
      rw [if_neg herror, if_neg herror]
      split
      · exact parseMessages_transport ((hanswered _).trans hshaken)
      · exact ⟨(hanswered _).trans hshaken, rfl⟩

end Reading

/-! ### Events -/

/-- The event delivers nothing to the connection. -/
def BringsNothing (c : ConnId) (s : RtmpServer) (e : NetEvent) : Prop :=
  ∀ data, e = .receive c data → s.live c = true → data = []

/-- What an event is to a connection: it receives bytes, or it begins, or nothing of what is
below the messages changes. -/
theorem netStep_cases (env : Environment) (s : RtmpServer) (c : ConnId) (e : NetEvent) :
    (∃ data, e = .receive c data ∧ s.live c = true ∧ data ≠ [] ∧
      netStep env s e = s.receive env c data) ∨
    (BringsNothing c s e ∧ c = s.nextConn ∧ (netStep env s e).connections c = some {}) ∨
    (BringsNothing c s e ∧ ∀ {α : Type} {view : Connection → α}, Below view →
      (netStep env s e).viewed view c = s.viewed view c) := by
  cases e with
  | accept =>
      have hnothing : BringsNothing c s .accept := by
        intro data he
        cases he
      by_cases hnew : c = s.nextConn
      · exact .inr (.inl ⟨hnothing, hnew, by simp [netStep, accept, hnew]⟩)
      · refine .inr (.inr ⟨hnothing, fun _ => ?_⟩)
        simp [netStep, accept, viewed, Function.update_of_ne hnew]
  | close d =>
      refine .inr (.inr ⟨?_, fun hview => ?_⟩)
      · intro data he
        cases he
      · rw [netStep]
        split
        · exact close_viewed hview
        · rfl
  | receive d data =>
      by_cases harrives : s.live d = true ∧ data ≠ []
      · have hstep : netStep env s (.receive d data) = s.receive env d data := if_pos harrives
        by_cases hd : c = d
        · subst hd
          exact .inl ⟨data, rfl, harrives.1, harrives.2, hstep⟩
        · refine .inr (.inr ⟨?_, fun hview => ?_⟩)
          · intro data' he
            cases he
            exact absurd rfl hd
          · rw [hstep]
            exact receive_viewed_ne hview env harrives.1 hd
      · have hstep : netStep env s (.receive d data) = s := if_neg harrives
        refine .inr (.inr ⟨?_, fun _ => by rw [hstep]⟩)
        intro data' he hlive
        cases he
        by_contra hdata
        exact harrives ⟨hlive, hdata⟩

end RtmpServer

end Rmuduo.Rtmp
