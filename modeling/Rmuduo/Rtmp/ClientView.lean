/-
What the server tells its clients, over a whole run (`rtmp/RtmpConnection.cc`, `rtmp/RtmpServer.cc`,
`rtmp/RtmpSession.cc`, `rtmp/RtmpHandshake.cc`).

What goes to a connection is written by three parties: the handshake while bytes are read, the
handlers of the connection's own messages, and the sessions that it plays, at the messages of
others. Here it is told what all of this adds up to.

* `Wired` — what the server keeps and sends is carried by the chunk format, and its players have
  had the answer of their handshake.
* `Tells` — what has been written to a connection: at most one answer of the handshake, and then
  whole messages, with one `_result` for every request that has been handled.
* `told_netAfter` — so it is after every run.
-/

import Rmuduo.Rtmp.HandshakeSegments
import Rmuduo.Rtmp.OutputStream

namespace Rmuduo.Rtmp

open Lib System RtmpServer

/-! ### Reading a written stream -/

/-- **A written stream is read to its end** from every position of it, in any segments. -/
theorem Sending.feed {c : UInt32} {p : RtmpChunkParser} {ms : List RtmpMessage} {seg : Bytes}
    {segs : List Bytes} (hc : 1 ≤ c.toNat) (h : Sending c p (seg :: segs).flatten ms) :
    (Rtmp.feed p [] (seg :: segs)).messages = ms ∧ (Rtmp.feed p [] (seg :: segs)).buf = [] ∧
      (Rtmp.feed p [] (seg :: segs)).error = none := by
  obtain ⟨herror, hrest, hmessages⟩ := h.drain hc
  have quiet : QuietCuts p seg segs := by
    apply quietCuts_of_positions (Q := fun p buf => ∃ ms, Sending c p buf ms)
    · rintro p buf used p' r hread ⟨ms, h⟩
      cases ms with
      | nil =>
          cases h
          cases hread.symm.trans (readChunk_nil p)
      | cons m ms =>
          obtain ⟨used', p'', r', hitem, hnext⟩ := h.read hc
          obtain ⟨rfl, rfl, rfl⟩ := Reading.item.inj (hitem.symm.trans hread)
          exact hnext.elim (fun h => ⟨_, h.2⟩) (fun h => ⟨_, h.2⟩)
    · rintro p front tail ⟨ms, h⟩
      exact h.quiet
    · exact ⟨ms, h⟩
  have same : settled (chunkReader.drain p ([] ++ seg)) =
      settled (chunkReader.drain (shift (fun _ => 0) p) ([] ++ seg)) := by rw [shift_zero]
  obtain ⟨hbuf, hfail, -, hiff⟩ := feed_displaced segs seg same
  have hwhole := (hiff.mpr (driftFree_of_quietCuts segs p ([] ++ seg) quiet)).2
  rw [List.nil_append, ← List.flatten_cons] at hbuf hfail hwhole
  exact ⟨hwhole.trans hmessages, hbuf.trans hrest, hfail.trans herror⟩

/-! ### The handshake's part -/

section Handshake

variable {random : Fin 1528 → UInt8} {t : Transport}

/-- A round of the handshake answers when it leaves C0 and C1 behind, and then alone. -/
theorem process_answers (random : Fin 1528 → UInt8) (state : HandshakeState) (buf : Bytes) :
    ((process random state buf).response = [] ∧
      ((process random state buf).state = .kWaitC0C1 ↔ state = .kWaitC0C1)) ∨
    (state = .kWaitC0C1 ∧ (process random state buf).state ≠ .kWaitC0C1 ∧
      (process random state buf).error = none ∧ kC0C1Size ≤ buf.length ∧
      (process random state buf).response = buildS0S1S2 random (buf.drop 1)) := by
  have hwaits (buf response : Bytes) : (processC2 buf response).state ≠ .kWaitC0C1 := by
    unfold processC2
    split <;> simp
  cases state with
  | kWaitC0C1 =>
      unfold process
      dsimp only
      split_ifs with hshort hversion
      · exact .inl ⟨rfl, Iff.rfl⟩
      · exact .inl ⟨rfl, Iff.rfl⟩
      · exact .inr ⟨rfl, hwaits _ _, processC2_error _, Nat.le_of_not_lt hshort,
          Handshaking.processC2_response _ _⟩
  | kWaitC2 =>
      refine .inl ⟨Handshaking.processC2_response _ _, ?_⟩
      simp only [reduceCtorEq, iff_false]
      exact hwaits _ _
  | kSendS0S1S2 => exact .inl ⟨rfl, Iff.rfl⟩
  | kHandshakeDone => exact .inl ⟨rfl, Iff.rfl⟩

theorem parse_handshake : t.parse.1.handshake = t.handshake := by
  unfold Transport.parse
  split <;> rfl

theorem read_handshake : (t.read random).1.handshake =
    (process random t.handshake t.inputBuffer).state := by
  rcases Transport.read_cases random t with ⟨hdone, hread⟩ | ⟨-, -, hread⟩ | ⟨-, -, hread⟩
  · rw [hread, parse_handshake, hdone]
    exact hdone
  · rw [hread, parse_handshake]
    rfl
  · rw [hread]
    rfl

end Handshake

namespace RtmpServer

theorem parseMessages_log (s : RtmpServer) (c : ConnId) : (s.parseMessages c).1.log = s.log := by
  unfold parseMessages
  dsimp only
  split_ifs <;> rfl

theorem send_log (s : RtmpServer) (c : ConnId) (data : Bytes) :
    (s.send c data).log = s.log ++ if s.connected c then [.send c data] else [] := by
  unfold send
  split
  · rfl
  · exact (List.append_nil _).symm

theorem modifyConnection_connected {s : RtmpServer} {c d : ConnId} {f : Connection → Connection}
    (state : ∀ conn, (f conn).state = conn.state) :
    (s.modifyConnection c f).connected d = s.connected d := by
  unfold RtmpServer.connected modifyConnection
  by_cases hd : d = c
  · subst hd
    simp only [Function.update_self]
    cases s.connections d with
    | none => rfl
    | some conn => simp [state]
  · simp only [Function.update_of_ne hd]

/-- Reading writes the answer of the handshake, if there is one. -/
theorem readMessages_log (env : Environment) {s : RtmpServer} {c : ConnId} {t : Transport}
    (h : s.transport c = some t) :
    (s.readMessages env c).1.log = s.log ++
      if (process (env.random c) t.handshake t.inputBuffer).response ≠ [] ∧ s.connected c = true then
        [.send c (process (env.random c) t.handshake t.inputBuffer).response] else [] := by
  obtain ⟨hhandshake, -, -, hbuf⟩ := context_of_transport h
  have hcounted : (s.modifyContext c fun context => { context with
      receivedBytes := context.receivedBytes + (s.inputBuffer c).length }).transport c =
      some t.counted := by
    rw [modifyContext, transport_modifyConnection (g := fun u => { u with
      receivedBytes := u.receivedBytes + (s.inputBuffer c).length }) fun _ => rfl, h, hbuf]
    rfl
  have hconnected : (s.modifyContext c fun context => { context with
      receivedBytes := context.receivedBytes + (s.inputBuffer c).length }).connected c =
      s.connected c := modifyContext_connected
  have hlog : (s.modifyContext c fun context => { context with
      receivedBytes := context.receivedBytes + (s.inputBuffer c).length }).log = s.log := rfl
  have hfails : (process (env.random c) t.handshake t.inputBuffer).error ≠ none →
      (process (env.random c) t.handshake t.inputBuffer).response = [] := by
    intro herror
    rcases process_answers (env.random c) t.handshake t.inputBuffer
      with ⟨hnone, -⟩ | ⟨-, -, hsound, -⟩
    · exact hnone
    · exact absurd hsound herror
  have hdone : t.handshake = .kHandshakeDone →
      (process (env.random c) t.handshake t.inputBuffer).response = [] := by
    intro hdone
    rw [hdone]
    rfl
  unfold readMessages
  dsimp only
  generalize s.modifyContext c _ = s₁ at hcounted hconnected hlog ⊢
  obtain ⟨hhandshake₁, -, -, hbuf₁⟩ := context_of_transport hcounted
  have hhandshake₁ : (s₁.context c).handshake = t.handshake := hhandshake₁
  have hbuf₁ : s₁.inputBuffer c = t.inputBuffer := hbuf₁
  rw [hhandshake₁, hbuf₁]
  generalize process (env.random c) t.handshake t.inputBuffer = r at hfails hdone ⊢
  have hstill : (s₁.modifyConnection c fun conn => { conn with
      inputBuffer := r.buf
      context := { conn.context with handshake := r.state } }).connected c = s.connected c := by
    refine (modifyConnection_connected ?_).trans hconnected
    exact fun _ => rfl
  have hsame : (s₁.modifyConnection c fun conn => { conn with
      inputBuffer := r.buf
      context := { conn.context with handshake := r.state } }).log = s.log := hlog
  generalize s₁.modifyConnection c _ = s₂ at hstill hsame ⊢
  split
  · rename_i hnow
    rw [parseMessages_log, hlog, if_neg fun h => h.1 (hdone hnow), List.append_nil]
  · split
    · rename_i herror
      rw [if_neg fun h => h.1 (hfails (Option.isSome_iff_ne_none.mp herror)), List.append_nil]
      exact hsame
    · have hanswered : (if r.response = [] then s₂ else s₂.send c r.response).log = s.log ++
          if r.response ≠ [] ∧ s.connected c = true then [.send c r.response] else [] := by
        by_cases hnone : r.response = []
        · rw [if_pos hnone, if_neg fun h => h.1 hnone, List.append_nil, hsame]
        · rw [if_neg hnone, send_log, hstill, hsame]
          simp [hnone]
      split
      · rw [parseMessages_log]
        exact hanswered
      · exact hanswered

/-! ### What holds in every state -/

/-- The handshake of the connection is beyond C0 and C1. -/
def Greeted (s : RtmpServer) (q : ConnId) : Prop :=
  ∃ t, s.transport q = some t ∧ t.handshake ≠ .kWaitC0C1

/-- What the server sends is carried by the chunk format, and goes to those whose handshake has
been answered. -/
structure Wired (s : RtmpServer) : Prop where
  sound : Sound s
  caches : s.EverySession CachesProper
  sizes : ∀ c, (s.context c).outChunkSize = kDefaultChunkSize
  sane : ∀ c t, s.transport c = some t → t.Sane
  players : ∀ sid session, s.heap sid = some session → ∀ q ∈ session.players, s.Greeted q

section Handling

variable {env : Environment} {s s' : RtmpServer} {c q : ConnId} {message : RtmpMessage}

theorem Greeted.congr (h : s.Greeted q) (transport : s'.transport q = s.transport q) :
    s'.Greeted q := by
  rwa [Greeted, transport]

theorem greeted_congr (transport : s'.transport q = s.transport q) :
    s'.Greeted q ↔ s.Greeted q :=
  ⟨fun h => h.congr transport.symm, fun h => h.congr transport⟩

theorem greeted_handleMessage : (s.handleMessage env c message).1.Greeted q ↔ s.Greeted q := by
  by_cases hq : q = c
  · subst hq
    unfold Greeted
    rw [handleMessage_transport]
    cases s.transport q with
    | none => simp
    | some t =>
        simp only [Option.map_some, Option.some.injEq, exists_eq_left']
        exact Iff.rfl
  · unfold Greeted
    rw [show (s.handleMessage env c message).1.transport q = s.transport q from
      handleMessage_viewed_ne below_transport env s message hq]

theorem cachesProper_afterMedia {media : Media} {session : RtmpSession}
    (hcarried : Carried media.message) (hmedia : isMedia media.message)
    (h : CachesProper session) : CachesProper (s.afterMedia media session) := by
  intro m hm
  rcases RtmpSession.mem_cacheMediaMessage (show m ∈ (session.cacheMediaMessage media).cachedMessages
    from hm) with rfl | hold
  · exact ⟨hcarried, hmedia⟩
  · exact h m hold

/-- The caches keep what is carried. -/
theorem caches_handleMessage (h : s.EverySession CachesProper) (hlive : s.live c = true)
    (hcarried : Carried message) : (s.handleMessage env c message).1.EverySession CachesProper := by
  have hnew (streamKey : Bytes) : CachesProper { streamKey := streamKey } := by
    intro media hmedia
    cases hmedia
  have hquiet {s s' : RtmpServer} (hs : s.EverySession CachesProper) (hq : Quiet s s') :
      s'.EverySession CachesProper := by
    unfold EverySession
    rw [hq.heap]
    exact hs
  cases handleMessage_cases env s c message hlive with
  | quiet hq => exact hquiet h hq
  | publish _ _ _ _ asked _ joined =>
      refine hquiet ((hquiet h asked).join (hnew _) fun x hx media hmedia => ?_) joined
      exact hx media (RtmpSession.cachedMessages_setPublisher hmedia)
  | @play _ _ s₁ s₂ n _ _ _ _ asked _ joined replayed =>
      obtain ⟨actions, heq⟩ := replay_frame s₂ _ c n
      rw [replayed, heq]
      have hjoined : s₂.EverySession CachesProper := by
        refine hquiet ((hquiet h asked).join (hnew _) fun x hx media hmedia => ?_) joined
        rw [x.addPlayer_cachedMessages] at hmedia
        exact hx media hmedia
      exact hjoined
  | leave _ _ _ left =>
      rw [left]
      have hcleaned : (s.cleanupConnection c).EverySession CachesProper := by
        refine h.cleanupConnection (fun role d x hx media hmedia => ?_) c
        rw [cleaned_cachedMessages] at hmedia
        exact hx media hmedia
      exact hcleaned
  | media hmedia _ _ alive sent =>
      rw [sent, onMediaMessage_eq alive]
      intro sid session hsid
      obtain ⟨x, hx, rfl⟩ := modifySession_heap.mp hsid
      split
      · exact cachesProper_afterMedia hcarried hmedia (h _ _ hx)
      · exact h _ _ hx

/-- A message makes nobody a player but the connection that it came from. -/
theorem players_handleMessage (hlive : s.live c = true) {sid : SessionId} {session' : RtmpSession}
    (h : (s.handleMessage env c message).1.heap sid = some session') (hq : q ∈ session'.players) :
    q = c ∨ ∃ sid session, s.heap sid = some session ∧ q ∈ session.players := by
  have hjoin {s : RtmpServer} {streamKey : Bytes} {role : ConnectionRole}
      {enter : RtmpSession → RtmpSession} {y : RtmpSession}
      (henter : ∀ x : RtmpSession, q ∈ (enter x).players → q = c ∨ q ∈ x.players)
      (hy : (s.join c streamKey role enter).heap sid = some y) (hqy : q ∈ y.players) :
      q = c ∨ ∃ sid session, s.heap sid = some session ∧ q ∈ session.players := by
    obtain ⟨x, hx, rfl⟩ := modifySession_heap.mp hy
    have hqx : q = c ∨ q ∈ x.players := by
      split at hqy
      · exact henter x hqy
      · exact .inr hqy
    rcases getOrCreateSession_heap_cases hx with hs | ⟨-, rfl⟩
    · exact hqx.imp_right fun hqx => ⟨sid, x, hs, hqx⟩
    · exact hqx.imp_right fun hqx => by cases hqx
  cases handleMessage_cases env s c message hlive with
  | quiet hquiet => exact .inr ⟨sid, session', hquiet.heap ▸ h, hq⟩
  | publish _ _ _ _ asked _ joined =>
      rw [joined.heap] at h
      rw [← asked.heap]
      refine hjoin (fun x hx => .inr ?_) h hq
      rwa [x.setPublisher_players] at hx
  | @play _ _ s₁ s₂ n _ _ _ _ asked _ joined replayed =>
      obtain ⟨actions, heq⟩ := replay_frame s₂ _ c n
      rw [replayed, heq] at h
      have h : s₂.heap sid = some session' := h
      rw [joined.heap] at h
      rw [← asked.heap]
      exact hjoin (fun x hx => (RtmpSession.mem_addPlayer.mp hx).symm) h hq
  | leave _ _ _ left =>
      rw [left] at h
      obtain ⟨x, hx, hcase⟩ := cleanupConnection_heap.mp
        (show (s.cleanupConnection c).heap sid = some session' from h)
      refine .inr ⟨sid, x, hx, ?_⟩
      split at hcase
      · rw [hcase.1] at hq
        exact (mem_cleaned_players.mp hq).1
      · exact hcase ▸ hq
  | media _ _ _ alive sent =>
      rw [sent, onMediaMessage_eq alive] at h
      obtain ⟨x, hx, rfl⟩ := modifySession_heap.mp h
      refine .inr ⟨sid, x, hx, ?_⟩
      split at hq
      · have hkept := (RtmpSession.mem_dropDisconnected.mp hq).1
        rwa [RtmpSession.cacheMediaMessage_players] at hkept
      · exact hq

theorem sizes_handleMessage (hcaches : s.EverySession CachesProper)
    (hsizes : ∀ c, (s.context c).outChunkSize = kDefaultChunkSize) (d : ConnId) :
    ((s.handleMessage env c message).1.context d).outChunkSize = kDefaultChunkSize := by
  rw [← hsizes d]
  by_cases hmedia : isMedia message
  · have hsame : (s.handleMessage env c message).1.connections = s.connections := by
      rcases handleMessage_broadcast env (hsizes c) hmedia with h | ⟨sid, session, -, h⟩
      · rw [h]
      · rw [h, onMediaMessage_connections]
    rw [outChunkSize_eq_viewed, outChunkSize_eq_viewed, viewed_of_connections hsame]
  · obtain ⟨sayings, hsaid, -⟩ := answers_handleMessage env hcaches (hsizes c) hmedia
    exact hsaid.outChunkSize d

/-- **Handling a message** keeps the server wired. -/
theorem Wired.handleMessage (h : Wired s) (env : Environment) (hlive : s.live c = true)
    (hgreeted : s.Greeted c) (hcarried : Carried message) : Wired (s.handleMessage env c message).1 where
  sound := moves_invariant (fun _ _ hmove hs => hs.move hmove)
    ((handleMessage_cases env s c message hlive).moves hlive) h.sound
  caches := caches_handleMessage h.caches hlive hcarried
  sizes := sizes_handleMessage h.caches h.sizes
  sane d t ht := by
    by_cases hd : d = c
    · subst hd
      rw [handleMessage_transport] at ht
      obtain ⟨u, hu, rfl⟩ := Option.map_eq_some_iff.mp ht
      have hsane := h.sane d u hu
      exact ⟨hsane.bounded, hsane.waits, hsane.short⟩
    · refine h.sane d t ?_
      rw [← ht]
      exact (handleMessage_viewed_ne below_transport env s message hd).symm
  players sid session hsid q hq := by
    apply greeted_handleMessage.mpr
    rcases players_handleMessage hlive hsid hq with rfl | ⟨sid', session', hsid', hq'⟩
    · exact hgreeted
    · exact h.players sid' session' hsid' q hq'

end Handling

/-! ### What has been written -/

/-- The message streams that messages open. -/
def openedAll : List RtmpMessage → UInt32
  | [] => 0
  | message :: messages => openedBy message + openedAll messages

/-- The `_result`s that messages call for, when `streamId` is the next message stream. -/
def resultsTo : UInt32 → List RtmpMessage → List RtmpCommandMessage
  | _, [] => []
  | streamId, message :: messages =>
      (resultTo streamId message).toList ++ resultsTo (streamId + openedBy message) messages

theorem openedAll_concat (messages : List RtmpMessage) (message : RtmpMessage) :
    openedAll (messages ++ [message]) = openedAll messages + openedBy message := by
  induction messages with
  | nil => simp [openedAll]
  | cons m messages ih => simp [openedAll, ih, UInt32.add_assoc]

theorem resultsTo_concat (streamId : UInt32) (messages : List RtmpMessage) (message : RtmpMessage) :
    resultsTo streamId (messages ++ [message]) =
      resultsTo streamId messages ++ (resultTo (streamId + openedAll messages) message).toList := by
  induction messages generalizing streamId with
  | nil => simp [resultsTo, openedAll]
  | cons m messages ih =>
      rw [List.cons_append, resultsTo, ih, resultsTo, List.append_assoc]
      simp [openedAll, UInt32.add_assoc]

/-- What has been written to `q`, of which `messages` have been handled: at most one answer of the
handshake, and then whole messages. -/
structure Tells (env : Environment) (q : ConnId) (responses : List Bytes) (sayings : List Saying)
    (messages : List RtmpMessage) (s : RtmpServer) : Prop where
  written : writtenTo q s.log = responses.map (.send q) ++ sayings.map (·.action q)
  response : ∀ r ∈ responses, ∃ c1, kHandshakePacketSize ≤ c1.length ∧
    r = buildS0S1S2 (env.random q) c1
  once : responses.length ≤ 1
  unanswered : ¬ s.Greeted q → responses = []
  answered : s.connected q = true → s.Greeted q → responses ≠ []
  behind : responses = [] → sayings = []
  proper : ∀ x ∈ sayings, x.Proper
  unknown : s.connections q = none → messages = []
  next : (s.context q).nextStreamId = 1 + openedAll messages
  results : results sayings <+: resultsTo 1 messages
  all : s.connected q = true → RtmpServer.results sayings = resultsTo 1 messages

/-- So it is for some answers and messages. -/
def Told (env : Environment) (q : ConnId) (messages : List RtmpMessage) (s : RtmpServer) : Prop :=
  ∃ responses sayings, Tells env q responses sayings messages s

section Telling

variable {env : Environment} {s s' : RtmpServer} {c q : ConnId} {message : RtmpMessage}
  {responses : List Bytes} {sayings : List Saying} {messages : List RtmpMessage}

/-- A change that neither writes to the connection nor answers its handshake. -/
theorem Tells.congr (h : Tells env q responses sayings messages s)
    (written : writtenTo q s'.log = writtenTo q s.log) (greeted : s'.Greeted q ↔ s.Greeted q)
    (connected : s'.connected q = true → s.connected q = true)
    (known : s'.connections q = none → s.connections q = none)
    (next : (s'.context q).nextStreamId = (s.context q).nextStreamId) :
    Tells env q responses sayings messages s' where
  written := written.trans h.written
  response := h.response
  once := h.once
  unanswered hnot := h.unanswered (mt greeted.mpr hnot)
  answered hconnected hgreeted := h.answered (connected hconnected) (greeted.mp hgreeted)
  behind := h.behind
  proper := h.proper
  unknown hnone := h.unknown (known hnone)
  next := next.trans h.next
  results := h.results
  all hconnected := h.all (connected hconnected)

theorem results_append (xs ys : List Saying) :
    RtmpServer.results (xs ++ ys) = RtmpServer.results xs ++ RtmpServer.results ys :=
  List.filterMap_append

theorem connections_of_live (h : s.live q = true) : s.connections q ≠ none := by
  intro hnone
  unfold RtmpServer.live at h
  rw [hnone] at h
  cases h

theorem handleMessage_known (hlive : s.live c = true)
    (h : (s.handleMessage env c message).1.connections q = none) : s.connections q = none := by
  have hnone : ((s.handleMessage env c message).1.viewed Connection.transport q) = none := by
    rw [viewed, h]
    rfl
  by_cases hq : q = c
  · subst hq
    have htransport : (s.handleMessage env q message).1.transport q = none := hnone
    rw [handleMessage_transport, Option.map_eq_none_iff] at htransport
    exact Option.map_eq_none_iff.mp htransport
  · rw [handleMessage_viewed_ne below_transport env s message hq] at hnone
    exact Option.map_eq_none_iff.mp hnone

/-- A message that calls for nothing. -/
theorem Tells.pass (h : Tells env q responses sayings messages s) (hknown : s.connections q ≠ none)
    (hcommand : commandOf message = none) : Tells env q responses sayings (messages ++ [message]) s where
  written := h.written
  response := h.response
  once := h.once
  unanswered := h.unanswered
  answered := h.answered
  behind := h.behind
  proper := h.proper
  unknown hnone := absurd hnone hknown
  next := by
    rw [openedAll_concat, openedBy, hcommand]
    simpa using h.next
  results := by
    rw [resultsTo_concat, resultTo, hcommand]
    simpa using h.results
  all hconnected := by
    rw [resultsTo_concat, resultTo, hcommand]
    simpa using h.all hconnected

/-- The next message streams, as they are counted. -/
theorem Says.nextStreamId {new : List Saying} {n : UInt32} (h : Says c new n s s')
    (hlive : s.connections c ≠ none) :
    (s'.context c).nextStreamId = (s.context c).nextStreamId + n := by
  obtain ⟨conn, hconn⟩ := Option.ne_none_iff_exists'.mp hlive
  rw [nextStreamId_eq_viewed, nextStreamId_eq_viewed, h.counted, viewed, hconn]
  rfl

/-- The connection that a message came from is told the answer. -/
theorem Tells.answered_self (h : Tells env c responses sayings messages s)
    (hgreeted : s.Greeted c) (hlive : s.live c = true) {new : List Saying}
    (hsaid : Says c new (openedBy message) s (s.handleMessage env c message).1)
    (hproper : ∀ x ∈ new, x.Proper)
    (hresults : RtmpServer.results new = (resultTo (s.context c).nextStreamId message).toList) :
    Tells env c responses (sayings ++ if s.connected c then new else []) (messages ++ [message])
      (s.handleMessage env c message).1 where
  written := by
    rw [hsaid.written, h.written]
    split <;> simp
  response := h.response
  once := h.once
  unanswered hnot := absurd (greeted_handleMessage.mpr hgreeted) hnot
  answered hconnected _ := h.answered (hsaid.connected c ▸ hconnected) hgreeted
  behind hnone := by
    have hnot : ¬ s.connected c = true := fun hconnected => h.answered hconnected hgreeted hnone
    rw [h.behind hnone, if_neg hnot]
    rfl
  proper x hx := by
    rcases List.mem_append.mp hx with hx | hx
    · exact h.proper x hx
    · split at hx
      · exact hproper x hx
      · cases hx
  unknown hnone := absurd (handleMessage_known hlive hnone) (connections_of_live hlive)
  next := by
    rw [hsaid.nextStreamId (connections_of_live hlive), h.next, openedAll_concat, UInt32.add_assoc]
  results := by
    rw [resultsTo_concat]
    by_cases hconnected : s.connected c = true
    · rw [if_pos hconnected, results_append, h.all hconnected, hresults, h.next]
    · rw [if_neg hconnected, List.append_nil]
      exact h.results.trans (List.prefix_append _ _)
  all hconnected := by
    rw [hsaid.connected c] at hconnected
    rw [resultsTo_concat, if_pos hconnected, results_append, h.all hconnected, hresults, h.next]

/-- A broadcast is told to the players. -/
theorem Tells.broadcast (h : Tells env q responses sayings messages s) (hw : Wired s) {sid : SessionId}
    {session : RtmpSession} (alive : s.heap sid = some session) {media : Media}
    (hcarried : Carried media.message) (hmedia : isMedia media.message) :
    Told env q messages (s.onMediaMessage sid media kDefaultChunkSize) := by
  obtain ⟨new, hwritten, hnew⟩ := written_broadcast alive media q
  have hconnections : (s.onMediaMessage sid media kDefaultChunkSize).connections = s.connections :=
    onMediaMessage_connections
  have hsame : (s.onMediaMessage sid media kDefaultChunkSize).connected q = s.connected q := by
    simp only [RtmpServer.connected, hconnections]
  have hgreeted : (s.onMediaMessage sid media kDefaultChunkSize).Greeted q ↔ s.Greeted q := by
    unfold Greeted
    rw [transport_of_connections hconnections]
  have hnone : RtmpServer.results new = [] := by
    refine List.filterMap_eq_nil_iff.mpr fun x hx => ?_
    rw [(hnew x hx).1, resultOf, Saying.message, commandOf_of_isMedia hmedia]
    rfl
  refine ⟨responses, sayings ++ new, ?_⟩
  exact {
    written := by rw [hwritten, h.written]; simp
    response := h.response
    once := h.once
    unanswered := fun hnot => h.unanswered fun hg => hnot (hgreeted.mpr hg)
    answered := fun hconnected hg => h.answered (hsame ▸ hconnected) (hgreeted.mp hg)
    behind := fun hempty => by
      rw [h.behind hempty, List.nil_append]
      by_contra hne
      obtain ⟨x, hx⟩ := List.exists_mem_of_ne_nil new hne
      obtain ⟨-, hplayer, hconnected⟩ := hnew x hx
      exact h.answered hconnected (hw.players sid session alive q hplayer) hempty
    proper := fun x hx => by
      rcases List.mem_append.mp hx with hx | hx
      · exact h.proper x hx
      · rw [(hnew x hx).1]
        exact ⟨hcarried, hmedia⟩
    unknown := fun hunknown => h.unknown (hconnections ▸ hunknown)
    next := by
      rw [nextStreamId_eq_viewed, viewed_of_connections hconnections, ← nextStreamId_eq_viewed]
      exact h.next
    results := by rw [results_append, hnone, List.append_nil]; exact h.results
    all := fun hconnected => by
      rw [results_append, hnone, List.append_nil]
      exact h.all (hsame ▸ hconnected) }

/-- **What a message makes the server tell.** -/
theorem Told.handleMessage (h : Told env q messages s) (hw : Wired s) (hlive : s.live c = true)
    (hgreeted : s.Greeted c) (hcarried : Carried message) :
    Told env q (messages ++ if c = q then [message] else []) (s.handleMessage env c message).1 := by
  obtain ⟨responses, sayings, h⟩ := h
  by_cases hmedia : isMedia message
  · have hpassed : Told env q messages (s.handleMessage env c message).1 := by
      rcases handleMessage_broadcast env (hw.sizes c) hmedia with hsame | ⟨sid, session, alive, hsent⟩
      · rw [hsame]
        exact ⟨responses, sayings, h⟩
      · rw [hsent]
        exact h.broadcast hw alive hcarried hmedia
    split
    · rename_i hq
      subst hq
      obtain ⟨responses', sayings', h'⟩ := hpassed
      exact ⟨responses', sayings', h'.pass (fun hnone => connections_of_live hlive
        (handleMessage_known hlive hnone)) (commandOf_of_isMedia hmedia)⟩
    · rw [List.append_nil]
      exact hpassed
  · obtain ⟨new, hsaid, hproper, hresults⟩ :=
      answers_handleMessage env hw.caches (hw.sizes c) hmedia
    split
    · rename_i hq
      subst hq
      exact ⟨responses, _, h.answered_self hgreeted hlive hsaid hproper hresults⟩
    · rename_i hq
      have hq : q ≠ c := fun heq => hq heq.symm
      rw [List.append_nil]
      refine ⟨responses, sayings, h.congr (hsaid.others q hq) greeted_handleMessage ?_
        (handleMessage_known hlive) ?_⟩
      · rw [hsaid.connected q]
        exact id
      · rw [nextStreamId_eq_viewed, hsaid.kept q hq, ← nextStreamId_eq_viewed]

/-- The loop over the messages. -/
theorem told_handleMessages (env : Environment) {given : List RtmpMessage}
    {past : ConnId → List RtmpMessage}
    (hw : Wired s) (hlive : s.live c = true) (hgreeted : given ≠ [] → s.Greeted c)
    (hcarried : ∀ m ∈ given, Carried m) (h : ∀ q, Told env q (past q) s) :
    Wired (s.handleMessages env c given).1 ∧
      ∀ q, Told env q (past q ++ if c = q then s.passedOf env c given else [])
        (s.handleMessages env c given).1 := by
  induction given generalizing s past with
  | nil =>
      refine ⟨hw, fun q => ?_⟩
      rw [passedOf, ite_self, List.append_nil]
      exact h q
  | cons message given ih =>
      have hgreeted := hgreeted (List.cons_ne_nil _ _)
      have hfirst := hcarried message List.mem_cons_self
      have hw' := hw.handleMessage env hlive hgreeted hfirst
      have hlive' := handleMessage_live env message hlive
      have hgreeted' : (s.handleMessage env c message).1.Greeted c :=
        greeted_handleMessage.mpr hgreeted
      have htold (q : ConnId) : Told env q (past q ++ if c = q then [message] else [])
          (s.handleMessage env c message).1 := (h q).handleMessage hw hlive hgreeted hfirst
      have hrest := ih hw' hlive' (fun _ => hgreeted')
        (fun m hm => hcarried m (List.mem_cons_of_mem _ hm)) htold
      unfold handleMessages passedOf
      cases hm : s.handleMessage env c message with
      | mk s₁ ok =>
          rw [hm] at hw' htold hrest
          cases ok with
          | false => exact ⟨hw', htold⟩
          | true =>
              refine ⟨hrest.1, fun q => ?_⟩
              have hq := hrest.2 q
              rw [List.append_assoc] at hq
              by_cases hcq : c = q
              · simpa [hcq] using hq
              · simpa [hcq] using hq

end Telling

/-! ### Reading -/

section Reading

variable {env : Environment} {s s' : RtmpServer} {c q : ConnId} {t : Transport} {data : Bytes}
  {messages : List RtmpMessage}

/-- Reading changes nothing of a connection that does not belong to its transport. -/
theorem Reads.outgoing (h : Reads env c s s') (q : ConnId) :
    s'.viewed outgoing q = s.viewed outgoing q ∧ s'.connected q = s.connected q := by
  obtain ⟨es, rfl, hes⟩ := h
  induction es generalizing s with
  | nil => exact ⟨rfl, rfl⟩
  | cons e es ih =>
      obtain ⟨hview, hconnected⟩ := ih (s := step env s e) fun e' he' =>
        hes e' (List.mem_cons_of_mem _ he')
      rw [run_cons, hview, hconnected]
      cases e with
      | transport d t =>
          exact ⟨viewed_modifyConnection_same fun _ => rfl, modifyConnection_connected fun _ => rfl⟩
      | respond d data =>
          refine ⟨viewed_of_connections (send_connections data), ?_⟩
          simp only [step, RtmpServer.connected, send_connections]
      | accept => exact (hes _ List.mem_cons_self).elim
      | message => exact (hes _ List.mem_cons_self).elim
      | shutdown => exact (hes _ List.mem_cons_self).elim
      | close => exact (hes _ List.mem_cons_self).elim

theorem Reads.transport_ne (h : Reads env c s s') (hq : q ≠ c) : s'.transport q = s.transport q := by
  obtain ⟨es, rfl, hes⟩ := h
  induction es generalizing s with
  | nil => rfl
  | cons e es ih =>
      have hrest := ih (s := step env s e) fun e' he' => hes e' (List.mem_cons_of_mem _ he')
      exact hrest.trans (step_viewed_ne below_transport (hes e List.mem_cons_self).concerns hq)

theorem connections_eq_none : s.connections q = none ↔ s.viewed outgoing q = none :=
  Option.map_eq_none_iff.symm

theorem greeted_iff (h : s.transport q = some t) : s.Greeted q ↔ t.handshake ≠ .kWaitC0C1 := by
  simp [Greeted, h]

theorem exists_transport (hlive : s.live c = true) : ∃ t, s.transport c = some t := by
  obtain ⟨conn, hconn⟩ := Option.ne_none_iff_exists'.mp (connections_of_live hlive)
  exact ⟨conn.transport, congrArg (Option.map Connection.transport) hconn⟩

/-- What `onMessage` reads of new bytes, before it handles the messages. -/
theorem reads_received (env : Environment) (s : RtmpServer) (c : ConnId) (data : Bytes) :
    Reads env c s ((s.append c data).readMessages env c).1 :=
  (reads_append data).trans reads_readMessages

theorem greeted_received (env : Environment) (data : Bytes) (ht : s.transport c = some t) :
    ((s.append c data).readMessages env c).1.Greeted c ↔
      (process (env.random c) t.handshake (t.inputBuffer ++ data)).state ≠ .kWaitC0C1 := by
  rw [greeted_iff (readMessages_transport env (append_transport ht data)).1, read_handshake]
  exact Iff.rfl

/-- The handshake goes on only. -/
theorem Greeted.received (h : s.Greeted q) (hlive : s.live c = true) :
    ((s.append c data).readMessages env c).1.Greeted q := by
  by_cases hq : q = c
  · subst hq
    obtain ⟨t, ht⟩ := exists_transport hlive
    have hbehind := (greeted_iff ht).mp h
    rw [greeted_received env data ht]
    rcases process_answers (env.random q) t.handshake (t.inputBuffer ++ data) with
      ⟨-, hstill⟩ | ⟨-, hnow, -⟩
    · exact mt hstill.mp hbehind
    · exact hnow
  · exact h.congr ((reads_received env s c data).transport_ne hq)

theorem Wired.received (h : Wired s) (env : Environment) (hlive : s.live c = true) (data : Bytes) :
    Wired ((s.append c data).readMessages env c).1 := by
  have hreads := reads_received env s c data
  have hquiet : Move env s ((s.append c data).readMessages env c).1 := .quiet hreads.quiet
  refine ⟨h.sound.move hquiet, ?_, fun d => ?_, fun d u hu => ?_, ?_⟩
  · unfold EverySession
    rw [hreads.quiet.heap]
    exact h.caches
  · rw [outChunkSize_eq_viewed, (hreads.outgoing d).1, ← outChunkSize_eq_viewed]
    exact h.sizes d
  · by_cases hd : d = c
    · subst hd
      obtain ⟨t, ht⟩ := exists_transport hlive
      rw [(readMessages_transport env (append_transport ht data)).1] at hu
      cases hu
      exact (((h.sane d t ht).append data).read (env.random d)).1
    · rw [hreads.transport_ne hd] at hu
      exact h.sane d u hu
  · intro sid session hsid d hd
    rw [hreads.quiet.heap] at hsid
    exact (h.players sid session hsid d hd).received hlive

/-- What reading new bytes writes. -/
theorem received_log (env : Environment) (data : Bytes) (ht : s.transport c = some t) :
    ((s.append c data).readMessages env c).1.log = s.log ++
      if (process (env.random c) t.handshake (t.inputBuffer ++ data)).response ≠ [] ∧
          s.connected c = true then
        [.send c (process (env.random c) t.handshake (t.inputBuffer ++ data)).response] else [] := by
  have happended : (s.append c data).connected c = s.connected c :=
    modifyConnection_connected fun _ => rfl
  rw [← happended]
  exact readMessages_log env (append_transport ht data)

/-- The answer of the handshake, which a client gets if it is connected. -/
theorem Tells.greet {responses : List Bytes} {sayings : List Saying}
    (h : Tells env q responses sayings messages s) (hnot : ¬ s.Greeted q) (c1 : Bytes)
    (hlen : kHandshakePacketSize ≤ c1.length)
    (log : s'.log = s.log ++
      if s.connected q = true then [.send q (buildS0S1S2 (env.random q) c1)] else [])
    (greeted : s'.Greeted q) (connected : s'.connected q = s.connected q)
    (known : s'.connections q = none → s.connections q = none)
    (next : (s'.context q).nextStreamId = (s.context q).nextStreamId) :
    Tells env q (if s.connected q then [buildS0S1S2 (env.random q) c1] else []) [] messages s' := by
  have hnone := h.unanswered hnot
  have hempty := h.behind hnone
  subst hnone hempty
  exact {
    written := by
      rw [log, writtenTo_append, h.written]
      split <;> simp [writtenTo, isTo]
    response := by
      intro r hr
      split at hr
      · exact ⟨c1, hlen, List.mem_singleton.mp hr⟩
      · cases hr
    once := by split <;> simp
    unanswered := fun hnot => absurd greeted hnot
    answered := fun hup _ => by
      rw [if_pos (connected ▸ hup)]
      exact List.cons_ne_nil _ _
    behind := fun _ => rfl
    proper := h.proper
    unknown := fun hunknown => h.unknown (known hunknown)
    next := next.trans h.next
    results := h.results
    all := fun hup => h.all (connected ▸ hup) }

/-- **What reading makes the server tell**: the answer of the handshake, once. -/
theorem Told.received (h : Told env q messages s) (hlive : s.live c = true) (data : Bytes) :
    Told env q messages ((s.append c data).readMessages env c).1 := by
  obtain ⟨responses, sayings, h⟩ := h
  obtain ⟨t, ht⟩ := exists_transport hlive
  have hreads := reads_received env s c data
  obtain ⟨hview, hconnected⟩ := hreads.outgoing q
  have hup : ((s.append c data).readMessages env c).1.connected q = true →
      s.connected q = true := hconnected ▸ id
  have hknown : ((s.append c data).readMessages env c).1.connections q = none →
      s.connections q = none := by
    rw [connections_eq_none, connections_eq_none, hview]
    exact id
  have hnext : (((s.append c data).readMessages env c).1.context q).nextStreamId =
      (s.context q).nextStreamId := by
    rw [nextStreamId_eq_viewed, nextStreamId_eq_viewed, hview]
  have hlog := received_log env data ht
  by_cases hq : q = c
  · subst hq
    have hgreeted := greeted_received env data ht
    rcases process_answers (env.random q) t.handshake (t.inputBuffer ++ data) with
      ⟨hnone, hstill⟩ | ⟨hfirst, hnow, -, hlen, hanswer⟩
    · refine ⟨responses, sayings, h.congr ?_ ?_ hup hknown hnext⟩
      · rw [hlog, if_neg fun hsend => hsend.1 hnone, List.append_nil]
      · rw [hgreeted, greeted_iff ht]
        exact not_congr hstill
    · have hnot : ¬ s.Greeted q := fun hg => (greeted_iff ht).mp hg hfirst
      refine ⟨_, [], h.greet hnot ((t.inputBuffer ++ data).drop 1) ?_ ?_ (hgreeted.mpr hnow)
        hconnected hknown hnext⟩
      · rw [List.length_drop]
        exact Nat.le_sub_of_add_le hlen
      · rw [hlog, hanswer]
        simp only [ne_eq, Handshaking.buildS0S1S2_ne_nil, not_false_eq_true, true_and]
  · refine ⟨responses, sayings, h.congr ?_ (greeted_congr (hreads.transport_ne hq)) hup hknown
      hnext⟩
    rw [hlog, writtenTo_append]
    split
    · simp [writtenTo, isTo, Ne.symm hq]
    · exact List.append_nil _

end Reading

/-! ### Runs -/

section Running

variable {env : Environment} {s s' : RtmpServer} {c q : ConnId} {data : Bytes}
  {messages : List RtmpMessage} {past : ConnId → List RtmpMessage}

/-- A change that keeps what the server knows of its connections and sessions. -/
theorem Wired.congr (h : Wired s) (sound : Sound s') (caches : s'.EverySession CachesProper)
    (players : ∀ sid session, s'.heap sid = some session → ∀ q ∈ session.players,
      ∃ sid session, s.heap sid = some session ∧ q ∈ session.players)
    (transport : ∀ q, s'.transport q = s.transport q)
    (view : ∀ q, s'.viewed outgoing q = s.viewed outgoing q) : Wired s' where
  sound := sound
  caches := caches
  sizes c := by
    rw [outChunkSize_eq_viewed, view, ← outChunkSize_eq_viewed]
    exact h.sizes c
  sane c t ht := h.sane c t (transport c ▸ ht)
  players sid session hsid q hq := by
    obtain ⟨sid', session', hsid', hq'⟩ := players sid session hsid q hq
    exact (h.players sid' session' hsid' q hq').congr (transport q)

/-- A change that writes nothing, and may disconnect. -/
theorem Told.congr (h : Told env q messages s) (log : s'.log = s.log)
    (transport : s'.transport q = s.transport q)
    (connected : s'.connected q = true → s.connected q = true)
    (view : s'.viewed outgoing q = s.viewed outgoing q) : Told env q messages s' := by
  obtain ⟨responses, sayings, h⟩ := h
  refine ⟨responses, sayings, h.congr (by rw [log]) (greeted_congr transport) connected ?_ ?_⟩
  · rw [connections_eq_none, connections_eq_none, view]
    exact id
  · rw [nextStreamId_eq_viewed, nextStreamId_eq_viewed, view]

theorem shutdown_outgoing (s : RtmpServer) (c q : ConnId) :
    (s.shutdown c).viewed outgoing q = s.viewed outgoing q := by
  refine viewed_modifyConnection_same fun conn => ?_
  split <;> rfl

/-- Who is connected after a connection has been put into another state was so before. -/
theorem connected_of_modifyConnection {f : Connection → Connection}
    (hf : ∀ conn, (f conn).state = .kConnected → conn.state = .kConnected)
    (h : (s.modifyConnection c f).connected q = true) : s.connected q = true := by
  unfold RtmpServer.connected modifyConnection at h
  unfold RtmpServer.connected
  by_cases hq : q = c
  · subst hq
    simp only [Function.update_self] at h
    cases hc : s.connections q with
    | none => simp [hc] at h
    | some conn =>
        simp only [hc, Option.map_some, decide_eq_true_eq] at h ⊢
        exact hf conn h
  · simpa only [Function.update_of_ne hq] using h

theorem connected_of_shutdown (h : (s.shutdown c).connected q = true) : s.connected q = true := by
  refine connected_of_modifyConnection (fun conn hconn => ?_) h
  split at hconn
  · assumption
  · exact hconn

theorem Wired.shutdown (h : Wired s) (c : ConnId) : Wired (s.shutdown c) :=
  h.congr (h.sound.step {} (.shutdown c)) h.caches (fun sid session hsid _ hq =>
    ⟨sid, session, hsid, hq⟩) (fun _ => shutdown_transport) (shutdown_outgoing s c)

theorem Told.shutdown (h : Told env q messages s) (c : ConnId) : Told env q messages (s.shutdown c) :=
  h.congr rfl shutdown_transport connected_of_shutdown (shutdown_outgoing s c q)

/-- **Receiving bytes.** -/
theorem told_receive (env : Environment) (data : Bytes) (hw : Wired s) (hlive : s.live c = true)
    (h : ∀ q, Told env q (past q) s) :
    Wired (s.receive env c data) ∧
      ∀ q, Told env q (past q ++ if c = q then ((s.append c data).readMessages env c).1.passedOf env c
        (((s.append c data).readMessages env c).2.getD []) else []) (s.receive env c data) := by
  have hreads := reads_received env s c data
  have hw' := hw.received env hlive data
  have htold (q : ConnId) : Told env q (past q) ((s.append c data).readMessages env c).1 :=
    (h q).received hlive data
  have hlive' : ((s.append c data).readMessages env c).1.live c = true :=
    (live_congr (hreads.quiet.binding c)).trans hlive
  obtain ⟨t, ht⟩ := exists_transport hlive
  obtain ⟨htransport, hgiven⟩ := readMessages_transport env (append_transport ht data)
  obtain ⟨-, hread⟩ := ((hw.sane c t ht).append data).read (env.random c)
  rw [receive, onMessage]
  cases hm : (s.append c data).readMessages env c with
  | mk s₁ given =>
      rw [hm] at hw' htold hlive' htransport hgiven
      cases given with
      | none =>
          refine ⟨hw'.shutdown c, fun q => ?_⟩
          rw [Option.getD_none, passedOf, ite_self, List.append_nil]
          exact (htold q).shutdown c
      | some given =>
          obtain ⟨hbehind, hcarried⟩ := hread given hgiven.symm
          have hgreeted (hne : given ≠ []) : s₁.Greeted c := by
            rw [greeted_iff htransport, hbehind hne]
            exact HandshakeState.noConfusion
          have hrest := told_handleMessages env hw' hlive' hgreeted hcarried htold
          dsimp only [Option.getD_some]
          cases hh : s₁.handleMessages env c given with
          | mk s₂ ok =>
              rw [hh] at hrest
              cases ok with
              | true => exact hrest
              | false => exact ⟨hrest.1.shutdown c, fun q => (hrest.2 q).shutdown c⟩

theorem close_outgoing (s : RtmpServer) (c q : ConnId) :
    (s.close c).viewed outgoing q = s.viewed outgoing q :=
  (viewed_of_connections (cleanupConnection_connections _ c)).trans
    (viewed_modifyConnection_same fun _ => rfl)

theorem Wired.close (h : Wired s) (hlive : s.live c = true) : Wired (s.close c) := by
  have hsound : Sound (s.close c) := by
    have hstep := h.sound.step {} (.close c)
    rwa [step, if_pos hlive] at hstep
  refine h.congr hsound ?_ ?_ (fun _ => close_transport) (close_outgoing s c)
  · have hopen : (s.modifyConnection c fun conn => { conn with
        state := .kDisconnected }).EverySession CachesProper := h.caches
    refine hopen.cleanupConnection (fun role d x hx media hmedia => ?_) c
    rw [cleaned_cachedMessages] at hmedia
    exact hx media hmedia
  · intro sid session hsid q hq
    obtain ⟨x, hx, hcase⟩ := cleanupConnection_heap.mp hsid
    refine ⟨sid, x, hx, ?_⟩
    split at hcase
    · rw [hcase.1] at hq
      exact (mem_cleaned_players.mp hq).1
    · exact hcase ▸ hq

theorem Told.close (h : Told env q messages s) (c : ConnId) : Told env q messages (s.close c) := by
  refine h.congr (cleanupConnection_log _ c) close_transport (fun hup => ?_) (close_outgoing s c q)
  have hopen : (s.modifyConnection c fun conn => { conn with
      state := .kDisconnected }).connected q = true := by
    simpa only [RtmpServer.close, RtmpServer.connected, cleanupConnection_connections] using hup
  exact connected_of_modifyConnection (fun _ hstate => by cases hstate) hopen

theorem accept_self (s : RtmpServer) : s.accept.connections s.nextConn = some {} :=
  Function.update_self ..

theorem accept_other (hq : q ≠ s.nextConn) : s.accept.connections q = s.connections q :=
  Function.update_of_ne hq ..

theorem accept_transport (hq : q ≠ s.nextConn) : s.accept.transport q = s.transport q := by
  rw [RtmpServer.transport, accept_other hq]
  rfl

theorem Wired.accept (h : Wired s) : Wired s.accept where
  sound := h.sound.step {} .accept
  caches := h.caches
  sizes c := by
    by_cases hc : c = s.nextConn
    · rw [hc, context, accept_self]
    · rw [context, accept_other hc]
      exact h.sizes c
  sane c t ht := by
    by_cases hc : c = s.nextConn
    · rw [hc, RtmpServer.transport, accept_self] at ht
      cases ht
      exact Transport.sane_init
    · rw [accept_transport hc] at ht
      exact h.sane c t ht
  players sid session hsid q hq := by
    have hgreeted := h.players sid session hsid q hq
    have hne : q ≠ s.nextConn := by
      rintro rfl
      obtain ⟨t, ht, -⟩ := hgreeted
      rw [transport_of_fresh h.sound] at ht
      cases ht
    exact hgreeted.congr (accept_transport hne)

/-- A new connection has been told nothing. -/
theorem Told.accept (h : Told env q messages s) (sound : Sound s) :
    Told env q messages s.accept := by
  obtain ⟨responses, sayings, h⟩ := h
  by_cases hnew : q = s.nextConn
  · subst hnew
    have hfresh : s.connections s.nextConn = none :=
      Option.map_eq_none_iff.mp (transport_of_fresh sound)
    have hnever : ¬ s.Greeted s.nextConn := by
      rintro ⟨t, ht, -⟩
      rw [transport_of_fresh sound] at ht
      cases ht
    have hnot : ¬ s.accept.Greeted s.nextConn := by
      rintro ⟨t, ht, hbehind⟩
      rw [RtmpServer.transport, accept_self] at ht
      cases ht
      exact hbehind rfl
    have hresponses := h.unanswered hnever
    have hsayings := h.behind hresponses
    have hmessages := h.unknown hfresh
    refine ⟨responses, sayings, ?_⟩
    exact {
      written := h.written
      response := h.response
      once := h.once
      unanswered := fun _ => hresponses
      answered := fun _ hg => absurd hg hnot
      behind := h.behind
      proper := h.proper
      unknown := fun _ => hmessages
      next := by
        rw [hmessages, context, accept_self]
        rfl
      results := h.results
      all := fun _ => by
        rw [hsayings, hmessages]
        rfl }
  · refine ⟨responses, sayings, h.congr rfl (greeted_congr (accept_transport hnew)) ?_ ?_ ?_⟩
    · rw [RtmpServer.connected, accept_other hnew]
      exact id
    · rw [accept_other hnew]
      exact id
    · rw [context, accept_other hnew]
      rfl

/-- One event. -/
theorem told_netStep (env : Environment) (hw : Wired s) (h : ∀ q, Told env q (past q) s)
    (e : NetEvent) : Wired (netStep env s e) ∧
      ∀ q, Told env q (past q ++ passed env q s e) (netStep env s e) := by
  cases e with
  | accept =>
      simp only [passed, List.append_nil]
      exact ⟨hw.accept, fun q => (h q).accept hw.sound⟩
  | close c =>
      simp only [passed, List.append_nil, netStep]
      split
      · rename_i hlive
        exact ⟨hw.close hlive, fun q => (h q).close c⟩
      · exact ⟨hw, h⟩
  | receive c data =>
      by_cases harrives : s.live c = true ∧ data ≠ []
      · obtain ⟨hw', h'⟩ := told_receive env data hw harrives.1 h
        rw [netStep, if_pos harrives]
        refine ⟨hw', fun q => ?_⟩
        have hq := h' q
        by_cases hcq : c = q
        · subst hcq
          rw [passed, if_pos ⟨rfl, harrives⟩]
          rwa [if_pos rfl] at hq
        · rw [passed, if_neg fun hall => hcq hall.1]
          rwa [if_neg hcq] at hq
      · rw [netStep, if_neg harrives]
        refine ⟨hw, fun q => ?_⟩
        have hnothing : passed env q s (.receive c data) = [] := by
          refine if_neg fun hall => harrives ?_
          rw [hall.1]
          exact hall.2
        rw [hnothing, List.append_nil]
        exact h q

theorem wired_init : Wired {} where
  sound := sound_init
  caches _ _ h := by cases h
  sizes _ := rfl
  sane _ _ h := by cases h
  players _ _ h := by cases h

theorem told_init (env : Environment) (q : ConnId) : Told env q [] {} := by
  refine ⟨[], [], ?_⟩
  exact {
    written := rfl
    response := by simp
    once := Nat.zero_le 1
    unanswered := fun _ => rfl
    answered := by simp [RtmpServer.connected]
    behind := fun _ => rfl
    proper := by simp
    unknown := fun _ => rfl
    next := rfl
    results := List.prefix_rfl
    all := fun _ => rfl }

/-- **What has been written after every run**: to each connection at most one answer of the
handshake, then whole messages, and the `_result`s of the messages that have been handled. -/
theorem told_netAfter (env : Environment) (es : List NetEvent) :
    Wired (netAfter env es) ∧ ∀ q, Told env q (passedTo env q es) (netAfter env es) := by
  have hrun : ∀ {s : RtmpServer} {past : ConnId → List RtmpMessage}, Wired s →
      (∀ q, Told env q (past q) s) → Wired (run (netStep env) s es) ∧
        ∀ q, Told env q (past q ++ collect (netStep env) (passed env q) s es)
          (run (netStep env) s es) := by
    induction es with
    | nil =>
        intro s past hw h
        refine ⟨hw, fun q => ?_⟩
        rw [collect, List.append_nil]
        exact h q
    | cons e es ih =>
        intro s past hw h
        obtain ⟨hw', h'⟩ := told_netStep env hw h e
        obtain ⟨hw'', h''⟩ := ih hw' h'
        refine ⟨hw'', fun q => ?_⟩
        have hq := h'' q
        rwa [List.append_assoc] at hq
  exact hrun wired_init (told_init env)

end Running

end RtmpServer

end Rmuduo.Rtmp
