/-
A stream from its publisher to a player, in bytes.

A publisher writes its media in chunks, and TCP cuts them anywhere. Between two segments anything
can happen on other connections. The server reads the messages, caches them, and writes them to the
players in chunks of its own size, and TCP cuts these again.

* `Standing` — a parser that has read a part of a written stream.
* `Relaying` — the publisher and the player are in place, with the bytes that the publisher has still
  to send.
* `Relaying.run` — they stay so, and the player is written what the publisher sends.
* `relayed_end_to_end` — the player reads the messages of the publisher, without loss, once and in
  order.
-/

import Rmuduo.Rtmp.ClientReads
import Rmuduo.Rtmp.PublisherBinding

namespace Rmuduo.Rtmp

open Lib System

/-! ### The parser of the publisher -/

section Parsing

variable {c : UInt32} {p q : RtmpChunkParser} {buf data tail : Bytes} {ms : List RtmpMessage}

/-- A part of a written stream is read up to a position of it. -/
theorem Sending.drain_front (hc : 1 ≤ c.toNat) (h : Sending c p (buf ++ tail) ms) :
    ∃ ms', ms = (chunkReader.drain p buf).items.filterMap ChunkRecord.message ++ ms' ∧
      Sending c (chunkReader.drain p buf).state ((chunkReader.drain p buf).rest ++ tail) ms' := by
  induction p, buf using chunkReader.drain_induction generalizing ms with
  | more p buf hread =>
      rw [Reader.drain_of_more (R := chunkReader) hread]
      exact ⟨ms, rfl, h⟩
  | fail p buf e hread =>
      rw [Reader.drain_of_fail (R := chunkReader) hread]
      exact ⟨ms, rfl, h⟩
  | item p buf used p' r hread ih =>
      rw [Reader.drain_of_item (R := chunkReader) hread]
      have hlong := readChunk_append hread tail
      have hused := (readChunk_used hread).2
      cases ms with
      | nil =>
          generalize buf ++ tail = whole at h hlong
          cases h
          cases hlong.symm.trans (readChunk_nil p)
      | cons m ms =>
          obtain ⟨used', p'', r', hitem, hnext⟩ := h.read hc
          obtain ⟨rfl, rfl, rfl⟩ := Reading.item.inj (hitem.symm.trans hlong)
          rw [List.drop_append_of_le_length hused] at hnext
          rcases hnext with ⟨hmessage, hnext⟩ | ⟨hmessage, hnext⟩
          · obtain ⟨ms', rfl, hrest⟩ := ih hnext
            exact ⟨ms', by simp [hmessage], hrest⟩
          · obtain ⟨ms', hms, hrest⟩ := ih hnext
            exact ⟨ms', by simp [hmessage, hms], hrest⟩

/-- The parser has read a part of a written stream, of which `buf` is not a whole chunk; `tail` is
still to come, and with it the messages. -/
def Standing (c : UInt32) (q : RtmpChunkParser) (buf tail : Bytes) (ms : List RtmpMessage) : Prop :=
  ∃ p, q = touch p buf ∧ readChunk p buf = .more ∧ Sending c p (buf ++ tail) ms

theorem Standing.of_sending (h : Sending c p tail ms) : Standing c p [] tail ms :=
  ⟨p, rfl, readChunk_nil p, h⟩

/-- When nothing is to come, the messages are complete. -/
theorem Standing.ended (hc : 1 ≤ c.toNat) (h : Standing c q buf [] ms) : ms = [] := by
  obtain ⟨p, -, hread, hsending⟩ := h
  rw [List.append_nil] at hsending
  exact (hsending.stopped hc fun _ _ _ hitem => by cases hitem.symm.trans hread).2

/-- **A segment of a written stream** is parsed without an error, and the parser stands where it
ends. -/
theorem Standing.parse (hc : 1 ≤ c.toNat) (h : Standing c q buf (data ++ tail) ms) :
    (Rtmp.parse q (buf ++ data)).error = none ∧
      ∃ ms', ms = (Rtmp.parse q (buf ++ data)).messages ++ ms' ∧
        Standing c (Rtmp.parse q (buf ++ data)).parser (Rtmp.parse q (buf ++ data)).buf tail ms' := by
  obtain ⟨p, rfl, -, hsending⟩ := h
  have hquiet : pending p buf = fun _ => 0 := funext fun csid => hsending.quiet csid
  rw [← List.append_assoc] at hsending
  have hparse : Rtmp.parse (touch p buf) (buf ++ data) =
      settled (chunkReader.drain p (buf ++ data)) := by
    rw [parse_eq_drain, settled_touch, hquiet, shift_zero]
  have herror : (chunkReader.drain p (buf ++ data)).error = none :=
    (chunkReader.drain_part (hsending.drain hc).1).1
  have hmore : readChunk (chunkReader.drain p (buf ++ data)).state
      (chunkReader.drain p (buf ++ data)).rest = .more := by
    have hread := chunkReader.read_drain p (buf ++ data)
    rwa [herror] at hread
  obtain ⟨ms', hms, hrest⟩ := hsending.drain_front hc
  rw [hparse]
  exact ⟨herror, ms', hms, _, rfl, hmore, hrest⟩

end Parsing

/-- Reading behind the handshake, when the parser finds no error. -/
theorem Transport.read_parsed {t : Transport} {r : ParseResult} (random : Fin 1528 → UInt8)
    (hdone : t.handshake = .kHandshakeDone) (hbuf : t.inputBuffer ≠ [])
    (hparse : Rtmp.parse t.chunkParser t.inputBuffer = r) (herror : r.error = none) :
    t.read random =
      ({ t.counted with inputBuffer := r.buf, chunkParser := r.parser }, some r.messages) := by
  have hlength : t.counted.inputBuffer.length ≠ 0 := fun h => hbuf (List.eq_nil_of_length_eq_zero h)
  have hread : t.read random = t.counted.parse := if_pos hdone
  subst hparse
  rw [hread, Transport.parse, if_neg hlength]
  change (_, if (Rtmp.parse t.chunkParser t.inputBuffer).error.isSome then none else _) = _
  rw [herror]
  rfl

namespace RtmpServer

/-! ### A player of one session -/

/-- `q` is a player of no session but this one. -/
def PlaysOnly (q : ConnId) (sid : SessionId) (s : RtmpServer) : Prop :=
  ∀ i key, s.Member q .kPlayer i key → i = sid

section Playing

variable {env : Environment} {s s' : RtmpServer} {e : Event} {q : ConnId} {sid : SessionId}

theorem relayedTo_append (q : ConnId) (log log' : List Action) :
    relayedTo q (log ++ log') = relayedTo q log ++ relayedTo q log' := by
  rw [relayedTo, writtenTo_append, List.filterMap_append]
  rfl

theorem Silent.relayedTo (h : Silent s s') : relayedTo q s'.log = relayedTo q s.log := by
  obtain ⟨actions, hlog, hsilent⟩ := h
  have hnone : RtmpServer.relayedTo q actions = [] := by
    refine List.filterMap_eq_nil_iff.mpr fun a ha => ?_
    have hsilent := hsilent a (List.mem_filter.mp ha).1
    cases a with
    | media => cases hsilent
    | send => rfl
    | authorize => rfl
    | create => rfl
  rw [hlog, relayedTo_append, hnone, List.append_nil]

/-- A broadcast reaches each of its receivers once. -/
theorem relayedTo_broadcast (q : ConnId) (i : SessionId) (media : Media) (n : UInt32)
    {receivers : List ConnId} (nodup : receivers.Nodup) :
    relayedTo q (receivers.map fun player => .media player i media n) =
      if q ∈ receivers then [media.message] else [] := by
  induction nodup with
  | nil => rfl
  | @cons player receivers hnew _ ih =>
      have hfirst : relayedTo q [.media player i media n] =
          if player = q then [media.message] else [] := by
        by_cases hplayer : player = q <;>
          simp [relayedTo, writtenTo, isTo, Action.mediaMessage?, hplayer]
      rw [List.map_cons, ← List.singleton_append, relayedTo_append, ih, hfirst]
      by_cases hplayer : player = q
      · subst hplayer
        have hrest : player ∉ receivers := fun h => hnew player h rfl
        simp [hrest]
      · simp [hplayer, Ne.symm hplayer]

/-- A replay to another connection. -/
theorem relayedTo_replay {c : ConnId} (hc : c ≠ q) (i : SessionId) (n : UInt32) :
    relayedTo q (s.replayCachedMessagesToPlayer i c n).log = relayedTo q s.log := by
  have hnone (medias : List Media) :
      relayedTo q (medias.map fun media => .media c i media n) = [] := by
    simp [relayedTo, writtenTo, isTo, hc]
  rw [replayCachedMessagesToPlayer]
  split
  · rfl
  · split
    · rw [record, relayedTo_append, hnone, List.append_nil]
    · rfl

theorem PlaysOnly.congr (h : PlaysOnly q sid s) (heap : s'.heap = s.heap) : PlaysOnly q sid s' :=
  fun i key member => h i key ((Member.congr heap).mp member)

/-- `q` comes into no other session while it sends no command. -/
theorem PlaysOnly.step (h : PlaysOnly q sid s) (listens : s.Listens q e) :
    PlaysOnly q sid (step env s e) := by
  cases step_cases env s e with
  | accepted alive _ sent =>
      rw [sent]
      exact fun i key member => h i key (Member.of_onMediaMessage alive member)
  | other _ change =>
      cases change with
      | unchanged heap => exact h.congr heap
      | published asked heap =>
          refine PlaysOnly.congr (fun i key member => ?_) heap
          rcases Member.of_becomePublisher member with old | ⟨-, hrole, -⟩
          · exact h i key ((Member.congr asked.heap).mp old)
          · cases hrole
      | @played c message command streamKey s₁ s₂ j n event hcommand asked heap =>
          refine PlaysOnly.congr (fun i key member => ?_) heap
          rcases Member.of_becomePlayer member with old | ⟨rfl, -, -⟩
          · exact h i key ((Member.congr asked.heap).mp old)
          · rw [listens.2 message event] at hcommand
            cases hcommand
      | @left c s₁ same _ heap =>
          refine PlaysOnly.congr (fun i key member => ?_) heap
          obtain ⟨session', hsession', hkey, hplayer⟩ := member
          obtain ⟨session, hsession, hcase⟩ := cleanupConnection_heap.mp hsession'
          rw [same] at hsession
          split at hcase
          · rw [hcase.1] at hkey hplayer
            exact h i key ⟨session, hsession, (cleaned_streamKey ..).symm.trans hkey,
              (holds_cleaned.mp hplayer).1⟩
          · exact h i key ⟨session, hsession, hcase ▸ hkey, hcase ▸ hplayer⟩

variable (env) in
/-- A player of one session is sent what that session accepts, and nothing else. -/
theorem relayedTo_step (hj : Joined q sid s) (only : PlaysOnly q sid s)
    (hn : s.EverySession (·.players.Nodup)) (listens : s.Listens q e) :
    relayedTo q (step env s e).log =
      relayedTo q s.log ++ (acceptedIn sid s e).map (·.message) := by
  cases step_cases env s e with
  | @accepted i session media n alive into sent =>
      obtain ⟨x, hx, hq⟩ := hj
      have hreceivers := (hn i session alive).filter s.connected
      rw [sent, onMediaMessage_eq alive, into]
      change relayedTo q (s.log ++ _) = _
      rw [relayedTo_append, relayedTo_broadcast q i media n hreceivers]
      by_cases hi : i = sid
      · subst hi
        rw [alive] at hx
        cases hx
        simp [hq, listens.1]
      · have hnot : q ∉ session.players := fun hmem => hi (only i _ ⟨session, alive, rfl, hmem⟩)
        simp [hnot, Ne.symm hi]
  | other none change =>
      rw [none, List.map_nil, List.append_nil]
      cases change with
      | unchanged _ silent => exact silent.relayedTo
      | published _ _ silent => exact silent.relayedTo
      | left _ _ _ silent => exact silent.relayedTo
      | @played c message command streamKey s₁ s₂ i n event hcommand _ _ silent log =>
          have hc : c ≠ q := by
            rintro rfl
            rw [listens.2 message event] at hcommand
            cases hcommand
          rw [log, relayedTo_replay hc, silent.relayedTo]

end Playing

/-! ### A publisher and a player in their places -/

/-- `p` publishes in the session, and `q` is its player. -/
structure InPlace (p q : ConnId) (sid : SessionId) (s : RtmpServer) : Prop where
  sound : Sound s
  bound : PublishersBound s
  nodup : s.EverySession (·.players.Nodup)
  live : s.live p = true
  role : (s.context p).role = .kPublisher
  session : (s.context p).session = some sid
  connected : s.connected q = true
  joined : Joined q sid s
  only : PlaysOnly q sid s

section Placed

variable {env : Environment} {s s' s₁ : RtmpServer} {e : Event} {p q c d : ConnId} {sid : SessionId}
  {message : RtmpMessage}

theorem PublishersBound.moves (h : PublishersBound s) (hm : Managed s) (moves : Moves env s s') :
    PublishersBound s' :=
  (moves_invariant (I := fun s => Managed s ∧ PublishersBound s)
    (fun _ _ hmove hs => ⟨hs.1.move hmove, hs.2.move hs.1 hmove⟩) moves ⟨hm, h⟩).2

theorem InPlace.publisher (h : InPlace p q sid s) :
    ∃ session, s.heap sid = some session ∧ session.publisher = some p := by
  obtain ⟨i, session, hi, hsession, hpublisher⟩ := h.bound p h.live h.role
  rw [h.session] at hi
  cases hi
  exact ⟨session, hsession, hpublisher⟩

theorem InPlace.lock (h : InPlace p q sid s) : s.lock p = some sid := by
  obtain ⟨session, hsession, -⟩ := h.publisher
  exact lock_eq_some h.session hsession

variable (env) in
theorem InPlace.step (h : InPlace p q sid s) (hp : (step env s e).binding p = s.binding p)
    (hq : (step env s e).connected q = true) (listens : s.Listens q e) :
    InPlace p q sid (step env s e) where
  sound := h.sound.step env e
  bound := h.bound.moves h.sound.managed (step_moves env s e)
  nodup := h.nodup.step lasting_nodup env e
  live := (live_congr hp).trans h.live
  role := (role_congr hp).trans h.role
  session := (session_congr hp).trans h.session
  connected := hq
  joined := h.joined.step h.sound.managed listens hq
  only := h.only.step listens

theorem InPlace.quiet (h : InPlace p q sid s) (env : Environment) (quiet : Quiet s s') :
    InPlace p q sid s' where
  sound := h.sound.move (.quiet quiet : Move env s s')
  bound := h.bound.move h.sound.managed (.quiet quiet : Move env s s')
  nodup := h.nodup.move lasting_nodup (.quiet quiet : Move env s s')
  live := (live_congr (quiet.binding p)).trans h.live
  role := (role_congr (quiet.binding p)).trans h.role
  session := (session_congr (quiet.binding p)).trans h.session
  connected := (connected_congr (quiet.binding q)).trans h.connected
  joined := h.joined.congr quiet.heap
  only := h.only.congr quiet.heap

/-! ### What others do -/

/-- What handling a message does to other connections. -/
theorem MessageEffect.binding_ne (h : MessageEffect env s d message s') (hc : c ≠ d) :
    s'.binding c = s.binding c := by
  cases h with
  | quiet hq => exact hq.binding c
  | publish _ _ _ _ asked _ joined =>
      exact (joined.binding c).trans ((join_binding_ne hc).trans (asked.binding c))
  | @play _ _ s₁ s₂ n _ _ _ _ asked _ joined replayed =>
      obtain ⟨actions, heq⟩ := replay_frame s₂ (s₁.getOrCreateSession _).2 d n
      rw [replayed, heq]
      exact (joined.binding c).trans ((join_binding_ne hc).trans (asked.binding c))
  | leave _ _ _ left =>
      rw [left]
      exact (binding_modifyContext_ne hc).trans
        (binding_of_connections (cleanupConnection_connections s d) c)
  | media _ _ _ _ sent =>
      rw [sent]
      exact binding_of_connections onMediaMessage_connections c

theorem step_binding_ne (he : Event.Concerns d e) (hc : c ≠ d) :
    (step env s e).binding c = s.binding c := by
  cases e with
  | accept => exact he.elim
  | close => exact he.elim
  | transport d' t =>
      cases he
      exact binding_modifyConnection_ne hc
  | respond d' data =>
      cases he
      exact (quiet_send s d data).binding c
  | shutdown d' =>
      cases he
      exact shutdown_binding_ne hc
  | message d' message =>
      cases he
      by_cases hlive : s.live d = true
      · obtain ⟨s₁, heffect, hstep | hstep⟩ := step_message env message hlive
        · rw [hstep]
          exact heffect.binding_ne hc
        · rw [hstep]
          exact (shutdown_binding_ne hc).trans (heffect.binding_ne hc)
      · rw [step_message_dead env message hlive]

/-- A media message of another connection is accepted by other sessions. -/
theorem InPlace.accepts_none (h : InPlace p q sid s) (he : ∀ message, e ≠ .message p message) :
    acceptedIn sid s e = [] := by
  cases e with
  | message d message =>
      refine if_neg ?_
      rintro ⟨hlive, -, hrole, hlock⟩
      obtain ⟨session, hsession, hpublisher⟩ := h.publisher
      obtain ⟨i, session', hi, hsession', hpublisher'⟩ := h.bound d hlive hrole
      have hsid : i = sid := by
        rw [RtmpServer.lock, hi] at hlock
        exact Option.some.inj (Option.filter_eq_some_iff.mp hlock).1
      subst hsid
      rw [hsession] at hsession'
      cases hsession'
      rw [hpublisher] at hpublisher'
      cases hpublisher'
      exact he message rfl
  | _ => rfl

variable (env) in
/-- What goes on elsewhere leaves the publisher and the player in their places, and sends nothing to
the player. -/
theorem InPlace.aside (h : InPlace p q sid s)
    (hp : (RtmpServer.step env s e).binding p = s.binding p)
    (hq : (RtmpServer.step env s e).connected q = true) (listens : s.Listens q e)
    (he : ∀ message, e ≠ .message p message) :
    InPlace p q sid (RtmpServer.step env s e) ∧
      relayedTo q (RtmpServer.step env s e).log = relayedTo q s.log := by
  refine ⟨h.step env hp hq listens, ?_⟩
  rw [relayedTo_step env h.joined h.only h.nodup listens, h.accepts_none he, List.map_nil,
    List.append_nil]

/-- What happens on one other connection. -/
theorem InPlace.concerns (h : InPlace p q sid s) (env : Environment) {es : List Event}
    (hes : ∀ e ∈ es, Event.Concerns d e) (hp : p ≠ d) (hq : q ≠ d) :
    InPlace p q sid (run (RtmpServer.step env) s es) ∧
      relayedTo q (run (RtmpServer.step env) s es).log = relayedTo q s.log := by
  induction es generalizing s with
  | nil => exact ⟨h, rfl⟩
  | cons e es ih =>
      have he := hes e List.mem_cons_self
      have hnot : ∀ c message, c ≠ d → e ≠ .message c message := by
        rintro c message hc rfl
        exact hc he
      have hconnected : (RtmpServer.step env s e).connected q = true :=
        (connected_congr (step_binding_ne he hq)).trans h.connected
      obtain ⟨hfirst, hsame⟩ := h.aside env (step_binding_ne he hp) hconnected
        ⟨h.connected, fun message heq => absurd heq (hnot q message hq)⟩ (fun m => hnot p m hp)
      obtain ⟨hlast, hrest⟩ := ih hfirst fun e he => hes e (List.mem_cons_of_mem _ he)
      exact ⟨hlast, hrest.trans hsame⟩

/-! ### What the publisher sends -/

/-- A message of the publisher is sent on. -/
theorem InPlace.media (h : InPlace p q sid s) (env : Environment) (hmedia : isMedia message) :
    ∃ s', s.handleMessage env p message = (s', true) ∧ InPlace p q sid s' ∧
      relayedTo q s'.log = relayedTo q s.log ++ [message] ∧ s'.connections = s.connections := by
  have hhandled : s.handleMessage env p message =
      (s.onMediaMessage sid ⟨p, message⟩ (s.context p).outChunkSize, true) := by
    rw [handleMessage_media hmedia, handleMediaMessage, if_neg (not_not.mpr h.role), h.lock]
  have hconnections : (s.onMediaMessage sid ⟨p, message⟩ (s.context p).outChunkSize).connections =
      s.connections := onMediaMessage_connections
  have hstep := step_message_handled h.live hhandled
  have listens : s.Listens q (.message p message) := by
    refine ⟨h.connected, ?_⟩
    rintro message' ⟨⟩
    exact commandOf_of_isMedia hmedia
  have hbinding := binding_of_connections hconnections
  have haccepted : acceptedIn sid s (.message p message) = [⟨p, message⟩] :=
    if_pos ⟨h.live, hmedia, h.role, h.lock⟩
  have hplace := h.step env (hstep ▸ hbinding p)
    (hstep ▸ (connected_congr (hbinding q)).trans h.connected) listens
  have hrelayed := relayedTo_step env h.joined h.only h.nodup listens
  rw [hstep] at hplace hrelayed
  rw [haccepted] at hrelayed
  exact ⟨_, hhandled, hplace, hrelayed, hconnections⟩

theorem InPlace.medias (h : InPlace p q sid s) (env : Environment) {ms : List RtmpMessage}
    (hmedia : ∀ m ∈ ms, isMedia m) :
    ∃ s', s.handleMessages env p ms = (s', true) ∧ InPlace p q sid s' ∧
      relayedTo q s'.log = relayedTo q s.log ++ ms ∧ s'.connections = s.connections := by
  induction ms generalizing s with
  | nil => exact ⟨s, rfl, h, (List.append_nil _).symm, rfl⟩
  | cons m ms ih =>
      obtain ⟨s₁, hhandled, h₁, hfirst, hconnections⟩ := h.media env (hmedia m List.mem_cons_self)
      obtain ⟨s', hrest, h', hlast, hconnections'⟩ :=
        ih h₁ fun m hm => hmedia m (List.mem_cons_of_mem _ hm)
      refine ⟨s', ?_, h', ?_, hconnections'.trans hconnections⟩
      · rw [handleMessages, hhandled]
        exact hrest
      · rw [hlast, hfirst, List.append_assoc, List.singleton_append]

end Placed

/-! ### The run -/

/-- The publisher and the player are in place; the publisher has still to send these bytes, which
complete these messages. -/
structure Relaying (p q : ConnId) (sid : SessionId) (c : UInt32) (tail : Bytes)
    (ms : List RtmpMessage) (s : RtmpServer) : Prop where
  place : InPlace p q sid s
  media : ∀ m ∈ ms, isMedia m
  standing : ∃ t, s.transport p = some t ∧ t.handshake = .kHandshakeDone ∧
    Standing c t.chunkParser t.inputBuffer tail ms

/-- The bytes that an event brings from `p`. -/
def broughtBy (p : ConnId) : NetEvent → Bytes
  | .receive c data => if c = p then data else []
  | _ => []

/-- Neither of the two is closed, and the player sends nothing. -/
def Undisturbing (p q : ConnId) : NetEvent → Prop
  | .accept => True
  | .receive c _ => c ≠ q
  | .close c => c ≠ p ∧ c ≠ q

section Run

variable {env : Environment} {s : RtmpServer} {e : NetEvent} {p q : ConnId} {sid : SessionId}
  {c : UInt32} {tail data : Bytes} {ms : List RtmpMessage}

/-- **A segment of the publisher.** What it completes is sent to the player. -/
theorem Relaying.receive (hc : 1 ≤ c.toNat) (h : Relaying p q sid c (data ++ tail) ms s)
    (hdata : data ≠ []) : ∃ done ms', ms = done ++ ms' ∧
      Relaying p q sid c tail ms' (s.receive env p data) ∧
        relayedTo q (s.receive env p data).log = relayedTo q s.log ++ done := by
  obtain ⟨t, ht, hdone, hstanding⟩ := h.standing
  obtain ⟨herror, ms', hms, hrest⟩ := hstanding.parse hc
  obtain ⟨htransport, hgiven⟩ := readMessages_transport env (append_transport ht data)
  generalize hr : Rtmp.parse t.chunkParser (t.inputBuffer ++ data) = r at herror hms hrest
  have hbuf : (t.append data).inputBuffer ≠ [] := by
    simp [Transport.append, hdata]
  rw [Transport.read_parsed (t := t.append data) (env.random p) hdone hbuf hr herror]
    at htransport hgiven
  have hreads : Reads env p s ((s.append p data).readMessages env p).1 :=
    (reads_append data).trans reads_readMessages
  have hmedia := h.media
  rw [hms] at hmedia
  obtain ⟨s', hhandled, hplace, hrelayed, hconnections⟩ :=
    (h.place.quiet env hreads.quiet).medias env fun m hm => hmedia m (List.mem_append_left _ hm)
  have hreceive : s.receive env p data = s' := by
    rw [RtmpServer.receive, onMessage]
    cases hm : (s.append p data).readMessages env p with
    | mk s₁ given =>
        rw [hm] at hgiven hhandled
        have hgiven : given = some r.messages := hgiven
        have hhandled : s₁.handleMessages env p r.messages = (s', true) := hhandled
        simp only [hgiven, hhandled]
  rw [hreceive]
  refine ⟨_, ms', hms, ⟨hplace, fun m hm => hmedia m (List.mem_append_right _ hm), _,
    (transport_of_connections hconnections).trans htransport, hdone, hrest⟩, ?_⟩
  rw [hrelayed, (Silent.of_quiet hreads.quiet).relayedTo]

/-- The publisher's transport is as it was. -/
theorem Relaying.other (h : Relaying p q sid c tail ms s) {s' : RtmpServer}
    (place : InPlace p q sid s') (transport : s'.transport p = s.transport p) :
    Relaying p q sid c tail ms s' :=
  ⟨place, h.media, transport ▸ h.standing⟩

theorem Relaying.accept (h : Relaying p q sid c tail ms s) (env : Environment) :
    Relaying p q sid c tail ms s.accept ∧ relayedTo q s.accept.log = relayedTo q s.log := by
  have known {d : ConnId} (hlive : s.live d = true) : d ≠ s.nextConn :=
    (h.place.sound.known.connection d (binding_of_live hlive)).ne
  have hp := known h.place.live
  have hconnected : s.accept.connected q = true :=
    (connected_congr (accept_binding_ne (known (live_of_connected h.place.connected)))).trans
      h.place.connected
  obtain ⟨place, hsame⟩ := h.place.aside env (e := .accept) (accept_binding_ne hp)
    hconnected ⟨h.place.connected, nofun⟩ nofun
  refine ⟨h.other place ?_, hsame⟩
  exact congrArg (Option.map Connection.transport) (Function.update_of_ne hp ..)

theorem Relaying.close {d : ConnId} (h : Relaying p q sid c tail ms s) (env : Environment)
    (hlive : s.live d = true) (hp : p ≠ d) (hq : q ≠ d) :
    Relaying p q sid c tail ms (s.close d) ∧ relayedTo q (s.close d).log = relayedTo q s.log := by
  have hstep : step env s (.close d) = s.close d := if_pos hlive
  have hclosed := h.place.aside env (e := .close d)
    (hstep ▸ close_binding_ne hp)
    (hstep ▸ (connected_congr (close_binding_ne hq)).trans h.place.connected)
    ⟨h.place.connected, nofun⟩ nofun
  rw [hstep] at hclosed
  exact ⟨h.other hclosed.1 close_transport, hclosed.2⟩

variable (env) in
/-- One event. -/
theorem Relaying.netStep (hc : 1 ≤ c.toNat) (h : Relaying p q sid c (broughtBy p e ++ tail) ms s)
    (undisturbing : Undisturbing p q e) : ∃ done ms', ms = done ++ ms' ∧
      Relaying p q sid c tail ms' (netStep env s e) ∧
        relayedTo q (netStep env s e).log = relayedTo q s.log ++ done := by
  have nothing {s' : RtmpServer} (hs' : Relaying p q sid c tail ms s' ∧
      relayedTo q s'.log = relayedTo q s.log) : ∃ done ms', ms = done ++ ms' ∧
        Relaying p q sid c tail ms' s' ∧ relayedTo q s'.log = relayedTo q s.log ++ done :=
    ⟨[], ms, rfl, hs'.1, hs'.2.trans (List.append_nil _).symm⟩
  cases e with
  | accept => exact nothing (h.accept env)
  | close d =>
      rw [RtmpServer.netStep]
      split
      · rename_i hlive
        exact nothing (h.close env hlive undisturbing.1.symm undisturbing.2.symm)
      · exact nothing ⟨h, rfl⟩
  | receive d data =>
      rw [RtmpServer.netStep]
      by_cases hd : d = p
      · subst hd
        rw [broughtBy, if_pos rfl] at h
        by_cases hdata : data = []
        · subst hdata
          rw [if_neg fun hand => hand.2 rfl]
          exact nothing ⟨h, rfl⟩
        · rw [if_pos ⟨h.place.live, hdata⟩]
          exact h.receive hc hdata
      · rw [broughtBy, if_neg hd] at h
        split
        · rename_i harrives
          obtain ⟨es, hes, hconcerns⟩ := receive_refines env harrives.1 data
          obtain ⟨place, hsame⟩ :=
            h.place.concerns env hconcerns (Ne.symm hd) (Ne.symm undisturbing)
          rw [← hes] at place hsame
          exact nothing ⟨h.other place (receive_transport_ne env harrives.1 (Ne.symm hd)), hsame⟩
        · exact nothing ⟨h, rfl⟩

variable (env) in
/-- **A whole run.** When the bytes of the publisher have all arrived, all its messages have been
sent to the player. -/
theorem Relaying.run (hc : 1 ≤ c.toNat) {fs : List NetEvent}
    (h : Relaying p q sid c (fs.flatMap (broughtBy p)) ms s)
    (undisturbing : ∀ e ∈ fs, Undisturbing p q e) :
    relayedTo q (System.run (RtmpServer.netStep env) s fs).log = relayedTo q s.log ++ ms := by
  induction fs generalizing s ms with
  | nil =>
      obtain ⟨t, -, -, hstanding⟩ := h.standing
      rw [hstanding.ended hc, List.append_nil]
      rfl
  | cons e fs ih =>
      rw [List.flatMap_cons] at h
      obtain ⟨done, ms', rfl, hnext, hfirst⟩ :=
        h.netStep env hc (undisturbing e List.mem_cons_self)
      have hrest := ih hnext fun e he => undisturbing e (List.mem_cons_of_mem _ he)
      rw [run_cons, hrest, hfirst, List.append_assoc]

/-- `p` publishes in the session, with chunks of this size, and is between two messages; `q` plays
the session, and no other. -/
structure Ready (p q : ConnId) (sid : SessionId) (c : UInt32) (s : RtmpServer) : Prop where
  live : s.live p = true
  role : (s.context p).role = .kPublisher
  session : (s.context p).session = some sid
  idle : ∃ t, s.transport p = some t ∧ t.handshake = .kHandshakeDone ∧ t.inputBuffer = [] ∧
    t.chunkParser.inChunkSize = c
  connected : s.connected q = true
  joined : Joined q sid s
  only : PlaysOnly q sid s

theorem Ready.relaying {es : List NetEvent} (h : Ready p q sid c (netAfter env es))
    (media : ∀ m ∈ ms, isMedia m) (sound : ∀ m ∈ ms, Relayable m) :
    Relaying p q sid c (encodeAll c ms) ms (netAfter env es) := by
  obtain ⟨fs, hfs⟩ := netAfter_refines env es
  obtain ⟨t, ht, hdone, hbuf, hsize⟩ := h.idle
  have hplace : InPlace p q sid (netAfter env es) :=
    { sound := sound_netAfter env es
      bound := hfs ▸ publishersBound_after env fs
      nodup := hfs ▸ everySession_after lasting_nodup env fs
      live := h.live
      role := h.role
      session := h.session
      connected := h.connected
      joined := h.joined
      only := h.only }
  exact ⟨hplace, media, t, ht, hdone, hbuf ▸ .of_sending (.between hsize sound)⟩

/-- **From the publisher to the player.** The publisher sends the media `ms`, cut into any segments;
meanwhile the other connections do what they like, and the two stay. Then the player, which gets what
the server writes in any segments, reads what it was sent before, and then just these messages. -/
theorem relayed_end_to_end {es fs : List NetEvent} {segs : List Bytes} (hc : 1 ≤ c.toNat)
    (ready : Ready p q sid c (netAfter env es))
    (media : ∀ m ∈ ms, isMedia m) (sound : ∀ m ∈ ms, Relayable m)
    (sent : fs.flatMap (broughtBy p) = encodeAll c ms)
    (undisturbing : ∀ e ∈ fs, Undisturbing p q e)
    (early : ∀ m ∈ relayedTo q (netAfter env es).log, m.timestamp < 0x00FFFFFF)
    (cut : segs.flatten = (output q (netAfter env (es ++ fs)).log).drop 3073) :
    (feed {} [] segs).error = none ∧ (feed {} [] segs).buf = [] ∧
      ((feed {} [] segs).messages.filter fun m => isMedia m) =
        relayedTo q (netAfter env es).log ++ ms := by
  have hrelayed : relayedTo q (netAfter env (es ++ fs)).log =
      relayedTo q (netAfter env es).log ++ ms := by
    have hrun := (sent ▸ ready.relaying media sound).run env hc undisturbing
    rwa [netAfter, run_append]
  have hearly : ∀ m ∈ relayedTo q (netAfter env (es ++ fs)).log, m.timestamp < 0x00FFFFFF := by
    intro m hm
    rw [hrelayed, List.mem_append] at hm
    exact hm.elim (early m) fun hm => (sound m hm).early
  obtain ⟨-, herror, hbuf, -, hmessages⟩ := client_reads env (es ++ fs) q hearly cut
  exact ⟨herror, hbuf, hmessages.trans hrelayed⟩

/-- The publisher and the player of `relayRun`, before the frame. -/
def joinedRun : List NetEvent := relayRun.dropLast

theorem ready_joinedRun : Ready 0 1 0 kDefaultChunkSize (netAfter {} joinedRun) := by
  have hplayers : ((netAfter {} joinedRun).heap 0).map (·.players) = some [1] := by decide +kernel
  have htransport : ((netAfter {} joinedRun).transport 0).map (fun t =>
      (t.handshake, t.inputBuffer, t.chunkParser.inChunkSize)) =
        some (.kHandshakeDone, [], kDefaultChunkSize) := by decide +kernel
  have hnext : (netAfter {} joinedRun).nextSession = 1 := by decide +kernel
  obtain ⟨session, hsession, hmem⟩ := Option.map_eq_some_iff.mp hplayers
  obtain ⟨t, ht, hfields⟩ := Option.map_eq_some_iff.mp htransport
  obtain ⟨hdone, hrest⟩ := Prod.mk.inj hfields
  obtain ⟨hbuf, hsize⟩ := Prod.mk.inj hrest
  refine ⟨by decide +kernel, by decide +kernel, by decide +kernel, ⟨t, ht, hdone, hbuf, hsize⟩,
    by decide +kernel, ⟨session, hsession, by simp [hmem]⟩, ?_⟩
  rintro i key ⟨other, hother, -, -⟩
  have hlt : i < (netAfter {} joinedRun).nextSession :=
    (sound_netAfter {} joinedRun).managed.fresh hother
  rw [hnext] at hlt
  exact Nat.lt_one_iff.mp hlt

/-- A key frame. -/
def keyFrame : RtmpMessage := Client.video 1 [0x17, 1]

/-- It comes in two segments, and a connection between them. -/
def cutRun : List NetEvent := [
  .receive 0 ((encodeMessage keyFrame kDefaultChunkSize).take 3), .accept,
  .receive 0 ((encodeMessage keyFrame kDefaultChunkSize).drop 3)]

theorem relayed_end_to_end_keyFrame :
    ((feed {} [] [(output 1 (netAfter {} (joinedRun ++ cutRun)).log).drop 3073]).messages.filter
      fun m => isMedia m) = [keyFrame] := by
  have hnone : relayedTo 1 (netAfter {} joinedRun).log = [] := by decide +kernel
  have hmedia : ∀ m ∈ [keyFrame], isMedia m := by decide
  have hsound : ∀ m ∈ [keyFrame], Relayable m := by
    intro m hm
    obtain rfl := List.mem_singleton.mp hm
    exact ⟨by decide, by decide, by decide, by decide, by decide⟩
  have hsent : cutRun.flatMap (broughtBy 0) = encodeAll kDefaultChunkSize [keyFrame] := by
    decide +kernel
  have hundisturbing : ∀ e ∈ cutRun, Undisturbing 0 1 e := by
    intro e he
    simp only [cutRun, List.mem_cons, List.not_mem_nil, or_false] at he
    rcases he with rfl | rfl | rfl
    · exact Nat.zero_ne_one
    · trivial
    · exact Nat.zero_ne_one
  have hrelayed := relayed_end_to_end (by decide) ready_joinedRun hmedia hsound hsent
    hundisturbing (by simp [hnone]) List.flatten_singleton
  exact hrelayed.2.2.trans (by rw [hnone]; rfl)

end Run

end RtmpServer

end Rmuduo.Rtmp
