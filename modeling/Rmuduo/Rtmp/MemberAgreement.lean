/-
Members and their own contexts.

`publish` and `play` bind the context to the session that they join and forget the one
before it, without leaving that one. A connection that publishes or plays twice can so be
a member of a session that its context does not know of. The condition `Single` excludes
just this: a connection joins a session only when it is in no other session and in no
other role, and gives up a stream only under the key of the session that it is in.

* `Agrees.effect` — a message keeps the agreement of members and contexts.
* `members_agree` — in every run whose steps are `Single`, members and contexts agree, a
  connection is in at most one session, and it receives media of that session only.
-/

import Rmuduo.Rtmp.Membership

namespace Rmuduo.Rtmp.RtmpServer

open Lib System

/-- A live member of a session has its role there, and is bound to it. -/
def Agrees (s : RtmpServer) : Prop :=
  ∀ c role sid key, s.live c = true → s.Member c role sid key →
    (s.context c).role = role ∧ (s.context c).session = some sid

/-- A message makes its connection join a session only when that is in no other session and
no other role, and leave only under the key of the session that it is in. -/
def Single (env : Environment) (s : RtmpServer) : Event → Prop
  | .message c message =>
      s.live c = true → ∀ command, commandOf message = some command →
        (command.name = ascii "publish" → ∀ key, Publishes env s c command key →
          s.OnlyMember c .kPublisher key) ∧
        (command.name = ascii "play" → ∀ key, Plays env s c command key →
          s.OnlyMember c .kPlayer key) ∧
        (command.name = ascii "deleteStream" ∨ command.name = ascii "closeStream" →
          s.deleteCheck c command = .accepted →
          s.OnlyMember c (s.context c).role (s.context c).streamKey)
  | _ => True

section Keeping

variable {env : Environment} {s s' : RtmpServer} {c : ConnId} {streamKey : Bytes}

/-- The agreement survives when the members and the live connections become no more. -/
theorem Agrees.mono (h : Agrees s) (hlive : ∀ d, s'.live d = true → s.live d = true)
    (hcontext : ∀ d, s'.live d = true → (s'.context d).role = (s.context d).role ∧
      (s'.context d).session = (s.context d).session)
    (hmember : ∀ {d r sid key}, s'.Member d r sid key → s.Member d r sid key) : Agrees s' := by
  intro d r sid key hd hmem
  obtain ⟨hrole, hsession⟩ := h d r sid key (hlive d hd) (hmember hmem)
  exact ⟨(hcontext d hd).1.trans hrole, (hcontext d hd).2.trans hsession⟩

/-- The agreement of the connections but `c` survives, when their bindings do. -/
theorem Agrees.of_others (h : Agrees s) (hbinding : ∀ d, d ≠ c → s'.binding d = s.binding d)
    (hmember : ∀ {d r sid key}, d ≠ c → s'.Member d r sid key → s.Member d r sid key)
    (hself : ∀ {r sid key}, s'.live c = true → s'.Member c r sid key →
      (s'.context c).role = r ∧ (s'.context c).session = some sid) : Agrees s' := by
  intro d r sid key hd hmem
  by_cases hdc : d = c
  · subst hdc
    exact hself hd hmem
  · have hb := hbinding d hdc
    obtain ⟨hrole, hsession⟩ := h d r sid key ((live_congr hb).symm.trans hd)
      (hmember hdc hmem)
    exact ⟨(role_congr hb).trans hrole, (session_congr hb).trans hsession⟩

theorem Agrees.quiet (h : Agrees s) (hq : Quiet s s') : Agrees s' :=
  h.mono (fun d hd => (live_congr (hq.binding d)).symm.trans hd)
    (fun d _ => ⟨role_congr (hq.binding d), session_congr (hq.binding d)⟩) (Member.congr hq.heap).mp

theorem Agrees.shutdown (h : Agrees s) (c : ConnId) : Agrees (s.shutdown c) :=
  h.mono (fun _ hd => shutdown_live.symm.trans hd)
    (fun _ _ => ⟨by rw [shutdown_context], by rw [shutdown_context]⟩) fun hmem => hmem

/-- Joining a session, when the connection is in no other. -/
theorem Agrees.join (h : Agrees s) (hm : Managed s) {role : ConnectionRole}
    {enter : RtmpSession → RtmpSession} (only : s.OnlyMember c role streamKey)
    (hmember : ∀ {d r sid key}, (s.join c streamKey role enter).Member d r sid key →
      s.Member d r sid key ∨ (d = c ∧ r = role ∧ sid = (s.getOrCreateSession streamKey).2)) :
    Agrees (s.join c streamKey role enter) := by
  apply h.of_others (c := c)
  · intro d hd
    exact join_binding_ne hd
  · intro d r sid key hd hmem
    rcases hmember hmem with hold | ⟨hself, -, -⟩
    · exact hold
    · exact absurd hself hd
  · intro r sid key hlive hmem
    have hlive' : s.live c = true := join_live.symm.trans hlive
    rw [join_role hlive', join_session hlive']
    rcases hmember hmem with hold | ⟨-, hr, hsid⟩
    · -- The session that the connection is in is the one that it joins again.
      obtain ⟨hr, hkey⟩ := only r sid key hold
      have hsid : s.sessions streamKey = some sid := hkey ▸ hold.sessions hm
      rw [getOrCreateSession_of_some hsid]
      exact ⟨hr.symm, rfl⟩
    · exact ⟨hr.symm, congrArg some hsid.symm⟩

theorem Agrees.leave (h : Agrees s) (hs : Sound s)
    (only : s.OnlyMember c (s.context c).role (s.context c).streamKey) :
    Agrees (s.detachConnectionFromSession c) := by
  have hmember : ∀ {d r sid key}, (s.detachConnectionFromSession c).Member d r sid key →
      s.Member d r sid key ∧
        ¬ (d = c ∧ r = (s.context c).role ∧ key = (s.context c).streamKey) :=
    fun hmem => Member.of_cleanupConnection hs.managed hs.named hmem
  apply h.of_others (c := c)
  · intro d hd
    exact (binding_modifyConnection_ne hd).trans
      (binding_of_connections (cleanupConnection_connections s c) d)
  · intro d r sid key _ hmem
    exact (hmember hmem).1
  · intro r sid key _ hmem
    obtain ⟨hold, hkept⟩ := hmember hmem
    exact absurd ⟨rfl, only r sid key hold⟩ hkept

theorem Agrees.close (h : Agrees s) (hs : Sound s) (c : ConnId) : Agrees (s.close c) := by
  apply h.of_others (c := c)
  · intro d hd
    exact close_binding_ne hd
  · intro d r sid key _ hmem
    exact (Member.of_close hs.managed hs.named hmem).1
  · intro r sid key hlive
    rw [close_live] at hlive
    cases hlive

theorem Agrees.accept (h : Agrees s) (hs : Sound s) : Agrees s.accept := by
  apply h.of_others (c := s.nextConn)
  · intro d hd
    exact accept_binding_ne hd
  · intro d r sid key _ hmem
    exact hmem
  · intro r sid key _ hmem
    exact absurd (hs.known.member (s := s) hmem) (Nat.lt_irrefl _)

/-- What a message does keeps the agreement. -/
theorem Agrees.effect {message : RtmpMessage} (h : Agrees s) (hs : Sound s)
    (hlive : s.live c = true) (single : Single env s (.message c message))
    (heffect : MessageEffect env s c message s') : Agrees s' := by
  cases heffect with
  | quiet hq => exact h.quiet hq
  | publish hcommand hname accepted named asked granted joined =>
      have only := (single hlive _ hcommand).1 hname _ accepted
      have hjoin := (h.quiet asked).join (hs.managed.quiet asked) (only.congr asked.heap)
        Member.of_becomePublisher
      exact hjoin.quiet joined
  | play hcommand hname accepted named asked granted joined replayed =>
      have only := (single hlive _ hcommand).2.1 hname _ accepted
      have hjoin := (h.quiet asked).join (hs.managed.quiet asked) (only.congr asked.heap)
        Member.of_becomePlayer
      have hs₂ := hjoin.quiet joined
      obtain ⟨actions, heq⟩ := replay_frame _ _ _ _
      rw [replayed, heq]
      exact hs₂
  | leave hcommand hname accepted left =>
      have only := (single hlive _ hcommand).2.2 hname accepted
      exact left ▸ h.leave hs only
  | media hmedia role bound alive sent =>
      rw [sent]
      refine h.mono ?_ ?_ (Member.of_onMediaMessage alive)
      · intro d hd
        rwa [onMediaMessage_eq alive] at hd
      · intro d _
        rw [onMediaMessage_eq alive]
        exact ⟨rfl, rfl⟩

theorem Agrees.step (h : Agrees s) (hs : Sound s) {e : Event} (single : Single env s e) :
    Agrees (step env s e) := by
  cases e with
  | accept => exact h.accept hs
  | transport c t =>
      exact h.quiet (quiet_modifyConnection (f := (·.withTransport t))
        (fun _ => rfl) (fun _ => rfl) (fun _ => rfl) s c)
  | respond c response => exact h.quiet (quiet_send s c response)
  | shutdown c => exact h.shutdown c
  | close c =>
      dsimp only [RtmpServer.step]
      split
      · exact h.close hs c
      · exact h
  | message c message =>
      by_cases hlive : s.live c = true
      · obtain ⟨s₁, heffect, hstep | hstep⟩ := step_message env message hlive
        · exact hstep ▸ h.effect hs hlive single heffect
        · exact hstep ▸ (h.effect hs hlive single heffect).shutdown c
      · rw [step_message_dead env message hlive]
        exact h

end Keeping

/-! ### Media goes to members -/

section Media

variable {env : Environment} {s s₁ s' : RtmpServer} {c : ConnId}

/-- Whatever media is sent on the way goes to live players of the session that sends it. -/
def SendsToPlayers (s s' : RtmpServer) : Prop :=
  ∃ actions, s'.log = s.log ++ actions ∧ ∀ q sid m n, .media q sid m n ∈ actions →
    s'.live q = true ∧ ∃ key, s'.Member q .kPlayer sid key

theorem SendsToPlayers.of_silent (h : Silent s s') : SendsToPlayers s s' := by
  obtain ⟨actions, hlog, hsilent⟩ := h
  refine ⟨actions, hlog, ?_⟩
  intro q sid m n hmem
  cases hsilent _ hmem

theorem SendsToPlayers.after_silent (h : Silent s s₁) (h' : SendsToPlayers s₁ s') :
    SendsToPlayers s s' := by
  obtain ⟨before, hbefore, hsilent⟩ := h
  obtain ⟨actions, hlog, hsent⟩ := h'
  refine ⟨before ++ actions, by rw [hlog, hbefore, List.append_assoc], ?_⟩
  intro q sid m n hmem
  rcases List.mem_append.mp hmem with hmem | hmem
  · cases hsilent _ hmem
  · exact hsent q sid m n hmem

theorem SendsToPlayers.shutdown (h : SendsToPlayers s s') (c : ConnId) :
    SendsToPlayers s (s'.shutdown c) := by
  obtain ⟨actions, hlog, hsent⟩ := h
  refine ⟨actions, hlog, ?_⟩
  intro q sid m n hmem
  rw [shutdown_live]
  exact hsent q sid m n hmem

theorem sendsToPlayers_replay {session : RtmpSession} {sid : SessionId} {n : UInt32}
    (alive : s.heap sid = some session) (player : c ∈ session.players) :
    SendsToPlayers s (s.replayCachedMessagesToPlayer sid c n) := by
  unfold replayCachedMessagesToPlayer
  rw [alive]
  dsimp only
  split
  · rename_i hconnected
    refine ⟨_, rfl, ?_⟩
    intro q i m k hmem
    obtain ⟨media, -, hmedia⟩ := List.mem_map.mp hmem
    cases hmedia
    exact ⟨live_of_connected hconnected, session.streamKey, session, alive, rfl, player⟩
  · exact .of_silent (.refl s)

theorem sendsToPlayers_onMediaMessage {session : RtmpSession} {sid : SessionId} {media : Media}
    {n : UInt32} (alive : s.heap sid = some session) :
    SendsToPlayers s (s.onMediaMessage sid media n) := by
  rw [onMediaMessage_eq alive]
  refine ⟨_, rfl, ?_⟩
  intro q i m k hmem
  obtain ⟨player, hplayer, hmedia⟩ := List.mem_map.mp hmem
  cases hmedia
  obtain ⟨hin, hconnected⟩ := List.mem_filter.mp hplayer
  have hafter : (s.afterMedia media session).Holds q .kPlayer := by
    refine RtmpSession.mem_dropDisconnected.mpr ⟨?_, hconnected⟩
    rwa [RtmpSession.cacheMediaMessage_players]
  refine ⟨live_of_connected (s := s) hconnected, session.streamKey, _,
    modifySession_heap.mpr ⟨session, alive, rfl⟩, ?_, ?_⟩
  · simp [afterMedia]
  · rw [if_pos rfl]
    exact hafter

theorem SendsToPlayers.effect {message : RtmpMessage}
    (h : MessageEffect env s c message s') : SendsToPlayers s s' := by
  cases h with
  | quiet hq => exact .of_silent (.of_quiet hq)
  | publish _ _ _ _ asked _ joined =>
      exact .of_silent (((Silent.of_quiet asked).trans (silent_join ..)).trans (.of_quiet joined))
  | @play _ streamKey s₁ s₂ n _ _ _ _ asked _ joined replayed =>
      have silent : Silent s s₂ :=
        ((Silent.of_quiet asked).trans (silent_join ..)).trans (.of_quiet joined)
      rw [replayed]
      refine .after_silent silent ?_
      cases halive : s₂.heap (s₁.getOrCreateSession streamKey).2 with
      | none =>
          unfold replayCachedMessagesToPlayer
          rw [halive]
          exact .of_silent (.refl s₂)
      | some session =>
          refine sendsToPlayers_replay halive ?_
          rw [joined.heap] at halive
          exact becomePlayer_heap halive
  | leave _ _ _ left => exact left ▸ .of_silent (silent_leave s c)
  | media _ _ _ alive sent => exact sent ▸ sendsToPlayers_onMediaMessage alive

theorem SendsToPlayers.step (env : Environment) (s : RtmpServer) (e : Event) :
    SendsToPlayers s (step env s e) := by
  cases e with
  | accept => exact .of_silent (.of_log rfl)
  | transport => exact .of_silent (.of_log rfl)
  | respond c response => exact .of_silent (.of_quiet (quiet_send s c response))
  | shutdown => exact .of_silent (.of_log rfl)
  | close c =>
      dsimp only [RtmpServer.step]
      split
      · exact .of_silent (.of_log (cleanupConnection_log _ c))
      · exact .of_silent (.refl s)
  | message c message =>
      by_cases hlive : s.live c = true
      · obtain ⟨s₁, heffect, hstep | hstep⟩ := step_message env message hlive
        · exact hstep ▸ .effect heffect
        · exact hstep ▸ (SendsToPlayers.effect heffect).shutdown c
      · rw [step_message_dead env message hlive]
        exact .of_silent (.refl s)

end Media

theorem agrees_after {env : Environment} {es : List Event}
    (single : Along (step env) (Single env) {} es) :
    Sound (after env es) ∧ Agrees (after env es) := by
  refine run_invariant (I := fun s => Sound s ∧ Agrees s) ?_ single ⟨sound_init, ?_⟩
  · rintro s e hsingle ⟨hs, ha⟩
    exact ⟨hs.step env e, ha.step hs hsingle⟩
  · intro c role sid key hlive
    cases hlive

theorem Agrees.lock {s : RtmpServer} (h : Agrees s) {c : ConnId} {role : ConnectionRole}
    {sid : SessionId} {key : Bytes} (hlive : s.live c = true) (hmem : s.Member c role sid key) :
    (s.context c).role = role ∧ s.lock c = some sid := by
  obtain ⟨hrole, hsession⟩ := h c role sid key hlive hmem
  obtain ⟨session, hsid, -, -⟩ := hmem
  exact ⟨hrole, lock_eq_some hsession hsid⟩

/-- **Members agree with their contexts.** In a run in which no connection joins a second
session or takes a second role, and none leaves under another key than its session's: a
live publisher or player of a session has that role and is bound to that session, so it is
in one session at most and in one role, and whatever media a step sends to a connection
comes from the session that the connection is bound to. -/
theorem members_agree (env : Environment) (es : List Event)
    (single : Along (step env) (Single env) {} es) :
    (∀ c sid session, (after env es).live c = true → (after env es).heap sid = some session →
      (session.publisher = some c → ((after env es).context c).role = .kPublisher ∧
        (after env es).lock c = some sid) ∧
      (c ∈ session.players → ((after env es).context c).role = .kPlayer ∧
        (after env es).lock c = some sid)) ∧
    (∀ c r r' sid sid' key key', (after env es).live c = true →
      (after env es).Member c r sid key → (after env es).Member c r' sid' key' →
      r = r' ∧ sid = sid') ∧
    (∀ es₁ e es₂ q sid m n, es = es₁ ++ e :: es₂ →
      .media q sid m n ∈ (after env (es₁ ++ [e])).log.drop (after env es₁).log.length →
      ((after env (es₁ ++ [e])).context q).role = .kPlayer ∧
        (after env (es₁ ++ [e])).lock q = some sid) := by
  refine ⟨?_, ?_, ?_⟩
  · intro c sid session hlive hsid
    have agrees := (agrees_after single).2
    constructor
    · intro hpub
      exact agrees.lock hlive ⟨session, hsid, rfl, hpub⟩
    · intro hplayer
      exact agrees.lock hlive ⟨session, hsid, rfl, hplayer⟩
  · intro c r r' sid sid' key key' hlive hmem hmem'
    have agrees := (agrees_after single).2
    obtain ⟨hrole, hlock⟩ := agrees.lock hlive hmem
    obtain ⟨hrole', hlock'⟩ := agrees.lock hlive hmem'
    exact ⟨hrole.symm.trans hrole', Option.some.inj (hlock.symm.trans hlock')⟩
  · intro es₁ e es₂ q sid m n hes hsent
    have hprefix : Along (step env) (Single env) {} (es₁ ++ [e]) := by
      rw [hes, List.append_cons, along_append] at single
      exact single.1
    have hafter : after env (es₁ ++ [e]) = step env (after env es₁) e := run_append _ _ _ _
    obtain ⟨actions, hlog, hplayers⟩ := SendsToPlayers.step env (after env es₁) e
    rw [hafter, hlog, List.drop_left] at hsent
    obtain ⟨hlive, key, hmem⟩ := hplayers q sid m n hsent
    rw [← hafter] at hlive hmem
    exact (agrees_after hprefix).2.lock hlive hmem

/-- As long as no session has been created, every step is `Single`. -/
theorem single_of_no_sessions {env : Environment} {s : RtmpServer} (hm : Managed s)
    (hnone : s.nextSession = 0) (e : Event) : Single env s e := by
  cases e with
  | message c message =>
      intro _ command _
      exact ⟨fun _ _ _ => onlyMember_of_no_sessions hm hnone,
        fun _ _ _ => onlyMember_of_no_sessions hm hnone,
        fun _ _ => onlyMember_of_no_sessions hm hnone⟩
  | accept => trivial
  | transport => trivial
  | respond => trivial
  | shutdown => trivial
  | close => trivial

theorem members_agree_publishing :
    let s := after {} (Client.publishing 0 (ascii "live") (ascii "a"))
    (s.context 0).role = .kPublisher ∧ s.lock 0 = some 0 := by
  let es := Client.publishing 0 (ascii "live") (ascii "a")
  have single : Along (step {}) (Single {}) {} es := by
    refine ⟨?_, ?_, ?_, ?_, trivial⟩
    · exact single_of_no_sessions managed_init rfl _
    · exact single_of_no_sessions (managed_after {} (es.take 1)) (by decide +kernel) _
    · exact single_of_no_sessions (managed_after {} (es.take 2)) (by decide +kernel) _
    · exact single_of_no_sessions (managed_after {} (es.take 3)) (by decide +kernel) _
  have heap : (after {} es).heap 0 =
      some { streamKey := ascii "/live/a", publisher := some 0 } := by
    decide +kernel
  exact ((members_agree {} es single).1 0 0 _ (by decide +kernel) heap).1 rfl

/-- Connection 0 plays `/live/a` and then `/live/b`, and a frame is published as `/live/a`. -/
def playsTwice : List Event :=
  Client.opening 0 (ascii "live") ++ Client.opening 1 (ascii "live") ++
    [.message 0 (Client.request "play" 1 (ascii "a")),
      .message 0 (Client.request "play" 1 (ascii "b")),
      .message 1 (Client.request "publish" 1 (ascii "a")), .message 1 (Client.video 1 [0x27, 1])]

/-- A player that plays a second stream stays in the first one, and gets its media. -/
theorem playsTwice_disagrees :
    (after {} playsTwice).live 0 = true ∧ (after {} playsTwice).lock 0 = some 1 ∧
      ((after {} playsTwice).heap 0).map (·.players) = some [0] ∧
      ((after {} playsTwice).heap 1).map (·.players) = some [0] ∧
      (after {} playsTwice).log.getLast? =
        some (.media 0 0 ⟨1, Client.video 1 [0x27, 1]⟩ 128) := by
  decide +kernel

end Rmuduo.Rtmp.RtmpServer
