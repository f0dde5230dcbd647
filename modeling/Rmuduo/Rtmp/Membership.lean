/-
Members of sessions.

A connection is a member of a session as its publisher or as a player (`Member`). A member
comes in by joining and goes when it is cleaned up after, or when a broadcast erases it.

* `Member.of_join` — joining adds the connection, in the role in which it joins.
* `Member.of_cleanupConnection` — a clean-up removes the connection from the session that
  its context names, in the role that its context has, and from nowhere else.
* `Silent` — no media is sent.
* `Sound` — what every reachable state has.
-/

import Rmuduo.Rtmp.SessionStore

namespace Rmuduo.Rtmp

open Lib

/-- The connection is in the session in this role. -/
def RtmpSession.Holds (session : RtmpSession) (c : ConnId) : ConnectionRole → Prop
  | .kPublisher => session.publisher = some c
  | .kPlayer => c ∈ session.players
  | .kUnknown => False

namespace RtmpServer

/-- `c` is in the live session `sid` of a stream key, in a role. -/
def Member (s : RtmpServer) (c : ConnId) (role : ConnectionRole) (sid : SessionId)
    (streamKey : Bytes) : Prop :=
  ∃ session, s.heap sid = some session ∧ session.streamKey = streamKey ∧ session.Holds c role

/-- `c` is in no session, or only in the one of this key and in this role. -/
def OnlyMember (s : RtmpServer) (c : ConnId) (role : ConnectionRole) (streamKey : Bytes) : Prop :=
  ∀ r sid key, s.Member c r sid key → r = role ∧ key = streamKey

/-! ### How membership changes -/

section Changes

variable {s s' : RtmpServer} {c d : ConnId} {role r : ConnectionRole} {sid : SessionId}
  {streamKey key : Bytes}

theorem holds_setPublisher {session : RtmpSession} (h : (session.setPublisher c).1.Holds d r) :
    session.Holds d r ∨ (d = c ∧ r = .kPublisher) := by
  cases r with
  | kPublisher =>
      cases hset : (session.setPublisher c).2 with
      | false =>
          rw [RtmpSession.setPublisher_rejects hset] at h
          exact .inl h
      | true =>
          have hpub : some c = some d := (RtmpSession.setPublisher_publisher hset).symm.trans h
          exact .inr ⟨(Option.some.inj hpub).symm, rfl⟩
  | kPlayer => exact .inl (by simpa [RtmpSession.Holds] using h)
  | kUnknown => exact h.elim

theorem holds_addPlayer {session : RtmpSession} (h : (session.addPlayer c).Holds d r) :
    session.Holds d r ∨ (d = c ∧ r = .kPlayer) := by
  cases r with
  | kPublisher => exact .inl (by simpa [RtmpSession.Holds] using h)
  | kPlayer => exact (RtmpSession.mem_addPlayer.mp h).imp_right fun hd => ⟨hd, rfl⟩
  | kUnknown => exact h.elim

theorem holds_cleaned {session : RtmpSession} :
    (cleaned role c session).Holds d r ↔ session.Holds d r ∧ ¬ (d = c ∧ r = role) := by
  cases r with
  | kPublisher =>
      simp only [RtmpSession.Holds, cleaned_publisher, not_and]
      exact and_congr_right fun _ => ⟨fun h hd hr => h hr.symm hd, fun h hr hd => h hd hr.symm⟩
  | kPlayer =>
      simp only [RtmpSession.Holds, mem_cleaned_players, not_and]
      exact and_congr_right fun _ => ⟨fun h hd hr => h hr.symm hd, fun h hr hd => h hd hr.symm⟩
  | kUnknown => simp [RtmpSession.Holds]

theorem holds_afterMedia {media : Media} {session : RtmpSession}
    (h : (s.afterMedia media session).Holds d r) : session.Holds d r := by
  cases r with
  | kPublisher => simpa [RtmpSession.Holds, afterMedia] using h
  | kPlayer =>
      have hmem := (RtmpSession.mem_dropDisconnected.mp h).1
      rwa [RtmpSession.cacheMediaMessage_players] at hmem
  | kUnknown => exact h

theorem Member.congr (hheap : s'.heap = s.heap) :
    s'.Member d r sid key ↔ s.Member d r sid key := by
  simp only [Member, hheap]

theorem OnlyMember.congr (hheap : s'.heap = s.heap)
    (h : s.OnlyMember c role streamKey) : s'.OnlyMember c role streamKey :=
  fun r sid key hmem => h r sid key ((Member.congr hheap).mp hmem)

theorem onlyMember_of_no_sessions (hm : Managed s) (hnone : s.nextSession = 0) :
    s.OnlyMember c role streamKey := by
  rintro r sid key ⟨session, hsid, -, -⟩
  exact absurd (hnone ▸ hm.fresh hsid) (Nat.not_lt_zero sid)

/-- A session that a connection is in is the one that the manager holds under its key. -/
theorem Member.sessions (h : s.Member d r sid key) (hm : Managed s) :
    s.sessions key = some sid := by
  obtain ⟨session, hsid, rfl, -⟩ := h
  exact hm.key_of_session hsid

/-- Joining makes the connection a member, and nothing else changes. -/
theorem Member.of_join {enter : RtmpSession → RtmpSession}
    (hkey : ∀ x, (enter x).streamKey = x.streamKey)
    (henter : ∀ x, (enter x).Holds d r → x.Holds d r ∨ (d = c ∧ r = role))
    (h : (s.join c streamKey role enter).Member d r sid key) :
    s.Member d r sid key ∨
      (d = c ∧ r = role ∧ sid = (s.getOrCreateSession streamKey).2) := by
  obtain ⟨session', hsid, hsession, hholds⟩ := h
  obtain ⟨session, hget, rfl⟩ := modifySession_heap.mp hsid
  have hold : session.Holds d r → session.streamKey = key → s.Member d r sid key := by
    intro hd hk
    rcases getOrCreateSession_heap_cases hget with hs | ⟨-, rfl⟩
    · exact ⟨session, hs, hk, hd⟩
    · cases r <;> cases hd
  split at hsession
  · rename_i hsame
    rw [if_pos hsame] at hholds
    rw [hkey] at hsession
    rcases henter session hholds with hd | ⟨hd, hr⟩
    · exact .inl (hold hd hsession)
    · exact .inr ⟨hd, hr, hsame⟩
  · rename_i hother
    rw [if_neg hother] at hholds
    exact .inl (hold hholds hsession)

theorem Member.of_becomePublisher
    (h : (s.becomePublisher c streamKey).Member d r sid key) :
    s.Member d r sid key ∨
      (d = c ∧ r = .kPublisher ∧ sid = (s.getOrCreateSession streamKey).2) :=
  Member.of_join (fun x => x.setPublisher_streamKey c) (fun _ => holds_setPublisher) h

theorem Member.of_becomePlayer
    (h : (s.becomePlayer c streamKey).Member d r sid key) :
    s.Member d r sid key ∨
      (d = c ∧ r = .kPlayer ∧ sid = (s.getOrCreateSession streamKey).2) :=
  Member.of_join (fun x => x.addPlayer_streamKey c) (fun _ => holds_addPlayer) h

theorem Member.of_onMediaMessage {session : RtmpSession} {i : SessionId} {media : Media}
    {n : UInt32} (alive : s.heap i = some session)
    (h : (s.onMediaMessage i media n).Member d r sid key) : s.Member d r sid key := by
  rw [onMediaMessage_eq alive] at h
  obtain ⟨session', hsid, hkey, hholds⟩ := h
  obtain ⟨x, hx, rfl⟩ := modifySession_heap.mp hsid
  refine ⟨x, hx, ?_, ?_⟩
  · split at hkey
    · simpa [afterMedia] using hkey
    · exact hkey
  · split at hholds
    · exact holds_afterMedia hholds
    · exact hholds

/-- Every session has a key. -/
def Named (s : RtmpServer) : Prop :=
  ∀ sid session, s.heap sid = some session → session.streamKey ≠ []

/-- **What a clean-up leaves.** A member stays one, unless it is the connection itself, in the
role and under the key of its context. -/
theorem Member.of_cleanupConnection (hm : Managed s) (hn : Named s)
    (h : (s.cleanupConnection c).Member d r sid key) :
    s.Member d r sid key ∧
      ¬ (d = c ∧ r = (s.context c).role ∧ key = (s.context c).streamKey) := by
  obtain ⟨session', hsid, hkey, hholds⟩ := h
  obtain ⟨session, hs, hcase⟩ := cleanupConnection_heap.mp hsid
  by_cases hnamed : s.namedSession c = some sid
  · rw [if_pos hnamed] at hcase
    rw [hcase.1] at hkey hholds
    rw [cleaned_streamKey] at hkey
    obtain ⟨hd, hleft⟩ := holds_cleaned.mp hholds
    exact ⟨⟨session, hs, hkey, hd⟩, fun ⟨hc, hr, _⟩ => hleft ⟨hc, hr⟩⟩
  · rw [if_neg hnamed] at hcase
    subst hcase
    refine ⟨⟨session', hs, hkey, hholds⟩, ?_⟩
    rintro ⟨-, -, hsame⟩
    -- The session of the context's key is the one that the context names.
    apply hnamed
    rw [hsame] at hkey
    unfold namedSession
    rw [if_neg (hkey ▸ hn sid _ hs), ← hkey]
    exact hm.key_of_session hs

theorem Member.of_close (hm : Managed s) (hn : Named s)
    (h : (s.close c).Member d r sid key) :
    s.Member d r sid key ∧
      ¬ (d = c ∧ r = (s.context c).role ∧ key = (s.context c).streamKey) := by
  have hgone : Managed (s.modifyConnection c fun conn => { conn with state := .kDisconnected }) :=
    hm.congr rfl rfl rfl
  have hleft := Member.of_cleanupConnection hgone hn h
  rwa [close_context] at hleft

end Changes

theorem lasting_named : Lasting fun session => session.streamKey ≠ [] where
  new _ named := named
  setPublisher x c h := by rwa [x.setPublisher_streamKey]
  addPlayer x c h := by rwa [x.addPlayer_streamKey]
  cleaned role c x h := by rwa [cleaned_streamKey]
  afterMedia s media x h := by simpa [afterMedia] using h

theorem Named.move {env : Environment} {s s' : RtmpServer} (h : Named s)
    (hmove : Move env s s') : Named s' :=
  EverySession.move lasting_named h hmove

/-! ### Sending no media -/

def isMediaAction : Action → Bool
  | .media _ _ _ _ => true
  | .send _ _ => false
  | .authorize _ _ _ _ _ => false
  | .create _ _ => false

/-- No media is sent on the way from one state to the other. -/
def Silent (s s' : RtmpServer) : Prop :=
  ∃ actions, s'.log = s.log ++ actions ∧ ∀ a ∈ actions, isMediaAction a = false

section Silence

variable {s s' s₁ : RtmpServer}

theorem Silent.of_log (h : s'.log = s.log) : Silent s s' :=
  ⟨[], by simp [h], by simp⟩

theorem Silent.refl (s : RtmpServer) : Silent s s := .of_log rfl

theorem Silent.trans (h : Silent s s₁) (h' : Silent s₁ s') : Silent s s' := by
  obtain ⟨a, ha, hsa⟩ := h
  obtain ⟨b, hb, hsb⟩ := h'
  refine ⟨a ++ b, by rw [hb, ha, List.append_assoc], ?_⟩
  intro x hx
  rcases List.mem_append.mp hx with hx | hx
  · exact hsa x hx
  · exact hsb x hx

theorem Silent.of_quiet (h : Quiet s s') : Silent s s' := by
  obtain ⟨actions, hlog, hquiet⟩ := h.log
  refine ⟨actions, hlog, ?_⟩
  intro a ha
  cases a with
  | media => cases hquiet _ ha
  | send => rfl
  | authorize => rfl
  | create => rfl

theorem silent_join (s : RtmpServer) (c : ConnId) (streamKey : Bytes) (role : ConnectionRole)
    (enter : RtmpSession → RtmpSession) : Silent s (s.join c streamKey role enter) := by
  change Silent s (s.getOrCreateSession streamKey).1
  cases hkey : s.sessions streamKey with
  | some sid =>
      rw [getOrCreateSession_of_some hkey]
      exact .refl s
  | none =>
      rw [getOrCreateSession_of_none hkey]
      exact ⟨[.create s.nextSession streamKey], rfl, by simp [isMediaAction]⟩

theorem silent_leave (s : RtmpServer) (c : ConnId) : Silent s (s.detachConnectionFromSession c) :=
  .of_log (cleanupConnection_log s c)

end Silence

/-! ### Members are connections -/

/-- Connections and members have been accepted. -/
structure Known (s : RtmpServer) : Prop where
  connection : ∀ c, s.binding c ≠ none → c < s.nextConn
  member : ∀ {c role sid key}, s.Member c role sid key → c < s.nextConn

theorem binding_of_live {s : RtmpServer} {c : ConnId} (h : s.live c = true) :
    s.binding c ≠ none := by
  intro hnone
  rw [live_eq_binding, hnone] at h
  cases h

theorem binding_modifyConnection_none {s : RtmpServer} {c d : ConnId} {f : Connection → Connection}
    (h : (s.modifyConnection c f).binding d ≠ none) : s.binding d ≠ none := by
  by_cases hd : d = c
  · subst hd
    rw [binding_modifyConnection_self] at h
    simpa [binding] using h
  · rwa [binding_modifyConnection_ne hd] at h

theorem Known.mono {s s' : RtmpServer} (h : Known s) (hnext : s'.nextConn = s.nextConn)
    (hbinding : ∀ c, s'.binding c ≠ none → s.binding c ≠ none)
    (hmember : ∀ {c role sid key}, s'.Member c role sid key → s.Member c role sid key) :
    Known s' where
  connection c hc := hnext ▸ h.connection c (hbinding c hc)
  member hc := hnext ▸ h.member (hmember hc)

theorem Known.join {s : RtmpServer} (h : Known s) {c : ConnId} {streamKey : Bytes}
    {role : ConnectionRole} {enter : RtmpSession → RtmpSession} (hlive : s.live c = true)
    (hmember : ∀ {d r sid key}, (s.join c streamKey role enter).Member d r sid key →
      s.Member d r sid key ∨ (d = c ∧ r = role ∧ sid = (s.getOrCreateSession streamKey).2)) :
    Known (s.join c streamKey role enter) := by
  have hnext : (s.join c streamKey role enter).nextConn = s.nextConn := getOrCreateSession_nextConn
  constructor
  · intro d hd
    rw [hnext]
    have hold : (s.getOrCreateSession streamKey).1.binding d ≠ none :=
      binding_modifyConnection_none hd
    rw [binding_of_connections getOrCreateSession_connections d] at hold
    exact h.connection d hold
  · intro d r sid key hd
    rw [hnext]
    rcases hmember hd with hold | ⟨rfl, -, -⟩
    · exact h.member hold
    · exact h.connection d (binding_of_live hlive)

theorem Known.move {env : Environment} {s s' : RtmpServer} (h : Known s) (hm : Managed s)
    (hn : Named s) (hmove : Move env s s') : Known s' := by
  cases hmove with
  | quiet hq =>
      exact h.mono hq.nextConn (fun d hd => by rwa [hq.binding] at hd) (Member.congr hq.heap).mp
  | becomePublisher live => exact h.join live Member.of_becomePublisher
  | becomePlayer live => exact h.join live Member.of_becomePlayer
  | replay =>
      obtain ⟨actions, heq⟩ := replay_frame s _ _ _
      rw [heq]
      exact h.mono rfl (fun _ hd => hd) fun hd => hd
  | media live role bound alive message n =>
      refine h.mono ?_ ?_ (Member.of_onMediaMessage alive)
      · rw [onMediaMessage_eq alive]
        rfl
      · intro d hd
        rwa [onMediaMessage_eq alive] at hd
  | leave c =>
      refine h.mono (cleanupConnection_nextConn s c) ?_ fun hd =>
        (Member.of_cleanupConnection hm hn hd).1
      intro d hd
      have hold := binding_modifyConnection_none hd
      rwa [binding_of_connections (cleanupConnection_connections s c)] at hold
  | shutdown c => exact h.mono rfl (fun _ hd => binding_modifyConnection_none hd) fun hd => hd
  | accept =>
      constructor
      · intro d hd
        by_cases hnew : d = s.nextConn
        · exact hnew ▸ Nat.lt_succ_self _
        · rw [accept_binding_ne hnew] at hd
          exact Nat.lt_succ_of_lt (h.connection d hd)
      · intro d r sid key hd
        exact Nat.lt_succ_of_lt (h.member (s := s) hd)
  | @close c live =>
      refine h.mono (cleanupConnection_nextConn _ c) ?_ fun hd => (Member.of_close hm hn hd).1
      intro d hd
      rw [RtmpServer.close, binding_of_connections (cleanupConnection_connections _ c)] at hd
      exact binding_modifyConnection_none hd

/-- What every reachable state has, whatever the clients do. -/
structure Sound (s : RtmpServer) : Prop where
  managed : Managed s
  named : Named s
  known : Known s

theorem sound_init : Sound {} where
  managed := managed_init
  named _ _ hsid := by cases hsid
  known := ⟨fun _ h => absurd rfl h, fun ⟨_, hsid, _⟩ => by cases hsid⟩

theorem Sound.move {env : Environment} {s s' : RtmpServer} (h : Sound s) (hmove : Move env s s') :
    Sound s' where
  managed := h.managed.move hmove
  named := h.named.move hmove
  known := h.known.move h.managed h.named hmove

theorem Sound.step {s : RtmpServer} (h : Sound s) (env : Environment) (e : Event) :
    Sound (step env s e) :=
  moves_invariant (fun _ _ hmove hs => hs.move hmove) (step_moves env s e) h

end RtmpServer

end Rmuduo.Rtmp
