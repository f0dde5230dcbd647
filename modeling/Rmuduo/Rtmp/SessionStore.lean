/-
The session objects and the session manager.

* `Managed` — the manager and the live session objects correspond: every key leads to a
  session of that key, and every session is found under its own key.
* `managed_after` — this holds after every run.
* `cleanupConnection_heap` — what cleaning up after a connection leaves of each session.
-/

import Rmuduo.Rtmp.ServerRun

namespace Rmuduo.Rtmp.RtmpServer

open Lib

/-- The session manager and the live session objects correspond. -/
structure Managed (s : RtmpServer) : Prop where
  session_of_key : ∀ {streamKey sid}, s.sessions streamKey = some sid →
    ∃ session, s.heap sid = some session ∧ session.streamKey = streamKey
  key_of_session : ∀ {sid session}, s.heap sid = some session →
    s.sessions session.streamKey = some sid
  fresh : ∀ {sid session}, s.heap sid = some session → sid < s.nextSession

theorem managed_init : Managed {} where
  session_of_key h := by cases h
  key_of_session h := by cases h
  fresh h := by cases h

theorem Managed.congr {s s' : RtmpServer} (h : Managed s) (hsessions : s'.sessions = s.sessions)
    (hheap : s'.heap = s.heap) (hnext : s'.nextSession = s.nextSession) : Managed s' := by
  refine ⟨fun hkey => ?_, fun hsid => ?_, fun hsid => ?_⟩
  · rw [hsessions] at hkey
    rw [hheap]
    exact h.session_of_key hkey
  · rw [hheap] at hsid
    rw [hsessions]
    exact h.key_of_session hsid
  · rw [hheap] at hsid
    rw [hnext]
    exact h.fresh hsid

theorem Managed.quiet {s s' : RtmpServer} (h : Managed s) (hq : Quiet s s') : Managed s' :=
  h.congr hq.sessions hq.heap hq.nextSession

/-! ### Single operations -/

section Operations

variable {s : RtmpServer} {sid sid' : SessionId} {streamKey : Bytes}

theorem modifySession_heap_self {f : RtmpSession → RtmpSession} :
    (s.modifySession sid f).heap sid = (s.heap sid).map f :=
  Function.update_self ..

theorem modifySession_heap_ne {f : RtmpSession → RtmpSession} (h : sid' ≠ sid) :
    (s.modifySession sid f).heap sid' = s.heap sid' :=
  Function.update_of_ne h ..

/-- The sessions after one of them has been modified. -/
theorem modifySession_heap {f : RtmpSession → RtmpSession} {session' : RtmpSession} :
    (s.modifySession sid f).heap sid' = some session' ↔
      ∃ session, s.heap sid' = some session ∧
        session' = if sid' = sid then f session else session := by
  by_cases h : sid' = sid
  · subst h
    simp only [modifySession_heap_self, Option.map_eq_some_iff, if_pos]
    exact ⟨fun ⟨x, hx, he⟩ => ⟨x, hx, he.symm⟩, fun ⟨x, hx, he⟩ => ⟨x, hx, he.symm⟩⟩
  · simp only [modifySession_heap_ne h, if_neg h]
    exact ⟨fun hx => ⟨session', hx, rfl⟩, fun ⟨x, hx, he⟩ => he ▸ hx⟩

theorem Managed.modifySession {f : RtmpSession → RtmpSession} (h : Managed s)
    (hf : ∀ x, (f x).streamKey = x.streamKey) (sid : SessionId) :
    Managed (s.modifySession sid f) := by
  refine ⟨fun {k i} hkey => ?_, fun {i x} hsid => ?_, fun {i x} hsid => ?_⟩
  · obtain ⟨x, hx, hk⟩ := h.session_of_key hkey
    refine ⟨if i = sid then f x else x, modifySession_heap.mpr ⟨x, hx, rfl⟩, ?_⟩
    split
    · rw [hf, hk]
    · exact hk
  · obtain ⟨y, hy, rfl⟩ := modifySession_heap.mp hsid
    have hk := h.key_of_session hy
    split
    · rw [hf]
      exact hk
    · exact hk
  · obtain ⟨y, hy, -⟩ := modifySession_heap.mp hsid
    exact h.fresh hy

/-- What `getOrCreateSession` leaves: the session of the key, and every other one. -/
theorem Managed.getOrCreateSession (h : Managed s) (streamKey : Bytes) :
    Managed (s.getOrCreateSession streamKey).1 ∧
      (s.getOrCreateSession streamKey).1.sessions streamKey =
        some (s.getOrCreateSession streamKey).2 := by
  cases hkey : s.sessions streamKey with
  | some sid =>
      rw [getOrCreateSession_of_some hkey]
      exact ⟨h, hkey⟩
  | none =>
      rw [getOrCreateSession_of_none hkey]
      have hnew : ∀ {x}, s.heap s.nextSession = some x → False := fun hx =>
        Nat.lt_irrefl _ (h.fresh hx)
      dsimp only
      refine ⟨⟨fun {k i} hk => ?_, fun {i x} hi => ?_, fun {i x} hi => ?_⟩, by simp⟩
      · dsimp only at hk ⊢
        by_cases hsame : k = streamKey
        · subst hsame
          rw [Function.update_self] at hk
          cases hk
          exact ⟨_, Function.update_self .., rfl⟩
        · rw [Function.update_of_ne hsame] at hk
          obtain ⟨x, hx, hxk⟩ := h.session_of_key hk
          have hne : i ≠ s.nextSession := fun he => hnew (he ▸ hx)
          exact ⟨x, by rw [Function.update_of_ne hne]; exact hx, hxk⟩
      · dsimp only at hi ⊢
        by_cases hsame : i = s.nextSession
        · subst hsame
          rw [Function.update_self] at hi
          cases hi
          exact Function.update_self ..
        · rw [Function.update_of_ne hsame] at hi
          have hk := h.key_of_session hi
          have hne : x.streamKey ≠ streamKey := fun he => by
            rw [he, hkey] at hk
            cases hk
          rw [Function.update_of_ne hne]
          exact hk
      · dsimp only at hi ⊢
        by_cases hsame : i = s.nextSession
        · exact hsame ▸ Nat.lt_succ_self _
        · rw [Function.update_of_ne hsame] at hi
          exact Nat.lt_succ_of_lt (h.fresh hi)

/-- `getOrCreateSession` touches no session that exists. -/
theorem Managed.getOrCreateSession_heap (h : Managed s) {session : RtmpSession}
    (hsid : s.heap sid = some session) (streamKey : Bytes) :
    (s.getOrCreateSession streamKey).1.heap sid = some session := by
  cases hkey : s.sessions streamKey with
  | some _ =>
      rw [getOrCreateSession_of_some hkey]
      exact hsid
  | none =>
      rw [getOrCreateSession_of_none hkey]
      have hne : sid ≠ s.nextSession := Nat.ne_of_lt (h.fresh hsid)
      exact (Function.update_of_ne hne ..).trans hsid

/-- The session that `getOrCreateSession` returns was there, or is new. -/
theorem getOrCreateSession_heap_cases {session : RtmpSession}
    (h : (s.getOrCreateSession streamKey).1.heap sid = some session) :
    s.heap sid = some session ∨
      (sid = s.nextSession ∧ session = { streamKey := streamKey }) := by
  cases hkey : s.sessions streamKey with
  | some _ =>
      rw [getOrCreateSession_of_some hkey] at h
      exact .inl h
  | none =>
      rw [getOrCreateSession_of_none hkey] at h
      by_cases hsame : sid = s.nextSession
      · subst hsame
        simp only [Function.update_self] at h
        cases h
        exact .inr ⟨rfl, rfl⟩
      · simp only [Function.update_of_ne hsame] at h
        exact .inl h

theorem getOrCreateSession_nextConn :
    (s.getOrCreateSession streamKey).1.nextConn = s.nextConn := by
  cases hkey : s.sessions streamKey with
  | some sid => rw [getOrCreateSession_of_some hkey]
  | none => rw [getOrCreateSession_of_none hkey, record]

theorem getOrCreateSession_connections :
    (s.getOrCreateSession streamKey).1.connections = s.connections := by
  cases hkey : s.sessions streamKey with
  | some sid => rw [getOrCreateSession_of_some hkey]
  | none => rw [getOrCreateSession_of_none hkey, record]

/-- `removeIfEmpty` leaves everything as it is, or drops an empty session. -/
theorem removeIfEmpty_cases (s : RtmpServer) (streamKey : Bytes) :
    (s.removeIfEmpty streamKey = s ∧ ∀ sid session, s.sessions streamKey = some sid →
      s.heap sid = some session → session.isEmpty = false) ∨
    ∃ sid session, s.sessions streamKey = some sid ∧ s.heap sid = some session ∧
      session.isEmpty = true ∧ s.removeIfEmpty streamKey =
        { s with
          sessions := Function.update s.sessions streamKey none
          heap := Function.update s.heap sid none } := by
  unfold removeIfEmpty
  cases hkey : s.sessions streamKey with
  | none => exact .inl ⟨rfl, fun _ _ h => by cases h⟩
  | some i =>
      dsimp only
      cases hi : s.heap i with
      | none =>
          refine .inl ⟨rfl, fun sid session h hx => ?_⟩
          cases h
          rw [hi] at hx
          cases hx
      | some x =>
          dsimp only
          cases hempty : x.isEmpty with
          | true => exact .inr ⟨i, x, rfl, hi, hempty, rfl⟩
          | false =>
              refine .inl ⟨rfl, fun sid session h hx => ?_⟩
              cases h
              rw [hi] at hx
              cases hx
              exact hempty

theorem removeIfEmpty_connections (s : RtmpServer) (streamKey : Bytes) :
    (s.removeIfEmpty streamKey).connections = s.connections := by
  rcases removeIfEmpty_cases s streamKey with ⟨h, -⟩ | ⟨_, _, -, -, -, h⟩ <;> rw [h]

theorem removeIfEmpty_log (s : RtmpServer) (streamKey : Bytes) :
    (s.removeIfEmpty streamKey).log = s.log := by
  rcases removeIfEmpty_cases s streamKey with ⟨h, -⟩ | ⟨_, _, -, -, -, h⟩ <;> rw [h]

theorem removeIfEmpty_nextSession (s : RtmpServer) (streamKey : Bytes) :
    (s.removeIfEmpty streamKey).nextSession = s.nextSession := by
  rcases removeIfEmpty_cases s streamKey with ⟨h, -⟩ | ⟨_, _, -, -, -, h⟩ <;> rw [h]

theorem removeIfEmpty_nextConn (s : RtmpServer) (streamKey : Bytes) :
    (s.removeIfEmpty streamKey).nextConn = s.nextConn := by
  rcases removeIfEmpty_cases s streamKey with ⟨h, -⟩ | ⟨_, _, -, -, -, h⟩ <;> rw [h]

/-- A session survives `removeIfEmpty` unless it is the one of the key and empty. -/
theorem removeIfEmpty_heap {session : RtmpSession} :
    (s.removeIfEmpty streamKey).heap sid = some session ↔
      s.heap sid = some session ∧ (s.sessions streamKey = some sid → session.isEmpty = false) := by
  rcases removeIfEmpty_cases s streamKey with ⟨h, hfull⟩ | ⟨i, x, hkey, hi, hempty, h⟩
  · rw [h]
    exact ⟨fun hx => ⟨hx, fun hk => hfull sid session hk hx⟩, And.left⟩
  · rw [h]
    dsimp only
    by_cases hsame : sid = i
    · subst hsame
      rw [Function.update_self]
      refine ⟨fun hx => (by cases hx), fun ⟨hx, hfull⟩ => ?_⟩
      rw [hi] at hx
      cases hx
      rw [hfull hkey] at hempty
      cases hempty
    · rw [Function.update_of_ne hsame]
      refine ⟨fun hx => ⟨hx, fun hk => ?_⟩, And.left⟩
      rw [hkey] at hk
      exact absurd (Option.some.inj hk).symm hsame

theorem Managed.removeIfEmpty (h : Managed s) (streamKey : Bytes) :
    Managed (s.removeIfEmpty streamKey) := by
  rcases removeIfEmpty_cases s streamKey with ⟨heq, -⟩ | ⟨i, x, hkey, hi, hempty, heq⟩
  · rw [heq]
    exact h
  · obtain ⟨x', hx', hxk⟩ := h.session_of_key hkey
    rw [hi] at hx'
    cases hx'
    rw [heq]
    refine ⟨fun {k j} hj => ?_, fun {j y} hj => ?_, fun {j y} hj => ?_⟩
    · dsimp only at hj ⊢
      by_cases hsame : k = streamKey
      · rw [hsame, Function.update_self] at hj
        cases hj
      · rw [Function.update_of_ne hsame] at hj
        obtain ⟨y, hy, hyk⟩ := h.session_of_key hj
        have hne : j ≠ i := fun he => by
          rw [he, hi] at hy
          cases hy
          exact hsame (hyk.symm.trans hxk)
        exact ⟨y, by rw [Function.update_of_ne hne]; exact hy, hyk⟩
    · dsimp only at hj ⊢
      by_cases hsame : j = i
      · rw [hsame, Function.update_self] at hj
        cases hj
      · rw [Function.update_of_ne hsame] at hj
        have hyk := h.key_of_session hj
        have hne : y.streamKey ≠ streamKey := fun he => by
          rw [he, hkey] at hyk
          exact hsame (Option.some.inj hyk).symm
        rw [Function.update_of_ne hne]
        exact hyk
    · dsimp only at hj ⊢
      by_cases hsame : j = i
      · rw [hsame, Function.update_self] at hj
        cases hj
      · rw [Function.update_of_ne hsame] at hj
        exact h.fresh hj

end Operations

/-! ### Joining a session -/

section Joining

variable {s : RtmpServer} {c d : ConnId} {streamKey : Bytes} {role : ConnectionRole}
  {enter : RtmpSession → RtmpSession}

theorem binding_of_connections {s s' : RtmpServer} (h : s'.connections = s.connections)
    (d : ConnId) : s'.binding d = s.binding d := by
  unfold binding
  rw [h]

theorem join_binding_ne (h : d ≠ c) : (s.join c streamKey role enter).binding d = s.binding d :=
  (binding_modifyConnection_ne h).trans
    (binding_of_connections getOrCreateSession_connections d)

theorem join_binding_self : (s.join c streamKey role enter).binding c =
    (s.binding c).map fun b => (b.1, role, some (s.getOrCreateSession streamKey).2) := by
  refine binding_modifyConnection_self.trans ?_
  change ((s.getOrCreateSession streamKey).1.connections c).map _ = _
  rw [getOrCreateSession_connections]
  simp [binding, Option.map_map, Function.comp_def]

theorem join_connected :
    (s.join c streamKey role enter).connected d = s.connected d := by
  rw [connected_eq_binding, connected_eq_binding]
  by_cases hd : d = c
  · subst hd
    rw [join_binding_self]
    cases s.binding d <;> rfl
  · rw [join_binding_ne hd]

theorem join_live : (s.join c streamKey role enter).live d = s.live d := by
  rw [live_eq_binding, live_eq_binding]
  by_cases hd : d = c
  · subst hd
    rw [join_binding_self]
    cases s.binding d <;> rfl
  · rw [join_binding_ne hd]

theorem join_role (h : s.live c = true) :
    ((s.join c streamKey role enter).context c).role = role := by
  rw [live_eq_binding] at h
  rw [role_eq_binding, join_binding_self]
  cases hb : s.binding c with
  | none =>
      rw [hb] at h
      cases h
  | some b => rfl

theorem join_session (h : s.live c = true) :
    ((s.join c streamKey role enter).context c).session =
      some (s.getOrCreateSession streamKey).2 := by
  rw [live_eq_binding] at h
  rw [session_eq_binding, join_binding_self]
  cases hb : s.binding c with
  | none =>
      rw [hb] at h
      cases h
  | some b => rfl

/-- The session that a connection joins is the one of its key. -/
theorem Managed.join_heap_self (h : Managed s) (c : ConnId) (streamKey : Bytes)
    (role : ConnectionRole) (enter : RtmpSession → RtmpSession) :
    ∃ session, (s.getOrCreateSession streamKey).1.heap (s.getOrCreateSession streamKey).2 =
        some session ∧ session.streamKey = streamKey ∧
      (s.join c streamKey role enter).heap (s.getOrCreateSession streamKey).2 =
        some (enter session) := by
  obtain ⟨hm, hkey⟩ := h.getOrCreateSession streamKey
  obtain ⟨session, hsid, hsession⟩ := hm.session_of_key hkey
  refine ⟨session, hsid, hsession, ?_⟩
  exact modifySession_heap_self.trans (by rw [hsid]; rfl)

/-- Every other session stays as it is. -/
theorem Managed.join_heap_ne (h : Managed s) {sid : SessionId} {session : RtmpSession}
    (hsid : s.heap sid = some session) (hne : sid ≠ (s.getOrCreateSession streamKey).2) :
    (s.join c streamKey role enter).heap sid = some session :=
  (modifySession_heap_ne hne).trans (h.getOrCreateSession_heap hsid streamKey)

/-- The session of a key is an old one, or a new one without members. -/
theorem getOrCreateSession_session {session : RtmpSession}
    (h : (s.getOrCreateSession streamKey).1.heap (s.getOrCreateSession streamKey).2 =
      some session) :
    (s.sessions streamKey = some (s.getOrCreateSession streamKey).2 ∧
      s.heap (s.getOrCreateSession streamKey).2 = some session) ∨
    (s.sessions streamKey = none ∧ session = { streamKey := streamKey }) := by
  rcases getOrCreateSession_cases s streamKey with ⟨sid, hkey, hget⟩ | ⟨hkey, hsid, hnew⟩
  · rw [hget] at h ⊢
    exact .inl ⟨hkey, h⟩
  · rw [hsid, hnew] at h
    exact .inr ⟨hkey, (Option.some.inj h).symm⟩

theorem Managed.join (h : Managed s) (c : ConnId) (streamKey : Bytes) (role : ConnectionRole)
    (henter : ∀ x, (enter x).streamKey = x.streamKey) :
    Managed (s.join c streamKey role enter) :=
  ((h.getOrCreateSession streamKey).1.modifySession henter _).congr rfl rfl rfl

end Joining

/-! ### Cleaning up after a connection -/

/-- What a session keeps of a connection that leaves it in a role. -/
def cleaned (role : ConnectionRole) (c : ConnId) (session : RtmpSession) : RtmpSession :=
  match role with
  | .kPublisher => session.clearPublisher c
  | .kPlayer => session.removePlayer c
  | .kUnknown => session

@[simp] theorem cleaned_streamKey (role : ConnectionRole) (c : ConnId) (session : RtmpSession) :
    (cleaned role c session).streamKey = session.streamKey := by
  cases role <;> simp [cleaned]

@[simp] theorem cleaned_cachedMessages (role : ConnectionRole) (c : ConnId)
    (session : RtmpSession) : (cleaned role c session).cachedMessages = session.cachedMessages := by
  cases role <;> simp [cleaned]

theorem mem_cleaned_players {role : ConnectionRole} {c d : ConnId} {session : RtmpSession} :
    d ∈ (cleaned role c session).players ↔ d ∈ session.players ∧ (role = .kPlayer → d ≠ c) := by
  cases role <;> simp [cleaned, RtmpSession.mem_removePlayer]

theorem cleaned_publisher {role : ConnectionRole} {c d : ConnId} {session : RtmpSession} :
    (cleaned role c session).publisher = some d ↔
      session.publisher = some d ∧ (role = .kPublisher → d ≠ c) := by
  cases role <;> simp [cleaned, RtmpSession.clearPublisher_publisher]

/-- The session that a context names: the one under its stream key. -/
def namedSession (s : RtmpServer) (c : ConnId) : Option SessionId :=
  if (s.context c).streamKey = [] then none else s.sessions (s.context c).streamKey

theorem modifySession_id (s : RtmpServer) (sid : SessionId) : s.modifySession sid id = s := by
  unfold modifySession
  rw [Option.map_id, id_eq, Function.update_eq_self]

theorem cleanupConnection_eq (s : RtmpServer) (c : ConnId) :
    s.cleanupConnection c =
      match s.namedSession c with
      | none => s
      | some sid =>
          (s.modifySession sid (cleaned (s.context c).role c)).removeIfEmpty
            (s.context c).streamKey := by
  unfold cleanupConnection namedSession
  dsimp only
  split
  · rfl
  · cases s.sessions (s.context c).streamKey with
    | none => rfl
    | some sid =>
        cases (s.context c).role with
        | kPublisher => rfl
        | kPlayer => rfl
        | kUnknown =>
            dsimp only
            rw [show cleaned .kUnknown c = id from rfl, modifySession_id]

theorem cleanupConnection_connections (s : RtmpServer) (c : ConnId) :
    (s.cleanupConnection c).connections = s.connections := by
  rw [cleanupConnection_eq]
  split
  · rfl
  · rw [removeIfEmpty_connections]
    rfl

theorem cleanupConnection_log (s : RtmpServer) (c : ConnId) :
    (s.cleanupConnection c).log = s.log := by
  rw [cleanupConnection_eq]
  split
  · rfl
  · rw [removeIfEmpty_log]
    rfl

theorem cleanupConnection_nextSession (s : RtmpServer) (c : ConnId) :
    (s.cleanupConnection c).nextSession = s.nextSession := by
  rw [cleanupConnection_eq]
  split
  · rfl
  · rw [removeIfEmpty_nextSession]
    rfl

theorem cleanupConnection_nextConn (s : RtmpServer) (c : ConnId) :
    (s.cleanupConnection c).nextConn = s.nextConn := by
  rw [cleanupConnection_eq]
  split
  · rfl
  · rw [removeIfEmpty_nextConn]
    rfl

theorem Managed.cleanupConnection {s : RtmpServer} (h : Managed s) (c : ConnId) :
    Managed (s.cleanupConnection c) := by
  rw [cleanupConnection_eq]
  split
  · exact h
  · exact (h.modifySession (cleaned_streamKey _ _) _).removeIfEmpty _

/-- **What a clean-up leaves.** Every session but the one that the context names is as it
was; that one has lost the connection in its role, and is gone if this left it empty. -/
theorem cleanupConnection_heap {s : RtmpServer} {c : ConnId} {sid : SessionId}
    {session' : RtmpSession} :
    (s.cleanupConnection c).heap sid = some session' ↔
      ∃ session, s.heap sid = some session ∧
        if s.namedSession c = some sid then
          session' = cleaned (s.context c).role c session ∧ session'.isEmpty = false
        else session' = session := by
  rw [cleanupConnection_eq]
  cases hnamed : s.namedSession c with
  | none => simp
  | some i =>
      have hkey : s.sessions (s.context c).streamKey = some i := by
        unfold namedSession at hnamed
        split at hnamed
        · cases hnamed
        · exact hnamed
      dsimp only
      rw [removeIfEmpty_heap, modifySession_heap]
      change (_ ∧ (s.sessions (s.context c).streamKey = some sid → _)) ↔ _
      rw [hkey]
      by_cases hsame : sid = i
      · subst hsame
        simp only [if_pos, forall_const]
        exact ⟨fun ⟨⟨x, hx, he⟩, hne⟩ => ⟨x, hx, he, hne⟩,
          fun ⟨x, hx, he, hne⟩ => ⟨⟨x, hx, he⟩, hne⟩⟩
      · have hne : ¬ (some i = some sid) := fun h => hsame (Option.some.inj h).symm
        simp only [if_neg hsame, hne, if_false, false_implies, and_true]

/-! ### Arrival and departure -/

section Lifecycle

variable {s : RtmpServer} {c d : ConnId}

theorem shutdown_binding_ne (h : d ≠ c) : (s.shutdown c).binding d = s.binding d :=
  binding_modifyConnection_ne h

theorem shutdown_live : (s.shutdown c).live d = s.live d := by
  by_cases hd : d = c
  · subst hd
    unfold live shutdown modifyConnection
    dsimp only
    rw [Function.update_self]
    cases s.connections d with
    | none => rfl
    | some conn => cases hstate : conn.state <;> simp [hstate]
  · exact live_congr (shutdown_binding_ne hd)

theorem shutdown_context : (s.shutdown c).context d = s.context d := by
  by_cases hd : d = c
  · subst hd
    unfold context shutdown modifyConnection
    dsimp only
    rw [Function.update_self]
    cases s.connections d with
    | none => rfl
    | some conn => cases hstate : conn.state <;> simp [hstate]
  · unfold context shutdown modifyConnection
    dsimp only
    rw [Function.update_of_ne hd]

theorem modifyContext_live {f : RtmpConnectionContext → RtmpConnectionContext} {d : ConnId} :
    (s.modifyContext c f).live d = s.live d := by
  by_cases hd : d = c
  · subst hd
    unfold live modifyContext modifyConnection
    dsimp only
    rw [Function.update_self]
    cases s.connections d <;> rfl
  · exact live_congr (binding_modifyConnection_ne hd)

theorem detach_live : (s.detachConnectionFromSession c).live d = s.live d := by
  unfold detachConnectionFromSession
  rw [modifyContext_live]
  exact live_congr (binding_of_connections (cleanupConnection_connections s c) d)

theorem accept_binding_ne (h : d ≠ s.nextConn) : s.accept.binding d = s.binding d := by
  simp [binding, accept, Function.update_of_ne h]

theorem accept_role : (s.accept.context s.nextConn).role = .kUnknown := by
  simp [context, accept]

theorem close_binding_ne (h : d ≠ c) : (s.close c).binding d = s.binding d :=
  (binding_of_connections (cleanupConnection_connections _ c) d).trans
    (binding_modifyConnection_ne h)

theorem close_live : (s.close c).live c = false := by
  have h : (s.close c).connections = (s.modifyConnection c fun conn =>
      { conn with state := .kDisconnected }).connections := cleanupConnection_connections _ c
  unfold live
  rw [h]
  unfold modifyConnection
  dsimp only
  rw [Function.update_self]
  cases s.connections c <;> rfl

/-- Closing a connection cleans up with the context that it had. -/
theorem close_context (s : RtmpServer) (c d : ConnId) :
    (s.modifyConnection c fun conn => { conn with state := .kDisconnected }).context d =
      s.context d := by
  by_cases hd : d = c
  · subst hd
    unfold context modifyConnection
    dsimp only
    rw [Function.update_self]
    cases s.connections d <;> rfl
  · unfold context modifyConnection
    dsimp only
    rw [Function.update_of_ne hd]

end Lifecycle

/-! ### Every run -/

theorem lock_eq_some {s : RtmpServer} {c : ConnId} {sid : SessionId} {session : RtmpSession}
    (hbound : (s.context c).session = some sid) (halive : s.heap sid = some session) :
    s.lock c = some sid := by
  unfold lock
  rw [hbound, Option.filter_some, halive]
  rfl

theorem replay_frame (s : RtmpServer) (sid : SessionId) (c : ConnId) (n : UInt32) :
    ∃ actions, s.replayCachedMessagesToPlayer sid c n = s.record actions := by
  unfold replayCachedMessagesToPlayer
  split
  · exact ⟨[], by simp [record]⟩
  · split
    · exact ⟨_, rfl⟩
    · exact ⟨[], by simp [record]⟩

/-- What a media message leaves of its session. -/
def afterMedia (s : RtmpServer) (media : Media) (session : RtmpSession) : RtmpSession :=
  (session.cacheMediaMessage media).dropDisconnected s.connected

/-- A media message is cached, sent to the connected players, and the others are erased. -/
theorem onMediaMessage_eq {s : RtmpServer} {sid : SessionId} {session : RtmpSession}
    (h : s.heap sid = some session) (media : Media) (n : UInt32) :
    s.onMediaMessage sid media n =
      (s.modifySession sid (s.afterMedia media)).record
        ((session.players.filter s.connected).map fun player => .media player sid media n) := by
  have hcached : (s.modifySession sid (·.cacheMediaMessage media)).heap sid =
      some (session.cacheMediaMessage media) := by
    rw [modifySession_heap_self, h]
    rfl
  unfold onMediaMessage broadcastMessage
  rw [hcached]
  dsimp only
  rw [RtmpSession.cacheMediaMessage_players]
  have hheap : ((s.modifySession sid (·.cacheMediaMessage media)).modifySession sid
      (·.dropDisconnected (s.modifySession sid (·.cacheMediaMessage media)).connected)) =
      s.modifySession sid (s.afterMedia media) := by
    simp [modifySession, Option.map_map, Function.comp_def]
    rfl
  rw [hheap]
  rfl

/-- Handling a message ends no connection. -/
theorem MessageEffect.live {env : Environment} {s s' : RtmpServer} {c : ConnId}
    {message : RtmpMessage} (h : MessageEffect env s c message s') (d : ConnId) :
    s'.live d = s.live d := by
  cases h with
  | quiet hq => exact live_congr (hq.binding d)
  | publish _ _ _ _ asked _ joined =>
      exact ((live_congr (joined.binding d)).trans join_live).trans (live_congr (asked.binding d))
  | play _ _ _ _ asked _ joined replayed =>
      obtain ⟨actions, heq⟩ := replay_frame _ _ _ _
      rw [replayed, heq]
      exact ((live_congr (joined.binding d)).trans join_live).trans (live_congr (asked.binding d))
  | leave _ _ _ left => exact left ▸ detach_live
  | media _ _ _ alive sent =>
      rw [sent, onMediaMessage_eq alive]
      rfl

theorem Managed.move {env : Environment} {s s' : RtmpServer} (h : Managed s)
    (hmove : Move env s s') : Managed s' := by
  cases hmove with
  | quiet hq => exact h.quiet hq
  | becomePublisher => exact h.join _ _ _ fun x => x.setPublisher_streamKey _
  | becomePlayer => exact h.join _ _ _ fun x => x.addPlayer_streamKey _
  | replay =>
      obtain ⟨actions, heq⟩ := replay_frame s _ _ _
      rw [heq]
      exact h.congr rfl rfl rfl
  | media live role bound alive message n =>
      rw [onMediaMessage_eq alive]
      exact (h.modifySession (fun x => by simp [afterMedia]) _).congr rfl rfl rfl
  | leave c => exact (h.cleanupConnection c).congr rfl rfl rfl
  | shutdown => exact h.congr rfl rfl rfl
  | accept => exact h.congr rfl rfl rfl
  | close live => exact (h.congr rfl rfl rfl : Managed (s.modifyConnection _ _)).cleanupConnection _

theorem Managed.step {s : RtmpServer} (h : Managed s) (env : Environment) (e : Event) :
    Managed (step env s e) :=
  moves_invariant (fun _ _ hmove hs => hs.move hmove) (step_moves env s e) h

/-- No session object has been made under the next name. -/
theorem Managed.heap_nextSession {s : RtmpServer} (h : Managed s) :
    s.heap s.nextSession = none := by
  by_contra hne
  obtain ⟨session, hsession⟩ := Option.ne_none_iff_exists'.mp hne
  exact Nat.lt_irrefl _ (h.fresh hsession)

theorem nextSession_le_getOrCreateSession (s : RtmpServer) (streamKey : Bytes) :
    s.nextSession ≤ (s.getOrCreateSession streamKey).1.nextSession := by
  cases hkey : s.sessions streamKey with
  | some sid =>
      rw [getOrCreateSession_of_some hkey]
  | none =>
      rw [getOrCreateSession_of_none hkey]
      exact Nat.le_succ _

theorem Move.nextSession_le {env : Environment} {s s' : RtmpServer} (h : Move env s s') :
    s.nextSession ≤ s'.nextSession := by
  cases h with
  | quiet hq => exact Nat.le_of_eq hq.nextSession.symm
  | becomePublisher => exact nextSession_le_getOrCreateSession ..
  | becomePlayer => exact nextSession_le_getOrCreateSession ..
  | replay =>
      obtain ⟨actions, heq⟩ := replay_frame s _ _ _
      rw [heq]
      exact Nat.le_refl _
  | media live role bound alive message n =>
      rw [onMediaMessage_eq alive]
      exact Nat.le_refl _
  | leave c => exact Nat.le_of_eq (cleanupConnection_nextSession s c).symm
  | shutdown => exact Nat.le_refl _
  | accept => exact Nat.le_refl _
  | @close c _ => exact Nat.le_of_eq (cleanupConnection_nextSession (s.modifyConnection c _) c).symm

/-- Names are given out in order. -/
theorem nextSession_le_step (env : Environment) (s : RtmpServer) (e : Event) :
    s.nextSession ≤ (step env s e).nextSession :=
  moves_invariant (I := fun s' => s.nextSession ≤ s'.nextSession)
    (fun _ _ hmove hle => hle.trans hmove.nextSession_le) (step_moves env s e) (Nat.le_refl _)

/-! ### What every session keeps -/

/-- Every session object has a property. -/
def EverySession (s : RtmpServer) (P : RtmpSession → Prop) : Prop :=
  ∀ sid session, s.heap sid = some session → P session

/-- What a new session has, and every operation on a session keeps. -/
structure Lasting (P : RtmpSession → Prop) : Prop where
  new : ∀ streamKey, streamKey ≠ [] → P { streamKey := streamKey }
  setPublisher : ∀ x c, P x → P (x.setPublisher c).1
  addPlayer : ∀ x c, P x → P (x.addPlayer c)
  cleaned : ∀ role c x, P x → P (cleaned role c x)
  afterMedia : ∀ s media x, P x → P (afterMedia s media x)

section Everywhere

variable {P : RtmpSession → Prop} {s : RtmpServer}

theorem EverySession.join (h : s.EverySession P) {c : ConnId} {streamKey : Bytes}
    {role : ConnectionRole} {enter : RtmpSession → RtmpSession}
    (hnew : P { streamKey := streamKey }) (henter : ∀ x, P x → P (enter x)) :
    (s.join c streamKey role enter).EverySession P := by
  intro sid session hsid
  obtain ⟨x, hx, rfl⟩ := modifySession_heap.mp hsid
  have hx' : P x := by
    rcases getOrCreateSession_heap_cases hx with hs | ⟨-, rfl⟩
    · exact h _ _ hs
    · exact hnew
  split
  · exact henter x hx'
  · exact hx'

theorem EverySession.cleanupConnection (h : s.EverySession P)
    (hcleaned : ∀ role c x, P x → P (cleaned role c x)) (c : ConnId) :
    (s.cleanupConnection c).EverySession P := by
  intro sid session hsid
  obtain ⟨x, hx, hcase⟩ := cleanupConnection_heap.mp hsid
  split at hcase
  · exact hcase.1 ▸ hcleaned _ _ _ (h _ _ hx)
  · exact hcase ▸ h _ _ hx

theorem EverySession.move {env : Environment} {s' : RtmpServer} (lasting : Lasting P)
    (h : s.EverySession P) (hmove : Move env s s') : s'.EverySession P := by
  cases hmove with
  | quiet hq =>
      intro sid session hsid
      rw [hq.heap] at hsid
      exact h _ _ hsid
  | becomePublisher _ named => exact h.join (lasting.new _ named) fun x => lasting.setPublisher x _
  | becomePlayer _ named => exact h.join (lasting.new _ named) fun x => lasting.addPlayer x _
  | replay =>
      obtain ⟨actions, heq⟩ := replay_frame s _ _ _
      rw [heq]
      exact h
  | media live role bound alive message n =>
      rw [onMediaMessage_eq alive]
      intro sid session hsid
      obtain ⟨x, hx, rfl⟩ := modifySession_heap.mp hsid
      split
      · exact lasting.afterMedia _ _ _ (h _ _ hx)
      · exact h _ _ hx
  | leave c => exact h.cleanupConnection lasting.cleaned c
  | shutdown => exact h
  | accept => exact h
  | close => exact EverySession.cleanupConnection (s := s.modifyConnection _ _) h lasting.cleaned _

theorem EverySession.step (lasting : Lasting P) (h : s.EverySession P) (env : Environment)
    (e : Event) : (step env s e).EverySession P :=
  moves_invariant (I := fun s => s.EverySession P) (fun _ _ hmove hs => hs.move lasting hmove)
    (step_moves env s e) h

end Everywhere

theorem managed_after (env : Environment) (es : List Event) : Managed (after env es) :=
  System.run_invariant_always (fun _ e h => h.step env e) es managed_init

theorem everySession_after {P : RtmpSession → Prop} (lasting : Lasting P) (env : Environment)
    (es : List Event) : (after env es).EverySession P :=
  System.run_invariant_always (I := fun s => EverySession s P) (fun _ e h => h.step lasting env e)
    es fun _ _ h => by cases h

end Rmuduo.Rtmp.RtmpServer
