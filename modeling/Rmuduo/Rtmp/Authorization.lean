/-
Authorized forwarding.

The server asks its callback once, when a connection publishes or plays, and forwards
media later by the sessions alone. What links the two is that a session never holds
anything without a grant behind it (`SessionAccounted`): its publisher and the origins of
its cached messages were granted to publish its key, and its players to play it. A
publisher sends through the session whose publisher it is (`PublishersBound`), so each
message sent is justified by what the log held before it (`Authorized`).

* `Accounted.move` — every move keeps the accounts.
* `forwarding_authorized` — every media message sent in a run is authorized at both ends.
-/

import Rmuduo.Rtmp.PublisherBinding

namespace Rmuduo.Rtmp.RtmpServer

open Lib System

/-! ### Accounts -/

/-- The log justifies an action: a media message is sent to a connection that was granted
to play the key of the session, and comes from one that was granted to publish it. -/
def Authorized (env : Environment) (log : List Action) : Action → Prop
  | .media receiver sid media _ =>
      ∃ streamKey, Granted env log media.origin streamKey true ∧
        Granted env log receiver streamKey false ∧ .create sid streamKey ∈ log
  | .send _ _ => True
  | .authorize _ _ _ _ _ => True
  | .create _ _ => True

/-- Everything in a session has a grant behind it. -/
structure SessionAccounted (env : Environment) (log : List Action) (sid : SessionId)
    (session : RtmpSession) : Prop where
  created : .create sid session.streamKey ∈ log
  publisher : ∀ c, session.publisher = some c → Granted env log c session.streamKey true
  player : ∀ c ∈ session.players, Granted env log c session.streamKey false
  cached : ∀ media ∈ session.cachedMessages, Granted env log media.origin session.streamKey true

structure Accounted (env : Environment) (s : RtmpServer) : Prop where
  sessions : ∀ {sid session}, s.heap sid = some session → SessionAccounted env s.log sid session
  history : Explained (Authorized env) s.log

section Accounts

variable {env : Environment} {log log' : List Action} {sid : SessionId} {session : RtmpSession}
  {c : ConnId}

theorem Granted.mono {streamKey : Bytes} {publish : Bool} (h : Granted env log c streamKey publish)
    (sub : log ⊆ log') : Granted env log' c streamKey publish := by
  rcases h with hnone | ⟨ticket, hmem⟩
  · exact .inl hnone
  · exact .inr ⟨ticket, sub hmem⟩

theorem Authorized.mono {a : Action} (sub : log ⊆ log') (h : Authorized env log a) :
    Authorized env log' a := by
  cases a with
  | media receiver sid media n =>
      obtain ⟨streamKey, hpublish, hplay, hcreated⟩ := h
      exact ⟨streamKey, hpublish.mono sub, hplay.mono sub, sub hcreated⟩
  | send => trivial
  | authorize => trivial
  | create => trivial

theorem authorized_of_isQuiet {a : Action} (h : isQuiet a = true) : Authorized env log a := by
  cases a with
  | media => cases h
  | send => trivial
  | authorize => trivial
  | create => trivial

theorem SessionAccounted.mono (h : SessionAccounted env log sid session) (sub : log ⊆ log') :
    SessionAccounted env log' sid session where
  created := sub h.created
  publisher d hd := (h.publisher d hd).mono sub
  player d hd := (h.player d hd).mono sub
  cached media hmedia := (h.cached media hmedia).mono sub

theorem sessionAccounted_new {streamKey : Bytes} (created : .create sid streamKey ∈ log) :
    SessionAccounted env log sid { streamKey := streamKey } where
  created := created
  publisher _ hd := by cases hd
  player _ hd := by cases hd
  cached _ hmedia := by simp [RtmpSession.cachedMessages] at hmedia

/-- A session that keeps its key and holds no more is accounted for as before. -/
theorem SessionAccounted.shrink {session' : RtmpSession} (h : SessionAccounted env log sid session)
    (hkey : session'.streamKey = session.streamKey)
    (hpublisher : ∀ d, session'.publisher = some d → session.publisher = some d)
    (hplayers : ∀ d ∈ session'.players, d ∈ session.players)
    (hcached : ∀ media ∈ session'.cachedMessages, media ∈ session.cachedMessages) :
    SessionAccounted env log sid session' where
  created := hkey ▸ h.created
  publisher d hd := hkey ▸ h.publisher d (hpublisher d hd)
  player d hd := hkey ▸ h.player d (hplayers d hd)
  cached media hmedia := hkey ▸ h.cached media (hcached media hmedia)

theorem SessionAccounted.setPublisher (h : SessionAccounted env log sid session)
    (granted : Granted env log c session.streamKey true) :
    SessionAccounted env log sid (session.setPublisher c).1 where
  created := by rw [RtmpSession.setPublisher_streamKey]; exact h.created
  publisher d hd := by
    rw [RtmpSession.setPublisher_streamKey]
    cases hr : (session.setPublisher c).2 with
    | false =>
        rw [RtmpSession.setPublisher_rejects hr] at hd
        exact h.publisher d hd
    | true =>
        rw [RtmpSession.setPublisher_publisher hr] at hd
        cases hd
        exact granted
  player d hd := by
    rw [RtmpSession.setPublisher_players] at hd
    rw [RtmpSession.setPublisher_streamKey]
    exact h.player d hd
  cached media hmedia := by
    rw [RtmpSession.setPublisher_streamKey]
    exact h.cached media (RtmpSession.cachedMessages_setPublisher hmedia)

theorem SessionAccounted.addPlayer (h : SessionAccounted env log sid session)
    (granted : Granted env log c session.streamKey false) :
    SessionAccounted env log sid (session.addPlayer c) where
  created := by rw [RtmpSession.addPlayer_streamKey]; exact h.created
  publisher d hd := by
    rw [RtmpSession.addPlayer_publisher] at hd
    rw [RtmpSession.addPlayer_streamKey]
    exact h.publisher d hd
  player d hd := by
    rw [RtmpSession.addPlayer_streamKey]
    rcases RtmpSession.mem_addPlayer.mp hd with hold | rfl
    · exact h.player d hold
    · exact granted
  cached media hmedia := by
    rw [RtmpSession.addPlayer_cachedMessages] at hmedia
    rw [RtmpSession.addPlayer_streamKey]
    exact h.cached media hmedia

theorem SessionAccounted.cleaned (h : SessionAccounted env log sid session) (role : ConnectionRole)
    (c : ConnId) : SessionAccounted env log sid (cleaned role c session) :=
  h.shrink (cleaned_streamKey role c session) (fun _ hd => (cleaned_publisher.mp hd).1)
    (fun _ hd => (mem_cleaned_players.mp hd).1)
    (fun media hmedia => by rwa [cleaned_cachedMessages] at hmedia)

/-- A message of a granted publisher may be cached. -/
theorem SessionAccounted.afterMedia {s : RtmpServer} {media : Media}
    (h : SessionAccounted env log sid session)
    (granted : Granted env log media.origin session.streamKey true) :
    SessionAccounted env log sid (s.afterMedia media session) where
  created := by simpa [RtmpServer.afterMedia] using h.created
  publisher d hd := by simpa [RtmpServer.afterMedia] using h.publisher d (by
    simpa [RtmpServer.afterMedia] using hd)
  player d hd := by
    have hmem := (RtmpSession.mem_dropDisconnected.mp hd).1
    rw [RtmpSession.cacheMediaMessage_players] at hmem
    simpa [RtmpServer.afterMedia] using h.player d hmem
  cached m hm := by
    have hkey : (s.afterMedia media session).streamKey = session.streamKey := by
      simp [RtmpServer.afterMedia]
    rw [hkey]
    rcases RtmpSession.mem_cacheMediaMessage hm with rfl | hold
    · exact granted
    · exact h.cached m hold

end Accounts

/-! ### What the moves keep -/

section Moves

theorem accounted_init (env : Environment) : Accounted env {} where
  sessions hsid := by cases hsid
  history := explained_nil _

variable {env : Environment} {s s' : RtmpServer} {sid : SessionId} {session : RtmpSession}
  {c : ConnId} {streamKey : Bytes}

/-- More is recorded, and each session is one that was there, unchanged or smaller. -/
theorem Accounted.extend (h : Accounted env s) {actions : List Action}
    (hlog : s'.log = s.log ++ actions) (hactions : ∀ a ∈ actions, Authorized env s.log a)
    (hheap : ∀ {sid session}, s'.heap sid = some session →
      SessionAccounted env s'.log sid session) : Accounted env s' where
  sessions := hheap
  history := by
    rw [hlog]
    exact h.history.append Authorized.mono hactions

theorem Accounted.congr (h : Accounted env s) (hlog : s'.log = s.log) (hheap : s'.heap = s.heap) :
    Accounted env s' where
  sessions hsid := by
    rw [hheap] at hsid
    rw [hlog]
    exact h.sessions hsid
  history := by
    rw [hlog]
    exact h.history

theorem Accounted.modifySession (h : Accounted env s) {f : RtmpSession → RtmpSession}
    (hf : ∀ session, s.heap sid = some session → SessionAccounted env s.log sid (f session)) :
    Accounted env (s.modifySession sid f) where
  sessions {i x} hi := by
    obtain ⟨y, hy, rfl⟩ := modifySession_heap.mp hi
    split
    · rename_i hsame
      subst hsame
      exact hf y hy
    · exact h.sessions hy
  history := h.history

theorem Accounted.record (h : Accounted env s) {actions : List Action}
    (hactions : ∀ a ∈ actions, Authorized env s.log a) : Accounted env (s.record actions) :=
  h.extend rfl hactions fun hsid => (h.sessions hsid).mono (List.subset_append_left _ _)

theorem Accounted.quiet (h : Accounted env s) (hq : Quiet s s') : Accounted env s' := by
  obtain ⟨actions, hlog, hquiet⟩ := hq.log
  refine h.extend hlog (fun a ha => authorized_of_isQuiet (hquiet a ha)) fun hsid => ?_
  rw [hq.heap] at hsid
  rw [hlog]
  exact (h.sessions hsid).mono (List.subset_append_left _ _)

theorem getOrCreateSession_log (s : RtmpServer) (streamKey : Bytes) :
    s.log ⊆ (s.getOrCreateSession streamKey).1.log := by
  cases hkey : s.sessions streamKey with
  | some sid =>
      rw [getOrCreateSession_of_some hkey]
      exact List.Subset.refl _
  | none =>
      rw [getOrCreateSession_of_none hkey]
      exact List.subset_append_left _ _

/-- A new session holds nothing, and its creation is on record. -/
theorem Accounted.getOrCreateSession (h : Accounted env s) (streamKey : Bytes) :
    Accounted env (s.getOrCreateSession streamKey).1 := by
  cases hkey : s.sessions streamKey with
  | some sid =>
      rw [getOrCreateSession_of_some hkey]
      exact h
  | none =>
      rw [getOrCreateSession_of_none hkey]
      refine h.extend rfl (fun a ha => ?_) fun {i x} hi => ?_
      · rw [List.mem_singleton.mp ha]
        trivial
      · dsimp only at hi ⊢
        by_cases hsame : i = s.nextSession
        · subst hsame
          rw [Function.update_self] at hi
          cases hi
          exact sessionAccounted_new (by simp [RtmpServer.record])
        · rw [Function.update_of_ne hsame] at hi
          exact (h.sessions hi).mono (List.subset_append_left _ _)

/-- Joining a session with a grant for its key. -/
theorem Accounted.join (h : Accounted env s) (hm : Managed s) {role : ConnectionRole}
    {enter : RtmpSession → RtmpSession} {publish : Bool}
    (granted : Granted env s.log c streamKey publish)
    (henter : ∀ {log sid session}, SessionAccounted env log sid session →
      Granted env log c session.streamKey publish → SessionAccounted env log sid (enter session)) :
    Accounted env (s.join c streamKey role enter) := by
  have hget := h.getOrCreateSession streamKey
  obtain ⟨x, hx, hkey, -⟩ := hm.join_heap_self c streamKey role enter
  refine (hget.modifySession fun y hy => ?_).congr rfl rfl
  rw [hx] at hy
  cases hy
  refine henter (hget.sessions hx) ?_
  rw [hkey]
  exact granted.mono (getOrCreateSession_log s streamKey)

theorem Accounted.cleanupConnection (h : Accounted env s) (c : ConnId) :
    Accounted env (s.cleanupConnection c) where
  sessions hsid := by
    rw [cleanupConnection_log]
    obtain ⟨x, hx, hcase⟩ := cleanupConnection_heap.mp hsid
    split at hcase
    · rw [hcase.1]
      exact (h.sessions hx).cleaned _ c
    · rw [hcase]
      exact h.sessions hx
  history := by
    rw [cleanupConnection_log]
    exact h.history

/-- A session sends its players what it has cached, and what its publisher sends. -/
theorem SessionAccounted.authorized {log : List Action} {media : Media} {n : UInt32}
    (h : SessionAccounted env log sid session) (hplayer : c ∈ session.players)
    (granted : Granted env log media.origin session.streamKey true) :
    Authorized env log (.media c sid media n) :=
  ⟨session.streamKey, granted, h.player c hplayer, h.created⟩

theorem Accounted.replay (h : Accounted env s) (alive : s.heap sid = some session)
    (player : c ∈ session.players) (n : UInt32) :
    Accounted env (s.replayCachedMessagesToPlayer sid c n) := by
  unfold replayCachedMessagesToPlayer
  rw [alive]
  dsimp only
  split
  · refine h.record fun a ha => ?_
    obtain ⟨media, hmedia, rfl⟩ := List.mem_map.mp ha
    exact (h.sessions alive).authorized player ((h.sessions alive).cached media hmedia)
  · exact h

theorem Accounted.onMediaMessage (h : Accounted env s) (alive : s.heap sid = some session)
    (publisher : session.publisher = some c) (message : RtmpMessage) (n : UInt32) :
    Accounted env (s.onMediaMessage sid ⟨c, message⟩ n) := by
  have granted : Granted env s.log c session.streamKey true :=
    (h.sessions alive).publisher c publisher
  rw [onMediaMessage_eq alive]
  refine Accounted.record (h.modifySession fun x hx => ?_) fun a ha => ?_
  · rw [alive] at hx
    cases hx
    exact (h.sessions alive).afterMedia granted
  · obtain ⟨player, hplayer, rfl⟩ := List.mem_map.mp ha
    exact (h.sessions alive).authorized (List.mem_filter.mp hplayer).1 granted

theorem Accounted.move (h : Accounted env s) (hm : Managed s) (hb : PublishersBound s)
    (hmove : Move env s s') : Accounted env s' := by
  cases hmove with
  | quiet hq => exact h.quiet hq
  | becomePublisher _ _ granted =>
      exact h.join hm granted fun hsession hgranted => hsession.setPublisher hgranted
  | becomePlayer _ _ granted =>
      exact h.join hm granted fun hsession hgranted => hsession.addPlayer hgranted
  | replay alive player n => exact h.replay alive player n
  | media live role bound alive message n =>
      -- The session that a publisher is bound to has it as its publisher.
      obtain ⟨sid', x, hsession, hx, hpub⟩ := hb _ live role
      rw [bound] at hsession
      cases hsession
      rw [alive] at hx
      cases hx
      exact h.onMediaMessage alive hpub message n
  | leave c => exact (h.cleanupConnection c).congr rfl rfl
  | shutdown => exact h.congr rfl rfl
  | accept => exact h.congr rfl rfl
  | close =>
      exact (h.congr rfl rfl : Accounted env (s.modifyConnection _ _)).cleanupConnection _

end Moves

theorem accounted_after (env : Environment) (es : List Event) : Accounted env (after env es) := by
  have h : Managed (after env es) ∧ PublishersBound (after env es) ∧
      Accounted env (after env es) := by
    refine after_invariant (I := fun s => Managed s ∧ PublishersBound s ∧ Accounted env s) ?_ ?_ es
    · rintro s s' hmove ⟨hm, hb, ha⟩
      exact ⟨hm.move hmove, hb.move hm hmove, ha.move hm hb hmove⟩
    · exact ⟨managed_init, publishersBound_init, accounted_init env⟩
  exact h.2.2

/-- **Authorized forwarding.** With a callback installed, whenever a session sends a media
message of one connection to another, the log held before it: the creation of the session
for a stream key, a yes of the callback to the sender for publishing that key, and a yes
to the receiver for playing it. -/
theorem forwarding_authorized (env : Environment) (es : List Event)
    {callback : Nat → Bytes → Bytes → Bool → Bool} (installed : env.authCallback = some callback)
    {before after' : List Action} {receiver : ConnId} {sid : SessionId} {media : Media}
    {n : UInt32} (sent : (after env es).log = before ++ .media receiver sid media n :: after') :
    ∃ streamKey ticket ticket',
      .authorize media.origin streamKey ticket true true ∈ before ∧
      .authorize receiver streamKey ticket' false true ∈ before ∧
      .create sid streamKey ∈ before := by
  obtain ⟨streamKey, hpublish, hplay, hcreated⟩ :=
    (accounted_after env es).history before _ after' sent
  unfold Granted at hpublish hplay
  rw [installed] at hpublish hplay
  obtain ⟨ticket, hticket⟩ := hpublish.resolve_left (by simp)
  obtain ⟨ticket', hticket'⟩ := hplay.resolve_left (by simp)
  exact ⟨streamKey, ticket, ticket', hticket, hticket', hcreated⟩

/-- Connection 0 publishes a frame under `/live/a`, and connection 1 plays it. -/
def frameRun : List Event :=
  Client.opening 0 (ascii "live") ++ Client.opening 1 (ascii "live") ++
    [.message 0 (Client.request "publish" 1 (ascii "a")),
      .message 1 (Client.request "play" 1 (ascii "a")), .message 0 (Client.video 1 [0x27, 1])]

theorem forwarding_authorized_frame :
    ∃ streamKey ticket ticket',
      .authorize 0 streamKey ticket true true ∈
        (after { authCallback := some fun _ _ _ _ => true } frameRun).log.dropLast ∧
      .authorize 1 streamKey ticket' false true ∈
        (after { authCallback := some fun _ _ _ _ => true } frameRun).log.dropLast ∧
      .create 0 streamKey ∈
        (after { authCallback := some fun _ _ _ _ => true } frameRun).log.dropLast := by
  have sent : (after { authCallback := some fun _ _ _ _ => true } frameRun).log =
      (after { authCallback := some fun _ _ _ _ => true } frameRun).log.dropLast ++
        .media 1 0 ⟨0, Client.video 1 [0x27, 1]⟩ 128 :: [] := by
    decide +kernel
  exact forwarding_authorized _ frameRun rfl sent

end Rmuduo.Rtmp.RtmpServer
