/-
What a joining player is sent of a publisher that has left.

`setPublisher` empties the caches when the slot is filled, `clearPublisher` leaves them. So a
session that its players keep alive still has the caches of its last publisher, and a player
that joins before the next one comes is sent them.

* `FromPublisher` — a message came from the connection that is the publisher, after it became
  the publisher.
* `fromPublisher_of_accepted` — so does what a session with a publisher has accepted since the
  slot was filled.
* `play_log` — what is sent because of a play.
* `replay_from_publisher_iff` — when a play sends nothing but messages of the publisher.
-/

import Mathlib.Data.List.Induction
import Rmuduo.Rtmp.LateJoin
import Rmuduo.Rtmp.PublisherBinding

namespace Rmuduo.Rtmp.RtmpServer

open Lib

/-- The message came in the course of the run, and from then on its sender has been the publisher
of the session. -/
def FromPublisher (env : Environment) (es : List Event) (sid : SessionId) (media : Media) : Prop :=
  ∃ before rest, es = before ++ .message media.origin media.message :: rest ∧
    ∀ mid, mid <+: .message media.origin media.message :: rest →
      (after env (before ++ mid)).publisherOf sid = some media.origin

section Tenure

variable {env : Environment} {s : RtmpServer} {e : Event} {es : List Event} {sid : SessionId}
  {media : Media} {p : ConnId}

theorem FromPublisher.publisherOf (h : FromPublisher env es sid media) :
    (after env es).publisherOf sid = some media.origin := by
  obtain ⟨before, rest, rfl, held⟩ := h
  exact held _ List.prefix_rfl

theorem FromPublisher.concat (h : FromPublisher env es sid media)
    (held : (after env (es ++ [e])).publisherOf sid = some media.origin) :
    FromPublisher env (es ++ [e]) sid media := by
  obtain ⟨before, rest, rfl, heldBefore⟩ := h
  refine ⟨before, rest ++ [e], by simp, ?_⟩
  intro mid hmid
  rw [← List.cons_append, List.prefix_concat_iff] at hmid
  rcases hmid with rfl | hmid
  · rwa [← List.append_assoc]
  · exact heldBefore mid hmid

/-- No publisher replaces another in one step. -/
theorem publisherOf_step (hm : Managed s) (env : Environment) (e : Event)
    (hbefore : s.publisherOf sid ≠ none) (hafter : (step env s e).publisherOf sid = some p) :
    s.publisherOf sid = some p := by
  obtain ⟨session', hsession', hp⟩ := Option.bind_eq_some_iff.mp hafter
  cases step_cases env s e with
  | @accepted i x media n alive into sent =>
      rw [sent, onMediaMessage_eq alive] at hsession'
      obtain ⟨session, hsession, rfl⟩ := modifySession_heap.mp hsession'
      rw [publisherOf_of_some hsession]
      split at hp
      · simpa [afterMedia] using hp
      · exact hp
  | other none change =>
      obtain ⟨session, hsession, hevolves⟩ := change.covered covering_evolves hsession'
      rw [hsession.publisherOf hm] at hbefore ⊢
      rcases hevolves.publisher with hsame | hfree | hgone
      · exact hsame.symm.trans hp
      · exact absurd hfree hbefore
      · rw [hgone] at hp
        cases hp

/-- What a session accepts comes from its publisher. -/
theorem publisherOf_of_acceptedIn (hb : PublishersBound s) (h : media ∈ acceptedIn sid s e) :
    e = .message media.origin media.message ∧ s.publisherOf sid = some media.origin := by
  cases e with
  | message c message =>
      rw [acceptedIn] at h
      split at h
      · rename_i accepted
        obtain ⟨hlive, -, hrole, hlock⟩ := accepted
        rw [List.mem_singleton.mp h]
        obtain ⟨i, session, hbound, hsession, hpublisher⟩ := hb c hlive hrole
        rw [lock_eq_some hbound hsession, Option.some_inj] at hlock
        exact ⟨rfl, (publisherOf_of_some (hlock ▸ hsession)).trans hpublisher⟩
      · cases h
  | accept => cases h
  | transport => cases h
  | respond => cases h
  | shutdown => cases h
  | close => cases h

/-- What a session has accepted since its slot was filled came from the connection that is its
publisher, if there is one. -/
theorem fromPublisher_of_accepted (h : (after env es).publisherOf sid ≠ none)
    (haccepted : media ∈ acceptedSince env es sid) : FromPublisher env es sid media := by
  induction es using List.reverseRecOn with
  | nil => cases haccepted
  | append_singleton es e ih =>
      rw [acceptedSince_concat, noteAccepted, ← after_concat] at haccepted
      split at haccepted
      · cases haccepted
      · rename_i hkept
        obtain ⟨p, hp⟩ := Option.ne_none_iff_exists'.mp h
        have hbefore : (after env es).publisherOf sid ≠ none := fun hfree => hkept ⟨hfree, h⟩
        have hsame : (after env es).publisherOf sid = some p := by
          rw [after_concat] at hp
          exact publisherOf_step (managed_after env es) env e hbefore hp
        rcases List.mem_append.mp haccepted with hold | hnew
        · have hfrom := ih hbefore hold
          apply hfrom.concat
          rw [hp, ← hsame]
          exact hfrom.publisherOf
        · obtain ⟨rfl, horigin⟩ := publisherOf_of_acceptedIn (publishersBound_after env es) hnew
          refine ⟨es, [], rfl, ?_⟩
          intro mid hmid
          rw [← List.nil_append [_], List.prefix_concat_iff, List.prefix_nil] at hmid
          rcases hmid with rfl | rfl
          · rw [List.nil_append, hp, ← hsame, horigin]
          · rw [List.append_nil, horigin]

end Tenure

/-! ### The play -/

section Replaying

variable {env : Environment} {s : RtmpServer} {es : List Event} {q : ConnId} {sid : SessionId}
  {session : RtmpSession} {message : RtmpMessage} {command : RtmpCommandMessage}
  {streamKey : Bytes}

/-- The media messages that a step sends, to whom and from where it may be. -/
def mediaSentIn (env : Environment) (s : RtmpServer) (e : Event) : List Action :=
  ((step env s e).log.drop s.log.length).filter isMediaAction

theorem mediaSentIn_of_log {s' : RtmpServer} {e : Event} {actions : List Action}
    (silent : Silent s s') (h : (step env s e).log = s'.log ++ actions) :
    mediaSentIn env s e = actions.filter isMediaAction := by
  obtain ⟨others, hlog, hothers⟩ := silent
  have hnone : others.filter isMediaAction = [] := by
    apply List.filter_eq_nil_iff.mpr
    intro a ha
    rw [hothers a ha]
    exact Bool.false_ne_true
  rw [mediaSentIn, h, hlog, List.append_assoc, List.drop_left, List.filter_append, hnone,
    List.nil_append]

theorem silent_replay {n : UInt32} (h : ∀ session, s.heap sid = some session →
      s.connected q = true → session.cachedMessages = []) :
    Silent s (s.replayCachedMessagesToPlayer sid q n) := by
  unfold replayCachedMessagesToPlayer
  split
  · exact .refl s
  · rename_i session hsession
    split
    · rename_i connected
      rw [h session hsession connected]
      exact .of_log (List.append_nil _)
    · exact .refl s

/-- A play that is refused, or whose session is new, or whose connection is being closed, sends
no media. -/
theorem play_silent (hcommand : commandOf message = some command)
    (hname : command.name = ascii "play")
    (h : ∀ streamKey, Plays env s q command streamKey → s.connected q = true →
      s.sessions streamKey = none) : Silent s (step env s (.message q message)) := by
  by_cases hlive : s.live q = true
  · have hlog := (step_message_frame env message hlive).2
    rw [handleMessage_play hcommand hname] at hlog
    suffices hsilent : Silent s (s.handlePlay env q command).1 from
      hsilent.trans (.of_log hlog)
    rcases handlePlay_cases env s q command hlive with
      ⟨hquiet, -⟩ | ⟨streamKey, s₁, s₂, n, accepted, -, asked, -, joined, hresult⟩
    · exact .of_quiet hquiet
    · rw [hresult]
      refine (((Silent.of_quiet asked).trans (silent_join ..)).trans (.of_quiet joined)).trans
        (silent_replay ?_)
      intro session' hsession' connected
      rw [connected_congr (joined.binding q)] at connected
      have hnone := h streamKey accepted
        ((connected_congr (asked.binding q)).symm.trans (join_connected.symm.trans connected))
      rw [joined.heap] at hsession'
      obtain ⟨session, hsession, rfl⟩ := modifySession_heap.mp hsession'
      rcases getOrCreateSession_session hsession with ⟨hkey, -⟩ | ⟨-, rfl⟩
      · rw [asked.sessions, hnone] at hkey
        cases hkey
      · rw [if_pos rfl, RtmpSession.addPlayer_cachedMessages]
        rfl
  · rw [step_message_dead env message hlive]
    exact .refl s

/-- **What a joining player is sent of a departed publisher.** A play sends only messages that
came from the publisher of the session after it became the publisher, exactly when the session
has a publisher, or is new, or its last publisher sent nothing that is kept. -/
theorem replay_from_publisher_iff (env : Environment) (es : List Event) (q : ConnId)
    (hcommand : commandOf message = some command) (hname : command.name = ascii "play") :
    (∀ receiver sid media n, .media receiver sid media n ∈
        mediaSentIn env (after env es) (.message q message) → FromPublisher env es sid media) ↔
      ∀ streamKey sid, Plays env (after env es) q command streamKey →
        (after env es).connected q = true → (after env es).sessions streamKey = some sid →
        (after env es).publisherOf sid ≠ none ∨
          ∀ media ∈ acceptedSince env es sid, media.isKept = false := by
  by_cases hreplays : ∃ streamKey sid, Plays env (after env es) q command streamKey ∧
      (after env es).connected q = true ∧ (after env es).sessions streamKey = some sid
  · obtain ⟨streamKey, sid, accepted, connected, hkey⟩ := hreplays
    obtain ⟨session, hsession, -⟩ := (managed_after env es).session_of_key hkey
    obtain ⟨s', n, silent, -, -, hlog⟩ :=
      play_replays hcommand hname accepted hkey hsession connected
    have hcached : session.cachedMessages = backlog (acceptedSince env es sid) :=
      RtmpSession.cachedMessages_eq_backlog (caches_after es hsession)
    have hsent : mediaSentIn env (after env es) (.message q message) =
        (backlog (acceptedSince env es sid)).map fun media => .media q sid media n := by
      rw [mediaSentIn_of_log silent hlog, hcached]
      apply List.filter_eq_self.mpr
      intro a ha
      obtain ⟨media, -, rfl⟩ := List.mem_map.mp ha
      rfl
    rw [hsent]
    constructor
    · intro h streamKey' sid' accepted' _ hkey'
      rw [accepted.unique accepted', hkey] at hkey'
      cases hkey'
      rw [← backlog_eq_nil, or_iff_not_imp_left, not_not]
      intro hfree
      apply List.eq_nil_iff_forall_not_mem.mpr
      intro media hmedia
      have hfrom := h q sid media n (List.mem_map.mpr ⟨media, hmedia, rfl⟩)
      rw [hfrom.publisherOf] at hfree
      cases hfree
    · intro h receiver sid' media n' hmem
      obtain ⟨kept, hkept, heq⟩ := List.mem_map.mp hmem
      cases heq
      rcases h streamKey sid accepted connected hkey with hheld | hnothing
      · exact fromPublisher_of_accepted hheld (mem_of_mem_backlog hkept)
      · rw [backlog_eq_nil.mpr hnothing] at hkept
        cases hkept
  · have silent : Silent (after env es) (step env (after env es) (.message q message)) := by
      apply play_silent hcommand hname
      intro streamKey accepted connected
      by_contra hne
      obtain ⟨sid, hkey⟩ := Option.ne_none_iff_exists'.mp hne
      exact hreplays ⟨streamKey, sid, accepted, connected, hkey⟩
    rw [mediaSentIn_of_log silent (List.append_nil _).symm]
    constructor
    · intro _ streamKey sid accepted connected hkey
      exact absurd ⟨streamKey, sid, accepted, connected, hkey⟩ hreplays
    · intro _ receiver sid media n hmem
      cases hmem

theorem replay_from_publisher_oneGop :
    FromPublisher {} oneGop 0 ⟨0, Client.video 1 [0x27, 1, 8]⟩ := by
  obtain ⟨command, session, hcommand, hname, accepted, hsession, hpublisher⟩ := oneGop_plays
  apply (replay_from_publisher_iff {} oneGop 1 hcommand hname).mpr ?_ 1 0 _ kDefaultChunkSize
    (by decide +kernel)
  intro streamKey sid accepted' _ hkey
  rw [accepted.unique accepted',
    show (after {} oneGop).sessions (ascii "/live/a") = some 0 by decide +kernel] at hkey
  cases hkey
  rw [publisherOf_of_some hsession, hpublisher]
  exact .inl (Option.some_ne_none 0)

/-- Connection 0 publishes a key frame, connection 1 plays, 0 goes, and 2 is ready to play. -/
def departed : List Event :=
  broadcasting [[0x17, 1]] ++ .message 1 playing :: .close 0 :: Client.opening 2 (ascii "live")

/-- What joins then is sent the key frame, though the session has no publisher. -/
theorem departed_replayed :
    (after {} departed).publisherOf 0 = none ∧
    mediaSentIn {} (after {} departed) (.message 2 playing) =
      [.media 2 0 ⟨0, Client.video 1 [0x17, 1]⟩ kDefaultChunkSize] ∧
    ¬ FromPublisher {} departed 0 ⟨0, Client.video 1 [0x17, 1]⟩ := by
  have hgone : (after {} departed).publisherOf 0 = none := by decide +kernel
  refine ⟨hgone, by decide +kernel, ?_⟩
  intro h
  rw [h.publisherOf] at hgone
  cases hgone

end Replaying

end Rmuduo.Rtmp.RtmpServer
