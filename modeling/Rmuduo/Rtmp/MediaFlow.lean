/-
The media messages that a session accepts along a run.

* `acceptedIn` — what one event makes a session accept through `onMediaMessage`.
* `acceptedSince` — what a session has accepted since its publisher slot was last filled.
* `step_cases` — an event makes one session accept a message, or changes the sessions in
  another way and makes none accept anything.
* `caches_after` — the caches of a session are those of what it has accepted since the slot
  was last filled.
-/

import Rmuduo.Rtmp.MediaCache
import Rmuduo.Rtmp.Membership

namespace Rmuduo.Rtmp.RtmpServer

open Lib

/-! ### What sessions accept -/

/-- The media message, if any, that an event makes a session accept: one of a connection that
publishes and is bound to the session. -/
def acceptedIn (sid : SessionId) (s : RtmpServer) : Event → List Media
  | .message c message =>
      if s.live c ∧ isMedia message ∧ (s.context c).role = .kPublisher ∧ s.lock c = some sid then
        [⟨c, message⟩]
      else []
  | _ => []

def publisherOf (s : RtmpServer) (sid : SessionId) : Option ConnId :=
  (s.heap sid).bind (·.publisher)

/-- A `setPublisher` that fills the empty slot starts a new history. -/
def noteAccepted (env : Environment) (sid : SessionId) (s : RtmpServer) (e : Event)
    (history : List Media) : List Media :=
  if s.publisherOf sid = none ∧ (step env s e).publisherOf sid ≠ none then []
  else history ++ acceptedIn sid s e

/-- What a session has accepted, by the end of a run, since its publisher slot was last
filled. -/
def acceptedSince (env : Environment) (es : List Event) (sid : SessionId) : List Media :=
  (System.run (System.watched (step env) (noteAccepted env sid)) ({}, []) es).2

section History

variable {env : Environment} {sid : SessionId}

theorem after_concat (env : Environment) (es : List Event) (e : Event) :
    after env (es ++ [e]) = step env (after env es) e := System.run_append ..

theorem acceptedSince_concat (env : Environment) (es : List Event) (e : Event) (sid : SessionId) :
    acceptedSince env (es ++ [e]) sid =
      noteAccepted env sid (after env es) e (acceptedSince env es sid) := by
  unfold acceptedSince
  rw [System.run_append]
  change noteAccepted env sid
    (System.run (System.watched (step env) (noteAccepted env sid)) ({}, []) es).1 e _ = _
  rw [System.run_watched_fst]
  rfl

/-- As long as the publisher slot is not empty, what a session accepts goes on with its history. -/
theorem acceptedSince_append (es : List Event) {fs : List Event}
    (published : System.Along (step env) (fun s _ => s.publisherOf sid ≠ none) (after env es) fs) :
    acceptedSince env (es ++ fs) sid = acceptedSince env es sid ++
      System.collect (step env) (acceptedIn sid) (after env es) fs := by
  induction fs generalizing es with
  | nil => simp [System.collect]
  | cons e fs ih =>
      have hafter := after_concat env es e
      have hsplit : es ++ e :: fs = es ++ [e] ++ fs := by simp
      have hkept : noteAccepted env sid (after env es) e (acceptedSince env es sid) =
          acceptedSince env es sid ++ acceptedIn sid (after env es) e :=
        if_neg fun hfilled => published.1 hfilled.1
      rw [hsplit, ih (es ++ [e]) (hafter ▸ published.2), acceptedSince_concat, hkept, hafter,
        List.append_assoc, System.collect]

end History

/-! ### What a step does to the sessions -/

/-- A change of the sessions in which none of them accepts a message. -/
inductive OtherChange (s : RtmpServer) (e : Event) (s' : RtmpServer) : Prop where
  | unchanged (heap : s'.heap = s.heap) (silent : Silent s s')
  | published {c : ConnId} {streamKey : Bytes} {s₁ : RtmpServer} (asked : Quiet s s₁)
      (heap : s'.heap = (s₁.becomePublisher c streamKey).heap) (silent : Silent s s')
  | played {c : ConnId} {message : RtmpMessage} {command : RtmpCommandMessage}
      {streamKey : Bytes} {s₁ s₂ : RtmpServer} {sid : SessionId} {n : UInt32}
      (event : e = .message c message) (hcommand : commandOf message = some command)
      (asked : Quiet s s₁) (heap : s'.heap = (s₁.becomePlayer c streamKey).heap)
      (silent : Silent s s₂) (log : s'.log = (s₂.replayCachedMessagesToPlayer sid c n).log)
  | left {c : ConnId} {s₁ : RtmpServer} (same : s₁.heap = s.heap)
      (event : e = .close c ∨ ∃ message command, e = .message c message ∧
        commandOf message = some command)
      (heap : s'.heap = (s₁.cleanupConnection c).heap) (silent : Silent s s')

/-- What a step does: a session accepts a message, or the sessions change otherwise. -/
inductive StepCases (env : Environment) (s : RtmpServer) (e : Event) : Prop where
  | accepted {sid : SessionId} {session : RtmpSession} {media : Media} {n : UInt32}
      (alive : s.heap sid = some session)
      (into : ∀ i, acceptedIn i s e = if i = sid then [media] else [])
      (sent : step env s e = s.onMediaMessage sid media n)
  | other (none : ∀ i, acceptedIn i s e = []) (change : OtherChange s e (step env s e))

section Steps

variable {env : Environment} {s s' s₁ : RtmpServer} {c : ConnId} {message : RtmpMessage} {e : Event}

theorem handleMessage_media (h : isMedia message) :
    s.handleMessage env c message = s.handleMediaMessage c message := by
  have htype : message.typeId ≠ kMessageTypeSetChunkSize ∧
      message.typeId ≠ kMessageTypeCommandAmf0 := by
    rcases h with h | h | h <;> rw [h] <;> decide
  unfold handleMessage
  rw [if_neg fun hsize => htype.1 hsize.1, if_neg htype.2]
  exact if_pos h

theorem OtherChange.shutdown (h : OtherChange s e s') (c : ConnId) :
    OtherChange s e (s'.shutdown c) := by
  cases h with
  | unchanged heap silent => exact .unchanged heap silent
  | published asked heap silent => exact .published asked heap silent
  | played event hcommand asked heap silent log =>
      exact .played event hcommand asked heap silent log
  | left same event heap silent => exact .left same event heap silent

/-- A message of another type is a command, or changes no session. -/
theorem OtherChange.of_effect (hmedia : ¬ isMedia message)
    (h : MessageEffect env s c message s') : OtherChange s (.message c message) s' := by
  cases h with
  | quiet hq => exact .unchanged hq.heap (.of_quiet hq)
  | publish _ _ _ _ asked _ joined =>
      exact .published asked joined.heap
        (((Silent.of_quiet asked).trans (silent_join ..)).trans (.of_quiet joined))
  | @play _ _ s₁ s₂ n hcommand _ _ _ asked _ joined replayed =>
      have heap : s'.heap = s₂.heap := by
        obtain ⟨actions, heq⟩ := replay_frame s₂ _ c n
        rw [replayed, heq]
        rfl
      exact .played rfl hcommand asked (heap.trans joined.heap)
        (((Silent.of_quiet asked).trans (silent_join ..)).trans (.of_quiet joined))
        (congrArg RtmpServer.log replayed)
  | leave hcommand _ _ left =>
      rw [left]
      exact .left rfl (.inr ⟨_, _, rfl, hcommand⟩) rfl (silent_leave s c)
  | media ismedia => exact absurd ismedia hmedia

/-- A media message is accepted by the session of its publisher, or by none. -/
theorem stepCases_media (hmedia : isMedia message) (hlive : s.live c = true) :
    StepCases env s (.message c message) := by
  have handled := @handleMessage_media env s c message hmedia
  unfold handleMediaMessage at handled
  have hnone (h : ∀ i, ¬ ((s.context c).role = .kPublisher ∧ s.lock c = some i)) (i : SessionId) :
      acceptedIn i s (.message c message) = [] :=
    if_neg fun ⟨_, _, hbound⟩ => h i hbound
  by_cases hrole : (s.context c).role = .kPublisher
  · rw [if_neg (not_not.mpr hrole)] at handled
    cases hlock : s.lock c with
    | none =>
        rw [hlock] at handled
        refine .other (hnone fun i ⟨_, hi⟩ => by rw [hlock] at hi; cases hi) ?_
        rw [step_message_refused hlive handled]
        exact .unchanged rfl (.of_log rfl)
    | some sid =>
        rw [hlock] at handled
        obtain ⟨session, hsession⟩ := Option.isSome_iff_exists.mp
          (Option.filter_eq_some_iff.mp hlock).2
        refine .accepted hsession (fun i => ?_) (step_message_handled hlive handled)
        by_cases hi : i = sid
        · subst hi
          rw [if_pos rfl]
          exact if_pos ⟨hlive, hmedia, hrole, hlock⟩
        · rw [if_neg hi]
          refine if_neg fun ⟨_, _, _, hother⟩ => hi ?_
          rw [hlock] at hother
          exact (Option.some.inj hother).symm
  · rw [if_pos hrole] at handled
    refine .other (hnone fun _ h => hrole h.1) ?_
    rw [step_message_handled hlive handled]
    exact .unchanged rfl (.refl s)

/-- **What a step does to the sessions.** -/
theorem step_cases (env : Environment) (s : RtmpServer) (e : Event) : StepCases env s e := by
  cases e with
  | accept => exact .other (fun _ => rfl) (.unchanged rfl (.of_log rfl))
  | transport => exact .other (fun _ => rfl) (.unchanged rfl (.of_log rfl))
  | respond c response =>
      have quiet := quiet_send s c response
      exact .other (fun _ => rfl) (.unchanged quiet.heap (.of_quiet quiet))
  | shutdown => exact .other (fun _ => rfl) (.unchanged rfl (.of_log rfl))
  | close c =>
      refine .other (fun _ => rfl) ?_
      dsimp only [step]
      split
      · have same : (s.modifyConnection c fun conn =>
            { conn with state := .kDisconnected }).heap = s.heap := rfl
        exact .left same (.inl rfl) rfl (.of_log (cleanupConnection_log _ c))
      · exact .unchanged rfl (.refl s)
  | message c message =>
      by_cases hlive : s.live c = true
      · by_cases hmedia : isMedia message
        · exact stepCases_media hmedia hlive
        · refine .other (fun _ => if_neg fun ⟨_, h, _⟩ => hmedia h) ?_
          obtain ⟨s₁, heffect, hstep | hstep⟩ := step_message env message hlive
          · exact hstep ▸ .of_effect hmedia heffect
          · exact hstep ▸ (OtherChange.of_effect hmedia heffect).shutdown c
      · refine .other (fun _ => if_neg fun ⟨h, _⟩ => hlive h) ?_
        rw [step_message_dead env message hlive]
        exact .unchanged rfl (.refl s)

end Steps

/-! ### Changes that accept nothing -/

@[simp] theorem caches_cleaned (role : ConnectionRole) (c : ConnId) (session : RtmpSession) :
    (cleaned role c session).caches = session.caches := by
  cases role <;> simp [cleaned]

/-- A relation that holds between a session and what any change but accepting a message makes
of it. -/
structure Covering (R : RtmpSession → RtmpSession → Prop) : Prop where
  refl : ∀ x, R x x
  setPublisher : ∀ x c, R x (x.setPublisher c).1
  addPlayer : ∀ x c, R x (x.addPlayer c)
  cleaned : ∀ role c x, R x (cleaned role c x)

section Changing

variable {s s' : RtmpServer} {e : Event} {sid : SessionId} {session session' : RtmpSession}
  {R : RtmpSession → RtmpSession → Prop}

/-- The session was there, or it is the next one and new. -/
def FoundOrNew (s : RtmpServer) (sid : SessionId) (session : RtmpSession) : Prop :=
  s.heap sid = some session ∨
    (sid = s.nextSession ∧ session.publisher = none ∧ session.caches = .of [])

/-- A session was there before `getOrCreateSession`, or has just been made. -/
theorem getOrCreateSession_heap_inv {streamKey : Bytes}
    (h : (s.getOrCreateSession streamKey).1.heap sid = some session) :
    s.FoundOrNew sid session := by
  rcases getOrCreateSession_heap_cases h with hfound | ⟨hnext, rfl⟩
  · exact .inl hfound
  · exact .inr ⟨hnext, rfl, rfl⟩

theorem Covering.join (hR : Covering R) {c : ConnId} {streamKey : Bytes} {role : ConnectionRole}
    {enter : RtmpSession → RtmpSession} (henter : ∀ x, R x (enter x))
    (h : (s.join c streamKey role enter).heap sid = some session') :
    ∃ session, s.FoundOrNew sid session ∧ R session session' := by
  obtain ⟨session, hsession, heq⟩ := modifySession_heap.mp h
  refine ⟨session, getOrCreateSession_heap_inv hsession, ?_⟩
  rw [heq]
  split
  · exact henter session
  · exact hR.refl session

/-- A session after a change that accepts nothing. -/
theorem OtherChange.covered (h : OtherChange s e s') (hR : Covering R)
    (hsession' : s'.heap sid = some session') :
    ∃ session, s.FoundOrNew sid session ∧ R session session' := by
  have of_asked {s₁ : RtmpServer} (asked : Quiet s s₁)
      (found : ∃ session, s₁.FoundOrNew sid session ∧ R session session') :
      ∃ session, s.FoundOrNew sid session ∧ R session session' := by
    unfold FoundOrNew at found ⊢
    rwa [asked.heap, asked.nextSession] at found
  cases h with
  | unchanged heap =>
      rw [heap] at hsession'
      exact ⟨session', .inl hsession', hR.refl session'⟩
  | published asked heap =>
      rw [heap] at hsession'
      exact of_asked asked (hR.join (fun x => hR.setPublisher x _) hsession')
  | played _ _ asked heap =>
      rw [heap] at hsession'
      exact of_asked asked (hR.join (fun x => hR.addPlayer x _) hsession')
  | left same _ heap =>
      rw [heap] at hsession'
      obtain ⟨session, hsession, hcase⟩ := cleanupConnection_heap.mp hsession'
      rw [same] at hsession
      refine ⟨session, .inl hsession, ?_⟩
      split at hcase
      · exact hcase.1 ▸ hR.cleaned _ _ session
      · exact hcase ▸ hR.refl session

end Changing

/-! ### The caches follow what is accepted -/

/-- A change of a session that accepts nothing: no publisher replaces another, and one that
fills the empty slot finds the caches empty, which otherwise stay. -/
structure Evolves (session session' : RtmpSession) : Prop where
  publisher : session'.publisher = session.publisher ∨ session.publisher = none ∨
    session'.publisher = none
  caches : session'.caches =
    if session.publisher = none ∧ session'.publisher ≠ none then .of [] else session.caches

theorem Evolves.of_same {session session' : RtmpSession}
    (publisher : session'.publisher = session.publisher ∨ session'.publisher = none)
    (caches : session'.caches = session.caches) : Evolves session session' where
  publisher := publisher.imp_right .inr
  caches := by
    rw [if_neg, caches]
    rintro ⟨hfree, htaken⟩
    rcases publisher with hsame | hnone
    · exact htaken (hsame.trans hfree)
    · exact htaken hnone

theorem evolves_setPublisher (session : RtmpSession) (c : ConnId) :
    Evolves session (session.setPublisher c).1 := by
  by_cases h : session.publisher = none
  · refine ⟨.inr (.inl h), ?_⟩
    have hset := RtmpSession.setPublisher_publisher
      (RtmpSession.setPublisher_accepts.mpr (.inl h : _ ∨ session.publisher = some c))
    rw [if_pos ⟨h, by simp [hset]⟩]
    exact RtmpSession.caches_setPublisher_of_none h c
  · refine .of_same (.inl ?_) (RtmpSession.caches_setPublisher_of_some h c)
    cases hset : (session.setPublisher c).2 with
    | false => rw [RtmpSession.setPublisher_rejects hset]
    | true =>
        rw [RtmpSession.setPublisher_publisher hset]
        exact ((RtmpSession.setPublisher_accepts.mp hset).resolve_left h).symm

theorem evolves_cleaned (role : ConnectionRole) (c : ConnId) (session : RtmpSession) :
    Evolves session (cleaned role c session) := by
  apply Evolves.of_same
  · cases hafter : (cleaned role c session).publisher with
    | none => exact .inr rfl
    | some d => exact .inl (cleaned_publisher.mp hafter).1.symm
  · exact caches_cleaned role c session

theorem covering_evolves : Covering Evolves where
  refl _ := .of_same (.inl rfl) rfl
  setPublisher := evolves_setPublisher
  addPlayer session c :=
    .of_same (.inl (session.addPlayer_publisher c)) (session.caches_addPlayer c)
  cleaned := evolves_cleaned

section Caching

variable {env : Environment} {s s' : RtmpServer} {e : Event} {sid : SessionId}
  {session session' : RtmpSession}

theorem publisherOf_of_some (h : s.heap sid = some session) :
    s.publisherOf sid = session.publisher := by
  rw [publisherOf, h, Option.bind_some]

theorem FoundOrNew.publisherOf (h : s.FoundOrNew sid session) (hm : Managed s) :
    s.publisherOf sid = session.publisher := by
  rcases h with hfound | ⟨rfl, hfree, -⟩
  · exact publisherOf_of_some hfound
  · rw [RtmpServer.publisherOf, hm.heap_nextSession, hfree]
    rfl

/-- The caches of the session are those of the history, which is empty as long as the session
is to come. -/
structure CachesFollow (sid : SessionId) (s : RtmpServer) (history : List Media) : Prop where
  caches : ∀ session, s.heap sid = some session → session.caches = .of history
  fresh : s.nextSession ≤ sid → history = []

theorem FoundOrNew.caches {history : List Media} (h : s.FoundOrNew sid session)
    (follow : CachesFollow sid s history) : session.caches = .of history := by
  rcases h with hfound | ⟨rfl, -, hcaches⟩
  · exact follow.caches session hfound
  · rw [follow.fresh (Nat.le_refl _), hcaches]

theorem CachesFollow.step {history : List Media} (h : CachesFollow sid s history) (hm : Managed s)
    (env : Environment) (e : Event) :
    CachesFollow sid (step env s e) (noteAccepted env sid s e history) := by
  constructor
  · intro session' hsession'
    unfold noteAccepted
    rw [publisherOf_of_some hsession']
    cases step_cases env s e with
    | @accepted i x media n alive into sent =>
        rw [sent, onMediaMessage_eq alive] at hsession'
        obtain ⟨session, hsession, rfl⟩ := modifySession_heap.mp hsession'
        rw [publisherOf_of_some hsession, into]
        split
        · rw [if_neg]
          · exact RtmpSession.caches_cacheMediaMessage (h.caches session hsession) media
          · rintro ⟨hfree, htaken⟩
            exact htaken (by simpa [afterMedia] using hfree)
        · rw [if_neg fun hfilled => hfilled.2 hfilled.1, List.append_nil]
          exact h.caches session hsession
    | other none change =>
        obtain ⟨session, hsession, hevolves⟩ := change.covered covering_evolves hsession'
        rw [none, List.append_nil, hsession.publisherOf hm, hevolves.caches]
        split
        · rfl
        · exact hsession.caches h
  · intro hfresh
    have hbefore := (nextSession_le_step env s e).trans hfresh
    have halive : s.heap sid = none := by
      by_contra hne
      obtain ⟨session, hsession⟩ := Option.ne_none_iff_exists'.mp hne
      exact absurd (hm.fresh hsession) (Nat.not_lt.mpr hbefore)
    unfold noteAccepted
    split
    · rfl
    · rw [h.fresh hbefore, List.nil_append]
      cases step_cases env s e with
      | @accepted i x media n alive into sent =>
          rw [into, if_neg]
          rintro rfl
          rw [alive] at halive
          cases halive
      | other none _ => exact none sid

/-- **What is cached.** After every run, a session has cached what the messages it has accepted
since its publisher slot was last filled call for. -/
theorem caches_after (es : List Event) (hsession : (after env es).heap sid = some session) :
    session.caches = .of (acceptedSince env es sid) := by
  have keep (x : RtmpServer × List Media) (e : Event) (h : Managed x.1 ∧ CachesFollow sid x.1 x.2) :
      Managed (System.watched (RtmpServer.step env) (noteAccepted env sid) x e).1 ∧
        CachesFollow sid (System.watched (RtmpServer.step env) (noteAccepted env sid) x e).1
          (System.watched (RtmpServer.step env) (noteAccepted env sid) x e).2 :=
    ⟨h.1.step env e, h.2.step h.1 env e⟩
  have hinit : CachesFollow sid {} [] := ⟨fun _ hnone => (by cases hnone), fun _ => rfl⟩
  have h := System.run_invariant_always (I := fun x => Managed x.1 ∧ CachesFollow sid x.1 x.2)
    keep es (s := ({}, [])) ⟨managed_init, hinit⟩
  rw [System.run_watched_fst] at h
  exact h.2.caches session hsession

end Caching

end Rmuduo.Rtmp.RtmpServer
