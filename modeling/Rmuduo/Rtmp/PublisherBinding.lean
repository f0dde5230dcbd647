/-
Publishers and their sessions.

A live connection in the publisher role is bound to the session that the manager holds
under that session's key, and it is the publisher there (`PublishersBound`). Nothing but
the connection itself can end this: another publisher is refused while the slot is
taken, cleaning up after another connection clears no foreign publisher, and a session
with a publisher is not empty and so not removed.

* `PublishersBound.move` — every move keeps the binding.
* `publisher_bound` — the binding in every reachable state, with its two consequences.
-/

import Rmuduo.Rtmp.SessionStore

namespace Rmuduo.Rtmp.RtmpServer

open Lib

/-- Every live publisher is bound to a session whose publisher it is. -/
def PublishersBound (s : RtmpServer) : Prop :=
  ∀ c, s.live c = true → (s.context c).role = .kPublisher →
    ∃ sid session, (s.context c).session = some sid ∧ s.heap sid = some session ∧
      session.publisher = some c

theorem publishersBound_init : PublishersBound {} := by
  intro c hlive
  cases hlive

/-- The bindings of the connections but `c` survive when every session keeps its publishers
other than `c`. -/
theorem PublishersBound.of_others {s s' : RtmpServer} (h : PublishersBound s) {c : ConnId}
    (hbinding : ∀ d, d ≠ c → s'.binding d = s.binding d)
    (hheap : ∀ d sid session, d ≠ c → s.heap sid = some session → session.publisher = some d →
      ∃ session', s'.heap sid = some session' ∧ session'.publisher = some d)
    (hself : s'.live c = true → (s'.context c).role = .kPublisher →
      ∃ sid session, (s'.context c).session = some sid ∧ s'.heap sid = some session ∧
        session.publisher = some c) : PublishersBound s' := by
  intro d hlive hrole
  by_cases hd : d = c
  · subst hd
    exact hself hlive hrole
  · have hb := hbinding d hd
    rw [live_congr hb] at hlive
    rw [role_congr hb] at hrole
    obtain ⟨sid, session, hsession, hsid, hpub⟩ := h d hlive hrole
    obtain ⟨session', hsid', hpub'⟩ := hheap d sid session hd hsid hpub
    exact ⟨sid, session', (session_congr hb).trans hsession, hsid', hpub'⟩

/-- The bindings survive when no binding changes and every session keeps its publisher. -/
theorem PublishersBound.of_same {s s' : RtmpServer} (h : PublishersBound s)
    (hlive : ∀ d, s'.live d = true → s.live d = true)
    (hcontext : ∀ d, s'.live d = true → (s'.context d).role = (s.context d).role ∧
      (s'.context d).session = (s.context d).session)
    (hheap : ∀ d sid session, s.heap sid = some session → session.publisher = some d →
      ∃ session', s'.heap sid = some session' ∧ session'.publisher = some d) :
    PublishersBound s' := by
  intro d hd hrole
  rw [(hcontext d hd).1] at hrole
  obtain ⟨sid, session, hsession, hsid, hpub⟩ := h d (hlive d hd) hrole
  obtain ⟨session', hsid', hpub'⟩ := hheap d sid session hsid hpub
  exact ⟨sid, session', (hcontext d hd).2.trans hsession, hsid', hpub'⟩

theorem context_modifyContext_self {s : RtmpServer} {c : ConnId}
    {f : RtmpConnectionContext → RtmpConnectionContext}
    (h : (s.modifyContext c f).live c = true) :
    (s.modifyContext c f).context c = f (s.context c) := by
  apply context_modifyContext
  unfold live at h ⊢
  cases hc : s.connections c with
  | none => simp [modifyContext, modifyConnection, hc] at h
  | some conn => simpa [modifyContext, modifyConnection, hc] using h

theorem binding_modifyContext_ne {s : RtmpServer} {c d : ConnId}
    {f : RtmpConnectionContext → RtmpConnectionContext} (h : d ≠ c) :
    (s.modifyContext c f).binding d = s.binding d :=
  binding_modifyConnection_ne h

/-- What `cleanupConnection` leaves of the publishers: all but `c`. -/
theorem cleanupConnection_publisher {s : RtmpServer} {c d : ConnId} {sid : SessionId}
    {session : RtmpSession} (hd : d ≠ c) (hsid : s.heap sid = some session)
    (hpub : session.publisher = some d) :
    ∃ session', (s.cleanupConnection c).heap sid = some session' ∧
      session'.publisher = some d := by
  by_cases hnamed : s.namedSession c = some sid
  · have hcleaned : (cleaned (s.context c).role c session).publisher = some d :=
      cleaned_publisher.mpr ⟨hpub, fun _ => hd⟩
    refine ⟨cleaned (s.context c).role c session, cleanupConnection_heap.mpr
      ⟨session, hsid, ?_⟩, hcleaned⟩
    rw [if_pos hnamed]
    exact ⟨rfl, by simp [RtmpSession.isEmpty, hcleaned]⟩
  · exact ⟨session, cleanupConnection_heap.mpr ⟨session, hsid, by rw [if_neg hnamed]⟩, hpub⟩

theorem PublishersBound.becomePublisher {s : RtmpServer} (h : PublishersBound s) (hm : Managed s)
    {c : ConnId} {streamKey : Bytes} (free : s.SlotFree streamKey c) :
    PublishersBound (s.becomePublisher c streamKey) := by
  obtain ⟨x, hx, -, hjoined⟩ := hm.join_heap_self c streamKey .kPublisher
    fun session => (session.setPublisher c).1
  have hslot : x.publisher = none ∨ x.publisher = some c := by
    rcases getOrCreateSession_session hx with ⟨hkey, hsid⟩ | ⟨-, rfl⟩
    · exact free _ x hkey hsid
    · exact .inl rfl
  refine h.of_others (c := c) (fun d hd => join_binding_ne hd)
    (fun d sid session hd hsid hpub => ?_) (fun hlive _ => ?_)
  · have hother : sid ≠ (s.getOrCreateSession streamKey).2 := by
      rintro rfl
      rw [hm.getOrCreateSession_heap hsid streamKey] at hx
      cases hx
      rcases hslot with hnone | hself
      · rw [hnone] at hpub
        cases hpub
      · rw [hself] at hpub
        exact hd (Option.some.inj hpub).symm
    exact ⟨session, hm.join_heap_ne hsid hother, hpub⟩
  · have hlive' : s.live c = true := join_live.symm.trans hlive
    exact ⟨_, _, join_session hlive', hjoined, RtmpSession.setPublisher_publisher
      (RtmpSession.setPublisher_accepts.mpr hslot)⟩

theorem PublishersBound.becomePlayer {s : RtmpServer} (h : PublishersBound s) (hm : Managed s)
    (c : ConnId) (streamKey : Bytes) : PublishersBound (s.becomePlayer c streamKey) := by
  obtain ⟨x, hx, -, hjoined⟩ := hm.join_heap_self c streamKey .kPlayer (·.addPlayer c)
  refine h.of_others (c := c) (fun d hd => join_binding_ne hd)
    (fun d sid session hd hsid hpub => ?_) (fun hlive hrole => ?_)
  · by_cases hsame : sid = (s.getOrCreateSession streamKey).2
    · subst hsame
      rw [hm.getOrCreateSession_heap hsid streamKey] at hx
      cases hx
      exact ⟨_, hjoined, by rw [RtmpSession.addPlayer_publisher, hpub]⟩
    · exact ⟨session, hm.join_heap_ne hsid hsame, hpub⟩
  · have hlive' : s.live c = true := join_live.symm.trans hlive
    have hplayer : ((s.becomePlayer c streamKey).context c).role = .kPlayer := join_role hlive'
    rw [hplayer] at hrole
    cases hrole

theorem PublishersBound.move {env : Environment} {s s' : RtmpServer} (h : PublishersBound s)
    (hm : Managed s) (hmove : Move env s s') : PublishersBound s' := by
  have keeps : ∀ {s₁ : RtmpServer}, s₁.heap = s.heap → ∀ d sid session,
      s.heap sid = some session → session.publisher = some d →
      ∃ session', s₁.heap sid = some session' ∧ session'.publisher = some d := by
    intro s₁ hheap d sid session hsid hpub
    exact ⟨session, by rw [hheap]; exact hsid, hpub⟩
  cases hmove with
  | quiet hq =>
      exact h.of_same (fun d hd => by rwa [live_congr (hq.binding d)] at hd)
        (fun d _ => ⟨role_congr (hq.binding d), session_congr (hq.binding d)⟩) (keeps hq.heap)
  | becomePublisher _ _ _ free => exact h.becomePublisher hm free
  | becomePlayer => exact h.becomePlayer hm _ _
  | replay =>
      obtain ⟨actions, heq⟩ := replay_frame s _ _ _
      rw [heq]
      exact h.of_same (fun _ hd => hd) (fun _ _ => ⟨rfl, rfl⟩) (keeps rfl)
  | media live role bound alive message n =>
      rw [onMediaMessage_eq alive]
      refine h.of_same (fun _ hd => hd) (fun _ _ => ⟨rfl, rfl⟩) ?_
      intro d sid session hsid hpub
      refine ⟨_, modifySession_heap.mpr ⟨session, hsid, rfl⟩, ?_⟩
      split
      · simpa [afterMedia] using hpub
      · exact hpub
  | leave c =>
      refine h.of_others (c := c) (fun d hd => ?_)
        (fun d sid session hd hsid hpub => cleanupConnection_publisher hd hsid hpub)
        (fun hlive hrole => ?_)
      · exact (binding_modifyContext_ne hd).trans
          (binding_of_connections (cleanupConnection_connections s c) d)
      · unfold detachConnectionFromSession at hlive hrole
        rw [context_modifyContext_self hlive] at hrole
        cases hrole
  | shutdown c =>
      exact h.of_same (fun d hd => by rwa [shutdown_live] at hd)
        (fun d _ => by rw [shutdown_context]; exact ⟨rfl, rfl⟩) (keeps rfl)
  | accept =>
      refine h.of_others (c := s.nextConn) (fun d hd => accept_binding_ne hd)
        (fun d sid session _ => keeps rfl d sid session) (fun _ hrole => ?_)
      rw [accept_role] at hrole
      cases hrole
  | close live =>
      refine h.of_others (fun d hd => close_binding_ne hd)
        (fun d sid session hd hsid hpub => cleanupConnection_publisher hd hsid hpub)
        (fun hlive _ => ?_)
      rw [close_live] at hlive
      cases hlive

theorem publishersBound_after (env : Environment) (es : List Event) :
    PublishersBound (after env es) := by
  have h : Managed (after env es) ∧ PublishersBound (after env es) := by
    refine after_invariant (I := fun s => Managed s ∧ PublishersBound s) ?_ ?_ es
    · rintro s s' hmove ⟨hm, hb⟩
      exact ⟨hm.move hmove, hb.move hm hmove⟩
    · exact ⟨managed_init, publishersBound_init⟩
  exact h.2

/-- `c` is the active publisher of a stream key: it is live, in the publisher role, and bound
to a session of that key. -/
def ActivePublisher (s : RtmpServer) (c : ConnId) (streamKey : Bytes) : Prop :=
  s.live c = true ∧ (s.context c).role = .kPublisher ∧
    ∃ sid session, s.lock c = some sid ∧ s.heap sid = some session ∧
      session.streamKey = streamKey

/-- **Publisher exclusivity and binding.** In every reachable state, a live connection in the
publisher role is bound to a session that is alive, that the manager holds under its own
stream key, and whose publisher it is. So a stream key has at most one active publisher,
and no media message of a live connection meets the error of a publisher without a
session. -/
theorem publisher_bound (env : Environment) (es : List Event) :
    (∀ c, (after env es).live c = true → ((after env es).context c).role = .kPublisher →
      ∃ sid session, (after env es).lock c = some sid ∧
        (after env es).heap sid = some session ∧
        (after env es).sessions session.streamKey = some sid ∧ session.publisher = some c) ∧
    (∀ c d streamKey, (after env es).ActivePublisher c streamKey →
      (after env es).ActivePublisher d streamKey → c = d) ∧
    (∀ c message, (after env es).live c = true →
      ((after env es).handleMediaMessage c message).2 = true) := by
  have hm := managed_after env es
  have hbound : ∀ c, (after env es).live c = true →
      ((after env es).context c).role = .kPublisher →
      ∃ sid session, (after env es).lock c = some sid ∧
        (after env es).heap sid = some session ∧
        (after env es).sessions session.streamKey = some sid ∧ session.publisher = some c := by
    intro c hlive hrole
    obtain ⟨sid, session, hsession, hsid, hpub⟩ := publishersBound_after env es c hlive hrole
    exact ⟨sid, session, lock_eq_some hsession hsid, hsid, hm.key_of_session hsid, hpub⟩
  refine ⟨hbound, ?_, ?_⟩
  · rintro c d streamKey ⟨hlive, hrole, sid, session, hlock, hsid, hkey⟩
      ⟨hlive', hrole', sid', session', hlock', hsid', hkey'⟩
    obtain ⟨i, x, hi, hx, hxkey, hc⟩ := hbound c hlive hrole
    obtain ⟨j, y, hj, hy, hykey, hd⟩ := hbound d hlive' hrole'
    rw [hlock] at hi
    cases hi
    rw [hlock'] at hj
    cases hj
    rw [hsid] at hx
    cases hx
    rw [hsid'] at hy
    cases hy
    rw [hkey] at hxkey
    rw [hkey', hxkey] at hykey
    cases hykey
    rw [hsid] at hsid'
    cases hsid'
    rw [hc] at hd
    exact Option.some.inj hd
  · intro c message hlive
    unfold handleMediaMessage
    split
    · rfl
    · rename_i hrole
      obtain ⟨sid, session, hlock, -⟩ := hbound c hlive (by simpa using hrole)
      rw [hlock]

end Rmuduo.Rtmp.RtmpServer
