/-
Sessions that the manager holds have members.

Only `removeIfEmpty` after a clean-up drops a session, and only the one that the context of the
leaving connection names. No other handler can leave a session empty: whoever joins is a member,
a publisher is refused by a session only where another one is in it, and a broadcast that erases
players comes from the publisher, which stays.

* `Occupied.move` — every move keeps every session occupied.
* `registry_occupied` — so what the manager holds is never a leftover.
-/

import Rmuduo.Rtmp.PublisherBinding

namespace Rmuduo.Rtmp

open Lib

/-- The session has a publisher or a player. -/
def RtmpSession.Occupied (session : RtmpSession) : Prop := session.isEmpty = false

theorem RtmpSession.occupied_of_publisher {session : RtmpSession} {c : ConnId}
    (h : session.publisher = some c) : session.Occupied := by
  rw [Occupied, isEmpty, h]
  rfl

theorem RtmpSession.occupied_of_player {session : RtmpSession} {c : ConnId}
    (h : c ∈ session.players) : session.Occupied := by
  rw [Occupied, isEmpty, List.isEmpty_eq_false_iff.mpr (List.ne_nil_of_mem h), Bool.and_false]

namespace RtmpServer

section Occupation

variable {env : Environment} {s s' : RtmpServer} {P : RtmpSession → Prop} {c : ConnId}
  {streamKey : Bytes} {role : ConnectionRole} {enter : RtmpSession → RtmpSession}

theorem getOrCreateSession_heap_ne {sid : SessionId}
    (h : sid ≠ (s.getOrCreateSession streamKey).2) :
    (s.getOrCreateSession streamKey).1.heap sid = s.heap sid := by
  cases hkey : s.sessions streamKey with
  | some _ => rw [getOrCreateSession_of_some hkey]
  | none =>
      rw [getOrCreateSession_of_none hkey] at h ⊢
      exact Function.update_of_ne h ..

/-- Every session has a property after a join, if the one that is joined has it then. -/
theorem EverySession.joined (h : s.EverySession P)
    (henter : ∀ x, (s.getOrCreateSession streamKey).1.heap (s.getOrCreateSession streamKey).2 =
      some x → P (enter x)) : (s.join c streamKey role enter).EverySession P := by
  intro sid session hsession
  obtain ⟨x, hx, rfl⟩ := modifySession_heap.mp hsession
  split
  · rename_i hjoined
    rw [hjoined] at hx
    exact henter x hx
  · rename_i hother
    rw [getOrCreateSession_heap_ne hother] at hx
    exact h sid x hx

theorem EverySession.becomePublisher (h : s.EverySession RtmpSession.Occupied)
    (free : s.SlotFree streamKey c) :
    (s.becomePublisher c streamKey).EverySession RtmpSession.Occupied := by
  apply h.joined
  intro x hx
  have hslot : x.publisher = none ∨ x.publisher = some c := by
    rcases getOrCreateSession_session hx with ⟨hkey, hsid⟩ | ⟨-, rfl⟩
    · exact free _ x hkey hsid
    · exact .inl rfl
  apply RtmpSession.occupied_of_publisher
  exact RtmpSession.setPublisher_publisher (RtmpSession.setPublisher_accepts.mpr hslot)

theorem EverySession.becomePlayer (h : s.EverySession RtmpSession.Occupied) (c : ConnId)
    (streamKey : Bytes) : (s.becomePlayer c streamKey).EverySession RtmpSession.Occupied := by
  apply h.joined
  intro x _
  exact RtmpSession.occupied_of_player (RtmpSession.mem_addPlayer.mpr (.inr rfl))

/-- A clean-up drops the session that it leaves empty. -/
theorem EverySession.cleaned (h : s.EverySession RtmpSession.Occupied) (c : ConnId) :
    (s.cleanupConnection c).EverySession RtmpSession.Occupied := by
  intro sid session hsession
  obtain ⟨x, hx, hcase⟩ := cleanupConnection_heap.mp hsession
  split at hcase
  · exact hcase.2
  · rw [hcase]
    exact h sid x hx

/-- A broadcast comes from the publisher of the session. -/
theorem EverySession.onMediaMessage (h : s.EverySession RtmpSession.Occupied)
    (hb : PublishersBound s) {sid : SessionId} {session : RtmpSession} (live : s.live c = true)
    (role : (s.context c).role = .kPublisher) (bound : (s.context c).session = some sid)
    (alive : s.heap sid = some session) (message : RtmpMessage) (n : UInt32) :
    (s.onMediaMessage sid ⟨c, message⟩ n).EverySession RtmpSession.Occupied := by
  rw [onMediaMessage_eq alive]
  intro i session' hsession'
  obtain ⟨x, hx, rfl⟩ := modifySession_heap.mp hsession'
  split
  · rename_i hsame
    obtain ⟨j, y, hbound, hy, hpublisher⟩ := hb c live role
    rw [bound, Option.some_inj] at hbound
    rw [← hbound, ← hsame, hx, Option.some_inj] at hy
    apply RtmpSession.occupied_of_publisher (c := c)
    rw [afterMedia, RtmpSession.dropDisconnected_publisher,
      RtmpSession.cacheMediaMessage_publisher, hy, hpublisher]
  · exact h i x hx

/-- What a move makes of the sessions. -/
theorem Occupied.move (h : s.EverySession RtmpSession.Occupied) (hb : PublishersBound s)
    (hmove : Move env s s') : s'.EverySession RtmpSession.Occupied := by
  cases hmove with
  | quiet hq =>
      intro sid session hsession
      rw [hq.heap] at hsession
      exact h sid session hsession
  | becomePublisher _ _ _ free => exact h.becomePublisher free
  | becomePlayer => exact h.becomePlayer _ _
  | replay =>
      obtain ⟨actions, heq⟩ := replay_frame s _ _ _
      rw [heq]
      exact h
  | media live role bound alive message n =>
      exact h.onMediaMessage hb live role bound alive message n
  | leave c => exact h.cleaned c
  | shutdown => exact h
  | accept => exact h
  | @close c live => exact EverySession.cleaned (s := s.modifyConnection c _) h c

theorem occupied_after (env : Environment) (es : List Event) :
    (after env es).EverySession RtmpSession.Occupied := by
  have keep (s s' : RtmpServer) (hmove : Move env s s')
      (h : Managed s ∧ PublishersBound s ∧ s.EverySession RtmpSession.Occupied) :
      Managed s' ∧ PublishersBound s' ∧ s'.EverySession RtmpSession.Occupied := by
    obtain ⟨hm, hb, ho⟩ := h
    exact ⟨hm.move hmove, hb.move hm hmove, Occupied.move ho hb hmove⟩
  have hinit : Managed {} ∧ PublishersBound {} ∧ EverySession {} RtmpSession.Occupied :=
    ⟨managed_init, publishersBound_init, fun _ _ hnone => by cases hnone⟩
  exact (after_invariant keep hinit es).2.2

/-- **The session manager holds no empty sessions.** After every run, a session that the manager
holds is under its own stream key and has a publisher or a player. So what looking up or creating
a session returns is new, or has members. -/
theorem registry_occupied (env : Environment) (es : List Event) :
    (∀ streamKey sid, (after env es).sessions streamKey = some sid →
      ∃ session, (after env es).heap sid = some session ∧ session.streamKey = streamKey ∧
        (session.publisher ≠ none ∨ session.players ≠ [])) ∧
    ∀ streamKey session, ((after env es).getOrCreateSession streamKey).1.heap
        ((after env es).getOrCreateSession streamKey).2 = some session →
      session.isEmpty = true → (after env es).sessions streamKey = none := by
  constructor
  · intro streamKey sid hkey
    obtain ⟨session, hsession, hstored⟩ := (managed_after env es).session_of_key hkey
    refine ⟨session, hsession, hstored, ?_⟩
    have hoccupied : session.isEmpty = false := occupied_after env es sid session hsession
    simpa [RtmpSession.isEmpty, Decidable.or_iff_not_imp_left] using hoccupied
  · intro streamKey session hsession hempty
    rcases getOrCreateSession_session hsession with ⟨-, hold⟩ | ⟨hnone, -⟩
    · have hoccupied : session.isEmpty = false := occupied_after env es _ session hold
      rw [hempty] at hoccupied
      cases hoccupied
    · exact hnone

end Occupation

end RtmpServer

end Rmuduo.Rtmp
