/-
The questions that the server asks the authorization callback.

The callback is asked by `publish` and `play` alone, and each answer is on record. What answers it is
not in the server; it may be asked several times while one segment of bytes is handled.

* `Question` — a call of the callback and its answer.
* `Consults` — from one state to another, the server asks these questions, and the log has the answers
  that the callback gives at its next calls.
* `netStep_consults` — so it is at every event.
-/

import Rmuduo.Rtmp.FailStop
import Rmuduo.Rtmp.TransportFrame

namespace Rmuduo.Rtmp

open Lib System

/-- A call of the authorization callback for a connection, and its answer. -/
structure Question where
  conn : ConnId
  streamKey : Bytes
  ticket : Bytes
  publish : Bool
  granted : Bool

/-- The question that an entry of the log records. -/
def Action.question? : Action → Option Question
  | .authorize c key t p g => some ⟨c, key, t, p, g⟩
  | .send _ _ => none
  | .media _ _ _ _ => none
  | .create _ _ => none

def questions (log : List Action) : List Question := log.filterMap Action.question?

@[simp] theorem questions_append (log log' : List Action) :
    questions (log ++ log') = questions log ++ questions log' :=
  List.filterMap_append

/-- A callback, by the number of calls before. -/
abbrev AuthCallback := Nat → Bytes → Bytes → Bool → Bool

/-- The questions have been answered by the callback, from its `n`-th call on. -/
def Answered (callback : AuthCallback) : Nat → List Question → Prop
  | _, [] => True
  | n, q :: asked =>
      q.granted = callback n q.streamKey q.ticket q.publish ∧ Answered callback (n + 1) asked

theorem Answered.append {callback : AuthCallback} {n : Nat} {asked asked' : List Question}
    (h : Answered callback n asked) (h' : Answered callback (n + asked.length) asked') :
    Answered callback n (asked ++ asked') := by
  induction asked generalizing n with
  | nil => exact h'
  | cons q asked ih =>
      refine ⟨h.1, ih h.2 ?_⟩
      rwa [List.length_cons, Nat.add_comm asked.length, ← Nat.add_assoc] at h'

namespace RtmpServer

/-- From `s` to `s'` the server asks these questions. -/
structure Consults (callback : AuthCallback) (asked : List Question) (s s' : RtmpServer) : Prop where
  recorded : questions s'.log = questions s.log ++ asked
  counted : s'.authCalls = s.authCalls + asked.length
  answered : Answered callback s.authCalls asked

section Asking

variable {callback : AuthCallback} {asked asked' : List Question} {s s' s₁ : RtmpServer}
  {c : ConnId}

theorem Consults.trans (h : Consults callback asked s s₁) (h' : Consults callback asked' s₁ s') :
    Consults callback (asked ++ asked') s s' where
  recorded := by rw [h'.recorded, h.recorded, List.append_assoc]
  counted := by rw [h'.counted, h.counted, List.length_append, Nat.add_assoc]
  answered := h.answered.append (h.counted ▸ h'.answered)

theorem Consults.then (h : Consults callback [] s s₁) (h' : Consults callback asked s₁ s') :
    Consults callback asked s s' :=
  h.trans h'

/-- A step that asks nothing. -/
theorem consults_nothing (log : questions s'.log = questions s.log)
    (authCalls : s'.authCalls = s.authCalls) : Consults callback [] s s' where
  recorded := by rw [log, List.append_nil]
  counted := authCalls
  answered := trivial

theorem consults_refl (s : RtmpServer) : Consults callback [] s s := consults_nothing rfl rfl

theorem consults_record {actions : List Action} (h : ∀ a ∈ actions, a.question? = none) :
    Consults callback [] s (s.record actions) := by
  refine consults_nothing ?_ rfl
  rw [record, questions_append, questions, questions, List.filterMap_eq_nil_iff.mpr h,
    List.append_nil]

theorem consults_send (s : RtmpServer) (c : ConnId) (data : Bytes) :
    Consults callback [] s (s.send c data) := by
  unfold send
  split
  · exact consults_record fun a ha => by rw [List.mem_singleton.mp ha]; rfl
  · exact consults_refl s

theorem consults_sendOnStatus (s : RtmpServer) (c : ConnId) (messageStreamId : UInt32)
    (code description : String) (error : Bool) :
    Consults callback [] s (s.sendOnStatus c messageStreamId code description error) :=
  consults_send ..

/-- The callback is asked once. -/
theorem consults_authorize {env : Environment} (installed : env.authCallback = some callback)
    (s : RtmpServer) (c : ConnId) (streamKey ticket : Bytes) (publish : Bool) :
    Consults callback [⟨c, streamKey, ticket, publish,
      (authorize env s c streamKey ticket publish).2⟩] s
      (authorize env s c streamKey ticket publish).1 := by
  unfold authorize
  rw [installed]
  exact ⟨by simp [record, questions, Action.question?], rfl, rfl, trivial⟩

theorem consults_getOrCreateSession (s : RtmpServer) (streamKey : Bytes) :
    Consults callback [] s (s.getOrCreateSession streamKey).1 := by
  cases hkey : s.sessions streamKey with
  | some sid =>
      rw [getOrCreateSession_of_some hkey]
      exact consults_refl s
  | none =>
      rw [getOrCreateSession_of_none hkey]
      exact consults_nothing (by simp [record, questions, Action.question?]) rfl

theorem consults_setPublisher (s : RtmpServer) (sid : SessionId) (c : ConnId) :
    Consults callback [] s (s.setPublisher sid c).1 := by
  unfold RtmpServer.setPublisher
  split
  · exact consults_refl s
  · exact consults_nothing rfl rfl

theorem consults_cleanupConnection (s : RtmpServer) (c : ConnId) :
    Consults callback [] s (s.cleanupConnection c) := by
  refine consults_nothing (by rw [cleanupConnection_log]) ?_
  rw [cleanupConnection_eq]
  cases s.namedSession c with
  | none => rfl
  | some sid =>
      dsimp only
      rcases removeIfEmpty_cases (s.modifySession sid (cleaned (s.context c).role c))
        (s.context c).streamKey with ⟨h, -⟩ | ⟨_, _, -, -, -, h⟩
      · rw [h]
        rfl
      · rw [h]
        rfl

theorem consults_replay (s : RtmpServer) (sid : SessionId) (c : ConnId) (n : UInt32) :
    Consults callback [] s (s.replayCachedMessagesToPlayer sid c n) := by
  unfold replayCachedMessagesToPlayer
  split
  · exact consults_refl s
  · split
    · refine consults_record fun a ha => ?_
      obtain ⟨media, -, rfl⟩ := List.mem_map.mp ha
      rfl
    · exact consults_refl s

theorem consults_onMediaMessage (s : RtmpServer) (sid : SessionId) (media : Media) (n : UInt32) :
    Consults callback [] s (s.onMediaMessage sid media n) := by
  have hcached : Consults callback [] s (s.modifySession sid (·.cacheMediaMessage media)) :=
    consults_nothing rfl rfl
  refine hcached.then ?_
  unfold onMediaMessage broadcastMessage
  split
  · exact consults_refl _
  · rename_i session _
    have hdropped (s : RtmpServer) (f : RtmpSession → RtmpSession) :
        Consults callback [] s (s.modifySession sid f) := consults_nothing rfl rfl
    refine (hdropped _ _).then (consults_record fun a ha => ?_)
    obtain ⟨player, -, rfl⟩ := List.mem_map.mp ha
    rfl

end Asking

/-! ### Handlers -/

section Handlers

variable {env : Environment} {callback : AuthCallback} {asked : List Question}
  {s s' : RtmpServer} {c : ConnId}

theorem consults_handleConnect (s : RtmpServer) (c : ConnId) (command : RtmpCommandMessage) :
    Consults callback [] s (s.handleConnect c command).1 := by
  unfold handleConnect
  split
  · exact consults_refl s
  · dsimp only
    split
    · exact consults_refl s
    · split
      · exact consults_refl s
      · have hnamed (f : RtmpConnectionContext → RtmpConnectionContext) :
            Consults callback [] s (s.modifyContext c f) := consults_nothing rfl rfl
        exact (hnamed _).then ((consults_send ..).then ((consults_send ..).then ((consults_send ..).then
          (consults_send ..))))

theorem consults_handleCreateStream (s : RtmpServer) (c : ConnId) (command : RtmpCommandMessage) :
    Consults callback [] s (s.handleCreateStream c command).1 := by
  have hopened (f : RtmpConnectionContext → RtmpConnectionContext) :
      Consults callback [] s (s.modifyContext c f) := consults_nothing rfl rfl
  exact (hopened _).then (consults_send ..)

theorem consults_handlePublish (installed : env.authCallback = some callback) (s : RtmpServer)
    (c : ConnId) (command : RtmpCommandMessage) :
    ∃ asked, Consults callback asked s (s.handlePublish env c command).1 := by
  unfold handlePublish
  split
  · exact ⟨[], consults_refl s⟩
  · rename_i target _
    have hnamed (f : RtmpConnectionContext → RtmpConnectionContext) (s : RtmpServer) :
        Consults callback [] s (s.modifyContext c f) := consults_nothing rfl rfl
    dsimp only
    generalize hs₁ : s.modifyContext c _ = s₁
    have hfirst : Consults callback [] s s₁ := hs₁ ▸ hnamed _ s
    split
    · exact ⟨[], hfirst⟩
    · unfold authorizePublish
      have hasked := consults_authorize installed s₁ c (s₁.context c).streamKey target.ticket true
      split
      · rename_i s₂ hauth
        rw [hauth] at hasked
        exact ⟨_, hfirst.then (hasked.trans (consults_sendOnStatus ..))⟩
      · rename_i s₂ hauth
        rw [hauth] at hasked
        have hcreated : Consults callback [] s₂ (s₂.getOrCreateSession (s₁.context c).streamKey).1 :=
          consults_getOrCreateSession ..
        generalize s₂.getOrCreateSession (s₁.context c).streamKey = r at hcreated ⊢
        have hset : Consults callback [] r.1 (r.1.setPublisher r.2 c).1 := consults_setPublisher ..
        split
        · rename_i s₃ hs₃
          rw [hs₃] at hset
          exact ⟨_, hfirst.then (hasked.trans (hcreated.then (hset.then (consults_sendOnStatus ..))))⟩
        · rename_i s₃ hs₃
          rw [hs₃] at hset
          exact ⟨_, hfirst.then (hasked.trans (hcreated.then (hset.then ((hnamed _ s₃).then
            (consults_sendOnStatus ..)))))⟩

theorem consults_handlePlay (installed : env.authCallback = some callback) (s : RtmpServer)
    (c : ConnId) (command : RtmpCommandMessage) :
    ∃ asked, Consults callback asked s (s.handlePlay env c command).1 := by
  unfold handlePlay
  split
  · exact ⟨[], consults_refl s⟩
  · rename_i target _
    have hnamed (f : RtmpConnectionContext → RtmpConnectionContext) (s : RtmpServer) :
        Consults callback [] s (s.modifyContext c f) := consults_nothing rfl rfl
    dsimp only
    generalize hs₁ : s.modifyContext c _ = s₁
    have hfirst : Consults callback [] s s₁ := hs₁ ▸ hnamed _ s
    split
    · exact ⟨[], hfirst⟩
    · unfold authorizePlay
      have hasked := consults_authorize installed s₁ c (s₁.context c).streamKey target.ticket false
      split
      · rename_i s₂ hauth
        rw [hauth] at hasked
        exact ⟨_, hfirst.then (hasked.trans (consults_sendOnStatus ..))⟩
      · rename_i s₂ hauth
        rw [hauth] at hasked
        have hcreated : Consults callback [] s₂ (s₂.getOrCreateSession (s₁.context c).streamKey).1 :=
          consults_getOrCreateSession ..
        generalize s₂.getOrCreateSession (s₁.context c).streamKey = r at hcreated ⊢
        have hentered (s : RtmpServer) (f : RtmpSession → RtmpSession) :
            Consults callback [] s (s.modifySession r.2 f) := consults_nothing rfl rfl
        exact ⟨_, hfirst.then (hasked.trans (hcreated.then ((hentered _ _).then ((hnamed _ _).then
          ((consults_sendOnStatus ..).then (consults_replay ..))))))⟩

theorem consults_handleDeleteStream (s : RtmpServer) (c : ConnId) (command : RtmpCommandMessage) :
    Consults callback [] s (s.handleDeleteStream c command).1 := by
  unfold handleDeleteStream
  split
  · exact consults_refl s
  · exact consults_refl s
  · have hdetached : Consults callback [] (s.cleanupConnection c) (s.detachConnectionFromSession c) :=
      consults_nothing rfl rfl
    exact (consults_cleanupConnection s c).then hdetached

theorem consults_handleMediaMessage (s : RtmpServer) (c : ConnId) (message : RtmpMessage) :
    Consults callback [] s (s.handleMediaMessage c message).1 := by
  unfold handleMediaMessage
  split
  · exact consults_refl s
  · split
    · exact consults_refl s
    · exact consults_onMediaMessage ..

/-- **A message** asks questions that the callback answers. -/
theorem consults_handleMessage (installed : env.authCallback = some callback) (s : RtmpServer)
    (c : ConnId) (message : RtmpMessage) :
    ∃ asked, Consults callback asked s (s.handleMessage env c message).1 := by
  unfold handleMessage
  split
  · exact ⟨[], consults_nothing rfl rfl⟩
  · split
    · split
      · exact ⟨[], consults_refl s⟩
      · unfold handleCommandMessage
        split_ifs
        · exact ⟨[], consults_handleConnect ..⟩
        · exact ⟨[], consults_handleCreateStream ..⟩
        · exact consults_handlePublish installed ..
        · exact consults_handlePlay installed ..
        · exact ⟨[], consults_handleDeleteStream ..⟩
        · exact ⟨[], consults_refl s⟩
    · split
      · exact ⟨[], consults_handleMediaMessage ..⟩
      · exact ⟨[], consults_refl s⟩

end Handlers

/-! ### Events -/

section Events

variable {env : Environment} {callback : AuthCallback} {s s' : RtmpServer} {c : ConnId}

theorem Reads.consults (h : Reads env c s s') : Consults callback [] s s' := by
  obtain ⟨es, rfl, hes⟩ := h
  induction es generalizing s with
  | nil => exact consults_refl s
  | cons e es ih =>
      have hfirst : Consults callback [] s (step env s e) := by
        cases e with
        | transport d t => exact consults_nothing rfl rfl
        | respond d data => exact consults_send ..
        | accept => exact (hes _ List.mem_cons_self).elim
        | message => exact (hes _ List.mem_cons_self).elim
        | shutdown => exact (hes _ List.mem_cons_self).elim
        | close => exact (hes _ List.mem_cons_self).elim
      exact hfirst.then (ih fun e he => hes e (List.mem_cons_of_mem _ he))

theorem consults_handleMessages (installed : env.authCallback = some callback)
    (messages : List RtmpMessage) (s : RtmpServer) (c : ConnId) :
    ∃ asked, Consults callback asked s (s.handleMessages env c messages).1 := by
  induction messages generalizing s with
  | nil => exact ⟨[], consults_refl s⟩
  | cons message messages ih =>
      obtain ⟨asked, hfirst⟩ := consults_handleMessage installed s c message
      unfold handleMessages
      cases hm : s.handleMessage env c message with
      | mk s₁ ok =>
          rw [hm] at hfirst
          cases ok with
          | false => exact ⟨asked, hfirst⟩
          | true =>
              obtain ⟨asked', hrest⟩ := ih s₁
              exact ⟨_, hfirst.trans hrest⟩

theorem consults_receive (installed : env.authCallback = some callback) (s : RtmpServer) (c : ConnId)
    (data : Bytes) : ∃ asked, Consults callback asked s (s.receive env c data) := by
  have hshut (s : RtmpServer) : Consults callback [] s (s.shutdown c) := consults_nothing rfl rfl
  have hread : Consults callback [] s ((s.append c data).readMessages env c).1 :=
    ((reads_append data).trans reads_readMessages).consults
  unfold receive onMessage
  cases hm : (s.append c data).readMessages env c with
  | mk s₁ given =>
      rw [hm] at hread
      cases given with
      | none => exact ⟨[], hread.then (hshut s₁)⟩
      | some given =>
          obtain ⟨asked, hasked⟩ := consults_handleMessages installed given s₁ c
          dsimp only
          cases hh : s₁.handleMessages env c given with
          | mk s₂ ok =>
              rw [hh] at hasked
              cases ok with
              | true => exact ⟨asked, hread.then hasked⟩
              | false =>
                  refine ⟨asked, hread.then ?_⟩
                  have htrans := hasked.trans (hshut s₂)
                  rwa [List.append_nil] at htrans

/-- **An event** asks questions that the callback answers. -/
theorem netStep_consults (installed : env.authCallback = some callback) (s : RtmpServer)
    (e : NetEvent) : ∃ asked, Consults callback asked s (netStep env s e) := by
  cases e with
  | accept => exact ⟨[], consults_nothing rfl rfl⟩
  | close c =>
      rw [netStep]
      split
      · have hclosed : Consults callback [] s (s.modifyConnection c fun conn => { conn with
            state := .kDisconnected }) := consults_nothing rfl rfl
        exact ⟨[], hclosed.then (consults_cleanupConnection _ c)⟩
      · exact ⟨[], consults_refl s⟩
  | receive c data =>
      rw [netStep]
      split
      · exact consults_receive installed s c data
      · exact ⟨[], consults_refl s⟩

end Events

end RtmpServer

end Rmuduo.Rtmp
