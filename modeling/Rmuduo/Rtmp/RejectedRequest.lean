/-
Rejected publish and play commands.

Both handlers write the requested names into the context before they know whether the
request is accepted: the stream key that is authorized and looked up is read from the
context. A rejection leaves the names there.

* `handlePublish_rejected`, `handlePlay_rejected` — apart from these names a rejection
  changes nothing.
* `rejected_unchanged_iff` — so it leaves the connection as it was exactly when the names
  are the ones that the context had.
-/

import Rmuduo.Rtmp.ServerRun

namespace Rmuduo.Rtmp.RtmpServer

open Lib

/-! ### Rejections -/

section Rejections

variable (env : Environment) (s : RtmpServer) (c : ConnId) (command : RtmpCommandMessage)

/-- The handler returns `false`, or the stream already has another publisher. -/
def PublishRejected : Prop :=
  (s.handlePublish env c command).2 = false ∨
    ∃ streamKey ticket, requestedKey (s.context c) command = some (streamKey, ticket) ∧
      ¬ s.SlotFree streamKey c

def PlayRejected : Prop :=
  (s.handlePlay env c command).2 = false

end Rejections

/-- The connection and the sessions are as they were. -/
structure AsBefore (s s' : RtmpServer) (c : ConnId) : Prop where
  role : (s'.context c).role = (s.context c).role
  session : (s'.context c).session = (s.context c).session
  streamName : (s'.context c).streamName = (s.context c).streamName
  publishType : (s'.context c).publishType = (s.context c).publishType
  streamKey : (s'.context c).streamKey = (s.context c).streamKey
  sessions : s'.sessions = s.sessions
  heap : s'.heap = s.heap

/-- If the command passes the first checks, it asks for the name and the publish type that
the context has. -/
def PublishesAgain (context : RtmpConnectionContext) (command : RtmpCommandMessage) : Prop :=
  ∀ target, requestedTarget context command = some target →
    target.streamName = context.streamName ∧ requestedType context command = context.publishType

/-- If the command passes the first checks, it asks for the name that the context has. -/
def PlaysAgain (context : RtmpConnectionContext) (command : RtmpCommandMessage) : Prop :=
  ∀ target, requestedTarget context command = some target → target.streamName = context.streamName

/-! ### What a rejection changes -/

/-- No connection changes, and no session. -/
structure Untouched (s s' : RtmpServer) : Prop where
  connections : s'.connections = s.connections
  sessions : s'.sessions = s.sessions
  heap : s'.heap = s.heap

theorem Untouched.refl (s : RtmpServer) : Untouched s s := ⟨rfl, rfl, rfl⟩

theorem Untouched.trans {s₁ s₂ s₃ : RtmpServer} (h : Untouched s₁ s₂) (h' : Untouched s₂ s₃) :
    Untouched s₁ s₃ :=
  ⟨h'.connections.trans h.connections, h'.sessions.trans h.sessions, h'.heap.trans h.heap⟩

theorem Untouched.context {s s' : RtmpServer} (h : Untouched s s') (c : ConnId) :
    s'.context c = s.context c := by
  rw [RtmpServer.context, RtmpServer.context, h.connections]

theorem untouched_send (s : RtmpServer) (c : ConnId) (data : Bytes) :
    Untouched s (s.send c data) := by
  rw [send]
  split
  · exact ⟨rfl, rfl, rfl⟩
  · exact .refl s

theorem untouched_authorize (env : Environment) (s : RtmpServer) (c : ConnId)
    (streamKey ticket : Bytes) (publish : Bool) :
    Untouched s (authorize env s c streamKey ticket publish).1 := by
  rw [authorize]
  split
  · exact .refl s
  · exact ⟨rfl, rfl, rfl⟩

/-- A request that passes the first checks comes from a connection that exists. -/
theorem exists_of_requestedTarget {s : RtmpServer} {c : ConnId} {command : RtmpCommandMessage}
    {target : StreamTarget} (h : requestedTarget (s.context c) command = some target) :
    ∃ conn, s.connections c = some conn := by
  cases hc : s.connections c with
  | some conn => exact ⟨conn, rfl⟩
  | none =>
      have hcontext : s.context c = {} := by
        rw [context, hc]
      rw [hcontext, requestedTarget, if_pos rfl] at h
      cases h

theorem context_modifyContext_of_some {s : RtmpServer} {c : ConnId} {conn : Connection}
    (h : s.connections c = some conn) (f : RtmpConnectionContext → RtmpConnectionContext) :
    (s.modifyContext c f).context c = f (s.context c) := by
  simp [context, modifyContext, modifyConnection, h]

section Refused

variable {env : Environment} {s : RtmpServer} {c : ConnId} {command : RtmpCommandMessage}
  {target : StreamTarget}

/-- A rejected publish has written the name and the type, and that is all. -/
theorem handlePublish_rejected (htarget : requestedTarget (s.context c) command = some target)
    (hrejected : PublishRejected env s c command) :
    Untouched (s.modifyContext c fun context => { context with
        streamName := target.streamName
        publishType := requestedType context command })
      (s.handlePublish env c command).1 := by
  obtain ⟨conn, hconn⟩ := exists_of_requestedTarget htarget
  unfold PublishRejected at hrejected
  unfold handlePublish at hrejected ⊢
  rw [htarget] at hrejected ⊢
  dsimp only at hrejected ⊢
  obtain ⟨s₀, hs₀⟩ : ∃ s₀, s₀ = s.modifyContext c fun context => { context with
      streamName := target.streamName
      publishType := requestedType context command } := ⟨_, rfl⟩
  rw [← hs₀] at hrejected ⊢
  by_cases hempty : (s₀.context c).streamKey = []
  · rw [if_pos hempty]
    exact .refl s₀
  · rw [if_neg hempty] at hrejected ⊢
    have hkey : requestedKey (s.context c) command =
        some ((s₀.context c).streamKey, target.ticket) := by
      rw [hs₀, context_modifyContext_of_some hconn] at hempty ⊢
      rw [requestedKey, htarget]
      exact if_neg hempty
    have hasked := untouched_authorize env s₀ c (s₀.context c).streamKey target.ticket true
    unfold authorizePublish at hrejected ⊢
    cases hauth : s₀.authorize env c (s₀.context c).streamKey target.ticket true with
    | mk s₁ granted =>
        rw [hauth] at hrejected hasked
        cases granted with
        | false => exact hasked.trans (untouched_send ..)
        | true =>
            dsimp only at hrejected ⊢
            rcases setPublisher_cases s₁ c (s₀.context c).streamKey with hset | ⟨hfree, hset⟩
            · rw [hset]
              exact hasked.trans (untouched_send ..)
            · rw [hset] at hrejected
              rcases hrejected with htrue | ⟨streamKey, ticket, hkey', hbusy⟩
              · cases htrue
              · rw [hkey] at hkey'
                cases hkey'
                refine absurd ?_ hbusy
                have hsame : s₀.sessions = s.sessions ∧ s₀.heap = s.heap := by
                  rw [hs₀]
                  exact ⟨rfl, rfl⟩
                unfold SlotFree at hfree ⊢
                rw [hasked.sessions, hasked.heap, hsame.1, hsame.2] at hfree
                exact hfree

/-- A rejected play has written the name, and that is all. -/
theorem handlePlay_rejected (htarget : requestedTarget (s.context c) command = some target)
    (hrejected : PlayRejected env s c command) :
    Untouched (s.modifyContext c fun context => { context with streamName := target.streamName })
      (s.handlePlay env c command).1 := by
  unfold PlayRejected at hrejected
  unfold handlePlay at hrejected ⊢
  rw [htarget] at hrejected ⊢
  dsimp only at hrejected ⊢
  obtain ⟨s₀, hs₀⟩ : ∃ s₀, s₀ = s.modifyContext c fun context => { context with
      streamName := target.streamName } := ⟨_, rfl⟩
  rw [← hs₀] at hrejected ⊢
  by_cases hempty : (s₀.context c).streamKey = []
  · rw [if_pos hempty]
    exact .refl s₀
  · rw [if_neg hempty] at hrejected ⊢
    have hasked := untouched_authorize env s₀ c (s₀.context c).streamKey target.ticket false
    unfold authorizePlay at hrejected ⊢
    cases hauth : s₀.authorize env c (s₀.context c).streamKey target.ticket false with
    | mk s₁ granted =>
        rw [hauth] at hrejected hasked
        cases granted with
        | false => exact hasked.trans (untouched_send ..)
        | true => cases hrejected

/-- A command that fails the first checks changes nothing. -/
theorem handlePublish_unchecked (env : Environment)
    (h : requestedTarget (s.context c) command = none) :
    (s.handlePublish env c command).1 = s := by
  rw [handlePublish, h]

theorem handlePlay_unchecked (env : Environment)
    (h : requestedTarget (s.context c) command = none) :
    (s.handlePlay env c command).1 = s := by
  rw [handlePlay, h]

end Refused

/-! ### When nothing is left behind -/

theorem AsBefore.refl (s : RtmpServer) (c : ConnId) : AsBefore s s c :=
  ⟨rfl, rfl, rfl, rfl, rfl, rfl, rfl⟩

/-- Writing names leaves the connection as it was exactly when they are its own. -/
theorem asBefore_iff {s s' : RtmpServer} {c : ConnId} (name type : Bytes)
    (hsessions : s'.sessions = s.sessions) (hheap : s'.heap = s.heap)
    (hcontext : s'.context c = { s.context c with streamName := name, publishType := type }) :
    AsBefore s s' c ↔ name = (s.context c).streamName ∧ type = (s.context c).publishType := by
  constructor
  · intro h
    have hname := h.streamName
    have htype := h.publishType
    rw [hcontext] at hname htype
    exact ⟨hname, htype⟩
  · rintro ⟨rfl, rfl⟩
    exact ⟨by rw [hcontext], by rw [hcontext], by rw [hcontext], by rw [hcontext],
      by rw [hcontext], hsessions, hheap⟩

theorem publishRejected_asBefore_iff {env : Environment} {s : RtmpServer} {c : ConnId}
    {command : RtmpCommandMessage} (hrejected : PublishRejected env s c command) :
    AsBefore s (s.handlePublish env c command).1 c ↔ PublishesAgain (s.context c) command := by
  unfold PublishesAgain
  cases htarget : requestedTarget (s.context c) command with
  | none =>
      rw [handlePublish_unchecked env htarget]
      constructor
      · intro _ target hnone
        cases hnone
      · intro _
        exact .refl s c
  | some target =>
      obtain ⟨conn, hconn⟩ := exists_of_requestedTarget htarget
      have hleft := handlePublish_rejected htarget hrejected
      have hcontext := (hleft.context c).trans (context_modifyContext_of_some hconn _)
      have hiff : AsBefore s (s.handlePublish env c command).1 c ↔ _ :=
        asBefore_iff target.streamName (requestedType (s.context c) command) hleft.sessions
          hleft.heap hcontext
      rw [hiff]
      constructor
      · intro h target' hsome
        cases hsome
        exact h
      · intro h
        exact h target rfl

theorem playRejected_asBefore_iff {env : Environment} {s : RtmpServer} {c : ConnId}
    {command : RtmpCommandMessage} (hrejected : PlayRejected env s c command) :
    AsBefore s (s.handlePlay env c command).1 c ↔ PlaysAgain (s.context c) command := by
  unfold PlaysAgain
  cases htarget : requestedTarget (s.context c) command with
  | none =>
      rw [handlePlay_unchecked env htarget]
      constructor
      · intro _ target hnone
        cases hnone
      · intro _
        exact .refl s c
  | some target =>
      obtain ⟨conn, hconn⟩ := exists_of_requestedTarget htarget
      have hleft := handlePlay_rejected htarget hrejected
      have hcontext := (hleft.context c).trans (context_modifyContext_of_some hconn _)
      have hiff : AsBefore s (s.handlePlay env c command).1 c ↔ _ :=
        asBefore_iff target.streamName (s.context c).publishType hleft.sessions hleft.heap hcontext
      rw [hiff]
      constructor
      · intro h target' hsome
        cases hsome
        exact h.1
      · intro h
        exact ⟨h target rfl, rfl⟩

/-- **Rejected requests.** In every reachable state, a publish or play command that is not
accepted leaves the connection and all sessions as they were exactly when it fails the first
checks or asks for the names that the context has already. -/
theorem rejected_unchanged_iff (env : Environment) (es : List Event) (c : ConnId)
    (command : RtmpCommandMessage) :
    (PublishRejected env (after env es) c command →
      (AsBefore (after env es) ((after env es).handlePublish env c command).1 c ↔
        PublishesAgain ((after env es).context c) command)) ∧
    (PlayRejected env (after env es) c command →
      (AsBefore (after env es) ((after env es).handlePlay env c command).1 c ↔
        PlaysAgain ((after env es).context c) command)) :=
  ⟨publishRejected_asBefore_iff, playRejected_asBefore_iff⟩

/-- The callback grants the first request and no other. -/
def grantsOnce : Environment where
  authCallback := some fun n _ _ _ => n = 0

/-- A publish or play command for a stream of `live`. -/
def asksFor (name : String) (streamName : Bytes) : RtmpCommandMessage where
  name := ascii name
  transactionId := 0
  messageStreamId := 1
  commandObject := .null
  arguments := [.string streamName]

/-- A publisher of `a` asks for `a` again, to publish and to play it, and is refused. -/
theorem rejected_unchanged_iff_again :
    let s := after grantsOnce (Client.publishing 0 (ascii "live") (ascii "a"))
    (AsBefore s (s.handlePublish grantsOnce 0 (asksFor "publish" (ascii "a"))).1 0 ↔
      PublishesAgain (s.context 0) (asksFor "publish" (ascii "a"))) ∧
    (AsBefore s (s.handlePlay grantsOnce 0 (asksFor "play" (ascii "a"))).1 0 ↔
      PlaysAgain (s.context 0) (asksFor "play" (ascii "a"))) :=
  ⟨(rejected_unchanged_iff grantsOnce (Client.publishing 0 (ascii "live") (ascii "a")) 0
      (asksFor "publish" (ascii "a"))).1 (.inl (by decide +kernel)),
    (rejected_unchanged_iff grantsOnce (Client.publishing 0 (ascii "live") (ascii "a")) 0
      (asksFor "play" (ascii "a"))).2 (by unfold PlayRejected; decide +kernel)⟩

/-- A publisher of `a` asks for `b` and is refused. It is still the publisher of the session of
`a`, and its context names `b`. -/
theorem rejected_publish_renames :
    let s := after grantsOnce (Client.publishing 0 (ascii "live") (ascii "a"))
    let s' := (s.handlePublish grantsOnce 0 (asksFor "publish" (ascii "b"))).1
    PublishRejected grantsOnce s 0 (asksFor "publish" (ascii "b")) ∧ ¬ AsBefore s s' 0 ∧
      (s'.context 0).role = .kPublisher ∧ (s'.context 0).session = some 0 ∧
      (s'.heap 0).map (·.streamKey) = some (ascii "/live/a") ∧
      (s'.context 0).streamKey = ascii "/live/b" := by
  intro s s'
  refine ⟨.inl (by decide +kernel), ?_, by decide +kernel⟩
  intro h
  exact absurd h.streamKey (by decide +kernel)

end Rmuduo.Rtmp.RtmpServer
