/-
The server on several event loops (`rtmp/RtmpServer.cc`, `rtmp/RtmpConnection.cc`,
`rtmp/RtmpSessionManager.cc`).

The handlers of one connection run one after the other, and those of connections on
different loops interleave. `handlePublish` and `handlePlay` take four steps: look the
session up under the mutex, register in it, bind the context, answer. A clean-up holds the
mutex from its look-up to the removal, and is one step. What a handler does to its own
context alone is part of the step beside it. Every connection may have a loop of its own;
connections that share a loop interleave less.

A session object lives as long as the session manager or the local `shared_ptr` of a
handler refers to it. `started` is history. Media is left out.

* `step_uninterrupted` — a handler that nothing interrupts does what it does on one loop.
-/

import Rmuduo.Rtmp.SessionStore

namespace Rmuduo.Rtmp

open Lib

/-! ### State -/

/-- How far a publish or play handler has come. -/
inductive Stage where
  | lookedUp | registered | bound
deriving DecidableEq, Repr

/-- The local variables of a publish or play handler between two of its steps. -/
structure Handler where
  publish : Bool
  streamKey : Bytes
  session : SessionId
  stage : Stage := .lookedUp
deriving DecidableEq

/-- The role that the handler gives its connection. -/
def Handler.role (h : Handler) : ConnectionRole := if h.publish then .kPublisher else .kPlayer

structure Loops where
  server : RtmpServer := {}
  /-- The handler that a connection is in the middle of. -/
  handlers : ConnId → Option Handler := fun _ => none
  /-- The roles and stream keys for which a connection has been sent a `Start` since it came
  or last left. -/
  started : ConnId → List (ConnectionRole × Bytes) := fun _ => []

namespace Loops

def setHandler (s : Loops) (c : ConnId) (h : Option Handler) : Loops :=
  { s with handlers := Function.update s.handlers c h }

def setStarted (s : Loops) (c : ConnId) (started : List (ConnectionRole × Bytes)) : Loops :=
  { s with started := Function.update s.started c started }

/-- The result of a handler: `false` makes the server call `shutdown()`. -/
def finish (s : Loops) (c : ConnId) : RtmpServer × Bool → Loops
  | (server, true) => { s with server := server }
  | (server, false) => { s with server := server.shutdown c }

/-! ### Session objects -/

/-- A `shared_ptr` in the session manager or in a handler refers to the session. -/
def held (s : Loops) (sid : SessionId) (session : RtmpSession) : Bool :=
  s.server.sessions session.streamKey = some sid ||
    (List.range s.server.nextConn).any fun c => (s.handlers c).any (·.session = sid)

/-- A `shared_ptr` goes away, and with the last one the session. -/
def release (s : Loops) (sid : SessionId) : Loops :=
  match s.server.heap sid with
  | none => s
  | some session =>
      if s.held sid session then s
      else { s with server := { s.server with heap := Function.update s.server.heap sid none } }

/-- `removeIfEmpty`: the manager drops its `shared_ptr`. -/
def removeIfEmpty (s : Loops) (streamKey : Bytes) : Loops :=
  match s.server.sessions streamKey with
  | none => s
  | some sid =>
      match s.server.heap sid with
      | none => s
      | some session =>
          if session.isEmpty then
            { s with server := { s.server with
                sessions := Function.update s.server.sessions streamKey none } }
          else s

/-- `cleanupConnection`, from taking the mutex to the end of its scope. -/
def cleanupConnection (s : Loops) (c : ConnId) : Loops :=
  let role := (s.server.context c).role
  let streamKey := (s.server.context c).streamKey
  if streamKey = [] then s
  else
    match s.server.sessions streamKey with
    | none => s
    | some sid =>
        let s := { s with server := s.server.modifySession sid (RtmpServer.cleaned role c) }
        (s.removeIfEmpty streamKey).release sid

/-! ### Handlers -/

/-- How `handlePublish` and `handlePlay` begin: the checks, the stream name, the authorization.
The result is the stream key, if the handler goes on. -/
def precheck (env : Environment) (server : RtmpServer) (c : ConnId) (command : RtmpCommandMessage)
    (publish : Bool) : RtmpServer × Option Bytes :=
  match RtmpServer.requestedTarget (server.context c) command with
  | none => (server, none)
  | some target =>
      let server :=
        if publish then
          server.modifyContext c fun context => { context with
            streamName := target.streamName
            publishType := RtmpServer.requestedType context command }
        else server.modifyContext c fun context => { context with streamName := target.streamName }
      let streamKey := (server.context c).streamKey
      if streamKey = [] then (server, none)
      else
        match server.authorize env c streamKey target.ticket publish with
        | (server, false) =>
            (server.sendOnStatus c (server.context c).streamId
              (if publish then "NetStream.Publish.BadName" else "NetStream.Play.Failed")
              "Invalid RTMP ticket." true, none)
        | (server, true) => (server, some streamKey)

/-- The first step of `handlePublish` and `handlePlay`, which ends with the look-up. -/
def lookUp (env : Environment) (s : Loops) (c : ConnId) (command : RtmpCommandMessage)
    (publish : Bool) : Loops :=
  match precheck env s.server c command publish with
  | (server, none) => s.finish c (server, false)
  | (server, some streamKey) =>
      let (server, sid) := server.getOrCreateSession streamKey
      { s with server := server }.setHandler c
        (some { publish := publish, streamKey := streamKey, session := sid })

/-- `addPlayer`, or `setPublisher` and the answer if the session does not take the publisher. -/
def register (s : Loops) (c : ConnId) (h : Handler) : Loops :=
  let next := some { h with stage := .registered }
  if h.publish then
    match s.server.setPublisher h.session c with
    | (server, false) =>
        let server := server.sendOnStatus c (server.context c).streamId
          "NetStream.Publish.BadName" "Stream already publishing." true
        ({ s with server := server }.setHandler c none).release h.session
    | (server, true) => { s with server := server }.setHandler c next
  else { s with server := s.server.modifySession h.session (·.addPlayer c) }.setHandler c next

/-- `setRole` and `bindSession`. -/
def bind (s : Loops) (c : ConnId) (h : Handler) : Loops :=
  let server := s.server.modifyContext c fun context => { context with
    role := h.role
    session := some h.session }
  { s with server := server }.setHandler c (some { h with stage := .bound })

/-- The `Start`, and for a player the replay. -/
def reply (server : RtmpServer) (c : ConnId) (h : Handler) : RtmpServer :=
  if h.publish then
    server.sendOnStatus c (server.context c).streamId "NetStream.Publish.Start"
      "Start publishing." false
  else
    let server := server.sendOnStatus c (server.context c).streamId "NetStream.Play.Start"
      "Start playing." false
    server.replayCachedMessagesToPlayer h.session c (server.context c).outChunkSize

/-- The answer, and the end of the handler. -/
def answer (s : Loops) (c : ConnId) (h : Handler) : Loops :=
  let s := { s with server := reply s.server c h }.setStarted c
    (s.started c ++ [(h.role, h.streamKey)])
  (s.setHandler c none).release h.session

/-- The next step of a handler. -/
def proceed (s : Loops) (c : ConnId) (h : Handler) : Loops :=
  match h.stage with
  | .lookedUp => s.register c h
  | .registered => s.bind c h
  | .bound => s.answer c h

/-- `detachConnectionFromSession`. -/
def detachConnectionFromSession (s : Loops) (c : ConnId) : Loops :=
  let s := (s.setStarted c []).cleanupConnection c
  { s with server := s.server.modifyContext c fun context => { context with
      session := none
      role := .kUnknown
      streamId := 0
      streamName := []
      publishType := [] } }

def handleDeleteStream (s : Loops) (c : ConnId) (command : RtmpCommandMessage) : Loops :=
  match s.server.deleteCheck c command with
  | .ignored => s.finish c (s.server, true)
  | .mismatch => s.finish c (s.server, false)
  | .accepted => s.detachConnectionFromSession c

def handleCommandMessage (env : Environment) (s : Loops) (c : ConnId)
    (command : RtmpCommandMessage) : Loops :=
  if command.name = ascii "connect" then s.finish c (s.server.handleConnect c command)
  else if command.name = ascii "createStream" then
    s.finish c (s.server.handleCreateStream c command)
  else if command.name = ascii "publish" then s.lookUp env c command true
  else if command.name = ascii "play" then s.lookUp env c command false
  else if command.name = ascii "deleteStream" ∨ command.name = ascii "closeStream" then
    s.handleDeleteStream c command
  else s.finish c (s.server, true)

def close (s : Loops) (c : ConnId) : Loops :=
  let server := s.server.modifyConnection c fun conn => { conn with state := .kDisconnected }
  ({ s with server := server }.setStarted c []).cleanupConnection c

end Loops

/-! ### Steps -/

inductive LoopEvent where
  /-- A new connection. -/
  | accept
  /-- A command of a connection reaches its handler. -/
  | command (c : ConnId) (command : RtmpCommandMessage)
  /-- The handler of a connection goes on. -/
  | proceed (c : ConnId)
  /-- The server gives a connection up. -/
  | shutdown (c : ConnId)
  /-- A connection is gone. -/
  | close (c : ConnId)

namespace Loops

/-- One atomic step. A loop takes up nothing new for a connection whose handler is not done. -/
def step (env : Environment) (s : Loops) : LoopEvent → Loops
  | .accept => { s with server := s.server.accept }
  | .command c command =>
      if s.server.live c ∧ s.handlers c = none then s.handleCommandMessage env c command else s
  | .proceed c =>
      match s.handlers c with
      | none => s
      | some h => s.proceed c h
  | .shutdown c => { s with server := s.server.shutdown c }
  | .close c => if s.server.live c ∧ s.handlers c = none then s.close c else s

theorem setHandler_self (s : Loops) (c : ConnId) (h : Option Handler) :
    (s.setHandler c h).handlers c = h :=
  Function.update_self ..

theorem setHandler_ne (s : Loops) {c d : ConnId} (h : Option Handler) (hd : d ≠ c) :
    (s.setHandler c h).handlers d = s.handlers d :=
  Function.update_of_ne hd ..

theorem setStarted_self (s : Loops) (c : ConnId) (started : List (ConnectionRole × Bytes)) :
    (s.setStarted c started).started c = started :=
  Function.update_self ..

theorem setStarted_ne (s : Loops) {c d : ConnId} (started : List (ConnectionRole × Bytes))
    (hd : d ≠ c) : (s.setStarted c started).started d = s.started d :=
  Function.update_of_ne hd ..

/-- The beginning of a handler changes no session. -/
theorem precheck_quiet (env : Environment) (server : RtmpServer) (c : ConnId)
    (command : RtmpCommandMessage) (publish : Bool) :
    RtmpServer.Quiet server (precheck env server c command publish).1 := by
  unfold precheck
  cases RtmpServer.requestedTarget (server.context c) command with
  | none => exact .refl server
  | some target =>
      dsimp only
      obtain ⟨named, hnamed⟩ : ∃ named, named =
          if publish then
            server.modifyContext c fun context => { context with
              streamName := target.streamName
              publishType := RtmpServer.requestedType context command }
          else server.modifyContext c fun context =>
            { context with streamName := target.streamName } := ⟨_, rfl⟩
      rw [← hnamed]
      have hquiet : RtmpServer.Quiet server named := by
        rw [hnamed]
        split <;> exact RtmpServer.quiet_modifyContext (fun _ => by rfl) (fun _ => by rfl) server c
      split
      · exact hquiet
      · cases hauth : named.authorize env c (named.context c).streamKey target.ticket publish with
        | mk asked granted =>
            have hasked := hquiet.trans (RtmpServer.authorize_cases hauth).1
            cases granted with
            | false => exact hasked.trans (RtmpServer.quiet_sendOnStatus ..)
            | true => exact hasked

/-! ### Handlers that nothing interrupts -/

/-- No handler is under way. -/
def Idle (s : Loops) : Prop := ∀ c, s.handlers c = none

section Uninterrupted

variable {env : Environment} {s : Loops} {c : ConnId} {sid : SessionId}

/-- While the manager holds every session, no `shared_ptr` of a handler is the last one. -/
theorem release_of_managed (hm : s.server.Managed) : s.release sid = s := by
  unfold release
  cases hsid : s.server.heap sid with
  | none => rfl
  | some session =>
      have hheld : s.held sid session = true := by
        rw [held, hm.key_of_session hsid]
        simp
      dsimp only
      rw [if_pos hheld]

/-- With no handler under way, a session that the manager drops is gone. -/
theorem removeIfEmpty_release (hm : s.server.Managed) (idle : s.Idle)
    {streamKey : Bytes} (hkey : s.server.sessions streamKey = some sid) :
    (s.removeIfEmpty streamKey).release sid =
      { s with server := s.server.removeIfEmpty streamKey } := by
  obtain ⟨session, hsession, hname⟩ := hm.session_of_key hkey
  unfold removeIfEmpty RtmpServer.removeIfEmpty
  rw [hkey]
  dsimp only
  rw [hsession]
  dsimp only
  cases hempty : session.isEmpty with
  | false => exact release_of_managed hm
  | true =>
      have hfree : held { s with server := { s.server with
          sessions := Function.update s.server.sessions streamKey none } } sid session = false := by
        simp [held, hname, idle _]
      unfold release
      rw [if_pos rfl, if_pos rfl]
      dsimp only
      rw [hsession]
      dsimp only
      rw [hfree]
      rfl

theorem cleanupConnection_idle (hm : s.server.Managed) (idle : s.Idle)
    (c : ConnId) :
    s.cleanupConnection c = { s with server := s.server.cleanupConnection c } := by
  rw [RtmpServer.cleanupConnection_eq]
  unfold cleanupConnection RtmpServer.namedSession
  dsimp only
  split
  · rfl
  · cases hkey : s.server.sessions (s.server.context c).streamKey with
    | none => rfl
    | some sid =>
        have hcleaned := hm.modifySession (RtmpServer.cleaned_streamKey (s.server.context c).role c)
        exact removeIfEmpty_release (s := { s with server := s.server.modifySession sid _ })
          (hcleaned sid) idle hkey

theorem step_proceed_none (h : s.handlers c = none) : step env s (.proceed c) = s := by
  dsimp only [step]
  rw [h]

theorem step_proceed_some {h : Handler} (hc : s.handlers c = some h) :
    step env s (.proceed c) = s.proceed c h := by
  dsimp only [step]
  rw [hc]

theorem Idle.setHandler_none (idle : s.Idle) (c : ConnId) : (s.setHandler c none).Idle := by
  intro d
  by_cases hd : d = c
  · exact hd ▸ setHandler_self s d none
  · exact (setHandler_ne s none hd).trans (idle d)

theorem managed_reply {server : RtmpServer} (hm : server.Managed) (c : ConnId) (h : Handler) :
    (reply server c h).Managed := by
  unfold reply
  split
  · exact hm.quiet (RtmpServer.quiet_sendOnStatus ..)
  · obtain ⟨actions, hreplay⟩ := RtmpServer.replay_frame (server.sendOnStatus c
      (server.context c).streamId "NetStream.Play.Start" "Start playing." false) h.session c _
    dsimp only
    rw [hreplay]
    exact (hm.quiet (RtmpServer.quiet_sendOnStatus ..)).congr rfl rfl rfl

/-- The last two steps of a handler. -/
theorem run_registered {h : Handler} (idle : s.Idle) (hm : s.server.Managed) :
    let s' := System.run (step env) (s.setHandler c (some { h with stage := .registered }))
      [.proceed c, .proceed c]
    s'.server = reply (s.server.modifyContext c fun context => { context with
        role := h.role
        session := some h.session }) c h ∧ s'.Idle := by
  have hbind : step env (s.setHandler c (some { h with stage := .registered })) (.proceed c) =
      { s with server := s.server.modifyContext c fun context => { context with
          role := h.role
          session := some h.session } }.setHandler c (some { h with stage := .bound }) := by
    rw [step_proceed_some (setHandler_self ..)]
    simp [proceed, bind, setHandler, Handler.role]
  have hbound : (s.server.modifyContext c fun context => { context with
      role := h.role
      session := some h.session }).Managed := hm.congr rfl rfl rfl
  obtain ⟨server, hserver⟩ : ∃ server, server = s.server.modifyContext c fun context =>
    { context with role := h.role, session := some h.session } := ⟨_, rfl⟩
  rw [← hserver] at hbind hbound ⊢
  have hanswer : step env ({ s with server := server }.setHandler c
      (some { h with stage := .bound })) (.proceed c) =
      ({ s with server := reply server c { h with stage := .bound } }.setStarted c
        (s.started c ++ [(h.role, h.streamKey)])).setHandler c none := by
    rw [step_proceed_some (setHandler_self ..)]
    refine (release_of_managed (managed_reply hbound c _)).trans ?_
    simp [setHandler, setStarted, Handler.role]
  rw [System.run_cons, System.run_cons, System.run_nil, hbind, hanswer]
  exact ⟨rfl, idle.setHandler_none c⟩

theorem run_idle (idle : s.Idle) :
    System.run (step env) s [.proceed c, .proceed c, .proceed c] = s := by
  simp only [System.run_cons, System.run_nil, step_proceed_none (idle c)]

theorem finish_idle (idle : s.Idle) (r : RtmpServer × Bool) : (s.finish c r).Idle := by
  unfold finish
  split <;> exact idle

/-- How `handlePlay` goes on. -/
theorem handlePlay_eq (env : Environment) (server : RtmpServer) (c : ConnId)
    (command : RtmpCommandMessage) : server.handlePlay env c command =
      match precheck env server c command false with
      | (server, none) => (server, false)
      | (server, some streamKey) =>
          let (server, sid) := server.getOrCreateSession streamKey
          (reply ((server.modifySession sid (·.addPlayer c)).modifyContext c fun context =>
            { context with role := .kPlayer, session := some sid }) c
            { publish := false, streamKey := streamKey, session := sid }, true) := by
  unfold RtmpServer.handlePlay precheck
  cases RtmpServer.requestedTarget (server.context c) command with
  | none => rfl
  | some target =>
      simp only [Bool.false_eq_true, if_false]
      obtain ⟨named, hnamed⟩ : ∃ named, named = server.modifyContext c fun context =>
        { context with streamName := target.streamName } := ⟨_, rfl⟩
      rw [← hnamed]
      by_cases hempty : (named.context c).streamKey = []
      · rw [if_pos hempty, if_pos hempty]
      · rw [if_neg hempty, if_neg hempty]
        unfold RtmpServer.authorizePlay
        cases named.authorize env c (named.context c).streamKey target.ticket false with
        | mk asked granted => cases granted <;> rfl

/-- How `handlePublish` goes on. -/
theorem handlePublish_eq (env : Environment) (server : RtmpServer) (c : ConnId)
    (command : RtmpCommandMessage) : server.handlePublish env c command =
      match precheck env server c command true with
      | (server, none) => (server, false)
      | (server, some streamKey) =>
          let (server, sid) := server.getOrCreateSession streamKey
          match server.setPublisher sid c with
          | (server, false) =>
              (server.sendOnStatus c (server.context c).streamId "NetStream.Publish.BadName"
                "Stream already publishing." true, true)
          | (server, true) =>
              (reply (server.modifyContext c fun context =>
                { context with role := .kPublisher, session := some sid }) c
                { publish := true, streamKey := streamKey, session := sid }, true) := by
  unfold RtmpServer.handlePublish precheck
  cases RtmpServer.requestedTarget (server.context c) command with
  | none => rfl
  | some target =>
      simp only [if_true]
      obtain ⟨named, hnamed⟩ : ∃ named, named = server.modifyContext c fun context =>
        { context with
          streamName := target.streamName
          publishType := RtmpServer.requestedType context command } := ⟨_, rfl⟩
      rw [← hnamed]
      by_cases hempty : (named.context c).streamKey = []
      · rw [if_pos hempty, if_pos hempty]
      · rw [if_neg hempty, if_neg hempty]
        unfold RtmpServer.authorizePublish
        cases named.authorize env c (named.context c).streamKey target.ticket true with
        | mk asked granted => cases granted <;> rfl

/-- Both handlers begin alike. If the rest of a handler, when nothing interrupts, does what
`rest` does in one go, so does the handler. -/
theorem run_lookUp (idle : s.Idle) (hm : s.server.Managed) (command : RtmpCommandMessage)
    (publish : Bool) {rest : RtmpServer → Bytes → RtmpServer × Bool}
    (continues : ∀ server streamKey, (server.getOrCreateSession streamKey).1.Managed →
      let s' := System.run (step env)
        ({ s with server := (server.getOrCreateSession streamKey).1 }.setHandler c
          (some { publish := publish, streamKey := streamKey,
                  session := (server.getOrCreateSession streamKey).2 }))
        [.proceed c, .proceed c, .proceed c]
      s'.server = (s.finish c (rest server streamKey)).server ∧ s'.Idle) :
    let s' := System.run (step env) (s.lookUp env c command publish)
      [.proceed c, .proceed c, .proceed c]
    s'.server = (s.finish c (match precheck env s.server c command publish with
      | (server, none) => (server, false)
      | (server, some streamKey) => rest server streamKey)).server ∧ s'.Idle := by
  have hquiet := precheck_quiet env s.server c command publish
  unfold lookUp
  cases hchecked : precheck env s.server c command publish with
  | mk server key =>
      rw [hchecked] at hquiet
      cases key with
      | none =>
          dsimp only
          rw [run_idle (finish_idle idle _)]
          exact ⟨rfl, finish_idle idle _⟩
      | some streamKey =>
          exact continues server streamKey ((hm.quiet hquiet).getOrCreateSession streamKey).1

/-- `handlePlay`, when nothing interrupts. -/
theorem run_handlePlay (idle : s.Idle) (hm : s.server.Managed) (command : RtmpCommandMessage) :
    let s' := System.run (step env) (s.lookUp env c command false)
      [.proceed c, .proceed c, .proceed c]
    s'.server = (s.finish c (s.server.handlePlay env c command)).server ∧ s'.Idle := by
  rw [handlePlay_eq]
  refine run_lookUp idle hm command false fun server streamKey hget => ?_
  obtain ⟨found, hfound⟩ : ∃ found, found = server.getOrCreateSession streamKey := ⟨_, rfl⟩
  rw [← hfound] at hget ⊢
  have hregister : step env ({ s with server := found.1 }.setHandler c
        (some { publish := false, streamKey := streamKey, session := found.2 })) (.proceed c) =
      { s with server := found.1.modifySession found.2 (·.addPlayer c) }.setHandler c
        (some { publish := false, streamKey := streamKey, session := found.2,
                stage := .registered }) := by
    rw [step_proceed_some (setHandler_self ..)]
    simp [proceed, register, setHandler]
  rw [System.run_cons, hregister]
  exact run_registered (s := { s with server := _ })
    (h := { publish := false, streamKey := streamKey, session := found.2 }) idle
    (hget.modifySession (fun x => x.addPlayer_streamKey c) _)

/-- `handlePublish`, when nothing interrupts. -/
theorem run_handlePublish (idle : s.Idle) (hm : s.server.Managed) (command : RtmpCommandMessage) :
    let s' := System.run (step env) (s.lookUp env c command true)
      [.proceed c, .proceed c, .proceed c]
    s'.server = (s.finish c (s.server.handlePublish env c command)).server ∧ s'.Idle := by
  rw [handlePublish_eq]
  refine run_lookUp idle hm command true fun server streamKey hget => ?_
  dsimp only
  obtain ⟨found, hfound⟩ : ∃ found, found = server.getOrCreateSession streamKey := ⟨_, rfl⟩
  rw [← hfound] at hget ⊢
  have hset : (found.1.setPublisher found.2 c).1.Managed := by
    unfold RtmpServer.setPublisher
    split
    · exact hget
    · exact hget.modifySession (fun x => x.setPublisher_streamKey c) _
  cases hresult : found.1.setPublisher found.2 c with
  | mk taken accepted =>
      rw [hresult] at hset
      cases accepted with
      | false =>
          obtain ⟨refused, hrefused⟩ : ∃ refused, refused =
            taken.sendOnStatus c (taken.context c).streamId "NetStream.Publish.BadName"
              "Stream already publishing." true := ⟨_, rfl⟩
          have hm' : refused.Managed := hrefused ▸ hset.quiet (RtmpServer.quiet_sendOnStatus ..)
          have hidle := Idle.setHandler_none (s := { s with server := refused }) idle c
          have hregister : step env ({ s with server := found.1 }.setHandler c
                (some { publish := true, streamKey := streamKey, session := found.2 }))
                (.proceed c) = { s with server := refused }.setHandler c none := by
            rw [step_proceed_some (setHandler_self ..)]
            simp only [proceed, register, setHandler, hresult, if_true, ← hrefused]
            rw [release_of_managed hm', Function.update_idem]
          rw [System.run_cons, hregister, System.run_cons, System.run_cons, System.run_nil,
            step_proceed_none (hidle c), step_proceed_none (hidle c)]
          exact ⟨hrefused, hidle⟩
      | true =>
          have hregister : step env ({ s with server := found.1 }.setHandler c
                (some { publish := true, streamKey := streamKey, session := found.2 }))
                (.proceed c) =
              { s with server := taken }.setHandler c
                (some { publish := true, streamKey := streamKey, session := found.2,
                        stage := .registered }) := by
            rw [step_proceed_some (setHandler_self ..)]
            simp [proceed, register, setHandler, hresult]
          rw [System.run_cons, hregister]
          exact run_registered (s := { s with server := _ })
            (h := { publish := true, streamKey := streamKey, session := found.2 }) idle hset

/-- **The loops refine the server.** A command that is handled without interruption has the
effect that its message has on one loop. -/
theorem step_uninterrupted (idle : s.Idle) (hm : s.server.Managed) {message : RtmpMessage}
    {command : RtmpCommandMessage} (hcommand : RtmpServer.commandOf message = some command) :
    let s' := System.run (step env) s
      [.command c command, .proceed c, .proceed c, .proceed c]
    s'.server = RtmpServer.step env s.server (.message c message) ∧ s'.Idle := by
  have hfinish (r : RtmpServer × Bool) : (s.finish c r).server =
      match r with
      | (server, true) => server
      | (server, false) => server.shutdown c := by
    unfold finish
    split <;> rfl
  dsimp only
  rw [System.run_cons]
  by_cases hlive : s.server.live c = true
  · have hstep : step env s (.command c command) = s.handleCommandMessage env c command :=
      if_pos ⟨hlive, idle c⟩
    have hserver : RtmpServer.step env s.server (.message c message) =
        (s.finish c (s.server.handleCommandMessage env c command)).server := by
      rw [hfinish, ← RtmpServer.handleMessage_command env hcommand]
      exact if_pos hlive
    have hwhole (r : RtmpServer × Bool) :
        (System.run (step env) (s.finish c r) [.proceed c, .proceed c, .proceed c]).server =
            (s.finish c r).server ∧
          (System.run (step env) (s.finish c r) [.proceed c, .proceed c, .proceed c]).Idle := by
      rw [run_idle (finish_idle idle r)]
      exact ⟨rfl, finish_idle idle r⟩
    rw [hstep, hserver]
    unfold handleCommandMessage RtmpServer.handleCommandMessage
    split
    · exact hwhole _
    · split
      · exact hwhole _
      · split
        · exact run_handlePublish idle hm command
        · split
          · exact run_handlePlay idle hm command
          · split
            · unfold handleDeleteStream RtmpServer.handleDeleteStream
              cases s.server.deleteCheck c command with
              | ignored => exact hwhole _
              | mismatch => exact hwhole _
              | accepted =>
                  have hclean := cleanupConnection_idle (s := s.setStarted c []) hm idle c
                  have hidle : (s.detachConnectionFromSession c).Idle := by
                    unfold detachConnectionFromSession
                    rw [hclean]
                    exact idle
                  dsimp only
                  rw [run_idle hidle]
                  refine ⟨?_, hidle⟩
                  unfold detachConnectionFromSession
                  rw [hclean]
                  rfl
            · exact hwhole _
  · have hstep : step env s (.command c command) = s := if_neg fun h => hlive h.1
    rw [hstep, run_idle idle, RtmpServer.step_message_dead env message hlive]
    exact ⟨rfl, idle⟩

end Uninterrupted

end Loops

end Rmuduo.Rtmp
