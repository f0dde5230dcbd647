/-
What a rejected connection can still do.

When `onMessage` returns `false` the server calls `shutdown()`, which closes the write half
of the connection and nothing else: `handleRead` goes on handing what arrives to
`onMessage`. After an error of the handshake or of the chunk parser this does no harm, for
the bytes that caused it stay at the front of the buffer and are met again. A message that
a handler rejects is gone from the buffer, and the next message is handled as if nothing
had happened.

* `Down` — the connection has been shut down, and this is for good (`Down.move`).
* `Inert` — what arrives on a connection that is down completes no command that is
  accepted, and no media of a publisher.
* `fail_stop` — in every run whose steps are `Inert`, a rejected connection changes no
  session and sends no media.
-/

import Rmuduo.Rtmp.Membership
import Rmuduo.Rtmp.OnMessage

namespace Rmuduo.Rtmp.RtmpServer

open Lib System

/-! ### Connections that are down -/

/-- The connection has been shut down or closed. -/
def Down (s : RtmpServer) (c : ConnId) : Prop :=
  ∃ b, s.binding c = some b ∧ b.1 ≠ .kConnected

section Downs

variable {env : Environment} {s s' : RtmpServer} {c d : ConnId}

theorem Down.congr (h : Down s c) (hbinding : s'.binding c = s.binding c) : Down s' c := by
  obtain ⟨b, hb, hstate⟩ := h
  exact ⟨b, hbinding.trans hb, hstate⟩

theorem Down.not_connected (h : Down s c) : s.connected c = false := by
  obtain ⟨b, hb, hstate⟩ := h
  rw [connected_eq_binding, hb]
  simpa using hstate

theorem Down.modifyConnection (h : Down s c) {f : Connection → Connection}
    (hf : ∀ conn, conn.state ≠ .kConnected → (f conn).state ≠ .kConnected) (d : ConnId) :
    Down (s.modifyConnection d f) c := by
  by_cases hcd : c = d
  · subst hcd
    obtain ⟨b, hb, hstate⟩ := h
    obtain ⟨conn, hconn, rfl⟩ := Option.map_eq_some_iff.mp hb
    refine ⟨((f conn).state, (f conn).context.role, (f conn).context.session), ?_, hf conn hstate⟩
    rw [binding_modifyConnection_self, hconn]
    rfl
  · exact h.congr (binding_modifyConnection_ne hcd)

theorem Down.modifyContext (h : Down s c) (f : RtmpConnectionContext → RtmpConnectionContext)
    (d : ConnId) : Down (s.modifyContext d f) c :=
  h.modifyConnection (f := fun conn => { conn with context := f conn.context })
    (fun _ hstate => hstate) d

theorem down_shutdown (hlive : s.live c = true) : Down (s.shutdown c) c := by
  unfold Down shutdown
  rw [binding_modifyConnection_self]
  unfold live at hlive
  cases hc : s.connections c with
  | none =>
      rw [hc] at hlive
      cases hlive
  | some conn =>
      refine ⟨_, rfl, ?_⟩
      cases hstate : conn.state <;> simp [hstate]

theorem Down.shutdown (h : Down s c) (d : ConnId) : Down (s.shutdown d) c := by
  refine h.modifyConnection ?_ d
  intro conn hstate
  rwa [if_neg hstate]

/-- A connection that is down needs no second shutdown. -/
theorem Down.shutdown_eq (h : Down s c) : s.shutdown c = s := by
  obtain ⟨b, hb, hstate⟩ := h
  obtain ⟨conn, hconn, rfl⟩ := Option.map_eq_some_iff.mp hb
  have hsame : Function.update s.connections c ((s.connections c).map fun conn =>
      if conn.state = .kConnected then { conn with state := .kDisconnecting } else conn) =
      s.connections := by
    rw [hconn, Option.map_some, if_neg hstate, ← hconn, Function.update_eq_self]
  unfold RtmpServer.shutdown RtmpServer.modifyConnection
  rw [hsame]

/-- Nothing brings a connection up again. -/
theorem Down.move (h : Down s c) (hk : Known s) (hmove : Move env s s') : Down s' c := by
  have joins : ∀ {d streamKey role enter}, Down (s.join d streamKey role enter) c := by
    intro d streamKey role enter
    have entered : Down ((s.getOrCreateSession streamKey).1.modifySession
        (s.getOrCreateSession streamKey).2 enter) c :=
      h.congr (binding_of_connections getOrCreateSession_connections c)
    exact entered.modifyContext (fun context => { context with
      role := role
      session := some (s.getOrCreateSession streamKey).2 }) d
  cases hmove with
  | quiet hq => exact h.congr (hq.binding c)
  | becomePublisher => exact joins
  | becomePlayer => exact joins
  | replay =>
      obtain ⟨actions, heq⟩ := replay_frame s _ _ _
      rw [heq]
      exact h
  | media _ _ _ alive =>
      rw [onMediaMessage_eq alive]
      exact h
  | leave d =>
      refine Down.modifyContext ?_ _ d
      exact h.congr (binding_of_connections (cleanupConnection_connections s d) c)
  | shutdown d => exact h.shutdown d
  | accept =>
      have hne : c ≠ s.nextConn := by
        obtain ⟨b, hb, -⟩ := h
        exact Nat.ne_of_lt (hk.connection c (by simp [hb]))
      exact h.congr (accept_binding_ne hne)
  | @close d =>
      have hgone : Down (s.modifyConnection d fun conn =>
          { conn with state := .kDisconnected }) c :=
        h.modifyConnection (fun _ _ => ConnState.noConfusion) d
      exact hgone.congr (binding_of_connections (cleanupConnection_connections _ d) c)

end Downs

/-! ### Messages that nothing comes of -/

/-- The message makes its connection neither publish nor play, nor give up a stream, and it
is not the media of a publisher. -/
def Idle (env : Environment) (s : RtmpServer) (c : ConnId) (message : RtmpMessage) : Prop :=
  (∀ command, commandOf message = some command →
    (command.name = ascii "publish" → ∀ key, ¬ Publishes env s c command key) ∧
    (command.name = ascii "play" → ∀ key, ¬ Plays env s c command key) ∧
    (command.name = ascii "deleteStream" ∨ command.name = ascii "closeStream" →
      s.deleteCheck c command ≠ .accepted)) ∧
  (isMedia message → (s.context c).role ≠ .kPublisher)

/-- Each message is idle when its turn comes. -/
def AllIdle (env : Environment) (s : RtmpServer) (c : ConnId) : List RtmpMessage → Prop
  | [] => True
  | message :: messages =>
      Idle env s c message ∧ ((s.handleMessage env c message).2 = true →
        AllIdle env (s.handleMessage env c message).1 c messages)

section Idling

variable {env : Environment} {s s' : RtmpServer} {c : ConnId}

theorem Idle.quiet {message : RtmpMessage} (h : Idle env s c message)
    (heffect : MessageEffect env s c message s') : Quiet s s' := by
  obtain ⟨hcommands, hmedia⟩ := h
  cases heffect with
  | quiet hq => exact hq
  | publish hcommand hname accepted =>
      exact absurd accepted ((hcommands _ hcommand).1 hname _)
  | play hcommand hname accepted =>
      exact absurd accepted ((hcommands _ hcommand).2.1 hname _)
  | leave hcommand hname accepted =>
      exact absurd accepted ((hcommands _ hcommand).2.2 hname)
  | media hkind role => exact absurd role (hmedia hkind)

theorem AllIdle.quiet {messages : List RtmpMessage} (hlive : s.live c = true)
    (h : AllIdle env s c messages) : Quiet s (s.handleMessages env c messages).1 := by
  induction messages generalizing s with
  | nil => exact .refl s
  | cons message messages ih =>
      have hfirst := h.1.quiet (handleMessage_cases env s c message hlive)
      have hlive' := (live_congr (hfirst.binding c)).trans hlive
      have hrest := h.2
      unfold handleMessages
      cases hm : s.handleMessage env c message with
      | mk s₁ ok =>
          rw [hm] at hfirst hlive' hrest
          cases ok with
          | false => exact hfirst
          | true => exact hfirst.trans (ih hlive' (hrest rfl))

theorem handleMessages_live (env : Environment) (messages : List RtmpMessage)
    (hlive : s.live c = true) : (s.handleMessages env c messages).1.live c = true := by
  induction messages generalizing s with
  | nil => exact hlive
  | cons message messages ih =>
      have hfirst := handleMessage_live env message hlive
      unfold handleMessages
      cases hm : s.handleMessage env c message with
      | mk s₁ ok =>
          rw [hm] at hfirst
          cases ok with
          | false => exact hfirst
          | true => exact ih hfirst

theorem onMessage_live (env : Environment) (hlive : s.live c = true) :
    (s.onMessage env c).1.live c = true := by
  have hread : (s.readMessages env c).1.live c = true :=
    (live_congr (reads_readMessages.quiet.binding c)).trans hlive
  unfold onMessage
  cases hm : s.readMessages env c with
  | mk s₁ messages =>
      rw [hm] at hread
      cases messages with
      | none => exact hread
      | some messages => exact handleMessages_live env messages hread

end Idling

/-! ### Runs -/

/-- `onMessage` returns `false` when the bytes arrive. -/
def Rejects (env : Environment) (s : RtmpServer) (c : ConnId) (data : Bytes) : Prop :=
  s.live c = true ∧ data ≠ [] ∧ ((s.append c data).onMessage env c).2 = false

/-- Nothing comes of the messages that bytes complete on a connection that has been shut down
and is not gone yet. -/
def Inert (env : Environment) (s : RtmpServer) : NetEvent → Prop
  | .receive c data =>
      s.live c = true → s.connected c = false →
      ∀ s₁ messages, (s.append c data).readMessages env c = (s₁, some messages) →
        AllIdle env s₁ c messages
  | _ => True

section Runs

variable {env : Environment} {s s' : RtmpServer} {c : ConnId} {data : Bytes}

theorem Rejects.down (h : Rejects env s c data) : Down (netStep env s (.receive c data)) c := by
  obtain ⟨hlive, hdata, hrejects⟩ := h
  have hlive' : (s.append c data).live c = true :=
    (live_congr ((reads_append data : Reads env c s _).quiet.binding c)).trans hlive
  have hstep : netStep env s (.receive c data) = s.receive env c data := if_pos ⟨hlive, hdata⟩
  have hon := onMessage_live env hlive'
  rw [hstep]
  unfold receive
  cases hm : (s.append c data).onMessage env c with
  | mk s₁ ok =>
      rw [hm] at hrejects hon
      have hrejects : ok = false := hrejects
      subst hrejects
      exact down_shutdown hon

theorem Down.netRun (h : Down s c) (hs : Sound s) (es : List NetEvent) :
    Down (run (netStep env) s es) c := by
  have hboth : Sound (run (netStep env) s es) ∧ Down (run (netStep env) s es) c := by
    refine run_invariant_always (I := fun s => Sound s ∧ Down s c) ?_ es ⟨hs, h⟩
    rintro s e ⟨hs, hd⟩
    obtain ⟨fs, hfs⟩ := netStep_refines env s e
    rw [hfs]
    refine moves_invariant (I := fun s => Sound s ∧ Down s c) ?_ (run_moves env s fs) ⟨hs, hd⟩
    rintro s s' hmove ⟨hs, hd⟩
    exact ⟨hs.move hmove, hd.move hs.known hmove⟩
  exact hboth.2

theorem Sound.netStep (h : Sound s) (env : Environment) (e : NetEvent) :
    Sound (netStep env s e) := by
  obtain ⟨es, hes⟩ := netStep_refines env s e
  rw [hes]
  exact moves_invariant (fun _ _ hmove hs => hs.move hmove) (run_moves env s es) h

theorem sound_netAfter (env : Environment) (es : List NetEvent) : Sound (netAfter env es) :=
  run_invariant_always (fun _ e hs => hs.netStep env e) es sound_init

/-- What arrives on a connection that is down is quiet, when it is inert. -/
theorem Down.receive (h : Down s c) (inert : Inert env s (.receive c data)) :
    Quiet s (netStep env s (.receive c data)) := by
  by_cases harrives : s.live c = true ∧ data ≠ []
  · have hlive := harrives.1
    have hread : Quiet s ((s.append c data).readMessages env c).1 :=
      ((reads_append data).trans reads_readMessages).quiet
    have hdown := h.congr (hread.binding c)
    have hidle := inert hlive h.not_connected
    have hstep : netStep env s (.receive c data) = s.receive env c data := if_pos harrives
    rw [hstep]
    unfold RtmpServer.receive onMessage
    cases hm : (s.append c data).readMessages env c with
    | mk s₁ messages =>
        rw [hm] at hread hdown
        cases messages with
        | none =>
            dsimp only
            rw [hdown.shutdown_eq]
            exact hread
        | some messages =>
            have hlive₁ : s₁.live c = true := (live_congr (hread.binding c)).trans hlive
            have hquiet := (hidle s₁ messages hm).quiet hlive₁
            have hdown' := hdown.congr (hquiet.binding c)
            dsimp only
            cases hh : s₁.handleMessages env c messages with
            | mk s₂ ok =>
                rw [hh] at hquiet hdown'
                cases ok with
                | true => exact hread.trans hquiet
                | false =>
                    dsimp only
                    rw [hdown'.shutdown_eq]
                    exact hread.trans hquiet
  · have hstep : netStep env s (.receive c data) = s := if_neg harrives
    rw [hstep]
    exact .refl s

end Runs

/-- **Fail-stop.** In a run in which the bytes that arrive on a connection after its shutdown
complete no command that is accepted and no media of a publisher: once `onMessage` has
returned `false` for a connection, whatever arrives on it later leaves every session and
the session manager as they are, makes it neither publisher nor player, and sends no
media. -/
theorem fail_stop (env : Environment) (es : List NetEvent)
    (inert : Along (netStep env) (Inert env) {} es) :
    ∀ es₁ c data es₂ data' es₃,
      es = (es₁ ++ .receive c data :: es₂) ++ .receive c data' :: es₃ →
      Rejects env (netAfter env es₁) c data →
      let s := netAfter env (es₁ ++ .receive c data :: es₂)
      let s' := netStep env s (.receive c data')
      s'.sessions = s.sessions ∧ s'.heap = s.heap ∧
        (s'.context c).role = (s.context c).role ∧ Silent s s' := by
  intro es₁ c data es₂ data' es₃ hes hrejects s s'
  have hdown : Down s c := by
    have hs : s = run (netStep env) (netStep env (netAfter env es₁) (.receive c data)) es₂ :=
      run_append _ _ _ _
    rw [hs]
    refine hrejects.down.netRun ?_ es₂
    have hsound := sound_netAfter env (es₁ ++ [.receive c data])
    rwa [netAfter, run_append] at hsound
  have hinert : Inert env s (.receive c data') := by
    rw [hes, along_append] at inert
    exact inert.2.1
  have hquiet : Quiet s s' := hdown.receive hinert
  exact ⟨hquiet.sessions, hquiet.heap, role_congr (hquiet.binding c), .of_quiet hquiet⟩

/-- A connection is rejected. -/
def rejectedRun : List NetEvent :=
  [.accept, .receive 0 Client.handshake] ++ .receive 0 (Client.bytes [Client.malformed]) :: []

/-- It then asks for a stream id. -/
theorem fail_stop_createStream :
    let s := netAfter {} rejectedRun
    let s' := netStep {} s (.receive 0 (Client.bytes [Client.createStream]))
    s'.sessions = s.sessions ∧ s'.heap = s.heap ∧ (s'.context 0).role = (s.context 0).role ∧
      Silent s s' := by
  have first : Inert {} (netAfter {} [.accept]) (.receive 0 Client.handshake) :=
    fun _ hdown => absurd hdown (by decide +kernel)
  have second : Inert {} (netAfter {} [.accept, .receive 0 Client.handshake])
      (.receive 0 (Client.bytes [Client.malformed])) :=
    fun _ hdown => absurd hdown (by decide +kernel)
  have last : Inert {} (netAfter {} rejectedRun)
      (.receive 0 (Client.bytes [Client.createStream])) := by
    intro _ _ s₁ messages hread
    have hmessages : (((netAfter {} rejectedRun).append 0
        (Client.bytes [Client.createStream])).readMessages {} 0).2 =
        some [Client.createStream] := by
      decide +kernel
    rw [hread] at hmessages
    cases hmessages
    refine ⟨⟨?_, fun hmedia => absurd hmedia (by decide +kernel)⟩, fun _ => trivial⟩
    intro command hcommand
    have hname : (commandOf Client.createStream).map (·.name) = some (ascii "createStream") := by
      decide +kernel
    rw [hcommand] at hname
    have hname : command.name = ascii "createStream" := Option.some.inj hname
    rw [hname]
    refine ⟨fun h => ?_, fun h => ?_, fun h => ?_⟩
    · exact absurd h (by decide)
    · exact absurd h (by decide)
    · exact absurd h (by decide)
  have inert : Along (netStep {}) (Inert {}) {}
      (rejectedRun ++ [.receive 0 (Client.bytes [Client.createStream])]) :=
    along_append.mpr ⟨along_append.mpr ⟨⟨trivial, first, trivial⟩, second, trivial⟩, last, trivial⟩
  exact fail_stop {} _ inert [.accept, .receive 0 Client.handshake] 0
    (Client.bytes [Client.malformed]) [] (Client.bytes [Client.createStream]) [] rfl
    (by unfold Rejects; decide +kernel)

/-- A connection names its app, opens a stream and is rejected. -/
def rejectedData : Bytes :=
  Client.bytes [Client.connect (ascii "live"), Client.createStream, Client.malformed]

/-- A connection that has been rejected publishes a stream. -/
theorem rejected_publishes :
    Rejects {} (netAfter {} [.accept, .receive 0 Client.handshake]) 0 rejectedData ∧
      (netAfter {} [.accept, .receive 0 Client.handshake, .receive 0 rejectedData]).sessions
        (ascii "/live/a") = none ∧
      (netAfter {} [.accept, .receive 0 Client.handshake, .receive 0 rejectedData,
        .receive 0 (Client.bytes [Client.request "publish" 1 (ascii "a")])]).sessions
        (ascii "/live/a") = some 0 ∧
      ((netAfter {} [.accept, .receive 0 Client.handshake, .receive 0 rejectedData,
        .receive 0 (Client.bytes [Client.request "publish" 1 (ascii "a")])]).context 0).role =
        .kPublisher := by
  unfold Rejects
  decide +kernel

end Rmuduo.Rtmp.RtmpServer
