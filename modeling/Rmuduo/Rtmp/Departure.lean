/-
Departures.

A connection departs when it is closed, and when its `deleteStream` or `closeStream` is
accepted. `cleanupConnection` then looks for it in one session only: the one under the key
that `streamKey()` gives at that time, in the role that the context has at that time. Both
may have changed since the connection joined. The condition `Tidy` asks for what the
clean-up relies on: the departing connection is in no other session and in no other role.

* `Departs.not_member` — a tidy departure leaves nothing of the connection.
* `no_stale_members` — in every run whose departures are tidy, no session holds a
  connection that is gone.
-/

import Rmuduo.Rtmp.Membership

namespace Rmuduo.Rtmp.RtmpServer

open Lib System

/-- The event makes `c` leave: it is closed, or its delete command is accepted. -/
def Departs (s : RtmpServer) (c : ConnId) : Event → Prop
  | .close d => d = c ∧ s.live c = true
  | .message d message =>
      d = c ∧ s.live c = true ∧ ∃ command, commandOf message = some command ∧
        (command.name = ascii "deleteStream" ∨ command.name = ascii "closeStream") ∧
        s.deleteCheck c command = .accepted
  | _ => False

/-- Whoever departs is in no session but the one that its context names, and in the role
that its context has. -/
def Tidy (s : RtmpServer) (e : Event) : Prop :=
  ∀ c, s.Departs c e → s.OnlyMember c (s.context c).role (s.context c).streamKey

section Departing

variable {env : Environment} {s s' : RtmpServer} {c : ConnId}

theorem handleMessage_leave (env : Environment) {message : RtmpMessage}
    {command : RtmpCommandMessage} (hcommand : commandOf message = some command)
    (hname : command.name = ascii "deleteStream" ∨ command.name = ascii "closeStream")
    (accepted : s.deleteCheck c command = .accepted) :
    s.handleMessage env c message = (s.detachConnectionFromSession c, true) := by
  have hother : command.name ≠ ascii "connect" ∧ command.name ≠ ascii "createStream" ∧
      command.name ≠ ascii "publish" ∧ command.name ≠ ascii "play" := by
    rcases hname with h | h <;> rw [h] <;> decide
  rw [handleMessage_command env hcommand]
  unfold handleCommandMessage
  rw [if_neg hother.1, if_neg hother.2.1, if_neg hother.2.2.1, if_neg hother.2.2.2, if_pos hname]
  unfold handleDeleteStream
  rw [accepted]

/-- A departure closes the connection, or detaches it from its session. -/
theorem Departs.step {e : Event} (env : Environment) (h : s.Departs c e) :
    step env s e = s.close c ∨ step env s e = s.detachConnectionFromSession c := by
  cases e with
  | close d =>
      obtain ⟨rfl, hlive⟩ := h
      exact .inl (if_pos hlive)
  | message d message =>
      obtain ⟨rfl, hlive, command, hcommand, hname, accepted⟩ := h
      right
      dsimp only [RtmpServer.step]
      rw [if_pos hlive, handleMessage_leave env hcommand hname accepted]
  | accept => exact h.elim
  | transport => exact h.elim
  | respond => exact h.elim
  | shutdown => exact h.elim

/-- A departure removes the connection from the session that its context names, and adds
nobody to any. -/
theorem Departs.member {e : Event} (h : s.Departs c e) (hs : Sound s) {d : ConnId}
    {r : ConnectionRole} {sid : SessionId} {key : Bytes}
    (hmem : (RtmpServer.step env s e).Member d r sid key) :
    s.Member d r sid key ∧
      ¬ (d = c ∧ r = (s.context c).role ∧ key = (s.context c).streamKey) := by
  rcases h.step env with hstep | hstep
  · rw [hstep] at hmem
    exact Member.of_close hs.managed hs.named hmem
  · rw [hstep] at hmem
    exact Member.of_cleanupConnection hs.managed hs.named hmem

theorem Departs.not_member {e : Event} (h : s.Departs c e) (hs : Sound s) (tidy : s.Tidy e)
    (r : ConnectionRole) (sid : SessionId) (key : Bytes) :
    ¬ (RtmpServer.step env s e).Member c r sid key := by
  intro hmem
  obtain ⟨hold, hkept⟩ := h.member hs hmem
  exact hkept ⟨rfl, tidy c h r sid key hold⟩

/-- A free slot takes any publisher. -/
theorem setPublisher_of_free (hm : Managed s) {streamKey : Bytes} (free : s.SlotFree streamKey c) :
    ((s.getOrCreateSession streamKey).1.setPublisher (s.getOrCreateSession streamKey).2 c).2 =
      true := by
  obtain ⟨hget, hkey⟩ := hm.getOrCreateSession streamKey
  obtain ⟨session, hsid, -⟩ := hget.session_of_key hkey
  rw [setPublisher_of_some hsid]
  apply RtmpSession.setPublisher_accepts.mpr
  rcases getOrCreateSession_session hsid with ⟨hold, hheap⟩ | ⟨-, rfl⟩
  · exact free _ session hold hheap
  · exact .inl rfl

/-- Where a departed connection was the publisher, nobody is. -/
theorem Departs.slotFree {e : Event} (h : s.Departs c e) (hs : Sound s) (tidy : s.Tidy e)
    {sid : SessionId} {key : Bytes} (hpub : s.Member c .kPublisher sid key) (d : ConnId) :
    (RtmpServer.step env s e).SlotFree key d := by
  intro i session hi hsession
  have hs' := hs.step env e
  have hkey : session.streamKey = key := by
    obtain ⟨x, hx, hxkey⟩ := hs'.managed.session_of_key hi
    rw [hsession] at hx
    exact Option.some.inj hx ▸ hxkey
  cases hslot : session.publisher with
  | none => exact .inl rfl
  | some p =>
      -- A publisher that is left was there before, and that was the one that departed.
      have hleft : (RtmpServer.step env s e).Member p .kPublisher i key :=
        ⟨session, hsession, hkey, hslot⟩
      have hold := (h.member hs hleft).1
      have hsame : i = sid :=
        Option.some.inj ((hold.sessions hs.managed).symm.trans (hpub.sessions hs.managed))
      obtain ⟨x, hx, -, hxpub⟩ := hold
      obtain ⟨y, hy, -, hypub⟩ := hpub
      rw [hsame, hy] at hx
      cases hx
      have hp : p = c := Option.some.inj (hxpub.symm.trans hypub)
      exact absurd (hp ▸ hleft) (h.not_member hs tidy _ _ _)

end Departing

/-! ### Members are live -/

section Living

variable {env : Environment} {s s' : RtmpServer} {c : ConnId}

/-- Every member of a session is a live connection. -/
def LiveMembers (s : RtmpServer) : Prop :=
  ∀ c role sid key, s.Member c role sid key → s.live c = true

theorem LiveMembers.mono (h : LiveMembers s) (hlive : ∀ d, s.live d = true → s'.live d = true)
    (hmember : ∀ {d r sid key}, s'.Member d r sid key → s.Member d r sid key) : LiveMembers s' :=
  fun d r sid key hmem => hlive d (h d r sid key (hmember hmem))

theorem LiveMembers.quiet (h : LiveMembers s) (hq : Quiet s s') : LiveMembers s' :=
  h.mono (fun d hd => (live_congr (hq.binding d)).trans hd) (Member.congr hq.heap).mp

theorem LiveMembers.join (h : LiveMembers s) {streamKey : Bytes} {role : ConnectionRole}
    {enter : RtmpSession → RtmpSession} (hlive : s.live c = true)
    (hmember : ∀ {d r sid key}, (s.join c streamKey role enter).Member d r sid key →
      s.Member d r sid key ∨ (d = c ∧ r = role ∧ sid = (s.getOrCreateSession streamKey).2)) :
    LiveMembers (s.join c streamKey role enter) := by
  intro d r sid key hmem
  rw [join_live]
  rcases hmember hmem with hold | ⟨rfl, -, -⟩
  · exact h d r sid key hold
  · exact hlive

theorem LiveMembers.effect {message : RtmpMessage} (h : LiveMembers s) (hs : Sound s)
    (hlive : s.live c = true) (heffect : MessageEffect env s c message s') : LiveMembers s' := by
  cases heffect with
  | quiet hq => exact h.quiet hq
  | publish _ _ _ _ asked _ joined =>
      have hlive₁ := (live_congr (asked.binding c)).trans hlive
      exact ((h.quiet asked).join hlive₁ Member.of_becomePublisher).quiet joined
  | play _ _ _ _ asked _ joined replayed =>
      have hlive₁ := (live_congr (asked.binding c)).trans hlive
      have hs₂ := ((h.quiet asked).join hlive₁ Member.of_becomePlayer).quiet joined
      obtain ⟨actions, heq⟩ := replay_frame _ _ _ _
      rw [replayed, heq]
      exact hs₂
  | leave _ _ _ left =>
      rw [left]
      exact h.mono (fun d hd => detach_live.trans hd)
        fun hmem => (Member.of_cleanupConnection hs.managed hs.named hmem).1
  | media _ _ _ alive sent =>
      rw [sent]
      refine h.mono ?_ (Member.of_onMediaMessage alive)
      intro d hd
      rwa [onMediaMessage_eq alive]

/-- Tidy steps keep the members live: the only way to die is to depart. -/
theorem LiveMembers.step (h : LiveMembers s) (hs : Sound s) {e : Event} (tidy : s.Tidy e) :
    LiveMembers (step env s e) := by
  cases e with
  | accept =>
      refine h.mono ?_ fun hmem => hmem
      intro d hd
      by_cases hnew : d = s.nextConn
      · subst hnew
        simp [RtmpServer.step, live, accept]
      · exact (live_congr (accept_binding_ne hnew)).trans hd
  | transport c t =>
      exact h.quiet (quiet_modifyConnection (f := (·.withTransport t))
        (fun _ => rfl) (fun _ => rfl) (fun _ => rfl) s c)
  | respond c response => exact h.quiet (quiet_send s c response)
  | shutdown c => exact h.mono (fun _ hd => shutdown_live.trans hd) fun hmem => hmem
  | close c =>
      by_cases hlive : s.live c = true
      · have departs : s.Departs c (.close c) := ⟨rfl, hlive⟩
        intro d r sid key hmem
        by_cases hd : d = c
        · subst hd
          exact absurd hmem (departs.not_member hs tidy r sid key)
        · have hstep : RtmpServer.step env s (.close c) = s.close c := if_pos hlive
          rw [hstep, live_congr (close_binding_ne hd)]
          exact h d r sid key (departs.member hs hmem).1
      · have hstep : RtmpServer.step env s (.close c) = s := if_neg hlive
        rw [hstep]
        exact h
  | message c message =>
      by_cases hlive : s.live c = true
      · obtain ⟨s₁, heffect, hstep | hstep⟩ := step_message env message hlive
        · exact hstep ▸ h.effect hs hlive heffect
        · rw [hstep]
          exact (h.effect hs hlive heffect).mono (fun _ hd => shutdown_live.trans hd)
            fun hmem => hmem
      · rw [step_message_dead env message hlive]
        exact h

end Living

theorem liveMembers_after {env : Environment} {es : List Event}
    (tidy : Along (step env) Tidy {} es) : Sound (after env es) ∧ LiveMembers (after env es) := by
  refine run_invariant (I := fun s => Sound s ∧ LiveMembers s) ?_ tidy ⟨sound_init, ?_⟩
  · rintro s e htidy ⟨hs, hl⟩
    exact ⟨hs.step env e, hl.step hs htidy⟩
  · rintro c role sid key ⟨_, hsid, -⟩
    cases hsid

/-- No session of the server has `c` as its publisher or among its players. -/
def Absent (s : RtmpServer) (c : ConnId) : Prop :=
  ∀ sid session, s.heap sid = some session → session.publisher ≠ some c ∧ c ∉ session.players

theorem absent_iff {s : RtmpServer} {c : ConnId} :
    s.Absent c ↔ ∀ role sid key, ¬ s.Member c role sid key := by
  constructor
  · rintro h role sid key ⟨session, hsid, -, hholds⟩
    cases role with
    | kPublisher => exact (h sid session hsid).1 hholds
    | kPlayer => exact (h sid session hsid).2 hholds
    | kUnknown => exact hholds
  · intro h sid session hsid
    constructor
    · intro hpub
      exact h .kPublisher sid session.streamKey ⟨session, hsid, rfl, hpub⟩
    · intro hplayer
      exact h .kPlayer sid session.streamKey ⟨session, hsid, rfl, hplayer⟩

/-- **No stale references after departure.** In a run in which every connection that departs
is in no session but the one that its context names then, in the role that its context
has then: no session has a connection that is closed; right after its departure no
session has the connection that departed; and whatever stream key that connection was
publishing then takes any publisher. -/
theorem no_stale_members (env : Environment) (es : List Event)
    (tidy : Along (step env) Tidy {} es) :
    (∀ c, (after env es).live c = false → (after env es).Absent c) ∧
    (∀ es₁ e es₂ c, es = es₁ ++ e :: es₂ → (after env es₁).Departs c e →
      (after env (es₁ ++ [e])).Absent c ∧
      ∀ key sid session, (after env es₁).sessions key = some sid →
        (after env es₁).heap sid = some session → session.publisher = some c →
        ∀ d, (((after env (es₁ ++ [e])).getOrCreateSession key).1.setPublisher
          ((after env (es₁ ++ [e])).getOrCreateSession key).2 d).2 = true) := by
  constructor
  · intro c hdead
    refine absent_iff.mpr fun role sid key hmem => ?_
    have hlive := (liveMembers_after tidy).2 c role sid key hmem
    rw [hdead] at hlive
    cases hlive
  · intro es₁ e es₂ c hes departs
    rw [hes, along_append] at tidy
    have hs := (liveMembers_after tidy.1).1
    have htidy : (after env es₁).Tidy e := tidy.2.1
    have hafter : after env (es₁ ++ [e]) = step env (after env es₁) e := run_append _ _ _ _
    rw [hafter]
    refine ⟨absent_iff.mpr fun role sid key => departs.not_member hs htidy role sid key, ?_⟩
    intro key sid session hkey hsid hpub d
    obtain ⟨x, hx, hxkey⟩ := hs.managed.session_of_key hkey
    rw [hsid] at hx
    cases hx
    exact setPublisher_of_free (hs.step env e).managed
      (departs.slotFree hs htidy ⟨session, hsid, hxkey, hpub⟩ d)

theorem tidy_of_no_sessions {s : RtmpServer} (hm : Managed s) (hnone : s.nextSession = 0)
    (e : Event) : s.Tidy e :=
  fun _ _ => onlyMember_of_no_sessions hm hnone

/-- A publisher of one stream is closed. -/
theorem no_stale_members_publishing :
    (after {} (Client.publishing 0 (ascii "live") (ascii "a") ++ [.close 0])).Absent 0 := by
  let es := Client.publishing 0 (ascii "live") (ascii "a")
  have publishes : Along (step {}) Tidy {} es := by
    refine ⟨?_, ?_, ?_, ?_, trivial⟩
    · exact tidy_of_no_sessions managed_init rfl _
    · exact tidy_of_no_sessions (managed_after {} (es.take 1)) (by decide +kernel) _
    · exact tidy_of_no_sessions (managed_after {} (es.take 2)) (by decide +kernel) _
    · exact tidy_of_no_sessions (managed_after {} (es.take 3)) (by decide +kernel) _
  have closes : (after {} es).Tidy (.close 0) := by
    rintro c ⟨rfl, -⟩ r sid key ⟨session, hsid, hkey, hholds⟩
    -- The only session is the one that connection 0 publishes.
    have hfirst : sid = 0 := Nat.lt_one_iff.mp ((managed_after {} es).fresh hsid)
    have heap : (after {} es).heap 0 =
        some { streamKey := ascii "/live/a", publisher := some 0 } := by
      decide +kernel
    rw [hfirst, heap] at hsid
    cases hsid
    refine ⟨?_, hkey.symm.trans (by decide +kernel)⟩
    cases r with
    | kPublisher => decide +kernel
    | kPlayer => cases hholds
    | kUnknown => exact hholds.elim
  have tidy : Along (step {}) Tidy {} (es ++ [.close 0]) :=
    along_append.mpr ⟨publishes, closes, trivial⟩
  exact (no_stale_members {} (es ++ [.close 0]) tidy).1 0 (by decide +kernel)

/-- Connection 0 publishes `/live/a` and then `/live/b`, and is closed; connection 1 then
wants to publish `/live/a`. -/
def publishesTwice : List Event :=
  Client.publishing 0 (ascii "live") (ascii "a") ++
    [.message 0 (Client.request "publish" 1 (ascii "b")), .close 0] ++
    Client.opening 1 (ascii "live") ++ [.message 1 (Client.request "publish" 1 (ascii "a"))]

/-- The first session keeps the closed connection as its publisher, and refuses the new
one. -/
theorem publishesTwice_stale :
    (after {} publishesTwice).live 0 = false ∧
      (after {} publishesTwice).sessions (ascii "/live/a") = some 0 ∧
      ((after {} publishesTwice).heap 0).map (·.publisher) = some (some 0) ∧
      ((after {} publishesTwice).context 1).role = .kUnknown := by
  decide +kernel

end Rmuduo.Rtmp.RtmpServer
