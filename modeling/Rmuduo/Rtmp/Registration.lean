/-
Whether a connection that has been told `Start` is in the session that the manager holds.

Between the look-up of a session and the registration in it, the departure of another
connection may empty the session, and the manager drops it. The handler then registers in a
session that nobody else can find.

* `NoneLost` — every connection is in the session that the manager holds for the stream key
  under which it has been started.
* `Spares` — no departure empties a session that another handler has looked up and not yet
  registered in.
* `noneLost_of_spares` — a run whose steps all spare the handlers loses nobody.
* `not_noneLost_of_dropped` — who registers in a session that the manager has dropped is lost.
* `not_noneLost_departure` — a departure in between loses a player.
-/

import Rmuduo.Rtmp.Loops
import Rmuduo.Rtmp.Membership

namespace Rmuduo.Rtmp.Loops

open Lib

/-- `c` is, in a role, in the session that the manager holds for a stream key. -/
def InHeldSession (s : Loops) (c : ConnId) (role : ConnectionRole) (streamKey : Bytes) : Prop :=
  ∃ sid, s.server.sessions streamKey = some sid ∧ s.server.Member c role sid streamKey

/-- Who has been sent a `Start` and has not left or disconnected since is in the session that
the manager holds, whether or not it has asked for another stream name since. -/
def NoneLost (s : Loops) : Prop :=
  ∀ c role streamKey, (role, streamKey) ∈ s.started c → s.InHeldSession c role streamKey

/-- `c` leaves its session in this event. -/
def Departs (s : Loops) (c : ConnId) : LoopEvent → Prop
  | .close d => d = c ∧ s.server.live c = true ∧ s.handlers c = none
  | .command d command => d = c ∧ s.server.live c = true ∧ s.handlers c = none ∧
      (command.name = ascii "deleteStream" ∨ command.name = ascii "closeStream") ∧
      s.server.deleteCheck c command = .accepted
  | .accept => False
  | .proceed _ => False
  | .shutdown _ => False

/-- A clean-up after `c` leaves nobody in the session. -/
def Empties (s : Loops) (c : ConnId) (sid : SessionId) : Prop :=
  s.server.namedSession c = some sid ∧ ∃ session, s.server.heap sid = some session ∧
    (RtmpServer.cleaned (s.server.context c).role c session).isEmpty = true

/-- Whoever departs empties no session that a handler has looked up and not yet registered
in. -/
def Spares (s : Loops) (e : LoopEvent) : Prop :=
  ∀ c, s.Departs c e → ∀ d h, s.handlers d = some h → h.stage = .lookedUp → ¬ s.Empties c h.session

/-- What holds as long as the handlers are spared: the manager holds the session of every
handler, and whoever has registered is in it. -/
structure Registered (s : Loops) : Prop where
  session_of_key : ∀ {streamKey sid}, s.server.sessions streamKey = some sid →
    ∃ session, s.server.heap sid = some session ∧ session.streamKey = streamKey
  fresh : ∀ {sid session}, s.server.heap sid = some session → sid < s.server.nextSession
  found : ∀ {c h}, s.handlers c = some h → s.server.sessions h.streamKey = some h.session
  entered : ∀ {c h}, s.handlers c = some h → h.stage ≠ .lookedUp →
    s.server.Member c h.role h.session h.streamKey
  noneLost : s.NoneLost

section Steps

variable {env : Environment} {s : Loops} {c : ConnId} {sid : SessionId} {streamKey : Bytes}

theorem registered_init : Registered {} where
  session_of_key h := by cases h
  fresh h := by cases h
  found h := by cases h
  entered h := by cases h
  noneLost _ _ _ h := by cases h

/-! ### Changes that keep the sessions -/

theorem Registered.server {server : RtmpServer} (h : s.Registered)
    (hsessions : server.sessions = s.server.sessions) (hheap : server.heap = s.server.heap)
    (hnext : server.nextSession = s.server.nextSession) :
    Registered { s with server := server } where
  session_of_key hkey := by
    rw [hsessions] at hkey
    rw [hheap]
    exact h.session_of_key hkey
  fresh hsid := by
    rw [hheap] at hsid
    rw [hnext]
    exact h.fresh hsid
  found hc := by
    rw [hsessions]
    exact h.found hc
  entered hc hstage := (RtmpServer.Member.congr hheap).mpr (h.entered hc hstage)
  noneLost c role streamKey hstarted := by
    obtain ⟨sid, hkey, hmember⟩ := h.noneLost c role streamKey hstarted
    exact ⟨sid, hsessions ▸ hkey, (RtmpServer.Member.congr hheap).mpr hmember⟩

theorem Registered.quiet {server : RtmpServer} (h : s.Registered)
    (hq : RtmpServer.Quiet s.server server) : Registered { s with server := server } :=
  h.server hq.sessions hq.heap hq.nextSession

theorem Registered.finish {r : RtmpServer × Bool} (h : s.Registered)
    (hq : RtmpServer.Quiet s.server r.1) : (s.finish c r).Registered := by
  obtain ⟨server, result⟩ := r
  cases result with
  | true => exact h.quiet hq
  | false => exact (h.quiet hq).server rfl rfl rfl

theorem Registered.setHandler {next : Option Handler} (h : s.Registered)
    (hfound : ∀ x, next = some x → s.server.sessions x.streamKey = some x.session)
    (hentered : ∀ x, next = some x → x.stage ≠ .lookedUp →
      s.server.Member c x.role x.session x.streamKey) : (s.setHandler c next).Registered where
  session_of_key := h.session_of_key
  fresh := h.fresh
  found {d x} hd := by
    by_cases hc : d = c
    · subst hc
      rw [setHandler_self] at hd
      exact hfound x hd
    · exact h.found ((setHandler_ne s next hc).symm.trans hd)
  entered {d x} hd hstage := by
    by_cases hc : d = c
    · subst hc
      rw [setHandler_self] at hd
      exact hentered x hd hstage
    · exact h.entered ((setHandler_ne s next hc).symm.trans hd) hstage
  noneLost := h.noneLost

theorem Registered.setHandler_none (h : s.Registered) (c : ConnId) :
    (s.setHandler c none).Registered :=
  h.setHandler (fun _ hx => by cases hx) (fun _ hx => by cases hx)

theorem Registered.setStarted {started : List (ConnectionRole × Bytes)} (h : s.Registered)
    (hheld : ∀ role streamKey, (role, streamKey) ∈ started → s.InHeldSession c role streamKey) :
    (s.setStarted c started).Registered where
  session_of_key := h.session_of_key
  fresh := h.fresh
  found := h.found
  entered := h.entered
  noneLost d role streamKey hd := by
    by_cases hc : d = c
    · subst hc
      rw [setStarted_self] at hd
      exact hheld role streamKey hd
    · rw [setStarted_ne s started hc] at hd
      exact h.noneLost d role streamKey hd

/-- What is not held goes, and nobody misses it. -/
theorem Registered.release (h : s.Registered) (sid : SessionId) : (s.release sid).Registered := by
  unfold Loops.release
  cases hsid : s.server.heap sid with
  | none => exact h
  | some session =>
      dsimp only
      split
      · exact h
      · rename_i hfree
        -- The manager does not hold the session under any key.
        have hother {streamKey i} (hkey : s.server.sessions streamKey = some i) : i ≠ sid := by
          rintro rfl
          obtain ⟨x, hx, hname⟩ := h.session_of_key hkey
          rw [hsid] at hx
          cases hx
          exact hfree (by simp [held, hname, hkey])
        have hmember {d r i streamKey} (hi : i ≠ sid) (hm : s.server.Member d r i streamKey) :
            RtmpServer.Member { s.server with heap := Function.update s.server.heap sid none }
              d r i streamKey := by
          obtain ⟨x, hx, hin⟩ := hm
          exact ⟨x, (Function.update_of_ne hi ..).trans hx, hin⟩
        constructor
        · intro streamKey i hkey
          obtain ⟨x, hx, hname⟩ := h.session_of_key hkey
          exact ⟨x, (Function.update_of_ne (hother hkey) ..).trans hx, hname⟩
        · intro i x hi
          dsimp only at hi
          by_cases hsame : i = sid
          · subst hsame
            rw [Function.update_self] at hi
            cases hi
          · rw [Function.update_of_ne hsame] at hi
            exact h.fresh hi
        · exact h.found
        · intro d x hd hstage
          exact hmember (hother (h.found hd)) (h.entered hd hstage)
        · intro d role streamKey hd
          obtain ⟨i, hkey, hm⟩ := h.noneLost d role streamKey hd
          exact ⟨i, hkey, hmember (hother hkey) hm⟩

/-! ### Changes of a session -/

/-- Whoever is in the middle of a handler or has been started. -/
def Concerned (s : Loops) (c : ConnId) : Prop := s.handlers c ≠ none ∨ s.started c ≠ []

/-- A session is changed so that its members stay. -/
theorem Registered.modifySession {f : RtmpSession → RtmpSession} (h : s.Registered)
    (sid : SessionId) (hname : ∀ x, (f x).streamKey = x.streamKey)
    (hstay : ∀ x, s.server.heap sid = some x → ∀ d r, s.Concerned d → x.Holds d r →
      (f x).Holds d r) :
    Registered { s with server := s.server.modifySession sid f } := by
  have hmember {d r i streamKey} (hd : s.Concerned d) (hm : s.server.Member d r i streamKey) :
      (s.server.modifySession sid f).Member d r i streamKey := by
    obtain ⟨x, hx, hkey, hin⟩ := hm
    refine ⟨_, RtmpServer.modifySession_heap.mpr ⟨x, hx, rfl⟩, ?_⟩
    split
    · rename_i hi
      subst hi
      exact ⟨(hname x).trans hkey, hstay x hx d r hd hin⟩
    · exact ⟨hkey, hin⟩
  constructor
  · intro streamKey i hkey
    obtain ⟨x, hx, hx'⟩ := h.session_of_key hkey
    refine ⟨_, RtmpServer.modifySession_heap.mpr ⟨x, hx, rfl⟩, ?_⟩
    split
    · exact (hname x).trans hx'
    · exact hx'
  · intro i x hi
    obtain ⟨y, hy, -⟩ := RtmpServer.modifySession_heap.mp hi
    exact h.fresh hy
  · exact h.found
  · intro d x hd hstage
    exact hmember (.inl fun hnone => by rw [hnone] at hd; cases hd) (h.entered hd hstage)
  · intro d role streamKey hd
    obtain ⟨i, hkey, hm⟩ := h.noneLost d role streamKey hd
    exact ⟨i, hkey, hmember (.inr (List.ne_nil_of_mem hd)) hm⟩

/-- The look-up: the session of the key is held now, and the others stay. -/
theorem Registered.getOrCreateSession (h : s.Registered) (streamKey : Bytes) :
    Registered { s with server := (s.server.getOrCreateSession streamKey).1 } ∧
      (s.server.getOrCreateSession streamKey).1.sessions streamKey =
        some (s.server.getOrCreateSession streamKey).2 := by
  cases hkey : s.server.sessions streamKey with
  | some sid =>
      rw [RtmpServer.getOrCreateSession_of_some hkey]
      exact ⟨h, hkey⟩
  | none =>
      rw [RtmpServer.getOrCreateSession_of_none hkey]
      have hkept {k i} (hk : s.server.sessions k = some i) :
          Function.update s.server.sessions streamKey (some s.server.nextSession) k = some i := by
        have hne : k ≠ streamKey := by
          rintro rfl
          rw [hkey] at hk
          cases hk
        rw [Function.update_of_ne hne]
        exact hk
      have hheap {i x} (hi : s.server.heap i = some x) :
          Function.update s.server.heap s.server.nextSession
            (some { streamKey := streamKey }) i = some x := by
        rw [Function.update_of_ne (Nat.ne_of_lt (h.fresh hi))]
        exact hi
      dsimp only
      refine ⟨⟨fun {k i} hk => ?_, fun {i x} hi => ?_, fun hd => hkept (h.found hd),
        fun hd hstage => ?_, fun d role k hd => ?_⟩, Function.update_self ..⟩
      · dsimp only at hk ⊢
        by_cases hsame : k = streamKey
        · subst hsame
          rw [Function.update_self] at hk
          cases hk
          exact ⟨_, Function.update_self .., rfl⟩
        · rw [Function.update_of_ne hsame] at hk
          obtain ⟨x, hx, hname⟩ := h.session_of_key hk
          exact ⟨x, hheap hx, hname⟩
      · dsimp only at hi ⊢
        by_cases hsame : i = s.server.nextSession
        · exact hsame ▸ Nat.lt_succ_self _
        · rw [Function.update_of_ne hsame] at hi
          exact Nat.lt_succ_of_lt (h.fresh hi)
      · obtain ⟨x, hx, hin⟩ := h.entered hd hstage
        exact ⟨x, hheap hx, hin⟩
      · obtain ⟨i, hk, x, hx, hin⟩ := h.noneLost d role k hd
        exact ⟨i, hkept hk, x, hheap hx, hin⟩

theorem isEmpty_of_holds {session : RtmpSession} {d : ConnId} {r : ConnectionRole}
    (h : session.Holds d r) : session.isEmpty = false := by
  unfold RtmpSession.isEmpty
  cases r with
  | kPublisher => rw [show session.publisher = some d from h]; rfl
  | kPlayer => rw [List.isEmpty_eq_false_iff.mpr (List.ne_nil_of_mem h), Bool.and_false]
  | kUnknown => exact h.elim

/-- The manager drops an empty session that no handler has looked up. -/
theorem Registered.removeIfEmpty (h : s.Registered)
    (hspared : ∀ d x, s.handlers d = some x → x.stage = .lookedUp → x.streamKey = streamKey →
      ∀ session, s.server.heap x.session = some session → session.isEmpty = false) :
    (s.removeIfEmpty streamKey).Registered := by
  unfold Loops.removeIfEmpty
  cases hkey : s.server.sessions streamKey with
  | none => exact h
  | some sid =>
      dsimp only
      cases hsid : s.server.heap sid with
      | none => exact h
      | some session =>
          dsimp only
          split
          · rename_i hempty
            have hoccupied {k i d r} (hk : s.server.sessions k = some i)
                (hm : s.server.Member d r i k) : k ≠ streamKey := by
              rintro rfl
              rw [hkey] at hk
              cases hk
              obtain ⟨x, hx, -, hin⟩ := hm
              rw [hsid] at hx
              cases hx
              rw [isEmpty_of_holds hin] at hempty
              cases hempty
            constructor
            · intro k i hk
              dsimp only at hk
              by_cases hsame : k = streamKey
              · rw [hsame, Function.update_self] at hk
                cases hk
              · rw [Function.update_of_ne hsame] at hk
                exact h.session_of_key hk
            · exact h.fresh
            · intro d x hd
              have hne : x.streamKey ≠ streamKey := by
                cases hstage : x.stage with
                | lookedUp =>
                    intro hsame
                    have hfound := h.found hd
                    rw [hsame, hkey] at hfound
                    cases hfound
                    rw [hspared d x hd hstage hsame session hsid] at hempty
                    cases hempty
                | registered => exact hoccupied (h.found hd) (h.entered hd (by simp [hstage]))
                | bound => exact hoccupied (h.found hd) (h.entered hd (by simp [hstage]))
              exact (Function.update_of_ne hne ..).trans (h.found hd)
            · exact h.entered
            · intro d role k hd
              obtain ⟨i, hk, hm⟩ := h.noneLost d role k hd
              exact ⟨i, (Function.update_of_ne (hoccupied hk hm) ..).trans hk, hm⟩
          · exact h

/-- A clean-up after a connection that is in no handler and not started. -/
theorem Registered.cleanupConnection (h : s.Registered) (hc : ¬ s.Concerned c)
    (hspared : ∀ d x, s.handlers d = some x → x.stage = .lookedUp → ¬ s.Empties c x.session) :
    (s.cleanupConnection c).Registered := by
  unfold Loops.cleanupConnection
  dsimp only
  split
  · exact h
  · rename_i hnamed
    cases hkey : s.server.sessions (s.server.context c).streamKey with
    | none => exact h
    | some sid =>
        have hcleaned := h.modifySession (f := RtmpServer.cleaned (s.server.context c).role c) sid
          (RtmpServer.cleaned_streamKey _ _) fun x _ d r hd hin =>
            RtmpServer.holds_cleaned.mpr ⟨hin, fun hdc => hc (hdc.1 ▸ hd)⟩
        refine (hcleaned.removeIfEmpty ?_).release sid
        intro d x hd hstage hsame session hsession
        obtain ⟨y, hy, rfl⟩ := RtmpServer.modifySession_heap.mp hsession
        have hfound := h.found hd
        rw [hsame, hkey] at hfound
        rw [if_pos (Option.some.inj hfound).symm]
        -- Otherwise the clean-up would empty the session.
        refine Bool.eq_false_iff.mpr fun hempty => hspared d x hd hstage ⟨?_, y, hy, hempty⟩
        rw [RtmpServer.namedSession, if_neg hnamed, hkey, hfound]

/-! ### Every step -/

theorem reply_store (server : RtmpServer) (c : ConnId) (h : Handler) :
    (reply server c h).sessions = server.sessions ∧ (reply server c h).heap = server.heap ∧
      (reply server c h).nextSession = server.nextSession := by
  unfold reply
  split
  · have quiet := RtmpServer.quiet_sendOnStatus server c (server.context c).streamId
      "NetStream.Publish.Start" "Start publishing." false
    exact ⟨quiet.sessions, quiet.heap, quiet.nextSession⟩
  · have quiet := RtmpServer.quiet_sendOnStatus server c (server.context c).streamId
      "NetStream.Play.Start" "Start playing." false
    obtain ⟨actions, hreplay⟩ := RtmpServer.replay_frame (server.sendOnStatus c
      (server.context c).streamId "NetStream.Play.Start" "Start playing." false) h.session c _
    dsimp only
    rw [hreplay]
    exact ⟨quiet.sessions, quiet.heap, quiet.nextSession⟩

theorem Registered.lookUp (h : s.Registered) (env : Environment) (c : ConnId)
    (command : RtmpCommandMessage) (publish : Bool) :
    (s.lookUp env c command publish).Registered := by
  have hquiet := precheck_quiet env s.server c command publish
  unfold Loops.lookUp
  cases hchecked : precheck env s.server c command publish with
  | mk server key =>
      rw [hchecked] at hquiet
      cases key with
      | none => exact h.finish hquiet
      | some streamKey =>
          obtain ⟨hget, hkey⟩ := (h.quiet hquiet).getOrCreateSession streamKey
          refine hget.setHandler (fun x hx => ?_) (fun x hx hstage => ?_)
          · cases hx
            exact hkey
          · cases hx
            exact absurd rfl hstage

theorem holds_setPublisher_of_accepted {session : RtmpSession} {d : ConnId} {r : ConnectionRole}
    (haccepted : (session.setPublisher c).2 = true) (h : session.Holds d r) :
    (session.setPublisher c).1.Holds d r := by
  cases r with
  | kPublisher =>
      have hd : session.publisher = some d := h
      rcases RtmpSession.setPublisher_accepts.mp haccepted with hfree | hown
      · rw [hfree] at hd
        cases hd
      · rw [hown] at hd
        cases hd
        exact RtmpSession.setPublisher_publisher haccepted
  | kPlayer =>
      change d ∈ (session.setPublisher c).1.players
      rw [RtmpSession.setPublisher_players]
      exact h
  | kUnknown => exact h

theorem holds_addPlayer_of_holds {session : RtmpSession} {d : ConnId} {r : ConnectionRole}
    (h : session.Holds d r) : (session.addPlayer c).Holds d r := by
  cases r with
  | kPublisher => exact (RtmpSession.addPlayer_publisher session c).trans h
  | kPlayer => exact RtmpSession.mem_addPlayer.mpr (.inl h)
  | kUnknown => exact h

theorem Registered.register {x : Handler} (h : s.Registered) (hx : s.handlers c = some x) :
    (s.register c x).Registered := by
  have hfound := h.found hx
  obtain ⟨session, hsession, hname⟩ := h.session_of_key hfound
  unfold Loops.register
  dsimp only
  split
  · rename_i hpublish
    rw [RtmpServer.setPublisher_of_some hsession]
    cases haccepted : (session.setPublisher c).2 with
    | false =>
        dsimp only
        rw [RtmpServer.modifySession_of_rejected hsession haccepted]
        exact ((h.quiet (RtmpServer.quiet_sendOnStatus ..)).setHandler_none c).release _
    | true =>
        have hset := h.modifySession (f := fun y => (y.setPublisher c).1) x.session
          (fun y => y.setPublisher_streamKey c) fun y hy d r _ hin => by
            rw [hsession] at hy
            cases hy
            exact holds_setPublisher_of_accepted haccepted hin
        refine hset.setHandler (fun y hy => ?_) (fun y hy _ => ?_)
        · cases hy
          exact hfound
        · cases hy
          refine ⟨_, RtmpServer.modifySession_heap.mpr ⟨session, hsession, rfl⟩, ?_⟩
          rw [if_pos rfl, session.setPublisher_streamKey]
          refine ⟨hname, ?_⟩
          rw [Handler.role, if_pos hpublish]
          exact RtmpSession.setPublisher_publisher haccepted
  · rename_i hplay
    have hadd := h.modifySession (f := fun y => y.addPlayer c) x.session
      (fun y => y.addPlayer_streamKey c) fun y _ d r _ hin => holds_addPlayer_of_holds hin
    refine hadd.setHandler (fun y hy => ?_) (fun y hy _ => ?_)
    · cases hy
      exact hfound
    · cases hy
      refine ⟨_, RtmpServer.modifySession_heap.mpr ⟨session, hsession, rfl⟩, ?_⟩
      rw [if_pos rfl, session.addPlayer_streamKey]
      refine ⟨hname, ?_⟩
      rw [Handler.role, if_neg hplay]
      exact RtmpSession.mem_addPlayer.mpr (.inr rfl)

theorem Registered.bind {x : Handler} (h : s.Registered) (hx : s.handlers c = some x)
    (hstage : x.stage = .registered) : (s.bind c x).Registered := by
  have hfound := h.found hx
  have hentered := h.entered hx (by simp [hstage])
  refine Registered.setHandler (h.server rfl rfl rfl) (fun y hy => ?_) (fun y hy _ => ?_)
  · cases hy
    exact hfound
  · cases hy
    exact hentered

theorem Registered.answer {x : Handler} (h : s.Registered) (hx : s.handlers c = some x)
    (hstage : x.stage = .bound) : (s.answer c x).Registered := by
  obtain ⟨hsessions, hheap, hnext⟩ := reply_store s.server c x
  have hreplied := h.server hsessions hheap hnext
  refine ((hreplied.setStarted fun role streamKey hin => ?_).setHandler_none c).release _
  rcases List.mem_append.mp hin with hold | hnew
  · exact hreplied.noneLost c role streamKey hold
  · cases List.mem_singleton.mp hnew
    exact ⟨x.session, hreplied.found hx, hreplied.entered hx (by simp [hstage])⟩

theorem Registered.proceed {x : Handler} (h : s.Registered) (hx : s.handlers c = some x) :
    (s.proceed c x).Registered := by
  unfold Loops.proceed
  split
  · exact h.register hx
  · exact h.bind hx ‹_›
  · exact h.answer hx ‹_›

/-- A departure that spares the handlers. -/
theorem Registered.leave (h : s.Registered) (hidle : s.handlers c = none)
    (hspared : ∀ d x, s.handlers d = some x → x.stage = .lookedUp → ¬ s.Empties c x.session) :
    ((s.setStarted c []).cleanupConnection c).Registered := by
  refine (h.setStarted fun _ _ hin => by cases hin).cleanupConnection ?_ hspared
  rintro (hhandler | hstarted)
  · exact hhandler hidle
  · exact hstarted (setStarted_self s c [])

theorem Registered.close (h : s.Registered) (hidle : s.handlers c = none)
    (hspared : ∀ d x, s.handlers d = some x → x.stage = .lookedUp → ¬ s.Empties c x.session) :
    (s.close c).Registered := by
  refine Registered.leave (s := { s with server := _ }) (h.server rfl rfl rfl) hidle ?_
  intro d x hd hstage hempties
  refine hspared d x hd hstage ?_
  unfold Empties RtmpServer.namedSession at hempties ⊢
  rwa [RtmpServer.close_context] at hempties

theorem Registered.step {e : LoopEvent} (h : s.Registered) (spares : s.Spares e) :
    (step env s e).Registered := by
  cases e with
  | accept => exact h.server rfl rfl rfl
  | shutdown c => exact h.server rfl rfl rfl
  | proceed c =>
      dsimp only [Loops.step]
      cases hc : s.handlers c with
      | none => exact h
      | some x => exact h.proceed hc
  | close c =>
      dsimp only [Loops.step]
      split
      · rename_i hready
        exact h.close hready.2 (spares c ⟨rfl, hready⟩)
      · exact h
  | command c command =>
      dsimp only [Loops.step]
      split
      · rename_i hready
        unfold handleCommandMessage
        split
        · exact h.finish (RtmpServer.quiet_handleConnect ..)
        · split
          · exact h.finish (RtmpServer.quiet_handleCreateStream ..)
          · split
            · exact h.lookUp env c command true
            · split
              · exact h.lookUp env c command false
              · split
                · rename_i hname
                  unfold handleDeleteStream
                  cases hcheck : s.server.deleteCheck c command with
                  | ignored => exact h.finish (.refl _)
                  | mismatch => exact h.finish (.refl _)
                  | accepted =>
                      exact (h.leave hready.2 (spares c ⟨rfl, hready.1, hready.2, hname,
                        hcheck⟩)).server rfl rfl rfl
                · exact h.finish (.refl _)
      · exact h

/-- **Nobody is lost.** In every run in which no departure empties a session between another
handler's look-up and its registration, whoever has been sent a `Start`, and has not left or
disconnected since, is in the session that the manager holds for the stream key. -/
theorem noneLost_of_spares (env : Environment) (es : List LoopEvent)
    (spares : System.Along (step env) Spares {} es) :
    NoneLost (System.run (step env) {} es) :=
  (System.run_invariant (fun _ _ hspares h => Registered.step h hspares) spares
    registered_init).noneLost

/-! ### A dropped session -/

theorem release_sessions (s : Loops) (sid : SessionId) :
    (s.release sid).server.sessions = s.server.sessions := by
  unfold Loops.release
  split
  · rfl
  · split <;> rfl

theorem release_started (s : Loops) (sid : SessionId) : (s.release sid).started = s.started := by
  unfold Loops.release
  split
  · rfl
  · split <;> rfl

/-- Whoever has registered in a session that the manager has dropped is lost as soon as the
handler goes on. -/
theorem not_noneLost_of_dropped {h : Handler} (hc : s.handlers c = some h)
    (hstage : h.stage = .registered) (hdropped : s.server.sessions h.streamKey = none) :
    ¬ NoneLost (System.run (step env) s [.proceed c, .proceed c]) := by
  have hbind : step env s (.proceed c) = s.bind c h := by
    rw [step_proceed_some hc, Loops.proceed, hstage]
  have hanswer : step env (s.bind c h) (.proceed c) =
      (s.bind c h).answer c { h with stage := .bound } :=
    step_proceed_some (setHandler_self ..)
  rw [System.run_cons, System.run_cons, System.run_nil, hbind, hanswer]
  intro hnone
  obtain ⟨sid, hsid, -⟩ := hnone c h.role h.streamKey (by
    rw [Loops.answer, release_started]
    refine (setStarted_self _ c _).symm ▸ ?_
    simp [Handler.role])
  rw [Loops.answer, release_sessions] at hsid
  have hsame := (reply_store (s.bind c h).server c { h with stage := .bound }).1
  change (reply (s.bind c h).server c { h with stage := .bound }).sessions h.streamKey = _ at hsid
  rw [hsame] at hsid
  change s.server.sessions h.streamKey = _ at hsid
  rw [hdropped] at hsid
  cases hsid

/-! ### Runs -/

/-- An event in which nobody can depart. -/
def Staying : LoopEvent → Prop
  | .command _ command => command.name ≠ ascii "deleteStream" ∧ command.name ≠ ascii "closeStream"
  | .close _ => False
  | .accept => True
  | .proceed _ => True
  | .shutdown _ => True

theorem along_spares_of_staying {es : List LoopEvent} (h : ∀ e ∈ es, Staying e) :
    System.Along (step env) Spares s es := by
  induction es generalizing s with
  | nil => trivial
  | cons e es ih =>
      refine ⟨fun d hdeparts => ?_, ih fun x hx => h x (List.mem_cons_of_mem _ hx)⟩
      have hstaying := h e List.mem_cons_self
      cases e with
      | command _ command =>
          obtain ⟨-, -, -, hname, -⟩ := hdeparts
          exact absurd hname (not_or.mpr hstaying)
      | close => exact hstaying.elim
      | accept => exact hdeparts.elim
      | proceed => exact hdeparts.elim
      | shutdown => exact hdeparts.elim

/-- A connection comes, names the app `live` and opens a stream. -/
def opening (c : ConnId) : List LoopEvent :=
  [.accept,
    .command c { name := ascii "connect", transactionId := 0, messageStreamId := 0,
                 commandObject := .object [(ascii "app", .string (ascii "live"))],
                 arguments := [] },
    .command c { name := ascii "createStream", transactionId := 0, messageStreamId := 0,
                 commandObject := .null, arguments := [] }]

/-- A connection asks for the stream `a`. -/
def asking (c : ConnId) (name : String) : LoopEvent :=
  .command c { name := ascii name, transactionId := 0, messageStreamId := 1,
               commandObject := .null, arguments := [.string (ascii "a")] }

/-- Connection 0 publishes a stream that connection 1 looks up. -/
def lookingUp : List LoopEvent :=
  opening 0 ++ opening 1 ++
    [asking 0 "publish", .proceed 0, .proceed 0, .proceed 0, asking 1 "play"]

instance (e : LoopEvent) : Decidable (Staying e) := by
  unfold Staying
  split <;> infer_instance

/-- The player has registered when the publisher departs. -/
theorem noneLost_registered :
    InHeldSession (System.run (step {}) {}
      (lookingUp ++ [.proceed 1] ++ [.close 0] ++ [.proceed 1, .proceed 1]))
      1 .kPlayer (ascii "/live/a") := by
  obtain ⟨s, hs⟩ : ∃ s, s = System.run (step {}) {} (lookingUp ++ [.proceed 1]) := ⟨_, rfl⟩
  have hnamed : s.server.namedSession 0 = some 0 := by rw [hs]; decide +kernel
  have hremains : (s.server.heap 0).map (fun session =>
      (RtmpServer.cleaned (s.server.context 0).role 0 session).isEmpty) = some false := by
    rw [hs]
    decide +kernel
  have hspares : Spares s (.close 0) := by
    rintro c ⟨rfl, -⟩ d h - - ⟨hsid, session, hsession, hempty⟩
    rw [hnamed] at hsid
    rw [← Option.some.inj hsid] at hsession
    rw [hsession, Option.map_some, hempty] at hremains
    cases hremains
  have spares : System.Along (step {}) Spares {}
      (lookingUp ++ [.proceed 1] ++ [.close 0] ++ [.proceed 1, .proceed 1]) := by
    refine System.along_append.mpr ⟨System.along_append.mpr ⟨?_, ?_⟩, ?_⟩
    · exact along_spares_of_staying (by decide)
    · exact ⟨hs ▸ hspares, trivial⟩
    · exact along_spares_of_staying (by decide)
  exact noneLost_of_spares {} _ spares 1 .kPlayer (ascii "/live/a") (by decide +kernel)

/-- The player has only looked the session up when the publisher departs: the manager drops
the session, and the player is told `Start` all the same. -/
theorem not_noneLost_departure :
    let s := System.run (step {}) {}
      (lookingUp ++ [.close 0, .proceed 1, .proceed 1, .proceed 1])
    s.started 1 = [(.kPlayer, ascii "/live/a")] ∧ s.server.connected 1 = true ∧
      (s.server.context 1).streamKey = ascii "/live/a" ∧
      s.server.sessions (ascii "/live/a") = none ∧ ¬ s.NoneLost := by
  intro s
  have hstarted : s.started 1 = [(.kPlayer, ascii "/live/a")] := by decide +kernel
  have hdropped : s.server.sessions (ascii "/live/a") = none := by decide +kernel
  refine ⟨hstarted, by decide +kernel, by decide +kernel, hdropped, fun h => ?_⟩
  obtain ⟨sid, hsid, -⟩ := h 1 .kPlayer (ascii "/live/a") (by rw [hstarted]; simp)
  rw [hdropped] at hsid
  cases hsid

end Steps

end Rmuduo.Rtmp.Loops
