/-
Errors of the handshake and of the chunk parser.

The bytes that make the handshake or the parser fail are not taken from the buffer. So
whatever arrives later meets the same error, and no message of the connection is handled
any more: a protocol error is final without any condition on what the client sends.

* `Transport.Stuck` — the next bytes meet an error, whatever they are.
* `protocol_error_final` — after a protocol error, what arrives on the connection is quiet.
-/

import Rmuduo.Rtmp.FailStop
import Rmuduo.Rtmp.TransportFrame

namespace Rmuduo.Rtmp

open Lib System

namespace Transport

variable {random : Fin 1528 → UInt8} {t : Transport}

/-- The handshake or the chunk parser fails at the front of the buffer. -/
def Stuck (random : Fin 1528 → UInt8) (t : Transport) : Prop :=
  (process random t.handshake t.inputBuffer).error ≠ none ∨
    (t.handshake = .kHandshakeDone ∧ ∃ e, readChunk t.chunkParser t.inputBuffer = .fail e)

/-- More bytes do not help. -/
theorem Stuck.append (h : t.Stuck random) (data : Bytes) : (t.append data).Stuck random := by
  rcases h with herror | ⟨hdone, e, hfail⟩
  · exact .inl (process_append_error herror data)
  · exact .inr ⟨hdone, e, readChunk_fail_append hfail data⟩

theorem stuck_of_parse (hdone : t.handshake = .kHandshakeDone) (h : t.parse.2 = none) :
    t.parse.1.Stuck random := by
  unfold parse at h ⊢
  split_ifs at h ⊢ with hlen
  dsimp only at h
  split_ifs at h with herror
  exact .inr ⟨hdone, readChunk_of_parse_error (Option.isSome_iff_ne_none.mp herror)⟩

/-- Reading fails only at an error that stays. -/
theorem stuck_of_read (h : (t.read random).2 = none) : (t.read random).1.Stuck random := by
  rcases read_cases random t with ⟨hdone, hread⟩ | ⟨-, hnow, hread⟩ | ⟨-, -, hread⟩
  · rw [hread] at h ⊢
    exact stuck_of_parse hdone h
  · rw [hread] at h ⊢
    exact stuck_of_parse hnow h
  · rw [hread] at h ⊢
    dsimp only at h
    split_ifs at h with herror
    have hfails := Option.isSome_iff_ne_none.mp herror
    obtain ⟨hstate, hbuf⟩ := process_of_error hfails
    left
    change (process random (process random t.handshake t.inputBuffer).state
      (process random t.handshake t.inputBuffer).buf).error ≠ none
    rwa [hstate, hbuf]

/-- A connection that is stuck completes no message. -/
theorem Stuck.read (h : t.Stuck random) : (t.read random).2 = none := by
  rcases h with herror | ⟨hdone, e, hfail⟩
  · obtain ⟨hwaits, -, -⟩ := process_error.mp herror
    rcases read_cases random t with ⟨hdone, -⟩ | ⟨hnot, hnow, -⟩ | ⟨-, -, hread⟩
    · rw [hwaits] at hdone
      cases hdone
    · exact absurd ((process_of_error herror).1.symm.trans hnow) hnot
    · rw [hread]
      exact if_pos (Option.isSome_iff_ne_none.mpr herror)
  · rcases read_cases random t with ⟨-, hread⟩ | ⟨hnot, -⟩ | ⟨hnot, -⟩
    · have hsome : ¬ t.counted.inputBuffer.length = 0 := by
        intro hzero
        rw [List.eq_nil_of_length_eq_zero (l := t.inputBuffer) hzero, readChunk_nil] at hfail
        cases hfail
      have hstops : (Rtmp.parse t.chunkParser t.inputBuffer).error.isSome := by
        rw [parse_of_readChunk_fail hfail]
        rfl
      rw [hread]
      unfold parse
      rw [if_neg hsome]
      exact if_pos hstops
    · exact absurd hdone hnot
    · exact absurd hdone hnot

end Transport

namespace RtmpServer

section Final

variable {env : Environment} {s s' : RtmpServer} {c : ConnId}

/-- The connection is stuck. -/
def Stuck (env : Environment) (s : RtmpServer) (c : ConnId) : Prop :=
  ∃ t, s.transport c = some t ∧ t.Stuck (env.random c)

theorem Stuck.congr (h : Stuck env s c) (hsame : s'.transport c = s.transport c) :
    Stuck env s' c := by
  obtain ⟨t, ht, hstuck⟩ := h
  exact ⟨t, hsame.trans ht, hstuck⟩

theorem transport_of_live (hlive : s.live c = true) : ∃ t, s.transport c = some t := by
  unfold live at hlive
  unfold transport
  cases hc : s.connections c with
  | none =>
      rw [hc] at hlive
      cases hlive
  | some conn => exact ⟨conn.transport, rfl⟩

/-- A failure to read sticks. -/
theorem stuck_of_receive {data : Bytes} (hlive : s.live c = true)
    (h : ((s.append c data).readMessages env c).2 = none) : Stuck env (s.receive env c data) c := by
  obtain ⟨t, ht⟩ := transport_of_live hlive
  obtain ⟨hread, hmessages⟩ := readMessages_transport env (append_transport ht data)
  have hstuck := Transport.stuck_of_read (hmessages.symm.trans h)
  unfold receive onMessage
  cases hm : (s.append c data).readMessages env c with
  | mk s₁ messages =>
      rw [hm] at hread h
      have h : messages = none := h
      subst h
      exact ⟨_, shutdown_transport.trans hread, hstuck⟩

theorem Stuck.readMessages (h : Stuck env s c) (data : Bytes) :
    ((s.append c data).readMessages env c).2 = none := by
  obtain ⟨t, ht, hstuck⟩ := h
  exact (readMessages_transport env (append_transport ht data)).2.trans (hstuck.append data).read

/-- What arrives on a connection that is stuck is quiet, but for the shutdown. -/
theorem Stuck.receive (h : Stuck env s c) (data : Bytes) :
    ∃ s₁, Quiet s s₁ ∧ s.receive env c data = s₁.shutdown c := by
  have hfails := h.readMessages data
  have hread : Quiet s ((s.append c data).readMessages env c).1 :=
    ((reads_append data).trans reads_readMessages).quiet
  unfold RtmpServer.receive onMessage
  cases hm : (s.append c data).readMessages env c with
  | mk s₁ messages =>
      rw [hm] at hfails hread
      have hfails : messages = none := hfails
      subst hfails
      exact ⟨s₁, hread, rfl⟩

/-- Being stuck lasts as long as the connection does. -/
theorem Stuck.netStep (h : Stuck env s c) (hs : Sound s) (e : NetEvent) :
    Stuck env (netStep env s e) c := by
  cases e with
  | accept =>
      have hnew : c ≠ s.nextConn := by
        obtain ⟨t, ht, -⟩ := h
        obtain ⟨conn, hc, -⟩ := Option.map_eq_some_iff.mp ht
        exact Nat.ne_of_lt (hs.known.connection c (by simp [binding, hc]))
      refine h.congr ?_
      simp [RtmpServer.netStep, accept, transport, Function.update_of_ne hnew]
  | receive d data =>
      dsimp only [RtmpServer.netStep]
      split
      · rename_i harrives
        by_cases hd : c = d
        · subst hd
          exact stuck_of_receive harrives.1 (h.readMessages data)
        · exact h.congr (receive_transport_ne env harrives.1 hd)
      · exact h
  | close d =>
      dsimp only [RtmpServer.netStep]
      split
      · exact h.congr close_transport
      · exact h

end Final

/-- **A protocol error is final.** Once bytes of a connection have failed the handshake or the
chunk parser, nothing that arrives on it later changes a session or the session manager,
makes it publisher or player, or sends media. -/
theorem protocol_error_final (env : Environment) (es₁ es₂ : List NetEvent) {c : ConnId}
    {data : Bytes} (data' : Bytes) (hlive : (netAfter env es₁).live c = true) (hdata : data ≠ [])
    (hfails : (((netAfter env es₁).append c data).readMessages env c).2 = none) :
    let s := netAfter env (es₁ ++ .receive c data :: es₂)
    let s' := netStep env s (.receive c data')
    s'.sessions = s.sessions ∧ s'.heap = s.heap ∧
      (s'.context c).role = (s.context c).role ∧ Silent s s' := by
  intro s s'
  have hfirst : Stuck env (netStep env (netAfter env es₁) (.receive c data)) c := by
    have hstep : netStep env (netAfter env es₁) (.receive c data) =
        (netAfter env es₁).receive env c data := if_pos ⟨hlive, hdata⟩
    rw [hstep]
    exact stuck_of_receive hlive hfails
  have hstuck : Stuck env s c := by
    have hs : s = run (netStep env) (netStep env (netAfter env es₁) (.receive c data)) es₂ :=
      run_append _ _ _ _
    rw [hs]
    have hsound : Sound (netStep env (netAfter env es₁) (.receive c data)) :=
      (sound_netAfter env es₁).netStep env _
    refine (run_invariant_always (I := fun s => Sound s ∧ Stuck env s c) ?_ es₂
      ⟨hsound, hfirst⟩).2
    rintro s e ⟨hs, hst⟩
    exact ⟨hs.netStep env e, hst.netStep hs e⟩
  by_cases harrives : s.live c = true ∧ data' ≠ []
  · have hs' : s' = s.receive env c data' := if_pos harrives
    obtain ⟨s₁, hquiet, hreceive⟩ := hstuck.receive data'
    rw [hs', hreceive]
    refine ⟨hquiet.sessions, hquiet.heap, ?_, (Silent.of_quiet hquiet).trans (.of_log rfl)⟩
    rw [shutdown_context]
    exact role_congr (hquiet.binding c)
  · have hs' : s' = s := if_neg harrives
    rw [hs']
    exact ⟨rfl, rfl, rfl, .refl s⟩

end RtmpServer

end Rmuduo.Rtmp
