/-
The handshake over calls of `RtmpHandshake::process` on one buffer.

The bytes of the client arrive in segments, cut anywhere, with one call of `process` behind each.

* `run_shaken` — state and buffer after the calls, by what has arrived.
* `run_responses` — the one answer, and where its bytes come from.
* `handshake_segmented` — the whole exchange.
-/

import Mathlib.Data.List.Induction
import Rmuduo.Lib.System
import Rmuduo.Rtmp.Handshake

namespace Rmuduo.Rtmp

open Lib Lib.System

/-- A call of `process`: the bytes that have arrived since the last one, and those that the
random device would yield. -/
structure HandshakeCall where
  data : Bytes
  random : Fin 1528 → UInt8

/-- The handshake and its buffer, the answers of all calls, and what the last call returned. -/
structure Handshaking where
  state : HandshakeState := .kWaitC0C1
  buf : Bytes := []
  responses : List Bytes := []
  returned : Bool := true

namespace Handshaking

def next (h : Handshaking) (c : HandshakeCall) : Handshaking :=
  let r := process c.random h.state (h.buf ++ c.data)
  { state := r.state
    buf := r.buf
    responses := if r.response = [] then h.responses else h.responses ++ [r.response]
    returned := r.error.isNone }

/-- All that has arrived. -/
def arrived (calls : List HandshakeCall) : Bytes := calls.flatMap HandshakeCall.data

/-- C0 and C1 are there, in the version of the server. -/
def Begun (bytes : Bytes) : Prop := kC0C1Size ≤ bytes.length ∧ byteAt bytes 0 = kVersion

instance (bytes : Bytes) : Decidable (Begun bytes) :=
  inferInstanceAs (Decidable (kC0C1Size ≤ bytes.length ∧ byteAt bytes 0 = kVersion))

section Calls

variable {random : Fin 1528 → UInt8} {bytes data : Bytes} {calls : List HandshakeCall}

@[simp] theorem arrived_append (calls : List HandshakeCall) (c : HandshakeCall) :
    arrived (calls ++ [c]) = arrived calls ++ c.data := by
  simp [arrived]

theorem Begun.append (h : Begun bytes) (data : Bytes) : Begun (bytes ++ data) := by
  obtain ⟨hlen, hversion⟩ := h
  refine ⟨by simp only [List.length_append]; omega, ?_⟩
  rw [byteAt_append (Nat.lt_of_lt_of_le (by decide) hlen), hversion]

theorem shaken_of_not_begun (h : ¬ Begun bytes) : shaken bytes = (.kWaitC0C1, bytes) := by
  apply if_pos
  by_contra hneither
  obtain ⟨hlen, hversion⟩ := not_or.mp hneither
  exact h ⟨Nat.le_of_not_lt hlen, not_not.mp hversion⟩

theorem shaken_of_begun (h : Begun bytes) :
    shaken bytes =
      if bytes.length < kC0C1Size + kHandshakePacketSize then (.kWaitC2, bytes.drop kC0C1Size)
      else (.kHandshakeDone, bytes.drop (kC0C1Size + kHandshakePacketSize)) := by
  simp [shaken, h.2, Nat.not_lt.mpr h.1]

theorem shaken_state_of_begun (h : Begun bytes) :
    (shaken bytes).1 = .kHandshakeDone ↔ kC0C1Size + kHandshakePacketSize ≤ bytes.length := by
  rw [shaken_of_begun h]
  split
  · rename_i hshort
    simpa using hshort
  · rename_i hwhole
    simpa using hwhole

/-- A call takes the handshake to where it stands after all bytes, also when it is done. -/
theorem process_shaken_all (random : Fin 1528 → UInt8) (bytes data : Bytes) :
    ((process random (shaken bytes).1 ((shaken bytes).2 ++ data)).state,
      (process random (shaken bytes).1 ((shaken bytes).2 ++ data)).buf) =
      shaken (bytes ++ data) := by
  by_cases hdone : (shaken bytes).1 = .kHandshakeDone
  · rw [shaken_append_done hdone, hdone]
    rfl
  · exact process_shaken random data hdone

theorem processC2_response (buf response : Bytes) :
    (processC2 buf response).response = response := by
  unfold processC2
  split <;> rfl

/-- The call that completes C0 and C1 answers, and no other one does. -/
theorem process_response :
    (process random (shaken bytes).1 ((shaken bytes).2 ++ data)).response =
      if Begun bytes then []
      else if Begun (bytes ++ data) then buildS0S1S2 random ((bytes ++ data).drop 1) else [] := by
  by_cases hbegun : Begun bytes
  · rw [if_pos hbegun, shaken_of_begun hbegun]
    split
    · exact processC2_response _ []
    · rfl
  · rw [if_neg hbegun, shaken_of_not_begun hbegun]
    dsimp only [process]
    by_cases hnow : Begun (bytes ++ data)
    · rw [if_pos hnow, if_neg (Nat.not_lt.mpr hnow.1), if_neg (not_not.mpr hnow.2)]
      exact processC2_response _ _
    · rw [if_neg hnow]
      split
      · rfl
      · rename_i hlong
        rw [if_pos fun hversion => hnow ⟨Nat.le_of_not_lt hlong, hversion⟩]

/-- A call fails on another version, each time, once C0 and C1 are there. -/
theorem process_fails (random : Fin 1528 → UInt8) (bytes data : Bytes) :
    (process random (shaken bytes).1 ((shaken bytes).2 ++ data)).error ≠ none ↔
      kC0C1Size ≤ (bytes ++ data).length ∧ byteAt (bytes ++ data) 0 ≠ kVersion := by
  rw [process_error]
  by_cases hbegun : Begun bytes
  · have hversion := (hbegun.append data).2
    rw [shaken_of_begun hbegun]
    split <;> simp [hversion]
  · rw [shaken_of_not_begun hbegun]
    simp

/-- The answer looks at C1 alone. -/
theorem buildS0S1S2_append (h : kC0C1Size ≤ bytes.length) :
    buildS0S1S2 random ((bytes ++ data).drop 1) = buildS0S1S2 random (bytes.drop 1) := by
  unfold kC0C1Size at h
  have hfront : kHandshakePacketSize ≤ (bytes.drop 1).length := by simp only [List.length_drop]; omega
  unfold buildS0S1S2
  rw [List.drop_append_of_le_length (by omega), List.take_append_of_le_length hfront]

theorem buildS0S1S2_ne_nil {c1 : Bytes} : buildS0S1S2 random c1 ≠ [] := List.cons_ne_nil _ _

theorem length_buildS0S1S2 {c1 : Bytes} (h : kHandshakePacketSize ≤ c1.length) :
    (buildS0S1S2 random c1).length = 3073 := by
  simp only [buildS0S1S2, List.length_append, List.length_singleton, List.length_replicate,
    List.length_ofFn, List.length_take, Nat.min_eq_left h]
  rfl

/-! ### All calls -/

theorem run_next (calls : List HandshakeCall) (c : HandshakeCall) :
    run next {} (calls ++ [c]) = (run next {} calls).next c := by
  rw [run_append]
  rfl

/-- Where the handshake stands does not depend on the cut. -/
theorem run_shaken (calls : List HandshakeCall) :
    ((run next {} calls).state, (run next {} calls).buf) = shaken (arrived calls) := by
  induction calls using List.reverseRecOn with
  | nil => rfl
  | append_singleton calls c ih =>
      have hstate := congrArg Prod.fst ih
      have hbuf := congrArg Prod.snd ih
      dsimp only at hstate hbuf
      rw [run_next, arrived_append, ← process_shaken_all c.random, ← hstate, ← hbuf]
      rfl

theorem run_state (calls : List HandshakeCall) :
    (run next {} calls).state = (shaken (arrived calls)).1 := congrArg Prod.fst (run_shaken calls)

theorem run_buf (calls : List HandshakeCall) :
    (run next {} calls).buf = (shaken (arrived calls)).2 := congrArg Prod.snd (run_shaken calls)

theorem call_responses (calls : List HandshakeCall) (c : HandshakeCall) :
    (run next {} (calls ++ [c])).responses =
      (run next {} calls).responses ++
        ([(process c.random (shaken (arrived calls)).1
          ((shaken (arrived calls)).2 ++ c.data)).response].filter (· ≠ [])) := by
  rw [run_next]
  simp only [next, run_state, run_buf]
  split
  · rename_i hnone
    simp [hnone]
  · rename_i hsome
    simp [hsome]

/-- **One answer** is given when C0 and C1 are complete, with the random bytes of one of the
calls, and none before. -/
theorem run_responses (calls : List HandshakeCall) :
    (¬ Begun (arrived calls) → (run next {} calls).responses = []) ∧
    (Begun (arrived calls) → ∃ c ∈ calls,
      (run next {} calls).responses = [buildS0S1S2 c.random ((arrived calls).drop 1)]) := by
  induction calls using List.reverseRecOn with
  | nil => exact ⟨fun _ => rfl, fun h => absurd h.1 (by decide)⟩
  | append_singleton calls c ih =>
      rw [call_responses, process_response, arrived_append]
      by_cases hbegun : Begun (arrived calls)
      · obtain ⟨c', hmem, hresponses⟩ := ih.2 hbegun
        refine ⟨fun h => absurd (hbegun.append c.data) h, fun _ => ⟨c', by simp [hmem], ?_⟩⟩
        rw [if_pos hbegun, hresponses, buildS0S1S2_append hbegun.1]
        rfl
      · rw [if_neg hbegun, ih.1 hbegun]
        constructor
        · intro hstill
          rw [if_neg hstill]
          rfl
        · intro hnow
          refine ⟨c, by simp, ?_⟩
          rw [if_pos hnow, List.nil_append, List.filter_cons_of_pos]
          · rfl
          · simpa using buildS0S1S2_ne_nil

theorem run_returned (calls : List HandshakeCall) :
    (run next {} calls).returned = false ↔
      kC0C1Size ≤ (arrived calls).length ∧ byteAt (arrived calls) 0 ≠ kVersion := by
  rcases List.eq_nil_or_concat calls with rfl | ⟨calls, c, rfl⟩
  · exact ⟨nofun, fun h => absurd h.1 (by decide)⟩
  · rw [List.concat_eq_append, arrived_append, ← process_fails c.random, run_next]
    simp only [next, run_state, run_buf]
    rw [Option.isNone_eq_false_iff, Option.isSome_iff_ne_none]

end Calls

end Handshaking

open Handshaking

/-- **The handshake over any segments.** On a stream of version 3 every call returns `true`; there
is no answer before 1537 bytes have arrived and one answer of 3073 bytes from then on; the
handshake is done when 3073 bytes have arrived, and the rest is left. On any other stream a call
returns `false` once 1537 bytes are there, and all bytes are left. -/
theorem handshake_segmented (calls : List HandshakeCall) :
    let stream := arrived calls
    let h := run next {} calls
    ((∀ byte ∈ stream.head?, byte = 3) →
      h.returned = true ∧
      (stream.length < 1537 → h.responses = []) ∧
      (1537 ≤ stream.length → ∃ random : Fin 1528 → UInt8, ∃ response : Bytes,
        h.responses = [response] ∧ response.length = 3073 ∧
        response = [3] ++ List.replicate 8 0 ++ List.ofFn random ++ (stream.drop 1).take 1536) ∧
      (h.state = .kHandshakeDone ↔ 3073 ≤ stream.length) ∧
      (3073 ≤ stream.length → h.buf = stream.drop 3073)) ∧
    (∀ byte ∈ stream.head?, byte ≠ 3 →
      (h.returned = false ↔ 1537 ≤ stream.length) ∧ h.buf = stream ∧ h.responses = [] ∧
        h.state = .kWaitC0C1) := by
  intro stream h
  obtain ⟨hnone, hone⟩ := run_responses calls
  have hreturned := run_returned calls
  have hstate : h.state = (shaken stream).1 := run_state calls
  have hbuf : h.buf = (shaken stream).2 := run_buf calls
  have hversion : ∀ byte ∈ stream.head?, byteAt stream 0 = byte := by
    intro byte hbyte
    cases hstream : stream with
    | nil => simp [hstream] at hbyte
    | cons b rest => simpa [hstream] using hbyte
  constructor
  · intro hthree
    have hbegun : 1537 ≤ stream.length → Begun stream := by
      intro hlen
      refine ⟨hlen, ?_⟩
      cases hstream : stream with
      | nil => simp [hstream] at hlen
      | cons b rest => exact hthree b (by simp [hstream])
    refine ⟨?_, fun hlen => hnone fun hb => ?_, fun hlen => ?_, ?_, fun hlen => ?_⟩
    · rw [← Bool.not_eq_false, hreturned]
      rintro ⟨hlen, hother⟩
      exact hother (hbegun hlen).2
    · exact absurd hb.1 (Nat.not_le.mpr hlen)
    · obtain ⟨c, -, hresponses⟩ := hone (hbegun hlen)
      refine ⟨c.random, _, hresponses, length_buildS0S1S2 ?_, rfl⟩
      rw [List.length_drop]
      exact Nat.le_sub_of_add_le hlen
    · rw [hstate]
      by_cases hb : Begun stream
      · exact shaken_state_of_begun hb
      · rw [shaken_of_not_begun hb]
        exact ⟨nofun, fun hlen => absurd (hbegun (by omega)) hb⟩
    · have hwhole : ¬ stream.length < kC0C1Size + kHandshakePacketSize := Nat.not_lt.mpr hlen
      rw [hbuf, shaken_of_begun (hbegun (by omega)), if_neg hwhole]
      rfl
  · intro byte hbyte hother
    have hne : byteAt stream 0 ≠ kVersion := by
      rw [hversion byte hbyte]
      exact hother
    have hb : ¬ Begun stream := fun hb => hne hb.2
    refine ⟨?_, ?_, hnone hb, ?_⟩
    · rw [hreturned]
      exact ⟨fun h => h.1, fun hlen => ⟨hlen, hne⟩⟩
    · rw [hbuf, shaken_of_not_begun hb]
    · rw [hstate, shaken_of_not_begun hb]

end Rmuduo.Rtmp
