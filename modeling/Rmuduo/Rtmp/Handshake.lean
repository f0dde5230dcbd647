/-
The RTMP handshake (`rtmp/RtmpHandshake.cc`).

The bytes that the random device yields are a parameter.

* `process_append_error` — a handshake that has failed fails again, however many bytes
  follow.
* `shaken` — where the handshake stands after all the bytes of a connection.
* `process_shaken` — it stands there however the bytes are cut.
-/

import Rmuduo.Rtmp.Types

namespace Rmuduo.Rtmp

open Lib

def kHandshakePacketSize : Nat := 1536
def kC0C1Size : Nat := 1 + kHandshakePacketSize

/-- `buildS0S1S2`: version, an S1 of zeroes and random bytes, and C1 sent back as S2. -/
def buildS0S1S2 (random : Fin 1528 → UInt8) (c1 : Bytes) : Bytes :=
  [kVersion] ++ List.replicate 8 0 ++ List.ofFn random ++ c1.take kHandshakePacketSize

/-- The outcome of `process`. An error is the return value `false`. -/
structure HandshakeResult where
  state : HandshakeState
  buf : Bytes
  response : Bytes := []
  error : Option String := none

/-- The round of `process` that waits for C2. -/
def processC2 (buf response : Bytes) : HandshakeResult :=
  if buf.length < kHandshakePacketSize then ⟨.kWaitC2, buf, response, none⟩
  else ⟨.kHandshakeDone, buf.drop kHandshakePacketSize, response, none⟩

def process (random : Fin 1528 → UInt8) (state : HandshakeState) (buf : Bytes) :
    HandshakeResult :=
  match state with
  | .kWaitC0C1 =>
      if buf.length < kC0C1Size then ⟨.kWaitC0C1, buf, [], none⟩
      else if byteAt buf 0 ≠ kVersion then
        ⟨.kWaitC0C1, buf, [], some "unsupported rtmp version"⟩
      else processC2 (buf.drop kC0C1Size) (buildS0S1S2 random (buf.drop 1))
  | .kWaitC2 => processC2 buf []
  | .kSendS0S1S2 => ⟨.kSendS0S1S2, buf, [], none⟩
  | .kHandshakeDone => ⟨.kHandshakeDone, buf, [], none⟩

section Errors

variable {random : Fin 1528 → UInt8} {state : HandshakeState} {buf : Bytes}

theorem processC2_error (response : Bytes) : (processC2 buf response).error = none := by
  unfold processC2
  split <;> rfl

/-- A handshake fails on a whole C0 and C1 of another version, and leaves it where it is. -/
theorem process_error :
    (process random state buf).error ≠ none ↔
      state = .kWaitC0C1 ∧ kC0C1Size ≤ buf.length ∧ byteAt buf 0 ≠ kVersion := by
  cases state with
  | kWaitC0C1 =>
      unfold process
      by_cases hlen : buf.length < kC0C1Size
      · simp [hlen]
      · by_cases hversion : byteAt buf 0 ≠ kVersion
        · simp [hlen, hversion, Nat.le_of_not_lt hlen]
        · simp [hlen, hversion, processC2_error]
  | kWaitC2 => simp [process, processC2_error]
  | kSendS0S1S2 => simp [process]
  | kHandshakeDone => simp [process]

theorem process_of_error (h : (process random state buf).error ≠ none) :
    (process random state buf).state = state ∧ (process random state buf).buf = buf := by
  obtain ⟨rfl, hlen, hversion⟩ := process_error.mp h
  unfold process
  dsimp only
  rw [if_neg (Nat.not_lt.mpr hlen), if_pos hversion]
  exact ⟨rfl, rfl⟩

theorem process_append_error (h : (process random state buf).error ≠ none) (more : Bytes) :
    (process random state (buf ++ more)).error ≠ none := by
  obtain ⟨hstate, hlen, hversion⟩ := process_error.mp h
  refine process_error.mpr ⟨hstate, ?_, ?_⟩
  · rw [List.length_append]
    exact Nat.le_trans hlen (Nat.le_add_right _ _)
  · rwa [byteAt_append (Nat.lt_of_lt_of_le (by decide) hlen)]

end Errors

theorem length_processC2_le (buf response : Bytes) :
    (processC2 buf response).buf.length ≤ buf.length := by
  unfold processC2
  split
  · rfl
  · simp

/-- The handshake puts nothing into the buffer. -/
theorem length_process_le (random : Fin 1528 → UInt8) (state : HandshakeState) (buf : Bytes) :
    (process random state buf).buf.length ≤ buf.length := by
  cases state with
  | kWaitC0C1 =>
      unfold process
      dsimp only
      split_ifs
      · rfl
      · rfl
      · exact Nat.le_trans (length_processC2_le _ _) (by simp)
  | kWaitC2 => exact length_processC2_le buf []
  | kSendS0S1S2 => rfl
  | kHandshakeDone => rfl

/-! ### The handshake on all bytes -/

/-- Where the handshake stands after bytes, and what it has not taken of them. -/
def shaken (bytes : Bytes) : HandshakeState × Bytes :=
  if bytes.length < kC0C1Size ∨ byteAt bytes 0 ≠ kVersion then (.kWaitC0C1, bytes)
  else if bytes.length < kC0C1Size + kHandshakePacketSize then (.kWaitC2, bytes.drop kC0C1Size)
  else (.kHandshakeDone, bytes.drop (kC0C1Size + kHandshakePacketSize))

/-- What stands behind the handshake. -/
def afterHandshake (bytes : Bytes) : Bytes :=
  if (shaken bytes).1 = .kHandshakeDone then (shaken bytes).2 else []

section Shaken

variable {bytes : Bytes}

theorem processC2_shaken (response : Bytes) (hlen : kC0C1Size ≤ bytes.length)
    (hversion : byteAt bytes 0 = kVersion) :
    ((processC2 (bytes.drop kC0C1Size) response).state,
      (processC2 (bytes.drop kC0C1Size) response).buf) = shaken bytes := by
  have hbegun : ¬ (bytes.length < kC0C1Size ∨ byteAt bytes 0 ≠ kVersion) := by
    rintro (hshort | hother)
    · exact absurd hlen (Nat.not_le.mpr hshort)
    · exact hother hversion
  have hleft : (bytes.drop kC0C1Size).length < kHandshakePacketSize ↔
      bytes.length < kC0C1Size + kHandshakePacketSize := by
    rw [List.length_drop]
    omega
  unfold processC2 shaken
  rw [if_neg hbegun]
  by_cases hwhole : bytes.length < kC0C1Size + kHandshakePacketSize
  · rw [if_pos hwhole, if_pos (hleft.mpr hwhole)]
  · rw [if_neg hwhole, if_neg (fun h => hwhole (hleft.mp h)), List.drop_drop]

/-- Bytes behind C0 and C1 change neither. -/
theorem shaken_begun (h : ¬ (bytes.length < kC0C1Size ∨ byteAt bytes 0 ≠ kVersion))
    (data : Bytes) :
    kC0C1Size ≤ (bytes ++ data).length ∧ byteAt (bytes ++ data) 0 = kVersion := by
  obtain ⟨hlen, hversion⟩ := not_or.mp h
  have hlen := Nat.le_of_not_lt hlen
  constructor
  · rw [List.length_append]
    exact Nat.le_trans hlen (Nat.le_add_right _ _)
  · rw [byteAt_append (Nat.lt_of_lt_of_le (by decide) hlen)]
    exact not_not.mp hversion

theorem shaken_done (h : (shaken bytes).1 = .kHandshakeDone) :
    ¬ (bytes.length < kC0C1Size ∨ byteAt bytes 0 ≠ kVersion) ∧
      kC0C1Size + kHandshakePacketSize ≤ bytes.length := by
  unfold shaken at h
  split_ifs at h with hbegun hwhole
  exact ⟨hbegun, Nat.le_of_not_lt hwhole⟩

/-- Once it is done, the handshake takes nothing. -/
theorem shaken_append_done (h : (shaken bytes).1 = .kHandshakeDone) (data : Bytes) :
    shaken (bytes ++ data) = (.kHandshakeDone, (shaken bytes).2 ++ data) := by
  obtain ⟨hbegun, hwhole⟩ := shaken_done h
  obtain ⟨hlen, hversion⟩ := shaken_begun hbegun data
  have hbegun' : ¬ ((bytes ++ data).length < kC0C1Size ∨ byteAt (bytes ++ data) 0 ≠ kVersion) := by
    rintro (hshort | hother)
    · exact absurd hlen (Nat.not_le.mpr hshort)
    · exact hother hversion
  have hwhole' : ¬ (bytes ++ data).length < kC0C1Size + kHandshakePacketSize := by
    rw [List.length_append]
    exact Nat.not_lt.mpr (Nat.le_trans hwhole (Nat.le_add_right _ _))
  unfold shaken
  rw [if_neg hbegun, if_neg (Nat.not_lt.mpr hwhole), if_neg hbegun', if_neg hwhole',
    List.drop_append_of_le_length hwhole]

/-- **The handshake does not depend on segments**: it stands where it stands after all the
bytes at once. -/
theorem process_shaken (random : Fin 1528 → UInt8) (data : Bytes)
    (hwaits : (shaken bytes).1 ≠ .kHandshakeDone) :
    ((process random (shaken bytes).1 ((shaken bytes).2 ++ data)).state,
      (process random (shaken bytes).1 ((shaken bytes).2 ++ data)).buf) =
      shaken (bytes ++ data) := by
  by_cases hbegun : bytes.length < kC0C1Size ∨ byteAt bytes 0 ≠ kVersion
  · have hbytes : shaken bytes = (.kWaitC0C1, bytes) := if_pos hbegun
    rw [hbytes]
    unfold process
    dsimp only
    split_ifs with hshort hother
    · exact (if_pos (.inl hshort)).symm
    · exact (if_pos (.inr hother)).symm
    · exact processC2_shaken _ (Nat.le_of_not_lt hshort) (not_not.mp hother)
  · have hnot : ¬ ¬ bytes.length < kC0C1Size + kHandshakePacketSize := by
      intro hwhole
      apply hwaits
      unfold shaken
      rw [if_neg hbegun, if_neg hwhole]
    have hbytes : shaken bytes = (.kWaitC2, bytes.drop kC0C1Size) := by
      unfold shaken
      rw [if_neg hbegun, if_pos (not_not.mp hnot)]
    obtain ⟨hlen, hversion⟩ := shaken_begun hbegun data
    rw [hbytes]
    dsimp only [process]
    rw [← List.drop_append_of_le_length (Nat.le_of_not_lt (not_or.mp hbegun).1)]
    exact processC2_shaken _ hlen hversion

theorem afterHandshake_done (h : (shaken bytes).1 = .kHandshakeDone) :
    afterHandshake bytes = (shaken bytes).2 := if_pos h

theorem afterHandshake_waits (h : (shaken bytes).1 ≠ .kHandshakeDone) :
    afterHandshake bytes = [] := if_neg h

end Shaken

end Rmuduo.Rtmp
