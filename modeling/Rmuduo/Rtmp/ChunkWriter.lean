/-
The chunk writer (`rtmp/RtmpChunkWriter.h`, `rtmp/RtmpChunkWriter.cc`).

The first half is the writer. The second half says how the headers it writes are
read back: a basic header gives its format and csid (`parseBasicHeader_put`), and a
message header gives the same chunk-stream state whatever the state was before
(`parseMessageHeader_put`).
-/

import Rmuduo.Rtmp.ChunkReader

namespace Rmuduo.Rtmp

open Lib

/-! ### Writing -/

/-- `appendBasicHeader`. -/
def appendBasicHeader (fmt : UInt8) (csid : UInt32) : Bytes :=
  if csid < 64 then [(fmt <<< (6 : UInt8)) ||| csid.toUInt8]
  else if csid < 320 then [fmt <<< (6 : UInt8), (csid - 64).toUInt8]
  else
    let value := csid - 64
    [(fmt <<< (6 : UInt8)) ||| 1, (value &&& 0xFF).toUInt8, ((value >>> 8) &&& 0xFF).toUInt8]

/-- `appendMessageHeader`. -/
def appendMessageHeader (message : RtmpMessage) : Bytes :=
  putUint24BE (min message.timestamp 0x00FFFFFF) ++ putUint24BE message.messageLength ++
    [message.typeId] ++ putUint32LE message.messageStreamId ++
    if message.timestamp ≥ 0x00FFFFFF then putUint32BE message.timestamp else []

/-- The loop of `EncodeMessage` over the payload from `payload_offset` on. Every round
takes at least one byte when the chunk size is positive; with chunk size 0 the source
never returns. -/
def appendPayload : Nat → UInt32 → Nat → Bytes → Bytes
  | 0, _, _, _ => []
  | fuel + 1, csid, outChunkSize, payload =>
      if payload.length = 0 then []
      else
        let chunkBytes := min payload.length outChunkSize
        let rest := payload.drop chunkBytes
        payload.take chunkBytes ++
          if rest.length ≠ 0 then
            appendBasicHeader 3 csid ++ appendPayload fuel csid outChunkSize rest
          else []

/-- `EncodeMessage`. -/
def encodeMessage (message : RtmpMessage) (outChunkSize : UInt32) : Bytes :=
  appendBasicHeader 0 message.chunkStreamId ++ appendMessageHeader message ++
    appendPayload message.payload.length message.chunkStreamId outChunkSize.toNat
      message.payload

/-- Any fuel that covers the payload gives the same chunks. -/
theorem appendPayload_fuel (csid : UInt32) {c : Nat} (hc : 1 ≤ c) {fuel fuel' : Nat}
    {payload : Bytes} (h : payload.length ≤ fuel) (h' : payload.length ≤ fuel') :
    appendPayload fuel csid c payload = appendPayload fuel' csid c payload := by
  induction fuel generalizing fuel' payload with
  | zero =>
      obtain rfl : payload = [] := List.eq_nil_of_length_eq_zero (by omega)
      cases fuel' <;> rfl
  | succ fuel ih =>
      cases fuel' with
      | zero =>
          obtain rfl : payload = [] := List.eq_nil_of_length_eq_zero (by omega)
          rfl
      | succ fuel' =>
          rw [appendPayload, appendPayload]
          by_cases hnil : payload.length = 0
          · rw [if_pos hnil, if_pos hnil]
          · have hrest : (payload.drop (min payload.length c)).length < payload.length := by
              rw [List.length_drop]
              omega
            rw [if_neg hnil, if_neg hnil]
            dsimp only
            rw [ih (by omega) (by omega : _ ≤ fuel')]

/-- The chunks of a payload: a last one, or a full one and a fmt=3 header before the
others. -/
def payloadChunks (csid : UInt32) (c : Nat) (payload : Bytes) : Bytes :=
  appendPayload payload.length csid c payload

theorem payloadChunks_last (csid : UInt32) {c : Nat} {payload : Bytes}
    (h : payload.length ≤ c) : payloadChunks csid c payload = payload := by
  unfold payloadChunks
  cases hlen : payload.length with
  | zero => simpa [appendPayload] using (List.eq_nil_of_length_eq_zero hlen).symm
  | succ k =>
      have hne : payload.length ≠ 0 := by omega
      have hmin : min payload.length c = payload.length := Nat.min_eq_left h
      rw [appendPayload, if_neg hne]
      dsimp only
      rw [hmin]
      simp

theorem payloadChunks_more (csid : UInt32) {c : Nat} (hc : 1 ≤ c) {payload : Bytes}
    (h : c < payload.length) :
    payloadChunks csid c payload =
      payload.take c ++ (appendBasicHeader 3 csid ++ payloadChunks csid c (payload.drop c)) := by
  unfold payloadChunks
  cases hlen : payload.length with
  | zero => omega
  | succ k =>
      have hne : payload.length ≠ 0 := by omega
      have hmin : min payload.length c = c := Nat.min_eq_right (by omega)
      have hrest : (payload.drop c).length ≠ 0 := by
        rw [List.length_drop]
        omega
      rw [appendPayload, if_neg hne]
      dsimp only
      rw [hmin, if_pos hrest,
        appendPayload_fuel csid hc (by rw [List.length_drop]; omega)
          (Nat.le_refl (payload.drop c).length)]

theorem encodeMessage_eq (m : RtmpMessage) (c : UInt32) :
    encodeMessage m c = appendBasicHeader 0 m.chunkStreamId ++ (appendMessageHeader m ++
      payloadChunks m.chunkStreamId c.toNat m.payload) := by
  rw [encodeMessage, List.append_assoc]
  rfl

/-! ### Reading headers back -/

/-- The length of a basic header that names `csid`. -/
def basicHeaderSize (csid : UInt32) : Nat :=
  if csid < 64 then 1 else if csid < 320 then 2 else 3

@[simp] theorem length_appendBasicHeader (fmt : UInt8) (csid : UInt32) :
    (appendBasicHeader fmt csid).length = basicHeaderSize csid := by
  unfold appendBasicHeader basicHeaderSize
  split
  · rfl
  · split <;> rfl

/-- The one-byte form, for all formats and csids at once. -/
theorem split_first_byte : ∀ fmt : Fin 4, ∀ csid : Fin 64,
    let first := (fmt.val.toUInt8 <<< (6 : UInt8)) ||| csid.val.toUInt8
    first >>> 6 = fmt.val.toUInt8 ∧ first &&& 0x3F = csid.val.toUInt8 := by
  decide +kernel

theorem split_first_byte_of_lt {fmt : UInt8} (mark : UInt8) (hfmt : fmt < 4) (hmark : mark < 64) :
    ((fmt <<< (6 : UInt8)) ||| mark) >>> 6 = fmt ∧
      ((fmt <<< (6 : UInt8)) ||| mark) &&& 0x3F = mark := by
  have h := split_first_byte ⟨fmt.toNat, by simpa [UInt8.lt_iff_toNat_lt] using hfmt⟩
    ⟨mark.toNat, by simpa [UInt8.lt_iff_toNat_lt] using hmark⟩
  simpa using h

/-- A basic header is read back, whatever follows it. -/
theorem parseBasicHeader_put (fmt : UInt8) {csid : UInt32} (hfmt : fmt < 4)
    (hlow : 2 ≤ csid) (hhigh : csid ≤ 65599) (rest : Bytes) :
    parseBasicHeader (appendBasicHeader fmt csid ++ rest) =
      some ⟨fmt, csid, basicHeaderSize csid⟩ := by
  have hlow' : 2 ≤ csid.toNat := by simpa [UInt32.le_iff_toNat_le] using hlow
  have hhigh' : csid.toNat ≤ 65599 := by simpa [UInt32.le_iff_toNat_le] using hhigh
  unfold appendBasicHeader basicHeaderSize
  by_cases h64 : csid < 64
  · have h64' : csid.toNat < 64 := by simpa [UInt32.lt_iff_toNat_lt] using h64
    have hmark : csid.toUInt8.toNat = csid.toNat := by
      rw [UInt32.toNat_toUInt8]
      omega
    have hbyte := split_first_byte_of_lt csid.toUInt8 hfmt
      (by rw [UInt8.lt_iff_toNat_lt, hmark]; exact h64')
    have hge : csid.toUInt8 ≥ 2 := by
      rw [ge_iff_le, UInt8.le_iff_toNat_le, hmark]
      exact hlow'
    have hback : csid.toUInt8.toUInt32 = csid := by
      apply UInt32.toNat_inj.mp
      rw [UInt8.toNat_toUInt32, hmark]
    simp only [if_pos h64, List.cons_append, List.nil_append, parseBasicHeader, hbyte, if_pos hge,
      hback]
  · have h64' : 64 ≤ csid.toNat := by simpa [UInt32.lt_iff_toNat_lt] using h64
    have hle : 64 ≤ csid := by simpa [UInt32.le_iff_toNat_le] using h64'
    have hsub : (csid - 64).toNat = csid.toNat - 64 := UInt32.toNat_sub_of_le _ _ hle
    by_cases h320 : csid < 320
    · have h320' : csid.toNat < 320 := by simpa [UInt32.lt_iff_toNat_lt] using h320
      have hbyte := split_first_byte_of_lt 0 hfmt (by decide)
      rw [UInt8.or_zero] at hbyte
      have hback : (64 : UInt32) + (csid - 64).toUInt8.toUInt32 = csid := by
        apply UInt32.toNat_inj.mp
        rw [UInt32.toNat_add, UInt8.toNat_toUInt32, UInt32.toNat_toUInt8, hsub]
        simp only [UInt32.reduceToNat]
        omega
      simp only [if_neg h64, if_pos h320, List.cons_append, List.nil_append, parseBasicHeader,
        hbyte, hback]
      rfl
    · have hbyte := split_first_byte_of_lt 1 hfmt (by decide)
      have hlo : ((csid - 64) &&& 0xFF).toUInt8.toNat = (csid.toNat - 64) % 256 := by
        rw [toNat_low32, hsub]
      have hhi : (((csid - 64) >>> 8) &&& 0xFF).toUInt8.toNat = (csid.toNat - 64) / 256 := by
        rw [toNat_digit32 _ 8 (by decide), hsub]
        simp only [UInt32.reduceToNat]
        omega
      have hback : (64 : UInt32) + ((csid - 64) &&& 0xFF).toUInt8.toUInt32 +
          ((((csid - 64) >>> 8) &&& 0xFF).toUInt8.toUInt32 <<< (8 : UInt32)) = csid := by
        apply UInt32.toNat_inj.mp
        rw [UInt32.toNat_add, UInt32.toNat_add, UInt32.toNat_shiftLeft, UInt8.toNat_toUInt32,
          UInt8.toNat_toUInt32, hlo, hhi]
        simp only [UInt32.reduceToNat, Nat.reduceMod, Nat.shiftLeft_eq, Nat.reducePow]
        omega
      simp only [if_neg h64, if_neg h320, List.cons_append, List.nil_append, parseBasicHeader,
        hbyte, hback]
      rfl

/-- The length of a message header. -/
def messageHeaderSize (m : RtmpMessage) : Nat :=
  if m.timestamp ≥ 0x00FFFFFF then 15 else 11

@[simp] theorem length_appendMessageHeader (m : RtmpMessage) :
    (appendMessageHeader m).length = messageHeaderSize m := by
  unfold appendMessageHeader messageHeaderSize
  split <;> simp

/-- A chunk stream that has received the header of `m` and the first `b` bytes of its
payload. -/
def receiving (m : RtmpMessage) (b : Nat) : ChunkStreamState where
  timestamp := m.timestamp
  timestampDelta := 0
  extendedTimestamp := if m.timestamp ≥ 0x00FFFFFF then m.timestamp else 0
  messageLength := m.messageLength
  typeId := m.typeId
  messageStreamId := m.messageStreamId
  bytesRead := UInt32.ofNat b
  payload := m.payload.take b ++ List.replicate (m.messageLength.toNat - b) 0
  headerInitialized := true

/-- What the timestamp field of a full header reads back as. -/
theorem timestampField_put (m : RtmpMessage) (fixed : Bytes) (hfixed : fixed.length = 8)
    (rest : Bytes) :
    timestampField 11 (putUint24BE (min m.timestamp 0x00FFFFFF) ++ (fixed ++
      ((if m.timestamp ≥ 0x00FFFFFF then putUint32BE m.timestamp else []) ++ rest))) =
      some (m.timestamp, if m.timestamp ≥ 0x00FFFFFF then m.timestamp else 0,
        messageHeaderSize m) := by
  have hdrop : ∀ ys : Bytes, (putUint24BE (min m.timestamp 0x00FFFFFF) ++
      (fixed ++ ys)).drop 11 = ys := by
    intro ys
    rw [← List.append_assoc, List.drop_left' (by simp [hfixed])]
  unfold timestampField messageHeaderSize
  by_cases hext : m.timestamp ≥ 0x00FFFFFF
  · have hmin : min m.timestamp 0x00FFFFFF = 0x00FFFFFF := by
      change (if m.timestamp ≤ 0x00FFFFFF then m.timestamp else 0x00FFFFFF) = _
      split
      · exact UInt32.le_antisymm ‹_› hext
      · rfl
    simp only [if_pos hext]
    rw [hdrop, readUint24BE_put (by rw [hmin]; decide), hmin, if_pos rfl, readUint32BE_put,
      if_neg (by simp; omega), if_neg (by simp; omega)]
  · have hlt : m.timestamp < 0x00FFFFFF := by simpa using hext
    have hlt' : m.timestamp.toNat < 0x00FFFFFF := by
      simpa [UInt32.lt_iff_toNat_lt] using hlt
    have hmin : min m.timestamp 0x00FFFFFF = m.timestamp := if_pos (UInt32.le_of_lt hlt)
    have hne : m.timestamp ≠ 0x00FFFFFF := fun h => by
      rw [h] at hlt'
      exact absurd hlt' (by decide)
    simp only [if_neg hext]
    rw [readUint24BE_put (by rw [hmin]; omega), hmin, if_neg hne, if_neg (by simp; omega)]

/-- A full header is read back, and it leaves nothing of the earlier state. -/
theorem parseMessageHeader_put {m : RtmpMessage} (h24 : m.messageLength.toNat < 2 ^ 24)
    (s : ChunkStreamState) (rest : Bytes) :
    parseMessageHeader (appendMessageHeader m ++ rest) kChunkHeaderType0 s =
      .ok (receiving m 0, messageHeaderSize m) := by
  have hfixed : (putUint24BE m.messageLength ++
      ([m.typeId] ++ putUint32LE m.messageStreamId)).length = 8 := rfl
  have hdata : appendMessageHeader m ++ rest =
      putUint24BE (min m.timestamp 0x00FFFFFF) ++ ((putUint24BE m.messageLength ++
        ([m.typeId] ++ putUint32LE m.messageStreamId)) ++
        ((if m.timestamp ≥ 0x00FFFFFF then putUint32BE m.timestamp else []) ++ rest)) := by
    simp only [appendMessageHeader, List.append_assoc]
  have hlen : ¬ (appendMessageHeader m ++ rest).length < 11 := by
    rw [hdata, List.length_append, List.length_append, hfixed, length_putUint24BE]
    omega
  rw [parseMessageHeader_type0, hdata, timestampField_put m _ hfixed]
  rw [← hdata, ChunkStreamState.writeFull, if_neg hlen, hdata]
  have hlength : readUint24BE ((putUint24BE (min m.timestamp 0x00FFFFFF) ++
      ((putUint24BE m.messageLength ++ ([m.typeId] ++ putUint32LE m.messageStreamId)) ++
        ((if m.timestamp ≥ 0x00FFFFFF then putUint32BE m.timestamp else []) ++ rest))).drop 3) =
      m.messageLength :=
    readUint24BE_put h24 _
  have hstream : readUint32LE ((putUint24BE (min m.timestamp 0x00FFFFFF) ++
      ((putUint24BE m.messageLength ++ ([m.typeId] ++ putUint32LE m.messageStreamId)) ++
        ((if m.timestamp ≥ 0x00FFFFFF then putUint32BE m.timestamp else []) ++ rest))).drop 7) =
      m.messageStreamId :=
    readUint32LE_put m.messageStreamId _
  rw [hlength, hstream]
  rfl

theorem bytesRead_receiving {m : RtmpMessage} {b : Nat} (hb : 0 < b)
    (hlen : b ≤ m.messageLength.toNat) : (receiving m b).bytesRead ≠ 0 := by
  intro h
  have hzero : (UInt32.ofNat b).toNat = 0 := congrArg UInt32.toNat h
  have hlt := m.messageLength.toNat_lt
  rw [UInt32.toNat_ofNat_of_lt' (by simp only [UInt32.size]; omega)] at hzero
  omega

theorem startAgain_receiving {m : RtmpMessage} {b : Nat} (hb : 0 < b)
    (hlen : b ≤ m.messageLength.toNat) : (receiving m b).startAgain = receiving m b :=
  if_neg fun h => bytesRead_receiving hb hlen h.1

/-- The fmt=3 header of a continuation has no bytes of its own, as long as the header of
the message had no extended timestamp. -/
theorem parseMessageHeader_receiving {m : RtmpMessage} {b : Nat} (hb : 0 < b)
    (hlen : b < m.messageLength.toNat) (hts : m.timestamp < 0x00FFFFFF) (rest : Bytes) :
    parseMessageHeader rest kChunkHeaderType3 (receiving m b) = .ok (receiving m b, 0) := by
  have hext : (receiving m b).extendedTimestamp = 0 := if_neg (by simpa using hts)
  rw [parseMessageHeader_type3 rest rfl, startAgain_receiving hb (Nat.le_of_lt hlen),
    if_neg fun h => h.1 hext]

end Rmuduo.Rtmp
