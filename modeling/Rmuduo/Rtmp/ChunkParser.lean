/-
The incremental chunk parser (`rtmp/RtmpChunkParser.h`, `rtmp/RtmpChunkParser.cc`).

A `Buffer` is the list of its unread bytes: `peek() + n` is a `drop` and
`retrieve(n)` drops for good. `chunkStreams_` is a total map, because
`operator[]` creates a default entry for a `csid` it has not seen.

`parseMessageHeader` writes into the per-csid state before `parseOneChunk` knows
whether the whole chunk has arrived, so a chunk that is still incomplete leaves
its mark on the state while the buffer keeps its bytes. The model returns that
touched state, exactly as the source leaves it.

The second half of the module says what a header does, once for each format
(`parseMessageHeader_type0` to `_type3`), which headers are malformed
(`parseMessageHeader_error_iff`), and that a complete one (`CompleteHeader`) reads
the same whatever bytes follow it (`parseMessageHeader_append`).
-/

import Rmuduo.Lib.Reader
import Rmuduo.Rtmp.Types
import Mathlib.Logic.Function.Basic

namespace Rmuduo.Rtmp

open Lib

/-! ### State -/

/-- `RtmpChunkParser::ChunkStreamState`. -/
structure ChunkStreamState where
  timestamp : UInt32 := 0
  timestampDelta : UInt32 := 0
  extendedTimestamp : UInt32 := 0
  messageLength : UInt32 := 0
  typeId : UInt8 := 0
  messageStreamId : UInt32 := 0
  bytesRead : UInt32 := 0
  payload : Bytes := []
  headerInitialized : Bool := false
deriving DecidableEq, Repr

structure RtmpChunkParser where
  inChunkSize : UInt32 := kDefaultChunkSize
  chunkStreams : UInt32 → ChunkStreamState := fun _ => {}

namespace ChunkStreamState

/-- `payload.assign(messageLength, '\0')`. -/
def assignPayload (s : ChunkStreamState) : ChunkStreamState :=
  { s with payload := List.replicate s.messageLength.toNat 0 }

/-- The tail of the fmt=1 and fmt=2 branches: store the delta, advance the
timestamp and start a message. -/
def startDelta (s : ChunkStreamState) (extended delta : UInt32) : ChunkStreamState :=
  { s with
    extendedTimestamp := extended
    timestampDelta := delta
    timestamp := s.timestamp + delta
    bytesRead := 0 }.assignPayload

/-- `std::copy` of `n` bytes to `payload.begin() + bytesRead`, then
`bytesRead += n`. -/
def copyPayload (s : ChunkStreamState) (n : UInt32) (data : Bytes) : ChunkStreamState :=
  { s with
    payload := s.payload.take s.bytesRead.toNat ++ data ++
      s.payload.drop (s.bytesRead.toNat + n.toNat)
    bytesRead := s.bytesRead + n }

/-- The message that a complete payload makes. -/
def message (s : ChunkStreamState) (csid : UInt32) : RtmpMessage where
  timestamp := s.timestamp
  messageLength := s.messageLength
  typeId := s.typeId
  messageStreamId := s.messageStreamId
  chunkStreamId := csid
  payload := s.payload

end ChunkStreamState

def RtmpChunkParser.setInChunkSize (p : RtmpChunkParser) (chunkSize : UInt32) :
    RtmpChunkParser :=
  { p with inChunkSize := chunkSize }

/-- Write the state of one chunk stream. -/
def RtmpChunkParser.setStream (p : RtmpChunkParser) (csid : UInt32)
    (state : ChunkStreamState) : RtmpChunkParser :=
  { p with chunkStreams := Function.update p.chunkStreams csid state }

/-! ### Headers -/

structure BasicHeader where
  fmt : UInt8
  csid : UInt32
  size : Nat
deriving DecidableEq, Repr

/-- `parseBasicHeader`; `none` is the source's `*header_size = 0`. -/
def parseBasicHeader : Bytes → Option BasicHeader
  | [] => none
  | first :: rest =>
      let fmt := first >>> 6
      let csidMark := first &&& 0x3F
      if csidMark ≥ 2 then some ⟨fmt, csidMark.toUInt32, 1⟩
      else if csidMark = 0 then
        match rest with
        | b1 :: _ => some ⟨fmt, 64 + b1.toUInt32, 2⟩
        | [] => none
      else
        match rest with
        | b1 :: b2 :: _ => some ⟨fmt, 64 + b1.toUInt32 + (b2.toUInt32 <<< (8 : UInt32)), 3⟩
        | _ => none

/-- `parseMessageHeader`: the touched state and `*bytes_used`, where `0` means
that the header is not complete, or that it is a fmt=3 header without an extended
timestamp. -/
def parseMessageHeader (data : Bytes) (fmt : UInt8) (state : ChunkStreamState) :
    Except String (ChunkStreamState × Nat) :=
  if fmt = kChunkHeaderType0 then
    if data.length < 11 then .ok (state, 0)
    else
      let timestamp := readUint24BE data
      let state := { state with
        messageLength := readUint24BE (data.drop 3)
        typeId := byteAt data 6
        messageStreamId := readUint32LE (data.drop 7)
        timestampDelta := 0 }
      if timestamp = 0x00FFFFFF then
        if data.length < 11 + 4 then .ok (state, 0)
        else
          let extended := readUint32BE (data.drop 11)
          .ok ({ state with
            extendedTimestamp := extended
            timestamp := extended
            bytesRead := 0
            headerInitialized := true }.assignPayload, 11 + 4)
      else
        .ok ({ state with
          extendedTimestamp := 0
          timestamp := timestamp
          bytesRead := 0
          headerInitialized := true }.assignPayload, 11)
  else if state.headerInitialized = false then
    .error "received continuation chunk before first fmt=0 header"
  else if fmt = kChunkHeaderType1 then
    if data.length < 7 then .ok (state, 0)
    else
      let timestampDelta := readUint24BE data
      let state := { state with
        messageLength := readUint24BE (data.drop 3)
        typeId := byteAt data 6 }
      if timestampDelta = 0x00FFFFFF then
        if data.length < 7 + 4 then .ok (state, 0)
        else
          let extended := readUint32BE (data.drop 7)
          .ok (state.startDelta extended extended, 7 + 4)
      else .ok (state.startDelta 0 timestampDelta, 7)
  else if fmt = kChunkHeaderType2 then
    if data.length < 3 then .ok (state, 0)
    else
      let timestampDelta := readUint24BE data
      if timestampDelta = 0x00FFFFFF then
        if data.length < 3 + 4 then .ok (state, 0)
        else
          let extended := readUint32BE (data.drop 3)
          .ok (state.startDelta extended extended, 3 + 4)
      else .ok (state.startDelta 0 timestampDelta, 3)
  else if fmt = kChunkHeaderType3 then
    -- Only a chunk that starts a message reuses the delta; a continuation does not.
    let state :=
      if state.bytesRead = 0 ∧ state.messageLength > 0 then
        { state with timestamp := state.timestamp + state.timestampDelta }.assignPayload
      else state
    if state.extendedTimestamp ≠ 0 then
      if data.length < 4 then .ok (state, 0) else .ok (state, 4)
    else .ok (state, 0)
  else .error "invalid chunk header fmt"

/-! ### Chunks -/

/-- What one call of `parseOneChunk` leaves behind. -/
structure ChunkStep where
  parser : RtmpChunkParser
  buf : Bytes
  message : Option RtmpMessage := none

/-- A fmt=3 header has no bytes of its own when there is no extended timestamp, so
for it alone `message_header_size == 0` does not mean "incomplete". -/
def fmt3WithoutExtraHeader (fmt : UInt8) (state : ChunkStreamState) : Prop :=
  fmt = kChunkHeaderType3 ∧ state.headerInitialized = true ∧ state.extendedTimestamp = 0

instance (fmt : UInt8) (state : ChunkStreamState) :
    Decidable (fmt3WithoutExtraHeader fmt state) := by
  unfold fmt3WithoutExtraHeader; infer_instance

/-- `chunk_payload`: how many payload bytes the current chunk carries. -/
def chunkPayload (inChunkSize : UInt32) (state : ChunkStreamState) : UInt32 :=
  min (state.messageLength - state.bytesRead) inChunkSize

/-- The second half of `parseOneChunk`, once the chunk is complete: copy the
payload, retrieve the chunk, and emit the message if this was its last chunk. -/
def takeChunk (p : RtmpChunkParser) (csid : UInt32) (state : ChunkStreamState) (buf : Bytes)
    (offset : Nat) : ChunkStep :=
  let n := chunkPayload p.inChunkSize state
  let state := state.copyPayload n ((buf.drop offset).take n.toNat)
  let rest := buf.drop (offset + n.toNat)
  if state.bytesRead = state.messageLength then
    ⟨p.setStream csid { state with bytesRead := 0, payload := [] }, rest,
      some (state.message csid)⟩
  else ⟨p.setStream csid state, rest, none⟩

/-- `parseOneChunk`. A chunk that is not complete leaves the buffer as it is. -/
def parseOneChunk (p : RtmpChunkParser) (buf : Bytes) : Except String ChunkStep :=
  match parseBasicHeader buf with
  | none => .ok ⟨p, buf, none⟩
  | some header =>
      match parseMessageHeader (buf.drop header.size) header.fmt
          (p.chunkStreams header.csid) with
      | .error e => .error e
      | .ok (state, messageHeaderSize) =>
          if messageHeaderSize = 0 ∧ ¬ fmt3WithoutExtraHeader header.fmt state then
            .ok ⟨p.setStream header.csid state, buf, none⟩
          else if state.headerInitialized = false then
            .ok ⟨p.setStream header.csid state, buf, none⟩
          else
            let offset := header.size + messageHeaderSize
            if buf.length < offset + (chunkPayload p.inChunkSize state).toNat then
              .ok ⟨p.setStream header.csid state, buf, none⟩
            else .ok (takeChunk p header.csid state buf offset)

/-- What `parse` leaves behind; `error = none` is the result `true`. -/
structure ParseResult where
  parser : RtmpChunkParser
  buf : Bytes
  messages : List RtmpMessage
  error : Option String

/-- The loop of `parse`. Every round but the last takes at least one byte, so
`fuel = buf.length` rounds are enough (`Rmuduo.Rtmp.parse_eq_drain`). -/
def parseLoop : Nat → RtmpChunkParser → Bytes → ParseResult
  | 0, p, buf => ⟨p, buf, [], none⟩
  | fuel + 1, p, buf =>
      if buf.length = 0 then ⟨p, buf, [], none⟩
      else
        match parseOneChunk p buf with
        | .error e => ⟨p, buf, [], some e⟩
        | .ok step =>
            if step.buf.length = buf.length then
              ⟨step.parser, step.buf, step.message.toList, none⟩
            else
              let r := parseLoop fuel step.parser step.buf
              { r with messages := step.message.toList ++ r.messages }

/-- `RtmpChunkParser::parse`. -/
def parse (p : RtmpChunkParser) (buf : Bytes) : ParseResult :=
  parseLoop buf.length p buf

/-! ### What a header says

The four header formats in one shape: a fixed part, which is written as soon as it
has arrived, and a timestamp field, whose value may stand in four further bytes. -/

/-- The timestamp or delta field of a header whose fixed part has `base` bytes: its
value, what goes into `extendedTimestamp`, and the size of the header. `none` while
bytes are missing. -/
def timestampField (base : Nat) (data : Bytes) : Option (UInt32 × UInt32 × Nat) :=
  if data.length < base then none
  else if readUint24BE data = 0x00FFFFFF then
    if data.length < base + 4 then none
    else some (readUint32BE (data.drop base), readUint32BE (data.drop base), base + 4)
  else some (readUint24BE data, 0, base)

theorem timestampField_append {base : Nat} {data : Bytes} {r : UInt32 × UInt32 × Nat}
    (hbase : 3 ≤ base) (h : timestampField base data = some r) (ys : Bytes) :
    timestampField base (data ++ ys) = some r := by
  unfold timestampField at h ⊢
  split at h
  · cases h
  · rename_i hlen
    have hlen' : ¬ (data ++ ys).length < base := by simp only [List.length_append]; omega
    rw [if_neg hlen', readUint24BE_append (by omega)]
    split at h
    · rename_i hmark
      split at h
      · cases h
      · rename_i hext
        have hext' : ¬ (data ++ ys).length < base + 4 := by
          simp only [List.length_append]; omega
        have hdrop : 4 ≤ (data.drop base).length := by rw [List.length_drop]; omega
        rw [if_pos hmark, if_neg hext', List.drop_append_of_le_length (by omega),
          readUint32BE_append hdrop]
        exact h
    · rename_i hmark
      rw [if_neg hmark]
      exact h

theorem timestampField_size {base : Nat} {data : Bytes} {v e : UInt32} {n : Nat}
    (h : timestampField base data = some (v, e, n)) : base ≤ n ∧ n ≤ data.length := by
  unfold timestampField at h
  split at h
  · cases h
  · split at h
    · split at h
      · cases h
      · simp only [Option.some.injEq, Prod.mk.injEq] at h
        omega
    · simp only [Option.some.injEq, Prod.mk.injEq] at h
      omega

namespace ChunkStreamState

/-- The fields of the fixed part of a fmt=0 header. -/
def writeFull (s : ChunkStreamState) (data : Bytes) : ChunkStreamState :=
  if data.length < 11 then s
  else { s with
    messageLength := readUint24BE (data.drop 3)
    typeId := byteAt data 6
    messageStreamId := readUint32LE (data.drop 7)
    timestampDelta := 0 }

/-- The fields of the fixed part of a fmt=1 header. -/
def writeLength (s : ChunkStreamState) (data : Bytes) : ChunkStreamState :=
  if data.length < 7 then s
  else { s with
    messageLength := readUint24BE (data.drop 3)
    typeId := byteAt data 6 }

/-- A complete fmt=0 header starts a message at an absolute timestamp. -/
def startFull (s : ChunkStreamState) (extended timestamp : UInt32) : ChunkStreamState :=
  { s with
    extendedTimestamp := extended
    timestamp := timestamp
    bytesRead := 0
    headerInitialized := true }.assignPayload

/-- A fmt=3 header starts a message when the last one is finished. -/
def startAgain (s : ChunkStreamState) : ChunkStreamState :=
  if s.bytesRead = 0 ∧ s.messageLength > 0 then
    { s with timestamp := s.timestamp + s.timestampDelta }.assignPayload
  else s

@[simp] theorem startAgain_bytesRead (s : ChunkStreamState) :
    s.startAgain.bytesRead = s.bytesRead := by
  unfold startAgain
  split <;> rfl

@[simp] theorem startAgain_messageLength (s : ChunkStreamState) :
    s.startAgain.messageLength = s.messageLength := by
  unfold startAgain
  split <;> rfl

@[simp] theorem startAgain_extendedTimestamp (s : ChunkStreamState) :
    s.startAgain.extendedTimestamp = s.extendedTimestamp := by
  unfold startAgain
  split <;> rfl

@[simp] theorem startAgain_headerInitialized (s : ChunkStreamState) :
    s.startAgain.headerInitialized = s.headerInitialized := by
  unfold startAgain
  split <;> rfl

end ChunkStreamState

theorem parseMessageHeader_type0 (data : Bytes) (s : ChunkStreamState) :
    parseMessageHeader data kChunkHeaderType0 s =
      .ok (match timestampField 11 data with
        | none => (s.writeFull data, 0)
        | some (v, e, n) => ((s.writeFull data).startFull e v, n)) := by
  unfold parseMessageHeader timestampField ChunkStreamState.writeFull
    ChunkStreamState.startFull
  rw [if_pos rfl]
  split
  · rfl
  · dsimp only
    split
    · split <;> rfl
    · rfl

theorem parseMessageHeader_type1 (data : Bytes) {s : ChunkStreamState}
    (init : s.headerInitialized = true) :
    parseMessageHeader data kChunkHeaderType1 s =
      .ok (match timestampField 7 data with
        | none => (s.writeLength data, 0)
        | some (v, e, n) => ((s.writeLength data).startDelta e v, n)) := by
  unfold parseMessageHeader timestampField ChunkStreamState.writeLength
  rw [if_neg (by decide), if_neg (by simp [init]), if_pos rfl]
  split
  · rfl
  · dsimp only
    split
    · split <;> rfl
    · rfl

theorem parseMessageHeader_type2 (data : Bytes) {s : ChunkStreamState}
    (init : s.headerInitialized = true) :
    parseMessageHeader data kChunkHeaderType2 s =
      .ok (match timestampField 3 data with
        | none => (s, 0)
        | some (v, e, n) => (s.startDelta e v, n)) := by
  unfold parseMessageHeader timestampField
  rw [if_neg (by decide), if_neg (by simp [init]), if_neg (by decide), if_pos rfl]
  split
  · rfl
  · dsimp only
    split
    · split <;> rfl
    · rfl

theorem parseMessageHeader_type3 (data : Bytes) {s : ChunkStreamState}
    (init : s.headerInitialized = true) :
    parseMessageHeader data kChunkHeaderType3 s =
      .ok (s.startAgain,
        if s.extendedTimestamp ≠ 0 ∧ 4 ≤ data.length then 4 else 0) := by
  unfold parseMessageHeader
  rw [if_neg (by decide), if_neg (by simp [init]), if_neg (by decide), if_neg (by decide),
    if_pos rfl]
  change (if s.startAgain.extendedTimestamp ≠ 0 then
    if data.length < 4 then _ else _ else _) = _
  rw [s.startAgain_extendedTimestamp]
  by_cases h : s.extendedTimestamp = 0
  · simp [h, ChunkStreamState.startAgain]
  · by_cases hlen : data.length < 4
    · simp [h, hlen, ChunkStreamState.startAgain]
    · simp [h, hlen, ChunkStreamState.startAgain]

/-- What is wrong with a header of format `fmt`, on a chunk stream that has had a fmt=0 header
or not. -/
def headerError (fmt : UInt8) (initialized : Bool) : Option String :=
  if fmt = kChunkHeaderType0 then none
  else if initialized = false then
    some "received continuation chunk before first fmt=0 header"
  else if fmt = kChunkHeaderType1 ∨ fmt = kChunkHeaderType2 ∨ fmt = kChunkHeaderType3 then none
  else some "invalid chunk header fmt"

/-- The headers that a chunk stream accepts. -/
theorem headerError_eq_none {fmt : UInt8} {initialized : Bool} :
    headerError fmt initialized = none ↔
      fmt = kChunkHeaderType0 ∨
        initialized = true ∧
          (fmt = kChunkHeaderType1 ∨ fmt = kChunkHeaderType2 ∨ fmt = kChunkHeaderType3) := by
  unfold headerError
  split_ifs with h0 hinit hfmt
  · simp [h0]
  · simp [h0, hinit]
  · simp [hinit, hfmt]
  · simp [h0, hfmt]

theorem parseMessageHeader_headerError {fmt : UInt8} {s : ChunkStreamState} {e : String}
    (data : Bytes) (h : headerError fmt s.headerInitialized = some e) :
    parseMessageHeader data fmt s = .error e := by
  unfold headerError at h
  unfold parseMessageHeader
  split_ifs at h with h0 hinit hfmt
  · cases h
    rw [if_neg h0, if_pos hinit]
  · cases h
    simp only [not_or] at hfmt
    rw [if_neg h0, if_neg hinit, if_neg hfmt.1, if_neg hfmt.2.1, if_neg hfmt.2.2]

/-- An error is about the chunk stream, not about the bytes of the header. -/
theorem parseMessageHeader_error_iff {data : Bytes} {fmt : UInt8} {s : ChunkStreamState}
    {e : String} :
    parseMessageHeader data fmt s = .error e ↔ headerError fmt s.headerInitialized = some e := by
  refine ⟨fun h => ?_, parseMessageHeader_headerError data⟩
  cases hwrong : headerError fmt s.headerInitialized with
  | some e' =>
      rw [parseMessageHeader_headerError data hwrong] at h
      cases h
      rfl
  | none =>
      rcases headerError_eq_none.mp hwrong with rfl | ⟨init, rfl | rfl | rfl⟩
      · rw [parseMessageHeader_type0] at h
        cases h
      · rw [parseMessageHeader_type1 data init] at h
        cases h
      · rw [parseMessageHeader_type2 data init] at h
        cases h
      · rw [parseMessageHeader_type3 data init] at h
        cases h

theorem parseMessageHeader_error {data : Bytes} {fmt : UInt8} {s : ChunkStreamState}
    {e : String} (h : parseMessageHeader data fmt s = .error e) (data' : Bytes) :
    parseMessageHeader data' fmt s = .error e :=
  parseMessageHeader_error_iff.mpr (parseMessageHeader_error_iff.mp h)

theorem parseMessageHeader_ok_fmt {data : Bytes} {fmt : UInt8} {s s' : ChunkStreamState}
    {n : Nat} (h : parseMessageHeader data fmt s = .ok (s', n)) :
    fmt = kChunkHeaderType0 ∨
      s.headerInitialized = true ∧
        (fmt = kChunkHeaderType1 ∨ fmt = kChunkHeaderType2 ∨ fmt = kChunkHeaderType3) := by
  apply headerError_eq_none.mp
  cases hwrong : headerError fmt s.headerInitialized with
  | none => rfl
  | some e =>
      rw [parseMessageHeader_headerError data hwrong] at h
      cases h

/-- A fmt=3 header that is read, complete or not, starts the message again. -/
theorem parseMessageHeader_ok_type3 {data : Bytes} {s s' : ChunkStreamState} {n : Nat}
    (h : parseMessageHeader data kChunkHeaderType3 s = .ok (s', n)) : s' = s.startAgain := by
  rcases parseMessageHeader_ok_fmt h with hfmt | ⟨hinit, -⟩
  · exact absurd hfmt (by decide)
  · rw [parseMessageHeader_type3 _ hinit] at h
    cases h
    rfl

/-- The header of a chunk is complete. -/
def HeaderDone (fmt : UInt8) (state : ChunkStreamState) (messageHeaderSize : Nat) : Prop :=
  messageHeaderSize ≠ 0 ∨ fmt3WithoutExtraHeader fmt state

instance (fmt : UInt8) (state : ChunkStreamState) (n : Nat) :
    Decidable (HeaderDone fmt state n) := by
  unfold HeaderDone; infer_instance

theorem ChunkStreamState.writeFull_append {data : Bytes} (h : 11 ≤ data.length)
    (s : ChunkStreamState) (ys : Bytes) : s.writeFull (data ++ ys) = s.writeFull data := by
  have hlen : ¬ (data ++ ys).length < 11 := by simp only [List.length_append]; omega
  unfold writeFull
  rw [if_neg hlen, if_neg (by omega), List.drop_append_of_le_length (by omega),
    List.drop_append_of_le_length (by omega), readUint24BE_append (by simp; omega),
    readUint32LE_append (by simp; omega), byteAt_append (by omega)]

theorem ChunkStreamState.writeLength_append {data : Bytes} (h : 7 ≤ data.length)
    (s : ChunkStreamState) (ys : Bytes) : s.writeLength (data ++ ys) = s.writeLength data := by
  have hlen : ¬ (data ++ ys).length < 7 := by simp only [List.length_append]; omega
  unfold writeLength
  rw [if_neg hlen, if_neg (by omega), List.drop_append_of_le_length (by omega),
    readUint24BE_append (by simp; omega), byteAt_append (by omega)]

theorem headerDone_zero {fmt : UInt8} {s : ChunkStreamState} (h : HeaderDone fmt s 0) :
    fmt = kChunkHeaderType3 ∧ s.extendedTimestamp = 0 := by
  rcases h with h | ⟨hfmt, -, hext⟩
  · exact absurd rfl h
  · exact ⟨hfmt, hext⟩

/-- A complete header at the front of `data`, for each format: what it makes of the state, and
its size. -/
inductive CompleteHeader (data : Bytes) (s : ChunkStreamState) :
    UInt8 → ChunkStreamState → Nat → Prop where
  | type0 {v e : UInt32} {n : Nat} (field : timestampField 11 data = some (v, e, n)) :
      CompleteHeader data s kChunkHeaderType0 ((s.writeFull data).startFull e v) n
  | type1 {v e : UInt32} {n : Nat} (init : s.headerInitialized = true)
      (field : timestampField 7 data = some (v, e, n)) :
      CompleteHeader data s kChunkHeaderType1 ((s.writeLength data).startDelta e v) n
  | type2 {v e : UInt32} {n : Nat} (init : s.headerInitialized = true)
      (field : timestampField 3 data = some (v, e, n)) :
      CompleteHeader data s kChunkHeaderType2 (s.startDelta e v) n
  | type3 (init : s.headerInitialized = true) (unmarked : s.extendedTimestamp = 0) :
      CompleteHeader data s kChunkHeaderType3 s.startAgain 0
  | type3Extended (init : s.headerInitialized = true) (marked : s.extendedTimestamp ≠ 0)
      (long : 4 ≤ data.length) : CompleteHeader data s kChunkHeaderType3 s.startAgain 4

theorem completeHeader_iff {data : Bytes} {fmt : UInt8} {s s' : ChunkStreamState} {n : Nat} :
    CompleteHeader data s fmt s' n ↔
      parseMessageHeader data fmt s = .ok (s', n) ∧ HeaderDone fmt s' n := by
  constructor
  · intro h
    cases h with
    | type0 field =>
        have hsize := timestampField_size field
        rw [parseMessageHeader_type0, field]
        exact ⟨rfl, .inl (by omega)⟩
    | type1 init field =>
        have hsize := timestampField_size field
        rw [parseMessageHeader_type1 data init, field]
        exact ⟨rfl, .inl (by omega)⟩
    | type2 init field =>
        have hsize := timestampField_size field
        rw [parseMessageHeader_type2 data init, field]
        exact ⟨rfl, .inl (by omega)⟩
    | type3 init unmarked =>
        rw [parseMessageHeader_type3 data init, if_neg fun h => h.1 unmarked]
        exact ⟨rfl, .inr ⟨rfl, by simpa using init, by simpa using unmarked⟩⟩
    | type3Extended init marked long =>
        rw [parseMessageHeader_type3 data init, if_pos ⟨marked, long⟩]
        exact ⟨rfl, .inl (by decide)⟩
  · rintro ⟨h, done⟩
    rcases parseMessageHeader_ok_fmt h with rfl | ⟨init, rfl | rfl | rfl⟩
    · rw [parseMessageHeader_type0] at h
      cases hf : timestampField 11 data with
      | none =>
          rw [hf] at h
          cases h
          exact absurd (headerDone_zero done).1 (by decide)
      | some f =>
          rw [hf] at h
          cases h
          exact .type0 hf
    · rw [parseMessageHeader_type1 data init] at h
      cases hf : timestampField 7 data with
      | none =>
          rw [hf] at h
          cases h
          exact absurd (headerDone_zero done).1 (by decide)
      | some f =>
          rw [hf] at h
          cases h
          exact .type1 init hf
    · rw [parseMessageHeader_type2 data init] at h
      cases hf : timestampField 3 data with
      | none =>
          rw [hf] at h
          cases h
          exact absurd (headerDone_zero done).1 (by decide)
      | some f =>
          rw [hf] at h
          cases h
          exact .type2 init hf
    · rw [parseMessageHeader_type3 data init] at h
      by_cases hc : s.extendedTimestamp ≠ 0 ∧ 4 ≤ data.length
      · rw [if_pos hc] at h
        cases h
        exact .type3Extended init hc.1 hc.2
      · rw [if_neg hc] at h
        cases h
        exact .type3 init (by simpa using (headerDone_zero done).2)

/-- A fmt=3 header has the four bytes of an extended timestamp, or none. -/
theorem CompleteHeader.of_type3 {data : Bytes} {s s' : ChunkStreamState} {n : Nat}
    (h : CompleteHeader data s kChunkHeaderType3 s' n) :
    s' = s.startAgain ∧ n = if s.extendedTimestamp = 0 then 0 else 4 := by
  generalize hfmt : kChunkHeaderType3 = fmt at h
  cases h with
  | type0 => exact absurd hfmt (by decide)
  | type1 => exact absurd hfmt (by decide)
  | type2 => exact absurd hfmt (by decide)
  | type3 init unmarked => exact ⟨rfl, (if_pos unmarked).symm⟩
  | type3Extended init marked long => exact ⟨rfl, (if_neg marked).symm⟩

theorem CompleteHeader.append {data : Bytes} {fmt : UInt8} {s s' : ChunkStreamState} {n : Nat}
    (h : CompleteHeader data s fmt s' n) (ys : Bytes) :
    CompleteHeader (data ++ ys) s fmt s' n := by
  cases h with
  | type0 field =>
      have hsize := timestampField_size field
      rw [← s.writeFull_append (by omega) ys]
      exact .type0 (timestampField_append (by decide) field ys)
  | type1 init field =>
      have hsize := timestampField_size field
      rw [← s.writeLength_append (by omega) ys]
      exact .type1 init (timestampField_append (by decide) field ys)
  | type2 init field => exact .type2 init (timestampField_append (by decide) field ys)
  | type3 init unmarked => exact .type3 init unmarked
  | type3Extended init marked long =>
      exact .type3Extended init marked (by rw [List.length_append]; omega)

/-- A complete header reads the same whatever follows it. -/
theorem parseMessageHeader_append {data : Bytes} {fmt : UInt8} {s s' : ChunkStreamState}
    {n : Nat} (h : parseMessageHeader data fmt s = .ok (s', n)) (done : HeaderDone fmt s' n)
    (ys : Bytes) : parseMessageHeader (data ++ ys) fmt s = .ok (s', n) :=
  (completeHeader_iff.mp ((completeHeader_iff.mpr ⟨h, done⟩).append ys)).1

theorem parseBasicHeader_size {buf : Bytes} {header : BasicHeader}
    (h : parseBasicHeader buf = some header) : 0 < header.size ∧ header.size ≤ buf.length := by
  unfold parseBasicHeader at h
  split at h
  · cases h
  · dsimp only at h
    split at h
    · cases h; simp
    · split at h
      · split at h
        · cases h; simp
        · cases h
      · split at h
        · cases h; simp
        · cases h

theorem parseBasicHeader_append {buf : Bytes} {header : BasicHeader}
    (h : parseBasicHeader buf = some header) (ys : Bytes) :
    parseBasicHeader (buf ++ ys) = some header := by
  unfold parseBasicHeader at h
  split at h
  · cases h
  · dsimp only at h
    split at h
    · rename_i hmark
      simp only [List.cons_append, parseBasicHeader, if_pos hmark]
      exact h
    · rename_i hmark
      split at h
      · rename_i hzero
        split at h
        · simp only [List.cons_append, parseBasicHeader, if_neg hmark, if_pos hzero]
          exact h
        · cases h
      · rename_i hzero
        split at h
        · simp only [List.cons_append, parseBasicHeader, if_neg hmark, if_neg hzero]
          exact h
        · cases h

end Rmuduo.Rtmp
