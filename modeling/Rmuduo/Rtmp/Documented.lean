/-
The documented chunk format (`rtmp/RTMP_MESSAGE_EXPLAIN.md`, sections 3, 6 and 7).

The documents say two things outright that the parser infers. A fmt=3 header carries an
extended timestamp when the last full header of its csid carried the marker `0xFFFFFF`;
the parser looks whether the extended timestamp it stored is non-zero. A fmt=3 header
starts a message when none is in progress; the parser looks whether no byte has been read
of a message that is not empty. `documented` decodes by the documents.

* `CompleteDocumented` — a complete header, format by format.
* `readChunk_documented` — chunk by chunk, the parser reads what the documents say, with a
  timestamp that is off by what its inferences got wrong (`gain`).
* `parse_documented_iff` — as long as no fmt=3 header stands behind an extended timestamp
  of zero, the messages are the documented ones exactly when no message is off.
-/

import Rmuduo.Rtmp.Segmentation

namespace Rmuduo.Rtmp

open Lib

/-! ### The documented decoder -/

/-- What the format keeps for a chunk stream. `extended` is the extended timestamp of the last
fmt=0/1/2 header, if its field carried the marker, and `received` the part of the message in
progress, if there is one. -/
structure DocumentedStream where
  timestamp : UInt32 := 0
  delta : UInt32 := 0
  extended : Option UInt32 := none
  messageLength : UInt32 := 0
  typeId : UInt8 := 0
  messageStreamId : UInt32 := 0
  received : Option Bytes := none
  opened : Bool := false
deriving DecidableEq

/-- The extended timestamp behind a timestamp field of value `v`, if the field carries the
marker. -/
def markedBy (data : Bytes) (v : UInt32) : Option UInt32 :=
  if readUint24BE data = 0x00FFFFFF then some v else none

namespace DocumentedStream

/-- A fmt=0 header starts a message at an absolute timestamp. -/
def full (s : DocumentedStream) (data : Bytes) (v : UInt32) : DocumentedStream :=
  { s with
    timestamp := v
    delta := 0
    extended := markedBy data v
    messageLength := readUint24BE (data.drop 3)
    typeId := byteAt data 6
    messageStreamId := readUint32LE (data.drop 7)
    received := some []
    opened := true }

/-- A fmt=1 or fmt=2 header starts a message that is `v` later than the last one. -/
def advanced (s : DocumentedStream) (data : Bytes) (v : UInt32) : DocumentedStream :=
  { s with
    timestamp := s.timestamp + v
    delta := v
    extended := markedBy data v
    received := some [] }

/-- The fields that a fmt=1 header has and a fmt=2 header does not. -/
def sized (s : DocumentedStream) (data : Bytes) : DocumentedStream :=
  { s with
    messageLength := readUint24BE (data.drop 3)
    typeId := byteAt data 6 }

/-- A fmt=3 header continues the message in progress, or starts one like the last. -/
def continued (s : DocumentedStream) : DocumentedStream :=
  match s.received with
  | some _ => s
  | none => { s with timestamp := s.timestamp + s.delta, received := some [] }

/-- The message that is complete with the payload `payload`. -/
def message (s : DocumentedStream) (csid : UInt32) (payload : Bytes) : RtmpMessage where
  timestamp := s.timestamp
  messageLength := s.messageLength
  typeId := s.typeId
  messageStreamId := s.messageStreamId
  chunkStreamId := csid
  payload := payload

end DocumentedStream

/-- Read a message header: the state behind it and its size, `none` while bytes are missing. -/
def documentedHeader (data : Bytes) (fmt : UInt8) (s : DocumentedStream) :
    Except String (Option (DocumentedStream × Nat)) :=
  if fmt = kChunkHeaderType0 then
    .ok ((timestampField 11 data).map fun f => (s.full data f.1, f.2.2))
  else if s.opened = false then
    .error "received continuation chunk before first fmt=0 header"
  else if fmt = kChunkHeaderType1 then
    .ok ((timestampField 7 data).map fun f => ((s.sized data).advanced data f.1, f.2.2))
  else if fmt = kChunkHeaderType2 then
    .ok ((timestampField 3 data).map fun f => (s.advanced data f.1, f.2.2))
  else if fmt = kChunkHeaderType3 then
    match s.extended with
    | none => .ok (some (s.continued, 0))
    | some _ => .ok (if data.length < 4 then none else some (s.continued, 4))
  else .error "invalid chunk header fmt"

/-- How much of the payload the next chunk of a message carries. -/
def documentedPayload (c : UInt32) (s : DocumentedStream) : Nat :=
  min (s.messageLength.toNat - (s.received.getD []).length) c.toNat

/-- Read the chunk at the front of the buffer, with chunk size `c`. -/
def readDocumented (c : UInt32) (streams : UInt32 → DocumentedStream) (buf : Bytes) :
    Reading (UInt32 → DocumentedStream) String ChunkRecord :=
  match parseBasicHeader buf with
  | none => .more
  | some header =>
      match documentedHeader (buf.drop header.size) header.fmt (streams header.csid) with
      | .error e => .fail e
      | .ok none => .more
      | .ok (some (s, n)) =>
          let used := header.size + n + documentedPayload c s
          if buf.length < used then .more
          else
            let payload := s.received.getD [] ++
              (buf.drop (header.size + n)).take (documentedPayload c s)
            if payload.length = s.messageLength.toNat then
              .item used (Function.update streams header.csid { s with received := none })
                ⟨header.fmt, header.csid, some (s.message header.csid payload)⟩
            else
              .item used (Function.update streams header.csid { s with received := some payload })
                ⟨header.fmt, header.csid, none⟩

/-! ### The decoder as a reader -/

theorem markedBy_append {data : Bytes} (h : 3 ≤ data.length) (ys : Bytes) (v : UInt32) :
    markedBy (data ++ ys) v = markedBy data v := by
  unfold markedBy
  rw [readUint24BE_append h]

theorem DocumentedStream.full_append {data : Bytes} (h : 11 ≤ data.length) (ys : Bytes)
    (s : DocumentedStream) (v : UInt32) : s.full (data ++ ys) v = s.full data v := by
  unfold full
  rw [markedBy_append (by omega), List.drop_append_of_le_length (by omega),
    List.drop_append_of_le_length (by omega), readUint24BE_append (by simp; omega),
    readUint32LE_append (by simp; omega), byteAt_append (by omega)]

theorem DocumentedStream.sized_append {data : Bytes} (h : 7 ≤ data.length) (ys : Bytes)
    (s : DocumentedStream) : s.sized (data ++ ys) = s.sized data := by
  unfold sized
  rw [List.drop_append_of_le_length (by omega), readUint24BE_append (by simp; omega),
    byteAt_append (by omega)]

theorem DocumentedStream.advanced_append {data : Bytes} (h : 3 ≤ data.length) (ys : Bytes)
    (s : DocumentedStream) (v : UInt32) : s.advanced (data ++ ys) v = s.advanced data v := by
  unfold advanced
  rw [markedBy_append h]

theorem documentedHeader_headerError {fmt : UInt8} {s : DocumentedStream} {e : String}
    (data : Bytes) (h : headerError fmt s.opened = some e) :
    documentedHeader data fmt s = .error e := by
  unfold headerError at h
  unfold documentedHeader
  split_ifs at h with h0 hopened hfmt
  · cases h
    rw [if_neg h0, if_pos hopened]
  · cases h
    simp only [not_or] at hfmt
    rw [if_neg h0, if_neg hopened, if_neg hfmt.1, if_neg hfmt.2.1, if_neg hfmt.2.2]

theorem documentedHeader_type0 (data : Bytes) (s : DocumentedStream) :
    documentedHeader data kChunkHeaderType0 s =
      .ok ((timestampField 11 data).map fun f => (s.full data f.1, f.2.2)) :=
  if_pos rfl

section Formats

variable {s : DocumentedStream}

theorem documentedHeader_type1 (data : Bytes) (opened : s.opened = true) :
    documentedHeader data kChunkHeaderType1 s =
      .ok ((timestampField 7 data).map fun f => ((s.sized data).advanced data f.1, f.2.2)) := by
  unfold documentedHeader
  rw [if_neg (by decide), if_neg (by simp [opened]), if_pos rfl]

theorem documentedHeader_type2 (data : Bytes) (opened : s.opened = true) :
    documentedHeader data kChunkHeaderType2 s =
      .ok ((timestampField 3 data).map fun f => (s.advanced data f.1, f.2.2)) := by
  unfold documentedHeader
  rw [if_neg (by decide), if_neg (by simp [opened]), if_neg (by decide), if_pos rfl]

theorem documentedHeader_unmarked (data : Bytes) (opened : s.opened = true)
    (hext : s.extended = none) :
    documentedHeader data kChunkHeaderType3 s = .ok (some (s.continued, 0)) := by
  unfold documentedHeader
  rw [if_neg (by decide), if_neg (by simp [opened]), if_neg (by decide), if_neg (by decide),
    if_pos rfl]
  simp only [hext]

theorem documentedHeader_marked (data : Bytes) (opened : s.opened = true) {e : UInt32}
    (hext : s.extended = some e) :
    documentedHeader data kChunkHeaderType3 s =
      .ok (if data.length < 4 then none else some (s.continued, 4)) := by
  unfold documentedHeader
  rw [if_neg (by decide), if_neg (by simp [opened]), if_neg (by decide), if_neg (by decide),
    if_pos rfl]
  simp only [hext]

/-- A header is malformed for the documents where it is for the parser. -/
theorem documentedHeader_error_iff {data : Bytes} {fmt : UInt8} {e : String} :
    documentedHeader data fmt s = .error e ↔ headerError fmt s.opened = some e := by
  refine ⟨fun h => ?_, documentedHeader_headerError data⟩
  cases hwrong : headerError fmt s.opened with
  | some e' =>
      rw [documentedHeader_headerError data hwrong] at h
      cases h
      rfl
  | none =>
      rcases headerError_eq_none.mp hwrong with rfl | ⟨opened, rfl | rfl | rfl⟩
      · rw [documentedHeader_type0] at h
        cases h
      · rw [documentedHeader_type1 data opened] at h
        cases h
      · rw [documentedHeader_type2 data opened] at h
        cases h
      · cases hext : s.extended with
        | none =>
            rw [documentedHeader_unmarked data opened hext] at h
            cases h
        | some e =>
            rw [documentedHeader_marked data opened hext] at h
            cases h

theorem documentedHeader_error {data : Bytes} {fmt : UInt8} {e : String}
    (h : documentedHeader data fmt s = .error e) (data' : Bytes) :
    documentedHeader data' fmt s = .error e :=
  documentedHeader_error_iff.mpr (documentedHeader_error_iff.mp h)

theorem documentedHeader_ok_fmt {data : Bytes} {fmt : UInt8}
    {o : Option (DocumentedStream × Nat)} (h : documentedHeader data fmt s = .ok o) :
    fmt = kChunkHeaderType0 ∨
      s.opened = true ∧
        (fmt = kChunkHeaderType1 ∨ fmt = kChunkHeaderType2 ∨ fmt = kChunkHeaderType3) := by
  apply headerError_eq_none.mp
  cases hwrong : headerError fmt s.opened with
  | none => rfl
  | some e =>
      rw [documentedHeader_headerError data hwrong] at h
      cases h

end Formats

/-- A complete header at the front of `data`, for each format. -/
inductive CompleteDocumented (data : Bytes) (s : DocumentedStream) :
    UInt8 → DocumentedStream → Nat → Prop where
  | type0 {v e : UInt32} {n : Nat} (field : timestampField 11 data = some (v, e, n)) :
      CompleteDocumented data s kChunkHeaderType0 (s.full data v) n
  | type1 {v e : UInt32} {n : Nat} (opened : s.opened = true)
      (field : timestampField 7 data = some (v, e, n)) :
      CompleteDocumented data s kChunkHeaderType1 ((s.sized data).advanced data v) n
  | type2 {v e : UInt32} {n : Nat} (opened : s.opened = true)
      (field : timestampField 3 data = some (v, e, n)) :
      CompleteDocumented data s kChunkHeaderType2 (s.advanced data v) n
  | type3 (opened : s.opened = true) (unmarked : s.extended = none) :
      CompleteDocumented data s kChunkHeaderType3 s.continued 0
  | type3Extended {e : UInt32} (opened : s.opened = true) (marked : s.extended = some e)
      (long : 4 ≤ data.length) : CompleteDocumented data s kChunkHeaderType3 s.continued 4

theorem completeDocumented_iff {data : Bytes} {fmt : UInt8} {s s' : DocumentedStream} {n : Nat} :
    CompleteDocumented data s fmt s' n ↔ documentedHeader data fmt s = .ok (some (s', n)) := by
  constructor
  · intro h
    cases h with
    | type0 field => rw [documentedHeader_type0, field, Option.map_some]
    | type1 opened field => rw [documentedHeader_type1 data opened, field, Option.map_some]
    | type2 opened field => rw [documentedHeader_type2 data opened, field, Option.map_some]
    | type3 opened unmarked => exact documentedHeader_unmarked data opened unmarked
    | type3Extended opened marked long =>
        rw [documentedHeader_marked data opened marked, if_neg (by omega)]
  · intro h
    rcases documentedHeader_ok_fmt h with rfl | ⟨opened, rfl | rfl | rfl⟩
    · rw [documentedHeader_type0] at h
      obtain ⟨f, hf, heq⟩ := Option.map_eq_some_iff.mp (Except.ok.inj h)
      cases heq
      exact .type0 hf
    · rw [documentedHeader_type1 data opened] at h
      obtain ⟨f, hf, heq⟩ := Option.map_eq_some_iff.mp (Except.ok.inj h)
      cases heq
      exact .type1 opened hf
    · rw [documentedHeader_type2 data opened] at h
      obtain ⟨f, hf, heq⟩ := Option.map_eq_some_iff.mp (Except.ok.inj h)
      cases heq
      exact .type2 opened hf
    · cases hext : s.extended with
      | none =>
          rw [documentedHeader_unmarked data opened hext] at h
          cases h
          exact .type3 opened hext
      | some e =>
          rw [documentedHeader_marked data opened hext] at h
          split at h
          · cases h
          · cases h
            exact .type3Extended opened hext (by omega)

theorem documentedHeader_append {data : Bytes} {fmt : UInt8} {s s' : DocumentedStream} {n : Nat}
    (h : documentedHeader data fmt s = .ok (some (s', n))) (ys : Bytes) :
    documentedHeader (data ++ ys) fmt s = .ok (some (s', n)) := by
  rw [← completeDocumented_iff] at h ⊢
  cases h with
  | type0 field =>
      have hsize := timestampField_size field
      rw [← s.full_append (by omega) ys]
      exact .type0 (timestampField_append (by decide) field ys)
  | type1 opened field =>
      have hsize := timestampField_size field
      have hlen : 3 ≤ data.length := by omega
      rw [← s.sized_append (by omega) ys, ← DocumentedStream.advanced_append hlen ys]
      exact .type1 opened (timestampField_append (by decide) field ys)
  | type2 opened field =>
      have hsize := timestampField_size field
      rw [← s.advanced_append (by omega) ys]
      exact .type2 opened (timestampField_append (by decide) field ys)
  | type3 opened unmarked => exact .type3 opened unmarked
  | type3Extended opened marked long =>
      exact .type3Extended opened marked (by rw [List.length_append]; omega)

section Documented

variable {c : UInt32} {q q' : UInt32 → DocumentedStream} {buf : Bytes} {used : Nat}
  {r : ChunkRecord}

/-- What `readDocumented` says when it reads a chunk. -/
theorem readDocumented_item (h : readDocumented c q buf = .item used q' r) :
    ∃ header s n, parseBasicHeader buf = some header ∧
      documentedHeader (buf.drop header.size) header.fmt (q header.csid) = .ok (some (s, n)) ∧
      used = header.size + n + documentedPayload c s ∧ used ≤ buf.length ∧
      r.fmt = header.fmt ∧ r.csid = header.csid := by
  unfold readDocumented at h
  cases hb : parseBasicHeader buf with
  | none => simp [hb] at h
  | some header =>
      rw [hb] at h
      dsimp only at h
      cases hm : documentedHeader (buf.drop header.size) header.fmt (q header.csid) with
      | error e => simp [hm] at h
      | ok o =>
          cases o with
          | none => simp [hm] at h
          | some sn =>
              obtain ⟨s, n⟩ := sn
              rw [hm] at h
              dsimp only at h
              split at h
              · cases h
              · split at h
                · cases h
                  exact ⟨header, s, n, rfl, hm, rfl, by omega, rfl, rfl⟩
                · cases h
                  exact ⟨header, s, n, rfl, hm, rfl, by omega, rfl, rfl⟩

theorem readDocumented_append (h : readDocumented c q buf = .item used q' r) (ys : Bytes) :
    readDocumented c q (buf ++ ys) = .item used q' r := by
  obtain ⟨header, s, n, hb, hm, rfl, hlen, -, -⟩ := readDocumented_item h
  have hsize := parseBasicHeader_size hb
  unfold readDocumented at h ⊢
  rw [hb] at h
  rw [parseBasicHeader_append hb]
  dsimp only at h ⊢
  rw [hm] at h
  rw [List.drop_append_of_le_length hsize.2, documentedHeader_append hm]
  dsimp only at h ⊢
  rw [if_neg (by omega)] at h
  rw [if_neg (by rw [List.length_append]; omega), List.drop_append_of_le_length (by omega),
    List.take_append_of_le_length (by rw [List.length_drop]; omega)]
  exact h

theorem readDocumented_fail_append {e : String} (h : readDocumented c q buf = .fail e)
    (ys : Bytes) : readDocumented c q (buf ++ ys) = .fail e := by
  unfold readDocumented at h
  cases hb : parseBasicHeader buf with
  | none => simp [hb] at h
  | some header =>
      rw [hb] at h
      dsimp only at h
      cases hm : documentedHeader (buf.drop header.size) header.fmt (q header.csid) with
      | ok o =>
          rw [hm] at h
          cases o with
          | none => cases h
          | some sn =>
              dsimp only at h
              split at h
              · cases h
              · split at h <;> cases h
      | error e' =>
          rw [hm] at h
          unfold readDocumented
          rw [parseBasicHeader_append hb]
          dsimp only
          rw [documentedHeader_error hm]
          exact h

end Documented

/-- The documented decoder, for chunk size `c`. -/
def documented (c : UInt32) : Reader UInt8 (UInt32 → DocumentedStream) String ChunkRecord where
  read := readDocumented c
  read_nil _ := rfl
  item_used h := by
    obtain ⟨header, s, n, hb, -, rfl, hlen, -, -⟩ := readDocumented_item h
    have hsize := parseBasicHeader_size hb
    exact ⟨by omega, hlen⟩
  item_append := readDocumented_append
  fail_append := readDocumented_fail_append

/-- The messages of a stream of chunks as the documents decode it. -/
def documentedMessages (c : UInt32) (buf : Bytes) : List RtmpMessage :=
  ((documented c).drain (fun _ => {}) buf).items.filterMap ChunkRecord.message

/-! ### The parser against the documents -/

/-- The parser's state of a chunk stream and the documented one, when the parser's timestamp
is off by `d`. -/
structure Mirrors (d : UInt32) (s : ChunkStreamState) (t : DocumentedStream) : Prop where
  timestamp : s.timestamp = t.timestamp + d
  delta : s.timestampDelta = t.delta
  extended : s.extendedTimestamp = t.extended.getD 0
  messageLength : s.messageLength = t.messageLength
  typeId : s.typeId = t.typeId
  messageStreamId : s.messageStreamId = t.messageStreamId
  opened : s.headerInitialized = t.opened
  bytesRead : s.bytesRead.toNat = (t.received.getD []).length
  payload : s.payload = match t.received with
    | none => []
    | some bs => bs ++ List.replicate (t.messageLength.toNat - bs.length) 0
  within : (t.received.getD []).length ≤ t.messageLength.toNat

/-- Between two chunks a message in progress is not complete. -/
def DocumentedStream.Resting (t : DocumentedStream) : Prop :=
  ∀ bs, t.received = some bs → bs.length < t.messageLength.toNat

/-- What a header adds to the parser's timestamp over what the documents add. A fmt=3 header
that repeats an empty message is not taken for the start of one, and one that continues a
message of which no byte has come yet (with chunk size 0) is. -/
def gain (fmt : UInt8) (t : DocumentedStream) : UInt32 :=
  if fmt = kChunkHeaderType3 then
    match t.received with
    | none => if t.messageLength = 0 then 0 - t.delta else 0
    | some bs => if bs = [] then t.delta else 0
  else 0

/-- How far the parser's timestamp is off behind a header; a fmt=0 header sets it right. -/
def offAfter (fmt : UInt8) (t : DocumentedStream) (d : UInt32) : UInt32 :=
  if fmt = kChunkHeaderType0 then 0 else d + gain fmt t

theorem timestampField_marked {base n : Nat} {data : Bytes} {v e : UInt32}
    (h : timestampField base data = some (v, e, n)) : e = (markedBy data v).getD 0 := by
  unfold timestampField at h
  unfold markedBy
  split at h
  · cases h
  · split at h
    · rename_i hmark
      split at h
      · cases h
      · cases h
        rw [if_pos hmark]
        rfl
    · rename_i hmark
      cases h
      rw [if_neg hmark]
      rfl

section Header

variable {data : Bytes} {fmt : UInt8} {d : UInt32} {s : ChunkStreamState}
  {t t' : DocumentedStream} {n : Nat}

/-- A malformed header is malformed for the parser, with the same error. -/
theorem mirrors_header_error {e : String} (h : Mirrors d s t)
    (hd : documentedHeader data fmt t = .error e) : parseMessageHeader data fmt s = .error e := by
  rw [documentedHeader_error_iff, ← h.opened] at hd
  exact parseMessageHeader_error_iff.mpr hd

/-- What the parser stores of the extended timestamp says whether the marker was there, unless
it is zero. -/
theorem Mirrors.extended_ne_zero (h : Mirrors d s t) (framed : t.extended ≠ some 0) :
    s.extendedTimestamp ≠ 0 ↔ t.extended ≠ none := by
  rw [h.extended]
  cases hext : t.extended with
  | none => simp
  | some e =>
      rw [hext] at framed
      simpa using framed

/-- A header that is not complete for the documents is not complete for the parser. -/
theorem mirrors_header_more (h : Mirrors d s t)
    (framed : fmt = kChunkHeaderType3 → t.extended ≠ some 0)
    (hd : documentedHeader data fmt t = .ok none) :
    ∃ s' n, parseMessageHeader data fmt s = .ok (s', n) ∧ ¬ HeaderDone fmt s' n := by
  have hdone {fmt : UInt8} {s : ChunkStreamState} (hfmt : fmt ≠ kChunkHeaderType3) :
      ¬ HeaderDone fmt s 0 := fun done => hfmt (headerDone_zero done).1
  rcases documentedHeader_ok_fmt hd with rfl | ⟨opened, rfl | rfl | rfl⟩
  · rw [documentedHeader_type0] at hd
    have hf := Option.map_eq_none_iff.mp (Except.ok.inj hd)
    rw [parseMessageHeader_type0, hf]
    exact ⟨_, _, rfl, hdone (by decide)⟩
  · rw [documentedHeader_type1 data opened] at hd
    have hf := Option.map_eq_none_iff.mp (Except.ok.inj hd)
    rw [parseMessageHeader_type1 data (h.opened.trans opened), hf]
    exact ⟨_, _, rfl, hdone (by decide)⟩
  · rw [documentedHeader_type2 data opened] at hd
    have hf := Option.map_eq_none_iff.mp (Except.ok.inj hd)
    rw [parseMessageHeader_type2 data (h.opened.trans opened), hf]
    exact ⟨_, _, rfl, hdone (by decide)⟩
  · cases hext : t.extended with
    | none =>
        rw [documentedHeader_unmarked data opened hext] at hd
        cases hd
    | some e =>
        have hmark : s.extendedTimestamp ≠ 0 :=
          (h.extended_ne_zero (framed rfl)).mpr (by rw [hext]; simp)
        rw [documentedHeader_marked data opened hext] at hd
        split at hd
        · rename_i hshort
          rw [parseMessageHeader_type3 data (h.opened.trans opened),
            if_neg fun hc => by have := hc.2; omega]
          refine ⟨_, _, rfl, fun done => hmark ?_⟩
          rw [← s.startAgain_extendedTimestamp]
          exact (headerDone_zero done).2
        · cases hd

/-- A fmt=3 header: the parser starts a message where it finds none of its bytes read. -/
theorem mirrors_continued (h : Mirrors d s t) (resting : t.Resting) :
    Mirrors (offAfter kChunkHeaderType3 t d) s.startAgain t.continued := by
  have hoff : offAfter kChunkHeaderType3 t d = d + gain kChunkHeaderType3 t := rfl
  obtain ⟨timestamp, delta, extended, messageLength, typeId, messageStreamId, opened, bytesRead,
    payload, within⟩ := h
  rw [hoff]
  unfold gain DocumentedStream.continued ChunkStreamState.startAgain
  rw [if_pos rfl]
  cases hreceived : t.received with
  | none =>
      rw [hreceived] at bytesRead payload
      have hread : s.bytesRead = 0 := UInt32.toNat_inj.mp bytesRead
      dsimp only
      by_cases hempty : t.messageLength = 0
      · -- an empty message again: the documents advance the timestamp
        have hlen : ¬ (s.bytesRead = 0 ∧ s.messageLength > 0) := by
          rw [messageLength, hempty]
          rintro ⟨-, hpos⟩
          exact absurd hpos (by decide)
        rw [if_neg hlen, if_pos hempty]
        refine ⟨?_, delta, extended, messageLength, typeId, messageStreamId, opened, bytesRead,
          ?_, Nat.zero_le _⟩
        · change s.timestamp = t.timestamp + t.delta + (d + (0 - t.delta))
          rw [timestamp]
          grind
        · change s.payload = [] ++ List.replicate (t.messageLength.toNat - 0) 0
          rw [payload, hempty]
          rfl
      · have hpos : s.messageLength > 0 := by
          rw [messageLength, gt_iff_lt, UInt32.lt_iff_toNat_lt]
          refine Nat.pos_of_ne_zero fun hzero => hempty ?_
          exact UInt32.toNat_inj.mp hzero
        have hstart : s.bytesRead = 0 ∧ s.messageLength > 0 := ⟨hread, hpos⟩
        rw [if_pos hstart, if_neg hempty]
        refine ⟨?_, delta, extended, messageLength, typeId, messageStreamId, opened, bytesRead,
          ?_, Nat.zero_le _⟩
        · change s.timestamp + s.timestampDelta = t.timestamp + t.delta + (d + 0)
          rw [timestamp, delta]
          grind
        · change List.replicate s.messageLength.toNat 0 =
            [] ++ List.replicate (t.messageLength.toNat - 0) 0
          rw [messageLength]
          rfl
  | some bs =>
      have hlt := resting bs hreceived
      rw [hreceived] at bytesRead payload within
      dsimp only
      cases bs with
      | nil =>
          -- no byte of the message has come yet: the parser starts it once more
          have hread : s.bytesRead = 0 := UInt32.toNat_inj.mp bytesRead
          have hpos : s.messageLength > 0 := by
            rw [messageLength, gt_iff_lt, UInt32.lt_iff_toNat_lt]
            exact hlt
          have hstart : s.bytesRead = 0 ∧ s.messageLength > 0 := ⟨hread, hpos⟩
          rw [if_pos hstart, if_pos rfl]
          refine ⟨?_, delta, extended, messageLength, typeId, messageStreamId, opened, ?_, ?_, ?_⟩
          · change s.timestamp + s.timestampDelta = t.timestamp + (d + t.delta)
            rw [timestamp, delta]
            grind
          · rw [hreceived]
            exact bytesRead
          · rw [hreceived]
            change List.replicate s.messageLength.toNat 0 =
              [] ++ List.replicate (t.messageLength.toNat - 0) 0
            rw [messageLength]
            rfl
          · rw [hreceived]
            exact within
      | cons b bs =>
          have hread : s.bytesRead ≠ 0 := by
            intro hzero
            rw [hzero] at bytesRead
            cases bytesRead
          have hgoes : ¬ (s.bytesRead = 0 ∧ s.messageLength > 0) := fun hc => hread hc.1
          rw [if_neg hgoes, if_neg (List.cons_ne_nil b bs), UInt32.add_zero]
          refine ⟨timestamp, delta, extended, messageLength, typeId, messageStreamId, opened,
            ?_, ?_, ?_⟩
          · rw [hreceived]
            exact bytesRead
          · rw [hreceived]
            exact payload
          · rw [hreceived]
            exact within

/-- A complete header leaves the parser's state the mirror of the documented one. -/
theorem mirrors_header (h : Mirrors d s t) (resting : t.Resting)
    (framed : fmt = kChunkHeaderType3 → t.extended ≠ some 0)
    (hd : documentedHeader data fmt t = .ok (some (t', n))) :
    ∃ s' bs, parseMessageHeader data fmt s = .ok (s', n) ∧ HeaderDone fmt s' n ∧
      s'.headerInitialized = true ∧ t'.received = some bs ∧ Mirrors (offAfter fmt t d) s' t' := by
  have hreceived : ∃ bs, t.continued.received = some bs := by
    unfold DocumentedStream.continued
    cases hr : t.received with
    | none => exact ⟨[], rfl⟩
    | some bs => exact ⟨bs, hr⟩
  have complete {s' : ChunkStreamState} {bs : Bytes} (hc : CompleteHeader data s fmt s' n)
      (init : s'.headerInitialized = true) (hbs : t'.received = some bs)
      (hnext : Mirrors (offAfter fmt t d) s' t') :
      ∃ s' bs, parseMessageHeader data fmt s = .ok (s', n) ∧ HeaderDone fmt s' n ∧
        s'.headerInitialized = true ∧ t'.received = some bs ∧
        Mirrors (offAfter fmt t d) s' t' :=
    ⟨s', bs, (completeHeader_iff.mp hc).1, (completeHeader_iff.mp hc).2, init, hbs, hnext⟩
  cases completeDocumented_iff.mpr hd with
  | type0 field =>
      have hsize := timestampField_size field
      have hlen : ¬ data.length < 11 := by omega
      refine complete (.type0 field) rfl rfl ?_
      simp only [ChunkStreamState.writeFull, if_neg hlen]
      exact ⟨(UInt32.add_zero _).symm, rfl, timestampField_marked field, rfl, rfl, rfl, rfl, rfl,
        rfl, Nat.zero_le _⟩
  | @type1 v _ _ opened field =>
      have hsize := timestampField_size field
      have hlen : ¬ data.length < 7 := by omega
      have hopened := h.opened.trans opened
      refine complete (.type1 hopened field) ?_ rfl ?_
      · simp only [ChunkStreamState.writeLength, if_neg hlen]
        exact hopened
      · simp only [ChunkStreamState.writeLength, if_neg hlen]
        refine ⟨?_, rfl, timestampField_marked field, rfl, rfl, h.messageStreamId, h.opened, rfl,
          rfl, Nat.zero_le _⟩
        change s.timestamp + v = t.timestamp + v + (d + 0)
        rw [h.timestamp]
        grind
  | @type2 v _ _ opened field =>
      have hopened := h.opened.trans opened
      refine complete (.type2 hopened field) hopened rfl ?_
      refine ⟨?_, rfl, timestampField_marked field, h.messageLength, h.typeId, h.messageStreamId,
        h.opened, rfl, ?_, Nat.zero_le _⟩
      · change s.timestamp + v = t.timestamp + v + (d + 0)
        rw [h.timestamp]
        grind
      · change List.replicate s.messageLength.toNat 0 = List.replicate t.messageLength.toNat 0
        rw [h.messageLength]
  | type3 opened unmarked =>
      have hopened := h.opened.trans opened
      obtain ⟨bs, hbs⟩ := hreceived
      have hzero : s.extendedTimestamp = 0 := by
        rw [h.extended, unmarked]
        rfl
      exact complete (.type3 hopened hzero) (s.startAgain_headerInitialized.trans hopened) hbs
        (mirrors_continued h resting)
  | type3Extended opened marked long =>
      have hopened := h.opened.trans opened
      obtain ⟨bs, hbs⟩ := hreceived
      have hmark : s.extendedTimestamp ≠ 0 :=
        (h.extended_ne_zero (framed rfl)).mpr (by rw [marked]; simp)
      exact complete (.type3Extended hopened hmark long)
        (s.startAgain_headerInitialized.trans hopened) hbs (mirrors_continued h resting)

theorem mirrors_chunkPayload (h : Mirrors d s t) (c : UInt32) :
    (chunkPayload c s).toNat = documentedPayload c t := by
  have hle : s.bytesRead ≤ s.messageLength := by
    rw [UInt32.le_iff_toNat_le, h.bytesRead, h.messageLength]
    exact h.within
  rw [toNat_chunkPayload hle, h.bytesRead, h.messageLength]
  rfl

/-- The next bytes of a payload move both on alike. -/
theorem mirrors_copyPayload (h : Mirrors d s t) {bs more : Bytes} {k : UInt32}
    (hreceived : t.received = some bs) (hmore : more.length = k.toNat)
    (fits : bs.length + more.length ≤ t.messageLength.toNat) :
    Mirrors d (s.copyPayload k more) { t with received := some (bs ++ more) } := by
  obtain ⟨timestamp, delta, extended, messageLength, typeId, messageStreamId, opened, bytesRead,
    payload, within⟩ := h
  rw [hreceived] at bytesRead payload within
  change s.bytesRead.toNat = bs.length at bytesRead
  have hlt := t.messageLength.toNat_lt
  refine ⟨timestamp, delta, extended, messageLength, typeId, messageStreamId, opened, ?_, ?_, ?_⟩
  · change (s.bytesRead + k).toNat = (bs ++ more).length
    rw [UInt32.toNat_add, bytesRead, List.length_append]
    omega
  · change s.payload.take s.bytesRead.toNat ++ more ++
        s.payload.drop (s.bytesRead.toNat + k.toNat) =
      bs ++ more ++ List.replicate (t.messageLength.toNat - (bs ++ more).length) 0
    rw [payload, bytesRead, List.take_left, List.drop_append, List.drop_eq_nil_of_le (by omega),
      List.drop_replicate, List.nil_append, List.length_append]
    congr 2
    omega
  · change (bs ++ more).length ≤ t.messageLength.toNat
    rw [List.length_append]
    exact fits

section Payload

variable {payload : Bytes}

/-- With the last byte of the payload the parser emits the documented message, off by `d`. -/
theorem Mirrors.completed (h : Mirrors d s { t with received := some payload })
    (hend : payload.length = t.messageLength.toNat) (csid : UInt32) :
    s.bytesRead = s.messageLength ∧ s.message csid = (t.message csid payload).bump d ∧
      Mirrors d { s with bytesRead := 0, payload := [] } { t with received := none } := by
  have hlength : s.messageLength = t.messageLength := h.messageLength
  refine ⟨?_, ?_, ?_⟩
  · apply UInt32.toNat_inj.mp
    rw [h.bytesRead, hlength, ← hend]
    rfl
  · have hall : s.payload = payload := by
      rw [h.payload]
      change payload ++ List.replicate (t.messageLength.toNat - payload.length) 0 = payload
      rw [hend, Nat.sub_self]
      exact List.append_nil payload
    unfold ChunkStreamState.message DocumentedStream.message RtmpMessage.bump
    rw [h.timestamp, hlength, h.typeId, h.messageStreamId, hall]
  · exact ⟨h.timestamp, h.delta, h.extended, hlength, h.typeId, h.messageStreamId, h.opened, rfl,
      rfl, Nat.zero_le _⟩

theorem Mirrors.unfinished (h : Mirrors d s { t with received := some payload })
    (hend : payload.length ≠ t.messageLength.toNat) :
    s.bytesRead ≠ s.messageLength ∧
      DocumentedStream.Resting { t with received := some payload } := by
  have hlength : s.messageLength = t.messageLength := h.messageLength
  constructor
  · intro heq
    apply hend
    rw [← hlength, ← heq, h.bytesRead]
    rfl
  · intro bs hbs
    cases hbs
    exact Nat.lt_of_le_of_ne h.within hend

end Payload

end Header

/-! ### Chunk by chunk -/

/-- The documents and the parser agree on the size of the header at the front of the buffer:
it is not a fmt=3 header behind an extended timestamp of zero. -/
def FrontFramed (streams : UInt32 → DocumentedStream) (buf : Bytes) : Prop :=
  ∀ header ∈ parseBasicHeader buf, header.fmt = kChunkHeaderType3 →
    (streams header.csid).extended ≠ some 0

instance (streams : UInt32 → DocumentedStream) (buf : Bytes) :
    Decidable (FrontFramed streams buf) := by
  unfold FrontFramed; infer_instance

/-- How far the parser's timestamps are off behind a chunk. -/
def ledger (streams : UInt32 → DocumentedStream) (D : UInt32 → UInt32) (r : ChunkRecord) :
    UInt32 → UInt32 :=
  Function.update D r.csid (offAfter r.fmt (streams r.csid) (D r.csid))

section Chunk

variable {c : UInt32} {D : UInt32 → UInt32} {p : RtmpChunkParser}
  {q : UInt32 → DocumentedStream} {buf : Bytes}

/-- The parser and the documented decoder stand at the same place of the stream. -/
structure InStep (c : UInt32) (D : UInt32 → UInt32) (p : RtmpChunkParser)
    (q : UInt32 → DocumentedStream) : Prop where
  size : p.inChunkSize = c
  mirrors : ∀ csid, Mirrors (D csid) (p.chunkStreams csid) (q csid)
  resting : ∀ csid, (q csid).Resting

theorem inStep_fresh (c : UInt32) :
    InStep c (fun _ => 0) (({} : RtmpChunkParser).setInChunkSize c) (fun _ => {}) where
  size := rfl
  mirrors _ := ⟨rfl, rfl, rfl, rfl, rfl, rfl, rfl, rfl, rfl, Nat.le_refl 0⟩
  resting _ := by
    intro bs h
    cases h

theorem InStep.set (h : InStep c D p q) {csid d : UInt32} {s : ChunkStreamState}
    {t : DocumentedStream} (mirrors : Mirrors d s t) (resting : t.Resting) :
    InStep c (Function.update D csid d) (p.setStream csid s) (Function.update q csid t) where
  size := h.size
  mirrors j := by
    by_cases hj : j = csid
    · subst hj
      simpa [RtmpChunkParser.setStream] using mirrors
    · simpa [RtmpChunkParser.setStream, Function.update_of_ne hj] using h.mirrors j
  resting j := by
    by_cases hj : j = csid
    · subst hj
      simpa using resting
    · simpa [Function.update_of_ne hj] using h.resting j

/-- **Chunk by chunk**, the parser reads what the documents say, with a timestamp that is off as
the ledger tells. -/
theorem readChunk_documented (h : InStep c D p q) (framed : FrontFramed q buf) :
    match readDocumented c q buf with
    | .more => readChunk p buf = .more
    | .fail e => readChunk p buf = .fail e
    | .item used q' r => ∃ p', readChunk p buf = .item used p' (r.bump (ledger q D r r.csid)) ∧
        InStep c (ledger q D r) p' q' := by
  unfold readDocumented readChunk
  cases hb : parseBasicHeader buf with
  | none => rfl
  | some header =>
      have hmirrors := h.mirrors header.csid
      have hframed := framed header hb
      dsimp only
      cases hd : documentedHeader (buf.drop header.size) header.fmt (q header.csid) with
      | error e => rw [mirrors_header_error hmirrors hd]
      | ok o =>
          cases o with
          | none =>
              obtain ⟨s, n, hm, hdone⟩ := mirrors_header_more hmirrors hframed hd
              dsimp only
              rw [hm]
              exact if_neg fun hc => hdone hc.1
          | some sn =>
              obtain ⟨t, n⟩ := sn
              obtain ⟨s, bs, hm, hdone, hinit, hreceived, hnext⟩ :=
                mirrors_header hmirrors (h.resting header.csid) hframed hd
              have hpayload := mirrors_chunkPayload hnext c
              have hsize := h.size
              dsimp only
              rw [hm]
              dsimp only
              rw [hsize]
              by_cases hlen : buf.length < header.size + n + documentedPayload c t
              · have hc : ¬ ChunkComplete p header s n buf := by
                  rintro ⟨-, -, hfits⟩
                  rw [hsize, hpayload] at hfits
                  omega
                rw [if_pos hlen, if_neg hc]
              · have hc : ChunkComplete p header s n buf := by
                  refine ⟨hdone, hinit, ?_⟩
                  rw [hsize, hpayload]
                  omega
                have hmore : ((buf.drop (header.size + n)).take (documentedPayload c t)).length =
                    documentedPayload c t := by
                  rw [List.length_take, List.length_drop]
                  omega
                rw [if_neg hlen, if_pos hc, hreceived, Option.getD_some]
                generalize hbytes : (buf.drop (header.size + n)).take (documentedPayload c t) =
                  more at hmore
                have hfits : bs.length + more.length ≤ t.messageLength.toNat := by
                  have hwithin := hnext.within
                  rw [hreceived, Option.getD_some] at hwithin
                  rw [hmore, documentedPayload, hreceived, Option.getD_some]
                  omega
                have hcopy := mirrors_copyPayload hnext hreceived (hmore.trans hpayload.symm) hfits
                unfold takeChunk
                dsimp only
                rw [hsize, hpayload, hbytes]
                generalize s.copyPayload (chunkPayload c s) more = s' at hcopy
                by_cases hend : (bs ++ more).length = t.messageLength.toNat
                · obtain ⟨hcomplete, hmessage, hrested⟩ := hcopy.completed hend header.csid
                  rw [if_pos hend, if_pos hcomplete, hmessage]
                  refine ⟨_, by simp [ChunkRecord.bump, ledger], h.set hrested ?_⟩
                  intro bs' hbs'
                  cases hbs'
                · obtain ⟨hmissing, hresting⟩ := hcopy.unfinished hend
                  rw [if_neg hend, if_neg hmissing]
                  exact ⟨_, rfl, h.set hcopy hresting⟩

/-! ### Whole streams -/

/-- No fmt=3 header stands behind an extended timestamp of zero. -/
def Framed (c : UInt32) (q : UInt32 → DocumentedStream) (buf : Bytes) : Prop :=
  ∀ position ∈ (documented c).positions q buf, FrontFramed position.1 position.2

instance (c : UInt32) (q : UInt32 → DocumentedStream) (buf : Bytes) :
    Decidable (Framed c q buf) := by
  unfold Framed; infer_instance

/-- No message completes on a csid whose timestamp is off. -/
inductive OnTime (c : UInt32) : (UInt32 → UInt32) → (UInt32 → DocumentedStream) → Bytes → Prop where
  | stop {D : UInt32 → UInt32} {q : UInt32 → DocumentedStream} {buf : Bytes}
      (last : ∀ used q' r, readDocumented c q buf ≠ .item used q' r) : OnTime c D q buf
  | next {D : UInt32 → UInt32} {q q' : UInt32 → DocumentedStream} {buf : Bytes} {used : Nat}
      {r : ChunkRecord} (read : readDocumented c q buf = .item used q' r)
      (timely : r.message.isSome → ledger q D r r.csid = 0)
      (rest : OnTime c (ledger q D r) q' (buf.drop used)) : OnTime c D q buf

theorem onTime_iff_next {q' : UInt32 → DocumentedStream} {used : Nat} {r : ChunkRecord}
    (read : readDocumented c q buf = .item used q' r) :
    OnTime c D q buf ↔
      (r.message.isSome → ledger q D r r.csid = 0) ∧
        OnTime c (ledger q D r) q' (buf.drop used) := by
  constructor
  · intro h
    cases h with
    | stop last => exact absurd read (last used q' r)
    | next read' timely rest =>
        obtain ⟨rfl, rfl, rfl⟩ := Reading.item.inj (read.symm.trans read')
        exact ⟨timely, rest⟩
  · rintro ⟨timely, rest⟩
    exact .next read timely rest

/-- The messages of one chunk and of those behind it, as the parser and as the documents have
them. -/
theorem messages_cons_iff {r : ChunkRecord} {d : UInt32} {rs rs' : List ChunkRecord} :
    ((r.bump d) :: rs).filterMap ChunkRecord.message = (r :: rs').filterMap ChunkRecord.message ↔
      (r.message.isSome → d = 0) ∧
        rs.filterMap ChunkRecord.message = rs'.filterMap ChunkRecord.message := by
  cases hr : r.message with
  | none => simp [ChunkRecord.bump, hr]
  | some m => simp [ChunkRecord.bump, hr, RtmpMessage.bump_eq_self]

/-- Over a whole stream the parser reads the documented chunks, and its messages are the
documented ones when none of them is off. -/
theorem drain_documented (h : InStep c D p q) (framed : Framed c q buf) :
    (chunkReader.drain p buf).rest = ((documented c).drain q buf).rest ∧
      (chunkReader.drain p buf).error = ((documented c).drain q buf).error ∧
      ((chunkReader.drain p buf).items.filterMap ChunkRecord.message =
          ((documented c).drain q buf).items.filterMap ChunkRecord.message ↔ OnTime c D q buf) := by
  induction q, buf using (documented c).drain_induction generalizing D p with
  | more q buf read =>
      have hchunk := readChunk_documented h (framed _ (Reader.mem_positions_self q buf))
      rw [show readDocumented c q buf = .more from read] at hchunk
      have stopped : OnTime c D q buf := .stop fun used q' r hitem => by
        cases hitem.symm.trans read
      rw [Reader.drain_of_more (R := chunkReader) hchunk, Reader.drain_of_more read]
      exact ⟨rfl, rfl, by simpa using stopped⟩
  | fail q buf e read =>
      have hchunk := readChunk_documented h (framed _ (Reader.mem_positions_self q buf))
      rw [show readDocumented c q buf = .fail e from read] at hchunk
      have stopped : OnTime c D q buf := .stop fun used q' r hitem => by
        cases hitem.symm.trans read
      rw [Reader.drain_of_fail (R := chunkReader) hchunk, Reader.drain_of_fail read]
      exact ⟨rfl, rfl, by simpa using stopped⟩
  | item q buf used q' r read ih =>
      have hchunk := readChunk_documented h (framed _ (Reader.mem_positions_self q buf))
      rw [show readDocumented c q buf = .item used q' r from read] at hchunk
      obtain ⟨p', hread, hnext⟩ := hchunk
      have framed' : Framed c q' (buf.drop used) := by
        intro position hposition
        apply framed
        rw [Reader.positions_of_item read]
        exact List.mem_cons_of_mem _ hposition
      obtain ⟨hrest, herror, hmessages⟩ := ih hnext framed'
      rw [Reader.drain_of_item (R := chunkReader) hread, Reader.drain_of_item read]
      refine ⟨hrest, herror, ?_⟩
      rw [Drained.prepend_items, Drained.prepend_items, List.singleton_append,
        List.singleton_append, messages_cons_iff, hmessages, onTime_iff_next read]

end Chunk

/-- **The parser implements the documented format** on every stream of chunks in which no fmt=3
header stands behind an extended timestamp of zero, exactly when no message is off. -/
theorem parse_documented_iff (c : UInt32) (buf : Bytes) (framed : Framed c (fun _ => {}) buf) :
    (parse (({} : RtmpChunkParser).setInChunkSize c) buf).messages = documentedMessages c buf ↔
      OnTime c (fun _ => 0) (fun _ => {}) buf := by
  rw [parse_eq_drain]
  exact (drain_documented (inStep_fresh c) framed).2.2

/-- Two audio messages on csid 3, the second of three bytes, in two chunks behind a fmt=2
header. -/
theorem parse_documented_delta :
    (parse (({} : RtmpChunkParser).setInChunkSize 2)
        [0x03, 0, 0, 40, 0, 0, 3, 8, 1, 0, 0, 0, 7, 8, 0xC3, 9, 0x83, 0, 0, 10, 4, 5, 0xC3,
          6]).messages =
        documentedMessages 2 [0x03, 0, 0, 40, 0, 0, 3, 8, 1, 0, 0, 0, 7, 8, 0xC3, 9, 0x83, 0, 0, 10,
          4, 5, 0xC3, 6] ↔
      OnTime 2 (fun _ => 0) (fun _ => {}) [0x03, 0, 0, 40, 0, 0, 3, 8, 1, 0, 0, 0, 7, 8, 0xC3, 9,
        0x83, 0, 0, 10, 4, 5, 0xC3, 6] :=
  parse_documented_iff 2 _ (by decide +kernel)

/-- An empty audio message on csid 3, one 10 later behind a fmt=2 header, and a third behind a
fmt=3 header. -/
def repeatedEmpty : Bytes :=
  [0x03, 0, 0, 0, 0, 0, 0, 8, 1, 0, 0, 0, 0x83, 0, 0, 10, 0xC3]

/-- An audio message of three bytes in chunks of two, at an extended timestamp of zero. -/
def extendedZero : Bytes :=
  [0x03, 0xFF, 0xFF, 0xFF, 0, 0, 3, 8, 1, 0, 0, 0, 0, 0, 0, 0, 7, 8, 0xC3, 0, 0, 0, 0, 9]

/-- The third empty message has the timestamp of the second, and the last byte of the other
message is one of its extended timestamp. -/
theorem parse_undocumented :
    (parse (({} : RtmpChunkParser).setInChunkSize 2) repeatedEmpty).messages.map (·.timestamp) =
        [0, 10, 10] ∧
      (documentedMessages 2 repeatedEmpty).map (·.timestamp) = [0, 10, 20] ∧
      (parse (({} : RtmpChunkParser).setInChunkSize 2) extendedZero).messages.map (·.payload) =
        [[7, 8, 0]] ∧
      (documentedMessages 2 extendedZero).map (·.payload) = [[7, 8, 9]] := by
  decide +kernel

/-- Two empty messages at an extended timestamp of zero, with four zero bytes behind the fmt=3
header: the parser takes the second message without them and waits for the rest of a header.
The condition on fmt=3 headers cannot be read off the messages alone. -/
theorem parse_unframed :
    ¬ Framed 2 (fun _ => {}) [0x03, 0xFF, 0xFF, 0xFF, 0, 0, 0, 8, 1, 0, 0, 0, 0, 0, 0, 0, 0xC3, 0,
        0, 0, 0] ∧
      (parse (({} : RtmpChunkParser).setInChunkSize 2) [0x03, 0xFF, 0xFF, 0xFF, 0, 0, 0, 8, 1, 0, 0,
        0, 0, 0, 0, 0, 0xC3, 0, 0, 0, 0]).messages =
        documentedMessages 2 [0x03, 0xFF, 0xFF, 0xFF, 0, 0, 0, 8, 1, 0, 0, 0, 0, 0, 0, 0, 0xC3, 0,
          0, 0, 0] := by
  decide +kernel

end Rmuduo.Rtmp
