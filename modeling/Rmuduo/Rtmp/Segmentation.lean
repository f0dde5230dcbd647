/-
How the segmentation of a stream reaches the timestamps.

`parseMessageHeader` writes the header of a chunk before the chunk is complete, and
the next call of `parse` reads the same header again. For every field but one this
is idempotent. The exception is `timestamp`: a header that advances it (fmt=1,
fmt=2, and fmt=3 at the start of a message) advances it once more on every call
that finds its chunk incomplete.

The module measures that drift. `shift D` displaces the timestamp of every csid by
`D`; a parser that has been fed in segments is always a displaced copy of the
whole-chunk reader's state, and `DriftFree` is the ledger of the displacement.

* `parseMessageHeader_again` — reading a header again after its first reading
  touched the state adds `headerAdvance` to the timestamp and changes nothing else.
* `readChunk_shift` — a displaced parser reads the same chunks, with displaced
  timestamps; a fmt=0 header ends the displacement of its csid.
* `feed_untimed` — however a stream is cut, the messages are the same up to their
  timestamps, and so are the unread bytes and the error.
* `feed_eq_parse_iff` — the cut leaves no trace at all exactly when the ledger
  balances.
-/

import Rmuduo.Rtmp.ChunkReader

namespace Rmuduo.Rtmp

open Lib

/-! ### Displaced timestamps -/

namespace ChunkStreamState

/-- The same state with its timestamp moved on by `d`. -/
def bump (d : UInt32) (s : ChunkStreamState) : ChunkStreamState :=
  { s with timestamp := s.timestamp + d }

@[simp] theorem bump_zero (s : ChunkStreamState) : s.bump 0 = s := by
  simp [bump]

theorem bump_bump (d e : UInt32) (s : ChunkStreamState) :
    (s.bump d).bump e = s.bump (d + e) := by
  simp [bump, UInt32.add_assoc]

@[simp] theorem bump_headerInitialized (d : UInt32) (s : ChunkStreamState) :
    (s.bump d).headerInitialized = s.headerInitialized := rfl

@[simp] theorem bump_bytesRead (d : UInt32) (s : ChunkStreamState) :
    (s.bump d).bytesRead = s.bytesRead := rfl

@[simp] theorem bump_messageLength (d : UInt32) (s : ChunkStreamState) :
    (s.bump d).messageLength = s.messageLength := rfl

theorem bump_eq_self {d : UInt32} {s : ChunkStreamState} : s.bump d = s ↔ d = 0 := by
  constructor
  · intro h
    have hts : s.timestamp + d = s.timestamp := congrArg ChunkStreamState.timestamp h
    exact UInt32.add_eq_left.mp hts
  · rintro rfl
    exact s.bump_zero

/-- An absolute timestamp ends the displacement. -/
theorem startFull_bump (d e v : UInt32) (data : Bytes) (s : ChunkStreamState) :
    ((s.bump d).writeFull data).startFull e v = (s.writeFull data).startFull e v := by
  unfold writeFull
  split <;> rfl

theorem writeFull_bump (d : UInt32) (data : Bytes) (s : ChunkStreamState) :
    (s.bump d).writeFull data = (s.writeFull data).bump d := by
  unfold writeFull
  split <;> rfl

theorem writeLength_bump (d : UInt32) (data : Bytes) (s : ChunkStreamState) :
    (s.bump d).writeLength data = (s.writeLength data).bump d := by
  unfold writeLength
  split <;> rfl

theorem startDelta_bump (d e v : UInt32) (s : ChunkStreamState) :
    (s.bump d).startDelta e v = (s.startDelta e v).bump d := by
  simp only [startDelta, bump, assignPayload, ChunkStreamState.mk.injEq, and_true]
  grind

theorem startAgain_bump (d : UInt32) (s : ChunkStreamState) :
    (s.bump d).startAgain = s.startAgain.bump d := by
  by_cases h : s.bytesRead = 0 ∧ s.messageLength > 0
  · have hts : s.timestamp + d + s.timestampDelta = s.timestamp + s.timestampDelta + d := by
      grind
    simp [startAgain, h, bump, assignPayload, hts]
  · simp [startAgain, h]

@[simp] theorem copyPayload_bump (d n : UInt32) (data : Bytes) (s : ChunkStreamState) :
    (s.bump d).copyPayload n data = (s.copyPayload n data).bump d := rfl

/-- Writing a fixed part twice is writing it once. -/
theorem writeLength_again {data : Bytes} (s : ChunkStreamState) (ys : Bytes) :
    (s.writeLength data).writeLength (data ++ ys) = s.writeLength (data ++ ys) := by
  unfold writeLength
  by_cases h : data.length < 7
  · rw [if_pos h]
  · have h' : ¬ (data ++ ys).length < 7 := by simp only [List.length_append]; omega
    simp only [if_neg h, if_neg h']

theorem writeFull_again {data : Bytes} (s : ChunkStreamState) (ys : Bytes) :
    (s.writeFull data).writeFull (data ++ ys) = s.writeFull (data ++ ys) := by
  unfold writeFull
  by_cases h : data.length < 11
  · rw [if_pos h]
  · have h' : ¬ (data ++ ys).length < 11 := by simp only [List.length_append]; omega
    simp only [if_neg h, if_neg h']

end ChunkStreamState

/-- The same message, `d` later. -/
def RtmpMessage.bump (d : UInt32) (m : RtmpMessage) : RtmpMessage :=
  { m with timestamp := m.timestamp + d }

/-- A message without its timestamp. -/
def RtmpMessage.untimed (m : RtmpMessage) : RtmpMessage := { m with timestamp := 0 }

@[simp] theorem RtmpMessage.untimed_bump (d : UInt32) (m : RtmpMessage) :
    (m.bump d).untimed = m.untimed := rfl

theorem RtmpMessage.bump_eq_self {d : UInt32} {m : RtmpMessage} : m.bump d = m ↔ d = 0 := by
  constructor
  · intro h
    have hts : m.timestamp + d = m.timestamp := congrArg RtmpMessage.timestamp h
    exact UInt32.add_eq_left.mp hts
  · rintro rfl
    simp [RtmpMessage.bump]

/-- The parser with the timestamp of every csid displaced by `D`. -/
def shift (D : UInt32 → UInt32) (p : RtmpChunkParser) : RtmpChunkParser :=
  { p with chunkStreams := fun csid => (p.chunkStreams csid).bump (D csid) }

@[simp] theorem shift_zero (p : RtmpChunkParser) : shift (fun _ => 0) p = p := by
  simp [shift]

theorem shift_eq_self {D : UInt32 → UInt32} {p : RtmpChunkParser} :
    shift D p = p ↔ ∀ csid, D csid = 0 := by
  constructor
  · intro h csid
    have hs : (p.chunkStreams csid).bump (D csid) = p.chunkStreams csid :=
      congrArg (fun q : RtmpChunkParser => q.chunkStreams csid) h
    exact ChunkStreamState.bump_eq_self.mp hs
  · intro h
    have hD : D = fun _ => 0 := funext h
    rw [hD, shift_zero]

theorem shift_setStream (D : UInt32 → UInt32) (p : RtmpChunkParser) (csid d : UInt32)
    (s : ChunkStreamState) :
    (shift D p).setStream csid (s.bump d) =
      shift (Function.update D csid d) (p.setStream csid s) := by
  simp only [shift, RtmpChunkParser.setStream, RtmpChunkParser.mk.injEq, true_and]
  funext i
  by_cases hi : i = csid
  · subst hi
    simp
  · simp [Function.update_of_ne hi]

/-! ### A header read from a displaced state, and a header read again -/

/-- What one reading of a header adds to the timestamp, once the header is complete
or is a fmt=3 header. -/
def headerAdvance (data : Bytes) (fmt : UInt8) (s : ChunkStreamState) : UInt32 :=
  if s.headerInitialized = false then 0
  else if fmt = kChunkHeaderType1 then ((timestampField 7 data).map (·.1)).getD 0
  else if fmt = kChunkHeaderType2 then ((timestampField 3 data).map (·.1)).getD 0
  else if fmt = kChunkHeaderType3 ∧ s.bytesRead = 0 ∧ s.messageLength > 0 then s.timestampDelta
  else 0

/-- A complete fmt=0 header carries an absolute timestamp. -/
def absolute (fmt : UInt8) (data : Bytes) : Prop :=
  fmt = kChunkHeaderType0 ∧ (timestampField 11 data).isSome

instance (fmt : UInt8) (data : Bytes) : Decidable (absolute fmt data) := by
  unfold absolute; infer_instance

/-- A header read from a displaced state: the displacement survives unless the header
carries an absolute timestamp. -/
theorem parseMessageHeader_bump (data : Bytes) (fmt : UInt8) (d : UInt32)
    (s : ChunkStreamState) :
    parseMessageHeader data fmt (s.bump d) =
      (parseMessageHeader data fmt s).map
        (fun r => (r.1.bump (if absolute fmt data then 0 else d), r.2)) := by
  cases h : parseMessageHeader data fmt s with
  | error e =>
      have hwrong : headerError fmt (s.bump d).headerInitialized = some e := by
        rw [s.bump_headerInitialized]
        exact parseMessageHeader_error_iff.mp h
      rw [parseMessageHeader_headerError data hwrong]
      rfl
  | ok r =>
      rw [← h]
      rcases parseMessageHeader_ok_fmt h with rfl | ⟨init, rfl | rfl | rfl⟩
      · rw [parseMessageHeader_type0, parseMessageHeader_type0]
        cases hf : timestampField 11 data with
        | none => simp [absolute, hf, Except.map, ChunkStreamState.writeFull_bump]
        | some q => simp [absolute, hf, Except.map, ChunkStreamState.startFull_bump]
      · have habs : ¬ absolute kChunkHeaderType1 data := fun h => absurd h.1 (by decide)
        rw [parseMessageHeader_type1 data (by simpa using init),
          parseMessageHeader_type1 data init, if_neg habs]
        cases hf : timestampField 7 data with
        | none => simp [Except.map, ChunkStreamState.writeLength_bump]
        | some q =>
            simp [Except.map, ChunkStreamState.writeLength_bump,
              ChunkStreamState.startDelta_bump]
      · have habs : ¬ absolute kChunkHeaderType2 data := fun h => absurd h.1 (by decide)
        rw [parseMessageHeader_type2 data (by simpa using init),
          parseMessageHeader_type2 data init, if_neg habs]
        cases hf : timestampField 3 data with
        | none => simp [Except.map]
        | some q => simp [Except.map, ChunkStreamState.startDelta_bump]
      · have habs : ¬ absolute kChunkHeaderType3 data := fun h => absurd h.1 (by decide)
        rw [parseMessageHeader_type3 data (by simpa using init),
          parseMessageHeader_type3 data init, if_neg habs, ChunkStreamState.startAgain_bump]
        rfl

theorem startDelta_again (s : ChunkStreamState) (e v : UInt32) :
    (s.startDelta e v).startDelta e v = (s.bump v).startDelta e v := by
  simp [ChunkStreamState.startDelta, ChunkStreamState.bump, ChunkStreamState.assignPayload]

/-- **A header read again.** Once a first reading has touched the state, reading the
header with more bytes behind it gives what the untouched state gives, with the
timestamp advanced once more. -/
theorem parseMessageHeader_again {data : Bytes} {fmt : UInt8} {s s' : ChunkStreamState}
    {n : Nat} (h : parseMessageHeader data fmt s = .ok (s', n)) (ys : Bytes) :
    parseMessageHeader (data ++ ys) fmt s' =
      parseMessageHeader (data ++ ys) fmt (s.bump (headerAdvance data fmt s)) := by
  rcases parseMessageHeader_ok_fmt h with rfl | ⟨init, rfl | rfl | rfl⟩
  · have hadv : headerAdvance data kChunkHeaderType0 s = 0 := by
      simp [headerAdvance, kChunkHeaderType0, kChunkHeaderType1, kChunkHeaderType2,
        kChunkHeaderType3]
    rw [parseMessageHeader_type0] at h
    rw [hadv, ChunkStreamState.bump_zero, parseMessageHeader_type0, parseMessageHeader_type0]
    cases hf : timestampField 11 data with
    | none =>
        rw [hf] at h
        cases h
        rw [ChunkStreamState.writeFull_again]
    | some r =>
        obtain ⟨v, e, k⟩ := r
        have hsize := timestampField_size hf
        rw [hf] at h
        cases h
        have hlen : ¬ data.length < 11 := by omega
        rw [timestampField_append (by omega) hf]
        simp only [ChunkStreamState.writeFull_append (by omega : 11 ≤ data.length)]
        simp only [ChunkStreamState.writeFull, if_neg hlen]
        rfl
  · have hadv : headerAdvance data kChunkHeaderType1 s =
        ((timestampField 7 data).map (·.1)).getD 0 := by
      simp [headerAdvance, init]
    rw [parseMessageHeader_type1 data init] at h
    rw [hadv]
    cases hf : timestampField 7 data with
    | none =>
        rw [hf] at h
        cases h
        have init' : (s.writeLength data).headerInitialized = true := by
          unfold ChunkStreamState.writeLength
          split <;> exact init
        rw [Option.map_none, Option.getD_none, ChunkStreamState.bump_zero,
          parseMessageHeader_type1 _ init', parseMessageHeader_type1 _ init,
          ChunkStreamState.writeLength_again]
    | some r =>
        obtain ⟨v, e, k⟩ := r
        have hsize := timestampField_size hf
        have hlen : ¬ data.length < 7 := by omega
        rw [hf] at h
        cases h
        have init' : ((s.writeLength data).startDelta e v).headerInitialized = true := by
          simpa [ChunkStreamState.startDelta, ChunkStreamState.assignPayload,
            ChunkStreamState.writeLength, hlen] using init
        rw [parseMessageHeader_type1 _ init', parseMessageHeader_type1 _ (by simpa using init),
          timestampField_append (by omega) hf]
        simp only [ChunkStreamState.writeLength_append (by omega : 7 ≤ data.length),
          Option.map_some, Option.getD_some, Except.ok.injEq, Prod.mk.injEq, and_true]
        rw [ChunkStreamState.writeLength_bump, ← startDelta_again]
        simp only [ChunkStreamState.writeLength, if_neg hlen]
        rfl
  · have hadv : headerAdvance data kChunkHeaderType2 s =
        ((timestampField 3 data).map (·.1)).getD 0 := by
      simp [headerAdvance, init, kChunkHeaderType2, kChunkHeaderType1]
    rw [parseMessageHeader_type2 data init] at h
    rw [hadv]
    cases hf : timestampField 3 data with
    | none =>
        rw [hf] at h
        cases h
        rw [Option.map_none, Option.getD_none, ChunkStreamState.bump_zero]
    | some r =>
        obtain ⟨v, e, k⟩ := r
        rw [hf] at h
        cases h
        have init' : (s.startDelta e v).headerInitialized = true := init
        rw [parseMessageHeader_type2 _ init', parseMessageHeader_type2 _ (by simpa using init),
          timestampField_append (by omega) hf]
        simp only [Option.map_some, Option.getD_some, startDelta_again]
  · rw [parseMessageHeader_type3 data init] at h
    cases h
    by_cases hstart : s.bytesRead = 0 ∧ s.messageLength > 0
    · have hadv : headerAdvance data kChunkHeaderType3 s = s.timestampDelta := by
        simp [headerAdvance, init, kChunkHeaderType3, kChunkHeaderType1, kChunkHeaderType2,
          hstart]
      have init' : s.startAgain.headerInitialized = true := by
        simpa [ChunkStreamState.startAgain, hstart, ChunkStreamState.assignPayload] using init
      rw [hadv, parseMessageHeader_type3 _ init', parseMessageHeader_type3 _ (by simpa using init)]
      simp [ChunkStreamState.startAgain, hstart, ChunkStreamState.assignPayload,
        ChunkStreamState.bump]
    · have hadv : headerAdvance data kChunkHeaderType3 s = 0 := by
        simp [headerAdvance, init, kChunkHeaderType3, kChunkHeaderType1, kChunkHeaderType2,
          hstart]
      have hsame : s.startAgain = s := by
        simp [ChunkStreamState.startAgain, hstart]
      rw [hadv, ChunkStreamState.bump_zero, hsame]

/-! ### Chunks read from a displaced parser -/

/-- What a chunk leaves of a displacement. -/
def ChunkRecord.carry (r : ChunkRecord) (D : UInt32 → UInt32) : UInt32 → UInt32 :=
  if r.fmt = kChunkHeaderType0 then Function.update D r.csid 0 else D

/-- The same chunk, with the message that it completed `d` later. -/
def ChunkRecord.bump (d : UInt32) (r : ChunkRecord) : ChunkRecord :=
  { r with message := r.message.map (RtmpMessage.bump d) }

theorem absolute_of_headerDone {data : Bytes} {fmt : UInt8} {s s' : ChunkStreamState} {n : Nat}
    (h : parseMessageHeader data fmt s = .ok (s', n)) (done : HeaderDone fmt s' n) :
    absolute fmt data ↔ fmt = kChunkHeaderType0 := by
  refine ⟨And.left, ?_⟩
  rintro rfl
  refine ⟨rfl, ?_⟩
  rw [parseMessageHeader_type0] at h
  cases hf : timestampField 11 data with
  | some r => rfl
  | none =>
      rw [hf] at h
      cases h
      rcases done with hn | hfmt
      · exact absurd rfl hn
      · exact absurd hfmt.1 (by decide)

theorem takeChunk_shift (D : UInt32 → UInt32) (p : RtmpChunkParser) (csid d : UInt32)
    (state : ChunkStreamState) (buf : Bytes) (offset : Nat) :
    takeChunk (shift D p) csid (state.bump d) buf offset =
      { parser := shift (Function.update D csid d) (takeChunk p csid state buf offset).parser
        buf := (takeChunk p csid state buf offset).buf
        message := (takeChunk p csid state buf offset).message.map (RtmpMessage.bump d) } := by
  have hn : chunkPayload (shift D p).inChunkSize (state.bump d) =
      chunkPayload p.inChunkSize state := rfl
  unfold takeChunk
  simp only [hn, ChunkStreamState.copyPayload_bump, ChunkStreamState.bump_bytesRead,
    ChunkStreamState.bump_messageLength]
  split
  · rw [← shift_setStream]
    rfl
  · rw [← shift_setStream]
    rfl

/-- A displaced parser reads the same chunks. -/
theorem readChunk_shift (D : UInt32 → UInt32) (p : RtmpChunkParser) (buf : Bytes) :
    readChunk (shift D p) buf =
      match readChunk p buf with
      | .more => .more
      | .fail e => .fail e
      | .item used p' r => .item used (shift (r.carry D) p') (r.bump (r.carry D r.csid)) := by
  unfold readChunk
  cases hb : parseBasicHeader buf with
  | none => rfl
  | some header =>
      have hst : (shift D p).chunkStreams header.csid =
          (p.chunkStreams header.csid).bump (D header.csid) := rfl
      dsimp only
      rw [hst, parseMessageHeader_bump]
      cases hm : parseMessageHeader (buf.drop header.size) header.fmt
          (p.chunkStreams header.csid) with
      | error e => rfl
      | ok q =>
          obtain ⟨state, n⟩ := q
          dsimp only [Except.map]
          by_cases hc : ChunkComplete p header state n buf
          · have hc' : ChunkComplete (shift D p) header
                (state.bump (if absolute header.fmt (buf.drop header.size) then 0
                  else D header.csid)) n buf := hc
            rw [if_pos hc, if_pos hc']
            simp only [absolute_of_headerDone hm hc.1, takeChunk_shift, ChunkRecord.carry,
              ChunkRecord.bump, Reading.item.injEq]
            by_cases h0 : header.fmt = kChunkHeaderType0
            · simp [h0, chunkPayload, shift]
            · simp [h0, chunkPayload, shift]
          · have hc' : ¬ ChunkComplete (shift D p) header
                (state.bump (if absolute header.fmt (buf.drop header.size) then 0
                  else D header.csid)) n buf := hc
            rw [if_neg hc, if_neg hc']

/-- What the chunks leave of a displacement. -/
def carryAll (D : UInt32 → UInt32) (rs : List ChunkRecord) : UInt32 → UInt32 :=
  rs.foldl (fun D r => r.carry D) D

/-- The chunks as a parser displaced by `D` reads them. -/
def bumpAll : (UInt32 → UInt32) → List ChunkRecord → List ChunkRecord
  | _, [] => []
  | D, r :: rs => r.bump (r.carry D r.csid) :: bumpAll (r.carry D) rs

/-- No message among the chunks is displaced. -/
def Timely : (UInt32 → UInt32) → List ChunkRecord → Prop
  | _, [] => True
  | D, r :: rs => (r.message.isSome → r.carry D r.csid = 0) ∧ Timely (r.carry D) rs

theorem drain_shift (D : UInt32 → UInt32) (p : RtmpChunkParser) (buf : Bytes) :
    chunkReader.drain (shift D p) buf =
      { state := shift (carryAll D (chunkReader.drain p buf).items) (chunkReader.drain p buf).state
        rest := (chunkReader.drain p buf).rest
        items := bumpAll D (chunkReader.drain p buf).items
        error := (chunkReader.drain p buf).error } := by
  induction p, buf using chunkReader.drain_induction generalizing D with
  | more p buf h =>
      have h' : readChunk (shift D p) buf = .more := by
        rw [readChunk_shift, show readChunk p buf = .more from h]
      simp [Reader.drain_of_more (R := chunkReader) h,
        Reader.drain_of_more (R := chunkReader) h', carryAll, bumpAll]
  | fail p buf e h =>
      have h' : readChunk (shift D p) buf = .fail e := by
        rw [readChunk_shift, show readChunk p buf = .fail e from h]
      simp [Reader.drain_of_fail (R := chunkReader) h,
        Reader.drain_of_fail (R := chunkReader) h', carryAll, bumpAll]
  | item p buf n p' r h ih =>
      have h' : readChunk (shift D p) buf =
          .item n (shift (r.carry D) p') (r.bump (r.carry D r.csid)) := by
        rw [readChunk_shift, show readChunk p buf = .item n p' r from h]
      rw [Reader.drain_of_item (R := chunkReader) h,
        Reader.drain_of_item (R := chunkReader) h', ih]
      rfl

theorem bumpAll_messages_untimed (D : UInt32 → UInt32) (rs : List ChunkRecord) :
    ((bumpAll D rs).filterMap ChunkRecord.message).map RtmpMessage.untimed =
      (rs.filterMap ChunkRecord.message).map RtmpMessage.untimed := by
  induction rs generalizing D with
  | nil => rfl
  | cons r rs ih =>
      cases hr : r.message with
      | none => simpa [bumpAll, ChunkRecord.bump, hr] using ih _
      | some m => simpa [bumpAll, ChunkRecord.bump, hr] using ih _

theorem bumpAll_messages_eq_iff (D : UInt32 → UInt32) (rs : List ChunkRecord) :
    (bumpAll D rs).filterMap ChunkRecord.message = rs.filterMap ChunkRecord.message ↔
      Timely D rs := by
  induction rs generalizing D with
  | nil => simp [bumpAll, Timely]
  | cons r rs ih =>
      cases hr : r.message with
      | none => simpa [bumpAll, ChunkRecord.bump, hr, Timely] using ih _
      | some m =>
          simp [bumpAll, ChunkRecord.bump, hr, Timely, RtmpMessage.bump_eq_self, ih]

/-! ### The chunk that a call leaves incomplete -/

/-- The displacement that one more reading of the incomplete chunk at the front of
the buffer adds. -/
def pending (p : RtmpChunkParser) (buf : Bytes) : UInt32 → UInt32 :=
  match parseBasicHeader buf with
  | none => fun _ => 0
  | some header =>
      Function.update (fun _ => 0) header.csid
        (headerAdvance (buf.drop header.size) header.fmt (p.chunkStreams header.csid))

/-- What the incomplete chunk at the front of the buffer leaves of a displacement when
its header is written. -/
def settleFront (D : UInt32 → UInt32) (buf : Bytes) : UInt32 → UInt32 :=
  match parseBasicHeader buf with
  | none => D
  | some header =>
      if absolute header.fmt (buf.drop header.size) then Function.update D header.csid 0 else D

theorem headerAdvance_of_error {data : Bytes} {fmt : UInt8} {s : ChunkStreamState} {e : String}
    (h : parseMessageHeader data fmt s = .error e) : headerAdvance data fmt s = 0 := by
  unfold headerAdvance
  cases init : s.headerInitialized with
  | false => simp
  | true =>
      by_cases h1 : fmt = kChunkHeaderType1
      · subst h1
        rw [parseMessageHeader_type1 data init] at h
        cases h
      · by_cases h2 : fmt = kChunkHeaderType2
        · subst h2
          rw [parseMessageHeader_type2 data init] at h
          cases h
        · by_cases h3 : fmt = kChunkHeaderType3
          · subst h3
            rw [parseMessageHeader_type3 data init] at h
            cases h
          · simp [h1, h2, h3]

theorem touch_shift (D : UInt32 → UInt32) (p : RtmpChunkParser) (buf : Bytes) :
    touch (shift D p) buf = shift (settleFront D buf) (touch p buf) := by
  unfold touch settleFront
  cases hb : parseBasicHeader buf with
  | none => rfl
  | some header =>
      have hst : (shift D p).chunkStreams header.csid =
          (p.chunkStreams header.csid).bump (D header.csid) := rfl
      dsimp only
      rw [hst, parseMessageHeader_bump]
      cases hm : parseMessageHeader (buf.drop header.size) header.fmt
          (p.chunkStreams header.csid) with
      | error e =>
          have habs : ¬ absolute header.fmt (buf.drop header.size) := by
            rintro ⟨h0, -⟩
            rw [h0, parseMessageHeader_type0] at hm
            cases hm
          simp [habs, Except.map]
      | ok q =>
          dsimp only [Except.map]
          rw [shift_setStream]
          by_cases habs : absolute header.fmt (buf.drop header.size)
          · simp [habs]
          · simp [habs]

theorem pending_shift (D : UInt32 → UInt32) (p : RtmpChunkParser) (buf : Bytes) :
    pending (shift D p) buf = pending p buf := rfl

theorem shift_shift (D E : UInt32 → UInt32) (p : RtmpChunkParser) :
    shift E (shift D p) = shift (fun csid => D csid + E csid) p := by
  simp [shift, ChunkStreamState.bump_bump]

theorem shift_update_zero (p : RtmpChunkParser) (csid d : UInt32) :
    shift (Function.update (fun _ => 0) csid d) p =
      p.setStream csid ((p.chunkStreams csid).bump d) := by
  simp only [shift, RtmpChunkParser.setStream, RtmpChunkParser.mk.injEq, true_and]
  funext i
  by_cases hi : i = csid
  · subst hi
    simp
  · simp [Function.update_of_ne hi]

/-- A touch either leaves no mark, or writes the header of one chunk stream. -/
theorem touch_cases (p : RtmpChunkParser) (buf : Bytes) :
    (touch p buf = p ∧ pending p buf = fun _ => 0) ∨
      ∃ header state n, parseBasicHeader buf = some header ∧
        parseMessageHeader (buf.drop header.size) header.fmt (p.chunkStreams header.csid) =
          .ok (state, n) ∧
        touch p buf = p.setStream header.csid state ∧
        shift (pending p buf) p = p.setStream header.csid ((p.chunkStreams header.csid).bump
          (headerAdvance (buf.drop header.size) header.fmt (p.chunkStreams header.csid))) := by
  cases hb : parseBasicHeader buf with
  | none => exact .inl ⟨by simp [touch, hb], by simp [pending, hb]⟩
  | some header =>
      cases hm : parseMessageHeader (buf.drop header.size) header.fmt
          (p.chunkStreams header.csid) with
      | error e =>
          exact .inl ⟨by simp [touch, hb, hm],
            by simp [pending, hb, headerAdvance_of_error hm]⟩
      | ok q =>
          refine .inr ⟨header, q.1, q.2, rfl, hm, by simp [touch, hb, hm], ?_⟩
          simp only [pending, hb]
          exact shift_update_zero p header.csid _

/-- Two states of a chunk stream that read the header at the front of the buffer alike
cannot be told apart by what `parse` leaves behind. -/
theorem settled_congr {p : RtmpChunkParser} {buf : Bytes} {header : BasicHeader}
    {a b : ChunkStreamState} {q : ChunkStreamState × Nat}
    (hb : parseBasicHeader buf = some header)
    (ha : parseMessageHeader (buf.drop header.size) header.fmt a = .ok q)
    (hq : parseMessageHeader (buf.drop header.size) header.fmt b = .ok q) :
    settled (chunkReader.drain (p.setStream header.csid a) buf) =
      settled (chunkReader.drain (p.setStream header.csid b) buf) := by
  have hread : readChunk (p.setStream header.csid a) buf =
      readChunk (p.setStream header.csid b) buf := by
    simp only [readChunk, hb, RtmpChunkParser.setStream, Function.update_self, ha, hq,
      ChunkComplete, takeChunk, Function.update_idem]
  have htouch : touch (p.setStream header.csid a) buf = touch (p.setStream header.csid b) buf := by
    simp only [touch, hb, RtmpChunkParser.setStream, Function.update_self, ha, hq,
      Function.update_idem]
  cases h : readChunk (p.setStream header.csid b) buf with
  | more =>
      rw [h] at hread
      simp [Reader.drain_of_more (R := chunkReader) h,
        Reader.drain_of_more (R := chunkReader) hread, settled, htouch]
  | fail e =>
      rw [h] at hread
      rw [touch_of_fail h, touch_of_fail hread] at htouch
      rw [htouch]
  | item used p' r =>
      rw [h] at hread
      rw [Reader.drain_of_item (R := chunkReader) h,
        Reader.drain_of_item (R := chunkReader) hread]

/-- **The next call.** With more bytes behind an incomplete chunk, the parser that it
touched goes on as the untouched parser would, displaced by `pending`. -/
theorem settled_touch (p : RtmpChunkParser) (buf ys : Bytes) :
    settled (chunkReader.drain (touch p buf) (buf ++ ys)) =
      settled (chunkReader.drain (shift (pending p buf) p) (buf ++ ys)) := by
  rcases touch_cases p buf with ⟨htouch, hpending⟩ | ⟨header, state, n, hb, hm, htouch, hshift⟩
  · rw [htouch, hpending, shift_zero]
  · have hdrop : (buf ++ ys).drop header.size = buf.drop header.size ++ ys :=
      List.drop_append_of_le_length (parseBasicHeader_size hb).2
    have hagain := parseMessageHeader_again hm ys
    rw [htouch, hshift]
    cases hq : parseMessageHeader (buf.drop header.size ++ ys) header.fmt
        ((p.chunkStreams header.csid).bump (headerAdvance (buf.drop header.size) header.fmt
          (p.chunkStreams header.csid))) with
    | error e =>
        -- a header that was accepted once is accepted again
        have hfirst := parseMessageHeader_error hq (buf.drop header.size)
        rw [parseMessageHeader_bump, hm] at hfirst
        cases hfirst
    | ok q =>
        exact settled_congr (parseBasicHeader_append hb ys)
          (by rw [hdrop, hagain, hq]) (by rw [hdrop, hq])

/-! ### Segmented input -/

/-- Append the segments one at a time and call `parse` after each: the messages of all
calls, the first error, and what the last call leaves. -/
def feed (p : RtmpChunkParser) (buf : Bytes) : List Bytes → ParseResult
  | [] => ⟨p, buf, [], none⟩
  | seg :: segs =>
      let r := parse p (buf ++ seg)
      let q := feed r.parser r.buf segs
      { q with messages := r.messages ++ q.messages, error := r.error.or q.error }

/-- The ledger of a segmented stream, for a parser displaced by `D` whose buffer holds
`buf` and whose later segments are `segs`. Along the chunks of a call no message may
complete on a displaced csid; at a cut the chunk left incomplete adds its `pending`
displacement; and what the last call leaves must not be displaced either. -/
def DriftFree (D : UInt32 → UInt32) (p : RtmpChunkParser) (buf : Bytes) : List Bytes → Prop
  | [] =>
      let d := chunkReader.drain p buf
      Timely D d.items ∧ ∀ csid, settleFront (carryAll D d.items) d.rest csid = 0
  | seg :: segs =>
      let d := chunkReader.drain p buf
      Timely D d.items ∧
        DriftFree (fun csid => carryAll D d.items csid + pending d.state d.rest csid) d.state
          (d.rest ++ seg) segs

/-- A call of `parse` by a parser that goes on as a displaced copy of `p`. -/
theorem parse_displaced {D : UInt32 → UInt32} {p q : RtmpChunkParser} {buf : Bytes}
    (h : settled (chunkReader.drain q buf) = settled (chunkReader.drain (shift D p) buf)) :
    parse q buf =
      { parser := touch (shift (carryAll D (chunkReader.drain p buf).items)
          (chunkReader.drain p buf).state) (chunkReader.drain p buf).rest
        buf := (chunkReader.drain p buf).rest
        messages := (bumpAll D (chunkReader.drain p buf).items).filterMap ChunkRecord.message
        error := (chunkReader.drain p buf).error } := by
  rw [parse_eq_drain, h, drain_shift]
  rfl

/-- After a call, the parser goes on as a displaced copy of the reader's state. -/
theorem settled_next (D : UInt32 → UInt32) (p : RtmpChunkParser) (buf ys : Bytes) :
    settled (chunkReader.drain (touch (shift D p) buf) (buf ++ ys)) =
      settled (chunkReader.drain (shift (fun csid => D csid + pending p buf csid) p)
        (buf ++ ys)) := by
  rw [settled_touch, pending_shift, shift_shift]

/-- The whole input, call by call. -/
theorem settled_append (p : RtmpChunkParser) (buf ys : Bytes) :
    settled (chunkReader.drain p (buf ++ ys)) =
      let d := chunkReader.drain p buf
      let next := settled (chunkReader.drain d.state (d.rest ++ ys))
      { next with
        messages := d.items.filterMap ChunkRecord.message ++ next.messages
        error := d.error.or next.error } := by
  dsimp only
  rw [Reader.drain_append]
  have herror : ((chunkReader.drain p buf).error.or (chunkReader.drain
      (chunkReader.drain p buf).state ((chunkReader.drain p buf).rest ++ ys)).error) =
      (chunkReader.drain (chunkReader.drain p buf).state
        ((chunkReader.drain p buf).rest ++ ys)).error := by
    cases he : (chunkReader.drain p buf).error with
    | none => rfl
    | some e =>
        have hread := Reader.read_drain (R := chunkReader) p buf
        rw [he] at hread
        rw [Reader.drain_of_fail (R := chunkReader) (chunkReader.fail_append hread ys)]
        rfl
  simp [settled, herror]

/-- Feeding a displaced copy of `p`, compared with one call on the whole input. -/
theorem feed_displaced (segs : List Bytes) (seg : Bytes) {D : UInt32 → UInt32}
    {p q : RtmpChunkParser} {buf : Bytes}
    (h : settled (chunkReader.drain q (buf ++ seg)) =
      settled (chunkReader.drain (shift D p) (buf ++ seg))) :
    let fed := feed q buf (seg :: segs)
    let whole := settled (chunkReader.drain p (buf ++ seg ++ segs.flatten))
    fed.buf = whole.buf ∧ fed.error = whole.error ∧
      fed.messages.map RtmpMessage.untimed = whole.messages.map RtmpMessage.untimed ∧
      (fed.parser = whole.parser ∧ fed.messages = whole.messages ↔
        DriftFree D p (buf ++ seg) segs) := by
  induction segs generalizing D p q buf seg with
  | nil =>
      rw [feed, parse_displaced h, touch_shift]
      refine ⟨by simp [feed, settled], by simp [feed, settled], ?_, ?_⟩
      · simpa [feed, settled] using bumpAll_messages_untimed D _
      · simp only [feed, settled, List.append_nil, List.flatten_nil, DriftFree]
        rw [shift_eq_self, bumpAll_messages_eq_iff]
        exact and_comm
  | cons seg' segs ih =>
      have hnext := settled_next (carryAll D (chunkReader.drain p (buf ++ seg)).items)
        (chunkReader.drain p (buf ++ seg)).state (chunkReader.drain p (buf ++ seg)).rest seg'
      obtain ⟨hbuf, herror, huntimed, hiff⟩ := ih seg' hnext
      dsimp only at hbuf herror huntimed hiff ⊢
      rw [feed, parse_displaced h, List.flatten_cons, settled_append p (buf ++ seg)]
      dsimp only
      rw [← List.append_assoc, hbuf, herror]
      refine ⟨rfl, rfl, ?_, ?_⟩
      · rw [List.map_append, List.map_append, bumpAll_messages_untimed, huntimed]
      · have hlen : ((bumpAll D (chunkReader.drain p (buf ++ seg)).items).filterMap
            ChunkRecord.message).length =
            ((chunkReader.drain p (buf ++ seg)).items.filterMap ChunkRecord.message).length := by
          simpa using congrArg List.length
            (bumpAll_messages_untimed D (chunkReader.drain p (buf ++ seg)).items)
        rw [DriftFree, ← hiff, ← bumpAll_messages_eq_iff]
        constructor
        · rintro ⟨hparser, hmessages⟩
          obtain ⟨hfirst, hrest⟩ := List.append_inj hmessages hlen
          exact ⟨hfirst, hparser, hrest⟩
        · rintro ⟨hfirst, hparser, hrest⟩
          exact ⟨hparser, by rw [hfirst, hrest]⟩

/-- **What every segmentation preserves.** Fed in segments, the parser leaves the same
unread bytes, the same error, and the same messages up to their timestamps. -/
theorem feed_untimed (p : RtmpChunkParser) (buf seg : Bytes) (segs : List Bytes) :
    (feed p buf (seg :: segs)).buf = (parse p (buf ++ (seg :: segs).flatten)).buf ∧
      (feed p buf (seg :: segs)).error = (parse p (buf ++ (seg :: segs).flatten)).error ∧
      (feed p buf (seg :: segs)).messages.map RtmpMessage.untimed =
        (parse p (buf ++ (seg :: segs).flatten)).messages.map RtmpMessage.untimed := by
  have h : settled (chunkReader.drain p (buf ++ seg)) =
      settled (chunkReader.drain (shift (fun _ => 0) p) (buf ++ seg)) := by rw [shift_zero]
  obtain ⟨hbuf, herror, huntimed, -⟩ := feed_displaced segs seg h
  rw [parse_eq_drain, List.flatten_cons, ← List.append_assoc]
  exact ⟨hbuf, herror, huntimed⟩

/-- **Segmentation independence holds exactly when the ledger balances.** -/
theorem feed_eq_parse_iff (p : RtmpChunkParser) (buf seg : Bytes) (segs : List Bytes) :
    feed p buf (seg :: segs) = parse p (buf ++ (seg :: segs).flatten) ↔
      DriftFree (fun _ => 0) p (buf ++ seg) segs := by
  have h : settled (chunkReader.drain p (buf ++ seg)) =
      settled (chunkReader.drain (shift (fun _ => 0) p) (buf ++ seg)) := by rw [shift_zero]
  obtain ⟨hbuf, herror, -, hiff⟩ := feed_displaced segs seg h
  rw [parse_eq_drain, List.flatten_cons, ← List.append_assoc, ← hiff]
  constructor
  · intro heq
    rw [heq]
    exact ⟨rfl, rfl⟩
  · rintro ⟨hparser, hmessages⟩
    generalize feed p buf (seg :: segs) = fed at *
    generalize settled (chunkReader.drain p (buf ++ seg ++ segs.flatten)) = whole at *
    cases fed
    cases whole
    simp_all

/-- Two audio messages of one byte on csid 3: the first at time 100, the second, behind
a fmt=1 header, 10 later. -/
def deltaStream : Bytes :=
  [0x03, 0, 0, 100, 0, 0, 1, 8, 1, 0, 0, 0, 0xAA,
    0x43, 0, 0, 10, 0, 0, 1, 8, 0xBB]

/-- Cut in front of its last byte, the stream above yields its second message at time
120: the fmt=1 header has been read twice. -/
theorem feed_ne_parse :
    (feed {} [] [deltaStream.take 21, deltaStream.drop 21]).messages.map (·.timestamp) =
        [100, 120] ∧
      (parse {} deltaStream).messages.map (·.timestamp) = [100, 110] ∧
      feed {} [] [deltaStream.take 21, deltaStream.drop 21] ≠ parse {} deltaStream := by
  have hfed : (feed {} [] [deltaStream.take 21, deltaStream.drop 21]).messages.map
      (·.timestamp) = [100, 120] := by decide +kernel
  have hwhole : (parse {} deltaStream).messages.map (·.timestamp) = [100, 110] := by
    decide +kernel
  refine ⟨hfed, hwhole, fun h => ?_⟩
  rw [h, hwhole] at hfed
  exact absurd hfed (by decide)

/-! ### Cuts that cannot be seen -/

/-- At no cut is a header waiting that advances the timestamp of its csid. -/
def QuietCuts (p : RtmpChunkParser) (buf : Bytes) : List Bytes → Prop
  | [] => True
  | seg :: segs =>
      let d := chunkReader.drain p buf
      (∀ csid, pending d.state d.rest csid = 0) ∧ QuietCuts d.state (d.rest ++ seg) segs

theorem ChunkRecord.carry_zero (r : ChunkRecord) : r.carry (fun _ => 0) = fun _ => 0 := by
  unfold carry
  split
  · exact Function.update_eq_self r.csid _
  · rfl

theorem carryAll_zero (rs : List ChunkRecord) : carryAll (fun _ => 0) rs = fun _ => 0 := by
  induction rs with
  | nil => rfl
  | cons r rs ih =>
      rw [carryAll, List.foldl_cons, r.carry_zero]
      exact ih

theorem timely_zero (rs : List ChunkRecord) : Timely (fun _ => 0) rs := by
  induction rs with
  | nil => trivial
  | cons r rs ih =>
      rw [Timely, r.carry_zero]
      exact ⟨fun _ => rfl, ih⟩

theorem settleFront_zero (buf : Bytes) : settleFront (fun _ => 0) buf = fun _ => 0 := by
  unfold settleFront
  cases parseBasicHeader buf with
  | none => rfl
  | some header =>
      dsimp only
      split
      · exact Function.update_eq_self header.csid _
      · rfl

/-- Quiet cuts leave no trace. -/
theorem driftFree_of_quietCuts (segs : List Bytes) (p : RtmpChunkParser) (buf : Bytes)
    (quiet : QuietCuts p buf segs) : DriftFree (fun _ => 0) p buf segs := by
  induction segs generalizing p buf with
  | nil =>
      refine ⟨timely_zero _, fun csid => ?_⟩
      rw [carryAll_zero, settleFront_zero]
  | cons seg segs ih =>
      refine ⟨timely_zero _, ?_⟩
      have hD : (fun csid => carryAll (fun _ => 0) (chunkReader.drain p buf).items csid +
          pending (chunkReader.drain p buf).state (chunkReader.drain p buf).rest csid) =
          fun _ => 0 := by
        funext csid
        rw [carryAll_zero, quiet.1 csid]
        rfl
      rw [hD]
      exact ih _ _ quiet.2

/-- Cuts are quiet where every position of the stream is: `Q` holds of the parser and the
stream that is still to come, and no header waiting in a part of it is one that advances. -/
theorem quietCuts_of_positions {Q : RtmpChunkParser → Bytes → Prop}
    (step : ∀ p buf used p' r, readChunk p buf = .item used p' r → Q p buf → Q p' (buf.drop used))
    (quiet : ∀ p front tail, Q p (front ++ tail) → ∀ csid, pending p front csid = 0)
    (segs : List Bytes) (p : RtmpChunkParser) (buf : Bytes) (init : Q p (buf ++ segs.flatten)) :
    QuietCuts p buf segs := by
  induction segs generalizing p buf with
  | nil => trivial
  | cons seg segs ih =>
      have next := Reader.drain_prefix (R := chunkReader) step p buf (seg :: segs).flatten init
      refine ⟨quiet _ _ _ next, ?_⟩
      apply ih
      rw [List.append_assoc]
      exact next

end Rmuduo.Rtmp
