/-
Reading whole chunks.

`chunkReader` is the chunk parser made transactional: it reads a complete chunk or
leaves the parser as it was. It is stable under further input, so every fact about
`Reader` applies to it.

* `parse_eq_drain` — a call of `parse` is a run of `chunkReader`, after which the
  incomplete chunk at the front of the unread bytes touches the state of its csid
  (`touch`).
-/

import Rmuduo.Rtmp.ChunkParser

namespace Rmuduo.Rtmp

open Lib

/-- The chunk at the front of the buffer is complete: its header is, and so is its
share of the payload. -/
def ChunkComplete (p : RtmpChunkParser) (header : BasicHeader) (state : ChunkStreamState)
    (messageHeaderSize : Nat) (buf : Bytes) : Prop :=
  HeaderDone header.fmt state messageHeaderSize ∧ state.headerInitialized = true ∧
    header.size + messageHeaderSize + (chunkPayload p.inChunkSize state).toNat ≤ buf.length

instance (p : RtmpChunkParser) (header : BasicHeader) (state : ChunkStreamState) (n : Nat)
    (buf : Bytes) : Decidable (ChunkComplete p header state n buf) := by
  unfold ChunkComplete; infer_instance

/-- The two ends of `parseOneChunk` after a header: the chunk is taken, or it stays
in the buffer and only its header has been written. -/
theorem parseOneChunk_eq (p : RtmpChunkParser) (buf : Bytes) :
    parseOneChunk p buf =
      match parseBasicHeader buf with
      | none => .ok ⟨p, buf, none⟩
      | some header =>
          match parseMessageHeader (buf.drop header.size) header.fmt
              (p.chunkStreams header.csid) with
          | .error e => .error e
          | .ok (state, n) =>
              if ChunkComplete p header state n buf then
                .ok (takeChunk p header.csid state buf (header.size + n))
              else .ok ⟨p.setStream header.csid state, buf, none⟩ := by
  unfold parseOneChunk
  cases parseBasicHeader buf with
  | none => rfl
  | some header =>
      dsimp only
      cases parseMessageHeader (buf.drop header.size) header.fmt
          (p.chunkStreams header.csid) with
      | error e => rfl
      | ok r =>
          obtain ⟨state, n⟩ := r
          dsimp only
          by_cases hdone : HeaderDone header.fmt state n
          · have hneg : ¬ (n = 0 ∧ ¬ fmt3WithoutExtraHeader header.fmt state) := by
              rintro ⟨hn, hfmt⟩
              exact hdone.elim (fun h => h hn) hfmt
            rw [if_neg hneg]
            by_cases hinit : state.headerInitialized = false
            · have hc : ¬ ChunkComplete p header state n buf := fun h => by
                rw [h.2.1] at hinit
                cases hinit
              rw [if_pos hinit, if_neg hc]
            · rw [if_neg hinit]
              by_cases hlen :
                  buf.length < header.size + n + (chunkPayload p.inChunkSize state).toNat
              · rw [if_pos hlen, if_neg (fun h => by have := h.2.2; omega)]
              · rw [if_neg hlen,
                  if_pos ⟨hdone, by simpa using hinit, by omega⟩]
          · have hpos : n = 0 ∧ ¬ fmt3WithoutExtraHeader header.fmt state := by
              simpa [HeaderDone] using hdone
            rw [if_pos hpos, if_neg (fun h => hdone h.1)]

/-- How many payload bytes the next chunk carries. -/
theorem toNat_chunkPayload {s : ChunkStreamState} (h : s.bytesRead ≤ s.messageLength)
    (c : UInt32) : (chunkPayload c s).toNat =
      min (s.messageLength.toNat - s.bytesRead.toNat) c.toNat := by
  have hsub := UInt32.toNat_sub_of_le _ _ h
  change (if s.messageLength - s.bytesRead ≤ c then _ else _ : UInt32).toNat = _
  split
  · rename_i hc
    rw [UInt32.le_iff_toNat_le, hsub] at hc
    rw [hsub, Nat.min_eq_left hc]
  · rename_i hc
    rw [UInt32.le_iff_toNat_le, hsub] at hc
    exact (Nat.min_eq_right (by omega)).symm

theorem takeChunk_buf (p : RtmpChunkParser) (csid : UInt32) (state : ChunkStreamState)
    (buf : Bytes) (offset : Nat) :
    (takeChunk p csid state buf offset).buf =
      buf.drop (offset + (chunkPayload p.inChunkSize state).toNat) := by
  unfold takeChunk
  dsimp only
  split <;> rfl

@[simp] theorem setStream_inChunkSize (p : RtmpChunkParser) (csid : UInt32)
    (state : ChunkStreamState) : (p.setStream csid state).inChunkSize = p.inChunkSize := rfl

@[simp] theorem takeChunk_inChunkSize (p : RtmpChunkParser) (csid : UInt32)
    (state : ChunkStreamState) (buf : Bytes) (offset : Nat) :
    (takeChunk p csid state buf offset).parser.inChunkSize = p.inChunkSize := by
  unfold takeChunk
  dsimp only
  split <;> rfl

/-- Taking a chunk looks only at the bytes of the chunk. -/
theorem takeChunk_append {p : RtmpChunkParser} {csid : UInt32} {state : ChunkStreamState}
    {buf : Bytes} {offset : Nat}
    (h : offset + (chunkPayload p.inChunkSize state).toNat ≤ buf.length) (ys : Bytes) :
    takeChunk p csid state (buf ++ ys) offset =
      { takeChunk p csid state buf offset with
        buf := (takeChunk p csid state buf offset).buf ++ ys } := by
  have htake : ((buf ++ ys).drop offset).take (chunkPayload p.inChunkSize state).toNat =
      (buf.drop offset).take (chunkPayload p.inChunkSize state).toNat := by
    rw [List.drop_append_of_le_length (by omega), List.take_append_of_le_length]
    rw [List.length_drop]
    omega
  unfold takeChunk
  dsimp only
  rw [htake, List.drop_append_of_le_length h]
  split <;> rfl

/-! ### The reader -/

/-- A chunk as it was read: its format, its chunk stream, and the message that it
completed, if any. -/
structure ChunkRecord where
  fmt : UInt8
  csid : UInt32
  message : Option RtmpMessage
deriving DecidableEq

/-- Read the chunk at the front of the buffer if it is complete. -/
def readChunk (p : RtmpChunkParser) (buf : Bytes) :
    Reading RtmpChunkParser String ChunkRecord :=
  match parseBasicHeader buf with
  | none => .more
  | some header =>
      match parseMessageHeader (buf.drop header.size) header.fmt
          (p.chunkStreams header.csid) with
      | .error e => .fail e
      | .ok (state, n) =>
          if ChunkComplete p header state n buf then
            let step := takeChunk p header.csid state buf (header.size + n)
            .item (header.size + n + (chunkPayload p.inChunkSize state).toNat) step.parser
              ⟨header.fmt, header.csid, step.message⟩
          else .more

/-- What `readChunk` says when it reads a chunk. -/
theorem readChunk_item {p p' : RtmpChunkParser} {buf : Bytes} {used : Nat} {r : ChunkRecord}
    (h : readChunk p buf = .item used p' r) :
    ∃ header state n, parseBasicHeader buf = some header ∧
      parseMessageHeader (buf.drop header.size) header.fmt (p.chunkStreams header.csid) =
        .ok (state, n) ∧
      ChunkComplete p header state n buf ∧
      used = header.size + n + (chunkPayload p.inChunkSize state).toNat ∧
      p' = (takeChunk p header.csid state buf (header.size + n)).parser ∧
      r = ⟨header.fmt, header.csid,
        (takeChunk p header.csid state buf (header.size + n)).message⟩ := by
  unfold readChunk at h
  cases hb : parseBasicHeader buf with
  | none => simp [hb] at h
  | some header =>
      rw [hb] at h
      dsimp only at h
      cases hm : parseMessageHeader (buf.drop header.size) header.fmt
          (p.chunkStreams header.csid) with
      | error e => simp [hm] at h
      | ok q =>
          obtain ⟨state, n⟩ := q
          rw [hm] at h
          dsimp only at h
          split at h
          · rename_i hc
            simp only [Reading.item.injEq] at h
            exact ⟨header, state, n, rfl, hm, hc, h.1.symm, h.2.1.symm, h.2.2.symm⟩
          · cases h

theorem readChunk_nil (p : RtmpChunkParser) : readChunk p [] = .more := rfl

theorem readChunk_used {p p' : RtmpChunkParser} {buf : Bytes} {used : Nat} {r : ChunkRecord}
    (h : readChunk p buf = .item used p' r) : 0 < used ∧ used ≤ buf.length := by
  obtain ⟨header, state, n, hb, -, hc, rfl, -, -⟩ := readChunk_item h
  have hsize := parseBasicHeader_size hb
  exact ⟨by omega, hc.2.2⟩

theorem readChunk_append {p p' : RtmpChunkParser} {buf : Bytes} {used : Nat} {r : ChunkRecord}
    (h : readChunk p buf = .item used p' r) (ys : Bytes) :
    readChunk p (buf ++ ys) = .item used p' r := by
  obtain ⟨header, state, n, hb, hm, hc, rfl, rfl, rfl⟩ := readChunk_item h
  have hsize := parseBasicHeader_size hb
  have hc' : ChunkComplete p header state n (buf ++ ys) :=
    ⟨hc.1, hc.2.1, by rw [List.length_append]; exact Nat.le_add_right_of_le hc.2.2⟩
  unfold readChunk
  rw [parseBasicHeader_append hb]
  dsimp only
  rw [List.drop_append_of_le_length hsize.2, parseMessageHeader_append hm hc.1]
  dsimp only
  rw [if_pos hc', takeChunk_append hc.2.2]

theorem readChunk_fail_append {p : RtmpChunkParser} {buf : Bytes} {e : String}
    (h : readChunk p buf = .fail e) (ys : Bytes) : readChunk p (buf ++ ys) = .fail e := by
  unfold readChunk at h
  cases hb : parseBasicHeader buf with
  | none => simp [hb] at h
  | some header =>
      rw [hb] at h
      dsimp only at h
      cases hm : parseMessageHeader (buf.drop header.size) header.fmt
          (p.chunkStreams header.csid) with
      | ok q =>
          rw [hm] at h
          dsimp only at h
          split at h <;> cases h
      | error e' =>
          rw [hm] at h
          unfold readChunk
          rw [parseBasicHeader_append hb]
          dsimp only
          rw [parseMessageHeader_error hm]
          exact h

/-- The chunk parser as a reader of whole chunks. -/
def chunkReader : Reader UInt8 RtmpChunkParser String ChunkRecord where
  read := readChunk
  read_nil := readChunk_nil
  item_used := readChunk_used
  item_append := readChunk_append
  fail_append := readChunk_fail_append

/-! ### The parser and the reader -/

/-- The mark that an incomplete chunk leaves on the parser: its header, as far as it
has arrived, is written into the state of its csid. -/
def touch (p : RtmpChunkParser) (buf : Bytes) : RtmpChunkParser :=
  match parseBasicHeader buf with
  | none => p
  | some header =>
      match parseMessageHeader (buf.drop header.size) header.fmt
          (p.chunkStreams header.csid) with
      | .error _ => p
      | .ok (state, _) => p.setStream header.csid state

@[simp] theorem touch_nil (p : RtmpChunkParser) : touch p [] = p := rfl

/-- `parseOneChunk` in terms of the reader. -/
theorem parseOneChunk_eq_readChunk (p : RtmpChunkParser) (buf : Bytes) :
    parseOneChunk p buf =
      match readChunk p buf with
      | .more => .ok ⟨touch p buf, buf, none⟩
      | .fail e => .error e
      | .item used p' r => .ok ⟨p', buf.drop used, r.message⟩ := by
  rw [parseOneChunk_eq]
  unfold readChunk touch
  cases parseBasicHeader buf with
  | none => rfl
  | some header =>
      dsimp only
      cases parseMessageHeader (buf.drop header.size) header.fmt
          (p.chunkStreams header.csid) with
      | error e => rfl
      | ok q =>
          obtain ⟨state, n⟩ := q
          dsimp only
          by_cases hc : ChunkComplete p header state n buf
          · rw [if_pos hc, if_pos hc]
            dsimp only
            rw [← takeChunk_buf]
          · rw [if_neg hc, if_neg hc]

theorem touch_of_fail {p : RtmpChunkParser} {buf : Bytes} {e : String}
    (h : readChunk p buf = .fail e) : touch p buf = p := by
  unfold readChunk at h
  unfold touch
  cases hb : parseBasicHeader buf with
  | none => rfl
  | some header =>
      rw [hb] at h
      dsimp only at h ⊢
      cases hm : parseMessageHeader (buf.drop header.size) header.fmt
          (p.chunkStreams header.csid) with
      | error e' => rfl
      | ok q =>
          rw [hm] at h
          dsimp only at h
          split at h <;> cases h

/-- What `parse` leaves behind, from where the reader stops: the incomplete chunk in
front of the unread bytes has touched the state, and the messages are those of the
chunks read. -/
def settled (d : Drained UInt8 RtmpChunkParser String ChunkRecord) : ParseResult where
  parser := touch d.state d.rest
  buf := d.rest
  messages := d.items.filterMap ChunkRecord.message
  error := d.error

theorem settled_prepend (r : ChunkRecord)
    (d : Drained UInt8 RtmpChunkParser String ChunkRecord) :
    settled (d.prepend [r]) =
      { settled d with messages := r.message.toList ++ (settled d).messages } := by
  cases hr : r.message <;> simp [settled, hr]

theorem parseLoop_eq_drain (fuel : Nat) (p : RtmpChunkParser) (buf : Bytes)
    (hfuel : buf.length ≤ fuel) :
    parseLoop fuel p buf = settled (chunkReader.drain p buf) := by
  induction fuel generalizing p buf with
  | zero =>
      obtain rfl : buf = [] := List.eq_nil_of_length_eq_zero (by omega)
      simp [parseLoop, settled]
  | succ fuel ih =>
      unfold parseLoop
      by_cases hnil : buf.length = 0
      · obtain rfl : buf = [] := List.eq_nil_of_length_eq_zero hnil
        simp [settled]
      · rw [if_neg hnil, parseOneChunk_eq_readChunk]
        cases h : readChunk p buf with
        | more => simp [Reader.drain_of_more (R := chunkReader) h, settled]
        | fail e =>
            simp [Reader.drain_of_fail (R := chunkReader) h, settled, touch_of_fail h]
        | item used p' r =>
            have hused := readChunk_used h
            have hlen : (buf.drop used).length ≠ buf.length := by
              rw [List.length_drop]
              omega
            dsimp only
            rw [if_neg hlen, ih p' (buf.drop used) (by rw [List.length_drop]; omega),
              Reader.drain_of_item (R := chunkReader) h, settled_prepend]

/-- **A call of `parse` is a run of the whole-chunk reader**, settled by one touch of
the incomplete chunk that stopped it. In particular the loop's fuel is enough. -/
theorem parse_eq_drain (p : RtmpChunkParser) (buf : Bytes) :
    parse p buf = settled (chunkReader.drain p buf) :=
  parseLoop_eq_drain buf.length p buf (Nat.le_refl _)

/-- A parser that has failed has the malformed chunk at the front of what it left. -/
theorem readChunk_of_parse_error {p : RtmpChunkParser} {buf : Bytes}
    (h : (parse p buf).error ≠ none) :
    ∃ e, readChunk (parse p buf).parser (parse p buf).buf = .fail e := by
  rw [parse_eq_drain] at h ⊢
  have hread := chunkReader.read_drain p buf
  change (chunkReader.drain p buf).error ≠ none at h
  cases herror : (chunkReader.drain p buf).error with
  | none => exact absurd herror h
  | some e =>
      rw [herror] at hread
      refine ⟨e, ?_⟩
      change readChunk (touch (chunkReader.drain p buf).state (chunkReader.drain p buf).rest)
        (chunkReader.drain p buf).rest = .fail e
      rw [touch_of_fail hread]
      exact hread

/-- A malformed chunk at the front is an error, and nothing is parsed. -/
theorem parse_of_readChunk_fail {p : RtmpChunkParser} {buf : Bytes} {e : String}
    (h : readChunk p buf = .fail e) : (parse p buf).error = some e := by
  rw [parse_eq_drain, Reader.drain_of_fail (R := chunkReader) h]
  rfl

end Rmuduo.Rtmp
