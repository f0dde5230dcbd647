/-
Chunk streams do not interfere.

A chunk is read from its own bytes and from the state of its csid, and it changes no other
state. So sequences of chunks on different csids may be interleaved in any way at their
chunk boundaries.

* `readChunk_own` — what a chunk is read from.
* `readChunk_frame` — what it leaves alone.
* `parse_interleaved` — an interleaving gives to every csid the messages and the state that
  its own sequence gives it alone.
-/

import Rmuduo.Lib.Demux
import Rmuduo.Rtmp.ChunkReader

namespace Rmuduo.Rtmp

open Lib

/-! ### Chunks cut off behind their last byte -/

theorem parseBasicHeader_take {buf : Bytes} {header : BasicHeader} {m : Nat}
    (h : parseBasicHeader buf = some header) (hm : header.size ≤ m) :
    parseBasicHeader (buf.take m) = some header := by
  cases h' : parseBasicHeader (buf.take m) with
  | some header' =>
      have hwhole := parseBasicHeader_append h' (buf.drop m)
      rw [List.take_append_drop, h] at hwhole
      exact hwhole.symm
  | none =>
      exfalso
      have hsize := parseBasicHeader_size h
      unfold parseBasicHeader at h
      split at h
      · cases h
      · rename_i first rest
        obtain ⟨m, rfl⟩ : ∃ k, m = k + 1 := ⟨m - 1, by omega⟩
        rw [List.take_succ_cons] at h'
        dsimp only at h
        split at h
        · rename_i hmark
          simp only [parseBasicHeader, if_pos hmark] at h'
          cases h'
        · rename_i hmark
          split at h
          · rename_i hzero
            split at h
            · cases h
              dsimp only at hm
              obtain ⟨m, rfl⟩ : ∃ k, m = k + 1 := ⟨m - 1, by omega⟩
              simp only [List.take_succ_cons, parseBasicHeader, if_neg hmark, if_pos hzero] at h'
              cases h'
            · cases h
          · rename_i hzero
            split at h
            · cases h
              dsimp only at hm
              obtain ⟨m, rfl⟩ : ∃ k, m = k + 2 := ⟨m - 2, by omega⟩
              simp only [List.take_succ_cons, parseBasicHeader, if_neg hmark, if_neg hzero] at h'
              cases h'
            · cases h

theorem timestampField_take {base m n : Nat} {data : Bytes} {v e : UInt32} (hbase : 3 ≤ base)
    (h : timestampField base data = some (v, e, n)) (hm : n ≤ m) :
    timestampField base (data.take m) = some (v, e, n) := by
  cases h' : timestampField base (data.take m) with
  | some r =>
      have hwhole := timestampField_append hbase h' (data.drop m)
      rw [List.take_append_drop, h] at hwhole
      exact hwhole.symm
  | none =>
      exfalso
      have hsize := timestampField_size h
      have hlen : n ≤ (data.take m).length := by
        rw [List.length_take]
        omega
      have hmark : readUint24BE (data.take m) = readUint24BE data := by
        rw [← readUint24BE_append (by omega : 3 ≤ (data.take m).length) (data.drop m),
          List.take_append_drop]
      unfold timestampField at h h'
      rw [if_neg (by omega), hmark] at h'
      rw [if_neg (by omega)] at h
      split at h'
      · rename_i hext
        rw [if_pos hext] at h
        split at h
        · cases h
        · simp only [Option.some.injEq, Prod.mk.injEq] at h
          rw [if_neg (by omega)] at h'
          cases h'
      · cases h'

/-- A complete header is read from its own bytes. -/
theorem CompleteHeader.take {data : Bytes} {fmt : UInt8} {s s' : ChunkStreamState} {n m : Nat}
    (h : CompleteHeader data s fmt s' n) (hm : n ≤ m) :
    CompleteHeader (data.take m) s fmt s' n := by
  cases h with
  | type0 field =>
      have hsize := timestampField_size field
      have hlen : 11 ≤ (data.take m).length := by
        rw [List.length_take]
        omega
      have hwhole := s.writeFull_append hlen (data.drop m)
      rw [List.take_append_drop] at hwhole
      rw [hwhole]
      exact .type0 (timestampField_take (by decide) field hm)
  | type1 init field =>
      have hsize := timestampField_size field
      have hlen : 7 ≤ (data.take m).length := by
        rw [List.length_take]
        omega
      have hwhole := s.writeLength_append hlen (data.drop m)
      rw [List.take_append_drop] at hwhole
      rw [hwhole]
      exact .type1 init (timestampField_take (by decide) field hm)
  | type2 init field => exact .type2 init (timestampField_take (by decide) field hm)
  | type3 init unmarked => exact .type3 init unmarked
  | type3Extended init marked long =>
      refine .type3Extended init marked ?_
      rw [List.length_take]
      omega

/-! ### What a chunk is read from -/

/-- All that the parser holds for one chunk stream. -/
def streamView (csid : UInt32) (p : RtmpChunkParser) : UInt32 × ChunkStreamState :=
  (p.inChunkSize, p.chunkStreams csid)

section Chunks

variable {p p' q : RtmpChunkParser} {buf : Bytes} {used : Nat} {r : ChunkRecord}

/-- Reading a chunk takes its own bytes and the view of its csid. -/
theorem readChunk_own (h : readChunk p buf = .item used p' r)
    (same : streamView r.csid q = streamView r.csid p) (ys : Bytes) :
    ∃ q', readChunk q (buf.take used ++ ys) = .item used q' r ∧
      streamView r.csid q' = streamView r.csid p' := by
  obtain ⟨header, state, n, hb, hm, hc, rfl, rfl, rfl⟩ := readChunk_item h
  obtain ⟨hsize, hstate⟩ : q.inChunkSize = p.inChunkSize ∧
      q.chunkStreams header.csid = p.chunkStreams header.csid := Prod.mk.inj same
  generalize hused : header.size + n + (chunkPayload p.inChunkSize state).toNat = used
  have hlen : used ≤ buf.length := hused ▸ hc.2.2
  have htaken : (buf.take used).length = used := by
    rw [List.length_take]
    omega
  have hbasic : parseBasicHeader (buf.take used ++ ys) = some header :=
    parseBasicHeader_append (parseBasicHeader_take hb (by omega)) ys
  have hheader : parseMessageHeader ((buf.take used ++ ys).drop header.size) header.fmt
      (q.chunkStreams header.csid) = .ok (state, n) := by
    rw [List.drop_append_of_le_length (by omega), List.drop_take, hstate]
    have whole := completeHeader_iff.mpr ⟨hm, hc.1⟩
    exact (completeHeader_iff.mp ((whole.take (by omega)).append ys)).1
  have hcomplete : ChunkComplete q header state n (buf.take used ++ ys) := by
    refine ⟨hc.1, hc.2.1, ?_⟩
    rw [hsize, hused, List.length_append]
    omega
  have hpayload : ((buf.take used ++ ys).drop (header.size + n)).take
      (chunkPayload p.inChunkSize state).toNat =
      (buf.drop (header.size + n)).take (chunkPayload p.inChunkSize state).toNat := by
    rw [List.drop_append_of_le_length (by omega), List.take_append_of_le_length
      (by rw [List.length_drop]; omega), List.drop_take, List.take_take]
    congr 1
    omega
  refine ⟨(takeChunk q header.csid state (buf.take used ++ ys) (header.size + n)).parser, ?_, ?_⟩
  · unfold readChunk
    rw [hbasic]
    dsimp only
    rw [hheader]
    dsimp only
    rw [if_pos hcomplete, hsize, hused]
    unfold takeChunk
    dsimp only
    rw [hsize, hpayload]
    split <;> rfl
  · unfold takeChunk
    dsimp only
    rw [hsize, hpayload]
    split <;> simp [streamView, RtmpChunkParser.setStream, hsize]

/-- The state of every other csid stays as it is. -/
theorem readChunk_frame (h : readChunk p buf = .item used p' r) {csid : UInt32}
    (other : csid ≠ r.csid) : streamView csid p' = streamView csid p := by
  obtain ⟨header, state, n, -, -, -, -, rfl, rfl⟩ := readChunk_item h
  unfold takeChunk
  dsimp only
  split <;> simp [streamView, RtmpChunkParser.setStream, Function.update_of_ne other]

theorem chunkReader_demux : chunkReader.Demux ChunkRecord.csid streamView where
  own h same ys := readChunk_own h same ys
  frame h _ other := readChunk_frame h other

/-- A chunk completes messages of its own csid only. -/
theorem readChunk_message_csid (h : readChunk p buf = .item used p' r) {m : RtmpMessage}
    (hm : r.message = some m) : m.chunkStreamId = r.csid := by
  obtain ⟨header, state, n, -, -, -, -, -, rfl⟩ := readChunk_item h
  unfold takeChunk at hm
  dsimp only at hm
  split at hm
  · cases hm
    rfl
  · cases hm

/-- The messages of one csid are those of its chunks. -/
theorem messages_of_csid (p : RtmpChunkParser) (buf : Bytes) (csid : UInt32) :
    ((chunkReader.drain p buf).items.filterMap ChunkRecord.message).filter
        (fun m => m.chunkStreamId = csid) =
      ((chunkReader.drain p buf).items.filter fun r => r.csid = csid).filterMap
        ChunkRecord.message := by
  have hown := Reader.drain_items (R := chunkReader)
    (P := fun r => ∀ m, r.message = some m → m.chunkStreamId = r.csid)
    (fun _ _ _ _ _ h _ hm => readChunk_message_csid h hm) p buf
  generalize (chunkReader.drain p buf).items = rs at hown
  induction rs with
  | nil => rfl
  | cons r rs ih =>
      have hrest := ih fun r' hr' => hown r' (List.mem_cons_of_mem r hr')
      have hr := hown r List.mem_cons_self
      cases hmessage : r.message with
      | none =>
          by_cases hcsid : r.csid = csid
          · simpa [hmessage, hcsid] using hrest
          · simpa [hmessage, hcsid] using hrest
      | some m =>
          have hm := hr m hmessage
          by_cases hcsid : r.csid = csid
          · simpa [hmessage, hm, hcsid] using hrest
          · simpa [hmessage, hm, hcsid] using hrest

end Chunks

/-! ### Interleavings -/

/-- The chunks that the parser reads from the buffer, each as its bytes. -/
def chunksOf (p : RtmpChunkParser) (buf : Bytes) : List Bytes :=
  chunkReader.pieces p buf

/-- Fed alone, the bytes parse completely and without error, and all their chunks are on one
csid. -/
structure ParsesAlone (p : RtmpChunkParser) (csid : UInt32) (buf : Bytes) : Prop where
  sound : (parse p buf).error = none
  consumed : (parse p buf).buf = []
  own : ∀ r ∈ (chunkReader.drain p buf).items, r.csid = csid

/-- **Chunk streams do not interfere.** -/
theorem parse_interleaved (p : RtmpChunkParser) (stream : UInt32 → Bytes)
    (alone : ∀ csid, ParsesAlone p csid (stream csid)) (chunks : List (UInt32 × Bytes))
    (mixed : Interleaves chunks fun csid => chunksOf p (stream csid)) :
    (parse p (chunks.map Prod.snd).flatten).error = none ∧
      (parse p (chunks.map Prod.snd).flatten).buf = [] ∧
      ∀ csid,
        (parse p (chunks.map Prod.snd).flatten).messages.filter
            (fun m => m.chunkStreamId = csid) = (parse p (stream csid)).messages ∧
          (parse p (chunks.map Prod.snd).flatten).parser.chunkStreams csid =
            (parse p (stream csid)).parser.chunkStreams csid := by
  have readAlone : ∀ csid, chunkReader.ReadAlone ChunkRecord.csid csid p (stream csid) := by
    intro csid
    obtain ⟨sound, consumed, own⟩ := alone csid
    rw [parse_eq_drain] at sound consumed
    exact ⟨sound, consumed, own⟩
  obtain ⟨herror, hends, hkeys⟩ := Reader.drain_interleaved chunkReader_demux chunks
    (fun csid => rfl : ∀ csid, streamView csid p = streamView csid p) readAlone mixed
  rw [parse_eq_drain]
  refine ⟨herror, hends, fun csid => ?_⟩
  obtain ⟨hitems, hview⟩ := hkeys csid
  rw [parse_eq_drain]
  constructor
  · change ((chunkReader.drain p (chunks.map Prod.snd).flatten).items.filterMap
      ChunkRecord.message).filter _ = _
    rw [messages_of_csid, hitems]
    rfl
  · change (touch _ (chunkReader.drain p (chunks.map Prod.snd).flatten).rest).chunkStreams csid =
      (touch _ (chunkReader.drain p (stream csid)).rest).chunkStreams csid
    rw [hends, (readAlone csid).ends, touch_nil, touch_nil]
    exact (Prod.mk.inj hview).2

/-- An audio message of three bytes in chunks of two on csid 3, and a video message on csid 4. -/
def audioAndVideo (csid : UInt32) : Bytes :=
  if csid = 3 then [3, 0, 0, 10, 0, 0, 3, 8, 1, 0, 0, 0, 7, 8, 0xC3, 9]
  else if csid = 4 then [4, 0, 0, 20, 0, 0, 1, 9, 1, 0, 0, 0, 5]
  else []

/-- The video message between the two chunks of the audio message. -/
theorem parse_audioAndVideo :
    (parse (({} : RtmpChunkParser).setInChunkSize 2)
      [3, 0, 0, 10, 0, 0, 3, 8, 1, 0, 0, 0, 7, 8, 4, 0, 0, 20, 0, 0, 1, 9, 1, 0, 0, 0, 5,
        0xC3, 9]).messages.filter (fun m => m.chunkStreamId = 3) =
      (parse (({} : RtmpChunkParser).setInChunkSize 2)
        [3, 0, 0, 10, 0, 0, 3, 8, 1, 0, 0, 0, 7, 8, 0xC3, 9]).messages :=
  ((parse_interleaved (({} : RtmpChunkParser).setInChunkSize 2) audioAndVideo
    (by
      intro csid
      by_cases h3 : csid = 3
      · subst h3
        exact ⟨by decide +kernel, by decide +kernel, by decide +kernel⟩
      · by_cases h4 : csid = 4
        · subst h4
          exact ⟨by decide +kernel, by decide +kernel, by decide +kernel⟩
        · have hnil : audioAndVideo csid = [] := by simp [audioAndVideo, h3, h4]
          rw [hnil]
          refine ⟨rfl, rfl, ?_⟩
          rw [Reader.drain_nil]
          simp)
    [(3, [3, 0, 0, 10, 0, 0, 3, 8, 1, 0, 0, 0, 7, 8]),
      (4, [4, 0, 0, 20, 0, 0, 1, 9, 1, 0, 0, 0, 5]), (3, [0xC3, 9])]
    (by
      intro csid
      by_cases h3 : csid = 3
      · subst h3
        decide +kernel
      · by_cases h4 : csid = 4
        · subst h4
          decide +kernel
        · have hnil : audioAndVideo csid = [] := by simp [audioAndVideo, h3, h4]
          dsimp only
          rw [hnil, chunksOf, Reader.pieces_of_more (chunkReader.read_nil _)]
          simp [Ne.symm h3, Ne.symm h4])).2.2 3).1

end Rmuduo.Rtmp
