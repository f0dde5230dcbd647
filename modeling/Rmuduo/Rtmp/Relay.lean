/-
Relayed streams.

What `EncodeMessage` writes, message after message, is read back however TCP cuts it. A
written stream has two kinds of headers: the full header of a message, which leaves
nothing of the earlier state of its csid, and the fmt=3 header of a continuation, which
advances nothing. So no cut of the stream can be seen.

* `Sending` — the positions of a written stream: between two messages, or inside one.
* `Sending.read` — from such a position the parser reads a whole chunk into the next one.
* `feed_encodeAll` — a fresh parser that is fed the stream in segments emits the messages.
-/

import Rmuduo.Rtmp.Segmentation
import Rmuduo.Rtmp.WriterAgreement

namespace Rmuduo.Rtmp

open Lib

/-- The messages that the chunk format carries without an extended timestamp. -/
structure Relayable (m : RtmpMessage) : Prop where
  sized : m.payload.length = m.messageLength.toNat
  short : m.messageLength.toNat < 2 ^ 24
  early : m.timestamp < 0x00FFFFFF
  low : 2 ≤ m.chunkStreamId
  high : m.chunkStreamId ≤ 65599

/-- The messages one behind another, each as `EncodeMessage` writes it. -/
def encodeAll (c : UInt32) (ms : List RtmpMessage) : Bytes :=
  (ms.map fun m => encodeMessage m c).flatten

@[simp] theorem encodeAll_nil (c : UInt32) : encodeAll c [] = [] := rfl

@[simp] theorem encodeAll_cons (c : UInt32) (m : RtmpMessage) (ms : List RtmpMessage) :
    encodeAll c (m :: ms) = encodeMessage m c ++ encodeAll c ms := rfl

/-- A parser that stands somewhere in a written stream, the bytes still to come, and the
messages still to be emitted. -/
inductive Sending (c : UInt32) : RtmpChunkParser → Bytes → List RtmpMessage → Prop where
  | between {p : RtmpChunkParser} {ms : List RtmpMessage} (size : p.inChunkSize = c)
      (sound : ∀ m ∈ ms, Relayable m) : Sending c p (encodeAll c ms) ms
  | inside {p : RtmpChunkParser} {m : RtmpMessage} {ms : List RtmpMessage} {b : Nat}
      (size : p.inChunkSize = c) (sound : ∀ m' ∈ m :: ms, Relayable m')
      (state : p.chunkStreams m.chunkStreamId = receiving m b) (begun : 0 < b)
      (unfinished : b < m.payload.length) :
      Sending c p (appendBasicHeader 3 m.chunkStreamId ++
        payloadChunks m.chunkStreamId c.toNat (m.payload.drop b) ++ encodeAll c ms) (m :: ms)

section Sending

variable {c : UInt32} {p : RtmpChunkParser} {m : RtmpMessage} {ms : List RtmpMessage} {b : Nat}

/-- From each position but the end the parser reads a whole chunk, which ends the first
message or takes it further. -/
theorem Sending.read {buf : Bytes} (hc : 1 ≤ c.toNat) (h : Sending c p buf (m :: ms)) :
    ∃ used p' r, readChunk p buf = .item used p' r ∧
      (r.message = some m ∧ Sending c p' (buf.drop used) ms ∨
        r.message = none ∧ Sending c p' (buf.drop used) (m :: ms)) := by
  cases h with
  | between size sound =>
      subst size
      have hm := sound m List.mem_cons_self
      obtain ⟨used, hused, hread⟩ := readChunk_encodeMessage (p := p) hm.sized hm.short hm.low
        hm.high hc
      rw [encodeAll_cons]
      by_cases hfits : m.payload.length ≤ p.inChunkSize.toNat
      · rw [if_pos hfits] at hread
        refine ⟨used, _, _, readChunk_append hread _, .inl ⟨rfl, ?_⟩⟩
        rw [List.drop_append_of_le_length (readChunk_used hread).2, hused, laterChunks,
          if_pos hfits]
        exact .between rfl fun m' hm' => sound m' (List.mem_cons_of_mem m hm')
      · rw [if_neg hfits] at hread
        refine ⟨used, _, _, readChunk_append hread _, .inr ⟨rfl, ?_⟩⟩
        rw [List.drop_append_of_le_length (readChunk_used hread).2, hused, laterChunks,
          if_neg hfits]
        exact .inside rfl sound (Function.update_self ..) hc (by omega)
  | @inside _ _ b size sound state begun unfinished =>
      subst size
      have hm := sound m List.mem_cons_self
      obtain ⟨used, hused, hread⟩ := readChunk_continuation hm.sized hm.low hm.high hm.early hc
        begun unfinished state
      by_cases hlast : m.payload.length - b ≤ p.inChunkSize.toNat
      · rw [if_pos hlast] at hread
        refine ⟨used, _, _, readChunk_append hread _, .inl ⟨rfl, ?_⟩⟩
        rw [List.drop_append_of_le_length (readChunk_used hread).2, hused, laterChunks,
          if_pos (by rw [List.length_drop]; exact hlast)]
        exact .between rfl fun m' hm' => sound m' (List.mem_cons_of_mem m hm')
      · rw [if_neg hlast] at hread
        refine ⟨used, _, _, readChunk_append hread _, .inr ⟨rfl, ?_⟩⟩
        rw [List.drop_append_of_le_length (readChunk_used hread).2, hused, laterChunks,
          if_neg (by rw [List.length_drop]; exact hlast), List.drop_drop]
        exact .inside rfl sound (Function.update_self ..) (by omega) (by omega)

/-- The reader stops at the end of a written stream only. -/
theorem Sending.stopped {buf : Bytes} (hc : 1 ≤ c.toNat) (h : Sending c p buf ms)
    (hstop : ∀ used p' r, chunkReader.read p buf ≠ .item used p' r) : buf = [] ∧ ms = [] := by
  cases ms with
  | nil =>
      cases h
      exact ⟨encodeAll_nil .., rfl⟩
  | cons m ms =>
      obtain ⟨used, p', r, hitem, -⟩ := h.read hc
      exact absurd hitem (hstop used p' r)

/-- A written stream is read to its end. -/
theorem Sending.drain {buf : Bytes} (hc : 1 ≤ c.toNat) (h : Sending c p buf ms) :
    (chunkReader.drain p buf).error = none ∧ (chunkReader.drain p buf).rest = [] ∧
      (chunkReader.drain p buf).items.filterMap ChunkRecord.message = ms := by
  induction p, buf using chunkReader.drain_induction generalizing ms with
  | more p buf hread =>
      obtain ⟨rfl, rfl⟩ := h.stopped hc fun _ _ _ hitem => by cases hitem.symm.trans hread
      rw [Reader.drain_nil]
      exact ⟨rfl, rfl, rfl⟩
  | fail p buf e hread =>
      obtain ⟨rfl, rfl⟩ := h.stopped hc fun _ _ _ hitem => by cases hitem.symm.trans hread
      rw [Reader.drain_nil]
      exact ⟨rfl, rfl, rfl⟩
  | item p buf used p' r hread ih =>
      rw [Reader.drain_of_item (R := chunkReader) hread]
      cases ms with
      | nil =>
          cases h
          cases hread.symm.trans (readChunk_nil p)
      | cons m ms =>
          obtain ⟨used', p'', r', hitem, hnext⟩ := h.read hc
          obtain ⟨rfl, rfl, rfl⟩ := Reading.item.inj (hitem.symm.trans hread)
          rcases hnext with ⟨hmessage, hnext⟩ | ⟨hmessage, hnext⟩
          · have hrest := ih hnext
            simpa [List.filterMap_cons, hmessage] using hrest
          · have hrest := ih hnext
            simpa [List.filterMap_cons, hmessage] using hrest

/-- At no position of a written stream is a header waiting that advances a timestamp. -/
theorem Sending.quiet {front tail : Bytes} (h : Sending c p (front ++ tail) ms) (csid : UInt32) :
    pending p front csid = 0 := by
  have still : ∀ header, parseBasicHeader (front ++ tail) = some header →
      headerAdvance (front.drop header.size) header.fmt (p.chunkStreams header.csid) = 0 := by
    generalize hbuf : front ++ tail = buf at h
    intro header hheader
    cases h with
    | between size sound =>
        cases ms with
        | nil => cases hheader
        | cons m ms =>
            have hm := sound m List.mem_cons_self
            rw [encodeAll_cons, encodeMessage_eq, List.append_assoc,
              parseBasicHeader_put 0 (by decide) hm.low hm.high] at hheader
            cases hheader
            simp [headerAdvance, kChunkHeaderType1, kChunkHeaderType2, kChunkHeaderType3]
    | @inside m _ b size sound state begun unfinished =>
        have hm := sound m List.mem_cons_self
        rw [List.append_assoc, parseBasicHeader_put 3 (by decide) hm.low hm.high] at hheader
        cases hheader
        have hread : (receiving m b).bytesRead ≠ 0 :=
          bytesRead_receiving begun (hm.sized ▸ Nat.le_of_lt unfinished)
        simp [headerAdvance, state, hread, kChunkHeaderType1, kChunkHeaderType2]
  unfold pending
  cases hheader : parseBasicHeader front with
  | none => rfl
  | some header =>
      dsimp only
      rw [still header (parseBasicHeader_append hheader tail)]
      exact congrFun (Function.update_eq_self header.csid _) csid

end Sending

/-- **Relayed streams survive every segmentation.** -/
theorem feed_encodeAll {c : UInt32} {ms : List RtmpMessage} (hc : 1 ≤ c)
    (sound : ∀ m ∈ ms, Relayable m) {segs : List Bytes} (cut : segs.flatten = encodeAll c ms) :
    (feed (({} : RtmpChunkParser).setInChunkSize c) [] segs).messages = ms ∧
      (feed (({} : RtmpChunkParser).setInChunkSize c) [] segs).buf = [] ∧
      (feed (({} : RtmpChunkParser).setInChunkSize c) [] segs).error = none := by
  generalize hp : ({} : RtmpChunkParser).setInChunkSize c = p
  have hc' : 1 ≤ c.toNat := by simpa [UInt32.le_iff_toNat_le] using hc
  have start : Sending c p segs.flatten ms := by
    rw [cut]
    exact .between (by rw [← hp]; rfl) sound
  obtain ⟨herror, hrest, hmessages⟩ := start.drain hc'
  cases segs with
  | nil =>
      rw [List.flatten_nil, Reader.drain_nil] at hmessages
      exact ⟨hmessages, rfl, rfl⟩
  | cons seg segs =>
      have quiet : QuietCuts p seg segs := by
        apply quietCuts_of_positions (Q := fun p buf => ∃ ms, Sending c p buf ms)
        · rintro p buf used p' r hread ⟨ms, h⟩
          cases ms with
          | nil =>
              cases h
              cases hread.symm.trans (readChunk_nil p)
          | cons m ms =>
              obtain ⟨used', p'', r', hitem, hnext⟩ := h.read hc'
              obtain ⟨rfl, rfl, rfl⟩ := Reading.item.inj (hitem.symm.trans hread)
              exact hnext.elim (fun h => ⟨_, h.2⟩) (fun h => ⟨_, h.2⟩)
        · rintro p front tail ⟨ms, h⟩
          exact h.quiet
        · exact ⟨ms, start⟩
      have same : settled (chunkReader.drain p ([] ++ seg)) =
          settled (chunkReader.drain (shift (fun _ => 0) p) ([] ++ seg)) := by
        rw [shift_zero]
      obtain ⟨hbuf, hfail, -, hiff⟩ := feed_displaced segs seg same
      have hwhole := (hiff.mpr (driftFree_of_quietCuts segs p ([] ++ seg) quiet)).2
      rw [List.nil_append, ← List.flatten_cons] at hbuf hfail hwhole
      exact ⟨hwhole.trans hmessages, hbuf.trans hrest, hfail.trans herror⟩

/-- Two messages on one csid, the second of three payload bytes in chunks of two, cut in front
of and behind the fmt=3 byte. -/
theorem feed_encodeAll_cut :
    (feed (({} : RtmpChunkParser).setInChunkSize 2) []
      [[4, 0, 0, 40, 0, 0, 0, 8, 1, 0, 0, 0, 4, 0, 0, 60, 0, 0, 3, 8, 1, 0, 0, 0, 7, 8], [0xC4],
        [9]]).messages = [⟨40, 0, 8, 1, 4, []⟩, ⟨60, 3, 8, 1, 4, [7, 8, 9]⟩] :=
  (feed_encodeAll (c := 2) (by decide)
    (by
      intro m hm
      rcases List.mem_cons.mp hm with rfl | hm
      · exact ⟨rfl, by decide, by decide, by decide, by decide⟩
      · obtain rfl := List.mem_singleton.mp hm
        exact ⟨rfl, by decide, by decide, by decide, by decide⟩)
    (by decide)).1

end Rmuduo.Rtmp
