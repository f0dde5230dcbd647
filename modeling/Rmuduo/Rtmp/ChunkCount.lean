/-
How many chunks a message takes.

The chunks that the parser takes are put on record, each with the chunk size in force and the
state of its chunk stream in front of its payload.

* `Continues` — where a chunk stream stands after its last chunk.
* `Ledger` — what the parser holds of each chunk stream is what the record says of it, but for
  the one whose next chunk is at the front with a header that starts a message.
* `Ledger.parse`, `Ledger.append` — every call keeps it.
* `messageChunks` — the chunks of the message that a chunk stream is at.
* `completed_iff` — a message of `n` bytes in chunks of one size is complete with the `n`-th part
  of it, rounded up, and with one chunk at least.
-/

import Mathlib.Algebra.Order.Floor.Div
import Mathlib.Data.List.Induction
import Rmuduo.Lib.Recent
import Rmuduo.Rtmp.ChunkBounds

namespace Rmuduo.Rtmp

open Lib System

/-! ### The record -/

/-- A chunk that `parseOneChunk` has taken: the chunk size in force, the state of its chunk
stream in front of the payload, and the message that it completes. -/
structure TakenChunk where
  fmt : UInt8
  csid : UInt32
  inChunkSize : UInt32
  state : ChunkStreamState
  message : Option RtmpMessage
deriving DecidableEq

namespace TakenChunk

/-- `bytesRead` when the payload has been copied. -/
def read (chunk : TakenChunk) : UInt32 :=
  chunk.state.bytesRead + chunkPayload chunk.inChunkSize chunk.state

/-- `bytesRead` as the chunk leaves it. -/
def left (chunk : TakenChunk) : UInt32 := if chunk.message.isSome then 0 else chunk.read

/-- What a chunk in whose state no more has been read than there is brings. -/
theorem toNat_read {chunk : TakenChunk} (h : chunk.state.bytesRead ≤ chunk.state.messageLength) :
    chunk.read.toNat = chunk.state.bytesRead.toNat +
      min (chunk.state.messageLength.toNat - chunk.state.bytesRead.toNat)
        chunk.inChunkSize.toNat := by
  have hcount := toNat_chunkPayload h chunk.inChunkSize
  have hlt := chunk.state.messageLength.toNat_lt
  rw [UInt32.le_iff_toNat_le] at h
  rw [read, UInt32.toNat_add, hcount]
  omega

/-- A chunk that can carry something does. -/
theorem read_lt {chunk : TakenChunk} (h : chunk.state.bytesRead < chunk.state.messageLength)
    (size : 1 ≤ chunk.inChunkSize) : chunk.state.bytesRead < chunk.read := by
  have hread := toNat_read (UInt32.le_of_lt h)
  have hone : (1 : UInt32).toNat = 1 := rfl
  rw [UInt32.lt_iff_toNat_lt] at h ⊢
  rw [UInt32.le_iff_toNat_le] at size
  omega

end TakenChunk

/-- The chunk that `parseOneChunk` takes from the front of the buffer. -/
def takenAt (p : RtmpChunkParser) (buf : Bytes) : Option TakenChunk :=
  match parseBasicHeader buf with
  | none => none
  | some header =>
      match parseMessageHeader (buf.drop header.size) header.fmt
          (p.chunkStreams header.csid) with
      | .error _ => none
      | .ok (state, n) =>
          if ChunkComplete p header state n buf then
            some ⟨header.fmt, header.csid, p.inChunkSize, state,
              (takeChunk p header.csid state buf (header.size + n)).message⟩
          else none

/-- The chunks that a call of `parse` takes. -/
def takenChunks (p : RtmpChunkParser) (buf : Bytes) : List TakenChunk :=
  (chunkReader.positions p buf).filterMap fun x => takenAt x.1 x.2

section Taking

variable {p p' : RtmpChunkParser} {buf : Bytes} {used : Nat} {r : ChunkRecord}

/-- A chunk that is read is put on record. -/
theorem takenAt_of_item (h : readChunk p buf = .item used p' r) :
    ∃ header state n, parseBasicHeader buf = some header ∧
      CompleteHeader (buf.drop header.size) (p.chunkStreams header.csid) header.fmt state n ∧
      ChunkComplete p header state n buf ∧
      p' = (takeChunk p header.csid state buf (header.size + n)).parser ∧
      r = ⟨header.fmt, header.csid,
        (takeChunk p header.csid state buf (header.size + n)).message⟩ ∧
      takenAt p buf = some ⟨header.fmt, header.csid, p.inChunkSize, state,
        (takeChunk p header.csid state buf (header.size + n)).message⟩ := by
  obtain ⟨header, state, n, hb, hm, hc, -, hp', hr⟩ := readChunk_item h
  refine ⟨header, state, n, hb, completeHeader_iff.mpr ⟨hm, hc.1⟩, hc, hp', hr, ?_⟩
  rw [takenAt, hb]
  dsimp only
  rw [hm]
  exact if_pos hc

/-- Where no chunk is read, none is taken. -/
theorem takenAt_eq_none (h : ∀ used p' r, readChunk p buf ≠ .item used p' r) :
    takenAt p buf = none := by
  unfold readChunk at h
  unfold takenAt
  split
  · rfl
  · rename_i header hb
    rw [hb] at h
    dsimp only at h
    split
    · rfl
    · rename_i state n hm
      rw [hm] at h
      dsimp only at h
      split
      · rename_i hc
        rw [if_pos hc] at h
        exact absurd rfl (h _ _ _)
      · rfl

theorem takenChunks_of_stop (h : ∀ used p' r, readChunk p buf ≠ .item used p' r) :
    takenChunks p buf = [] := by
  have hstop : chunkReader.positions p buf = [(p, buf)] := by
    rw [Reader.positions]
    split
    · rfl
    · rfl
    · rename_i hread
      exact absurd hread (h _ _ _)
  rw [takenChunks, hstop]
  simp [takenAt_eq_none h]

theorem takenChunks_of_item (h : readChunk p buf = .item used p' r) :
    takenChunks p buf = (takenAt p buf).toList ++ takenChunks p' (buf.drop used) := by
  rw [takenChunks, Reader.positions_of_item (R := chunkReader) h, List.filterMap_cons]
  cases takenAt p buf <;> rfl

/-- A call takes all its chunks with one size. -/
theorem inChunkSize_of_mem_takenChunks {chunk : TakenChunk} (h : chunk ∈ takenChunks p buf) :
    chunk.inChunkSize = p.inChunkSize := by
  induction p, buf using Reader.drain_induction (R := chunkReader) with
  | more p buf hread =>
      rw [takenChunks_of_stop fun _ _ _ hitem => by cases hread.symm.trans hitem] at h
      cases h
  | fail p buf e hread =>
      rw [takenChunks_of_stop fun _ _ _ hitem => by cases hread.symm.trans hitem] at h
      cases h
  | item p buf used p' r hread ih =>
      obtain ⟨header, state, n, -, -, -, hp', -, htaken⟩ := takenAt_of_item hread
      rw [takenChunks_of_item hread, htaken, Option.toList_some] at h
      rcases List.mem_append.mp h with hfirst | hlater
      · rw [List.mem_singleton.mp hfirst]
      · rw [ih hlater, hp']
        exact takeChunk_inChunkSize ..

/-- The messages that `parse` returns are those that the chunks complete. -/
theorem messages_takenChunks (p : RtmpChunkParser) (buf : Bytes) :
    (takenChunks p buf).filterMap TakenChunk.message = (parse p buf).messages := by
  rw [parse_eq_drain]
  change _ = (chunkReader.drain p buf).items.filterMap ChunkRecord.message
  induction p, buf using Reader.drain_induction (R := chunkReader) with
  | more p buf h =>
      have hstop : ∀ used p' r, readChunk p buf ≠ .item used p' r := by
        intro used p' r hread
        cases h.symm.trans hread
      rw [takenChunks_of_stop hstop, Reader.drain_of_more h]
      rfl
  | fail p buf e h =>
      have hstop : ∀ used p' r, readChunk p buf ≠ .item used p' r := by
        intro used p' r hread
        cases h.symm.trans hread
      rw [takenChunks_of_stop hstop, Reader.drain_of_fail h]
      rfl
  | item p buf used p' r h ih =>
      obtain ⟨header, state, n, -, -, -, -, rfl, htaken⟩ := takenAt_of_item h
      rw [takenChunks_of_item h, Reader.drain_of_item h, htaken, Option.toList_some,
        List.filterMap_append, ih, Drained.prepend_items, List.filterMap_append]
      rfl

end Taking

/-! ### What the record says of a chunk stream -/

/-- How a chunk stream stands after its last chunk. -/
structure Continues (last : Option TakenChunk) (s : ChunkStreamState) : Prop where
  bytesRead : s.bytesRead = (last.map TakenChunk.left).getD 0
  messageLength : ∀ chunk ∈ last, s.messageLength = chunk.state.messageLength

/-- What is taken next: a chunk that starts a message, or goes on where its chunk stream is. -/
structure TakenNext (before : List TakenChunk) (chunk : TakenChunk) : Prop where
  starts : chunk.fmt ≠ kChunkHeaderType3 → chunk.state.bytesRead = 0
  goesOn : chunk.fmt = kChunkHeaderType3 →
    Continues (latest (fun x => x.csid = chunk.csid) before) chunk.state
  read_le : chunk.state.bytesRead ≤ chunk.state.messageLength
  completes : chunk.message.isSome ↔ chunk.read = chunk.state.messageLength

/-- What the parser holds of the chunk streams is what is on record, but for the one whose next
chunk is at the front and starts a message. -/
structure Ledger (p : RtmpChunkParser) (buf : Bytes) (history : List TakenChunk) : Prop where
  bounded : Bounded p buf
  continues : ∀ csid, Continues (latest (fun x => x.csid = csid) history) (p.chunkStreams csid) ∨
    ∃ header, parseBasicHeader buf = some header ∧ header.csid = csid ∧
      header.fmt ≠ kChunkHeaderType3
  explained : Explained TakenNext history

section Keeping

variable {p p' : RtmpChunkParser} {buf : Bytes} {history : List TakenChunk} {used : Nat}
  {r : ChunkRecord} {header : BasicHeader} {state s : ChunkStreamState} {n : Nat}

theorem Continues.congr {last : Option TakenChunk} (h : Continues last s)
    (bytesRead : state.bytesRead = s.bytesRead)
    (messageLength : state.messageLength = s.messageLength) : Continues last state where
  bytesRead := bytesRead.trans h.bytesRead
  messageLength chunk hchunk := messageLength.trans (h.messageLength chunk hchunk)

theorem Ledger.front (h : Ledger p buf history) (hb : parseBasicHeader buf = some header)
    (hfmt : header.fmt = kChunkHeaderType3) :
    Continues (latest (fun x => x.csid = header.csid) history) (p.chunkStreams header.csid) := by
  rcases h.continues header.csid with hcontinues | ⟨header', hb', -, hother⟩
  · exact hcontinues
  · rw [hb] at hb'
    cases hb'
    exact absurd hfmt hother

theorem Ledger.other (h : Ledger p buf history) (hb : parseBasicHeader buf = some header)
    {csid : UInt32} (hne : csid ≠ header.csid) :
    Continues (latest (fun x => x.csid = csid) history) (p.chunkStreams csid) := by
  rcases h.continues csid with hcontinues | ⟨header', hb', rfl, -⟩
  · exact hcontinues
  · rw [hb] at hb'
    cases hb'
    exact absurd rfl hne

theorem takeChunk_completes (p : RtmpChunkParser) (csid : UInt32) (state : ChunkStreamState)
    (buf : Bytes) (offset : Nat) : (takeChunk p csid state buf offset).message.isSome ↔
      state.bytesRead + chunkPayload p.inChunkSize state = state.messageLength := by
  unfold takeChunk
  dsimp only
  split
  · rename_i h
    exact ⟨fun _ => h, fun _ => rfl⟩
  · rename_i h
    refine ⟨fun hsome => (by cases hsome), fun hread => absurd hread h⟩

/-- What a chunk leaves of its chunk stream. -/
theorem takeChunk_continues (p : RtmpChunkParser) (header : BasicHeader)
    (state : ChunkStreamState) (buf : Bytes) (offset : Nat) :
    Continues (some ⟨header.fmt, header.csid, p.inChunkSize, state,
        (takeChunk p header.csid state buf offset).message⟩)
      ((takeChunk p header.csid state buf offset).parser.chunkStreams header.csid) := by
  unfold takeChunk
  dsimp only
  split
  · constructor
    · simp [RtmpChunkParser.setStream, TakenChunk.left]
    · intro chunk hchunk
      cases hchunk
      simp [RtmpChunkParser.setStream, ChunkStreamState.copyPayload]
  · constructor
    · simp [RtmpChunkParser.setStream, TakenChunk.left, TakenChunk.read,
        ChunkStreamState.copyPayload]
    · intro chunk hchunk
      cases hchunk
      simp [RtmpChunkParser.setStream, ChunkStreamState.copyPayload]

/-- A header that starts a message, or the fmt=3 header. -/
theorem CompleteHeader.starts {data : Bytes} {fmt : UInt8}
    (h : CompleteHeader data s fmt state n) (hfmt : fmt ≠ kChunkHeaderType3) :
    state.bytesRead = 0 := by
  cases h with
  | type0 => rfl
  | type1 => rfl
  | type2 => rfl
  | type3 => exact absurd rfl hfmt
  | type3Extended => exact absurd rfl hfmt

theorem bounded_of_item (h : Bounded p buf) (hread : readChunk p buf = .item used p' r) :
    Bounded p' (buf.drop used) := by
  have hstep : parseOneChunk p buf = .ok ⟨p', buf.drop used, r.message⟩ := by
    rw [parseOneChunk_eq_readChunk, hread]
  exact h.parseOneChunk hstep

/-- One more chunk. -/
theorem Ledger.item (h : Ledger p buf history) (hread : readChunk p buf = .item used p' r) :
    Ledger p' (buf.drop used) (history ++ (takenAt p buf).toList) := by
  obtain ⟨header, state, n, hb, hheader, hc, hp', rfl, htaken⟩ := takenAt_of_item hread
  have hframe {csid : UInt32} (hne : csid ≠ header.csid) :
      p'.chunkStreams csid = p.chunkStreams csid := by
    rw [hp']
    unfold takeChunk
    dsimp only
    split <;> exact Function.update_of_ne hne ..
  rw [htaken, Option.toList_some]
  refine ⟨bounded_of_item h.bounded hread, ?_, h.explained.concat ?_⟩
  · intro csid
    left
    rw [latest_concat]
    by_cases hcsid : csid = header.csid
    · rw [hcsid, if_pos (decide_eq_true rfl), hp']
      exact takeChunk_continues ..
    · rw [if_neg fun hsame => hcsid (of_decide_eq_true hsame).symm, hframe hcsid]
      exact h.other hb hcsid
  · constructor
    · intro hfmt
      exact hheader.starts hfmt
    · intro hfmt
      have hfmt : header.fmt = kChunkHeaderType3 := hfmt
      obtain ⟨hagain, -⟩ := (hfmt ▸ hheader).of_type3
      apply (h.front hb hfmt).congr
      · rw [hagain, ChunkStreamState.startAgain_bytesRead]
      · rw [hagain, ChunkStreamState.startAgain_messageLength]
    · exact (ChunkStreamState.ready_of_completeHeader hheader (h.bounded.front hb)).1
    · exact takeChunk_completes ..

/-- All chunks that a call takes. -/
theorem Ledger.drain (h : Ledger p buf history) :
    Ledger (chunkReader.drain p buf).state (chunkReader.drain p buf).rest
      (history ++ takenChunks p buf) := by
  induction p, buf using Reader.drain_induction (R := chunkReader) generalizing history with
  | more p buf hread =>
      rw [Reader.drain_of_more hread, takenChunks_of_stop (fun _ _ _ hitem => by
        cases hread.symm.trans hitem), List.append_nil]
      exact h
  | fail p buf e hread =>
      rw [Reader.drain_of_fail hread, takenChunks_of_stop (fun _ _ _ hitem => by
        cases hread.symm.trans hitem), List.append_nil]
      exact h
  | item p buf used p' r hread ih =>
      rw [Reader.drain_of_item hread, takenChunks_of_item hread, ← List.append_assoc]
      exact ih (h.item hread)

/-- The mark of an incomplete chunk. -/
theorem Ledger.touch (h : Ledger p buf history) (hbounded : Bounded (touch p buf) buf) :
    Ledger (touch p buf) buf history := by
  refine ⟨hbounded, ?_, h.explained⟩
  intro csid
  unfold Rmuduo.Rtmp.touch
  split
  · exact h.continues csid
  · rename_i header hb
    split
    · exact h.continues csid
    · rename_i state n hm
      by_cases hcsid : csid = header.csid
      · by_cases hfmt : header.fmt = kChunkHeaderType3
        · left
          rw [hfmt] at hm
          have hself : (p.setStream header.csid state).chunkStreams header.csid =
              (p.chunkStreams header.csid).startAgain :=
            (Function.update_self ..).trans (parseMessageHeader_ok_type3 hm)
          rw [hcsid, hself]
          exact (h.front hb hfmt).congr (ChunkStreamState.startAgain_bytesRead _)
            (ChunkStreamState.startAgain_messageLength _)
        · exact .inr ⟨header, hb, hcsid.symm, hfmt⟩
      · have hsame : (p.setStream header.csid state).chunkStreams csid = p.chunkStreams csid :=
          Function.update_of_ne hcsid ..
        rw [hsame]
        exact .inl (h.other hb hcsid)

theorem Ledger.parse (h : Ledger p buf history) :
    Ledger (parse p buf).parser (parse p buf).buf (history ++ takenChunks p buf) := by
  have hbounded : Bounded (Rmuduo.Rtmp.parse p buf).parser (Rmuduo.Rtmp.parse p buf).buf :=
    h.bounded.parseLoop buf.length
  rw [parse_eq_drain] at hbounded ⊢
  exact h.drain.touch hbounded

theorem Ledger.append (h : Ledger p buf history) (data : Bytes) :
    Ledger p (buf ++ data) history := by
  refine ⟨h.bounded.append data, ?_, h.explained⟩
  intro csid
  rcases h.continues csid with hcontinues | ⟨header, hb, hcsid, hfmt⟩
  · exact .inl hcontinues
  · exact .inr ⟨header, parseBasicHeader_append hb data, hcsid, hfmt⟩

theorem Ledger.setInChunkSize (h : Ledger p buf history) (chunkSize : UInt32) :
    Ledger (p.setInChunkSize chunkSize) buf history :=
  ⟨h.bounded, h.continues, h.explained⟩

/-- A parser that has read nothing yet. -/
theorem ledger_init (buf : Bytes) : Ledger {} buf [] := by
  refine ⟨bounded_init.append buf, ?_, explained_nil _⟩
  intro csid
  exact .inl ⟨rfl, fun chunk hchunk => by cases hchunk⟩

end Keeping

/-! ### The chunks of a message -/

/-- The message that a chunk stream is at, with one more chunk: the chunk starts a message, or
what there is has been completed, or it goes on. -/
def extend (message : List TakenChunk) (chunk : TakenChunk) : List TakenChunk :=
  if chunk.fmt ≠ kChunkHeaderType3 ∨ message.getLast?.any (·.message.isSome) then [chunk]
  else message ++ [chunk]

/-- The chunks of the message that a chunk stream is at, or has just completed. -/
def messageChunks (csid : UInt32) (history : List TakenChunk) : List TakenChunk :=
  (history.filter fun chunk => chunk.csid = csid).foldl extend []

/-- How many chunks of a size a message of `n` bytes takes. -/
def chunksNeeded (n : Nat) (size : Nat) : Nat := max 1 (n ⌈/⌉ size)

section Counting

variable {history : List TakenChunk} {chunk : TakenChunk} {csid size : UInt32}

theorem messageChunks_concat (csid : UInt32) (history : List TakenChunk) (chunk : TakenChunk) :
    messageChunks csid (history ++ [chunk]) =
      if chunk.csid = csid then extend (messageChunks csid history) chunk
      else messageChunks csid history := by
  unfold messageChunks
  rw [List.filter_append]
  by_cases h : chunk.csid = csid
  · simp [h]
  · simp [h]

theorem getLast?_extend (message : List TakenChunk) (chunk : TakenChunk) :
    (extend message chunk).getLast? = some chunk := by
  unfold extend
  split <;> simp

theorem getLast?_messageChunks (csid : UInt32) (history : List TakenChunk) :
    (messageChunks csid history).getLast? = latest (fun x => x.csid = csid) history := by
  induction history using List.reverseRecOn with
  | nil => rfl
  | append_singleton history chunk ih =>
      rw [messageChunks_concat, latest_concat]
      by_cases h : chunk.csid = csid
      · rw [if_pos h, if_pos (decide_eq_true h), getLast?_extend]
      · rw [if_neg h, if_neg fun hsame => h (of_decide_eq_true hsame), ih]

/-- In chunks of one size, the last one stands behind those before it, and these are not the
whole message. -/
def Filled (size : UInt32) (message : List TakenChunk) : Prop :=
  (∀ chunk ∈ message, chunk.inChunkSize = size) → ∀ chunk ∈ message.getLast?,
    chunk.state.bytesRead.toNat = (message.length - 1) * size.toNat ∧
      (message.length = 1 ∨
        (message.length - 1) * size.toNat < chunk.state.messageLength.toNat)

theorem length_of_getLast? {message : List TakenChunk} (h : message.getLast? = some chunk) :
    ∃ k, message.length = k + 1 := by
  apply Nat.exists_eq_succ_of_ne_zero
  intro hzero
  rw [List.eq_nil_of_length_eq_zero hzero] at h
  cases h

theorem filled_singleton (h : chunk.state.bytesRead = 0) : Filled size [chunk] := by
  intro _ last hlast
  obtain rfl : chunk = last := by simpa using hlast
  rw [h]
  exact ⟨by simp, .inl rfl⟩

/-- A chunk that does not complete its message has carried as much as it can. -/
theorem filled_append {message : List TakenChunk} {last : TakenChunk} (h : Filled size message)
    (hlast : message.getLast? = some last)
    (hread : last.state.bytesRead ≤ last.state.messageLength)
    (unfinished : last.read ≠ last.state.messageLength)
    (bytesRead : chunk.state.bytesRead = last.read)
    (messageLength : chunk.state.messageLength = last.state.messageLength) :
    Filled size (message ++ [chunk]) := by
  intro hsize chunk' hchunk'
  rw [List.getLast?_concat] at hchunk'
  cases hchunk'
  obtain ⟨hbefore, -⟩ := h (fun x hx => hsize x (List.mem_append_left _ hx)) last hlast
  have hlastSize : last.inChunkSize = size :=
    hsize last (List.mem_append_left _ (List.mem_of_getLast? hlast))
  have hcarried := TakenChunk.toNat_read hread
  have hopen : last.read.toNat ≠ last.state.messageLength.toNat := fun heq =>
    unfinished (UInt32.toNat_inj.mp heq)
  obtain ⟨k, hk⟩ := length_of_getLast? hlast
  rw [UInt32.le_iff_toNat_le] at hread
  rw [hlastSize] at hcarried
  rw [hk, Nat.add_sub_cancel] at hbefore
  rw [List.length_append, List.length_singleton, hk, Nat.add_sub_cancel, bytesRead, messageLength,
    Nat.succ_mul]
  omega

/-- In a record, every message is filled from its first chunk on. -/
theorem filled_messageChunks (h : Explained TakenNext history) (csid size : UInt32) :
    Filled size (messageChunks csid history) := by
  induction history using List.reverseRecOn with
  | nil =>
      intro _ chunk hchunk
      cases hchunk
  | append_singleton history chunk ih =>
      have hfilled := ih h.front
      have hnext : TakenNext history chunk := h history chunk [] rfl
      rw [messageChunks_concat]
      split
      · rename_i hcsid
        have hlast := getLast?_messageChunks csid history
        unfold extend
        by_cases hfmt : chunk.fmt = kChunkHeaderType3
        · have hgoesOn := hcsid ▸ hnext.goesOn hfmt
          rw [hlast]
          cases hlatest : latest (fun x => x.csid = csid) history with
          | none =>
              rw [hlatest] at hlast hgoesOn
              rw [List.getLast?_eq_none_iff.mp hlast]
              simp only [Option.any_none, Bool.false_eq_true, or_false, List.nil_append, ite_self]
              exact filled_singleton hgoesOn.bytesRead
          | some last =>
              rw [hlatest] at hlast hgoesOn
              have hbytes : chunk.state.bytesRead = last.left := hgoesOn.bytesRead
              rw [Option.any_some]
              cases hdone : last.message.isSome with
              | true =>
                  rw [if_pos (.inr rfl)]
                  apply filled_singleton
                  rw [hbytes, TakenChunk.left, if_pos hdone]
              | false =>
                  obtain ⟨before, after, hsplit⟩ := List.append_of_mem (latest_mem hlatest)
                  have hlastNext : TakenNext before last := h.front before last after hsplit
                  rw [if_neg fun hstart => hstart.elim (fun hne => hne hfmt) (by simp)]
                  apply filled_append hfilled hlast hlastNext.read_le
                  · intro hread
                    rw [hlastNext.completes.mpr hread] at hdone
                    cases hdone
                  · rw [hbytes, TakenChunk.left, if_neg (Bool.eq_false_iff.mp hdone)]
                  · exact hgoesOn.messageLength last rfl
        · rw [if_pos (.inl hfmt)]
          exact filled_singleton (hnext.starts hfmt)
      · exact hfilled

/-- A message in chunks of one size is complete with its last chunk, and with no other. -/
theorem completed_iff {before : List TakenChunk}
    (h : Explained TakenNext (before ++ [chunk])) (hpos : 0 < size.toNat)
    (hsize : ∀ x ∈ messageChunks chunk.csid (before ++ [chunk]), x.inChunkSize = size) :
    (chunk.message.isSome ↔ (messageChunks chunk.csid (before ++ [chunk])).length =
        chunksNeeded chunk.state.messageLength.toNat size.toNat) ∧
      (messageChunks chunk.csid (before ++ [chunk])).length ≤
        chunksNeeded chunk.state.messageLength.toNat size.toNat := by
  have hnext : TakenNext before chunk := h before chunk [] rfl
  have hlast : (messageChunks chunk.csid (before ++ [chunk])).getLast? = some chunk := by
    rw [getLast?_messageChunks, latest_concat, if_pos (decide_eq_true rfl)]
  obtain ⟨hbefore, hopen⟩ := filled_messageChunks h chunk.csid size hsize chunk hlast
  have hchunk := hsize chunk (List.mem_of_getLast? hlast)
  have hread := hnext.read_le
  have hcarried := TakenChunk.toNat_read hread
  rw [UInt32.le_iff_toNat_le] at hread
  rw [hchunk] at hcarried
  obtain ⟨k, hk⟩ := length_of_getLast? hlast
  rw [hk, Nat.add_sub_cancel] at hbefore hopen
  have hneeded (m : Nat) : chunksNeeded chunk.state.messageLength.toNat size.toNat ≤ m + 1 ↔
      chunk.state.messageLength.toNat ≤ (m + 1) * size.toNat := by
    rw [chunksNeeded, max_le_iff, ceilDiv_le_iff_le_mul hpos, Nat.mul_comm]
    exact and_iff_right (Nat.le_add_left 1 m)
  have hle : k + 1 ≤ chunksNeeded chunk.state.messageLength.toNat size.toNat := by
    cases k with
    | zero => exact Nat.le_max_left 1 _
    | succ k =>
        by_contra hlt
        have henough := (hneeded k).mp (by omega)
        omega
  rw [hk, hnext.completes, ← UInt32.toNat_inj, hcarried, hbefore]
  refine ⟨?_, hle⟩
  have hlast := hneeded k
  rw [Nat.succ_mul] at hlast
  omega

end Counting

end Rmuduo.Rtmp
