/-
The copies of the chunk parser stay in bounds.

`parseOneChunk` copies `messageLength - bytesRead` bytes or less into the payload, and checks
neither that this difference makes sense nor that the payload has room. A header without its
extended timestamp writes a new `messageLength` and leaves `bytesRead` and the payload of the
message before: between two calls the state of a chunk stream may be torn.

* `parseOneChunk_of_copy` — what is noted of a copy is what it is made with.
* `Whole` — the state of a chunk stream is not torn.
* `Bounded` — only the chunk stream of the chunk at the front of the unread bytes may be torn,
  and that chunk then has a header which starts its message anew.
* `Bounded.parseOneChunk`, `Bounded.call` — every chunk and every call keeps it.
* `copies_in_bounds` — so every copy is in bounds, whatever is called in which order.
-/

import Rmuduo.Lib.System
import Rmuduo.Rtmp.ChunkReader

namespace Rmuduo.Rtmp

open Lib System

/-! ### Copies -/

/-- A copy of payload bytes: the state of the chunk stream before it, and the bytes from
`offset` to `offset + count` of the readable ones. -/
structure Copy where
  state : ChunkStreamState
  offset : Nat
  count : UInt32
  readable : Nat
deriving DecidableEq

/-- The copy that `parseOneChunk` makes, if it gets that far. -/
def copyOf (p : RtmpChunkParser) (buf : Bytes) : Option Copy :=
  match parseBasicHeader buf with
  | none => none
  | some header =>
      match parseMessageHeader (buf.drop header.size) header.fmt
          (p.chunkStreams header.csid) with
      | .error _ => none
      | .ok (state, messageHeaderSize) =>
          if ChunkComplete p header state messageHeaderSize buf then
            some ⟨state, header.size + messageHeaderSize, chunkPayload p.inChunkSize state,
              buf.length⟩
          else none

/-- The copies that are made in the loop of `parse`. -/
def copiesLoop : Nat → RtmpChunkParser → Bytes → List Copy
  | 0, _, _ => []
  | fuel + 1, p, buf =>
      if buf.length = 0 then []
      else
        match parseOneChunk p buf with
        | .error _ => []
        | .ok step =>
            (copyOf p buf).toList ++
              if step.buf.length = buf.length then []
              else copiesLoop fuel step.parser step.buf

/-- The difference does not wrap, and only readable bytes are copied, into the payload. -/
structure Copy.InBounds (copy : Copy) : Prop where
  read_le : copy.state.bytesRead ≤ copy.state.messageLength
  sized : copy.state.payload.length = copy.state.messageLength.toNat
  difference : (copy.state.messageLength - copy.state.bytesRead).toNat =
    copy.state.messageLength.toNat - copy.state.bytesRead.toNat
  source : copy.offset + copy.count.toNat ≤ copy.readable
  target : copy.state.bytesRead.toNat + copy.count.toNat ≤ copy.state.payload.length

section Copies

variable {p : RtmpChunkParser} {buf : Bytes}

theorem copyOf_some {copy : Copy} (h : copyOf p buf = some copy) : ∃ header state n,
    parseBasicHeader buf = some header ∧
      parseMessageHeader (buf.drop header.size) header.fmt (p.chunkStreams header.csid) =
        .ok (state, n) ∧
      ChunkComplete p header state n buf ∧
      copy = ⟨state, header.size + n, chunkPayload p.inChunkSize state, buf.length⟩ := by
  unfold copyOf at h
  cases hb : parseBasicHeader buf with
  | none =>
      rw [hb] at h
      cases h
  | some header =>
      rw [hb] at h
      dsimp only at h
      cases hm : parseMessageHeader (buf.drop header.size) header.fmt
          (p.chunkStreams header.csid) with
      | error e =>
          rw [hm] at h
          cases h
      | ok r =>
          obtain ⟨state, n⟩ := r
          rw [hm] at h
          dsimp only at h
          split at h
          · rename_i hc
            cases h
            exact ⟨header, state, n, rfl, hm, hc, rfl⟩
          · cases h

/-- **The copy that is made.** `takeChunk` is called with just these arguments, and it copies as many
bytes. -/
theorem parseOneChunk_of_copy {copy : Copy} (h : copyOf p buf = some copy) :
    copy.count = chunkPayload p.inChunkSize copy.state ∧ copy.readable = buf.length ∧
      ∃ header, parseBasicHeader buf = some header ∧
        parseOneChunk p buf = .ok (takeChunk p header.csid copy.state buf copy.offset) := by
  obtain ⟨header, state, n, hb, hm, hc, rfl⟩ := copyOf_some h
  refine ⟨rfl, rfl, header, hb, ?_⟩
  rw [parseOneChunk_eq, hb]
  dsimp only
  rw [hm]
  exact if_pos hc

/-- Where there is no copy, no chunk is taken. -/
theorem parseOneChunk_of_no_copy {step : ChunkStep} (h : copyOf p buf = none)
    (hstep : parseOneChunk p buf = .ok step) : step.buf = buf ∧ step.message = none := by
  unfold copyOf at h
  rw [parseOneChunk_eq] at hstep
  cases hb : parseBasicHeader buf with
  | none =>
      rw [hb] at hstep
      cases hstep
      exact ⟨rfl, rfl⟩
  | some header =>
      rw [hb] at h hstep
      dsimp only at h hstep
      cases hm : parseMessageHeader (buf.drop header.size) header.fmt
          (p.chunkStreams header.csid) with
      | error e =>
          rw [hm] at hstep
          cases hstep
      | ok r =>
          rw [hm] at h hstep
          dsimp only at h hstep
          split at h
          · cases h
          · rename_i hc
            rw [if_neg hc] at hstep
            cases hstep
            exact ⟨rfl, rfl⟩

end Copies

/-! ### Calls -/

/-- What is done with a parser and the buffer that it reads. -/
inductive ParserCall where
  | append (data : Bytes)
  | parse
  | setInChunkSize (chunkSize : UInt32)

/-- The parser and the unread bytes after a call. -/
def call (x : RtmpChunkParser × Bytes) : ParserCall → RtmpChunkParser × Bytes
  | .append data => (x.1, x.2 ++ data)
  | .parse =>
      let r := parse x.1 x.2
      (r.parser, r.buf)
  | .setInChunkSize chunkSize => (x.1.setInChunkSize chunkSize, x.2)

/-- The copies that a call makes. -/
def callCopies (x : RtmpChunkParser × Bytes) : ParserCall → List Copy
  | .parse => copiesLoop x.2.length x.1 x.2
  | _ => []

/-! ### States that are not torn -/

namespace ChunkStreamState

/-- Ready for a copy. -/
def Ready (s : ChunkStreamState) : Prop :=
  s.bytesRead ≤ s.messageLength ∧ s.payload.length = s.messageLength.toNat

/-- Ready, or at the end of a message, with the payload of the next one still to come. -/
def Whole (s : ChunkStreamState) : Prop :=
  s.Ready ∨ s.bytesRead = 0 ∧ s.payload = []

theorem ready_assignPayload {s : ChunkStreamState} (h : s.bytesRead = 0) :
    s.assignPayload.Ready := by
  refine ⟨?_, List.length_replicate⟩
  change s.bytesRead ≤ s.messageLength
  rw [h]
  exact UInt32.zero_le

/-- A fmt=3 header makes any state ready that is not torn. -/
theorem Whole.startAgain {s : ChunkStreamState} (h : s.Whole) : s.startAgain.Ready := by
  unfold ChunkStreamState.startAgain
  split
  · rename_i hstart
    exact ready_assignPayload hstart.1
  · rename_i hstart
    rcases h with hready | ⟨hread, hpayload⟩
    · exact hready
    · have hzero : s.messageLength = 0 := by
        by_contra hne
        exact hstart ⟨hread, UInt32.pos_iff_ne_zero.mpr hne⟩
      refine ⟨?_, ?_⟩
      · rw [hread]
        exact UInt32.zero_le
      · rw [hpayload, hzero]
        rfl

/-- Any other header makes every state ready. -/
theorem ready_of_completeHeader {data : Bytes} {fmt : UInt8} {s s' : ChunkStreamState} {n : Nat}
    (h : CompleteHeader data s fmt s' n) (hs : s.Whole ∨ fmt ≠ kChunkHeaderType3) : s'.Ready := by
  cases h with
  | type0 => exact ready_assignPayload rfl
  | type1 => exact ready_assignPayload rfl
  | type2 => exact ready_assignPayload rfl
  | type3 => exact (hs.resolve_right (not_not.mpr rfl)).startAgain
  | type3Extended => exact (hs.resolve_right (not_not.mpr rfl)).startAgain

/-- A copy moves a ready state on. -/
theorem Ready.copyPayload {s : ChunkStreamState} (h : s.Ready) {n : UInt32} {data : Bytes}
    (hdata : data.length = n.toNat)
    (hn : n.toNat ≤ s.messageLength.toNat - s.bytesRead.toNat) : (s.copyPayload n data).Ready := by
  obtain ⟨hread, hsized⟩ := h
  rw [UInt32.le_iff_toNat_le] at hread
  have hlt := s.messageLength.toNat_lt
  constructor
  · change s.bytesRead + n ≤ s.messageLength
    rw [UInt32.le_iff_toNat_le, UInt32.toNat_add]
    omega
  · change (s.payload.take s.bytesRead.toNat ++ data ++
      s.payload.drop (s.bytesRead.toNat + n.toNat)).length = s.messageLength.toNat
    simp only [List.length_append, List.length_take, List.length_drop]
    omega

end ChunkStreamState

/-! ### One chunk -/

/-- No chunk stream is torn but that of the chunk at the front, whose header starts its
message anew. -/
def Bounded (p : RtmpChunkParser) (buf : Bytes) : Prop :=
  ∀ csid, (p.chunkStreams csid).Whole ∨
    ∃ header, parseBasicHeader buf = some header ∧ header.csid = csid ∧
      header.fmt ≠ kChunkHeaderType3

section Chunk

variable {p : RtmpChunkParser} {buf : Bytes} {header : BasicHeader} {state : ChunkStreamState}
  {n : Nat}

/-- What `Bounded` says of the chunk at the front. -/
theorem Bounded.front (h : Bounded p buf) (hb : parseBasicHeader buf = some header) :
    (p.chunkStreams header.csid).Whole ∨ header.fmt ≠ kChunkHeaderType3 := by
  rcases h header.csid with hwhole | ⟨header', hb', -, hfmt⟩
  · exact .inl hwhole
  · rw [hb] at hb'
    cases hb'
    exact .inr hfmt

theorem Bounded.other (h : Bounded p buf) (hb : parseBasicHeader buf = some header)
    {csid : UInt32} (hne : csid ≠ header.csid) : (p.chunkStreams csid).Whole := by
  rcases h csid with hwhole | ⟨header', hb', rfl, -⟩
  · exact hwhole
  · rw [hb] at hb'
    cases hb'
    exact absurd rfl hne

/-- The header of a complete chunk makes the state ready. -/
theorem Bounded.ready (h : Bounded p buf) (hb : parseBasicHeader buf = some header)
    (hm : parseMessageHeader (buf.drop header.size) header.fmt (p.chunkStreams header.csid) =
      .ok (state, n)) (hc : ChunkComplete p header state n buf) : state.Ready :=
  ChunkStreamState.ready_of_completeHeader (completeHeader_iff.mpr ⟨hm, hc.1⟩) (h.front hb)

/-- The parser after a complete chunk: the chunk stream has moved on, or its message is
finished. -/
theorem takeChunk_whole (hready : state.Ready) (hc : ChunkComplete p header state n buf) :
    ∃ state', state'.Whole ∧ (takeChunk p header.csid state buf (header.size + n)).parser =
      p.setStream header.csid state' := by
  have hcount := toNat_chunkPayload hready.1 p.inChunkSize
  have hdata : ((buf.drop (header.size + n)).take (chunkPayload p.inChunkSize state).toNat).length =
      (chunkPayload p.inChunkSize state).toNat := by
    have hlen := hc.2.2
    rw [List.length_take, List.length_drop]
    omega
  have hmoved := hready.copyPayload hdata (by omega)
  unfold takeChunk
  dsimp only
  split
  · exact ⟨_, .inr ⟨rfl, rfl⟩, rfl⟩
  · exact ⟨_, .inl hmoved, rfl⟩

theorem bounded_setStream (hstate : state.Whole ∨ ∃ header', parseBasicHeader buf = some header' ∧
      header'.csid = header.csid ∧ header'.fmt ≠ kChunkHeaderType3)
    (hother : ∀ csid, csid ≠ header.csid → (p.chunkStreams csid).Whole) :
    Bounded (p.setStream header.csid state) buf := by
  intro csid
  by_cases hcsid : csid = header.csid
  · subst hcsid
    have hself : (p.setStream header.csid state).chunkStreams header.csid = state :=
      Function.update_self ..
    rw [hself]
    exact hstate
  · have hsame : (p.setStream header.csid state).chunkStreams csid = p.chunkStreams csid :=
      Function.update_of_ne hcsid ..
    rw [hsame]
    exact .inl (hother csid hcsid)

/-- A header that has been read as far as it goes tears no state that a fmt=3 header reads. -/
theorem touched_whole (hs : (p.chunkStreams header.csid).Whole)
    (hfmt : header.fmt = kChunkHeaderType3)
    (hm : parseMessageHeader (buf.drop header.size) header.fmt (p.chunkStreams header.csid) =
      .ok (state, n)) : state.Whole := by
  rw [hfmt] at hm
  rw [parseMessageHeader_ok_type3 hm]
  exact .inl hs.startAgain

theorem Bounded.parseOneChunk {step : ChunkStep} (h : Bounded p buf)
    (hstep : parseOneChunk p buf = .ok step) : Bounded step.parser step.buf := by
  rw [parseOneChunk_eq] at hstep
  cases hb : parseBasicHeader buf with
  | none =>
      rw [hb] at hstep
      cases hstep
      exact h
  | some header =>
      rw [hb] at hstep
      dsimp only at hstep
      cases hm : parseMessageHeader (buf.drop header.size) header.fmt
          (p.chunkStreams header.csid) with
      | error e =>
          rw [hm] at hstep
          cases hstep
      | ok r =>
          obtain ⟨state, n⟩ := r
          rw [hm] at hstep
          dsimp only at hstep
          split at hstep
          · rename_i hc
            cases hstep
            obtain ⟨state', hwhole, hparser⟩ := takeChunk_whole (h.ready hb hm hc) hc
            rw [hparser]
            exact bounded_setStream (.inl hwhole) fun csid hne => h.other hb hne
          · cases hstep
            refine bounded_setStream ?_ fun csid hne => h.other hb hne
            by_cases hfmt : header.fmt = kChunkHeaderType3
            · have hwhole := (h.front hb).resolve_right (not_not.mpr hfmt)
              exact .inl (touched_whole hwhole hfmt hm)
            · exact .inr ⟨header, hb, rfl, hfmt⟩

theorem Bounded.copyOf {copy : Copy} (h : Bounded p buf) (hcopy : copyOf p buf = some copy) :
    copy.InBounds := by
  obtain ⟨header, state, n, hb, hm, hc, rfl⟩ := copyOf_some hcopy
  obtain ⟨hread, hsized⟩ := h.ready hb hm hc
  have hcount := toNat_chunkPayload hread p.inChunkSize
  refine ⟨hread, hsized, UInt32.toNat_sub_of_le _ _ hread, hc.2.2, ?_⟩
  rw [UInt32.le_iff_toNat_le] at hread
  dsimp only
  omega

end Chunk

/-! ### Whole runs -/

theorem Bounded.parseLoop {p : RtmpChunkParser} {buf : Bytes} (h : Bounded p buf) (fuel : Nat) :
    Bounded (parseLoop fuel p buf).parser (parseLoop fuel p buf).buf := by
  induction fuel generalizing p buf with
  | zero => exact h
  | succ fuel ih =>
      rw [Rmuduo.Rtmp.parseLoop]
      split
      · exact h
      · split
        · exact h
        · rename_i step hstep
          split
          · exact h.parseOneChunk hstep
          · exact ih (h.parseOneChunk hstep)

theorem Bounded.copiesLoop {p : RtmpChunkParser} {buf : Bytes} (h : Bounded p buf) (fuel : Nat) :
    ∀ copy ∈ copiesLoop fuel p buf, copy.InBounds := by
  induction fuel generalizing p buf with
  | zero =>
      intro copy hcopy
      cases hcopy
  | succ fuel ih =>
      intro copy hcopy
      rw [Rmuduo.Rtmp.copiesLoop] at hcopy
      split at hcopy
      · cases hcopy
      · split at hcopy
        · cases hcopy
        · rename_i step hstep
          rcases List.mem_append.mp hcopy with hfirst | hlater
          · exact h.copyOf (Option.mem_toList.mp hfirst)
          · split at hlater
            · cases hlater
            · exact ih (h.parseOneChunk hstep) copy hlater

/-- More bytes leave the chunk at the front where it is. -/
theorem Bounded.append {p : RtmpChunkParser} {buf : Bytes} (h : Bounded p buf) (data : Bytes) :
    Bounded p (buf ++ data) := by
  intro csid
  rcases h csid with hwhole | ⟨header, hb, hcsid, hfmt⟩
  · exact .inl hwhole
  · exact .inr ⟨header, parseBasicHeader_append hb data, hcsid, hfmt⟩

theorem Bounded.call {x : RtmpChunkParser × Bytes} (h : Bounded x.1 x.2) (c : ParserCall) :
    Bounded (call x c).1 (call x c).2 := by
  cases c with
  | append data => exact h.append data
  | parse => exact h.parseLoop x.2.length
  | setInChunkSize chunkSize => exact h

theorem bounded_init : Bounded {} [] := by
  intro csid
  exact .inl (.inr ⟨rfl, rfl⟩)

/-- **Chunk reassembly stays in bounds.** Whatever is appended, parsed and set in which order,
every copy of payload bytes reads readable bytes and writes into the payload, and the number of
bytes that are left of the message is not negative. -/
theorem copies_in_bounds (calls : List ParserCall) :
    ∀ copy ∈ collect call callCopies ({}, []) calls, copy.InBounds := by
  have hall : ∀ (x : RtmpChunkParser × Bytes), Bounded x.1 x.2 →
      ∀ copy ∈ collect call callCopies x calls, copy.InBounds := by
    induction calls with
    | nil =>
        intro x _ copy hcopy
        cases hcopy
    | cons c calls ih =>
        intro x hx copy hcopy
        rcases List.mem_append.mp hcopy with hnow | hlater
        · cases c with
          | append data => cases hnow
          | parse => exact hx.copiesLoop x.2.length copy hnow
          | setInChunkSize chunkSize => cases hnow
        · exact ih (call x c) (hx.call c) copy hlater
  exact hall ({}, []) bounded_init

/-- Two of three bytes of a message, and the header of a message of one byte, of which the
extended timestamp and the payload come later. -/
def tornCalls : List ParserCall :=
  [.setInChunkSize 2,
    .append ([0x03, 0, 0, 0, 0, 0, 3, 9, 0, 0, 0, 0, 7, 7] ++
      [0x03, 0xFF, 0xFF, 0xFF, 0, 0, 1, 9, 0, 0, 0, 0]), .parse,
    .append [1, 0, 0, 0, 8], .parse]

/-- After the first of its two `parse` calls the chunk stream is torn. -/
example : let s := (run call ({}, []) (tornCalls.take 3)).1.chunkStreams 3
    s.messageLength < s.bytesRead := by
  decide +kernel

/-- The last copy is that of the second message. -/
theorem copies_in_bounds_torn :
    ((collect call callCopies ({}, []) tornCalls).getLast (by decide +kernel)).InBounds :=
  copies_in_bounds tornCalls _ (List.getLast_mem _)

end Rmuduo.Rtmp
