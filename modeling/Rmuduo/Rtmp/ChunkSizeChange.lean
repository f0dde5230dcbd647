/-
When a new chunk size takes effect.

`onMessage` parses all that is in the buffer with one chunk size and handles the messages
afterwards, a `SetChunkSize` among them. The chunks that stand behind that message in the
same buffer are so cut with the old size. `reference` reads one chunk at a time and takes
over a new size with the message that sets it.

* `SameCut` — the chunk at the front is cut alike by two sizes.
* `Undisturbed` — every chunk behind a `SetChunkSize` in the buffer is.
* `drain_undisturbed` — then parsing with one size reads what the reference reads.
* `parse_follows` — one call of `parse`, by a parser that may have read the header of the
  chunk at the front before, and the sizes that its messages set.
-/

import Rmuduo.Rtmp.Segmentation

namespace Rmuduo.Rtmp

open Lib

/-! ### The reference -/

/-- The chunk size after a message: a `SetChunkSize` message changes it. -/
def sizeAfter (n : UInt32) (message : RtmpMessage) : UInt32 :=
  if message.typeId = kMessageTypeSetChunkSize ∧ 4 ≤ message.payload.length then
    readUint32BE message.payload
  else n

/-- The message sets the chunk size. -/
def Resizes (message : RtmpMessage) : Prop :=
  message.typeId = kMessageTypeSetChunkSize ∧ 4 ≤ message.payload.length

theorem sizeAfter_of_resizes {message : RtmpMessage} (h : Resizes message) (n : UInt32) :
    sizeAfter n message = readUint32BE message.payload := if_pos h

theorem sizeAfter_of_not_resizes {message : RtmpMessage} (h : ¬ Resizes message) (n : UInt32) :
    sizeAfter n message = n := if_neg h

/-- The chunk size after messages. -/
def sizesAfter (n : UInt32) (messages : List RtmpMessage) : UInt32 :=
  messages.foldl sizeAfter n

/-- The decoder that uses a new chunk size from the very next chunk on. -/
def reference : Reader UInt8 RtmpChunkParser String ChunkRecord :=
  chunkReader.adjust fun p r => p.setInChunkSize (sizesAfter p.inChunkSize r.message.toList)

section Sizes

variable {n : UInt32} {p : RtmpChunkParser} {buf : Bytes}

/-- A timestamp says nothing about chunk sizes. -/
theorem sizesAfter_untimed (ms : List RtmpMessage) :
    sizesAfter n (ms.map RtmpMessage.untimed) = sizesAfter n ms :=
  List.foldl_map

theorem sizesAfter_congr {ms ms' : List RtmpMessage}
    (h : ms.map RtmpMessage.untimed = ms'.map RtmpMessage.untimed) :
    sizesAfter n ms = sizesAfter n ms' := by
  rw [← sizesAfter_untimed, h, sizesAfter_untimed]

@[simp] theorem setInChunkSize_self : p.setInChunkSize p.inChunkSize = p := rfl

@[simp] theorem setInChunkSize_inChunkSize : (p.setInChunkSize n).inChunkSize = n := rfl

@[simp] theorem setInChunkSize_again (n' : UInt32) :
    (p.setInChunkSize n).setInChunkSize n' = p.setInChunkSize n' := rfl

end Sizes

/-! ### Chunks that both sizes cut alike -/

/-- The chunk at the front of the buffer takes the same payload with the size `n` as with the
parser's, or is incomplete with both. -/
def SameCut (n : UInt32) (p : RtmpChunkParser) (buf : Bytes) : Prop :=
  ∀ header state used, parseBasicHeader buf = some header →
    parseMessageHeader (buf.drop header.size) header.fmt (p.chunkStreams header.csid) =
      .ok (state, used) →
    chunkPayload n state = chunkPayload p.inChunkSize state ∨
      (¬ ChunkComplete p header state used buf ∧
        ¬ ChunkComplete (p.setInChunkSize n) header state used buf)

/-- Every chunk of the buffer is cut alike by the parser's size, with which all of them are
cut, and by the size that is due: `n` at first, and then what the messages set. -/
inductive Undisturbed : UInt32 → RtmpChunkParser → Bytes → Prop where
  | stop {n : UInt32} {p : RtmpChunkParser} {buf : Bytes} (same : SameCut n p buf)
      (last : ∀ used p' r, readChunk p buf ≠ .item used p' r) : Undisturbed n p buf
  | next {n : UInt32} {p p' : RtmpChunkParser} {buf : Bytes} {used : Nat} {r : ChunkRecord}
      (same : SameCut n p buf) (read : readChunk p buf = .item used p' r)
      (rest : Undisturbed (sizesAfter n r.message.toList) p' (buf.drop used)) :
      Undisturbed n p buf

section Cuts

variable {n : UInt32} {p p' : RtmpChunkParser} {buf : Bytes}

theorem sameCut_self : SameCut p.inChunkSize p buf :=
  fun _ _ _ _ _ => .inl rfl

theorem takeChunk_setInChunkSize {csid : UInt32} {state : ChunkStreamState} {offset : Nat}
    (h : chunkPayload n state = chunkPayload p.inChunkSize state) :
    takeChunk (p.setInChunkSize n) csid state buf offset =
      { takeChunk p csid state buf offset with
        parser := (takeChunk p csid state buf offset).parser.setInChunkSize n } := by
  unfold takeChunk
  dsimp only
  rw [setInChunkSize_inChunkSize, h]
  split <;> rfl

/-- A chunk that both sizes cut alike is read alike. -/
theorem readChunk_sameCut (h : SameCut n p buf) :
    readChunk (p.setInChunkSize n) buf =
      match readChunk p buf with
      | .more => .more
      | .fail e => .fail e
      | .item used p' r => .item used (p'.setInChunkSize n) r := by
  unfold readChunk
  cases hb : parseBasicHeader buf with
  | none => rfl
  | some header =>
      have hstream : (p.setInChunkSize n).chunkStreams = p.chunkStreams := rfl
      dsimp only
      rw [hstream]
      cases hm : parseMessageHeader (buf.drop header.size) header.fmt
          (p.chunkStreams header.csid) with
      | error e => rfl
      | ok q =>
          obtain ⟨state, size⟩ := q
          dsimp only
          rcases h header state size hb hm with hsame | ⟨hold, hnew⟩
          · have hcomplete : ChunkComplete (p.setInChunkSize n) header state size buf ↔
                ChunkComplete p header state size buf := by
              unfold ChunkComplete
              rw [setInChunkSize_inChunkSize, hsame]
            by_cases hc : ChunkComplete p header state size buf
            · rw [if_pos hc, if_pos (hcomplete.mpr hc), takeChunk_setInChunkSize hsame,
                setInChunkSize_inChunkSize, hsame]
            · rw [if_neg hc, if_neg (fun hc' => hc (hcomplete.mp hc'))]
          · rw [if_neg hold, if_neg hnew]

theorem readChunk_inChunkSize {used : Nat} {r : ChunkRecord}
    (h : readChunk p buf = .item used p' r) : p'.inChunkSize = p.inChunkSize := by
  obtain ⟨header, state, size, -, -, -, -, rfl, -⟩ := readChunk_item h
  exact takeChunk_inChunkSize ..

/-- No size disturbs bytes that end with the first chunk that sets one. -/
theorem undisturbed_of_last
    (kept : ∀ r ∈ (chunkReader.drain p buf).items.dropLast,
      sizesAfter p.inChunkSize r.message.toList = p.inChunkSize)
    (ends : (chunkReader.drain p buf).rest = []) : Undisturbed p.inChunkSize p buf := by
  induction p, buf using chunkReader.drain_induction with
  | more p buf hread =>
      refine .stop sameCut_self ?_
      intro used p' r hitem
      cases hread.symm.trans hitem
  | fail p buf e hread =>
      refine .stop sameCut_self ?_
      intro used p' r hitem
      cases hread.symm.trans hitem
  | item p buf used p' r hread ih =>
      have hread : readChunk p buf = .item used p' r := hread
      rw [Reader.drain_of_item (R := chunkReader) hread] at kept ends
      refine .next sameCut_self hread ?_
      cases hitems : (chunkReader.drain p' (buf.drop used)).items with
      | nil =>
          have hnil : buf.drop used = [] :=
            (Reader.rest_of_no_items (R := chunkReader) hitems).symm.trans ends
          rw [hnil]
          refine .stop ?_ ?_
          · intro header state size hbasic
            cases hbasic
          · intro used' p'' r' hitem
            rw [readChunk_nil] at hitem
            cases hitem
      | cons w ws =>
          rw [Drained.prepend_items, hitems] at kept
          have hr := kept r List.mem_cons_self
          rw [hr, ← readChunk_inChunkSize hread]
          refine ih ?_ ends
          intro r' hr'
          rw [readChunk_inChunkSize hread]
          rw [hitems] at hr'
          exact kept r' (List.mem_cons_of_mem _ hr')

theorem drain_inChunkSize : (chunkReader.drain p buf).state.inChunkSize = p.inChunkSize :=
  Reader.drain_invariant (R := chunkReader) (I := fun q => q.inChunkSize = p.inChunkSize)
    (fun _ _ _ _ _ hread hsize => (readChunk_inChunkSize hread).trans hsize) p buf rfl

/-- **Without a disturbance** one size for the whole buffer reads the chunks that the
reference reads. -/
theorem drain_undisturbed (h : Undisturbed n p buf) :
    reference.drain (p.setInChunkSize n) buf =
      let d := chunkReader.drain p buf
      { d with
        state :=
          d.state.setInChunkSize (sizesAfter n (d.items.filterMap ChunkRecord.message)) } := by
  induction h with
  | @stop n p buf same last =>
      have hread := readChunk_sameCut same
      cases hc : readChunk p buf with
      | more =>
          rw [hc] at hread
          rw [Reader.drain_of_more (R := reference) (Reader.adjust_of_more hread),
            Reader.drain_of_more (R := chunkReader) hc]
          rfl
      | fail e =>
          rw [hc] at hread
          rw [Reader.drain_of_fail (R := reference) (Reader.adjust_of_fail hread),
            Reader.drain_of_fail (R := chunkReader) hc]
          rfl
      | item used p' r => exact absurd hc (last used p' r)
  | @next n p p' buf used r same read rest ih =>
      have hread := readChunk_sameCut same
      rw [read] at hread
      rw [Reader.drain_of_item (R := reference) (Reader.adjust_of_item hread),
        Reader.drain_of_item (R := chunkReader) read]
      rw [setInChunkSize_inChunkSize, setInChunkSize_again, ih]
      cases hr : r.message <;> simp [hr, Drained.prepend, sizesAfter]

end Cuts

/-! ### Parsers that have read the front header before -/

section Displaced

variable {n : UInt32} {p : RtmpChunkParser} {buf : Bytes} {D : UInt32 → UInt32}

theorem shift_setInChunkSize :
    shift D (p.setInChunkSize n) = (shift D p).setInChunkSize n := rfl

theorem touch_setInChunkSize : touch (p.setInChunkSize n) buf = (touch p buf).setInChunkSize n := by
  unfold touch
  cases parseBasicHeader buf with
  | none => rfl
  | some header =>
      have hstream : (p.setInChunkSize n).chunkStreams = p.chunkStreams := rfl
      dsimp only
      rw [hstream]
      cases parseMessageHeader (buf.drop header.size) header.fmt
        (p.chunkStreams header.csid) <;> rfl

theorem touch_inChunkSize : (touch p buf).inChunkSize = p.inChunkSize := by
  unfold touch
  split
  · rfl
  · split <;> rfl

/-- Timestamps say nothing about cuts. -/
theorem sameCut_shift (h : SameCut n (shift D p) buf) : SameCut n p buf := by
  intro header state used hb hm
  have hbumped : parseMessageHeader (buf.drop header.size) header.fmt
      ((shift D p).chunkStreams header.csid) = .ok (state.bump
        (if absolute header.fmt (buf.drop header.size) then 0 else D header.csid), used) := by
    have hst : (shift D p).chunkStreams header.csid =
        (p.chunkStreams header.csid).bump (D header.csid) := rfl
    rw [hst, parseMessageHeader_bump, hm]
    rfl
  have hcut := h header _ used hb hbumped
  exact hcut

theorem bump_sizesAfter (d : UInt32) (r : ChunkRecord) :
    sizesAfter n (r.bump d).message.toList = sizesAfter n r.message.toList := by
  cases hr : r.message <;> simp [ChunkRecord.bump, hr, sizesAfter, RtmpMessage.bump, sizeAfter]

theorem Undisturbed.of_shift {q : RtmpChunkParser} (h : Undisturbed n q buf) :
    ∀ {D : UInt32 → UInt32} {p : RtmpChunkParser}, q = shift D p → Undisturbed n p buf := by
  induction h with
  | @stop n q buf same last =>
      rintro D p rfl
      refine .stop (sameCut_shift same) ?_
      intro used p' r hread
      apply last used (shift (r.carry D) p') (r.bump (r.carry D r.csid))
      rw [readChunk_shift, hread]
  | @next n q q' buf used r same read rest ih =>
      rintro D p rfl
      rw [readChunk_shift] at read
      cases hread : readChunk p buf with
      | more =>
          rw [hread] at read
          cases read
      | fail e =>
          rw [hread] at read
          cases read
      | item used₀ p' r₀ =>
          rw [hread] at read
          cases read
          refine .next (sameCut_shift same) hread ?_
          have hrest := ih rfl
          rwa [bump_sizesAfter] at hrest

/-- The chunk at the front decides the rest, so two parsers that read it alike are disturbed
alike. -/
theorem Undisturbed.congr {q : RtmpChunkParser} (h : Undisturbed n q buf)
    (hread : readChunk q buf = readChunk p buf) (hsame : SameCut n q buf → SameCut n p buf) :
    Undisturbed n p buf := by
  cases h with
  | stop same last =>
      refine .stop (hsame same) ?_
      intro used p' r hitem
      exact last used p' r (hread.trans hitem)
  | next same read rest => exact .next (hsame same) (hread.symm.trans read) rest

/-- A parser that has read the header at the front before is disturbed as the parser that
has not, displaced by `pending`. -/
theorem Undisturbed.of_touch {ys : Bytes} (h : Undisturbed n (touch p buf) (buf ++ ys)) :
    Undisturbed n (shift (pending p buf) p) (buf ++ ys) := by
  rcases touch_cases p buf with ⟨htouch, hpending⟩ | ⟨header, state, size, hb, hm, htouch, hshift⟩
  · rwa [hpending, shift_zero, ← htouch]
  · have hdrop : (buf ++ ys).drop header.size = buf.drop header.size ++ ys :=
      List.drop_append_of_le_length (parseBasicHeader_size hb).2
    have hagain := parseMessageHeader_again hm ys
    have hbasic := parseBasicHeader_append hb ys
    rw [htouch] at h
    rw [hshift]
    refine h.congr ?_ ?_
    · simp only [readChunk, hbasic, RtmpChunkParser.setStream, Function.update_self, hdrop, hagain,
        ChunkComplete, takeChunk, Function.update_idem]
    · intro same header' state' used' hb' hm'
      rw [hbasic] at hb'
      cases hb'
      refine same header state' used' hbasic ?_
      simp only [RtmpChunkParser.setStream, Function.update_self, hdrop] at hm' ⊢
      rwa [hagain]

/-- The parser goes on from where the reference is: it has its chunk streams, but for
displaced timestamps, and may have read the header at the front of the buffer. -/
def GoesOn (q p : RtmpChunkParser) (buf : Bytes) : Prop :=
  ∃ D, q = touch (shift D p) buf

theorem goesOn_init : GoesOn {} {} [] := ⟨fun _ => 0, by rw [shift_zero, touch_nil]⟩

/-- **One call of `parse`** that no chunk size disturbs, and that completes no message before
an error: it yields the messages of the reference, and with the sizes that they set it
goes on from where the reference is. -/
theorem parse_follows {q : RtmpChunkParser} {data : Bytes} (h : GoesOn q p buf)
    (undisturbed : Undisturbed q.inChunkSize q (buf ++ data)) :
    let r := parse q (buf ++ data)
    let d := reference.drain p (buf ++ data)
    r.buf = d.rest ∧ r.error = d.error ∧
      r.messages.map RtmpMessage.untimed =
        (d.items.filterMap ChunkRecord.message).map RtmpMessage.untimed ∧
      GoesOn (r.parser.setInChunkSize (sizesAfter r.parser.inChunkSize r.messages)) d.state
        d.rest := by
  obtain ⟨D, rfl⟩ := h
  have hsize : (touch (shift D p) buf).inChunkSize = p.inChunkSize := touch_inChunkSize
  have hundisturbed : Undisturbed p.inChunkSize p (buf ++ data) := by
    rw [hsize] at undisturbed
    exact (undisturbed.of_touch.of_shift rfl).of_shift rfl
  have hdrain := drain_undisturbed hundisturbed
  rw [setInChunkSize_self] at hdrain
  have hparse := parse_displaced (settled_next D p buf data)
  dsimp only at hdrain ⊢
  rw [hdrain, hparse]
  have hmessages := bumpAll_messages_untimed (fun csid => D csid + pending p buf csid)
    (chunkReader.drain p (buf ++ data)).items
  refine ⟨rfl, rfl, hmessages, ?_⟩
  dsimp only
  rw [sizesAfter_congr hmessages, touch_inChunkSize]
  have hstate : (shift (carryAll (fun csid => D csid + pending p buf csid)
      (chunkReader.drain p (buf ++ data)).items)
      (chunkReader.drain p (buf ++ data)).state).inChunkSize = p.inChunkSize :=
    drain_inChunkSize
  rw [hstate, ← touch_setInChunkSize, ← shift_setInChunkSize]
  exact ⟨_, rfl⟩

end Displaced

end Rmuduo.Rtmp
