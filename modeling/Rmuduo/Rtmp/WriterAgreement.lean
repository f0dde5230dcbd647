/-
The writer and the parser.

Every message that fits into one chunk, and every message whose timestamp fits into
the 24-bit field, is parsed back as it was written, from any state of the parser. A
longer message with an extended timestamp never is: the parser expects the extended
timestamp again behind each fmt=3 header, and the writer does not send it there.

* `drain_continuation` — the continuation chunks of a message without an extended
  timestamp complete it.
* `starved_drain` — a parser that was promised more bytes than are left never
  completes the message. `cost` counts what the writer sends for the rest of a
  payload, and each fmt=3 header takes four bytes more than that.
* `parse_encodeMessage_iff` — when a written message is parsed back.
-/

import Rmuduo.Rtmp.ChunkWriter

namespace Rmuduo.Rtmp

open Lib

/-- Parsing `buf` in one call succeeds, consumes every byte and emits `m` and nothing
else. -/
def Delivers (p : RtmpChunkParser) (buf : Bytes) (m : RtmpMessage) : Prop :=
  (parse p buf).error = none ∧ (parse p buf).buf = [] ∧ (parse p buf).messages = [m]

/-! ### Receiving a message -/

section Receiving

variable {p : RtmpChunkParser} {m : RtmpMessage} {b : Nat}

theorem toNat_ofNat_le (hlen : m.payload.length = m.messageLength.toNat)
    (hb : b ≤ m.payload.length) : (UInt32.ofNat b).toNat = b := by
  have hlt := m.messageLength.toNat_lt
  rw [UInt32.toNat_ofNat_of_lt']
  simp only [UInt32.size]
  omega

/-- How many payload bytes the next chunk of a message carries. -/
theorem chunkPayload_receiving (hlen : m.payload.length = m.messageLength.toNat)
    (hb : b ≤ m.payload.length) (c : UInt32) :
    (chunkPayload c (receiving m b)).toNat = min (m.payload.length - b) c.toNat := by
  have hread := toNat_ofNat_le hlen hb
  have hle : UInt32.ofNat b ≤ m.messageLength := by
    rw [UInt32.le_iff_toNat_le, hread]
    omega
  have hread' : (receiving m b).bytesRead.toNat = b := hread
  rw [toNat_chunkPayload hle, hread', hlen]
  rfl

/-- Copying the next bytes of the payload moves the message on. -/
theorem copyPayload_receiving (hlen : m.payload.length = m.messageLength.toNat) {n : UInt32}
    (hn : b + n.toNat ≤ m.payload.length) :
    (receiving m b).copyPayload n ((m.payload.drop b).take n.toNat) =
      receiving m (b + n.toNat) := by
  have hread := toNat_ofNat_le hlen (by omega : b ≤ m.payload.length)
  have hlenb : (m.payload.take b).length = b := by
    rw [List.length_take]
    omega
  have hpayload : (m.payload.take b ++ List.replicate (m.messageLength.toNat - b) 0).take b ++
      (m.payload.drop b).take n.toNat ++
      (m.payload.take b ++ List.replicate (m.messageLength.toNat - b) 0).drop (b + n.toNat) =
      m.payload.take (b + n.toNat) ++
        List.replicate (m.messageLength.toNat - (b + n.toNat)) 0 := by
    rw [List.take_left' hlenb, ← List.take_add, List.drop_append, hlenb,
      List.drop_eq_nil_of_le (by omega), List.drop_replicate, List.nil_append]
    congr 2
    omega
  have hnext : UInt32.ofNat b + n = UInt32.ofNat (b + n.toNat) := by
    apply UInt32.toNat_inj.mp
    rw [toNat_ofNat_le hlen hn, UInt32.toNat_add, hread]
    have := m.messageLength.toNat_lt
    omega
  unfold ChunkStreamState.copyPayload
  simp only [receiving, hread, hnext, hpayload]

/-- The state of a chunk stream when a chunk has brought a message to its end. -/
def received (m : RtmpMessage) : ChunkStreamState :=
  { receiving m m.payload.length with bytesRead := 0, payload := [] }

/-- Taking a chunk that carries the next bytes of `m`. -/
theorem takeChunk_receiving (hlen : m.payload.length = m.messageLength.toNat)
    (hb : b ≤ m.payload.length) {buf : Bytes} {offset : Nat}
    (hdata : (buf.drop offset).take (min (m.payload.length - b) p.inChunkSize.toNat) =
      (m.payload.drop b).take (min (m.payload.length - b) p.inChunkSize.toNat)) :
    takeChunk p m.chunkStreamId (receiving m b) buf offset =
      if m.payload.length - b ≤ p.inChunkSize.toNat then
        ⟨p.setStream m.chunkStreamId (received m), buf.drop (offset + (m.payload.length - b)),
          some m⟩
      else
        ⟨p.setStream m.chunkStreamId (receiving m (b + p.inChunkSize.toNat)),
          buf.drop (offset + p.inChunkSize.toNat), none⟩ := by
  have hn := chunkPayload_receiving hlen hb p.inChunkSize
  have hcopy := copyPayload_receiving (b := b)
    (n := chunkPayload p.inChunkSize (receiving m b)) hlen (by omega)
  have hzero : (receiving m m.payload.length).payload = m.payload := by
    simp [receiving, ← hlen]
  unfold takeChunk
  dsimp only
  rw [hn, hdata]
  rw [hn] at hcopy
  rw [hcopy]
  by_cases hlast : m.payload.length - b ≤ p.inChunkSize.toNat
  · have hend : b + (m.payload.length - b) = m.payload.length := by omega
    have hdone : (receiving m m.payload.length).bytesRead =
        (receiving m m.payload.length).messageLength := by
      apply UInt32.toNat_inj.mp
      change (UInt32.ofNat m.payload.length).toNat = _
      rw [toNat_ofNat_le hlen (Nat.le_refl _), hlen]
      rfl
    rw [Nat.min_eq_left hlast, hend, if_pos hdone, if_pos hlast]
    simp only [ChunkStreamState.message, hzero]
    rfl
  · have hmore : (receiving m (b + p.inChunkSize.toNat)).bytesRead ≠
        (receiving m (b + p.inChunkSize.toNat)).messageLength := by
      intro h
      have h' : (UInt32.ofNat (b + p.inChunkSize.toNat)).toNat = m.messageLength.toNat :=
        congrArg UInt32.toNat h
      rw [toNat_ofNat_le hlen (by omega)] at h'
      omega
    rw [Nat.min_eq_right (by omega), if_neg hmore, if_neg hlast]

/-- Reading a chunk that carries the next bytes of `m`, behind any header that leaves the
chunk stream receiving it. -/
theorem readChunk_receiving (hlen : m.payload.length = m.messageLength.toNat)
    (hb : b ≤ m.payload.length) (rest : Bytes) {buf : Bytes} {fmt : UInt8} {size n : Nat}
    (hbasic : parseBasicHeader buf = some ⟨fmt, m.chunkStreamId, size⟩)
    (hheader : parseMessageHeader (buf.drop size) fmt (p.chunkStreams m.chunkStreamId) =
      .ok (receiving m b, n))
    (hdone : HeaderDone fmt (receiving m b) n)
    (hsize : size + n ≤ buf.length)
    (hrest : buf.drop (size + n) =
      (m.payload.drop b).take (min (m.payload.length - b) p.inChunkSize.toNat) ++ rest) :
    ∃ used, buf.drop used = rest ∧
      readChunk p buf =
        if m.payload.length - b ≤ p.inChunkSize.toNat then
          .item used (p.setStream m.chunkStreamId (received m))
            ⟨fmt, m.chunkStreamId, some m⟩
        else
          .item used (p.setStream m.chunkStreamId (receiving m (b + p.inChunkSize.toNat)))
            ⟨fmt, m.chunkStreamId, none⟩ := by
  have hn := chunkPayload_receiving hlen hb p.inChunkSize
  have hcarried : ((m.payload.drop b).take
      (min (m.payload.length - b) p.inChunkSize.toNat)).length =
      min (m.payload.length - b) p.inChunkSize.toNat := by
    rw [List.length_take, List.length_drop]
    omega
  have htail : (buf.drop (size + n)).length =
      min (m.payload.length - b) p.inChunkSize.toNat + rest.length := by
    rw [hrest, List.length_append, hcarried]
  have hcomplete : ChunkComplete p ⟨fmt, m.chunkStreamId, size⟩ (receiving m b) n buf := by
    refine ⟨hdone, rfl, ?_⟩
    rw [List.length_drop] at htail
    rw [hn]
    dsimp only
    omega
  have hdata : (buf.drop (size + n)).take (min (m.payload.length - b) p.inChunkSize.toNat) =
      (m.payload.drop b).take (min (m.payload.length - b) p.inChunkSize.toNat) := by
    rw [hrest, List.take_left' hcarried]
  refine ⟨size + n + min (m.payload.length - b) p.inChunkSize.toNat, ?_, ?_⟩
  · rw [← List.drop_drop, hrest, List.drop_left' hcarried]
  · unfold readChunk
    rw [hbasic]
    dsimp only
    rw [hheader]
    dsimp only
    rw [if_pos hcomplete, takeChunk_receiving hlen hb hdata, hn]
    split <;> rfl

/-- The unread bytes behind the first chunk of a payload. -/
def laterChunks (csid : UInt32) (c : Nat) (payload : Bytes) : Bytes :=
  if payload.length ≤ c then []
  else appendBasicHeader 3 csid ++ payloadChunks csid c (payload.drop c)

theorem payloadChunks_split (csid : UInt32) {c : Nat} (hc : 1 ≤ c) (payload : Bytes) :
    payloadChunks csid c payload =
      payload.take (min payload.length c) ++ laterChunks csid c payload := by
  unfold laterChunks
  by_cases h : payload.length ≤ c
  · rw [payloadChunks_last csid h, if_pos h, Nat.min_eq_left h, List.take_length,
      List.append_nil]
  · rw [payloadChunks_more csid hc (by omega), if_neg h, Nat.min_eq_right (by omega)]

/-- One continuation chunk of a message without an extended timestamp. -/
theorem readChunk_continuation (hlen : m.payload.length = m.messageLength.toNat)
    (hlow : 2 ≤ m.chunkStreamId) (hhigh : m.chunkStreamId ≤ 65599)
    (hts : m.timestamp < 0x00FFFFFF) (hc : 1 ≤ p.inChunkSize.toNat) (hb : 0 < b)
    (hrest : b < m.payload.length) (hstate : p.chunkStreams m.chunkStreamId = receiving m b) :
    ∃ used, (appendBasicHeader 3 m.chunkStreamId ++
        payloadChunks m.chunkStreamId p.inChunkSize.toNat (m.payload.drop b)).drop used =
        laterChunks m.chunkStreamId p.inChunkSize.toNat (m.payload.drop b) ∧
      readChunk p (appendBasicHeader 3 m.chunkStreamId ++
        payloadChunks m.chunkStreamId p.inChunkSize.toNat (m.payload.drop b)) =
        if m.payload.length - b ≤ p.inChunkSize.toNat then
          .item used (p.setStream m.chunkStreamId (received m)) ⟨3, m.chunkStreamId, some m⟩
        else
          .item used (p.setStream m.chunkStreamId (receiving m (b + p.inChunkSize.toNat)))
            ⟨3, m.chunkStreamId, none⟩ := by
  have hbasic := parseBasicHeader_put 3 (by decide) hlow hhigh
    (payloadChunks m.chunkStreamId p.inChunkSize.toNat (m.payload.drop b))
  have hdrop : (appendBasicHeader 3 m.chunkStreamId ++
      payloadChunks m.chunkStreamId p.inChunkSize.toNat (m.payload.drop b)).drop
        (basicHeaderSize m.chunkStreamId) =
      payloadChunks m.chunkStreamId p.inChunkSize.toNat (m.payload.drop b) :=
    List.drop_left' (length_appendBasicHeader 3 m.chunkStreamId)
  have hheader : parseMessageHeader ((appendBasicHeader 3 m.chunkStreamId ++
      payloadChunks m.chunkStreamId p.inChunkSize.toNat (m.payload.drop b)).drop
        (basicHeaderSize m.chunkStreamId)) 3 (p.chunkStreams m.chunkStreamId) =
      .ok (receiving m b, 0) := by
    rw [hstate]
    exact parseMessageHeader_receiving hb (by omega) hts _
  have hdone : HeaderDone 3 (receiving m b) 0 :=
    .inr ⟨rfl, rfl, if_neg (by simpa using hts)⟩
  exact readChunk_receiving hlen (Nat.le_of_lt hrest)
    (laterChunks m.chunkStreamId p.inChunkSize.toNat (m.payload.drop b)) hbasic hheader hdone
    (by simp)
    (by rw [Nat.add_zero, hdrop, payloadChunks_split _ hc, List.length_drop])

/-- The continuation chunks of a message without an extended timestamp complete it. -/
theorem drain_continuation (hlen : m.payload.length = m.messageLength.toNat)
    (hlow : 2 ≤ m.chunkStreamId) (hhigh : m.chunkStreamId ≤ 65599)
    (hts : m.timestamp < 0x00FFFFFF) {c : Nat} (hc : 1 ≤ c) (left : Nat)
    (hleft : m.payload.length - b ≤ left) (hb : 0 < b) (hrest : b < m.payload.length)
    (hp : p.inChunkSize.toNat = c) (hstate : p.chunkStreams m.chunkStreamId = receiving m b) :
    let d := chunkReader.drain p
      (appendBasicHeader 3 m.chunkStreamId ++ payloadChunks m.chunkStreamId c (m.payload.drop b))
    d.error = none ∧ d.rest = [] ∧ d.items.filterMap ChunkRecord.message = [m] := by
  induction left generalizing p b with
  | zero => omega
  | succ left ih =>
      subst hp
      obtain ⟨used, hused, hread⟩ :=
        readChunk_continuation hlen hlow hhigh hts hc hb hrest hstate
      dsimp only
      by_cases hlast : m.payload.length - b ≤ p.inChunkSize.toNat
      · rw [if_pos hlast] at hread
        rw [Reader.drain_of_item (R := chunkReader) hread, hused, laterChunks,
          if_pos (by rw [List.length_drop]; exact hlast)]
        simp
      · rw [if_neg hlast] at hread
        have hnext := ih (p := p.setStream m.chunkStreamId
            (receiving m (b + p.inChunkSize.toNat))) (b := b + p.inChunkSize.toNat)
          (by omega) (by omega) (by omega) rfl
          (by simp [RtmpChunkParser.setStream])
        rw [Reader.drain_of_item (R := chunkReader) hread, hused, laterChunks,
          if_neg (by rw [List.length_drop]; exact hlast), List.drop_drop]
        simpa using hnext

/-- The first chunk of a written message, read from any state. -/
theorem readChunk_encodeMessage (hlen : m.payload.length = m.messageLength.toNat)
    (h24 : m.messageLength.toNat < 2 ^ 24)
    (hlow : 2 ≤ m.chunkStreamId) (hhigh : m.chunkStreamId ≤ 65599)
    (hc : 1 ≤ p.inChunkSize.toNat) :
    ∃ used, (encodeMessage m p.inChunkSize).drop used =
        laterChunks m.chunkStreamId p.inChunkSize.toNat m.payload ∧
      readChunk p (encodeMessage m p.inChunkSize) =
        if m.payload.length ≤ p.inChunkSize.toNat then
          .item used (p.setStream m.chunkStreamId (received m))
            ⟨0, m.chunkStreamId, some m⟩
        else
          .item used (p.setStream m.chunkStreamId (receiving m p.inChunkSize.toNat))
            ⟨0, m.chunkStreamId, none⟩ := by
  have hbasic := parseBasicHeader_put 0 (by decide) hlow hhigh
    (appendMessageHeader m ++ payloadChunks m.chunkStreamId p.inChunkSize.toNat m.payload)
  have hdrop : (encodeMessage m p.inChunkSize).drop (basicHeaderSize m.chunkStreamId) =
      appendMessageHeader m ++ payloadChunks m.chunkStreamId p.inChunkSize.toNat m.payload := by
    rw [encodeMessage_eq]
    exact List.drop_left' (length_appendBasicHeader 0 m.chunkStreamId)
  have hheader : parseMessageHeader ((encodeMessage m p.inChunkSize).drop
      (basicHeaderSize m.chunkStreamId)) 0 (p.chunkStreams m.chunkStreamId) =
      .ok (receiving m 0, messageHeaderSize m) := by
    rw [hdrop]
    exact parseMessageHeader_put h24 _ _
  have hdone : HeaderDone 0 (receiving m 0) (messageHeaderSize m) := by
    left
    unfold messageHeaderSize
    split <;> decide
  rw [← encodeMessage_eq] at hbasic
  obtain ⟨used, hused, hread⟩ := readChunk_receiving hlen (Nat.zero_le _)
    (laterChunks m.chunkStreamId p.inChunkSize.toNat m.payload) hbasic hheader hdone
    (by simp [encodeMessage_eq])
    (by rw [← List.drop_drop, hdrop, List.drop_left' (length_appendMessageHeader m),
      payloadChunks_split _ hc]; rfl)
  exact ⟨used, hused, by simpa using hread⟩

/-- A message that fits, or has no extended timestamp, is delivered. -/
theorem delivers_encodeMessage (hlen : m.payload.length = m.messageLength.toNat)
    (h24 : m.messageLength.toNat < 2 ^ 24)
    (hlow : 2 ≤ m.chunkStreamId) (hhigh : m.chunkStreamId ≤ 65599)
    (hc : 1 ≤ p.inChunkSize.toNat)
    (h : m.timestamp < 0x00FFFFFF ∨ m.payload.length ≤ p.inChunkSize.toNat) :
    Delivers p (encodeMessage m p.inChunkSize) m := by
  obtain ⟨used, hused, hread⟩ := readChunk_encodeMessage (p := p) hlen h24 hlow hhigh hc
  unfold Delivers
  rw [parse_eq_drain]
  by_cases hfits : m.payload.length ≤ p.inChunkSize.toNat
  · rw [if_pos hfits] at hread
    rw [Reader.drain_of_item (R := chunkReader) hread, hused, laterChunks, if_pos hfits]
    simp [settled]
  · have hts : m.timestamp < 0x00FFFFFF := h.resolve_right hfits
    rw [if_neg hfits] at hread
    have hmore := drain_continuation (p := p.setStream m.chunkStreamId
        (receiving m p.inChunkSize.toNat)) (b := p.inChunkSize.toNat) hlen hlow hhigh hts hc
      m.payload.length (by omega) (by omega) (by omega) rfl
      (by simp [RtmpChunkParser.setStream])
    rw [Reader.drain_of_item (R := chunkReader) hread, hused, laterChunks, if_neg hfits]
    simpa [settled] using hmore

end Receiving

/-! ### Starving a message -/

/-- What the writer sends for `left` payload bytes that are still to come: the bytes, and
a basic header of `bh` bytes for every chunk. -/
def cost (bh c left : Nat) : Nat := left + (left + c - 1) / c * bh

theorem cost_last {bh c left : Nat} (hpos : 0 < left) (hlast : left ≤ c) :
    cost bh c left = left + bh := by
  have h : (left + c - 1) / c = 1 := by
    rw [Nat.div_eq_iff (by omega)]
    omega
  rw [cost, h, Nat.one_mul]

theorem cost_more {bh c left : Nat} (hc : 1 ≤ c) (hmore : c < left) :
    cost bh c left = c + bh + cost bh c (left - c) := by
  have h : (left + c - 1) / c = (left - c + c - 1) / c + 1 := by
    rw [show left + c - 1 = (left - c + c - 1) + c by omega, Nat.add_div_right _ (by omega)]
  rw [cost, cost, h, Nat.add_mul]
  omega

theorem cost_mono (bh c : Nat) {a b : Nat} (h : a ≤ b) : cost bh c a ≤ cost bh c b := by
  have hdiv : (a + c - 1) / c ≤ (b + c - 1) / c := Nat.div_le_div_right (by omega)
  have hmul := Nat.mul_le_mul_right bh hdiv
  unfold cost
  omega

/-- The writer sends exactly that. -/
theorem length_laterChunks (csid : UInt32) {c : Nat} (hc : 1 ≤ c) (n : Nat) (payload : Bytes)
    (hn : payload.length ≤ n) (hmore : c < payload.length) :
    (laterChunks csid c payload).length = cost (basicHeaderSize csid) c (payload.length - c) := by
  induction n generalizing payload with
  | zero => omega
  | succ n ih =>
      have hdrop : (payload.drop c).length = payload.length - c := List.length_drop
      rw [laterChunks, if_neg (by omega), payloadChunks_split csid hc]
      simp only [List.length_append, length_appendBasicHeader, List.length_take, hdrop]
      by_cases hlast : payload.length - c ≤ c
      · rw [laterChunks, if_pos (by omega), cost_last (by omega) hlast]
        simp only [List.length_nil]
        omega
      · rw [ih (payload.drop c) (by omega) (by omega), hdrop,
          cost_more hc (by omega : c < payload.length - c)]
        omega

section Starving

variable {m : RtmpMessage} {p p' : RtmpChunkParser} {buf : Bytes}

/-- How much of a message as long as `m` a chunk stream holds. -/
def held (m : RtmpMessage) (s : ChunkStreamState) : Nat :=
  if s.messageLength = m.messageLength then s.bytesRead.toNat else 0

/-- Too little is left in the buffer to complete a message like `m`. -/
structure Starved (m : RtmpMessage) (p : RtmpChunkParser) (buf : Bytes) : Prop where
  unfinished : (p.chunkStreams m.chunkStreamId).messageLength = m.messageLength →
    (p.chunkStreams m.chunkStreamId).bytesRead < m.messageLength
  short : buf.length < cost (basicHeaderSize m.chunkStreamId) p.inChunkSize.toNat
    (m.messageLength.toNat - held m (p.chunkStreams m.chunkStreamId))

theorem basicHeaderSize_le {header : BasicHeader} (h : parseBasicHeader buf = some header) :
    basicHeaderSize header.csid ≤ header.size := by
  unfold parseBasicHeader at h
  split at h
  · cases h
  · rename_i first rest
    dsimp only at h
    split at h
    · cases h
      have hlt : (first &&& 0x3F).toNat < 64 := by
        rw [UInt8.toNat_and]
        exact Nat.lt_of_le_of_lt Nat.and_le_right (by decide)
      have hmark : (first &&& 0x3F).toUInt32 < 64 := by
        rw [UInt32.lt_iff_toNat_lt, UInt8.toNat_toUInt32]
        exact hlt
      rw [basicHeaderSize, if_pos hmark]
    · split at h
      · split at h
        · rename_i b1 _
          cases h
          have hmark : (64 : UInt32) + b1.toUInt32 < 320 := by
            rw [UInt32.lt_iff_toNat_lt, UInt32.toNat_add, UInt8.toNat_toUInt32]
            have := b1.toNat_lt
            simp only [UInt32.reduceToNat]
            omega
          rw [basicHeaderSize, if_pos hmark]
          dsimp only
          split <;> omega
        · cases h
      · split at h
        · cases h
          unfold basicHeaderSize
          dsimp only
          split
          · omega
          · split <;> omega
        · cases h

/-- A header either starts its chunk stream afresh or leaves its progress alone. -/
theorem held_parseMessageHeader {data : Bytes} {fmt : UInt8} {s s' : ChunkStreamState} {n : Nat}
    (h : parseMessageHeader data fmt s = .ok (s', n)) (hdone : HeaderDone fmt s' n) :
    s'.bytesRead = 0 ∨ s'.bytesRead = s.bytesRead ∧ s'.messageLength = s.messageLength := by
  have again : s.startAgain.bytesRead = 0 ∨
      s.startAgain.bytesRead = s.bytesRead ∧ s.startAgain.messageLength = s.messageLength := by
    unfold ChunkStreamState.startAgain
    split <;> exact .inr ⟨rfl, rfl⟩
  cases completeHeader_iff.mpr ⟨h, hdone⟩ with
  | type0 => exact .inl rfl
  | type1 => exact .inl rfl
  | type2 => exact .inl rfl
  | type3 => exact again
  | type3Extended => exact again

/-- Taking a chunk of the message's own chunk stream. Every byte that its header has
beyond a basic header makes the shortage worse. -/
theorem starved_takeChunk (state : ChunkStreamState) (offset : Nat)
    (hc : 1 ≤ p.inChunkSize.toNat)
    (unfinished : state.messageLength = m.messageLength → state.bytesRead < m.messageLength)
    (hoffset : basicHeaderSize m.chunkStreamId ≤ offset)
    (hfits : offset + (chunkPayload p.inChunkSize state).toNat ≤ buf.length)
    (short : buf.length < cost (basicHeaderSize m.chunkStreamId) p.inChunkSize.toNat
      (m.messageLength.toNat - held m state) + (offset - basicHeaderSize m.chunkStreamId)) :
    Starved m (takeChunk p m.chunkStreamId state buf offset).parser
        (takeChunk p m.chunkStreamId state buf offset).buf ∧
      (takeChunk p m.chunkStreamId state buf offset).message ≠ some m := by
  have hn : chunkPayload p.inChunkSize state =
      if state.messageLength - state.bytesRead ≤ p.inChunkSize then
        state.messageLength - state.bytesRead
      else p.inChunkSize := rfl
  by_cases hlength : state.messageLength = m.messageLength
  · have hunread := unfinished hlength
    have hheld : held m state = state.bytesRead.toNat := if_pos hlength
    have hlt : state.bytesRead.toNat < m.messageLength.toNat := by
      rwa [UInt32.lt_iff_toNat_lt] at hunread
    have hsub : (state.messageLength - state.bytesRead).toNat =
        m.messageLength.toNat - state.bytesRead.toNat := by
      rw [hlength, UInt32.toNat_sub_of_le _ _ (UInt32.le_of_lt hunread)]
    rw [hheld] at short
    by_cases hlast : state.messageLength - state.bytesRead ≤ p.inChunkSize
    · -- the chunk cannot be the last one: the buffer does not hold that much
      exfalso
      rw [if_pos hlast] at hn
      rw [UInt32.le_iff_toNat_le, hsub] at hlast
      rw [hn, hsub] at hfits
      rw [cost_last (by omega) hlast] at short
      omega
    · rw [if_neg hlast] at hn
      rw [UInt32.le_iff_toNat_le, hsub] at hlast
      rw [hn] at hfits
      rw [cost_more hc (by omega)] at short
      have hnext : (state.bytesRead + p.inChunkSize).toNat =
          state.bytesRead.toNat + p.inChunkSize.toNat := by
        rw [UInt32.toNat_add]
        have := m.messageLength.toNat_lt
        omega
      have hne : state.bytesRead + p.inChunkSize ≠ state.messageLength := fun h => by
        have h' := congrArg UInt32.toNat h
        rw [hnext, hlength] at h'
        omega
      unfold takeChunk
      dsimp only [ChunkStreamState.copyPayload]
      rw [hn, if_neg hne]
      refine ⟨⟨fun _ => ?_, ?_⟩, by simp⟩
      · simp only [RtmpChunkParser.setStream, Function.update_self]
        rw [UInt32.lt_iff_toNat_lt, hnext]
        omega
      · simp only [RtmpChunkParser.setStream, Function.update_self, held, if_pos hlength, hnext,
          List.length_drop]
        rw [show m.messageLength.toNat - (state.bytesRead.toNat + p.inChunkSize.toNat) =
          m.messageLength.toNat - state.bytesRead.toNat - p.inChunkSize.toNat by omega]
        omega
  · have hheld : held m state = 0 := if_neg hlength
    have hlater : ∀ s : ChunkStreamState, s.messageLength = state.messageLength →
        Starved m (p.setStream m.chunkStreamId s)
          (buf.drop (offset + (chunkPayload p.inChunkSize state).toNat)) := by
      intro s hs
      refine ⟨fun h => ?_, ?_⟩
      · simp only [RtmpChunkParser.setStream, Function.update_self] at h
        exact absurd (hs ▸ h) hlength
      · rw [hheld] at short
        simp only [RtmpChunkParser.setStream, Function.update_self, held, hs, if_neg hlength,
          List.length_drop]
        omega
    unfold takeChunk
    dsimp only
    split
    · refine ⟨hlater _ rfl, fun h => ?_⟩
      have hm : state.messageLength = m.messageLength :=
        congrArg RtmpMessage.messageLength (Option.some.inj h)
      exact hlength hm
    · exact ⟨hlater _ rfl, by simp⟩

/-- A starved parser stays starved. -/
theorem starved_readChunk (hpos : 0 < m.messageLength) (hc : 1 ≤ p.inChunkSize.toNat)
    {used : Nat} {r : ChunkRecord} (h : readChunk p buf = .item used p' r)
    (hs : Starved m p buf) :
    Starved m p' (buf.drop used) ∧ p'.inChunkSize = p.inChunkSize ∧ r.message ≠ some m := by
  obtain ⟨header, state, n, hb, hm, hcomplete, rfl, rfl, rfl⟩ := readChunk_item h
  rw [← takeChunk_buf]
  by_cases hcsid : header.csid = m.chunkStreamId
  · have hsize := basicHeaderSize_le hb
    rw [hcsid] at hm hsize ⊢
    have hmono : ∀ s : ChunkStreamState,
        s.bytesRead = 0 ∨ s.bytesRead = (p.chunkStreams m.chunkStreamId).bytesRead ∧
          s.messageLength = (p.chunkStreams m.chunkStreamId).messageLength →
        held m s ≤ held m (p.chunkStreams m.chunkStreamId) := by
      rintro s (h0 | ⟨hread, hlength⟩)
      · simp [held, h0]
      · simp [held, hread, hlength]
    have hheld := held_parseMessageHeader hm hcomplete.1
    have hle := cost_mono (basicHeaderSize m.chunkStreamId) p.inChunkSize.toNat
      (Nat.sub_le_sub_left (hmono state hheld) m.messageLength.toNat)
    have hshort := hs.short
    have htake := starved_takeChunk (m := m) state (header.size + n) hc ?_
      (by omega) (hcomplete.2.2) (by omega)
    · exact ⟨htake.1, takeChunk_inChunkSize .., htake.2⟩
    · intro hlength
      rcases hheld with h0 | ⟨hread, hsame⟩
      · rw [h0]
        exact hpos
      · rw [hread]
        exact hs.unfinished (hsame ▸ hlength)
  · -- a chunk of another stream only shortens the buffer
    have hother : ∀ s : ChunkStreamState,
        (p.setStream header.csid s).chunkStreams m.chunkStreamId =
          p.chunkStreams m.chunkStreamId := by
      intro s
      exact Function.update_of_ne (Ne.symm hcsid) _ _
    have hkeep : (takeChunk p header.csid state buf (header.size + n)).parser.chunkStreams
        m.chunkStreamId = p.chunkStreams m.chunkStreamId := by
      unfold takeChunk
      dsimp only
      split <;> exact hother _
    refine ⟨⟨?_, ?_⟩, takeChunk_inChunkSize .., ?_⟩
    · rw [hkeep]
      exact hs.unfinished
    · have hshort := hs.short
      rw [hkeep, takeChunk_inChunkSize, takeChunk_buf, List.length_drop]
      omega
    · intro hmessage
      unfold takeChunk at hmessage
      dsimp only at hmessage
      split at hmessage
      · exact hcsid (congrArg RtmpMessage.chunkStreamId (Option.some.inj hmessage))
      · cases hmessage

/-- A starved parser never completes the message. -/
theorem starved_drain (hpos : 0 < m.messageLength) (hc : 1 ≤ p.inChunkSize.toNat)
    (hs : Starved m p buf) :
    m ∉ (chunkReader.drain p buf).items.filterMap ChunkRecord.message := by
  induction p, buf using chunkReader.drain_induction with
  | more p buf h => simp [Reader.drain_of_more (R := chunkReader) h]
  | fail p buf e h => simp [Reader.drain_of_fail (R := chunkReader) h]
  | item p buf n p' r h ih =>
      obtain ⟨hnext, hsize, hr⟩ := starved_readChunk hpos hc h hs
      have hmore := ih (by rw [hsize]; exact hc) hnext
      rw [Reader.drain_of_item (R := chunkReader) h]
      simp only [Drained.prepend_items, List.singleton_append, List.filterMap_cons]
      cases hm : r.message with
      | none => exact hmore
      | some m' =>
          simp only [List.mem_cons, not_or]
          exact ⟨fun h => hr (by rw [hm, h]), hmore⟩

/-- The first fmt=3 header of a long message with an extended timestamp takes four payload bytes
for it, and from there on the parser is starved. -/
theorem starved_laterChunks (hlen : m.payload.length = m.messageLength.toNat)
    (hlow : 2 ≤ m.chunkStreamId) (hhigh : m.chunkStreamId ≤ 65599)
    (hc : 1 ≤ p.inChunkSize.toNat) (hts : 0x00FFFFFF ≤ m.timestamp)
    (hmore : p.inChunkSize.toNat < m.payload.length) {used : Nat} {r : ChunkRecord}
    (h : readChunk (p.setStream m.chunkStreamId (receiving m p.inChunkSize.toNat))
      (laterChunks m.chunkStreamId p.inChunkSize.toNat m.payload) = .item used p' r) :
    Starved m p' ((laterChunks m.chunkStreamId p.inChunkSize.toNat m.payload).drop used) ∧
      p'.inChunkSize = p.inChunkSize ∧ r.message ≠ some m := by
  have hinput := length_laterChunks m.chunkStreamId hc _ m.payload (Nat.le_refl _) hmore
  have hbasic := parseBasicHeader_put 3 (by decide) hlow hhigh
    (payloadChunks m.chunkStreamId p.inChunkSize.toNat (m.payload.drop p.inChunkSize.toNat))
  have hbuf : laterChunks m.chunkStreamId p.inChunkSize.toNat m.payload =
      appendBasicHeader 3 m.chunkStreamId ++
        payloadChunks m.chunkStreamId p.inChunkSize.toNat (m.payload.drop p.inChunkSize.toNat) :=
    if_neg (by omega)
  rw [← hbuf] at hbasic
  obtain ⟨header, state, n, hb, hm, hcomplete, rfl, rfl, rfl⟩ := readChunk_item h
  rw [hbasic] at hb
  cases hb
  have hstate : (p.setStream m.chunkStreamId
      (receiving m p.inChunkSize.toNat)).chunkStreams m.chunkStreamId =
      receiving m p.inChunkSize.toNat := Function.update_self ..
  dsimp only at hm hcomplete
  rw [hstate] at hm
  have hext : (receiving m p.inChunkSize.toNat).extendedTimestamp ≠ 0 := by
    change (if m.timestamp ≥ 0x00FFFFFF then m.timestamp else 0) ≠ 0
    rw [if_pos hts]
    rintro h0
    rw [h0] at hts
    exact absurd hts (by decide)
  obtain ⟨rfl, hn⟩ := (completeHeader_iff.mpr ⟨hm, hcomplete.1⟩).of_type3
  rw [if_neg hext] at hn
  subst hn
  rw [startAgain_receiving hc (by omega)] at hcomplete ⊢
  have hsame := toNat_ofNat_le hlen (by omega : p.inChunkSize.toNat ≤ m.payload.length)
  have hunread : (receiving m p.inChunkSize.toNat).bytesRead < m.messageLength := by
    change UInt32.ofNat p.inChunkSize.toNat < m.messageLength
    rw [UInt32.lt_iff_toNat_lt, hsame]
    omega
  have hheld : held m (receiving m p.inChunkSize.toNat) = p.inChunkSize.toNat :=
    (if_pos rfl).trans hsame
  have htake := starved_takeChunk (m := m) (p := p.setStream m.chunkStreamId
      (receiving m p.inChunkSize.toNat)) (receiving m p.inChunkSize.toNat)
    (basicHeaderSize m.chunkStreamId + 4) hc (fun _ => hunread) (by omega)
    hcomplete.2.2 (by
      rw [hheld, hinput, ← hlen]
      simp only [setStream_inChunkSize]
      omega)
  rw [takeChunk_buf] at htake
  exact ⟨htake.1, takeChunk_inChunkSize .., htake.2⟩

/-- A long message with an extended timestamp is not delivered. -/
theorem not_delivers_encodeMessage (hlen : m.payload.length = m.messageLength.toNat)
    (h24 : m.messageLength.toNat < 2 ^ 24)
    (hlow : 2 ≤ m.chunkStreamId) (hhigh : m.chunkStreamId ≤ 65599)
    (hc : 1 ≤ p.inChunkSize.toNat) (hts : 0x00FFFFFF ≤ m.timestamp)
    (hmore : p.inChunkSize.toNat < m.payload.length) :
    ¬ Delivers p (encodeMessage m p.inChunkSize) m := by
  obtain ⟨used, hused, hread⟩ := readChunk_encodeMessage (p := p) hlen h24 hlow hhigh hc
  rw [if_neg (by omega)] at hread
  have hpos : 0 < m.messageLength := by
    rw [UInt32.lt_iff_toNat_lt]
    simp only [UInt32.reduceToNat]
    omega
  unfold Delivers
  rw [parse_eq_drain, Reader.drain_of_item (R := chunkReader) hread, hused]
  rintro ⟨herror, hrest, hmessages⟩
  cases h : readChunk (p.setStream m.chunkStreamId (receiving m p.inChunkSize.toNat))
      (laterChunks m.chunkStreamId p.inChunkSize.toNat m.payload) with
  | more =>
      -- bytes are left over
      rw [Reader.drain_of_more (R := chunkReader) h] at hrest
      have hinput := length_laterChunks m.chunkStreamId hc _ m.payload (Nat.le_refl _) hmore
      have hnil : (laterChunks m.chunkStreamId p.inChunkSize.toNat m.payload).length = 0 :=
        congrArg List.length hrest
      unfold cost at hinput
      omega
  | fail e =>
      rw [Reader.drain_of_fail (R := chunkReader) h] at herror
      cases herror
  | item used' p' r =>
      obtain ⟨starved, hsize, hr⟩ := starved_laterChunks hlen hlow hhigh hc hts hmore h
      have hnever := starved_drain hpos (by rw [hsize]; exact hc) starved
      rw [Reader.drain_of_item (R := chunkReader) h] at hmessages
      have hmem : m ∈ ([m] : List RtmpMessage) := List.mem_singleton.mpr rfl
      rw [← hmessages] at hmem
      simp only [settled, Drained.prepend_items, List.singleton_append,
        List.filterMap_cons] at hmem
      split at hmem
      · exact hnever hmem
      · rename_i m' hm'
        rcases List.mem_cons.mp hmem with rfl | hlater
        · exact hr hm'
        · exact hnever hlater

end Starving

/-- **When a written message is parsed back.** -/
theorem parse_encodeMessage_iff (p : RtmpChunkParser) (m : RtmpMessage) (c : UInt32)
    (hlen : m.payload.length = m.messageLength.toNat) (h24 : m.messageLength.toNat < 2 ^ 24)
    (hlow : 2 ≤ m.chunkStreamId) (hhigh : m.chunkStreamId ≤ 65599) (hc : 1 ≤ c)
    (hp : p.inChunkSize = c) :
    Delivers p (encodeMessage m c) m ↔
      m.timestamp < 0x00FFFFFF ∨ m.payload.length ≤ c.toNat := by
  subst hp
  have hc' : 1 ≤ p.inChunkSize.toNat := by
    simpa [UInt32.le_iff_toNat_le] using hc
  constructor
  · intro h
    by_contra hnot
    rw [not_or, UInt32.not_lt] at hnot
    exact not_delivers_encodeMessage hlen h24 hlow hhigh hc' hnot.1 (by omega) h
  · exact delivers_encodeMessage hlen h24 hlow hhigh hc'

/-- A message of three payload bytes, sent in chunks of two to a fresh parser. -/
theorem parse_encodeMessage_short :
    Delivers { inChunkSize := 2 } (encodeMessage ⟨40, 3, 8, 1, 4, [1, 2, 3]⟩ 2)
        ⟨40, 3, 8, 1, 4, [1, 2, 3]⟩ ↔
      (40 : UInt32) < 0x00FFFFFF ∨ 3 ≤ (2 : UInt32).toNat :=
  parse_encodeMessage_iff { inChunkSize := 2 } ⟨40, 3, 8, 1, 4, [1, 2, 3]⟩ 2 rfl (by decide)
    (by decide) (by decide) (by decide) rfl

/-- An audio message of 129 bytes at the first extended timestamp, sent in chunks of the
default size: the fmt=3 header swallows the last byte and the parser waits for three
more. -/
theorem encodeMessage_not_delivered :
    ¬ Delivers {} (encodeMessage ⟨0x00FFFFFF, 129, 8, 1, 4, List.replicate 129 7⟩
      kDefaultChunkSize) ⟨0x00FFFFFF, 129, 8, 1, 4, List.replicate 129 7⟩ := by
  have h : (parse {} (encodeMessage ⟨0x00FFFFFF, 129, 8, 1, 4, List.replicate 129 7⟩
      kDefaultChunkSize)).messages = [] := by decide +kernel
  rintro ⟨-, -, hmessages⟩
  rw [h] at hmessages
  cases hmessages

end Rmuduo.Rtmp
