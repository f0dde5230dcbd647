/-
The messages that the chunk parser completes.

Whatever bytes come in, a message that is completed has the length that its header announces, a
length of three bytes and a chunk stream id of the chunk format. So the writer can carry it on,
as far as its timestamp lets it.

* `carried_parse` — what a call of the parser completes, and what it leaves.
* `Transport.Sane.read` — the same of a connection, whose bytes begin with the handshake.
-/

import Rmuduo.Rtmp.ChunkBounds
import Rmuduo.Rtmp.Decoding
import Rmuduo.Rtmp.Relay

namespace Rmuduo.Rtmp

open Lib

/-- What the chunk format carries, whatever the timestamp is. -/
structure Carried (m : RtmpMessage) : Prop where
  sized : m.payload.length = m.messageLength.toNat
  short : m.messageLength.toNat < 2 ^ 24
  low : 2 ≤ m.chunkStreamId
  high : m.chunkStreamId ≤ 65599

theorem Carried.relayable {m : RtmpMessage} (h : Carried m) (early : m.timestamp < 0x00FFFFFF) :
    Relayable m :=
  ⟨h.sized, h.short, early, h.low, h.high⟩

/-! ### Lengths and chunk stream ids -/

theorem toNat_readUint24BE_lt (data : Bytes) : (readUint24BE data).toNat < 2 ^ 24 := by
  rw [toNat_readUint24BE]
  have h0 := (byteAt data 0).toNat_lt
  have h1 := (byteAt data 1).toNat_lt
  have h2 := (byteAt data 2).toNat_lt
  omega

/-- No chunk stream has announced a longer message than three bytes can tell. -/
def Short (p : RtmpChunkParser) : Prop :=
  ∀ csid, (p.chunkStreams csid).messageLength.toNat < 2 ^ 24

section Headers

variable {p : RtmpChunkParser} {buf data : Bytes} {header : BasicHeader} {fmt : UInt8}
  {s s' : ChunkStreamState} {n : Nat}

theorem startAgain_messageLength (s : ChunkStreamState) :
    s.startAgain.messageLength = s.messageLength := by
  unfold ChunkStreamState.startAgain
  split <;> rfl

theorem writeFull_short (h : s.messageLength.toNat < 2 ^ 24) (data : Bytes) :
    (s.writeFull data).messageLength.toNat < 2 ^ 24 := by
  unfold ChunkStreamState.writeFull
  split
  · exact h
  · exact toNat_readUint24BE_lt _

theorem writeLength_short (h : s.messageLength.toNat < 2 ^ 24) (data : Bytes) :
    (s.writeLength data).messageLength.toNat < 2 ^ 24 := by
  unfold ChunkStreamState.writeLength
  split
  · exact h
  · exact toNat_readUint24BE_lt _

/-- A header announces a length of three bytes, or none. -/
theorem parseMessageHeader_short (h : s.messageLength.toNat < 2 ^ 24)
    (hm : parseMessageHeader data fmt s = .ok (s', n)) : s'.messageLength.toNat < 2 ^ 24 := by
  rcases parseMessageHeader_ok_fmt hm with rfl | ⟨hinit, rfl | rfl | rfl⟩
  · rw [parseMessageHeader_type0] at hm
    have hs' := writeFull_short h data
    split at hm <;> cases hm <;> exact hs'
  · rw [parseMessageHeader_type1 _ hinit] at hm
    have hs' := writeLength_short h data
    split at hm <;> cases hm <;> exact hs'
  · rw [parseMessageHeader_type2 _ hinit] at hm
    split at hm <;> cases hm <;> exact h
  · rw [parseMessageHeader_ok_type3 hm, startAgain_messageLength]
    exact h

/-- A basic header names a chunk stream of the format. -/
theorem parseBasicHeader_csid (h : parseBasicHeader buf = some header) :
    2 ≤ header.csid ∧ header.csid ≤ 65599 := by
  simp only [UInt32.le_iff_toNat_le]
  unfold parseBasicHeader at h
  split at h
  · cases h
  · rename_i first rest
    dsimp only at h
    split_ifs at h with hone htwo
    · cases h
      have hmark : (first &&& 0x3F).toNat ≤ 63 := by
        rw [UInt8.toNat_and]
        exact Nat.and_le_right
      rw [ge_iff_le, UInt8.le_iff_toNat_le] at hone
      simp only [UInt8.toNat_toUInt32]
      exact ⟨hone, Nat.le_trans hmark (by decide)⟩
    · split at h
      · rename_i b1 _
        cases h
        have hb := b1.toNat_lt
        simp only [UInt32.toNat_add, UInt8.toNat_toUInt32, UInt32.reduceToNat]
        omega
      · cases h
    · split at h
      · rename_i b1 b2 _
        cases h
        have hb1 := b1.toNat_lt
        have hb2 := b2.toNat_lt
        simp only [UInt32.toNat_add, UInt32.toNat_shiftLeft, UInt8.toNat_toUInt32,
          UInt32.reduceToNat, Nat.shiftLeft_eq, Nat.reduceMod, Nat.reducePow]
        omega
      · cases h

end Headers

/-! ### Calls of the parser -/

section Parsing

variable {p : RtmpChunkParser} {buf : Bytes} {header : BasicHeader} {state : ChunkStreamState}
  {n : Nat}

theorem Short.setStream (h : Short p) {csid : UInt32} (hstate : state.messageLength.toNat < 2 ^ 24) :
    Short (p.setStream csid state) := by
  intro csid'
  by_cases hsame : csid' = csid
  · subst hsame
    have hself : (p.setStream csid' state).chunkStreams csid' = state := Function.update_self ..
    rw [hself]
    exact hstate
  · have hother : (p.setStream csid state).chunkStreams csid' = p.chunkStreams csid' :=
      Function.update_of_ne hsame ..
    rw [hother]
    exact h csid'

theorem short_init : Short {} := fun _ => (by decide : (0 : Nat) < 2 ^ 24)

/-- The message of the last chunk is carried. -/
theorem carried_takeChunk (hready : state.Ready) (hshort : state.messageLength.toNat < 2 ^ 24)
    (hb : parseBasicHeader buf = some header) (hc : ChunkComplete p header state n buf)
    {m : RtmpMessage} (hm : (takeChunk p header.csid state buf (header.size + n)).message = some m) :
    Carried m := by
  have hcount := toNat_chunkPayload hready.1 p.inChunkSize
  have hdata : ((buf.drop (header.size + n)).take (chunkPayload p.inChunkSize state).toNat).length =
      (chunkPayload p.inChunkSize state).toNat := by
    have hlen := hc.2.2
    rw [List.length_take, List.length_drop]
    omega
  have hmoved := hready.copyPayload hdata (by omega)
  obtain ⟨hlow, hhigh⟩ := parseBasicHeader_csid hb
  unfold takeChunk at hm
  dsimp only at hm
  split at hm
  · cases hm
    exact ⟨hmoved.2, hshort, hlow, hhigh⟩
  · cases hm

theorem short_takeChunk (h : Short p) (hshort : state.messageLength.toNat < 2 ^ 24) {csid : UInt32}
    {offset : Nat} : Short (takeChunk p csid state buf offset).parser := by
  unfold takeChunk
  dsimp only
  split
  · exact h.setStream hshort
  · exact h.setStream hshort

theorem carried_parseOneChunk {step : ChunkStep} (hp : Bounded p buf) (h : Short p)
    (hstep : parseOneChunk p buf = .ok step) :
    Short step.parser ∧ ∀ m, step.message = some m → Carried m := by
  have hnone {q : RtmpChunkParser} (hq : Short q) :
      Short q ∧ ∀ m, (none : Option RtmpMessage) = some m → Carried m :=
    ⟨hq, fun m hm => by cases hm⟩
  rw [parseOneChunk_eq] at hstep
  cases hb : parseBasicHeader buf with
  | none =>
      rw [hb] at hstep
      cases hstep
      exact hnone h
  | some header =>
      rw [hb] at hstep
      dsimp only at hstep
      cases hm : parseMessageHeader (buf.drop header.size) header.fmt
          (p.chunkStreams header.csid) with
      | error e =>
          rw [hm] at hstep
          cases hstep
      | ok r =>
          obtain ⟨state, n⟩ := r
          have hshort := parseMessageHeader_short (h header.csid) hm
          rw [hm] at hstep
          dsimp only at hstep
          split at hstep
          · rename_i hc
            cases hstep
            exact ⟨short_takeChunk h hshort, fun m hm' =>
              carried_takeChunk (hp.ready hb hm hc) hshort hb hc hm'⟩
          · cases hstep
            exact hnone (h.setStream hshort)

theorem carried_parseLoop (hp : Bounded p buf) (h : Short p) (fuel : Nat) :
    Short (parseLoop fuel p buf).parser ∧ ∀ m ∈ (parseLoop fuel p buf).messages, Carried m := by
  induction fuel generalizing p buf with
  | zero => exact ⟨h, fun m hm => by cases hm⟩
  | succ fuel ih =>
      rw [parseLoop]
      split
      · exact ⟨h, fun m hm => by cases hm⟩
      · split
        · exact ⟨h, fun m hm => by cases hm⟩
        · rename_i step hstep
          obtain ⟨hshort, hcarried⟩ := carried_parseOneChunk hp h hstep
          split
          · exact ⟨hshort, fun m hm => hcarried m (Option.mem_toList.mp hm)⟩
          · obtain ⟨hrest, hmessages⟩ := ih (hp.parseOneChunk hstep) hshort
            refine ⟨hrest, fun m hm => ?_⟩
            rcases List.mem_append.mp hm with hfirst | hlater
            · exact hcarried m (Option.mem_toList.mp hfirst)
            · exact hmessages m hlater

/-- **What the parser completes is carried.** -/
theorem carried_parse (hp : Bounded p buf) (h : Short p) :
    Bounded (parse p buf).parser (parse p buf).buf ∧ Short (parse p buf).parser ∧
      ∀ m ∈ (parse p buf).messages, Carried m :=
  ⟨hp.parseLoop buf.length, carried_parseLoop hp h buf.length⟩

end Parsing

/-! ### Connections -/

namespace Transport

/-- The parser of a connection is not torn. Before the handshake is done, it is so whatever
bytes come. -/
structure Sane (t : Transport) : Prop where
  bounded : t.handshake = .kHandshakeDone → Bounded t.chunkParser t.inputBuffer
  waits : t.handshake ≠ .kHandshakeDone → ∀ buf, Bounded t.chunkParser buf
  short : Short t.chunkParser

section Reading

variable {t : Transport}

theorem sane_init : Sane ⟨.kWaitC0C1, {}, 0, []⟩ where
  bounded h := by cases h
  waits _ _ _ := .inl (.inr ⟨rfl, rfl⟩)
  short := short_init

theorem Sane.append (h : t.Sane) (data : Bytes) : (t.append data).Sane where
  bounded hdone := (h.bounded hdone).append data
  waits := h.waits
  short := h.short

theorem Sane.resizedAll (h : t.Sane) (messages : List RtmpMessage) : (t.resizedAll messages).Sane :=
  ⟨h.bounded, h.waits, h.short⟩

theorem sane_parse (hdone : t.handshake = .kHandshakeDone)
    (hbounded : Bounded t.chunkParser t.inputBuffer) (hshort : Short t.chunkParser) :
    t.parse.1.Sane ∧ t.parse.1.handshake = .kHandshakeDone ∧
      ∀ messages, t.parse.2 = some messages → ∀ m ∈ messages, Carried m := by
  obtain ⟨hrest, hrestShort, hcarried⟩ := carried_parse hbounded hshort
  unfold Transport.parse
  split
  · refine ⟨⟨fun _ => hbounded, fun hwaits => absurd hdone hwaits, hshort⟩, hdone, ?_⟩
    intro messages h m hm
    cases h
    cases hm
  · refine ⟨⟨fun _ => hrest, fun hwaits => absurd hdone hwaits, hrestShort⟩, hdone, ?_⟩
    intro messages h m hm
    dsimp only at h
    split at h
    · cases h
    · cases h
      exact hcarried m hm

/-- **What a connection reads.** The messages of a call are carried, and they come behind the
handshake. -/
theorem Sane.read (h : t.Sane) (random : Fin 1528 → UInt8) :
    (t.read random).1.Sane ∧ ∀ messages, (t.read random).2 = some messages →
      (messages ≠ [] → (t.read random).1.handshake = .kHandshakeDone) ∧
        ∀ m ∈ messages, Carried m := by
  rcases read_cases random t with ⟨hdone, hread⟩ | ⟨hwaits, hnow, hread⟩ | ⟨hwaits, hstill, hread⟩
  · obtain ⟨hsane, hbehind, hcarried⟩ :=
      sane_parse (t := t.counted) hdone (h.bounded hdone) h.short
    rw [hread]
    exact ⟨hsane, fun messages hm => ⟨fun _ => hbehind, hcarried messages hm⟩⟩
  · obtain ⟨hsane, hbehind, hcarried⟩ :=
      sane_parse (t := t.counted.handshaken random) hnow (h.waits hwaits _) h.short
    rw [hread]
    exact ⟨hsane, fun messages hm => ⟨fun _ => hbehind, hcarried messages hm⟩⟩
  · rw [hread]
    refine ⟨⟨fun hdone => absurd hdone hstill, fun _ => h.waits hwaits, h.short⟩, ?_⟩
    intro messages hm
    dsimp only at hm
    split at hm
    · cases hm
    · cases hm
      exact ⟨fun hne => absurd rfl hne, fun m hm' => by cases hm'⟩

end Reading

end Transport

end Rmuduo.Rtmp
