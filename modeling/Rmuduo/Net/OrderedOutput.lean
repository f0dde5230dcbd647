/-
Output of a connection: nothing is lost, doubled or overtaken, and `shutdown()` waits for it.

* `Ran` — the calls of `send`, `handleWrite` and `shutdown` in the thread of the loop, with
  whatever the kernel answers.
* `Ordered` — what each of them keeps.
* `output_ordered` — what has been written and what is buffered is what has been accepted.
-/

import Rmuduo.Net.TcpConnection

namespace Rmuduo.Net.TcpConnection

open Lib Lib.System

/-! ### Runs -/

/-- A connection that has just been established. -/
def established (highWaterMark : Nat) (hasWriteCompleteCallback hasHighWaterMarkCallback : Bool) :
    TcpConnection :=
  connectEstablished {
    highWaterMark := highWaterMark
    hasWriteCompleteCallback := hasWriteCompleteCallback
    hasHighWaterMarkCallback := hasHighWaterMarkCallback }

/-- The answers of the kernel to a write of `len` bytes, other than those that make
`sendInLoop` give the rest up. -/
def Answers (len : Nat) : WriteResult → Prop
  | .wrote n => n ≤ len
  | .failed errno => errno ≠ .EPIPE ∧ errno ≠ .ECONNRESET

/-- The connections that calls lead to, the payloads that `send` has accepted, one behind the
other, and whether `shutdown` has been called. -/
inductive Ran : TcpConnection → Bytes → Bool → Prop where
  | start (highWaterMark : Nat) (hasWriteCompleteCallback hasHighWaterMarkCallback : Bool) :
      Ran (established highWaterMark hasWriteCompleteCallback hasHighWaterMarkCallback) [] false
  | send {c c' : TcpConnection} {accepted : Bytes} {asked : Bool} {result : WriteResult}
      {data : Bytes} (before : Ran c accepted asked) (answers : Answers data.length result)
      (size : data.length ≤ maxSize) (returned : c.send result data = .ok c') :
      Ran c' (if c.state = .kConnected then accepted ++ data else accepted) asked
  | handleWrite {c : TcpConnection} {accepted : Bytes} {asked : Bool} {result : WriteResult}
      (before : Ran c accepted asked) (answers : Answers c.outputBuffer.readableBytes result) :
      Ran (c.handleWrite result) accepted asked
  | shutdown {c : TcpConnection} {accepted : Bytes} {asked : Bool}
      (before : Ran c accepted asked) : Ran c.shutdown accepted true

/-- The bytes are in order, write interest stands for buffered bytes, and the write half is
closed once `shutdown` has been called and nothing is buffered. -/
structure Ordered (c : TcpConnection) (accepted : Bytes) (asked : Bool) : Prop where
  valid : c.outputBuffer.Valid
  bytes : c.written ++ c.outputBuffer.readable = accepted
  interest : c.channel.isWriting = true ↔ c.outputBuffer.readable ≠ []
  phase : c.state = .kConnected ∧ c.shutdownWrites = 0 ∨
    c.state = .kDisconnecting ∧ asked = true ∧
      c.shutdownWrites = if c.channel.isWriting then 0 else 1

/-! ### Steps -/

section Steps

variable {c c' : TcpConnection} {accepted : Bytes} {asked : Bool} {result : WriteResult}
  {data : Bytes}

theorem readableBytes_eq_zero {b : Buffer} (h : b.Valid) :
    b.readableBytes = 0 ↔ b.readable = [] := by
  rw [← h.length_readable, List.length_eq_zero_iff]

/-- The direct write hands over what stands at the front of the data, and nothing of it while
bytes are buffered. -/
theorem writeDirectly_spec (h : c.outputBuffer.Valid) (answers : Answers data.length result) :
    ∃ written queued nwrote, c.writeDirectly result data =
        ({ c with written := c.written ++ written, queued := queued }, nwrote, false) ∧
      written = data.take nwrote ∧ nwrote ≤ data.length ∧
      (c.outputBuffer.readable ≠ [] → nwrote = 0) := by
  unfold writeDirectly
  split
  · rename_i hfree
    have hempty : c.outputBuffer.readable = [] := (readableBytes_eq_zero h).mp hfree.2
    cases result with
    | wrote nwrote =>
        dsimp only
        split
        · exact ⟨_, _, nwrote, rfl, rfl, answers, fun hne => absurd hempty hne⟩
        · exact ⟨_, _, nwrote, rfl, rfl, answers, fun hne => absurd hempty hne⟩
    | failed errno =>
        obtain ⟨hpipe, hreset⟩ := answers
        refine ⟨[], c.queued, 0, ?_, rfl, Nat.zero_le _, fun _ => rfl⟩
        simp [hpipe, hreset]
  · exact ⟨[], c.queued, 0, by rw [List.append_nil], rfl, Nat.zero_le _, fun _ => rfl⟩

theorem noticeHighWaterMark_spec (c : TcpConnection) (remaining : Nat) :
    ∃ queued, c.noticeHighWaterMark remaining = { c with queued := queued } := by
  unfold noticeHighWaterMark
  dsimp only
  split
  · exact ⟨_, rfl⟩
  · exact ⟨c.queued, rfl⟩

theorem ensureWriting_spec (c : TcpConnection) :
    ∃ channel : Channel, channel.isWriting = true ∧
      c.ensureWriting = { c with channel := channel } := by
  unfold ensureWriting
  cases h : c.channel.isWriting with
  | true => exact ⟨c.channel, h, rfl⟩
  | false => exact ⟨_, Channel.isWriting_enableWriting _, rfl⟩

/-- What is buffered stands behind what has been buffered before. -/
theorem bufferRest_spec (h : c.outputBuffer.Valid) {rest : Bytes} (size : rest.length ≤ maxSize)
    (returned : c.bufferRest rest = .ok c') :
    ∃ outputBuffer channel queued, outputBuffer.Valid ∧
      outputBuffer.readable = c.outputBuffer.readable ++ rest ∧ channel.isWriting = true ∧
      c' = { c with outputBuffer := outputBuffer, channel := channel, queued := queued } := by
  obtain ⟨queued, hnotice⟩ := noticeHighWaterMark_spec c rest.length
  unfold bufferRest at returned
  rw [hnotice] at returned
  dsimp only at returned
  rcases Buffer.append_cases h size with herror | ⟨outputBuffer, hok, hvalid, hsame⟩
  · rw [herror, error_bind] at returned
    cases returned
  · rw [hok, ok_bind] at returned
    cases returned
    obtain ⟨channel, hwriting, hensure⟩ := ensureWriting_spec
      { c with queued := queued, outputBuffer := outputBuffer }
    exact ⟨outputBuffer, channel, queued, hvalid, hsame, hwriting, hensure⟩

theorem Ordered.send (h : Ordered c accepted asked) (answers : Answers data.length result)
    (size : data.length ≤ maxSize) (returned : c.send result data = .ok c') :
    Ordered c' (if c.state = .kConnected then accepted ++ data else accepted) asked := by
  unfold TcpConnection.send at returned
  by_cases hstate : c.state = .kConnected
  · rw [if_pos hstate] at returned ⊢
    have hquiet : c.shutdownWrites = 0 := by
      rcases h.phase with ⟨-, hquiet⟩ | ⟨hgoing, -⟩
      · exact hquiet
      · rw [hstate] at hgoing
        cases hgoing
    obtain ⟨written, queued, nwrote, hdirect, rfl, hle, hnone⟩ := writeDirectly_spec h.valid answers
    unfold sendInLoop at returned
    rw [if_neg (by rw [hstate]; decide), hdirect] at returned
    dsimp only at returned
    -- What has been written goes in front of what was buffered, so nothing was buffered.
    have hbytes : c.written ++ data.take nwrote ++ (c.outputBuffer.readable ++ data.drop nwrote) =
        accepted ++ data := by
      rw [← h.bytes]
      by_cases hempty : c.outputBuffer.readable = []
      · simp [hempty]
      · simp [hnone hempty]
    by_cases hrest : 0 < data.length - nwrote
    · rw [if_pos ⟨rfl, hrest⟩] at returned
      have hsize : (data.drop nwrote).length ≤ maxSize := by
        rw [List.length_drop]
        omega
      obtain ⟨outputBuffer, channel, queued', hvalid, hreadable, hwriting, rfl⟩ :=
        bufferRest_spec
          (c := { c with written := c.written ++ data.take nwrote, queued := queued })
          h.valid hsize returned
      have hne : outputBuffer.readable ≠ [] := by
        intro hnil
        rw [hreadable, List.append_eq_nil_iff, List.drop_eq_nil_iff] at hnil
        omega
      exact {
        valid := hvalid
        bytes := by
          dsimp only
          rw [hreadable]
          exact hbytes
        interest := ⟨fun _ => hne, fun _ => hwriting⟩
        phase := .inl ⟨hstate, hquiet⟩ }
    · rw [if_neg (fun hand => hrest hand.2)] at returned
      cases returned
      have hall : data.drop nwrote = [] := List.drop_eq_nil_of_le (by omega)
      rw [hall, List.append_nil] at hbytes
      exact {
        valid := h.valid
        bytes := hbytes
        interest := h.interest
        phase := .inl ⟨hstate, hquiet⟩ }
  · rw [if_neg hstate] at returned ⊢
    cases returned
    exact h

/-- `shutdownInLoop` on a connection that has been told to shut down, and has not yet. -/
theorem Ordered.shutdownInLoop (hvalid : c.outputBuffer.Valid)
    (hbytes : c.written ++ c.outputBuffer.readable = accepted)
    (hinterest : c.channel.isWriting = true ↔ c.outputBuffer.readable ≠ [])
    (hstate : c.state = .kDisconnecting) (hquiet : c.shutdownWrites = 0) :
    Ordered c.shutdownInLoop accepted true := by
  unfold TcpConnection.shutdownInLoop
  cases hwriting : c.channel.isWriting with
  | true =>
      rw [if_pos rfl]
      exact ⟨hvalid, hbytes, hinterest, .inr ⟨hstate, rfl, by rw [hwriting, hquiet]; rfl⟩⟩
  | false =>
      rw [if_neg Bool.false_ne_true]
      refine ⟨hvalid, hbytes, hinterest, .inr ⟨hstate, rfl, ?_⟩⟩
      dsimp only
      rw [hwriting, hquiet]
      rfl

theorem Ordered.shutdown (h : Ordered c accepted asked) : Ordered c.shutdown accepted true := by
  unfold TcpConnection.shutdown
  rcases h.phase with ⟨hstate, hquiet⟩ | ⟨hstate, -, hcount⟩
  · rw [if_pos hstate]
    exact Ordered.shutdownInLoop h.valid h.bytes h.interest rfl hquiet
  · rw [if_neg (by rw [hstate]; decide)]
    exact ⟨h.valid, h.bytes, h.interest, .inr ⟨hstate, rfl, hcount⟩⟩

/-- The output buffer has been emptied. -/
theorem Ordered.flushed (hvalid : c.outputBuffer.Valid)
    (hbytes : c.written ++ c.outputBuffer.readable = accepted)
    (hempty : c.outputBuffer.readable = [])
    (hphase : c.state = .kConnected ∨ c.state = .kDisconnecting ∧ asked = true)
    (hquiet : c.shutdownWrites = 0) : Ordered c.flushed accepted asked := by
  have hidle : c.channel.disableWriting.isWriting = true ↔ c.outputBuffer.readable ≠ [] := by
    rw [Channel.isWriting_disableWriting, hempty]
    simp
  obtain ⟨queued, hnotice⟩ : ∃ queued, (if c.hasWriteCompleteCallback then
      queueInLoop { c with channel := c.channel.disableWriting } .writeComplete
      else { c with channel := c.channel.disableWriting }) =
      { c with channel := c.channel.disableWriting, queued := queued } := by
    split
    · exact ⟨_, rfl⟩
    · exact ⟨c.queued, rfl⟩
  unfold TcpConnection.flushed
  dsimp only
  rw [hnotice]
  dsimp only
  rcases hphase with hstate | ⟨hstate, rfl⟩
  · rw [if_neg (by rw [hstate]; decide)]
    exact ⟨hvalid, hbytes, hidle, .inl ⟨hstate, hquiet⟩⟩
  · rw [if_pos hstate]
    exact Ordered.shutdownInLoop hvalid hbytes hidle hstate hquiet

theorem Ordered.handleWrite (h : Ordered c accepted asked) :
    Ordered (c.handleWrite result) accepted asked := by
  unfold TcpConnection.handleWrite
  cases hwriting : c.channel.isWriting with
  | false => exact h
  | true =>
      rw [if_pos rfl]
      have hquiet : c.shutdownWrites = 0 := by
        rcases h.phase with ⟨-, hquiet⟩ | ⟨-, -, hcount⟩
        · exact hquiet
        · rw [hcount, hwriting]
          rfl
      cases result with
      | failed errno => exact h
      | wrote n =>
          dsimp only
          by_cases hn : 0 < n
          · rw [if_pos hn]
            obtain ⟨hvalid, hreadable⟩ := Buffer.retrieve_cases h.valid n
            have hbytes : c.written ++ c.outputBuffer.readable.take n ++
                (c.outputBuffer.retrieve n).readable = accepted := by
              rw [hreadable, List.append_assoc, List.take_append_drop]
              exact h.bytes
            by_cases hempty : (c.outputBuffer.retrieve n).readableBytes = 0
            · rw [if_pos hempty]
              refine Ordered.flushed hvalid hbytes ((readableBytes_eq_zero hvalid).mp hempty) ?_
                hquiet
              rcases h.phase with ⟨hstate, -⟩ | ⟨hstate, hasked, -⟩
              · exact .inl hstate
              · exact .inr ⟨hstate, hasked⟩
            · rw [if_neg hempty]
              have hne := mt (readableBytes_eq_zero hvalid).mpr hempty
              exact ⟨hvalid, hbytes, ⟨fun _ => hne, fun _ => hwriting⟩, h.phase⟩
          · rw [if_neg hn]
            exact h

/-! ### Output in order -/

theorem ordered_established (highWaterMark : Nat)
    (hasWriteCompleteCallback hasHighWaterMarkCallback : Bool) :
    Ordered (established highWaterMark hasWriteCompleteCallback hasHighWaterMarkCallback) []
      false where
  valid := Buffer.valid_init (by decide)
  bytes := Buffer.readable_init Buffer.kInitialSize
  interest := by
    have hidle : (established highWaterMark hasWriteCompleteCallback
        hasHighWaterMarkCallback).channel.isWriting = false :=
      (Channel.isWriting_enableReading {}).trans (by decide)
    rw [hidle]
    constructor
    · intro h
      cases h
    · intro h
      exact absurd (Buffer.readable_init Buffer.kInitialSize) h
  phase := .inl ⟨rfl, rfl⟩

theorem ran_ordered (h : Ran c accepted asked) : Ordered c accepted asked := by
  induction h with
  | start highWaterMark hasWriteCompleteCallback hasHighWaterMarkCallback =>
      exact ordered_established ..
  | send before answers size returned ih => exact ih.send answers size returned
  | handleWrite before answers ih => exact ih.handleWrite
  | shutdown before ih => exact ih.shutdown

/-- **Output is ordered and lossless, and the shutdown graceful.** -/
theorem output_ordered (h : Ran c accepted asked) :
    c.written ++ c.outputBuffer.readable = accepted ∧
      (c.channel.isWriting = true ↔ c.outputBuffer.readable ≠ []) ∧
      c.shutdownWrites ≤ 1 ∧
      (0 < c.shutdownWrites → asked = true ∧ c.written = accepted) := by
  have hordered := ran_ordered h
  refine ⟨hordered.bytes, hordered.interest, ?_, ?_⟩
  · rcases hordered.phase with ⟨-, hquiet⟩ | ⟨-, -, hcount⟩
    · omega
    · split at hcount <;> omega
  · intro hpos
    rcases hordered.phase with ⟨-, hquiet⟩ | ⟨-, hasked, hcount⟩
    · omega
    · have hidle : ¬ c.channel.isWriting = true := by
        intro hwriting
        rw [if_pos hwriting] at hcount
        omega
      have hempty : c.outputBuffer.readable = [] := by
        by_contra hne
        exact hidle (hordered.interest.mpr hne)
      refine ⟨hasked, ?_⟩
      rw [← hordered.bytes, hempty, List.append_nil]

/-- Three bytes, of which the kernel takes one, and `shutdown()` behind them. -/
theorem output_ordered_send_shutdown :
    ∃ c, (established 2 false true).send (.wrote 1) [1, 2, 3] = .ok c ∧
      c.shutdown.written ++ c.shutdown.outputBuffer.readable = [1, 2, 3] ∧
      (c.shutdown.channel.isWriting = true ↔ c.shutdown.outputBuffer.readable ≠ []) ∧
      c.shutdown.shutdownWrites ≤ 1 ∧
      (0 < c.shutdown.shutdownWrites → true = true ∧ c.shutdown.written = [1, 2, 3]) := by
  have hok : ((established 2 false true).send (.wrote 1) [1, 2, 3]).toBool = true := by
    decide +kernel
  cases hsend : (established 2 false true).send (.wrote 1) [1, 2, 3] with
  | error e =>
      rw [hsend] at hok
      cases hok
  | ok c =>
      have answers : Answers [1, 2, 3].length (.wrote 1) := (by decide : 1 ≤ 3)
      exact ⟨c, rfl, output_ordered
        (.shutdown (.send (.start 2 false true) answers (by decide) hsend))⟩

end Steps

end Rmuduo.Net.TcpConnection
