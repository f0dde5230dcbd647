/-
The notices of a connection to its user (`net/TcpConnection.cc`).

A user that writes faster than the peer reads can stop at a high-water mark notice and go on at a
write-complete notice. That works if it is never left waiting.

* `Unanswered` — there has been a high-water mark notice, and no write-complete notice behind it.
* `Signalled` — what the notices say of the output buffer.
* `notices_answered` — so in every run.
-/

import Rmuduo.Net.OrderedOutput

namespace Rmuduo.Net.TcpConnection

open Lib Lib.System

/-! ### Notices -/

/-- There has been a high-water mark notice, and no write-complete notice behind it. -/
def Unanswered (queued : List Notice) : Prop :=
  ∃ before size after, queued = before ++ .highWaterMark size :: after ∧ .writeComplete ∉ after

theorem unanswered_highWaterMark (queued : List Notice) (size : Nat) :
    Unanswered (queued ++ [.highWaterMark size]) :=
  ⟨queued, size, [], rfl, List.not_mem_nil⟩

theorem not_unanswered_writeComplete (queued : List Notice) :
    ¬ Unanswered (queued ++ [.writeComplete]) := by
  rintro ⟨before, size, after, heq, hnone⟩
  rcases List.eq_nil_or_concat after with rfl | ⟨front, last, rfl⟩
  · cases (List.append_inj' heq rfl).2
  · rw [List.concat_eq_append, ← List.cons_append, ← List.append_assoc] at heq
    cases (List.append_inj' heq rfl).2
    exact hnone (by simp)

/-- What the notices say of the output buffer, when both callbacks are installed. -/
structure Signalled (c : TcpConnection) (accepted : Bytes) : Prop where
  complete : c.hasWriteCompleteCallback = true
  highWater : c.hasHighWaterMarkCallback = true
  waiting : Unanswered c.queued → c.outputBuffer.readable ≠ []
  raised : 0 < c.highWaterMark → c.highWaterMark ≤ c.outputBuffer.readable.length →
    Unanswered c.queued
  told : accepted ≠ [] → c.outputBuffer.readable = [] → c.queued.getLast? = some .writeComplete

section Steps

variable {c c' : TcpConnection} {accepted data : Bytes} {result : WriteResult}

/-- The output buffer is empty, and the user is told so. -/
theorem signalled_completed (complete : c.hasWriteCompleteCallback = true)
    (highWater : c.hasHighWaterMarkCallback = true) (hempty : c.outputBuffer.readable = [])
    (accepted : Bytes) : Signalled (c.queueInLoop .writeComplete) accepted where
  complete := complete
  highWater := highWater
  waiting hunanswered := absurd hunanswered (not_unanswered_writeComplete _)
  raised hpos hle := by
    have hle : c.highWaterMark ≤ c.outputBuffer.readable.length := hle
    rw [hempty] at hle
    exact absurd hle (Nat.not_le.mpr hpos)
  told _ _ := List.getLast?_concat ..

theorem bufferRest_queued {rest : Bytes} (returned : c.bufferRest rest = .ok c') :
    c'.queued = (c.noticeHighWaterMark rest.length).queued := by
  obtain ⟨outputBuffer, -, hreturned⟩ := bind_eq_ok.mp returned
  cases hreturned
  unfold ensureWriting
  split <;> rfl

/-- What could not be written is buffered, and the user is told when that is too much. -/
theorem Signalled.bufferRest (h : Signalled c accepted) (hvalid : c.outputBuffer.Valid)
    {rest : Bytes} (size : rest.length ≤ maxSize) (hrest : 0 < rest.length) (more : Bytes)
    (returned : c.bufferRest rest = .ok c') : Signalled c' more := by
  have hqueued := bufferRest_queued returned
  obtain ⟨outputBuffer, channel, queued, -, hreadable, -, rfl⟩ :=
    bufferRest_spec hvalid size returned
  have hne : outputBuffer.readable ≠ [] := by
    rw [hreadable, ← List.length_pos_iff, List.length_append]
    omega
  refine ⟨h.complete, h.highWater, fun _ => hne, ?_, fun _ hempty => absurd hempty hne⟩
  intro hpos hle
  have hle : c.highWaterMark ≤ outputBuffer.readable.length := hle
  change Unanswered queued
  rw [hreadable, List.length_append, hvalid.length_readable] at hle
  rw [show queued = _ from hqueued, noticeHighWaterMark]
  split
  · exact unanswered_highWaterMark ..
  · -- The mark has been reached before.
    rename_i hnone
    apply h.raised hpos
    rw [hvalid.length_readable]
    by_contra hlow
    exact hnone ⟨hle, Nat.not_le.mp hlow, h.highWater⟩

/-- The kernel takes all, or a part. -/
theorem writeDirectly_wrote
    (hempty : c.channel.isWriting = false ∧ c.outputBuffer.readableBytes = 0)
    (complete : c.hasWriteCompleteCallback = true) (n : Nat) (data : Bytes) :
    c.writeDirectly (.wrote n) data =
      (if data.length - n = 0 then
        queueInLoop { c with written := c.written ++ data.take n } .writeComplete
        else { c with written := c.written ++ data.take n }, n, false) := by
  rw [writeDirectly, if_pos hempty]
  dsimp only
  by_cases hall : data.length - n = 0
  · rw [if_pos ⟨hall, complete⟩, if_pos hall]
  · rw [if_neg (fun hand => hall hand.1), if_neg hall]

/-- The kernel takes nothing, or is not asked. -/
theorem writeDirectly_none (answers : Answers data.length result)
    (hnone : ¬ (c.channel.isWriting = false ∧ c.outputBuffer.readableBytes = 0) ∨
      ∃ errno, result = .failed errno) : c.writeDirectly result data = (c, 0, false) := by
  unfold writeDirectly
  split
  · rename_i hfree
    obtain ⟨errno, rfl⟩ := hnone.resolve_left (not_not_intro hfree)
    obtain ⟨hpipe, hreset⟩ := answers
    simp [hpipe, hreset]
  · rfl

/-- The kernel has taken nothing, and all that there is is buffered. -/
theorem Signalled.unwritten (h : Signalled c accepted) (hvalid : c.outputBuffer.Valid)
    (hstate : c.state ≠ .kDisconnected) (size : data.length ≤ maxSize)
    (hnone : c.writeDirectly result data = (c, 0, false))
    (returned : c.sendInLoop result data = .ok c') : Signalled c' (accepted ++ data) := by
  rw [sendInLoop, if_neg hstate, hnone] at returned
  simp only [true_and, Nat.sub_zero, List.drop_zero] at returned
  split at returned
  · rename_i hlen
    exact h.bufferRest hvalid size hlen _ returned
  · rename_i hlen
    cases returned
    rw [List.length_eq_zero_iff.mp (Nat.eq_zero_of_not_pos hlen), List.append_nil]
    exact h

/-- The kernel has been asked at once, and what it leaves is buffered. -/
theorem Signalled.wrote {n : Nat} (h : Signalled c accepted) (hvalid : c.outputBuffer.Valid)
    (hstate : c.state ≠ .kDisconnected) (size : data.length ≤ maxSize)
    (hfree : c.channel.isWriting = false ∧ c.outputBuffer.readableBytes = 0)
    (returned : c.sendInLoop (.wrote n) data = .ok c') (more : Bytes) : Signalled c' more := by
  rw [sendInLoop, if_neg hstate, writeDirectly_wrote hfree h.complete] at returned
  dsimp only at returned
  by_cases hall : data.length - n = 0
  · rw [if_neg (by omega), if_pos hall] at returned
    cases returned
    refine signalled_completed ?_ ?_ ?_ more
    · exact h.complete
    · exact h.highWater
    · exact (readableBytes_eq_zero hvalid).mp hfree.2
  · rw [if_pos ⟨rfl, Nat.pos_of_ne_zero hall⟩, if_neg hall] at returned
    have hsame : Signalled { c with written := c.written ++ data.take n } accepted :=
      ⟨h.complete, h.highWater, h.waiting, h.raised, h.told⟩
    have hlen : (data.drop n).length = data.length - n := List.length_drop
    exact hsame.bufferRest hvalid (by omega) (by omega) more returned

theorem Signalled.send (h : Signalled c accepted) (hvalid : c.outputBuffer.Valid)
    (answers : Answers data.length result) (size : data.length ≤ maxSize)
    (returned : c.send result data = .ok c') :
    Signalled c' (if c.state = .kConnected then accepted ++ data else accepted) := by
  unfold TcpConnection.send at returned
  by_cases hstate : c.state = .kConnected
  · rw [if_pos hstate] at returned ⊢
    have hgoing : c.state ≠ .kDisconnected := by
      rw [hstate]
      decide
    by_cases hnone : ¬ (c.channel.isWriting = false ∧ c.outputBuffer.readableBytes = 0) ∨
        ∃ errno, result = .failed errno
    · exact h.unwritten hvalid hgoing size (writeDirectly_none answers hnone) returned
    · obtain ⟨hfree, hwrote⟩ := not_or.mp hnone
      cases result with
      | failed errno => exact absurd ⟨errno, rfl⟩ hwrote
      | wrote n => exact h.wrote hvalid hgoing size (not_not.mp hfree) returned _
  · rw [if_neg hstate] at returned ⊢
    cases returned
    exact h

theorem Signalled.shutdownInLoop (h : Signalled c accepted) :
    Signalled c.shutdownInLoop accepted := by
  unfold TcpConnection.shutdownInLoop
  split
  · exact h
  · exact ⟨h.complete, h.highWater, h.waiting, h.raised, h.told⟩

theorem Signalled.shutdown (h : Signalled c accepted) : Signalled c.shutdown accepted := by
  unfold TcpConnection.shutdown
  split
  · exact Signalled.shutdownInLoop ⟨h.complete, h.highWater, h.waiting, h.raised, h.told⟩
  · exact h

/-- The output buffer has been emptied. -/
theorem Signalled.flushed (hcomplete : c.hasWriteCompleteCallback = true)
    (hhighWater : c.hasHighWaterMarkCallback = true) (hempty : c.outputBuffer.readable = [])
    (accepted : Bytes) : Signalled c.flushed accepted := by
  unfold TcpConnection.flushed
  dsimp only
  rw [if_pos hcomplete]
  have hdone := signalled_completed (c := { c with channel := c.channel.disableWriting })
    hcomplete hhighWater hempty accepted
  split
  · exact hdone.shutdownInLoop
  · exact hdone

theorem Signalled.handleWrite (h : Signalled c accepted) (hvalid : c.outputBuffer.Valid)
    (result : WriteResult) : Signalled (c.handleWrite result) accepted := by
  unfold TcpConnection.handleWrite
  split
  · cases result with
    | failed errno => exact h
    | wrote n =>
        dsimp only
        split
        · obtain ⟨hrest, hreadable⟩ := Buffer.retrieve_cases hvalid n
          split
          · rename_i hempty
            refine Signalled.flushed ?_ ?_ ((readableBytes_eq_zero hrest).mp hempty) accepted
            · exact h.complete
            · exact h.highWater
          · rename_i hleft
            have hne := mt (readableBytes_eq_zero hrest).mpr hleft
            refine ⟨h.complete, h.highWater, fun _ => hne, fun hpos hle => ?_,
              fun _ hempty => absurd hempty hne⟩
            apply h.raised hpos
            dsimp only at hle
            rw [hreadable, List.length_drop] at hle
            omega
        · exact h
  · exact h

theorem signalled_established (highWaterMark : Nat) :
    Signalled (established highWaterMark true true) [] where
  complete := rfl
  highWater := rfl
  waiting := by
    rintro ⟨before, size, after, heq, -⟩
    have hnone : (established highWaterMark true true).queued = [] := rfl
    rw [hnone] at heq
    simp at heq
  raised hpos hle := by
    have hempty : (established highWaterMark true true).outputBuffer.readable = [] :=
      Buffer.readable_init Buffer.kInitialSize
    rw [hempty] at hle
    exact absurd hle (Nat.not_le.mpr hpos)
  told hne := absurd rfl hne

/-- The callbacks stay as they have been installed. -/
def SameCallbacks (c c' : TcpConnection) : Prop :=
  c'.hasWriteCompleteCallback = c.hasWriteCompleteCallback ∧
    c'.hasHighWaterMarkCallback = c.hasHighWaterMarkCallback

theorem send_callbacks (hvalid : c.outputBuffer.Valid) (answers : Answers data.length result)
    (size : data.length ≤ maxSize) (returned : c.send result data = .ok c') :
    SameCallbacks c c' := by
  unfold TcpConnection.send sendInLoop at returned
  obtain ⟨written, queued, nwrote, hdirect, -, -, -⟩ := writeDirectly_spec hvalid answers
  rw [hdirect] at returned
  dsimp only at returned
  split at returned
  · split at returned
    · cases returned
      exact ⟨rfl, rfl⟩
    · split at returned
      · have hsize : (data.drop nwrote).length ≤ maxSize := by
          rw [List.length_drop]
          omega
        obtain ⟨outputBuffer, channel, queued', -, -, -, rfl⟩ := bufferRest_spec
          (c := { c with written := c.written ++ written, queued := queued }) hvalid hsize returned
        exact ⟨rfl, rfl⟩
      · cases returned
        exact ⟨rfl, rfl⟩
  · cases returned
    exact ⟨rfl, rfl⟩

theorem shutdownInLoop_callbacks (c : TcpConnection) : SameCallbacks c c.shutdownInLoop := by
  unfold TcpConnection.shutdownInLoop
  split <;> exact ⟨rfl, rfl⟩

theorem flushed_callbacks (c : TcpConnection) : SameCallbacks c c.flushed := by
  unfold TcpConnection.flushed TcpConnection.shutdownInLoop queueInLoop
  dsimp only
  split_ifs <;> exact ⟨rfl, rfl⟩

theorem handleWrite_callbacks (c : TcpConnection) (result : WriteResult) :
    SameCallbacks c (c.handleWrite result) := by
  unfold TcpConnection.handleWrite
  split
  · cases result with
    | failed errno => exact ⟨rfl, rfl⟩
    | wrote n =>
        have hflushed := flushed_callbacks { c with
          written := c.written ++ c.outputBuffer.readable.take n
          outputBuffer := c.outputBuffer.retrieve n }
        dsimp only
        split
        · split
          · exact hflushed
          · exact ⟨rfl, rfl⟩
        · exact ⟨rfl, rfl⟩
  · exact ⟨rfl, rfl⟩

theorem shutdown_callbacks (c : TcpConnection) : SameCallbacks c c.shutdown := by
  unfold TcpConnection.shutdown
  split
  · exact shutdownInLoop_callbacks _
  · exact ⟨rfl, rfl⟩

end Steps

/-! ### Every run -/

section Runs

variable {c : TcpConnection} {accepted : Bytes} {asked : Bool}

theorem ran_signalled (h : Ran c accepted asked) (complete : c.hasWriteCompleteCallback = true)
    (highWater : c.hasHighWaterMarkCallback = true) : Signalled c accepted := by
  induction h with
  | start highWaterMark hasWriteCompleteCallback hasHighWaterMarkCallback =>
      obtain rfl : hasWriteCompleteCallback = true := complete
      obtain rfl : hasHighWaterMarkCallback = true := highWater
      exact signalled_established highWaterMark
  | send before answers size returned ih =>
      have hordered := ran_ordered before
      obtain ⟨hcomplete, hhighWater⟩ := send_callbacks hordered.valid answers size returned
      have hbefore := ih (hcomplete ▸ complete) (hhighWater ▸ highWater)
      exact hbefore.send hordered.valid answers size returned
  | handleWrite before answers ih =>
      obtain ⟨hcomplete, hhighWater⟩ := handleWrite_callbacks _ _
      have hbefore := ih (hcomplete ▸ complete) (hhighWater ▸ highWater)
      exact hbefore.handleWrite (ran_ordered before).valid _
  | shutdown before ih =>
      obtain ⟨hcomplete, hhighWater⟩ := shutdown_callbacks _
      exact (ih (hcomplete ▸ complete) (hhighWater ▸ highWater)).shutdown

/-- **Nobody waits in vain.** In every run of a connection with both callbacks: as long as a
high-water mark notice has no write-complete notice behind it, there are bytes to write, and write
interest for them; when the output buffer has reached the mark there is such a notice; and when all
that `send` has accepted has been written, the last notice says so. -/
theorem notices_answered (h : Ran c accepted asked) (complete : c.hasWriteCompleteCallback = true)
    (highWater : c.hasHighWaterMarkCallback = true) :
    (Unanswered c.queued → c.outputBuffer.readable ≠ [] ∧ c.channel.isWriting = true) ∧
      (0 < c.highWaterMark → c.highWaterMark ≤ c.outputBuffer.readable.length →
        Unanswered c.queued) ∧
      (accepted ≠ [] → c.written = accepted → c.queued.getLast? = some .writeComplete) := by
  have hsignalled := ran_signalled h complete highWater
  have hordered := ran_ordered h
  refine ⟨fun hunanswered => ?_, hsignalled.raised, fun hne hall => ?_⟩
  · have hleft := hsignalled.waiting hunanswered
    exact ⟨hleft, hordered.interest.mpr hleft⟩
  · refine hsignalled.told hne ?_
    have hbytes := hordered.bytes
    rw [hall] at hbytes
    exact List.append_right_eq_self.mp hbytes

/-- Three bytes, of which the kernel takes one, and a mark of two. -/
theorem notices_answered_mark : ∃ c, (established 2 true true).send (.wrote 1) [1, 2, 3] = .ok c ∧
    Unanswered c.queued ∧ c.outputBuffer.readable ≠ [] ∧ c.channel.isWriting = true := by
  have hrun : (match (established 2 true true).send (.wrote 1) [1, 2, 3] with
      | .error _ => false
      | .ok c => c.hasWriteCompleteCallback && c.hasHighWaterMarkCallback &&
          c.highWaterMark == 2 && c.outputBuffer.readable.length == 2) = true := by
    decide +kernel
  cases hsend : (established 2 true true).send (.wrote 1) [1, 2, 3] with
  | error e =>
      rw [hsend] at hrun
      cases hrun
  | ok c =>
      rw [hsend] at hrun
      simp only [Bool.and_eq_true, beq_iff_eq] at hrun
      obtain ⟨⟨⟨complete, highWater⟩, hmark⟩, hlen⟩ := hrun
      have answers : Answers [1, 2, 3].length (.wrote 1) := (by decide : 1 ≤ 3)
      obtain ⟨hwaiting, hraised, -⟩ := notices_answered
        (.send (.start 2 true true) answers (by decide) hsend) complete highWater
      have hunanswered := hraised (by omega) (by omega)
      exact ⟨c, rfl, hunanswered, hwaiting hunanswered⟩

end Runs

end Rmuduo.Net.TcpConnection
