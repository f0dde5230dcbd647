/-
A buffer refines a queue of bytes.

The queue receives bytes at the back and drops them at the front. `Refines` ties the outcome of
a sequence of calls on a buffer to the queue: no copy has left the vector and, unless a call has
thrown, the buffer is valid and its readable bytes are those of the queue.

* `apply_refines` — one call.
* `buffer_refines_queue` — any sequence of calls, as long as no size that
  `ensureWritableBytes` is asked for wraps around.
* `wrapping_not_refines` — what happens when one does.
-/

import Rmuduo.Net.Buffer

namespace Rmuduo.Net

open Lib Lib.System

/-- The calls on a buffer; `readFd` with what the kernel gives. -/
inductive BufferCall where
  | append (data : Bytes)
  | ensureWritableBytes (len : UInt64)
  | retrieve (len : UInt64)
  | retrieveAll
  | retrieveAsString (len : UInt64)
  | readFd (result : Option Bytes)

namespace BufferCall

def apply (b : Buffer) : BufferCall → Except Failure Buffer
  | append data => b.append data
  | ensureWritableBytes len => b.ensureWritableBytes len.toNat
  | retrieve len => .ok (b.retrieve len.toNat)
  | retrieveAll => .ok b.retrieveAll
  | retrieveAsString len => .ok (b.retrieveAsString len.toNat).2
  | readFd result => (b.readFd result).map (·.2)

/-- A call on what the calls before it have left; there is none after a failure. -/
def step (outcome : Except Failure Buffer) (call : BufferCall) : Except Failure Buffer :=
  outcome.bind fun b => call.apply b

/-- The call can happen: appended data is an object, a string is taken from readable bytes, and
the kernel gives no more bytes than it has been given room for. -/
def Possible (b : Buffer) : BufferCall → Prop
  | append data => data.length ≤ maxSize
  | retrieveAsString len => len.toNat ≤ b.readableBytes
  | readFd (some data) => data.length ≤ b.readvRoom
  | _ => True

/-- The call asks for no size that wraps around. -/
def NoWrap (b : Buffer) : BufferCall → Prop
  | ensureWritableBytes len => b.Fits len.toNat
  | _ => True

/-- What the call does to a queue of bytes. -/
def applyQueue (queue : Bytes) : BufferCall → Bytes
  | append data => queue ++ data
  | ensureWritableBytes _ => queue
  | retrieve len => queue.drop (min len.toNat queue.length)
  | retrieveAll => []
  | retrieveAsString len => queue.drop (min len.toNat queue.length)
  | readFd none => queue
  | readFd (some data) => queue ++ data

end BufferCall

open BufferCall

/-- The outcome of calls on a buffer, against a queue of bytes. -/
structure Refines (outcome : Except Failure Buffer) (queue : Bytes) : Prop where
  inside : outcome ≠ .error .outside
  holds : ∀ b, outcome = .ok b → b.Valid ∧ b.readable = queue

theorem refines_ok {b : Buffer} {queue : Bytes} (hvalid : b.Valid) (hsame : b.readable = queue) :
    Refines (.ok b) queue where
  inside h := nomatch h
  holds b' h := by
    cases h
    exact ⟨hvalid, hsame⟩

/-- A call that has thrown. -/
theorem refines_thrown (queue : Bytes) : Refines (.error .lengthError) queue where
  inside h := nomatch h
  holds _ h := nomatch h

theorem drop_min (xs : Bytes) (n : Nat) : xs.drop (min n xs.length) = xs.drop n := by
  rcases Nat.le_total n xs.length with h | h
  · rw [Nat.min_eq_left h]
  · rw [Nat.min_eq_right h, List.drop_length, List.drop_eq_nil_of_le h]

/-- One call on a valid buffer. -/
theorem apply_refines {b : Buffer} (h : b.Valid) {call : BufferCall} (possible : Possible b call)
    (noWrap : NoWrap b call) : Refines (call.apply b) (call.applyQueue b.readable) := by
  cases call with
  | append data =>
      rcases Buffer.append_cases h possible with herror | ⟨b', hok, hvalid, hsame⟩
      · rw [apply, herror]
        exact refines_thrown _
      · rw [apply, hok]
        exact refines_ok hvalid hsame
  | ensureWritableBytes len =>
      rcases Buffer.ensureWritableBytes_cases h len.toNat_lt noWrap with
        herror | ⟨b', hok, hvalid, hsame, -⟩
      · rw [apply, herror]
        exact refines_thrown _
      · rw [apply, hok]
        exact refines_ok hvalid hsame
  | retrieve len =>
      obtain ⟨hvalid, hsame⟩ := Buffer.retrieve_cases h len.toNat
      exact refines_ok hvalid (hsame.trans (drop_min _ _).symm)
  | retrieveAll => exact refines_ok h.retrieveAll (Buffer.readable_retrieveAll b)
  | retrieveAsString len =>
      obtain ⟨hvalid, hsame⟩ := Buffer.retrieve_cases h len.toNat
      exact refines_ok hvalid (hsame.trans (drop_min _ _).symm)
  | readFd result =>
      cases result with
      | none => exact refines_ok h rfl
      | some data =>
          rcases Buffer.readFd_cases h possible with herror | ⟨b', hok, hvalid, hsame⟩
          · rw [apply, herror]
            exact refines_thrown _
          · rw [apply, hok]
            exact refines_ok hvalid hsame

/-- The calls that can happen and ask for no size that wraps around. -/
def Proper (outcome : Except Failure Buffer) (call : BufferCall) : Prop :=
  ∀ b, outcome = .ok b → Possible b call ∧ NoWrap b call

theorem step_refines (outcome : Except Failure Buffer) (queue : Bytes) (call : BufferCall)
    (proper : Proper outcome call) (h : Refines outcome queue) :
    Refines (step outcome call) (applyQueue queue call) := by
  cases outcome with
  | error e =>
      cases e with
      | lengthError => exact refines_thrown _
      | outside => exact absurd rfl h.inside
  | ok b =>
      obtain ⟨hvalid, rfl⟩ := h.holds b rfl
      obtain ⟨possible, noWrap⟩ := proper b rfl
      exact apply_refines hvalid possible noWrap

/-- **A buffer refines a queue of bytes**, in every run of calls of which none asks for a size
that wraps around. -/
theorem buffer_refines_queue {initialSize : Nat}
    (hsize : Buffer.kCheapPrepend + initialSize ≤ maxSize) {calls : List BufferCall}
    (proper : Along step Proper (.ok (.init initialSize)) calls) :
    Refines (run step (.ok (.init initialSize)) calls) (run applyQueue [] calls) :=
  run_simulation step_refines proper
    (refines_ok (Buffer.valid_init hsize) (Buffer.readable_init initialSize))

instance (b : Buffer) (call : BufferCall) : Decidable (Possible b call) :=
  match call with
  | .append data => inferInstanceAs (Decidable (data.length ≤ maxSize))
  | .retrieveAsString len => inferInstanceAs (Decidable (len.toNat ≤ b.readableBytes))
  | .readFd (some data) => inferInstanceAs (Decidable (data.length ≤ b.readvRoom))
  | .ensureWritableBytes _ | .retrieve _ | .retrieveAll | .readFd none => isTrue trivial

instance (b : Buffer) (call : BufferCall) : Decidable (NoWrap b call) :=
  match call with
  | .ensureWritableBytes len => inferInstanceAs (Decidable (b.writableBytes < len.toNat →
      len.toNat + Buffer.kCheapPrepend < 2 ^ 64 → b.writerIndex + len.toNat < 2 ^ 64))
  | .append _ | .retrieve _ | .retrieveAll | .retrieveAsString _ | .readFd _ => isTrue trivial

instance (outcome : Except Failure Buffer) (call : BufferCall) : Decidable (Proper outcome call) :=
  match outcome with
  | .error _ => isTrue fun _ h => nomatch h
  | .ok b => decidable_of_iff (Possible b call ∧ NoWrap b call)
      ⟨fun h _ heq => Except.ok.inj heq ▸ h, fun h => h b rfl⟩

/-- In a buffer for four bytes: the second `append` moves what is readable to the front, `readFd` fills
the vector and needs the buffer on the stack, and the last demand is the largest that does not wrap
around. -/
def properCalls : List BufferCall :=
  [.append [1, 2, 3], .retrieve 2, .append [4, 5], .readFd (some [6, 7]),
    .ensureWritableBytes 18446744073709551602]

theorem properCalls_refines :
    Refines (run step (.ok (.init 4)) (properCalls.take 4)) [3, 4, 5, 6, 7] ∧
      run step (.ok (.init 4)) (properCalls.take 4) =
        .ok ⟨[0, 0, 0, 0, 0, 0, 0, 0, 3, 4, 5, 6, 7], 8, 13⟩ ∧
      Refines (run step (.ok (.init 4)) properCalls) [3, 4, 5, 6, 7] :=
  ⟨buffer_refines_queue (by decide) (by decide +kernel), by decide +kernel,
    buffer_refines_queue (by decide) (by decide +kernel)⟩

/-- A byte, and a demand for a size that makes `writerIndex_ + len` wrap around to zero. -/
def wrappingCalls : List BufferCall :=
  [.append [120], .ensureWritableBytes 18446744073709551607]

/-- Both calls can happen, and the vector is left empty below the bytes it should hold. -/
theorem wrapping_not_refines :
    Along step (fun outcome call => ∀ b, outcome = .ok b → Possible b call)
        (.ok (.init Buffer.kInitialSize)) wrappingCalls ∧
      ¬ Refines (run step (.ok (.init Buffer.kInitialSize)) wrappingCalls)
        (run applyQueue [] wrappingCalls) := by
  have hrun : run step (.ok (.init Buffer.kInitialSize)) wrappingCalls = .ok ⟨[], 8, 9⟩ := by
    decide +kernel
  constructor
  · refine ⟨?_, ?_, trivial⟩
    · rintro b -
      exact (by decide : 1 ≤ maxSize)
    · rintro b -
      trivial
  · intro h
    rw [hrun] at h
    have hinside := (h.holds _ rfl).1.inside
    exact absurd hinside (by decide)

end Rmuduo.Net
