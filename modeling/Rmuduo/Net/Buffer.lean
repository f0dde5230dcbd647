/-
The buffer of a connection (`net/Buffer.h`, `net/Buffer.cc`).

Sizes and indices are values of `size_t`, so their sums and differences are taken modulo
`2 ^ 64`. A call ends with the buffer, or without one: `resize` throws `std::length_error`
for a size that no vector has, and a copy that leaves `buffer_` is undefined. The data of an
`append` is an object of the program, and so no larger than a vector can be.

* `Valid` — the indices are in order and inside the vector.
* `append_cases`, `readFd_cases` and their siblings — what each operation does to a valid
  buffer.
-/

import Rmuduo.Lib.Bytes
import Rmuduo.Lib.Copy
import Rmuduo.Lib.System

namespace Rmuduo.Net

open Lib Lib.System

/-- `std::vector<char>::max_size()`, the largest size of an object. -/
def maxSize : Nat := 2 ^ 63 - 1

/-- The sum of two values of `size_t`. -/
def addSize (a b : Nat) : Nat := (a + b) % 2 ^ 64

/-- Their difference. -/
def subSize (a b : Nat) : Nat := (a + 2 ^ 64 - b) % 2 ^ 64

/-- How a call can fail to end. -/
inductive Failure where
  /-- `std::length_error` is thrown. -/
  | lengthError
  /-- A copy leaves `buffer_`. -/
  | outside
deriving DecidableEq, Repr

/-- `std::vector<char>::resize`: bytes are dropped at the end, or zero bytes added. -/
def resize (v : Bytes) (size : Nat) : Except Failure Bytes :=
  if size ≤ maxSize then .ok (v.take size ++ List.replicate (size - v.length) 0)
  else .error .lengthError

/-- The outcome of a copy into `buffer_`. -/
def copied : Option Bytes → Except Failure Bytes
  | none => .error .outside
  | some v => .ok v

theorem copied_some (v : Bytes) : copied (some v) = .ok v := rfl

structure Buffer where
  buffer : Bytes
  readerIndex : Nat
  writerIndex : Nat
deriving DecidableEq

namespace Buffer

def kCheapPrepend : Nat := 8

def kInitialSize : Nat := 1024

/-- `sizeof(extrabuf)`. -/
def kExtraSize : Nat := 65536

/-- The constructor. -/
def init (initialSize : Nat) : Buffer where
  buffer := List.replicate (kCheapPrepend + initialSize) 0
  readerIndex := kCheapPrepend
  writerIndex := kCheapPrepend

def readableBytes (b : Buffer) : Nat := subSize b.writerIndex b.readerIndex

def writableBytes (b : Buffer) : Nat := subSize b.buffer.length b.writerIndex

def prependableByte (b : Buffer) : Nat := b.readerIndex

def retrieveAll (b : Buffer) : Buffer :=
  { b with readerIndex := kCheapPrepend, writerIndex := kCheapPrepend }

def retrieve (b : Buffer) (len : Nat) : Buffer :=
  if len ≤ b.readableBytes then { b with readerIndex := addSize b.readerIndex len }
  else b.retrieveAll

/-- The string that `retrieveAsString` returns is copied from `peek()` on. -/
def retrieveAsString (b : Buffer) (len : Nat) : Bytes × Buffer :=
  ((b.buffer.drop b.readerIndex).take len, b.retrieve len)

def makeSpace (b : Buffer) (len : Nat) : Except Failure Buffer :=
  if addSize b.writableBytes b.prependableByte < addSize len kCheapPrepend then do
    let buffer ← resize b.buffer (addSize b.writerIndex len)
    return { b with buffer := buffer }
  else do
    let readable := b.readableBytes
    let buffer ← copied (copyWithin readable b.readerIndex kCheapPrepend b.buffer)
    return {
      buffer := buffer
      readerIndex := kCheapPrepend
      writerIndex := addSize kCheapPrepend readable }

def ensureWritableBytes (b : Buffer) (len : Nat) : Except Failure Buffer :=
  if b.writableBytes < len then b.makeSpace len else .ok b

def append (b : Buffer) (data : Bytes) : Except Failure Buffer := do
  let b ← b.ensureWritableBytes data.length
  let buffer ← copied (copyInto b.buffer data b.writerIndex)
  return { b with buffer := buffer, writerIndex := addSize b.writerIndex data.length }

/-- The bytes that `readv` has room for: the tail of the vector and, when that is short, the
buffer on the stack. -/
def readvRoom (b : Buffer) : Nat :=
  b.writableBytes + if b.writableBytes < kExtraSize then kExtraSize else 0

/-- `readFd`, from what `readv` gives: `none` for a failure. The count that it returns is `-1`
then. -/
def readFd (b : Buffer) : Option Bytes → Except Failure (Int × Buffer)
  | none => return (-1, b)
  | some data => do
      let writable := b.writableBytes
      let buffer ← copied (copyInto b.buffer (data.take writable) b.writerIndex)
      let b := { b with buffer := buffer }
      if data.length ≤ writable then
        return (data.length, { b with writerIndex := addSize b.writerIndex data.length })
      else
        let b ← append { b with writerIndex := b.buffer.length } (data.drop writable)
        return (data.length, b)

/-! ### Valid buffers -/

/-- The readable bytes, from `peek()` to `beginWrite()`. -/
def readable (b : Buffer) : Bytes :=
  slice b.readerIndex b.writerIndex b.buffer

/-- The indices are in order behind the prepended bytes and inside the vector. -/
structure Valid (b : Buffer) : Prop where
  prepend : kCheapPrepend ≤ b.readerIndex
  ordered : b.readerIndex ≤ b.writerIndex
  inside : b.writerIndex ≤ b.buffer.length
  size : b.buffer.length ≤ maxSize

theorem resize_eq_ok {v v' : Bytes} {size : Nat} :
    resize v size = .ok v' ↔
      size ≤ maxSize ∧ v' = v.take size ++ List.replicate (size - v.length) 0 := by
  unfold resize
  by_cases h : size ≤ maxSize
  · rw [if_pos h]
    simp [h, eq_comm]
  · rw [if_neg h]
    simp [h]

/-- `resize` fails in one way only. -/
theorem resize_eq_error {v : Bytes} {size : Nat} {e : Failure} (h : resize v size = .error e) :
    e = .lengthError := by
  unfold resize at h
  split at h
  · cases h
  · cases h
    rfl

theorem valid_init {initialSize : Nat} (h : kCheapPrepend + initialSize ≤ maxSize) :
    (init initialSize).Valid where
  prepend := Nat.le_refl _
  ordered := Nat.le_refl _
  inside := by simp [init]
  size := by simpa [init] using h

@[simp] theorem readable_init (initialSize : Nat) : (init initialSize).readable = [] := by
  simp [readable, init, slice]

section Operations

variable {b b' : Buffer} {len : Nat}

namespace Valid

theorem readableBytes_eq (h : b.Valid) : b.readableBytes = b.writerIndex - b.readerIndex := by
  have := h.ordered
  have := h.inside
  have := h.size
  unfold readableBytes subSize
  unfold maxSize at *
  omega

theorem writableBytes_eq (h : b.Valid) : b.writableBytes = b.buffer.length - b.writerIndex := by
  have := h.inside
  have := h.size
  unfold writableBytes subSize
  unfold maxSize at *
  omega

theorem length_readable (h : b.Valid) : b.readable.length = b.readableBytes := by
  rw [h.readableBytes_eq]
  exact length_slice h.inside

theorem retrieveAll (h : b.Valid) : b.retrieveAll.Valid where
  prepend := Nat.le_refl _
  ordered := Nat.le_refl _
  inside := Nat.le_trans h.prepend (Nat.le_trans h.ordered h.inside)
  size := h.size

end Valid

@[simp] theorem readable_retrieveAll (b : Buffer) : b.retrieveAll.readable = [] := by
  simp [readable, Buffer.retrieveAll, slice]

/-- `retrieve` drops bytes at the front, all of them if there are no more. -/
theorem retrieve_cases (h : b.Valid) (len : Nat) :
    (b.retrieve len).Valid ∧ (b.retrieve len).readable = b.readable.drop len := by
  have hreadable := h.readableBytes_eq
  have hlength := h.length_readable
  unfold Buffer.retrieve
  by_cases hle : len ≤ b.readableBytes
  · have hindex : addSize b.readerIndex len = b.readerIndex + len := by
      have := h.ordered
      have := h.inside
      have := h.size
      unfold addSize
      unfold maxSize at *
      omega
    rw [if_pos hle, hindex]
    refine ⟨⟨?_, ?_, h.inside, h.size⟩, ?_⟩
    · have := h.prepend
      dsimp only
      omega
    · have := h.ordered
      dsimp only
      omega
    · unfold readable slice
      dsimp only
      rw [List.drop_take, List.drop_drop]
      congr 1
      omega
  · rw [if_neg hle, readable_retrieveAll]
    exact ⟨h.retrieveAll, (List.drop_eq_nil_of_le (by omega)).symm⟩

/-- Enlarging the vector, or cutting off what is not readable, keeps the readable bytes. -/
theorem readable_resize (h : b.Valid) {v : Bytes} {size : Nat} (hsize : b.writerIndex ≤ size)
    (hv : resize b.buffer size = .ok v) :
    ({ b with buffer := v } : Buffer).Valid ∧ v.length = size ∧
      ({ b with buffer := v } : Buffer).readable = b.readable := by
  obtain ⟨hmax, rfl⟩ := resize_eq_ok.mp hv
  have hinside := h.inside
  have hlength : (b.buffer.take size ++ List.replicate (size - b.buffer.length) 0).length =
      size := by
    rw [List.length_append, List.length_take, List.length_replicate]
    omega
  refine ⟨⟨h.prepend, h.ordered, ?_, ?_⟩, hlength, ?_⟩
  · dsimp only
    omega
  · dsimp only
    omega
  · have hordered := h.ordered
    unfold readable slice
    dsimp only
    rw [List.drop_append_of_le_length (by rw [List.length_take]; omega), List.drop_take,
      List.take_append_of_le_length (by rw [List.length_take, List.length_drop]; omega),
      List.take_take, Nat.min_eq_left (by omega)]

/-- The new size that `ensureWritableBytes` may compute does not wrap around. -/
def Fits (b : Buffer) (len : Nat) : Prop :=
  b.writableBytes < len → len + kCheapPrepend < 2 ^ 64 → b.writerIndex + len < 2 ^ 64

/-- `makeSpace` keeps the buffer and its readable bytes, and there is room for `len` bytes. -/
theorem makeSpace_cases (h : b.Valid) (hlen : len < 2 ^ 64) (hshort : b.writableBytes < len)
    (fits : b.Fits len) :
    b.makeSpace len = .error .lengthError ∨
      ∃ b', b.makeSpace len = .ok b' ∧ b'.Valid ∧ b'.readable = b.readable ∧
        (len + kCheapPrepend < 2 ^ 64 → len ≤ b'.writableBytes) := by
  have hwritable := h.writableBytes_eq
  have hreadable := h.readableBytes_eq
  have hprepend := h.prepend
  have hordered := h.ordered
  have hinside := h.inside
  have hsize := h.size
  unfold maxSize at hsize
  unfold kCheapPrepend at hprepend
  have hroom : addSize b.writableBytes b.prependableByte =
      b.writableBytes + b.readerIndex := by
    unfold addSize prependableByte
    omega
  unfold makeSpace
  rw [hroom]
  by_cases hgrow : b.writableBytes + b.readerIndex < addSize len kCheapPrepend
  · rw [if_pos hgrow]
    have hwrap : len + kCheapPrepend < 2 ^ 64 := by
      unfold addSize kCheapPrepend at hgrow
      unfold kCheapPrepend
      omega
    have hnew : addSize b.writerIndex len = b.writerIndex + len := by
      have := fits hshort hwrap
      unfold addSize
      omega
    rw [hnew]
    cases hresize : resize b.buffer (b.writerIndex + len) with
    | error e =>
        rw [resize_eq_error hresize]
        exact .inl rfl
    | ok v =>
        obtain ⟨hvalid, hlength, hsame⟩ := readable_resize h (by omega) hresize
        refine .inr ⟨_, rfl, hvalid, hsame, fun _ => ?_⟩
        rw [hvalid.writableBytes_eq]
        dsimp only
        omega
  · rw [if_neg hgrow]
    -- The readable bytes move to the front, over bytes that have been read.
    have hcopy := copyWithin_eq (v := b.buffer) (n := b.readableBytes) hprepend (by omega)
    rw [show b.readerIndex + b.readableBytes = b.writerIndex by omega] at hcopy
    have hslice : (slice b.readerIndex b.writerIndex b.buffer).length = b.readableBytes := by
      rw [length_slice hinside, hreadable]
    have hwriter : addSize kCheapPrepend b.readableBytes = kCheapPrepend + b.readableBytes := by
      unfold addSize kCheapPrepend
      omega
    dsimp only
    rw [show kCheapPrepend = 8 from rfl] at *
    rw [hcopy, hwriter]
    have hroom : 8 + (slice b.readerIndex b.writerIndex b.buffer).length ≤ b.buffer.length := by
      omega
    have hlength := length_overwrite hroom
    have hvalid : Valid ⟨overwrite b.buffer (slice b.readerIndex b.writerIndex b.buffer) 8, 8,
        8 + b.readableBytes⟩ :=
      ⟨Nat.le_refl _, Nat.le_add_right _ _, by dsimp only; omega, by
        dsimp only [maxSize]
        omega⟩
    refine .inr ⟨_, rfl, hvalid, ?_, fun hwrap => ?_⟩
    · unfold readable
      dsimp only
      rw [← hslice]
      exact slice_overwrite_self (by omega)
    · rw [hvalid.writableBytes_eq]
      unfold addSize at hgrow
      dsimp only
      omega

theorem ensureWritableBytes_cases (h : b.Valid) (hlen : len < 2 ^ 64) (fits : b.Fits len) :
    b.ensureWritableBytes len = .error .lengthError ∨
      ∃ b', b.ensureWritableBytes len = .ok b' ∧ b'.Valid ∧ b'.readable = b.readable ∧
        (len + kCheapPrepend < 2 ^ 64 → len ≤ b'.writableBytes) := by
  unfold ensureWritableBytes
  by_cases hshort : b.writableBytes < len
  · rw [if_pos hshort]
    exact makeSpace_cases h hlen hshort fits
  · rw [if_neg hshort]
    exact .inr ⟨b, rfl, h, rfl, fun _ => Nat.le_of_not_lt hshort⟩

/-- Where the new size wraps around, the vector shrinks below the bytes that it holds. -/
theorem ensureWritableBytes_wraps (h : b.Valid) (wraps : ¬ b.Fits len) :
    ∃ b', b.ensureWritableBytes len = .ok b' ∧ b'.buffer.length < b'.writerIndex := by
  unfold Fits at wraps
  obtain ⟨hshort, hwrap, hover⟩ : b.writableBytes < len ∧ len + kCheapPrepend < 2 ^ 64 ∧
      ¬ b.writerIndex + len < 2 ^ 64 := by
    by_contra hnot
    exact wraps fun h₁ h₂ => by_contra fun h₃ => hnot ⟨h₁, h₂, h₃⟩
  have hwritable := h.writableBytes_eq
  have hinside := h.inside
  have hsize := h.size
  have hordered := h.ordered
  unfold maxSize at hsize
  have hgrow : addSize b.writableBytes b.prependableByte < addSize len kCheapPrepend := by
    unfold addSize prependableByte
    omega
  have hnew : addSize b.writerIndex len < b.writerIndex := by
    unfold addSize
    omega
  unfold ensureWritableBytes makeSpace
  rw [if_pos hshort, if_pos hgrow]
  obtain ⟨v, hv⟩ : ∃ v, resize b.buffer (addSize b.writerIndex len) = .ok v := by
    refine ⟨_, resize_eq_ok.mpr ⟨?_, rfl⟩⟩
    unfold maxSize
    omega
  rw [hv]
  refine ⟨_, rfl, ?_⟩
  obtain ⟨-, rfl⟩ := resize_eq_ok.mp hv
  dsimp only
  rw [List.length_append, List.length_take, List.length_replicate]
  omega

/-- `append` puts the data behind the readable bytes. -/
theorem append_cases (h : b.Valid) {data : Bytes} (hdata : data.length ≤ maxSize) :
    b.append data = .error .lengthError ∨
      ∃ b', b.append data = .ok b' ∧ b'.Valid ∧ b'.readable = b.readable ++ data := by
  have hmax : maxSize = 2 ^ 63 - 1 := rfl
  have hfits : b.Fits data.length := by
    intro _ _
    have := h.inside
    have := h.size
    omega
  unfold append
  rcases ensureWritableBytes_cases h (by omega) hfits with herror | ⟨b', hok, hvalid, hsame, hroom⟩
  · rw [herror]
    exact .inl rfl
  · rw [hok, ok_bind]
    have hwritable := hvalid.writableBytes_eq
    have hinside := hvalid.inside
    have hordered := hvalid.ordered
    have hsize := hvalid.size
    have hle : b'.writerIndex + data.length ≤ b'.buffer.length := by
      have := hroom (by unfold kCheapPrepend; omega)
      omega
    have hwriter : addSize b'.writerIndex data.length = b'.writerIndex + data.length := by
      unfold addSize
      omega
    have hlength := length_overwrite hle
    rw [copyInto_eq hle, copied_some, ok_bind, hwriter]
    refine .inr ⟨_, rfl, ⟨hvalid.prepend, ?_, ?_, ?_⟩, ?_⟩
    · dsimp only
      omega
    · dsimp only
      omega
    · dsimp only
      omega
    · rw [← hsame]
      unfold readable
      dsimp only
      exact slice_overwrite _ hordered hinside

/-- The count that `readFd` returns is that of the bytes that were read. -/
theorem readFd_count {data : Bytes} {n : Int} {b' : Buffer}
    (h : b.readFd (some data) = .ok (n, b')) : n = data.length := by
  obtain ⟨buffer, -, h⟩ := bind_eq_ok.mp h
  dsimp only at h
  split at h
  · cases h
    rfl
  · obtain ⟨b₁, -, h⟩ := bind_eq_ok.mp h
    cases h
    rfl

/-- `readFd` puts what was read behind the readable bytes: in the tail of the vector and, as far
as that is too short, by `append`. -/
theorem readFd_cases (h : b.Valid) {data : Bytes} (hdata : data.length ≤ b.readvRoom) :
    b.readFd (some data) = .error .lengthError ∨
      ∃ b', b.readFd (some data) = .ok (data.length, b') ∧ b'.Valid ∧
        b'.readable = b.readable ++ data := by
  have hmax : maxSize = 2 ^ 63 - 1 := rfl
  have hwritable := h.writableBytes_eq
  have hinside := h.inside
  have hordered := h.ordered
  have hsize := h.size
  have htake : (data.take b.writableBytes).length ≤ b.writableBytes := by
    rw [List.length_take]
    exact Nat.min_le_left _ _
  have hroom : b.writerIndex + (data.take b.writableBytes).length ≤ b.buffer.length := by omega
  have hlength := length_overwrite hroom
  have hslice := slice_overwrite (data.take b.writableBytes) hordered hinside
  unfold readFd
  dsimp only
  rw [copyInto_eq hroom, copied_some, ok_bind]
  by_cases hle : data.length ≤ b.writableBytes
  · rw [if_pos hle]
    rw [List.take_of_length_le hle] at *
    have hwriter : addSize b.writerIndex data.length = b.writerIndex + data.length := by
      unfold addSize
      omega
    rw [hwriter]
    refine .inr ⟨_, rfl, ⟨h.prepend, ?_, ?_, ?_⟩, hslice⟩
    · dsimp only
      omega
    · dsimp only
      omega
    · dsimp only
      omega
  · rw [if_neg hle]
    have hfull : b.writerIndex + (data.take b.writableBytes).length = b.buffer.length := by
      rw [List.length_take, Nat.min_eq_left (Nat.le_of_not_le hle), hwritable]
      exact Nat.add_sub_cancel' hinside
    have hvalid : Valid ⟨overwrite b.buffer (data.take b.writableBytes) b.writerIndex,
        b.readerIndex, (overwrite b.buffer (data.take b.writableBytes) b.writerIndex).length⟩ :=
      ⟨h.prepend, by dsimp only; omega, Nat.le_refl _, by dsimp only; omega⟩
    have hextra : (data.drop b.writableBytes).length ≤ maxSize := by
      rw [List.length_drop]
      unfold readvRoom kExtraSize at hdata
      split at hdata
      · omega
      · omega
    rcases append_cases hvalid hextra with herror | ⟨b', hok, hvalid', hsame⟩
    · rw [herror]
      exact .inl rfl
    · rw [hok]
      refine .inr ⟨b', rfl, hvalid', ?_⟩
      rw [hsame]
      unfold readable
      dsimp only
      rw [hlength, ← hfull, hslice, List.append_assoc, List.take_append_drop]

end Operations

end Buffer

end Rmuduo.Net
