/-
UTF-8, byte by byte.

A character of several bytes begins with a byte that says how many more there are. For a few of these
first bytes the second one has a narrower range: that excludes longer forms than needed, surrogates,
and what is above the last code point.

* `Utf8` — no byte is out of place, and no character is cut off at the end.
* `utf8_of_ascii` — a text in ASCII is UTF-8.
* `utf8_flatMap` — to write other ASCII for some of the ASCII characters does not change whether a
  text is UTF-8.
-/

import Rmuduo.Lib.Bytes

namespace Rmuduo.Lib

/-- Any continuation byte. -/
def utf8Tail : UInt8 × UInt8 := (0x80, 0xBF)

/-- The ranges of the bytes that the character has behind its first one. -/
def utf8First (b : UInt8) : Option (List (UInt8 × UInt8)) :=
  if b ≤ 0x7F then some []
  else if b < 0xC2 then none
  else if b ≤ 0xDF then some [utf8Tail]
  else if b = 0xE0 then some [(0xA0, 0xBF), utf8Tail]
  else if b = 0xED then some [(0x80, 0x9F), utf8Tail]
  else if b ≤ 0xEF then some [utf8Tail, utf8Tail]
  else if b = 0xF0 then some [(0x90, 0xBF), utf8Tail, utf8Tail]
  else if b ≤ 0xF3 then some [utf8Tail, utf8Tail, utf8Tail]
  else if b = 0xF4 then some [(0x80, 0x8F), utf8Tail, utf8Tail]
  else none

/-- One byte, behind which that many are still to come. -/
def utf8Step : List (UInt8 × UInt8) → UInt8 → Option (List (UInt8 × UInt8))
  | [], b => utf8First b
  | range :: ranges, b => if range.1 ≤ b ∧ b ≤ range.2 then some ranges else none

def utf8Run (pending : List (UInt8 × UInt8)) (data : Bytes) : Option (List (UInt8 × UInt8)) :=
  data.foldlM utf8Step pending

/-- The bytes are characters, one after the other. -/
def Utf8 (data : Bytes) : Prop := utf8Run [] data = some []

instance (data : Bytes) : Decidable (Utf8 data) :=
  inferInstanceAs (Decidable (utf8Run [] data = some []))

section Runs

variable {pending next : List (UInt8 × UInt8)} {data more : Bytes} {b : UInt8}

theorem utf8Run_cons (pending : List (UInt8 × UInt8)) (b : UInt8) (data : Bytes) :
    utf8Run pending (b :: data) = (utf8Step pending b).bind fun next => utf8Run next data :=
  List.foldlM_cons

theorem utf8Run_append (pending : List (UInt8 × UInt8)) (data more : Bytes) :
    utf8Run pending (data ++ more) =
      (utf8Run pending data).bind fun next => utf8Run next more :=
  List.foldlM_append

theorem Utf8.append (h : Utf8 data) (hmore : Utf8 more) : Utf8 (data ++ more) := by
  rw [Utf8, utf8Run_append, h]
  exact hmore

/-! ### ASCII -/

/-- The ranges that a character leaves open are above ASCII. -/
def AboveAscii (pending : List (UInt8 × UInt8)) : Prop := ∀ range ∈ pending, 0x80 ≤ range.1

theorem aboveAscii_first (h : utf8First b = some next) : AboveAscii next := by
  unfold utf8First at h
  split_ifs at h <;> cases h <;> simp [AboveAscii, utf8Tail]

theorem aboveAscii_step (h : AboveAscii pending) (hstep : utf8Step pending b = some next) :
    AboveAscii next := by
  cases pending with
  | nil => exact aboveAscii_first hstep
  | cons range ranges =>
      rw [utf8Step] at hstep
      split at hstep
      · cases hstep
        exact fun r hr => h r (List.mem_cons_of_mem _ hr)
      · cases hstep

theorem utf8Step_ascii (hb : b < 0x80) : utf8Step [] b = some [] := by
  have hle : b ≤ 0x7F := by
    rw [UInt8.le_iff_toNat_le]
    exact Nat.le_of_lt_succ (UInt8.lt_iff_toNat_lt.mp hb)
  rw [utf8Step, utf8First, if_pos hle]

/-- Within a character there is no ASCII. -/
theorem utf8Step_inside (h : AboveAscii pending) (hne : pending ≠ []) (hb : b < 0x80) :
    utf8Step pending b = none := by
  cases pending with
  | nil => exact absurd rfl hne
  | cons range ranges =>
      have hlow := h range List.mem_cons_self
      rw [utf8Step, if_neg]
      rintro ⟨hrange, -⟩
      exact absurd (UInt8.le_trans hlow hrange) (UInt8.not_le.mpr hb)

theorem utf8Run_ascii (h : ∀ b ∈ data, b < 0x80) : utf8Run [] data = some [] := by
  induction data with
  | nil => rfl
  | cons b data ih =>
      rw [utf8Run_cons, utf8Step_ascii (h b List.mem_cons_self)]
      exact ih fun c hc => h c (List.mem_cons_of_mem _ hc)

/-- **ASCII** is UTF-8. -/
theorem utf8_of_ascii (h : ∀ b ∈ data, b < 0x80) : Utf8 data :=
  utf8Run_ascii h

theorem Utf8.cons (h : Utf8 data) (hb : b < 0x80) : Utf8 (b :: data) := by
  rw [Utf8, utf8Run_cons, utf8Step_ascii hb]
  exact h

/-- ASCII in place of an ASCII character leaves a reader where the character does. -/
theorem utf8Run_replaced (h : AboveAscii pending) (hb : b < 0x80) (hne : data ≠ [])
    (hascii : ∀ c ∈ data, c < 0x80) : utf8Run pending data = utf8Step pending b := by
  cases pending with
  | nil => rw [utf8Run_ascii hascii, utf8Step_ascii hb]
  | cons range ranges =>
      cases data with
      | nil => exact absurd rfl hne
      | cons c data =>
          rw [utf8Run_cons, utf8Step_inside h (List.cons_ne_nil _ _) hb,
            utf8Step_inside h (List.cons_ne_nil _ _) (hascii c List.mem_cons_self)]
          rfl

/-- **Other ASCII for ASCII**: what is written byte by byte is UTF-8 just if the text is. -/
theorem utf8_flatMap {f : UInt8 → Bytes}
    (h : ∀ b, f b = [b] ∨ (b < 0x80 ∧ f b ≠ [] ∧ ∀ c ∈ f b, c < 0x80)) :
    Utf8 (data.flatMap f) ↔ Utf8 data := by
  have hrun : ∀ pending, AboveAscii pending →
      utf8Run pending (data.flatMap f) = utf8Run pending data := by
    induction data with
    | nil => exact fun _ _ => rfl
    | cons b data ih =>
        intro pending hpending
        have hfirst : utf8Run pending (f b) = utf8Step pending b := by
          rcases h b with hsame | ⟨hb, hne, hascii⟩
          · rw [hsame, utf8Run_cons]
            cases utf8Step pending b <;> rfl
          · exact utf8Run_replaced hpending hb hne hascii
        rw [List.flatMap_cons, utf8Run_append, hfirst, utf8Run_cons]
        cases hstep : utf8Step pending b with
        | none => rfl
        | some next => exact ih next (aboveAscii_step hpending hstep)
  rw [Utf8, Utf8, hrun [] fun range hrange => absurd hrange List.not_mem_nil]

end Runs

/-- An overlong form, a surrogate and a character that is cut off are none. -/
example : Utf8 [0xE6, 0x9D, 0xA1] ∧ ¬ Utf8 [0xC0, 0xAF] ∧ ¬ Utf8 [0xED, 0xA0, 0x80] ∧
    ¬ Utf8 [0xE6, 0x9D] := by
  decide

end Rmuduo.Lib
