/-
Lines up to an empty one, and numbers between them.

* `cutHead_lines` — lines that are not empty, and the empty line behind them, are cut off again.
* `cutHead_append` — a head that is complete stays as it is when more follows.
* `readNumber_decimal` — a number that is written in decimal is read back.
-/

import Rmuduo.Lib.Text

namespace Rmuduo.Lib

/-! ### Heads -/

/-- The lines in front of the first empty one, and what stands behind it. -/
def cutHead (data : Bytes) : Option (List Bytes × Bytes) :=
  match _h : findCRLF data with
  | none => none
  | some 0 => some ([], data.drop 2)
  | some (i + 1) =>
      (cutHead (data.drop (i + 3))).map fun head => (data.take (i + 1) :: head.1, head.2)
termination_by data.length
decreasing_by
  obtain ⟨-, -, hlen⟩ := findCRLF_eq_some ‹_›
  rw [List.length_drop]
  omega

section Heads

variable {data line rest : Bytes} {i : Nat}

theorem cutHead_of_none (h : findCRLF data = none) : cutHead data = none := by
  rw [cutHead]
  split <;> simp_all

theorem cutHead_of_empty (h : findCRLF data = some 0) : cutHead data = some ([], data.drop 2) := by
  rw [cutHead]
  split <;> simp_all

theorem cutHead_of_line (h : findCRLF data = some (i + 1)) :
    cutHead data =
      (cutHead (data.drop (i + 3))).map fun head => (data.take (i + 1) :: head.1, head.2) := by
  rw [cutHead]
  split <;> simp_all

/-- A line that is cut off. -/
theorem cutHead_line (hline : findCRLF line = none) (hne : line ≠ []) (rest : Bytes) :
    cutHead (line ++ crlf ++ rest) =
      (cutHead rest).map fun head => (line :: head.1, head.2) := by
  obtain ⟨i, hi⟩ := Nat.exists_eq_succ_of_ne_zero (mt List.eq_nil_of_length_eq_zero hne)
  have hfind := findCRLF_line hline rest
  rw [hi] at hfind
  have htake : (line ++ crlf ++ rest).take (i + 1) = line := by
    rw [List.append_assoc, ← Nat.succ_eq_add_one, ← hi, List.take_left]
  have hdrop : (line ++ crlf ++ rest).drop (i + 3) = rest := by
    have hlen : (line ++ crlf).length = i + 3 := by
      rw [List.length_append, hi]
      rfl
    rw [← hlen, List.drop_left]
  rw [cutHead_of_line hfind, htake, hdrop]

/-- **A head is cut off as it was written.** -/
theorem cutHead_lines {lines : List Bytes}
    (hlines : ∀ line ∈ lines, findCRLF line = none ∧ line ≠ []) (rest : Bytes) :
    cutHead ((lines.flatMap fun line => line ++ crlf) ++ crlf ++ rest) = some (lines, rest) := by
  induction lines with
  | nil => exact cutHead_of_empty rfl
  | cons line lines ih =>
      obtain ⟨hline, hne⟩ := hlines line List.mem_cons_self
      have hassoc : ((line :: lines).flatMap fun line => line ++ crlf) ++ crlf ++ rest =
          line ++ crlf ++ ((lines.flatMap fun line => line ++ crlf) ++ crlf ++ rest) := by
        simp only [List.flatMap_cons, List.append_assoc]
      rw [hassoc, cutHead_line hline hne, ih fun l hl => hlines l (List.mem_cons_of_mem _ hl)]
      rfl

/-- The input of a head, by induction on its lines. -/
theorem cutHead_eq_some {lines : List Bytes} (h : cutHead data = some (lines, rest)) :
    data = (lines.flatMap fun line => line ++ crlf) ++ crlf ++ rest ∧
      ∀ line ∈ lines, findCRLF line = none ∧ line ≠ [] := by
  induction lines generalizing data with
  | nil =>
      cases hfind : findCRLF data with
      | none =>
          rw [cutHead_of_none hfind] at h
          cases h
      | some i =>
          cases i with
          | zero =>
              obtain ⟨hdata, -, -⟩ := findCRLF_eq_some hfind
              rw [cutHead_of_empty hfind] at h
              cases h
              exact ⟨by simpa using hdata, fun _ hline => absurd hline List.not_mem_nil⟩
          | succ i =>
              rw [cutHead_of_line hfind] at h
              obtain ⟨head, -, heq⟩ := Option.map_eq_some_iff.mp h
              cases heq
  | cons line lines ih =>
      cases hfind : findCRLF data with
      | none =>
          rw [cutHead_of_none hfind] at h
          cases h
      | some i =>
          cases i with
          | zero =>
              rw [cutHead_of_empty hfind] at h
              cases h
          | succ i =>
              obtain ⟨hdata, hnone, hlen⟩ := findCRLF_eq_some hfind
              rw [cutHead_of_line hfind] at h
              obtain ⟨⟨lines', rest'⟩, hhead, heq⟩ := Option.map_eq_some_iff.mp h
              cases heq
              obtain ⟨hrest, hlines⟩ := ih hhead
              constructor
              · rw [List.flatMap_cons, List.append_assoc, List.append_assoc,
                  ← List.append_assoc _ crlf, ← hrest]
                exact hdata
              · intro line hline
                rcases List.mem_cons.mp hline with rfl | hline
                · refine ⟨hnone, ?_⟩
                  intro hnil
                  have hzero := congrArg List.length hnil
                  rw [List.length_take, List.length_nil] at hzero
                  omega
                · exact hlines line hline

theorem cutHead_append {lines : List Bytes} (h : cutHead data = some (lines, rest))
    (more : Bytes) : cutHead (data ++ more) = some (lines, rest ++ more) := by
  obtain ⟨rfl, hlines⟩ := cutHead_eq_some h
  rw [List.append_assoc]
  exact cutHead_lines hlines (rest ++ more)

/-- The empty line takes some of the input. -/
theorem length_of_cutHead {lines : List Bytes} (h : cutHead data = some (lines, rest)) :
    rest.length < data.length := by
  obtain ⟨rfl, -⟩ := cutHead_eq_some h
  rw [List.length_append, List.length_append]
  have hend : crlf.length = 2 := rfl
  omega

end Heads

/-! ### Numbers -/

/-- A number of any size, where all of the text is digits. -/
def readNumber (digits : Bytes) : Option Nat :=
  if digits ≠ [] ∧ digits.all isdigit then some (digitsValue digits) else none

theorem decimal_eq (n : Nat) :
    decimal n = (Nat.toDigits 10 n).map fun c => UInt8.ofNat c.toNat := by
  simp [decimal, ascii]

theorem decimal_ne_nil (n : Nat) : decimal n ≠ [] := by
  rw [decimal_eq]
  simp

theorem digitsValue_map {chars : List Char} (digits : ∀ c ∈ chars, c.isDigit = true) :
    digitsValue (chars.map fun c => UInt8.ofNat c.toNat) = Nat.ofDigitChars 10 chars 0 := by
  rw [digitsValue, Nat.ofDigitChars_eq_foldl, List.foldl_map]
  refine List.foldl_ext _ _ _ fun n c hc => ?_
  have hrange : 48 ≤ c.toNat ∧ c.toNat ≤ 57 := Char.isDigit_iff_toNat.mp (digits c hc)
  have hbyte : (UInt8.ofNat c.toNat).toNat = c.toNat := by
    rw [UInt8.toNat_ofNat']
    exact Nat.mod_eq_of_lt (by omega)
  rw [hbyte, Nat.mul_comm]
  rfl

/-- Writing a number in decimal loses nothing. -/
theorem digitsValue_decimal (n : Nat) : digitsValue (decimal n) = n := by
  rw [decimal_eq, digitsValue_map]
  · exact Nat.ofDigitChars_toDigits (by decide) (by decide)
  · intro c hc
    exact Nat.isDigit_of_mem_toDigits (by decide) (by decide) hc

theorem readNumber_decimal (n : Nat) : readNumber (decimal n) = some n := by
  rw [readNumber, if_pos ⟨decimal_ne_nil n, List.all_eq_true.mpr (isdigit_decimal n)⟩,
    digitsValue_decimal]

/-- A number in decimal is one line, and no blanks. -/
theorem decimal_not_mem {b : UInt8} (h : isdigit b = false) (n : Nat) : b ∉ decimal n := by
  intro hb
  rw [isdigit_decimal n b hb] at h
  cases h

end Rmuduo.Lib
