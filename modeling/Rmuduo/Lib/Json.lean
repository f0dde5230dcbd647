/-
A strict reader of JSON texts. It knows no blanks, no `\u` escapes, no fractions, no arrays and no
truth values; what it accepts is JSON, in UTF-8 and with every control character escaped.

* `readJson` — the value of a text.
* `Spells`, `ReadsMembers`, `Reads` — texts that are read whatever follows them, with a rule for each
  way to write one.
* `reads_natural`, `reads_negative` — numbers in decimal.
* `readJson_of_reads` — a text by itself.
-/

import Rmuduo.Lib.Lines
import Rmuduo.Lib.Utf8

namespace Rmuduo.Lib

inductive Json where
  | null
  | number (n : Int)
  | string (value : Bytes)
  | object (members : List (Bytes × Json))

namespace Json

/-! ### The reader -/

/-- The byte behind a backslash and the byte that the two stand for. -/
def escapes : List (UInt8 × UInt8) :=
  [(34, 34), (92, 92), (47, 47), (98, 8), (102, 12), (110, 10), (114, 13), (116, 9)]

/-- What stands in front of the closing quote, and what behind it. -/
def readChars : Bytes → Option (Bytes × Bytes)
  | [] => none
  | b :: data =>
      if b = 34 then some ([], data)
      else if b = 92 then
        match data with
        | [] => none
        | escaped :: data =>
            match escapes.lookup escaped, readChars data with
            | some ch, some (value, rest) => some (ch :: value, rest)
            | _, _ => none
      else if b < 32 then none
      else (readChars data).map fun chars => (b :: chars.1, chars.2)

/-- Digits, with no zero in front of others. -/
def readNatural (data : Bytes) : Option (Nat × Bytes) :=
  let digits := data.takeWhile isdigit
  if digits = [] ∨ (digits.head? = some 48 ∧ digits.length ≠ 1) then none
  else some (digitsValue digits, data.dropWhile isdigit)

def readInteger : Bytes → Option (Int × Bytes)
  | [] => none
  | b :: data =>
      if b = 45 then (readNatural data).map fun number => (-number.1, number.2)
      else (readNatural (b :: data)).map fun number => (number.1, number.2)

/-- A key and the colon behind it. -/
def readKey : Bytes → Option (Bytes × Bytes)
  | [] => none
  | b :: data =>
      if b = 34 then
        match readChars data with
        | some (key, colon :: rest) => if colon = 58 then some (key, rest) else none
        | _ => none
      else none

mutual

/-- The value at the front, and what stands behind it. -/
def readValue : Nat → Bytes → Option (Json × Bytes)
  | 0, _ => none
  | _, [] => none
  | fuel + 1, b :: data =>
      if b = 34 then (readChars data).map fun chars => (.string chars.1, chars.2)
      else if b = 123 then
        if data.head? = some 125 then some (.object [], data.tail)
        else (readMembers fuel data).map fun members => (.object members.1, members.2)
      else if b = 110 then
        if data.take 3 = ascii "ull" then some (.null, data.drop 3) else none
      else (readInteger (b :: data)).map fun number => (.number number.1, number.2)

/-- The members in front of the closing brace, and what stands behind it. -/
def readMembers : Nat → Bytes → Option (List (Bytes × Json) × Bytes)
  | 0, _ => none
  | fuel + 1, data =>
      match readKey data with
      | none => none
      | some (key, data) =>
          match readValue fuel data with
          | none => none
          | some (_, []) => none
          | some (value, b :: rest) =>
              if b = 125 then some ([(key, value)], rest)
              else if b = 44 then
                (readMembers fuel rest).map fun members => ((key, value) :: members.1, members.2)
              else none

end

/-- The value of a whole text. -/
def readJson (data : Bytes) : Option Json :=
  if Utf8 data then
    match readValue data.length data with
    | some (value, []) => some value
    | _ => none
  else none

/-! ### Texts that can be read -/

/-- What may follow a number. -/
def Ends (rest : Bytes) : Prop :=
  ∀ b ∈ rest.head?, isdigit b = false

/-- Between two quotes the text stands for the value. -/
structure Spells (text value : Bytes) : Prop where
  utf8 : Utf8 text
  reads : ∀ rest, readChars (text ++ 34 :: rest) = some (value, rest)

structure Reads (text : Bytes) (value : Json) : Prop where
  utf8 : Utf8 text
  reads : ∀ fuel rest, text.length ≤ fuel → Ends rest →
    readValue fuel (text ++ rest) = some (value, rest)

/-- Between two braces the text stands for the members. -/
structure ReadsMembers (text : Bytes) (members : List (Bytes × Json)) : Prop where
  utf8 : Utf8 text
  opens : text.head? = some 34
  reads : ∀ fuel rest, text.length ≤ fuel →
    readMembers fuel (text ++ 125 :: rest) = some (members, rest)

section Strings

variable {text value : Bytes} {b escaped ch : UInt8}

theorem readChars_nil (rest : Bytes) : readChars ([] ++ 34 :: rest) = some ([], rest) := by
  rw [List.nil_append, readChars.eq_def]
  exact if_pos rfl

theorem readChars_plain {rest : Bytes} (h : readChars (text ++ 34 :: rest) = some (value, rest))
    (not_quote : b ≠ 34) (not_backslash : b ≠ 92) (printable : ¬ b < 32) :
    readChars (b :: text ++ 34 :: rest) = some (b :: value, rest) := by
  rw [List.cons_append, readChars.eq_def]
  dsimp only
  rw [if_neg not_quote, if_neg not_backslash, if_neg printable, h]
  rfl

theorem readChars_escape {rest : Bytes} (h : readChars (text ++ 34 :: rest) = some (value, rest))
    (known : escapes.lookup escaped = some ch) :
    readChars (92 :: escaped :: text ++ 34 :: rest) = some (ch :: value, rest) := by
  rw [List.cons_append, List.cons_append, readChars.eq_def]
  dsimp only
  rw [if_neg (by decide), if_pos rfl, known, h]

/-- A byte that has to be escaped, and is not. -/
theorem readChars_control (not_quote : b ≠ 34) (not_backslash : b ≠ 92) (control : b < 32)
    (data : Bytes) : readChars (b :: data) = none := by
  rw [readChars.eq_def]
  dsimp only
  rw [if_neg not_quote, if_neg not_backslash, if_pos control]

theorem reads_string (h : Spells text value) : Reads (34 :: (text ++ [34])) (.string value) where
  utf8 := (h.utf8.append (by decide)).cons (by decide)
  reads fuel rest hfuel _ := by
    obtain ⟨fuel, rfl⟩ := Nat.exists_eq_add_of_le' (Nat.lt_of_lt_of_le (by simp) hfuel :
      0 < fuel)
    have hchars : readChars (text ++ [34] ++ rest) = some (value, rest) := by
      rw [List.append_assoc]
      exact h.reads rest
    rw [List.cons_append, readValue, if_pos rfl, hchars]
    rfl

end Strings

/-! ### Numbers -/

section Numbers

variable {n : Nat} {rest : Bytes}

theorem takeWhile_decimal (h : Ends rest) :
    (decimal n ++ rest).takeWhile isdigit = decimal n ∧
      (decimal n ++ rest).dropWhile isdigit = rest := by
  have hdigits := isdigit_decimal n
  rw [List.takeWhile_append_of_pos hdigits, List.dropWhile_append_of_pos hdigits]
  cases rest with
  | nil => exact ⟨List.append_nil _, rfl⟩
  | cons b rest =>
      have hb : ¬ isdigit b = true := by
        rw [h b rfl]
        decide
      rw [List.takeWhile_cons_of_neg hb, List.dropWhile_cons_of_neg hb, List.append_nil]
      exact ⟨rfl, rfl⟩

/-- A number in decimal has no zero in front. -/
theorem head_toDigits (h : 0 < n) : (Nat.toDigits 10 n).head? ≠ some '0' := by
  induction n using Nat.strongRecOn with
  | ind n ih =>
      by_cases hsmall : n < 10
      · rw [Nat.toDigits_of_lt_base hsmall]
        simp
        omega
      · have hfront := ih (n / 10) (by omega) (by omega)
        rw [Nat.toDigits_of_base_le (by decide) (by omega), List.head?_append_of_ne_nil _
          Nat.toDigits_ne_nil]
        exact hfront

theorem head_decimal (h : 0 < n) : (decimal n).head? ≠ some 48 := by
  intro hzero
  rw [decimal_eq, List.head?_map, Option.map_eq_some_iff] at hzero
  obtain ⟨c, hc, hbyte⟩ := hzero
  have hdigit := Nat.isDigit_of_mem_toDigits (b := 10) (by decide) (by decide)
    (List.mem_of_mem_head? hc)
  have hrange : 48 ≤ c.toNat ∧ c.toNat ≤ 57 := Char.isDigit_iff_toNat.mp hdigit
  have hnat := congrArg UInt8.toNat hbyte
  rw [UInt8.toNat_ofNat', Nat.mod_eq_of_lt (by omega)] at hnat
  have hchar : c = '0' := Char.toNat_inj.mp hnat
  rw [hchar] at hc
  exact head_toDigits h hc

theorem readNatural_decimal (h : Ends rest) :
    readNatural (decimal n ++ rest) = some (n, rest) := by
  obtain ⟨htake, hdrop⟩ := takeWhile_decimal (n := n) h
  have hfront : ¬ (decimal n = [] ∨ ((decimal n).head? = some 48 ∧ (decimal n).length ≠ 1)) := by
    rintro (hnil | ⟨hzero, hlen⟩)
    · exact decimal_ne_nil n hnil
    · cases n with
      | zero => exact hlen (by decide)
      | succ n => exact head_decimal (Nat.succ_pos n) hzero
  rw [readNatural, htake, hdrop, if_neg hfront, digitsValue_decimal]

/-- The first byte of a number in decimal. -/
theorem exists_decimal (n : Nat) : ∃ b digits, decimal n = b :: digits ∧ isdigit b = true := by
  cases hdigits : decimal n with
  | nil => exact absurd hdigits (decimal_ne_nil n)
  | cons b digits =>
      refine ⟨b, digits, rfl, isdigit_decimal n b ?_⟩
      rw [hdigits]
      exact List.mem_cons_self

theorem utf8_decimal (n : Nat) : Utf8 (decimal n) := by
  refine utf8_of_ascii fun b hb => ?_
  have hdigit := isdigit_decimal n b hb
  simp only [isdigit, decide_eq_true_eq] at hdigit
  exact UInt8.lt_of_le_of_lt hdigit.2 (by decide)

theorem reads_natural (n : Nat) : Reads (decimal n) (.number n) where
  utf8 := utf8_decimal n
  reads fuel rest hfuel hends := by
    obtain ⟨b, digits, hdigits, hb⟩ := exists_decimal n
    obtain ⟨fuel, rfl⟩ := Nat.exists_eq_add_of_le' (Nat.lt_of_lt_of_le (by simp [hdigits]) hfuel :
      0 < fuel)
    have hother : b ≠ 34 ∧ b ≠ 123 ∧ b ≠ 110 ∧ b ≠ 45 := by
      refine ⟨?_, ?_, ?_, ?_⟩ <;>
        · rintro rfl
          cases hb
    have hread := readNatural_decimal (n := n) hends
    rw [hdigits, List.cons_append] at hread ⊢
    rw [readValue, if_neg hother.1, if_neg hother.2.1, if_neg hother.2.2.1, readInteger,
      if_neg hother.2.2.2, hread]
    rfl

theorem reads_negative (n : Nat) : Reads (45 :: decimal n) (.number (-n)) where
  utf8 := (utf8_decimal n).cons (by decide)
  reads fuel rest hfuel hends := by
    obtain ⟨fuel, rfl⟩ := Nat.exists_eq_add_of_le' (Nat.lt_of_lt_of_le (by simp) hfuel : 0 < fuel)
    rw [List.cons_append, readValue, if_neg (by decide), if_neg (by decide), if_neg (by decide),
      readInteger, if_pos rfl, readNatural_decimal hends]
    rfl

theorem reads_null : Reads (ascii "null") .null where
  utf8 := by decide
  reads fuel rest hfuel _ := by
    obtain ⟨fuel, rfl⟩ := Nat.exists_eq_add_of_le' (Nat.lt_of_lt_of_le (by decide) hfuel : 0 < fuel)
    rfl

end Numbers

/-! ### Objects -/

section Objects

variable {text key name valueText : Bytes} {value : Json} {members : List (Bytes × Json)}

/-- A key, a colon and a value. -/
def member (key valueText : Bytes) : Bytes := 34 :: (key ++ 34 :: 58 :: valueText)

theorem readKey_member (h : Spells key name) (rest : Bytes) :
    readKey (member key valueText ++ rest) = some (name, valueText ++ rest) := by
  have hchars := h.reads (58 :: (valueText ++ rest))
  have hassoc : key ++ 34 :: 58 :: valueText ++ rest = key ++ 34 :: (58 :: (valueText ++ rest)) := by
    simp
  rw [member, List.cons_append, readKey, if_pos rfl, hassoc, hchars]
  rfl

theorem length_member (key valueText : Bytes) :
    valueText.length < (member key valueText).length := by
  simp only [member, List.length_cons, List.length_append]
  omega

theorem utf8_member (hkey : Utf8 key) (hvalue : Utf8 valueText) : Utf8 (member key valueText) :=
  (hkey.append ((hvalue.cons (by decide)).cons (by decide))).cons (by decide)

theorem ReadsMembers.one (hkey : Spells key name) (hvalue : Reads valueText value) :
    ReadsMembers (member key valueText) [(name, value)] where
  utf8 := utf8_member hkey.utf8 hvalue.utf8
  opens := rfl
  reads fuel rest hfuel := by
    have hlen := length_member key valueText
    obtain ⟨fuel, rfl⟩ := Nat.exists_eq_add_of_le' (Nat.lt_of_le_of_lt (Nat.zero_le _)
      (Nat.lt_of_lt_of_le hlen hfuel) : 0 < fuel)
    have hread := hvalue.reads fuel (125 :: rest) (by omega) (fun b hb => by cases hb; rfl)
    rw [readMembers, readKey_member hkey]
    dsimp only
    rw [hread]
    rfl

theorem ReadsMembers.more (hkey : Spells key name) (hvalue : Reads valueText value)
    (h : ReadsMembers text members) :
    ReadsMembers (member key valueText ++ 44 :: text) ((name, value) :: members) where
  utf8 := (utf8_member hkey.utf8 hvalue.utf8).append (h.utf8.cons (by decide))
  opens := rfl
  reads fuel rest hfuel := by
    have hlen := length_member key valueText
    rw [List.length_append, List.length_cons] at hfuel
    obtain ⟨fuel, rfl⟩ := Nat.exists_eq_add_of_le' (by omega : 0 < fuel)
    have hread := hvalue.reads fuel (44 :: (text ++ 125 :: rest)) (by omega)
      (fun b hb => by cases hb; rfl)
    rw [List.append_assoc, List.cons_append, readMembers, readKey_member hkey]
    dsimp only
    rw [hread]
    dsimp only
    rw [if_neg (by decide), if_pos rfl, h.reads fuel rest (by omega)]
    rfl

theorem ReadsMembers.object (h : ReadsMembers text members) :
    Reads (123 :: (text ++ [125])) (.object members) where
  utf8 := (h.utf8.append (by decide)).cons (by decide)
  reads fuel rest hfuel _ := by
    rw [List.length_cons, List.length_append] at hfuel
    obtain ⟨fuel, rfl⟩ := Nat.exists_eq_add_of_le' (by omega : 0 < fuel)
    have hopens : (text ++ [125] ++ rest).head? ≠ some 125 := by
      have hfirst := h.opens
      cases text with
      | nil => cases hfirst
      | cons b text =>
          cases hfirst
          simp
    have hread := h.reads fuel rest (by omega)
    rw [List.cons_append, readValue, if_neg (by decide), if_pos rfl, if_neg hopens,
      List.append_assoc]
    have hrest : [125] ++ rest = 125 :: rest := rfl
    rw [hrest, hread]
    rfl

end Objects

/-- **A text by itself** is read as its value. -/
theorem readJson_of_reads {text : Bytes} {value : Json} (h : Reads text value) :
    readJson text = some value := by
  have hread := h.reads text.length [] (Nat.le_refl _) (fun b hb => by cases hb)
  rw [List.append_nil] at hread
  rw [readJson, if_pos h.utf8, hread]

end Json

end Rmuduo.Lib
