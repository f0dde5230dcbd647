/-
Text on the wire: separators, lines, blanks and decimal numbers.

* `splitOnce` — the parts before and behind the first occurrence of a separator.
* `join_inj` — parts without a separator can be told from their join.
* `behind` — what stands behind the first occurrence of a text.
* `findCRLF` — the end of the line at the front. It is found at the same place whatever
  follows (`findCRLF_append`), and right behind a line that has no line end inside
  (`findCRLF_line`).
* `trim_padded` — trimming undoes padding.
* `exists_otherSpelling`, `eq_of_map_tolower` — a text can be written in another letter case
  when it has a letter, and not otherwise.
* `fromChars` — a decimal number of 64 bits (`fromChars_eq_some`).
-/

import Mathlib.Data.List.DropRight
import Rmuduo.Lib.Bytes

namespace Rmuduo.Lib

/-! ### Separators -/

section Separators

variable {α : Type} [DecidableEq α]

/-- What stands before and behind the first separator, if there is one. -/
def splitOnce (sep : α) : List α → Option (List α × List α)
  | [] => none
  | x :: xs =>
      if x = sep then some ([], xs)
      else (splitOnce sep xs).map fun parts => (x :: parts.1, parts.2)

theorem splitOnce_eq_none {sep : α} {xs : List α} : splitOnce sep xs = none ↔ sep ∉ xs := by
  induction xs with
  | nil => simp [splitOnce]
  | cons x xs ih =>
      unfold splitOnce
      by_cases hx : x = sep
      · simp [hx]
      · simp [hx, ih, Ne.symm hx]

theorem splitOnce_eq_some {sep : α} {xs before after : List α} :
    splitOnce sep xs = some (before, after) ↔ xs = before ++ sep :: after ∧ sep ∉ before := by
  induction xs generalizing before with
  | nil => simp [splitOnce]
  | cons x xs ih =>
      unfold splitOnce
      by_cases hx : x = sep
      · subst hx
        cases before with
        | nil => simp
        | cons b before =>
            simp only [if_true, List.cons_append, List.cons.injEq, List.mem_cons, not_or]
            constructor
            · intro h
              cases h
            · rintro ⟨⟨rfl, -⟩, hne, -⟩
              exact absurd rfl hne
      · rw [if_neg hx]
        cases before with
        | nil =>
            simp only [List.nil_append, List.cons.injEq]
            constructor
            · intro h
              obtain ⟨parts, -, hparts⟩ := Option.map_eq_some_iff.mp h
              cases hparts
            · rintro ⟨⟨rfl, -⟩, -⟩
              exact absurd rfl hx
        | cons b before =>
            have hmap : (splitOnce sep xs).map (fun parts => (x :: parts.1, parts.2)) =
                some (b :: before, after) ↔
                x = b ∧ splitOnce sep xs = some (before, after) := by
              rw [Option.map_eq_some_iff]
              constructor
              · rintro ⟨⟨before', after'⟩, hparts, heq⟩
                cases heq
                exact ⟨rfl, hparts⟩
              · rintro ⟨rfl, hparts⟩
                exact ⟨_, hparts, rfl⟩
            rw [hmap, ih]
            simp only [List.cons_append, List.cons.injEq, List.mem_cons, not_or]
            constructor
            · rintro ⟨rfl, hxs, hnot⟩
              exact ⟨⟨rfl, hxs⟩, Ne.symm hx, hnot⟩
            · rintro ⟨⟨rfl, hxs⟩, -, hnot⟩
              exact ⟨rfl, hxs, hnot⟩

theorem splitOnce_of_not_mem {sep : α} {before : List α} (h : sep ∉ before) (after : List α) :
    splitOnce sep (before ++ sep :: after) = some (before, after) :=
  splitOnce_eq_some.mpr ⟨rfl, h⟩

/-- What stands behind the first occurrence of a text. -/
def behind (pattern : List α) : List α → Option (List α)
  | [] => if pattern = [] then some [] else none
  | x :: xs =>
      if pattern.isPrefixOf (x :: xs) then some ((x :: xs).drop pattern.length)
      else behind pattern xs

theorem behind_skip {a : α} {pattern xs : List α} (h : a ∉ xs) (ys : List α) :
    behind (a :: pattern) (xs ++ ys) = behind (a :: pattern) ys := by
  induction xs with
  | nil => rfl
  | cons x xs ih =>
      obtain ⟨hx, hxs⟩ := not_or.mp (mt List.mem_cons.mpr h)
      rw [List.cons_append, behind, if_neg]
      · exact ih hxs
      · simp [hx]

theorem behind_pattern (a : α) (pattern ys : List α) :
    behind (a :: pattern) (a :: pattern ++ ys) = some ys := by
  rw [List.cons_append, behind, if_pos]
  · simp
  · simp

end Separators

/-- Parts that hold no separator themselves can be told from any join. -/
theorem join_inj {α : Type} {sep : α} {before after before' after' : List α}
    (hbefore : sep ∉ before) (hafter : sep ∉ after) :
    before' ++ sep :: after' = before ++ sep :: after ↔ before' = before ∧ after' = after := by
  constructor
  · intro h
    rcases List.append_eq_append_iff.mp h with ⟨rest, hrest, htail⟩ | ⟨rest, hrest, htail⟩
    · cases rest with
      | nil =>
          rw [List.append_nil] at hrest
          cases htail
          exact ⟨hrest.symm, rfl⟩
      | cons x rest =>
          cases htail
          exact absurd (by rw [hrest]; simp) hbefore
    · cases rest with
      | nil =>
          rw [List.append_nil] at hrest
          cases htail
          exact ⟨hrest, rfl⟩
      | cons x rest =>
          cases htail
          exact absurd (by simp) hafter
  · rintro ⟨rfl, rfl⟩
    rfl


/-! ### Lines -/

/-- A line end. -/
def crlf : Bytes := [13, 10]

/-- `Buffer::findCRLF`, as an offset. -/
def findCRLF : Bytes → Option Nat
  | [] => none
  | [_] => none
  | a :: b :: data =>
      if a = 13 ∧ b = 10 then some 0 else (findCRLF (b :: data)).map (· + 1)

theorem findCRLF_append {data : Bytes} {i : Nat} (h : findCRLF data = some i) (more : Bytes) :
    findCRLF (data ++ more) = some i := by
  induction data generalizing i with
  | nil => cases h
  | cons a data ih =>
      cases data with
      | nil => cases h
      | cons b data =>
          simp only [List.cons_append, findCRLF] at h ih ⊢
          by_cases hend : a = 13 ∧ b = 10
          · rw [if_pos hend] at h ⊢
            exact h
          · rw [if_neg hend] at h ⊢
            obtain ⟨j, hj, rfl⟩ := Option.map_eq_some_iff.mp h
            rw [ih hj]
            rfl

/-- What a line end cuts off: a line that has none, the line end, and the rest. -/
theorem findCRLF_eq_some {data : Bytes} {i : Nat} (h : findCRLF data = some i) :
    data = data.take i ++ crlf ++ data.drop (i + 2) ∧ findCRLF (data.take i) = none ∧
      i + 2 ≤ data.length := by
  induction data generalizing i with
  | nil => cases h
  | cons a data ih =>
      cases data with
      | nil => cases h
      | cons b data =>
          simp only [findCRLF] at h
          by_cases hend : a = 13 ∧ b = 10
          · rw [if_pos hend] at h
            cases h
            refine ⟨?_, rfl, by simp⟩
            obtain ⟨rfl, rfl⟩ := hend
            rfl
          · rw [if_neg hend] at h
            obtain ⟨j, hj, rfl⟩ := Option.map_eq_some_iff.mp h
            obtain ⟨hdata, hline, hlen⟩ := ih hj
            refine ⟨?_, ?_, ?_⟩
            · simpa using hdata
            · cases j with
              | zero => rfl
              | succ j =>
                  simp only [List.take_succ_cons, findCRLF] at hline ⊢
                  rw [if_neg hend, hline]
                  rfl
            · simpa using hlen

/-- The line end behind a line that has none inside. -/
theorem findCRLF_line {line : Bytes} (h : findCRLF line = none) (rest : Bytes) :
    findCRLF (line ++ crlf ++ rest) = some line.length := by
  induction line with
  | nil => rfl
  | cons a line ih =>
      cases line with
      | nil =>
          have hnot : ¬ (a = 13 ∧ (13 : UInt8) = 10) := by
            rintro ⟨-, h⟩
            exact absurd h (by decide)
          simp [crlf, findCRLF]
      | cons b line =>
          simp only [findCRLF] at h
          by_cases hend : a = 13 ∧ b = 10
          · rw [if_pos hend] at h
            cases h
          · rw [if_neg hend] at h
            have hrest := ih (Option.map_eq_none_iff.mp h)
            simp only [List.cons_append, findCRLF] at hrest ⊢
            rw [if_neg hend, hrest]
            rfl

/-- A line without a carriage return has no line end. -/
theorem findCRLF_none {line : Bytes} (h : 13 ∉ line) : findCRLF line = none := by
  induction line with
  | nil => rfl
  | cons a line ih =>
      cases line with
      | nil => rfl
      | cons b line =>
          obtain ⟨ha, hline⟩ := not_or.mp (fun hor => h (List.mem_cons.mpr hor))
          have hnot : ¬ (a = 13 ∧ b = 10) := fun hend => ha hend.1.symm
          simp only [findCRLF]
          rw [if_neg hnot, ih hline]
          rfl

/-! ### Blanks and letters -/

/-- `isspace`, in the C locale. -/
def isspace (b : UInt8) : Bool := b = 32 ∨ (9 ≤ b ∧ b ≤ 13)

/-- `tolower`, in the C locale. -/
def tolower (b : UInt8) : UInt8 := if 65 ≤ b ∧ b ≤ 90 then b + 32 else b

/-- Drop the blanks in front, and then those behind. -/
def trim (data : Bytes) : Bytes :=
  (data.dropWhile isspace).rdropWhile isspace

/-- Neither end is a blank. -/
def Trimmed (data : Bytes) : Prop :=
  (∀ b ∈ data.head?, isspace b = false) ∧ ∀ b ∈ data.getLast?, isspace b = false

instance (data : Bytes) : Decidable (Trimmed data) :=
  inferInstanceAs (Decidable (_ ∧ _))

/-- **Trimming undoes padding.** -/
theorem trim_padded {before data after : Bytes} (hbefore : ∀ b ∈ before, isspace b = true)
    (hdata : Trimmed data) (hafter : ∀ b ∈ after, isspace b = true) :
    trim (before ++ data ++ after) = data := by
  unfold trim
  rw [List.append_assoc, List.dropWhile_append_of_pos hbefore]
  cases data with
  | nil =>
      have hnil : after.dropWhile isspace = [] := List.dropWhile_eq_nil_iff.mpr hafter
      rw [List.nil_append, hnil]
      rfl
  | cons b data =>
      have hfirst : isspace b = false := hdata.1 b rfl
      have hlast := hdata.2
      rw [List.cons_append, List.dropWhile_cons_of_neg (by simp [hfirst]), ← List.cons_append]
      unfold List.rdropWhile
      rw [List.reverse_append,
        List.dropWhile_append_of_pos (fun x hx => hafter x (List.mem_reverse.mp hx))]
      generalize b :: data = xs at hlast
      cases hrev : xs.reverse with
      | nil => exact (List.reverse_eq_nil_iff.mp hrev).symm
      | cons x rest =>
          have hx : isspace x = false := by
            apply hlast
            rw [← List.head?_reverse, hrev]
            rfl
          rw [List.dropWhile_cons_of_neg (by simp [hx]), ← hrev, List.reverse_reverse]

theorem trimmed_trim (data : Bytes) : Trimmed (trim data) := by
  constructor
  · intro b hb
    obtain ⟨rest, hrest⟩ := List.rdropWhile_prefix isspace (l := data.dropWhile isspace)
    have hhead := List.head?_dropWhile_not isspace data
    rw [← hrest] at hhead
    unfold trim at hb
    cases hcore : (data.dropWhile isspace).rdropWhile isspace with
    | nil =>
        rw [hcore] at hb
        cases hb
    | cons x core =>
        rw [hcore] at hb hhead
        cases hb
        exact hhead
  · intro b hb
    have hne : trim data ≠ [] := by
      intro hnil
      rw [hnil] at hb
      cases hb
    have hlast := List.rdropWhile_last_not isspace _ hne
    rw [List.getLast?_eq_some_getLast hne] at hb
    cases hb
    exact Bool.eq_false_iff.mpr hlast

theorem trim_trimmed {data : Bytes} (h : Trimmed data) : trim data = data := by
  have hpadded : trim ([] ++ data ++ []) = data := trim_padded (by simp) h (by simp)
  rwa [List.nil_append, List.append_nil] at hpadded

/-- Trimming twice is trimming once. -/
theorem trim_trim (data : Bytes) : trim (trim data) = trim data :=
  trim_trimmed (trimmed_trim data)

/-! ### Letter case -/

/-- `isalpha`, in the C locale. -/
def isalpha (b : UInt8) : Bool := (65 ≤ b ∧ b ≤ 90) ∨ (97 ≤ b ∧ b ≤ 122)

section LetterCase

variable {a b : UInt8} {xs ys : Bytes}

theorem toNat_tolower (b : UInt8) :
    (tolower b).toNat = if 65 ≤ b.toNat ∧ b.toNat ≤ 90 then b.toNat + 32 else b.toNat := by
  have hupper : (65 ≤ b ∧ b ≤ 90) ↔ 65 ≤ b.toNat ∧ b.toNat ≤ 90 := by
    rw [UInt8.le_iff_toNat_le, UInt8.le_iff_toNat_le]
    rfl
  have hstep : (32 : UInt8).toNat = 32 := rfl
  rw [tolower]
  by_cases h : 65 ≤ b ∧ b ≤ 90
  · rw [if_pos h, if_pos (hupper.mp h), UInt8.toNat_add, hstep]
    have hrange := hupper.mp h
    omega
  · rw [if_neg h, if_neg fun hnat => h (hupper.mpr hnat)]

theorem isalpha_iff : isalpha b = true ↔
    (65 ≤ b.toNat ∧ b.toNat ≤ 90) ∨ (97 ≤ b.toNat ∧ b.toNat ≤ 122) := by
  rw [isalpha, decide_eq_true_eq, UInt8.le_iff_toNat_le, UInt8.le_iff_toNat_le,
    UInt8.le_iff_toNat_le, UInt8.le_iff_toNat_le]
  rfl

/-- What is no letter has one case. -/
theorem eq_of_tolower_eq (hb : ¬ isalpha b = true) (h : tolower a = tolower b) : a = b := by
  rw [isalpha_iff] at hb
  have hnat := congrArg UInt8.toNat h
  rw [toNat_tolower, toNat_tolower] at hnat
  apply UInt8.toNat_inj.mp
  split at hnat <;> split at hnat <;> omega

/-- A letter has two. -/
theorem exists_otherCase (hb : isalpha b = true) : ∃ a, a ≠ b ∧ tolower a = tolower b := by
  by_cases hupper : 65 ≤ b.toNat ∧ b.toNat ≤ 90
  · refine ⟨tolower b, ?_, ?_⟩
    · intro hsame
      have hnat := congrArg UInt8.toNat hsame
      rw [toNat_tolower, if_pos hupper] at hnat
      omega
    · apply UInt8.toNat_inj.mp
      rw [toNat_tolower (tolower b), toNat_tolower b, if_pos hupper, if_neg (by omega)]
  · have hlower := (isalpha_iff.mp hb).resolve_left hupper
    have hstep : (32 : UInt8).toNat = 32 := rfl
    have hnat : (b - 32).toNat = b.toNat - 32 := by
      rw [UInt8.toNat_sub_of_le]
      · rw [hstep]
      · rw [UInt8.le_iff_toNat_le, hstep]
        omega
    refine ⟨b - 32, ?_, ?_⟩
    · intro hsame
      rw [hsame] at hnat
      omega
    · apply UInt8.toNat_inj.mp
      rw [toNat_tolower (b - 32), toNat_tolower b, hnat, if_pos (by omega), if_neg hupper]
      omega

/-- A text that has a letter can be written in another way. -/
theorem exists_otherSpelling (h : xs.any isalpha = true) :
    ∃ ys, ys ≠ xs ∧ ys.map tolower = xs.map tolower := by
  obtain ⟨b, hb, halpha⟩ := List.any_eq_true.mp h
  obtain ⟨a, hne, hsame⟩ := exists_otherCase halpha
  obtain ⟨before, after, rfl⟩ := List.append_of_mem hb
  refine ⟨before ++ a :: after, ?_, ?_⟩
  · intro heq
    have htail := List.append_cancel_left heq
    exact hne (List.cons.inj htail).1
  · simp [hsame]

/-- One that has none cannot. -/
theorem eq_of_map_tolower (h : ¬ xs.any isalpha = true) (hsame : ys.map tolower = xs.map tolower) :
    ys = xs := by
  induction xs generalizing ys with
  | nil => exact List.map_eq_nil_iff.mp hsame
  | cons x xs ih =>
      cases ys with
      | nil => cases hsame
      | cons y ys =>
          obtain ⟨hfirst, hrest⟩ := List.cons.inj hsame
          rw [List.any_cons, Bool.or_eq_true, not_or] at h
          rw [eq_of_tolower_eq h.1 hfirst, ih h.2 hrest]

theorem mem_map_tolower (hb : ¬ isalpha b = true) : b ∈ xs.map tolower ↔ b ∈ xs := by
  have hself : tolower b = b := by
    apply UInt8.toNat_inj.mp
    rw [isalpha_iff] at hb
    rw [toNat_tolower, if_neg fun hupper => hb (.inl hupper)]
  constructor
  · intro hmem
    obtain ⟨a, ha, hsame⟩ := List.mem_map.mp hmem
    rw [eq_of_tolower_eq hb (hsame.trans hself.symm)] at ha
    exact ha
  · intro hmem
    rw [← hself]
    exact List.mem_map_of_mem hmem

/-- Letter case does not move a line end. -/
theorem findCRLF_map_tolower (data : Bytes) : findCRLF (data.map tolower) = findCRLF data := by
  have hsep {b sep : UInt8} (hsep : ¬ isalpha sep = true) (hself : tolower sep = sep) :
      tolower b = sep ↔ b = sep := by
    constructor
    · intro h
      exact eq_of_tolower_eq hsep (h.trans hself.symm)
    · rintro rfl
      exact hself
  have hend (a b : UInt8) : tolower a = 13 ∧ tolower b = 10 ↔ a = 13 ∧ b = 10 := by
    rw [hsep (by decide) (by decide), hsep (by decide) (by decide)]
  induction data with
  | nil => rfl
  | cons a data ih =>
      cases data with
      | nil => rfl
      | cons b data =>
          simp only [List.map_cons, findCRLF] at ih ⊢
          rw [ih]
          by_cases h : a = 13 ∧ b = 10
          · rw [if_pos h, if_pos ((hend a b).mpr h)]
          · rw [if_neg h, if_neg fun hlower => h ((hend a b).mp hlower)]

end LetterCase

/-! ### Decimal numbers -/

def isdigit (b : UInt8) : Bool := 48 ≤ b ∧ b ≤ 57

/-- The number that digits denote. -/
def digitsValue (digits : Bytes) : Nat :=
  digits.foldl (fun n b => n * 10 + (b.toNat - 48)) 0

/-- Digits that denote a number, leading zeros allowed. -/
def Denotes (digits : Bytes) (n : Nat) : Prop :=
  digits ≠ [] ∧ (∀ b ∈ digits, isdigit b = true) ∧ digitsValue digits = n

instance (digits : Bytes) (n : Nat) : Decidable (Denotes digits n) :=
  inferInstanceAs (Decidable (_ ∧ _))

/-- `std::from_chars` on an unsigned number of 64 bits, when it takes all the text. -/
def fromChars (digits : Bytes) : Option Nat :=
  if digits ≠ [] ∧ digits.all isdigit ∧ digitsValue digits < 2 ^ 64 then
    some (digitsValue digits)
  else none

theorem fromChars_eq_some {digits : Bytes} {n : Nat} :
    fromChars digits = some n ↔ Denotes digits n ∧ n < 2 ^ 64 := by
  unfold fromChars Denotes
  rw [← List.all_eq_true]
  constructor
  · intro h
    split_ifs at h with hdigits
    cases h
    exact ⟨⟨hdigits.1, hdigits.2.1, rfl⟩, hdigits.2.2⟩
  · rintro ⟨⟨hne, hall, rfl⟩, hlt⟩
    exact if_pos ⟨hne, hall, hlt⟩

/-- The decimal text of a number, as `std::format` writes it. -/
def decimal (n : Nat) : Bytes :=
  ascii (toString n)

theorem isdigit_decimal (n : Nat) : ∀ b ∈ decimal n, isdigit b = true := by
  intro b hb
  obtain ⟨c, hc, rfl⟩ := List.mem_map.mp hb
  have hdigit : c.isDigit = true := by
    have hmem : c ∈ Nat.toDigits 10 n := by
      simpa [toString, Nat.repr] using hc
    exact Nat.isDigit_of_mem_toDigits (by decide) (by decide) hmem
  have hrange : 48 ≤ c.toNat ∧ c.toNat ≤ 57 := Char.isDigit_iff_toNat.mp hdigit
  simp only [isdigit, decide_eq_true_eq]
  constructor
  · rw [UInt8.le_iff_toNat_le]
    simp
    omega
  · rw [UInt8.le_iff_toNat_le]
    simp
    omega

end Rmuduo.Lib
