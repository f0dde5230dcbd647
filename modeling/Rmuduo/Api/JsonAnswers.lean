/-
Answers as a strict reader of JSON reads them (`api/JsonResponse.h`).

* `spells_escapeJson` — `escapeJson` writes a string for just those values that are UTF-8 and in
  which every control character has a short escape.
* `reads_makeJsonResponse` — an answer is an object with a code, a message and the data.
-/

import Rmuduo.Api.JsonResponse
import Rmuduo.Lib.Json

namespace Rmuduo.Api

open Lib Lib.Json

/-! ### Strings -/

/-- UTF-8 in which every control character is one that `escapeJson` escapes. -/
@[mk_iff escapable_iff]
structure Escapable (value : Bytes) : Prop where
  utf8 : Utf8 value
  short : ∀ b ∈ value, b < 32 → b ∈ ([8, 9, 10, 12, 13] : Bytes)

section Strings

variable {value : Bytes} {ch : UInt8}

/-- What is written for one byte: an escape, or the byte itself. -/
theorem escapeByte_eq (ch : UInt8) :
    (∃ escaped, escapeByte ch = [92, escaped] ∧ Json.escapes.lookup escaped = some ch ∧
        (ch < 32 → ch ∈ ([8, 9, 10, 12, 13] : Bytes))) ∨
      (escapeByte ch = [ch] ∧ ch ≠ 34 ∧ ch ≠ 92 ∧ ch ∉ ([8, 9, 10, 12, 13] : Bytes)) := by
  by_cases h : ch ∈ ([34, 92, 8, 12, 10, 13, 9] : Bytes)
  · simp only [List.mem_cons, List.not_mem_nil, or_false] at h
    rcases h with rfl | rfl | rfl | rfl | rfl | rfl | rfl
    · exact .inl ⟨34, rfl, rfl, by decide⟩
    · exact .inl ⟨92, rfl, rfl, by decide⟩
    · exact .inl ⟨98, rfl, rfl, by decide⟩
    · exact .inl ⟨102, rfl, rfl, by decide⟩
    · exact .inl ⟨110, rfl, rfl, by decide⟩
    · exact .inl ⟨114, rfl, rfl, by decide⟩
    · exact .inl ⟨116, rfl, rfl, by decide⟩
  · simp only [List.mem_cons, List.not_mem_nil, or_false, not_or] at h
    obtain ⟨h34, h92, h8, h12, h10, h13, h9⟩ := h
    exact .inr ⟨by simp [escapeByte, *], h34, h92, by simp [*]⟩

/-- What is written for a byte is the byte, or ASCII for ASCII. -/
theorem escapeByte_ascii (ch : UInt8) :
    escapeByte ch = [ch] ∨
      (ch < 0x80 ∧ escapeByte ch ≠ [] ∧ ∀ b ∈ escapeByte ch, b < 0x80) := by
  by_cases h : ch ∈ ([34, 92, 8, 12, 10, 13, 9] : Bytes)
  · simp only [List.mem_cons, List.not_mem_nil, or_false] at h
    rcases h with rfl | rfl | rfl | rfl | rfl | rfl | rfl <;>
      exact .inr ⟨by decide, by simp [escapeByte, ascii], by simp [escapeByte, ascii]⟩
  · simp only [List.mem_cons, List.not_mem_nil, or_false, not_or] at h
    exact .inl (by simp [escapeByte, h])

theorem utf8_escapeJson : Utf8 (escapeJson value) ↔ Utf8 value :=
  utf8_flatMap escapeByte_ascii

theorem spells_of_escapable (h : Escapable value) : Spells (escapeJson value) value where
  utf8 := utf8_escapeJson.mpr h.utf8
  reads rest := by
    have hshort := h.short
    clear h
    induction value with
    | nil => exact readChars_nil rest
    | cons ch value ih =>
        have hrest := ih fun b hb => hshort b (List.mem_cons_of_mem _ hb)
        have hcons : escapeJson (ch :: value) = escapeByte ch ++ escapeJson value := rfl
        rw [hcons]
        rcases escapeByte_eq ch with ⟨escaped, hwritten, hknown, -⟩ |
          ⟨hwritten, hquote, hslash, hother⟩
        · rw [hwritten]
          exact readChars_escape hrest hknown
        · rw [hwritten]
          exact readChars_plain hrest hquote hslash fun hcontrol =>
            hother (hshort ch List.mem_cons_self hcontrol)

/-- A control character without a short escape is no part of a string. -/
theorem short_of_readChars (hread : readChars (escapeJson value ++ [34]) = some (value, [])) :
    ∀ b ∈ value, b < 32 → b ∈ ([8, 9, 10, 12, 13] : Bytes) := by
  induction value with
  | nil => exact fun b hb => absurd hb List.not_mem_nil
  | cons ch value ih =>
      have hcons : escapeJson (ch :: value) = escapeByte ch ++ escapeJson value := rfl
      rw [hcons, List.append_assoc] at hread
      rcases escapeByte_eq ch with ⟨escaped, hwritten, hknown, hshort⟩ |
        ⟨hwritten, hquote, hslash, hother⟩
      · rw [hwritten, List.cons_append, List.cons_append, readChars.eq_def] at hread
        dsimp only at hread
        rw [if_neg (by decide), if_pos rfl, hknown] at hread
        have hrest : ∀ b ∈ value, b < 32 → b ∈ ([8, 9, 10, 12, 13] : Bytes) := by
          apply ih
          cases hchars : readChars ([] ++ (escapeJson value ++ [34])) with
          | none =>
              rw [hchars] at hread
              cases hread
          | some chars =>
              obtain ⟨decoded, behind⟩ := chars
              rw [hchars] at hread
              cases hread
              exact hchars
        intro b hb hcontrol
        rcases List.mem_cons.mp hb with rfl | hb
        · exact hshort hcontrol
        · exact hrest b hb hcontrol
      · rw [hwritten] at hread
        by_cases hcontrol : ch < 32
        · rw [List.cons_append, readChars_control hquote hslash hcontrol] at hread
          cases hread
        · rw [List.cons_append, readChars.eq_def] at hread
          dsimp only at hread
          rw [if_neg hquote, if_neg hslash, if_neg hcontrol] at hread
          obtain ⟨⟨decoded, behind⟩, hchars, heq⟩ := Option.map_eq_some_iff.mp hread
          cases heq
          have hrest := ih hchars
          intro b hb hlow
          rcases List.mem_cons.mp hb with rfl | hb
          · exact absurd hlow hcontrol
          · exact hrest b hb hlow

/-- **What `escapeJson` is right for.** The text between the quotes is one that a strict reader takes
for the value exactly when the value is UTF-8 and every control character of it has a short
escape. -/
theorem spells_escapeJson : Spells (escapeJson value) value ↔ Escapable value :=
  ⟨fun h => ⟨utf8_escapeJson.mp h.utf8, short_of_readChars (h.reads [])⟩, spells_of_escapable⟩

theorem quote_eq (value : Bytes) : quote value = 34 :: (escapeJson value ++ [34]) := rfl

theorem reads_quote (h : Escapable value) : Reads (quote value) (.string value) :=
  reads_string (spells_of_escapable h)

theorem Escapable.append {more : Bytes} (h : Escapable value) (hmore : Escapable more) :
    Escapable (value ++ more) where
  utf8 := h.utf8.append hmore.utf8
  short b hb := (List.mem_append.mp hb).elim (h.short b) (hmore.short b)

instance (value : Bytes) : Decidable (Escapable value) :=
  decidable_of_iff (Utf8 value ∧
    (value.all fun b => 32 ≤ b || ([8, 9, 10, 12, 13] : Bytes).contains b) = true) (by
    simp [escapable_iff, or_iff_not_imp_left])

/-- A value in ASCII without control characters. -/
theorem escapable_of_printable (h : ∀ b ∈ value, 32 ≤ b ∧ b < 0x80) : Escapable value where
  utf8 := utf8_of_ascii fun b hb => (h b hb).2
  short b hb hcontrol := absurd hcontrol (UInt8.not_lt.mpr (h b hb).1)

end Strings

/-! ### Numbers and members -/

theorem reads_toText (n : Int) : Reads (toText n) (.number n) := by
  rw [toText]
  split
  · rename_i hneg
    have hread := reads_negative n.natAbs
    have hvalue : -(n.natAbs : Int) = n := by omega
    rw [hvalue] at hread
    exact hread
  · rename_i hpos
    have hread := reads_natural n.natAbs
    have hvalue : (n.natAbs : Int) = n := by omega
    rw [hvalue] at hread
    exact hread

section Members

variable {key value text dataJson message : Bytes} {data v : Json} {members : List (Bytes × Json)}

theorem quote_member (key valueText : Bytes) :
    quote key ++ ascii ":" ++ valueText = member (escapeJson key) valueText := by
  simp [quote_eq, member, ascii]

theorem makeField_eq (key value : Bytes) :
    makeField key value = member (escapeJson key) (quote value) :=
  quote_member key _

theorem makeNumberField_eq (key : Bytes) (n : Int) :
    makeNumberField key n = member (escapeJson key) (toText n) :=
  quote_member key _

/-- A list of members as the code writes one: text by text, with commas between them. -/
def joined : List Bytes → Bytes
  | [] => []
  | [text] => text
  | text :: texts => text ++ ascii "," ++ joined texts

/-- A member that can be read. -/
def IsMember (text : Bytes) (entry : Bytes × Json) : Prop :=
  ∃ key valueText, text = member key valueText ∧ Spells key entry.1 ∧ Reads valueText entry.2

theorem isMember_field (key : Bytes) (hkey : Escapable key) (hvalue : Escapable value) :
    IsMember (makeField key value) (key, .string value) :=
  ⟨_, _, makeField_eq key value, spells_of_escapable hkey, reads_quote hvalue⟩

theorem isMember_number (key : Bytes) (hkey : Escapable key) (n : Int) :
    IsMember (makeNumberField key n) (key, .number n) :=
  ⟨_, _, makeNumberField_eq key n, spells_of_escapable hkey, reads_toText n⟩

theorem readsMembers_joined {texts : List Bytes} {text : Bytes} {entry : Bytes × Json}
    {members : List (Bytes × Json)} (hfirst : IsMember text entry)
    (hrest : List.Forall₂ IsMember texts members) :
    ReadsMembers (joined (text :: texts)) (entry :: members) := by
  induction hrest generalizing text entry with
  | nil =>
      obtain ⟨key, valueText, rfl, hkey, hvalue⟩ := hfirst
      exact .one hkey hvalue
  | cons hnext _ ih =>
      obtain ⟨key, valueText, rfl, hkey, hvalue⟩ := hfirst
      have hmore := ReadsMembers.more hkey hvalue (ih hnext)
      rw [joined]
      · simpa [ascii] using hmore
      · simp

/-- An object as the code writes one. -/
theorem reads_object {texts : List Bytes} (hfirst : IsMember text (key, v))
    (hrest : List.Forall₂ IsMember texts members) :
    Reads (ascii "\x7b" ++ joined (text :: texts) ++ ascii "\x7d") (.object ((key, v) :: members)) :=
  (readsMembers_joined hfirst hrest).object

/-- An answer: its code, its message and its data. -/
def reply (code : Int) (message : Bytes) (data : Json) : Json :=
  .object [(ascii "code", .number code), (ascii "message", .string message), (ascii "data", data)]

/-- **An answer** is read as its code, its message and its data. -/
theorem reads_makeJsonResponse (code : Int) (hmessage : Escapable message)
    (hdata : Reads dataJson data) :
    Reads (makeJsonResponse code message dataJson) (reply code message data) := by
  have hkey (key : Bytes) (h : Escapable key) : Spells (escapeJson key) key :=
    spells_of_escapable h
  have hcode : IsMember (member (escapeJson (ascii "code")) (toText code))
      (ascii "code", .number code) :=
    ⟨_, _, rfl, hkey _ (by decide), reads_toText code⟩
  have hmember : List.Forall₂ IsMember
      [member (escapeJson (ascii "message")) (quote message),
        member (escapeJson (ascii "data")) dataJson]
      [(ascii "message", .string message), (ascii "data", data)] :=
    .cons ⟨_, _, rfl, hkey _ (by decide), reads_quote hmessage⟩
      (.cons ⟨_, _, rfl, hkey _ (by decide), hdata⟩ .nil)
  have hread := reads_object hcode hmember
  have htext : makeJsonResponse code message dataJson = ascii "\x7b" ++ joined
      [member (escapeJson (ascii "code")) (toText code),
        member (escapeJson (ascii "message")) (quote message),
        member (escapeJson (ascii "data")) dataJson] ++ ascii "\x7d" := by
    simp [makeJsonResponse, joined, member, escapeJson, escapeByte, ascii]
  rw [htext]
  exact hread

theorem reads_makeOk (h : Reads dataJson data) :
    Reads (makeOk dataJson) (reply 0 (ascii "ok") data) :=
  reads_makeJsonResponse 0 (by decide) h

theorem reads_makeError (code : Int) (h : Escapable message) :
    Reads (makeError code message) (reply code message .null) :=
  reads_makeJsonResponse code h reads_null

end Members

end Rmuduo.Api
