/-
Answers read back as requests: what `JsonResponse.h` writes, `JsonRequest.cc` reads.

* `characters_escapeJson` — the escapes of a value denote the value.
* `members_intercalate` — fields with commas between them are the members of an object.
* `parseJsonObject_fields` — an object written field by field is read back.
-/

import Rmuduo.Api.JsonGrammar
import Rmuduo.Api.JsonResponse

namespace Rmuduo.Api

open Lib

/-- The object that is written field by field, with commas between the fields. -/
def fieldsText (pairs : List (Bytes × Bytes)) : Bytes :=
  ascii "\x7b" ++ (ascii ",").intercalate (pairs.map fun pair => makeField pair.1 pair.2) ++
    ascii "\x7d"

/-! ### One field -/

/-- A byte is written as it is, or as an escape that stands for it. -/
theorem escapeByte_cases (ch : UInt8) :
    (escapeByte ch = [ch] ∧ ch ≠ 34 ∧ ch ≠ 92) ∨
      ∃ escaped, escapeByte ch = [92, escaped] ∧ (escaped, ch) ∈ escapes := by
  unfold escapeByte
  split
  · rename_i h
    exact .inr ⟨34, rfl, by rw [h]; decide⟩
  · rename_i hquote
    split
    · rename_i h
      exact .inr ⟨92, rfl, by rw [h]; decide⟩
    · rename_i hslash
      split
      · rename_i h
        exact .inr ⟨98, rfl, by rw [h]; decide⟩
      · split
        · rename_i h
          exact .inr ⟨102, rfl, by rw [h]; decide⟩
        · split
          · rename_i h
            exact .inr ⟨110, rfl, by rw [h]; decide⟩
          · split
            · rename_i h
              exact .inr ⟨114, rfl, by rw [h]; decide⟩
            · split
              · rename_i h
                exact .inr ⟨116, rfl, by rw [h]; decide⟩
              · exact .inl ⟨rfl, hquote, hslash⟩

theorem characters_escapeJson (value : Bytes) : Characters (escapeJson value) value := by
  induction value with
  | nil => exact .nil
  | cons ch value ih =>
      have hcons : escapeJson (ch :: value) = escapeByte ch ++ escapeJson value := rfl
      rw [hcons]
      rcases escapeByte_cases ch with ⟨heq, hquote, hslash⟩ | ⟨escaped, heq, hknown⟩
      · rw [heq]
        exact .plain hquote hslash ih
      · rw [heq]
        exact .escape hknown ih

theorem string_quote (value : Bytes) : StringText (quote value) value :=
  .quoted (characters_escapeJson value)

theorem pair_makeField (pair : Bytes × Bytes) : PairText (makeField pair.1 pair.2) pair := by
  have htext := PairText.pair spaces_nil (string_quote pair.1) spaces_nil spaces_nil
    (string_quote pair.2)
  have hfield : makeField pair.1 pair.2 = quote pair.1 ++ [58] ++ quote pair.2 := rfl
  rw [hfield]
  simpa using htext

/-! ### All fields -/

theorem members_intercalate (pair : Bytes × Bytes) (pairs : List (Bytes × Bytes)) :
    MembersText ([44].intercalate ((pair :: pairs).map fun pair => makeField pair.1 pair.2))
      (pair :: pairs) := by
  induction pairs generalizing pair with
  | nil =>
      rw [List.map_singleton, List.intercalate_singleton, ← List.append_nil (makeField _ _)]
      exact .last (pair_makeField pair) spaces_nil
  | cons next pairs ih =>
      rw [List.map_cons, List.map_cons, List.intercalate_cons_cons]
      have hmore := MembersText.cons (pair_makeField pair) spaces_nil (ih next)
      rw [List.append_nil] at hmore
      simpa using hmore

theorem object_fieldsText (pairs : List (Bytes × Bytes)) :
    ObjectText (fieldsText pairs) pairs := by
  cases pairs with
  | nil => exact .empty spaces_nil spaces_nil spaces_nil
  | cons pair pairs => exact .members spaces_nil (members_intercalate pair pairs) spaces_nil

/-- **The JSON round trip.** Whatever the keys and the values, the object that is written field
by field is accepted, with the last value of each key and no other key. -/
theorem parseJsonObject_fields (pairs : List (Bytes × Bytes)) :
    ∃ object, parseJsonObject (fieldsText pairs) = some object ∧
      (∀ key, object.getString key = lastValue key pairs) ∧
      ∀ key, object.contains key = true ↔ key ∈ pairs.map Prod.fst :=
  ⟨objectOf pairs, parseJsonObject_of_text (object_fieldsText pairs), getString_objectOf pairs,
    contains_objectOf pairs⟩

end Rmuduo.Api
