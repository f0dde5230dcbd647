/-
The grammar of JSON requests, and the texts that `parseJsonObject` accepts.

* `Characters`, `StringText`, `PairText`, `MembersText`, `ObjectText` — the grammar, with what
  each text denotes.
* `parseString_eq_some`, `parsePair_iff`, `parsePairs_eq_some` — each parser takes just what
  the grammar derives, for any text behind it.
* `getString_objectOf` — the object of a list of pairs holds the last value of each key.
* `parseJsonObject_eq_some_iff` — an object is returned exactly for the texts of the grammar.
-/

import Rmuduo.Api.JsonRequest

namespace Rmuduo.Api

open Lib

/-! ### The grammar -/

def Spaces (text : Bytes) : Prop :=
  ∀ b ∈ text, isspace b = true

/-- The byte behind a backslash and the byte that the two stand for. -/
def escapes : List (UInt8 × UInt8) :=
  [(34, 34), (92, 92), (47, 47), (98, 8), (102, 12), (110, 10), (114, 13), (116, 9)]

/-- What may stand between two quotes, and the bytes it denotes. -/
inductive Characters : Bytes → Bytes → Prop where
  | nil : Characters [] []
  | plain {ch : UInt8} {text value : Bytes} (not_quote : ch ≠ 34) (not_backslash : ch ≠ 92)
      (rest : Characters text value) : Characters (ch :: text) (ch :: value)
  | escape {escaped ch : UInt8} {text value : Bytes} (known : (escaped, ch) ∈ escapes)
      (rest : Characters text value) : Characters (92 :: escaped :: text) (ch :: value)

inductive StringText : Bytes → Bytes → Prop where
  | quoted {text value : Bytes} (inside : Characters text value) :
      StringText (34 :: (text ++ [34])) value

/-- A key, a colon and a value, with spaces before each. -/
inductive PairText : Bytes → Bytes × Bytes → Prop where
  | pair {before key behindKey behindColon value : Bytes} {entry : Bytes × Bytes}
      (spaces : Spaces before) (keyText : StringText key entry.1) (spacesKey : Spaces behindKey)
      (spacesColon : Spaces behindColon) (valueText : StringText value entry.2) :
      PairText (before ++ key ++ behindKey ++ 58 :: (behindColon ++ value)) entry

/-- One pair or more, with commas between them. -/
inductive MembersText : Bytes → List (Bytes × Bytes) → Prop where
  | last {text after : Bytes} {pair : Bytes × Bytes} (one : PairText text pair)
      (spaces : Spaces after) : MembersText (text ++ after) [pair]
  | cons {text after texts : Bytes} {pair : Bytes × Bytes} {pairs : List (Bytes × Bytes)}
      (one : PairText text pair) (spaces : Spaces after) (more : MembersText texts pairs) :
      MembersText (text ++ after ++ 44 :: texts) (pair :: pairs)

inductive ObjectText : Bytes → List (Bytes × Bytes) → Prop where
  | empty {before inside after : Bytes} (spaces : Spaces before) (spacesInside : Spaces inside)
      (spacesAfter : Spaces after) : ObjectText (before ++ 123 :: (inside ++ 125 :: after)) []
  | members {before text after : Bytes} {pairs : List (Bytes × Bytes)} (spaces : Spaces before)
      (inside : MembersText text pairs) (spacesAfter : Spaces after) :
      ObjectText (before ++ 123 :: (text ++ 125 :: after)) pairs

/-! ### Spaces -/

theorem spaces_nil : Spaces [] := by
  intro b hb
  cases hb

theorem skipSpaces_append {spaces : Bytes} (h : Spaces spaces) (input : Bytes) :
    skipSpaces (spaces ++ input) = skipSpaces input :=
  List.dropWhile_append_of_pos h

theorem skipSpaces_cons {byte : UInt8} (h : isspace byte = false) (input : Bytes) :
    skipSpaces (byte :: input) = byte :: input := by
  rw [skipSpaces, List.dropWhile_cons_of_neg (by rw [h]; decide)]

theorem exists_spaces (input : Bytes) :
    ∃ spaces, Spaces spaces ∧ input = spaces ++ skipSpaces input := by
  refine ⟨input.takeWhile isspace, ?_, List.takeWhile_append_dropWhile.symm⟩
  intro b hb
  exact List.mem_takeWhile_imp hb

theorem skipSpaces_eq_nil {input : Bytes} : skipSpaces input = [] ↔ Spaces input :=
  List.dropWhile_eq_nil_iff

theorem skipSpaces_idem (input : Bytes) : skipSpaces (skipSpaces input) = skipSpaces input := by
  obtain ⟨spaces, hspaces, hinput⟩ := exists_spaces input
  conv_rhs => rw [hinput, skipSpaces_append hspaces]

/-- A byte other than a space is found behind spaces. -/
theorem skipSpaces_eq_cons {byte : UInt8} {input rest : Bytes} (h : isspace byte = false) :
    skipSpaces input = byte :: rest ↔
      ∃ spaces, Spaces spaces ∧ input = spaces ++ byte :: rest := by
  constructor
  · intro hskip
    obtain ⟨spaces, hspaces, hinput⟩ := exists_spaces input
    rw [hskip] at hinput
    exact ⟨spaces, hspaces, hinput⟩
  · rintro ⟨spaces, hspaces, rfl⟩
    rw [skipSpaces_append hspaces, skipSpaces_cons h]

/-! ### Strings -/

theorem unescape_eq_some {escaped ch : UInt8} :
    unescape escaped = some ch ↔ (escaped, ch) ∈ escapes := by
  unfold unescape
  constructor
  · intro h
    split at h
    · rename_i hself
      cases h
      rcases hself with rfl | rfl | rfl <;> decide
    · repeat' split at h
      all_goals cases h
      all_goals subst_vars; decide
  · intro h
    simp only [escapes, List.mem_cons, Prod.mk.injEq, List.not_mem_nil, or_false] at h
    rcases h with h | h | h | h | h | h | h | h <;> obtain ⟨rfl, rfl⟩ := h <;> rfl

theorem parseCharacters_quote (output input : Bytes) :
    parseCharacters output (34 :: input) = some (output, input) := by
  rw [parseCharacters.eq_def]
  exact if_pos rfl

theorem parseCharacters_plain {ch : UInt8} (hquote : ch ≠ 34) (hslash : ch ≠ 92)
    (output input : Bytes) :
    parseCharacters output (ch :: input) = parseCharacters (output ++ [ch]) input := by
  rw [parseCharacters.eq_def]
  dsimp only
  rw [if_neg hquote, if_pos hslash]

theorem parseCharacters_escape {escaped ch : UInt8} (h : (escaped, ch) ∈ escapes)
    (output input : Bytes) :
    parseCharacters output (92 :: escaped :: input) = parseCharacters (output ++ [ch]) input := by
  rw [parseCharacters.eq_def]
  dsimp only
  rw [if_neg (by decide), if_neg (by decide), unescape_eq_some.mpr h]

theorem parseCharacters_eq_some {output input value rest : Bytes} :
    parseCharacters output input = some (value, rest) ↔
      ∃ text decoded, Characters text decoded ∧ input = text ++ 34 :: rest ∧
        value = output ++ decoded := by
  constructor
  · intro h
    fun_induction parseCharacters output input with
    | case1 => cases h
    | case2 output input =>
        cases h
        exact ⟨[], [], .nil, rfl, (List.append_nil _).symm⟩
    | case3 output ch input hquote hslash ih =>
        obtain ⟨text, decoded, htext, rfl, rfl⟩ := ih h
        exact ⟨ch :: text, ch :: decoded, .plain hquote hslash htext, rfl, by simp⟩
    | case4 => cases h
    | case5 output ch hquote hslash escaped input ch' hescape ih =>
        obtain ⟨text, decoded, htext, rfl, rfl⟩ := ih h
        obtain rfl : ch = 92 := not_not.mp hslash
        exact ⟨92 :: escaped :: text, ch' :: decoded,
          .escape (unescape_eq_some.mp hescape) htext, rfl, by simp⟩
    | case6 => cases h
  · rintro ⟨text, decoded, htext, rfl, rfl⟩
    induction htext generalizing output with
    | nil =>
        rw [List.nil_append, parseCharacters_quote, List.append_nil]
    | plain hquote hslash _ ih =>
        rw [List.cons_append, parseCharacters_plain hquote hslash, ih, List.append_assoc]
        rfl
    | escape known _ ih =>
        rw [List.cons_append, List.cons_append, parseCharacters_escape known, ih,
          List.append_assoc]
        rfl

/-- A string is read up to the quote that closes it, whatever stands behind. -/
theorem parseString_eq_some {input value rest : Bytes} :
    parseString input = some (value, rest) ↔
      ∃ text, StringText text value ∧ input = text ++ rest := by
  cases input with
  | nil =>
      constructor
      · intro h
        cases h
      · rintro ⟨text, ⟨_⟩, h⟩
        cases h
  | cons ch input =>
      rw [parseString]
      split
      · rename_i hch
        constructor
        · intro h
          cases h
        · rintro ⟨text, ⟨_⟩, h⟩
          cases h
          exact absurd rfl hch
      · rename_i hch
        obtain rfl : ch = 34 := not_not.mp hch
        rw [parseCharacters_eq_some]
        constructor
        · rintro ⟨text, decoded, htext, rfl, rfl⟩
          exact ⟨_, .quoted htext, by simp⟩
        · rintro ⟨text, ⟨htext⟩, h⟩
          rw [List.cons_append, List.append_assoc] at h
          exact ⟨_, value, htext, (List.cons.inj h).2, rfl⟩

theorem skipSpaces_string {text value : Bytes} (h : StringText text value) (rest : Bytes) :
    skipSpaces (text ++ rest) = text ++ rest := by
  cases h with
  | quoted => exact skipSpaces_cons (by decide) _

/-- A string behind spaces. -/
theorem parseString_skipSpaces {input value rest : Bytes} :
    parseString (skipSpaces input) = some (value, rest) ↔
      ∃ spaces text, Spaces spaces ∧ StringText text value ∧ input = spaces ++ text ++ rest := by
  rw [parseString_eq_some]
  constructor
  · rintro ⟨text, htext, hskip⟩
    obtain ⟨spaces, hspaces, hinput⟩ := exists_spaces input
    rw [hskip, ← List.append_assoc] at hinput
    exact ⟨spaces, text, hspaces, htext, hinput⟩
  · rintro ⟨spaces, text, hspaces, htext, rfl⟩
    rw [List.append_assoc, skipSpaces_append hspaces]
    exact ⟨text, htext, skipSpaces_string htext rest⟩

/-! ### Pairs -/

theorem parsePair_iff {input rest : Bytes} {pair : Bytes × Bytes} :
    parsePair input = some (pair, rest) ↔ ∃ text, PairText text pair ∧ input = text ++ rest := by
  simp only [parsePair_eq_some, parseString_skipSpaces,
    skipSpaces_eq_cons (show isspace 58 = false by decide)]
  constructor
  · rintro ⟨_, _, ⟨before, key, hbefore, hkey, rfl⟩, ⟨behindKey, hbehindKey, rfl⟩,
      behindColon, value, hbehindColon, hvalue, rfl⟩
    exact ⟨_, .pair hbefore hkey hbehindKey hbehindColon hvalue, by simp⟩
  · rintro ⟨_, ⟨hbefore, hkey, hbehindKey, hbehindColon, hvalue⟩, rfl⟩
    exact ⟨_, _, ⟨_, _, hbefore, hkey, by simp⟩, ⟨_, hbehindKey, rfl⟩, _, _, hbehindColon,
      hvalue, rfl⟩

/-- The object of a list of pairs: they are assigned one after the other. -/
def objectOf (pairs : List (Bytes × Bytes)) : JsonObject :=
  pairs.foldl JsonObject.assign .empty

theorem parseEnd_eq_some {object result : JsonObject} {input : Bytes} :
    parseEnd object input = some result ↔ Spaces input ∧ result = object := by
  unfold parseEnd
  by_cases hspaces : skipSpaces input = []
  · rw [if_pos hspaces, Option.some.injEq, eq_comm]
    exact (and_iff_right (skipSpaces_eq_nil.mp hspaces)).symm
  · rw [if_neg hspaces]
    constructor
    · intro h
      cases h
    · rintro ⟨h, -⟩
      exact absurd (skipSpaces_eq_nil.mpr h) hspaces

theorem parsePairs_of_none {object : JsonObject} {input : Bytes} (hpair : parsePair input = none) :
    parsePairs object input = none := by
  rw [parsePairs]
  split
  · rfl
  · split
    · rfl
    · rename_i hsome
      rw [hpair] at hsome
      cases hsome

/-- The loop goes on behind a pair. -/
theorem parsePairs_of_pair {object : JsonObject} {input rest : Bytes} {pair : Bytes × Bytes}
    (hpair : parsePair input = some (pair, rest)) :
    parsePairs object input =
      match skipSpaces rest with
      | [] => none
      | ch :: after =>
          if ch = 125 then parseEnd (object.assign pair) after
          else if ch ≠ 44 then none
          else parsePairs (object.assign pair) after := by
  have hne : input ≠ [] := by
    rintro rfl
    cases hpair
  rw [parsePairs, if_neg hne]
  split
  · rename_i hnone
    rw [hpair] at hnone
    cases hnone
  · rename_i hsome
    rw [hpair] at hsome
    cases hsome
    split
    · rename_i hrest
      rw [hrest]
    · rename_i hrest
      rw [hrest]

/-- One turn of the loop: a pair, and behind it the end of the object or a comma. -/
theorem parsePairs_step {object result : JsonObject} {input : Bytes} :
    parsePairs object input = some result ↔
      ∃ pair rest, parsePair input = some (pair, rest) ∧
        ((∃ after, skipSpaces rest = 125 :: after ∧ Spaces after ∧
            result = object.assign pair) ∨
          ∃ more, skipSpaces rest = 44 :: more ∧
            parsePairs (object.assign pair) more = some result) := by
  constructor
  · intro h
    cases hpair : parsePair input with
    | none =>
        rw [parsePairs_of_none hpair] at h
        cases h
    | some found =>
        obtain ⟨pair, rest⟩ := found
        rw [parsePairs_of_pair hpair] at h
        refine ⟨pair, rest, rfl, ?_⟩
        cases hrest : skipSpaces rest with
        | nil =>
            rw [hrest] at h
            cases h
        | cons ch after =>
            rw [hrest] at h
            dsimp only at h
            split_ifs at h with hend hcomma
            · subst hend
              obtain ⟨hafter, rfl⟩ := parseEnd_eq_some.mp h
              exact .inl ⟨after, rfl, hafter, rfl⟩
            · obtain rfl : ch = 44 := not_not.mp hcomma
              exact .inr ⟨after, rfl, h⟩
  · rintro ⟨pair, rest, hpair, htail⟩
    rw [parsePairs_of_pair hpair]
    rcases htail with ⟨after, hskip, hafter, rfl⟩ | ⟨more, hskip, hmore⟩
    · rw [hskip]
      exact (if_pos rfl).trans (parseEnd_eq_some.mpr ⟨hafter, rfl⟩)
    · rw [hskip]
      exact hmore

theorem parsePairs_eq_some {object result : JsonObject} {input : Bytes} :
    parsePairs object input = some result ↔
      ∃ text pairs after, MembersText text pairs ∧ Spaces after ∧
        input = text ++ 125 :: after ∧ result = pairs.foldl JsonObject.assign object := by
  constructor
  · intro h
    induction hn : input.length using Nat.strongRecOn generalizing object input with
    | ind n ih =>
        subst hn
        obtain ⟨pair, rest, hpair, htail⟩ := parsePairs_step.mp h
        have hlt := parsePair_length hpair
        obtain ⟨text, htext, rfl⟩ := parsePair_iff.mp hpair
        rcases htail with ⟨after, hskip, hafter, rfl⟩ | ⟨more, hskip, hmore⟩
        · obtain ⟨spaces, hspaces, rfl⟩ := (skipSpaces_eq_cons (by decide)).mp hskip
          exact ⟨_, [pair], after, .last htext hspaces, hafter, by simp, rfl⟩
        · obtain ⟨spaces, hspaces, rfl⟩ := (skipSpaces_eq_cons (by decide)).mp hskip
          have hshorter : more.length < (text ++ (spaces ++ 44 :: more)).length := by
            simp only [List.length_append, List.length_cons]
            omega
          obtain ⟨texts, pairs, after, htexts, hafter, rfl, rfl⟩ := ih _ hshorter hmore rfl
          exact ⟨_, pair :: pairs, after, .cons htext hspaces htexts, hafter, by simp, rfl⟩
  · rintro ⟨text, pairs, after, htext, hafter, rfl, rfl⟩
    induction htext generalizing object with
    | @last text spaces pair one hspaces =>
        refine parsePairs_step.mpr ⟨pair, spaces ++ 125 :: after,
          parsePair_iff.mpr ⟨text, one, by simp⟩, .inl ⟨after, ?_, hafter, rfl⟩⟩
        exact (skipSpaces_eq_cons (by decide)).mpr ⟨spaces, hspaces, rfl⟩
    | @cons text spaces texts pair pairs one hspaces more ih =>
        refine parsePairs_step.mpr ⟨pair, spaces ++ 44 :: (texts ++ 125 :: after),
          parsePair_iff.mpr ⟨text, one, by simp⟩, .inr ⟨texts ++ 125 :: after, ?_, ih⟩⟩
        exact (skipSpaces_eq_cons (by decide)).mpr ⟨spaces, hspaces, rfl⟩

/-- Spaces in front of a pair make no difference. -/
theorem parsePairs_skipSpaces (object : JsonObject) (input : Bytes) :
    parsePairs object (skipSpaces input) = parsePairs object input := by
  apply Option.ext
  intro result
  rw [parsePairs_step, parsePairs_step, parsePair, parsePair, skipSpaces_idem]

/-! ### Objects -/

theorem parseJsonObject_of_text {input : Bytes} {pairs : List (Bytes × Bytes)}
    (h : ObjectText input pairs) : parseJsonObject input = some (objectOf pairs) := by
  cases h with
  | @empty before inside after spaces spacesInside spacesAfter =>
      have hopen : skipSpaces (before ++ 123 :: (inside ++ 125 :: after)) =
          123 :: (inside ++ 125 :: after) :=
        (skipSpaces_eq_cons (by decide)).mpr ⟨before, spaces, rfl⟩
      have hclose : skipSpaces (inside ++ 125 :: after) = 125 :: after :=
        (skipSpaces_eq_cons (by decide)).mpr ⟨inside, spacesInside, rfl⟩
      rw [parseJsonObject, expect_eq_some.mpr hopen]
      dsimp only [Option.bind_eq_bind, Option.bind_some]
      rw [hclose]
      exact parseEnd_eq_some.mpr ⟨spacesAfter, rfl⟩
  | @members before text after _ spaces inside spacesAfter =>
      have hopen : skipSpaces (before ++ 123 :: (text ++ 125 :: after)) =
          123 :: (text ++ 125 :: after) :=
        (skipSpaces_eq_cons (by decide)).mpr ⟨before, spaces, rfl⟩
      have hpairs : parsePairs .empty (skipSpaces (text ++ 125 :: after)) =
          some (objectOf pairs) := by
        rw [parsePairs_skipSpaces]
        exact parsePairs_eq_some.mpr ⟨text, pairs, after, inside, spacesAfter, rfl, rfl⟩
      rw [parseJsonObject, expect_eq_some.mpr hopen]
      dsimp only [Option.bind_eq_bind, Option.bind_some]
      -- a pair starts with a quote, so the early exit for `{}` is not taken
      cases hskip : skipSpaces (text ++ 125 :: after) with
      | nil => rwa [hskip] at hpairs
      | cons ch rest =>
          rw [hskip] at hpairs
          have hch : ch ≠ 125 := by
            rintro rfl
            obtain ⟨_, _, hpair, -⟩ := parsePairs_step.mp hpairs
            cases hpair
          exact (if_neg hch).trans hpairs

theorem text_of_parseJsonObject {input : Bytes} {object : JsonObject}
    (h : parseJsonObject input = some object) :
    ∃ pairs, ObjectText input pairs ∧ object = objectOf pairs := by
  rw [parseJsonObject, Option.bind_eq_bind, Option.bind_eq_some_iff] at h
  obtain ⟨inside, hopen, hinside⟩ := h
  rw [expect_eq_some, skipSpaces_eq_cons (by decide)] at hopen
  obtain ⟨before, hbefore, rfl⟩ := hopen
  cases hskip : skipSpaces inside with
  | nil =>
      rw [hskip] at hinside
      obtain ⟨_, _, hpair, -⟩ := parsePairs_step.mp hinside
      cases hpair
  | cons ch rest =>
      rw [hskip] at hinside
      dsimp only at hinside
      split at hinside
      · rename_i hch
        subst hch
        obtain ⟨hrest, rfl⟩ := parseEnd_eq_some.mp hinside
        obtain ⟨spaces, hspaces, rfl⟩ := (skipSpaces_eq_cons (by decide)).mp hskip
        exact ⟨[], .empty hbefore hspaces hrest, rfl⟩
      · rw [← hskip, parsePairs_skipSpaces] at hinside
        obtain ⟨text, pairs, after, htext, hafter, rfl, rfl⟩ := parsePairs_eq_some.mp hinside
        exact ⟨pairs, .members hbefore htext hafter, rfl⟩

theorem parseJsonObject_eq_some {input : Bytes} {object : JsonObject} :
    parseJsonObject input = some object ↔
      ∃ pairs, ObjectText input pairs ∧ object = objectOf pairs := by
  constructor
  · exact text_of_parseJsonObject
  · rintro ⟨pairs, htext, rfl⟩
    exact parseJsonObject_of_text htext

/-- The value of the last pair with a key. -/
def lastValue (key : Bytes) (pairs : List (Bytes × Bytes)) : Option Bytes :=
  pairs.reverse.lookup key

theorem lastValue_concat (key : Bytes) (pairs : List (Bytes × Bytes)) (pair : Bytes × Bytes) :
    lastValue key (pairs ++ [pair]) =
      if key = pair.1 then some pair.2 else lastValue key pairs := by
  obtain ⟨key', value⟩ := pair
  rw [lastValue, List.reverse_append, List.reverse_singleton, List.singleton_append,
    List.lookup_cons]
  by_cases hkey : key = key'
  · rw [if_pos hkey, beq_iff_eq.mpr hkey]
  · rw [if_neg hkey, beq_eq_false_iff_ne.mpr hkey]
    rfl

theorem getString_objectOf (pairs : List (Bytes × Bytes)) (key : Bytes) :
    (objectOf pairs).getString key = lastValue key pairs := by
  induction pairs using List.reverseRecOn with
  | nil => rfl
  | append_singleton pairs pair ih =>
      rw [lastValue_concat, ← ih, objectOf, List.foldl_append]
      exact Function.update_apply _ _ _ _

theorem isSome_lastValue (key : Bytes) (pairs : List (Bytes × Bytes)) :
    (lastValue key pairs).isSome = true ↔ key ∈ pairs.map Prod.fst := by
  induction pairs using List.reverseRecOn with
  | nil => simp [lastValue]
  | append_singleton pairs pair ih =>
      rw [lastValue_concat, List.map_append, List.mem_append, ← ih]
      by_cases hkey : key = pair.1
      · simp [hkey]
      · simp [hkey]

theorem contains_objectOf (pairs : List (Bytes × Bytes)) (key : Bytes) :
    (objectOf pairs).contains key = true ↔ key ∈ pairs.map Prod.fst := by
  rw [← isSome_lastValue, ← getString_objectOf]
  rfl

/-- **The grammar of requests.** An object is returned exactly for the texts of the grammar.
It maps each key that the text denotes to the last value of that key, and has no other key. -/
theorem parseJsonObject_eq_some_iff (input : Bytes) (object : JsonObject) :
    parseJsonObject input = some object ↔
      ∃ pairs, ObjectText input pairs ∧
        (∀ key, object.getString key = lastValue key pairs) ∧
        ∀ key, object.contains key = true ↔ key ∈ pairs.map Prod.fst := by
  rw [parseJsonObject_eq_some]
  constructor
  · rintro ⟨pairs, htext, rfl⟩
    exact ⟨pairs, htext, getString_objectOf pairs, contains_objectOf pairs⟩
  · rintro ⟨pairs, htext, hget, -⟩
    refine ⟨pairs, htext, JsonObject.ext (funext fun key => ?_)⟩
    exact (hget key).trans (getString_objectOf pairs key).symm

example : (parseJsonObject (ascii " \x7b\"a\" : \"b\" ,\"a\":\"\\n\"\x7d ")).bind
    (·.getString (ascii "a")) = some [10] := by
  decide +kernel

example : (parseJsonObject (ascii "\x7b\"a\":\"b\",\x7d")).isNone = true := by
  decide +kernel

end Rmuduo.Api
