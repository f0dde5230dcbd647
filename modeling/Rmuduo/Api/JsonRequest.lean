/-
JSON requests (`api/JsonRequest.cc`).

A position in the text is the text from there on: `input[pos]` is the first byte and `++pos`
takes it off, so what a parser returns as the rest is where its position ends up. The bytes
with a meaning of their own are 34 `"`, 92 `\`, 58 `:`, 44 `,`, 123 `{` and 125 `}`.

* `parseString_length`, `parsePair_length` — a token takes some of the text, which is why
  `parsePairs` ends.
-/

import Mathlib.Logic.Function.Basic
import Rmuduo.Lib.Text

namespace Rmuduo.Api

open Lib

/-! ### Objects -/

/-- An object of strings. -/
@[ext] structure JsonObject where
  strings : Bytes → Option Bytes

namespace JsonObject

def empty : JsonObject := ⟨fun _ => none⟩

def contains (object : JsonObject) (key : Bytes) : Bool :=
  (object.strings key).isSome

def getString (object : JsonObject) (key : Bytes) : Option Bytes :=
  object.strings key

/-- `strings_[key] = value`. -/
def assign (object : JsonObject) (entry : Bytes × Bytes) : JsonObject :=
  ⟨Function.update object.strings entry.1 (some entry.2)⟩

end JsonObject

/-! ### Tokens -/

def skipSpaces (input : Bytes) : Bytes :=
  input.dropWhile isspace

/-- The `switch` of `parseString`: what an escaped byte stands for. -/
def unescape (escaped : UInt8) : Option UInt8 :=
  if escaped = 34 ∨ escaped = 92 ∨ escaped = 47 then some escaped
  else if escaped = 98 then some 8
  else if escaped = 102 then some 12
  else if escaped = 110 then some 10
  else if escaped = 114 then some 13
  else if escaped = 116 then some 9
  else none

/-- The loop of `parseString`, behind the opening quote. -/
def parseCharacters (output : Bytes) : Bytes → Option (Bytes × Bytes)
  | [] => none
  | ch :: input =>
      if ch = 34 then some (output, input)
      else if ch ≠ 92 then parseCharacters (output ++ [ch]) input
      else match input with
        | [] => none
        | escaped :: input =>
            match unescape escaped with
            | some ch => parseCharacters (output ++ [ch]) input
            | none => none

def parseString : Bytes → Option (Bytes × Bytes)
  | [] => none
  | ch :: input => if ch ≠ 34 then none else parseCharacters [] input

/-- The byte at the position, if it is the one that has to stand there. -/
def expect (byte : UInt8) : Bytes → Option Bytes
  | [] => none
  | ch :: input => if ch ≠ byte then none else some input

/-! ### Objects in a text -/

/-- A key, a colon and a value, up to the assignment in the loop of `parseJsonObject`. -/
def parsePair (input : Bytes) : Option ((Bytes × Bytes) × Bytes) := do
  let (key, input) ← parseString (skipSpaces input)
  let input ← expect 58 (skipSpaces input)
  let (value, input) ← parseString (skipSpaces input)
  return ((key, value), input)

/-- Behind the closing brace there may only be spaces. -/
def parseEnd (object : JsonObject) (input : Bytes) : Option JsonObject :=
  if skipSpaces input = [] then some object else none

section Length

theorem length_skipSpaces (input : Bytes) : (skipSpaces input).length ≤ input.length :=
  (List.dropWhile_sublist isspace).length_le

theorem parseCharacters_length {output input value rest : Bytes}
    (h : parseCharacters output input = some (value, rest)) : rest.length < input.length := by
  fun_induction parseCharacters output input with
  | case1 => cases h
  | case2 output input =>
      cases h
      exact Nat.lt_succ_self _
  | case3 output ch input hquote hslash ih => exact Nat.lt_succ_of_lt (ih h)
  | case4 => cases h
  | case5 output ch hquote hslash escaped input ch' hescape ih =>
      have hlt := ih h
      simp only [List.length_cons]
      omega
  | case6 => cases h

theorem parseString_length {input value rest : Bytes}
    (h : parseString input = some (value, rest)) : rest.length < input.length := by
  cases input with
  | nil => cases h
  | cons ch input =>
      rw [parseString] at h
      split at h
      · cases h
      · exact Nat.lt_succ_of_lt (parseCharacters_length h)

theorem expect_eq_some {byte : UInt8} {input rest : Bytes} :
    expect byte input = some rest ↔ input = byte :: rest := by
  cases input with
  | nil => simp [expect]
  | cons ch input =>
      rw [expect]
      by_cases hch : ch = byte
      · simp [hch]
      · simp [hch]

/-- A pair is a string, a colon and a string, each behind spaces. -/
theorem parsePair_eq_some {input rest : Bytes} {pair : Bytes × Bytes} :
    parsePair input = some (pair, rest) ↔
      ∃ behindKey behindColon, parseString (skipSpaces input) = some (pair.1, behindKey) ∧
        skipSpaces behindKey = 58 :: behindColon ∧
        parseString (skipSpaces behindColon) = some (pair.2, rest) := by
  obtain ⟨key, value⟩ := pair
  simp only [parsePair, Option.bind_eq_bind, Option.pure_def, Option.bind_eq_some_iff,
    expect_eq_some, Option.some.injEq, Prod.mk.injEq, Prod.exists]
  constructor
  · rintro ⟨key', behindKey, hkey, behindColon, hcolon, value', rest', hvalue, ⟨rfl, rfl⟩, rfl⟩
    exact ⟨behindKey, behindColon, hkey, hcolon, hvalue⟩
  · rintro ⟨behindKey, behindColon, hkey, hcolon, hvalue⟩
    exact ⟨key, behindKey, hkey, behindColon, hcolon, value, rest, hvalue, ⟨rfl, rfl⟩, rfl⟩

theorem parsePair_length {input rest : Bytes} {pair : Bytes × Bytes}
    (h : parsePair input = some (pair, rest)) : rest.length < input.length := by
  obtain ⟨behindKey, behindColon, hkey, hcolon, hvalue⟩ := parsePair_eq_some.mp h
  have hkeyLt := parseString_length hkey
  have hvalueLt := parseString_length hvalue
  have hcolonLe := length_skipSpaces behindKey
  rw [hcolon, List.length_cons] at hcolonLe
  have hinput := length_skipSpaces input
  have hbehind := length_skipSpaces behindColon
  omega

end Length

/-- The `while` loop of `parseJsonObject`. -/
def parsePairs (object : JsonObject) (input : Bytes) : Option JsonObject :=
  if input = [] then none
  else
    match _h : parsePair input with
    | none => none
    | some (pair, input') =>
        match _hrest : skipSpaces input' with
        | [] => none
        | ch :: rest =>
            if ch = 125 then parseEnd (object.assign pair) rest
            else if ch ≠ 44 then none
            else parsePairs (object.assign pair) rest
termination_by input.length
decreasing_by
  have hpair := parsePair_length ‹_›
  have hspaces := length_skipSpaces input'
  rw [_hrest, List.length_cons] at hspaces
  omega

def parseJsonObject (input : Bytes) : Option JsonObject := do
  let input ← expect 123 (skipSpaces input)
  match skipSpaces input with
  | [] => parsePairs .empty []
  | ch :: rest =>
      if ch = 125 then parseEnd .empty rest
      else parsePairs .empty (ch :: rest)

end Rmuduo.Api
