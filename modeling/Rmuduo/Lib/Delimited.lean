/-
Self-delimiting decoders.

A decoder looks at the front of its input, and says which value stands there and how many
symbols it takes. It is self-delimiting if these symbols alone decide: the value is the same
whatever stands behind them, and a cut of them is no value.

* `Frames` — an input cut into the parts that a decoder takes one after the other.
* `Frames.append`, `Frames.of_append` — the values of two inputs in a row are those of the
  first and then those of the second.
-/

import Mathlib.Data.List.Basic
import Mathlib.Tactic.Common

namespace Rmuduo.Lib

variable {α ε β : Type}

structure SelfDelimiting (decode : List α → Except ε (β × Nat)) : Prop where
  used_le : ∀ {data value used}, decode data = .ok (value, used) → used ≤ data.length
  append : ∀ {data value used}, decode data = .ok (value, used) → 0 < used →
    ∀ suffix, decode (data.take used ++ suffix) = .ok (value, used)
  cut : ∀ {data value used}, decode data = .ok (value, used) →
    ∀ {n}, 0 < n → n < used → ∃ e, decode (data.take n) = .error e

/-- The values that a decoder finds, if they take the whole input. -/
inductive Frames (decode : List α → Except ε (β × Nat)) : List α → List β → Prop where
  | nil : Frames decode [] []
  | cons {data : List α} {value : β} {used : Nat} {values : List β}
      (first : decode data = .ok (value, used)) (some_used : 0 < used)
      (rest : Frames decode (data.drop used) values) : Frames decode data (value :: values)

section Frames

variable {decode : List α → Except ε (β × Nat)} {a b data : List α} {va vb all : List β}

/-- A value is found whatever follows the data. -/
theorem SelfDelimiting.more (h : SelfDelimiting decode) {value : β} {used : Nat}
    (first : decode data = .ok (value, used)) (some_used : 0 < used) (suffix : List α) :
    decode (data ++ suffix) = .ok (value, used) := by
  have hmore := h.append first some_used (data.drop used ++ suffix)
  rwa [← List.append_assoc, List.take_append_drop] at hmore

theorem Frames.append (h : SelfDelimiting decode) (ha : Frames decode a va)
    (hb : Frames decode b vb) : Frames decode (a ++ b) (va ++ vb) := by
  induction ha with
  | nil => exact hb
  | cons first some_used rest ih =>
      refine .cons (h.more first some_used b) some_used ?_
      rw [List.drop_append_of_le_length (h.used_le first)]
      exact ih

theorem Frames.of_append (h : SelfDelimiting decode) (ha : Frames decode a va)
    (hall : Frames decode (a ++ b) all) : ∃ vb, Frames decode b vb ∧ all = va ++ vb := by
  induction ha generalizing all with
  | nil => exact ⟨all, hall, rfl⟩
  | @cons data value used values first some_used rest ih =>
      have hmore := h.more first some_used b
      have hlen := h.used_le first
      generalize hdata : data ++ b = whole at hall hmore
      cases hall with
      | nil =>
          have hnil : data.length = 0 := by
            rw [(List.append_eq_nil_iff.mp hdata).1]
            rfl
          omega
      | cons first' _ rest' =>
          rw [hmore] at first'
          cases first'
          rw [← hdata, List.drop_append_of_le_length hlen] at rest'
          obtain ⟨vb, hvb, rfl⟩ := ih rest'
          exact ⟨vb, hvb, rfl⟩

end Frames

end Rmuduo.Lib
