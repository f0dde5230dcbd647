/-
Readers of segmented input.

A `Reader` looks at the front of the unread input and reports one of three
things: more input is needed, the input is malformed, or an item of `n` symbols
is complete. What makes it incremental is a single law: a verdict other than
`more` does not change when further input arrives behind it (`item_append`,
`fail_append`).

* `Reader.drain` reads items until it needs more input or fails.
* `Reader.adjust` — the reader whose state changes with every item that it reads.
* `Reader.drain_append` — draining a concatenation is draining its first part and
  going on from what that left.
* `Reader.drain_flatMap`, `Reader.drain_part` — messages in a row, and a part of an input.
* `Reader.drain_invariant` — what every item preserves holds at the end; `drain_trace` and
  `drain_prefix` say the same of the input taken and of the input still to come.
-/

import Mathlib.Data.List.Basic
import Mathlib.Tactic.Common

namespace Rmuduo.Lib

/-- What a reader finds at the front of the unread input: `item n s w` is an item
`w` that takes the first `n` symbols and leaves the reader in state `s`. -/
inductive Reading (σ ε ω : Type) where
  | more
  | fail (error : ε)
  | item (used : Nat) (next : σ) (out : ω)
deriving DecidableEq

/-- A reader over input symbols `α`. -/
structure Reader (α σ ε ω : Type) where
  read : σ → List α → Reading σ ε ω
  /-- With no input there is nothing to decide. -/
  read_nil : ∀ s, read s [] = .more
  /-- An item takes some of the input and no more than there is. -/
  item_used : ∀ {s xs n s' w}, read s xs = .item n s' w → 0 < n ∧ n ≤ xs.length
  item_append : ∀ {s xs n s' w}, read s xs = .item n s' w →
    ∀ ys, read s (xs ++ ys) = .item n s' w
  fail_append : ∀ {s xs e}, read s xs = .fail e → ∀ ys, read s (xs ++ ys) = .fail e

/-- Where a reader stops: its state, the unread input, the items it read and, if
the input is malformed, the error. -/
structure Drained (α σ ε ω : Type) where
  state : σ
  rest : List α
  items : List ω
  error : Option ε

variable {α σ ε ω : Type}

/-- The same stop, with earlier items in front. -/
def Drained.prepend (ws : List ω) (d : Drained α σ ε ω) : Drained α σ ε ω :=
  { d with items := ws ++ d.items }

@[simp] theorem Drained.prepend_state (ws : List ω) (d : Drained α σ ε ω) :
    (d.prepend ws).state = d.state := rfl

@[simp] theorem Drained.prepend_rest (ws : List ω) (d : Drained α σ ε ω) :
    (d.prepend ws).rest = d.rest := rfl

@[simp] theorem Drained.prepend_items (ws : List ω) (d : Drained α σ ε ω) :
    (d.prepend ws).items = ws ++ d.items := rfl

@[simp] theorem Drained.prepend_error (ws : List ω) (d : Drained α σ ε ω) :
    (d.prepend ws).error = d.error := rfl

@[simp] theorem Drained.prepend_nil (d : Drained α σ ε ω) : d.prepend [] = d := rfl

theorem Drained.prepend_prepend (vs ws : List ω) (d : Drained α σ ε ω) :
    (d.prepend ws).prepend vs = d.prepend (vs ++ ws) := by
  simp [Drained.prepend, List.append_assoc]

namespace Reader

variable (R : Reader α σ ε ω)

/-- Read items from the front until more input is needed or the input is
malformed. -/
def drain (s : σ) (xs : List α) : Drained α σ ε ω :=
  match _h : R.read s xs with
  | .more => ⟨s, xs, [], none⟩
  | .fail e => ⟨s, xs, [], some e⟩
  | .item n s' w => (drain s' (xs.drop n)).prepend [w]
termination_by xs.length
decreasing_by
  have used := R.item_used ‹_›
  rw [List.length_drop]
  omega

variable {R}

theorem drain_of_more {s : σ} {xs : List α} (h : R.read s xs = .more) :
    R.drain s xs = ⟨s, xs, [], none⟩ := by
  rw [drain]
  split <;> simp_all

theorem drain_of_fail {s : σ} {xs : List α} {e : ε} (h : R.read s xs = .fail e) :
    R.drain s xs = ⟨s, xs, [], some e⟩ := by
  rw [drain]
  split <;> simp_all

theorem drain_of_item {s s' : σ} {xs : List α} {n : Nat} {w : ω}
    (h : R.read s xs = .item n s' w) :
    R.drain s xs = (R.drain s' (xs.drop n)).prepend [w] := by
  rw [drain]
  split <;> simp_all

@[simp] theorem drain_nil (s : σ) : R.drain s [] = ⟨s, [], [], none⟩ :=
  drain_of_more (R.read_nil s)

/-- Induction along the items a reader finds. -/
theorem drain_induction {P : σ → List α → Prop}
    (more : ∀ s xs, R.read s xs = .more → P s xs)
    (fail : ∀ s xs e, R.read s xs = .fail e → P s xs)
    (item : ∀ s xs n s' w, R.read s xs = .item n s' w → P s' (xs.drop n) → P s xs)
    (s : σ) (xs : List α) : P s xs := by
  induction hn : xs.length using Nat.strongRecOn generalizing s xs with
  | ind k ih =>
      subst hn
      cases h : R.read s xs with
      | more => exact more s xs h
      | fail e => exact fail s xs e h
      | item n s' w =>
          have used := R.item_used h
          refine item s xs n s' w h (ih _ ?_ s' (xs.drop n) rfl)
          rw [List.length_drop]
          omega

/-- Where a reader stops it finds no further item: it needs more input, or it
still reports the error it stopped at. -/
theorem read_drain (s : σ) (xs : List α) :
    R.read (R.drain s xs).state (R.drain s xs).rest =
      match (R.drain s xs).error with
      | none => .more
      | some e => .fail e := by
  induction s, xs using R.drain_induction with
  | more s xs h => simpa [drain_of_more h] using h
  | fail s xs e h => simpa [drain_of_fail h] using h
  | item s xs n s' w h ih => simpa [drain_of_item h] using ih

/-- **Draining a concatenation.** The items of the first part come first; then the
reader goes on from the state and the unread input that the first part left. An
error of the first part is found again. -/
theorem drain_append (s : σ) (xs ys : List α) :
    R.drain s (xs ++ ys) =
      (R.drain (R.drain s xs).state ((R.drain s xs).rest ++ ys)).prepend
        (R.drain s xs).items := by
  induction s, xs using R.drain_induction with
  | more s xs h => simp [drain_of_more h]
  | fail s xs e h => simp [drain_of_fail h]
  | item s xs n s' w h ih =>
      have used := R.item_used h
      rw [drain_of_item (R.item_append h ys), List.drop_append_of_le_length used.2, ih,
        drain_of_item h, Drained.prepend_prepend]
      rfl

/-- What every item preserves holds where the reader stops. -/
theorem drain_invariant {I : σ → Prop}
    (step : ∀ s xs n s' w, R.read s xs = .item n s' w → I s → I s')
    (s : σ) (xs : List α) (init : I s) : I (R.drain s xs).state := by
  induction s, xs using R.drain_induction with
  | more s xs h => simpa [drain_of_more h] using init
  | fail s xs e h => simpa [drain_of_fail h] using init
  | item s xs n s' w h ih =>
      simpa [drain_of_item h] using ih (step s xs n s' w h init)

/-- Where no item is read, nothing is taken. -/
theorem rest_of_no_items {s : σ} {xs : List α} (h : (R.drain s xs).items = []) :
    (R.drain s xs).rest = xs := by
  cases hread : R.read s xs with
  | more => rw [drain_of_more hread]
  | fail e => rw [drain_of_fail hread]
  | item n s' w =>
      rw [drain_of_item hread] at h
      cases h

/-- What every item keeps of the state and the input taken so far holds where the reader
stops, of the input that it has taken there. -/
theorem drain_trace {P : List α → σ → Prop}
    (step : ∀ taken s xs n s' w, R.read s xs = .item n s' w → P taken s →
      P (taken ++ xs.take n) s')
    (s : σ) (xs taken : List α) (init : P taken s) :
    ∃ more, xs = more ++ (R.drain s xs).rest ∧ P (taken ++ more) (R.drain s xs).state := by
  induction s, xs using R.drain_induction generalizing taken with
  | more s xs h => exact ⟨[], by simpa [drain_of_more h] using init⟩
  | fail s xs e h => exact ⟨[], by simpa [drain_of_fail h] using init⟩
  | item s xs n s' w h ih =>
      obtain ⟨more, hxs, hP⟩ := ih _ (step taken s xs n s' w h init)
      refine ⟨xs.take n ++ more, ?_, ?_⟩
      · rw [drain_of_item h, Drained.prepend_rest, List.append_assoc, ← hxs, List.take_append_drop]
      · rw [drain_of_item h, Drained.prepend_state, ← List.append_assoc]
        exact hP

/-- What is left is no longer than the input. -/
theorem length_rest_le (s : σ) (xs : List α) : (R.drain s xs).rest.length ≤ xs.length := by
  obtain ⟨more, hxs, -⟩ := R.drain_trace (P := fun _ _ => True)
    (fun _ _ _ _ _ _ _ h => h) s xs [] trivial
  have hlen := congrArg List.length hxs
  rw [List.length_append] at hlen
  omega

/-- What every item keeps of the state and the input still to come holds where the reader
stops on a part of the input, of what it left unread and the rest behind it. -/
theorem drain_prefix {Q : σ → List α → Prop}
    (step : ∀ s xs n s' w, R.read s xs = .item n s' w → Q s xs → Q s' (xs.drop n))
    (s : σ) (xs tail : List α) (init : Q s (xs ++ tail)) :
    Q (R.drain s xs).state ((R.drain s xs).rest ++ tail) := by
  induction s, xs using R.drain_induction with
  | more s xs h => simpa [drain_of_more h] using init
  | fail s xs e h => simpa [drain_of_fail h] using init
  | item s xs n s' w h ih =>
      have next := step s (xs ++ tail) n s' w (R.item_append h tail) init
      rw [List.drop_append_of_le_length (R.item_used h).2] at next
      simpa [drain_of_item h] using ih next

variable (R) in
/-- Where a reader stands in front of each item, and where it stops: its state and the input
still to come. -/
def positions (s : σ) (xs : List α) : List (σ × List α) :=
  match _h : R.read s xs with
  | .more => [(s, xs)]
  | .fail _ => [(s, xs)]
  | .item n s' _ => (s, xs) :: positions s' (xs.drop n)
termination_by xs.length
decreasing_by
  have used := R.item_used ‹_›
  rw [List.length_drop]
  omega

theorem positions_of_item {s s' : σ} {xs : List α} {n : Nat} {w : ω}
    (h : R.read s xs = .item n s' w) :
    R.positions s xs = (s, xs) :: R.positions s' (xs.drop n) := by
  rw [positions]
  split <;> simp_all

theorem mem_positions_self (s : σ) (xs : List α) : (s, xs) ∈ R.positions s xs := by
  rw [positions]
  split <;> simp

/-! ### Streams of messages -/

/-- Messages that are read one by one are read in a row, whatever follows them. Each is read in a
state that is one message before the state in which the next one is read. -/
theorem drain_flatMap {μ : Type} {before : μ → σ → σ} {encode : μ → List α} {decode : μ → ω}
    {messages : List μ}
    (whole : ∀ m ∈ messages, ∀ s more,
      R.read (before m s) (encode m ++ more) = .item (encode m).length s (decode m))
    (s : σ) (rest : List α) :
    R.drain (messages.foldr before s) (messages.flatMap encode ++ rest) =
      (R.drain s rest).prepend (messages.map decode) := by
  induction messages with
  | nil => rfl
  | cons m messages ih =>
      rw [List.foldr_cons, List.flatMap_cons, List.append_assoc,
        drain_of_item (whole m List.mem_cons_self _ (messages.flatMap encode ++ rest)),
        List.drop_left, ih fun m' hm' => whole m' (List.mem_cons_of_mem _ hm'),
        Drained.prepend_prepend]
      rfl

/-- A part of an input that is not malformed is not malformed either, and its items come first. -/
theorem drain_part {s : σ} {xs ys : List α} (h : (R.drain s (xs ++ ys)).error = none) :
    (R.drain s xs).error = none ∧ (R.drain s xs).items <+: (R.drain s (xs ++ ys)).items := by
  have hagain := R.read_drain s xs
  rw [drain_append] at h ⊢
  constructor
  · by_contra hne
    obtain ⟨e, he⟩ := Option.ne_none_iff_exists'.mp hne
    rw [he] at hagain
    rw [drain_of_fail (R.fail_append hagain ys)] at h
    cases h
  · exact List.prefix_append ..

/-! ### Readers that adjust their state -/

section Adjust

variable (R : Reader α σ ε ω) (f : σ → ω → σ)

/-- The reader that adjusts its state after every item, before it reads the next one. -/
def adjust : Reader α σ ε ω where
  read s xs :=
    match R.read s xs with
    | .more => .more
    | .fail e => .fail e
    | .item n s' w => .item n (f s' w) w
  read_nil s := by rw [R.read_nil s]
  item_used {s xs n s' w} h := by
    split at h
    · cases h
    · cases h
    · rename_i hread
      cases h
      exact R.item_used hread
  item_append {s xs n s' w} h ys := by
    split at h
    · cases h
    · cases h
    · rename_i hread
      cases h
      rw [R.item_append hread ys]
  fail_append {s xs e} h ys := by
    split at h
    · cases h
    · rename_i hread
      cases h
      rw [R.fail_append hread ys]
    · cases h

variable {R f}

theorem adjust_of_more {s : σ} {xs : List α} (h : R.read s xs = .more) :
    (R.adjust f).read s xs = .more := by
  simp only [adjust, h]

theorem adjust_of_fail {s : σ} {xs : List α} {e : ε} (h : R.read s xs = .fail e) :
    (R.adjust f).read s xs = .fail e := by
  simp only [adjust, h]

theorem adjust_of_item {s s' : σ} {xs : List α} {n : Nat} {w : ω} (h : R.read s xs = .item n s' w) :
    (R.adjust f).read s xs = .item n (f s' w) w := by
  simp only [adjust, h]

end Adjust

end Reader

end Rmuduo.Lib
