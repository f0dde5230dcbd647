/-
Streams that share one input.

A reader may serve many streams at once: each item belongs to a key, and all that it reads
and changes of the state is the view of its key (`Reader.Demux`). Then the streams do not
interfere.

* `Reader.pieces` — the pieces of the input that a reader takes, one for each item.
* `Interleaves` — a list of keyed pieces that holds the pieces of each key in their order.
* `Reader.drain_interleaved` — an interleaving of streams that are each read to their end
  alone is read to its end, and gives to every key what its own stream gives it.
-/

import Rmuduo.Lib.Reader
import Mathlib.Logic.Function.Basic

namespace Rmuduo.Lib

variable {α σ ε ω κ τ : Type}

/-- The entries of each key, in their order, are the list that the family has for it. -/
def Interleaves {β : Type} [DecidableEq κ] (L : List (κ × β)) (family : κ → List β) : Prop :=
  ∀ k, (L.filter fun entry => entry.1 = k).map Prod.snd = family k

theorem interleaves_nil {β : Type} [DecidableEq κ] {family : κ → List β}
    (h : Interleaves [] family) (k : κ) : family k = [] :=
  (h k).symm

/-- The first entry is the first one of its key. -/
theorem interleaves_cons {β : Type} [DecidableEq κ] {k : κ} {b : β} {L : List (κ × β)}
    {family : κ → List β} (h : Interleaves ((k, b) :: L) family) :
    ∃ rest, family k = b :: rest ∧ Interleaves L (Function.update family k rest) := by
  refine ⟨(L.filter fun entry => entry.1 = k).map Prod.snd, ?_, ?_⟩
  · rw [← h k]
    simp
  · intro j
    by_cases hj : j = k
    · subst hj
      simp
    · rw [Function.update_of_ne hj, ← h j]
      have hk : ¬ k = j := fun hk => hj hk.symm
      simp [hk]

namespace Reader

/-- The input that a reader takes, cut behind every item. -/
def pieces (R : Reader α σ ε ω) (s : σ) (xs : List α) : List (List α) :=
  match _h : R.read s xs with
  | .more => []
  | .fail _ => []
  | .item n s' _ => xs.take n :: pieces R s' (xs.drop n)
termination_by xs.length
decreasing_by
  have used := R.item_used ‹_›
  rw [List.length_drop]
  omega

variable {R : Reader α σ ε ω} {s s' : σ} {xs : List α} {n : Nat} {w : ω}

theorem pieces_of_item (h : R.read s xs = .item n s' w) :
    R.pieces s xs = xs.take n :: R.pieces s' (xs.drop n) := by
  rw [pieces]
  split <;> simp_all

theorem pieces_of_more (h : R.read s xs = .more) : R.pieces s xs = [] := by
  rw [pieces]
  split <;> simp_all

theorem pieces_of_fail {e : ε} (h : R.read s xs = .fail e) : R.pieces s xs = [] := by
  rw [pieces]
  split <;> simp_all

theorem pieces_eq_cons {b : List α} {bs : List (List α)} (h : R.pieces s xs = b :: bs) :
    ∃ n s' w, R.read s xs = .item n s' w ∧ b = xs.take n ∧ bs = R.pieces s' (xs.drop n) := by
  cases hread : R.read s xs with
  | more =>
      rw [pieces_of_more hread] at h
      cases h
  | fail e =>
      rw [pieces_of_fail hread] at h
      cases h
  | item n s' w =>
      rw [pieces_of_item hread] at h
      cases h
      exact ⟨n, s', w, rfl, rfl, rfl⟩

theorem items_of_pieces_nil (h : R.pieces s xs = []) : (R.drain s xs).items = [] := by
  cases hread : R.read s xs with
  | more => rw [drain_of_more hread]
  | fail e => rw [drain_of_fail hread]
  | item n s' w =>
      rw [pieces_of_item hread] at h
      cases h

/-- What holds of every item that can be read holds of those that are. -/
theorem drain_items {P : ω → Prop}
    (each : ∀ s xs n s' w, R.read s xs = .item n s' w → P w) (s : σ) (xs : List α) :
    ∀ w ∈ (R.drain s xs).items, P w := by
  induction s, xs using R.drain_induction with
  | more s xs h => simp [drain_of_more h]
  | fail s xs e h => simp [drain_of_fail h]
  | item s xs n s' w h ih =>
      intro v hv
      rw [drain_of_item h] at hv
      rcases List.mem_cons.mp hv with rfl | hv
      · exact each s xs n s' v h
      · exact ih v hv

/-! ### Keys -/

variable {key : ω → κ} {view : κ → σ → τ}

/-- What an item reads is the bytes it takes and the view of its key, and that view is all
that it changes. -/
structure Demux (R : Reader α σ ε ω) (key : ω → κ) (view : κ → σ → τ) : Prop where
  own : ∀ {s t xs n s' w}, R.read s xs = .item n s' w → view (key w) t = view (key w) s →
    ∀ ys, ∃ t', R.read t (xs.take n ++ ys) = .item n t' w ∧ view (key w) t' = view (key w) s'
  frame : ∀ {s xs n s' w}, R.read s xs = .item n s' w → ∀ k, k ≠ key w → view k s' = view k s

/-- The input is read to its end, and every item in it is one of the key `k`. -/
structure ReadAlone (R : Reader α σ ε ω) (key : ω → κ) (k : κ) (s : σ) (xs : List α) : Prop where
  sound : (R.drain s xs).error = none
  ends : (R.drain s xs).rest = []
  keyed : ∀ w ∈ (R.drain s xs).items, key w = k

theorem ReadAlone.next {k : κ} (h : ReadAlone R key k s xs) (hread : R.read s xs = .item n s' w) :
    key w = k ∧ ReadAlone R key k s' (xs.drop n) := by
  obtain ⟨sound, ends, keyed⟩ := h
  rw [drain_of_item hread] at sound ends keyed
  refine ⟨keyed w List.mem_cons_self, sound, ends, ?_⟩
  intro v hv
  exact keyed v (List.mem_cons_of_mem w hv)

/-- **Streams do not interfere.** For streams that are each read to their end from a state of
their own, one state that agrees with these on the keys reads any interleaving of them to its
end, with the items of each stream, and ends on each key as the stream does alone. -/
theorem drain_interleaved [DecidableEq κ] (demux : R.Demux key view) {t : κ → σ}
    {stream : κ → List α} (L : List (κ × List α)) (agree : ∀ k, view k s = view k (t k))
    (alone : ∀ k, ReadAlone R key k (t k) (stream k))
    (mixed : Interleaves L fun k => R.pieces (t k) (stream k)) :
    (R.drain s (L.map Prod.snd).flatten).error = none ∧
      (R.drain s (L.map Prod.snd).flatten).rest = [] ∧
      ∀ k, (R.drain s (L.map Prod.snd).flatten).items.filter (fun w => key w = k) =
          (R.drain (t k) (stream k)).items ∧
        view k (R.drain s (L.map Prod.snd).flatten).state =
          view k (R.drain (t k) (stream k)).state := by
  induction L generalizing s t stream with
  | nil =>
      rw [List.map_nil, List.flatten_nil, drain_nil]
      refine ⟨rfl, rfl, fun k => ?_⟩
      have hitems := items_of_pieces_nil (interleaves_nil mixed k)
      have hnil : stream k = [] := (rest_of_no_items hitems).symm.trans (alone k).ends
      rw [hnil, drain_nil]
      exact ⟨rfl, agree k⟩
  | cons entry L ih =>
      obtain ⟨k, b⟩ := entry
      obtain ⟨bs, hpieces, hrest⟩ := interleaves_cons mixed
      obtain ⟨n, s', w, hread, rfl, rfl⟩ := pieces_eq_cons hpieces
      obtain ⟨hkey, hnext⟩ := (alone k).next hread
      subst hkey
      obtain ⟨s'', hitem, hview⟩ := demux.own hread (agree (key w)) (L.map Prod.snd).flatten
      have htaken : ((stream (key w)).take n).length = n := by
        rw [List.length_take, Nat.min_eq_left (R.item_used hread).2]
      -- the streams that are left: the one of this key behind its first item
      have agree' : ∀ j, view j s'' = view j (Function.update t (key w) s' j) := by
        intro j
        by_cases hj : j = key w
        · subst hj
          rw [Function.update_self, hview]
        · rw [Function.update_of_ne hj, demux.frame hitem j hj, agree j]
      have alone' : ∀ j, ReadAlone R key j (Function.update t (key w) s' j)
          (Function.update stream (key w) ((stream (key w)).drop n) j) := by
        intro j
        by_cases hj : j = key w
        · subst hj
          rw [Function.update_self, Function.update_self]
          exact hnext
        · rw [Function.update_of_ne hj, Function.update_of_ne hj]
          exact alone j
      have mixed' : Interleaves L fun j => R.pieces (Function.update t (key w) s' j)
          (Function.update stream (key w) ((stream (key w)).drop n) j) := by
        intro j
        rw [hrest j]
        by_cases hj : j = key w
        · subst hj
          simp only [Function.update_self]
        · simp only [Function.update_of_ne hj]
      obtain ⟨herror, hends, hkeys⟩ := ih agree' alone' mixed'
      rw [List.map_cons, List.flatten_cons, drain_of_item hitem,
        List.drop_left' htaken]
      refine ⟨herror, hends, fun j => ?_⟩
      have hj := hkeys j
      by_cases heq : j = key w
      · subst heq
        rw [Function.update_self, Function.update_self] at hj
        rw [drain_of_item hread]
        refine ⟨?_, hj.2⟩
        simp [hj.1]
      · have hne : ¬ key w = j := fun h => heq h.symm
        rw [Function.update_of_ne heq, Function.update_of_ne heq] at hj
        refine ⟨?_, hj.2⟩
        simp [hne, hj.1]

end Reader

end Rmuduo.Lib
