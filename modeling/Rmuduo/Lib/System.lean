/-
Runs of a deterministic system, and the history that a run leaves.

A system is its step function on states and events. An adversary chooses the events;
a condition on the step from a state by an event restricts that choice.

* `run_append` — running a concatenation is running its second part from where the
  first one ended.
* `Along` — every step of a run meets a condition.
* `run_invariant` — what every step that meets the condition preserves holds at the
  end of a run, and so in each of its states.
* `prefixes_iff_along` — what holds of every beginning of a run, by its steps.
* `length_add_work_le` — a run whose steps leave less and less work comes to its end.
* `run_simulation` — two systems that each step keeps related.
* `Reachable` — the states that steps reach which can fail and do not.
* `collect` — what the steps of a run put out.
* `watched` — a system with an observer.
* `Explained` — every entry of a history is justified by the entries before it; a history
  can be extended by entries that it justifies (`Explained.append`).
-/

import Mathlib.Data.List.Induction
import Mathlib.Data.List.Infix

namespace Rmuduo.Lib

namespace System

variable {σ ε : Type} (step : σ → ε → σ)

/-- The state at the end of a run. -/
def run (s : σ) (es : List ε) : σ := es.foldl step s

@[simp] theorem run_nil (s : σ) : run step s [] = s := rfl

@[simp] theorem run_cons (s : σ) (e : ε) (es : List ε) :
    run step s (e :: es) = run step (step s e) es := rfl

theorem run_append (s : σ) (es fs : List ε) :
    run step s (es ++ fs) = run step (run step s es) fs :=
  List.foldl_append

/-- Every step of the run from `s` by `es` meets the condition `C`. -/
def Along (C : σ → ε → Prop) : σ → List ε → Prop
  | _, [] => True
  | s, e :: es => C s e ∧ Along C (step s e) es

variable {step}

instance decidableAlong {C : σ → ε → Prop} [∀ s e, Decidable (C s e)] :
    ∀ (s : σ) (es : List ε), Decidable (Along step C s es)
  | _, [] => .isTrue trivial
  | s, e :: es =>
      have := decidableAlong (C := C) (step s e) es
      inferInstanceAs (Decidable (C s e ∧ Along step C (step s e) es))

theorem along_append {C : σ → ε → Prop} {s : σ} {es fs : List ε} :
    Along step C s (es ++ fs) ↔ Along step C s es ∧ Along step C (run step s es) fs := by
  induction es generalizing s with
  | nil => simp [Along]
  | cons e es ih => simp [Along, ih, and_assoc]

theorem along_trivial (s : σ) (es : List ε) : Along step (fun _ _ => True) s es := by
  induction es generalizing s with
  | nil => trivial
  | cons e es ih => exact ⟨trivial, ih _⟩

/-- A run whose steps meet `C` keeps an invariant that such steps keep. -/
theorem run_invariant {C : σ → ε → Prop} {I : σ → Prop}
    (keep : ∀ s e, C s e → I s → I (step s e)) {s : σ} {es : List ε}
    (along : Along step C s es) (init : I s) : I (run step s es) := by
  induction es generalizing s with
  | nil => exact init
  | cons e es ih => exact ih along.2 (keep s e along.1 init)

/-- An invariant that every step keeps. -/
theorem run_invariant_always {I : σ → Prop} (keep : ∀ s e, I s → I (step s e)) {s : σ}
    (es : List ε) (init : I s) : I (run step s es) :=
  run_invariant (C := fun _ _ => True) (fun s e _ => keep s e) (along_trivial s es) init

/-- **What holds of every part of a run.** When it holds of the empty run, and goes on to hold
exactly with the steps that meet `C`, it holds of every beginning of a run if and only if all
steps of the run meet `C`. -/
theorem prefixes_iff_along {C : σ → ε → Prop} {Q : List ε → Prop} {s : σ} (start : Q [])
    (next : ∀ es e, Q es → (Q (es ++ [e]) ↔ C (run step s es) e)) (es : List ε) :
    (∀ before, before <+: es → Q before) ↔ Along step C s es := by
  induction es using List.reverseRecOn with
  | nil => simp [Along, start]
  | append_singleton es e ih =>
      rw [along_append, ← ih]
      simp only [List.prefix_concat_iff, Along, and_true]
      constructor
      · intro h
        have hes : Q es := h es (.inr (List.prefix_refl es))
        exact ⟨fun before hbefore => h before (.inr hbefore),
          (next es e hes).mp (h _ (.inl rfl))⟩
      · rintro ⟨hbefore, hlast⟩ before (rfl | hprefix)
        · exact (next es e (hbefore es (List.prefix_refl es))).mpr hlast
        · exact hbefore before hprefix

/-- **A run comes to its end.** When every step leaves less work, but for those that are `extra`,
which leave at most `k` more, a run is not longer than the work at its start, and what the extra
steps in it allow. -/
theorem length_add_work_le {C : σ → ε → Prop} (work : σ → Nat) (extra : ε → Bool) {k : Nat}
    (less : ∀ s e, C s e → extra e = false → work (step s e) < work s)
    (more : ∀ s e, C s e → extra e = true → work (step s e) ≤ work s + k) {s : σ} {es : List ε}
    (along : Along step C s es) :
    es.length + work (run step s es) ≤ work s + (k + 1) * es.countP extra := by
  induction es generalizing s with
  | nil => simp
  | cons e es ih =>
      have hrest := ih along.2
      rw [List.length_cons, run_cons]
      cases he : extra e with
      | false =>
          have hless := less s e along.1 he
          rw [List.countP_cons_of_neg (by simp [he])]
          omega
      | true =>
          have hmore := more s e along.1 he
          rw [List.countP_cons_of_pos he, Nat.mul_succ]
          omega

/-- Steps that keep two systems related keep them related along a run. -/
theorem run_simulation {α : Type} {step' : α → ε → α} {C : σ → ε → Prop} {R : σ → α → Prop}
    (keep : ∀ s a e, C s e → R s a → R (step s e) (step' a e)) {s : σ} {a : α} {es : List ε}
    (along : Along step C s es) (init : R s a) : R (run step s es) (run step' a es) := by
  induction es generalizing s a with
  | nil => exact init
  | cons e es ih => exact ih along.2 (keep s a e along.1 init)

/-! ### Steps that can fail -/

section Failing

variable {φ α β : Type}

@[simp] theorem ok_bind (a : α) (f : α → Except φ β) : (Except.ok a >>= f) = f a := rfl

@[simp] theorem error_bind (e : φ) (f : α → Except φ β) :
    (Except.error e >>= f) = .error e := rfl

theorem bind_eq_ok {x : Except φ α} {f : α → Except φ β} {b : β} :
    (x >>= f) = .ok b ↔ ∃ a, x = .ok a ∧ f a = .ok b := by
  cases x with
  | error e => simp
  | ok a => simp

/-- A loop over a list, with an invariant that knows which elements are still to come. -/
theorem foldlM_invariant {f : σ → α → Except φ σ} (P : List α → σ → Prop)
    (keep : ∀ a rest s, P (a :: rest) s → ∃ s', f s a = .ok s' ∧ P rest s')
    (xs : List α) {s : σ} (start : P xs s) : ∃ s', xs.foldlM f s = .ok s' ∧ P [] s' := by
  induction xs generalizing s with
  | nil => exact ⟨s, rfl, start⟩
  | cons a rest ih =>
      obtain ⟨s₁, hf, h₁⟩ := keep a rest s start
      obtain ⟨s', hrest, h'⟩ := ih h₁
      exact ⟨s', by rw [List.foldlM_cons, hf, ok_bind, hrest], h'⟩

/-- The states that are reached from `init` by steps that meet `C` and do not fail. -/
inductive Reachable (step : σ → ε → Except φ σ) (C : σ → ε → Prop) (init : σ) : σ → Prop where
  | start : Reachable step C init init
  | step {s s' : σ} {e : ε} (before : Reachable step C init s) (meets : C s e)
      (taken : step s e = .ok s') : Reachable step C init s'

/-- The state that these steps lead to, if they all meet `C` and do not fail. -/
def follow (step : σ → ε → Except φ σ) (C : σ → ε → Prop) [∀ s e, Decidable (C s e)] :
    σ → List ε → Option σ
  | s, [] => some s
  | s, e :: es =>
      if C s e then
        match step s e with
        | .ok s' => follow step C s' es
        | .error _ => none
      else none

theorem follow_append {step : σ → ε → Except φ σ} {C : σ → ε → Prop} [∀ s e, Decidable (C s e)]
    {s s' s'' : σ} {es es' : List ε} (h : follow step C s es = some s')
    (h' : follow step C s' es' = some s'') : follow step C s (es ++ es') = some s'' := by
  induction es generalizing s with
  | nil =>
      cases h
      exact h'
  | cons e es ih =>
      unfold follow at h
      split at h
      · rename_i meets
        split at h
        · rename_i s₁ taken
          rw [List.cons_append, follow, if_pos meets, taken]
          exact ih h
        · cases h
      · cases h

theorem follow_cons {step : σ → ε → Except φ σ} {C : σ → ε → Prop} [∀ s e, Decidable (C s e)]
    {s s' s'' : σ} {e : ε} {es : List ε} (meets : C s e) (taken : step s e = .ok s')
    (h : follow step C s' es = some s'') : follow step C s (e :: es) = some s'' := by
  rw [follow, if_pos meets, taken]
  exact h

theorem Reachable.of_follow {step : σ → ε → Except φ σ} {C : σ → ε → Prop}
    [∀ s e, Decidable (C s e)] {init s s' : σ} {es : List ε} (h : Reachable step C init s)
    (followed : follow step C s es = some s') : Reachable step C init s' := by
  induction es generalizing s with
  | nil =>
      cases followed
      exact h
  | cons e es ih =>
      unfold follow at followed
      split at followed
      · rename_i meets
        split at followed
        · rename_i s₁ taken
          exact ih (.step h meets taken) followed
        · cases followed
      · cases followed

/-- What such steps keep, when they are taken in a state that is reached, holds in every state
that they reach. -/
theorem Reachable.invariant_of_reached {step : σ → ε → Except φ σ} {C : σ → ε → Prop} {init : σ}
    {I : σ → Prop}
    (keep : ∀ {s e s'}, Reachable step C init s → C s e → I s → step s e = .ok s' → I s')
    (start : I init) {s : σ} (h : Reachable step C init s) : I s := by
  induction h with
  | start => exact start
  | step before meets taken ih => exact keep before meets ih taken

theorem Reachable.invariant {step : σ → ε → Except φ σ} {C : σ → ε → Prop} {init : σ}
    {I : σ → Prop} (keep : ∀ {s e s'}, C s e → I s → step s e = .ok s' → I s') (start : I init)
    {s : σ} (h : Reachable step C init s) : I s :=
  h.invariant_of_reached (fun _ => keep) start

/-- Steps that cannot fail. -/
def total (step : σ → ε → σ) (s : σ) (e : ε) : Except Empty σ := .ok (step s e)

theorem Reachable.invariant_total {step : σ → ε → σ} {C : σ → ε → Prop} {init : σ}
    {I : σ → Prop} (keep : ∀ {s e}, C s e → I s → I (step s e)) (start : I init)
    {s : σ} (h : Reachable (total step) C init s) : I s := by
  refine h.invariant (fun {s e s'} meets hs taken => ?_) start
  cases taken
  exact keep meets hs

theorem Reachable.trans {step : σ → ε → Except φ σ} {C : σ → ε → Prop} {init s s' : σ}
    (h : Reachable step C init s) (h' : Reachable step C s s') : Reachable step C init s' := by
  induction h' with
  | start => exact h
  | step before meets taken ih => exact .step ih meets taken

/-- Fewer steps meet a stronger condition. -/
theorem Reachable.mono {step : σ → ε → Except φ σ} {C C' : σ → ε → Prop} {init : σ}
    (weaker : ∀ {s e}, C s e → C' s e) {s : σ} (h : Reachable step C init s) :
    Reachable step C' init s := by
  induction h with
  | start => exact .start
  | step before meets taken ih => exact .step ih (weaker meets) taken

end Failing

/-! ### What a run puts out -/

/-- What the steps of a run put out, in order. -/
def collect {α : Type} (step : σ → ε → σ) (out : σ → ε → List α) : σ → List ε → List α
  | _, [] => []
  | s, e :: es => out s e ++ collect step out (step s e) es

section Collecting

variable {α : Type} {step : σ → ε → σ} {out : σ → ε → List α}

/-- An invariant of the state and of all that has been put out. -/
theorem collect_invariant {I : σ → List α → Prop}
    (keep : ∀ s e put, I s put → I (step s e) (put ++ out s e)) {s : σ} {put : List α}
    (es : List ε) (init : I s put) : I (run step s es) (put ++ collect step out s es) := by
  induction es generalizing s put with
  | nil => simpa [collect] using init
  | cons e es ih =>
      rw [run_cons, collect, ← List.append_assoc]
      exact ih (keep s e put init)

end Collecting

theorem collect_append {α : Type} (step : σ → ε → σ) (out : σ → ε → List α) (s : σ)
    (es fs : List ε) :
    collect step out s (es ++ fs) = collect step out s es ++ collect step out (run step s es) fs := by
  induction es generalizing s with
  | nil => simp [collect]
  | cons e es ih => simp [collect, ih]

/-! ### Watching a run -/

section Watching

variable {ω : Type}

/-- The system with an observer, who takes note of every step. -/
def watched (step : σ → ε → σ) (note : σ → ε → ω → ω) (x : σ × ω) (e : ε) : σ × ω :=
  (step x.1 e, note x.1 e x.2)

/-- Watching a system does not disturb it. -/
@[simp] theorem run_watched_fst (note : σ → ε → ω → ω) (x : σ × ω) (es : List ε) :
    (run (watched step note) x es).1 = run step x.1 es := by
  induction es generalizing x with
  | nil => rfl
  | cons e es ih => exact ih (watched step note x e)

end Watching

/-! ### Histories -/

/-- Every entry of a history is justified by what comes before it. -/
def Explained {α : Type} (justifies : List α → α → Prop) (history : List α) : Prop :=
  ∀ before a after, history = before ++ a :: after → justifies before a

theorem explained_nil {α : Type} (justifies : List α → α → Prop) : Explained justifies [] := by
  intro before a after h
  simp at h

theorem Explained.concat {α : Type} {justifies : List α → α → Prop} {history : List α} {a : α}
    (h : Explained justifies history) (ha : justifies history a) :
    Explained justifies (history ++ [a]) := by
  intro before b after heq
  rcases List.eq_nil_or_concat after with rfl | ⟨after', c, rfl⟩
  · obtain ⟨rfl, hlast⟩ := List.append_inj' heq rfl
    cases hlast
    exact ha
  · rw [List.concat_eq_append, ← List.cons_append, ← List.append_assoc] at heq
    exact h before b after' (List.append_inj' heq rfl).1

theorem Explained.front {α : Type} {justifies : List α → α → Prop} {history more : List α}
    (h : Explained justifies (history ++ more)) : Explained justifies history := by
  intro before a after heq
  apply h before a (after ++ more)
  rw [heq, List.append_assoc, List.cons_append]

/-- Entries that the whole history justifies can be put behind it, when a longer history
justifies no less. -/
theorem Explained.append {α : Type} {justifies : List α → α → Prop} {history new : List α}
    (h : Explained justifies history)
    (mono : ∀ {before before' a}, before ⊆ before' → justifies before a → justifies before' a)
    (hnew : ∀ a ∈ new, justifies history a) : Explained justifies (history ++ new) := by
  intro before a after heq
  rcases List.append_eq_append_iff.mp heq with ⟨extra, hbefore, hrest⟩ | ⟨rest, hhistory, htail⟩
  · -- The entry is a new one.
    rw [hbefore]
    exact mono (List.subset_append_left _ _) (hnew a (by rw [hrest]; simp))
  · cases rest with
    | nil =>
        rw [hhistory, List.append_nil] at hnew
        exact hnew a (by rw [← List.nil_append new, ← htail]; simp)
    | cons b rest =>
        cases htail
        exact h before a rest hhistory

end System

end Rmuduo.Lib
