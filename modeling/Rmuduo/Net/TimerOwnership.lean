/-
Who owns the timers (`net/TimerQueue.h`, `net/TimerQueue.cc`).

* `Owned` — what ties the two sets to the timers that there are, when some are in no set.
* `Accounts` — what the log says of a timer that is there, and of one that is not.
* `TimerLoop.reachable_consistent` — both hold between the calls of every run.
* `TimerLoop.sets_consistent` — the sets agree, every timer is somewhere or has been deleted,
  and no call touches one that has been.
-/

import Rmuduo.Net.TimerQueue

namespace Rmuduo.Net

open Lib Lib.System

/-! ### Timers in the sets -/

/-- The timer with this identity is there. -/
def Live (heap : Address → Option Timer) (id : TimerId) : Prop :=
  ∃ timer, heap id.timer = some timer ∧ timer.sequece = id.sequence

/-- The timers that there are stand in both sets, but for those at the addresses `batch`, which
stand in neither. -/
structure Owned (timers : List Entry) (active : Finset TimerId) (heap : Address → Option Timer)
    (batch : List Address) : Prop where
  sorted : SortedSet.Sorted timers
  keyed : ∀ e ∈ timers, ∃ timer, heap e.timer = some timer ∧ timer.expiration = e.expiration ∧
    ⟨e.timer, timer.sequece⟩ ∈ active
  listed : ∀ id ∈ active, ∃ timer, heap id.timer = some timer ∧ timer.sequece = id.sequence ∧
    ⟨timer.expiration, id.timer⟩ ∈ timers
  taken : ∀ a ∈ batch, ∃ timer, heap a = some timer ∧ ⟨a, timer.sequece⟩ ∉ active
  once : batch.Nodup
  covered : ∀ a timer, heap a = some timer → ⟨a, timer.sequece⟩ ∈ active ∨ a ∈ batch
  bounded : ∀ a timer, heap a = some timer → a < UINTPTR_MAX

section Sets

variable {timers : List Entry} {active : Finset TimerId} {heap : Address → Option Timer}
  {batch : List Address} {a : Address} {timer : Timer}

theorem owned_empty : Owned [] ∅ (fun _ => none) [] where
  sorted := SortedSet.sorted_nil
  keyed := by simp
  listed := by simp
  taken := by simp
  once := List.nodup_nil
  covered := by simp
  bounded := by simp

theorem Owned.perm {batch' : List Address} (h : Owned timers active heap batch)
    (hperm : batch.Perm batch') : Owned timers active heap batch' :=
  { h with
    taken := fun a ha => h.taken a (hperm.mem_iff.mpr ha)
    once := hperm.nodup_iff.mp h.once
    covered := fun a timer hlive => (h.covered a timer hlive).imp_right hperm.mem_iff.mp }

theorem Owned.ne_of_mem_timers (h : Owned timers active heap batch) (ha : a ∈ batch) {e : Entry}
    (he : e ∈ timers) : e.timer ≠ a := by
  rintro rfl
  obtain ⟨timer, hlive, hnot⟩ := h.taken e.timer ha
  obtain ⟨timer', hlive', -, hmem⟩ := h.keyed e he
  cases hlive.symm.trans hlive'
  exact hnot hmem

theorem Owned.ne_of_mem_active (h : Owned timers active heap batch) (ha : a ∈ batch)
    {id : TimerId} (hid : id ∈ active) : id.timer ≠ a := by
  obtain ⟨timer, -, -, hmem⟩ := h.listed id hid
  exact h.ne_of_mem_timers ha hmem

/-- Two timers at one address are the same. -/
theorem Owned.eq_of_timer_eq (h : Owned timers active heap batch) {e e' : Entry}
    (he : e ∈ timers) (he' : e' ∈ timers) (heq : e.timer = e'.timer) : e = e' := by
  obtain ⟨expiration, a⟩ := e
  obtain ⟨expiration', a'⟩ := e'
  cases heq
  obtain ⟨timer, hlive, hexp, -⟩ := h.keyed _ he
  obtain ⟨timer', hlive', hexp', -⟩ := h.keyed _ he'
  cases hlive.symm.trans hlive'
  exact congrArg (Entry.mk · a) (hexp.symm.trans hexp')

/-- A new timer stands in no set. -/
theorem Owned.create (h : Owned timers active heap batch) (free : heap a = none)
    (bound : a < UINTPTR_MAX) (timer : Timer) :
    Owned timers active (Function.update heap a (some timer)) (a :: batch) := by
  have hne : ∀ b timer', heap b = some timer' → b ≠ a := by
    rintro b timer' hlive rfl
    rw [free] at hlive
    cases hlive
  have hkept : ∀ b timer', heap b = some timer' →
      Function.update heap a (some timer) b = some timer' := by
    intro b timer' hlive
    rw [Function.update_of_ne (hne b timer' hlive), hlive]
  constructor
  · exact h.sorted
  · intro e he
    obtain ⟨timer', hlive, hrest⟩ := h.keyed e he
    exact ⟨timer', hkept _ _ hlive, hrest⟩
  · intro id hid
    obtain ⟨timer', hlive, hrest⟩ := h.listed id hid
    exact ⟨timer', hkept _ _ hlive, hrest⟩
  · intro b hb
    rcases List.mem_cons.mp hb with rfl | hb
    · refine ⟨timer, Function.update_self .., fun hmem => ?_⟩
      obtain ⟨timer', hlive, -⟩ := h.listed _ hmem
      exact hne b timer' hlive rfl
    · obtain ⟨timer', hlive, hnot⟩ := h.taken b hb
      exact ⟨timer', hkept _ _ hlive, hnot⟩
  · refine List.nodup_cons.mpr ⟨fun hmem => ?_, h.once⟩
    obtain ⟨timer', hlive, -⟩ := h.taken a hmem
    exact hne a timer' hlive rfl
  · intro b timer' hlive
    by_cases hb : b = a
    · exact Or.inr (hb ▸ List.mem_cons_self ..)
    · rw [Function.update_of_ne hb] at hlive
      exact (h.covered b timer' hlive).imp_right (List.mem_cons_of_mem a)
  · intro b timer' hlive
    by_cases hb : b = a
    · exact hb ▸ bound
    · rw [Function.update_of_ne hb] at hlive
      exact h.bounded b timer' hlive

/-- A timer that stands in no set can be deleted. -/
theorem Owned.delete (h : Owned timers active heap (a :: batch)) :
    Owned timers active (Function.update heap a none) batch := by
  obtain ⟨hnot, honce⟩ := List.nodup_cons.mp h.once
  have hkept : ∀ b, b ≠ a → Function.update heap a none b = heap b :=
    fun b hb => Function.update_of_ne hb ..
  have hlive : ∀ {b timer'}, Function.update heap a none b = some timer' →
      b ≠ a ∧ heap b = some timer' := by
    intro b timer' hb
    by_cases hba : b = a
    · rw [hba, Function.update_self] at hb
      cases hb
    · exact ⟨hba, hkept b hba ▸ hb⟩
  constructor
  · exact h.sorted
  · intro e he
    rw [hkept _ (h.ne_of_mem_timers (List.mem_cons_self ..) he)]
    exact h.keyed e he
  · intro id hid
    rw [hkept _ (h.ne_of_mem_active (List.mem_cons_self ..) hid)]
    exact h.listed id hid
  · intro b hb
    rw [hkept b (ne_of_mem_of_not_mem hb hnot)]
    exact h.taken b (List.mem_cons_of_mem a hb)
  · exact honce
  · intro b timer' hb
    obtain ⟨hne, hb⟩ := hlive hb
    exact (h.covered b timer' hb).imp_right fun hmem => (List.mem_cons.mp hmem).resolve_left hne
  · intro b timer' hb
    exact h.bounded b timer' (hlive hb).2

/-- A timer that stands in no set can be changed. -/
theorem Owned.restart (h : Owned timers active heap (a :: batch)) (live : heap a = some timer)
    (timer' : Timer) :
    Owned timers active (Function.update heap a (some timer')) (a :: batch) := by
  have hgone : Function.update heap a none a = none := Function.update_self ..
  have hnew := h.delete.create hgone (h.bounded a timer live) timer'
  rwa [Function.update_idem] at hnew

/-- A timer that stands in no set is put into both. -/
theorem Owned.insert (h : Owned timers active heap (a :: batch)) (live : heap a = some timer) :
    Owned (SortedSet.insert ⟨timer.expiration, a⟩ timers)
      (Insert.insert ⟨a, timer.sequece⟩ active) heap batch := by
  obtain ⟨hnot, honce⟩ := List.nodup_cons.mp h.once
  constructor
  · exact SortedSet.sorted_insert h.sorted _
  · intro e he
    rcases SortedSet.mem_insert.mp he with rfl | he
    · exact ⟨timer, live, rfl, Finset.mem_insert_self ..⟩
    · obtain ⟨timer', hlive, hexp, hmem⟩ := h.keyed e he
      exact ⟨timer', hlive, hexp, Finset.mem_insert_of_mem hmem⟩
  · intro id hid
    rcases Finset.mem_insert.mp hid with rfl | hid
    · exact ⟨timer, live, rfl, SortedSet.mem_insert.mpr (Or.inl rfl)⟩
    · obtain ⟨timer', hlive, hseq, hmem⟩ := h.listed id hid
      exact ⟨timer', hlive, hseq, SortedSet.mem_insert.mpr (Or.inr hmem)⟩
  · intro b hb
    obtain ⟨timer', hlive, hout⟩ := h.taken b (List.mem_cons_of_mem a hb)
    refine ⟨timer', hlive, fun hmem => ?_⟩
    rcases Finset.mem_insert.mp hmem with heq | hmem
    · have hba : b = a := congrArg TimerId.timer heq
      exact hnot (hba ▸ hb)
    · exact hout hmem
  · exact honce
  · intro b timer' hlive
    rcases h.covered b timer' hlive with hmem | hmem
    · exact Or.inl (Finset.mem_insert_of_mem hmem)
    · rcases List.mem_cons.mp hmem with rfl | hmem
      · cases live.symm.trans hlive
        exact Or.inl (Finset.mem_insert_self ..)
      · exact Or.inr hmem
  · exact h.bounded

/-- A timer is taken out of both sets. -/
theorem Owned.take (h : Owned timers active heap batch) {e : Entry} (he : e ∈ timers)
    (live : heap e.timer = some timer) :
    Owned (timers.erase e) (active.erase ⟨e.timer, timer.sequece⟩) heap (e.timer :: batch) := by
  have hout : e.timer ∉ batch := fun hmem => h.ne_of_mem_timers hmem he rfl
  constructor
  · exact SortedSet.sorted_erase h.sorted e
  · intro e' he'
    obtain ⟨hne, he'⟩ := (SortedSet.mem_erase h.sorted).mp he'
    obtain ⟨timer', hlive, hexp, hmem⟩ := h.keyed e' he'
    refine ⟨timer', hlive, hexp, Finset.mem_erase.mpr ⟨fun heq => hne ?_, hmem⟩⟩
    exact h.eq_of_timer_eq he' he (congrArg TimerId.timer heq)
  · intro id hid
    obtain ⟨hne, hid⟩ := Finset.mem_erase.mp hid
    obtain ⟨timer', hlive, hseq, hmem⟩ := h.listed id hid
    refine ⟨timer', hlive, hseq, (SortedSet.mem_erase h.sorted).mpr ⟨?_, hmem⟩⟩
    rintro rfl
    cases live.symm.trans hlive
    exact hne (by rw [hseq])
  · intro b hb
    rcases List.mem_cons.mp hb with rfl | hb
    · exact ⟨timer, live, Finset.notMem_erase _ _⟩
    · obtain ⟨timer', hlive, hnot⟩ := h.taken b hb
      exact ⟨timer', hlive, fun hmem => hnot (Finset.mem_of_mem_erase hmem)⟩
  · exact List.nodup_cons.mpr ⟨hout, h.once⟩
  · intro b timer' hlive
    by_cases hb : b = e.timer
    · exact Or.inr (hb ▸ List.mem_cons_self ..)
    · refine (h.covered b timer' hlive).imp (fun hmem => ?_) (List.mem_cons_of_mem _)
      exact Finset.mem_erase.mpr ⟨fun heq => hb (congrArg TimerId.timer heq), hmem⟩
  · exact h.bounded

end Sets

/-! ### Timers in the log -/

/-- Nothing happens to a timer behind its deletion. -/
def NothingAfterDeletion (log : List TimerEvent) : Prop :=
  log.Pairwise fun before after =>
    before.action = .deleted → after.id = before.id → after.action = .cancelled

/-- What the log tells of the timers: those that are there have been created and not deleted,
the others that have been created have been deleted, and nothing has happened to one since. -/
structure Accounts (live : TimerId → Prop) (log : List TimerEvent) : Prop where
  kept : ∀ id, live id → ⟨.created, id⟩ ∈ log ∧ ⟨.deleted, id⟩ ∉ log
  known : ∀ event ∈ log, event.action ≠ .cancelled → ⟨.created, event.id⟩ ∈ log
  fate : ∀ id, ⟨.created, id⟩ ∈ log → live id ∨ ⟨.deleted, id⟩ ∈ log
  last : NothingAfterDeletion log

section Log

variable {live live' : TimerId → Prop} {log : List TimerEvent} {id : TimerId}

theorem accounts_empty (h : ∀ id, ¬ live id) : Accounts live [] where
  kept id hlive := absurd hlive (h id)
  known := by simp
  fate := by simp
  last := List.Pairwise.nil

theorem Accounts.congr (h : Accounts live log) (same : ∀ id, live' id ↔ live id) :
    Accounts live' log := by
  have heq : live' = live := funext fun id => propext (same id)
  rwa [heq]

theorem NothingAfterDeletion.append (h : NothingAfterDeletion log) {event : TimerEvent}
    (hevent : event.action = .cancelled ∨ ⟨.deleted, event.id⟩ ∉ log) :
    NothingAfterDeletion (log ++ [event]) := by
  refine List.pairwise_append.mpr ⟨h, List.pairwise_singleton _ _, ?_⟩
  rintro ⟨action, id⟩ hbefore after hafter haction hid
  cases List.mem_singleton.mp hafter
  cases haction
  cases hid
  exact hevent.resolve_right (not_not_intro hbefore)

/-- What an event is about is known behind it, if it is known then. -/
theorem Accounts.known_append (h : Accounts live log) {event : TimerEvent}
    (hevent : event.action ≠ .cancelled → ⟨.created, event.id⟩ ∈ log ++ [event]) :
    ∀ e ∈ log ++ [event], e.action ≠ .cancelled → ⟨.created, e.id⟩ ∈ log ++ [event] := by
  intro e he haction
  rcases List.mem_append.mp he with he | he
  · exact List.mem_append_left _ (h.known e he haction)
  · cases List.mem_singleton.mp he
    exact hevent haction

/-- A timer that is there has not been deleted by an event that is not its deletion. -/
theorem Accounts.kept_append (h : Accounts live log) (hlive : live id) {event : TimerEvent}
    (hevent : event ≠ ⟨.deleted, id⟩) :
    ⟨.created, id⟩ ∈ log ++ [event] ∧ ⟨.deleted, id⟩ ∉ log ++ [event] := by
  obtain ⟨hmem, hnot⟩ := h.kept id hlive
  refine ⟨List.mem_append_left _ hmem, List.not_mem_append hnot fun hin => ?_⟩
  exact hevent (List.mem_singleton.mp hin).symm

/-- Something happens to a timer that is there, or one is cancelled. -/
theorem Accounts.note (h : Accounts live log) (id : TimerId) {action : TimerAction}
    (hid : action = .cancelled ∨ live id) (hcreated : action ≠ .created)
    (hdeleted : action ≠ .deleted) : Accounts live (log ++ [⟨action, id⟩]) := by
  constructor
  · intro id' hlive
    exact h.kept_append hlive fun heq => hdeleted (congrArg TimerEvent.action heq)
  · exact h.known_append fun haction =>
      List.mem_append_left _ (h.kept id (hid.resolve_left haction)).1
  · intro id' hmem
    rcases List.mem_append.mp hmem with hmem | hmem
    · exact (h.fate id' hmem).imp_right (List.mem_append_left _)
    · cases List.mem_singleton.mp hmem
      exact absurd rfl hcreated
  · exact h.last.append (hid.imp_right fun hlive => (h.kept id hlive).2)

theorem Accounts.create (h : Accounts live log) (new : ⟨.created, id⟩ ∉ log)
    (same : ∀ id', live' id' ↔ id' = id ∨ live id') :
    Accounts live' (log ++ [⟨.created, id⟩]) := by
  have hnot : ⟨.deleted, id⟩ ∉ log := fun hmem => new (h.known _ hmem nofun)
  constructor
  · intro id' hlive
    rcases (same id').mp hlive with rfl | hlive
    · refine ⟨List.mem_append_right _ (List.mem_singleton_self _), ?_⟩
      exact List.not_mem_append hnot (by simp)
    · exact h.kept_append hlive nofun
  · exact h.known_append fun _ => List.mem_append_right _ (List.mem_singleton_self _)
  · intro id' hmem
    rcases List.mem_append.mp hmem with hmem | hmem
    · exact (h.fate id' hmem).imp (fun hlive => (same id').mpr (Or.inr hlive))
        (List.mem_append_left _)
    · cases List.mem_singleton.mp hmem
      exact Or.inl ((same id).mpr (Or.inl rfl))
  · exact h.last.append (Or.inr hnot)

theorem Accounts.delete (h : Accounts live log) (hid : live id)
    (same : ∀ id', live' id' ↔ id' ≠ id ∧ live id') :
    Accounts live' (log ++ [⟨.deleted, id⟩]) := by
  constructor
  · intro id' hlive
    obtain ⟨hne, hlive⟩ := (same id').mp hlive
    exact h.kept_append hlive fun heq => hne (congrArg TimerEvent.id heq).symm
  · exact h.known_append fun _ => List.mem_append_left _ (h.kept id hid).1
  · intro id' hmem
    have hmem : ⟨.created, id'⟩ ∈ log := by
      rcases List.mem_append.mp hmem with hmem | hmem
      · exact hmem
      · cases List.mem_singleton.mp hmem
    by_cases hne : id' = id
    · exact Or.inr (hne ▸ List.mem_append_right _ (List.mem_singleton_self _))
    · exact (h.fate id' hmem).imp (fun hlive => (same id').mpr ⟨hne, hlive⟩)
        (List.mem_append_left _)
  · exact h.last.append (Or.inr (h.kept id hid).2)

end Log

/-! ### The functions of the queue -/

section Objects

variable {heap : Address → Option Timer} {a : Address} {timer : Timer} {id : TimerId}

theorem live_create (free : heap a = none) :
    Live (Function.update heap a (some timer)) id ↔ id = ⟨a, timer.sequece⟩ ∨ Live heap id := by
  obtain ⟨b, sequence⟩ := id
  by_cases hb : b = a
  · subst hb
    constructor
    · rintro ⟨timer', hlive, rfl⟩
      rw [Function.update_self] at hlive
      cases hlive
      exact Or.inl rfl
    · rintro (heq | ⟨timer', hlive, -⟩)
      · cases heq
        exact ⟨timer, Function.update_self .., rfl⟩
      · rw [free] at hlive
        cases hlive
  · have hne : (⟨b, sequence⟩ : TimerId) ≠ ⟨a, timer.sequece⟩ := by
      rintro ⟨⟩
      exact hb rfl
    simp only [Live, Function.update_of_ne hb, hne, false_or]

theorem live_delete (live : heap a = some timer) :
    Live (Function.update heap a none) id ↔ id ≠ ⟨a, timer.sequece⟩ ∧ Live heap id := by
  obtain ⟨b, sequence⟩ := id
  by_cases hb : b = a
  · subst hb
    constructor
    · rintro ⟨timer', hlive, -⟩
      rw [Function.update_self] at hlive
      cases hlive
    · rintro ⟨hne, timer', hlive, hseq⟩
      cases live.symm.trans hlive
      exact absurd (congrArg (TimerId.mk b) hseq.symm) hne
  · have hne : (⟨b, sequence⟩ : TimerId) ≠ ⟨a, timer.sequece⟩ := by
      rintro ⟨⟩
      exact hb rfl
    simp only [Live, Function.update_of_ne hb, ne_eq, hne, not_false_eq_true, true_and]

theorem live_restart (live : heap a = some timer) {timer' : Timer}
    (same : timer'.sequece = timer.sequece) :
    Live (Function.update heap a (some timer')) id ↔ Live heap id := by
  by_cases hb : id.timer = a
  · subst hb
    simp only [Live, Function.update_self, Option.some.injEq, live]
    constructor
    · rintro ⟨_, rfl, hseq⟩
      exact ⟨timer, rfl, same.symm.trans hseq⟩
    · rintro ⟨_, rfl, hseq⟩
      exact ⟨timer', rfl, same.trans hseq⟩
  · simp only [Live, Function.update_of_ne hb]

end Objects

namespace TimerQueue

section Results

variable {q : TimerQueue} {a : Address} {timer : Timer} {id : TimerId}

/-- The queue behind `insert`. -/
def inserted (q : TimerQueue) (a : Address) (timer : Timer) : TimerQueue :=
  { q with
    timers := SortedSet.insert ⟨timer.expiration, a⟩ q.timers
    activeTimers := Insert.insert (⟨a, timer.sequece⟩ : TimerId) q.activeTimers }.note .inserted
      ⟨a, timer.sequece⟩

/-- The queue behind `delete`. -/
def deleted (q : TimerQueue) (a : Address) (timer : Timer) : TimerQueue :=
  { q with heap := Function.update q.heap a none }.note .deleted ⟨a, timer.sequece⟩

/-- The queue behind `restart`. -/
def restarted (q : TimerQueue) (now : Timestamp) (a : Address) (timer : Timer) : TimerQueue :=
  { q with heap := Function.update q.heap a (some (timer.restart now)) }.note .restarted
    ⟨a, timer.sequece⟩

/-- The queue behind `addTimerInLoop`. -/
def added (q : TimerQueue) (clock : Timestamp) (a : Address) (timer : Timer) : TimerQueue :=
  if q.timers.head?.all fun first => timer.expiration < first.expiration then
    (q.inserted a timer).resetTimerfd clock timer.expiration
  else q.inserted a timer

/-- The queue behind the cancellation of a timer that stands in the sets. -/
def cancelled (q : TimerQueue) (a : Address) (timer : Timer) : TimerQueue :=
  deleted { q.note .cancelled ⟨a, timer.sequece⟩ with
    timers := q.timers.erase ⟨timer.expiration, a⟩
    activeTimers := q.activeTimers.erase ⟨a, timer.sequece⟩ } a timer

@[simp] theorem added_calling {clock : Timestamp} :
    (q.added clock a timer).callingExpiredTimers = q.callingExpiredTimers := by
  unfold added
  split
  · rfl
  · rfl

theorem deref_eq (live : q.heap a = some timer) : q.deref a = .ok timer := by
  simp [deref, live]

theorem delete_eq (live : q.heap a = some timer) : q.delete a = .ok (q.deleted a timer) := by
  simp only [delete, deref_eq live, ok_bind]
  rfl

theorem insert_eq (live : q.heap a = some timer) :
    q.insert a = .ok (q.timers.head?.all fun first => timer.expiration < first.expiration,
      q.inserted a timer) := by
  simp only [insert, deref_eq live, ok_bind]
  rfl

theorem restart_eq (live : q.heap a = some timer) (now : Timestamp) :
    q.restart now a = .ok (q.restarted now a timer) := by
  simp only [restart, deref_eq live, ok_bind]
  rfl

theorem run_eq {it : Entry} (live : q.heap it.timer = some timer) :
    q.run it = .ok (q.note .ran ⟨it.timer, timer.sequece⟩) := by
  simp only [run, deref_eq live, ok_bind]
  rfl

theorem addTimerInLoop_eq (live : q.heap a = some timer) (clock : Timestamp) :
    q.addTimerInLoop clock a = .ok (q.added clock a timer) := by
  have hlive : (q.inserted a timer).deref a = .ok timer := deref_eq live
  simp only [addTimerInLoop, insert_eq live, ok_bind, hlive, added]
  split
  · rfl
  · rfl

theorem cancelInLoop_active (hid : ⟨a, timer.sequece⟩ ∈ q.activeTimers)
    (live : q.heap a = some timer) :
    q.cancelInLoop ⟨a, timer.sequece⟩ = .ok (q.cancelled a timer) := by
  have hid : (⟨a, timer.sequece⟩ : TimerId) ∈
    (q.note .cancelled ⟨a, timer.sequece⟩).activeTimers := hid
  have hderef : (q.note .cancelled ⟨a, timer.sequece⟩).deref a = .ok timer := deref_eq live
  have hdelete : ({ q.note .cancelled ⟨a, timer.sequece⟩ with
      timers := q.timers.erase ⟨timer.expiration, a⟩ } : TimerQueue).delete a = .ok _ :=
    delete_eq live
  simp only [cancelInLoop, if_pos hid, hderef, ok_bind]
  exact (congrArg (· >>= _) hdelete).trans rfl

theorem cancelInLoop_inactive (hid : id ∉ q.activeTimers) :
    q.cancelInLoop id = .ok (if q.callingExpiredTimers then
      { q.note .cancelled id with cancelingTimers := Insert.insert id q.cancelingTimers }
      else q.note .cancelled id) := by
  have hid : id ∉ (q.note .cancelled id).activeTimers := hid
  have hcalling : (q.note .cancelled id).callingExpiredTimers = q.callingExpiredTimers := rfl
  simp only [cancelInLoop, if_neg hid, hcalling]
  split
  · rfl
  · rfl

end Results

/-- The sets agree, but for the timers at the addresses `batch`, and so does the log. -/
structure Consistent (q : TimerQueue) (batch : List Address) : Prop where
  owned : Owned q.timers q.activeTimers q.heap batch
  accounts : Accounts (Live q.heap) q.log

section Operations

variable {q : TimerQueue} {batch : List Address} {a : Address} {timer : Timer}

theorem consistent_empty : Consistent {} [] where
  owned := owned_empty
  accounts := accounts_empty (by simp [Live])

/-- Something happens to a timer that is there, or one is cancelled. -/
theorem Consistent.note (h : q.Consistent batch) (id : TimerId) {action : TimerAction}
    (hid : action = .cancelled ∨ Live q.heap id) (hcreated : action ≠ .created)
    (hdeleted : action ≠ .deleted) : (q.note action id).Consistent batch where
  owned := h.owned
  accounts := h.accounts.note id hid hcreated hdeleted

theorem Consistent.newTimer (h : q.Consistent batch) (free : q.heap a = none)
    (bound : a < UINTPTR_MAX)
    (new : ∀ event ∈ q.log, event.action = .created → event.id.sequence ≠ timer.sequece) :
    (q.newTimer a timer).Consistent (a :: batch) where
  owned := h.owned.create free bound timer
  accounts := h.accounts.create (fun hmem => new _ hmem rfl rfl) fun _ => live_create free

theorem Consistent.deleted (h : q.Consistent (a :: batch)) (live : q.heap a = some timer) :
    (q.deleted a timer).Consistent batch where
  owned := h.owned.delete
  accounts := h.accounts.delete ⟨timer, live, rfl⟩ fun _ => live_delete live

theorem Consistent.inserted (h : q.Consistent (a :: batch)) (live : q.heap a = some timer) :
    (q.inserted a timer).Consistent batch where
  owned := h.owned.insert live
  accounts := h.accounts.note _ (Or.inr ⟨timer, live, rfl⟩) nofun nofun

theorem Consistent.restarted (h : q.Consistent (a :: batch)) (live : q.heap a = some timer)
    (now : Timestamp) : (q.restarted now a timer).Consistent (a :: batch) where
  owned := h.owned.restart live _
  accounts :=
    have hnote : Accounts (Live q.heap) (q.log ++ [⟨.restarted, a, timer.sequece⟩]) :=
      h.accounts.note _ (Or.inr ⟨timer, live, rfl⟩) nofun nofun
    hnote.congr fun _ => live_restart live rfl

theorem Consistent.added (h : q.Consistent (a :: batch)) (live : q.heap a = some timer)
    (clock : Timestamp) : (q.added clock a timer).Consistent batch := by
  have hinserted := h.inserted live
  unfold TimerQueue.added
  split
  · exact ⟨hinserted.owned, hinserted.accounts⟩
  · exact hinserted

/-- The timer leaves both sets, and is deleted. -/
theorem Consistent.cancelled (h : q.Consistent batch)
    (hid : ⟨timer.expiration, a⟩ ∈ q.timers) (live : q.heap a = some timer) :
    (q.cancelled a timer).Consistent batch := by
  have hnote := h.note ⟨a, timer.sequece⟩ (Or.inl rfl) nofun nofun
  have htaken : ({ q.note .cancelled ⟨a, timer.sequece⟩ with
      timers := q.timers.erase ⟨timer.expiration, a⟩
      activeTimers := q.activeTimers.erase ⟨a, timer.sequece⟩ } : TimerQueue).Consistent
        (a :: batch) := ⟨h.owned.take hid live, hnote.accounts⟩
  exact htaken.deleted live

/-- `cancelInLoop` succeeds, for every identity. -/
theorem cancelInLoop_spec (h : q.Consistent batch) (id : TimerId) :
    ∃ q', q.cancelInLoop id = .ok q' ∧ q'.Consistent batch ∧
      q'.callingExpiredTimers = q.callingExpiredTimers := by
  by_cases hid : id ∈ q.activeTimers
  · obtain ⟨timer, live, hseq, hmem⟩ := h.owned.listed id hid
    obtain ⟨a, sequence⟩ := id
    subst hseq
    exact ⟨_, cancelInLoop_active hid live, h.cancelled hmem live, rfl⟩
  · have hnote := h.note id (Or.inl rfl) nofun nofun
    refine ⟨_, cancelInLoop_inactive hid, ?_⟩
    split
    · exact ⟨⟨hnote.owned, hnote.accounts⟩, rfl⟩
    · exact ⟨hnote, rfl⟩

/-! ### Taking out a batch, and putting it back -/

theorem forget_eq {it : Entry} (live : q.heap it.timer = some timer) :
    q.forget it = .ok { q with
      activeTimers := q.activeTimers.erase ⟨it.timer, timer.sequece⟩ } := by
  simp only [forget, deref_eq live, ok_bind]
  rfl

theorem lt_sentry (h : Owned q.timers q.activeTimers q.heap batch) (now : Timestamp) {e : Entry}
    (he : e ∈ q.timers) : e < ⟨now, UINTPTR_MAX⟩ ↔ e.expiration ≤ now := by
  obtain ⟨timer, live, -⟩ := h.keyed e he
  have hbound : e.timer < UINTPTR_MAX := h.bounded e.timer timer live
  rw [Entry.lt_iff, le_iff_lt_or_eq]
  simp only [hbound, and_true]

/-- `getExpired` takes out the timers whose time has come, and touches nothing else. -/
theorem getExpired_spec (h : q.Consistent []) (now : Timestamp) :
    ∃ active, active ⊆ q.activeTimers ∧
      q.getExpired now = .ok (q.timers.filter (·.expiration ≤ now), { q with
        timers := q.timers.filter (¬ ·.expiration ≤ now), activeTimers := active }) ∧
      Owned (q.timers.filter (¬ ·.expiration ≤ now)) active q.heap
        ((q.timers.filter (·.expiration ≤ now)).map Entry.timer) := by
  have hsentry := fun e he => lt_sentry h.owned now (e := e) he
  have htake : q.timers.takeWhile (· < ⟨now, UINTPTR_MAX⟩) =
      q.timers.filter (·.expiration ≤ now) := by
    rw [SortedSet.takeWhile_lt h.owned.sorted]
    exact List.filter_congr fun e he => decide_eq_decide.mpr (hsentry e he)
  have hdrop : q.timers.dropWhile (· < ⟨now, UINTPTR_MAX⟩) =
      q.timers.filter (¬ ·.expiration ≤ now) := by
    rw [SortedSet.dropWhile_lt h.owned.sorted]
    exact List.filter_congr fun e he => decide_eq_decide.mpr (not_congr (hsentry e he))
  have hall := List.takeWhile_append_dropWhile (p := (· < ⟨now, UINTPTR_MAX⟩)) (l := q.timers)
  simp only [getExpired]
  rw [htake, hdrop] at *
  generalize q.timers.filter (·.expiration ≤ now) = expired at *
  generalize q.timers.filter (¬ ·.expiration ≤ now) = kept at *
  -- A round of the loop takes its timer out of the set of the active ones, too.
  obtain ⟨_, hfold, done, active, hdone, hsub, rfl, howned⟩ := foldlM_invariant
    (fun rest q₁ => ∃ done active, done ++ rest = expired ∧ active ⊆ q.activeTimers ∧
      q₁ = { q with timers := kept, activeTimers := active } ∧
      Owned (rest ++ kept) active q.heap (done.map Entry.timer))
    (by
      rintro e rest _ ⟨done, active, hdone, hsub, rfl, howned⟩
      obtain ⟨timer, live, -⟩ := howned.keyed e (List.mem_cons_self ..)
      have hnext := howned.take (List.mem_cons_self ..) live
      rw [List.cons_append, List.erase_cons_head] at hnext
      refine ⟨_, forget_eq live, done ++ [e], _, by rw [List.append_assoc]; exact hdone,
        (Finset.erase_subset _ _).trans hsub, rfl, hnext.perm ?_⟩
      rw [List.map_append]
      exact (List.perm_append_singleton ..).symm)
    expired (s := { q with timers := kept })
    ⟨[], q.activeTimers, rfl, Finset.Subset.refl _, rfl, by rw [hall]; exact h.owned⟩
  rw [List.append_nil] at hdone
  subst hdone
  exact ⟨active, hsub, by rw [hfold]; rfl, howned⟩

/-- The queue behind a round of the loop of `reset`. -/
def retired (q : TimerQueue) (now : Timestamp) (a : Address) (timer : Timer) : TimerQueue :=
  if timer.repeats = true ∧ ⟨a, timer.sequece⟩ ∉ q.cancelingTimers then
    (q.restarted now a timer).inserted a (timer.restart now)
  else q.deleted a timer

/-- The queue behind the last part of `reset`. -/
def rearmed (q : TimerQueue) (clock : Timestamp) : TimerQueue :=
  match q.timers.head? with
  | none => q
  | some first =>
      if first.expiration.valid then q.resetTimerfd clock first.expiration else q

@[simp] theorem retired_calling {now : Timestamp} :
    (q.retired now a timer).callingExpiredTimers = q.callingExpiredTimers := by
  unfold retired
  split
  · rfl
  · rfl

@[simp] theorem rearmed_calling {clock : Timestamp} :
    (q.rearmed clock).callingExpiredTimers = q.callingExpiredTimers := by
  unfold rearmed
  split
  · rfl
  · split
    · rfl
    · rfl

theorem resetTimer_eq {it : Entry} (live : q.heap it.timer = some timer) (now : Timestamp) :
    resetTimer now q it = .ok (q.retired now it.timer timer) := by
  have hrestarted : (q.restarted now it.timer timer).heap it.timer = some (timer.restart now) :=
    Function.update_self ..
  simp only [resetTimer, deref_eq live, ok_bind, retired]
  split
  · rw [restart_eq live, ok_bind, insert_eq hrestarted, ok_bind]
    rfl
  · exact delete_eq live

theorem Consistent.retired (h : q.Consistent (a :: batch)) (live : q.heap a = some timer)
    (now : Timestamp) : (q.retired now a timer).Consistent batch := by
  have hrestarted : (q.restarted now a timer).heap a = some (timer.restart now) :=
    Function.update_self ..
  unfold TimerQueue.retired
  split
  · exact (h.restarted live now).inserted hrestarted
  · exact h.deleted live

theorem Consistent.rearmed (h : q.Consistent batch) (clock : Timestamp) :
    (q.rearmed clock).Consistent batch := by
  unfold TimerQueue.rearmed
  split
  · exact h
  · split
    · exact ⟨h.owned, h.accounts⟩
    · exact h

/-- `reset` succeeds; what the rounds of its loop keep holds when it arms the descriptor. -/
theorem reset_spec {now : Timestamp} (P : List Entry → TimerQueue → Prop)
    (keep : ∀ it rest q timer, q.Consistent (it.timer :: rest.map Entry.timer) →
      q.heap it.timer = some timer → P (it :: rest) q → P rest (q.retired now it.timer timer))
    {expired : List Entry} (h : q.Consistent (expired.map Entry.timer)) (start : P expired q)
    (clock : Timestamp) :
    ∃ q', q'.Consistent [] ∧ P [] q' ∧ q.reset expired now clock = .ok (q'.rearmed clock) := by
  obtain ⟨q', hfold, hq', hP⟩ := foldlM_invariant
    (fun rest q => q.Consistent (rest.map Entry.timer) ∧ P rest q)
    (by
      rintro it rest q ⟨h, hP⟩
      obtain ⟨timer, live, -⟩ := h.owned.taken it.timer (List.mem_cons_self ..)
      exact ⟨_, resetTimer_eq live now, h.retired live now, keep it rest q timer h live hP⟩)
    expired ⟨h, start⟩
  refine ⟨q', hq', hP, ?_⟩
  unfold reset TimerQueue.rearmed
  rw [hfold, ok_bind]
  cases hhead : q'.timers.head? with
  | none => rfl
  | some first =>
      obtain ⟨timer, live, hexp, -⟩ := hq'.owned.keyed first (List.mem_of_head? hhead)
      simp only [deref_eq live, ok_bind, hexp]
      split
      · rfl
      · rfl

end Operations

end TimerQueue

/-! ### Every run -/

namespace TimerLoop

/-- The addresses of the timers that are being run. -/
def batch (s : TimerLoop) : List Address :=
  match s.reading with
  | none => []
  | some r => r.expired.map Entry.timer

/-- What holds between two calls. -/
structure Consistent (s : TimerLoop) : Prop where
  queue : s.queue.Consistent s.batch
  left : ∀ r, s.reading = some r → r.left <:+ r.expired
  calling : s.queue.callingExpiredTimers = s.reading.isSome

theorem consistent_start : Consistent {} where
  queue := TimerQueue.consistent_empty
  left := nofun
  calling := rfl

section Steps

variable {s : TimerLoop}

theorem step_addTimerInLoop (a : Address) (timer : Timer) (clock : Timestamp) :
    s.step (.addTimerInLoop a timer clock) =
      .ok { s with queue := (s.queue.newTimer a timer).added clock a timer } := by
  have hlive : (s.queue.newTimer a timer).heap a = some timer := Function.update_self ..
  simp only [step, TimerQueue.addTimerInLoop_eq hlive, ok_bind]
  rfl

theorem step_cancelInLoop {id : TimerId} {q : TimerQueue} (h : s.queue.cancelInLoop id = .ok q) :
    s.step (.cancelInLoop id) = .ok { s with queue := q } := by
  simp only [step, h, ok_bind]
  rfl

theorem Consistent.of_not_reading (h : s.Consistent) (hreading : s.reading = none) :
    s.queue.Consistent [] := by
  have hqueue := h.queue
  rwa [batch, hreading] at hqueue

theorem Consistent.of_reading (h : s.Consistent) {r : Reading} (hreading : s.reading = some r) :
    s.queue.Consistent (r.expired.map Entry.timer) := by
  have hqueue := h.queue
  rwa [batch, hreading] at hqueue

theorem step_handleRead (h : s.Consistent) (hreading : s.reading = none) (now : Timestamp) :
    ∃ active, active ⊆ s.queue.activeTimers ∧
      Owned (s.queue.timers.filter (¬ ·.expiration ≤ now)) active s.queue.heap
        ((s.queue.timers.filter (·.expiration ≤ now)).map Entry.timer) ∧
      s.step (.handleRead now) = .ok {
        queue := { s.queue.readTimerfd now with
          timers := s.queue.timers.filter (¬ ·.expiration ≤ now)
          activeTimers := active
          callingExpiredTimers := true
          cancelingTimers := ∅ }
        reading := some ⟨now, s.queue.timers.filter (·.expiration ≤ now),
          s.queue.timers.filter (·.expiration ≤ now)⟩ } := by
  have hqueue := h.of_not_reading hreading
  have hread : (s.queue.readTimerfd now).Consistent [] := ⟨hqueue.owned, hqueue.accounts⟩
  obtain ⟨active, hsub, hget, howned⟩ := TimerQueue.getExpired_spec hread now
  refine ⟨active, hsub, howned, ?_⟩
  simp only [step, hget, ok_bind]
  rfl

theorem step_runNext (h : s.Consistent) {now : Timestamp} {expired left : List Entry} {it : Entry}
    (hreading : s.reading = some ⟨now, expired, it :: left⟩) :
    ∃ timer, s.queue.heap it.timer = some timer ∧
      s.step .runNext = .ok {
        queue := s.queue.note .ran ⟨it.timer, timer.sequece⟩
        reading := some ⟨now, expired, left⟩ } := by
  have hit : it ∈ expired := (h.left _ hreading).subset (List.mem_cons_self ..)
  obtain ⟨timer, live, -⟩ := (h.of_reading hreading).owned.taken it.timer
    (List.mem_map_of_mem hit)
  refine ⟨timer, live, ?_⟩
  simp only [step, hreading, TimerQueue.run_eq live, ok_bind]
  rfl

/-- `reset` succeeds; what the rounds of its loop keep holds when it arms the descriptor. -/
theorem step_reset (h : s.Consistent) {now : Timestamp} {expired : List Entry}
    (hreading : s.reading = some ⟨now, expired, []⟩) (P : List Entry → TimerQueue → Prop)
    (keep : ∀ it rest q timer, q.Consistent (it.timer :: rest.map Entry.timer) →
      q.heap it.timer = some timer → P (it :: rest) q → P rest (q.retired now it.timer timer))
    (start : P expired { s.queue with callingExpiredTimers := false }) (clock : Timestamp) :
    ∃ q, q.Consistent [] ∧ P [] q ∧
      s.step (.reset clock) = .ok { queue := q.rearmed clock, reading := none } := by
  have hqueue := h.of_reading hreading
  have hstart : ({ s.queue with callingExpiredTimers := false } : TimerQueue).Consistent
      (expired.map Entry.timer) := ⟨hqueue.owned, hqueue.accounts⟩
  obtain ⟨q, hq, hP, hreset⟩ := TimerQueue.reset_spec P keep hstart start clock
  refine ⟨q, hq, hP, ?_⟩
  simp only [step, hreading, hreset, ok_bind]
  rfl

/-- Every possible call succeeds, and leaves the sets and the log consistent. -/
theorem step_spec (h : s.Consistent) {call : TimerCall} (possible : s.Possible call) :
    ∃ s', s.step call = .ok s' ∧ s'.Consistent := by
  cases call with
  | addTimerInLoop a timer clock =>
      obtain ⟨-, free, bound, new⟩ := possible
      refine ⟨_, step_addTimerInLoop a timer clock, ?_⟩
      constructor
      · exact (h.queue.newTimer free bound new).added (Function.update_self ..) clock
      · exact h.left
      · rw [TimerQueue.added_calling]
        exact h.calling
  | cancelInLoop id =>
      obtain ⟨q, hq, hconsistent, hcalling⟩ := TimerQueue.cancelInLoop_spec h.queue id
      exact ⟨_, step_cancelInLoop hq, hconsistent, h.left, hcalling.trans h.calling⟩
  | handleRead now =>
      have hqueue := h.of_not_reading possible.1
      obtain ⟨active, -, howned, hstep⟩ := step_handleRead h possible.1 now
      refine ⟨_, hstep, ⟨howned, hqueue.accounts⟩, ?_, rfl⟩
      intro r hr
      cases hr
      exact List.suffix_refl _
  | runNext =>
      obtain ⟨⟨now, expired, left⟩, hreading, hleft⟩ := possible
      cases left with
      | nil => exact absurd rfl hleft
      | cons it left =>
          have hqueue := h.of_reading hreading
          obtain ⟨timer, live, hstep⟩ := step_runNext h hreading
          refine ⟨_, hstep, hqueue.note _ (Or.inr ⟨timer, live, rfl⟩) nofun nofun, ?_, ?_⟩
          · intro r hr
            cases hr
            exact (List.suffix_cons ..).trans (h.left _ hreading)
          · have hcalling := h.calling
            rwa [hreading] at hcalling
  | reset clock =>
      obtain ⟨⟨now, expired, left⟩, hreading, hleft⟩ := possible
      cases hleft
      obtain ⟨q, hq, hcalling, hstep⟩ := step_reset h hreading
        (fun _ q => q.callingExpiredTimers = false)
        (fun _ _ q _ _ _ hcalling => by rw [TimerQueue.retired_calling]; exact hcalling) rfl clock
      refine ⟨_, hstep, hq.rearmed clock, nofun, ?_⟩
      rw [TimerQueue.rearmed_calling]
      exact hcalling

/-- Both hold between the calls of every run, whatever is added and cancelled when. -/
theorem reachable_consistent {s : TimerLoop} (h : Reachable step Possible {} s) : s.Consistent := by
  refine h.invariant (I := Consistent) ?_ consistent_start
  intro s call s' possible hs taken
  obtain ⟨_, hstep, hs'⟩ := step_spec hs possible
  cases hstep.symm.trans taken
  exact hs'

end Steps

/-- Outside of `getExpired` and `reset`, the two sets hold the same timers, in order of their
expirations; `getExpired` removes those that have expired; every timer that has been created is
in the sets, in the batch being run or deleted, and is not touched once it is deleted; and every
call that can come next finds the timers that it follows a pointer to. -/
theorem sets_consistent {s : TimerLoop} (h : Reachable step Possible {} s) :
    SortedSet.Sorted s.queue.timers ∧
    (∀ e ∈ s.queue.timers, ∃ timer, s.queue.heap e.timer = some timer ∧
      timer.expiration = e.expiration ∧ ⟨e.timer, timer.sequece⟩ ∈ s.queue.activeTimers) ∧
    (∀ id ∈ s.queue.activeTimers, ∃ timer, s.queue.heap id.timer = some timer ∧
      timer.sequece = id.sequence ∧ ⟨timer.expiration, id.timer⟩ ∈ s.queue.timers) ∧
    (∀ now, s.reading = none → ∃ q,
      s.queue.getExpired now = .ok (s.queue.timers.filter (·.expiration ≤ now), q) ∧
      q.timers = s.queue.timers.filter (¬ ·.expiration ≤ now)) ∧
    (∀ id, ⟨.created, id⟩ ∈ s.queue.log →
      id ∈ s.queue.activeTimers ∨ id.timer ∈ s.batch ∧ Live s.queue.heap id ∨
        ⟨.deleted, id⟩ ∈ s.queue.log) ∧
    NothingAfterDeletion s.queue.log ∧
    ∀ call, s.Possible call → ∃ s', s.step call = .ok s' := by
  have hs := reachable_consistent h
  refine ⟨hs.queue.owned.sorted, hs.queue.owned.keyed, hs.queue.owned.listed, ?_, ?_,
    hs.queue.accounts.last, ?_⟩
  · intro now hreading
    obtain ⟨active, -, hget, -⟩ :=
      TimerQueue.getExpired_spec (hs.of_not_reading hreading) now
    exact ⟨_, hget, rfl⟩
  · intro id hcreated
    rcases hs.queue.accounts.fate id hcreated with hlive | hdeleted
    · obtain ⟨timer, live, hseq⟩ := hlive
      have hcovered := hs.queue.owned.covered id.timer timer live
      rw [hseq] at hcovered
      exact hcovered.imp_right fun hmem => Or.inl ⟨hmem, timer, live, hseq⟩
    · exact Or.inr (Or.inr hdeleted)
  · intro call possible
    obtain ⟨s', hstep, -⟩ := step_spec hs possible
    exact ⟨s', hstep⟩

/-- A timer for every millisecond. -/
def ticker : Timer where
  expiration := 500
  interval := 1000
  repeats := true
  sequece := 1

/-- The timer runs twice, and its callback cancels it the second time. -/
def tickerCalls : List TimerCall :=
  [.addTimerInLoop 7 ticker 100, .handleRead 600, .runNext, .reset 620,
    .handleRead 1700, .runNext, .cancelInLoop ⟨7, 1⟩, .reset 1720]

theorem ticker_consistent : ∃ s : TimerLoop,
    s.queue.log.map TimerEvent.action =
      [.created, .inserted, .ran, .restarted, .inserted, .ran, .cancelled, .deleted] ∧
    NothingAfterDeletion s.queue.log := by
  have hlog : (follow step Possible {} tickerCalls).map (·.queue.log.map TimerEvent.action) =
      some [.created, .inserted, .ran, .restarted, .inserted, .ran, .cancelled, .deleted] := by
    decide
  obtain ⟨s, hs, hlog⟩ := Option.map_eq_some_iff.mp hlog
  exact ⟨s, hlog, (sets_consistent (Reachable.start.of_follow hs)).2.2.2.2.2.1⟩

end TimerLoop

end Rmuduo.Net
