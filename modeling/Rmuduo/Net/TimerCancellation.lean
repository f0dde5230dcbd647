/-
Timers that are cancelled (`net/TimerQueue.cc`).

* `Timely` — calls that do not cancel a timer of the batch that is still to be run, nor one
  before it is added.
* `TimerLoop.cancelled_silent` — in a run of such calls, a timer is not run behind its
  cancellation.
* `TimerLoop.neighbour_runs` — in other runs it can be.
-/

import Rmuduo.Net.TimerOwnership

namespace Rmuduo.Net

open Lib Lib.System

/-- No timer is run behind a cancellation of it. -/
def SilentAfterCancellation (log : List TimerEvent) : Prop :=
  log.Pairwise fun before after =>
    before.action = .cancelled → after.id = before.id → after.action ≠ .ran

theorem SilentAfterCancellation.append {log : List TimerEvent} (h : SilentAfterCancellation log)
    {event : TimerEvent} (hevent : event.action = .ran → ⟨.cancelled, event.id⟩ ∉ log) :
    SilentAfterCancellation (log ++ [event]) := by
  refine List.pairwise_append.mpr ⟨h, List.pairwise_singleton _ _, ?_⟩
  rintro ⟨action, id⟩ hbefore after hafter haction hid hran
  cases List.mem_singleton.mp hafter
  cases haction
  cases hid
  exact hevent hran hbefore

namespace TimerQueue

/-- The identity of the timer at an address. -/
def identity (q : TimerQueue) (a : Address) : Option TimerId :=
  (q.heap a).map fun timer => ⟨a, timer.sequece⟩

/-- Nothing is left that would run a timer that has been cancelled: it is in no set, it is not
still to be run, and if it is in the batch then it is known not to be put back. -/
structure Quiet (q : TimerQueue) (left expired : List Entry) : Prop where
  silent : SilentAfterCancellation q.log
  absent : ∀ id, ⟨.cancelled, id⟩ ∈ q.log → id ∉ q.activeTimers
  passed : ∀ id, ⟨.cancelled, id⟩ ∈ q.log → ∀ e ∈ left, q.identity e.timer ≠ some id
  marked : ∀ id, ⟨.cancelled, id⟩ ∈ q.log → ∀ e ∈ expired, q.identity e.timer = some id →
    id ∈ q.cancelingTimers

section Operations

variable {q : TimerQueue} {left expired : List Entry} {batch : List Address} {a : Address}
  {timer : Timer} {id : TimerId}

theorem identity_eq (live : q.heap a = some timer) :
    q.identity a = some ⟨a, timer.sequece⟩ := by
  rw [identity, live]
  rfl

theorem quiet_empty : Quiet {} [] [] where
  silent := List.Pairwise.nil
  absent := by simp
  passed := by simp
  marked := by simp

/-- The event of another kind in the log does not count. -/
theorem mem_log_append {log : List TimerEvent} {action : TimerAction} {id' : TimerId}
    (hne : action ≠ .cancelled) (h : ⟨.cancelled, id⟩ ∈ log ++ [⟨action, id'⟩]) :
    ⟨.cancelled, id⟩ ∈ log := by
  rcases List.mem_append.mp h with h | h
  · exact h
  · cases List.mem_singleton.mp h
    exact absurd rfl hne

/-- A change of the timers that are not in the batch, and an event that is neither a
cancellation nor a call of a cancelled timer. -/
theorem Quiet.change (h : q.Quiet left expired) (hsub : left ⊆ expired) {q' : TimerQueue}
    {action : TimerAction} (hlog : q'.log = q.log ++ [⟨action, id⟩])
    (hcancelled : action ≠ .cancelled) (hran : action = .ran → ⟨.cancelled, id⟩ ∉ q.log)
    (absent : ∀ id', ⟨.cancelled, id'⟩ ∈ q.log → id' ∉ q'.activeTimers)
    (same : ∀ e ∈ expired, q'.identity e.timer = q.identity e.timer)
    (marks : q'.cancelingTimers = q.cancelingTimers) : q'.Quiet left expired where
  silent := by
    rw [hlog]
    exact h.silent.append hran
  absent id' hid' := absent id' (mem_log_append hcancelled (hlog ▸ hid'))
  passed id' hid' e he := by
    rw [same e (hsub he)]
    exact h.passed id' (mem_log_append hcancelled (hlog ▸ hid')) e he
  marked id' hid' e he := by
    rw [same e he, marks]
    exact h.marked id' (mem_log_append hcancelled (hlog ▸ hid')) e he

theorem Quiet.mono {left' expired' : List Entry} (h : q.Quiet left expired)
    (hleft : left' ⊆ left) (hexpired : expired' ⊆ expired) : q.Quiet left' expired' where
  silent := h.silent
  absent := h.absent
  passed id hid e he := h.passed id hid e (hleft he)
  marked id hid e he := h.marked id hid e (hexpired he)

/-- A cancellation is noted. -/
theorem Quiet.cancel (h : q.Quiet left expired) {q' : TimerQueue}
    (hlog : q'.log = q.log ++ [⟨.cancelled, id⟩]) (hheap : q'.heap = q.heap)
    (hactive : q'.activeTimers ⊆ q.activeTimers) (absent : id ∉ q'.activeTimers)
    (hmarks : q.cancelingTimers ⊆ q'.cancelingTimers)
    (passed : ∀ e ∈ left, q.identity e.timer ≠ some id)
    (marked : ∀ e ∈ expired, q.identity e.timer = some id → id ∈ q'.cancelingTimers) :
    q'.Quiet left expired := by
  have hmem : ∀ id', ⟨.cancelled, id'⟩ ∈ q'.log → ⟨.cancelled, id'⟩ ∈ q.log ∨ id' = id := by
    intro id' hid'
    rw [hlog] at hid'
    refine (List.mem_append.mp hid').imp_right fun hid' => ?_
    cases List.mem_singleton.mp hid'
    rfl
  have hidentity : ∀ a, q'.identity a = q.identity a := by
    intro a
    rw [identity, identity, hheap]
  constructor
  · rw [hlog]
    exact h.silent.append nofun
  · intro id' hid' hin
    rcases hmem id' hid' with hid' | rfl
    · exact h.absent id' hid' (hactive hin)
    · exact absent hin
  · intro id' hid' e he
    rw [hidentity]
    rcases hmem id' hid' with hid' | rfl
    · exact h.passed id' hid' e he
    · exact passed e he
  · intro id' hid' e he heq
    rw [hidentity] at heq
    rcases hmem id' hid' with hid' | rfl
    · exact hmarks (h.marked id' hid' e he heq)
    · exact marked e he heq

variable (hq : q.Consistent (expired.map Entry.timer)) (hsub : left ⊆ expired)
include hq

theorem Consistent.exists_of_mem {e : Entry} (he : e ∈ expired) :
    ∃ timer, q.heap e.timer = some timer ∧ ⟨e.timer, timer.sequece⟩ ∉ q.activeTimers :=
  hq.owned.taken e.timer (List.mem_map_of_mem he)

theorem Consistent.identity_ne {e : Entry} (he : e ∈ expired) (hid : id ∈ q.activeTimers) :
    q.identity e.timer ≠ some id := by
  obtain ⟨timer, live, hnot⟩ := hq.exists_of_mem he
  rw [identity_eq live]
  rintro ⟨⟩
  exact hnot hid

include hsub

theorem Quiet.added (h : q.Quiet left expired) (free : q.heap a = none)
    (timely : ⟨.cancelled, a, timer.sequece⟩ ∉ q.log) (clock : Timestamp) :
    ((q.newTimer a timer).added clock a timer).Quiet left expired := by
  have hnew : (q.newTimer a timer).Quiet left expired := by
    refine h.change hsub rfl nofun nofun h.absent ?_ rfl
    intro e he
    obtain ⟨timer', live, -⟩ := hq.exists_of_mem he
    have hne : e.timer ≠ a := by
      rintro rfl
      cases free.symm.trans live
    exact congrArg (Option.map _) (Function.update_of_ne hne ..)
  have hinserted : ((q.newTimer a timer).inserted a timer).Quiet left expired := by
    refine hnew.change hsub rfl nofun nofun ?_ (fun _ _ => rfl) rfl
    intro id hid hmem
    rcases Finset.mem_insert.mp hmem with rfl | hmem
    · have hne : TimerAction.created ≠ .cancelled := nofun
      exact timely (mem_log_append hne hid)
    · exact hnew.absent id hid hmem
  unfold TimerQueue.added
  split
  · exact ⟨hinserted.silent, hinserted.absent, hinserted.passed, hinserted.marked⟩
  · exact hinserted

theorem Quiet.cancelled (h : q.Quiet left expired)
    (hid : ⟨a, timer.sequece⟩ ∈ q.activeTimers) : (q.cancelled a timer).Quiet left expired := by
  have hcancel : ({ q.note .cancelled ⟨a, timer.sequece⟩ with
      timers := q.timers.erase ⟨timer.expiration, a⟩
      activeTimers := q.activeTimers.erase ⟨a, timer.sequece⟩ } : TimerQueue).Quiet
        left expired :=
    h.cancel rfl rfl (Finset.erase_subset ..) (Finset.notMem_erase _ _) (Finset.Subset.refl _)
      (fun e he => hq.identity_ne (hsub he) hid)
      (fun e he heq => absurd heq (hq.identity_ne he hid))
  refine hcancel.change hsub rfl nofun nofun hcancel.absent ?_ rfl
  intro e he
  have hne : e.timer ≠ a :=
    (hq.owned.ne_of_mem_active (List.mem_map_of_mem he) hid).symm
  exact congrArg (Option.map _) (Function.update_of_ne hne ..)

omit hq hsub

/-- A round of the loop of `reset` does not put back a timer that has been cancelled. -/
theorem Quiet.retired {it : Entry} {rest : List Entry}
    (hq : q.Consistent (it.timer :: rest.map Entry.timer)) (live : q.heap it.timer = some timer)
    (h : q.Quiet [] (it :: rest)) (now : Timestamp) :
    (q.retired now it.timer timer).Quiet [] rest := by
  have hrest : q.Quiet [] rest := h.mono (List.Subset.refl _) (List.subset_cons_self ..)
  have hne : ∀ e ∈ rest, e.timer ≠ it.timer := by
    rintro e he heq
    exact (List.nodup_cons.mp hq.owned.once).1 (heq ▸ List.mem_map_of_mem he)
  have hsame : ∀ new, ∀ e ∈ rest,
      (Function.update q.heap it.timer new) e.timer = q.heap e.timer :=
    fun new e he => Function.update_of_ne (hne e he) ..
  have hnil : [] ⊆ rest := List.nil_subset rest
  unfold TimerQueue.retired
  split
  · rename_i hback
    have hrestarted : (q.restarted now it.timer timer).Quiet [] rest :=
      hrest.change hnil rfl nofun nofun hrest.absent
        (fun e he => congrArg (Option.map _) (hsame _ e he)) rfl
    refine hrestarted.change hnil rfl nofun nofun ?_ (fun _ _ => rfl) rfl
    intro id hid hmem
    rcases Finset.mem_insert.mp hmem with rfl | hmem
    · have hne : TimerAction.restarted ≠ .cancelled := nofun
      exact hback.2 (h.marked _ (mem_log_append hne hid) it (List.mem_cons_self ..)
        (identity_eq live))
    · exact hrestarted.absent id hid hmem
  · exact hrest.change hnil rfl nofun nofun hrest.absent
      (fun e he => congrArg (Option.map _) (hsame _ e he)) rfl

theorem Quiet.rearmed (h : q.Quiet left expired) (clock : Timestamp) :
    (q.rearmed clock).Quiet left expired := by
  unfold TimerQueue.rearmed
  split
  · exact h
  · split
    · exact ⟨h.silent, h.absent, h.passed, h.marked⟩
    · exact h

end Operations

end TimerQueue

/-! ### Every run -/

namespace TimerLoop

/-- The entries that are still to be run, and those of the batch. -/
def left (s : TimerLoop) : List Entry := s.reading.elim [] Reading.left

def expired (s : TimerLoop) : List Entry := s.reading.elim [] Reading.expired

/-- The calls of a run that cancels in time: not a timer that has been taken out and is still to
be run, and not one that is added later. -/
def Timely (s : TimerLoop) (call : TimerCall) : Prop :=
  s.Possible call ∧
    match call with
    | .addTimerInLoop a timer _ => ⟨.cancelled, a, timer.sequece⟩ ∉ s.queue.log
    | .cancelInLoop id => ∀ e ∈ s.left, s.queue.identity e.timer ≠ some id
    | _ => True

instance instDecidableTimely (s : TimerLoop) (call : TimerCall) : Decidable (s.Timely call) :=
  match call with
  | .addTimerInLoop a timer clock =>
      inferInstanceAs (Decidable (s.Possible (.addTimerInLoop a timer clock) ∧
        ⟨.cancelled, a, timer.sequece⟩ ∉ s.queue.log))
  | .cancelInLoop id =>
      inferInstanceAs (Decidable (s.Possible (.cancelInLoop id) ∧
        ∀ e ∈ s.left, s.queue.identity e.timer ≠ some id))
  | .handleRead now => inferInstanceAs (Decidable (s.Possible (.handleRead now) ∧ True))
  | .runNext => inferInstanceAs (Decidable (s.Possible .runNext ∧ True))
  | .reset clock => inferInstanceAs (Decidable (s.Possible (.reset clock) ∧ True))

section Steps

variable {s s' : TimerLoop}

theorem batch_eq : s.batch = s.expired.map Entry.timer := by
  obtain ⟨queue, reading⟩ := s
  cases reading with
  | none => rfl
  | some r => rfl

theorem Consistent.left_subset (h : s.Consistent) : s.left ⊆ s.expired := by
  obtain ⟨queue, reading⟩ := s
  cases reading with
  | none => exact List.nil_subset _
  | some r => exact (h.left r rfl).subset

/-- A timely call keeps a cancelled timer from being run. -/
theorem step_quiet (hs : s.Consistent) (h : s.queue.Quiet s.left s.expired) {call : TimerCall}
    (timely : s.Timely call) (taken : s.step call = .ok s') :
    s'.queue.Quiet s'.left s'.expired := by
  have hqueue : s.queue.Consistent (s.expired.map Entry.timer) := batch_eq ▸ hs.queue
  have hsub := hs.left_subset
  obtain ⟨possible, timely⟩ := timely
  cases call with
  | addTimerInLoop a timer clock =>
      cases (step_addTimerInLoop a timer clock).symm.trans taken
      exact h.added hqueue hsub possible.2.1 timely clock
  | cancelInLoop id =>
      by_cases hid : id ∈ s.queue.activeTimers
      · obtain ⟨timer, live, hseq, -⟩ := hqueue.owned.listed id hid
        obtain ⟨a, sequence⟩ := id
        subst hseq
        cases (step_cancelInLoop (TimerQueue.cancelInLoop_active hid live)).symm.trans taken
        exact h.cancelled hqueue hsub hid
      · cases (step_cancelInLoop (TimerQueue.cancelInLoop_inactive hid)).symm.trans taken
        cases hcalling : s.queue.callingExpiredTimers with
        | true =>
            exact h.cancel rfl rfl (Finset.Subset.refl _) hid (Finset.subset_insert ..) timely
              (fun _ _ _ => Finset.mem_insert_self ..)
        | false =>
            have hnone : s.expired = [] := by
              rw [hs.calling, Option.isSome_eq_false_iff, Option.isNone_iff_eq_none] at hcalling
              rw [expired, hcalling]
              rfl
            refine h.cancel rfl rfl (Finset.Subset.refl _) hid (Finset.Subset.refl _) timely ?_
            rw [hnone]
            nofun
  | handleRead now =>
      obtain ⟨active, hactive, howned, hstep⟩ := step_handleRead hs possible.1 now
      cases hstep.symm.trans taken
      -- The timers that are taken out have stood in the sets.
      have hkeyed : ∀ id, ⟨.cancelled, id⟩ ∈ s.queue.log →
          ∀ e ∈ s.queue.timers.filter (·.expiration ≤ now),
            s.queue.identity e.timer ≠ some id := by
        intro id hid e he heq
        obtain ⟨timer, live, -, hmem⟩ := hqueue.owned.keyed e (List.mem_of_mem_filter he)
        cases (TimerQueue.identity_eq live).symm.trans heq
        exact h.absent _ hid hmem
      constructor
      · exact h.silent
      · exact fun id hid hmem => h.absent id hid (hactive hmem)
      · exact hkeyed
      · exact fun id hid e he heq => absurd heq (hkeyed id hid e he)
  | runNext =>
      obtain ⟨⟨now, expired, left⟩, hreading, hleft⟩ := possible
      cases left with
      | nil => exact absurd rfl hleft
      | cons it left =>
          obtain ⟨timer, live, hstep⟩ := step_runNext hs hreading
          cases hstep.symm.trans taken
          have hnow : s.left = it :: left := by rw [TimerLoop.left, hreading]; rfl
          have hbatch : s.expired = expired := by rw [TimerLoop.expired, hreading]; rfl
          rw [hnow, hbatch] at h hsub
          have hran : (s.queue.note .ran ⟨it.timer, timer.sequece⟩).Quiet (it :: left) expired := by
            refine h.change hsub rfl nofun (fun _ hid => ?_) h.absent (fun _ _ => rfl) rfl
            exact h.passed _ hid it (List.mem_cons_self ..) (TimerQueue.identity_eq live)
          exact hran.mono (List.subset_cons_self ..) (List.Subset.refl _)
  | reset clock =>
      obtain ⟨⟨now, expired, left⟩, hreading, hleft⟩ := possible
      cases hleft
      have hnow : s.left = [] := by rw [TimerLoop.left, hreading]; rfl
      have hbatch : s.expired = expired := by rw [TimerLoop.expired, hreading]; rfl
      rw [hnow, hbatch] at h
      obtain ⟨q, -, hq, hstep⟩ := step_reset hs hreading (fun rest q => q.Quiet [] rest)
        (fun it rest q timer hq live h => h.retired hq live now)
        ⟨h.silent, h.absent, h.passed, h.marked⟩ clock
      cases hstep.symm.trans taken
      exact hq.rearmed clock

end Steps

/-- In every run that cancels in time, a timer that has been cancelled is not run again. -/
theorem cancelled_silent {s : TimerLoop} (h : Reachable step Timely {} s) :
    SilentAfterCancellation s.queue.log := by
  have hquiet : s.queue.Quiet s.left s.expired := h.invariant_of_reached
    (I := fun s => s.queue.Quiet s.left s.expired)
    (fun before timely h taken =>
      step_quiet (reachable_consistent (before.mono And.left)) h timely taken)
    TimerQueue.quiet_empty
  exact hquiet.silent

/-- Two timers for the same time, the first of which has a callback that cancels the second. -/
def neighbour (sequece : Int) : Timer where
  expiration := 500
  interval := 0
  repeats := false
  sequece := sequece

def neighbourCalls : List TimerCall :=
  [.addTimerInLoop 1 (neighbour 1) 100, .addTimerInLoop 2 (neighbour 2) 110, .handleRead 600,
    .runNext, .cancelInLoop ⟨2, 2⟩, .runNext]

theorem neighbour_runs : ¬ ∀ s, Reachable step Possible {} s →
    SilentAfterCancellation s.queue.log := by
  intro h
  have hlog : ((follow step Possible {} neighbourCalls).map fun s =>
      s.queue.log.drop 4) = some [⟨.ran, 1, 1⟩, ⟨.cancelled, 2, 2⟩, ⟨.ran, 2, 2⟩] := by decide
  obtain ⟨s, hs, hlog⟩ := Option.map_eq_some_iff.mp hlog
  have hsilent := (h s (Reachable.start.of_follow hs)).sublist (List.drop_sublist 4 _)
  rw [hlog] at hsilent
  revert hsilent
  decide

/-- A timer that is cancelled by its own callback is cancelled in time. -/
theorem ticker_silent : ∃ s : TimerLoop,
    s.queue.log.map TimerEvent.action =
      [.created, .inserted, .ran, .restarted, .inserted, .ran, .cancelled, .deleted] ∧
    SilentAfterCancellation s.queue.log := by
  have hlog : (follow step Timely {} tickerCalls).map (·.queue.log.map TimerEvent.action) =
      some [.created, .inserted, .ran, .restarted, .inserted, .ran, .cancelled, .deleted] := by
    decide
  obtain ⟨s, hs, hlog⟩ := Option.map_eq_some_iff.mp hlog
  exact ⟨s, hlog, cancelled_silent (Reachable.start.of_follow hs)⟩

end TimerLoop

end Rmuduo.Net
