/-
The descriptor of the timer queue (`net/TimerQueue.cc`).

* `resetTimerfd_deadline` — the descriptor fires at the expiration asked for, or in a hundred
  microseconds, unless the difference to the present underflows.
* `Fitting` — calls that compute with times that stay in range.
* `Armed` — the descriptor fires in time for every timer that is due in some sense.
* `TimerLoop.armed_in_time` — in a run of fitting calls, outside of `handleRead`, for every timer
  that is waiting.
* `TimerLoop.far_forgets` — in other runs it may be set for the far future, and left so.
-/

import Rmuduo.Net.TimerOwnership

namespace Rmuduo.Net

open Lib Lib.System

/-- The descriptor fires no later than this expiration, or the least delay if that is later. -/
def Covers (timerfd : Option Arming) (expiration : Timestamp) : Prop :=
  ∃ arming, timerfd = some arming ∧
    arming.deadline ≤ max expiration.toInt (arming.setAt.toInt + 100)

theorem Covers.mono {timerfd : Option Arming} {expiration later : Timestamp}
    (h : Covers timerfd expiration) (hle : expiration ≤ later) : Covers timerfd later := by
  obtain ⟨arming, harming, hdeadline⟩ := h
  exact ⟨arming, harming, hdeadline.trans (max_le_max_right _ (Int64.le_iff_toInt_le.mp hle))⟩

/-! ### Setting the descriptor -/

/-- The parts of the delay make up the difference, and at least a hundred microseconds. -/
theorem howMuchTimeFromNow_delay (when_ clock : Timestamp) :
    (howMuchTimeFromNow when_ clock).tv_sec.toInt * 1000000 +
        (howMuchTimeFromNow when_ clock).tv_nsec.toInt / 1000 =
      max 100 (when_ - clock).toInt := by
  have hsplit : ∀ n : Int64, 0 ≤ n.toInt →
      (n / Timestamp.kMicroSecondsPerSecond).toInt * 1000000 +
        (n % Timestamp.kMicroSecondsPerSecond * 1000).toInt / 1000 = n.toInt := by
    intro n hn
    have hmicro : Timestamp.kMicroSecondsPerSecond.toInt = 1000000 := rfl
    have hthousand : (1000 : Int64).toInt = 1000 := rfl
    have hne : Timestamp.kMicroSecondsPerSecond ≠ -1 := by decide
    have hmod := Int.emod_lt_of_pos n.toInt (by decide : (0 : Int) < 1000000)
    have hpos := Int.emod_nonneg n.toInt (by decide : (1000000 : Int) ≠ 0)
    rw [Int64.toInt_div_of_ne_right _ _ hne, Int64.toInt_mul, Int64.toInt_mod, hmicro, hthousand,
      Int.tdiv_eq_ediv_of_nonneg hn, Int.tmod_eq_emod_of_nonneg hn,
      Timestamp.bmod_of_inRange ⟨by omega, by omega⟩,
      Int.mul_ediv_cancel _ (by decide : (1000 : Int) ≠ 0)]
    exact Int.ediv_mul_add_emod n.toInt 1000000
  have hhundred : (100 : Int64).toInt = 100 := rfl
  unfold howMuchTimeFromNow
  dsimp only
  split
  · rename_i hlt
    rw [Int64.lt_iff_toInt_lt, hhundred] at hlt
    rw [hsplit 100 (by decide), hhundred, max_eq_left (le_of_lt hlt)]
  · rename_i hle
    rw [Int64.lt_iff_toInt_lt, hhundred, not_lt] at hle
    rw [hsplit _ ((by decide : (0 : Int) ≤ 100).trans hle), max_eq_right hle]

namespace TimerQueue

variable {q : TimerQueue} {a : Address} {timer : Timer} {due : Timestamp → Prop}

/-- The descriptor fires at the expiration, but not in less than a hundred microseconds. -/
theorem covers_resetTimerfd {clock expiration : Timestamp}
    (fits : -2 ^ 63 ≤ expiration.toInt - clock.toInt) :
    Covers (q.resetTimerfd clock expiration).timerfd expiration := by
  refine ⟨_, rfl, ?_⟩
  dsimp only
  rw [howMuchTimeFromNow_delay]
  have hsub := Timestamp.toInt_sub_le fits
  omega

/-- The descriptor fires in time for the timers with an expiration that is due. -/
def Armed (q : TimerQueue) (due : Timestamp → Prop) : Prop :=
  ∀ e ∈ q.timers, due e.expiration → Covers q.timerfd e.expiration

theorem Armed.added (h : q.Armed due) (sorted : SortedSet.Sorted q.timers)
    (down : ∀ {t t'}, t ≤ t' → due t' → due t) {clock : Timestamp}
    (fits : (∀ first ∈ q.timers.head?, timer.expiration < first.expiration) →
      -2 ^ 63 ≤ timer.expiration.toInt - clock.toInt) :
    (q.added clock a timer).Armed due := by
  unfold TimerQueue.added
  split
  · -- The new timer comes before all others.
    rename_i hearliest
    intro e he _
    have hfirst : ∀ first ∈ q.timers.head?, timer.expiration < first.expiration := by
      intro first hfirst
      rw [Option.mem_def.mp hfirst] at hearliest
      exact of_decide_eq_true hearliest
    refine (covers_resetTimerfd (fits hfirst)).mono ?_
    rcases SortedSet.mem_insert.mp he with rfl | he
    · exact le_refl _
    · cases hhead : q.timers.head? with
      | none => cases List.head?_eq_none_iff.mp hhead ▸ he
      | some first =>
          rw [hhead] at hearliest
          have hlt : timer.expiration < first.expiration := by simpa using hearliest
          exact le_of_lt (hlt.trans_le (Entry.le_expiration (SortedSet.head_le sorted hhead he)))
  · rename_i hlater
    intro e he hdue
    rcases SortedSet.mem_insert.mp he with rfl | he
    · cases hhead : q.timers.head? with
      | none => simp [hhead] at hlater
      | some first =>
          rw [hhead] at hlater
          have hle : first.expiration ≤ timer.expiration := by simpa using hlater
          exact (h first (List.mem_of_head? hhead) (down hle hdue)).mono hle
    · exact h e he hdue

theorem Armed.subset {q' : TimerQueue} (h : q.Armed due) (hsub : q'.timers ⊆ q.timers)
    (same : q'.timerfd = q.timerfd) : q'.Armed due := by
  intro e he hdue
  rw [same]
  exact h e (hsub he) hdue

/-- The intervals of the timers that `reset` puts back can be cast, and added to `now`. -/
def IntervalsFit (q : TimerQueue) (now : Timestamp) (expired : List Entry) : Prop :=
  ∀ e ∈ expired, ∀ timer ∈ q.heap e.timer, timer.repeats = true →
    ⟨e.timer, timer.sequece⟩ ∉ q.cancelingTimers →
      0 ≤ timer.interval.toInt ∧ now.toInt + timer.interval.toInt < 2 ^ 63

instance instDecidableIntervalsFit (q : TimerQueue) (now : Timestamp) (expired : List Entry) :
    Decidable (q.IntervalsFit now expired) :=
  inferInstanceAs (Decidable (∀ e ∈ expired, ∀ timer ∈ q.heap e.timer, timer.repeats = true →
    ⟨e.timer, timer.sequece⟩ ∉ q.cancelingTimers →
      0 ≤ timer.interval.toInt ∧ now.toInt + timer.interval.toInt < 2 ^ 63))

/-- A round of the loop of `reset` leaves the other timers alone. -/
theorem IntervalsFit.retired {now : Timestamp} {it : Entry} {rest : List Entry}
    (h : q.IntervalsFit now (it :: rest)) (once : it.timer ∉ rest.map Entry.timer) :
    (q.retired now it.timer timer).IntervalsFit now rest := by
  intro e he timer' live repeats hnot
  have hne : e.timer ≠ it.timer := ne_of_mem_of_not_mem (List.mem_map_of_mem he) once
  unfold TimerQueue.retired at live hnot
  split at live
  · rename_i hback
    rw [if_pos hback] at hnot
    have hsame : q.heap e.timer = some timer' := (Function.update_of_ne hne ..).symm.trans live
    exact h e (List.mem_cons_of_mem it he) timer' hsame repeats hnot
  · rename_i hback
    rw [if_neg hback] at hnot
    have hsame : q.heap e.timer = some timer' := (Function.update_of_ne hne ..).symm.trans live
    exact h e (List.mem_cons_of_mem it he) timer' hsame repeats hnot

/-- A timer that is put back expires later than the Epoch. -/
theorem Armed.retired {now : Timestamp} {it : Entry} {rest : List Entry} (h : q.Armed (· ≤ 0))
    (hnow : 0 < now) (fits : q.IntervalsFit now (it :: rest))
    (live : q.heap it.timer = some timer) : (q.retired now it.timer timer).Armed (· ≤ 0) := by
  unfold TimerQueue.retired
  split
  · rename_i hback
    intro e he hdue
    rcases SortedSet.mem_insert.mp he with rfl | he
    · have hnow : 0 < now.toInt := Int64.lt_iff_toInt_lt.mp hnow
      obtain ⟨hinterval, hsum⟩ := fits it List.mem_cons_self timer live hback.1 hback.2
      have hexpiration := toInt_restart hback.1 (by omega) hsum
      have hle := Int64.le_iff_toInt_le.mp hdue
      rw [hexpiration, Int64.toInt_zero] at hle
      omega
    · exact h e he hdue
  · exact h.subset (List.Subset.refl _) rfl

/-- `reset` arms the descriptor for the first timer, unless its expiration is not valid. -/
theorem Armed.rearmed (h : q.Armed (· ≤ 0)) (sorted : SortedSet.Sorted q.timers)
    (clock : Timestamp) : (q.rearmed clock).Armed fun _ => True := by
  intro e he _
  unfold TimerQueue.rearmed at he ⊢
  cases hhead : q.timers.head? with
  | none =>
      rw [hhead] at he
      cases List.head?_eq_none_iff.mp hhead ▸ he
  | some first =>
      simp only [hhead] at he ⊢
      split at he
      · rename_i hvalid
        rw [if_pos hvalid]
        have hpos := Timestamp.valid_iff.mp hvalid
        have hclock := clock.toInt_lt
        exact (covers_resetTimerfd (by omega)).mono
          (Entry.le_expiration (SortedSet.head_le sorted hhead he))
      · rename_i hinvalid
        rw [if_neg hinvalid]
        have hle : first.expiration ≤ 0 := by simpa [Timestamp.valid] using hinvalid
        exact (h first (List.mem_of_head? hhead) hle).mono
          (Entry.le_expiration (SortedSet.head_le sorted hhead he))

end TimerQueue

/-! ### Every run -/

namespace TimerLoop

/-- The calls of a run whose times fit: the difference of a timer that comes first to the present
does not underflow, and the intervals of those that are put back can be added to the time that
`handleRead` has read. -/
def Fitting (s : TimerLoop) (call : TimerCall) : Prop :=
  s.Possible call ∧
    match call with
    | .addTimerInLoop _ timer clock =>
        (∀ first ∈ s.queue.timers.head?, timer.expiration < first.expiration) →
          -2 ^ 63 ≤ timer.expiration.toInt - clock.toInt
    | .reset _ => ∀ r ∈ s.reading, s.queue.IntervalsFit r.now r.expired
    | _ => True

instance instDecidableFitting (s : TimerLoop) (call : TimerCall) : Decidable (s.Fitting call) :=
  match call with
  | .addTimerInLoop a timer clock =>
      inferInstanceAs (Decidable (s.Possible (.addTimerInLoop a timer clock) ∧
        ((∀ first ∈ s.queue.timers.head?, timer.expiration < first.expiration) →
          -2 ^ 63 ≤ timer.expiration.toInt - clock.toInt)))
  | .cancelInLoop id => inferInstanceAs (Decidable (s.Possible (.cancelInLoop id) ∧ True))
  | .handleRead now => inferInstanceAs (Decidable (s.Possible (.handleRead now) ∧ True))
  | .runNext => inferInstanceAs (Decidable (s.Possible .runNext ∧ True))
  | .reset clock =>
      inferInstanceAs (Decidable (s.Possible (.reset clock) ∧
        ∀ r ∈ s.reading, s.queue.IntervalsFit r.now r.expired))

/-- Outside of `handleRead` the descriptor covers every timer; while the callbacks are run, those
that `reset` would not arm it for. -/
structure Armed (s : TimerLoop) : Prop where
  idle : s.reading = none → s.queue.Armed fun _ => True
  busy : ∀ r ∈ s.reading, 0 < r.now ∧ s.queue.Armed (· ≤ 0)

section Steps

variable {s s' : TimerLoop}

/-- A change that keeps the queue armed in either sense. -/
theorem Armed.change (h : s.Armed) {q : TimerQueue}
    (keep : ∀ {due : Timestamp → Prop}, (∀ {t t'}, t ≤ t' → due t' → due t) →
      s.queue.Armed due → q.Armed due) : Armed { s with queue := q } where
  idle hreading := keep (fun _ => id) (h.idle hreading)
  busy r hreading := ⟨(h.busy r hreading).1, keep le_trans (h.busy r hreading).2⟩

theorem step_armed (hs : s.Consistent) (h : s.Armed) {call : TimerCall}
    (fitting : s.Fitting call) (taken : s.step call = .ok s') : s'.Armed := by
  obtain ⟨possible, fits⟩ := fitting
  cases call with
  | addTimerInLoop a timer clock =>
      cases (step_addTimerInLoop a timer clock).symm.trans taken
      exact h.change fun down hqueue => TimerQueue.Armed.added
        (q := s.queue.newTimer a timer) hqueue hs.queue.owned.sorted down fits
  | cancelInLoop id =>
      by_cases hid : id ∈ s.queue.activeTimers
      · obtain ⟨timer, live, hseq, -⟩ := hs.queue.owned.listed id hid
        obtain ⟨a, sequence⟩ := id
        subst hseq
        cases (step_cancelInLoop (TimerQueue.cancelInLoop_active hid live)).symm.trans taken
        exact h.change fun _ hqueue => hqueue.subset List.erase_subset rfl
      · cases (step_cancelInLoop (TimerQueue.cancelInLoop_inactive hid)).symm.trans taken
        refine h.change fun _ hqueue => ?_
        split
        · exact hqueue
        · exact hqueue
  | handleRead now =>
      obtain ⟨hreading, hvalid⟩ := possible
      obtain ⟨active, -, -, hstep⟩ := step_handleRead hs hreading now
      cases hstep.symm.trans taken
      have hnow : 0 < now := of_decide_eq_true hvalid
      refine ⟨nofun, ?_⟩
      intro r hr
      cases hr
      refine ⟨hnow, ?_⟩
      -- What is not taken out expires later than now.
      intro e he hdue
      have hlater : ¬ e.expiration ≤ now := by simpa using (List.mem_filter.mp he).2
      exact absurd (hdue.trans (le_of_lt hnow)) hlater
  | runNext =>
      obtain ⟨⟨now, expired, left⟩, hreading, hleft⟩ := possible
      cases left with
      | nil => exact absurd rfl hleft
      | cons it left =>
          obtain ⟨timer, -, hstep⟩ := step_runNext hs hreading
          cases hstep.symm.trans taken
          refine ⟨nofun, ?_⟩
          intro r hr
          cases hr
          have hbusy := h.busy _ hreading
          exact hbusy
  | reset clock =>
      obtain ⟨⟨now, expired, left⟩, hreading, hleft⟩ := possible
      cases hleft
      obtain ⟨hnow, hqueue⟩ := h.busy _ hreading
      obtain ⟨q, hq, ⟨harmed, -⟩, hstep⟩ := step_reset hs hreading
        (fun rest q => q.Armed (· ≤ 0) ∧ q.IntervalsFit now rest)
        (fun it rest q timer hq live ⟨h, hfits⟩ => ⟨h.retired hnow hfits live,
          hfits.retired (List.nodup_cons.mp hq.owned.once).1⟩)
        ⟨hqueue, fits _ hreading⟩ clock
      cases hstep.symm.trans taken
      exact ⟨fun _ => harmed.rearmed hq.owned.sorted clock, nofun⟩

end Steps

/-- In a run of fitting calls, outside of `handleRead`, a timer that is waiting is not forgotten:
the descriptor is set to fire by its expiration, or a hundred microseconds from when it was set. -/
theorem armed_in_time {s : TimerLoop} (h : Reachable step Fitting {} s)
    (outside : s.reading = none) : ∀ e ∈ s.queue.timers, ∃ arming,
      s.queue.timerfd = some arming ∧
        arming.deadline ≤ max e.expiration.toInt (arming.setAt.toInt + 100) := by
  have harmed : s.Armed := h.invariant_of_reached
    (fun before fitting h taken =>
      step_armed (reachable_consistent (before.mono And.left)) h fitting taken)
    ⟨fun _ => nofun, nofun⟩
  exact fun e he => harmed.idle outside e he trivial

/-- Between the first time that the timer runs and the second. -/
theorem ticker_armed : ∃ s : TimerLoop, s.queue.timers.map Entry.expiration = [1600] ∧
    ∀ e ∈ s.queue.timers, ∃ arming, s.queue.timerfd = some arming ∧
      arming.deadline ≤ max e.expiration.toInt (arming.setAt.toInt + 100) := by
  have hwaiting : ((follow step Fitting {} (tickerCalls.take 4)).map fun s =>
      (s.reading.isNone, s.queue.timers.map Entry.expiration)) = some (true, [1600]) := by decide
  obtain ⟨s, hs, hwaiting⟩ := Option.map_eq_some_iff.mp hwaiting
  obtain ⟨hreading, htimers⟩ := Prod.mk.inj hwaiting
  exact ⟨s, htimers, armed_in_time (Reachable.start.of_follow hs)
    (Option.isNone_iff_eq_none.mp hreading)⟩

/-- What `runEvery(9223372036854.0)` adds, at the time `clock`. -/
def farTimer (clock : Timestamp) : Timer where
  expiration := addTime clock 9223372036854000000
  interval := 9223372036854000000
  repeats := true
  sequece := 2

/-- The callback of a timer for every millisecond adds the other, a second after the Epoch. -/
def farCalls : List TimerCall :=
  [.addTimerInLoop 7 ticker 100, .handleRead 1000000, .runNext,
    .addTimerInLoop 8 (farTimer 1000010) 1000010, .reset 1000020]

/-- The timer for every millisecond is due in a millisecond, and the descriptor is set to fire in
some 292000 years. -/
theorem far_forgets : ¬ ∀ s, Reachable step Possible {} s → s.reading = none →
    ∀ e ∈ s.queue.timers, ∃ arming, s.queue.timerfd = some arming ∧
      arming.deadline ≤ max e.expiration.toInt (arming.setAt.toInt + 100) := by
  intro h
  have hrun : ((follow step Possible {} farCalls).map fun s =>
      (s.reading.isNone, s.queue.timers.getLast?, s.queue.timerfd)) =
        some (true, some ⟨1001000, 7⟩, some ⟨1000010, 9223372036855000010⟩) := by
    decide +kernel
  obtain ⟨s, hs, hrun⟩ := Option.map_eq_some_iff.mp hrun
  obtain ⟨hreading, hrun⟩ := Prod.mk.inj hrun
  obtain ⟨hlast, htimerfd⟩ := Prod.mk.inj hrun
  obtain ⟨arming, harming, hdeadline⟩ := h s (Reachable.start.of_follow hs)
    (Option.isNone_iff_eq_none.mp hreading) _ (List.mem_of_getLast? hlast)
  cases htimerfd.symm.trans harming
  revert hdeadline
  decide

end TimerLoop

end Rmuduo.Net
