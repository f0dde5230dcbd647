/-
When the timers are run (`net/TimerQueue.cc`, `net/Timer.cc`).

The log of the queue has no times. Here an observer notes which timers are added and when one is
run; the time of a run is the one that `handleRead` has read at its beginning.

* `Due` — when a timer may be run, by what has been noted.
* `Kept` — the timers that there are keep to that: their expirations are such times.
* `AllRun` — nobody whose time has come is passed over.
* `WatchedTimers.fires_when_due` — so in a run of fitting calls no timer is run before its time, or
  again before its interval is over, and one that does not repeat is run once; and in every run
  `handleRead` leaves none out.
-/

import Rmuduo.Net.TimerArming
import Rmuduo.Net.TimerCancellation

namespace Rmuduo.Net

open Lib Lib.System

/-! ### Watching the timers -/

/-- What is noted: a timer that is added, the timers whose time has come when `handleRead` begins,
and a timer that is run. -/
inductive TimerNote where
  | added (id : TimerId) (timer : Timer)
  | read (due : Finset TimerId) (now : Timestamp)
  | fired (id : TimerId) (now : Timestamp)

/-- A time at which the timer may be run: it is not before the expiration that the timer was added
with, and if the timer has been run since, it repeats and its interval is over. -/
def Due (history : List TimerNote) (id : TimerId) (time : Timestamp) : Prop :=
  ∃ before timer after, history = before ++ .added id timer :: after ∧ timer.expiration ≤ time ∧
    ∀ earlier, .fired id earlier ∈ after →
      timer.repeats = true ∧ earlier.toInt + timer.interval.toInt ≤ time.toInt

/-- A timer is run when it is due. -/
def OnTime (before : List TimerNote) : TimerNote → Prop
  | .added _ _ => True
  | .read _ _ => True
  | .fired id now => Due before id now

/-- There is no other beginning of `handleRead` here. -/
def NoRead (notes : List TimerNote) : Prop := ∀ due now, .read due now ∉ notes

/-- Each time, the timers whose time has come are run before `handleRead` begins again. -/
def AllRun (history : List TimerNote) : Prop :=
  ∀ before due now after, history = before ++ .read due now :: after →
    ∃ run rest, after = run ++ rest ∧ NoRead run ∧ ∀ id ∈ due, .fired id now ∈ run

/-- The timers with what has been noted. -/
structure WatchedTimers where
  loop : TimerLoop := {}
  history : List TimerNote := []

/-- The timers in the set whose time has come. -/
def TimerLoop.dueTimers (s : TimerLoop) (now : Timestamp) : Finset TimerId :=
  s.queue.activeTimers.filter fun id =>
    (s.queue.heap id.timer).any fun timer => timer.expiration ≤ now

/-- What is noted of a call. -/
def TimerLoop.noted (s : TimerLoop) : TimerCall → Option TimerNote
  | .addTimerInLoop a timer _ => some (.added ⟨a, timer.sequece⟩ timer)
  | .cancelInLoop _ => none
  | .handleRead now => some (.read (s.dueTimers now) now)
  | .runNext =>
      match s.reading with
      | some ⟨now, _, it :: _⟩ => (s.queue.identity it.timer).map fun id => .fired id now
      | _ => none
  | .reset _ => none

namespace WatchedTimers

def step (w : WatchedTimers) (call : TimerCall) : Except Misuse WatchedTimers := do
  let loop ← w.loop.step call
  return { loop := loop, history := w.history ++ (w.loop.noted call).toList }

def Possible (w : WatchedTimers) (call : TimerCall) : Prop := w.loop.Possible call

def Fitting (w : WatchedTimers) (call : TimerCall) : Prop := w.loop.Fitting call

instance instDecidableFitting (w : WatchedTimers) (call : TimerCall) :
    Decidable (w.Fitting call) :=
  TimerLoop.instDecidableFitting w.loop call

end WatchedTimers

/-! ### Schedules -/

/-- The timer has been added, it is as it was but for its expiration, and that is due. -/
def Scheduled (history : List TimerNote) (id : TimerId) (timer : Timer) : Prop :=
  ∃ before new after, history = before ++ .added id new :: after ∧
    new.interval = timer.interval ∧ new.repeats = timer.repeats ∧
    new.expiration ≤ timer.expiration ∧
    ∀ earlier, .fired id earlier ∈ after →
      timer.repeats = true ∧ earlier.toInt + timer.interval.toInt ≤ timer.expiration.toInt

/-- The timer has been added, and has been run now; its interval is over since the times before. -/
def JustRun (history : List TimerNote) (id : TimerId) (timer : Timer) (now : Timestamp) : Prop :=
  ∃ before new after, history = before ++ .added id new :: after ∧
    new.interval = timer.interval ∧ new.repeats = timer.repeats ∧ new.expiration ≤ now ∧
    ∀ earlier, .fired id earlier ∈ after →
      earlier = now ∨ earlier.toInt + timer.interval.toInt ≤ now.toInt

section Schedules

variable {history : List TimerNote} {id : TimerId} {timer : Timer} {now : Timestamp}

theorem Scheduled.due (h : Scheduled history id timer) (hnow : timer.expiration ≤ now) :
    Due history id now := by
  obtain ⟨before, new, after, heq, hinterval, hrepeats, hexpiration, hfired⟩ := h
  refine ⟨before, new, after, heq, hexpiration.trans hnow, ?_⟩
  intro earlier hmem
  obtain ⟨hback, hover⟩ := hfired earlier hmem
  rw [hinterval, hrepeats]
  exact ⟨hback, hover.trans (Int64.le_iff_toInt_le.mp hnow)⟩

theorem scheduled_added (history : List TimerNote) (id : TimerId) (timer : Timer) :
    Scheduled (history ++ [.added id timer]) id timer :=
  ⟨history, timer, [], rfl, rfl, rfl, le_refl _, fun _ hmem => absurd hmem List.not_mem_nil⟩

/-- What happens to another timer does not count. -/
theorem Scheduled.note (h : Scheduled history id timer) {note : TimerNote}
    (other : ∀ now, note ≠ .fired id now) : Scheduled (history ++ [note]) id timer := by
  obtain ⟨before, new, after, rfl, hinterval, hrepeats, hexpiration, hfired⟩ := h
  refine ⟨before, new, after ++ [note], by simp, hinterval, hrepeats, hexpiration, ?_⟩
  intro earlier hmem
  rcases List.mem_append.mp hmem with hold | hnew
  · exact hfired earlier hold
  · exact absurd (List.mem_singleton.mp hnew).symm (other earlier)

theorem Scheduled.justRun (h : Scheduled history id timer) (hnow : timer.expiration ≤ now) :
    JustRun (history ++ [.fired id now]) id timer now := by
  obtain ⟨before, new, after, rfl, hinterval, hrepeats, hexpiration, hfired⟩ := h
  refine ⟨before, new, after ++ [.fired id now], by simp, hinterval, hrepeats,
    hexpiration.trans hnow, ?_⟩
  intro earlier hmem
  rcases List.mem_append.mp hmem with hold | hnew
  · exact .inr ((hfired earlier hold).2.trans (Int64.le_iff_toInt_le.mp hnow))
  · cases List.mem_singleton.mp hnew
    exact .inl rfl

theorem JustRun.note (h : JustRun history id timer now) {note : TimerNote}
    (other : ∀ now, note ≠ .fired id now) : JustRun (history ++ [note]) id timer now := by
  obtain ⟨before, new, after, rfl, hinterval, hrepeats, hexpiration, hfired⟩ := h
  refine ⟨before, new, after ++ [note], by simp, hinterval, hrepeats, hexpiration, ?_⟩
  intro earlier hmem
  rcases List.mem_append.mp hmem with hold | hnew
  · exact hfired earlier hold
  · exact absurd (List.mem_singleton.mp hnew).symm (other earlier)

/-- A timer that has been run and repeats is due again when its interval is over. -/
theorem JustRun.restart (h : JustRun history id timer now) (repeats : timer.repeats = true)
    (interval : 0 ≤ timer.interval.toInt) (sum : now.toInt + timer.interval.toInt < 2 ^ 63) :
    Scheduled history id (timer.restart now) := by
  obtain ⟨before, new, after, rfl, hinterval, hrepeats, hexpiration, hfired⟩ := h
  have hlow := now.le_toInt
  have hnext : (timer.restart now).expiration.toInt = now.toInt + timer.interval.toInt :=
    toInt_restart repeats (by omega) sum
  refine ⟨before, new, after, rfl, hinterval, hrepeats, ?_, ?_⟩
  · rw [Int64.le_iff_toInt_le] at hexpiration ⊢
    omega
  · intro earlier hmem
    refine ⟨repeats, ?_⟩
    change earlier.toInt + timer.interval.toInt ≤ (timer.restart now).expiration.toInt
    rcases hfired earlier hmem with rfl | hover
    · omega
    · omega

end Schedules

/-! ### The timers that there are -/

/-- The timers keep to their schedules: those that have been run in this batch may be put back, and
those of the batch that are left are due. -/
structure Kept (heap : Address → Option Timer) (history : List TimerNote) (now : Timestamp)
    (ran : List Address) (left : List Entry) : Prop where
  waiting : ∀ {a timer}, heap a = some timer → a ∉ ran → Scheduled history ⟨a, timer.sequece⟩ timer
  back : ∀ {a timer}, heap a = some timer → a ∈ ran → JustRun history ⟨a, timer.sequece⟩ timer now
  due : ∀ e ∈ left, ∀ timer, heap e.timer = some timer → timer.expiration ≤ now

section Batches

variable {heap heap' : Address → Option Timer} {history : List TimerNote} {now : Timestamp}
  {ran : List Address} {left : List Entry} {a : Address} {timer : Timer}

theorem kept_empty : Kept (fun _ => none) [] now [] [] where
  waiting h := nomatch h
  back h := nomatch h
  due _ he := absurd he List.not_mem_nil

/-- Some of the timers are deleted. -/
theorem Kept.shrink (h : Kept heap history now ran left)
    (sub : ∀ {a timer}, heap' a = some timer → heap a = some timer) :
    Kept heap' history now ran left where
  waiting live := h.waiting (sub live)
  back live := h.back (sub live)
  due e he timer live := h.due e he timer (sub live)

theorem update_none_sub {b : Address} (live : Function.update heap a none b = some timer) :
    heap b = some timer := by
  by_cases hb : b = a
  · rw [hb, Function.update_self] at live
    cases live
  · rwa [Function.update_of_ne hb] at live

/-- A timer is added. -/
theorem Kept.add (h : Kept heap history now ran left) (hran : a ∉ ran)
    (hleft : ∀ e ∈ left, e.timer ≠ a) (timer : Timer) :
    Kept (Function.update heap a (some timer)) (history ++ [.added ⟨a, timer.sequece⟩ timer]) now
      ran left where
  waiting {b timer'} live hb := by
    by_cases hba : b = a
    · subst hba
      rw [Function.update_self] at live
      cases live
      exact scheduled_added ..
    · rw [Function.update_of_ne hba] at live
      exact (h.waiting live hb).note fun _ heq => by cases heq
  back {b timer'} live hb := by
    have hba : b ≠ a := ne_of_mem_of_not_mem hb hran
    rw [Function.update_of_ne hba] at live
    exact (h.back live hb).note fun _ heq => by cases heq
  due e he timer' live := by
    rw [Function.update_of_ne (hleft e he)] at live
    exact h.due e he timer' live

/-- The next timer of the batch is run. -/
theorem Kept.fire {it : Entry} (h : Kept heap history now ran (it :: left))
    (live : heap it.timer = some timer) (hran : it.timer ∉ ran) :
    Kept heap (history ++ [.fired ⟨it.timer, timer.sequece⟩ now]) now (ran ++ [it.timer]) left where
  waiting {b timer'} hb hnot := by
    rw [List.mem_append, List.mem_singleton, not_or] at hnot
    refine (h.waiting hb hnot.1).note fun _ heq => hnot.2 ?_
    exact (congrArg TimerId.timer (TimerNote.fired.inj heq).1).symm
  back {b timer'} hb hmem := by
    by_cases hit : b = it.timer
    · subst hit
      cases live.symm.trans hb
      exact (h.waiting live hran).justRun (h.due it List.mem_cons_self timer live)
    · have hmem : b ∈ ran := by
        rcases List.mem_append.mp hmem with hold | hnew
        · exact hold
        · exact absurd (List.mem_singleton.mp hnew) hit
      refine (h.back hb hmem).note fun _ heq => hit ?_
      exact (congrArg TimerId.timer (TimerNote.fired.inj heq).1).symm
  due _ he := h.due _ (List.mem_cons_of_mem _ he)

/-- A timer that has been run is put back. -/
theorem Kept.restarted (h : Kept heap history now (a :: ran) []) (live : heap a = some timer)
    (repeats : timer.repeats = true) (interval : 0 ≤ timer.interval.toInt)
    (sum : now.toInt + timer.interval.toInt < 2 ^ 63) (once : a ∉ ran) :
    Kept (Function.update heap a (some (timer.restart now))) history now ran [] where
  waiting {b timer'} hb hnot := by
    by_cases hba : b = a
    · subst hba
      rw [Function.update_self] at hb
      cases hb
      have hback := (h.back live List.mem_cons_self).restart repeats interval sum
      exact hback
    · rw [Function.update_of_ne hba] at hb
      exact h.waiting hb (List.not_mem_cons_of_ne_of_not_mem hba hnot)
  back {b timer'} hb hmem := by
    have hba : b ≠ a := ne_of_mem_of_not_mem hmem once
    rw [Function.update_of_ne hba] at hb
    exact h.back hb (List.mem_cons_of_mem a hmem)
  due _ he := absurd he List.not_mem_nil

/-- A timer that has been run is deleted. -/
theorem Kept.dropped (h : Kept heap history now (a :: ran) []) :
    Kept (Function.update heap a none) history now ran [] where
  waiting {b timer'} hb hnot := by
    have hba : b ≠ a := by
      rintro rfl
      rw [Function.update_self] at hb
      cases hb
    exact h.waiting (update_none_sub hb) (List.not_mem_cons_of_ne_of_not_mem hba hnot)
  back hb hmem := h.back (update_none_sub hb) (List.mem_cons_of_mem a hmem)
  due _ he := absurd he List.not_mem_nil

/-- A round of the loop of `reset`. -/
theorem Kept.retired {q : TimerQueue} {it : Entry} {rest : List Entry}
    (h : Kept q.heap history now (it.timer :: ran) []) (live : q.heap it.timer = some timer)
    (fits : q.IntervalsFit now (it :: rest)) (once : it.timer ∉ ran) :
    Kept (q.retired now it.timer timer).heap history now ran [] := by
  unfold TimerQueue.retired
  split
  · rename_i hback
    obtain ⟨hinterval, hsum⟩ := fits it List.mem_cons_self timer live hback.1 hback.2
    exact h.restarted live hback.1 hinterval hsum once
  · exact h.dropped

end Batches

/-! ### One call -/

namespace TimerLoop

/-- Between two calls the timers keep to their schedules. -/
def OnSchedule (s : TimerLoop) (history : List TimerNote) : Prop :=
  match s.reading with
  | none => Kept s.queue.heap history 0 [] []
  | some r => ∃ ran, r.expired = ran ++ r.left ∧
      Kept s.queue.heap history r.now (ran.map Entry.timer) r.left

section Steps

variable {s s' : TimerLoop} {history : List TimerNote}

/-- A change of the queue alone. -/
theorem OnSchedule.change {q : TimerQueue} {history' : List TimerNote}
    (h : s.OnSchedule history)
    (keep : ∀ {now ran left}, (∀ a ∈ ran, a ∈ s.batch) → (∀ e ∈ left, e.timer ∈ s.batch) →
      Kept s.queue.heap history now ran left → Kept q.heap history' now ran left) :
    OnSchedule { s with queue := q } history' := by
  obtain ⟨queue, reading⟩ := s
  cases reading with
  | none =>
      exact keep (fun _ ha => absurd ha List.not_mem_nil) (fun _ he => absurd he List.not_mem_nil) h
  | some r =>
      obtain ⟨ran, hexpired, hkept⟩ := h
      refine ⟨ran, hexpired, keep ?_ ?_ hkept⟩
      · intro a ha
        obtain ⟨e, he, rfl⟩ := List.mem_map.mp ha
        refine List.mem_map_of_mem ?_
        rw [hexpired]
        exact List.mem_append_left _ he
      · intro e he
        refine List.mem_map_of_mem ?_
        rw [hexpired]
        exact List.mem_append_right _ he

theorem added_heap (q : TimerQueue) (a : Address) (timer : Timer) (clock : Timestamp) :
    ((q.newTimer a timer).added clock a timer).heap = Function.update q.heap a (some timer) := by
  unfold TimerQueue.added
  split <;> rfl

theorem rearmed_heap (q : TimerQueue) (clock : Timestamp) : (q.rearmed clock).heap = q.heap := by
  unfold TimerQueue.rearmed
  split
  · rfl
  · split <;> rfl

/-- A timer is added: its address is not that of a timer of the batch. -/
theorem addTimerInLoop_spec (hs : s.Consistent) {a : Address} {timer : Timer} {clock : Timestamp}
    (possible : s.Possible (.addTimerInLoop a timer clock))
    (taken : s.step (.addTimerInLoop a timer clock) = .ok s') :
    (∀ b ∈ s.batch, b ≠ a) ∧ ∃ q, s' = { s with queue := q } ∧
      q.heap = Function.update s.queue.heap a (some timer) := by
  obtain ⟨-, free, -, -⟩ := possible
  cases (step_addTimerInLoop a timer clock).symm.trans taken
  refine ⟨?_, _, rfl, added_heap ..⟩
  rintro b hb rfl
  obtain ⟨timer', live, -⟩ := hs.queue.owned.taken b hb
  rw [free] at live
  cases live

/-- A timer is cancelled: others are as they were, and so are those of the batch. -/
theorem cancelInLoop_spec (hs : s.Consistent) {id : TimerId}
    (taken : s.step (.cancelInLoop id) = .ok s') :
    ∃ q, s' = { s with queue := q } ∧
      (∀ {a timer}, q.heap a = some timer → s.queue.heap a = some timer) ∧
      ∀ a ∈ s.batch, q.heap a = s.queue.heap a := by
  by_cases hid : id ∈ s.queue.activeTimers
  · obtain ⟨timer, live, hseq, -⟩ := hs.queue.owned.listed id hid
    obtain ⟨a, sequence⟩ := id
    subst hseq
    cases (step_cancelInLoop (TimerQueue.cancelInLoop_active hid live)).symm.trans taken
    refine ⟨_, rfl, update_none_sub, fun b hb => ?_⟩
    exact Function.update_of_ne (hs.queue.owned.ne_of_mem_active hb hid).symm ..
  · cases (step_cancelInLoop (TimerQueue.cancelInLoop_inactive hid)).symm.trans taken
    refine ⟨_, rfl, fun live => ?_, fun b _ => ?_⟩
    · split at live
      · exact live
      · exact live
    · split
      · rfl
      · rfl

theorem noted_runNext {now : Timestamp} {expired left : List Entry} {it : Entry} {timer : Timer}
    (hreading : s.reading = some ⟨now, expired, it :: left⟩)
    (live : s.queue.heap it.timer = some timer) :
    s.noted .runNext = some (.fired ⟨it.timer, timer.sequece⟩ now) := by
  rw [noted, hreading]
  simp [TimerQueue.identity_eq live]

/-- A timer is run on time, and the others keep to their schedules. -/
theorem OnSchedule.runNext (hs : s.Consistent) (h : s.OnSchedule history) {now : Timestamp}
    {expired left : List Entry} {it : Entry} {timer : Timer}
    (hreading : s.reading = some ⟨now, expired, it :: left⟩)
    (live : s.queue.heap it.timer = some timer) :
    Due history ⟨it.timer, timer.sequece⟩ now ∧
      ∃ ran, expired = ran ++ left ∧
        Kept s.queue.heap (history ++ [.fired ⟨it.timer, timer.sequece⟩ now]) now
          (ran.map Entry.timer) left := by
  rw [OnSchedule, hreading] at h
  obtain ⟨ran, hexpired, hkept⟩ := h
  have honce : it.timer ∉ ran.map Entry.timer := by
    have hnodup := (hs.of_reading hreading).owned.once
    rw [hexpired, List.map_append, List.map_cons, List.nodup_append] at hnodup
    intro hmem
    exact hnodup.2.2 _ hmem _ List.mem_cons_self rfl
  refine ⟨?_, ran ++ [it], ?_, ?_⟩
  · exact (hkept.waiting live honce).due (hkept.due it List.mem_cons_self timer live)
  · rw [List.append_assoc]
    exact hexpired
  · rw [List.map_append]
    exact hkept.fire live honce

/-- When the callbacks have been run, the timers that repeat are put back. -/
theorem OnSchedule.reset (hs : s.Consistent) (h : s.OnSchedule history) {now : Timestamp}
    {expired : List Entry} (hreading : s.reading = some ⟨now, expired, []⟩)
    (fits : s.queue.IntervalsFit now expired) {clock : Timestamp}
    (taken : s.step (.reset clock) = .ok s') : s'.OnSchedule history := by
  rw [OnSchedule, hreading] at h
  obtain ⟨ran, hexpired, hkept⟩ := h
  rw [List.append_nil] at hexpired
  subst hexpired
  obtain ⟨q, -, ⟨hq, -⟩, hstep⟩ := step_reset hs hreading
    (fun rest q => Kept q.heap history now (rest.map Entry.timer) [] ∧ q.IntervalsFit now rest)
    (fun it rest q timer hq live ⟨h, hfits⟩ =>
      ⟨h.retired live hfits (List.nodup_cons.mp hq.owned.once).1,
        hfits.retired (List.nodup_cons.mp hq.owned.once).1⟩)
    ⟨hkept, fits⟩ clock
  cases hstep.symm.trans taken
  rw [OnSchedule]
  dsimp only
  rw [rearmed_heap]
  exact ⟨hq.waiting, fun _ hmem => absurd hmem List.not_mem_nil,
    fun _ he => absurd he List.not_mem_nil⟩

/-- One call: what is noted is on time, and the timers keep to their schedules. -/
theorem step_onSchedule (hs : s.Consistent) (h : s.OnSchedule history) {call : TimerCall}
    (fitting : s.Fitting call) (taken : s.step call = .ok s') :
    (∀ note ∈ s.noted call, OnTime history note) ∧
      s'.OnSchedule (history ++ (s.noted call).toList) := by
  obtain ⟨possible, fits⟩ := fitting
  cases call with
  | addTimerInLoop a timer clock =>
      obtain ⟨hnew, q, rfl, hheap⟩ := addTimerInLoop_spec hs possible taken
      refine ⟨fun note hnote => ?_, h.change fun {now ran left} hran hleft hkept => ?_⟩
      · cases Option.mem_some.mp hnote
        trivial
      · rw [hheap]
        exact hkept.add (fun hmem => hnew a (hran a hmem) rfl) (fun e he => hnew _ (hleft e he))
          timer
  | cancelInLoop id =>
      obtain ⟨q, rfl, hsub, -⟩ := cancelInLoop_spec hs taken
      refine ⟨fun note hnote => absurd hnote (Option.not_mem_none note), ?_⟩
      rw [noted, Option.toList_none, List.append_nil]
      exact h.change fun _ _ hkept => hkept.shrink hsub
  | handleRead now =>
      obtain ⟨hreading, -⟩ := possible
      refine ⟨fun note hnote => ?_, ?_⟩
      · cases Option.mem_some.mp hnote
        trivial
      obtain ⟨active, -, -, hstep⟩ := step_handleRead hs hreading now
      cases hstep.symm.trans taken
      rw [OnSchedule, hreading] at h
      refine ⟨[], rfl, fun live hnot => ?_, fun _ hmem => absurd hmem List.not_mem_nil, ?_⟩
      · refine (h.waiting live hnot).note fun _ heq => ?_
        cases heq
      intro e he timer live
      obtain ⟨hmem, hnow⟩ := List.mem_filter.mp he
      obtain ⟨timer', live', hexpiration, -⟩ := hs.queue.owned.keyed e hmem
      cases live'.symm.trans live
      rw [hexpiration]
      exact of_decide_eq_true hnow
  | runNext =>
      obtain ⟨⟨now, expired, left⟩, hreading, hleft⟩ := possible
      cases left with
      | nil => exact absurd rfl hleft
      | cons it left =>
          obtain ⟨timer, live, hstep⟩ := step_runNext hs hreading
          cases hstep.symm.trans taken
          obtain ⟨hdue, hnext⟩ := h.runNext hs hreading live
          rw [noted_runNext hreading live, Option.toList_some]
          refine ⟨fun note hnote => ?_, hnext⟩
          cases Option.mem_some.mp hnote
          exact hdue
  | reset clock =>
      obtain ⟨⟨now, expired, left⟩, hreading, hleft⟩ := possible
      cases hleft
      refine ⟨fun note hnote => absurd hnote (Option.not_mem_none note), ?_⟩
      rw [noted, Option.toList_none, List.append_nil]
      exact h.reset hs hreading (fits _ hreading) taken

end Steps

end TimerLoop

/-! ### No timer is passed over -/

section Histories

variable {history mid : List TimerNote} {due : Finset TimerId} {now : Timestamp}

theorem AllRun.append (h : AllRun history) (hmid : NoRead mid) : AllRun (history ++ mid) := by
  intro before due now after heq
  rcases List.append_eq_append_iff.mp heq with ⟨extra, -, hmore⟩ | ⟨front, hhistory, hmore⟩
  · exact absurd (by rw [hmore]; simp) (hmid due now)
  · cases front with
    | nil => exact absurd (by rw [← List.nil_append mid, ← hmore]; simp) (hmid due now)
    | cons note front =>
        obtain ⟨rfl, rfl⟩ := List.cons.inj hmore
        obtain ⟨run, rest, rfl, hrun, hall⟩ := h before due now front hhistory
        exact ⟨run, rest ++ mid, List.append_assoc .., hrun, hall⟩

theorem AllRun.read (h : AllRun history) (hmid : NoRead mid)
    (hall : ∀ id ∈ due, .fired id now ∈ mid) : AllRun (history ++ .read due now :: mid) := by
  intro before due' now' after heq
  rcases List.append_eq_append_iff.mp heq with ⟨extra, -, hmore⟩ | ⟨front, hhistory, hmore⟩
  · cases extra with
    | nil =>
        cases hmore
        exact ⟨mid, [], (List.append_nil mid).symm, hmid, hall⟩
    | cons note extra =>
        obtain ⟨-, hmore⟩ := List.cons.inj hmore
        exact absurd (by rw [hmore]; simp) (hmid due' now')
  · cases front with
    | nil =>
        cases hmore
        exact ⟨mid, [], (List.append_nil mid).symm, hmid, hall⟩
    | cons note front =>
        obtain ⟨rfl, rfl⟩ := List.cons.inj hmore
        obtain ⟨run, rest, rfl, hrun, hdone⟩ := h before due' now' front hhistory
        exact ⟨run, rest ++ .read due now :: mid, List.append_assoc .., hrun, hdone⟩

theorem noRead_nil : NoRead [] := fun _ _ => List.not_mem_nil

theorem NoRead.concat (h : NoRead mid) {note : TimerNote}
    (other : ∀ due now, note ≠ .read due now) : NoRead (mid ++ [note]) := by
  intro due now hmem
  rcases List.mem_append.mp hmem with hold | hnew
  · exact h due now hold
  · exact other due now (List.mem_singleton.mp hnew).symm

end Histories

namespace TimerLoop

/-- Outside of `handleRead` all timers have been run whose time has come; in the middle of it, the
others are still left. -/
def Attended (s : TimerLoop) (history : List TimerNote) : Prop :=
  match s.reading with
  | none => AllRun history
  | some r => ∃ front due mid, history = front ++ .read due r.now :: mid ∧ AllRun front ∧
      NoRead mid ∧ ∀ id ∈ due, .fired id r.now ∈ mid ∨
        ∃ e ∈ r.left, s.queue.identity e.timer = some id

section Attending

variable {s s' : TimerLoop} {history : List TimerNote}

/-- A change that leaves the timers of the batch alone. -/
theorem Attended.change (h : s.Attended history) (hs : s.Consistent) {q : TimerQueue}
    {note : Option TimerNote} (same : ∀ a ∈ s.batch, q.heap a = s.queue.heap a)
    (other : ∀ due now, note ≠ some (.read due now)) :
    Attended { s with queue := q } (history ++ note.toList) := by
  have hmore {mid : List TimerNote} (hmid : NoRead mid) : NoRead (mid ++ note.toList) := by
    cases note with
    | none => rwa [Option.toList_none, List.append_nil]
    | some note => exact hmid.concat fun due now heq => other due now (congrArg some heq)
  have hleft := hs.left
  unfold Attended at h ⊢
  unfold batch at same
  obtain ⟨queue, reading⟩ := s
  cases reading with
  | none => exact AllRun.append h (hmore noRead_nil)
  | some r =>
      obtain ⟨front, due, mid, rfl, hfront, hmid, hdue⟩ := h
      refine ⟨front, due, mid ++ note.toList, by simp, hfront, hmore hmid, fun id hid => ?_⟩
      refine (hdue id hid).imp (List.mem_append_left _) ?_
      rintro ⟨e, he, hidentity⟩
      refine ⟨e, he, ?_⟩
      rw [TimerQueue.identity, same e.timer (List.mem_map_of_mem ((hleft r rfl).subset he))]
      exact hidentity

/-- One call. -/
theorem step_attended (hs : s.Consistent) (h : s.Attended history) {call : TimerCall}
    (possible : s.Possible call) (taken : s.step call = .ok s') :
    s'.Attended (history ++ (s.noted call).toList) := by
  cases call with
  | addTimerInLoop a timer clock =>
      obtain ⟨hnew, q, rfl, hheap⟩ := addTimerInLoop_spec hs possible taken
      refine h.change hs (fun b hb => ?_) fun _ _ heq => by cases heq
      rw [hheap, Function.update_of_ne (hnew b hb)]
  | cancelInLoop id =>
      obtain ⟨q, rfl, -, hsame⟩ := cancelInLoop_spec hs taken
      exact h.change hs hsame fun _ _ heq => by cases heq
  | handleRead now =>
      obtain ⟨hreading, -⟩ := possible
      obtain ⟨active, -, -, hstep⟩ := step_handleRead hs hreading now
      cases hstep.symm.trans taken
      rw [Attended, hreading] at h
      refine ⟨history, s.dueTimers now, [], rfl, h, noRead_nil, fun id hid => .inr ?_⟩
      obtain ⟨hactive, hdue⟩ := Finset.mem_filter.mp hid
      obtain ⟨timer, live, hseq, hmem⟩ := hs.queue.owned.listed id hactive
      rw [live] at hdue
      have hidentity : s.queue.identity id.timer = some id := by
        rw [TimerQueue.identity_eq live, hseq]
      exact ⟨⟨timer.expiration, id.timer⟩, List.mem_filter.mpr ⟨hmem, hdue⟩, hidentity⟩
  | runNext =>
      obtain ⟨⟨now, expired, left⟩, hreading, hleft⟩ := possible
      cases left with
      | nil => exact absurd rfl hleft
      | cons it left =>
          obtain ⟨timer, live, hstep⟩ := step_runNext hs hreading
          cases hstep.symm.trans taken
          have hidentity := TimerQueue.identity_eq live
          rw [noted_runNext hreading live, Option.toList_some]
          rw [Attended, hreading] at h
          obtain ⟨front, due, mid, rfl, hfront, hmid, hdue⟩ := h
          refine ⟨front, due, mid ++ [.fired ⟨it.timer, timer.sequece⟩ now], by simp, hfront,
            hmid.concat fun _ _ heq => (by cases heq), fun id hid => ?_⟩
          rcases hdue id hid with hfired | ⟨e, he, heq⟩
          · exact .inl (List.mem_append_left _ hfired)
          · rcases List.mem_cons.mp he with rfl | he
            · cases hidentity.symm.trans heq
              exact .inl (List.mem_append_right _ (List.mem_singleton_self _))
            · exact .inr ⟨e, he, heq⟩
  | reset clock =>
      obtain ⟨⟨now, expired, left⟩, hreading, hleft⟩ := possible
      cases hleft
      obtain ⟨q, -, -, hstep⟩ := step_reset hs hreading (fun _ _ => True)
        (fun _ _ _ _ _ _ _ => trivial) trivial clock
      cases hstep.symm.trans taken
      rw [Attended, hreading] at h
      obtain ⟨front, due, mid, rfl, hfront, hmid, hdue⟩ := h
      rw [noted, Option.toList_none, List.append_nil]
      refine hfront.read hmid fun id hid => (hdue id hid).resolve_right ?_
      rintro ⟨e, he, -⟩
      cases he

end Attending

end TimerLoop

/-! ### Every run -/

namespace WatchedTimers

theorem step_ok {w w' : WatchedTimers} {call : TimerCall} (h : w.step call = .ok w') :
    w.loop.step call = .ok w'.loop ∧ w'.history = w.history ++ (w.loop.noted call).toList := by
  obtain ⟨loop, htaken, hresult⟩ := bind_eq_ok.mp h
  cases hresult
  exact ⟨htaken, rfl⟩

/-- What holds between two calls. -/
structure Faithful (w : WatchedTimers) : Prop where
  consistent : w.loop.Consistent
  attended : w.loop.Attended w.history

/-- What holds between two calls of a run of fitting ones. -/
structure Punctual (w : WatchedTimers) : Prop where
  consistent : w.loop.Consistent
  onSchedule : w.loop.OnSchedule w.history
  onTime : Explained OnTime w.history

theorem faithful_start : Faithful {} where
  consistent := TimerLoop.consistent_start
  attended := fun before _ _ _ heq => by simp at heq

theorem punctual_start : Punctual {} where
  consistent := TimerLoop.consistent_start
  onSchedule := kept_empty
  onTime := explained_nil _

section Steps

variable {w w' : WatchedTimers} {call : TimerCall}

theorem consistent_step (h : w.loop.Consistent) (possible : w.Possible call)
    (taken : w.step call = .ok w') : w'.loop.Consistent := by
  obtain ⟨_, hstep, hnext⟩ := TimerLoop.step_spec h possible
  cases hstep.symm.trans (step_ok taken).1
  exact hnext

theorem Faithful.step (h : w.Faithful) (possible : w.Possible call)
    (taken : w.step call = .ok w') : w'.Faithful := by
  obtain ⟨hloop, hhistory⟩ := step_ok taken
  have hattended := TimerLoop.step_attended h.consistent h.attended possible hloop
  rw [← hhistory] at hattended
  exact ⟨consistent_step h.consistent possible taken, hattended⟩

theorem Punctual.step (h : w.Punctual) (fitting : w.Fitting call)
    (taken : w.step call = .ok w') : w'.Punctual := by
  obtain ⟨hloop, hhistory⟩ := step_ok taken
  obtain ⟨honTime, honSchedule⟩ :=
    TimerLoop.step_onSchedule h.consistent h.onSchedule fitting hloop
  rw [← hhistory] at honSchedule
  refine ⟨consistent_step h.consistent fitting.1 taken, honSchedule, ?_⟩
  rw [hhistory]
  cases hnoted : w.loop.noted call with
  | none =>
      rw [Option.toList_none, List.append_nil]
      exact h.onTime
  | some note => exact h.onTime.concat (honTime note hnoted)

end Steps

/-- **Timers are run when they are due.** In every run, whatever is added and cancelled when, also
by the callbacks: whenever `handleRead` is at its end, it has run every timer whose time had come
when it began; and if the times of the run fit, a timer is run at a time that is not before the one
it was added for, and if it has been run since, it repeats and its interval has passed since each of
these times. -/
theorem fires_when_due {w : WatchedTimers} (h : Reachable step Possible {} w) :
    (Reachable step Fitting {} w → Explained OnTime w.history) ∧
      (w.loop.reading = none → AllRun w.history) := by
  constructor
  · intro hfitting
    have hpunctual := hfitting.invariant (I := Punctual)
      (fun fitting hw taken => hw.step fitting taken) punctual_start
    exact hpunctual.onTime
  · intro outside
    have hfaithful := h.invariant (I := Faithful)
      (fun possible hw taken => hw.step possible taken) faithful_start
    have hattended := hfaithful.attended
    rwa [TimerLoop.Attended, outside] at hattended

/-- The times at which timers are run. -/
def firings (w : WatchedTimers) : List Timestamp :=
  w.history.filterMap fun
    | .fired _ now => some now
    | .added _ _ => none
    | .read _ _ => none

theorem fires_when_due_ticker : ∃ w : WatchedTimers, w.firings = [600, 1700] ∧
    Explained OnTime w.history ∧ AllRun w.history := by
  have hrun : (follow step Fitting {} TimerLoop.tickerCalls).map
      (fun w => (w.firings, w.loop.reading.isNone)) = some ([600, 1700], true) := by decide
  obtain ⟨w, hw, hrun⟩ := Option.map_eq_some_iff.mp hrun
  obtain ⟨hfirings, hreading⟩ := Prod.mk.inj hrun
  have hfitting := Reachable.start.of_follow hw
  obtain ⟨honTime, hall⟩ := fires_when_due (hfitting.mono And.left)
  exact ⟨w, hfirings, honTime hfitting, hall (Option.isNone_iff_eq_none.mp hreading)⟩

end WatchedTimers

end Rmuduo.Net
