/-
Leaving a loop (`net/EventLoop.cc`, `net/EventLoopThread.cc`).

* `EventLoop.StopsAfter` — what a call of `quit` is for: the loop starts at most one round more,
  and then returns.
* `EventLoop.quit_never_stops` — no call does this; the loop can always go on, and
  `~EventLoopThread`, which joins the thread of the loop, waits for ever.
-/

import Rmuduo.Net.EventLoop

namespace Rmuduo.Net

open Lib Lib.System

namespace EventLoop

variable {Functor : Type} {loop loop' : EventLoop Functor}

/-- The run goes on by these steps. -/
abbrev Continues (loop : EventLoop Functor) (steps : List (Step Functor))
    (loop' : EventLoop Functor) : Prop :=
  follow (total step) Possible loop steps = some loop'

def Step.isCondition : Step Functor → Bool
  | .condition => true
  | _ => false

/-- However the run goes on: when the thread of the loop has come to the condition of the `while`
twice, `loop` has returned. -/
def StopsAfter (loop : EventLoop Functor) : Prop :=
  ∀ steps loop', loop.Continues steps loop' → 2 ≤ steps.countP Step.isCondition →
    loop'.point = .returned

/-- A call of `loop` is under way. -/
def Running (loop : EventLoop Functor) : Prop :=
  loop.point ≠ .outside ∧ loop.point ≠ .returned

/-! ### The flag -/

/-- The loop has no reason to return. -/
def Unending (loop : EventLoop Functor) : Prop :=
  loop.quit_ = false ∧ loop.point ≠ .returned

/-- No step sets the flag, a call of `quit` as little as any other. -/
theorem Unending.step (h : loop.Unending) (step : Step Functor) : (loop.step step).Unending := by
  obtain ⟨hquit, hpoint⟩ := h
  cases step with
  | loop => exact ⟨rfl, nofun⟩
  | condition => exact ⟨hquit, by simp [EventLoop.step, hquit]⟩
  | poll active => exact ⟨hquit, nofun⟩
  | handleEvent =>
      simp only [EventLoop.step]
      split
      · exact ⟨hquit, nofun⟩
      · exact ⟨hquit, nofun⟩
      · exact ⟨hquit, hpoint⟩
  | doPendingFunctors => exact ⟨hquit, nofun⟩
  | swap => exact ⟨hquit, nofun⟩
  | callFunctor =>
      simp only [EventLoop.step]
      split
      · exact ⟨hquit, hpoint⟩
      · exact ⟨hquit, hpoint⟩
  | leave => exact ⟨hquit, nofun⟩
  | queueInLoop tid cb => exact ⟨hquit, hpoint⟩
  | quit tid => exact ⟨rfl, hpoint⟩
  | wakeup tid => exact ⟨hquit, hpoint⟩

theorem Unending.reachable (h : loop.Unending)
    (reached : Reachable (total EventLoop.step) Possible loop loop') : loop'.Unending :=
  reached.invariant_total (fun _ hloop => hloop.step _) h

theorem Unending.continues (h : loop.Unending) {steps : List (Step Functor)}
    (continues : loop.Continues steps loop') : loop'.Unending :=
  h.reachable (Reachable.start.of_follow continues)

/-! ### Another round -/

/-- The thread of the loop can come to the condition of the `while`. -/
def ComesRound (loop : EventLoop Functor) : Prop :=
  ∃ steps loop', loop.Continues steps loop' ∧ loop'.point = .condition

theorem ComesRound.of_step (step : Step Functor) (possible : loop.Possible step)
    (h : (loop.step step).ComesRound) : loop.ComesRound := by
  obtain ⟨steps, loop', continues, hpoint⟩ := h
  exact ⟨step :: steps, loop', follow_cons possible rfl continues, hpoint⟩

/-- The functors that are left are called, one after the other. -/
theorem comesRound_functors {functors : List Functor} (hpoint : loop.point = .functors)
    (hfunctors : loop.functors = functors) (can : loop.CanGoOn) : loop.ComesRound := by
  induction functors generalizing loop with
  | nil => exact .of_step .leave ⟨hpoint, hfunctors, can⟩ ⟨[], _, rfl, rfl⟩
  | cons cb functors ih =>
      refine .of_step .callFunctor ⟨hpoint, by simp [hfunctors], can⟩ ?_
      simp only [EventLoop.step, hfunctors]
      exact ih hpoint rfl can

/-- The channels that are left handle their events. -/
theorem comesRound_channels {left : List ActiveChannel} (hpoint : loop.point = .channels left)
    (can : loop.CanGoOn) : loop.ComesRound := by
  induction left generalizing loop with
  | nil =>
      refine .of_step .doPendingFunctors ⟨hpoint, can⟩ ?_
      refine .of_step .swap rfl ?_
      exact comesRound_functors rfl rfl can
  | cons channel left ih =>
      refine .of_step .handleEvent ⟨by rw [hpoint]; nofun, can⟩ ?_
      simp only [EventLoop.step, hpoint]
      cases channel with
      | wakeupChannel => exact ih rfl can
      | other => exact ih rfl can

/-- A loop that is running can come round, wherever it stands. -/
theorem Running.comesRound (h : loop.Running) : loop.ComesRound := by
  -- First the thread of the loop finishes the call that its callback has begun.
  have hsettled : ∀ {loop : EventLoop Functor}, loop.Running → loop.CanGoOn →
      loop.ComesRound := by
    intro loop ⟨houtside, hreturned⟩ can
    cases hpoint : loop.point with
    | outside => exact absurd hpoint houtside
    | condition => exact ⟨[], loop, rfl, hpoint⟩
    | poll =>
        refine .of_step (.poll []) ⟨hpoint, nofun⟩ ?_
        exact comesRound_channels rfl can
    | channels left => exact comesRound_channels hpoint can
    | swap =>
        refine .of_step .swap hpoint ?_
        exact comesRound_functors rfl rfl can
    | functors => exact comesRound_functors hpoint rfl can
    | returned => exact absurd hpoint hreturned
  by_cases can : loop.CanGoOn
  · exact hsettled h can
  · refine .of_step (.wakeup loop.threadId) can ?_
    exact hsettled h (Function.update_self ..)

/-- From the condition the loop goes on. -/
theorem Unending.condition (h : loop.Unending) (hpoint : loop.point = .condition) :
    loop.Continues [.condition] { loop with point := .poll } := by
  have hstep : loop.step .condition = { loop with point := .poll } := by
    simp [EventLoop.step, h.1]
  exact follow_cons hpoint (congrArg Except.ok hstep) rfl

theorem Unending.not_stopsAfter (h : loop.Unending) (running : loop.Running) :
    ¬ loop.StopsAfter := by
  intro hstops
  obtain ⟨steps, loop₁, continues, hpoint⟩ := running.comesRound
  have h₁ := h.continues continues
  have hround := h₁.condition hpoint
  have hrunning : ({ loop₁ with point := .poll } : EventLoop Functor).Running := ⟨nofun, nofun⟩
  obtain ⟨steps', loop₂, continues', hpoint'⟩ :=
    hrunning.comesRound
  have h₂ := (h₁.continues hround).continues continues'
  have hall := follow_append (follow_append (follow_append continues hround) continues')
    (h₂.condition hpoint')
  have hreturned := hstops _ _ hall (by
    simp only [List.countP_append, List.countP_cons, List.countP_nil, Step.isCondition, if_true]
    omega)
  cases hreturned

theorem unending_start (threadId : ThreadId) : ({ threadId } : EventLoop Functor).Unending :=
  ⟨rfl, nofun⟩

/-- No call of `quit` stops the loop, whatever thread makes it and wherever the loop stands: it
can go on, and it never returns. -/
theorem quit_never_stops {threadId tid : ThreadId}
    (h : Reachable (total step) Possible ({ threadId } : EventLoop Functor) loop)
    (running : loop.Running) :
    ¬ (loop.step (.quit tid)).StopsAfter ∧
      ∀ steps loop', (loop.step (.quit tid)).Continues steps loop' →
        loop'.point ≠ .returned := by
  have hquit := ((unending_start threadId).reachable h).step (.quit tid)
  exact ⟨hquit.not_stopsAfter running, fun steps loop' continues =>
    (hquit.continues continues).2⟩

/-- Another thread calls `quit` while the loop is in `poll`; the loop wakes and goes on. -/
def quitInPoll : List (Step Nat) := [.loop, .condition]

def goOn : List (Step Nat) :=
  [.wakeup 2, .poll [.wakeupChannel], .handleEvent, .doPendingFunctors, .swap, .leave, .condition,
    .poll [], .doPendingFunctors, .swap, .leave, .condition]

theorem quitInPoll_goes_on : ¬ ∀ (loop : EventLoop Nat) tid,
    Reachable (total step) Possible { threadId := 1 } loop → loop.Running →
      loop.Possible (.quit tid) → (loop.step (.quit tid)).StopsAfter := by
  intro h
  have hrun : ((follow (total step) Possible { threadId := 1 } quitInPoll).bind fun loop =>
      (follow (total step) Possible (loop.step (.quit 2)) goOn).map fun loop' =>
        (loop.point, decide (loop.Possible (.quit 2)), loop'.point)) =
          some (.poll, true, .poll) := by decide
  obtain ⟨loop, hfollow, hrun⟩ := Option.bind_eq_some_iff.mp hrun
  obtain ⟨loop', continues, hrun⟩ := Option.map_eq_some_iff.mp hrun
  obtain ⟨hpoint, hrun⟩ := Prod.mk.inj hrun
  obtain ⟨hpossible, hpoint'⟩ := Prod.mk.inj hrun
  have hreturned := h loop 2 (Reachable.start.of_follow hfollow) (by simp [Running, hpoint])
    (of_decide_eq_true hpossible) goOn loop' continues (by decide)
  cases hpoint'.symm.trans hreturned

theorem quitInPoll_never_stops : ∃ loop : EventLoop Nat, loop.point = .poll ∧
    ¬ (loop.step (.quit 2)).StopsAfter := by
  have hrun : (follow (total step) Possible { threadId := 1 } quitInPoll).map
      (fun loop => loop.point) = some .poll := by decide
  obtain ⟨loop, hfollow, hpoint⟩ := Option.map_eq_some_iff.mp hrun
  exact ⟨loop, hpoint, (quit_never_stops (Reachable.start.of_follow hfollow)
    (by simp [Running, hpoint])).1⟩

end EventLoop

end Rmuduo.Net
