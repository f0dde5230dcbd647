/-
The queue of a loop, and the wakeups (`net/EventLoop.cc`).

* `EventLoop.Sound` — the functors that are queued are those that have been executed, that have
  been taken and that are pending; and when some are pending, then the loop is still to take them
  in this round, or it will be woken.
* `EventLoop.no_lost_wakeup` — this holds whatever the threads do and in whatever order.
-/

import Rmuduo.Net.EventLoop

namespace Rmuduo.Net

open Lib Lib.System

namespace EventLoop

variable {Functor : Type} {loop : EventLoop Functor}

/-- The next `poll` does not block, or some thread is about to make it so. -/
def WillWake (loop : EventLoop Functor) : Prop :=
  0 < loop.wakeupFd ∨ ∃ tid, loop.remaining tid = .wakeupForFunctor

/-- The thread of the loop is in front of the swap of this round. -/
def BeforeSwap (loop : EventLoop Functor) : Prop :=
  (∃ left, loop.point = .channels left) ∨ loop.point = .swap

structure Sound (loop : EventLoop Functor) : Prop where
  order : loop.enqueued = loop.executed ++ (loop.functors ++ loop.pendingFunctors)
  taken : loop.functors ≠ [] → loop.point = .functors
  calling : loop.point = .swap ∨ loop.point = .functors → loop.callingPendingFunctors
  callback : loop.inCallback → (∃ left, loop.point = .channels left) ∨ loop.point = .functors
  woken : loop.pendingFunctors ≠ [] → loop.BeforeSwap ∨ loop.WillWake

theorem wakeup_pos : 0 < loop.wakeup.wakeupFd := by
  unfold wakeup
  split
  · exact Nat.succ_pos _
  · rename_i h
    exact Nat.lt_of_lt_of_le (by decide) (Nat.le_of_not_lt h)

theorem sound_start (threadId : ThreadId) : ({ threadId } : EventLoop Functor).Sound where
  order := rfl
  taken := nofun
  calling := by simp
  callback := nofun
  woken := nofun

/-- A thread that begins another call is not one that is about to wake the loop. -/
theorem WillWake.update {tid : ThreadId} {remaining : Remaining}
    (h : loop.WillWake) (idle : loop.remaining tid = .nothing) {loop' : EventLoop Functor}
    (hfd : loop'.wakeupFd = loop.wakeupFd)
    (hremaining : loop'.remaining = Function.update loop.remaining tid remaining) :
    loop'.WillWake := by
  rcases h with hpos | ⟨tid', hwaking⟩
  · exact Or.inl (hfd ▸ hpos)
  · refine Or.inr ⟨tid', ?_⟩
    have hne : tid' ≠ tid := by
      rintro rfl
      rw [idle] at hwaking
      cases hwaking
    rw [hremaining, Function.update_of_ne hne, hwaking]

theorem Sound.willWake (h : loop.Sound) (pending : loop.pendingFunctors ≠ [])
    (before : ¬ loop.BeforeSwap) : loop.WillWake :=
  (h.woken pending).resolve_left before

theorem not_beforeSwap {loop : EventLoop Functor} (h : ∀ left, loop.point ≠ .channels left)
    (h' : loop.point ≠ .swap) : ¬ loop.BeforeSwap := by
  rintro (⟨left, hpoint⟩ | hpoint)
  · exact h left hpoint
  · exact h' hpoint

section Steps

variable (h : loop.Sound)
include h

theorem Sound.functors_nil (hpoint : loop.point ≠ .functors) : loop.functors = [] := by
  by_contra hne
  exact hpoint (h.taken hne)

theorem Sound.not_inCallback (hchannels : ∀ left, loop.point ≠ .channels left)
    (hfunctors : loop.point ≠ .functors) : ¬ loop.inCallback := by
  intro hin
  rcases h.callback hin with ⟨left, hpoint⟩ | hpoint
  · exact hchannels left hpoint
  · exact hfunctors hpoint

/-- The functor comes behind the others. In the thread of the loop there is no `wakeup` only in
front of the swap of the round, which will then take it. -/
theorem Sound.queueInLoop {tid : ThreadId} (can : loop.CanCall tid) (cb : Functor) :
    (loop.queueInLoop tid cb).Sound where
  order := by
    have horder := h.order
    simp only [EventLoop.queueInLoop, horder, List.append_assoc]
  taken := h.taken
  calling := h.calling
  callback := h.callback
  woken _ := by
    by_cases hwakes : ¬ loop.isInLoopThread tid ∨ loop.callingPendingFunctors
    · refine Or.inr (Or.inr ⟨tid, ?_⟩)
      simp only [EventLoop.queueInLoop, if_pos hwakes, Function.update_self]
    · obtain ⟨hin, hcalling⟩ := not_or.mp hwakes
      rcases h.callback (can.2 (not_not.mp hin)) with hpoint | hpoint
      · exact Or.inl (Or.inl hpoint)
      · exact absurd (h.calling (Or.inr hpoint)) hcalling

theorem Sound.quit {tid : ThreadId} (can : loop.CanCall tid) : (loop.quit tid).Sound where
  order := h.order
  taken := h.taken
  calling := h.calling
  callback := h.callback
  woken hpending := (h.woken hpending).imp_right fun hwake => hwake.update can.1 rfl rfl

theorem Sound.wakeup (tid : ThreadId) :
    ({ loop.wakeup with
      remaining := Function.update loop.remaining tid .nothing } : EventLoop Functor).Sound where
  order := h.order
  taken := h.taken
  calling := h.calling
  callback := h.callback
  woken _ := Or.inr (Or.inl wakeup_pos)

/-- The thread of the loop goes from one point to another and touches neither the queue nor the
eventfd; it does not leave the swap of the round behind. -/
theorem Sound.goTo {loop' : EventLoop Functor} (hpoint : loop.point ≠ .functors)
    (hpoint' : loop'.point ≠ .functors)
    (hcalling : loop'.point = .swap → loop'.callingPendingFunctors)
    (hcallback : loop'.inCallback → ∃ left, loop'.point = .channels left)
    (horder : loop'.enqueued = loop.enqueued ∧ loop'.executed = loop.executed ∧
      loop'.functors = [] ∧ loop'.pendingFunctors = loop.pendingFunctors)
    (hwoken : loop'.BeforeSwap ∨ ¬ loop.BeforeSwap ∧ loop'.wakeupFd = loop.wakeupFd ∧
      loop'.remaining = loop.remaining) : loop'.Sound := by
  obtain ⟨henqueued, hexecuted, hfunctors, hpending⟩ := horder
  constructor
  · rw [henqueued, hexecuted, hfunctors, hpending, h.order, h.functors_nil hpoint]
  · exact fun hne => absurd hfunctors hne
  · exact fun hat => hcalling (hat.resolve_right hpoint')
  · exact fun hin => Or.inl (hcallback hin)
  · intro hne
    rcases hwoken with hbefore | ⟨hbefore, hfd, hremaining⟩
    · exact Or.inl hbefore
    · have hwake := h.willWake (hpending ▸ hne) hbefore
      rw [WillWake, ← hfd, ← hremaining] at hwake
      exact Or.inr hwake

/-- The functors that are pending are taken, in their order. -/
theorem Sound.swap (hpoint : loop.point = .swap) : (loop.step .swap).Sound := by
  have hfunctors := h.functors_nil (by rw [hpoint]; nofun)
  have hcallback := h.not_inCallback (by simp [hpoint]) (by simp [hpoint])
  constructor
  · have horder := h.order
    rw [hfunctors, List.nil_append] at horder
    simp only [step, hfunctors, List.append_nil, horder]
  · exact fun _ => rfl
  · exact fun _ => h.calling (Or.inl hpoint)
  · exact fun hin => absurd hin hcallback
  · exact fun hne => absurd hfunctors hne

theorem Sound.callFunctor (hpoint : loop.point = .functors) {cb : Functor}
    {functors : List Functor} (hfunctors : loop.functors = cb :: functors) :
    ({ loop with
      functors := functors
      executed := loop.executed ++ [cb]
      inCallback := true } : EventLoop Functor).Sound where
  order := by
    have horder := h.order
    rw [hfunctors] at horder
    simpa using horder
  taken _ := hpoint
  calling := h.calling
  callback _ := Or.inr hpoint
  woken := h.woken

theorem Sound.leave (hpoint : loop.point = .functors) (hfunctors : loop.functors = []) :
    (loop.step .leave).Sound where
  order := h.order
  taken hne := absurd hfunctors hne
  calling := by simp [step]
  callback := nofun
  woken hpending := by
    have hwake := h.willWake hpending (not_beforeSwap (by simp [hpoint]) (by simp [hpoint]))
    exact Or.inr hwake

/-- Every step of every thread keeps the queue and the wakeups in order. -/
theorem Sound.step {step : Step Functor} (possible : loop.Possible step) :
    (loop.step step).Sound := by
  cases step with
  | loop =>
      have hpoint : loop.point = .outside := possible
      have hbefore : ¬ loop.BeforeSwap := not_beforeSwap (by simp [hpoint]) (by simp [hpoint])
      have hcallback := h.not_inCallback (by simp [hpoint]) (by simp [hpoint])
      have hfunctors := h.functors_nil (by simp [hpoint])
      exact h.goTo (by simp [hpoint]) nofun nofun (fun hin => absurd hin hcallback)
        ⟨rfl, rfl, hfunctors, rfl⟩ (Or.inr ⟨hbefore, rfl, rfl⟩)
  | condition =>
      have hpoint : loop.point = .condition := possible
      have hbefore : ¬ loop.BeforeSwap := not_beforeSwap (by simp [hpoint]) (by simp [hpoint])
      have hcallback := h.not_inCallback (by simp [hpoint]) (by simp [hpoint])
      have hfunctors := h.functors_nil (by simp [hpoint])
      refine h.goTo (by simp [hpoint]) ?_ ?_ (fun hin => absurd hin hcallback)
        ⟨rfl, rfl, hfunctors, rfl⟩ (Or.inr ⟨hbefore, rfl, rfl⟩)
      · simp only [EventLoop.step]
        split <;> nofun
      · simp only [EventLoop.step]
        split <;> nofun
  | poll active =>
      obtain ⟨hpoint, -⟩ := possible
      have hfunctors := h.functors_nil (by simp [hpoint])
      exact h.goTo (by simp [hpoint]) nofun nofun (fun _ => ⟨active, rfl⟩)
        ⟨rfl, rfl, hfunctors, rfl⟩ (Or.inl (Or.inl ⟨active, rfl⟩))
  | handleEvent =>
      obtain ⟨hleft, -⟩ := possible
      cases hpoint : loop.point with
      | channels channels =>
          have hfunctors := h.functors_nil (by simp [hpoint])
          have hat : loop.point ≠ .functors := by simp [hpoint]
          simp only [EventLoop.step, hpoint]
          cases channels with
          | nil => exact absurd (by rw [hpoint]; rfl) hleft
          | cons channel left =>
              cases channel with
              | wakeupChannel =>
                  exact h.goTo hat nofun nofun nofun ⟨rfl, rfl, hfunctors, rfl⟩
                    (Or.inl (Or.inl ⟨left, rfl⟩))
              | other =>
                  exact h.goTo hat nofun nofun (fun _ => ⟨left, rfl⟩)
                    ⟨rfl, rfl, hfunctors, rfl⟩ (Or.inl (Or.inl ⟨left, rfl⟩))
      | _ => exact absurd (by rw [hpoint]; rfl) hleft
  | doPendingFunctors =>
      obtain ⟨hpoint, -⟩ := possible
      exact h.goTo (by simp [hpoint]) nofun (fun _ => rfl) nofun ⟨rfl, rfl, rfl, rfl⟩
        (Or.inl (Or.inr rfl))
  | swap => exact h.swap possible
  | callFunctor =>
      obtain ⟨hpoint, hne, -⟩ := possible
      cases hfunctors : loop.functors with
      | nil => exact absurd hfunctors hne
      | cons cb functors =>
          simp only [EventLoop.step, hfunctors]
          exact h.callFunctor hpoint hfunctors
  | leave => exact h.leave possible.1 possible.2.1
  | queueInLoop tid cb => exact h.queueInLoop possible cb
  | quit tid => exact h.quit possible
  | wakeup tid => exact h.wakeup tid

end Steps

/-- Whatever threads queue functors and wake the loop, and in whatever order: every functor that
is queued is executed at most once, in the order of the queue, and none is lost; and whenever the
thread of the loop is in `poll` with functors pending, the eventfd can be read or a thread is
between its entry in the queue and its `wakeup`. -/
theorem no_lost_wakeup {threadId : ThreadId}
    (h : Reachable (total step) Possible ({ threadId } : EventLoop Functor) loop) :
    loop.executed <+: loop.enqueued ∧
    loop.enqueued = loop.executed ++ (loop.functors ++ loop.pendingFunctors) ∧
    (loop.point = .poll → loop.pendingFunctors ≠ [] →
      0 < loop.wakeupFd ∨ ∃ tid, loop.remaining tid = .wakeupForFunctor) := by
  have hsound : loop.Sound :=
    h.invariant_total (fun possible hloop => hloop.step possible) (sound_start threadId)
  refine ⟨⟨_, hsound.order.symm⟩, hsound.order, ?_⟩
  intro hpoint hpending
  exact hsound.willWake hpending (not_beforeSwap (by simp [hpoint]) (by simp [hpoint]))

/-- A thread queues a functor while the loop is in `poll`, and the functor queues another. -/
def requeue : List (Step Nat) :=
  [.loop, .condition, .queueInLoop 2 10, .wakeup 2, .poll [.wakeupChannel], .handleEvent,
    .doPendingFunctors, .swap, .callFunctor, .queueInLoop 1 11, .wakeup 1, .leave, .condition]

theorem requeue_woken : ∃ loop : EventLoop Nat, loop.executed = [10] ∧
    loop.pendingFunctors = [11] ∧
    (0 < loop.wakeupFd ∨ ∃ tid, loop.remaining tid = .wakeupForFunctor) := by
  have hrun : (follow (total step) Possible { threadId := 1 } requeue).map (fun loop =>
      (loop.point, loop.executed, loop.pendingFunctors)) = some (.poll, [10], [11]) := by decide
  obtain ⟨loop, hfollow, hrun⟩ := Option.map_eq_some_iff.mp hrun
  obtain ⟨hpoint, hrun⟩ := Prod.mk.inj hrun
  obtain ⟨hexecuted, hpending⟩ := Prod.mk.inj hrun
  obtain ⟨-, -, hwoken⟩ := no_lost_wakeup (Reachable.start.of_follow hfollow)
  exact ⟨loop, hexecuted, hpending, hwoken hpoint (by simp [hpending])⟩

end EventLoop

end Rmuduo.Net
