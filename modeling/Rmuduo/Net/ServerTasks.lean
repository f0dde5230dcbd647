/-
What the queues of a server still owe (`net/TcpServer.cc`, `net/TcpConnection.cc`,
`net/EventLoop.cc`).

* `loops_settle` — the loops can always go on until nothing is queued, and then every connection has
  been removed and destroyed as often as it was closed.
* `plain_pointers_safe` — the tasks of `send` and `shutdown` have a plain `this`. When no thread
  queues one for a connection that the server has removed, none is called too late.
* `plain_pointer_dangles` — a thread that found the connection connected can be that late.
-/

import Mathlib.Algebra.BigOperators.Group.Finset.Piecewise
import Mathlib.Algebra.Order.BigOperators.Group.Finset
import Rmuduo.Net.ServerConnections

namespace Rmuduo.Net

open Lib Lib.System

namespace ServerTask

/-- The number of functors that are called because of a task. -/
def cost : ServerTask → Nat
  | .removeConnectionInLoop _ => 2
  | _ => 1

end ServerTask

namespace TcpServer

/-! ### What is left to do -/

def load (l : LoopTasks) : Nat := (l.toCall.map ServerTask.cost).sum

/-- The functors that are still to be called. -/
def work (s : TcpServer) : Nat := ∑ i ∈ Finset.range (s.numThreads + 1), load (s.loops i)

section Work

variable {s : TcpServer} {i : Nat}

theorem sum_update {n : Nat} (f : Nat → Nat) (hi : i < n) (b : Nat) :
    ∑ j ∈ Finset.range n, Function.update f i b j + f i = ∑ j ∈ Finset.range n, f j + b := by
  have hmem : i ∈ Finset.range n := Finset.mem_range.mpr hi
  rw [Finset.sum_update_of_mem hmem, ← Finset.add_sum_erase _ f hmem, Finset.sdiff_singleton_eq_erase]
  omega

theorem work_setLoop {l : LoopTasks} (hi : i < s.numThreads + 1) :
    work (s.setLoop i l) + load (s.loops i) = work s + load l := by
  have hload : (fun j => load ((s.setLoop i l).loops j)) =
      Function.update (fun j => load (s.loops j)) i (load l) := by
    funext j
    rw [loops_setLoop, Function.update_apply]
    split <;> rfl
  change ∑ j ∈ Finset.range _, (fun j => load ((s.setLoop i l).loops j)) j + _ = _
  rw [hload]
  exact sum_update (fun j => load (s.loops j)) hi (load l)

/-- A loop turns to its functors without calling one. -/
theorem work_turn {l : LoopTasks} (hi : i < s.numThreads + 1)
    (hl : l.toCall = (s.loops i).toCall) : work (s.setLoop i l) = work s := by
  have h := work_setLoop (s := s) (l := l) hi
  rw [load, load, hl] at h
  omega

theorem work_queueInLoop (hi : i < s.numThreads + 1) (task : ServerTask) :
    work (s.queueInLoop i task) = work s + task.cost := by
  have h := work_setLoop (s := s) (l := { s.loops i with
    pendingFunctors := (s.loops i).pendingFunctors ++ [task] }) hi
  have hload : load { s.loops i with pendingFunctors := (s.loops i).pendingFunctors ++ [task] } =
      load (s.loops i) + task.cost := by
    simp [load, LoopTasks.toCall, Nat.add_assoc]
  rw [hload] at h
  rw [queueInLoop]
  omega

/-- A call makes less work than it does. -/
theorem Sound.work_perform {task : ServerTask} (h : s.Sound [task]) :
    work (s.perform task) < work s + task.cost := by
  cases task with
  | removeConnectionInLoop c =>
      have hlt : s.ioLoop c < s.numThreads + 1 :=
        h.ioLoop_lt (h.inHand _ (List.mem_singleton_self _))
      have hwork := work_queueInLoop (s := { s with
        connections := Function.update s.connections (s.connName c) none }.note (.removed c))
        hlt (.connectDestroyed c)
      change work (queueInLoop _ _ _) < work s + 2
      rw [hwork]
      exact Nat.lt_succ_self _
  | connectDestroyed c =>
      have hwork : work (s.connectDestroyed c) = work s := by
        simp only [TcpServer.connectDestroyed]
        split <;> rfl
      exact Nat.lt_succ_of_le hwork.le
  | sendInLoop c =>
      have hwork : work (s.sendInLoop c) = work s := by
        rw [TcpServer.sendInLoop]
        split <;> rfl
      exact Nat.lt_succ_of_le hwork.le
  | _ => exact Nat.lt_succ_self _

theorem Sound.work_callFunctor (h : s.Sound []) (hfunctors : (s.loops i).functors ≠ []) :
    work (s.callFunctor i) < work s := by
  obtain ⟨task, functors, heq⟩ := List.exists_cons_of_ne_nil hfunctors
  obtain ⟨l, hnext⟩ : ∃ l, (s.loops i).next = some (task, l) := by
    simp only [LoopTasks.next, heq]
    exact ⟨_, rfl⟩
  have htoCall := LoopTasks.toCall_of_next hnext
  have hi : i < s.numThreads + 1 := h.home_lt (htoCall ▸ List.mem_cons_self)
  have hset := work_setLoop (s := s) (l := l) hi
  have hload : load (s.loops i) = task.cost + load l := by
    rw [load, htoCall, List.map_cons, List.sum_cons]
    rfl
  have hperform := (h.take htoCall).work_perform
  rw [TcpServer.callFunctor, hnext]
  change work ((s.setLoop i l).perform task) < work s
  omega

end Work

/-! ### The loops alone -/

/-- A step that a loop takes when nothing happens from outside. -/
def OfLoop : ServerStep → Prop
  | .swap _ => True
  | .callFunctor _ => True
  | .leave _ => True
  | _ => False

/-- What the loops reach when nothing happens from outside. -/
def Continued (s s' : TcpServer) : Prop :=
  Reachable (total step) (fun s e => s.Possible e ∧ OfLoop e) s s'

/-- Nothing is queued. -/
def Settled (s : TcpServer) : Prop := ∀ i, (s.loops i).toCall = []

section Settling

variable {s s' : TcpServer}

theorem Continued.regular (h : Continued s s') (regular : s.Regular) : s'.Regular :=
  h.invariant_total (fun possible hs => hs.step possible.1) regular

/-- Events that no task brings about. -/
theorem did_perform (s : TcpServer) (task : ServerTask) (c : Nat) :
    (s.perform task).did (.created c) = s.did (.created c) ∧
      (s.perform task).did (.closed c) = s.did (.closed c) := by
  cases task with
  | connectEstablished d => exact ⟨did_note .., did_note ..⟩
  | removeConnectionInLoop d => exact ⟨did_note .., did_note ..⟩
  | connectDestroyed d =>
      simp only [perform, connectDestroyed]
      split
      · exact ⟨did_note .., did_note ..⟩
      · exact ⟨did_note .., did_note ..⟩
  | sendInLoop d =>
      simp only [perform, sendInLoop]
      split <;> exact ⟨rfl, rfl⟩
  | _ => exact ⟨rfl, rfl⟩

theorem Continued.did (h : Continued s s') (c : Nat) :
    s'.did (.created c) = s.did (.created c) ∧ s'.did (.closed c) = s.did (.closed c) := by
  refine h.invariant_total (I := fun s' => s'.did (.created c) = s.did (.created c) ∧
    s'.did (.closed c) = s.did (.closed c)) (fun {s₁ e} possible hs => ?_) ⟨rfl, rfl⟩
  cases e with
  | callFunctor i =>
      simp only [TcpServer.step, callFunctor]
      split
      · exact hs
      · rename_i task l hnext
        have hperform := did_perform (s₁.setLoop i l) task c
        exact ⟨hperform.1.trans hs.1, hperform.2.trans hs.2⟩
  | swap i => exact hs
  | leave i => exact hs
  | _ => exact possible.2.elim

/-- A loop with tasks can have functors to call. -/
theorem Sound.ready (h : s.Sound []) {i : Nat} (hi : (s.loops i).toCall ≠ []) :
    ∃ s', Continued s s' ∧ work s' = work s ∧ (s'.loops i).functors ≠ [] := by
  by_cases hfunctors : (s.loops i).functors = []
  · have hpending : (s.loops i).toCall = (s.loops i).pendingFunctors := by
      rw [LoopTasks.toCall, hfunctors, List.nil_append]
    have hlt : i < s.numThreads + 1 := by
      obtain ⟨task, htask⟩ := List.exists_mem_of_ne_nil _ hi
      exact h.home_lt htask
    -- The loop leaves `doPendingFunctors`, and comes back to it.
    let left := s.step (.leave i)
    have hleft : left.loops i = { s.loops i with called := [] } := Function.update_self ..
    have hswap : (left.step (.swap i)).loops i = { functors := (s.loops i).pendingFunctors } := by
      change Function.update left.loops i { functors := (left.loops i).pendingFunctors } i = _
      rw [Function.update_self, hleft]
    have hcontinued : Continued s left := .step (e := .leave i) .start ⟨hfunctors, trivial⟩ rfl
    have hidle : (left.loops i).Idle := by
      rw [hleft]
      exact ⟨hfunctors, rfl⟩
    have hwork : work left = work s := work_turn hlt rfl
    have hwork' : work (left.step (.swap i)) = work left := by
      refine work_turn hlt ?_
      simp [hleft, LoopTasks.toCall, hfunctors]
    refine ⟨left.step (.swap i), .step (e := .swap i) hcontinued ⟨⟨hlt, hidle⟩, trivial⟩ rfl,
      hwork'.trans hwork, ?_⟩
    · rw [hswap]
      exact hpending ▸ hi
  · exact ⟨s, .start, rfl, hfunctors⟩

/-- While something is queued, the loops can go on. -/
theorem Regular.progress (h : s.Regular) (hs : ¬ s.Settled) :
    ∃ s', Continued s s' ∧ work s' < work s := by
  obtain ⟨i, hi⟩ := not_forall.mp hs
  obtain ⟨s₁, hcontinued, hwork, hfunctors⟩ := h.1.ready hi
  have hlt := (hcontinued.regular h).1.work_callFunctor hfunctors
  have hcall : Continued s₁ (s₁.callFunctor i) :=
    .step (e := .callFunctor i) .start ⟨hfunctors, trivial⟩ rfl
  exact ⟨s₁.callFunctor i, hcontinued.trans hcall, hwork ▸ hlt⟩

theorem Regular.settles (h : s.Regular) : ∃ s', Continued s s' ∧ s'.Settled := by
  induction hw : work s using Nat.strong_induction_on generalizing s with
  | _ n ih =>
      by_cases settled : s.Settled
      · exact ⟨s, .start, settled⟩
      · obtain ⟨s₁, hcontinued, hlt⟩ := h.progress settled
        obtain ⟨s', hcontinued', settled'⟩ :=
          ih (work s₁) (hw ▸ hlt) (hcontinued.regular h) rfl
        exact ⟨s', hcontinued.trans hcontinued', settled'⟩

theorem Settled.outstanding (settled : s.Settled) (task : ServerTask) :
    s.outstanding [] task = 0 := by
  rw [TcpServer.outstanding, settled]
  rfl

/-- **The loops settle every account.** From every state that is reached, the loops can go on, with
nothing happening from outside, until nothing is queued. Then every connection that was created has
been established, once; it has been removed and destroyed as often as it was closed; and the map has
those that were not closed. -/
theorem loops_settle {name ipPort : Bytes} {numThreads : Nat}
    (h : Reached name ipPort numThreads s) :
    ∃ s', Continued s s' ∧ s'.Settled ∧ ∀ c, .created c ∈ s.history →
      s'.did (.established c) = 1 ∧ s'.did (.removed c) = s.did (.closed c) ∧
        s'.did (.destroyed c) = s.did (.closed c) ∧
          (s'.connections (s'.connName c) = some c ↔ .closed c ∉ s.history) := by
  obtain ⟨s', hcontinued, settled⟩ := h.regular.settles
  refine ⟨s', hcontinued, settled, fun c hc => ?_⟩
  have regular := (hcontinued.regular h.regular).1
  obtain ⟨hcreated, hclosed⟩ := hcontinued.did c
  have hestablished := regular.established c
  have hremoved := regular.removed c
  have hdestroyed := regular.destroyed c
  rw [settled.outstanding, Nat.add_zero] at hestablished hremoved hdestroyed
  have hone : s.did (.created c) = 1 := by
    have hcount := h.regular.1.created c
    rw [mem_history] at hc
    split at hcount
    · exact hcount
    · omega
  refine ⟨by omega, by omega, by omega, ?_⟩
  rw [regular.mapped, mem_history, not_mem_history, not_mem_history]
  omega

/-- Three connections come to two loops, and the first one closes. -/
def threeConnections : List ServerStep :=
  [.newConnection, .newConnection, .newConnection, .swap 1, .callFunctor 1, .callFunctor 1, .leave 1,
    .handleClose 1, .swap 0, .callFunctor 0, .leave 0]

theorem threeConnections_settle : ∃ s : TcpServer, s.did (.destroyed 1) = 0 ∧
    ∃ s', Continued s s' ∧ s'.Settled ∧ s'.did (.destroyed 1) = s.did (.closed 1) := by
  have hrun : (follow (total step) Possible (start (ascii "hub") (ascii "127.0.0.1:80") 2)
      threeConnections).map (fun s => (decide (.created 1 ∈ s.history), s.did (.destroyed 1))) =
        some (true, 0) := by decide +kernel
  obtain ⟨s, hfollow, hrun⟩ := Option.map_eq_some_iff.mp hrun
  obtain ⟨hcreated, hdestroyed⟩ := Prod.mk.inj hrun
  obtain ⟨s', hcontinued, settled, haccount⟩ := loops_settle (Reachable.start.of_follow hfollow)
  exact ⟨s, hdestroyed, s', hcontinued, settled, (haccount 1 (of_decide_eq_true hcreated)).2.2.1⟩

end Settling

/-! ### Tasks with a plain pointer -/

/-- The plain tasks of a queue, with what keeps their connections until they are called: the map, or
a task behind them. -/
def Covered (history : List LifeEvent) : List ServerTask → Prop
  | [] => True
  | task :: tasks =>
      (task.plain → .removed task.conn ∉ history ∨ .connectDestroyed task.conn ∈ tasks) ∧
        Covered history tasks

section Plain

variable {history : List LifeEvent} {tasks : List ServerTask}

theorem covered_append {task : ServerTask} (h : Covered history tasks)
    (htask : task.plain → .removed task.conn ∉ history) : Covered history (tasks ++ [task]) := by
  induction tasks with
  | nil => exact ⟨fun plain => .inl (htask plain), trivial⟩
  | cons first tasks ih =>
      refine ⟨fun plain => ?_, ih h.2⟩
      rcases h.1 plain with kept | destroyed
      · exact .inl kept
      · exact .inr (List.mem_append_left _ destroyed)

/-- Another event takes nothing away. -/
theorem covered_event {e : LifeEvent} (h : Covered history tasks)
    (he : ∀ task ∈ tasks, task.plain → e ≠ .removed task.conn) :
    Covered (history ++ [e]) tasks := by
  induction tasks with
  | nil => trivial
  | cons first tasks ih =>
      refine ⟨fun plain => ?_, ih h.2 fun task htask => he task (List.mem_cons_of_mem _ htask)⟩
      rcases h.1 plain with kept | destroyed
      · have hne := he first List.mem_cons_self plain
        refine .inl ?_
        simp [kept, hne.symm]
      · exact .inr destroyed

/-- When a connection is removed, the task that is queued then covers those before it. -/
theorem covered_removed {c : Nat} (h : Covered history tasks) :
    Covered (history ++ [.removed c]) (tasks ++ [.connectDestroyed c]) := by
  induction tasks with
  | nil => exact ⟨nofun, trivial⟩
  | cons first tasks ih =>
      refine ⟨fun plain => ?_, ih h.2⟩
      by_cases heq : first.conn = c
      · exact .inr (by simp [heq])
      · rcases h.1 plain with kept | destroyed
        · exact .inl (by simp [kept, heq])
        · exact .inr (List.mem_append_left _ destroyed)

end Plain

/-- No plain pointer has been followed too late, and none will be. -/
structure Safe (s : TcpServer) : Prop where
  dangling : s.dangling = false
  covered : ∀ i, Covered s.history (s.loops i).toCall

/-- A thread is not late with its task. -/
def InTime (s : TcpServer) : ServerStep → Prop
  | .queueSend c => .removed c ∉ s.history
  | .queueShutdown c => .removed c ∉ s.history
  | _ => True

instance (s : TcpServer) (e : ServerStep) : Decidable (s.InTime e) :=
  match e with
  | .queueSend c => inferInstanceAs (Decidable (.removed c ∉ s.history))
  | .queueShutdown c => inferInstanceAs (Decidable (.removed c ∉ s.history))
  | .newConnection | .handleClose _ | .swap _ | .callFunctor _ | .leave _ | .queueNotice _
  | .hold _ | .release _ | .testState _ | .setDisconnecting _ | .shutdown _ => isTrue trivial

section Pointers

variable {s : TcpServer} {i c : Nat}

theorem Safe.note {e : LifeEvent} (h : s.Safe) (he : ∀ c, e ≠ .removed c) : (s.note e).Safe where
  dangling := h.dangling
  covered i := covered_event (h.covered i) fun _ _ _ => he _

theorem Safe.queue {task : ServerTask} (h : s.Safe)
    (htask : task.plain → .removed task.conn ∉ s.history) : (s.queueInLoop i task).Safe where
  dangling := h.dangling
  covered j := by
    rw [toCall_queueInLoop]
    split
    · exact covered_append (h.covered j) htask
    · rw [List.append_nil]
      exact h.covered j

theorem Safe.setLoop {l : LoopTasks} (h : s.Safe) (hl : Covered s.history l.toCall) :
    (s.setLoop i l).Safe where
  dangling := h.dangling
  covered j := by
    rw [loops_setLoop]
    split
    · exact hl
    · exact h.covered j

theorem Safe.connectEstablished (h : s.Safe) (c : Nat) : (s.connectEstablished c).Safe := by
  have hpolled : ((s.setState c .kConnected).setPolled c true).Safe := ⟨h.dangling, h.covered⟩
  exact hpolled.note fun _ h => by cases h

theorem Safe.connectDestroyed (h : s.Safe) (c : Nat) : (s.connectDestroyed c).Safe := by
  have hremoved : ((if s.state c = StateE.kConnected then s.setState c .kDisconnected
      else s).setPolled c false).Safe := by
    split <;> exact ⟨h.dangling, h.covered⟩
  exact hremoved.note fun _ h => by cases h

theorem home_plain {task : ServerTask} (plain : task.plain) : s.home task = s.ioLoop task.conn := by
  cases task with
  | removeConnectionInLoop c => cases plain
  | _ => rfl

/-- The plain tasks of a connection that is removed are in the queue that gets `connectDestroyed`,
and before it. -/
theorem Safe.removeConnectionInLoop {hand : List ServerTask} (h : s.Safe) (sound : s.Sound hand)
    (c : Nat) : (s.removeConnectionInLoop c).Safe where
  dangling := h.dangling
  covered j := by
    rw [TcpServer.removeConnectionInLoop, toCall_queueInLoop]
    split
    · exact covered_removed (h.covered j)
    · rename_i hj
      rw [List.append_nil]
      refine covered_event (h.covered j) fun task htask plain heq => hj ?_
      have hhome := (sound.placed j task htask).1
      cases heq
      exact hhome.symm.trans (home_plain plain)

theorem Safe.handleClose (h : s.Safe) (sound : s.Sound [])
    (established : .established c ∈ s.history) : (s.handleClose c).Safe := by
  have hclose : ((s.setState c .kDisconnected).note (.closed c)).Safe :=
    Safe.note ⟨h.dangling, h.covered⟩ fun _ h => by cases h
  rw [TcpServer.handleClose, removeConnection]
  split
  · exact hclose.removeConnectionInLoop (sound.close established) c
  · exact hclose.queue fun h => by cases h

theorem Safe.newConnection (h : s.Safe) : s.newConnection.Safe := by
  have hcreate : s.create.Safe := Safe.note ⟨h.dangling, h.covered⟩ fun _ h => by cases h
  rw [newConnection_eq]
  split
  · exact hcreate.connectEstablished _
  · exact hcreate.queue fun h => by cases h

/-- What a plain task at the head of a queue points to. -/
theorem Safe.owned {task : ServerTask} {l : LoopTasks} (h : s.Safe) (sound : s.Sound [])
    (htoCall : (s.loops i).toCall = task :: l.toCall) (plain : task.plain) :
    (s.setLoop i l).Owned task.conn := by
  have hcovered := h.covered i
  rw [htoCall] at hcovered
  have hmem : task ∈ (s.loops i).toCall := htoCall ▸ List.mem_cons_self
  rcases hcovered.1 plain with removed | destroyed
  · exact .inl ((sound.mapped task.conn).mpr ⟨(sound.placed i task hmem).2, removed⟩)
  · refine .inr (.inr ⟨i, sound.home_lt hmem, .connectDestroyed task.conn, ?_, rfl, rfl⟩)
    rw [loops_setLoop, if_pos rfl]
    exact List.mem_append_right _ destroyed

/-- A plain pointer to a connection that is there is followed. -/
theorem Safe.followThis (h : s.Safe) (owned : s.Owned c) : (s.followThis c).Safe where
  dangling := by simp [TcpServer.followThis, h.dangling, owned]
  covered := h.covered

theorem Safe.callFunctor (h : s.Safe) (sound : s.Sound []) (i : Nat) : (s.callFunctor i).Safe := by
  rw [TcpServer.callFunctor]
  split
  · exact h
  · rename_i task l hnext
    have htoCall := LoopTasks.toCall_of_next hnext
    have hcovered := h.covered i
    rw [htoCall] at hcovered
    have hset : (s.setLoop i l).Safe := h.setLoop hcovered.2
    have howned := h.owned sound htoCall
    cases task with
    | connectEstablished c => exact hset.connectEstablished c
    | removeConnectionInLoop c => exact hset.removeConnectionInLoop (sound.take htoCall) c
    | connectDestroyed c => exact hset.connectDestroyed c
    | notice c => exact hset
    | sendInLoop c =>
        have hfollowed := hset.followThis (howned rfl)
        simp only [perform, sendInLoop]
        split
        · exact hfollowed
        · exact ⟨hfollowed.dangling, hfollowed.covered⟩
    | shutdownInLoop c => exact hset.followThis (howned rfl)

theorem Safe.step {e : ServerStep} (h : s.Safe) (regular : s.Regular) (possible : s.Possible e)
    (inTime : s.InTime e) : (s.step e).Safe := by
  cases e with
  | newConnection => exact h.newConnection
  | handleClose c => exact h.handleClose regular.1 (regular.2.polled c possible.1.1)
  | swap i =>
      refine h.setLoop ?_
      rw [LoopTasks.toCall_swap possible.2]
      exact h.covered i
  | callFunctor i => exact h.callFunctor regular.1 i
  | leave i => exact h.setLoop (h.covered i)
  | queueNotice c => exact h.queue fun h => by cases h
  | hold c => exact ⟨h.dangling, h.covered⟩
  | release c => exact ⟨h.dangling, h.covered⟩
  | testState c => exact ⟨h.dangling, h.covered⟩
  | queueSend c => exact Safe.queue ⟨h.dangling, h.covered⟩ fun _ => inTime
  | setDisconnecting c => exact ⟨h.dangling, h.covered⟩
  | queueShutdown c => exact Safe.queue ⟨h.dangling, h.covered⟩ fun _ => inTime
  | shutdown c => exact ⟨h.dangling, h.covered⟩

/-- **No plain pointer dangles in time.** `send` and `shutdown` of another thread queue a task that
does not keep its connection. In every run in which no thread queues one for a connection that the
server has removed by then, the connection is there whenever such a task is called. -/
theorem plain_pointers_safe {name ipPort : Bytes} {numThreads : Nat}
    (h : Reachable (total step) (fun s e => s.Possible e ∧ s.InTime e)
      (start name ipPort numThreads) s) : s.dangling = false := by
  have hstart : (start name ipPort numThreads).Safe := ⟨rfl, fun _ => trivial⟩
  have hsafe : s.Safe := by
    refine h.invariant_of_reached (fun {s₁ e s₂} before possible hs taken => ?_) hstart
    have reached : Reached name ipPort numThreads s₁ := before.mono fun meets => meets.1
    cases taken
    exact hs.step reached.regular possible.1 possible.2
  exact hsafe.dangling

/-- A connection comes, and another thread finds it connected. -/
def found : List ServerStep :=
  [.newConnection, .swap 1, .callFunctor 1, .leave 1, .hold 1, .testState 1]

/-- The connection is closed when the task has been queued. -/
theorem plain_pointers_safe_found : ∃ s : TcpServer,
    .destroyed 1 ∈ s.history ∧ s.dangling = false := by
  have hrun : (follow (total step) (fun s e => s.Possible e ∧ s.InTime e)
      (start (ascii "hub") (ascii "127.0.0.1:80") 1) (found ++ [.queueSend 1, .release 1,
        .handleClose 1, .swap 0, .callFunctor 0, .swap 1, .callFunctor 1, .callFunctor 1])).map
          (fun s => decide (.destroyed 1 ∈ s.history)) = some true := by decide +kernel
  obtain ⟨s, hfollow, hdestroyed⟩ := Option.map_eq_some_iff.mp hrun
  exact ⟨s, of_decide_eq_true hdestroyed, plain_pointers_safe (Reachable.start.of_follow hfollow)⟩

/-- The thread queues the task when the connection is gone. -/
theorem plain_pointer_dangles : ∃ s,
    Reached (ascii "hub") (ascii "127.0.0.1:80") 1 s ∧ s.dangling = true := by
  have hrun : (follow (total step) Possible (start (ascii "hub") (ascii "127.0.0.1:80") 1)
      (found ++ [.handleClose 1, .swap 0, .callFunctor 0, .leave 0, .swap 1, .callFunctor 1, .leave 1,
        .queueSend 1, .release 1, .swap 1, .callFunctor 1])).map dangling = some true := by
    decide +kernel
  obtain ⟨s, hfollow, hdangling⟩ := Option.map_eq_some_iff.mp hrun
  exact ⟨s, Reachable.start.of_follow hfollow, hdangling⟩

end Pointers

end TcpServer

end Rmuduo.Net
