/-
When the connections of a server are closed (`net/TcpServer.cc`, `net/TcpConnection.cc`).

The loop of a connection takes its channel out of the poller when it destroys the connection. A task
of `send` that comes later, when a `shutdown` has put the state back to `kDisconnecting`, writes all
the same, and has the channel polled again.

* `Early`, `Prompt` — no task with a plain `this` comes behind the destruction of its connection.
* `connections_accounted` — what becomes of the connections, in every run and in those in time.
* `closed_when_destroyed` — a late `send` has a connection closed once more.
-/

import Rmuduo.Net.ServerTasks

namespace Rmuduo.Net.TcpServer

open Lib Lib.System

/-! ### Queues in time -/

/-- In front of the plain tasks of a queue, their connections are not destroyed. -/
structure Early (history : List LifeEvent) (tasks : List ServerTask) : Prop where
  order : tasks.Pairwise fun first task => task.plain → first ≠ .connectDestroyed task.conn
  alive : ∀ task ∈ tasks, task.plain → .destroyed task.conn ∉ history

section Queues

variable {history : List LifeEvent} {task : ServerTask} {tasks : List ServerTask}

theorem early_nil : Early history [] where
  order := .nil
  alive _ htask := absurd htask List.not_mem_nil

theorem Early.tail (h : Early history (task :: tasks)) : Early history tasks where
  order := (List.pairwise_cons.mp h.order).2
  alive task' htask' := h.alive task' (List.mem_cons_of_mem _ htask')

theorem Early.append (h : Early history tasks)
    (htask : task.plain → .destroyed task.conn ∉ history ∧ .connectDestroyed task.conn ∉ tasks) :
    Early history (tasks ++ [task]) where
  order := by
    refine List.pairwise_append.mpr ⟨h.order, List.pairwise_singleton _ _, ?_⟩
    intro first hfirst last hlast plain heq
    rw [List.mem_singleton.mp hlast] at plain heq
    exact (htask plain).2 (heq ▸ hfirst)
  alive task' htask' plain := by
    rcases List.mem_append.mp htask' with hold | hnew
    · exact h.alive task' hold plain
    · rw [List.mem_singleton.mp hnew] at plain ⊢
      exact (htask plain).1

/-- Another event takes nothing away. -/
theorem Early.event {e : LifeEvent} (h : Early history tasks)
    (he : ∀ task ∈ tasks, task.plain → e ≠ .destroyed task.conn) :
    Early (history ++ [e]) tasks where
  order := h.order
  alive task htask plain := by
    have hne := he task htask plain
    simp [h.alive task htask plain, hne.symm]

end Queues

/-! ### Servers in time -/

/-- No connection is closed when it has been destroyed. -/
def ClosedAlive (before : List LifeEvent) : LifeEvent → Prop
  | .closed c => .destroyed c ∉ before
  | _ => True

/-- No connection that has been destroyed is polled, and none will be. -/
structure Prompt (s : TcpServer) : Prop where
  queued : ∀ i, Early s.history (s.loops i).toCall
  polled : ∀ c, s.polled c = true → .destroyed c ∉ s.history
  closed : Explained ClosedAlive s.history

section Servers

variable {s s' : TcpServer} {i c : Nat} {task : ServerTask}

/-- A change of what they are not about. -/
theorem Prompt.same (h : s.Prompt) (history : s'.history = s.history) (loops : s'.loops = s.loops)
    (polled : s'.polled = s.polled) : s'.Prompt where
  queued j := by
    rw [history, loops]
    exact h.queued j
  polled d hd := by
    rw [polled] at hd
    rw [history]
    exact h.polled d hd
  closed := by
    rw [history]
    exact h.closed

theorem Prompt.note {e : LifeEvent} (h : s.Prompt) (he : ∀ c, e ≠ .destroyed c)
    (closed : ClosedAlive s.history e) : (s.note e).Prompt where
  queued j := (h.queued j).event fun _ _ _ => he _
  polled d hd := by
    have hd' := h.polled d hd
    simp [TcpServer.note, hd', (he d).symm]
  closed := h.closed.concat closed

theorem Prompt.setPolled {polled : Bool} (h : s.Prompt)
    (alive : polled → .destroyed c ∉ s.history) : (s.setPolled c polled).Prompt where
  queued := h.queued
  polled d hd := by
    change Function.update s.polled c polled d = true at hd
    rw [Function.update_apply] at hd
    split at hd
    · rename_i heq
      exact heq ▸ alive hd
    · exact h.polled d hd
  closed := h.closed

theorem Prompt.queue (h : s.Prompt) (htask : task.plain → .destroyed task.conn ∉ s.history ∧
      .connectDestroyed task.conn ∉ (s.loops i).toCall) : (s.queueInLoop i task).Prompt where
  queued j := by
    rw [toCall_queueInLoop]
    split
    · rename_i hj
      rw [hj]
      exact (h.queued i).append htask
    · rw [List.append_nil]
      exact h.queued j
  polled := h.polled
  closed := h.closed

theorem Prompt.setLoop {l : LoopTasks} (h : s.Prompt) (hl : Early s.history l.toCall) :
    (s.setLoop i l).Prompt where
  queued j := by
    rw [loops_setLoop]
    split
    · exact hl
    · exact h.queued j
  polled := h.polled
  closed := h.closed

/-- A connection that is still to be established has not been destroyed. -/
theorem Sound.not_destroyed (h : s.Sound [.connectEstablished c]) : .destroyed c ∉ s.history := by
  refine (h.unestablished ?_).2.2
  have hcreated := h.created c
  have hestablished := h.established c
  rw [outstanding_cons, if_pos rfl] at hestablished
  rw [not_mem_history]
  split at hcreated <;> omega

theorem Prompt.connectEstablished (h : s.Prompt) (sound : s.Sound [.connectEstablished c]) :
    (s.connectEstablished c).Prompt := by
  have hstate : (s.setState c .kConnected).Prompt := h.same rfl rfl rfl
  exact (hstate.setPolled fun _ => sound.not_destroyed).note (fun _ => nofun) trivial

/-- A connection is destroyed when no plain task of it is left. -/
theorem Prompt.connectDestroyed (h : s.Prompt)
    (last : ∀ j, ∀ task ∈ (s.loops j).toCall, task.plain → task.conn ≠ c) :
    (s.connectDestroyed c).Prompt := by
  have hstate : (if s.state c = StateE.kConnected then s.setState c .kDisconnected else s).Prompt ∧
      (if s.state c = StateE.kConnected then s.setState c .kDisconnected else s).loops =
        s.loops := by
    split
    · exact ⟨h.same rfl rfl rfl, rfl⟩
    · exact ⟨h, rfl⟩
  obtain ⟨hprompt, hloops⟩ := hstate
  rw [TcpServer.connectDestroyed]
  generalize (if s.state c = StateE.kConnected then s.setState c .kDisconnected else s) = s' at *
  rw [← hloops] at last
  constructor
  · intro j
    refine (hprompt.queued j).event fun task htask plain heq => last j task htask plain ?_
    exact (LifeEvent.destroyed.inj heq).symm
  · intro d hd
    change Function.update s'.polled c false d = true at hd
    rw [Function.update_apply] at hd
    split at hd
    · cases hd
    · rename_i hne
      have hd' := hprompt.polled d hd
      simp [TcpServer.note, TcpServer.setPolled, hd', hne]
  · exact hprompt.closed.concat trivial

theorem Prompt.removeConnectionInLoop (h : s.Prompt) (c : Nat) :
    (s.removeConnectionInLoop c).Prompt := by
  have herased : Prompt { s with connections := Function.update s.connections (s.connName c) none } :=
    h.same rfl rfl rfl
  have hremoved := herased.note (e := .removed c) (fun _ => nofun) trivial
  exact hremoved.queue nofun

theorem Prompt.handleClose (h : s.Prompt) (polled : s.polled c = true) :
    (s.handleClose c).Prompt := by
  have hstate : (s.setState c .kDisconnected).Prompt := h.same rfl rfl rfl
  have hclosed : ((s.setState c .kDisconnected).note (.closed c)).Prompt :=
    hstate.note (fun _ heq => by cases heq) (h.polled c polled)
  rw [TcpServer.handleClose, removeConnection]
  split
  · exact hclosed.removeConnectionInLoop c
  · exact hclosed.queue fun plain => by cases plain

theorem Prompt.newConnection (h : s.Prompt) (sound : s.Sound []) : s.newConnection.Prompt := by
  have hplaced : Prompt { s with
      next := s.robinNext
      nextConnId := s.nextConnId + 1
      connections := Function.update s.connections (s.connName s.nextConnId) (some s.nextConnId)
      ioLoop := Function.update s.ioLoop s.nextConnId s.robinLoop } := h.same rfl rfl rfl
  have hcreate : s.create.Prompt := hplaced.note (fun _ => nofun) trivial
  rw [newConnection_eq]
  split
  · exact hcreate.connectEstablished sound.create
  · exact hcreate.queue nofun

/-- The call of a task that a loop has taken from its queue. -/
theorem Prompt.perform (h : s.Prompt) (sound : s.Sound [task])
    (alive : task.plain → .destroyed task.conn ∉ s.history)
    (last : ∀ c, task = .connectDestroyed c →
      ∀ j, ∀ task' ∈ (s.loops j).toCall, task'.plain → task'.conn ≠ c) :
    (s.perform task).Prompt := by
  cases task with
  | connectEstablished c => exact h.connectEstablished sound
  | removeConnectionInLoop c => exact h.removeConnectionInLoop c
  | connectDestroyed c => exact h.connectDestroyed (last c rfl)
  | notice c => exact h
  | sendInLoop c =>
      have hfollowed : (s.followThis c).Prompt := h.same rfl rfl rfl
      rw [TcpServer.perform, sendInLoop]
      split
      · exact hfollowed
      · exact hfollowed.setPolled fun _ => alive rfl
  | shutdownInLoop c => exact h.same rfl rfl rfl

theorem Prompt.callFunctor (h : s.Prompt) (sound : s.Sound []) (i : Nat) :
    (s.callFunctor i).Prompt := by
  rw [TcpServer.callFunctor]
  split
  · exact h
  · rename_i task l hnext
    have htoCall := LoopTasks.toCall_of_next hnext
    have hearly := h.queued i
    rw [htoCall] at hearly
    refine (h.setLoop hearly.tail).perform (sound.take htoCall)
      (hearly.alive task List.mem_cons_self) ?_
    -- The plain tasks of the connection are in the queue that the task was the first of.
    rintro c rfl j task' htask' plain rfl
    have hhome := (sound.placed i _ (htoCall ▸ List.mem_cons_self)).1
    rw [loops_setLoop] at htask'
    split at htask'
    · exact (List.pairwise_cons.mp hearly.order).1 task' htask' plain rfl
    · rename_i hj
      have hhome' := (sound.placed j task' htask').1
      rw [home_plain plain] at hhome'
      exact hj (hhome'.symm.trans hhome)

/-- A connection that has not been removed is not about to be destroyed either. -/
theorem Sound.not_destroyed_of_kept (h : s.Sound []) (kept : .removed c ∉ s.history) :
    .destroyed c ∉ s.history ∧ .connectDestroyed c ∉ (s.loops (s.ioLoop c)).toCall := by
  have hdestroyed := h.destroyed c
  rw [not_mem_history.mp kept] at hdestroyed
  constructor
  · rw [not_mem_history]
    omega
  · intro hmem
    have hpos : 0 < s.outstanding [] (.connectDestroyed c) := List.count_pos_iff.mpr hmem
    omega

theorem Prompt.step {e : ServerStep} (h : s.Prompt) (regular : s.Regular)
    (possible : s.Possible e) (inTime : s.InTime e) : (s.step e).Prompt := by
  cases e with
  | newConnection => exact h.newConnection regular.1
  | handleClose c => exact h.handleClose possible.1.1
  | swap i =>
      refine h.setLoop ?_
      rw [LoopTasks.toCall_swap possible.2]
      exact h.queued i
  | callFunctor i => exact h.callFunctor regular.1 i
  | leave i => exact h.setLoop (h.queued i)
  | queueNotice c => exact h.queue nofun
  | hold c => exact h.same rfl rfl rfl
  | release c => exact h.same rfl rfl rfl
  | testState c => exact h.same rfl rfl rfl
  | queueSend c =>
      have hfinished : (s.finishSend c).Prompt := h.same rfl rfl rfl
      exact hfinished.queue fun _ => regular.1.not_destroyed_of_kept inTime
  | setDisconnecting c => exact h.same rfl rfl rfl
  | queueShutdown c =>
      have hfinished : (s.finishShutdown c).Prompt := h.same rfl rfl rfl
      exact hfinished.queue fun _ => regular.1.not_destroyed_of_kept inTime
  | shutdown c => exact h.same rfl rfl rfl

end Servers

/-! ### Every connection -/

section Reached

variable {name ipPort : Bytes} {numThreads : Nat} {s : TcpServer}

/-- The states that are reached when no thread is late with a task of `send` or `shutdown`. -/
def ReachedInTime (name ipPort : Bytes) (numThreads : Nat) (s : TcpServer) : Prop :=
  Reachable (total step) (fun s e => s.Possible e ∧ s.InTime e) (start name ipPort numThreads) s

theorem ReachedInTime.prompt (h : ReachedInTime name ipPort numThreads s) : s.Prompt := by
  have hstart : (start name ipPort numThreads).Prompt :=
    ⟨fun _ => early_nil, fun _ hpolled => (by cases hpolled), explained_nil _⟩
  unfold ReachedInTime at h
  refine h.invariant_of_reached (fun {s₁ e s₂} before possible hs taken => ?_) hstart
  have reached : Reached name ipPort numThreads s₁ := before.mono fun meets => meets.1
  cases taken
  exact hs.step reached.regular possible.1 possible.2

/-- What is known of the connections at any time. -/
structure Accounted (s : TcpServer) (name ipPort : Bytes) (numThreads : Nat) : Prop where
  explained : Explained Justified s.history
  closed : ReachedInTime name ipPort numThreads s → Explained ClosedAlive s.history
  ioLoop : ∀ c, .created c ∈ s.history →
    s.ioLoop c = if numThreads = 0 then 0 else (c - 1) % numThreads + 1
  mapped : ∀ c, s.connections (s.connName c) = some c ↔
    .created c ∈ s.history ∧ .removed c ∉ s.history
  owned : ∀ c, .created c ∈ s.history → .destroyed c ∉ s.history → s.Owned c

/-- **Every connection is accounted for.** In every state, whatever the order of the steps: each
connection is created once, established at most once, closed only when it has been established,
removed no more often than it is closed and destroyed no more often than it is removed; the loops of
the pool take the connections in turn; the map has those that have been created and not removed; and
until a connection is destroyed, something keeps it. If no thread queues a task of `send` or
`shutdown` for a connection that has been removed by then, none is closed after it has been
destroyed. -/
theorem connections_accounted (h : Reached name ipPort numThreads s) :
    s.Accounted name ipPort numThreads where
  explained := h.regular.1.explained
  closed inTime := inTime.prompt.closed
  ioLoop c hc := h.threads ▸ h.regular.1.robin c hc
  mapped := h.regular.1.mapped
  owned _ := h.regular.1.owned

theorem threeConnections_accounted : ∃ s : TcpServer,
    s.history = [.created 1, .created 2, .created 3, .established 1, .established 3, .closed 1,
      .removed 1] ∧ ReachedInTime (ascii "hub") (ascii "127.0.0.1:80") 2 s ∧
    s.Accounted (ascii "hub") (ascii "127.0.0.1:80") 2 := by
  have hrun : (follow (total step) (fun s e => s.Possible e ∧ s.InTime e)
      (start (ascii "hub") (ascii "127.0.0.1:80") 2) threeConnections).map history =
        some [.created 1, .created 2, .created 3, .established 1, .established 3, .closed 1,
          .removed 1] := by decide +kernel
  obtain ⟨s, hfollow, hhistory⟩ := Option.map_eq_some_iff.mp hrun
  have hreached : ReachedInTime (ascii "hub") (ascii "127.0.0.1:80") 2 s :=
    Reachable.start.of_follow hfollow
  exact ⟨s, hhistory, hreached, connections_accounted (hreached.mono fun meets => meets.1)⟩

/-- Two threads find the connection connected. It is closed and destroyed; then one of them sets the
state, and the other one queues what it sends. -/
theorem closed_when_destroyed : ∃ s,
    Reached (ascii "hub") (ascii "127.0.0.1:80") 1 s ∧ s.dangling = false ∧
      ¬ Explained ClosedAlive s.history := by
  have hrun : (follow (total step) Possible (start (ascii "hub") (ascii "127.0.0.1:80") 1)
      ([.newConnection, .swap 1, .callFunctor 1, .leave 1, .hold 1, .hold 1, .testState 1,
        .testState 1, .handleClose 1, .swap 0, .callFunctor 0, .leave 0, .setDisconnecting 1,
        .swap 1, .callFunctor 1, .leave 1, .queueSend 1, .swap 1, .callFunctor 1, .leave 1,
        .handleClose 1])).map (fun s => (s.dangling, s.history)) =
      some (false, [.created 1, .established 1, .closed 1, .removed 1, .destroyed 1, .closed 1]) := by
    decide +kernel
  obtain ⟨s, hfollow, hrun⟩ := Option.map_eq_some_iff.mp hrun
  obtain ⟨hdangling, hhistory⟩ := Prod.mk.inj hrun
  refine ⟨s, Reachable.start.of_follow hfollow, hdangling, fun hexplained => ?_⟩
  rw [hhistory] at hexplained
  have halive := hexplained
    [.created 1, .established 1, .closed 1, .removed 1, .destroyed 1] (.closed 1) [] rfl
  exact halive (by decide)

end Reached

end Rmuduo.Net.TcpServer
