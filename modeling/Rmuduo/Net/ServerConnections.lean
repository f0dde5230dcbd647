/-
What becomes of the connections of a server (`net/TcpServer.cc`, `net/EventLoopThreadPool.cc`,
`net/TcpConnection.cc`), whatever the order in which its loops and the threads of the application
take their steps.

* `Sound` — the books of a state. What has been done and what is still queued come to the same
  number, for each connection and each kind of task.
* `Reached.regular` — they are right in every state.
-/

import Rmuduo.Net.TcpServer

namespace Rmuduo.Net.TcpServer

open Lib Lib.System

/-! ### Counting -/

/-- The number of times that it has happened. -/
def did (s : TcpServer) (e : LifeEvent) : Nat := s.history.count e

/-- The loop that a task is for. -/
def home (s : TcpServer) : ServerTask → Nat
  | .removeConnectionInLoop _ => 0
  | task => s.ioLoop task.conn

/-- The number of times that a task is still to be called, those in hand included. -/
def outstanding (s : TcpServer) (hand : List ServerTask) (task : ServerTask) : Nat :=
  (s.loops (s.home task)).toCall.count task + hand.count task

section Counting

variable {s : TcpServer} {c : Nat}

theorem did_note (s : TcpServer) (e e' : LifeEvent) :
    (s.note e).did e' = s.did e' + if e = e' then 1 else 0 := by
  simp [did, note, List.count_append, List.count_singleton]

theorem loops_setLoop (s : TcpServer) (i j : Nat) (l : LoopTasks) :
    (s.setLoop i l).loops j = if j = i then l else s.loops j :=
  Function.update_apply ..

theorem toCall_queueInLoop (s : TcpServer) (i j : Nat) (task : ServerTask) :
    ((s.queueInLoop i task).loops j).toCall =
      (s.loops j).toCall ++ if j = i then [task] else [] := by
  rw [queueInLoop, loops_setLoop]
  split
  · rename_i h
    simp [h, LoopTasks.toCall]
  · simp

@[simp] theorem outstanding_cons (s : TcpServer) (hand : List ServerTask)
    (task task' : ServerTask) : s.outstanding (task :: hand) task' =
      s.outstanding hand task' + if task = task' then 1 else 0 := by
  simp [outstanding, List.count_cons, Nat.add_assoc]

theorem mem_history {e : LifeEvent} : e ∈ s.history ↔ 0 < s.did e :=
  List.count_pos_iff.symm

theorem not_mem_history {e : LifeEvent} : e ∉ s.history ↔ s.did e = 0 :=
  List.count_eq_zero.symm

end Counting

/-! ### Why it happens -/

/-- What comes before an event. -/
def Justified (before : List LifeEvent) : LifeEvent → Prop
  | .created c => .created c ∉ before
  | .established c => before.count (.established c) < before.count (.created c)
  | .closed c => .established c ∈ before
  | .removed c => before.count (.removed c) < before.count (.closed c)
  | .destroyed c => before.count (.destroyed c) < before.count (.removed c)

/-! ### The books -/

/-- What is true of a server when some tasks have been taken out of its queues and are about to be
called, or are about to be queued. -/
structure Sound (s : TcpServer) (hand : List ServerTask) : Prop where
  explained : Explained Justified s.history
  first : 0 < s.nextConnId
  created : ∀ c, s.did (.created c) = if 0 < c ∧ c < s.nextConnId then 1 else 0
  placed : ∀ i, ∀ task ∈ (s.loops i).toCall, s.home task = i ∧ .created task.conn ∈ s.history
  inHand : ∀ task ∈ hand, .created task.conn ∈ s.history
  established : ∀ c, s.did (.established c) + s.outstanding hand (.connectEstablished c) =
    s.did (.created c)
  removed : ∀ c, s.did (.removed c) + s.outstanding hand (.removeConnectionInLoop c) =
    s.did (.closed c)
  destroyed : ∀ c, s.did (.destroyed c) + s.outstanding hand (.connectDestroyed c) =
    s.did (.removed c)
  mapped : ∀ c, s.connections (s.connName c) = some c ↔
    .created c ∈ s.history ∧ .removed c ∉ s.history
  next : s.next = if s.numThreads = 0 then 0 else (s.nextConnId - 1) % s.numThreads
  robin : ∀ c, .created c ∈ s.history →
    s.ioLoop c = if s.numThreads = 0 then 0 else (c - 1) % s.numThreads + 1

/-- What the books are about, but for the tasks. -/
def books (s : TcpServer) : TcpServer :=
  { s with
    state := fun _ => .kConnecting, polled := fun _ => false, loops := fun _ => {}
    held := fun _ => 0, calling := fun _ => 0, shutting := fun _ => 0, dangling := false }

section Books

variable {s s' : TcpServer} {hand hand' : List ServerTask}

theorem home_congr {task : ServerTask} (h : s'.ioLoop task.conn = s.ioLoop task.conn) :
    s'.home task = s.home task := by
  cases task with
  | removeConnectionInLoop c => rfl
  | _ => exact h

theorem home_of_books (same : s'.books = s.books) (task : ServerTask) :
    s'.home task = s.home task := by
  have hioLoop : s'.ioLoop = s.ioLoop := (congrArg TcpServer.ioLoop same :)
  exact home_congr (by rw [hioLoop])

/-- Tasks can be moved, between the queues and the hand, as long as each of those that the books
count is somewhere. -/
theorem Sound.move (h : s.Sound hand) (same : s'.books = s.books)
    (placed : ∀ i, ∀ task ∈ (s'.loops i).toCall,
      s.home task = i ∧ .created task.conn ∈ s.history)
    (inHand : ∀ task ∈ hand', .created task.conn ∈ s.history)
    (outstanding : ∀ task, task.booked → s'.outstanding hand' task = s.outstanding hand task) :
    s'.Sound hand' := by
  have hhistory : s'.history = s.history := (congrArg TcpServer.history same :)
  have hnextConnId : s'.nextConnId = s.nextConnId := (congrArg TcpServer.nextConnId same :)
  have hnumThreads : s'.numThreads = s.numThreads := (congrArg TcpServer.numThreads same :)
  have hnext : s'.next = s.next := (congrArg TcpServer.next same :)
  have hioLoop : s'.ioLoop = s.ioLoop := (congrArg TcpServer.ioLoop same :)
  have hconnections : s'.connections = s.connections := (congrArg TcpServer.connections same :)
  have hconnName : s'.connName = s.connName := (congrArg TcpServer.connName same :)
  have hdid : s'.did = s.did := (congrArg TcpServer.did same :)
  constructor
  · rw [hhistory]
    exact h.explained
  · rw [hnextConnId]
    exact h.first
  · rw [hdid, hnextConnId]
    exact h.created
  · intro i task htask
    rw [home_of_books same, hhistory]
    exact placed i task htask
  · rw [hhistory]
    exact inHand
  · intro c
    rw [hdid, outstanding _ rfl]
    exact h.established c
  · intro c
    rw [hdid, outstanding _ rfl]
    exact h.removed c
  · intro c
    rw [hdid, outstanding _ rfl]
    exact h.destroyed c
  · rw [hconnName, hconnections, hhistory]
    exact h.mapped
  · rw [hnext, hnumThreads, hnextConnId]
    exact h.next
  · rw [hhistory, hioLoop, hnumThreads]
    exact h.robin

theorem Sound.same (h : s.Sound hand) (same : s'.books = s.books)
    (toCall : ∀ i, (s'.loops i).toCall = (s.loops i).toCall) : s'.Sound hand := by
  refine h.move same (fun i task htask => ?_) h.inHand (fun task _ => ?_)
  · rw [toCall] at htask
    exact h.placed i task htask
  · rw [outstanding, outstanding, home_of_books same, toCall]

/-- A task in hand that the books do not count. -/
theorem Sound.drop {task : ServerTask} (h : s.Sound [task]) (free : task.booked = false) :
    s.Sound [] := by
  refine h.move rfl h.placed (by simp) (fun task' booked => ?_)
  have hne : task ≠ task' := by
    rintro rfl
    rw [free] at booked
    cases booked
  simp [outstanding, hne]

theorem Sound.pick {task : ServerTask} (h : s.Sound []) (free : task.booked = false)
    (created : .created task.conn ∈ s.history) : s.Sound [task] := by
  refine h.move rfl h.placed (by simpa using created) (fun task' booked => ?_)
  have hne : task ≠ task' := by
    rintro rfl
    rw [free] at booked
    cases booked
  simp [outstanding, hne]

/-- The task in hand is queued. -/
theorem Sound.queue {task : ServerTask} (h : s.Sound [task]) :
    (s.queueInLoop (s.home task) task).Sound [] := by
  have same : (s.queueInLoop (s.home task) task).books = s.books := rfl
  refine h.move same (fun i task' htask' => ?_) (by simp) (fun task' _ => ?_)
  · rw [toCall_queueInLoop, List.mem_append] at htask'
    rcases htask' with hold | hnew
    · exact h.placed i task' hold
    · split at hnew
      · rename_i hi
        rw [List.mem_singleton] at hnew
        subst hnew
        exact ⟨hi.symm, h.inHand _ (List.mem_singleton_self _)⟩
      · cases hnew
  · rw [outstanding, outstanding, home_of_books same, toCall_queueInLoop, List.count_append]
    by_cases heq : task = task'
    · subst heq
      simp
    · have hcount : [task].count task' = 0 := by simp [heq]
      split <;> simp [hcount]

/-- A loop takes its next task in hand. -/
theorem Sound.take {i : Nat} {task : ServerTask} {l : LoopTasks} (h : s.Sound [])
    (htoCall : (s.loops i).toCall = task :: l.toCall) : (s.setLoop i l).Sound [task] := by
  have same : (s.setLoop i l).books = s.books := rfl
  have htask := h.placed i task (htoCall ▸ List.mem_cons_self)
  refine h.move same (fun j task' htask' => ?_) (by simpa using htask.2) (fun task' _ => ?_)
  · rw [loops_setLoop] at htask'
    split at htask'
    · rename_i hj
      subst hj
      exact h.placed j task' (htoCall ▸ List.mem_cons_of_mem _ htask')
    · exact h.placed j task' htask'
  · rw [outstanding, outstanding, home_of_books same, loops_setLoop]
    split
    · rename_i hj
      rw [hj, htoCall]
      simp [List.count_cons]
    · rename_i hj
      have hne : task ≠ task' := by
        rintro rfl
        exact hj htask.1
      simp [hne]

end Books

/-! ### What happens to one connection -/

section Events

variable {s : TcpServer} {hand hand' : List ServerTask} {c : Nat}

/-- An event is noted, and with it the next task of the connection is in hand. -/
theorem Sound.note {e : LifeEvent} {connections : Bytes → Option Nat} (h : s.Sound hand)
    (old : ∀ c, e ≠ .created c) (justified : Justified s.history e)
    (inHand : ∀ task ∈ hand', .created task.conn ∈ s.history)
    (established : ∀ c, s.did (.established c) + (if e = .established c then 1 else 0) +
      s.outstanding hand' (.connectEstablished c) = s.did (.created c))
    (removed : ∀ c, s.did (.removed c) + (if e = .removed c then 1 else 0) +
      s.outstanding hand' (.removeConnectionInLoop c) =
        s.did (.closed c) + if e = .closed c then 1 else 0)
    (destroyed : ∀ c, s.did (.destroyed c) + (if e = .destroyed c then 1 else 0) +
      s.outstanding hand' (.connectDestroyed c) =
        s.did (.removed c) + if e = .removed c then 1 else 0)
    (mapped : ∀ c, connections (s.connName c) = some c ↔
      s.connections (s.connName c) = some c ∧ e ≠ .removed c) :
    ({ s with connections := connections }.note e).Sound hand' := by
  have hdid : ∀ e', ({ s with connections := connections }.note e).did e' =
      s.did e' + if e = e' then 1 else 0 := did_note { s with connections := connections } e
  have hcreated : ∀ c, .created c ∈ s.history ++ [e] ↔ .created c ∈ s.history := by
    intro c
    simp [(old c).symm]
  constructor
  · exact h.explained.concat justified
  · exact h.first
  · intro c
    rw [hdid, if_neg (old c), Nat.add_zero]
    exact h.created c
  · intro i task htask
    exact ⟨(h.placed i task htask).1, (hcreated _).mpr (h.placed i task htask).2⟩
  · intro task htask
    exact (hcreated _).mpr (inHand task htask)
  · intro c
    rw [hdid, hdid, if_neg (old c)]
    exact established c
  · intro c
    rw [hdid, hdid]
    exact removed c
  · intro c
    rw [hdid, hdid]
    exact destroyed c
  · intro c
    refine (mapped c).trans (((h.mapped c).and Iff.rfl).trans ?_)
    simp [TcpServer.note, (old c).symm, and_assoc, ne_comm]
  · exact h.next
  · intro c hc
    exact h.robin c ((hcreated c).mp hc)

/-- An event that leaves the map alone. -/
theorem Sound.noteKept {e : LifeEvent} (h : s.Sound hand) (old : ∀ c, e ≠ .created c)
    (kept : ∀ c, e ≠ .removed c) (justified : Justified s.history e)
    (inHand : ∀ task ∈ hand', .created task.conn ∈ s.history)
    (established : ∀ c, s.did (.established c) + (if e = .established c then 1 else 0) +
      s.outstanding hand' (.connectEstablished c) = s.did (.created c))
    (removed : ∀ c, s.did (.removed c) + s.outstanding hand' (.removeConnectionInLoop c) =
      s.did (.closed c) + if e = .closed c then 1 else 0)
    (destroyed : ∀ c, s.did (.destroyed c) + (if e = .destroyed c then 1 else 0) +
      s.outstanding hand' (.connectDestroyed c) = s.did (.removed c)) :
    (s.note e).Sound hand' := by
  refine h.note old justified inHand established (fun c => ?_) (fun c => ?_) (fun c => ?_)
  · rw [if_neg (kept c)]
    exact removed c
  · rw [if_neg (kept c)]
    exact destroyed c
  · exact (and_iff_left (kept c)).symm

theorem Sound.setState (h : s.Sound hand) (c : Nat) (state : StateE) :
    (s.setState c state).Sound hand :=
  h.same rfl fun _ => rfl

theorem Sound.setPolled (h : s.Sound hand) (c : Nat) (polled : Bool) :
    (s.setPolled c polled).Sound hand :=
  h.same rfl fun _ => rfl

theorem Sound.created_of_established (h : s.Sound hand) (hc : .established c ∈ s.history) :
    .created c ∈ s.history := by
  rw [mem_history] at hc ⊢
  have := h.established c
  omega

theorem Sound.connectEstablished (h : s.Sound [.connectEstablished c]) :
    (s.connectEstablished c).Sound [] := by
  have h' := (h.setState c .kConnected).setPolled c true
  have hc := h'.established c
  rw [outstanding_cons, if_pos rfl] at hc
  refine h'.noteKept (fun _ => nofun) (fun _ => nofun) ?_ nofun (fun d => ?_) (fun d => ?_)
    (fun d => ?_)
  · change did _ _ < did _ _
    omega
  · have hd := h'.established d
    simp only [outstanding_cons, ServerTask.connectEstablished.injEq] at hd
    simp only [LifeEvent.established.injEq]
    omega
  · simpa using h'.removed d
  · simpa using h'.destroyed d

theorem Sound.connectDestroyed (h : s.Sound [.connectDestroyed c]) :
    (s.connectDestroyed c).Sound [] := by
  have h' : ((if s.state c = StateE.kConnected then s.setState c .kDisconnected else s).setPolled c
      false).Sound [.connectDestroyed c] := by
    split
    · exact (h.setState c .kDisconnected).setPolled c false
    · exact h.setPolled c false
  have hc := h'.destroyed c
  rw [outstanding_cons, if_pos rfl] at hc
  refine h'.noteKept (fun _ => nofun) (fun _ => nofun) ?_ nofun (fun d => ?_) (fun d => ?_)
    (fun d => ?_)
  · change did _ _ < did _ _
    omega
  · simpa using h'.established d
  · simpa using h'.removed d
  · have hd := h'.destroyed d
    simp only [outstanding_cons, ServerTask.connectDestroyed.injEq] at hd
    simp only [LifeEvent.destroyed.injEq]
    omega

theorem Sound.removeConnectionInLoop (h : s.Sound [.removeConnectionInLoop c]) :
    (s.removeConnectionInLoop c).Sound [] := by
  have hc := h.removed c
  rw [outstanding_cons, if_pos rfl] at hc
  suffices Sound _ [.connectDestroyed c] from this.queue
  refine h.note (fun _ => nofun) ?_ ?_ (fun d => ?_) (fun d => ?_) (fun d => ?_) (fun d => ?_)
  · change did _ _ < did _ _
    omega
  · simpa [ServerTask.conn] using h.inHand (.removeConnectionInLoop c) (List.mem_singleton_self _)
  · simpa using h.established d
  · have hd := h.removed d
    simp only [outstanding_cons, ServerTask.removeConnectionInLoop.injEq] at hd
    simp only [outstanding_cons, LifeEvent.removed.injEq, reduceCtorEq, if_false]
    omega
  · have hd := h.destroyed d
    simp only [outstanding_cons, reduceCtorEq, if_false] at hd
    simp only [outstanding_cons, ServerTask.connectDestroyed.injEq, LifeEvent.removed.injEq,
      reduceCtorEq, if_false]
    omega
  · by_cases hd : d = c
    · subst hd
      simp
    · rw [Function.update_of_ne fun heq => hd (connName_inj heq)]
      simp [Ne.symm hd]

/-- `runInLoop`, in the thread of a loop. -/
theorem Sound.removeConnection {i : Nat} (h : s.Sound [.removeConnectionInLoop c]) :
    (s.removeConnection i c).Sound [] := by
  rw [TcpServer.removeConnection]
  split
  · exact h.removeConnectionInLoop
  · exact h.queue

theorem Sound.close (h : s.Sound []) (established : .established c ∈ s.history) :
    ((s.setState c .kDisconnected).note (.closed c)).Sound [.removeConnectionInLoop c] := by
  have h' := h.setState c .kDisconnected
  refine h'.noteKept (fun _ => nofun) (fun _ => nofun) established ?_ (fun d => ?_) (fun d => ?_)
    (fun d => ?_)
  · simpa [ServerTask.conn] using h'.created_of_established established
  · simpa using h'.established d
  · have hd := h'.removed d
    simp only [outstanding_cons, ServerTask.removeConnectionInLoop.injEq, LifeEvent.closed.injEq]
    omega
  · simpa using h'.destroyed d

theorem Sound.handleClose (h : s.Sound []) (established : .established c ∈ s.history) :
    (s.handleClose c).Sound [] :=
  (h.close established).removeConnection

end Events

/-! ### A new connection -/

section New

variable {s : TcpServer}

/-- Nothing has happened to a connection that has not been established. -/
theorem Sound.unestablished {hand : List ServerTask} (h : s.Sound hand) {c : Nat}
    (hc : .established c ∉ s.history) :
    .closed c ∉ s.history ∧ .removed c ∉ s.history ∧ .destroyed c ∉ s.history := by
  have hclosed : .closed c ∉ s.history := by
    intro closed
    obtain ⟨before, after, heq⟩ := List.append_of_mem closed
    have hbefore : .established c ∈ before := h.explained before (.closed c) after heq
    exact hc (heq ▸ List.mem_append_left _ hbefore)
  have hremoved := h.removed c
  have hdestroyed := h.destroyed c
  simp only [not_mem_history] at hclosed ⊢
  omega

theorem robin_succ {a n : Nat} (hn : 0 < n) :
    (if n ≤ a % n + 1 then 0 else a % n + 1) = (a + 1) % n := by
  have hlt : a % n < n := Nat.mod_lt a hn
  calc
    (if n ≤ a % n + 1 then 0 else a % n + 1) = (a % n + 1) % n := by
      split
      · rename_i h
        have heq : a % n + 1 = n := by omega
        rw [heq, Nat.mod_self]
      · rename_i h
        rw [Nat.mod_eq_of_lt (a := a % n + 1) (by omega)]
    _ = (a + 1) % n := Nat.mod_add_mod a n 1

/-- The loop of the next connection, and the index after it. -/
def robinLoop (s : TcpServer) : Nat := if s.numThreads = 0 then 0 else s.next + 1

def robinNext (s : TcpServer) : Nat :=
  if s.numThreads = 0 then s.next else if s.numThreads ≤ s.next + 1 then 0 else s.next + 1

theorem getNextLoop_eq (s : TcpServer) :
    s.getNextLoop = (s.robinLoop, { s with next := s.robinNext }) := by
  simp only [getNextLoop, robinLoop, robinNext]
  split <;> rfl

/-- The connection has its number, its loop and its place in the map. -/
def create (s : TcpServer) : TcpServer :=
  { s with
    next := s.robinNext
    nextConnId := s.nextConnId + 1
    connections := Function.update s.connections (s.connName s.nextConnId) (some s.nextConnId)
    ioLoop := Function.update s.ioLoop s.nextConnId s.robinLoop }.note (.created s.nextConnId)

theorem newConnection_eq (s : TcpServer) : s.newConnection =
    if s.robinLoop = 0 then s.create.connectEstablished s.nextConnId
    else s.create.queueInLoop s.robinLoop (.connectEstablished s.nextConnId) := by
  rw [newConnection, getNextLoop_eq]
  rfl

theorem Sound.not_created (h : s.Sound []) : .created s.nextConnId ∉ s.history := by
  rw [not_mem_history, h.created]
  simp

theorem did_create (s : TcpServer) (e : LifeEvent) :
    s.create.did e = s.did e + if .created s.nextConnId = e then 1 else 0 :=
  did_note { s with } _ e

theorem home_create {task : ServerTask} (hne : task.conn ≠ s.nextConnId) :
    s.create.home task = s.home task :=
  home_congr (Function.update_of_ne hne ..)

/-- The queues hold nothing of the connection that comes next. -/
theorem Sound.conn_ne (h : s.Sound []) {i : Nat} {task : ServerTask}
    (htask : task ∈ (s.loops i).toCall) : task.conn ≠ s.nextConnId :=
  fun heq => h.not_created (heq ▸ (h.placed i task htask).2)

theorem Sound.outstanding_create (h : s.Sound []) (task : ServerTask) :
    s.create.outstanding [] task = s.outstanding [] task := by
  by_cases heq : task.conn = s.nextConnId
  · have hnone : ∀ i, (s.loops i).toCall.count task = 0 := by
      intro i
      rw [List.count_eq_zero]
      exact fun hmem => h.conn_ne hmem heq
    exact congrArg (· + 0) ((hnone _).trans (hnone _).symm)
  · rw [outstanding, home_create heq]
    rfl

/-- No other connection has the name of the new one, so the map keeps the others. -/
theorem Sound.mapped_create (h : s.Sound []) (c : Nat) :
    s.create.connections (s.create.connName c) = some c ↔
      .created c ∈ s.create.history ∧ .removed c ∉ s.create.history := by
  by_cases heq : c = s.nextConnId
  · subst heq
    have hestablished : .established s.nextConnId ∉ s.history :=
      fun established => h.not_created (h.created_of_established established)
    have hremoved := (h.unestablished hestablished).2.1
    refine iff_of_true (Function.update_self ..) ⟨?_, ?_⟩
    · exact List.mem_append_right _ (List.mem_singleton_self _)
    · rw [not_mem_history, did_create]
      simpa [not_mem_history] using hremoved
  · have hmap : s.create.connections (s.create.connName c) = s.connections (s.connName c) :=
      Function.update_of_ne (fun hname => heq (connName_inj hname)) ..
    rw [hmap, h.mapped]
    simp only [mem_history, did_create, LifeEvent.created.injEq, reduceCtorEq,
      if_neg (Ne.symm heq), if_false, Nat.add_zero]

theorem Sound.next_create (h : s.Sound []) :
    s.robinNext = if s.numThreads = 0 then 0 else (s.nextConnId + 1 - 1) % s.numThreads := by
  rw [robinNext, h.next]
  split
  · rfl
  · rename_i hthreads
    rw [robin_succ (Nat.pos_of_ne_zero hthreads), Nat.sub_add_cancel h.first, Nat.add_sub_cancel]

theorem Sound.robin_create (h : s.Sound []) {c : Nat} (hc : .created c ∈ s.create.history) :
    s.create.ioLoop c = if s.numThreads = 0 then 0 else (c - 1) % s.numThreads + 1 := by
  by_cases heq : c = s.nextConnId
  · subst heq
    have hloop : s.create.ioLoop s.nextConnId = s.robinLoop := Function.update_self ..
    rw [hloop, robinLoop, h.next]
    split <;> rfl
  · have hloop : s.create.ioLoop c = s.ioLoop c := Function.update_of_ne heq ..
    rw [hloop]
    refine h.robin c ?_
    rw [mem_history, did_create] at hc
    rw [mem_history]
    simpa [Ne.symm heq] using hc

theorem Sound.create (h : s.Sound []) : s.create.Sound [.connectEstablished s.nextConnId] where
  explained := h.explained.concat h.not_created
  first := Nat.succ_pos _
  created c := by
    have hfirst := h.first
    rw [did_create, h.created]
    simp only [LifeEvent.created.injEq]
    change _ = if 0 < c ∧ c < s.nextConnId + 1 then 1 else 0
    split_ifs <;> omega
  placed i task htask := by
    obtain ⟨hi, hcreated⟩ := h.placed i task htask
    exact ⟨(home_create (h.conn_ne htask)).trans hi, List.mem_append_left _ hcreated⟩
  inHand task htask := by
    rw [List.mem_singleton] at htask
    subst htask
    exact List.mem_append_right _ (List.mem_singleton_self _)
  established c := by
    have hc := h.established c
    rw [did_create, did_create, outstanding_cons, h.outstanding_create]
    simp only [ServerTask.connectEstablished.injEq, LifeEvent.created.injEq, reduceCtorEq, if_false]
    omega
  removed c := by
    rw [did_create, did_create, outstanding_cons, h.outstanding_create]
    exact h.removed c
  destroyed c := by
    rw [did_create, did_create, outstanding_cons, h.outstanding_create]
    exact h.destroyed c
  mapped := h.mapped_create
  next := h.next_create
  robin _ := h.robin_create

theorem Sound.newConnection (h : s.Sound []) : s.newConnection.Sound [] := by
  rw [newConnection_eq]
  split
  · exact h.create.connectEstablished
  · have hhome : s.create.home (.connectEstablished s.nextConnId) = s.robinLoop :=
      Function.update_self ..
    rw [← hhome]
    exact h.create.queue

end New

/-! ### What is known outside the server -/

/-- The application, the plain tasks and the pollers have connections that have been established, and
no others. -/
structure Known (s : TcpServer) : Prop where
  used : ∀ c, 0 < s.held c ∨ 0 < s.calling c ∨ 0 < s.shutting c → .established c ∈ s.history
  queued : ∀ i, ∀ task ∈ (s.loops i).toCall, task.plain → .established task.conn ∈ s.history
  polled : ∀ c, s.polled c = true → .established c ∈ s.history

/-- A change that the application has no part in. -/
structure Grows (s s' : TcpServer) : Prop where
  history : s.history <+: s'.history
  held : s'.held = s.held
  calling : s'.calling = s.calling
  shutting : s'.shutting = s.shutting
  numThreads : s'.numThreads = s.numThreads
  queued : ∀ i, ∀ task ∈ (s'.loops i).toCall, task.plain → task ∈ (s.loops i).toCall
  polled : ∀ c, s'.polled c = true → s.polled c = true ∨ .established c ∈ s'.history

section Application

variable {s s' s'' : TcpServer} {i c : Nat}

theorem Grows.refl (s : TcpServer) : Grows s s :=
  ⟨List.prefix_refl _, rfl, rfl, rfl, rfl, fun _ _ h _ => h, fun _ h => .inl h⟩

theorem Grows.trans (h : Grows s s') (h' : Grows s' s'') : Grows s s'' where
  history := h.history.trans h'.history
  held := h'.held.trans h.held
  calling := h'.calling.trans h.calling
  shutting := h'.shutting.trans h.shutting
  numThreads := h'.numThreads.trans h.numThreads
  queued i task htask plain := h.queued i task (h'.queued i task htask plain) plain
  polled c hpolled := by
    rcases h'.polled c hpolled with hpolled | established
    · exact (h.polled c hpolled).imp_right fun established => h'.history.subset established
    · exact .inr established

theorem Grows.known (h : Grows s s') (known : s.Known) : s'.Known where
  used c hc := by
    rw [h.held, h.calling, h.shutting] at hc
    exact h.history.subset (known.used c hc)
  queued i task htask plain :=
    h.history.subset (known.queued i task (h.queued i task htask plain) plain)
  polled c hpolled :=
    (h.polled c hpolled).elim (fun old => h.history.subset (known.polled c old)) id

theorem grows_note (s : TcpServer) (e : LifeEvent) : Grows s (s.note e) :=
  ⟨List.prefix_append _ _, rfl, rfl, rfl, rfl, fun _ _ h _ => h, fun _ h => .inl h⟩

theorem grows_setState (s : TcpServer) (c : Nat) (state : StateE) : Grows s (s.setState c state) :=
  ⟨List.prefix_refl _, rfl, rfl, rfl, rfl, fun _ _ h _ => h, fun _ h => .inl h⟩

theorem grows_followThis (s : TcpServer) (c : Nat) : Grows s (s.followThis c) :=
  ⟨List.prefix_refl _, rfl, rfl, rfl, rfl, fun _ _ h _ => h, fun _ h => .inl h⟩

/-- A channel is polled when its connection has been established. -/
theorem grows_setPolled {polled : Bool} (established : polled → .established c ∈ s.history) :
    Grows s (s.setPolled c polled) where
  history := List.prefix_refl _
  held := rfl
  calling := rfl
  shutting := rfl
  numThreads := rfl
  queued _ _ htask _ := htask
  polled d hpolled := by
    change Function.update s.polled c polled d = true at hpolled
    rw [Function.update_apply] at hpolled
    split at hpolled
    · rename_i hd
      exact .inr (hd ▸ established hpolled)
    · exact .inl hpolled

theorem grows_setLoop {l : LoopTasks} (hl : ∀ task ∈ l.toCall, task ∈ (s.loops i).toCall) :
    Grows s (s.setLoop i l) where
  history := List.prefix_refl _
  held := rfl
  calling := rfl
  shutting := rfl
  numThreads := rfl
  queued j task htask _ := by
    rw [loops_setLoop] at htask
    split at htask
    · rename_i hj
      exact hj ▸ hl task htask
    · exact htask
  polled _ hpolled := .inl hpolled

theorem grows_queueInLoop {task : ServerTask} (owner : task.plain = false) :
    Grows s (s.queueInLoop i task) where
  history := List.prefix_refl _
  held := rfl
  calling := rfl
  shutting := rfl
  numThreads := rfl
  queued j task' htask' plain := by
    rw [toCall_queueInLoop, List.mem_append] at htask'
    refine htask'.resolve_right fun hnew => ?_
    split at hnew
    · rw [List.mem_singleton.mp hnew, owner] at plain
      cases plain
    · cases hnew
  polled _ hpolled := .inl hpolled

theorem grows_connectEstablished (s : TcpServer) (c : Nat) : Grows s (s.connectEstablished c) where
  history := List.prefix_append _ _
  held := rfl
  calling := rfl
  shutting := rfl
  numThreads := rfl
  queued _ _ htask _ := htask
  polled d hpolled := by
    change Function.update s.polled c true d = true at hpolled
    rw [Function.update_apply] at hpolled
    split at hpolled
    · rename_i hd
      subst hd
      exact .inr (List.mem_append_right _ (List.mem_singleton_self _))
    · exact .inl hpolled

theorem grows_connectDestroyed (s : TcpServer) (c : Nat) : Grows s (s.connectDestroyed c) := by
  have hdestroyed (s : TcpServer) : Grows s ((s.setPolled c false).note (.destroyed c)) := by
    have hremoved : Grows s (s.setPolled c false) := grows_setPolled nofun
    exact hremoved.trans (grows_note ..)
  simp only [connectDestroyed]
  split
  · exact (grows_setState s c .kDisconnected).trans (hdestroyed _)
  · exact hdestroyed s

theorem grows_removeConnectionInLoop (s : TcpServer) (c : Nat) :
    Grows s (s.removeConnectionInLoop c) := by
  have hnote : Grows s ({ s with
      connections := Function.update s.connections (s.connName c) none }.note (.removed c)) :=
    ⟨List.prefix_append _ _, rfl, rfl, rfl, rfl, fun _ _ h _ => h, fun _ h => .inl h⟩
  exact hnote.trans (grows_queueInLoop rfl)

theorem grows_handleClose (s : TcpServer) (c : Nat) : Grows s (s.handleClose c) := by
  have hnote : Grows s ((s.setState c .kDisconnected).note (.closed c)) :=
    (grows_setState s c .kDisconnected).trans (grows_note ..)
  rw [handleClose, removeConnection]
  split
  · exact hnote.trans (grows_removeConnectionInLoop ..)
  · exact hnote.trans (grows_queueInLoop rfl)

theorem grows_newConnection (s : TcpServer) : Grows s s.newConnection := by
  have hcreate : Grows s s.create :=
    ⟨List.prefix_append _ _, rfl, rfl, rfl, rfl, fun _ _ h _ => h, fun _ h => .inl h⟩
  rw [newConnection_eq]
  split
  · exact hcreate.trans (grows_connectEstablished ..)
  · exact hcreate.trans (grows_queueInLoop rfl)

theorem grows_perform {task : ServerTask}
    (established : task.plain → .established task.conn ∈ s.history) : Grows s (s.perform task) := by
  cases task with
  | connectEstablished c => exact grows_connectEstablished s c
  | removeConnectionInLoop c => exact grows_removeConnectionInLoop s c
  | connectDestroyed c => exact grows_connectDestroyed s c
  | notice c => exact .refl s
  | sendInLoop c =>
      rw [perform, sendInLoop]
      split
      · exact grows_followThis s c
      · exact (grows_followThis s c).trans (grows_setPolled fun _ => established rfl)
  | shutdownInLoop c => exact grows_followThis s c

theorem LoopTasks.toCall_of_next {l l' : LoopTasks} {task : ServerTask}
    (h : l.next = some (task, l')) : l.toCall = task :: l'.toCall := by
  rw [LoopTasks.next] at h
  split at h
  · cases h
  · rename_i functors hfunctors
    cases h
    rw [LoopTasks.toCall, hfunctors, List.cons_append]
    rfl

theorem Known.callFunctor (known : s.Known) (i : Nat) : Grows s (s.callFunctor i) := by
  rw [TcpServer.callFunctor]
  split
  · exact .refl s
  · rename_i task l hnext
    have htoCall := LoopTasks.toCall_of_next hnext
    have hset : Grows s (s.setLoop i l) := grows_setLoop fun task htask =>
      htoCall ▸ List.mem_cons_of_mem _ htask
    exact hset.trans (grows_perform fun plain =>
      known.queued i task (htoCall ▸ List.mem_cons_self) plain)

theorem update_pos {f : Nat → Nat} {c d n : Nat} (h : 0 < Function.update f c n d) :
    d = c ∨ 0 < f d := by
  rw [Function.update_apply] at h
  split at h
  · exact .inl ‹_›
  · exact .inr h

/-- A thread queues a plain task. -/
theorem Known.queuePlain {task : ServerTask} (known : s.Known)
    (established : .established task.conn ∈ s.history) : (s.queueInLoop i task).Known where
  used := known.used
  queued j task' htask' plain := by
    rw [toCall_queueInLoop, List.mem_append] at htask'
    rcases htask' with hold | hnew
    · exact known.queued j task' hold plain
    · split at hnew
      · exact List.mem_singleton.mp hnew ▸ established
      · cases hnew
  polled := known.polled

/-- A thread comes to the end of its `send`. -/
theorem Known.finishSend (known : s.Known) (calling : 0 < s.calling c) : (s.finishSend c).Known where
  used d hd := by
    rcases hd with hheld | hcalling | hshutting
    · exact known.used d (.inl hheld)
    · rcases update_pos hcalling with rfl | hd
      · exact known.used d (.inr (.inl calling))
      · exact known.used d (.inr (.inl hd))
    · exact known.used d (.inr (.inr hshutting))
  queued := known.queued
  polled := known.polled

theorem Known.setDisconnecting (known : s.Known) (calling : 0 < s.calling c) :
    (s.setDisconnecting c).Known where
  used d hd := by
    rcases hd with hheld | hcalling | hshutting
    · exact known.used d (.inl hheld)
    · rcases update_pos hcalling with rfl | hd
      · exact known.used d (.inr (.inl calling))
      · exact known.used d (.inr (.inl hd))
    · rcases update_pos hshutting with rfl | hd
      · exact known.used d (.inr (.inl calling))
      · exact known.used d (.inr (.inr hd))
  queued := known.queued
  polled := known.polled

/-- A thread comes to the end of its `shutdown`. -/
theorem Known.finishShutdown (known : s.Known) (shutting : 0 < s.shutting c) :
    (s.finishShutdown c).Known where
  used d hd := by
    rcases hd with hheld | hcalling | hshutting
    · exact known.used d (.inl hheld)
    · exact known.used d (.inr (.inl hcalling))
    · rcases update_pos hshutting with rfl | hd
      · exact known.used d (.inr (.inr shutting))
      · exact known.used d (.inr (.inr hd))
  queued := known.queued
  polled := known.polled

/-- A loop that takes its pending functors has the same ones to call. -/
theorem LoopTasks.toCall_swap {l : LoopTasks} (idle : l.Idle) :
    LoopTasks.toCall { functors := l.pendingFunctors } = l.toCall := by
  simp [LoopTasks.toCall, idle.1]

theorem Known.step {e : ServerStep} (known : s.Known) (possible : s.Possible e) :
    (s.step e).Known := by
  cases e with
  | newConnection => exact (grows_newConnection s).known known
  | handleClose c => exact (grows_handleClose s c).known known
  | swap i =>
      exact (grows_setLoop fun task htask =>
        LoopTasks.toCall_swap possible.2 ▸ htask).known known
  | callFunctor i => exact (known.callFunctor i).known known
  | leave i =>
      have hset : Grows s (s.setLoop i { s.loops i with called := [] }) :=
        grows_setLoop fun task htask => htask
      exact hset.known known
  | queueNotice c => exact (grows_queueInLoop rfl).known known
  | hold c =>
      refine ⟨fun d hd => ?_, known.queued, known.polled⟩
      rcases hd with hheld | hcalling
      · rcases update_pos hheld with rfl | hd
        · exact possible.2
        · exact known.used d (.inl hd)
      · exact known.used d (.inr hcalling)
  | release c =>
      refine ⟨fun d hd => ?_, known.queued, known.polled⟩
      rcases hd with hheld | hcalling
      · rcases update_pos hheld with rfl | hd
        · exact known.used d (.inl (Nat.zero_lt_of_lt possible))
        · exact known.used d (.inl hd)
      · exact known.used d (.inr hcalling)
  | testState c =>
      refine ⟨fun d hd => ?_, known.queued, known.polled⟩
      rcases hd with hheld | hcalling | hshutting
      · exact known.used d (.inl hheld)
      · rcases update_pos hcalling with rfl | hd
        · exact known.used d (.inl (Nat.zero_lt_of_lt possible.1))
        · exact known.used d (.inr (.inl hd))
      · exact known.used d (.inr (.inr hshutting))
  | queueSend c =>
      exact (known.finishSend possible).queuePlain (known.used c (.inr (.inl possible)))
  | setDisconnecting c => exact known.setDisconnecting possible
  | queueShutdown c =>
      exact (known.finishShutdown possible).queuePlain (known.used c (.inr (.inr possible)))
  | shutdown c => exact (grows_setState s c .kDisconnecting).known known

theorem step_numThreads (s : TcpServer) (e : ServerStep) : (s.step e).numThreads = s.numThreads := by
  cases e with
  | newConnection => exact (grows_newConnection s).numThreads
  | handleClose c => exact (grows_handleClose s c).numThreads
  | callFunctor i =>
      simp only [TcpServer.step, TcpServer.callFunctor]
      split
      · rfl
      · rename_i task l hnext
        cases task with
        | connectDestroyed c => exact (grows_connectDestroyed _ c).numThreads
        | sendInLoop c =>
            simp only [perform, sendInLoop]
            split <;> rfl
        | _ => rfl
  | _ => rfl

end Application

/-! ### Every step -/

section Steps

variable {s : TcpServer}

theorem Sound.perform {task : ServerTask} (h : s.Sound [task]) : (s.perform task).Sound [] := by
  cases task with
  | connectEstablished c => exact h.connectEstablished
  | removeConnectionInLoop c => exact h.removeConnectionInLoop
  | connectDestroyed c => exact h.connectDestroyed
  | notice c => exact h.drop rfl
  | sendInLoop c =>
      have hfollowed : (s.followThis c).Sound [] := (h.drop rfl).same rfl fun _ => rfl
      rw [TcpServer.perform, sendInLoop]
      split
      · exact hfollowed
      · exact hfollowed.setPolled c true
  | shutdownInLoop c => exact (h.drop rfl).same rfl fun _ => rfl

theorem Sound.callFunctor (h : s.Sound []) (i : Nat) : (s.callFunctor i).Sound [] := by
  rw [TcpServer.callFunctor]
  split
  · exact h
  · rename_i task l hnext
    exact (h.take (LoopTasks.toCall_of_next hnext)).perform

/-- A loop turns to its functors without calling one. -/
theorem Sound.setLoop {i : Nat} {l : LoopTasks} (h : s.Sound [])
    (hl : l.toCall = (s.loops i).toCall) : (s.setLoop i l).Sound [] := by
  refine h.same rfl fun j => ?_
  rw [loops_setLoop]
  split
  · rename_i hj
    rw [hl, hj]
  · rfl

/-- A task that the books do not count is queued. -/
theorem Sound.queueFree (h : s.Sound []) (task : ServerTask) (free : task.booked = false)
    (created : .created task.conn ∈ s.history) :
    (s.queueInLoop (s.home task) task).Sound [] :=
  (h.pick free created).queue

theorem Sound.step {e : ServerStep} (h : s.Sound []) (known : s.Known) (possible : s.Possible e) :
    (s.step e).Sound [] := by
  cases e with
  | newConnection => exact h.newConnection
  | handleClose c => exact h.handleClose (known.polled c possible.1.1)
  | swap i => exact h.setLoop (LoopTasks.toCall_swap possible.2)
  | callFunctor i => exact h.callFunctor i
  | leave i => exact h.setLoop rfl
  | queueNotice c =>
      exact h.queueFree (.notice c) rfl (h.created_of_established (known.polled c possible.1))
  | hold c => exact h.same rfl fun _ => rfl
  | release c => exact h.same rfl fun _ => rfl
  | testState c => exact h.same rfl fun _ => rfl
  | queueSend c =>
      have hfinished : (s.finishSend c).Sound [] := h.same rfl fun _ => rfl
      exact hfinished.queueFree (.sendInLoop c) rfl
        (h.created_of_established (known.used c (.inr (.inl possible))))
  | setDisconnecting c => exact h.same rfl fun _ => rfl
  | queueShutdown c =>
      have hfinished : (s.finishShutdown c).Sound [] := h.same rfl fun _ => rfl
      exact hfinished.queueFree (.shutdownInLoop c) rfl
        (h.created_of_established (known.used c (.inr (.inr possible))))
  | shutdown c => exact h.setState c .kDisconnecting

theorem sound_start (name ipPort : Bytes) (numThreads : Nat) :
    (start name ipPort numThreads).Sound [] where
  explained := explained_nil _
  first := Nat.one_pos
  created c := by
    have hc : ¬ (0 < c ∧ c < 1) := by omega
    exact (if_neg hc).symm
  placed i task h := by cases h
  inHand task h := by cases h
  established c := rfl
  removed c := rfl
  destroyed c := rfl
  mapped c := by simp [start]
  next := by simp [start]
  robin c h := by cases h

end Steps

/-! ### Every state -/

section Reached

variable {name ipPort : Bytes} {numThreads : Nat} {s s' : TcpServer}

/-- What is true of every state. -/
def Regular (s : TcpServer) : Prop := s.Sound [] ∧ s.Known

theorem Regular.step {e : ServerStep} (h : s.Regular) (possible : s.Possible e) :
    (s.step e).Regular :=
  ⟨h.1.step h.2 possible, h.2.step possible⟩

theorem Reached.regular (h : Reached name ipPort numThreads s) : s.Regular := by
  refine h.invariant_total (fun possible hs => hs.step possible) ⟨sound_start .., ?_, ?_, ?_⟩
  · rintro c (hc | hc | hc) <;> cases hc
  · intro i task htask
    cases htask
  · intro c hc
    cases hc

theorem Reached.threads (h : Reached name ipPort numThreads s) : s.numThreads = numThreads :=
  h.invariant_total (I := fun s => s.numThreads = numThreads)
    (fun {s e} _ hs => (step_numThreads s e).trans hs) rfl

theorem Sound.ioLoop_lt {hand : List ServerTask} (h : s.Sound hand) {c : Nat}
    (hc : .created c ∈ s.history) : s.ioLoop c < s.numThreads + 1 := by
  rw [h.robin c hc]
  split
  · exact Nat.succ_pos _
  · rename_i hthreads
    exact Nat.succ_lt_succ (Nat.mod_lt _ (Nat.pos_of_ne_zero hthreads))

theorem Sound.home_lt (h : s.Sound []) {i : Nat} {task : ServerTask}
    (htask : task ∈ (s.loops i).toCall) : i < s.numThreads + 1 := by
  obtain ⟨hhome, hcreated⟩ := h.placed i task htask
  rw [← hhome]
  cases task with
  | removeConnectionInLoop c => exact Nat.succ_pos _
  | _ => exact h.ioLoop_lt hcreated

/-- A connection that is to be destroyed is kept until then. -/
theorem Sound.owned (h : s.Sound []) {c : Nat} (created : .created c ∈ s.history)
    (destroyed : .destroyed c ∉ s.history) : s.Owned c := by
  by_cases removed : .removed c ∈ s.history
  · have hdestroyed := h.destroyed c
    rw [not_mem_history.mp destroyed, Nat.zero_add] at hdestroyed
    have hpos : 0 < (s.loops (s.ioLoop c)).toCall.count (.connectDestroyed c) := by
      rw [mem_history, ← hdestroyed] at removed
      exact removed
    exact .inr (.inr ⟨s.ioLoop c, h.ioLoop_lt created, .connectDestroyed c,
      List.mem_append_right _ (List.count_pos_iff.mp hpos), rfl, rfl⟩)
  · exact .inl ((h.mapped c).mpr ⟨created, removed⟩)

end Reached

end Rmuduo.Net.TcpServer
