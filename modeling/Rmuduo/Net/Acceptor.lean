/-
The acceptor and the descriptors of its process (`net/Acceptor.h`, `net/Acceptor.cc`,
`net/Socket.cc`).

The other code of the process, and what it has opened, is `others`: it opens and closes its own
descriptors before the acceptor is constructed and between any two system calls of the acceptor.
Clients connect at any time. `foreign` is the history of the descriptors of others that the
acceptor has closed, which nothing reads. A descriptor of −1 is `none`. `bind` and `listen`
succeed, logging leaves `errno` as it is, and the destructor is left out.

* `others_cases` — all that others can do to the acceptor.
* `sound_run` — what the acceptor holds is its own, after any calls.
* `Sound.pending_of_exhausted` — who waits when there is no descriptor waits on.
* `survives_iff` — the runs that survive exhaustion: those in which it does not come.
* `exhaustion_not_survived` — one connection too many.
-/

import Rmuduo.Lib.FdTable
import Rmuduo.Lib.System

namespace Rmuduo.Net

open Lib System

/-! ### Descriptors -/

/-- The values of `errno` that the code tells apart. -/
inductive AcceptErrno where
  | EMFILE | other
deriving DecidableEq, Repr

inductive Owner where
  | acceptor | others
deriving DecidableEq, Repr

/-- What is open. A listening socket has the clients that wait for it to accept. -/
inductive File where
  | devNull
  | other
  | socket
  | listening (queue : List Nat)
  | connection (peer : Nat)
deriving DecidableEq, Repr

structure Descriptor where
  owner : Owner
  file : File
deriving DecidableEq, Repr

inductive AcceptResult where
  | connfd (fd : Nat)
  | failed (errno : AcceptErrno)
deriving DecidableEq, Repr

/-- `accept`, which fails with `fault` if there is one. -/
def accept (t : FdTable Descriptor) (caller : Owner) (fd : Nat) (fault : Option AcceptErrno) :
    FdTable Descriptor × AcceptResult :=
  match t.entry fd with
  | some ⟨owner, .listening queue⟩ =>
      match fault, t.lowestFree, queue with
      | some errno, _, _ => (t, .failed errno)
      | none, none, _ => (t, .failed .EMFILE)
      | none, some _, [] => (t, .failed .other)
      | none, some n, peer :: rest =>
          ((t.put fd ⟨owner, .listening rest⟩).put n ⟨caller, .connection peer⟩, .connfd n)
  | _ => (t, .failed .other)

/-- What others do, and clients. -/
inductive ThreadAction where
  | open
  | socket
  | listen (fd : Nat)
  | accept (fd : Nat)
  | close (fd : Nat)
  | connect (fd : Nat)
deriving DecidableEq, Repr

def ownedBy (t : FdTable Descriptor) (owner : Owner) (fd : Nat) : Bool :=
  (t.entry fd).any fun d => d.owner = owner

/-- Others use the descriptors that are theirs; `peer` connects. -/
def ThreadAction.on (t : FdTable Descriptor) (peer : Nat) : ThreadAction → FdTable Descriptor
  | .open => (t.allocate ⟨.others, .other⟩).1
  | .socket => (t.allocate ⟨.others, .socket⟩).1
  | .listen fd =>
      if t.entry fd = some ⟨.others, .socket⟩ then t.put fd ⟨.others, .listening []⟩ else t
  | .accept fd => if ownedBy t .others fd then (Net.accept t .others fd none).1 else t
  | .close fd => if ownedBy t .others fd then t.clear fd else t
  | .connect fd =>
      match t.entry fd with
      | some ⟨owner, .listening queue⟩ => t.put fd ⟨owner, .listening (queue ++ [peer])⟩
      | _ => t

/-! ### The acceptor -/

structure Acceptor where
  table : FdTable Descriptor
  nextPeer : Nat := 0
  acceptSocket : Option Nat := none
  idleFd : Option Nat := none
  newConnectionCallback : Bool := false
  foreign : List Nat := []

namespace Acceptor

/-- What goes on around a call: how `accept` fails, both times, and what others do before each
system call. -/
structure Call where
  fault : Option AcceptErrno := none
  idleFault : Option AcceptErrno := none
  gap : Nat → List ThreadAction := fun _ => []

def act (s : Acceptor) (action : ThreadAction) : Acceptor :=
  { s with table := action.on s.table s.nextPeer, nextPeer := s.nextPeer + 1 }

def others (s : Acceptor) (actions : List ThreadAction) : Acceptor := run act s actions

def close (s : Acceptor) (fd : Option Nat) : Acceptor :=
  match fd with
  | none => s
  | some n =>
      { s with
        table := s.table.clear n
        foreign := if ownedBy s.table .others n then s.foreign ++ [n] else s.foreign }

/-- `accept` on the descriptor `fd`. -/
def acceptOn (s : Acceptor) (fd : Option Nat) (fault : Option AcceptErrno) :
    Acceptor × AcceptResult :=
  match fd with
  | none => (s, .failed .other)
  | some n =>
      ({ s with table := (accept s.table .acceptor n fault).1 },
        (accept s.table .acceptor n fault).2)

/-- `open(path, O_RDONLY | O_CLOEXEC)`, of a null device if there is one under this path. -/
def openNull (resolves : String → Bool) (s : Acceptor) (path : String) : Acceptor × Option Nat :=
  if resolves path then
    ({ s with table := (s.table.allocate ⟨.acceptor, .devNull⟩).1 },
      (s.table.allocate ⟨.acceptor, .devNull⟩).2)
  else (s, none)

/-- The connection belongs to the callback now. -/
def handOver (s : Acceptor) (connfd : Nat) : Acceptor :=
  match s.table.entry connfd with
  | some d => { s with table := s.table.put connfd { d with owner := .others } }
  | none => s

def construct (resolves : String → Bool) (limit : Nat) (callback : Bool)
    (gap : Nat → List ThreadAction) : Acceptor :=
  let s : Acceptor := { table := ⟨limit, fun _ => none⟩, newConnectionCallback := callback }
  let s := s.others (gap 0)
  let s :=
    { s with
      table := (s.table.allocate ⟨.acceptor, .socket⟩).1
      acceptSocket := (s.table.allocate ⟨.acceptor, .socket⟩).2 }
  let s := s.others (gap 1)
  let (s, fd) := s.openNull resolves "/dev/null"
  { s with idleFd := fd }

def listen (s : Acceptor) : Acceptor :=
  match s.acceptSocket with
  | some n => { s with table := s.table.put n ⟨.acceptor, .listening []⟩ }
  | none => s

/-- An acceptor that listens. -/
def started (resolves : String → Bool) (limit : Nat) (callback : Bool)
    (gap : Nat → List ThreadAction) : Acceptor :=
  ((construct resolves limit callback gap).others (gap 2)).listen

/-- The branch of `handleRead` for `EMFILE`. -/
def recover (resolves : String → Bool) (s : Acceptor) (call : Call) : Acceptor :=
  let s := s.others (call.gap 1)
  let s := s.close s.idleFd
  let s := s.others (call.gap 2)
  -- on the number that has just been closed, not on the listening socket
  let (s, _) := s.acceptOn s.idleFd call.idleFault
  let s := s.others (call.gap 3)
  let s := s.close s.idleFd
  let s := s.others (call.gap 4)
  let (s, fd) := s.openNull resolves "dev/null"
  { s with idleFd := fd }

def handleRead (resolves : String → Bool) (s : Acceptor) (call : Call) : Acceptor :=
  let s := s.others (call.gap 0)
  match s.acceptOn s.acceptSocket call.fault with
  | (s, .connfd connfd) =>
      let s := s.others (call.gap 1)
      if s.newConnectionCallback then (s.handOver connfd).others (call.gap 2)
      else s.close (some connfd)
  | (s, .failed errno) => if errno = .EMFILE then s.recover resolves call else s

end Acceptor

/-! ### What becomes of the acceptor's descriptors -/

/-- What becomes of a file by itself: clients queue up. -/
inductive File.Grows : File → File → Prop where
  | same (file : File) : File.Grows file file
  | queue {queue queue' : List Nat} (more : queue <+: queue') :
      File.Grows (.listening queue) (.listening queue')

theorem File.Grows.trans {f g h : File} (hfg : f.Grows g) (hgh : g.Grows h) : f.Grows h := by
  cases hfg with
  | same => exact hgh
  | queue more =>
      cases hgh with
      | same => exact .queue more
      | queue more' => exact .queue (more.trans more')

/-- The descriptors of the acceptor stay as they are, but for `fd`. -/
def KeptBut (fd : Option Nat) (t t' : FdTable Descriptor) : Prop :=
  ∀ n file, fd ≠ some n → t.entry n = some ⟨.acceptor, file⟩ →
    ∃ file', t'.entry n = some ⟨.acceptor, file'⟩ ∧ file.Grows file'

section Tables

variable {t t' t'' : FdTable Descriptor} {fd : Option Nat} {n m : Nat} {d : Descriptor}
  {caller : Owner} {fault : Option AcceptErrno}

theorem KeptBut.trans (h : KeptBut fd t t') (h' : KeptBut fd t' t'') : KeptBut fd t t'' := by
  intro n file hn hopen
  obtain ⟨file', hopen', hgrows⟩ := h n file hn hopen
  obtain ⟨file'', hopen'', hgrows'⟩ := h' n file' hn hopen'
  exact ⟨file'', hopen'', hgrows.trans hgrows'⟩

/-- Nothing queues up at what does not listen. -/
theorem KeptBut.entry (h : KeptBut fd t t') (hn : fd ≠ some n) {file : File}
    (hopen : t.entry n = some ⟨.acceptor, file⟩) (hfile : ∀ queue, file ≠ .listening queue) :
    t'.entry n = some ⟨.acceptor, file⟩ := by
  obtain ⟨file', hopen', hgrows⟩ := h n file hn hopen
  cases hgrows with
  | same => exact hopen'
  | queue more => exact absurd rfl (hfile _)

theorem KeptBut.mono (h : KeptBut none t t') (fd : Option Nat) : KeptBut fd t t' :=
  fun n file _ hopen => h n file nofun hopen

theorem keptBut_of_entry (h : ∀ n d, fd ≠ some n → d.owner = .acceptor → t.entry n = some d →
    t'.entry n = some d) : KeptBut fd t t' :=
  fun n file hn hopen => ⟨file, h n ⟨.acceptor, file⟩ hn rfl hopen, .same file⟩

theorem KeptBut.refl (fd : Option Nat) (t : FdTable Descriptor) : KeptBut fd t t :=
  keptBut_of_entry fun _ _ _ _ hopen => hopen

theorem keptBut_allocate : KeptBut fd t (t.allocate d).1 :=
  keptBut_of_entry fun _ _ _ _ hopen => FdTable.entry_allocate hopen

theorem ownedBy_iff {owner : Owner} :
    ownedBy t owner n = true ↔ ∃ file, t.entry n = some ⟨owner, file⟩ := by
  cases hentry : t.entry n with
  | none => simp [ownedBy, hentry]
  | some d => cases d; simp [ownedBy, hentry, eq_comm]

/-- Something is done to a descriptor of others. -/
theorem keptBut_of_others {file : File} (hothers : t.entry m = some ⟨.others, file⟩)
    (hframe : ∀ n d, n ≠ m → t.entry n = some d → t'.entry n = some d) : KeptBut none t t' := by
  refine keptBut_of_entry fun n d _ howner hopen => ?_
  refine hframe n d (FdTable.ne_of_entry hopen hothers ?_) hopen
  rintro rfl
  cases howner

theorem accept_cases (t : FdTable Descriptor) (caller : Owner) (n : Nat)
    (fault : Option AcceptErrno) :
    (∃ errno, accept t caller n fault = (t, .failed errno)) ∨
    ∃ owner peer rest m, t.entry n = some ⟨owner, .listening (peer :: rest)⟩ ∧
      t.lowestFree = some m ∧ accept t caller n fault =
        ((t.put n ⟨owner, .listening rest⟩).put m ⟨caller, .connection peer⟩, .connfd m) := by
  unfold accept
  split
  · rename_i owner queue hopen
    split
    · exact .inl ⟨_, rfl⟩
    · exact .inl ⟨_, rfl⟩
    · exact .inl ⟨_, rfl⟩
    · rename_i m peer rest hfree
      exact .inr ⟨owner, peer, rest, m, hopen, hfree, rfl⟩
  · exact .inl ⟨_, rfl⟩

theorem entry_accept (hopen : t.entry n = some d) (hne : n ≠ m) :
    (accept t caller m fault).1.entry n = some d := by
  rcases accept_cases t caller m fault with ⟨errno, haccept⟩ |
    ⟨owner, peer, rest, k, -, hfree, haccept⟩
  · rw [haccept, hopen]
  · rw [haccept, FdTable.entry_put (FdTable.ne_of_lowestFree hopen hfree), FdTable.entry_put hne,
      hopen]

/-- **Others** leave the descriptors of the acceptor alone. -/
theorem ThreadAction.keptBut (action : ThreadAction) (peer : Nat) :
    KeptBut none t (action.on t peer) := by
  cases action with
  | «open» => exact keptBut_allocate
  | socket => exact keptBut_allocate
  | listen fd =>
      simp only [ThreadAction.on]
      split
      · rename_i hsocket
        exact keptBut_of_others hsocket fun n d hne hopen => (FdTable.entry_put hne).trans hopen
      · exact KeptBut.refl none t
  | accept fd =>
      simp only [ThreadAction.on]
      split
      · rename_i howned
        obtain ⟨file, hothers⟩ := ownedBy_iff.mp howned
        exact keptBut_of_others hothers fun n d hne hopen => entry_accept hopen hne
      · exact KeptBut.refl none t
  | close fd =>
      simp only [ThreadAction.on]
      split
      · rename_i howned
        obtain ⟨file, hothers⟩ := ownedBy_iff.mp howned
        exact keptBut_of_others hothers fun n d hne hopen => (FdTable.entry_clear hne).trans hopen
      · exact KeptBut.refl none t
  | connect fd =>
      simp only [ThreadAction.on]
      split
      · rename_i owner queue hlistening
        intro n file _ hopen
        by_cases hn : n = fd
        · subst hn
          rw [hopen] at hlistening
          cases hlistening
          exact ⟨_, FdTable.entry_put_self, .queue (List.prefix_append queue [peer])⟩
        · exact ⟨file, by rw [FdTable.entry_put hn, hopen], .same file⟩
      · exact KeptBut.refl none t

end Tables

namespace Acceptor

section Calls

variable {resolves : String → Bool} {s s' : Acceptor} {call : Call} {fd : Option Nat} {n : Nat}
  {fault : Option AcceptErrno}

theorem others_cases (s : Acceptor) (actions : List ThreadAction) :
    ∃ table peer, s.others actions = { s with table := table, nextPeer := peer } ∧
      KeptBut none s.table table := by
  refine run_invariant_always (I := fun s' => ∃ table peer,
    s' = { s with table := table, nextPeer := peer } ∧ KeptBut none s.table table) ?_ actions
    ⟨s.table, s.nextPeer, rfl, KeptBut.refl none s.table⟩
  rintro _ action ⟨table, peer, rfl, hkept⟩
  exact ⟨_, _, rfl, hkept.trans (action.keptBut peer)⟩

@[simp] theorem others_acceptSocket (actions : List ThreadAction) :
    (s.others actions).acceptSocket = s.acceptSocket := by
  obtain ⟨_, _, hothers, -⟩ := others_cases s actions
  rw [hothers]

@[simp] theorem others_idleFd (actions : List ThreadAction) :
    (s.others actions).idleFd = s.idleFd := by
  obtain ⟨_, _, hothers, -⟩ := others_cases s actions
  rw [hothers]

@[simp] theorem others_foreign (actions : List ThreadAction) :
    (s.others actions).foreign = s.foreign := by
  obtain ⟨_, _, hothers, -⟩ := others_cases s actions
  rw [hothers]

theorem others_keptBut (fd : Option Nat) (actions : List ThreadAction) :
    KeptBut fd s.table (s.others actions).table := by
  obtain ⟨_, _, hothers, hkept⟩ := others_cases s actions
  rw [hothers]
  exact hkept.mono fd

@[simp] theorem close_acceptSocket : (s.close fd).acceptSocket = s.acceptSocket := by
  cases fd <;> rfl

@[simp] theorem close_idleFd : (s.close fd).idleFd = s.idleFd := by
  cases fd <;> rfl

theorem close_keptBut : KeptBut fd s.table (s.close fd).table := by
  cases fd with
  | none => exact KeptBut.refl _ _
  | some n =>
      refine keptBut_of_entry fun m d hne _ hopen => ?_
      exact (FdTable.entry_clear fun h => hne (congrArg some h.symm)).trans hopen

@[simp] theorem acceptOn_acceptSocket : (s.acceptOn fd fault).1.acceptSocket = s.acceptSocket := by
  cases fd <;> rfl

@[simp] theorem acceptOn_idleFd : (s.acceptOn fd fault).1.idleFd = s.idleFd := by
  cases fd <;> rfl

@[simp] theorem acceptOn_foreign : (s.acceptOn fd fault).1.foreign = s.foreign := by
  cases fd <;> rfl

theorem acceptOn_keptBut : KeptBut fd s.table (s.acceptOn fd fault).1.table := by
  cases fd with
  | none => exact KeptBut.refl _ _
  | some n =>
      refine keptBut_of_entry fun m d hne _ hopen => ?_
      exact entry_accept hopen fun h => hne (congrArg some h.symm)

/-- What `accept` returns is a connection of the acceptor. -/
theorem entry_of_connfd (h : (s.acceptOn fd fault).2 = .connfd n) :
    ∃ peer, (s.acceptOn fd fault).1.table.entry n = some ⟨.acceptor, .connection peer⟩ := by
  cases fd with
  | none => cases h
  | some m =>
      rcases accept_cases s.table .acceptor m fault with ⟨errno, haccept⟩ |
        ⟨owner, peer, rest, k, -, -, haccept⟩
      · simp [acceptOn, haccept] at h
      · obtain rfl : k = n := by simpa [acceptOn, haccept] using h
        exact ⟨peer, by simp [acceptOn, haccept]⟩

@[simp] theorem openNull_acceptSocket {path : String} :
    (s.openNull resolves path).1.acceptSocket = s.acceptSocket := by
  simp only [openNull]
  split <;> rfl

theorem openNull_keptBut (fd : Option Nat) {path : String} :
    KeptBut fd s.table (s.openNull resolves path).1.table := by
  simp only [openNull]
  split
  · exact keptBut_allocate
  · exact KeptBut.refl _ _

theorem entry_of_openNull {path : String} (h : (s.openNull resolves path).2 = some n) :
    (s.openNull resolves path).1.table.entry n = some ⟨.acceptor, .devNull⟩ := by
  simp only [openNull] at h ⊢
  split at h
  · rename_i hresolves
    rw [if_pos hresolves]
    exact (FdTable.allocate_eq_some h).2
  · cases h

/-! ### The acceptor holds what is its own -/

/-- The clients that wait. -/
def pending (s : Acceptor) : List Nat :=
  match s.acceptSocket.bind s.table.entry with
  | some ⟨_, .listening queue⟩ => queue
  | _ => []

structure Sound (s : Acceptor) : Prop where
  acceptSocket : ∀ n, s.acceptSocket = some n →
    ∃ queue, s.table.entry n = some ⟨.acceptor, .listening queue⟩
  idleFd : ∀ n, s.idleFd = some n → s.table.entry n = some ⟨.acceptor, .devNull⟩

theorem pending_of_none (hn : s.acceptSocket = none) : s.pending = [] := by
  simp [pending, hn]

theorem pending_of_entry {owner : Owner} {queue : List Nat} (hn : s.acceptSocket = some n)
    (hopen : s.table.entry n = some ⟨owner, .listening queue⟩) : s.pending = queue := by
  simp [pending, hn, hopen]

/-- Something is done to another descriptor: who waits waits on. -/
theorem Sound.waits (h : Sound s) (hkept : KeptBut fd s.table s'.table)
    (hsocket : s'.acceptSocket = s.acceptSocket) (hn : s.acceptSocket = some n)
    (hfd : fd ≠ some n) : s'.table.entry n = some ⟨.acceptor, .listening s'.pending⟩ ∧
      s.pending <+: s'.pending := by
  obtain ⟨queue, hopen⟩ := h.acceptSocket n hn
  obtain ⟨file', hopen', hgrows⟩ := hkept n _ hfd hopen
  rw [pending_of_entry hn hopen]
  cases hgrows with
  | same =>
      rw [pending_of_entry (hsocket.trans hn) hopen']
      exact ⟨hopen', List.prefix_refl queue⟩
  | queue more =>
      rw [pending_of_entry (hsocket.trans hn) hopen']
      exact ⟨hopen', more⟩

/-- Something is done to a descriptor that is neither of the two. -/
theorem Sound.kept (h : Sound s) (hkept : KeptBut fd s.table s'.table)
    (hsocket : s'.acceptSocket = s.acceptSocket) (hidle : s'.idleFd = s.idleFd)
    (hfd : ∀ n, fd = some n → s.acceptSocket ≠ some n ∧ s.idleFd ≠ some n) : Sound s' where
  acceptSocket n hn := by
    rw [hsocket] at hn
    exact ⟨_, (h.waits hkept hsocket hn fun hfdn => (hfd n hfdn).1 hn).1⟩
  idleFd n hn := by
    rw [hidle] at hn
    exact hkept.entry (fun hfdn => (hfd n hfdn).2 hn) (h.idleFd n hn) nofun

theorem Sound.others (h : Sound s) (actions : List ThreadAction) : Sound (s.others actions) :=
  h.kept (others_keptBut none actions) (others_acceptSocket actions)
    (others_idleFd actions) nofun

theorem Sound.ne_of_connection {peer : Nat} (h : Sound s)
    (hopen : s.table.entry n = some ⟨.acceptor, .connection peer⟩) :
    s.acceptSocket ≠ some n ∧ s.idleFd ≠ some n := by
  constructor
  · intro hn
    obtain ⟨queue, hopen'⟩ := h.acceptSocket n hn
    exact FdTable.ne_of_entry hopen hopen' nofun rfl
  · intro hn
    exact FdTable.ne_of_entry hopen (h.idleFd n hn) nofun rfl

theorem Sound.acceptSocket_ne_idleFd (h : Sound s) (hn : s.acceptSocket = some n) :
    s.idleFd ≠ some n := by
  intro hidle
  obtain ⟨queue, hopen⟩ := h.acceptSocket n hn
  exact FdTable.ne_of_entry hopen (h.idleFd n hidle) nofun rfl

theorem Sound.accepted (h : Sound s) (fault : Option AcceptErrno) :
    Sound (s.acceptOn s.acceptSocket fault).1 where
  acceptSocket n hn := by
    rw [acceptOn_acceptSocket] at hn
    obtain ⟨queue, hopen⟩ := h.acceptSocket n hn
    rw [hn]
    rcases accept_cases s.table .acceptor n fault with ⟨errno, haccept⟩ |
      ⟨owner, peer, rest, m, hopen', hfree, haccept⟩
    · exact ⟨queue, by simp [acceptOn, haccept, hopen]⟩
    · obtain rfl : .acceptor = owner := by
        rw [hopen] at hopen'
        cases hopen'
        rfl
      have hne : n ≠ m := FdTable.ne_of_lowestFree hopen hfree
      exact ⟨rest, by simp [acceptOn, haccept, FdTable.entry_put hne]⟩
  idleFd n hn := by
    rw [acceptOn_idleFd] at hn
    have hne : s.acceptSocket ≠ some n := fun hsocket => h.acceptSocket_ne_idleFd hsocket hn
    exact acceptOn_keptBut.entry hne (h.idleFd n hn) nofun

@[simp] theorem handOver_acceptSocket : (s.handOver n).acceptSocket = s.acceptSocket := by
  simp only [handOver]
  split <;> rfl

@[simp] theorem handOver_idleFd : (s.handOver n).idleFd = s.idleFd := by
  simp only [handOver]
  split <;> rfl

@[simp] theorem handOver_foreign : (s.handOver n).foreign = s.foreign := by
  simp only [handOver]
  split <;> rfl

theorem handOver_keptBut : KeptBut (some n) s.table (s.handOver n).table := by
  refine keptBut_of_entry fun m d hne _ hopen => ?_
  simp only [handOver]
  split
  · exact (FdTable.entry_put fun h => hne (congrArg some h.symm)).trans hopen
  · exact hopen

end Calls

/-! ### A call -/

/-- The first two steps of a call. -/
def attempt (s : Acceptor) (call : Call) : Acceptor × AcceptResult :=
  (s.others (call.gap 0)).acceptOn s.acceptSocket call.fault

/-- There is no descriptor for the connection. -/
def Exhausted (s : Acceptor) (call : Call) : Prop := (s.attempt call).2 = .failed .EMFILE

instance (s : Acceptor) (call : Call) : Decidable (s.Exhausted call) :=
  inferInstanceAs (Decidable ((s.attempt call).2 = .failed .EMFILE))

section Calls

variable {resolves : String → Bool} {s s' : Acceptor} {call : Call} {fd : Option Nat} {n : Nat}

theorem handleRead_cases (resolves : String → Bool) (s : Acceptor) (call : Call) :
    (s.Exhausted call ∧
      handleRead resolves s call = (s.attempt call).1.recover resolves call) ∨
    ¬ s.Exhausted call ∧
      (handleRead resolves s call = (s.attempt call).1 ∨
        ∃ connfd, (s.attempt call).2 = .connfd connfd ∧
          (handleRead resolves s call =
            (((s.attempt call).1.others (call.gap 1)).handOver connfd).others (call.gap 2) ∨
          handleRead resolves s call =
            ((s.attempt call).1.others (call.gap 1)).close (some connfd))) := by
  simp only [handleRead, others_acceptSocket, Exhausted, attempt]
  rcases (s.others (call.gap 0)).acceptOn s.acceptSocket call.fault with ⟨s₁, connfd | errno⟩
  · refine .inr ⟨nofun, .inr ⟨connfd, rfl, ?_⟩⟩
    dsimp only
    split
    · exact .inl rfl
    · exact .inr rfl
  · dsimp only
    split
    · rename_i hEMFILE
      exact .inl ⟨by rw [hEMFILE], rfl⟩
    · rename_i hother
      exact .inr ⟨fun h => hother (by cases h; rfl), .inl rfl⟩

theorem Sound.attempted (h : Sound s) (call : Call) : Sound (s.attempt call).1 := by
  have haccepted := (h.others (call.gap 0)).accepted call.fault
  rwa [others_acceptSocket] at haccepted

/-- The branch for `EMFILE` leaves all but the idle descriptor alone. -/
theorem recover_keptBut : KeptBut s.idleFd s.table (s.recover resolves call).table := by
  let s₁ := (s.others (call.gap 1)).close s.idleFd
  let s₂ := ((s₁.others (call.gap 2)).acceptOn s.idleFd call.idleFault).1
  let s₃ := (s₂.others (call.gap 3)).close s.idleFd
  have h₁ : KeptBut s.idleFd s.table s₁.table := (others_keptBut _ _).trans close_keptBut
  have h₂ : KeptBut s.idleFd s₁.table s₂.table := (others_keptBut _ _).trans acceptOn_keptBut
  have h₃ : KeptBut s.idleFd s₂.table s₃.table := (others_keptBut _ _).trans close_keptBut
  have hlast : KeptBut s.idleFd s₃.table (s.recover resolves call).table := by
    simp only [recover, others_idleFd, close_idleFd, acceptOn_idleFd]
    exact (others_keptBut _ _).trans (openNull_keptBut _)
  exact ((h₁.trans h₂).trans h₃).trans hlast

@[simp] theorem recover_acceptSocket :
    (s.recover resolves call).acceptSocket = s.acceptSocket := by
  simp [recover]

theorem entry_of_recover (h : (s.recover resolves call).idleFd = some n) :
    (s.recover resolves call).table.entry n = some ⟨.acceptor, .devNull⟩ := by
  simp only [recover] at h ⊢
  exact entry_of_openNull h

theorem Sound.recover (h : Sound s) : Sound (s.recover resolves call) where
  acceptSocket n hn := by
    rw [recover_acceptSocket] at hn
    exact ⟨_, (h.waits recover_keptBut recover_acceptSocket hn (h.acceptSocket_ne_idleFd hn)).1⟩
  idleFd n hn := entry_of_recover hn

/-- After `accept` and what others do then, the connection is the acceptor's. -/
theorem entry_of_attempt (h : (s.attempt call).2 = .connfd n) :
    ∃ peer, ((s.attempt call).1.others (call.gap 1)).table.entry n =
      some ⟨.acceptor, .connection peer⟩ := by
  obtain ⟨peer, hopen⟩ := entry_of_connfd h
  exact ⟨peer, (others_keptBut none (call.gap 1)).entry nofun hopen nofun⟩

/-- **A call without exhaustion** keeps the idle descriptor, and closes nothing of others. -/
theorem Sound.ordinary (h : Sound s) (resolves : String → Bool) (hnot : ¬ s.Exhausted call) :
    Sound (handleRead resolves s call) ∧ (handleRead resolves s call).idleFd = s.idleFd ∧
      (handleRead resolves s call).foreign = s.foreign := by
  have hsound := h.attempted call
  have hidle : (s.attempt call).1.idleFd = s.idleFd := by simp [attempt]
  have hforeign : (s.attempt call).1.foreign = s.foreign := by simp [attempt]
  rcases handleRead_cases resolves s call with
    ⟨hex, -⟩ | ⟨-, heq | ⟨connfd, hconnfd, heq | heq⟩⟩
  · exact absurd hex hnot
  · rw [heq]
    exact ⟨hsound, hidle, hforeign⟩
  all_goals
    have hothers := hsound.others (call.gap 1)
    obtain ⟨peer, hopen⟩ := entry_of_attempt hconnfd
    have hne := hothers.ne_of_connection hopen
    rw [heq]
  · have hgiven := hothers.kept handOver_keptBut handOver_acceptSocket handOver_idleFd
      (by rintro _ ⟨⟩; exact hne)
    exact ⟨hgiven.others _, by simp [hidle], by simp [hforeign]⟩
  · refine ⟨hothers.kept close_keptBut close_acceptSocket close_idleFd
      (by rintro _ ⟨⟩; exact hne), by simp [hidle], ?_⟩
    simp [close, ownedBy, hopen, hforeign]

theorem Sound.handled (h : Sound s) (call : Call) : Sound (handleRead resolves s call) := by
  by_cases hex : s.Exhausted call
  · rcases handleRead_cases resolves s call with ⟨-, heq⟩ | ⟨hnot, -⟩
    · rw [heq]
      exact (h.attempted call).recover
    · exact absurd hex hnot
  · exact (h.ordinary resolves hex).1

theorem acceptOn_failed {errno : AcceptErrno} {fault : Option AcceptErrno}
    (h : (s.acceptOn fd fault).2 = .failed errno) : (s.acceptOn fd fault).1 = s := by
  cases fd with
  | none => rfl
  | some n =>
      rcases accept_cases s.table .acceptor n fault with ⟨errno', haccept⟩ |
        ⟨owner, peer, rest, m, -, -, haccept⟩
      · simp [acceptOn, haccept]
      · simp [acceptOn, haccept] at h

/-- **Exhaustion**: those who wait when there is no descriptor wait on when the call returns. -/
theorem Sound.pending_of_exhausted (h : Sound s) (resolves : String → Bool)
    (hex : s.Exhausted call) :
    (s.others (call.gap 0)).pending <+: (handleRead resolves s call).pending := by
  rcases handleRead_cases resolves s call with ⟨-, heq⟩ | ⟨hnot, -⟩
  · have hothers := h.others (call.gap 0)
    rw [heq, attempt, acceptOn_failed hex]
    cases hn : (s.others (call.gap 0)).acceptSocket with
    | none =>
        rw [pending_of_none hn]
        exact List.nil_prefix
    | some n =>
        exact (hothers.waits recover_keptBut recover_acceptSocket hn
          (hothers.acceptSocket_ne_idleFd hn)).2
  · exact absurd hex hnot

end Calls

/-! ### Survival -/

/-- The idle descriptor is open, and the acceptor's. -/
def idleOwned (s : Acceptor) : Bool := s.idleFd.any fun n => ownedBy s.table .acceptor n

/-- The client does not wait any more, and has no descriptor. -/
def TurnedAway (s : Acceptor) (peer : Nat) : Prop :=
  peer ∉ s.pending ∧ ∀ n owner, s.table.entry n ≠ some ⟨owner, .connection peer⟩

/-- The call comes because someone waits. -/
def Readable (s : Acceptor) (call : Call) : Prop := (s.others (call.gap 0)).pending ≠ []

instance (s : Acceptor) (call : Call) : Decidable (s.Readable call) :=
  inferInstanceAs (Decidable ((s.others (call.gap 0)).pending ≠ []))

/-- No descriptor is free when the call returns. -/
def FullAtReturn (resolves : String → Bool) (s : Acceptor) (call : Call) : Prop :=
  (s.handleRead resolves call).table.lowestFree = none

/-- The call returns with the idle descriptor, if there was a descriptor for it; the client for
whose connection there was none is turned away; and no descriptor of others is closed. -/
structure Survives (resolves : String → Bool) (s : Acceptor) (call : Call) : Prop where
  idleFd : ¬ FullAtReturn resolves s call → (s.handleRead resolves call).idleOwned = true
  pending : s.Exhausted call → ∀ peer rest, (s.others (call.gap 0)).pending = peer :: rest →
    (s.handleRead resolves call).TurnedAway peer
  foreign : (s.handleRead resolves call).foreign = s.foreign

/-- `accept` does not fail for want of a descriptor. -/
def NotExhausted (s : Acceptor) (call : Call) : Prop := ¬ s.Exhausted call

instance (s : Acceptor) (call : Call) : Decidable (s.NotExhausted call) :=
  inferInstanceAs (Decidable (¬ s.Exhausted call))

/-- Exhaustion does not come, neither in the run nor before it, for the idle descriptor; unless
the calls all return without a descriptor that is free for it. -/
def Spared (resolves : String → Bool) (s : Acceptor) (calls : List Call) : Prop :=
  Along (handleRead resolves) NotExhausted s calls ∧
    (s.idleOwned = true ∨ Along (handleRead resolves) (FullAtReturn resolves) s calls)

section Runs

variable {resolves : String → Bool} {s : Acceptor} {call : Call}

theorem Sound.idleOwned_iff (h : Sound s) : s.idleOwned = true ↔ s.idleFd ≠ none := by
  cases hidle : s.idleFd with
  | none => simp [idleOwned, hidle]
  | some n => simp [idleOwned, hidle, ownedBy, h.idleFd n hidle]

/-- Without exhaustion, the idle descriptor is there if it was there before. -/
theorem Sound.survives_ordinary (h : Sound s) (hnot : ¬ s.Exhausted call) :
    Survives resolves s call ↔ s.idleOwned = true ∨ FullAtReturn resolves s call := by
  obtain ⟨hsound, hidle, hforeign⟩ := h.ordinary resolves hnot
  have howned : (s.handleRead resolves call).idleOwned = s.idleOwned := by
    rw [Bool.eq_iff_iff, hsound.idleOwned_iff, h.idleOwned_iff, hidle]
  constructor
  · intro hsurvives
    by_cases hfull : FullAtReturn resolves s call
    · exact .inr hfull
    · exact .inl (howned ▸ hsurvives.idleFd hfull)
  · intro hcondition
    refine ⟨fun hfree => ?_, fun hex => absurd hex hnot, hforeign⟩
    rw [howned]
    exact hcondition.resolve_right hfree

/-- With it, whoever waits is not turned away. -/
theorem Sound.not_exhausted (h : Sound s) (hreadable : Readable s call)
    (hsurvives : Survives resolves s call) : ¬ s.Exhausted call := by
  intro hex
  obtain ⟨peer, rest, hpending⟩ := List.exists_cons_of_ne_nil hreadable
  have hwaits := h.pending_of_exhausted resolves hex
  rw [hpending] at hwaits
  exact (hsurvives.pending hex peer rest hpending).1 (hwaits.subset List.mem_cons_self)

theorem sound_listen
    (hsocket : ∀ n, s.acceptSocket = some n → s.table.entry n = some ⟨.acceptor, .socket⟩)
    (hidle : ∀ n, s.idleFd = some n → s.table.entry n = some ⟨.acceptor, .devNull⟩) :
    Sound s.listen := by
  cases hm : s.acceptSocket with
  | none =>
      rw [show s.listen = s by simp [listen, hm]]
      exact ⟨fun n hn => by simp [hm] at hn, hidle⟩
  | some m =>
      have heq : s.listen = { s with table := s.table.put m ⟨.acceptor, .listening []⟩ } := by
        simp [listen, hm]
      rw [heq]
      constructor
      · intro n hn
        obtain rfl : m = n := Option.some.inj (hm.symm.trans hn)
        exact ⟨[], FdTable.entry_put_self⟩
      · intro n hn
        have hne : n ≠ m := FdTable.ne_of_entry (hidle n hn) (hsocket m hm) nofun
        exact (FdTable.entry_put hne).trans (hidle n hn)

theorem sound_started (resolves : String → Bool) (limit : Nat) (callback : Bool)
    (gap : Nat → List ThreadAction) : Sound (started resolves limit callback gap) := by
  simp only [started, construct]
  apply sound_listen
  · intro n hn
    rw [others_acceptSocket, openNull_acceptSocket, others_acceptSocket] at hn
    have hopen := (FdTable.allocate_eq_some hn).2
    refine (others_keptBut none (gap 2)).entry nofun ?_ nofun
    refine (openNull_keptBut none).entry nofun ?_ nofun
    exact (others_keptBut none (gap 1)).entry nofun hopen nofun
  · intro n hn
    rw [others_idleFd] at hn
    exact (others_keptBut none (gap 2)).entry nofun (entry_of_openNull hn) nofun

/-- The idle descriptor, if there is one, is a null device of the acceptor's after any calls. -/
theorem sound_run (resolves : String → Bool) (limit : Nat) (callback : Bool)
    (gap : Nat → List ThreadAction) (calls : List Call) :
    Sound (run (handleRead resolves) (started resolves limit callback gap) calls) :=
  run_invariant_always (fun _ call h => h.handled call) calls
    (sound_started resolves limit callback gap)

/-- A run without exhaustion survives if the idle descriptor is there, or none is ever free. -/
theorem Sound.survives_along {calls : List Call} (h : Sound s)
    (hnot : Along (handleRead resolves) NotExhausted s calls) :
    Along (handleRead resolves) (Survives resolves) s calls ↔
      s.idleOwned = true ∨ Along (handleRead resolves) (FullAtReturn resolves) s calls := by
  induction calls generalizing s with
  | nil => simp [Along]
  | cons call calls ih =>
      obtain ⟨hsound, hidle, -⟩ := h.ordinary resolves hnot.1
      have howned : (handleRead resolves s call).idleOwned = true ↔ s.idleOwned = true := by
        rw [hsound.idleOwned_iff, h.idleOwned_iff, hidle]
      simp only [Along, h.survives_ordinary hnot.1, ih hsound hnot.2, howned, or_and_left]

theorem Sound.not_exhausted_along {calls : List Call} (h : Sound s)
    (hreadable : Along (handleRead resolves) Readable s calls)
    (hsurvives : Along (handleRead resolves) (Survives resolves) s calls) :
    Along (handleRead resolves) NotExhausted s calls := by
  induction calls generalizing s with
  | nil => trivial
  | cons call calls ih =>
      exact ⟨h.not_exhausted hreadable.1 hsurvives.1,
        ih (h.handled call) hreadable.2 hsurvives.2⟩

/-- **A run survives** when there is always a descriptor for the connection, and there was one
for the idle descriptor (or none is free whenever a call returns). If the calls come because
someone waits, no other run survives. -/
theorem survives_iff (resolves : String → Bool) (limit : Nat) (callback : Bool)
    (gap : Nat → List ThreadAction) (calls : List Call) :
    (Spared resolves (started resolves limit callback gap) calls →
      Along (handleRead resolves) (Survives resolves) (started resolves limit callback gap)
        calls) ∧
    (Along (handleRead resolves) Readable (started resolves limit callback gap) calls →
      (Along (handleRead resolves) (Survives resolves) (started resolves limit callback gap)
        calls ↔ Spared resolves (started resolves limit callback gap) calls)) := by
  have hs := sound_started resolves limit callback gap
  have henough := fun hspared : Spared resolves (started resolves limit callback gap) calls =>
    (hs.survives_along hspared.1).mpr hspared.2
  refine ⟨henough, fun hreadable => ⟨fun hsurvives => ?_, henough⟩⟩
  have hnot := hs.not_exhausted_along hreadable hsurvives
  exact ⟨hnot, (hs.survives_along hnot).mp hsurvives⟩

end Runs

/-- The null device, for a process that does not run in the root directory. -/
def absolute (path : String) : Bool := path = "/dev/null"

/-- Three descriptors are open when the acceptor is constructed. -/
def standard (k : Nat) : List ThreadAction := if k = 0 then [.open, .open, .open] else []

/-- Two clients, and a thread that closes what it has opened. -/
def twoClients : List Call :=
  [{ gap := fun k => if k = 0 then [.open, .connect 3] else [] },
    { gap := fun k => if k = 0 then [.close 5, .connect 3] else [] }]

theorem survives_twoClients :
    Along (handleRead absolute) Readable (started absolute 7 true standard) twoClients ∧
      Along (handleRead absolute) (Survives absolute) (started absolute 7 true standard)
        twoClients := by
  have hspared : Spared absolute (started absolute 7 true standard) twoClients :=
    ⟨⟨by decide, by decide, trivial⟩, .inl (by decide)⟩
  exact ⟨⟨by decide, by decide, trivial⟩,
    (survives_iff absolute 7 true standard twoClients).1 hspared⟩

/-- A client connects when there are five descriptors and all are open. While the acceptor has
closed its own, a thread opens one, and gets the same number. -/
def reused : Call :=
  { gap := fun k => if k = 0 then [.connect 3] else if k = 3 then [.open] else [] }

/-- The same without the thread. -/
def alone : Call := { gap := fun k => if k = 0 then [.connect 3] else [] }

/-- The client waits on, the thread's descriptor is closed, and there is no idle descriptor any
more, though one is free. The client waits on without the thread too, and in the root directory,
where `dev/null` is the null device. -/
theorem exhaustion_not_survived :
    (started absolute 5 true standard).Exhausted reused ∧
    (handleRead absolute (started absolute 5 true standard) reused).foreign = [4] ∧
    (handleRead absolute (started absolute 5 true standard) reused).idleFd = none ∧
    (handleRead absolute (started absolute 5 true standard) reused).table.lowestFree = some 4 ∧
    ¬ Survives absolute (started absolute 5 true standard) reused ∧
    (handleRead absolute (started absolute 5 true standard) alone).idleFd = none ∧
    (handleRead (fun _ => true) (started (fun _ => true) 5 true standard) alone).pending = [3] ∧
    ¬ Survives (fun _ => true) (started (fun _ => true) 5 true standard) alone := by
  have hforeign :
      (handleRead absolute (started absolute 5 true standard) reused).foreign = [4] := by decide
  have hpending : (handleRead (fun _ => true) (started (fun _ => true) 5 true standard)
      alone).pending = [3] := by decide
  refine ⟨by decide, hforeign, by decide, by decide, fun hsurvives => ?_, by decide, hpending,
    fun hsurvives => ?_⟩
  · have hnone := hsurvives.foreign
    rw [hforeign] at hnone
    exact absurd hnone (by decide)
  · have hturned := hsurvives.pending (by decide) 3 [] (by decide)
    rw [TurnedAway, hpending] at hturned
    exact hturned.1 List.mem_cons_self

end Acceptor

end Rmuduo.Net
