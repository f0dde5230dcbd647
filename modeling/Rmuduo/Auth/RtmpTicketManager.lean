/-
RTMP tickets (`auth/RtmpTicketManager.h`, `auth/RtmpTicketManager.cc`).

Every operation holds the mutex for all of its body, so the calls on one manager follow one
another. The clock is an argument of each call, and so are the values that the random
generator gives; times are integers, as `now + ttlSeconds` is taken not to overflow.

* `Reached` — the states that sequences of calls with a non-decreasing clock reach, and the
  tickets created on the way.
* `reached_tracks` — the table against that history.
* `verify_eq_history` — what verification answers, and that a new ticket is none that is
  still unexpired.
-/

import Rmuduo.Lib.ExpiringStore
import Rmuduo.Auth.AuthTypes

namespace Rmuduo.Auth

open Lib Lib.ExpiringStore

/-! ### The manager -/

structure RtmpTicketManager where
  ttlSeconds : Int := 5 * 60
  tickets : Bytes → Option RtmpTicket := fun _ => none

/-- `{:016x}`: sixteen hexadecimal digits. -/
def hex16 (value : UInt64) : Bytes :=
  (List.range 16).map fun i =>
    let digit := ((value >>> UInt64.ofNat (60 - 4 * i)) &&& 0xF).toUInt8
    if digit < 10 then 48 + digit else 87 + digit

/-- A digit that `hex16` writes. -/
def isHexDigit (b : UInt8) : Bool :=
  (48 ≤ b ∧ b ≤ 57) ∨ (97 ≤ b ∧ b ≤ 102)

theorem isHexDigit_hex16 (value : UInt64) : ∀ b ∈ hex16 value, isHexDigit b = true := by
  have hdigit : ∀ n : Fin 16, isHexDigit
      (if UInt8.ofNat n < 10 then 48 + UInt8.ofNat n else 87 + UInt8.ofNat n) = true := by
    decide
  intro b hb
  obtain ⟨i, -, rfl⟩ := List.mem_map.mp hb
  have hlt : (((value >>> UInt64.ofNat (60 - 4 * i)) &&& 0xF).toUInt8).toNat < 16 := by
    rw [UInt64.toNat_toUInt8, UInt64.toNat_and]
    exact lt_of_le_of_lt (Nat.mod_le _ _) (Nat.lt_succ_of_le Nat.and_le_right)
  have h := hdigit ⟨_, hlt⟩
  rw [UInt8.ofNat_toNat] at h
  exact h

namespace RtmpTicketManager

def removeExpiredLocked (m : RtmpTicketManager) (now : Int) : RtmpTicketManager :=
  { m with tickets := fun ticket => (m.tickets ticket).filter fun t => ¬ t.expireAt ≤ now }

/-- `generateTicket`, from the pairs of values that the generator gives: the first ticket that
is not in the table. `none` while all of them are; the loop then asks for more. -/
def generateTicket (m : RtmpTicketManager) : List (UInt64 × UInt64) → Option Bytes
  | [] => none
  | (first, second) :: drawn =>
      let ticket := hex16 first ++ hex16 second
      if (m.tickets ticket).isSome then m.generateTicket drawn else some ticket

/-- `createTicket`; `none` when the values drawn are not enough for `generateTicket`. -/
def createTicket (m : RtmpTicketManager) (now : Int) (drawn : List (UInt64 × UInt64))
    (session : AuthSession) (streamKey : Bytes) (permission : RtmpPermission) :
    Option (RtmpTicketManager × RtmpTicket) :=
  let m := m.removeExpiredLocked now
  (m.generateTicket drawn).map fun ticket =>
    let created : RtmpTicket := {
      ticket := ticket
      userId := session.userId
      username := session.username
      role := session.role
      streamKey := streamKey
      allowPublish := permission = .kPublish ∨ permission = .kBoth
      allowPlay := permission = .kPlay ∨ permission = .kBoth
      expireAt := now + m.ttlSeconds }
    ({ m with tickets := Function.update m.tickets ticket (some created) }, created)

def verify (m : RtmpTicketManager) (now : Int) (ticket streamKey : Bytes)
    (requirePublish : Bool) : RtmpTicketManager × Option RtmpTicket :=
  match m.tickets ticket with
  | none => (m, none)
  | some t =>
      if t.expireAt ≤ now then
        ({ m with tickets := Function.update m.tickets ticket none }, none)
      else if t.streamKey ≠ streamKey then (m, none)
      else if requirePublish = true ∧ t.allowPublish = false then (m, none)
      else if requirePublish = false ∧ t.allowPlay = false then (m, none)
      else (m, some t)

def verifyPublish (m : RtmpTicketManager) (now : Int) (ticket streamKey : Bytes) :
    RtmpTicketManager × Option RtmpTicket :=
  m.verify now ticket streamKey true

def verifyPlay (m : RtmpTicketManager) (now : Int) (ticket streamKey : Bytes) :
    RtmpTicketManager × Option RtmpTicket :=
  m.verify now ticket streamKey false

end RtmpTicketManager

/-! ### Histories -/

/-- A call of `createTicket`, and the ticket string that it returned. -/
structure Creation where
  now : Int
  session : AuthSession
  streamKey : Bytes
  permission : RtmpPermission
  ticket : Bytes

/-- The permission includes publishing, or playing. -/
def RtmpPermission.Includes (permission : RtmpPermission) (publish : Bool) : Prop :=
  permission = .kBoth ∨ permission = if publish then .kPublish else .kPlay

/-- The ticket of a creation: the user and the role of the session it was created for. -/
def Creation.issued (c : Creation) (ttlSeconds : Int) : RtmpTicket where
  ticket := c.ticket
  userId := c.session.userId
  username := c.session.username
  role := c.session.role
  streamKey := c.streamKey
  allowPublish := c.permission = .kPublish ∨ c.permission = .kBoth
  allowPlay := c.permission = .kPlay ∨ c.permission = .kBoth
  expireAt := c.now + ttlSeconds

/-- The most recent creation that returned the ticket. -/
def mostRecent (history : List Creation) (ticket : Bytes) : Option Creation :=
  (history.filter fun c => c.ticket = ticket).getLast?

/-- The states that calls on a fresh manager reach when the clock does not go back, the tickets
created on the way, and the time of the last call. -/
inductive Reached (ttlSeconds : Int) : RtmpTicketManager → List Creation → Int → Prop where
  | start (now : Int) : Reached ttlSeconds { ttlSeconds := ttlSeconds } [] now
  | createTicket {m m' : RtmpTicketManager} {history : List Creation} {last now : Int}
      {drawn : List (UInt64 × UInt64)} {session : AuthSession} {streamKey : Bytes}
      {permission : RtmpPermission} {t : RtmpTicket} (before : Reached ttlSeconds m history last)
      (later : last ≤ now)
      (returned : m.createTicket now drawn session streamKey permission = some (m', t)) :
      Reached ttlSeconds m' (history ++ [⟨now, session, streamKey, permission, t.ticket⟩]) now
  | verify {m : RtmpTicketManager} {history : List Creation} {last now : Int}
      {ticket streamKey : Bytes} {requirePublish : Bool}
      (before : Reached ttlSeconds m history last)
      (later : last ≤ now) :
      Reached ttlSeconds (m.verify now ticket streamKey requirePublish).1 history now

/-! ### The table against the history -/

section Verification

variable {ttlSeconds : Int} {m m' : RtmpTicketManager} {history : List Creation} {last now : Int}

theorem mostRecent_append (history : List Creation) (c : Creation) (ticket : Bytes) :
    mostRecent (history ++ [c]) ticket =
      if c.ticket = ticket then some c else mostRecent history ticket := by
  unfold mostRecent
  rw [List.filter_append]
  by_cases h : c.ticket = ticket
  · simp [h]
  · simp [h]

/-- What was put last under each ticket string. -/
def lastIssued (ttlSeconds : Int) (history : List Creation) (ticket : Bytes) : Option RtmpTicket :=
  (mostRecent history ticket).map (·.issued ttlSeconds)

theorem lastIssued_append (history : List Creation) (c : Creation) :
    lastIssued ttlSeconds (history ++ [c]) =
      Function.update (lastIssued ttlSeconds history) c.ticket (some (c.issued ttlSeconds)) := by
  funext ticket
  unfold lastIssued
  rw [mostRecent_append]
  by_cases h : c.ticket = ticket
  · subst h
    simp
  · rw [if_neg h, Function.update_of_ne (Ne.symm h)]

theorem removeExpiredLocked_tickets (m : RtmpTicketManager) (now : Int) :
    (m.removeExpiredLocked now).tickets = live RtmpTicket.expireAt now m.tickets := by
  simp only [RtmpTicketManager.removeExpiredLocked, Int.not_le]
  rfl

/-- The loop of `generateTicket` ends with a ticket that is not in the table, written from two
of the values drawn. -/
theorem generateTicket_drawn {drawn : List (UInt64 × UInt64)} {ticket : Bytes}
    (h : m.generateTicket drawn = some ticket) :
    m.tickets ticket = none ∧ ∃ values ∈ drawn, ticket = hex16 values.1 ++ hex16 values.2 := by
  induction drawn with
  | nil => cases h
  | cons values drawn ih =>
      unfold RtmpTicketManager.generateTicket at h
      dsimp only at h
      split at h
      · obtain ⟨hnone, values', hmem, hticket⟩ := ih h
        exact ⟨hnone, values', List.mem_cons_of_mem _ hmem, hticket⟩
      · rename_i hnone
        cases h
        exact ⟨by simpa using hnone, values, List.mem_cons_self, rfl⟩

theorem generateTicket_fresh {drawn : List (UInt64 × UInt64)} {ticket : Bytes}
    (h : m.generateTicket drawn = some ticket) : m.tickets ticket = none :=
  (generateTicket_drawn h).1

theorem generateTicket_digits {drawn : List (UInt64 × UInt64)} {ticket : Bytes}
    (h : m.generateTicket drawn = some ticket) : ∀ b ∈ ticket, isHexDigit b = true := by
  obtain ⟨-, values, -, rfl⟩ := generateTicket_drawn h
  intro b hb
  rcases List.mem_append.mp hb with hfirst | hsecond
  · exact isHexDigit_hex16 values.1 b hfirst
  · exact isHexDigit_hex16 values.2 b hsecond

/-- What a call of `createTicket` does when it returns. -/
theorem createTicket_cases {drawn : List (UInt64 × UInt64)} {session : AuthSession}
    {streamKey : Bytes} {permission : RtmpPermission} {t : RtmpTicket}
    (h : m.createTicket now drawn session streamKey permission = some (m', t)) :
    t = (⟨now, session, streamKey, permission, t.ticket⟩ : Creation).issued m.ttlSeconds ∧
      live RtmpTicket.expireAt now m.tickets t.ticket = none ∧
      m'.ttlSeconds = m.ttlSeconds ∧
      m'.tickets =
        Function.update (live RtmpTicket.expireAt now m.tickets) t.ticket (some t) := by
  unfold RtmpTicketManager.createTicket at h
  dsimp only at h
  obtain ⟨ticket, hgenerated, hresult⟩ := Option.map_eq_some_iff.mp h
  have hfresh := generateTicket_fresh hgenerated
  rw [removeExpiredLocked_tickets] at hfresh hresult
  cases hresult
  exact ⟨rfl, hfresh, rfl, rfl⟩

/-- What a verification answers, from what the table holds. -/
theorem verify_eq_some {ticket streamKey : Bytes} {requirePublish : Bool} {t : RtmpTicket} :
    (m.verify now ticket streamKey requirePublish).2 = some t ↔
      (m.tickets ticket = some t ∧ now < t.expireAt) ∧ t.streamKey = streamKey ∧
        (if requirePublish then t.allowPublish else t.allowPlay) = true := by
  unfold RtmpTicketManager.verify
  cases hticket : m.tickets ticket with
  | none => simp
  | some t' =>
      dsimp only
      by_cases hexpired : t'.expireAt ≤ now
      · rw [if_pos hexpired]
        constructor
        · intro h
          cases h
        · rintro ⟨⟨h, hlive⟩, -⟩
          cases h
          omega
      · rw [if_neg hexpired]
        by_cases hkey : t'.streamKey = streamKey
        · rw [if_neg (not_not_intro hkey)]
          cases requirePublish with
          | true =>
              cases hallow : t'.allowPublish with
              | true => grind
              | false => grind
          | false =>
              cases hallow : t'.allowPlay with
              | true => grind
              | false => grind
        · rw [if_pos hkey]
          constructor
          · intro h
            cases h
          · rintro ⟨⟨h, -⟩, hsame, -⟩
            cases h
            exact absurd hsame hkey

/-- A verification drops a ticket that has expired, and nothing else. -/
theorem verify_state (m : RtmpTicketManager) (now : Int) (ticket streamKey : Bytes)
    (requirePublish : Bool) :
    (m.verify now ticket streamKey requirePublish).1 = m ∨
      ∃ t, m.tickets ticket = some t ∧ t.expireAt ≤ now ∧
        (m.verify now ticket streamKey requirePublish).1 =
          { m with tickets := Function.update m.tickets ticket none } := by
  unfold RtmpTicketManager.verify
  cases hticket : m.tickets ticket with
  | none => exact .inl rfl
  | some t =>
      dsimp only
      by_cases hexpired : t.expireAt ≤ now
      · rw [if_pos hexpired]
        exact .inr ⟨t, rfl, hexpired, rfl⟩
      · rw [if_neg hexpired]
        left
        split
        · rfl
        · split
          · rfl
          · split <;> rfl

/-- **The table tracks the history**: what it holds was created last under its ticket string, and
what was created last and has not expired is held. -/
theorem reached_tracks (h : Reached ttlSeconds m history last) :
    m.ttlSeconds = ttlSeconds ∧
      Tracks RtmpTicket.expireAt last m.tickets (lastIssued ttlSeconds history) := by
  induction h with
  | start now => exact ⟨rfl, tracks_empty now⟩
  | @createTicket m m' history last now drawn session streamKey permission t before later returned
      ih =>
      obtain ⟨httl, htracks⟩ := ih
      obtain ⟨hissued, -, httl', htickets⟩ := createTicket_cases returned
      refine ⟨httl'.trans httl, ?_⟩
      rw [httl] at hissued
      rw [htickets, lastIssued_append, ← hissued]
      exact (htracks.later later).sweep.update t.ticket (some t)
  | @verify m history last now ticket streamKey requirePublish before later ih =>
      obtain ⟨httl, htracks⟩ := ih
      rcases verify_state m now ticket streamKey requirePublish with h | ⟨t, hticket, hexpired, h⟩
      · rw [h]
        exact ⟨httl, htracks.later later⟩
      · rw [h]
        exact ⟨httl, (htracks.later later).drop hticket hexpired⟩

theorem issued_allows (c : Creation) (publish : Bool) :
    (if publish then (c.issued ttlSeconds).allowPublish else (c.issued ttlSeconds).allowPlay) =
      true ↔ c.permission.Includes publish := by
  cases publish with
  | true => simp [Creation.issued, RtmpPermission.Includes, or_comm]
  | false => simp [Creation.issued, RtmpPermission.Includes, or_comm]

/-- A verification answers by the history. -/
theorem verify_iff (h : Reached ttlSeconds m history last) (later : last ≤ now)
    (ticket streamKey : Bytes) (publish : Bool) (t : RtmpTicket) :
    (m.verify now ticket streamKey publish).2 = some t ↔
      ∃ c, mostRecent history ticket = some c ∧ c.streamKey = streamKey ∧
        c.permission.Includes publish ∧ now < (c.issued ttlSeconds).expireAt ∧
        t = c.issued ttlSeconds := by
  rw [verify_eq_some, (reached_tracks h).2.live_iff later]
  unfold lastIssued
  constructor
  · rintro ⟨⟨hlast, hlive⟩, hkey, hallow⟩
    obtain ⟨c, hc, rfl⟩ := Option.map_eq_some_iff.mp hlast
    exact ⟨c, hc, hkey, (issued_allows c publish).mp hallow, hlive, rfl⟩
  · rintro ⟨c, hc, hkey, hincludes, hlive, rfl⟩
    refine ⟨⟨?_, hlive⟩, hkey, (issued_allows c publish).mpr hincludes⟩
    rw [hc]
    rfl

/-- A new ticket is none that is still unexpired. -/
theorem createTicket_ne (h : Reached ttlSeconds m history last) (later : last ≤ now)
    {drawn : List (UInt64 × UInt64)} {session : AuthSession} {streamKey : Bytes}
    {permission : RtmpPermission} {t : RtmpTicket}
    (returned : m.createTicket now drawn session streamKey permission = some (m', t))
    {ticket : Bytes} {c : Creation} (hc : mostRecent history ticket = some c)
    (hlive : now < (c.issued ttlSeconds).expireAt) : t.ticket ≠ ticket := by
  rintro rfl
  obtain ⟨-, hfresh, -, -⟩ := createTicket_cases returned
  have hlast : lastIssued ttlSeconds history t.ticket = some (c.issued ttlSeconds) := by
    unfold lastIssued
    rw [hc]
    rfl
  have hkept := ((reached_tracks h).2.later later).sweep.kept hlast hlive
  rw [hfresh] at hkept
  cases hkept

theorem reached_digits (h : Reached ttlSeconds m history last) {c : Creation}
    (mem : c ∈ history) : ∀ b ∈ c.ticket, isHexDigit b = true := by
  induction h with
  | start now => cases mem
  | @createTicket m m' history last now drawn session streamKey permission t before later returned
      ih =>
      rcases List.mem_append.mp mem with hold | hnew
      · exact ih hold
      · obtain rfl := List.mem_singleton.mp hnew
        obtain ⟨ticket, hgenerated, hresult⟩ := Option.map_eq_some_iff.mp returned
        cases hresult
        exact generateTicket_digits hgenerated
  | @verify m history last now ticket streamKey requirePublish before later ih => exact ih mem

/-- While a ticket is unexpired, no later one has its string. -/
theorem mostRecent_of_unexpired (h : Reached ttlSeconds m history last) {c : Creation}
    (mem : c ∈ history) (hlive : last < (c.issued ttlSeconds).expireAt) :
    mostRecent history c.ticket = some c := by
  induction h with
  | start now => cases mem
  | @createTicket m m' history last now drawn session streamKey permission t before later returned
      ih =>
      rw [mostRecent_append]
      rcases List.mem_append.mp mem with hold | hnew
      · have hrecent := ih hold (lt_of_le_of_lt later hlive)
        rw [if_neg (createTicket_ne before later returned hrecent hlive)]
        exact hrecent
      · obtain rfl := List.mem_singleton.mp hnew
        exact if_pos rfl
  | @verify m history last now ticket streamKey requirePublish before later ih =>
      exact ih mem (lt_of_le_of_lt later hlive)

/-- **Verification equals its history specification.** -/
theorem verify_eq_history (h : Reached ttlSeconds m history last) (later : last ≤ now) :
    (∀ ticket streamKey t, (m.verifyPublish now ticket streamKey).2 = some t ↔
      ∃ c, mostRecent history ticket = some c ∧ c.streamKey = streamKey ∧
        c.permission.Includes true ∧ now < (c.issued ttlSeconds).expireAt ∧
        t = c.issued ttlSeconds) ∧
    (∀ ticket streamKey t, (m.verifyPlay now ticket streamKey).2 = some t ↔
      ∃ c, mostRecent history ticket = some c ∧ c.streamKey = streamKey ∧
        c.permission.Includes false ∧ now < (c.issued ttlSeconds).expireAt ∧
        t = c.issued ttlSeconds) ∧
    ∀ drawn session streamKey permission m' t,
      m.createTicket now drawn session streamKey permission = some (m', t) →
      ∀ ticket c, mostRecent history ticket = some c → now < (c.issued ttlSeconds).expireAt →
        t.ticket ≠ ticket := by
  refine ⟨fun ticket streamKey t => verify_iff h later ticket streamKey true t,
    fun ticket streamKey t => verify_iff h later ticket streamKey false t, ?_⟩
  intro drawn session streamKey permission m' t returned ticket c hc hlive
  exact createTicket_ne h later returned hc hlive

theorem createTicket_first : (({} : RtmpTicketManager).createTicket 0 [(1, 2)] {} (ascii "/live/a")
    .kPublish).isSome := by
  decide +kernel

/-- A fresh manager's first ticket, for publishing `/live/a` from time 0 on. -/
def firstTicket : RtmpTicketManager × RtmpTicket :=
  (({} : RtmpTicketManager).createTicket 0 [(1, 2)] {} (ascii "/live/a") .kPublish).get
    createTicket_first

theorem reached_firstTicket :
    Reached (5 * 60) firstTicket.1 [⟨0, {}, ascii "/live/a", .kPublish, firstTicket.2.ticket⟩] 0 :=
  have returned : ({} : RtmpTicketManager).createTicket 0 [(1, 2)] {} (ascii "/live/a") .kPublish =
      some (firstTicket.1, firstTicket.2) := (Option.some_get createTicket_first).symm
  .createTicket (.start 0) (Int.le_refl 0) returned

/-- One second before it expires, it is verified by its creation. -/
theorem verify_firstTicket :
    (firstTicket.1.verifyPublish 299 firstTicket.2.ticket (ascii "/live/a")).2 =
        some firstTicket.2 ↔
      ∃ c, mostRecent [⟨0, {}, ascii "/live/a", .kPublish, firstTicket.2.ticket⟩]
          firstTicket.2.ticket = some c ∧
        c.streamKey = ascii "/live/a" ∧ c.permission.Includes true ∧
        299 < (c.issued (5 * 60)).expireAt ∧ firstTicket.2 = c.issued (5 * 60) :=
  (verify_eq_history reached_firstTicket (by decide : (0 : Int) ≤ 299)).1 _ _ _

end Verification

end Rmuduo.Auth
