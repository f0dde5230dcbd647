/-
Login tokens (`auth/TokenManager.h`, `auth/TokenManager.cc`).

Every operation holds the mutex for all of its body, so the calls on one manager follow one
another. The clock is an argument of each call, and so are the values that the random generator
gives; times are integers, as `now + ttlSeconds` is taken not to overflow.

* `createSession_cases`, `verify_eq_some`, `verify_state` — what each operation does to the table.
-/

import Rmuduo.Lib.ExpiringStore
import Rmuduo.Auth.RtmpTicketManager

namespace Rmuduo.Auth

open Lib Lib.ExpiringStore

structure TokenManager where
  ttlSeconds : Int := 2 * 60 * 60
  sessions : Bytes → Option AuthSession := fun _ => none

namespace TokenManager

def removeExpiredLocked (m : TokenManager) (now : Int) : TokenManager :=
  { m with sessions := fun token => (m.sessions token).filter fun s => ¬ s.expireAt ≤ now }

/-- `generateToken`, from the pairs of values that the generator gives: the first token that is
not in the table. `none` while all of them are; the loop then asks for more. -/
def generateToken (m : TokenManager) : List (UInt64 × UInt64) → Option Bytes
  | [] => none
  | (first, second) :: drawn =>
      let token := hex16 first ++ hex16 second
      if (m.sessions token).isSome then m.generateToken drawn else some token

/-- `createSession`; `none` when the values drawn are not enough for `generateToken`. -/
def createSession (m : TokenManager) (now : Int) (drawn : List (UInt64 × UInt64)) (user : User) :
    Option (TokenManager × AuthSession) :=
  let m := m.removeExpiredLocked now
  (m.generateToken drawn).map fun token =>
    let session : AuthSession := {
      token := token
      userId := user.userId
      username := user.username
      role := user.role
      expireAt := now + m.ttlSeconds }
    ({ m with sessions := Function.update m.sessions session.token (some session) }, session)

def verify (m : TokenManager) (now : Int) (token : Bytes) : TokenManager × Option AuthSession :=
  match m.sessions token with
  | none => (m, none)
  | some session =>
      if session.expireAt ≤ now then
        ({ m with sessions := Function.update m.sessions token none }, none)
      else (m, some session)

def remove (m : TokenManager) (token : Bytes) : TokenManager × Bool :=
  ({ m with sessions := Function.update m.sessions token none }, (m.sessions token).isSome)

/-! ### What each operation does -/

section Operations

variable {m m' : TokenManager} {now : Int}

theorem removeExpiredLocked_sessions (m : TokenManager) (now : Int) :
    (m.removeExpiredLocked now).sessions = live AuthSession.expireAt now m.sessions := by
  simp only [removeExpiredLocked, Int.not_le]
  rfl

/-- A token is thirty-two digits. -/
theorem generateToken_ne_nil {drawn : List (UInt64 × UInt64)} {token : Bytes}
    (h : m.generateToken drawn = some token) : token ≠ [] := by
  induction drawn with
  | nil => cases h
  | cons values drawn ih =>
      simp only [generateToken] at h
      split at h
      · exact ih h
      · cases h
        simp [hex16]

/-- The session that `createSession` returns, and where it is kept. -/
theorem createSession_cases {drawn : List (UInt64 × UInt64)} {user : User}
    {session : AuthSession} (h : m.createSession now drawn user = some (m', session)) :
    session.token ≠ [] ∧ session.userId = user.userId ∧ session.username = user.username ∧
      session.role = user.role ∧ session.expireAt = now + m.ttlSeconds ∧
      m'.ttlSeconds = m.ttlSeconds ∧
      m'.sessions = Function.update (live AuthSession.expireAt now m.sessions) session.token
        (some session) := by
  obtain ⟨token, hgenerated, hresult⟩ := Option.map_eq_some_iff.mp h
  rw [removeExpiredLocked_sessions] at hresult
  cases hresult
  exact ⟨generateToken_ne_nil hgenerated, rfl, rfl, rfl, rfl, rfl, rfl⟩

/-- What a verification answers, from what the table holds. -/
theorem verify_eq_some {token : Bytes} {session : AuthSession} :
    (m.verify now token).2 = some session ↔
      m.sessions token = some session ∧ now < session.expireAt := by
  unfold verify
  cases hsession : m.sessions token with
  | none => simp
  | some session' =>
      dsimp only
      by_cases hexpired : session'.expireAt ≤ now
      · rw [if_pos hexpired]
        constructor
        · intro h
          cases h
        · rintro ⟨h, hlive⟩
          cases h
          exact absurd hexpired (Int.not_le.mpr hlive)
      · rw [if_neg hexpired]
        constructor
        · intro h
          cases h
          exact ⟨rfl, Int.not_le.mp hexpired⟩
        · rintro ⟨h, -⟩
          exact h

/-- A verification drops a session that has expired, and nothing else. -/
theorem verify_state (m : TokenManager) (now : Int) (token : Bytes) :
    (m.verify now token).1 = m ∨
      ∃ session, m.sessions token = some session ∧ session.expireAt ≤ now ∧
        (m.verify now token).1 =
          { m with sessions := Function.update m.sessions token none } := by
  unfold verify
  cases hsession : m.sessions token with
  | none => exact .inl rfl
  | some session =>
      dsimp only
      by_cases hexpired : session.expireAt ≤ now
      · rw [if_pos hexpired]
        exact .inr ⟨session, rfl, hexpired, rfl⟩
      · rw [if_neg hexpired]
        exact .inl rfl

end Operations

end TokenManager

end Rmuduo.Auth
