/-
Login, verification and logout (`auth/AuthService.h`, `auth/AuthService.cc`).

`std::hash` of a string is a parameter.

* `Reached` — the states that sequences of calls with a non-decreasing clock reach, and the
  logins and logouts on the way.
* `Stands` — the most recent login that returned a token, with no logout behind it.
* `reached_tracks` — the table against that history.
* `verifyToken_eq_history` — what a verification answers.
-/

import Rmuduo.Auth.TokenManager
import Rmuduo.Auth.UserStore

namespace Rmuduo.Auth

open Lib Lib.ExpiringStore

/-! ### The service -/

structure AuthService where
  userStore : UserStore
  tokenManager : TokenManager := {}

namespace AuthService

/-- `login`; `none` when the values drawn are not enough for `generateToken`. -/
def login (hash : Bytes → UInt64) (s : AuthService) (now : Int) (drawn : List (UInt64 × UInt64))
    (username password : Bytes) (role : UserRole) : Option (AuthService × AuthResult) :=
  if username = [] ∨ password = [] ∨ role = .kUnknown then
    some (s, { error := .kBadRequest })
  else
    match s.userStore.findByUsername username with
    | none => some (s, { error := .kInvalidCredentials })
    | some user =>
        if user.passwordHash ≠ makePasswordHash hash password then
          some (s, { error := .kInvalidCredentials })
        else if user.enabled = false then some (s, { error := .kUserDisabled })
        else if user.role ≠ role then some (s, { error := .kUnsupportedRole })
        else
          (s.tokenManager.createSession now drawn user).map fun (tokenManager, session) =>
            ({ s with tokenManager := tokenManager }, { error := .kOk, session := session })

def verifyToken (s : AuthService) (now : Int) (token : Bytes) :
    AuthService × Option AuthSession :=
  if token = [] then (s, none)
  else
    let (tokenManager, session) := s.tokenManager.verify now token
    ({ s with tokenManager := tokenManager }, session)

def logout (s : AuthService) (token : Bytes) : AuthService × Bool :=
  if token = [] then (s, false)
  else
    let (tokenManager, removed) := s.tokenManager.remove token
    ({ s with tokenManager := tokenManager }, removed)

end AuthService

/-! ### Histories -/

/-- A login that succeeded: when, with what, and the session that it returned. -/
structure Login where
  now : Int
  username : Bytes
  password : Bytes
  role : UserRole
  session : AuthSession

inductive AuthEvent where
  | login (l : Login)
  | logout (token : Bytes)

/-- The token that the event is about. -/
def AuthEvent.token : AuthEvent → Bytes
  | .login l => l.session.token
  | .logout token => token

/-- The most recent login that returned this token is `l`, and no logout of it has followed. -/
def Stands (history : List AuthEvent) (token : Bytes) (l : Login) : Prop :=
  ∃ before after, history = before ++ .login l :: after ∧ l.session.token = token ∧
    ∀ event ∈ after, event.token ≠ token

/-- The events of a login. -/
def loginEvents (now : Int) (username password : Bytes) (role : UserRole) (result : AuthResult) :
    List AuthEvent :=
  if result.error = .kOk then [.login ⟨now, username, password, role, result.session⟩] else []

/-- The states that calls on a service with fresh tokens reach when the clock does not go back,
the logins and logouts on the way, and the time of the last call. -/
inductive AuthService.Reached (hash : Bytes → UInt64) (userStore : UserStore) (ttlSeconds : Int) :
    AuthService → List AuthEvent → Int → Prop where
  | start (now : Int) :
      Reached hash userStore ttlSeconds ⟨userStore, { ttlSeconds := ttlSeconds }⟩ [] now
  | login {s s' : AuthService} {history : List AuthEvent} {last now : Int}
      {drawn : List (UInt64 × UInt64)} {username password : Bytes} {role : UserRole}
      {result : AuthResult} (before : Reached hash userStore ttlSeconds s history last)
      (later : last ≤ now)
      (returned : s.login hash now drawn username password role = some (s', result)) :
      Reached hash userStore ttlSeconds s'
        (history ++ loginEvents now username password role result) now
  | verifyToken {s : AuthService} {history : List AuthEvent} {last now : Int} {token : Bytes}
      (before : Reached hash userStore ttlSeconds s history last) (later : last ≤ now) :
      Reached hash userStore ttlSeconds (s.verifyToken now token).1 history now
  | logout {s : AuthService} {history : List AuthEvent} {last now : Int} {token : Bytes}
      (before : Reached hash userStore ttlSeconds s history last) (later : last ≤ now) :
      Reached hash userStore ttlSeconds (s.logout token).1 (history ++ [.logout token]) now

/-- The login is one of an enabled user of the store, with the password and in the role that the
store has, and the session is one of that user. -/
structure Login.Justified (hash : Bytes → UInt64) (userStore : UserStore) (ttlSeconds : Int)
    (l : Login) : Prop where
  token : l.session.token ≠ []
  username : l.session.username = l.username
  role : l.session.role = l.role
  expireAt : l.session.expireAt = l.now + ttlSeconds
  user : ∃ user, userStore.findByUsername l.username = some user ∧ user.enabled = true ∧
    user.passwordHash = makePasswordHash hash l.password ∧ user.role = l.role ∧
    l.session.userId = user.userId

/-! ### The most recent login -/

/-- What an event leaves under each token. -/
def record (last : Bytes → Option AuthSession) : AuthEvent → Bytes → Option AuthSession
  | .login l => Function.update last l.session.token (some l.session)
  | .logout token => Function.update last token none

/-- What was put last under each token. -/
def lastSession (history : List AuthEvent) : Bytes → Option AuthSession :=
  history.foldl record fun _ => none

theorem lastSession_append (history : List AuthEvent) (event : AuthEvent) :
    lastSession (history ++ [event]) = record (lastSession history) event := by
  simp only [lastSession, List.foldl_append, List.foldl_cons, List.foldl_nil]

theorem stands_append {history : List AuthEvent} {event : AuthEvent} {token : Bytes} {l : Login} :
    Stands (history ++ [event]) token l ↔
      event = .login l ∧ l.session.token = token ∨
        event.token ≠ token ∧ Stands history token l := by
  constructor
  · rintro ⟨before, after, heq, htoken, hafter⟩
    rcases List.eq_nil_or_concat after with rfl | ⟨after, last, rfl⟩
    · obtain ⟨-, hevent⟩ := List.append_inj' heq rfl
      exact Or.inl ⟨List.singleton_inj.mp hevent, htoken⟩
    · rw [List.concat_eq_append, ← List.cons_append, ← List.append_assoc] at heq
      obtain ⟨rfl, hevent⟩ := List.append_inj' heq rfl
      cases hevent
      refine Or.inr ⟨hafter event (by simp), before, after, rfl, htoken, ?_⟩
      intro e he
      exact hafter e (by simp [he])
  · rintro (⟨rfl, htoken⟩ | ⟨hne, before, after, rfl, htoken, hafter⟩)
    · exact ⟨history, [], rfl, htoken, nofun⟩
    · refine ⟨before, after ++ [event], by simp, htoken, ?_⟩
      intro e he
      rcases List.mem_append.mp he with he | he
      · exact hafter e he
      · cases List.mem_singleton.mp he
        exact hne

theorem not_stands_nil {token : Bytes} {l : Login} : ¬ Stands [] token l := by
  rintro ⟨before, after, heq, -⟩
  simp at heq

theorem lastSession_eq_some {history : List AuthEvent} {token : Bytes} {session : AuthSession} :
    lastSession history token = some session ↔
      ∃ l, Stands history token l ∧ l.session = session := by
  induction history using List.reverseRecOn with
  | nil =>
      constructor
      · intro h
        cases h
      · rintro ⟨l, hstands, -⟩
        exact absurd hstands not_stands_nil
  | append_singleton history event ih =>
      rw [lastSession_append]
      simp only [stands_append]
      by_cases htoken : event.token = token
      · subst htoken
        cases event with
        | login l =>
            simp [record, AuthEvent.token]
        | logout token => simp [record, AuthEvent.token]
      · have hsame : record (lastSession history) event token = lastSession history token := by
          cases event with
          | login l => exact Function.update_of_ne (Ne.symm htoken) ..
          | logout token' => exact Function.update_of_ne (Ne.symm htoken) ..
        rw [hsame, ih]
        constructor
        · rintro ⟨l, hstands, hsession⟩
          exact ⟨l, Or.inr ⟨htoken, hstands⟩, hsession⟩
        · rintro ⟨l, ⟨rfl, hl⟩ | ⟨-, hstands⟩, hsession⟩
          · exact absurd hl htoken
          · exact ⟨l, hstands, hsession⟩

/-! ### The table against the history -/

namespace AuthService

section Runs

variable {hash : Bytes → UInt64} {userStore : UserStore} {ttlSeconds : Int}
  {s s' : AuthService} {history : List AuthEvent} {last now : Int}

/-- What a login comes to: an error, or a session for a user that the store knows so. -/
theorem login_cases {drawn : List (UInt64 × UInt64)} {username password : Bytes}
    {role : UserRole} {result : AuthResult}
    (h : s.login hash now drawn username password role = some (s', result)) :
    (result.error ≠ .kOk ∧ s' = s) ∨
      result.error = .kOk ∧ ∃ user m, s.userStore.findByUsername username = some user ∧
        user.enabled = true ∧ user.passwordHash = makePasswordHash hash password ∧
        user.role = role ∧
        s.tokenManager.createSession now drawn user = some (m, result.session) ∧
        s' = { s with tokenManager := m } := by
  unfold login at h
  split at h
  · cases h
    exact Or.inl ⟨nofun, rfl⟩
  · split at h
    · cases h
      exact Or.inl ⟨nofun, rfl⟩
    · rename_i user huser
      split at h
      · cases h
        exact Or.inl ⟨nofun, rfl⟩
      · rename_i hpassword
        split at h
        · cases h
          exact Or.inl ⟨nofun, rfl⟩
        · rename_i henabled
          split at h
          · cases h
            exact Or.inl ⟨nofun, rfl⟩
          · rename_i hrole
            obtain ⟨⟨m, session⟩, hcreated, hresult⟩ := Option.map_eq_some_iff.mp h
            cases hresult
            exact Or.inr ⟨rfl, user, m, huser, by simpa using henabled, not_not.mp hpassword,
              not_not.mp hrole, hcreated, rfl⟩

/-- A session that is created is one of the user that was found. -/
theorem createSession_justified {m : TokenManager} {drawn : List (UInt64 × UInt64)} {user : User}
    {username password : Bytes} {role : UserRole} {session : AuthSession}
    (found : s.userStore.findByUsername username = some user) (enabled : user.enabled = true)
    (hpassword : user.passwordHash = makePasswordHash hash password) (hrole : user.role = role)
    (created : s.tokenManager.createSession now drawn user = some (m, session)) :
    (⟨now, username, password, role, session⟩ : Login).Justified hash s.userStore
      s.tokenManager.ttlSeconds := by
  obtain ⟨htoken, huserId, husername, hsame, hexpireAt, -, -⟩ :=
    TokenManager.createSession_cases created
  constructor
  · exact htoken
  · exact husername.trans (s.userStore.named username user found)
  · exact hsame.trans hrole
  · exact hexpireAt
  · exact ⟨user, found, enabled, hpassword, hrole, huserId⟩

theorem verifyToken_state (s : AuthService) (now : Int) (token : Bytes) :
    (s.verifyToken now token).1 = s ∨
      (s.verifyToken now token).1 =
        { s with tokenManager := (s.tokenManager.verify now token).1 } := by
  unfold verifyToken
  split
  · exact Or.inl rfl
  · exact Or.inr rfl

/-- What a sequence of calls keeps. -/
structure Tracked (hash : Bytes → UInt64) (userStore : UserStore) (ttlSeconds : Int)
    (s : AuthService) (history : List AuthEvent) (last : Int) : Prop where
  store : s.userStore = userStore
  ttl : s.tokenManager.ttlSeconds = ttlSeconds
  tracks : Tracks AuthSession.expireAt last s.tokenManager.sessions (lastSession history)
  justified : ∀ l, .login l ∈ history → l.Justified hash userStore ttlSeconds

/-- There is no session under the empty token. -/
theorem Tracked.sessions_nil (h : Tracked hash userStore ttlSeconds s history last) :
    s.tokenManager.sessions [] = none := by
  cases hsession : s.tokenManager.sessions [] with
  | none => rfl
  | some session =>
      obtain ⟨l, ⟨before, after, rfl, htoken, -⟩, -⟩ :=
        lastSession_eq_some.mp (h.tracks.held hsession)
      exact absurd htoken (h.justified l (by simp)).token

theorem Tracked.login (h : Tracked hash userStore ttlSeconds s history last) (later : last ≤ now)
    {drawn : List (UInt64 × UInt64)} {username password : Bytes} {role : UserRole}
    {result : AuthResult}
    (returned : s.login hash now drawn username password role = some (s', result)) :
    Tracked hash userStore ttlSeconds s'
      (history ++ loginEvents now username password role result) now := by
  unfold loginEvents
  rcases login_cases returned with
    ⟨hfailed, rfl⟩ | ⟨hok, user, m, hfound, henabled, hpassword, hrole, hcreated, rfl⟩
  · rw [if_neg hfailed, List.append_nil]
    exact ⟨h.store, h.ttl, h.tracks.later later, h.justified⟩
  · obtain ⟨-, -, -, -, -, httl, hsessions⟩ := TokenManager.createSession_cases hcreated
    have hjustified := createSession_justified hfound henabled hpassword hrole hcreated
    rw [if_pos hok]
    constructor
    · exact h.store
    · exact httl.trans h.ttl
    · rw [hsessions, lastSession_append]
      exact (h.tracks.later later).sweep.update result.session.token (some result.session)
    · intro l hl
      rcases List.mem_append.mp hl with hl | hl
      · exact h.justified l hl
      · cases List.mem_singleton.mp hl
        rw [h.store, h.ttl] at hjustified
        exact hjustified

theorem Tracked.verifyToken (h : Tracked hash userStore ttlSeconds s history last)
    (later : last ≤ now) (token : Bytes) :
    Tracked hash userStore ttlSeconds (s.verifyToken now token).1 history now := by
  have hlater := h.tracks.later later
  rcases verifyToken_state s now token with heq | heq
  · rw [heq]
    exact ⟨h.store, h.ttl, hlater, h.justified⟩
  · rw [heq]
    rcases TokenManager.verify_state s.tokenManager now token with
      hsame | ⟨session, hsession, hexpired, hdropped⟩
    · rw [hsame]
      exact ⟨h.store, h.ttl, hlater, h.justified⟩
    · rw [hdropped]
      exact ⟨h.store, h.ttl, hlater.drop hsession hexpired, h.justified⟩

theorem Tracked.logout (h : Tracked hash userStore ttlSeconds s history last)
    (later : last ≤ now) (token : Bytes) :
    Tracked hash userStore ttlSeconds (s.logout token).1 (history ++ [.logout token]) now := by
  have hjustified : ∀ l, .login l ∈ history ++ [.logout token] →
      l.Justified hash userStore ttlSeconds := by
    intro l hl
    rcases List.mem_append.mp hl with hl | hl
    · exact h.justified l hl
    · cases List.mem_singleton.mp hl
  have herase := (h.tracks.later later).update token none
  unfold AuthService.logout
  split
  · rename_i hempty
    subst hempty
    have hstore : Function.update s.tokenManager.sessions [] none = s.tokenManager.sessions := by
      rw [← h.sessions_nil, Function.update_eq_self]
    rw [hstore] at herase
    exact ⟨h.store, h.ttl, by rw [lastSession_append]; exact herase, hjustified⟩
  · exact ⟨h.store, h.ttl, by rw [lastSession_append]; exact herase, hjustified⟩

/-- **The table tracks the history**, and every login in it is justified. -/
theorem reached_tracked (h : Reached hash userStore ttlSeconds s history last) :
    Tracked hash userStore ttlSeconds s history last := by
  induction h with
  | start now => exact ⟨rfl, rfl, tracks_empty now, nofun⟩
  | login before later returned ih => exact ih.login later returned
  | verifyToken before later ih => exact ih.verifyToken later _
  | logout before later ih => exact ih.logout later _

theorem verifyToken_eq_some {token : Bytes} {session : AuthSession} :
    (s.verifyToken now token).2 = some session ↔
      token ≠ [] ∧ s.tokenManager.sessions token = some session ∧ now < session.expireAt := by
  unfold verifyToken
  split
  · rename_i hempty
    simp [hempty]
  · rename_i hne
    simp only [hne, not_false_eq_true, ne_eq, true_and]
    exact TokenManager.verify_eq_some

/-- A logout does not change what other tokens are answered. -/
theorem verifyToken_logout {token token' : Bytes} (hne : token' ≠ token) :
    ((s.logout token).1.verifyToken now token').2 = (s.verifyToken now token').2 := by
  have hsessions : (s.logout token).1.tokenManager.sessions token' =
      s.tokenManager.sessions token' := by
    unfold logout
    split
    · rfl
    · exact Function.update_of_ne hne ..
  apply Option.ext
  intro session
  rw [verifyToken_eq_some, verifyToken_eq_some, hsessions]

/-- **Login tokens follow their history.** A token is answered with the session of the most
recent login that returned it, unless a logout has followed or the session has expired; the
sessions name the users and roles of their logins; a logout affects no other token; and a login
succeeds only with the password and the role of an enabled user. -/
theorem verifyToken_eq_history (h : Reached hash userStore ttlSeconds s history last)
    (later : last ≤ now) :
    (∀ token session, (s.verifyToken now token).2 = some session ↔
      token ≠ [] ∧ ∃ l, Stands history token l ∧ now < l.session.expireAt ∧
        session = l.session) ∧
    (∀ l, .login l ∈ history → l.Justified hash userStore ttlSeconds) ∧
    (∀ token token', token' ≠ token →
      ((s.logout token).1.verifyToken now token').2 = (s.verifyToken now token').2) ∧
    ∀ drawn username password role s' result,
      s.login hash now drawn username password role = some (s', result) → result.error = .kOk →
        (⟨now, username, password, role, result.session⟩ : Login).Justified hash userStore
          ttlSeconds := by
  have htracked := reached_tracked h
  refine ⟨?_, htracked.justified, fun token token' hne => verifyToken_logout hne, ?_⟩
  · intro token session
    rw [verifyToken_eq_some, htracked.tracks.live_iff later, lastSession_eq_some]
    constructor
    · rintro ⟨hne, ⟨l, hstands, rfl⟩, hlive⟩
      exact ⟨hne, l, hstands, hlive, rfl⟩
    · rintro ⟨hne, l, hstands, hlive, rfl⟩
      exact ⟨hne, ⟨l, hstands, rfl⟩, hlive⟩
  · intro drawn username password role s' result returned hok
    rcases login_cases returned with
      ⟨hfailed, -⟩ | ⟨-, user, m, hfound, henabled, hpassword, hrole, hcreated, -⟩
    · exact absurd hok hfailed
    · have hjustified := createSession_justified hfound henabled hpassword hrole hcreated
      rw [htracked.store, htracked.ttl] at hjustified
      exact hjustified

/-- `std::hash` of the password of the default users. -/
def passwordHash (password : Bytes) : UInt64 :=
  if password = ascii "123456" then 10676640704186402002 else 0

def fresh : AuthService := ⟨.init passwordHash, {}⟩

theorem login_fresh : (fresh.login passwordHash 0 [(1, 2)] (ascii "teacher01") (ascii "123456")
    .kTeacher).isSome := by
  decide +kernel

/-- The login of a default user at time 0. -/
def firstLogin : AuthService × AuthResult :=
  (fresh.login passwordHash 0 [(1, 2)] (ascii "teacher01") (ascii "123456") .kTeacher).get
    login_fresh

def firstHistory : List AuthEvent :=
  loginEvents 0 (ascii "teacher01") (ascii "123456") .kTeacher firstLogin.2

theorem reached_firstLogin :
    Reached passwordHash (.init passwordHash) (2 * 60 * 60) firstLogin.1 firstHistory 0 :=
  have returned : fresh.login passwordHash 0 [(1, 2)] (ascii "teacher01") (ascii "123456")
      .kTeacher = some (firstLogin.1, firstLogin.2) := (Option.some_get login_fresh).symm
  .login (.start 0) (Int.le_refl 0) returned

/-- One second before it expires, its token is answered by its session. -/
theorem verifyToken_firstLogin : firstLogin.2.error = .kOk ∧
    (firstLogin.1.verifyToken 7199 firstLogin.2.session.token).2 =
      some firstLogin.2.session := by
  constructor
  · decide +kernel
  · refine ((verifyToken_eq_history reached_firstLogin (by decide : (0 : Int) ≤ 7199)).1 _ _).mpr
      ⟨by decide +kernel, ⟨0, ascii "teacher01", ascii "123456", .kTeacher, firstLogin.2.session⟩,
        ⟨[], [], ?_, rfl, nofun⟩, by decide +kernel, rfl⟩
    have hok : firstLogin.2.error = .kOk := by decide +kernel
    rw [firstHistory, loginEvents, if_pos hok]
    rfl

end Runs

end AuthService

end Rmuduo.Auth
