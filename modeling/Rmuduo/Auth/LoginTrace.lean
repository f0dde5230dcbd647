/-
What a grant rests on (`example/login_server.cc`).

The answers of the login server to the RTMP server rest on tickets, tickets on sessions, and
sessions on logins. Each of these links is the business of another component, whose history is
known: the tokens of `AuthService` (`AuthService.Reached`) and the tickets of `RtmpTicketManager`
(`Reached`). Here they come together in one log.

* `Justified` — what the log has to hold for a deed to be done.
* `Accounted.serve`, `Accounted.consult` — requests and questions keep the account.
* `rejected_changes_nothing` — a request that is not answered by success changes no later answer, but
  that to the logout of an expired token.
-/

import Rmuduo.Auth.LoginApi
import Rmuduo.Lib.System

namespace Rmuduo.Auth.LoginServer

open Lib Lib.System Api Http

/-! ### The log -/

/-- The logins and logouts of a log. -/
def authEvents (log : List Deed) : List AuthEvent :=
  log.filterMap fun
    | .loggedIn _ l => some (.login l)
    | .loggedOut _ token => some (.logout token)
    | .issued _ _ _ _ => none
    | .consulted _ _ _ _ _ _ => none

/-- The tickets of a log. -/
def creations (log : List Deed) : List Creation :=
  log.filterMap fun
    | .loggedIn _ _ => none
    | .loggedOut _ _ => none
    | .issued _ _ _ c => some c
    | .consulted _ _ _ _ _ _ => none

/-- How long a token lasts (`TokenManager`). -/
def tokenTtl : Int := 2 * 60 * 60

/-- How long a ticket lasts (`RtmpTicketManager`). -/
def ticketTtl : Int := 5 * 60

/-- What the log before a deed has to hold.

* A login is posted with the name, the password and the role of an enabled user.
* A logout is posted with the token of a login, and the login has not been logged out before.
* A ticket is asked for with the token of such a login that has not expired, and it is for the user
  of that login, for the stream name and the permission that the request names.
* A question of the RTMP server is answered yes exactly for a ticket that has been issued for this
  stream key with this permission and has not expired. -/
def Justified (config : Config) (before : List Deed) : Deed → Prop
  | .loggedIn request l =>
      Posts request (ascii "/api/login") ∧ Credentials request l.username l.password l.role ∧
        l.Justified config.hash (.init config.hash) tokenTtl
  | .loggedOut request token =>
      Posts request (ascii "/api/logout") ∧ getBearerToken request = some token ∧
        ∃ l, Stands (authEvents before) token l
  | .issued now request token c =>
      Posts request (ascii "/api/rtmp/ticket") ∧ getBearerToken request = some token ∧
        (∃ l, Stands (authEvents before) token l ∧ now < l.session.expireAt ∧
          c.session = l.session) ∧
        ∃ streamName, Wants request streamName c.permission ∧ IssuedFor streamName c
  | .consulted now _ streamKey ticket publish granted =>
      granted = true ↔ ∃ c ∈ creations before, c.ticket = ticket ∧ c.streamKey = streamKey ∧
        c.permission.Includes publish ∧ now < (c.issued ticketTtl).expireAt

/-- The services are what their histories say, and every deed is justified. -/
structure Accounted (config : Config) (s : Backend) (last : Int) : Prop where
  auth : ∃ time ≤ last, AuthService.Reached config.hash (.init config.hash) tokenTtl s.authService
    (authEvents s.log) time
  tickets : ∃ time ≤ last, Reached ticketTtl s.rtmpTicketManager (creations s.log) time
  explained : Explained (Justified config) s.log

section Accounts

variable {config : Config} {sources : Sources} {s s' : Backend} {request : HttpRequest}
  {response answer : HttpResponse} {last now : Int}

theorem accounted_init (config : Config) (now : Int) : Accounted config (.init config) now where
  auth := ⟨now, Int.le_refl now, .start now⟩
  tickets := ⟨now, Int.le_refl now, .start now⟩
  explained := explained_nil _

theorem Accounted.later (h : Accounted config s last) (later : last ≤ now) :
    Accounted config s now where
  auth := h.auth.imp fun _ ⟨hle, hreached⟩ => ⟨Int.le_trans hle later, hreached⟩
  tickets := h.tickets.imp fun _ ⟨hle, hreached⟩ => ⟨Int.le_trans hle later, hreached⟩
  explained := h.explained

/-- The login behind a session that is held. -/
theorem Accounted.stands (h : Accounted config s last) {token : Bytes} {session : AuthSession}
    (held : s.authService.tokenManager.sessions token = some session) :
    ∃ l, Stands (authEvents s.log) token l ∧ l.session = session := by
  obtain ⟨_, -, hreached⟩ := h.auth
  exact lastSession_eq_some.mp ((AuthService.reached_tracked hreached).tracks.held held)

/-- A ticket of the handler is one that the manager has created. -/
theorem rtmpTicket_ok {m m' : RtmpTicketManager} {drawn : List (UInt64 × UInt64)}
    {rtmpPort : UInt16} {session : AuthSession} {streamName permissionText data : Bytes}
    {ticket : RtmpTicket}
    (h : rtmpTicket m now drawn rtmpPort session streamName permissionText =
      some (m', .ok ticket data)) :
    isValidStreamName streamName = true ∧ rtmpPermissionFromString permissionText ≠ .kUnknown ∧
      m.createTicket now drawn session (makeStreamKey kRtmpApp streamName)
        (rtmpPermissionFromString permissionText) = some (m', ticket) := by
  unfold rtmpTicket at h
  split at h
  · cases h
  · rename_i hvalid
    dsimp only at h
    split at h
    · cases h
    · rename_i hpermission
      obtain ⟨created, hcreated, hanswer⟩ := Option.map_eq_some_iff.mp h
      cases hanswer
      exact ⟨by simpa using hvalid, hpermission, hcreated⟩

/-- **A request** keeps the account. -/
theorem Accounted.effect (h : Accounted config s last) (later : last ≤ sources.clock 0)
    (next : sources.clock 0 ≤ sources.clock 1)
    (heffect : Effect config sources s request response s' answer) :
    Accounted config s' (sources.clock 1) := by
  obtain ⟨time, htime, hauth⟩ := h.auth
  obtain ⟨time', htime', htickets⟩ := h.tickets
  have hnow : time ≤ sources.clock 0 := Int.le_trans htime later
  have hnow' : time' ≤ sources.clock 1 := Int.le_trans htime' (Int.le_trans later next)
  cases heffect with
  | refused => exact h.later (Int.le_trans later next)
  | healthy => exact h.later (Int.le_trans later next)
  | refusedVerified => exact ⟨⟨_, next, .verifyToken hauth hnow⟩, ⟨_, hnow', htickets⟩, h.explained⟩
  | user => exact ⟨⟨_, next, .verifyToken hauth hnow⟩, ⟨_, hnow', htickets⟩, h.explained⟩
  | @loggedIn username password role authService result posted credentials returned ok =>
      have hreached := AuthService.Reached.login hauth hnow returned
      rw [loginEvents, if_pos ok] at hreached
      have hjustified := (AuthService.reached_tracked hreached).justified
        ⟨sources.clock 0, username, password, role, result.session⟩ (by simp)
      refine ⟨⟨_, next, ?_⟩, ⟨_, hnow', ?_⟩, h.explained.concat ⟨posted, credentials, hjustified⟩⟩
      · simpa [authEvents] using hreached
      · simpa [creations] using htickets
  | @loggedOut token posted bearer ended =>
      obtain ⟨session, hsession⟩ := held_of_logout ended
      obtain ⟨l, hstands, -⟩ := h.stands hsession
      have hreached : AuthService.Reached config.hash (.init config.hash) tokenTtl
          (s.authService.logout token).1 (authEvents s.log ++ [.logout token])
          (sources.clock 0) := .logout hauth hnow
      refine ⟨⟨_, next, ?_⟩, ⟨_, hnow', ?_⟩, h.explained.concat ⟨posted, bearer, l, hstands⟩⟩
      · simpa [authEvents] using hreached
      · simpa [creations] using htickets
  | @issued token streamName permissionText data session manager ticket posted bearer verified wants
      returned =>
      obtain ⟨hvalid, hpermission, hcreated⟩ := rtmpTicket_ok returned
      obtain ⟨-, hsession, hlive⟩ := AuthService.verifyToken_eq_some.mp verified
      obtain ⟨l, hstands, rfl⟩ := h.stands hsession
      have hreached : AuthService.Reached config.hash (.init config.hash) tokenTtl
          (s.authService.verifyToken (sources.clock 0) token).1 (authEvents s.log)
          (sources.clock 0) := .verifyToken hauth hnow
      have hreached' := Reached.createTicket htickets hnow' hcreated
      refine ⟨⟨_, next, ?_⟩, ⟨_, Int.le_refl _, ?_⟩, h.explained.concat ⟨posted, bearer,
        ⟨l, hstands, hlive, rfl⟩, streamName, wants, ⟨hvalid, rfl, hpermission⟩⟩⟩
      · simpa [authEvents] using hreached
      · simpa [creations] using hreached'

theorem Accounted.serve (h : Accounted config s last) (later : last ≤ sources.clock 0)
    (next : sources.clock 0 ≤ sources.clock 1)
    (served : (router config sources).route s request response = some (s', answer)) :
    Accounted config s' (sources.clock 1) :=
  h.effect later next (route_effect served)

/-! ### Questions of the RTMP server -/

/-- The lambda that `main` installs with `setAuthCallback`, for a connection. -/
def Backend.consult (s : Backend) (now : Int) (conn : Nat) (streamKey ticket : Bytes) (publish : Bool) :
    Backend × Bool :=
  let (manager, granted) := authCallback s.rtmpTicketManager now streamKey ticket publish
  ({ s with
      rtmpTicketManager := manager
      log := s.log ++ [.consulted now conn streamKey ticket publish granted] }, granted)

theorem authCallback_eq (m : RtmpTicketManager) (now : Int) (streamKey ticket : Bytes)
    (publish : Bool) : authCallback m now streamKey ticket publish =
      ((m.verify now ticket streamKey publish).1,
        (m.verify now ticket streamKey publish).2.isSome) := by
  cases publish <;> rfl

theorem mem_of_mostRecent {history : List Creation} {ticket : Bytes} {c : Creation}
    (h : mostRecent history ticket = some c) : c ∈ history ∧ c.ticket = ticket := by
  obtain ⟨hmem, hticket⟩ := List.mem_filter.mp (List.mem_of_getLast? h)
  exact ⟨hmem, of_decide_eq_true hticket⟩

/-- A ticket is granted exactly as long as it has been issued and has not expired. -/
theorem granted_iff {m : RtmpTicketManager} {history : List Creation}
    (reached : Reached ticketTtl m history last) (later : last ≤ now) {streamKey ticket : Bytes}
    {publish : Bool} : (authCallback m now streamKey ticket publish).2 = true ↔
      ∃ c ∈ history, c.ticket = ticket ∧ c.streamKey = streamKey ∧
        c.permission.Includes publish ∧ now < (c.issued ticketTtl).expireAt := by
  rw [authCallback_eq, Option.isSome_iff_exists]
  constructor
  · rintro ⟨t, ht⟩
    obtain ⟨c, hrecent, hkey, hincludes, hlive, -⟩ :=
      (verify_iff reached later ticket streamKey publish t).mp ht
    obtain ⟨hmem, hticket⟩ := mem_of_mostRecent hrecent
    exact ⟨c, hmem, hticket, hkey, hincludes, hlive⟩
  · rintro ⟨c, hmem, rfl, hkey, hincludes, hlive⟩
    have hrecent := mostRecent_of_unexpired reached hmem (Int.lt_of_le_of_lt later hlive)
    exact ⟨_, (verify_iff reached later c.ticket streamKey publish _).mpr
      ⟨c, hrecent, hkey, hincludes, hlive, rfl⟩⟩

/-- **A question** keeps the account. -/
theorem Accounted.consult (h : Accounted config s last) (later : last ≤ now) (conn : Nat)
    (streamKey ticket : Bytes) (publish : Bool) :
    Accounted config (s.consult now conn streamKey ticket publish).1 now := by
  obtain ⟨time, htime, hauth⟩ := h.auth
  obtain ⟨time', htime', htickets⟩ := h.tickets
  have hnow : time' ≤ now := Int.le_trans htime' later
  refine ⟨⟨time, Int.le_trans htime later, ?_⟩, ⟨now, Int.le_refl now, ?_⟩, ?_⟩
  · simpa [Backend.consult, authEvents] using hauth
  · have hverified : Reached ticketTtl (s.rtmpTicketManager.verify now ticket streamKey publish).1
        (creations s.log) now := .verify htickets hnow
    simpa [Backend.consult, authCallback_eq, creations] using hverified
  · have hjustified : Justified config s.log (.consulted now conn streamKey ticket publish
        (authCallback s.rtmpTicketManager now streamKey ticket publish).2) :=
      granted_iff htickets hnow
    exact h.explained.concat hjustified

/-! ### Requests that are refused -/

/-- A verification changes no later answer. -/
theorem verifyToken_verifyToken {s : AuthService} (later : last ≤ now) (token token' : Bytes) :
    ((s.verifyToken last token).1.verifyToken now token').2 = (s.verifyToken now token').2 := by
  rcases AuthService.verifyToken_state s last token with heq | heq
  · rw [heq]
  · rw [heq]
    apply Option.ext
    intro session
    rw [AuthService.verifyToken_eq_some, AuthService.verifyToken_eq_some]
    rcases TokenManager.verify_state s.tokenManager last token with
      hsame | ⟨dropped, hdropped, hexpired, hstate⟩
    · rw [hsame]
    · rw [hstate]
      dsimp only
      by_cases htoken : token' = token
      · subst htoken
        rw [Function.update_self]
        constructor
        · rintro ⟨-, h, -⟩
          cases h
        · rintro ⟨-, hsession, hlive⟩
          cases hdropped.symm.trans hsession
          exact absurd (Int.lt_of_le_of_lt (Int.le_trans hexpired later) hlive) (Int.lt_irrefl _)
      · rw [Function.update_of_ne htoken]

/-- A verification changes the answer to a logout only if the token has expired, and is swept. -/
theorem logout_verifyToken (s : AuthService) (now : Int) (token token' : Bytes) :
    ((s.verifyToken now token).1.logout token').2 = (s.logout token').2 ∨
      ∃ session, s.tokenManager.sessions token' = some session ∧ session.expireAt ≤ now := by
  rcases AuthService.verifyToken_state s now token with heq | heq
  · rw [heq]
    exact .inl rfl
  rw [heq]
  rcases TokenManager.verify_state s.tokenManager now token with
    hsame | ⟨dropped, hdropped, hexpired, hstate⟩
  · rw [hsame]
    exact .inl rfl
  · rw [hstate]
    by_cases htoken : token' = token
    · exact .inr ⟨dropped, htoken ▸ hdropped, hexpired⟩
    · left
      unfold AuthService.logout TokenManager.remove
      dsimp only
      rw [Function.update_of_ne htoken]
      split <;> rfl

/-- **A request that is not answered by success changes nothing**: no deed is done, the tickets
are what they were, and every token is answered as before. What has changed at most is that an
expired token has been swept, so that it can no longer be logged out. -/
theorem rejected_changes_nothing
    (served : (router config sources).route s request response = some (s', answer))
    (rejected : ∀ dataJson, answer ≠ setOk response dataJson) :
    s'.log = s.log ∧ s'.rtmpTicketManager = s.rtmpTicketManager ∧
      (∀ now token, sources.clock 0 ≤ now →
        (s'.authService.verifyToken now token).2 = (s.authService.verifyToken now token).2) ∧
      ∀ token, (s'.authService.logout token).2 = (s.authService.logout token).2 ∨
        ∃ session, s.authService.tokenManager.sessions token = some session ∧
          session.expireAt ≤ sources.clock 0 := by
  cases route_effect served with
  | refused => exact ⟨rfl, rfl, fun _ _ _ => rfl, fun _ => .inl rfl⟩
  | refusedVerified token =>
      exact ⟨rfl, rfl, fun now token' later => verifyToken_verifyToken later token token',
        logout_verifyToken s.authService (sources.clock 0) token⟩
  | healthy => exact absurd rfl (rejected _)
  | user => exact absurd rfl (rejected _)
  | loggedIn => exact absurd rfl (rejected _)
  | loggedOut => exact absurd rfl (rejected _)
  | issued => exact absurd rfl (rejected _)

/-- A request with a token that nobody has been given. -/
def strangersRequest : HttpRequest where
  method := .kGet
  path := ascii "/api/me"
  headers := [(ascii "Authorization", ascii "Bearer 0")]

def localConfig : Config := ⟨AuthService.passwordHash, 1935, fun _ _ => 0⟩

theorem rejected_changes_nothing_stranger : ∃ s' answer,
    (router localConfig ⟨fun _ => 0, []⟩).route (.init localConfig) strangersRequest
      { closeConnection := false } = some (s', answer) ∧ s'.log = [] ∧
    ∀ now token, 0 ≤ now → (s'.authService.verifyToken now token).2 =
      ((Backend.init localConfig).authService.verifyToken now token).2 := by
  have hstatus : ((router localConfig ⟨fun _ => 0, []⟩).route (.init localConfig)
      strangersRequest { closeConnection := false }).map (·.2.statusCode) =
        some .k401Unauthorized := by
    decide +kernel
  obtain ⟨⟨s', answer⟩, served, hcode⟩ := Option.map_eq_some_iff.mp hstatus
  have rejected : ∀ dataJson, answer ≠ setOk { closeConnection := false } dataJson := by
    rintro dataJson rfl
    cases hcode
  obtain ⟨hlog, -, hsame, -⟩ := rejected_changes_nothing served rejected
  exact ⟨s', answer, served, hlog, hsame⟩

end Accounts

end Rmuduo.Auth.LoginServer
