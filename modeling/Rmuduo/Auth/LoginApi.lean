/-
The HTTP interface of the login server (`example/login_server.cc`).

The lambdas that `main` registers are handlers on the services that they refer to. A handler reads
the clock twice at most and draws random values once at most; what it reads and draws is its
`Sources`. The log of what the handlers have done is read by no function of the source.

* `Effect` — what a request comes to, and how it is answered: a login, a logout, a ticket, or nothing
  but sessions dropped that have expired.
* `route_effect` — the routes of `main` come to nothing else.
-/

import Rmuduo.Api.JsonRequest
import Rmuduo.Api.Router
import Rmuduo.Auth.AuthService
import Rmuduo.Auth.LoginServer

namespace Rmuduo.Auth.LoginServer

open Lib Api Http

/-! ### The services -/

/-- What a handler takes from outside: the clock at each of its readings, and the values that the
random generator gives. -/
structure Sources where
  clock : Nat → Int
  drawn : List (UInt64 × UInt64)

/-- What is not in the program: `std::hash` of a string, the port of the RTMP server, and the bytes
that the random device yields for the handshake of a connection. -/
structure Config where
  hash : Bytes → UInt64
  rtmpPort : UInt16
  random : Nat → Fin 1528 → UInt8

/-- What the services have done that others can observe, or that a later grant rests on. -/
inductive Deed where
  /-- A login that returned a session. -/
  | loggedIn (request : HttpRequest) (l : Login)
  /-- A logout that ended a session. -/
  | loggedOut (request : HttpRequest) (token : Bytes)
  /-- A ticket, the token that it was asked for with, and when the token was verified. -/
  | issued (now : Int) (request : HttpRequest) (token : Bytes) (c : Creation)
  /-- An answer to the RTMP server. -/
  | consulted (now : Int) (conn : Nat) (streamKey ticket : Bytes) (publish granted : Bool)

/-- What the closures of `main` refer to. -/
structure Backend where
  authService : AuthService
  rtmpTicketManager : RtmpTicketManager := {}
  log : List Deed := []

/-- The services at the start of `main`. -/
def Backend.init (config : Config) : Backend := { authService := ⟨.init config.hash, {}⟩ }

/-! ### Answers -/

def authErrorCode : AuthError → Int
  | .kOk => 0
  | .kBadRequest => 1000
  | .kInvalidCredentials => 1001
  | .kUnauthorized => 1002
  | .kTokenExpired => 1004
  | .kUserDisabled => 1005
  | .kUnsupportedRole => 1006

def makeLoginData (session : AuthSession) : Bytes :=
  ascii "\x7b" ++ makeField (ascii "token") session.token ++ ascii "," ++
    makeField (ascii "userId") session.userId ++ ascii "," ++
    makeField (ascii "username") session.username ++ ascii "," ++
    makeField (ascii "role") (roleToString session.role) ++ ascii "," ++
    makeNumberField (ascii "expireAt") session.expireAt ++ ascii "\x7d"

def makeUserData (session : AuthSession) : Bytes :=
  ascii "\x7b" ++ makeField (ascii "userId") session.userId ++ ascii "," ++
    makeField (ascii "username") session.username ++ ascii "," ++
    makeField (ascii "role") (roleToString session.role) ++ ascii "\x7d"

/-- `kPrefix` of `getBearerToken`. -/
def kPrefix : Bytes := ascii "Bearer "

def getBearerToken (request : HttpRequest) : Option Bytes :=
  let authorization := request.getHeader (ascii "Authorization")
  if authorization.length ≤ kPrefix.length ∨ authorization.take kPrefix.length ≠ kPrefix then none
  else some (authorization.drop kPrefix.length)

def setJson (response : HttpResponse) (status : HttpStatusCode) (statusMessage body : Bytes) :
    HttpResponse :=
  { response.setContentType (ascii "application/json") with
    statusCode := status
    statusMessage := statusMessage
    body := body }

def setUnauthorized (response : HttpResponse) : HttpResponse :=
  setJson response .k401Unauthorized (ascii "Unauthorized")
    (makeError (authErrorCode .kUnauthorized) (authErrorMessage .kUnauthorized))

/-- The answer to a body that is not what a handler expects. -/
def setBadRequest (response : HttpResponse) : HttpResponse :=
  setJson response .k400BadRequest (ascii "Bad Request") (makeError 1000 (ascii "bad request"))

/-- The answer of a request that succeeds. -/
def setOk (response : HttpResponse) (dataJson : Bytes) : HttpResponse :=
  setJson response .k200Ok (ascii "OK") (makeOk dataJson)

/-! ### Handlers -/

/-- `/api/health`. -/
def apiHealth : Handler Backend := fun s _ response =>
  some (s, setOk response (ascii "\x7b\"service\":\"login_server\"\x7d"))

/-- `/api/login`. -/
def apiLogin (config : Config) (sources : Sources) : Handler Backend := fun s request response =>
  match parseJsonObject request.body with
  | none => some (s, setBadRequest response)
  | some body =>
      match body.getString (ascii "username"), body.getString (ascii "password"),
        body.getString (ascii "role") with
      | some username, some password, some roleText =>
          let now := sources.clock 0
          (s.authService.login config.hash now sources.drawn username password
            (roleFromString roleText)).map fun (authService, result) =>
              let s := { s with authService := authService }
              if result.error ≠ .kOk then
                (s, setJson response .k200Ok (ascii "OK")
                  (makeError (authErrorCode result.error) (authErrorMessage result.error)))
              else
                let l : Login :=
                  ⟨now, username, password, roleFromString roleText, result.session⟩
                ({ s with log := s.log ++ [.loggedIn request l] },
                  setOk response (makeLoginData result.session))
      | _, _, _ => some (s, setBadRequest response)

/-- `/api/me`. -/
def apiMe (sources : Sources) : Handler Backend := fun s request response =>
  match getBearerToken request with
  | none => some (s, setUnauthorized response)
  | some token =>
      match s.authService.verifyToken (sources.clock 0) token with
      | (authService, none) => some ({ s with authService := authService }, setUnauthorized response)
      | (authService, some session) =>
          some ({ s with authService := authService }, setOk response (makeUserData session))

/-- `/api/logout`. -/
def apiLogout : Handler Backend := fun s request response =>
  match getBearerToken request with
  | none => some (s, setUnauthorized response)
  | some token =>
      match s.authService.logout token with
      | (authService, false) => some ({ s with authService := authService }, setUnauthorized response)
      | (authService, true) =>
          some ({ s with authService := authService, log := s.log ++ [.loggedOut request token] },
            setOk response (ascii "null"))

/-- `/api/rtmp/ticket`. -/
def apiRtmpTicket (config : Config) (sources : Sources) : Handler Backend :=
  fun s request response =>
    match getBearerToken request with
    | none => some (s, setUnauthorized response)
    | some token =>
        let now := sources.clock 0
        match s.authService.verifyToken now token with
        | (authService, none) =>
            some ({ s with authService := authService }, setUnauthorized response)
        | (authService, some session) =>
            let s := { s with authService := authService }
            match parseJsonObject request.body with
            | none => some (s, setBadRequest response)
            | some body =>
                match body.getString (ascii "streamName"), body.getString (ascii "permission") with
                | some streamName, some permissionText =>
                    let later := sources.clock 1
                    (rtmpTicket s.rtmpTicketManager later sources.drawn config.rtmpPort session
                      streamName permissionText).map fun (manager, reply) =>
                        let s := { s with rtmpTicketManager := manager }
                        match reply with
                        | .badRequest => (s, setBadRequest response)
                        | .ok ticket data =>
                            let c : Creation := ⟨later, session, makeStreamKey kRtmpApp streamName,
                              rtmpPermissionFromString permissionText, ticket.ticket⟩
                            ({ s with log := s.log ++ [.issued now request token c] },
                              setOk response data)
                | _, _ => some (s, setBadRequest response)

/-- The registrations of `main`. -/
def router (config : Config) (sources : Sources) : Router Backend :=
  (((((({} : Router Backend).get (ascii "/api/health") apiHealth).post (ascii "/api/login")
    (apiLogin config sources)).get (ascii "/api/me") (apiMe sources)).post (ascii "/api/logout")
    apiLogout).post (ascii "/api/rtmp/ticket") (apiRtmpTicket config sources))

/-! ### What a request comes to -/

/-- The request is a `POST` of this path. -/
def Posts (request : HttpRequest) (path : Bytes) : Prop :=
  request.method = .kPost ∧ request.path = path

/-- The request is a `GET` of this path. -/
def Gets (request : HttpRequest) (path : Bytes) : Prop :=
  request.method = .kGet ∧ request.path = path

/-- What the body of a login says. -/
def Credentials (request : HttpRequest) (username password : Bytes) (role : UserRole) : Prop :=
  ∃ body roleText, parseJsonObject request.body = some body ∧
    body.getString (ascii "username") = some username ∧
    body.getString (ascii "password") = some password ∧
    body.getString (ascii "role") = some roleText ∧ roleFromString roleText = role

/-- What the body of a request for a ticket says. -/
def Wants (request : HttpRequest) (streamName : Bytes) (permission : RtmpPermission) : Prop :=
  ∃ body permissionText, parseJsonObject request.body = some body ∧
    body.getString (ascii "streamName") = some streamName ∧
    body.getString (ascii "permission") = some permissionText ∧
    rtmpPermissionFromString permissionText = permission

/-- The status lines of the answers. -/
def statusLines : List (HttpStatusCode × Bytes) := [
  (.k200Ok, ascii "OK"),
  (.k400BadRequest, ascii "Bad Request"),
  (.k401Unauthorized, ascii "Unauthorized"),
  (.k404NotFound, ascii "Not Found")]

/-- An answer with an error: its code is not that of success, and its message is plain ASCII. -/
def Refusal (response answer : HttpResponse) : Prop :=
  ∃ status statusMessage code message, (status, statusMessage) ∈ statusLines ∧ code ≠ 0 ∧
    (∀ b ∈ message, 32 ≤ b ∧ b < 0x80) ∧
    answer = setJson response status statusMessage (makeError code message)

/-- What a request comes to: the services and the answer. -/
inductive Effect (config : Config) (sources : Sources) (s : Backend) (request : HttpRequest)
    (response : HttpResponse) : Backend → HttpResponse → Prop where
  | refused {answer : HttpResponse} (refusal : Refusal response answer) :
      Effect config sources s request response s answer
  | refusedVerified {answer : HttpResponse} (token : Bytes) (refusal : Refusal response answer) :
      Effect config sources s request response
        { s with authService := (s.authService.verifyToken (sources.clock 0) token).1 } answer
  | healthy (got : Gets request (ascii "/api/health")) : Effect config sources s request response s
      (setOk response (ascii "\x7b\"service\":\"login_server\"\x7d"))
  | user {token : Bytes} {session : AuthSession} (got : Gets request (ascii "/api/me"))
      (bearer : getBearerToken request = some token)
      (verified : (s.authService.verifyToken (sources.clock 0) token).2 = some session) :
      Effect config sources s request response
        { s with authService := (s.authService.verifyToken (sources.clock 0) token).1 }
        (setOk response (makeUserData session))
  | loggedIn {username password : Bytes} {role : UserRole} {authService : AuthService}
      {result : AuthResult} (posted : Posts request (ascii "/api/login"))
      (credentials : Credentials request username password role)
      (returned : s.authService.login config.hash (sources.clock 0) sources.drawn username password
        role = some (authService, result)) (ok : result.error = .kOk) :
      Effect config sources s request response
        { s with
          authService := authService
          log := s.log ++ [.loggedIn request
            ⟨sources.clock 0, username, password, role, result.session⟩] }
        (setOk response (makeLoginData result.session))
  | loggedOut {token : Bytes} (posted : Posts request (ascii "/api/logout"))
      (bearer : getBearerToken request = some token)
      (ended : (s.authService.logout token).2 = true) :
      Effect config sources s request response
        { s with
          authService := (s.authService.logout token).1
          log := s.log ++ [.loggedOut request token] }
        (setOk response (ascii "null"))
  | issued {token streamName permissionText data : Bytes} {session : AuthSession}
      {manager : RtmpTicketManager} {ticket : RtmpTicket}
      (posted : Posts request (ascii "/api/rtmp/ticket"))
      (bearer : getBearerToken request = some token)
      (verified : (s.authService.verifyToken (sources.clock 0) token).2 = some session)
      (wants : Wants request streamName (rtmpPermissionFromString permissionText))
      (returned : rtmpTicket s.rtmpTicketManager (sources.clock 1) sources.drawn config.rtmpPort
        session streamName permissionText = some (manager, .ok ticket data)) :
      Effect config sources s request response
        { s with
          authService := (s.authService.verifyToken (sources.clock 0) token).1
          rtmpTicketManager := manager
          log := s.log ++ [.issued (sources.clock 0) request token
            ⟨sources.clock 1, session, makeStreamKey kRtmpApp streamName,
              rtmpPermissionFromString permissionText, ticket.ticket⟩] }
        (setOk response data)

section Handlers

variable {config : Config} {sources : Sources} {s s' : Backend} {request : HttpRequest}
  {response answer : HttpResponse}

theorem refusal_badRequest : Refusal response (setBadRequest response) :=
  ⟨_, _, 1000, _, by simp [statusLines], by decide, by simp [ascii], rfl⟩

theorem refusal_unauthorized : Refusal response (setUnauthorized response) :=
  ⟨_, _, 1002, _, by simp [statusLines], by decide, by simp [authErrorMessage, ascii], rfl⟩

theorem refusal_notFound : Refusal response (Router.notFound response) :=
  ⟨_, _, 404, _, by simp [statusLines], by decide, by simp [ascii], rfl⟩

theorem refusal_error {error : AuthError} (h : error ≠ .kOk) : Refusal response
    (setJson response .k200Ok (ascii "OK")
      (makeError (authErrorCode error) (authErrorMessage error))) := by
  refine ⟨_, _, authErrorCode error, _, by simp [statusLines], ?_, ?_, rfl⟩
  · cases error with
    | kOk => exact absurd rfl h
    | _ => decide
  · cases error <;> simp [authErrorMessage, ascii]

theorem apiLogin_effect (posted : Posts request (ascii "/api/login"))
    (h : apiLogin config sources s request response = some (s', answer)) :
    Effect config sources s request response s' answer := by
  unfold apiLogin at h
  split at h
  · cases h
    exact .refused refusal_badRequest
  · rename_i body hbody
    split at h
    · rename_i username password roleText husername hpassword hrole
      obtain ⟨⟨authService, result⟩, hlogin, hanswer⟩ := Option.map_eq_some_iff.mp h
      dsimp only at hanswer
      split at hanswer
      · rename_i hfailed
        rcases AuthService.login_cases hlogin with ⟨-, rfl⟩ | ⟨hok, -⟩
        · cases hanswer
          exact .refused (refusal_error hfailed)
        · exact absurd hok hfailed
      · rename_i hok
        cases hanswer
        exact .loggedIn posted ⟨body, roleText, hbody, husername, hpassword, hrole, rfl⟩ hlogin
          (not_not.mp hok)
    · cases h
      exact .refused refusal_badRequest

theorem apiMe_effect (got : Gets request (ascii "/api/me"))
    (h : apiMe sources s request response = some (s', answer)) :
    Effect config sources s request response s' answer := by
  unfold apiMe at h
  split at h
  · cases h
    exact .refused refusal_unauthorized
  · rename_i token hbearer
    split at h
    · rename_i authService hverify
      have heffect : Effect config sources s request response
          { s with authService := (s.authService.verifyToken (sources.clock 0) token).1 }
          (setUnauthorized response) := .refusedVerified token refusal_unauthorized
      rw [hverify] at heffect
      cases h
      exact heffect
    · rename_i authService session hverify
      have heffect : Effect config sources s request response
          { s with authService := (s.authService.verifyToken (sources.clock 0) token).1 }
          (setOk response (makeUserData session)) := .user got hbearer (by rw [hverify])
      rw [hverify] at heffect
      cases h
      exact heffect

/-- A logout that ends no session changes nothing. -/
theorem logout_of_false {s : AuthService} {token : Bytes} (h : (s.logout token).2 = false) :
    (s.logout token).1 = s := by
  unfold AuthService.logout at h ⊢
  split
  · rfl
  · rename_i hne
    rw [if_neg hne] at h
    have hnone : s.tokenManager.sessions token = none := by
      simpa [TokenManager.remove] using h
    have hsame : Function.update s.tokenManager.sessions token none = s.tokenManager.sessions := by
      rw [← hnone, Function.update_eq_self]
    simp only [TokenManager.remove, hsame]

/-- A logout that ends a session. -/
theorem held_of_logout {s : AuthService} {token : Bytes} (h : (s.logout token).2 = true) :
    ∃ session, s.tokenManager.sessions token = some session := by
  unfold AuthService.logout at h
  split at h
  · cases h
  · exact Option.isSome_iff_exists.mp h

theorem apiLogout_effect (posted : Posts request (ascii "/api/logout"))
    (h : apiLogout s request response = some (s', answer)) :
    Effect config sources s request response s' answer := by
  unfold apiLogout at h
  split at h
  · cases h
    exact .refused refusal_unauthorized
  · rename_i token hbearer
    split at h
    · rename_i authService hlogout
      have hended : (s.authService.logout token).2 = false := by rw [hlogout]
      have hsame : authService = s.authService := by
        have hstate := logout_of_false hended
        rwa [hlogout] at hstate
      cases h
      rw [hsame]
      exact .refused refusal_unauthorized
    · rename_i authService hlogout
      have hended : (s.authService.logout token).2 = true := by rw [hlogout]
      have heffect : Effect config sources s request response
          { s with
            authService := (s.authService.logout token).1
            log := s.log ++ [.loggedOut request token] }
          (setOk response (ascii "null")) := .loggedOut posted hbearer hended
      rw [hlogout] at heffect
      cases h
      exact heffect

/-- What the tickets come to when the request is rejected: nothing. -/
theorem rtmpTicket_badRequest {m m' : RtmpTicketManager} {now : Int}
    {drawn : List (UInt64 × UInt64)} {rtmpPort : UInt16} {session : AuthSession}
    {streamName permissionText : Bytes}
    (h : rtmpTicket m now drawn rtmpPort session streamName permissionText =
      some (m', .badRequest)) : m' = m := by
  unfold rtmpTicket at h
  split at h
  · cases h
    rfl
  · dsimp only at h
    split at h
    · cases h
      rfl
    · obtain ⟨created, -, hanswer⟩ := Option.map_eq_some_iff.mp h
      cases hanswer

theorem apiRtmpTicket_effect (posted : Posts request (ascii "/api/rtmp/ticket"))
    (h : apiRtmpTicket config sources s request response = some (s', answer)) :
    Effect config sources s request response s' answer := by
  unfold apiRtmpTicket at h
  split at h
  · cases h
    exact .refused refusal_unauthorized
  · rename_i token hbearer
    dsimp only at h
    have hrefused {refusal : HttpResponse} (h : Refusal response refusal) :
        Effect config sources s request response
          { s with authService := (s.authService.verifyToken (sources.clock 0) token).1 } refusal :=
      .refusedVerified token h
    split at h
    · rename_i authService hverify
      rw [hverify] at hrefused
      cases h
      exact hrefused refusal_unauthorized
    · rename_i authService session hverify
      have hsession : (s.authService.verifyToken (sources.clock 0) token).2 = some session := by
        rw [hverify]
      rw [hverify] at hrefused
      split at h
      · cases h
        exact hrefused refusal_badRequest
      · rename_i body hbody
        split at h
        · rename_i streamName permissionText hname hpermission
          obtain ⟨⟨manager, reply⟩, hreturned, hanswer⟩ := Option.map_eq_some_iff.mp h
          cases reply with
          | badRequest =>
              obtain rfl := rtmpTicket_badRequest hreturned
              cases hanswer
              exact hrefused refusal_badRequest
          | ok ticket data =>
              cases hanswer
              have hstate : authService =
                  (s.authService.verifyToken (sources.clock 0) token).1 := by rw [hverify]
              rw [hstate]
              exact .issued posted hbearer hsession
                ⟨body, permissionText, hbody, hname, hpermission, rfl⟩ hreturned
        · cases h
          exact hrefused refusal_badRequest

/-- The registrations as a list. -/
def routes (config : Config) (sources : Sources) : List (Router.Route Backend) := [
  ⟨.kGet, ascii "/api/health", apiHealth⟩,
  ⟨.kPost, ascii "/api/login", apiLogin config sources⟩,
  ⟨.kGet, ascii "/api/me", apiMe sources⟩,
  ⟨.kPost, ascii "/api/logout", apiLogout⟩,
  ⟨.kPost, ascii "/api/rtmp/ticket", apiRtmpTicket config sources⟩]

theorem router_eq (config : Config) (sources : Sources) :
    router config sources = Router.addRoutes {} (routes config sources) := rfl

/-- **What the routes of `main` come to.** -/
theorem route_effect (h : (router config sources).route s request response = some (s', answer)) :
    Effect config sources s request response s' answer := by
  rw [router_eq] at h
  rcases Router.route_cases h with ⟨rfl, rfl⟩ | ⟨r, hr, hmethod, hpath, hanswered⟩
  · exact .refused refusal_notFound
  · simp only [routes, List.mem_cons, List.not_mem_nil, or_false] at hr
    rcases hr with rfl | rfl | rfl | rfl | rfl
    · cases hanswered
      exact .healthy ⟨hmethod, hpath⟩
    · exact apiLogin_effect ⟨hmethod, hpath⟩ hanswered
    · exact apiMe_effect ⟨hmethod, hpath⟩ hanswered
    · exact apiLogout_effect ⟨hmethod, hpath⟩ hanswered
    · exact apiRtmpTicket_effect ⟨hmethod, hpath⟩ hanswered

end Handlers

end Rmuduo.Auth.LoginServer
