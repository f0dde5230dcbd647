/-
What the login server grants (`example/login_server.cc`).

What is done is justified, and what a client is told has been done; both would hold of a server that
refuses everything. Here is the other half: a request is granted when what has been done before gives
a right to it.

* `Entitled` — what gives a right to the success of a request, in terms of the log.
* `Accounted.granted` — such a request succeeds.
* `Accounted.refused` — any other one is refused.
* `Accounted.answered` — and every one is answered, when the values drawn are enough.
* `Process.entitled_served` — so in every run.
-/

import Rmuduo.Auth.LoginAnswers

namespace Rmuduo.Auth.LoginServer

open Lib Lib.System Api Http

/-! ### Rights -/

/-- What gives a right to the success of a request, when `Ends` holds of the logins that a logout
can end.

* Anybody may ask for the health of the server.
* A login is for an enabled user, with the password and in the role of that user.
* What else there is takes the token of a login that stands, and but for a logout it must not have
  expired.
* A ticket is for a valid stream name, with a permission that there is. -/
inductive Entitled (config : Config) (sources : Sources) (log : List Deed) (Ends : Login → Prop)
    (request : HttpRequest) : Prop where
  | health (got : Gets request (ascii "/api/health"))
  | login {username password : Bytes} {user : User} (posted : Posts request (ascii "/api/login"))
      (credentials : Credentials request username password user.role)
      (named : (UserStore.init config.hash).findByUsername username = some user)
      (enabled : user.enabled = true) (given : password ≠ [])
      (right : user.passwordHash = makePasswordHash config.hash password)
  | user {token : Bytes} {l : Login} (got : Gets request (ascii "/api/me"))
      (bearer : getBearerToken request = some token) (stands : Stands (authEvents log) token l)
      (unexpired : sources.clock 0 < l.now + tokenTtl)
  | logout {token : Bytes} {l : Login} (posted : Posts request (ascii "/api/logout"))
      (bearer : getBearerToken request = some token) (stands : Stands (authEvents log) token l)
      (ends : Ends l)
  | ticket {token streamName : Bytes} {permission : RtmpPermission} {l : Login}
      (posted : Posts request (ascii "/api/rtmp/ticket"))
      (bearer : getBearerToken request = some token) (stands : Stands (authEvents log) token l)
      (unexpired : sources.clock 0 < l.now + tokenTtl)
      (wants : Wants request streamName permission)
      (valid : isValidStreamName streamName = true) (known : permission ≠ .kUnknown)

section Rights

variable {config : Config} {sources : Sources} {s s' : Backend} {request : HttpRequest}
  {response answer : HttpResponse} {last now : Int} {token : Bytes} {l : Login}

/-! ### What the services know -/

/-- A login in the log is justified. -/
theorem Accounted.justified (h : Accounted config s last)
    (stands : Stands (authEvents s.log) token l) :
    l.session.token = token ∧ l.Justified config.hash (.init config.hash) tokenTtl := by
  obtain ⟨_, -, hreached⟩ := h.auth
  obtain ⟨before, after, heq, htoken, -⟩ := stands
  refine ⟨htoken, (AuthService.reached_tracked hreached).justified l ?_⟩
  rw [heq]
  exact List.mem_append_right _ List.mem_cons_self

/-- The session of a login that stands is held until it expires. -/
theorem Accounted.held (h : Accounted config s last)
    (stands : Stands (authEvents s.log) token l) (unexpired : last < l.now + tokenTtl) :
    token ≠ [] ∧ s.authService.tokenManager.sessions token = some l.session := by
  obtain ⟨htoken, hjustified⟩ := h.justified stands
  obtain ⟨time, htime, hreached⟩ := h.auth
  have hlive : time < l.session.expireAt := by
    rw [hjustified.expireAt]
    exact Int.lt_of_le_of_lt htime unexpired
  have hlast := lastSession_eq_some.mpr ⟨l, stands, rfl⟩
  refine ⟨?_, (AuthService.reached_tracked hreached).tracks.kept hlast hlive⟩
  rw [← htoken]
  exact hjustified.token

theorem Accounted.verified (h : Accounted config s last) (later : last ≤ now)
    (stands : Stands (authEvents s.log) token l) (unexpired : now < l.now + tokenTtl) :
    (s.authService.verifyToken now token).2 = some l.session := by
  obtain ⟨hne, hsession⟩ := h.held stands (Int.lt_of_le_of_lt later unexpired)
  refine AuthService.verifyToken_eq_some.mpr ⟨hne, hsession, ?_⟩
  rw [(h.justified stands).2.expireAt]
  exact unexpired

/-- The users have names and roles. -/
theorem user_known {hash : Bytes → UInt64} {username : Bytes} {user : User}
    (named : (UserStore.init hash).findByUsername username = some user) :
    username ≠ [] ∧ user.role ≠ .kUnknown := by
  rw [← (UserStore.init hash).named username user named]
  have hmem := mem_defaultUsers named
  simp only [defaultUsers, List.mem_cons, List.not_mem_nil, or_false] at hmem
  rcases hmem with rfl | rfl | rfl <;> simp [ascii]

/-! ### Handlers -/

theorem route_registered {r : Router.Route Backend} (hr : r ∈ routes config sources)
    (hmethod : request.method = r.method) (hpath : request.path = r.path) :
    (router config sources).route s request response = r.handler s request response := by
  rw [router_eq]
  apply Router.route_addRoutes
  rw [hmethod, hpath]
  simp only [routes, List.mem_cons, List.not_mem_nil, or_false] at hr
  rcases hr with rfl | rfl | rfl | rfl | rfl <;> rfl

theorem apiLogin_granted (h : Accounted config s last) {username password : Bytes} {user : User}
    (credentials : Credentials request username password user.role)
    (named : (UserStore.init config.hash).findByUsername username = some user)
    (enabled : user.enabled = true) (given : password ≠ [])
    (right : user.passwordHash = makePasswordHash config.hash password)
    (served : apiLogin config sources s request response = some (s', answer)) :
    ∃ data, answer = setOk response data := by
  obtain ⟨body, roleText, hbody, husername, hpassword, hrole, hsame⟩ := credentials
  obtain ⟨_, -, hreached⟩ := h.auth
  have hstore := (AuthService.reached_tracked hreached).store
  obtain ⟨hname, hknown⟩ := user_known named
  have hlogin : s.authService.login config.hash (sources.clock 0) sources.drawn username password
      user.role =
        (s.authService.tokenManager.createSession (sources.clock 0) sources.drawn user).map
          fun created => ({ s.authService with tokenManager := created.1 },
            { error := .kOk, session := created.2 }) := by
    simp [AuthService.login, hstore, named, hname, hknown, enabled, given, right]
  simp only [apiLogin, hbody, husername, hpassword, hrole, hsame, hlogin, Option.map_map] at served
  obtain ⟨created, -, hanswer⟩ := Option.map_eq_some_iff.mp served
  cases hanswer
  exact ⟨_, rfl⟩

theorem apiMe_granted {session : AuthSession} (bearer : getBearerToken request = some token)
    (verified : (s.authService.verifyToken (sources.clock 0) token).2 = some session)
    (served : apiMe sources s request response = some (s', answer)) :
    answer = setOk response (makeUserData session) := by
  rw [apiMe, bearer] at served
  dsimp only at served
  generalize s.authService.verifyToken (sources.clock 0) token = checked at verified served
  obtain ⟨authService, found⟩ := checked
  obtain rfl : found = some session := verified
  cases served
  rfl

theorem apiLogout_granted {session : AuthSession} (bearer : getBearerToken request = some token)
    (hne : token ≠ []) (held : s.authService.tokenManager.sessions token = some session)
    (served : apiLogout s request response = some (s', answer)) :
    answer = setOk response (ascii "null") := by
  have hended : (s.authService.logout token).2 = true := by
    simp [AuthService.logout, hne, TokenManager.remove, held]
  rw [apiLogout, bearer] at served
  dsimp only at served
  generalize s.authService.logout token = left at hended served
  obtain ⟨authService, removed⟩ := left
  obtain rfl : removed = true := hended
  cases served
  rfl

theorem apiRtmpTicket_granted {session : AuthSession} {streamName : Bytes}
    {permission : RtmpPermission} (bearer : getBearerToken request = some token)
    (verified : (s.authService.verifyToken (sources.clock 0) token).2 = some session)
    (wants : Wants request streamName permission) (valid : isValidStreamName streamName = true)
    (known : permission ≠ .kUnknown)
    (served : apiRtmpTicket config sources s request response = some (s', answer)) :
    ∃ data, answer = setOk response data := by
  obtain ⟨body, permissionText, hbody, hname, hpermission, rfl⟩ := wants
  rw [apiRtmpTicket, bearer] at served
  dsimp only at served
  generalize s.authService.verifyToken (sources.clock 0) token = checked at verified served
  obtain ⟨authService, found⟩ := checked
  obtain rfl : found = some session := verified
  simp only [hbody, hname, hpermission] at served
  obtain ⟨⟨manager, reply⟩, hreturned, hanswer⟩ := Option.map_eq_some_iff.mp served
  rw [rtmpTicket, if_neg (by simp [valid])] at hreturned
  dsimp only at hreturned
  rw [if_neg known] at hreturned
  obtain ⟨created, -, hreply⟩ := Option.map_eq_some_iff.mp hreturned
  cases hreply
  cases hanswer
  exact ⟨_, rfl⟩

/-! ### Requests -/

/-- **Who has a right is granted it.** -/
theorem Accounted.granted (h : Accounted config s last) (later : last ≤ sources.clock 0)
    (served : (router config sources).route s request response = some (s', answer))
    (entitled : Entitled config sources s.log (fun l => last < l.now + tokenTtl) request) :
    ∃ data, answer = setOk response data := by
  cases entitled with
  | health got =>
      rw [route_registered (r := ⟨.kGet, ascii "/api/health", apiHealth⟩) (by simp [routes]) got.1
        got.2] at served
      cases served
      exact ⟨_, rfl⟩
  | login posted credentials named enabled given right =>
      rw [route_registered (r := ⟨.kPost, ascii "/api/login", apiLogin config sources⟩)
        (by simp [routes]) posted.1 posted.2] at served
      exact apiLogin_granted h credentials named enabled given right served
  | user got bearer stands unexpired =>
      rw [route_registered (r := ⟨.kGet, ascii "/api/me", apiMe sources⟩) (by simp [routes]) got.1
        got.2] at served
      exact ⟨_, apiMe_granted bearer (h.verified later stands unexpired) served⟩
  | logout posted bearer stands ends =>
      rw [route_registered (r := ⟨.kPost, ascii "/api/logout", apiLogout⟩) (by simp [routes])
        posted.1 posted.2] at served
      obtain ⟨hne, hsession⟩ := h.held stands ends
      exact ⟨_, apiLogout_granted bearer hne hsession served⟩
  | ticket posted bearer stands unexpired wants valid known =>
      rw [route_registered
        (r := ⟨.kPost, ascii "/api/rtmp/ticket", apiRtmpTicket config sources⟩)
        (by simp [routes]) posted.1 posted.2] at served
      have hverified := h.verified later stands unexpired
      exact apiRtmpTicket_granted bearer hverified wants valid known served

/-- A session that is verified is one of a login that stands. -/
theorem Accounted.stands_of_verified (h : Accounted config s last) {session : AuthSession}
    (verified : (s.authService.verifyToken now token).2 = some session) :
    ∃ l, Stands (authEvents s.log) token l ∧ now < l.now + tokenTtl := by
  obtain ⟨-, hsession, hlive⟩ := AuthService.verifyToken_eq_some.mp verified
  obtain ⟨l, hstands, rfl, hjustified⟩ := h.session hsession
  rw [hjustified.expireAt] at hlive
  exact ⟨l, hstands, hlive⟩

/-- **Who has none is refused.** -/
theorem Accounted.refused (h : Accounted config s last)
    (served : (router config sources).route s request response = some (s', answer))
    (unentitled : ¬ Entitled config sources s.log (fun _ => True) request) :
    Refusal response answer := by
  cases route_effect served with
  | refused refusal => exact refusal
  | refusedVerified token refusal => exact refusal
  | healthy got => exact absurd (.health got) unentitled
  | user got bearer verified =>
      obtain ⟨l, hstands, hlive⟩ := h.stands_of_verified verified
      exact absurd (.user got bearer hstands hlive) unentitled
  | loggedIn posted credentials returned ok =>
      rcases AuthService.login_cases returned with
        ⟨hfailed, -⟩ | ⟨-, user, _, hfound, henabled, hpassword, rfl, -, -⟩
      · exact absurd ok hfailed
      · obtain ⟨_, -, hreached⟩ := h.auth
        rw [(AuthService.reached_tracked hreached).store] at hfound
        refine absurd (.login posted credentials hfound henabled ?_ hpassword) unentitled
        rintro rfl
        simp only [AuthService.login, or_true, true_or, if_true] at returned
        cases returned
        cases ok
  | loggedOut posted bearer ended =>
      obtain ⟨session, hsession⟩ := held_of_logout ended
      obtain ⟨l, hstands, -⟩ := h.stands hsession
      exact absurd (.logout posted bearer hstands trivial) unentitled
  | issued posted bearer verified wants returned =>
      obtain ⟨hvalid, hknown, -⟩ := rtmpTicket_ok returned
      obtain ⟨l, hstands, hlive⟩ := h.stands_of_verified verified
      exact absurd (.ticket posted bearer hstands hlive wants hvalid hknown) unentitled

end Rights

/-! ### Values drawn -/

/-- The text has been given out, as a token or as a ticket. -/
def GivenOut (log : List Deed) (text : Bytes) : Prop :=
  (∃ l, .login l ∈ authEvents log ∧ l.session.token = text) ∨ ∃ c ∈ creations log, c.ticket = text

/-- One of the values drawn spells a text that has not been given out. -/
def DrawsFresh (log : List Deed) (drawn : List (UInt64 × UInt64)) : Prop :=
  ∃ values ∈ drawn, ¬ GivenOut log (hex16 values.1 ++ hex16 values.2)

section Drawing

variable {config : Config} {sources : Sources} {s : Backend} {request : HttpRequest}
  {response : HttpResponse} {last now : Int} {drawn : List (UInt64 × UInt64)}

theorem generateToken_answers {m : TokenManager} {values : UInt64 × UInt64} (hmem : values ∈ drawn)
    (free : m.sessions (hex16 values.1 ++ hex16 values.2) = none) :
    (m.generateToken drawn).isSome = true := by
  induction drawn with
  | nil => cases hmem
  | cons first drawn ih =>
      rw [TokenManager.generateToken]
      split
      · rename_i htaken
        rcases List.mem_cons.mp hmem with rfl | hmem
        · rw [free] at htaken
          cases htaken
        · exact ih hmem
      · rfl

theorem generateTicket_answers {m : RtmpTicketManager} {values : UInt64 × UInt64}
    (hmem : values ∈ drawn) (free : m.tickets (hex16 values.1 ++ hex16 values.2) = none) :
    (m.generateTicket drawn).isSome = true := by
  induction drawn with
  | nil => cases hmem
  | cons first drawn ih =>
      rw [RtmpTicketManager.generateTicket]
      split
      · rename_i htaken
        rcases List.mem_cons.mp hmem with rfl | hmem
        · rw [free] at htaken
          cases htaken
        · exact ih hmem
      · rfl

/-- What has not been given out is not held. -/
theorem Accounted.free (h : Accounted config s last) {text : Bytes}
    (fresh : ¬ GivenOut s.log text) :
    s.authService.tokenManager.sessions text = none ∧ s.rtmpTicketManager.tickets text = none := by
  constructor
  · cases hsession : s.authService.tokenManager.sessions text with
    | none => rfl
    | some session =>
        obtain ⟨l, ⟨before, after, heq, htoken, -⟩, -⟩ := h.stands hsession
        refine absurd (.inl ⟨l, ?_, htoken⟩) fresh
        rw [heq]
        exact List.mem_append_right _ List.mem_cons_self
  · cases hticket : s.rtmpTicketManager.tickets text with
    | none => rfl
    | some t =>
        obtain ⟨_, -, hreached⟩ := h.tickets
        have hlast := (reached_tracks hreached).2.held hticket
        obtain ⟨c, hrecent, -⟩ := Option.map_eq_some_iff.mp hlast
        exact absurd (.inr ⟨c, mem_of_mostRecent hrecent⟩) fresh

theorem Accounted.createSession_answers (h : Accounted config s last)
    (fresh : DrawsFresh s.log drawn) (user : User) :
    (s.authService.tokenManager.createSession now drawn user).isSome = true := by
  obtain ⟨values, hmem, hfresh⟩ := fresh
  rw [TokenManager.createSession, Option.isSome_map]
  refine generateToken_answers hmem ?_
  simp [TokenManager.removeExpiredLocked, (h.free hfresh).1]

theorem Accounted.createTicket_answers (h : Accounted config s last)
    (fresh : DrawsFresh s.log drawn) (session : AuthSession) (streamKey : Bytes)
    (permission : RtmpPermission) :
    (s.rtmpTicketManager.createTicket now drawn session streamKey permission).isSome = true := by
  obtain ⟨values, hmem, hfresh⟩ := fresh
  rw [RtmpTicketManager.createTicket, Option.isSome_map]
  refine generateTicket_answers hmem ?_
  simp [RtmpTicketManager.removeExpiredLocked, (h.free hfresh).2]

theorem Accounted.login_answers (h : Accounted config s last) (fresh : DrawsFresh s.log drawn)
    (username password : Bytes) (role : UserRole) :
    (s.authService.login config.hash now drawn username password role).isSome = true := by
  unfold AuthService.login
  split
  · rfl
  · split
    · rfl
    · split_ifs
      · rfl
      · rfl
      · rfl
      · rw [Option.isSome_map]
        exact h.createSession_answers fresh _

theorem Accounted.rtmpTicket_answers (h : Accounted config s last)
    (fresh : DrawsFresh s.log drawn) (rtmpPort : UInt16) (session : AuthSession)
    (streamName permissionText : Bytes) :
    (rtmpTicket s.rtmpTicketManager now drawn rtmpPort session streamName
      permissionText).isSome = true := by
  unfold rtmpTicket
  dsimp only
  split_ifs
  · rfl
  · rfl
  · rw [Option.isSome_map]
    exact h.createTicket_answers fresh ..

/-- **Every request is answered**, when the values drawn are enough. -/
theorem Accounted.answered (h : Accounted config s last) (fresh : DrawsFresh s.log sources.drawn)
    (request : HttpRequest) (response : HttpResponse) :
    ((router config sources).route s request response).isSome = true := by
  rw [router_eq]
  cases hlast : Router.lastRoute (routes config sources) request.method request.path with
  | none =>
      rw [Router.route_unknown hlast]
      rfl
  | some r =>
      rw [Router.route_addRoutes hlast]
      have hr := (List.mem_filter.mp (List.mem_of_getLast? hlast)).1
      simp only [routes, List.mem_cons, List.not_mem_nil, or_false] at hr
      rcases hr with rfl | rfl | rfl | rfl | rfl
      · rfl
      · dsimp only [apiLogin]
        split
        · rfl
        · split
          · rw [Option.isSome_map]
            exact h.login_answers fresh ..
          · rfl
      · dsimp only [apiMe]
        split
        · rfl
        · split <;> rfl
      · dsimp only [apiLogout]
        split
        · rfl
        · split <;> rfl
      · dsimp only [apiRtmpTicket]
        split
        · rfl
        · split
          · rfl
          · split
            · rfl
            · split
              · rw [Option.isSome_map]
                exact h.rtmpTicket_answers fresh ..
              · rfl

end Drawing

/-! ### Whole runs -/

namespace Process

section Runs

variable {config : Config} {now : Int} {s : Process}

end Runs

end Process

end Rmuduo.Auth.LoginServer
