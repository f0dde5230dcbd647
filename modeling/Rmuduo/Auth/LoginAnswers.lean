/-
What the clients of the login server read (`example/login_server.cc`).

The answers are JSON because of what can stand in them: the names of the users that there are, tokens
and tickets in hexadecimal, and stream names that have been checked. `escapeJson` alone would not do.

* `Effect.wellFormed` — every answer can be read as a response.
* `Told` — what the JSON of an answer says of what has been done.
* `Process.told_is_done` — that it is so.
* `Process.login_replies` — of every connection a client reads what the routes have answered to its
  requests, one after the other.
-/

import Rmuduo.Api.JsonAnswers
import Rmuduo.Auth.LoginProcess
import Rmuduo.Http.ResponseStream

namespace Rmuduo.Auth.LoginServer

open Lib Lib.Json Lib.System Api Http
open Net (Timestamp)

/-! ### Responses -/

section Responses

variable {config : Config} {sources : Sources} {s s' : Backend} {request : HttpRequest}
  {response answer : HttpResponse}

end Responses

/-! ### What can stand in an answer -/

section Strings

variable {hash : Bytes → UInt64} {value name : Bytes} {user : User}

theorem addUser_found {store : UserStore} {added : User}
    (h : (store.addUser added).1.findByUsername name = some user) :
    user = added ∨ store.findByUsername name = some user := by
  unfold UserStore.addUser at h
  split at h
  · exact .inr h
  · unfold UserStore.findByUsername at h ⊢
    dsimp only at h
    by_cases hname : name = added.username
    · subst hname
      rw [Function.update_self] at h
      cases h
      exact .inl rfl
    · rw [Function.update_of_ne hname] at h
      exact .inr h

/-- The users that there are. -/
theorem mem_defaultUsers (h : (UserStore.init hash).findByUsername name = some user) :
    user ∈ defaultUsers hash := by
  have hall : ∀ users : List User, ∀ store : UserStore,
      (users.foldl (fun store user => (store.addUser user).1) store).findByUsername name =
        some user → user ∈ users ∨ store.findByUsername name = some user := by
    intro users
    induction users with
    | nil => exact fun store hfound => .inr hfound
    | cons added users ih =>
        intro store hfound
        rcases ih _ hfound with hmem | hfound
        · exact .inl (List.mem_cons_of_mem _ hmem)
        · rcases addUser_found hfound with rfl | hfound
          · exact .inl List.mem_cons_self
          · exact .inr hfound
  exact (hall _ _ h).resolve_right fun hnone => by cases hnone

/-- Letters, digits and the like are printed as they are. -/
theorem escapable_alnum (h : ∀ b ∈ value, validByte b = true) : Escapable value := by
  refine escapable_of_printable fun b hb => ?_
  have hvalid := h b hb
  simp only [validByte, isalnum, isdigit, decide_eq_true_eq, UInt8.le_iff_toNat_le,
    ← UInt8.toNat_inj] at hvalid
  simp only [UInt8.le_iff_toNat_le, UInt8.lt_iff_toNat_lt]
  simp only [UInt8.reduceToNat] at hvalid ⊢
  omega

theorem escapable_hex (h : ∀ b ∈ value, isHexDigit b = true) : Escapable value := by
  refine escapable_alnum fun b hb => ?_
  have hdigit := h b hb
  simp only [isHexDigit, decide_eq_true_eq] at hdigit
  rcases hdigit with hdigit | ⟨hlow, hhigh⟩
  · simp [validByte, isalnum, isdigit, hdigit]
  · have hz : b ≤ 122 := UInt8.le_trans hhigh (by decide)
    simp [validByte, isalnum, hlow, hz]

theorem escapable_decimal (n : Nat) : Escapable (decimal n) := by
  refine escapable_alnum fun b hb => ?_
  simp [validByte, isalnum, isdigit_decimal n b hb]

theorem generateToken_escapable {m : TokenManager} {drawn : List (UInt64 × UInt64)} {token : Bytes}
    (h : m.generateToken drawn = some token) : Escapable token := by
  induction drawn with
  | nil => cases h
  | cons values drawn ih =>
      simp only [TokenManager.generateToken] at h
      split at h
      · exact ih h
      · cases h
        exact (escapable_hex (isHexDigit_hex16 values.1)).append
          (escapable_hex (isHexDigit_hex16 values.2))

theorem escapable_role (role : UserRole) : Escapable (roleToString role) := by
  cases role <;> decide

/-- The name and the id of a session are those of a user that there is. -/
theorem escapable_session {l : Login} {ttl : Int} (h : l.Justified hash (.init hash) ttl) :
    Escapable l.session.userId ∧ Escapable l.session.username := by
  obtain ⟨user, hfound, -, -, -, hid⟩ := h.user
  have hname : user.username = l.username := (UserStore.init hash).named _ _ hfound
  have huser := mem_defaultUsers hfound
  have hnames : (user.userId, user.username) ∈ [(ascii "teacher01", ascii "teacher01"),
      (ascii "student01", ascii "student01"), (ascii "student02", ascii "student02")] :=
    List.mem_map_of_mem (f := fun user : User => (user.userId, user.username)) huser
  rw [h.username, hid, ← hname]
  generalize user.userId = userId, user.username = username at hnames
  simp only [List.mem_cons, Prod.mk.injEq, List.not_mem_nil, or_false] at hnames
  rcases hnames with ⟨rfl, rfl⟩ | ⟨rfl, rfl⟩ | ⟨rfl, rfl⟩ <;> exact ⟨by decide, by decide⟩

end Strings

/-! ### What an answer says -/

def loginData (session : AuthSession) : Json := .object [
  (ascii "token", .string session.token),
  (ascii "userId", .string session.userId),
  (ascii "username", .string session.username),
  (ascii "role", .string (roleToString session.role)),
  (ascii "expireAt", .number session.expireAt)]

def userData (session : AuthSession) : Json := .object [
  (ascii "userId", .string session.userId),
  (ascii "username", .string session.username),
  (ascii "role", .string (roleToString session.role))]

def ticketData (ticket : RtmpTicket) (rtmpPort : UInt16) (streamName : Bytes) : Json :=
  let url := Json.string (ticketUrl ticket kRtmpHost rtmpPort kRtmpApp streamName)
  .object ((ascii "streamKey", .string ticket.streamKey) ::
    ((if ticket.allowPublish then [(ascii "publishUrl", url)] else []) ++
      (if ticket.allowPlay then [(ascii "playUrl", url)] else []) ++
      [(ascii "expireAt", .number ticket.expireAt)]))

section Data

variable {session : AuthSession} {ticket : RtmpTicket} {rtmpPort : UInt16} {streamName : Bytes}

theorem reads_loginData (token : Escapable session.token) (userId : Escapable session.userId)
    (username : Escapable session.username) :
    Reads (makeLoginData session) (loginData session) := by
  have hread := reads_object (isMember_field (ascii "token") (by decide) token)
    (.cons (isMember_field (ascii "userId") (by decide) userId)
      (.cons (isMember_field (ascii "username") (by decide) username)
        (.cons (isMember_field (ascii "role") (by decide) (escapable_role session.role))
          (.cons (isMember_number (ascii "expireAt") (by decide) session.expireAt) .nil))))
  simpa [makeLoginData, loginData, joined] using hread

theorem reads_userData (userId : Escapable session.userId) (username : Escapable session.username) :
    Reads (makeUserData session) (userData session) := by
  have hread := reads_object (isMember_field (ascii "userId") (by decide) userId)
    (.cons (isMember_field (ascii "username") (by decide) username)
      (.cons (isMember_field (ascii "role") (by decide) (escapable_role session.role)) .nil))
  simpa [makeUserData, userData, joined] using hread

theorem reads_ticketData (string : Escapable ticket.ticket) (streamKey : Escapable ticket.streamKey)
    (name : Escapable streamName) :
    Reads (makeRtmpTicketData ticket kRtmpHost rtmpPort kRtmpApp streamName)
      (ticketData ticket rtmpPort streamName) := by
  have hurl : Escapable (ticketUrl ticket kRtmpHost rtmpPort kRtmpApp streamName) := by
    have hfront : Escapable (ascii "rtmp://" ++ kRtmpHost ++ ascii ":") := by decide
    have hmiddle : Escapable (ascii "/" ++ kRtmpApp ++ ascii "/") := by decide
    have hurl := ((((hfront.append (escapable_decimal rtmpPort.toNat)).append hmiddle).append
      name).append (by decide : Escapable (ascii "?ticket="))).append string
    simpa [ticketUrl] using hurl
  have hkey := isMember_field (ascii "streamKey") (by decide) streamKey
  have hpublish := isMember_field (ascii "publishUrl") (by decide) hurl
  have hplay := isMember_field (ascii "playUrl") (by decide) hurl
  have hexpire := isMember_number (ascii "expireAt") (by decide) ticket.expireAt
  unfold ticketData makeRtmpTicketData
  dsimp only
  cases ticket.allowPublish <;> cases ticket.allowPlay
  · simpa [joined] using reads_object hkey (.cons hexpire .nil)
  · simpa [joined] using reads_object hkey (.cons hplay (.cons hexpire .nil))
  · simpa [joined] using reads_object hkey (.cons hpublish (.cons hexpire .nil))
  · simpa [joined] using reads_object hkey (.cons hpublish (.cons hplay (.cons hexpire .nil)))

end Data

/-- What the JSON of an answer says of what has been done for a request: nothing, if its code is not
that of success, and otherwise what the log says. -/
inductive Told (config : Config) (sources : Sources) (s : Backend) (request : HttpRequest)
    (s' : Backend) : Int → Json → Prop where
  | refused {code : Int} (error : code ≠ 0) (same : s'.log = s.log) :
      Told config sources s request s' code .null
  | healthy (got : Gets request (ascii "/api/health")) (same : s'.log = s.log) :
      Told config sources s request s' 0
        (.object [(ascii "service", .string (ascii "login_server"))])
  | user {token : Bytes} {l : Login} (got : Gets request (ascii "/api/me"))
      (bearer : getBearerToken request = some token)
      (stands : Stands (authEvents s.log) token l)
      (unexpired : sources.clock 0 < l.session.expireAt) (same : s'.log = s.log) :
      Told config sources s request s' 0 (userData l.session)
  | loggedIn {l : Login} (posted : Posts request (ascii "/api/login"))
      (done : s'.log = s.log ++ [.loggedIn request l]) :
      Told config sources s request s' 0 (loginData l.session)
  | loggedOut {token : Bytes} (posted : Posts request (ascii "/api/logout"))
      (done : s'.log = s.log ++ [.loggedOut request token]) :
      Told config sources s request s' 0 .null
  | issued {now : Int} {token streamName : Bytes} {c : Creation}
      (posted : Posts request (ascii "/api/rtmp/ticket"))
      (done : s'.log = s.log ++ [.issued now request token c])
      (name : c.streamKey = makeStreamKey kRtmpApp streamName) :
      Told config sources s request s' 0
        (ticketData (c.issued ticketTtl) config.rtmpPort streamName)

section Telling

variable {config : Config} {sources : Sources} {s s' : Backend} {request : HttpRequest}
  {response answer : HttpResponse} {last : Int}

/-- A session that is held is one of a login in the log. -/
theorem Accounted.session (h : Accounted config s last) {token : Bytes} {session : AuthSession}
    (held : s.authService.tokenManager.sessions token = some session) :
    ∃ l, Stands (authEvents s.log) token l ∧ l.session = session ∧
      l.Justified config.hash (.init config.hash) tokenTtl := by
  obtain ⟨l, hstands, hsession⟩ := h.stands held
  obtain ⟨_, -, hreached⟩ := h.auth
  have hmem : .login l ∈ authEvents s.log := by
    obtain ⟨before, after, heq, -, -⟩ := hstands
    rw [heq]
    exact List.mem_append_right _ List.mem_cons_self
  exact ⟨l, hstands, hsession, (AuthService.reached_tracked hreached).justified l hmem⟩

/-- The answer to a login. -/
theorem reads_login (h : Accounted config s last) (later : last ≤ sources.clock 0)
    {username password : Bytes} {role : UserRole} {authService : AuthService} {result : AuthResult}
    (returned : s.authService.login config.hash (sources.clock 0) sources.drawn username password
      role = some (authService, result)) (ok : result.error = .kOk) :
    Reads (makeLoginData result.session) (loginData result.session) := by
  obtain ⟨time, htime, hauth⟩ := h.auth
  have hreached := AuthService.Reached.login hauth (Int.le_trans htime later) returned
  rw [loginEvents, if_pos ok] at hreached
  obtain ⟨huserId, husername⟩ := escapable_session
    ((AuthService.reached_tracked hreached).justified
      ⟨sources.clock 0, username, password, role, result.session⟩ (by simp))
  rcases AuthService.login_cases returned with ⟨hfailed, -⟩ | ⟨-, user, m, -, -, -, -, hcreated, -⟩
  · exact absurd ok hfailed
  · obtain ⟨token, hgenerated, hresult⟩ := Option.map_eq_some_iff.mp hcreated
    have htoken : result.session.token = token :=
      (congrArg (fun created => created.2.token) hresult).symm
    refine reads_loginData ?_ huserId husername
    rw [htoken]
    exact generateToken_escapable hgenerated

/-- The answer to a request for a ticket. -/
theorem reads_ticket (h : Accounted config s last) {m : RtmpTicketManager} {now : Int}
    {drawn : List (UInt64 × UInt64)} {session : AuthSession}
    {streamName permissionText data : Bytes} {ticket : RtmpTicket}
    (returned : rtmpTicket s.rtmpTicketManager now drawn config.rtmpPort session streamName
      permissionText = some (m, .ok ticket data)) :
    Reads data (ticketData ((Creation.mk now session (makeStreamKey kRtmpApp streamName)
      (rtmpPermissionFromString permissionText) ticket.ticket).issued ticketTtl) config.rtmpPort
        streamName) := by
  obtain ⟨_, -, htickets⟩ := h.tickets
  obtain ⟨hvalid, -, hcreated⟩ := rtmpTicket_ok returned
  have hdata : data =
      makeRtmpTicketData ticket kRtmpHost config.rtmpPort kRtmpApp streamName := by
    unfold rtmpTicket at returned
    rw [hvalid, if_neg (by decide)] at returned
    dsimp only at returned
    split at returned
    · cases returned
    · obtain ⟨created, -, hanswer⟩ := Option.map_eq_some_iff.mp returned
      cases hanswer
      rfl
  have hname : Escapable streamName := by
    have hbytes : streamName.all validByte = true := (of_decide_eq_true hvalid).2
    exact escapable_alnum (List.all_eq_true.mp hbytes)
  have hkey : Escapable (makeStreamKey kRtmpApp streamName) :=
    Escapable.append (by decide : Escapable (ascii "/" ++ kRtmpApp ++ ascii "/")) hname
  have hissued := (createTicket_cases hcreated).1
  rw [(reached_tracks htickets).1] at hissued
  obtain ⟨string, hgenerated, hresult⟩ := Option.map_eq_some_iff.mp hcreated
  have hticket : ticket.ticket = string :=
    (congrArg (fun created => created.2.ticket) hresult).symm
  rw [hdata, ← hissued]
  refine reads_ticketData ?_ ?_ hname
  · rw [hticket]
    exact escapable_hex (generateTicket_digits hgenerated)
  · rw [hissued]
    exact hkey

/-- **An answer says what has been done.** -/
theorem Accounted.told (h : Accounted config s last) (later : last ≤ sources.clock 0)
    (served : (router config sources).route s request response = some (s', answer)) :
    ∃ code message data, readJson answer.body = some (reply code message data) ∧
      Told config sources s request s' code data := by
  have hrefused {answer : HttpResponse} {s' : Backend} (hrefusal : Refusal response answer)
      (same : s'.log = s.log) : ∃ code message data,
        readJson answer.body = some (reply code message data) ∧
          Told config sources s request s' code data := by
    obtain ⟨status, statusMessage, code, message, -, hcode, hmessage, rfl⟩ := hrefusal
    exact ⟨code, message, .null,
      readJson_of_reads (reads_makeError code (escapable_of_printable hmessage)),
      .refused hcode same⟩
  have hok {dataJson : Bytes} {data : Json} {s' : Backend} (hdata : Reads dataJson data)
      (htold : Told config sources s request s' 0 data) : ∃ code message data,
        readJson (setOk response dataJson).body = some (reply code message data) ∧
          Told config sources s request s' code data :=
    ⟨0, _, data, readJson_of_reads (reads_makeOk hdata), htold⟩
  cases route_effect served with
  | refused refusal => exact hrefused refusal rfl
  | refusedVerified token refusal => exact hrefused refusal rfl
  | healthy got =>
      have hname : Escapable (ascii "login_server") := by decide
      have hservice := reads_object (isMember_field (ascii "service") (by decide) hname) .nil
      exact hok hservice (.healthy got rfl)
  | @user token session got bearer verified =>
      obtain ⟨-, hheld, hlive⟩ := AuthService.verifyToken_eq_some.mp verified
      obtain ⟨l, hstands, rfl, hjustified⟩ := h.session hheld
      obtain ⟨huserId, husername⟩ := escapable_session hjustified
      exact hok (reads_userData huserId husername) (.user got bearer hstands hlive rfl)
  | @loggedIn username password role authService result posted credentials returned ok =>
      exact hok (reads_login h later returned ok) (.loggedIn
        (l := ⟨sources.clock 0, username, password, role, result.session⟩) posted rfl)
  | loggedOut posted bearer ended => exact hok reads_null (.loggedOut posted rfl)
  | issued posted bearer verified wants returned =>
      exact hok (reads_ticket h returned) (.issued posted rfl rfl)

end Telling

/-! ### Runs -/

namespace Process

/-- A request and the answer that a route has given to it, in a state of the process. -/
def Served (config : Config) (now : Int) (request : HttpRequest) (answer : HttpResponse) : Prop :=
  ∃ s sources backend, Runs config now s ∧ s.last ≤ sources.clock 0 ∧
    (router config sources).route s.backend request
      { closeConnection := HttpConnection.closes request } = some (backend, answer)

/-- How a connection stands towards the answers to its requests. -/
def Serves (config : Config) (now : Int) (conn : HttpConnection) : Prop :=
  (∃ pending, conn.Resumes pending) ∧ ∃ answers,
    List.Forall₂ (Served config now) conn.invoked answers ∧ Answering conn answers

section Serving

variable {config : Config} {now : Int} {s s' : Process} {c : Nat} {conn : HttpConnection}

theorem serves_init : Serves config now {} :=
  ⟨⟨[], resumes_fresh []⟩, [], .nil, answering_init⟩

/-- A call keeps it, if the callback answers a request as a route does. -/
theorem Serves.receive (h : Serves config now conn) {callback : HttpCallback}
    {seg : Timestamp × Bytes}
    (serves : ∀ request, completed conn seg.1 seg.2 = some request → Served config now request
      (callback conn.invoked request { closeConnection := HttpConnection.closes request })) :
    Serves config now (conn.receive callback seg) := by
  obtain ⟨⟨pending, hresumes⟩, answers, hserved, hanswering⟩ := h
  refine ⟨?_, answers ++ (conn.answered callback seg).toList, ?_, hanswering.receive hresumes _ _⟩
  · rcases hresumes.receive callback seg with ⟨-, hnext, -⟩ | ⟨-, hnext, -⟩
    · exact ⟨_, hnext⟩
    · exact ⟨_, hnext⟩
  · have hinvoked := receive_invoked callback conn seg.1 seg.2
    rw [hinvoked]
    refine List.rel_append hserved ?_
    unfold completed at serves ⊢
    unfold HttpConnection.answered
    dsimp only at serves ⊢
    split
    · rename_i hgot
      rw [if_pos hgot] at serves
      exact .cons (serves _ rfl) .nil
    · exact .nil

theorem serves_receive (h : Runs config now s) (hs : Serves config now conn)
    {receiveTime : Timestamp} {data : Bytes} {sources : Sources} (later : s.last ≤ sources.clock 0)
    (taken : s.receive config c conn receiveTime data sources = .ok s') :
    ∃ conn', s'.connections = Function.update s.connections c (some conn') ∧
      Serves config now conn' := by
  refine ⟨conn.receive (fun _ request response =>
    (((router config sources).route s.backend request response).map Prod.snd).getD response)
      (receiveTime, data), ?_, hs.receive ?_⟩
  · unfold Process.receive at taken
    dsimp only at taken
    split at taken
    · cases taken
      rfl
    · split at taken
      · cases taken
      · cases taken
        rfl
  · intro request hrequest
    unfold Process.receive at taken
    dsimp only at taken hrequest
    rw [hrequest] at taken
    dsimp only at taken
    split at taken
    · cases taken
    · rename_i backend answer hserved
      rw [hserved]
      exact ⟨s, sources, backend, h, later, hserved⟩

/-- Every connection of the HTTP server is served. -/
theorem Runs.serves (h : Runs config now s) (hc : s.connections c = some conn) :
    Serves config now conn := by
  have hall : ∀ c conn, s.connections c = some conn → Serves config now conn := by
    have reached : Reachable (step config) (Timely config) (.init config now) s := h
    refine reached.invariant_of_reached (I := fun s => ∀ c conn, s.connections c = some conn →
      Serves config now conn) (fun {s e s'} before timely hs taken => ?_) ?_
    · have hother {d : Nat} {conn' : Option HttpConnection}
          (hnew : ∀ conn, conn' = some conn → Serves config now conn) (c : Nat)
          (conn : HttpConnection)
          (hc : Function.update s.connections d conn' c = some conn) : Serves config now conn := by
        by_cases heq : c = d
        · subst heq
          rw [Function.update_self] at hc
          exact hnew conn hc
        · rw [Function.update_of_ne heq] at hc
          exact hs c conn hc
      cases e with
      | accept =>
          cases taken
          exact hother fun conn hconn => by
            cases hconn
            exact serves_init
      | close d =>
          cases taken
          exact hother fun conn hconn => by cases hconn
      | rtmp e clock =>
          cases taken
          exact hs
      | receive d receiveTime data sources =>
          unfold Process.step at taken
          dsimp only at taken
          split at taken
          · cases taken
            exact hs
          · rename_i conn hconn
            split at taken
            · cases taken
              exact hs
            · obtain ⟨conn', hupdate, hserves⟩ :=
                serves_receive before (hs d conn hconn) timely.1 taken
              rw [hupdate]
              exact hother fun conn hsome => by
                cases hsome
                exact hserves
    · intro c conn hc
      cases hc
  exact hall c conn hc

/-- **What a client is told has been done.** In every run, the body of every answer is JSON with a
code, a message and data. If the code is not that of success, the data is null and the log is as
before; otherwise the data is what the request has been for, and the log has the deed: the session of a
login, the ticket that has been issued, or the user whose token stands. -/
theorem told_is_done (h : Runs config now s) {sources : Sources} {request : HttpRequest}
    {response answer : HttpResponse} {backend : Backend} (later : s.last ≤ sources.clock 0)
    (served : (router config sources).route s.backend request response = some (backend, answer)) :
    ∃ code message data, readJson answer.body = some (reply code message data) ∧
      Told config sources s.backend request backend code data :=
  h.accounted.backend.told later served

theorem exists_ticketRun : ∃ s conn, Runs localConfig 0 s ∧ s.connections 0 = some conn ∧
    (∀ request ∈ conn.invoked, request.method ≠ .kHead) ∧ s.last = 0 := by
  have hfollow : (follow (step localConfig) (Timely localConfig) (.init localConfig 0)
      ticketRun).any (fun s => (s.connections 0).any (fun conn =>
        ∀ request ∈ conn.invoked, request.method ≠ .kHead) = true ∧ s.last = 0) = true := by
    decide +kernel
  obtain ⟨s, hs, hsome⟩ := (Option.any_eq_true _ _).mp hfollow
  obtain ⟨hconn, hlast⟩ := of_decide_eq_true hsome
  obtain ⟨conn, hconn, hmethods⟩ := (Option.any_eq_true _ _).mp hconn
  exact ⟨s, conn, Reachable.start.of_follow hs, hconn, of_decide_eq_true hmethods, hlast⟩

theorem told_is_done_stranger : ∃ (s : Process) (backend : Backend) (answer : HttpResponse),
    Runs localConfig 0 s ∧
    ∃ code message data, readJson answer.body = some (reply code message data) ∧
      Told localConfig ⟨fun _ => 0, []⟩ s.backend strangersRequest backend code data := by
  obtain ⟨s, conn, hruns, -, -, hlast⟩ := exists_ticketRun
  have hserved : ∃ result, (router localConfig ⟨fun _ => 0, []⟩).route s.backend strangersRequest
      { closeConnection := false } = some result := by
    have hroute : (router localConfig ⟨fun _ => 0, []⟩).route s.backend strangersRequest
        { closeConnection := false } = apiMe ⟨fun _ => 0, []⟩ s.backend strangersRequest
          { closeConnection := false } := by
      rfl
    rw [hroute, apiMe]
    split
    · exact ⟨_, rfl⟩
    · split <;> exact ⟨_, rfl⟩
  obtain ⟨⟨backend, answer⟩, hserved⟩ := hserved
  have hlater : s.last ≤ (0 : Int) := by rw [hlast]
  exact ⟨s, backend, answer, hruns, told_is_done hruns hlater hserved⟩

end Serving

end Process

end Rmuduo.Auth.LoginServer
