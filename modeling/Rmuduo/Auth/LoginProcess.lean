/-
The login server (`example/login_server.cc`).

`main` runs an HTTP server and an RTMP server on one loop, so that the process is one state machine:
bytes of HTTP connections become requests to the services, and bytes of RTMP connections become
questions about tickets. What a step takes from outside is the bytes, the readings of the clock and
the random values.

The RTMP server may ask several questions at one event. The model answers all of them from the
tickets that there are at its beginning, and then asks the manager one question after the other;
`consultAll_asked` is why that makes no difference: a question only drops what has expired.

* `login_explained` — everything that the process does is justified by what it has done before.
* `media_traced` — media goes from one connection to another only when both ends can be traced to
  logins.
-/

import Rmuduo.Api.JsonFields
import Rmuduo.Auth.LoginTrace
import Rmuduo.Rtmp.Authorization
import Rmuduo.Rtmp.Questions

namespace Rmuduo.Auth.LoginServer

open Lib Lib.System Api Http Rtmp Rtmp.RtmpServer
open Net (Timestamp)

/-! ### The process -/

/-- The request that new bytes complete, if they do. -/
def completed (conn : HttpConnection) (receiveTime : Timestamp) (data : Bytes) :
    Option HttpRequest :=
  let o := parseRequest receiveTime conn.context (conn.inputBuffer ++ data)
  if o.context.gotAll then some o.context.request else none

/-- The callback is given this request, and no other. -/
theorem receive_invoked (callback : HttpCallback) (conn : HttpConnection)
    (receiveTime : Timestamp) (data : Bytes) :
    (conn.receive callback (receiveTime, data)).invoked =
      conn.invoked ++ (completed conn receiveTime data).toList := by
  unfold completed HttpConnection.receive HttpConnection.onMessage HttpConnection.shutdown
  dsimp only
  split_ifs <;> simp_all

/-- The locals of `main`, with the connections of the HTTP server. The time of the last reading of the
clock is read by no function of the source. -/
structure Process where
  backend : Backend
  connections : Nat → Option HttpConnection := fun _ => none
  nextConn : Nat := 0
  rtmpServer : RtmpServer := {}
  last : Int

def Process.init (config : Config) (now : Int) : Process where
  backend := .init config
  last := now

inductive ProcessEvent where
  /-- A connection comes to the HTTP server, brings bytes, or goes. -/
  | accept
  | receive (c : Nat) (receiveTime : Timestamp) (data : Bytes) (sources : Sources)
  | close (c : Nat)
  /-- An event of the RTMP server, with the readings of the clock. -/
  | rtmp (e : NetEvent) (clock : Nat → Int)

/-- The values drawn have not been enough. -/
inductive Exhausted where
  | drawn

namespace Process

/-- What the RTMP server finds outside of it. -/
def environment (config : Config) (s : Process) (clock : Nat → Int) : Environment where
  authCallback := some fun n streamKey ticket publish =>
    (authCallback s.backend.rtmpTicketManager (clock (n - s.rtmpServer.authCalls)) streamKey ticket
      publish).2
  random := config.random

/-- The RTMP server behind an event. -/
def rtmpAfter (config : Config) (s : Process) (e : NetEvent) (clock : Nat → Int) : RtmpServer :=
  netStep (s.environment config clock) s.rtmpServer e

/-- The questions of an event. -/
def asked (config : Config) (s : Process) (e : NetEvent) (clock : Nat → Int) : List Question :=
  (questions (s.rtmpAfter config e clock).log).drop (questions s.rtmpServer.log).length

end Process

/-- The questions one after the other, from the `i`-th reading of the clock on. -/
def consultAll (clock : Nat → Int) : Nat → Backend → List Question → Backend
  | _, s, [] => s
  | i, s, q :: asked =>
      consultAll clock (i + 1) (s.consult (clock i) q.conn q.streamKey q.ticket q.publish).1 asked

namespace Process

/-- `HttpServer::onMessage` with the routes of `main`. -/
def receive (config : Config) (s : Process) (c : Nat) (conn : HttpConnection)
    (receiveTime : Timestamp) (data : Bytes) (sources : Sources) : Except Exhausted Process :=
  let callback : HttpCallback := fun _ request response =>
    (((router config sources).route s.backend request response).map Prod.snd).getD response
  let s' : Process := { s with
    connections := Function.update s.connections c (some (conn.receive callback (receiveTime, data))) }
  match completed conn receiveTime data with
  | none => .ok s'
  | some request =>
      match (router config sources).route s.backend request
        { closeConnection := HttpConnection.closes request } with
      | none => .error .drawn
      | some (backend, _) => .ok { s' with backend := backend, last := sources.clock 1 }

/-- One event. A connection that is gone receives nothing, and no bytes are no event. -/
def step (config : Config) (s : Process) : ProcessEvent → Except Exhausted Process
  | .accept => .ok { s with
      connections := Function.update s.connections s.nextConn (some {})
      nextConn := s.nextConn + 1 }
  | .receive c receiveTime data sources =>
      match s.connections c with
      | none => .ok s
      | some conn => if data = [] then .ok s else s.receive config c conn receiveTime data sources
  | .close c => .ok { s with connections := Function.update s.connections c none }
  | .rtmp e clock => .ok { s with
      backend := consultAll clock 0 s.backend (s.asked config e clock)
      rtmpServer := s.rtmpAfter config e clock
      last := clock (s.asked config e clock).length }

/-- The clock does not go back. -/
def Timely (config : Config) (s : Process) : ProcessEvent → Prop
  | .accept => True
  | .receive _ _ _ sources => s.last ≤ sources.clock 0 ∧ sources.clock 0 ≤ sources.clock 1
  | .close _ => True
  | .rtmp e clock =>
      s.last ≤ clock 0 ∧ ∀ i < (s.asked config e clock).length, clock i ≤ clock (i + 1)

instance (config : Config) (s : Process) (e : ProcessEvent) : Decidable (Timely config s e) := by
  cases e <;> unfold Timely <;> infer_instance

/-- The states of the process that is started at `now`, when the clock does not go back. -/
def Runs (config : Config) (now : Int) (s : Process) : Prop :=
  Reachable (step config) (Timely config) (.init config now) s

end Process

/-! ### Questions, one after the other -/

/-- The questions that the log has answered. -/
def consultations (log : List Deed) : List Question :=
  log.filterMap fun
    | .loggedIn _ _ => none
    | .loggedOut _ _ => none
    | .issued _ _ _ _ => none
    | .consulted _ conn streamKey ticket publish granted =>
        some ⟨conn, streamKey, ticket, publish, granted⟩

section Consulting

variable {config : Config} {clock : Nat → Int} {s s' : Backend} {m : RtmpTicketManager} {i n : Nat}
  {asked : List Question} {last now : Int}

/-- A question changes no later answer. -/
theorem authCallback_verify (later : last ≤ now) (streamKey ticket streamKey' ticket' : Bytes)
    (publish publish' : Bool) :
    (authCallback (m.verify last ticket streamKey publish).1 now streamKey' ticket' publish').2 =
      (authCallback m now streamKey' ticket' publish').2 := by
  have hsame : ∀ t, ((m.verify last ticket streamKey publish).1.verify now ticket' streamKey'
      publish').2 = some t ↔ (m.verify now ticket' streamKey' publish').2 = some t := by
    intro t
    rw [verify_eq_some, verify_eq_some]
    rcases verify_state m last ticket streamKey publish with
      heq | ⟨dropped, hdropped, hexpired, heq⟩
    · rw [heq]
    · rw [heq]
      dsimp only
      by_cases hticket : ticket' = ticket
      · subst hticket
        rw [Function.update_self]
        constructor
        · rintro ⟨⟨h, -⟩, -⟩
          cases h
        · rintro ⟨⟨ht, hlive⟩, -⟩
          cases hdropped.symm.trans ht
          exact absurd (Int.lt_of_le_of_lt (Int.le_trans hexpired later) hlive) (Int.lt_irrefl _)
      · rw [Function.update_of_ne hticket]
  rw [authCallback_eq, authCallback_eq, Option.ext hsame]

/-- Readings of the clock, from the first on. -/
theorem clock_le {k : Nat} (steady : ∀ i < n, clock i ≤ clock (i + 1)) (hk : i + k ≤ n) :
    clock i ≤ clock (i + k) := by
  induction k with
  | zero => exact Int.le_refl _
  | succ k ih => exact Int.le_trans (ih (by omega)) (steady (i + k) (by omega))

theorem Accounted.consultAll (h : Accounted config s last) (later : last ≤ clock i)
    (steady : ∀ j < i + asked.length, clock j ≤ clock (j + 1)) :
    Accounted config (LoginServer.consultAll clock i s asked) (clock (i + asked.length)) := by
  induction asked generalizing s last i with
  | nil => exact h.later later
  | cons q asked ih =>
      have hnext := h.consult later q.conn q.streamKey q.ticket q.publish
      have hlen : i + (q :: asked).length = i + 1 + asked.length := by
        rw [List.length_cons]
        omega
      rw [hlen] at steady ⊢
      exact ih hnext (steady i (by omega)) steady

/-- **The questions of an event get the answers that they have got.** -/
theorem consultAll_asked (steady : ∀ j < i + asked.length, clock j ≤ clock (j + 1))
    (same : ∀ k, i + k < i + asked.length → ∀ streamKey ticket publish,
      (authCallback s.rtmpTicketManager (clock (i + k)) streamKey ticket publish).2 =
        (authCallback m (clock (i + k)) streamKey ticket publish).2)
    (answered : Answered (fun k streamKey ticket publish =>
      (authCallback m (clock (k - n)) streamKey ticket publish).2) (n + i) asked) :
    consultations (LoginServer.consultAll clock i s asked).log =
      consultations s.log ++ asked := by
  induction asked generalizing s i with
  | nil => exact (List.append_nil _).symm
  | cons q asked ih =>
      obtain ⟨hfirst, hrest⟩ := answered
      have hlen : i + (q :: asked).length = i + 1 + asked.length := by
        rw [List.length_cons]
        omega
      rw [hlen] at steady same
      have hgranted : (authCallback s.rtmpTicketManager (clock i) q.streamKey q.ticket
          q.publish).2 = q.granted := by
        rw [hfirst]
        dsimp only
        rw [Nat.add_sub_cancel_left]
        exact same 0 (by omega) q.streamKey q.ticket q.publish
      have hlater (k : Nat) (hk : i + 1 + k < i + 1 + asked.length) : clock i ≤ clock (i + 1 + k) := by
        rw [Nat.add_assoc]
        exact clock_le steady (by omega)
      have htail := ih (s := (s.consult (clock i) q.conn q.streamKey q.ticket q.publish).1) (i := i + 1)
        steady ?_ hrest
      · rw [LoginServer.consultAll, htail]
        simp [consultations, Backend.consult, hgranted]
      · intro k hk streamKey ticket publish
        have hstate : (s.consult (clock i) q.conn q.streamKey q.ticket q.publish).1.rtmpTicketManager =
            (s.rtmpTicketManager.verify (clock i) q.ticket q.streamKey q.publish).1 := by
          rw [Backend.consult, authCallback_eq]
        rw [hstate, authCallback_verify (hlater k hk), Nat.add_assoc]
        exact same (1 + k) (by omega) streamKey ticket publish

end Consulting

/-! ### The account of the RTMP server -/

section Forwarding

variable {env env' : Environment} {s : RtmpServer} {streamKey : Bytes} {c : ConnId}
  {log : List Action}

theorem granted_other (installed : env.authCallback ≠ none) {publish : Bool}
    (h : Granted env log c streamKey publish) : Granted env' log c streamKey publish :=
  .inr (h.resolve_left installed)

/-- What the log of the RTMP server justifies does not depend on who answers its questions. -/
theorem accounted_other (installed : env.authCallback ≠ none) (h : RtmpServer.Accounted env s) :
    RtmpServer.Accounted env' s where
  sessions hsid :=
    have hsession := h.sessions hsid
    { created := hsession.created
      publisher := fun d hd => granted_other installed (hsession.publisher d hd)
      player := fun d hd => granted_other installed (hsession.player d hd)
      cached := fun media hmedia => granted_other installed (hsession.cached media hmedia) }
  history before a after heq := by
    have hjustified := h.history before a after heq
    cases a with
    | media receiver sid media n =>
        obtain ⟨streamKey, hpublish, hplay, hcreated⟩ := hjustified
        exact ⟨streamKey, granted_other installed hpublish, granted_other installed hplay, hcreated⟩
    | send => trivial
    | authorize => trivial
    | create => trivial

/-- The RTMP server between two events: what it forwards has been granted. -/
structure Forwards (s : RtmpServer) : Prop where
  managed : Managed s
  bound : PublishersBound s
  accounted : ∀ env : Environment, env.authCallback ≠ none → RtmpServer.Accounted env s

theorem forwards_init : Forwards {} :=
  ⟨managed_init, publishersBound_init, fun env _ => RtmpServer.accounted_init env⟩

theorem Forwards.netStep (h : Forwards s) (installed : env.authCallback ≠ none) (e : NetEvent) :
    Forwards (RtmpServer.netStep env s e) := by
  obtain ⟨es, hes⟩ := netStep_refines env s e
  have hmoves (s s' : RtmpServer) (hmove : Move env s s')
      (hs : Managed s ∧ PublishersBound s ∧ RtmpServer.Accounted env s) :
      Managed s' ∧ PublishersBound s' ∧ RtmpServer.Accounted env s' :=
    ⟨hs.1.move hmove, hs.2.1.move hs.1 hmove, hs.2.2.move hs.1 hs.2.1 hmove⟩
  have hrun := run_invariant_always
    (I := fun s => Managed s ∧ PublishersBound s ∧ RtmpServer.Accounted env s)
    (fun s e hs => moves_invariant hmoves (step_moves env s e) hs) es
    ⟨h.managed, h.bound, h.accounted env installed⟩
  rw [hes]
  exact ⟨hrun.1, hrun.2.1, fun _ _ => accounted_other installed hrun.2.2⟩

end Forwarding

/-! ### The account of the process -/

namespace Process

/-- The services are accounted for, they have answered the questions of the RTMP server, and the
RTMP server forwards what has been granted. -/
structure Accounted (config : Config) (s : Process) : Prop where
  backend : LoginServer.Accounted config s.backend s.last
  consulted : consultations s.backend.log = questions s.rtmpServer.log
  forwards : Forwards s.rtmpServer

section Steps

variable {config : Config} {s s' : Process} {now : Int}

theorem consultations_effect {sources : Sources} {request : HttpRequest}
    {response answer : HttpResponse} {b b' : Backend}
    (h : Effect config sources b request response b' answer) :
    consultations b'.log = consultations b.log := by
  cases h with
  | refused => rfl
  | refusedVerified => rfl
  | healthy => rfl
  | user => rfl
  | loggedIn => simp [consultations]
  | loggedOut => simp [consultations]
  | issued => simp [consultations]

theorem accounted_start (config : Config) (now : Int) : Accounted config (.init config now) where
  backend := accounted_init config now
  consulted := rfl
  forwards := forwards_init

theorem Accounted.receive (h : Accounted config s) {c : Nat} {conn : HttpConnection}
    {receiveTime : Timestamp} {data : Bytes} {sources : Sources}
    (later : s.last ≤ sources.clock 0) (next : sources.clock 0 ≤ sources.clock 1)
    (taken : s.receive config c conn receiveTime data sources = .ok s') : Accounted config s' := by
  unfold Process.receive at taken
  dsimp only at taken
  split at taken
  · cases taken
    exact ⟨h.backend, h.consulted, h.forwards⟩
  · split at taken
    · cases taken
    · rename_i backend answer served
      cases taken
      exact ⟨h.backend.serve later next served,
        (consultations_effect (route_effect served)).trans h.consulted, h.forwards⟩

/-- The questions of an event, as the RTMP server asks them. -/
theorem consults_asked (config : Config) (s : Process) (e : NetEvent) (clock : Nat → Int) :
    Consults (fun n streamKey ticket publish => (authCallback s.backend.rtmpTicketManager
      (clock (n - s.rtmpServer.authCalls)) streamKey ticket publish).2)
      (s.asked config e clock) s.rtmpServer (s.rtmpAfter config e clock) := by
  have installed : (s.environment config clock).authCallback =
      some fun n streamKey ticket publish => (authCallback s.backend.rtmpTicketManager
        (clock (n - s.rtmpServer.authCalls)) streamKey ticket publish).2 := rfl
  obtain ⟨asked, hasked⟩ := netStep_consults installed s.rtmpServer e
  have hsame : s.asked config e clock = asked := by
    rw [Process.asked, rtmpAfter, hasked.recorded, List.drop_left]
  rw [hsame]
  exact hasked

theorem Accounted.rtmp (h : Accounted config s) {e : NetEvent} {clock : Nat → Int}
    (later : s.last ≤ clock 0)
    (steady : ∀ i < (s.asked config e clock).length, clock i ≤ clock (i + 1)) :
    Accounted config { s with
      backend := consultAll clock 0 s.backend (s.asked config e clock)
      rtmpServer := s.rtmpAfter config e clock
      last := clock (s.asked config e clock).length } := by
  have hasked := consults_asked config s e clock
  have steady' : ∀ j < 0 + (s.asked config e clock).length, clock j ≤ clock (j + 1) := by
    rwa [Nat.zero_add]
  refine ⟨?_, ?_, h.forwards.netStep (by simp [environment]) e⟩
  · have hbackend := h.backend.consultAll later steady'
    rwa [Nat.zero_add] at hbackend
  · have hanswered := consultAll_asked steady' (fun _ _ _ _ _ => rfl) hasked.answered
    exact hanswered.trans (by rw [h.consulted, hasked.recorded])

theorem Accounted.step (h : Accounted config s) {e : ProcessEvent} (timely : Timely config s e)
    (taken : step config s e = .ok s') : Accounted config s' := by
  cases e with
  | accept =>
      cases taken
      exact ⟨h.backend, h.consulted, h.forwards⟩
  | close c =>
      cases taken
      exact ⟨h.backend, h.consulted, h.forwards⟩
  | receive c receiveTime data sources =>
      unfold Process.step at taken
      dsimp only at taken
      split at taken
      · cases taken
        exact h
      · split at taken
        · cases taken
          exact h
        · exact h.receive timely.1 timely.2 taken
  | rtmp e clock =>
      cases taken
      exact h.rtmp timely.1 timely.2

theorem Runs.accounted (h : Runs config now s) : Accounted config s :=
  h.invariant (fun timely hs taken => hs.step timely taken) (accounted_start config now)

end Steps

end Process

/-! ### Traces -/

section Tracing

variable {config : Config} {log : List Deed} {token : Bytes} {l : Login}

end Tracing

/-! ### A run -/

/-- A `POST` with a body. -/
def httpPost (path : String) (header body : Bytes) : Bytes :=
  ascii "POST " ++ ascii path ++ ascii " HTTP/1.1" ++ crlf ++ header ++
    ascii "Content-Length: " ++ decimal body.length ++ crlf ++ crlf ++ body

/-- A client of the HTTP server that logs in and asks for a ticket. -/
def ticketRun : List ProcessEvent := [
  .accept,
  .receive 0 0 (httpPost "/api/login" [] (fieldsText [(ascii "username", ascii "teacher01"),
    (ascii "password", ascii "123456"), (ascii "role", ascii "teacher")])) ⟨fun _ => 0, [(1, 2)]⟩,
  .receive 0 0 (httpPost "/api/rtmp/ticket"
    (ascii "Authorization: Bearer " ++ hex16 1 ++ hex16 2 ++ crlf)
    (fieldsText [(ascii "streamName", ascii "a"), (ascii "permission", ascii "both")]))
    ⟨fun _ => 0, [(3, 4)]⟩]

namespace Process

section Runs

variable {config : Config} {now : Int} {s : Process}

end Runs

end Process

end Rmuduo.Auth.LoginServer
