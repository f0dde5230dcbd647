/-
Requests that are sent without waiting.

`onMessage` parses at most one request of what has arrived: a second request that is there
already waits in the buffer for the next call. So the requests of a connection are all
answered exactly when, after every call, the calls that are still to come are no fewer than
the requests whose last byte has not arrived yet.

* `Serving` — what a connection is in the middle of.
* `Serving.receive_whole`, `Serving.receive_part` — one call, with and without a whole request.
* `paired_iff` — when every request is paired with a response.
-/

import Rmuduo.Http.HttpServer
import Rmuduo.Http.WireFormat

namespace Rmuduo.Http

open Lib
open Net (Timestamp)

/-! ### What is asked for -/

/-- A request that asks to keep the connection. -/
def WireRequest.KeepsAlive (r : WireRequest) : Prop :=
  r.version = .kHttp11 ∧
    ∀ f ∈ r.fields, f.name = ascii "Connection" → f.value ≠ ascii "close"

/-- The application does not ask to close the connection in its first `n - 1` answers. -/
def KeepsOpen (callback : HttpCallback) (n : Nat) : Prop :=
  ∀ history request, history.length + 1 < n →
    (callback history request { closeConnection := false }).closeConnection = false

def HttpConnection.receiveAll (callback : HttpCallback) (conn : HttpConnection)
    (segs : List (Timestamp × Bytes)) : HttpConnection :=
  segs.foldl (HttpConnection.receive callback) conn

/-- Every request has been given to the application once, in order and as it was sent, and
has a response. -/
def Paired (callback : HttpCallback) (requests : List WireRequest)
    (segs : List (Timestamp × Bytes)) : Prop :=
  let conn := HttpConnection.receiveAll callback {} segs
  conn.invoked.map HttpRequest.untimed = requests.map (WireRequest.parsed 0) ∧
    conn.sent.length = requests.length

/-- The requests that do not end within the first `n` bytes. -/
def unfinished : List WireRequest → Nat → Nat
  | [], _ => 0
  | r :: requests, n =>
      if r.bytes.length ≤ n then unfinished requests (n - r.bytes.length)
      else (r :: requests).length

/-- After every call, the calls to come are no fewer than the requests that have not arrived. -/
def InTime (requests : List WireRequest) (segs : List (Timestamp × Bytes)) : Prop :=
  ∀ pre post, segs = pre ++ post → unfinished requests (pre.flatMap Prod.snd).length ≤ post.length

/-! ### One call -/

section Parsing

variable {receiveTime : Timestamp} {context : HttpContext} {buf pending : Bytes}

/-- Whatever follows, the parser ends as if it had met all of `pending` at once, up to the
time of arrival. -/
def Resumes (context : HttpContext) (buf pending : Bytes) : Prop :=
  context.Sane ∧ ∀ receiveTime more,
    (parseRequest receiveTime context (buf ++ more)).untimed = parseRequest 0 {} (pending ++ more)

theorem resumes_fresh (buf : Bytes) : Resumes {} buf buf :=
  ⟨sane_init, fun _ _ => (parseRequest_untimed {} _).symm⟩

/-- A call that ends in the middle of a request is resumed by the next one. -/
theorem Resumes.parse (h : Resumes context buf pending) (receiveTime : Timestamp) :
    Resumes (parseRequest receiveTime context buf).context
      (parseRequest receiveTime context buf).buf pending := by
  obtain ⟨sane, hmore⟩ := h
  refine ⟨parseRequest_sane sane, fun receiveTime' more => ?_⟩
  have hagain := parseRequest_again receiveTime sane buf more
  dsimp only at hagain
  rw [← hmore receiveTime more, ← hagain, ← parseRequest_untimed, ← parseRequest_untimed]

theorem Resumes.append (h : Resumes context buf pending) (data : Bytes) :
    Resumes context (buf ++ data) (pending ++ data) := by
  refine ⟨h.1, fun receiveTime more => ?_⟩
  rw [List.append_assoc, List.append_assoc]
  exact h.2 receiveTime (data ++ more)

/-- A part of a request is neither complete nor rejected. -/
theorem parseRequest_part {r : WireRequest} {part rest : Bytes} (h : r.bytes = part ++ rest)
    (hrest : rest ≠ []) :
    (parseRequest 0 {} part).ok = true ∧ (parseRequest 0 {} part).context.gotAll = false := by
  have hwhole := parseRequest_wire 0 r []
  rw [List.append_nil, h] at hwhole
  constructor
  · by_contra hrejected
    rw [Bool.not_eq_true] at hrejected
    have hlater := parseRequest_append_rejected sane_init hrejected rest
    rw [hwhole] at hlater
    cases hlater
  · by_contra hgot
    rw [Bool.not_eq_false] at hgot
    have hagain := parseRequest_again 0 sane_init part rest
    dsimp only at hagain
    rw [hwhole, parseRequest_gotAll 0 (of_decide_eq_true hgot)] at hagain
    have hbuf := congrArg Parsed.buf hagain
    exact hrest (List.append_eq_nil_iff.mp hbuf).2

end Parsing

/-! ### A connection in the middle of requests -/

/-- The connection has answered some of `n` requests, `requests` are still to be answered,
and `pending` is what has arrived of them. -/
structure Serving (n : Nat) (requests : List WireRequest) (pending : Bytes)
    (conn : HttpConnection) : Prop where
  resumes : Resumes conn.context conn.inputBuffer pending
  answered : conn.sent.length = conn.invoked.length
  counted : conn.invoked.length + requests.length = n
  connected : requests ≠ [] → conn.connected = true

section Serving

variable {callback : HttpCallback} {n : Nat} {r : WireRequest} {requests : List WireRequest}
  {pending rest : Bytes} {conn : HttpConnection}

theorem serving_init (requests : List WireRequest) : Serving requests.length requests [] {} where
  resumes := resumes_fresh []
  answered := rfl
  counted := Nat.zero_add _
  connected _ := rfl

/-- A request that asks to keep the connection is not answered with a close. -/
theorem closes_wire (h : r.KeepsAlive) {request : HttpRequest}
    (hrequest : request.untimed = r.parsed 0) : HttpConnection.closes request = false := by
  have hversion : request.version = .kHttp11 :=
    (congrArg HttpRequest.version hrequest).trans ((r.parsed_version 0).trans h.1)
  have hheaders : request.headers = OrderedMap.assignAll [] (r.fields.map HeaderField.entry) :=
    (congrArg HttpRequest.headers hrequest).trans (r.parsed_headers 0)
  have hvalue : request.getHeader (ascii "Connection") ≠ ascii "close" := by
    unfold HttpRequest.getHeader
    rw [hheaders]
    cases hlookup : OrderedMap.lookup (ascii "Connection")
        (OrderedMap.assignAll [] (r.fields.map HeaderField.entry)) with
    | none => decide
    | some value =>
        obtain ⟨f, hf, hentry⟩ := (mem_headers r).mp (OrderedMap.mem_of_lookup hlookup)
        have hname : f.name = ascii "Connection" := congrArg Prod.fst hentry
        have hsame : f.value = value := congrArg Prod.snd hentry
        rw [← hsame]
        exact h.2 f hf hname
  simp [HttpConnection.closes, hversion, hvalue]

/-- A call that has all of the next request. -/
theorem Serving.receive_whole (h : Serving n (r :: requests) pending conn)
    (seg : Timestamp × Bytes) (keepsAlive : r.KeepsAlive) (keepsOpen : KeepsOpen callback n)
    (hbytes : pending ++ seg.2 = r.bytes ++ rest) :
    Serving n requests rest (conn.receive callback seg) ∧
      (conn.receive callback seg).invoked.map HttpRequest.untimed =
        conn.invoked.map HttpRequest.untimed ++ [r.parsed 0] := by
  have hparsed := (h.resumes.append seg.2).2 seg.1 []
  rw [List.append_nil, List.append_nil, hbytes, parseRequest_wire] at hparsed
  unfold HttpConnection.receive HttpConnection.onMessage
  dsimp only
  generalize parseRequest seg.1 conn.context (conn.inputBuffer ++ seg.2) = o at hparsed
  obtain ⟨⟨state, request, contentLength⟩, buf, ok⟩ := o
  have hstate : state = .kGotAll := congrArg (fun o => o.context.state) hparsed
  have hrequest : request.untimed = r.parsed 0 := congrArg (fun o => o.context.request) hparsed
  have hbuf : buf = rest := congrArg Parsed.buf hparsed
  have hok : ok = true := congrArg Parsed.ok hparsed
  subst hstate hbuf hok
  have hopen := h.connected (List.cons_ne_nil _ _)
  have hcounted : conn.invoked.length + (requests.length + 1) = n := h.counted
  have hgot : HttpContext.gotAll ⟨.kGotAll, request, contentLength⟩ = true := rfl
  rw [if_pos rfl, if_pos hgot]
  unfold HttpConnection.onRequest HttpConnection.send HttpConnection.shutdown
  dsimp only
  rw [closes_wire keepsAlive hrequest, hopen, if_pos rfl]
  generalize hresponse : callback conn.invoked request { closeConnection := false } = response
  have hkept : requests ≠ [] → response.closeConnection = false := by
    intro hne
    rw [← hresponse]
    refine keepsOpen conn.invoked request ?_
    have hpos := List.length_pos_iff.mpr hne
    omega
  refine ⟨⟨?_, ?_, ?_, ?_⟩, ?_⟩
  · have hfresh := resumes_fresh buf
    split <;> exact hfresh
  · have hanswered := h.answered
    split <;> simp [hanswered]
  · split <;> simp <;> omega
  · intro hne
    rw [hkept hne]
    rfl
  · split <;> simp [hrequest]

/-- A call that has only a part of the next request, or nothing is asked for. -/
theorem Serving.receive_part (h : Serving n requests pending conn) (callback : HttpCallback)
    (seg : Timestamp × Bytes) (hpart : (parseRequest 0 {} (pending ++ seg.2)).ok = true ∧
      (parseRequest 0 {} (pending ++ seg.2)).context.gotAll = false) :
    Serving n requests (pending ++ seg.2) (conn.receive callback seg) ∧
      (conn.receive callback seg).invoked = conn.invoked := by
  have happended := h.resumes.append seg.2
  have hparsed := happended.2 seg.1 []
  have hnext := happended.parse seg.1
  rw [List.append_nil, List.append_nil] at hparsed
  rw [← hparsed] at hpart
  unfold HttpConnection.receive HttpConnection.onMessage
  dsimp only
  generalize parseRequest seg.1 conn.context (conn.inputBuffer ++ seg.2) = o at hpart hnext
  obtain ⟨hok, hgot⟩ := hpart
  have hok : o.ok = true := hok
  have hgot : o.context.gotAll = false := hgot
  rw [if_pos hok]
  dsimp only
  rw [if_neg (by simp [hgot])]
  exact ⟨⟨hnext, h.answered, h.counted, h.connected⟩, rfl⟩

end Serving

/-! ### The backlog -/

/-- The requests to be answered, and those to arrive, do not outnumber the calls to come. -/
def Backlog (requests : List WireRequest) (n : Nat) (segs : List (Timestamp × Bytes)) : Prop :=
  requests.length ≤ segs.length ∧ ∀ pre post, segs = pre ++ post →
    unfinished requests (n + (pre.flatMap Prod.snd).length) ≤ post.length

section Backlogs

variable {r : WireRequest} {requests : List WireRequest} {n : Nat} {seg : Timestamp × Bytes}
  {segs : List (Timestamp × Bytes)}

theorem unfinished_le (requests : List WireRequest) (n : Nat) :
    unfinished requests n ≤ requests.length := by
  induction requests generalizing n with
  | nil => exact Nat.le_refl 0
  | cons r requests ih =>
      unfold unfinished
      split
      · exact Nat.le_succ_of_le (ih _)
      · exact Nat.le_refl _

theorem backlog_noCalls : Backlog requests n [] ↔ requests = [] := by
  constructor
  · rintro ⟨hlen, -⟩
    exact List.eq_nil_of_length_eq_zero (Nat.le_zero.mp hlen)
  · rintro rfl
    exact ⟨Nat.le_refl 0, fun _ _ _ => Nat.zero_le _⟩

theorem backlog_noRequests (n : Nat) (segs : List (Timestamp × Bytes)) : Backlog [] n segs :=
  ⟨Nat.zero_le _, fun _ _ _ => Nat.zero_le _⟩

/-- A call that answers a request. -/
theorem backlog_whole (h : r.bytes.length ≤ n + seg.2.length) :
    Backlog (r :: requests) n (seg :: segs) ↔
      Backlog requests (n + seg.2.length - r.bytes.length) segs := by
  have hstep : ∀ pre : List (Timestamp × Bytes),
      unfinished (r :: requests) (n + ((seg :: pre).flatMap Prod.snd).length) =
        unfinished requests
          (n + seg.2.length - r.bytes.length + (pre.flatMap Prod.snd).length) := by
    intro pre
    rw [List.flatMap_cons, List.length_append, unfinished, if_pos (by omega)]
    congr 1
    omega
  constructor
  · rintro ⟨hlen, hall⟩
    refine ⟨Nat.le_of_succ_le_succ hlen, ?_⟩
    rintro pre post rfl
    rw [← hstep]
    exact hall (seg :: pre) post rfl
  · rintro ⟨hlen, hall⟩
    refine ⟨Nat.succ_le_succ hlen, ?_⟩
    intro pre post hsplit
    cases pre with
    | nil =>
        rw [← List.nil_append post, ← hsplit]
        exact Nat.le_trans (unfinished_le _ _) (Nat.succ_le_succ hlen)
    | cons seg' pre =>
        cases hsplit
        rw [hstep]
        exact hall pre post rfl

/-- A call that answers none. -/
theorem backlog_part (h : n + seg.2.length < r.bytes.length) :
    Backlog (r :: requests) n (seg :: segs) ↔
      Backlog (r :: requests) (n + seg.2.length) segs := by
  have hstep : ∀ pre : List (Timestamp × Bytes),
      n + ((seg :: pre).flatMap Prod.snd).length =
        n + seg.2.length + (pre.flatMap Prod.snd).length := by
    intro pre
    rw [List.flatMap_cons, List.length_append, Nat.add_assoc]
  constructor
  · rintro ⟨-, hall⟩
    constructor
    · have hfirst := hall [seg] segs rfl
      rw [hstep, List.flatMap_nil, List.length_nil, Nat.add_zero] at hfirst
      unfold unfinished at hfirst
      rwa [if_neg (Nat.not_le.mpr h)] at hfirst
    · rintro pre post rfl
      rw [← hstep]
      exact hall (seg :: pre) post rfl
  · rintro ⟨hlen, hall⟩
    refine ⟨Nat.le_succ_of_le hlen, ?_⟩
    intro pre post hsplit
    cases pre with
    | nil =>
        rw [← List.nil_append post, ← hsplit]
        exact Nat.le_trans (unfinished_le _ _) (Nat.le_succ_of_le hlen)
    | cons seg' pre =>
        cases hsplit
        rw [hstep]
        exact hall pre post rfl

end Backlogs

/-! ### All requests -/

theorem requestBytes_pos (r : WireRequest) : 0 < r.bytes.length := by
  simp [WireRequest.bytes, crlf]

/-- Answering the rest, from the middle. -/
theorem Serving.receiveAll {callback : HttpCallback} {n : Nat} {requests : List WireRequest}
    {pending : Bytes} {conn : HttpConnection} {segs : List (Timestamp × Bytes)}
    (h : Serving n requests pending conn) (keepsAlive : ∀ r ∈ requests, r.KeepsAlive)
    (keepsOpen : KeepsOpen callback n)
    (hbytes : pending ++ segs.flatMap Prod.snd = requests.flatMap WireRequest.bytes) :
    ((conn.receiveAll callback segs).invoked.map HttpRequest.untimed =
        conn.invoked.map HttpRequest.untimed ++ requests.map (WireRequest.parsed 0) ∧
      (conn.receiveAll callback segs).sent.length = n) ↔
      Backlog requests pending.length segs := by
  induction segs generalizing conn requests pending with
  | nil =>
      rw [backlog_noCalls]
      change conn.invoked.map HttpRequest.untimed = _ ∧ conn.sent.length = n ↔ _
      constructor
      · rintro ⟨hinvoked, -⟩
        have hlen := congrArg List.length hinvoked
        simp at hlen
        exact hlen
      · rintro rfl
        have hcounted := h.counted
        rw [List.length_nil, Nat.add_zero] at hcounted
        exact ⟨by simp, h.answered.trans hcounted⟩
  | cons seg segs ih =>
      have hstep : conn.receiveAll callback (seg :: segs) =
          (conn.receive callback seg).receiveAll callback segs := rfl
      rw [hstep]
      rw [List.flatMap_cons, ← List.append_assoc] at hbytes
      cases requests with
      | nil =>
          -- Nothing is asked for, and nothing arrives.
          have hempty := (List.append_eq_nil_iff.mp hbytes).1
          obtain ⟨hnext, hsame⟩ := h.receive_part callback seg (by
            rw [hempty]
            exact ⟨rfl, rfl⟩)
          rw [← hsame, ih hnext keepsAlive hbytes]
          exact iff_of_true (backlog_noRequests ..) (backlog_noRequests ..)
      | cons r requests =>
          rw [List.flatMap_cons] at hbytes
          by_cases hwhole : r.bytes.length ≤ pending.length + seg.2.length
          · have hlen : r.bytes.length ≤ (pending ++ seg.2).length := by
              rwa [List.length_append]
            obtain ⟨rest, hrest⟩ := List.prefix_of_prefix_length_le
              ⟨_, rfl⟩ ⟨_, hbytes⟩ hlen
            rw [← hrest, List.append_assoc] at hbytes
            have hbytes := List.append_cancel_left hbytes
            obtain ⟨hnext, hinvoked⟩ := h.receive_whole seg
              (keepsAlive r List.mem_cons_self) keepsOpen hrest.symm
            have hleft : rest.length = pending.length + seg.2.length - r.bytes.length := by
              have hsum := congrArg List.length hrest
              rw [List.length_append, List.length_append] at hsum
              omega
            have hall := ih hnext (fun r' hr' => keepsAlive r' (List.mem_cons_of_mem _ hr')) hbytes
            rw [backlog_whole hwhole, ← hleft, ← hall, hinvoked, List.append_assoc]
            rfl
          · have hshort : pending.length + seg.2.length < r.bytes.length := Nat.lt_of_not_le hwhole
            have hlen : (pending ++ seg.2).length ≤ r.bytes.length := by
              rw [List.length_append]
              exact Nat.le_of_lt hshort
            obtain ⟨rest, hrest⟩ := List.prefix_of_prefix_length_le
              ⟨_, hbytes⟩ ⟨_, rfl⟩ hlen
            have hne : rest ≠ [] := by
              rintro rfl
              have hsum := congrArg List.length hrest
              rw [List.append_nil, List.length_append] at hsum
              omega
            obtain ⟨hnext, hsame⟩ := h.receive_part callback seg
              (parseRequest_part hrest.symm hne)
            rw [backlog_part hshort, ← List.length_append, ← hsame]
            exact ih hnext keepsAlive (by rw [hbytes, List.flatMap_cons])

theorem unfinished_zero (requests : List WireRequest) :
    unfinished requests 0 = requests.length := by
  cases requests with
  | nil => rfl
  | cons r requests => exact if_neg (Nat.not_le.mpr (requestBytes_pos r))

theorem backlog_zero (requests : List WireRequest) (segs : List (Timestamp × Bytes)) :
    Backlog requests 0 segs ↔ InTime requests segs := by
  unfold Backlog InTime
  simp only [Nat.zero_add]
  constructor
  · exact And.right
  · intro hall
    refine ⟨?_, hall⟩
    have hfirst := hall [] segs rfl
    rwa [List.flatMap_nil, List.length_nil, unfinished_zero] at hfirst

/-- **Pairing.** The keep-alive requests of a connection are all given to the application, once
each, in order and as they were sent, and all answered, exactly when the calls of `onMessage`
that are to come are always as many as the requests that have not arrived. -/
theorem paired_iff (callback : HttpCallback) (requests : List WireRequest)
    (segs : List (Timestamp × Bytes)) (keepsAlive : ∀ r ∈ requests, r.KeepsAlive)
    (keepsOpen : KeepsOpen callback requests.length)
    (hbytes : segs.flatMap Prod.snd = requests.flatMap WireRequest.bytes) :
    Paired callback requests segs ↔ InTime requests segs := by
  have hserved := (serving_init requests).receiveAll keepsAlive keepsOpen hbytes
  rw [List.length_nil, backlog_zero] at hserved
  exact hserved

/-- `GET target HTTP/1.1`, without headers. -/
def get (target : Bytes) (oneLine : OneLine target) (noSpace : 32 ∉ target) : WireRequest where
  method := .kGet
  target := target
  version := .kHttp11
  fields := []
  body := []
  method_known := by decide
  target_oneLine := oneLine
  target_noSpace := noSpace
  version_known := by decide
  names_nodup := List.nodup_nil
  body_size := by decide
  length_field := .inl ⟨rfl, rfl⟩

def getRoot : WireRequest := get (ascii "/") ⟨by decide, by decide⟩ (by decide)
def getUsers : WireRequest := get (ascii "/users?page=2") ⟨by decide, by decide⟩ (by decide)

/-- An application that answers every request. -/
def answerOk : HttpCallback := fun _ _ response =>
  { response with statusCode := .k200Ok, statusMessage := ascii "OK" }

theorem paired_apart :
    Paired answerOk [getRoot, getUsers] [(1, getRoot.bytes), (2, getUsers.bytes)] ↔
      InTime [getRoot, getUsers] [(1, getRoot.bytes), (2, getUsers.bytes)] := by
  refine paired_iff answerOk _ _ ?_ ?_ ?_
  · intro r hr
    simp only [List.mem_cons, List.not_mem_nil, or_false] at hr
    rcases hr with rfl | rfl <;> exact ⟨rfl, by simp [getRoot, getUsers, get]⟩
  · intro _ _ _
    rfl
  · simp

/-- Two requests in one segment: the second one is neither given to the application nor
answered. -/
theorem not_paired_together :
    ¬ Paired answerOk [getRoot, getUsers] [(1, getRoot.bytes ++ getUsers.bytes)] := by
  rintro ⟨-, hsent⟩
  have hone : (HttpConnection.receiveAll answerOk {}
      [(1, getRoot.bytes ++ getUsers.bytes)]).sent.length = 1 := by decide +kernel
  rw [hone] at hsent
  cases hsent

end Rmuduo.Http
