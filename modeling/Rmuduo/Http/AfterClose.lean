/-
Requests behind a close.

`shutdown` closes the write half of a connection and nothing else. What arrives afterwards is
read, and the parser has been reset behind the request that closed the connection. So that
request is the last one exactly when no whole request follows it; behind a malformed one the
parser is stuck, and nothing follows.

* `BeginsWithRequest` — the bytes hold a whole request at their front.
* `Resumes.receive` — one call, with and without a whole request.
* `invoked_iff` — when the application is not called any more.
* `silentAfterClose_iff` — when it is called for nothing behind a close.
-/

import Rmuduo.Http.Pipelining
import Rmuduo.Http.Soundness

namespace Rmuduo.Http

open Lib
open Net (Timestamp)

/-! ### What is executed behind a close -/

/-- Once the connection has been shut down, the application is not called for it. -/
def SilentAfterClose (callback : HttpCallback) (segs : List (Timestamp × Bytes)) : Prop :=
  ∀ pre post, segs = pre ++ post →
    (HttpConnection.receiveAll callback {} pre).connected = false →
    (HttpConnection.receiveAll callback {} segs).invoked =
      (HttpConnection.receiveAll callback {} pre).invoked

/-- The last of these calls answers a request and shuts the connection down. -/
def ClosedByRequest (callback : HttpCallback) (segs : List (Timestamp × Bytes)) : Prop :=
  ∃ before seg, segs = before ++ [seg] ∧
    (HttpConnection.receiveAll callback {} before).connected = true ∧
    (HttpConnection.receiveAll callback {} segs).connected = false ∧
    (HttpConnection.receiveAll callback {} segs).invoked ≠
      (HttpConnection.receiveAll callback {} before).invoked

/-- The bytes begin with a head and all of the body that it declares. -/
def BeginsWithRequest (bytes : Bytes) : Prop :=
  ∃ line lines last body rest, HasHead bytes line lines last (body ++ rest) ∧
    parseContentLength (headersOf lines) = some body.length

section Requests

variable {bytes : Bytes} {receiveTime : Timestamp}

/-- A whole request is one that the parser completes. -/
theorem gotAll_iff (receiveTime : Timestamp) (bytes : Bytes) :
    (parseRequest receiveTime {} bytes).context.gotAll = true ↔ BeginsWithRequest bytes := by
  constructor
  · intro hgot
    obtain ⟨taken, hbytes, line, lines, last, body, hhead, hlength⟩ := taken_of_gotAll hgot
    refine ⟨line, lines, last, body, (parseRequest receiveTime {} bytes).buf, ?_, hlength⟩
    have hwhole := hhead.append (parseRequest receiveTime {} bytes).buf
    rwa [← hbytes] at hwhole
  · rintro ⟨line, lines, last, body, rest, hhead, hlength⟩
    rw [hhead.parse receiveTime, hlength, finish]
    split
    · rfl
    · rw [if_pos]
      · rfl
      · rw [List.length_append]
        exact Nat.le_add_right _ _

theorem BeginsWithRequest.append (h : BeginsWithRequest bytes) (more : Bytes) :
    BeginsWithRequest (bytes ++ more) := by
  obtain ⟨line, lines, last, body, rest, hhead, hlength⟩ := h
  refine ⟨line, lines, last, body, rest ++ more, ?_, hlength⟩
  rw [← List.append_assoc]
  exact hhead.append more

/-- Nothing completes a request that is malformed. -/
theorem not_beginsWithRequest_of_rejected (h : (parseRequest receiveTime {} bytes).ok = false) :
    ¬ BeginsWithRequest bytes := by
  rintro ⟨line, lines, last, body, rest, hhead, hlength⟩
  have hok : (parseRequest receiveTime {} bytes).ok = true := by
    rw [hhead.ok_iff, hlength]
    simp
  rw [h] at hok
  cases hok

end Requests

/-! ### One call -/

section Calls

variable {callback : HttpCallback} {conn : HttpConnection} {seg : Timestamp × Bytes}
  {segs : List (Timestamp × Bytes)} {pending : Bytes}

/-- What one call makes of a connection: it parses, and answers a request that is complete. -/
theorem receive_cases (callback : HttpCallback) (conn : HttpConnection)
    (seg : Timestamp × Bytes) :
    let o := parseRequest seg.1 conn.context (conn.inputBuffer ++ seg.2)
    (conn.receive callback seg).inputBuffer = o.buf ∧
      if o.context.gotAll = true then
        (conn.receive callback seg).context = {} ∧
          (conn.receive callback seg).invoked = conn.invoked ++ [o.context.request]
      else
        (conn.receive callback seg).context = o.context ∧
          (conn.receive callback seg).invoked = conn.invoked ∧
          (conn.receive callback seg).connected = (conn.connected && o.ok) := by
  dsimp only
  unfold HttpConnection.receive HttpConnection.onMessage
  dsimp only
  generalize parseRequest seg.1 conn.context (conn.inputBuffer ++ seg.2) = o
  have hparsed : ∃ conn' : HttpConnection,
      (if o.ok = true then { conn with context := o.context, inputBuffer := o.buf }
        else (HttpConnection.send { conn with context := o.context, inputBuffer := o.buf }
          HttpConnection.badRequest).shutdown) = conn' ∧
      conn'.context = o.context ∧ conn'.inputBuffer = o.buf ∧ conn'.invoked = conn.invoked ∧
      conn'.connected = (conn.connected && o.ok) := by
    refine ⟨_, rfl, ?_⟩
    cases o.ok with
    | true => simp
    | false => simp [HttpConnection.shutdown]
  obtain ⟨conn', hconn', hcontext, hbuffer, hinvoked, hconnected⟩ := hparsed
  rw [hconn', hcontext]
  by_cases hgot : o.context.gotAll = true
  · rw [if_pos hgot, if_pos hgot]
    refine ⟨?_, rfl, ?_⟩
    · simp [hbuffer]
    · simp [hinvoked]
  · rw [if_neg hgot, if_neg hgot]
    exact ⟨hbuffer, hcontext, hinvoked, hconnected⟩

/-- The parser stands where it would stand if it had met `pending` at once. -/
def HttpConnection.Resumes (conn : HttpConnection) (pending : Bytes) : Prop :=
  Http.Resumes conn.context conn.inputBuffer pending

/-- **One call** answers a request exactly when it completes one. -/
theorem HttpConnection.Resumes.receive (h : conn.Resumes pending) (callback : HttpCallback)
    (seg : Timestamp × Bytes) :
    (BeginsWithRequest (pending ++ seg.2) ∧
        (conn.receive callback seg).Resumes (conn.receive callback seg).inputBuffer ∧
        ∃ request, (conn.receive callback seg).invoked = conn.invoked ++ [request]) ∨
      (¬ BeginsWithRequest (pending ++ seg.2) ∧
        (conn.receive callback seg).Resumes (pending ++ seg.2) ∧
        (conn.receive callback seg).invoked = conn.invoked ∧
        (conn.receive callback seg).connected =
          (conn.connected && (parseRequest 0 {} (pending ++ seg.2)).ok)) := by
  have happended : Http.Resumes conn.context (conn.inputBuffer ++ seg.2) (pending ++ seg.2) :=
    Http.Resumes.append h seg.2
  have hparsed := happended.2 seg.1 []
  have hnext := happended.parse seg.1
  rw [List.append_nil, List.append_nil] at hparsed
  obtain ⟨hbuffer, hcases⟩ := receive_cases callback conn seg
  have hgot : (parseRequest seg.1 conn.context (conn.inputBuffer ++ seg.2)).context.gotAll =
      (parseRequest 0 {} (pending ++ seg.2)).context.gotAll := by
    rw [← hparsed]
    rfl
  have hok : (parseRequest seg.1 conn.context (conn.inputBuffer ++ seg.2)).ok =
      (parseRequest 0 {} (pending ++ seg.2)).ok := by
    rw [← hparsed]
    rfl
  rw [← gotAll_iff 0, ← hgot]
  split at hcases
  · rename_i hwhole
    obtain ⟨hcontext, hinvoked⟩ := hcases
    refine .inl ⟨hwhole, ?_, _, hinvoked⟩
    rw [HttpConnection.Resumes, hcontext]
    exact resumes_fresh _
  · rename_i hpart
    obtain ⟨hcontext, hinvoked, hconnected⟩ := hcases
    refine .inr ⟨hpart, ?_, hinvoked, ?_⟩
    · rw [HttpConnection.Resumes, hcontext, hbuffer]
      exact hnext
    · rw [hconnected, hok]

end Calls

/-! ### Runs -/

section Runs

variable {callback : HttpCallback} {conn : HttpConnection} {seg : Timestamp × Bytes}
  {segs pre post : List (Timestamp × Bytes)} {pending : Bytes}

theorem receiveAll_append (callback : HttpCallback) (conn : HttpConnection)
    (segs more : List (Timestamp × Bytes)) :
    conn.receiveAll callback (segs ++ more) =
      (conn.receiveAll callback segs).receiveAll callback more :=
  List.foldl_append

/-- The application is never called less. -/
theorem length_invoked_receiveAll (h : conn.Resumes pending) (callback : HttpCallback)
    (segs : List (Timestamp × Bytes)) :
    conn.invoked.length ≤ (conn.receiveAll callback segs).invoked.length := by
  induction segs generalizing conn pending with
  | nil => exact Nat.le_refl _
  | cons seg segs ih =>
      rcases h.receive callback seg with ⟨-, hnext, request, hinvoked⟩ | ⟨-, hnext, hinvoked, -⟩
      · have hrest := ih hnext
        rw [hinvoked, List.length_append] at hrest
        exact Nat.le_trans (Nat.le_add_right _ _) hrest
      · have hrest := ih hnext
        rw [hinvoked] at hrest
        exact hrest

/-- **When the application is called no more**: when no calls follow, or what has arrived and
arrives does not begin with a request. -/
theorem invoked_iff (h : conn.Resumes pending) (callback : HttpCallback)
    (segs : List (Timestamp × Bytes)) :
    (conn.receiveAll callback segs).invoked = conn.invoked ↔
      (segs ≠ [] → ¬ BeginsWithRequest (pending ++ segs.flatMap Prod.snd)) := by
  induction segs generalizing conn pending with
  | nil => exact iff_of_true rfl fun hne => absurd rfl hne
  | cons seg segs ih =>
      have hstep : conn.receiveAll callback (seg :: segs) =
          (conn.receive callback seg).receiveAll callback segs := rfl
      rw [hstep, List.flatMap_cons, ← List.append_assoc]
      rcases h.receive callback seg with ⟨hwhole, hnext, request, hinvoked⟩ |
        ⟨hpart, hnext, hinvoked, -⟩
      · have hmore := length_invoked_receiveAll hnext callback segs
        rw [hinvoked, List.length_append, List.length_singleton] at hmore
        refine iff_of_false ?_ ?_
        · intro hsame
          rw [hsame] at hmore
          exact absurd hmore (Nat.not_succ_le_self _)
        · intro hnone
          exact hnone (List.cons_ne_nil _ _) (hwhole.append _)
      · rw [← hinvoked, ih hnext]
        constructor
        · intro hrest _
          cases segs with
          | nil =>
              rw [List.flatMap_nil, List.append_nil]
              exact hpart
          | cons seg' segs => exact hrest (List.cons_ne_nil _ _)
        · intro hall _
          exact hall (List.cons_ne_nil _ _)

theorem exists_resumes (callback : HttpCallback) (segs : List (Timestamp × Bytes)) :
    ∃ pending, (HttpConnection.receiveAll callback {} segs).Resumes pending := by
  induction segs using List.reverseRecOn with
  | nil => exact ⟨[], resumes_fresh []⟩
  | append_singleton segs seg ih =>
      obtain ⟨pending, hresumes⟩ := ih
      rw [receiveAll_append]
      rcases hresumes.receive callback seg with ⟨-, hnext, -⟩ | ⟨-, hnext, -⟩
      · exact ⟨_, hnext⟩
      · exact ⟨_, hnext⟩

/-- The call that shuts the connection down. -/
theorem exists_closing (h : (HttpConnection.receiveAll callback {} segs).connected = false) :
    ∃ before seg after, segs = before ++ [seg] ++ after ∧
      (HttpConnection.receiveAll callback {} before).connected = true ∧
      (HttpConnection.receiveAll callback {} (before ++ [seg])).connected = false := by
  induction segs using List.reverseRecOn with
  | nil => cases h
  | append_singleton segs seg ih =>
      cases hconnected : (HttpConnection.receiveAll callback {} segs).connected with
      | true => exact ⟨segs, seg, [], (List.append_nil _).symm, hconnected, h⟩
      | false =>
          obtain ⟨before, seg', after, rfl, hbefore, hafter⟩ := ih hconnected
          exact ⟨before, seg', after ++ [seg], by simp, hbefore, hafter⟩

/-- A connection that a call shuts down without answering a request is stuck. -/
theorem invoked_of_rejected (h : conn.Resumes pending) (hconnected : conn.connected = true)
    (hclosed : (conn.receive callback seg).connected = false)
    (hsame : (conn.receive callback seg).invoked = conn.invoked) :
    ((conn.receive callback seg).receiveAll callback segs).invoked =
      (conn.receive callback seg).invoked := by
  rcases h.receive callback seg with ⟨-, -, request, hinvoked⟩ | ⟨-, hnext, -, hstays⟩
  · rw [hsame] at hinvoked
    exact absurd hinvoked (by simp)
  · rw [invoked_iff hnext]
    intro _ hbegins
    rw [hclosed, hconnected, Bool.true_and] at hstays
    have hrejected := parseRequest_append_rejected sane_init hstays.symm
      (segs.flatMap Prod.snd)
    exact not_beginsWithRequest_of_rejected hrejected hbegins

/-- Behind a call that answers a request, the connection begins with what is unread. -/
theorem ClosedByRequest.resumes (h : ClosedByRequest callback segs) :
    (HttpConnection.receiveAll callback {} segs).Resumes
      (HttpConnection.receiveAll callback {} segs).inputBuffer := by
  obtain ⟨before, seg, rfl, -, -, hinvoked⟩ := h
  obtain ⟨pending, hresumes⟩ := exists_resumes callback before
  rw [receiveAll_append] at hinvoked ⊢
  rcases hresumes.receive callback seg with ⟨-, hnext, -⟩ | ⟨-, -, hsame, -⟩
  · exact hnext
  · exact absurd hsame hinvoked

/-- **Nothing is executed behind a close** exactly when, behind the call that answers a request
and shuts the connection down, no call follows, or what it has left unread and what arrives
does not begin with a request. -/
theorem silentAfterClose_iff (callback : HttpCallback) (segs : List (Timestamp × Bytes)) :
    SilentAfterClose callback segs ↔
      ∀ pre post, segs = pre ++ post → ClosedByRequest callback pre → post ≠ [] →
        ¬ BeginsWithRequest ((HttpConnection.receiveAll callback {} pre).inputBuffer ++
          post.flatMap Prod.snd) := by
  constructor
  · rintro hsilent pre post rfl hclosed
    have hsame := hsilent pre post rfl (by
      obtain ⟨_, _, _, _, hnow, _⟩ := hclosed
      exact hnow)
    rw [receiveAll_append, invoked_iff hclosed.resumes] at hsame
    exact hsame
  · rintro hnone pre post rfl hclosed
    obtain ⟨before, seg, after, rfl, hbefore, hnow⟩ := exists_closing hclosed
    obtain ⟨pending, hresumes⟩ := exists_resumes callback before
    have hstep : HttpConnection.receiveAll callback {} (before ++ [seg]) =
        (HttpConnection.receiveAll callback {} before).receive callback seg :=
      receiveAll_append ..
    have hquiet {more rest : List (Timestamp × Bytes)} (hmore : after ++ post = more ++ rest) :
        (HttpConnection.receiveAll callback {} (before ++ [seg] ++ more)).invoked =
          (HttpConnection.receiveAll callback {} (before ++ [seg])).invoked := by
      rw [receiveAll_append]
      by_cases hsame : (HttpConnection.receiveAll callback {} (before ++ [seg])).invoked =
          (HttpConnection.receiveAll callback {} before).invoked
      · rw [hstep] at hnow hsame ⊢
        exact invoked_of_rejected hresumes hbefore hnow hsame
      · have hanswers : ClosedByRequest callback (before ++ [seg]) :=
          ⟨before, seg, rfl, hbefore, hnow, hsame⟩
        rw [invoked_iff hanswers.resumes]
        intro hne hbegins
        have hsplit : before ++ [seg] ++ after ++ post = before ++ [seg] ++ (more ++ rest) := by
          rw [List.append_assoc, hmore]
        apply hnone _ _ hsplit hanswers
        · intro hnil
          exact hne (List.append_eq_nil_iff.mp hnil).1
        · rw [List.flatMap_append, ← List.append_assoc]
          exact hbegins.append _
    have hall := hquiet (List.append_nil (after ++ post)).symm
    rw [← List.append_assoc] at hall
    rw [hall, hquiet rfl]

end Runs

/-- A request that asks to close the connection. -/
def closing : Bytes :=
  ascii "GET / HTTP/1.1" ++ crlf ++ ascii "Connection: close" ++ crlf ++ crlf

/-- The application is called again for the request behind it, and nothing is sent back. -/
theorem closing_not_silent :
    (HttpConnection.receiveAll answerOk {} [(0, closing)]).connected = false ∧
      (HttpConnection.receiveAll answerOk {} [(0, closing), (1, getRoot.bytes)]).invoked.length =
        2 ∧
      (HttpConnection.receiveAll answerOk {} [(0, closing), (1, getRoot.bytes)]).sent.length = 1 ∧
      ¬ SilentAfterClose answerOk [(0, closing), (1, getRoot.bytes)] := by
  have hclosed : (HttpConnection.receiveAll answerOk {} [(0, closing)]).connected = false := by
    decide +kernel
  have hbefore : (HttpConnection.receiveAll answerOk {} [(0, closing)]).invoked.length = 1 := by
    decide +kernel
  have hafter : (HttpConnection.receiveAll answerOk {}
      [(0, closing), (1, getRoot.bytes)]).invoked.length = 2 := by decide +kernel
  refine ⟨hclosed, hafter, by decide +kernel, ?_⟩
  intro hsilent
  have hsame := hsilent [(0, closing)] [(1, getRoot.bytes)] rfl hclosed
  rw [hsame, hbefore] at hafter
  cases hafter

end Rmuduo.Http
