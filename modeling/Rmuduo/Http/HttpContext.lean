/-
The HTTP request parser (`http/HttpContext.h`, `http/HttpContext.cc`).

`parseRequest` works on the unread bytes until it needs more of them, or the request is
complete, or malformed. A line that is malformed stays unread, but what it has already set
in the request stays set.

* `requestReader` — one turn of the loop, as a reader of segmented input.
* `parseRequest_eq_drain` — `parseRequest` is a run of `requestReader`.
* `parseRequest_again` — a malformed line is met again, with the same outcome.
* `parseAll_eq` — segments make no difference.
-/

import Rmuduo.Http.HttpRequest
import Rmuduo.Lib.Reader

namespace Rmuduo.Http

open Lib
open Net (Timestamp)

inductive HttpRequestParseState where
  | kExpectRequestLine | kExpectHeaders | kExpectBody | kGotAll
deriving DecidableEq, Repr

structure HttpContext where
  state : HttpRequestParseState := .kExpectRequestLine
  request : HttpRequest := {}
  contentLength : Nat := 0
deriving DecidableEq

def HttpContext.gotAll (context : HttpContext) : Bool := context.state = .kGotAll

def equalCaseInsensitive (lhs rhs : Bytes) : Bool := lhs.map tolower = rhs.map tolower

/-- The target of a request line: the query keeps its question mark, and is left alone when
there is none. -/
def HttpRequest.setTarget (request : HttpRequest) (target : Bytes) : HttpRequest :=
  match splitOnce 63 target with
  | some (path, query) => { request with path := path, query := 63 :: query }
  | none => { request with path := target }

/-- A target is put into the path and the query, and nowhere else. -/
theorem HttpRequest.setTarget_eq (request : HttpRequest) (target : Bytes) :
    request.setTarget target = { request with
      path := (request.setTarget target).path
      query := (request.setTarget target).query } := by
  unfold setTarget
  cases splitOnce 63 target <;> rfl

/-- The version at the end of a request line. -/
def parseVersion (version : Bytes) : Option Version :=
  if version.length = 8 ∧ version.take 7 = ascii "HTTP/1." then
    if byteAt version 7 = 49 then some .kHttp11
    else if byteAt version 7 = 48 then some .kHttp10
    else none
  else none

def processRequestLine (request : HttpRequest) (line : Bytes) : HttpRequest × Bool :=
  match splitOnce 32 line with
  | none => (request, false)
  | some (method, line) =>
      match request.setMethod method with
      | (request, false) => (request, false)
      | (request, true) =>
          match splitOnce 32 line with
          | none => (request, false)
          | some (target, version) =>
              let request := request.setTarget target
              match parseVersion version with
              | none => (request, false)
              | some version => ({ request with version := version }, true)

/-- `parseContentLength`: the number in the first header that is named so, 0 when there is
none, and `none` for the return value `false`. -/
def parseContentLength : List (Bytes × Bytes) → Option Nat
  | [] => some 0
  | (field, value) :: headers =>
      if equalCaseInsensitive field (ascii "Content-Length") then fromChars (trim value)
      else parseContentLength headers

/-- The outcome of `parseRequest`: the context, the unread bytes and the return value. -/
structure Parsed where
  context : HttpContext := {}
  buf : Bytes := []
  ok : Bool := true
deriving DecidableEq

/-- The loop of `parseRequest`. -/
def parseLoop (receiveTime : Timestamp) : Nat → HttpContext → Bytes → Parsed
  | 0, context, buf => ⟨context, buf, true⟩
  | fuel + 1, context, buf =>
      match context.state with
      | .kExpectRequestLine =>
          match findCRLF buf with
          | none => ⟨context, buf, true⟩
          | some crlf =>
              match processRequestLine context.request (buf.take crlf) with
              | (request, true) =>
                  parseLoop receiveTime fuel
                    { context with
                      request := { request with receiveTime := receiveTime }
                      state := .kExpectHeaders } (buf.drop (crlf + 2))
              | (request, false) => ⟨{ context with request := request }, buf, false⟩
      | .kExpectHeaders =>
          match findCRLF buf with
          | none => ⟨context, buf, true⟩
          | some crlf =>
              match splitOnce 58 (buf.take crlf) with
              | some (field, value) =>
                  parseLoop receiveTime fuel
                    { context with request := context.request.addHeader field value }
                    (buf.drop (crlf + 2))
              | none =>
                  match parseContentLength context.request.headers with
                  | none => ⟨{ context with contentLength := 0 }, buf, false⟩
                  | some contentLength =>
                      if 0 < contentLength then
                        parseLoop receiveTime fuel
                          { context with contentLength := contentLength, state := .kExpectBody }
                          (buf.drop (crlf + 2))
                      else
                        ⟨{ context with contentLength := contentLength, state := .kGotAll },
                          buf.drop (crlf + 2), true⟩
      | .kExpectBody =>
          if context.contentLength ≤ buf.length then
            parseLoop receiveTime fuel
              { context with
                request := { context.request with body := buf.take context.contentLength }
                state := .kGotAll } (buf.drop context.contentLength)
          else ⟨context, buf, true⟩
      | .kGotAll => ⟨context, buf, true⟩

/-- `parseRequest`. Every turn but the last two takes bytes from the buffer. -/
def parseRequest (receiveTime : Timestamp) (context : HttpContext) (buf : Bytes) : Parsed :=
  parseLoop receiveTime (buf.length + 2) context buf

/-- `parseRequest` after each segment that arrives. -/
def parseAll (receiveTime : Timestamp) (segs : List Bytes) : Parsed :=
  segs.foldl (fun o seg => parseRequest receiveTime o.context (o.buf ++ seg)) {}

/-! ### One turn of the loop -/

/-- What a line does in the two states that read lines. A context that rejects its line is
what the line leaves of it. -/
def HttpContext.takeLine (receiveTime : Timestamp) (context : HttpContext) (line : Bytes) :
    HttpContext × Bool :=
  if context.state = .kExpectRequestLine then
    match processRequestLine context.request line with
    | (request, true) =>
        ({ context with
          request := { request with receiveTime := receiveTime }
          state := .kExpectHeaders }, true)
    | (request, false) => ({ context with request := request }, false)
  else
    match splitOnce 58 line with
    | some (field, value) =>
        ({ context with request := context.request.addHeader field value }, true)
    | none =>
        match parseContentLength context.request.headers with
        | none => ({ context with contentLength := 0 }, false)
        | some contentLength =>
            ({ context with
              contentLength := contentLength
              state := if 0 < contentLength then .kExpectBody else .kGotAll }, true)

def HttpContext.takeBody (context : HttpContext) (buf : Bytes) : HttpContext :=
  { context with
    request := { context.request with body := buf.take context.contentLength }
    state := .kGotAll }

def HttpContext.expectsLine (context : HttpContext) : Bool :=
  context.state = .kExpectRequestLine ∨ context.state = .kExpectHeaders

def readRequest (receiveTime : Timestamp) (context : HttpContext) (buf : Bytes) :
    Reading HttpContext HttpContext Unit :=
  if context.expectsLine then
    match findCRLF buf with
    | none => .more
    | some crlf =>
        match context.takeLine receiveTime (buf.take crlf) with
        | (next, true) => .item (crlf + 2) next ()
        | (rejected, false) => .fail rejected
  else if context.state = .kExpectBody ∧ 0 < context.contentLength ∧
      context.contentLength ≤ buf.length then
    .item context.contentLength (context.takeBody buf) ()
  else .more

section Reading

variable {receiveTime : Timestamp} {context next : HttpContext} {buf : Bytes}

theorem readRequest_line {crlf : Nat} (hexpects : context.expectsLine = true)
    (hcrlf : findCRLF buf = some crlf) :
    readRequest receiveTime context buf =
      match context.takeLine receiveTime (buf.take crlf) with
      | (next, true) => .item (crlf + 2) next ()
      | (rejected, false) => .fail rejected := by
  unfold readRequest
  rw [if_pos hexpects, hcrlf]

/-- The two ways in which a turn takes bytes. -/
theorem readRequest_item {used : Nat}
    (h : readRequest receiveTime context buf = .item used next ()) :
    (context.expectsLine = true ∧ ∃ crlf, findCRLF buf = some crlf ∧ used = crlf + 2 ∧
        context.takeLine receiveTime (buf.take crlf) = (next, true)) ∨
      (context.state = .kExpectBody ∧ 0 < context.contentLength ∧
        context.contentLength ≤ buf.length ∧ used = context.contentLength ∧
        next = context.takeBody buf) := by
  unfold readRequest at h
  split_ifs at h with hexpects hbody
  · cases hcrlf : findCRLF buf with
    | none =>
        rw [hcrlf] at h
        cases h
    | some crlf =>
        rw [hcrlf] at h
        dsimp only at h
        cases htake : context.takeLine receiveTime (buf.take crlf) with
        | mk next' ok =>
            rw [htake] at h
            cases ok with
            | false => cases h
            | true =>
                cases h
                exact .inl ⟨hexpects, crlf, rfl, rfl, htake⟩
  · cases h
    exact .inr ⟨hbody.1, hbody.2.1, hbody.2.2, rfl, rfl⟩

theorem readRequest_fail {rejected : HttpContext}
    (h : readRequest receiveTime context buf = .fail rejected) :
    context.expectsLine = true ∧ ∃ crlf, findCRLF buf = some crlf ∧
      context.takeLine receiveTime (buf.take crlf) = (rejected, false) := by
  unfold readRequest at h
  split_ifs at h with hexpects
  cases hcrlf : findCRLF buf with
  | none =>
      rw [hcrlf] at h
      cases h
  | some crlf =>
      rw [hcrlf] at h
      dsimp only at h
      cases htake : context.takeLine receiveTime (buf.take crlf) with
      | mk next' ok =>
          rw [htake] at h
          cases ok with
          | true => cases h
          | false =>
              cases h
              exact ⟨hexpects, crlf, rfl, htake⟩

theorem takeLine_append {crlf : Nat} (hcrlf : findCRLF buf = some crlf) (more : Bytes) :
    context.takeLine receiveTime ((buf ++ more).take crlf) =
      context.takeLine receiveTime (buf.take crlf) := by
  obtain ⟨-, -, hlen⟩ := findCRLF_eq_some hcrlf
  rw [List.take_append_of_le_length (by omega)]

end Reading

/-- **The parser as a reader of segmented input.** -/
def requestReader (receiveTime : Timestamp) : Reader UInt8 HttpContext HttpContext Unit where
  read := readRequest receiveTime
  read_nil context := by
    unfold readRequest
    split_ifs with hexpects hbody
    · rfl
    · exact absurd hbody.2.2 (Nat.not_le.mpr hbody.2.1)
    · rfl
  item_used {context buf used next out} h := by
    rcases readRequest_item h with ⟨-, crlf, hcrlf, rfl, -⟩ | ⟨-, hpos, hlen, rfl, -⟩
    · exact ⟨Nat.succ_pos _, (findCRLF_eq_some hcrlf).2.2⟩
    · exact ⟨hpos, hlen⟩
  item_append {context buf used next out} h more := by
    rcases readRequest_item h with ⟨hexpects, crlf, hcrlf, rfl, htake⟩ |
      ⟨hstate, hpos, hlen, rfl, rfl⟩
    · rw [readRequest_line hexpects (findCRLF_append hcrlf more), takeLine_append hcrlf, htake]
    · have hexpects : ¬ context.expectsLine = true := by simp [HttpContext.expectsLine, hstate]
      have hlen' : context.contentLength ≤ (buf ++ more).length := by
        rw [List.length_append]
        exact Nat.le_trans hlen (Nat.le_add_right _ _)
      unfold readRequest
      rw [if_neg hexpects, if_pos ⟨hstate, hpos, hlen'⟩]
      unfold HttpContext.takeBody
      rw [List.take_append_of_le_length hlen]
  fail_append {context buf rejected} h more := by
    obtain ⟨hexpects, crlf, hcrlf, htake⟩ := readRequest_fail h
    rw [readRequest_line hexpects (findCRLF_append hcrlf more), takeLine_append hcrlf, htake]

/-! ### The loop is a run of the reader -/

/-- A context that waits for a body waits for some bytes. -/
def HttpContext.Sane (context : HttpContext) : Prop :=
  context.state = .kExpectBody → 0 < context.contentLength

/-- Where a run of the reader leaves the parser. -/
def outcome (d : Drained UInt8 HttpContext HttpContext Unit) : Parsed :=
  ⟨d.error.getD d.state, d.rest, d.error.isNone⟩

section Loop

variable {receiveTime : Timestamp} {context next rejected : HttpContext} {buf : Bytes}

theorem sane_init : ({} : HttpContext).Sane := fun h => by cases h

theorem takeLine_sane {line : Bytes} {ok : Bool} (hexpects : context.expectsLine = true)
    (h : context.takeLine receiveTime line = (next, ok)) : next.Sane := by
  have hstate : context.state ≠ .kExpectBody := by
    intro hbody
    simp [HttpContext.expectsLine, hbody] at hexpects
  intro hbody
  unfold HttpContext.takeLine at h
  split_ifs at h with hline
  · split at h <;> cases h
    · cases hbody
    · exact absurd hbody hstate
  · split at h
    · cases h
      exact absurd hbody hstate
    · split at h
      · cases h
        exact absurd hbody hstate
      · cases h
        dsimp only at hbody ⊢
        split_ifs at hbody with hpos
        exact hpos

theorem readRequest_sane {used : Nat}
    (h : readRequest receiveTime context buf = .item used next ()) : next.Sane := by
  rcases readRequest_item h with ⟨hexpects, crlf, -, -, htake⟩ | ⟨-, -, -, -, rfl⟩
  · exact takeLine_sane hexpects htake
  · intro hbody
    cases hbody

/-- One turn of the loop is one reading. -/
theorem parseLoop_succ (fuel : Nat) (sane : context.Sane) :
    parseLoop receiveTime (fuel + 1) context buf =
      match readRequest receiveTime context buf with
      | .more => ⟨context, buf, true⟩
      | .fail rejected => ⟨rejected, buf, false⟩
      | .item used next _ => parseLoop receiveTime fuel next (buf.drop used) := by
  obtain ⟨state, request, contentLength⟩ := context
  cases state with
  | kExpectRequestLine =>
      simp only [parseLoop, readRequest, HttpContext.expectsLine]
      cases findCRLF buf with
      | none => rfl
      | some crlf =>
          simp only [HttpContext.takeLine, true_or, decide_true, if_true]
          cases processRequestLine request (buf.take crlf) with
          | mk request' ok => cases ok <;> rfl
  | kExpectHeaders =>
      simp only [parseLoop, readRequest, HttpContext.expectsLine]
      cases findCRLF buf with
      | none => rfl
      | some crlf =>
          simp only [HttpContext.takeLine, reduceCtorEq, false_or, decide_true, if_true, if_false]
          cases splitOnce 58 (buf.take crlf) with
          | some parts => rfl
          | none =>
              cases parseContentLength request.headers with
              | none => rfl
              | some length =>
                  dsimp only
                  split_ifs
                  · rfl
                  · cases fuel <;> rfl
  | kExpectBody =>
      have hpos : 0 < contentLength := sane rfl
      simp only [parseLoop, readRequest, HttpContext.expectsLine, reduceCtorEq, or_self,
        decide_false, Bool.false_eq_true, if_false, hpos, true_and]
      split_ifs <;> rfl
  | kGotAll => simp [parseLoop, readRequest, HttpContext.expectsLine]

/-- With fuel for every byte, the loop is a run of the reader. -/
theorem parseLoop_eq_drain (fuel : Nat) (context : HttpContext) (buf : Bytes)
    (sane : context.Sane) (hfuel : buf.length < fuel) :
    parseLoop receiveTime fuel context buf =
      outcome ((requestReader receiveTime).drain context buf) := by
  induction fuel generalizing context buf with
  | zero => exact absurd hfuel (Nat.not_lt_zero _)
  | succ fuel ih =>
      rw [parseLoop_succ fuel sane]
      cases hread : readRequest receiveTime context buf with
      | more => rw [Reader.drain_of_more (R := requestReader receiveTime) hread]; rfl
      | fail rejected => rw [Reader.drain_of_fail (R := requestReader receiveTime) hread]; rfl
      | item used next out =>
          obtain ⟨hpos, hle⟩ := (requestReader receiveTime).item_used hread
          have hless : (buf.drop used).length < fuel := by
            rw [List.length_drop]
            omega
          rw [Reader.drain_of_item (R := requestReader receiveTime) hread]
          exact ih next (buf.drop used) (readRequest_sane hread) hless

theorem parseRequest_eq_drain (context : HttpContext) (buf : Bytes) (sane : context.Sane) :
    parseRequest receiveTime context buf =
      outcome ((requestReader receiveTime).drain context buf) :=
  parseLoop_eq_drain _ context buf sane (Nat.lt_add_of_pos_right (by decide))

/-! ### Meeting a malformed line again -/

/-- Setting the parts of a target twice sets what setting them once does. -/
theorem setTarget_again (request : HttpRequest) (target : Bytes) :
    (request.setTarget target).setTarget target = request.setTarget target := by
  unfold HttpRequest.setTarget
  cases splitOnce 63 target <;> rfl

theorem processRequestLine_again {request request' : HttpRequest} {line : Bytes}
    (h : processRequestLine request line = (request', false)) :
    processRequestLine request' line = (request', false) := by
  unfold processRequestLine at h ⊢
  cases hmethod : splitOnce 32 line with
  | none => rfl
  | some parts =>
      obtain ⟨m, line'⟩ := parts
      rw [hmethod] at h
      dsimp only [HttpRequest.setMethod] at h ⊢
      cases hknown : kMethods.lookup m with
      | none =>
          rw [hknown] at h
          cases h
          rfl
      | some method =>
          rw [hknown] at h
          dsimp only at h ⊢
          cases htarget : splitOnce 32 line' with
          | none =>
              rw [htarget] at h
              cases h
              rfl
          | some parts' =>
              obtain ⟨target, version⟩ := parts'
              rw [htarget] at h
              dsimp only at h ⊢
              cases hversion : parseVersion version with
              | some v =>
                  rw [hversion] at h
                  cases h
              | none =>
                  rw [hversion] at h
                  cases h
                  dsimp only
                  generalize hr : ({ request with method := method } : HttpRequest) = r
                  have hsame : ({ r.setTarget target with method := method } : HttpRequest) =
                      r.setTarget target := by
                    have hm : (r.setTarget target).method = method :=
                      (congrArg HttpRequest.method (r.setTarget_eq target)).trans (by rw [← hr])
                    rw [← hm]
                  rw [hsame, setTarget_again]

theorem takeLine_again {line : Bytes}
    (h : context.takeLine receiveTime line = (rejected, false)) :
    rejected.takeLine receiveTime line = (rejected, false) ∧
      rejected.state = context.state := by
  unfold HttpContext.takeLine at h ⊢
  split_ifs at h with hstate
  · cases hline : processRequestLine context.request line with
    | mk request ok =>
        rw [hline] at h
        cases ok with
        | true => cases h
        | false =>
            cases h
            dsimp only
            rw [if_pos hstate, processRequestLine_again hline]
            exact ⟨rfl, rfl⟩
  · cases hcolon : splitOnce 58 line with
    | some parts =>
        rw [hcolon] at h
        cases h
    | none =>
        rw [hcolon] at h
        dsimp only at h
        cases hlength : parseContentLength context.request.headers with
        | some n =>
            rw [hlength] at h
            cases h
        | none =>
            rw [hlength] at h
            cases h
            dsimp only
            rw [if_neg hstate, hlength]
            exact ⟨rfl, rfl⟩

theorem readRequest_again (h : readRequest receiveTime context buf = .fail rejected) :
    readRequest receiveTime rejected buf = .fail rejected := by
  obtain ⟨hexpects, crlf, hcrlf, htake⟩ := readRequest_fail h
  obtain ⟨hagain, hstate⟩ := takeLine_again htake
  have hexpects' : rejected.expectsLine = true := by
    unfold HttpContext.expectsLine at hexpects ⊢
    rwa [hstate]
  rw [readRequest_line hexpects' hcrlf, hagain]

theorem rejected_sane (h : readRequest receiveTime context buf = .fail rejected) :
    rejected.Sane := by
  obtain ⟨hexpects, -⟩ := readRequest_fail (readRequest_again h)
  intro hbody
  simp [HttpContext.expectsLine, hbody] at hexpects

theorem drain_sane (sane : context.Sane) :
    ((requestReader receiveTime).drain context buf).state.Sane :=
  Reader.drain_invariant (R := requestReader receiveTime) (I := HttpContext.Sane)
    (fun _ _ _ _ _ hread _ => readRequest_sane hread) context buf sane

theorem parseRequest_sane (sane : context.Sane) :
    (parseRequest receiveTime context buf).context.Sane := by
  rw [parseRequest_eq_drain context buf sane]
  have hread := (requestReader receiveTime).read_drain context buf
  have hstate : ((requestReader receiveTime).drain context buf).state.Sane := drain_sane sane
  generalize (requestReader receiveTime).drain context buf = d at hread hstate
  obtain ⟨state, rest, items, error⟩ := d
  cases error with
  | none => exact hstate
  | some rejected => exact rejected_sane hread

end Loop

/-- **Calling again.** With more bytes behind what a call has left unread, the next call ends
where one call on all the bytes would have ended. -/
theorem parseRequest_again (receiveTime : Timestamp) {context : HttpContext} (sane : context.Sane)
    (buf more : Bytes) :
    let o := parseRequest receiveTime context buf
    parseRequest receiveTime o.context (o.buf ++ more) =
      parseRequest receiveTime context (buf ++ more) := by
  dsimp only
  rw [parseRequest_eq_drain context buf sane, parseRequest_eq_drain context (buf ++ more) sane,
    Reader.drain_append]
  have hread := (requestReader receiveTime).read_drain context buf
  have hsane : ((requestReader receiveTime).drain context buf).state.Sane := drain_sane sane
  generalize (requestReader receiveTime).drain context buf = d at hread hsane ⊢
  obtain ⟨state, rest, items, error⟩ := d
  cases error with
  | none => exact parseRequest_eq_drain state (rest ++ more) hsane
  | some rejected =>
      -- The malformed line is at the front, for both contexts.
      have hread : readRequest receiveTime state rest = .fail rejected := hread
      have hagain := readRequest_again hread
      have hfirst := (requestReader receiveTime).fail_append hread more
      have hsecond := (requestReader receiveTime).fail_append hagain more
      have hparse : parseRequest receiveTime rejected (rest ++ more) = _ :=
        parseRequest_eq_drain rejected (rest ++ more) (rejected_sane hread)
      rw [Reader.drain_of_fail hsecond] at hparse
      rw [Reader.drain_of_fail hfirst]
      exact hparse

/-- More bytes do not help a malformed line. -/
theorem parseRequest_append_rejected {receiveTime : Timestamp} {context : HttpContext}
    {buf : Bytes} (sane : context.Sane) (h : (parseRequest receiveTime context buf).ok = false)
    (more : Bytes) : (parseRequest receiveTime context (buf ++ more)).ok = false := by
  rw [parseRequest_eq_drain context buf sane] at h
  rw [parseRequest_eq_drain context (buf ++ more) sane, Reader.drain_append]
  have hread := (requestReader receiveTime).read_drain context buf
  generalize (requestReader receiveTime).drain context buf = d at h hread ⊢
  obtain ⟨state, rest, items, error⟩ := d
  cases error with
  | none => cases h
  | some rejected =>
      rw [Reader.drain_of_fail ((requestReader receiveTime).fail_append hread more)]
      rfl

theorem parseRequest_gotAll (receiveTime : Timestamp) {context : HttpContext}
    (h : context.state = .kGotAll) (buf : Bytes) :
    parseRequest receiveTime context buf = ⟨context, buf, true⟩ := by
  unfold parseRequest parseLoop
  rw [h]

theorem foldl_parseRequest (receiveTime : Timestamp) (segs : List Bytes) (buf : Bytes) :
    segs.foldl (fun o seg => parseRequest receiveTime o.context (o.buf ++ seg))
        (parseRequest receiveTime {} buf) =
      parseRequest receiveTime {} (buf ++ segs.flatten) := by
  induction segs generalizing buf with
  | nil => simp
  | cons seg segs ih =>
      rw [List.foldl_cons, parseRequest_again receiveTime sane_init, ih, List.flatten_cons,
        List.append_assoc]

/-- **Segments make no difference.** Fed in segments, the parser ends with the same context,
the same unread bytes and the same return value as in one call. -/
theorem parseAll_eq (receiveTime : Timestamp) (segs : List Bytes) :
    parseAll receiveTime segs = parseRequest receiveTime {} segs.flatten :=
  foldl_parseRequest receiveTime segs []

end Rmuduo.Http
