/-
The request format (the comments in `http/HttpRequest.h`): a request line, header lines, an
empty line, and as many bytes of body as `Content-Length` says.

* `WireRequest` — a well-formed request, as a client writes it.
* `parseRequest_wire` — what the parser makes of one, whatever follows it.
* `parseRequest_complete` — it is accepted, and nothing of it is lost.
-/

import Rmuduo.Http.HttpContext

namespace Rmuduo.Http

open Lib
open Net (Timestamp)

/-! ### Requests on the wire -/

/-- `method2Str`. -/
def Method.text : Method → Bytes
  | .kInvalid => ascii "UNKNOWN"
  | .kGet => ascii "GET"
  | .kPost => ascii "POST"
  | .kHead => ascii "HEAD"
  | .kPut => ascii "PUT"
  | .kDelete => ascii "DELETE"

def Version.text : Version → Bytes
  | .kUnknown => []
  | .kHttp10 => ascii "HTTP/1.0"
  | .kHttp11 => ascii "HTTP/1.1"

/-- No line end, and no part of one. -/
def OneLine (data : Bytes) : Prop := 13 ∉ data ∧ 10 ∉ data

/-- A header field, with the blanks on both sides of its value. -/
structure HeaderField where
  name : Bytes
  before : Bytes
  value : Bytes
  after : Bytes
  name_oneLine : OneLine name
  name_noColon : 58 ∉ name
  blanks : ∀ b ∈ before ++ after, b = 32 ∨ b = 9
  value_oneLine : OneLine value
  value_trimmed : Trimmed value

namespace HeaderField

def line (f : HeaderField) : Bytes := f.name ++ 58 :: (f.before ++ f.value ++ f.after)

def entry (f : HeaderField) : Bytes × Bytes := (f.name, f.value)

def isContentLength (f : HeaderField) : Bool :=
  equalCaseInsensitive f.name (ascii "Content-Length")

end HeaderField

/-- A well-formed request. -/
structure WireRequest where
  method : Method
  target : Bytes
  version : Version
  fields : List HeaderField
  body : Bytes
  method_known : method ≠ .kInvalid
  target_oneLine : OneLine target
  target_noSpace : 32 ∉ target
  version_known : version ≠ .kUnknown
  names_nodup : (fields.map HeaderField.name).Nodup
  /-- A `size_t` counts the body. -/
  body_size : body.length < 2 ^ 64
  /-- One `Content-Length`, in any letter case, says how long the body is. An empty body
  needs none. -/
  length_field : (fields.filter HeaderField.isContentLength = [] ∧ body = []) ∨
    ∃ f, fields.filter HeaderField.isContentLength = [f] ∧ Denotes f.value body.length

namespace WireRequest

def requestLine (r : WireRequest) : Bytes :=
  r.method.text ++ 32 :: (r.target ++ 32 :: r.version.text)

def bytes (r : WireRequest) : Bytes :=
  r.requestLine ++ crlf ++ (r.fields.flatMap fun f => f.line ++ crlf) ++ crlf ++ r.body

/-- What the parser makes of it. -/
def parsed (receiveTime : Timestamp) (r : WireRequest) : HttpRequest :=
  HttpRequest.setTarget
    { method := r.method
      version := r.version
      body := r.body
      receiveTime := receiveTime
      headers := OrderedMap.assignAll [] (r.fields.map HeaderField.entry) }
    r.target

theorem parsed_method (r : WireRequest) (receiveTime : Timestamp) :
    (r.parsed receiveTime).method = r.method :=
  congrArg HttpRequest.method (HttpRequest.setTarget_eq ..)

theorem parsed_version (r : WireRequest) (receiveTime : Timestamp) :
    (r.parsed receiveTime).version = r.version :=
  congrArg HttpRequest.version (HttpRequest.setTarget_eq ..)

theorem parsed_body (r : WireRequest) (receiveTime : Timestamp) :
    (r.parsed receiveTime).body = r.body :=
  congrArg HttpRequest.body (HttpRequest.setTarget_eq ..)

theorem parsed_headers (r : WireRequest) (receiveTime : Timestamp) :
    (r.parsed receiveTime).headers =
      OrderedMap.assignAll [] (r.fields.map HeaderField.entry) :=
  congrArg HttpRequest.headers (HttpRequest.setTarget_eq ..)

/-- The path and the query make up the target. -/
theorem parsed_target (r : WireRequest) (receiveTime : Timestamp) :
    (r.parsed receiveTime).path ++ (r.parsed receiveTime).query = r.target ∧
      63 ∉ (r.parsed receiveTime).path := by
  unfold parsed HttpRequest.setTarget
  cases hsplit : splitOnce 63 r.target with
  | none => exact ⟨List.append_nil _, splitOnce_eq_none.mp hsplit⟩
  | some parts =>
      obtain ⟨htarget, hpath⟩ := splitOnce_eq_some.mp hsplit
      exact ⟨htarget.symm, hpath⟩

end WireRequest

/-! ### Lines -/

section Lines

variable {receiveTime : Timestamp} {context next : HttpContext} {line rest : Bytes}

@[simp] theorem outcome_prepend (ws : List Unit)
    (d : Drained UInt8 HttpContext HttpContext Unit) : outcome (d.prepend ws) = outcome d := rfl

theorem takeLine_cut (hline : findCRLF line = none) (rest : Bytes) :
    findCRLF (line ++ crlf ++ rest) = some line.length ∧
      (line ++ crlf ++ rest).take line.length = line ∧
      (line ++ crlf ++ rest).drop (line.length + 2) = rest := by
  refine ⟨findCRLF_line hline rest, ?_, ?_⟩
  · rw [List.append_assoc, List.take_left']
    rfl
  · rw [List.drop_left']
    rw [List.length_append]
    rfl

/-- A line that is accepted. -/
theorem drain_line (hexpects : context.expectsLine = true) (hline : findCRLF line = none)
    (htake : context.takeLine receiveTime line = (next, true)) :
    outcome ((requestReader receiveTime).drain context (line ++ crlf ++ rest)) =
      outcome ((requestReader receiveTime).drain next rest) := by
  obtain ⟨hcrlf, htaken, hleft⟩ := takeLine_cut hline rest
  have hread : readRequest receiveTime context (line ++ crlf ++ rest) =
      .item (line.length + 2) next () := by
    rw [readRequest_line hexpects hcrlf, htaken, htake]
  rw [Reader.drain_of_item (R := requestReader receiveTime) hread, hleft, outcome_prepend]

/-- A line that is rejected. -/
theorem drain_line_rejected {rejected : HttpContext} (hexpects : context.expectsLine = true)
    (hline : findCRLF line = none)
    (htake : context.takeLine receiveTime line = (rejected, false)) :
    outcome ((requestReader receiveTime).drain context (line ++ crlf ++ rest)) =
      ⟨rejected, line ++ crlf ++ rest, false⟩ := by
  obtain ⟨hcrlf, htaken, -⟩ := takeLine_cut hline rest
  have hread : readRequest receiveTime context (line ++ crlf ++ rest) = .fail rejected := by
    rw [readRequest_line hexpects hcrlf, htaken, htake]
  rw [Reader.drain_of_fail (R := requestReader receiveTime) hread]
  rfl

def HttpContext.addHeaders (context : HttpContext) (entries : List (Bytes × Bytes)) :
    HttpContext :=
  { context with
    request := { context.request with
      headers := OrderedMap.assignAll context.request.headers entries } }

/-- The lines of a header section, each with a colon. -/
theorem drain_headers (lines : List (Bytes × Bytes))
    (hlines : ∀ p ∈ lines, 58 ∉ p.1 ∧ findCRLF (p.1 ++ 58 :: p.2) = none)
    (hstate : context.state = .kExpectHeaders) :
    outcome ((requestReader receiveTime).drain context
        ((lines.flatMap fun p => p.1 ++ 58 :: p.2 ++ crlf) ++ rest)) =
      outcome ((requestReader receiveTime).drain
        (context.addHeaders (lines.map fun p => (p.1, trim p.2))) rest) := by
  induction lines generalizing context with
  | nil => rfl
  | cons p lines ih =>
      obtain ⟨hcolon, hline⟩ := hlines p List.mem_cons_self
      have hexpects : context.expectsLine = true := by simp [HttpContext.expectsLine, hstate]
      have htake : context.takeLine receiveTime (p.1 ++ 58 :: p.2) =
          ({ context with request := context.request.addHeader p.1 p.2 }, true) := by
        unfold HttpContext.takeLine
        rw [hstate, if_neg (by simp), splitOnce_of_not_mem hcolon]
      rw [List.flatMap_cons, List.append_assoc, drain_line hexpects hline htake]
      refine ih ?_ ?_
      · intro q hq
        exact hlines q (List.mem_cons_of_mem _ hq)
      · exact hstate

end Lines

/-! ### The parts of a request -/

section Parts

variable {r : WireRequest} {f : HeaderField}

theorem OneLine.append {xs ys : Bytes} (hxs : OneLine xs) (hys : OneLine ys) :
    OneLine (xs ++ ys) := by
  constructor
  · rintro h
    exact (List.mem_append.mp h).elim hxs.1 hys.1
  · rintro h
    exact (List.mem_append.mp h).elim hxs.2 hys.2

theorem OneLine.cons {b : UInt8} {xs : Bytes} (hxs : OneLine xs) (hcr : b ≠ 13) (hlf : b ≠ 10) :
    OneLine (b :: xs) := by
  constructor
  · rintro h
    rcases List.mem_cons.mp h with h | h
    · exact hcr h.symm
    · exact hxs.1 h
  · rintro h
    rcases List.mem_cons.mp h with h | h
    · exact hlf h.symm
    · exact hxs.2 h

theorem OneLine.findCRLF {xs : Bytes} (h : OneLine xs) : findCRLF xs = none :=
  findCRLF_none h.1

theorem Method.text_oneLine (m : Method) : OneLine m.text := by
  cases m <;> exact ⟨by decide, by decide⟩

theorem Method.text_noSpace (m : Method) : 32 ∉ m.text := by
  cases m <;> decide

theorem Version.text_oneLine (v : Version) : OneLine v.text := by
  cases v <;> exact ⟨by decide, by decide⟩

theorem lookup_text {m : Method} (h : m ≠ .kInvalid) : kMethods.lookup m.text = some m := by
  cases m with
  | kInvalid => exact absurd rfl h
  | kGet => decide
  | kPost => decide
  | kHead => decide
  | kPut => decide
  | kDelete => decide

theorem parseVersion_text {v : Version} (h : v ≠ .kUnknown) : parseVersion v.text = some v := by
  cases v with
  | kUnknown => exact absurd rfl h
  | kHttp10 => decide
  | kHttp11 => decide

namespace HeaderField

theorem blanks_oneLine {xs : Bytes} (h : ∀ b ∈ xs, b = 32 ∨ b = 9) : OneLine xs := by
  constructor
  · intro hmem
    rcases h 13 hmem with h | h <;> exact absurd h (by decide)
  · intro hmem
    rcases h 10 hmem with h | h <;> exact absurd h (by decide)

theorem isspace_of_blank {b : UInt8} (h : b = 32 ∨ b = 9) : isspace b = true := by
  rcases h with rfl | rfl <;> decide

theorem line_oneLine (f : HeaderField) : OneLine f.line := by
  have hbefore := blanks_oneLine fun b hb => f.blanks b (List.mem_append_left _ hb)
  have hafter := blanks_oneLine fun b hb => f.blanks b (List.mem_append_right _ hb)
  exact f.name_oneLine.append
    (((hbefore.append f.value_oneLine).append hafter).cons (by decide) (by decide))

theorem trim_value (f : HeaderField) : trim (f.before ++ f.value ++ f.after) = f.value :=
  trim_padded (fun b hb => isspace_of_blank (f.blanks b (List.mem_append_left _ hb)))
    f.value_trimmed (fun b hb => isspace_of_blank (f.blanks b (List.mem_append_right _ hb)))

end HeaderField

theorem requestLine_findCRLF (r : WireRequest) : findCRLF r.requestLine = none :=
  (r.method.text_oneLine.append (((r.target_oneLine.append
    (r.version.text_oneLine.cons (by decide) (by decide))).cons (by decide)
      (by decide)))).findCRLF

theorem processRequestLine_text {method : Method} {target : Bytes} {version : Version}
    (hmethod : method ≠ .kInvalid) (htarget : 32 ∉ target) (hversion : version ≠ .kUnknown) :
    processRequestLine {} (method.text ++ 32 :: (target ++ 32 :: version.text)) =
      ({ HttpRequest.setTarget { method := method } target with version := version }, true) := by
  unfold processRequestLine
  rw [splitOnce_of_not_mem method.text_noSpace]
  dsimp only [HttpRequest.setMethod]
  rw [lookup_text hmethod]
  dsimp only
  rw [splitOnce_of_not_mem htarget]
  dsimp only
  rw [parseVersion_text hversion]

/-- The request line of a well-formed request. -/
theorem processRequestLine_wire (r : WireRequest) :
    processRequestLine {} r.requestLine =
      ({ HttpRequest.setTarget { method := r.method } r.target with version := r.version },
        true) :=
  processRequestLine_text r.method_known r.target_noSpace r.version_known

end Parts

/-! ### The length of the body -/

section Length

/-- The length that one header among the headers declares. -/
theorem parseContentLength_of_mem {headers : List (Bytes × Bytes)} {value : Bytes}
    (hsome : ∃ e ∈ headers, equalCaseInsensitive e.1 (ascii "Content-Length") = true)
    (hall : ∀ e ∈ headers, equalCaseInsensitive e.1 (ascii "Content-Length") = true →
      e.2 = value) :
    parseContentLength headers = fromChars (trim value) := by
  induction headers with
  | nil =>
      obtain ⟨e, he, -⟩ := hsome
      cases he
  | cons e headers ih =>
      obtain ⟨field, v⟩ := e
      unfold parseContentLength
      by_cases hfield : equalCaseInsensitive field (ascii "Content-Length") = true
      · rw [if_pos hfield, ← hall _ List.mem_cons_self hfield]
      · rw [if_neg hfield]
        apply ih
        · obtain ⟨e, he, hname⟩ := hsome
          rcases List.mem_cons.mp he with rfl | he
          · exact absurd hname hfield
          · exact ⟨e, he, hname⟩
        · intro e he
          exact hall e (List.mem_cons_of_mem _ he)

theorem parseContentLength_of_none {headers : List (Bytes × Bytes)}
    (hnone : ∀ e ∈ headers, equalCaseInsensitive e.1 (ascii "Content-Length") ≠ true) :
    parseContentLength headers = some 0 := by
  induction headers with
  | nil => rfl
  | cons e headers ih =>
      obtain ⟨field, v⟩ := e
      unfold parseContentLength
      rw [if_neg (hnone _ List.mem_cons_self)]
      exact ih fun e he => hnone e (List.mem_cons_of_mem _ he)

variable (r : WireRequest)

theorem mem_headers {e : Bytes × Bytes} :
    e ∈ OrderedMap.assignAll [] (r.fields.map HeaderField.entry) ↔
      ∃ f ∈ r.fields, f.entry = e := by
  have hkeys : ((r.fields.map HeaderField.entry).map Prod.fst).Nodup := by
    rw [List.map_map]
    exact r.names_nodup
  rw [OrderedMap.mem_assignAll_iff hkeys, List.mem_map]

/-- A well-formed request declares the length of its body. -/
theorem parseContentLength_wire :
    parseContentLength (OrderedMap.assignAll [] (r.fields.map HeaderField.entry)) =
      some r.body.length := by
  rcases r.length_field with ⟨hnone, hbody⟩ | ⟨f, hone, hvalue⟩
  · rw [hbody]
    apply parseContentLength_of_none
    intro e he hname
    obtain ⟨f, hf, rfl⟩ := (mem_headers r).mp he
    have hmem : f ∈ r.fields.filter HeaderField.isContentLength :=
      List.mem_filter.mpr ⟨hf, hname⟩
    rw [hnone] at hmem
    cases hmem
  · have hf : f ∈ r.fields.filter HeaderField.isContentLength := by
      rw [hone]
      exact List.mem_singleton_self f
    obtain ⟨hmem, hname⟩ := List.mem_filter.mp hf
    rw [parseContentLength_of_mem ⟨f.entry, (mem_headers r).mpr ⟨f, hmem, rfl⟩, hname⟩,
      trim_trimmed f.value_trimmed]
    · exact fromChars_eq_some.mpr ⟨hvalue, r.body_size⟩
    · intro e he hsame
      obtain ⟨g, hg, rfl⟩ := (mem_headers r).mp he
      have hmem' : g ∈ r.fields.filter HeaderField.isContentLength :=
        List.mem_filter.mpr ⟨hg, hsame⟩
      rw [hone] at hmem'
      rw [List.mem_singleton.mp hmem']
      rfl

end Length

/-! ### Whole requests -/

section Whole

variable {receiveTime : Timestamp} {context : HttpContext}

/-- A request that is complete is left alone. -/
theorem drain_gotAll (h : context.state = .kGotAll) (buf : Bytes) :
    outcome ((requestReader receiveTime).drain context buf) = ⟨context, buf, true⟩ := by
  have hread : readRequest receiveTime context buf = .more := by
    simp [readRequest, HttpContext.expectsLine, h]
  rw [Reader.drain_of_more (R := requestReader receiveTime) hread]
  rfl

/-- The empty line, and the body behind it. -/
theorem drain_end {body : Bytes} (hstate : context.state = .kExpectHeaders)
    (hbody : context.request.body = [])
    (hlength : parseContentLength context.request.headers = some body.length) (rest : Bytes) :
    outcome ((requestReader receiveTime).drain context ([] ++ crlf ++ (body ++ rest))) =
      ⟨⟨.kGotAll, { context.request with body := body }, body.length⟩, rest, true⟩ := by
  have hexpects : context.expectsLine = true := by simp [HttpContext.expectsLine, hstate]
  have htake : context.takeLine receiveTime [] =
      ({ context with
        contentLength := body.length
        state := if 0 < body.length then .kExpectBody else .kGotAll }, true) := by
    unfold HttpContext.takeLine
    rw [if_neg (by simp [hstate])]
    dsimp only [splitOnce]
    rw [hlength]
  rw [drain_line hexpects rfl htake]
  by_cases hpos : 0 < body.length
  · rw [if_pos hpos]
    have hread : (requestReader receiveTime).read
        ⟨.kExpectBody, context.request, body.length⟩ (body ++ rest) =
        .item body.length ⟨.kGotAll, { context.request with body := body }, body.length⟩ () := by
      simp [requestReader, readRequest, HttpContext.expectsLine, HttpContext.takeBody, hpos]
    rw [Reader.drain_of_item hread, List.drop_left, outcome_prepend, drain_gotAll rfl]
  · rw [if_neg hpos]
    have hnil : body = [] := List.eq_nil_of_length_eq_zero (Nat.eq_zero_of_not_pos hpos)
    subst hnil
    have hsame : ({ context.request with body := [] } : HttpRequest) = context.request := by
      rw [← hbody]
    rw [drain_gotAll rfl, hsame]
    rfl

end Whole

/-- **A well-formed request** is parsed as it was meant, and nothing behind it is touched. -/
theorem parseRequest_wire (receiveTime : Timestamp) (r : WireRequest) (rest : Bytes) :
    parseRequest receiveTime {} (r.bytes ++ rest) =
      ⟨⟨.kGotAll, r.parsed receiveTime, r.body.length⟩, rest, true⟩ := by
  have hbytes : r.bytes ++ rest = r.requestLine ++ crlf ++
      (((r.fields.map fun f => (f.name, f.before ++ f.value ++ f.after)).flatMap
        fun p => p.1 ++ 58 :: p.2 ++ crlf) ++ ([] ++ crlf ++ (r.body ++ rest))) := by
    simp [WireRequest.bytes, HeaderField.line, List.flatMap_map, List.append_assoc]
  have hline : HttpContext.takeLine receiveTime {} r.requestLine =
      (⟨.kExpectHeaders, { HttpRequest.setTarget { method := r.method } r.target with
        version := r.version, receiveTime := receiveTime }, 0⟩, true) := by
    unfold HttpContext.takeLine
    rw [if_pos rfl, processRequestLine_wire]
  have hentries : (r.fields.map fun f => (f.name, f.before ++ f.value ++ f.after)).map
      (fun p => (p.1, trim p.2)) = r.fields.map HeaderField.entry := by
    rw [List.map_map]
    refine List.map_congr_left fun f _ => ?_
    exact congrArg (Prod.mk f.name) f.trim_value
  rw [parseRequest_eq_drain {} _ sane_init, hbytes,
    drain_line rfl (requestLine_findCRLF r) hline, drain_headers _ ?_ rfl, hentries,
    drain_end rfl ?_ ?_]
  · unfold WireRequest.parsed HttpRequest.setTarget HttpContext.addHeaders
    cases splitOnce 63 r.target <;> rfl
  · unfold HttpRequest.setTarget HttpContext.addHeaders
    cases splitOnce 63 r.target <;> rfl
  · have hheaders : (HttpRequest.setTarget { method := r.method } r.target).headers = [] :=
      congrArg HttpRequest.headers (HttpRequest.setTarget_eq ..)
    dsimp only [HttpContext.addHeaders]
    rw [hheaders]
    exact parseContentLength_wire r
  · intro p hp
    obtain ⟨f, -, rfl⟩ := List.mem_map.mp hp
    exact ⟨f.name_noColon, f.line_oneLine.findCRLF⟩

/-- **Completeness.** A well-formed request is accepted, whatever follows it: method,
version, headers and body come back as they were sent, path and query make up the target,
and what follows is left in the buffer. -/
theorem parseRequest_complete (receiveTime : Timestamp) (r : WireRequest) (rest : Bytes) :
    let o := parseRequest receiveTime {} (r.bytes ++ rest)
    o.ok = true ∧ o.context.gotAll = true ∧ o.buf = rest ∧
      o.context.request.method = r.method ∧ o.context.request.version = r.version ∧
      o.context.request.body = r.body ∧
      o.context.request.path ++ o.context.request.query = r.target ∧
      63 ∉ o.context.request.path ∧
      (∀ f ∈ r.fields, o.context.request.getHeader f.name = f.value) ∧
      ∀ e, e ∈ o.context.request.headers ↔ ∃ f ∈ r.fields, f.entry = e := by
  rw [parseRequest_wire]
  have htarget := r.parsed_target receiveTime
  have hheaders := r.parsed_headers receiveTime
  refine ⟨rfl, rfl, rfl, r.parsed_method receiveTime, r.parsed_version receiveTime,
    r.parsed_body receiveTime, htarget.1, htarget.2, ?_, ?_⟩
  · intro f hf
    have hmem : f.entry ∈ (r.parsed receiveTime).headers := by
      rw [hheaders]
      exact (mem_headers r).mpr ⟨f, hf, rfl⟩
    have hordered : OrderedMap.Ordered (r.parsed receiveTime).headers := by
      rw [hheaders]
      exact OrderedMap.ordered_assignAll OrderedMap.ordered_nil _
    unfold HttpRequest.getHeader
    rw [OrderedMap.lookup_of_mem hordered hmem]
    rfl
  · intro e
    dsimp only
    rw [hheaders]
    exact mem_headers r

end Rmuduo.Http
