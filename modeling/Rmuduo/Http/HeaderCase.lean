/-
Letter case in the names of header fields.

`parseContentLength` compares names without regard to letter case, `getHeader` looks them up as
they are written, in a map that is ordered by the bytes of the names. So what a request means
depends on the letter case of its field names in three ways: whether a field is found at all,
which of several lines it is found with, and which `Content-Length` comes first.

* `Recased` — two requests that differ in the letter case of field names.
* `HandledAlike` — the parser, `onRequest` and the application make the same of both.
* `RequestHead.parse` — what the parser makes of a request, by what its headers declare.
* `handledAlike_iff` — a request that is handled alike however its field names are written.
-/

import Rmuduo.Auth.LoginApi
import Rmuduo.Http.HttpServer
import Rmuduo.Http.Soundness

namespace Rmuduo.Http

open Lib
open Net (Timestamp)
open Auth.LoginServer (getBearerToken)

/-! ### Requests that differ in letter case -/

/-- The head of a request: its line, and its header lines, each as its parts before and behind
its first colon. -/
structure RequestHead where
  line : Bytes
  lines : List (Bytes × Bytes)
  line_ok : IsRequestLine line
  line_end : findCRLF line = none
  lines_ok : AreHeaderLines lines

/-- The request, with what follows its head. -/
def RequestHead.bytes (head : RequestHead) (rest : Bytes) : Bytes :=
  head.line ++ crlf ++ (headerBytes head.lines ++ (crlf ++ rest))

/-- One field, with its name in another letter case. -/
def SameField (p q : Bytes × Bytes) : Prop :=
  equalCaseInsensitive q.1 p.1 = true ∧ q.2 = p.2

/-- The same head, but for the letter case of its field names. -/
structure Recased (head head' : RequestHead) : Prop where
  line : head'.line = head.line
  lines : List.Forall₂ SameField head.lines head'.lines

/-! ### What is made of a request -/

/-- The requests differ in their headers only, and in no value that is asked for. -/
structure AgreeOn (asked : List Bytes) (request request' : HttpRequest) : Prop where
  others : { request with headers := [] } = { request' with headers := [] }
  values : ∀ field ∈ asked, request.getHeader field = request'.getHeader field

/-- The application reads headers by `getHeader` only, and asks for no other field. -/
def AsksFor (asked : List Bytes) (callback : HttpCallback) : Prop :=
  ∀ history request request' response, AgreeOn asked request request' →
    callback history request response = callback history request' response

/-- The request is cut off alike, with the same body. -/
structure ParsedAlike (asked : List Bytes) (o o' : Parsed) : Prop where
  ok : o.ok = o'.ok
  buf : o.buf = o'.buf
  state : o.context.state = o'.context.state
  contentLength : o.context.contentLength = o'.context.contentLength
  request : AgreeOn asked o.context.request o'.context.request

/-- The connections have sent the same and are in the same state. -/
structure ServedAlike (conn conn' : HttpConnection) : Prop where
  sent : conn.sent = conn'.sent
  connected : conn.connected = conn'.connected
  inputBuffer : conn.inputBuffer = conn'.inputBuffer
  invoked : conn.invoked.length = conn'.invoked.length

/-- A connection between two requests. -/
def HttpConnection.between (conn : HttpConnection) : HttpConnection :=
  { conn with context := {}, inputBuffer := [] }

/-- The server makes the same decisions on both requests. -/
structure HandledAlike (asked : List Bytes) (receiveTime : Timestamp) (bytes bytes' : Bytes) :
    Prop where
  parsed : ParsedAlike asked (parseRequest receiveTime {} bytes)
    (parseRequest receiveTime {} bytes')
  closes : HttpConnection.closes (parseRequest receiveTime {} bytes).context.request =
    HttpConnection.closes (parseRequest receiveTime {} bytes').context.request
  served : ∀ (callback : HttpCallback) (conn : HttpConnection), AsksFor asked callback →
    ServedAlike (conn.between.receive callback (receiveTime, bytes))
      (conn.between.receive callback (receiveTime, bytes'))

/-- Nothing depends on how field names are written: the `Content-Length` lines declare one
length, and a field that is asked for has no value. -/
structure IgnoresCase (asked : List Bytes) (lines : List (Bytes × Bytes)) : Prop where
  lengths : ∀ p ∈ lines, ∀ q ∈ lines,
    equalCaseInsensitive p.1 (ascii "Content-Length") = true →
    equalCaseInsensitive q.1 (ascii "Content-Length") = true →
    fromChars (trim p.2) = fromChars (trim q.2)
  blank : ∀ field ∈ asked, field.any isalpha = true →
    ∀ p ∈ lines, equalCaseInsensitive p.1 field = true → trim p.2 = []

/-! ### The parser on a request -/

namespace RequestHead

/-- The request, behind its header lines. -/
def request (receiveTime : Timestamp) (head : RequestHead) : HttpRequest :=
  headRequest receiveTime head.line head.lines

/-- **A request** is cut off as its headers declare. -/
theorem parse (receiveTime : Timestamp) (head : RequestHead) (rest : Bytes) :
    parseRequest receiveTime {} (head.bytes rest) =
      finish (head.request receiveTime) [] (parseContentLength (headersOf head.lines)) rest := by
  have hhead : HasHead (head.bytes rest) head.line head.lines [] rest :=
    ⟨head.line_ok, head.line_end, head.lines_ok, List.not_mem_nil, rfl, rfl⟩
  exact hhead.parse receiveTime

end RequestHead

/-! ### Other spellings -/

section Spelling

variable {field other value : Bytes} {p q : Bytes × Bytes}
  {lines lines' before after : List (Bytes × Bytes)} {head head' : RequestHead}

theorem equalCaseInsensitive_iff {lhs rhs : Bytes} :
    equalCaseInsensitive lhs rhs = true ↔ lhs.map tolower = rhs.map tolower :=
  decide_eq_true_iff

theorem sameField_refl (p : Bytes × Bytes) : SameField p p :=
  ⟨equalCaseInsensitive_iff.mpr rfl, rfl⟩

theorem sameField_of_mem (h : List.Forall₂ SameField lines lines') (hq : q ∈ lines') :
    ∃ p ∈ lines, SameField p q := by
  induction h with
  | nil => cases hq
  | cons hsame hrest ih =>
      rcases List.mem_cons.mp hq with rfl | hlater
      · exact ⟨_, List.mem_cons_self, hsame⟩
      · obtain ⟨p, hp, hpq⟩ := ih hlater
        exact ⟨p, List.mem_cons_of_mem _ hp, hpq⟩

/-- Letter case makes no line malformed. -/
theorem areHeaderLines_recased (h : List.Forall₂ SameField lines lines')
    (ok : AreHeaderLines lines) : AreHeaderLines lines' := by
  intro q hq
  obtain ⟨p, hp, hname, hvalue⟩ := sameField_of_mem h hq
  obtain ⟨hcolon, hend⟩ := ok p hp
  have hname := equalCaseInsensitive_iff.mp hname
  constructor
  · rwa [← mem_map_tolower (by decide), hname, mem_map_tolower (by decide)]
  · have hline : (q.1 ++ 58 :: q.2).map tolower = (p.1 ++ 58 :: p.2).map tolower := by
      rw [List.map_append, List.map_append, hname, hvalue]
    rw [← findCRLF_map_tolower, hline, findCRLF_map_tolower, hend]

/-- The head, with its field names in another letter case. -/
def RequestHead.respelled (head : RequestHead) (lines' : List (Bytes × Bytes))
    (h : List.Forall₂ SameField head.lines lines') : RequestHead :=
  { head with lines := lines', lines_ok := areHeaderLines_recased h head.lines_ok }

/-- The line, with the name in the spelling `other` if it is `field` in any letter case. -/
def respell (field other : Bytes) (p : Bytes × Bytes) : Bytes × Bytes :=
  if equalCaseInsensitive p.1 field = true then (other, p.2) else p

theorem sameField_respell (h : equalCaseInsensitive other field = true) (p : Bytes × Bytes) :
    SameField p (respell field other p) := by
  rw [respell]
  split
  · rename_i hname
    rw [equalCaseInsensitive_iff] at h hname
    exact ⟨equalCaseInsensitive_iff.mpr (h.trans hname.symm), rfl⟩
  · exact sameField_refl p

theorem sameField_map_respell (h : equalCaseInsensitive other field = true)
    (lines : List (Bytes × Bytes)) :
    List.Forall₂ SameField lines (lines.map (respell field other)) := by
  rw [List.forall₂_map_right_iff]
  exact List.forall₂_same.mpr fun p _ => sameField_respell h p

/-- No line is left with the spelling `field`. -/
theorem respell_ne (h : other ≠ field) (hq : q ∈ lines.map (respell field other)) :
    q.1 ≠ field := by
  obtain ⟨p, -, rfl⟩ := List.mem_map.mp hq
  rw [respell]
  split
  · exact h
  · rename_i hname
    intro hsame
    exact hname (equalCaseInsensitive_iff.mpr (by rw [hsame]))

/-- What is `field` in any letter case is in the spelling `other`. -/
theorem respell_eq (hq : q ∈ lines.map (respell field other))
    (hname : equalCaseInsensitive q.1 field = true) : q.1 = other := by
  obtain ⟨p, -, rfl⟩ := List.mem_map.mp hq
  rw [respell] at hname ⊢
  split at hname
  · rename_i hp
    rw [if_pos hp]
  · rename_i hp
    exact absurd hname hp

/-- One line alone is left with the spelling `field`. -/
theorem sameField_alone (hfield : equalCaseInsensitive field p.1 = true)
    (h : equalCaseInsensitive other field = true) (before after : List (Bytes × Bytes)) :
    List.Forall₂ SameField (before ++ p :: after)
      (before.map (respell field other) ++ (field, p.2) :: after.map (respell field other)) :=
  List.rel_append (sameField_map_respell h before)
    (.cons ⟨hfield, rfl⟩ (sameField_map_respell h after))

end Spelling

/-! ### Lookups -/

section Lookups

variable {field value : Bytes} {lines before after : List (Bytes × Bytes)}

theorem ordered_headersOf (lines : List (Bytes × Bytes)) :
    OrderedMap.Ordered (headersOf lines) :=
  OrderedMap.ordered_assignAll OrderedMap.ordered_nil _

theorem lookup_headersOf_absent (h : ∀ p ∈ lines, p.1 ≠ field) :
    OrderedMap.lookup field (headersOf lines) = none := by
  rw [headersOf, OrderedMap.lookup_assignAll_of_notMem]
  · rfl
  · rw [List.map_map]
    intro hmem
    obtain ⟨p, hp, hname⟩ := List.mem_map.mp hmem
    exact h p hp hname

/-- The last line of a name is the one that is found. -/
theorem lookup_headersOf_last (h : ∀ p ∈ after, p.1 ≠ field) :
    OrderedMap.lookup field (headersOf (before ++ (field, value) :: after)) =
      some (trim value) := by
  rw [headersOf, List.map_append, List.map_cons, OrderedMap.lookup_assignAll_last]
  rw [List.map_map]
  intro hmem
  obtain ⟨p, hp, hname⟩ := List.mem_map.mp hmem
  exact h p hp hname

/-- What is found is the value of a line. -/
theorem mem_of_lookup_headersOf
    (h : OrderedMap.lookup field (headersOf lines) = some value) :
    ∃ p ∈ lines, p.1 = field ∧ trim p.2 = value := by
  have hentry := (OrderedMap.mem_assignAll (OrderedMap.mem_of_lookup h)).resolve_right
    List.not_mem_nil
  obtain ⟨p, hp, hsame⟩ := List.mem_map.mp hentry
  cases hsame
  exact ⟨p, hp, rfl, rfl⟩

end Lookups

/-! ### The first `Content-Length` -/

section Lengths

variable {headers : List (Bytes × Bytes)} {key value : Bytes}

/-- The least spelling decides. -/
theorem parseContentLength_least (ordered : OrderedMap.Ordered headers)
    (hmem : (key, value) ∈ headers)
    (hname : equalCaseInsensitive key (ascii "Content-Length") = true)
    (least : ∀ e ∈ headers, equalCaseInsensitive e.1 (ascii "Content-Length") = true →
      key ≤ e.1) :
    parseContentLength headers = fromChars (trim value) := by
  induction headers with
  | nil => cases hmem
  | cons e headers ih =>
      obtain ⟨name, value'⟩ := e
      obtain ⟨hfirst, hrest⟩ := List.pairwise_cons.mp ordered
      rw [parseContentLength]
      rcases List.mem_cons.mp hmem with heq | hlater
      · cases heq
        rw [if_pos hname]
      · rw [if_neg]
        · exact ih hrest hlater fun e he => least e (List.mem_cons_of_mem _ he)
        · intro hother
          exact absurd (hfirst _ hlater) (not_lt.mpr (least _ List.mem_cons_self hother))

end Lengths

/-! ### Requests that agree -/

section Agreeing

variable {asked : List Bytes} {request request' : HttpRequest} {length length' : Option Nat}
  {rest field : Bytes} {callback : HttpCallback} {conn conn' : HttpConnection}

theorem finish_getHeader :
    (finish request [] length rest).context.request.getHeader field = request.getHeader field := by
  cases length with
  | none => rfl
  | some n =>
      rw [finish]
      split
      · rfl
      · split <;> rfl

theorem finish_agree (h : AgreeOn asked request request') :
    ParsedAlike asked (finish request [] length rest) (finish request' [] length rest) := by
  cases length with
  | none => exact ⟨rfl, rfl, rfl, rfl, h⟩
  | some n =>
      rw [finish, finish]
      by_cases hzero : n = 0
      · rw [if_pos hzero, if_pos hzero]
        exact ⟨rfl, rfl, rfl, rfl, h⟩
      · rw [if_neg hzero, if_neg hzero]
        by_cases hlen : n ≤ rest.length
        · rw [if_pos hlen, if_pos hlen]
          refine ⟨rfl, rfl, rfl, rfl, ?_, h.values⟩
          exact congrArg (fun r : HttpRequest => { r with body := rest.take n }) h.others
        · rw [if_neg hlen, if_neg hlen]
          exact ⟨rfl, rfl, rfl, rfl, h⟩

/-- The length can be told from where the parser stops. -/
theorem finish_length (h : ParsedAlike asked (finish request [] length rest)
    (finish request' [] length' rest)) : length = length' := by
  have hlength {request : HttpRequest} {n : Nat} :
      (finish request [] (some n) rest).ok = true ∧
        (finish request [] (some n) rest).context.contentLength = n := by
    rw [finish]
    by_cases hzero : n = 0
    · rw [if_pos hzero, hzero]
      exact ⟨rfl, rfl⟩
    · rw [if_neg hzero]
      split <;> exact ⟨rfl, rfl⟩
  cases length with
  | none =>
      cases length' with
      | none => rfl
      | some n' =>
          have hok := h.ok.trans hlength.1
          cases hok
  | some n =>
      cases length' with
      | none =>
          have hok := h.ok.symm.trans hlength.1
          cases hok
      | some n' =>
          have hsame := hlength.2.symm.trans (h.contentLength.trans hlength.2)
          rw [hsame]

/-- `onRequest` looks at the version and at one header. -/
theorem closes_agree (h : AgreeOn (ascii "Connection" :: asked) request request') :
    HttpConnection.closes request = HttpConnection.closes request' := by
  have hversion := congrArg HttpRequest.version h.others
  change request.version = request'.version at hversion
  rw [HttpConnection.closes, HttpConnection.closes, hversion,
    h.values _ List.mem_cons_self]

theorem ServedAlike.send (h : ServedAlike conn conn') (data : Bytes) :
    ServedAlike (conn.send data) (conn'.send data) := by
  rw [HttpConnection.send, HttpConnection.send, h.connected]
  split
  · exact ⟨congrArg (· ++ [data]) h.sent, rfl, h.inputBuffer, h.invoked⟩
  · exact h

theorem ServedAlike.shutdown (h : ServedAlike conn conn') :
    ServedAlike conn.shutdown conn'.shutdown :=
  ⟨h.sent, rfl, h.inputBuffer, h.invoked⟩

theorem ServedAlike.onRequest (h : ServedAlike conn conn') (invoked : conn.invoked = conn'.invoked)
    (agree : AgreeOn (ascii "Connection" :: asked) request request')
    (asks : AsksFor (ascii "Connection" :: asked) callback) :
    ServedAlike (conn.onRequest callback request) (conn'.onRequest callback request') := by
  rw [HttpConnection.onRequest, HttpConnection.onRequest, invoked, closes_agree agree,
    asks _ _ _ _ agree]
  generalize callback conn'.invoked request' _ = response
  have hinvoked : ServedAlike { conn with invoked := conn'.invoked ++ [request] }
      { conn' with invoked := conn'.invoked ++ [request'] } :=
    ⟨h.sent, h.connected, h.inputBuffer, by simp⟩
  split
  · exact (hinvoked.send response.bytes).shutdown
  · exact hinvoked.send response.bytes

/-- The end of `onMessage`. -/
theorem ServedAlike.conclude (h : ServedAlike conn conn') (invoked : conn.invoked = conn'.invoked)
    {context context' : HttpContext} (now : conn.context = context)
    (now' : conn'.context = context') (gotAll : context.gotAll = context'.gotAll)
    (agree : AgreeOn (ascii "Connection" :: asked) context.request context'.request)
    (asks : AsksFor (ascii "Connection" :: asked) callback) :
    ServedAlike
      (if conn.context.gotAll = true then
        { conn.onRequest callback conn.context.request with context := {} } else conn)
      (if conn'.context.gotAll = true then
        { conn'.onRequest callback conn'.context.request with context := {} } else conn') := by
  rw [now, now', gotAll]
  split
  · have hanswered := h.onRequest invoked agree asks
    exact ⟨hanswered.sent, hanswered.connected, hanswered.inputBuffer, hanswered.invoked⟩
  · exact h

/-- What the parser makes alike of two requests, the server answers alike. -/
theorem served_alike {receiveTime : Timestamp} {bytes bytes' : Bytes}
    (h : ParsedAlike (ascii "Connection" :: asked) (parseRequest receiveTime {} bytes)
      (parseRequest receiveTime {} bytes'))
    (asks : AsksFor (ascii "Connection" :: asked) callback) (conn : HttpConnection) :
    ServedAlike (conn.between.receive callback (receiveTime, bytes))
      (conn.between.receive callback (receiveTime, bytes')) := by
  unfold HttpConnection.receive HttpConnection.onMessage
  dsimp only [HttpConnection.between, List.nil_append]
  generalize parseRequest receiveTime {} bytes = o at h
  generalize parseRequest receiveTime {} bytes' = o' at h
  have hparsed : ServedAlike { conn with context := o.context, inputBuffer := o.buf }
      { conn with context := o'.context, inputBuffer := o'.buf } := ⟨rfl, rfl, h.buf, rfl⟩
  have hgot : o.context.gotAll = o'.context.gotAll := by
    rw [HttpContext.gotAll, HttpContext.gotAll, h.state]
  rw [← h.ok]
  cases o.ok with
  | true =>
      rw [if_pos rfl, if_pos rfl]
      exact hparsed.conclude rfl rfl rfl hgot h.request asks
  | false =>
      rw [if_neg Bool.false_ne_true, if_neg Bool.false_ne_true]
      apply ((hparsed.send HttpConnection.badRequest).shutdown).conclude _ _ _ hgot h.request asks
      · rw [HttpConnection.send, HttpConnection.send]
        split <;> rfl
      · rw [HttpConnection.send]
        split <;> rfl
      · rw [HttpConnection.send]
        split <;> rfl

end Agreeing

/-! ### When letter case makes no difference -/

section Ignoring

variable {asked : List Bytes} {field : Bytes} {lines lines' : List (Bytes × Bytes)}
  {head head' : RequestHead} {receiveTime : Timestamp} {rest : Bytes}

/-- A name without letters is found as before. -/
theorem lookup_recased (h : List.Forall₂ SameField lines lines')
    (oneCase : ¬ field.any isalpha = true) :
    OrderedMap.lookup field (headersOf lines') = OrderedMap.lookup field (headersOf lines) := by
  have hall {m m' : List (Bytes × Bytes)}
      (hm : OrderedMap.lookup field m' = OrderedMap.lookup field m) :
      OrderedMap.lookup field (OrderedMap.assignAll m' (lines'.map fun p => (p.1, trim p.2))) =
        OrderedMap.lookup field (OrderedMap.assignAll m (lines.map fun p => (p.1, trim p.2))) := by
    induction h generalizing m m' with
    | nil => exact hm
    | @cons p q lines lines' hsame hrest ih =>
        apply ih
        have hname := equalCaseInsensitive_iff.mp hsame.1
        have hfield : field = q.1 ↔ field = p.1 := by
          constructor
          · intro hq
            rw [hq] at oneCase
            exact hq.trans (eq_of_map_tolower oneCase hname.symm).symm
          · intro hp
            rw [hp] at oneCase
            exact hp.trans (eq_of_map_tolower oneCase hname).symm
        dsimp only
        rw [OrderedMap.lookup_assign, OrderedMap.lookup_assign, hsame.2, hm]
        by_cases hp : field = p.1
        · rw [if_pos hp, if_pos (hfield.mpr hp)]
        · rw [if_neg hp, if_neg fun hq => hp (hfield.mp hq)]
  exact hall rfl

/-- A field that has no value in any spelling has none in this one. -/
theorem lookup_blank (blank : ∀ p ∈ lines, equalCaseInsensitive p.1 field = true → trim p.2 = []) :
    (OrderedMap.lookup field (headersOf lines)).getD [] = [] := by
  cases hlookup : OrderedMap.lookup field (headersOf lines) with
  | none => rfl
  | some value =>
      obtain ⟨p, hp, hname, hvalue⟩ := mem_of_lookup_headersOf hlookup
      rw [Option.getD_some, ← hvalue]
      exact blank p hp (equalCaseInsensitive_iff.mpr (by rw [hname]))

theorem IgnoresCase.getHeader (h : IgnoresCase asked lines)
    (recased : List.Forall₂ SameField lines lines') (hfield : field ∈ asked) :
    (OrderedMap.lookup field (headersOf lines)).getD [] =
      (OrderedMap.lookup field (headersOf lines')).getD [] := by
  by_cases hletter : field.any isalpha = true
  · have hblank := h.blank field hfield hletter
    rw [lookup_blank hblank, lookup_blank]
    intro q hq hname
    obtain ⟨p, hp, hsame, hvalue⟩ := sameField_of_mem recased hq
    rw [equalCaseInsensitive_iff] at hsame hname
    rw [hvalue]
    exact hblank p hp (equalCaseInsensitive_iff.mpr (hsame.symm.trans hname))
  · rw [lookup_recased recased hletter]

theorem IgnoresCase.contentLength (h : IgnoresCase asked lines)
    (recased : List.Forall₂ SameField lines lines') :
    parseContentLength (headersOf lines) = parseContentLength (headersOf lines') := by
  have hline {q : Bytes × Bytes} (hq : q ∈ lines')
      (hname : equalCaseInsensitive q.1 (ascii "Content-Length") = true) :
      ∃ p ∈ lines, equalCaseInsensitive p.1 (ascii "Content-Length") = true ∧ q.2 = p.2 := by
    obtain ⟨p, hp, hsame, hvalue⟩ := sameField_of_mem recased hq
    rw [equalCaseInsensitive_iff] at hsame hname
    exact ⟨p, hp, equalCaseInsensitive_iff.mpr (hsame.symm.trans hname), hvalue⟩
  have hback {p : Bytes × Bytes} (hp : p ∈ lines)
      (hname : equalCaseInsensitive p.1 (ascii "Content-Length") = true) :
      ∃ q ∈ lines', equalCaseInsensitive q.1 (ascii "Content-Length") = true := by
    clear h hline
    induction recased with
    | nil => cases hp
    | cons hsame hrest ih =>
        rcases List.mem_cons.mp hp with rfl | hlater
        · refine ⟨_, List.mem_cons_self, ?_⟩
          rw [equalCaseInsensitive_iff] at hname ⊢
          exact (equalCaseInsensitive_iff.mp hsame.1).trans hname
        · obtain ⟨q, hq, hqname⟩ := ih hlater
          exact ⟨q, List.mem_cons_of_mem _ hq, hqname⟩
  rcases parseContentLength_headersOf lines with ⟨hnone, hzero⟩ | ⟨p, hp, hlength⟩ <;>
    rcases parseContentLength_headersOf lines' with ⟨hnone', hzero'⟩ | ⟨q, hq, hlength'⟩
  · rw [hzero, hzero']
  · obtain ⟨p, hp, hpname, -⟩ := hline hq.mem hq.names
    exact absurd hpname (hnone p hp)
  · obtain ⟨q, hq, hqname⟩ := hback hp.mem hp.names
    exact absurd hqname (hnone' q hq)
  · obtain ⟨p', hp', hpname', hvalue⟩ := hline hq.mem hq.names
    rw [hlength, hlength', hvalue]
    exact h.lengths p hp.mem p' hp' hp.names hpname'

theorem handledAlike_of_ignores (h : IgnoresCase (ascii "Connection" :: asked) head.lines)
    (recased : Recased head head') (receiveTime : Timestamp) (rest : Bytes) :
    HandledAlike (ascii "Connection" :: asked) receiveTime (head.bytes rest)
      (head'.bytes rest) := by
  have hagree : AgreeOn (ascii "Connection" :: asked) (head.request receiveTime)
      (head'.request receiveTime) := by
    constructor
    · rw [RequestHead.request, RequestHead.request, headRequest, headRequest, recased.line]
    · intro field hfield
      exact h.getHeader recased.lines hfield
  have hparsed : ParsedAlike (ascii "Connection" :: asked)
      (parseRequest receiveTime {} (head.bytes rest))
      (parseRequest receiveTime {} (head'.bytes rest)) := by
    rw [RequestHead.parse, RequestHead.parse, h.contentLength recased.lines]
    exact finish_agree hagree
  exact ⟨hparsed, closes_agree hparsed.request, fun callback conn asks =>
    served_alike hparsed asks conn⟩

/-- What is handled alike has the same length and the same values. -/
theorem HandledAlike.decisions
    (h : HandledAlike asked receiveTime (head.bytes rest) (head'.bytes rest)) :
    parseContentLength (headersOf head.lines) = parseContentLength (headersOf head'.lines) ∧
      ∀ field ∈ asked, (OrderedMap.lookup field (headersOf head.lines)).getD [] =
        (OrderedMap.lookup field (headersOf head'.lines)).getD [] := by
  have hparsed := h.parsed
  rw [RequestHead.parse, RequestHead.parse] at hparsed
  refine ⟨finish_length hparsed, ?_⟩
  intro field hfield
  have hvalue := hparsed.request.values field hfield
  rw [finish_getHeader, finish_getHeader] at hvalue
  exact hvalue

/-- In some spelling, a line is the only one of its name that is found. -/
theorem exists_spelling {other : Bytes} {p : Bytes × Bytes} (hp : p ∈ lines)
    (hfield : equalCaseInsensitive field p.1 = true)
    (hother : equalCaseInsensitive other field = true) (hne : other ≠ field) :
    ∃ lines', List.Forall₂ SameField lines lines' ∧
      OrderedMap.lookup field (headersOf lines') = some (trim p.2) ∧
      ∀ q ∈ lines', equalCaseInsensitive q.1 field = true → q.1 = field ∨ q.1 = other := by
  obtain ⟨before, after, rfl⟩ := List.append_of_mem hp
  refine ⟨_, sameField_alone hfield hother before after, ?_, ?_⟩
  · apply lookup_headersOf_last
    intro q hq
    exact respell_ne hne hq
  · intro q hq hname
    rcases List.mem_append.mp hq with hq | hq
    · exact .inr (respell_eq hq hname)
    · rcases List.mem_cons.mp hq with rfl | hq
      · exact .inl rfl
      · exact .inr (respell_eq hq hname)

/-- So any line of the name can be the one that decides the length. -/
theorem exists_spelling_length {p : Bytes × Bytes} (hp : p ∈ lines)
    (hname : equalCaseInsensitive p.1 (ascii "Content-Length") = true) :
    ∃ lines', List.Forall₂ SameField lines lines' ∧
      parseContentLength (headersOf lines') = fromChars (trim p.2) := by
  have hupper : (ascii "CONTENT-LENGTH").map tolower = (ascii "Content-Length").map tolower := by
    decide
  have hfield : equalCaseInsensitive (ascii "CONTENT-LENGTH") p.1 = true := by
    rw [equalCaseInsensitive_iff] at hname ⊢
    rw [hname, hupper]
  obtain ⟨lines', hsame, hfound, hnames⟩ := exists_spelling
    hp hfield (by decide : equalCaseInsensitive (ascii "content-length") _ = true) (by decide)
  refine ⟨lines', hsame, ?_⟩
  rw [parseContentLength_least (ordered_headersOf lines') (OrderedMap.mem_of_lookup hfound)
    (by decide), trim_trim]
  intro e he hename
  have hentry := (OrderedMap.mem_assignAll he).resolve_right List.not_mem_nil
  obtain ⟨q, hq, rfl⟩ := List.mem_map.mp hentry
  rw [equalCaseInsensitive_iff, ← hupper] at hename
  rcases hnames q hq (equalCaseInsensitive_iff.mpr hename) with hspelled | hspelled
  · exact le_of_eq hspelled.symm
  · dsimp only
    rw [hspelled]
    decide

/-- **When letter case makes no difference**: a request is handled alike however its field names
are written, if and only if its `Content-Length` lines all declare the same, and it gives no
value to `Connection` nor to any other field that the application asks for. -/
theorem handledAlike_iff (asked : List Bytes) (receiveTime : Timestamp) (head : RequestHead)
    (rest : Bytes) :
    (∀ head', Recased head head' → HandledAlike (ascii "Connection" :: asked) receiveTime
        (head.bytes rest) (head'.bytes rest)) ↔
      IgnoresCase (ascii "Connection" :: asked) head.lines := by
  constructor
  · intro h
    have hdecisions {lines' : List (Bytes × Bytes)}
        (hsame : List.Forall₂ SameField head.lines lines') :=
      (h (head.respelled lines' hsame) ⟨rfl, hsame⟩).decisions
    constructor
    · intro p hp q hq hpname hqname
      obtain ⟨lines₁, hsame₁, hlength₁⟩ := exists_spelling_length hp hpname
      obtain ⟨lines₂, hsame₂, hlength₂⟩ := exists_spelling_length hq hqname
      rw [← hlength₁, ← hlength₂]
      exact (hdecisions hsame₁).1.symm.trans (hdecisions hsame₂).1
    · intro field hfield hletter p hp hname
      obtain ⟨other, hne, hother⟩ := exists_otherSpelling hletter
      have hother : equalCaseInsensitive other field = true := equalCaseInsensitive_iff.mpr hother
      have hfieldName : equalCaseInsensitive field p.1 = true := by
        rw [equalCaseInsensitive_iff] at hname ⊢
        exact hname.symm
      -- Once the line is found under this name, and once no line is.
      obtain ⟨lines₁, hsame₁, hfound, -⟩ := exists_spelling hp hfieldName hother hne
      have hsame₂ := sameField_map_respell hother head.lines
      have habsent : OrderedMap.lookup field
          (headersOf (head.lines.map (respell field other))) = none := by
        apply lookup_headersOf_absent
        intro q hq
        exact respell_ne hne hq
      have hvalue₁ := (hdecisions hsame₁).2 field hfield
      have hvalue₂ := (hdecisions hsame₂).2 field hfield
      dsimp only [RequestHead.respelled] at hvalue₁ hvalue₂
      rw [hfound, Option.getD_some] at hvalue₁
      rw [habsent, Option.getD_none] at hvalue₂
      rw [← hvalue₁, hvalue₂]
  · intro h head' recased
    exact handledAlike_of_ignores h recased receiveTime rest

end Ignoring

/-- `GET / HTTP/1.1` with these header lines. -/
def getWith (lines : List (Bytes × Bytes)) (lines_ok : AreHeaderLines lines) : RequestHead where
  line := ascii "GET / HTTP/1.1"
  lines := lines
  line_ok := ⟨.kGet, ascii "/", .kHttp11, by decide, by decide, by decide, by decide⟩
  line_end := by decide
  lines_ok := lines_ok

/-- A request that asks to close the connection, and carries a token. -/
def titleCase : RequestHead :=
  getWith [(ascii "Connection", ascii " close"), (ascii "Authorization", ascii " Bearer t")]
    (by unfold AreHeaderLines; decide)

def lowerCase : RequestHead :=
  getWith [(ascii "connection", ascii " close"), (ascii "authorization", ascii " Bearer t")]
    (by unfold AreHeaderLines; decide)

/-- In lower case, the request neither closes the connection nor carries a token. -/
theorem lowerCase_handled_otherwise :
    Recased titleCase lowerCase ∧
      ¬ HandledAlike [ascii "Connection", ascii "Authorization"] 0 (titleCase.bytes [])
        (lowerCase.bytes []) ∧
      getBearerToken (parseRequest 0 {} (titleCase.bytes [])).context.request =
        some (ascii "t") ∧
      getBearerToken (parseRequest 0 {} (lowerCase.bytes [])).context.request = none := by
  refine ⟨⟨?_, ?_⟩, ?_, by decide +kernel, by decide +kernel⟩
  · rw [titleCase, lowerCase, getWith, getWith]
  · rw [titleCase, lowerCase, getWith, getWith]
    exact .cons ⟨by decide, rfl⟩ (.cons ⟨by decide, rfl⟩ .nil)
  · intro h
    have hbefore : HttpConnection.closes
        (parseRequest 0 {} (titleCase.bytes [])).context.request = true := by decide +kernel
    have hafter : HttpConnection.closes
        (parseRequest 0 {} (lowerCase.bytes [])).context.request = false := by decide +kernel
    have hcloses := hbefore.symm.trans (h.closes.trans hafter)
    cases hcloses

end Rmuduo.Http
