/-
What the request parser accepts.

A request that is complete is made of a request line, header lines with a colon, a last line,
and the body. The parser ends the header section at the first line without a colon, whether
that is empty or not. So it accepts just the requests of the format exactly when no such line
has anything in it; unless a malformed `Content-Length` before it has it rejected anyway.

* `Taken` — what the parser has taken, state by state (`Taken.read`).
* `HasHead.parse` — what the parser makes of a head and what follows it.
* `parseAll_sound_iff` — when all that it accepts is a request.
-/

import Rmuduo.Http.WireFormat

namespace Rmuduo.Http

open Lib
open Net (Timestamp)

/-! ### The format -/

/-- `METHOD SP target SP HTTP/1.0|1.1`. -/
def IsRequestLine (line : Bytes) : Prop :=
  ∃ (method : Method) (target : Bytes) (version : Version), method ≠ .kInvalid ∧
    version ≠ .kUnknown ∧ 32 ∉ target ∧
    line = method.text ++ 32 :: (target ++ 32 :: version.text)

/-- Header lines, each as its parts before and behind its first colon. -/
def AreHeaderLines (lines : List (Bytes × Bytes)) : Prop :=
  ∀ p ∈ lines, 58 ∉ p.1 ∧ findCRLF (p.1 ++ 58 :: p.2) = none

def headerBytes (lines : List (Bytes × Bytes)) : Bytes :=
  lines.flatMap fun p => p.1 ++ 58 :: p.2 ++ crlf

/-- The header map that lines make. -/
def headersOf (lines : List (Bytes × Bytes)) : List (Bytes × Bytes) :=
  OrderedMap.assignAll [] (lines.map fun p => (p.1, trim p.2))

/-- A line with the name of a length, in any letter case. -/
def NamesLength (line : Bytes × Bytes) : Prop :=
  equalCaseInsensitive line.1 (ascii "Content-Length") = true

/-- The line that counts, should there be several that name a length: of their names the first one in
the order of bytes, and of the lines with this name the last one. -/
structure LengthLine (lines : List (Bytes × Bytes)) (line : Bytes × Bytes) : Prop where
  names : NamesLength line
  first : ∀ other ∈ lines, NamesLength other → line.1 ≤ other.1
  last : ∃ before after, lines = before ++ line :: after ∧ line.1 ∉ after.map Prod.fst

/-- The lines say that the body has `n` bytes; without a `Content-Length` it has none. -/
def Declares (lines : List (Bytes × Bytes)) (n : Nat) : Prop :=
  ((∀ line ∈ lines, ¬ NamesLength line) ∧ n = 0) ∨
    ∃ line, LengthLine lines line ∧ Denotes (trim line.2) n

/-- A request: its line, its header lines, an empty line and its body. -/
def IsRequest (bytes : Bytes) : Prop :=
  ∃ line lines body, IsRequestLine line ∧ findCRLF line = none ∧ AreHeaderLines lines ∧
    Declares lines body.length ∧ bytes = line ++ crlf ++ headerBytes lines ++ crlf ++ body

/-- Bytes that begin with a request line, header lines, and a line without a colon. -/
structure HasHead (bytes line : Bytes) (lines : List (Bytes × Bytes)) (last rest : Bytes) :
    Prop where
  line_ok : IsRequestLine line
  line_end : findCRLF line = none
  lines_ok : AreHeaderLines lines
  last_noColon : 58 ∉ last
  last_end : findCRLF last = none
  bytes_eq : bytes = line ++ crlf ++ (headerBytes lines ++ (last ++ crlf ++ rest))

/-- What the parser accepts is a request, and a line without a colon that is not empty is
rejected. -/
def AcceptsRequests (receiveTime : Timestamp) (segs : List Bytes) : Prop :=
  ((parseAll receiveTime segs).context.gotAll = true →
    ∃ taken, segs.flatten = taken ++ (parseAll receiveTime segs).buf ∧ IsRequest taken) ∧
  ∀ line lines last rest, HasHead segs.flatten line lines last rest → last ≠ [] →
    (parseAll receiveTime segs).ok = false

/-! ### Lines -/

section Lines

variable {receiveTime : Timestamp} {context next : HttpContext} {line : Bytes}

theorem method_of_lookup {m : Bytes} {method : Method} (h : kMethods.lookup m = some method) :
    m = method.text ∧ method ≠ .kInvalid := by
  obtain ⟨before, after, hmethods, -⟩ := List.lookup_eq_some_iff.mp h
  have hmem : (m, method) ∈ kMethods := by
    rw [hmethods]
    exact List.mem_append_right _ List.mem_cons_self
  simp only [kMethods, List.mem_cons, Prod.mk.injEq, List.not_mem_nil, or_false] at hmem
  rcases hmem with ⟨rfl, rfl⟩ | ⟨rfl, rfl⟩ | ⟨rfl, rfl⟩ | ⟨rfl, rfl⟩ | ⟨rfl, rfl⟩
  all_goals exact ⟨rfl, by decide⟩

theorem version_of_parse {text : Bytes} {version : Version}
    (h : parseVersion text = some version) : text = version.text ∧ version ≠ .kUnknown := by
  unfold parseVersion at h
  split_ifs at h with hform hone hzero
  all_goals
    obtain ⟨hlen, hfront⟩ := hform
    have htext : text = ascii "HTTP/1." ++ [byteAt text 7] := by
      have hlast : 7 < text.length := by omega
      have hcut := List.take_append_getElem hlast
      rw [hfront, List.take_of_length_le (Nat.le_of_eq hlen)] at hcut
      rw [byteAt, List.getD_eq_getElem?_getD, List.getElem?_eq_getElem hlast]
      exact hcut.symm
    cases h
  · rw [hone] at htext
    exact ⟨htext, by decide⟩
  · rw [hzero] at htext
    exact ⟨htext, by decide⟩

/-- A request line that is accepted has the form of one, and no header yet. -/
theorem isRequestLine_of_process {request request' : HttpRequest}
    (h : processRequestLine request line = (request', true)) :
    IsRequestLine line ∧ request'.headers = request.headers := by
  unfold processRequestLine at h
  cases hmethod : splitOnce 32 line with
  | none =>
      rw [hmethod] at h
      cases h
  | some parts =>
      obtain ⟨m, line'⟩ := parts
      rw [hmethod] at h
      dsimp only [HttpRequest.setMethod] at h
      cases hknown : kMethods.lookup m with
      | none =>
          rw [hknown] at h
          cases h
      | some method =>
          rw [hknown] at h
          dsimp only at h
          cases htarget : splitOnce 32 line' with
          | none =>
              rw [htarget] at h
              cases h
          | some parts' =>
              obtain ⟨target, text⟩ := parts'
              rw [htarget] at h
              dsimp only at h
              cases hversion : parseVersion text with
              | none =>
                  rw [hversion] at h
                  cases h
              | some version =>
                  rw [hversion] at h
                  cases h
                  obtain ⟨rfl, -⟩ := splitOnce_eq_some.mp hmethod
                  obtain ⟨rfl, hnoSpace⟩ := splitOnce_eq_some.mp htarget
                  obtain ⟨rfl, hmethod'⟩ := method_of_lookup hknown
                  obtain ⟨rfl, hversion'⟩ := version_of_parse hversion
                  have hheaders := congrArg HttpRequest.headers
                    (HttpRequest.setTarget_eq { request with method := method } target)
                  exact ⟨⟨method, target, version, hmethod', hversion', hnoSpace, rfl⟩, hheaders⟩

/-- A line of the form is accepted. -/
theorem process_of_isRequestLine (h : IsRequestLine line) :
    ∃ request, processRequestLine {} line = (request, true) ∧ request.headers = [] := by
  obtain ⟨method, target, version, hmethod, hversion, hnoSpace, rfl⟩ := h
  have hprocess := processRequestLine_text hmethod hnoSpace hversion
  exact ⟨_, hprocess, (isRequestLine_of_process hprocess).2⟩

theorem LengthLine.mem {lines : List (Bytes × Bytes)} {line : Bytes × Bytes}
    (h : LengthLine lines line) : line ∈ lines := by
  obtain ⟨before, after, rfl, -⟩ := h.last
  exact List.mem_append_right _ List.mem_cons_self

/-- The length that is declared is that of the first of the headers that name one. -/
theorem parseContentLength_cases {headers : List (Bytes × Bytes)}
    (ordered : OrderedMap.Ordered headers) :
    ((∀ e ∈ headers, ¬ NamesLength e) ∧ parseContentLength headers = some 0) ∨
      ∃ e ∈ headers, NamesLength e ∧ (∀ e' ∈ headers, NamesLength e' → e.1 ≤ e'.1) ∧
        parseContentLength headers = fromChars (trim e.2) := by
  induction headers with
  | nil => exact .inl ⟨fun e he => absurd he List.not_mem_nil, rfl⟩
  | cons e headers ih =>
      obtain ⟨hfirst, hrest⟩ := List.pairwise_cons.mp ordered
      obtain ⟨name, value⟩ := e
      rw [parseContentLength]
      by_cases hname : equalCaseInsensitive name (ascii "Content-Length") = true
      · rw [if_pos hname]
        refine .inr ⟨_, List.mem_cons_self, hname, ?_, rfl⟩
        intro e' he' _
        rcases List.mem_cons.mp he' with rfl | he'
        · exact le_refl _
        · exact (hfirst e' he').le
      · rw [if_neg hname]
        rcases ih hrest with ⟨hnone, hzero⟩ | ⟨e, he, hfound, hleast, hlength⟩
        · refine .inl ⟨?_, hzero⟩
          intro e he
          rcases List.mem_cons.mp he with rfl | he
          · exact hname
          · exact hnone e he
        · refine .inr ⟨e, List.mem_cons_of_mem _ he, hfound, ?_, hlength⟩
          intro e' he' hnames
          rcases List.mem_cons.mp he' with rfl | he'
          · exact absurd hnames hname
          · exact hleast e' he' hnames

/-- The last line with a name. -/
theorem exists_last_line {lines : List (Bytes × Bytes)} {name : Bytes}
    (h : name ∈ lines.map Prod.fst) : ∃ before value after,
      lines = before ++ (name, value) :: after ∧ name ∉ after.map Prod.fst := by
  induction lines with
  | nil => cases h
  | cons line lines ih =>
      by_cases hlater : name ∈ lines.map Prod.fst
      · obtain ⟨before, value, after, rfl, hlast⟩ := ih hlater
        exact ⟨line :: before, value, after, rfl, hlast⟩
      · obtain ⟨field, value⟩ := line
        obtain rfl : name = field := (List.mem_cons.mp h).resolve_right hlater
        exact ⟨[], value, lines, rfl, hlater⟩

/-- A line has its name in the header map. -/
theorem exists_header {lines : List (Bytes × Bytes)} {line : Bytes × Bytes} (h : line ∈ lines) :
    ∃ value, (line.1, value) ∈ headersOf lines := by
  have hkey : line.1 ∈ (lines.map fun p => (p.1, trim p.2)).map Prod.fst := by
    rw [List.map_map]
    exact List.mem_map_of_mem h
  have hfound : OrderedMap.lookup line.1 (headersOf lines) ≠ none :=
    OrderedMap.lookup_assignAll_ne_none (.inr hkey)
  obtain ⟨value, hvalue⟩ := Option.ne_none_iff_exists'.mp hfound
  exact ⟨value, OrderedMap.mem_of_lookup hvalue⟩

/-- The value of a header is that of the last line with its name. -/
theorem headersOf_last {lines : List (Bytes × Bytes)} {name value : Bytes}
    (h : (name, value) ∈ headersOf lines) : ∃ before text after,
      lines = before ++ (name, text) :: after ∧ name ∉ after.map Prod.fst ∧ value = trim text := by
  have hentry := (OrderedMap.mem_assignAll h).resolve_right List.not_mem_nil
  obtain ⟨line, hline, hsame⟩ := List.mem_map.mp hentry
  obtain ⟨rfl, -⟩ := Prod.mk.inj hsame
  obtain ⟨before, text, after, rfl, hlast⟩ := exists_last_line (List.mem_map_of_mem hline)
  refine ⟨before, text, after, rfl, hlast, ?_⟩
  have hordered : OrderedMap.Ordered (headersOf (before ++ (line.1, text) :: after)) :=
    OrderedMap.ordered_assignAll OrderedMap.ordered_nil _
  have hvalue := OrderedMap.lookup_of_mem hordered h
  have hlater : line.1 ∉ (after.map fun p => (p.1, trim p.2)).map Prod.fst := by
    rw [List.map_map]
    exact hlast
  rw [headersOf, List.map_append, List.map_cons, OrderedMap.lookup_assignAll_last hlater] at hvalue
  exact (Option.some_inj.mp hvalue).symm

/-- So it is that of one of the lines. -/
theorem parseContentLength_headersOf (lines : List (Bytes × Bytes)) :
    ((∀ line ∈ lines, ¬ NamesLength line) ∧ parseContentLength (headersOf lines) = some 0) ∨
      ∃ line, LengthLine lines line ∧
        parseContentLength (headersOf lines) = fromChars (trim line.2) := by
  have hordered : OrderedMap.Ordered (headersOf lines) :=
    OrderedMap.ordered_assignAll OrderedMap.ordered_nil _
  rcases parseContentLength_cases hordered with
    ⟨hnone, hzero⟩ | ⟨⟨name, value⟩, he, hname, hleast, hlength⟩
  · refine .inl ⟨fun line hline hnames => ?_, hzero⟩
    obtain ⟨value, hvalue⟩ := exists_header hline
    exact hnone _ hvalue hnames
  · obtain ⟨before, text, after, hlines, hlast, rfl⟩ := headersOf_last he
    refine .inr ⟨(name, text), ⟨hname, fun other hother hnames => ?_, before, after, hlines, hlast⟩, ?_⟩
    · obtain ⟨value, hvalue⟩ := exists_header hother
      exact hleast (other.1, value) hvalue hnames
    · rw [hlength, trim_trim]

/-- What the headers declare, the lines do. -/
theorem declares_of_parse {lines : List (Bytes × Bytes)} {n : Nat}
    (h : parseContentLength (headersOf lines) = some n) : Declares lines n := by
  rcases parseContentLength_headersOf lines with ⟨hnone, hzero⟩ | ⟨line, hline, hlength⟩
  · rw [hzero] at h
    cases h
    exact .inl ⟨hnone, rfl⟩
  · rw [hlength] at h
    exact .inr ⟨line, hline, (fromChars_eq_some.mp h).1⟩

end Lines

/-! ### What the parser has taken -/

/-- The bytes that the parser has taken, in each of its states. -/
def Taken (taken : Bytes) (context : HttpContext) : Prop :=
  match context.state with
  | .kExpectRequestLine => taken = [] ∧ context.request.headers = []
  | .kExpectHeaders => ∃ line lines, IsRequestLine line ∧ findCRLF line = none ∧
      AreHeaderLines lines ∧ context.request.headers = headersOf lines ∧
      taken = line ++ crlf ++ headerBytes lines
  | .kExpectBody => ∃ line lines last, HasHead taken line lines last [] ∧
      parseContentLength (headersOf lines) = some context.contentLength
  | .kGotAll => ∃ line lines last body, HasHead taken line lines last body ∧
      parseContentLength (headersOf lines) = some body.length

section Traces

variable {receiveTime : Timestamp} {context next : HttpContext} {taken buf : Bytes}

theorem headerBytes_append (lines : List (Bytes × Bytes)) (p : Bytes × Bytes) :
    headerBytes (lines ++ [p]) = headerBytes lines ++ (p.1 ++ 58 :: p.2 ++ crlf) := by
  simp [headerBytes]

theorem headersOf_append (lines : List (Bytes × Bytes)) (field value : Bytes) :
    headersOf (lines ++ [(field, value)]) =
      OrderedMap.assign field (trim value) (headersOf lines) := by
  simp [headersOf, OrderedMap.assignAll]

theorem Taken.requestLine {line : Bytes} (h : Taken taken context)
    (hstate : context.state = .kExpectRequestLine) (hline : findCRLF line = none)
    (htake : context.takeLine receiveTime line = (next, true)) :
    Taken (taken ++ (line ++ crlf)) next := by
  unfold HttpContext.takeLine at htake
  rw [if_pos hstate] at htake
  unfold Taken at h
  rw [hstate] at h
  obtain ⟨rfl, hheaders⟩ := h
  cases hprocess : processRequestLine context.request line with
  | mk request ok =>
      rw [hprocess] at htake
      cases ok with
      | false => cases htake
      | true =>
          cases htake
          obtain ⟨hform, hsame⟩ := isRequestLine_of_process hprocess
          refine ⟨line, [], hform, hline, ?_, ?_, ?_⟩
          · intro p hp
            cases hp
          · exact hsame.trans hheaders
          · simp [headerBytes]

/-- A line with a colon is one more header, any other one ends the headers. -/
theorem Taken.headerLine {line : Bytes} (h : Taken taken context)
    (hstate : context.state = .kExpectHeaders) (hline : findCRLF line = none)
    (htake : context.takeLine receiveTime line = (next, true)) :
    Taken (taken ++ (line ++ crlf)) next := by
  unfold HttpContext.takeLine at htake
  rw [if_neg (by rw [hstate]; decide)] at htake
  unfold Taken at h
  rw [hstate] at h
  obtain ⟨first, lines, hform, hfirst, hlines, hheaders, rfl⟩ := h
  cases hcolon : splitOnce 58 line with
  | some parts =>
      obtain ⟨field, value⟩ := parts
      obtain ⟨rfl, hnoColon⟩ := splitOnce_eq_some.mp hcolon
      rw [hcolon] at htake
      cases htake
      unfold Taken
      rw [hstate]
      refine ⟨first, lines ++ [(field, value)], hform, hfirst, ?_, ?_, ?_⟩
      · intro p hp
        rcases List.mem_append.mp hp with hp | hp
        · exact hlines p hp
        · rw [List.mem_singleton.mp hp]
          exact ⟨hnoColon, hline⟩
      · rw [headersOf_append, ← hheaders]
        rfl
      · rw [headerBytes_append]
        simp [List.append_assoc]
  | none =>
      rw [hcolon] at htake
      dsimp only at htake
      cases hlength : parseContentLength context.request.headers with
      | none =>
          rw [hlength] at htake
          cases htake
      | some n =>
          rw [hlength] at htake
          cases htake
          rw [hheaders] at hlength
          have hhead : HasHead (first ++ crlf ++ headerBytes lines ++ (line ++ crlf)) first lines
              line [] :=
            ⟨hform, hfirst, hlines, splitOnce_eq_none.mp hcolon, hline, by
              simp [List.append_assoc]⟩
          unfold Taken
          dsimp only
          by_cases hpos : 0 < n
          · rw [if_pos hpos]
            exact ⟨first, lines, line, hhead, hlength⟩
          · rw [if_neg hpos]
            refine ⟨first, lines, line, [], hhead, ?_⟩
            rw [hlength, Nat.eq_zero_of_not_pos hpos]
            rfl

/-- One line more. -/
theorem Taken.line {line : Bytes} (h : Taken taken context)
    (hexpects : context.expectsLine = true) (hline : findCRLF line = none)
    (htake : context.takeLine receiveTime line = (next, true)) :
    Taken (taken ++ (line ++ crlf)) next := by
  by_cases hstate : context.state = .kExpectRequestLine
  · exact h.requestLine hstate hline htake
  · have hheaders : context.state = .kExpectHeaders := by
      simpa [HttpContext.expectsLine, hstate] using hexpects
    exact h.headerLine hheaders hline htake

theorem HasHead.append {bytes line last rest : Bytes} {lines : List (Bytes × Bytes)}
    (h : HasHead bytes line lines last rest) (more : Bytes) :
    HasHead (bytes ++ more) line lines last (rest ++ more) := by
  obtain ⟨hline, hend, hlines, hcolon, hlast, rfl⟩ := h
  exact ⟨hline, hend, hlines, hcolon, hlast, by simp [List.append_assoc]⟩

/-- One turn keeps account of what it takes. -/
theorem Taken.read {used : Nat} (h : Taken taken context)
    (hread : readRequest receiveTime context buf = .item used next ()) :
    Taken (taken ++ buf.take used) next := by
  rcases readRequest_item hread with ⟨hexpects, stop, hend, rfl, htake⟩ |
    ⟨hstate, -, hlen, rfl, rfl⟩
  · obtain ⟨hbuf, hline, hlen⟩ := findCRLF_eq_some hend
    have htaken : buf.take (stop + 2) = buf.take stop ++ crlf := by
      have hlength : (buf.take stop ++ crlf).length = stop + 2 := by
        rw [List.length_append, List.length_take, Nat.min_eq_left (by omega)]
        rfl
      conv_lhs => rw [hbuf]
      rw [← hlength, List.take_left]
    rw [htaken]
    exact h.line hexpects hline htake
  · unfold Taken at h
    rw [hstate] at h
    obtain ⟨line, lines, last, hhead, hlength⟩ := h
    refine ⟨line, lines, last, _, hhead.append _, ?_⟩
    rw [hlength, List.nil_append, List.length_take, Nat.min_eq_left hlen]

end Traces

/-! ### All that is accepted -/

/-- The request, behind its header lines. -/
def headRequest (receiveTime : Timestamp) (line : Bytes) (lines : List (Bytes × Bytes)) :
    HttpRequest :=
  { (processRequestLine {} line).1 with
    receiveTime := receiveTime
    headers := headersOf lines }

/-- The end of a request whose headers declare a length, from the last line of its head on. -/
def finish (request : HttpRequest) (last : Bytes) (length : Option Nat) (rest : Bytes) : Parsed :=
  match length with
  | none => ⟨⟨.kExpectHeaders, request, 0⟩, last ++ crlf ++ rest, false⟩
  | some n =>
      if n = 0 then ⟨⟨.kGotAll, request, 0⟩, rest, true⟩
      else if n ≤ rest.length then
        ⟨⟨.kGotAll, { request with body := rest.take n }, n⟩, rest.drop n, true⟩
      else ⟨⟨.kExpectBody, request, n⟩, rest, true⟩

section Accepted

variable {receiveTime : Timestamp} {context : HttpContext} {bytes line last rest : Bytes}
  {lines : List (Bytes × Bytes)}

theorem drain_finish (hstate : context.state = .kExpectHeaders) (hcolon : 58 ∉ last)
    (hend : findCRLF last = none) (rest : Bytes) :
    outcome ((requestReader receiveTime).drain context (last ++ crlf ++ rest)) =
      finish context.request last (parseContentLength context.request.headers) rest := by
  have hexpects : context.expectsLine = true := by simp [HttpContext.expectsLine, hstate]
  have hlast : splitOnce 58 last = none := splitOnce_eq_none.mpr hcolon
  cases hlength : parseContentLength context.request.headers with
  | none =>
      have htake : context.takeLine receiveTime last =
          (⟨.kExpectHeaders, context.request, 0⟩, false) := by
        rw [HttpContext.takeLine, if_neg (by simp [hstate]), hlast]
        dsimp only
        rw [hlength, hstate]
      exact drain_line_rejected hexpects hend htake
  | some n =>
      have htake : context.takeLine receiveTime last =
          (⟨if 0 < n then .kExpectBody else .kGotAll, context.request, n⟩, true) := by
        rw [HttpContext.takeLine, if_neg (by simp [hstate]), hlast]
        dsimp only
        rw [hlength]
      rw [drain_line hexpects hend htake, finish]
      by_cases hzero : n = 0
      · subst hzero
        exact drain_gotAll rfl rest
      · have hpos := Nat.pos_of_ne_zero hzero
        rw [if_pos hpos, if_neg hzero]
        by_cases hlen : n ≤ rest.length
        · have hread : (requestReader receiveTime).read ⟨.kExpectBody, context.request, n⟩ rest =
              .item n ⟨.kGotAll, { context.request with body := rest.take n }, n⟩ () := by
            simp [requestReader, readRequest, HttpContext.expectsLine, HttpContext.takeBody, hpos,
              hlen]
          rw [Reader.drain_of_item hread, outcome_prepend, drain_gotAll rfl, if_pos hlen]
        · have hread : (requestReader receiveTime).read ⟨.kExpectBody, context.request, n⟩ rest =
              .more := by
            simp [requestReader, readRequest, HttpContext.expectsLine, hlen]
          rw [Reader.drain_of_more hread, if_neg hlen]
          rfl

/-- **Behind a head**, the bytes are cut off as the headers declare. -/
theorem HasHead.parse (h : HasHead bytes line lines last rest) (receiveTime : Timestamp) :
    parseRequest receiveTime {} bytes =
      finish (headRequest receiveTime line lines) last (parseContentLength (headersOf lines))
        rest := by
  obtain ⟨request, hprocess, hheaders⟩ := process_of_isRequestLine h.line_ok
  have htake : HttpContext.takeLine receiveTime {} line =
      (⟨.kExpectHeaders, { request with receiveTime := receiveTime }, 0⟩, true) := by
    rw [HttpContext.takeLine, if_pos rfl, hprocess]
  have hadded : HttpContext.addHeaders
      ⟨.kExpectHeaders, { request with receiveTime := receiveTime }, 0⟩
      (lines.map fun p => (p.1, trim p.2)) =
      ⟨.kExpectHeaders, headRequest receiveTime line lines, 0⟩ := by
    rw [HttpContext.addHeaders, headRequest, hprocess]
    dsimp only
    rw [hheaders]
    rfl
  rw [parseRequest_eq_drain {} _ sane_init, h.bytes_eq, drain_line rfl h.line_end htake,
    headerBytes, drain_headers lines h.lines_ok rfl, hadded]
  exact drain_finish rfl h.last_noColon h.last_end rest

/-- The line that ends a header section is rejected just when the length of the body is
malformed. -/
theorem HasHead.ok_iff (h : HasHead bytes line lines last rest) :
    (parseRequest receiveTime {} bytes).ok = true ↔
      parseContentLength (headersOf lines) ≠ none := by
  rw [h.parse receiveTime]
  cases parseContentLength (headersOf lines) with
  | none => simp [finish]
  | some n =>
      rw [finish]
      split
      · simp
      · split <;> simp

/-- A request that is complete has taken a head, and the body that it declares. -/
theorem taken_of_gotAll (h : (parseRequest receiveTime {} bytes).context.gotAll = true) :
    ∃ taken, bytes = taken ++ (parseRequest receiveTime {} bytes).buf ∧
      ∃ line lines last body, HasHead taken line lines last body ∧
        parseContentLength (headersOf lines) = some body.length := by
  rw [parseRequest_eq_drain {} bytes sane_init] at h ⊢
  obtain ⟨taken, hbytes, htaken⟩ := Reader.drain_trace (R := requestReader receiveTime)
    (P := Taken) (fun taken s xs n s' _ hread ht => ht.read hread) {} bytes [] ⟨rfl, rfl⟩
  have hread := (requestReader receiveTime).read_drain {} bytes
  generalize (requestReader receiveTime).drain {} bytes = d at h hbytes htaken hread
  obtain ⟨state, rest, items, error⟩ := d
  cases error with
  | none =>
      have hgot : state.state = .kGotAll := of_decide_eq_true h
      unfold Taken at htaken
      dsimp only at htaken
      rw [hgot] at htaken
      exact ⟨taken, hbytes, htaken⟩
  | some rejected =>
      -- A rejected line leaves the parser where it waits for a line.
      obtain ⟨hexpects, -⟩ := readRequest_fail (readRequest_again hread)
      have hgot : rejected.state = .kGotAll := of_decide_eq_true h
      simp [HttpContext.expectsLine, hgot] at hexpects

end Accepted

/-- **Soundness, and where it ends.** Whatever the segments, the parser accepts nothing but
requests, and rejects every header line without a colon that is not empty, exactly when no
such line ends the header section behind a `Content-Length` that is well-formed. -/
theorem parseAll_sound_iff (receiveTime : Timestamp) (segs : List Bytes) :
    AcceptsRequests receiveTime segs ↔
      ∀ line lines last rest, HasHead segs.flatten line lines last rest →
        last = [] ∨ parseContentLength (headersOf lines) = none := by
  have hall : parseAll receiveTime segs = parseRequest receiveTime {} segs.flatten :=
    foldl_parseRequest receiveTime segs []
  unfold AcceptsRequests
  rw [hall]
  constructor
  · rintro ⟨-, hrejects⟩ line lines last rest hhead
    by_contra hnot
    obtain ⟨hlast, hlength⟩ := not_or.mp hnot
    have hok : (parseRequest receiveTime {} segs.flatten).ok = true := hhead.ok_iff.mpr hlength
    rw [hrejects line lines last rest hhead hlast] at hok
    cases hok
  · intro hempty
    constructor
    · intro hgot
      obtain ⟨taken, hbytes, line, lines, last, body, hhead, hlength⟩ := taken_of_gotAll hgot
      refine ⟨taken, hbytes, ?_⟩
      have hwhole := hhead.append (parseRequest receiveTime {} segs.flatten).buf
      rw [← hbytes] at hwhole
      rcases hempty line lines last _ hwhole with rfl | hnone
      · exact ⟨line, lines, body, hhead.line_ok, hhead.line_end, hhead.lines_ok,
          declares_of_parse hlength, by simpa [List.append_assoc] using hhead.bytes_eq⟩
      · rw [hlength] at hnone
        cases hnone
    · intro line lines last rest hhead hlast
      rcases hempty line lines last rest hhead with hnil | hnone
      · exact absurd hnil hlast
      · by_contra hok
        rw [Bool.not_eq_false] at hok
        exact hhead.ok_iff.mp hok hnone

/-- A request whose third line has no colon. -/
def colonless : Bytes :=
  ascii "GET / HTTP/1.1" ++ crlf ++ ascii "Host: a" ++ crlf ++ ascii "X-Secret" ++ crlf

/-- The line is not empty, and ends the header section all the same. -/
theorem colonless_accepted :
    (parseAll 0 [colonless]).ok = true ∧ (parseAll 0 [colonless]).context.gotAll = true ∧
      ¬ AcceptsRequests 0 [colonless] := by
  have hok : (parseAll 0 [colonless]).ok = true := by decide +kernel
  have hgot : (parseAll 0 [colonless]).context.gotAll = true := by decide +kernel
  refine ⟨hok, hgot, ?_⟩
  rintro ⟨-, hrejects⟩
  have hhead : HasHead [colonless].flatten (ascii "GET / HTTP/1.1") [(ascii "Host", ascii " a")]
      (ascii "X-Secret") [] := by
    refine ⟨⟨.kGet, ascii "/", .kHttp11, by decide, by decide, by decide, by decide⟩,
      by decide, ?_, by decide, by decide, by decide⟩
    intro p hp
    rw [List.mem_singleton.mp hp]
    decide
  rw [hrejects _ _ _ _ hhead (by decide)] at hok
  cases hok

end Rmuduo.Http
