/-
How a client reads responses (the format in the comment of `http/HttpResponse.h`): a status line,
header lines, an empty line, and a body. The answer to a `HEAD` request ends at its empty line,
whatever length it names. Every other response with a `Content-Length` ends behind so many bytes, and
one without it where the connection is closed.

* `replyReader` — the responses that end by themselves, as a reader of segmented input whose state is
  the requests that have not been answered.
* `HttpResponse.WellFormed` — what the application has to keep to.
* `readReply_keeps` — `appendToBuffer` of a response that keeps the connection is read back, whatever
  follows it, as the answer to any request but `HEAD`.
* `readReply_head` — behind the answer to `HEAD` the server writes a body that a client does not look
  for there.
* `lastReply_closes` — one that closes the connection is read back when it has been closed.
-/

import Rmuduo.Http.HttpServer
import Rmuduo.Http.WireFormat
import Rmuduo.Lib.Lines

namespace Rmuduo.Http

open Lib

/-! ### The client -/

/-- A response as a client reads it. -/
structure Reply where
  status : Nat
  reason : Bytes
  headers : List (Bytes × Bytes)
  body : Bytes
deriving DecidableEq

/-- Everything but the body. -/
structure ReplyHead where
  status : Nat
  reason : Bytes
  headers : List (Bytes × Bytes)
deriving DecidableEq

/-- A version, three digits and a reason. -/
def parseStatusLine (line : Bytes) : Option (Nat × Bytes) :=
  match splitOnce 32 line with
  | none => none
  | some (version, line) =>
      match splitOnce 32 line with
      | none => none
      | some (status, reason) =>
          if version = ascii "HTTP/1.1" ∧ status.length = 3 then
            (readNumber status).map fun status => (status, reason)
          else none

def parseField (line : Bytes) : Option (Bytes × Bytes) :=
  (splitOnce 58 line).map fun field => (field.1, trim field.2)

def parseFields : List Bytes → Option (List (Bytes × Bytes))
  | [] => some []
  | line :: lines =>
      match parseField line, parseFields lines with
      | some field, some fields => some (field :: fields)
      | _, _ => none

def parseHead : List Bytes → Option ReplyHead
  | [] => none
  | line :: lines =>
      match parseStatusLine line, parseFields lines with
      | some (status, reason), some headers => some ⟨status, reason, headers⟩
      | _, _ => none

namespace ReplyHead

/-- The value of `Content-Length`, in any letter case. -/
def lengthField (head : ReplyHead) : Option Bytes :=
  (head.headers.find? fun header => equalCaseInsensitive header.1 (ascii "Content-Length")).map
    Prod.snd

def reply (head : ReplyHead) (body : Bytes) : Reply :=
  ⟨head.status, head.reason, head.headers, body⟩

end ReplyHead

/-- The response to the first of these requests, if it ends by itself. -/
def readReply (requests : List Method) (data : Bytes) : Reading (List Method) Unit Reply :=
  match cutHead data with
  | none => .more
  | some (lines, rest) =>
      match parseHead lines with
      | none => .fail ()
      | some head =>
          if requests.head? = some .kHead then
            .item (data.length - rest.length) requests.tail (head.reply [])
          else
            match head.lengthField with
            | none => .more
            | some value =>
                match readNumber value with
                | none => .fail ()
                | some n =>
                    if n ≤ rest.length then
                      .item (data.length - rest.length + n) requests.tail (head.reply (rest.take n))
                    else .more

section Reading

variable {requests next : List Method} {data rest : Bytes} {lines : List Bytes} {head : ReplyHead}
  {value : Bytes} {n : Nat}

theorem readReply_of_head (hhead : cutHead data = some (lines, rest))
    (hparsed : parseHead lines = some head) (hrequest : requests.head? = some .kHead) :
    readReply requests data =
      .item (data.length - rest.length) requests.tail (head.reply []) := by
  rw [readReply, hhead]
  dsimp only
  rw [hparsed]
  dsimp only
  rw [if_pos hrequest]

theorem readReply_of_length (hhead : cutHead data = some (lines, rest))
    (hparsed : parseHead lines = some head) (hrequest : requests.head? ≠ some .kHead)
    (hvalue : head.lengthField = some value) (hlength : readNumber value = some n) :
    readReply requests data =
      if n ≤ rest.length then
        .item (data.length - rest.length + n) requests.tail (head.reply (rest.take n))
      else .more := by
  rw [readReply, hhead]
  dsimp only
  rw [hparsed]
  dsimp only
  rw [if_neg hrequest, hvalue]
  dsimp only
  rw [hlength]

/-- What a response that has been read consists of. -/
theorem readReply_item {used : Nat} {reply : Reply}
    (h : readReply requests data = .item used next reply) :
    ∃ lines rest head, cutHead data = some (lines, rest) ∧ parseHead lines = some head ∧
      next = requests.tail ∧
      ((requests.head? = some .kHead ∧ used = data.length - rest.length ∧ reply = head.reply []) ∨
        ∃ value n, requests.head? ≠ some .kHead ∧ head.lengthField = some value ∧
          readNumber value = some n ∧ n ≤ rest.length ∧ used = data.length - rest.length + n ∧
          reply = head.reply (rest.take n)) := by
  unfold readReply at h
  split at h
  · cases h
  · rename_i lines rest hhead
    split at h
    · cases h
    · rename_i head hparsed
      split at h
      · rename_i hrequest
        cases h
        exact ⟨lines, rest, head, hhead, hparsed, rfl, .inl ⟨hrequest, rfl, rfl⟩⟩
      · rename_i hrequest
        split at h
        · cases h
        · rename_i value hvalue
          split at h
          · cases h
          · rename_i n hlength
            split at h
            · rename_i hle
              cases h
              exact ⟨lines, rest, head, hhead, hparsed, rfl,
                .inr ⟨value, n, hrequest, hvalue, hlength, hle, rfl, rfl⟩⟩
            · cases h

/-- What makes a response malformed. -/
theorem readReply_fail (h : readReply requests data = .fail ()) :
    ∃ lines rest, cutHead data = some (lines, rest) ∧
      (parseHead lines = none ∨ ∃ head value, parseHead lines = some head ∧
        requests.head? ≠ some .kHead ∧ head.lengthField = some value ∧
        readNumber value = none) := by
  unfold readReply at h
  split at h
  · cases h
  · rename_i lines rest hhead
    refine ⟨lines, rest, hhead, ?_⟩
    split at h
    · rename_i hparsed
      exact .inl hparsed
    · rename_i head hparsed
      split at h
      · cases h
      · rename_i hrequest
        split at h
        · cases h
        · rename_i value hvalue
          split at h
          · rename_i hlength
            exact .inr ⟨head, value, hparsed, hrequest, hvalue, hlength⟩
          · split at h <;> cases h

end Reading

/-- The responses of a connection, one after the other, to the requests of its client. -/
def replyReader : Reader UInt8 (List Method) Unit Reply where
  read := readReply
  read_nil _ := by
    rw [readReply, cutHead_of_none rfl]
  item_used {_ data used next reply} h := by
    obtain ⟨lines, rest, head, hhead, -, -, hcases⟩ := readReply_item h
    have hlen := length_of_cutHead hhead
    rcases hcases with ⟨-, rfl, -⟩ | ⟨value, n, -, -, -, hle, rfl, -⟩ <;> omega
  item_append {_ data used next reply} h more := by
    obtain ⟨lines, rest, head, hhead, hparsed, rfl, hcases⟩ := readReply_item h
    have hlen := length_of_cutHead hhead
    have hused : (data ++ more).length - (rest ++ more).length = data.length - rest.length := by
      rw [List.length_append, List.length_append]
      omega
    rcases hcases with ⟨hrequest, rfl, rfl⟩ | ⟨value, n, hrequest, hvalue, hlength, hle, rfl, rfl⟩
    · rw [readReply_of_head (cutHead_append hhead more) hparsed hrequest, hused]
    · have hmore : n ≤ (rest ++ more).length := by
        rw [List.length_append]
        omega
      rw [readReply_of_length (cutHead_append hhead more) hparsed hrequest hvalue hlength,
        if_pos hmore, hused, List.take_append_of_le_length hle]
  fail_append {_ data _} h more := by
    obtain ⟨lines, rest, hhead, hmalformed⟩ := readReply_fail h
    rw [readReply, cutHead_append hhead more]
    dsimp only
    rcases hmalformed with hparsed | ⟨head, value, hparsed, hrequest, hvalue, hlength⟩
    · rw [hparsed]
    · rw [hparsed]
      dsimp only
      rw [if_neg hrequest, hvalue]
      dsimp only
      rw [hlength]

/-- What is left when the connection has been closed: a response whose body ends there. -/
def lastReply (data : Bytes) : Option Reply :=
  match cutHead data with
  | none => none
  | some (lines, rest) =>
      match parseHead lines with
      | none => none
      | some head => if head.lengthField = none then some (head.reply rest) else none

/-- All that a client makes of what it has received as the answers to these requests, and of the end
of the connection if that has been received. `none` is for what no sequence of responses begins
with. -/
def readReplies (requests : List Method) (closed : Bool) (data : Bytes) : Option (List Reply) :=
  let d := replyReader.drain requests data
  if d.error ≠ none then none
  else if closed = true ∧ d.rest ≠ [] then
    (lastReply d.rest).map fun last => d.items ++ [last]
  else some d.items

/-! ### Responses that can be read -/

/-- The reason is one line. Headers are one line each, have no colon in their names and no blanks
around their values, and none of them is a length of the body. -/
structure HttpResponse.WellFormed (response : HttpResponse) : Prop where
  status : response.statusCode ≠ .kUnknown
  reason : OneLine response.statusMessage
  headers : ∀ header ∈ response.headers, OneLine header.1 ∧ OneLine header.2 ∧ 58 ∉ header.1 ∧
    Trimmed header.2 ∧ equalCaseInsensitive header.1 (ascii "Content-Length") = false

namespace HttpResponse

/-- The headers that `appendToBuffer` writes by itself, and those of the application. -/
def fields (response : HttpResponse) : List (Bytes × Bytes) :=
  (if response.closeConnection then [(ascii "Connection", ascii "close")]
  else [(ascii "Content-Length", decimal response.body.length),
    (ascii "Connection", ascii "Keep-Alive")]) ++ response.headers

/-- The response as a client is to read it. -/
def reply (response : HttpResponse) : Reply :=
  ⟨response.statusCode.code, response.statusMessage, response.fields, response.body⟩

def head (response : HttpResponse) : ReplyHead :=
  ⟨response.statusCode.code, response.statusMessage, response.fields⟩

def statusLine (response : HttpResponse) : Bytes :=
  ascii "HTTP/1.1" ++ 32 :: (decimal response.statusCode.code ++ 32 :: response.statusMessage)

/-- The lines of the head. -/
def lines (response : HttpResponse) : List Bytes :=
  response.statusLine :: response.fields.map fun field => field.1 ++ 58 :: ([32] ++ field.2)

variable {response : HttpResponse}

theorem bytes_eq (response : HttpResponse) :
    response.bytes =
      (response.lines.flatMap fun line => line ++ crlf) ++ crlf ++ response.body := by
  have hspace : ascii "HTTP/1.1 " = ascii "HTTP/1.1" ++ [32] := rfl
  have hsep : ascii ": " = [58, 32] := rfl
  have hblank : ascii " " = [32] := rfl
  have hclose : ascii "Connection: close" = ascii "Connection" ++ 58 :: ([32] ++ ascii "close") :=
    rfl
  have hkeep : ascii "Connection: Keep-Alive" =
      ascii "Connection" ++ 58 :: ([32] ++ ascii "Keep-Alive") := rfl
  have hlength : ascii "Content-Length: " = ascii "Content-Length" ++ [58, 32] := rfl
  have hheaders : (response.headers.flatMap fun header => header.1 ++ ascii ": " ++ header.2 ++ crlf) =
      (response.headers.map fun field => field.1 ++ 58 :: ([32] ++ field.2)).flatMap
        fun line => line ++ crlf := by
    rw [List.flatMap_map]
    refine congrArg (List.flatMap · response.headers) (funext fun header => ?_)
    rw [hsep]
    simp
  rw [bytes, hheaders, lines, statusLine, fields, hspace, hblank, hclose, hkeep, hlength]
  split <;> simp

/-! ### The head -/

theorem length_decimal_code {code : HttpStatusCode} (h : code ≠ .kUnknown) :
    (decimal code.code).length = 3 := by
  cases code with
  | kUnknown => exact absurd rfl h
  | k200Ok => decide
  | k301MovedPermanently => decide
  | k400BadRequest => decide
  | k401Unauthorized => decide
  | k404NotFound => decide

theorem parseStatusLine_statusLine (h : response.statusCode ≠ .kUnknown) :
    parseStatusLine response.statusLine =
      some (response.statusCode.code, response.statusMessage) := by
  have hdigits : (32 : UInt8) ∉ decimal response.statusCode.code := decimal_not_mem rfl _
  rw [parseStatusLine, statusLine, splitOnce_of_not_mem (by decide)]
  dsimp only
  rw [splitOnce_of_not_mem hdigits]
  dsimp only
  rw [if_pos ⟨rfl, length_decimal_code h⟩, readNumber_decimal]
  rfl

/-- A header line that is read back. -/
theorem parseField_line {field : Bytes × Bytes} (hcolon : 58 ∉ field.1) (htrimmed : Trimmed field.2) :
    parseField (field.1 ++ 58 :: ([32] ++ field.2)) = some field := by
  have htrim : trim ([32] ++ field.2 ++ []) = field.2 := by
    refine trim_padded ?_ htrimmed ?_
    · intro b hb
      rw [List.mem_singleton.mp hb]
      rfl
    · intro b hb
      cases hb
  rw [List.append_nil] at htrim
  rw [parseField, splitOnce_of_not_mem hcolon]
  dsimp only [Option.map]
  rw [htrim]

theorem parseFields_lines {fields : List (Bytes × Bytes)}
    (h : ∀ field ∈ fields, 58 ∉ field.1 ∧ Trimmed field.2) :
    parseFields (fields.map fun field => field.1 ++ 58 :: ([32] ++ field.2)) = some fields := by
  induction fields with
  | nil => rfl
  | cons field fields ih =>
      obtain ⟨hcolon, htrimmed⟩ := h field List.mem_cons_self
      rw [List.map_cons, parseFields, parseField_line hcolon htrimmed,
        ih fun f hf => h f (List.mem_cons_of_mem _ hf)]

/-- A number in decimal is a header value. -/
theorem decimal_value (n : Nat) : OneLine (decimal n) ∧ Trimmed (decimal n) := by
  have hspace {b : UInt8} (hb : b ∈ decimal n) : isspace b = false := by
    have hdigit := isdigit_decimal n b hb
    simp only [isdigit, decide_eq_true_eq, UInt8.le_iff_toNat_le] at hdigit
    have hlow : 48 ≤ b.toNat := hdigit.1
    simp only [isspace, decide_eq_false_iff_not, UInt8.le_iff_toNat_le, ← UInt8.toNat_inj]
    have h32 : (32 : UInt8).toNat = 32 := rfl
    have h13 : (13 : UInt8).toNat = 13 := rfl
    rw [h32, h13]
    omega
  refine ⟨⟨decimal_not_mem rfl n, decimal_not_mem rfl n⟩, ?_, ?_⟩
  · intro b hb
    exact hspace (List.mem_of_mem_head? hb)
  · intro b hb
    exact hspace (List.mem_of_mem_getLast? hb)

/-- The headers that are written can be read. -/
theorem WellFormed.fields (h : response.WellFormed) :
    ∀ field ∈ response.fields, OneLine field.1 ∧ OneLine field.2 ∧ 58 ∉ field.1 ∧
      Trimmed field.2 := by
  have happlication : ∀ field ∈ response.headers, OneLine field.1 ∧ OneLine field.2 ∧ 58 ∉ field.1 ∧
      Trimmed field.2 := by
    intro field hfield
    obtain ⟨hname, hvalue, hcolon, htrimmed, -⟩ := h.headers field hfield
    exact ⟨hname, hvalue, hcolon, htrimmed⟩
  have hconst {name value : Bytes} (hconst : 13 ∉ name ∧ 10 ∉ name ∧ 13 ∉ value ∧ 10 ∉ value ∧
      58 ∉ name ∧ Trimmed value) : OneLine name ∧ OneLine value ∧ 58 ∉ name ∧ Trimmed value := by
    obtain ⟨h1, h2, h3, h4, h5, h6⟩ := hconst
    exact ⟨⟨h1, h2⟩, ⟨h3, h4⟩, h5, h6⟩
  intro field hfield
  unfold HttpResponse.fields at hfield
  rcases List.mem_append.mp hfield with hown | hother
  · split at hown
    · rw [List.mem_singleton.mp hown]
      exact hconst ⟨by decide, by decide, by decide, by decide, by decide,
        by simp [Trimmed, ascii, isspace]⟩
    · rcases List.mem_cons.mp hown with rfl | hown
      · obtain ⟨hline, htrimmed⟩ := decimal_value response.body.length
        have hname : OneLine (ascii "Content-Length") ∧ 58 ∉ ascii "Content-Length" :=
          ⟨⟨by decide, by decide⟩, by decide⟩
        exact ⟨hname.1, hline, hname.2, htrimmed⟩
      · rw [List.mem_singleton.mp hown]
        exact hconst ⟨by decide, by decide, by decide, by decide, by decide,
          by simp [Trimmed, ascii, isspace]⟩
  · exact happlication field hother

theorem WellFormed.cutHead (h : response.WellFormed) (more : Bytes) :
    cutHead (response.bytes ++ more) = some (response.lines, response.body ++ more) := by
  rw [bytes_eq, List.append_assoc]
  refine cutHead_lines ?_ _
  intro line hline
  rcases List.mem_cons.mp hline with rfl | hline
  · refine ⟨OneLine.findCRLF ?_, by simp [statusLine, ascii]⟩
    have hdigits := (decimal_value response.statusCode.code).1
    exact OneLine.append ⟨by decide, by decide⟩
      ((hdigits.append (h.reason.cons (by decide) (by decide))).cons (by decide) (by decide))
  · obtain ⟨field, hfield, rfl⟩ := List.mem_map.mp hline
    obtain ⟨hname, hvalue, -, -⟩ := h.fields field hfield
    refine ⟨OneLine.findCRLF ?_, by simp⟩
    exact hname.append ((hvalue.cons (by decide) (by decide)).cons (by decide) (by decide))

theorem WellFormed.parseHead (h : response.WellFormed) :
    parseHead response.lines = some response.head := by
  have hfields := parseFields_lines fun field hfield =>
    ⟨(h.fields field hfield).2.2.1, (h.fields field hfield).2.2.2⟩
  rw [lines, Http.parseHead, parseStatusLine_statusLine h.status, hfields]
  rfl

/-! ### The length of the body -/

theorem lengthField_keeps (hkeeps : response.closeConnection = false) :
    response.head.lengthField = some (decimal response.body.length) := by
  have hfirst : response.head.headers = (ascii "Content-Length", decimal response.body.length) ::
      (ascii "Connection", ascii "Keep-Alive") :: response.headers := by
    simp [head, HttpResponse.fields, hkeeps]
  have hname : equalCaseInsensitive (ascii "Content-Length") (ascii "Content-Length") = true := by
    decide
  rw [ReplyHead.lengthField, hfirst, List.find?_cons]
  dsimp only
  rw [hname]
  rfl

theorem WellFormed.lengthField_closes (h : response.WellFormed)
    (hcloses : response.closeConnection = true) : response.head.lengthField = none := by
  rw [ReplyHead.lengthField, Option.map_eq_none_iff, List.find?_eq_none]
  intro field hfield
  simp only [head, HttpResponse.fields, hcloses, if_true] at hfield
  rcases List.mem_cons.mp hfield with rfl | hfield
  · decide
  · rw [(h.headers field hfield).2.2.2.2]
    decide

variable {requests : List Method}

/-- **A response that keeps the connection** is read back, whatever follows it. -/
theorem WellFormed.readReply_keeps (h : response.WellFormed)
    (hkeeps : response.closeConnection = false) (hrequest : requests.head? ≠ some .kHead)
    (more : Bytes) :
    readReply requests (response.bytes ++ more) =
      .item response.bytes.length requests.tail response.reply := by
  have hlen : response.body.length ≤ (response.body ++ more).length := by
    rw [List.length_append]
    omega
  have hbody := length_of_cutHead (h.cutHead more)
  have hused : (response.bytes ++ more).length - (response.body ++ more).length +
      response.body.length = response.bytes.length := by
    rw [List.length_append, List.length_append] at hbody ⊢
    omega
  rw [readReply_of_length (h.cutHead more) h.parseHead hrequest (lengthField_keeps hkeeps)
    (readNumber_decimal _), if_pos hlen, hused, List.take_left]
  rfl

/-- **A response to `HEAD`** is read up to its empty line. Its body is left in front of what
follows. -/
theorem WellFormed.readReply_head (h : response.WellFormed) (hrequest : requests.head? = some .kHead)
    (more : Bytes) :
    readReply requests (response.bytes ++ more) =
      .item (response.bytes.length - response.body.length) requests.tail (response.head.reply []) := by
  have hused : (response.bytes ++ more).length - (response.body ++ more).length =
      response.bytes.length - response.body.length := by
    rw [List.length_append, List.length_append]
    omega
  rw [readReply_of_head (h.cutHead more) h.parseHead hrequest, hused]

/-- **A response that closes the connection** is not read before, and read back then. -/
theorem WellFormed.readReply_closes (h : response.WellFormed)
    (hcloses : response.closeConnection = true) (hrequest : requests.head? ≠ some .kHead) :
    readReply requests response.bytes = .more := by
  have hhead := h.cutHead []
  rw [List.append_nil] at hhead
  rw [readReply, hhead]
  dsimp only
  rw [h.parseHead]
  dsimp only
  rw [if_neg hrequest, h.lengthField_closes hcloses]

theorem WellFormed.lastReply_closes (h : response.WellFormed)
    (hcloses : response.closeConnection = true) : lastReply response.bytes = some response.reply := by
  have hhead := h.cutHead []
  rw [List.append_nil, List.append_nil] at hhead
  rw [lastReply, hhead]
  dsimp only
  rw [h.parseHead]
  dsimp only
  rw [if_pos (h.lengthField_closes hcloses)]
  rfl

end HttpResponse

end Rmuduo.Http
