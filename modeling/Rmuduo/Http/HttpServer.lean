/-
The HTTP server (`http/HttpResponse.h`, `http/HttpResponse.cc`, `http/HttpServer.cc`), as one
connection sees it.

The callback of the application is a parameter. What it answers may depend on the requests
of the connection that it has seen before. `invoked` and `sent` record what the connection
has given to the callback and to its peer; no function of the source reads them.

* `parseRequest_untimed` — the time of arrival is all that the parser takes from the time.
-/

import Rmuduo.Http.HttpContext

namespace Rmuduo.Http

open Lib
open Net (Timestamp)

/-! ### Responses -/

inductive HttpStatusCode where
  | kUnknown | k200Ok | k301MovedPermanently | k400BadRequest | k401Unauthorized | k404NotFound
deriving DecidableEq, Repr

def HttpStatusCode.code : HttpStatusCode → Nat
  | .kUnknown => 0
  | .k200Ok => 200
  | .k301MovedPermanently => 301
  | .k400BadRequest => 400
  | .k401Unauthorized => 401
  | .k404NotFound => 404

structure HttpResponse where
  closeConnection : Bool
  statusCode : HttpStatusCode := .kUnknown
  statusMessage : Bytes := []
  headers : List (Bytes × Bytes) := []
  body : Bytes := []
deriving DecidableEq

def HttpResponse.addHeader (response : HttpResponse) (field value : Bytes) : HttpResponse :=
  { response with headers := OrderedMap.assign field value response.headers }

def HttpResponse.setContentType (response : HttpResponse) (contentType : Bytes) : HttpResponse :=
  response.addHeader (ascii "Content-Type") contentType

/-- `appendToBuffer`. -/
def HttpResponse.bytes (response : HttpResponse) : Bytes :=
  ascii "HTTP/1.1 " ++ decimal response.statusCode.code ++ ascii " " ++ response.statusMessage ++
    crlf ++
    (if response.closeConnection then ascii "Connection: close" ++ crlf
    else ascii "Content-Length: " ++ decimal response.body.length ++ crlf ++
      ascii "Connection: Keep-Alive" ++ crlf) ++
    (response.headers.flatMap fun header => header.1 ++ ascii ": " ++ header.2 ++ crlf) ++
    crlf ++ response.body

/-! ### The connection -/

/-- `HttpCallback`, with the requests that it has seen before. -/
abbrev HttpCallback := List HttpRequest → HttpRequest → HttpResponse → HttpResponse

structure HttpConnection where
  context : HttpContext := {}
  inputBuffer : Bytes := []
  connected : Bool := true
  invoked : List HttpRequest := []
  sent : List Bytes := []
deriving DecidableEq

namespace HttpConnection

/-- `TcpConnection::send`: nothing is sent once `shutdown()` has been called. -/
def send (conn : HttpConnection) (data : Bytes) : HttpConnection :=
  if conn.connected then { conn with sent := conn.sent ++ [data] } else conn

/-- `TcpConnection::shutdown`. -/
def shutdown (conn : HttpConnection) : HttpConnection := { conn with connected := false }

/-- `BADREQUEST`. -/
def badRequest : Bytes := ascii "HTTP/1.1 400 Bad Request" ++ crlf ++ crlf

def closes (request : HttpRequest) : Bool :=
  let connection := request.getHeader (ascii "Connection")
  connection = ascii "close" ∨ (request.version = .kHttp10 ∧ connection ≠ ascii "Keep-Alive")

def onRequest (callback : HttpCallback) (conn : HttpConnection) (request : HttpRequest) :
    HttpConnection :=
  let response := callback conn.invoked request { closeConnection := closes request }
  let conn := { conn with invoked := conn.invoked ++ [request] }
  let conn := conn.send response.bytes
  if response.closeConnection then conn.shutdown else conn

def onMessage (callback : HttpCallback) (receiveTime : Timestamp) (conn : HttpConnection) :
    HttpConnection :=
  let o := parseRequest receiveTime conn.context conn.inputBuffer
  let conn := { conn with context := o.context, inputBuffer := o.buf }
  let conn := if o.ok then conn else (conn.send badRequest).shutdown
  if conn.context.gotAll then
    { onRequest callback conn conn.context.request with context := {} }
  else conn

/-- `handleRead`: bytes arrive at a time. -/
def receive (callback : HttpCallback) (conn : HttpConnection) (seg : Timestamp × Bytes) :
    HttpConnection :=
  { conn with inputBuffer := conn.inputBuffer ++ seg.2 }.onMessage callback seg.1

section Fields

variable (callback : HttpCallback) (conn : HttpConnection) (request : HttpRequest) (data : Bytes)

@[simp] theorem send_context : (conn.send data).context = conn.context := by
  unfold send
  split <;> rfl

@[simp] theorem send_inputBuffer : (conn.send data).inputBuffer = conn.inputBuffer := by
  unfold send
  split <;> rfl

@[simp] theorem send_invoked : (conn.send data).invoked = conn.invoked := by
  unfold send
  split <;> rfl

@[simp] theorem onRequest_inputBuffer :
    (conn.onRequest callback request).inputBuffer = conn.inputBuffer := by
  unfold onRequest shutdown
  dsimp only
  split <;> simp

@[simp] theorem onRequest_invoked :
    (conn.onRequest callback request).invoked = conn.invoked ++ [request] := by
  unfold onRequest shutdown
  dsimp only
  split <;> simp

end Fields

end HttpConnection

/-! ### Times -/

def HttpRequest.untimed (request : HttpRequest) : HttpRequest := { request with receiveTime := 0 }

def HttpContext.untimed (context : HttpContext) : HttpContext :=
  { context with request := context.request.untimed }

def Parsed.untimed (o : Parsed) : Parsed := { o with context := o.context.untimed }

section Untimed

variable {receiveTime : Timestamp}

theorem processRequestLine_untimed (request : HttpRequest) (line : Bytes) :
    processRequestLine request.untimed line =
      ((processRequestLine request line).1.untimed, (processRequestLine request line).2) := by
  unfold processRequestLine
  cases splitOnce 32 line with
  | none => rfl
  | some parts =>
      obtain ⟨m, line'⟩ := parts
      dsimp only [HttpRequest.setMethod]
      cases kMethods.lookup m with
      | none => rfl
      | some method =>
          dsimp only
          cases splitOnce 32 line' with
          | none => rfl
          | some parts' =>
              obtain ⟨target, version⟩ := parts'
              dsimp only [HttpRequest.setTarget]
              cases splitOnce 63 target <;> cases parseVersion version <;> rfl

/-- The time of arrival is all that the parser takes from the time. -/
theorem parseLoop_untimed (fuel : Nat) (context : HttpContext) (buf : Bytes) :
    parseLoop 0 fuel context.untimed buf = (parseLoop receiveTime fuel context buf).untimed := by
  induction fuel generalizing context buf with
  | zero => rfl
  | succ fuel ih =>
      obtain ⟨state, request, contentLength⟩ := context
      cases state with
      | kExpectRequestLine =>
          simp only [parseLoop, HttpContext.untimed]
          cases findCRLF buf with
          | none => rfl
          | some stop =>
              dsimp only
              rw [processRequestLine_untimed]
              cases processRequestLine request (buf.take stop) with
              | mk request' ok =>
                  cases ok with
                  | false => rfl
                  | true =>
                      exact ih ⟨.kExpectHeaders, { request' with receiveTime := receiveTime },
                        contentLength⟩ _
      | kExpectHeaders =>
          simp only [parseLoop, HttpContext.untimed]
          cases findCRLF buf with
          | none => rfl
          | some stop =>
              dsimp only
              cases splitOnce 58 (buf.take stop) with
              | some parts =>
                  exact ih ⟨.kExpectHeaders, request.addHeader parts.1 parts.2, contentLength⟩ _
              | none =>
                  have hheaders : request.untimed.headers = request.headers := rfl
                  dsimp only
                  rw [hheaders]
                  cases parseContentLength request.headers with
                  | none => rfl
                  | some length =>
                      dsimp only
                      split_ifs
                      · exact ih ⟨.kExpectBody, request, length⟩ _
                      · rfl
      | kExpectBody =>
          unfold parseLoop HttpContext.untimed
          dsimp only
          by_cases hlen : contentLength ≤ buf.length
          · rw [if_pos hlen, if_pos hlen]
            exact ih ⟨.kGotAll, { request with body := buf.take contentLength }, contentLength⟩ _
          · rw [if_neg hlen, if_neg hlen]
            rfl
      | kGotAll => rfl

theorem parseRequest_untimed (context : HttpContext) (buf : Bytes) :
    parseRequest 0 context.untimed buf = (parseRequest receiveTime context buf).untimed :=
  parseLoop_untimed _ context buf

end Untimed

end Rmuduo.Http
