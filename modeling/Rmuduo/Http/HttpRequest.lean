/-
HTTP requests (`http/HttpRequest.h`).

Strings are bytes, and `headers_` is an ordered map.
-/

import Rmuduo.Lib.OrderedMap
import Rmuduo.Lib.Text
import Rmuduo.Net.Timestamp

namespace Rmuduo.Http

open Lib
open Net (Timestamp)

inductive Method where
  | kInvalid | kGet | kPost | kHead | kPut | kDelete
deriving DecidableEq, Repr

inductive Version where
  | kUnknown | kHttp10 | kHttp11
deriving DecidableEq, Repr

structure HttpRequest where
  method : Method := .kInvalid
  version : Version := .kUnknown
  path : Bytes := []
  query : Bytes := []
  body : Bytes := []
  receiveTime : Timestamp := 0
  headers : List (Bytes × Bytes) := []
deriving DecidableEq

/-- `kMethods`. -/
def kMethods : List (Bytes × Method) :=
  [(ascii "GET", .kGet), (ascii "POST", .kPost), (ascii "HEAD", .kHead), (ascii "PUT", .kPut),
    (ascii "DELETE", .kDelete)]

namespace HttpRequest

/-- `setMethod`: a method that is not known leaves `kInvalid`. -/
def setMethod (request : HttpRequest) (m : Bytes) : HttpRequest × Bool :=
  match kMethods.lookup m with
  | some method => ({ request with method := method }, true)
  | none => ({ request with method := .kInvalid }, false)

/-- `addHeader`, on the parts of the line before and behind the colon. -/
def addHeader (request : HttpRequest) (field value : Bytes) : HttpRequest :=
  { request with headers := OrderedMap.assign field (trim value) request.headers }

/-- `getHeader`: empty when the field is absent. -/
def getHeader (request : HttpRequest) (field : Bytes) : Bytes :=
  (OrderedMap.lookup field request.headers).getD []

end HttpRequest

end Rmuduo.Http
