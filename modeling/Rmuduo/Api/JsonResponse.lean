/-
JSON answers (`api/JsonResponse.h`).
-/

import Rmuduo.Lib.Text

namespace Rmuduo.Api

open Lib

/-- `escapeJson`, for one byte. -/
def escapeByte (ch : UInt8) : Bytes :=
  if ch = 34 then ascii "\\\""
  else if ch = 92 then ascii "\\\\"
  else if ch = 8 then ascii "\\b"
  else if ch = 12 then ascii "\\f"
  else if ch = 10 then ascii "\\n"
  else if ch = 13 then ascii "\\r"
  else if ch = 9 then ascii "\\t"
  else [ch]

def escapeJson (value : Bytes) : Bytes :=
  value.flatMap escapeByte

def quote (value : Bytes) : Bytes :=
  ascii "\"" ++ escapeJson value ++ ascii "\""

def makeField (key value : Bytes) : Bytes :=
  quote key ++ ascii ":" ++ quote value

/-- `std::to_string` of a signed number. -/
def toText (value : Int) : Bytes :=
  if value < 0 then ascii "-" ++ decimal value.natAbs else decimal value.natAbs

def makeNumberField (key : Bytes) (value : Int) : Bytes :=
  quote key ++ ascii ":" ++ toText value

/-! ### Answers -/

def makeJsonResponse (code : Int) (message dataJson : Bytes) : Bytes :=
  ascii "\x7b\"code\":" ++ toText code ++ ascii ",\"message\":" ++ quote message ++
    ascii ",\"data\":" ++ dataJson ++ ascii "\x7d"

def makeOk (dataJson : Bytes) : Bytes :=
  makeJsonResponse 0 (ascii "ok") dataJson

def makeError (code : Int) (message : Bytes) : Bytes :=
  makeJsonResponse code message (ascii "null")

end Rmuduo.Api
