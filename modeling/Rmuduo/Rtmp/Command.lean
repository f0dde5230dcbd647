/-
Commands (`rtmp/RtmpCommandMessage.cc`) and the stream target that a publish or play
command names (`ParseStreamTarget` of `rtmp/RtmpConnection.cc`).
-/

import Rmuduo.Rtmp.Amf0
import Rmuduo.Rtmp.Types

namespace Rmuduo.Rtmp

open Lib

namespace Amf0Value

def isString : Amf0Value → Bool
  | .string _ => true
  | _ => false

def isNumber : Amf0Value → Bool
  | .number _ => true
  | _ => false

def isObjectLike : Amf0Value → Bool
  | .object _ => true
  | .ecmaArray _ => true
  | _ => false

/-- `stringValue_`, which stays empty for every other type. -/
def stringValue : Amf0Value → Bytes
  | .string value => value
  | _ => []

/-- `numberValue_`, which stays zero for every other type. -/
def numberValue : Amf0Value → UInt64
  | .number bits => bits
  | _ => 0

/-- `objectValue_`, which stays empty for every other type. -/
def objectValue : Amf0Value → List (Bytes × Amf0Value)
  | .object properties => properties
  | .ecmaArray properties => properties
  | _ => []

end Amf0Value

/-- `RtmpCommandMessage`. -/
structure RtmpCommandMessage where
  name : Bytes
  transactionId : UInt64
  messageStreamId : UInt32
  commandObject : Amf0Value
  arguments : List Amf0Value

/-- `DecodeCommandMessageAmf0`. -/
def decodeCommandMessageAmf0 (message : RtmpMessage) : Except String RtmpCommandMessage :=
  if message.typeId ≠ kMessageTypeCommandAmf0 then
    .error "message is not command message amf0"
  else
    match decodeAll message.payload with
    | .error e => .error e
    | .ok values =>
        if values.length < 2 then
          .error "command message must contain at least name and transaction id"
        else if ¬ (values.getD 0 .null).isString ∨ ¬ (values.getD 1 .null).isNumber then
          .error "command message prefix types are invalid"
        else
          .ok {
            name := (values.getD 0 .null).stringValue
            transactionId := (values.getD 1 .null).numberValue
            messageStreamId := message.messageStreamId
            commandObject := values.getD 2 .null
            arguments := values.drop 3 }

/-- `StreamTarget`. -/
structure StreamTarget where
  streamName : Bytes
  ticket : Bytes := []
deriving DecidableEq

/-- The loop over the query: the last `ticket=` parameter wins. Every round takes at
least one byte. -/
def parseTicket : Nat → Bytes → Bytes → Bytes
  | 0, _, ticket => ticket
  | fuel + 1, query, ticket =>
      if query.length = 0 then ticket
      else
        let part := query.takeWhile (· ≠ 38) -- '&'
        let ticket :=
          if (ascii "ticket=").isPrefixOf part then part.drop (ascii "ticket=").length
          else ticket
        if part.length = query.length then ticket
        else parseTicket fuel (query.drop (part.length + 1)) ticket

/-- `ParseStreamTarget`. -/
def parseStreamTarget (rawName : Bytes) : Option StreamTarget :=
  if rawName.length = 0 then none
  else
    let streamName := rawName.takeWhile (· ≠ 63) -- '?'
    if streamName.length = rawName.length then some { streamName := rawName }
    else
      let query := rawName.drop (streamName.length + 1)
      let target : StreamTarget := { streamName, ticket := parseTicket query.length query [] }
      if target.streamName.length = 0 then none else some target

/-- A target that parses names a stream. -/
theorem parseStreamTarget_name {rawName : Bytes} {target : StreamTarget}
    (h : parseStreamTarget rawName = some target) : target.streamName ≠ [] := by
  unfold parseStreamTarget at h
  split at h
  · cases h
  · rename_i hne
    dsimp only at h
    split at h
    · cases h
      exact fun hnil => hne (congrArg List.length hnil)
    · split at h
      · cases h
      · rename_i hname
        cases h
        exact fun hnil => hname (congrArg List.length hnil)

example : parseStreamTarget (ascii "cam?a=1&ticket=7f&b=2") =
    some { streamName := ascii "cam", ticket := ascii "7f" } := by decide

end Rmuduo.Rtmp
