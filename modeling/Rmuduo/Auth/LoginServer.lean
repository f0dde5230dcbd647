/-
Tickets as the login server issues them (`example/login_server.cc`).

The handler of `/api/rtmp/ticket` is modelled from the point where the caller's session and
the two strings of the request body are known; the strings of the answer are the code's.

* `IssuedFor` — a ticket of this handler is created for a valid stream name, under the key of that
  name, with a permission.
-/

import Rmuduo.Api.JsonResponse
import Rmuduo.Auth.RtmpTicketManager

namespace Rmuduo.Auth

open Lib Api

/-- `rtmpPermissionFromString`. -/
def rtmpPermissionFromString (permission : Bytes) : RtmpPermission :=
  if permission = ascii "publish" then .kPublish
  else if permission = ascii "play" then .kPlay
  else if permission = ascii "both" then .kBoth
  else .kUnknown

/-- `std::isalnum` of the C locale. -/
def isalnum (ch : UInt8) : Bool :=
  isdigit ch ∨ (65 ≤ ch ∧ ch ≤ 90) ∨ (97 ≤ ch ∧ ch ≤ 122)

namespace LoginServer

def kRtmpHost : Bytes := ascii "127.0.0.1"

def kRtmpApp : Bytes := ascii "live"

def makeStreamKey (app streamName : Bytes) : Bytes :=
  ascii "/" ++ app ++ ascii "/" ++ streamName

/-- What a stream name may consist of. -/
def validByte (ch : UInt8) : Bool :=
  isalnum ch ∨ ch = 95 ∨ ch = 45 ∨ ch = 46 -- '_', '-', '.'

def isValidStreamName (streamName : Bytes) : Bool :=
  streamName ≠ [] ∧ streamName.all validByte

/-- The `url` of `makeRtmpTicketData`. -/
def ticketUrl (ticket : RtmpTicket) (host : Bytes) (rtmpPort : UInt16) (app streamName : Bytes) :
    Bytes :=
  ascii "rtmp://" ++ host ++ ascii ":" ++ decimal rtmpPort.toNat ++ ascii "/" ++ app ++
    ascii "/" ++ streamName ++ ascii "?ticket=" ++ ticket.ticket

def makeRtmpTicketData (ticket : RtmpTicket) (host : Bytes) (rtmpPort : UInt16)
    (app streamName : Bytes) : Bytes :=
  let url := ticketUrl ticket host rtmpPort app streamName
  ascii "\x7b" ++ makeField (ascii "streamKey") ticket.streamKey ++ ascii "," ++
    (if ticket.allowPublish then makeField (ascii "publishUrl") url ++ ascii "," else []) ++
    (if ticket.allowPlay then makeField (ascii "playUrl") url ++ ascii "," else []) ++
    makeNumberField (ascii "expireAt") ticket.expireAt ++ ascii "\x7d"

/-- The answers of `/api/rtmp/ticket` to a caller with a session. -/
inductive TicketReply where
  /-- Status 400, `bad request`. -/
  | badRequest
  /-- Status 200, with the data of the ticket. -/
  | ok (ticket : RtmpTicket) (data : Bytes)

/-- The handler of `/api/rtmp/ticket`; `none` when the values drawn are not enough. -/
def rtmpTicket (m : RtmpTicketManager) (now : Int) (drawn : List (UInt64 × UInt64))
    (rtmpPort : UInt16) (session : AuthSession) (streamName permissionText : Bytes) :
    Option (RtmpTicketManager × TicketReply) :=
  if isValidStreamName streamName = false then some (m, .badRequest)
  else
    let permission := rtmpPermissionFromString permissionText
    if permission = .kUnknown then some (m, .badRequest)
    else
      (m.createTicket now drawn session (makeStreamKey kRtmpApp streamName) permission).map
        fun created =>
          (created.1, .ok created.2
            (makeRtmpTicketData created.2 kRtmpHost rtmpPort kRtmpApp streamName))

/-- The lambda that the login server installs with `setAuthCallback`. -/
def authCallback (m : RtmpTicketManager) (now : Int) (streamKey ticket : Bytes)
    (publish : Bool) : RtmpTicketManager × Bool :=
  if publish then
    let (m, verified) := m.verifyPublish now ticket streamKey
    (m, verified.isSome)
  else
    let (m, verified) := m.verifyPlay now ticket streamKey
    (m, verified.isSome)

/-- The creation is one of the login server's, for this stream name. -/
structure IssuedFor (streamName : Bytes) (c : Creation) : Prop where
  valid : isValidStreamName streamName = true
  key : c.streamKey = makeStreamKey kRtmpApp streamName
  permitted : c.permission ≠ .kUnknown

end LoginServer

end Rmuduo.Auth
