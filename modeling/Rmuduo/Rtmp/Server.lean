/-
The RTMP server on one event loop (`rtmp/RtmpServer.cc`, `rtmp/RtmpConnection.cc`,
`rtmp/RtmpConnectionContext.cc`, `rtmp/RtmpSessionManager.cc`).

Handlers run one at a time, so the server is one state and every handler is a function
on it. A session object lives as long as the session manager holds it: the manager has
the only `shared_ptr` that outlasts a handler, and a context refers to its session by a
`weak_ptr`. `heap` holds the live session objects, and `lock()` is a lookup in it.

Two parts of the state are there to be reasoned about and are read by no handler:
`log`, the history of what the server has done, and the origin of a `Media`. The
authorization callback may answer differently each time it is asked; it is a function
of the number of the call. Log messages of the source are left out, and so are its
checks for null pointers that are never null.
-/

import Rmuduo.Rtmp.ChunkWriter
import Rmuduo.Rtmp.Command
import Rmuduo.Rtmp.Session

namespace Rmuduo.Rtmp

open Lib

/-! ### State -/

structure RtmpConnectionContext where
  role : ConnectionRole := .kUnknown
  inChunkSize : UInt32 := kDefaultChunkSize
  outChunkSize : UInt32 := kDefaultChunkSize
  acknowledgementWindow : UInt32 := kDefaultAcknowledgementWindow
  peerBandwidth : UInt32 := kDefaultPeerBandwidth
  receivedBytes : Nat := 0
  app : Bytes := []
  tcUrl : Bytes := []
  streamName : Bytes := []
  publishType : Bytes := []
  objectEncoding : UInt64 := 0
  streamId : UInt32 := 0
  nextStreamId : UInt32 := 1
  session : Option SessionId := none
  handshake : HandshakeState := .kWaitC0C1
  chunkParser : RtmpChunkParser := {}

/-- `streamKey()`: empty until both the app and the stream name are known. -/
def RtmpConnectionContext.streamKey (context : RtmpConnectionContext) : Bytes :=
  if context.app = [] ∨ context.streamName = [] then []
  else makeStreamKey context.app context.streamName

/-- The states of a `TcpConnection` that a handler can see. -/
inductive ConnState where
  | kConnected | kDisconnecting | kDisconnected
deriving DecidableEq, Repr

structure Connection where
  state : ConnState := .kConnected
  context : RtmpConnectionContext := {}
  inputBuffer : Bytes := []

/-- What the server does that others can observe, or that a later grant rests on. -/
inductive Action where
  /-- Bytes sent to a connection, other than media. -/
  | send (receiver : ConnId) (data : Bytes)
  /-- A media message sent to a connection by a session. -/
  | media (receiver : ConnId) (session : SessionId) (media : Media) (outChunkSize : UInt32)
  /-- An answer of the authorization callback. -/
  | authorize (conn : ConnId) (streamKey ticket : Bytes) (publish granted : Bool)
  /-- A new session. -/
  | create (session : SessionId) (streamKey : Bytes)
deriving DecidableEq

/-- The code outside the server: the authorization callback, if one is installed, and the
1528 bytes that the random device yields for a handshake. -/
structure Environment where
  authCallback : Option (Nat → Bytes → Bytes → Bool → Bool) := none
  random : ConnId → Fin 1528 → UInt8 := fun _ _ => 0

structure RtmpServer where
  connections : ConnId → Option Connection := fun _ => none
  nextConn : ConnId := 0
  sessions : Bytes → Option SessionId := fun _ => none
  heap : SessionId → Option RtmpSession := fun _ => none
  nextSession : SessionId := 0
  authCalls : Nat := 0
  log : List Action := []

namespace RtmpServer

/-- `connected()`. -/
def connected (s : RtmpServer) (c : ConnId) : Bool :=
  match s.connections c with
  | some conn => conn.state = .kConnected
  | none => false

/-- The connection has been accepted and not closed. -/
def live (s : RtmpServer) (c : ConnId) : Bool :=
  match s.connections c with
  | some conn => conn.state ≠ .kDisconnected
  | none => false

/-- `getContext`. -/
def context (s : RtmpServer) (c : ConnId) : RtmpConnectionContext :=
  match s.connections c with
  | some conn => conn.context
  | none => {}

def modifyConnection (s : RtmpServer) (c : ConnId) (f : Connection → Connection) : RtmpServer :=
  { s with connections := Function.update s.connections c ((s.connections c).map f) }

def modifyContext (s : RtmpServer) (c : ConnId)
    (f : RtmpConnectionContext → RtmpConnectionContext) : RtmpServer :=
  s.modifyConnection c fun conn => { conn with context := f conn.context }

def modifySession (s : RtmpServer) (sid : SessionId) (f : RtmpSession → RtmpSession) :
    RtmpServer :=
  { s with heap := Function.update s.heap sid ((s.heap sid).map f) }

def record (s : RtmpServer) (actions : List Action) : RtmpServer :=
  { s with log := s.log ++ actions }

/-- `context->session()`: the bound session, if its object is still alive. -/
def lock (s : RtmpServer) (c : ConnId) : Option SessionId :=
  (s.context c).session.filter fun sid => (s.heap sid).isSome

/-! ### Sending -/

/-- `TcpConnection::send`: nothing is sent once `shutdown()` has been called. -/
def send (s : RtmpServer) (c : ConnId) (data : Bytes) : RtmpServer :=
  if s.connected c then s.record [.send c data] else s

/-- A control message of the server. -/
def sendControl (s : RtmpServer) (c : ConnId) (typeId : UInt8) (payload : Bytes) : RtmpServer :=
  s.send c (encodeMessage {
    timestamp := 0
    messageLength := payload.length.toUInt32
    typeId := typeId
    messageStreamId := 0
    chunkStreamId := kChunkStreamIdControl
    payload := payload } kDefaultChunkSize)

def sendWindowAcknowledgementSize (s : RtmpServer) (c : ConnId) (windowSize : UInt32) :
    RtmpServer :=
  s.sendControl c kMessageTypeWindowAcknowledgementSize (putUint32BE windowSize)

def sendSetPeerBandwidth (s : RtmpServer) (c : ConnId) (peerBandwidth : UInt32) : RtmpServer :=
  s.sendControl c kMessageTypeSetPeerBandwidth (putUint32BE peerBandwidth ++ [2])

def sendSetChunkSize (s : RtmpServer) (c : ConnId) (chunkSize : UInt32) : RtmpServer :=
  s.sendControl c kMessageTypeSetChunkSize (putUint32BE chunkSize)

/-- A command message of the server. -/
def sendCommand (s : RtmpServer) (c : ConnId) (messageStreamId : UInt32)
    (values : List Amf0Value) : RtmpServer :=
  let payload := appendValues values
  s.send c (encodeMessage {
    timestamp := 0
    messageLength := payload.length.toUInt32
    typeId := kMessageTypeCommandAmf0
    messageStreamId := messageStreamId
    chunkStreamId := kChunkStreamIdCommand
    payload := payload } kDefaultChunkSize)

/-- The bit pattern of a whole number as a `double`. -/
def doubleBits (n : UInt32) : UInt64 :=
  if n = 0 then 0
  else
    let exponent := Nat.log2 n.toNat
    UInt64.ofNat ((1023 + exponent) * 2 ^ 52 + (n.toNat * 2 ^ (52 - exponent) - 2 ^ 52))

example : doubleBits 255 = 0x406FE00000000000 := by decide +kernel

/-- The properties of an object, put in by `emplace`. -/
def objectOf (properties : List (Bytes × Amf0Value)) : Amf0Value :=
  .object (properties.foldl (fun object p => OrderedMap.emplace p.1 p.2 object) [])

def sendConnectSuccess (s : RtmpServer) (c : ConnId) (command : RtmpCommandMessage) :
    RtmpServer :=
  s.sendCommand c 0 [
    .string (ascii "_result"),
    .number command.transactionId,
    objectOf [
      (ascii "fmsVer", .string (ascii "FMS/4,5,0,297")),
      (ascii "capabilities", .number (doubleBits 255)),
      (ascii "mode", .number (doubleBits 1))],
    objectOf [
      (ascii "level", .string (ascii "status")),
      (ascii "code", .string (ascii "NetConnection.Connect.Success")),
      (ascii "description", .string (ascii "Connection succeeded.")),
      (ascii "objectEncoding", .number (doubleBits 0))]]

def sendCreateStreamResult (s : RtmpServer) (c : ConnId) (command : RtmpCommandMessage)
    (streamId : UInt32) : RtmpServer :=
  s.sendCommand c 0 [.string (ascii "_result"), .number command.transactionId, .null,
    .number (doubleBits streamId)]

def sendOnStatus (s : RtmpServer) (c : ConnId) (messageStreamId : UInt32)
    (code description : String) (error : Bool) : RtmpServer :=
  s.sendCommand c messageStreamId [
    .string (ascii "onStatus"), .number (doubleBits 0), .null,
    objectOf [
      (ascii "level", .string (ascii (if error then "error" else "status"))),
      (ascii "code", .string (ascii code)),
      (ascii "description", .string (ascii description))]]

/-! ### Sessions -/

/-- `authorizePublish` and `authorizePlay`: without a callback everything is allowed. -/
def authorize (env : Environment) (s : RtmpServer) (c : ConnId) (streamKey ticket : Bytes)
    (publish : Bool) : RtmpServer × Bool :=
  match env.authCallback with
  | none => (s, true)
  | some callback =>
      let granted := callback s.authCalls streamKey ticket publish
      ({ s.record [.authorize c streamKey ticket publish granted] with
        authCalls := s.authCalls + 1 }, granted)

def authorizePublish (env : Environment) (s : RtmpServer) (c : ConnId)
    (streamKey ticket : Bytes) : RtmpServer × Bool :=
  authorize env s c streamKey ticket true

def authorizePlay (env : Environment) (s : RtmpServer) (c : ConnId)
    (streamKey ticket : Bytes) : RtmpServer × Bool :=
  authorize env s c streamKey ticket false

/-- `getOrCreateSession`. -/
def getOrCreateSession (s : RtmpServer) (streamKey : Bytes) : RtmpServer × SessionId :=
  match s.sessions streamKey with
  | some sid => (s, sid)
  | none =>
      let sid := s.nextSession
      ({ s.record [.create sid streamKey] with
        sessions := Function.update s.sessions streamKey (some sid)
        heap := Function.update s.heap sid (some { streamKey := streamKey })
        nextSession := sid + 1 }, sid)

/-- `removeIfEmpty`: the session object goes with its entry. -/
def removeIfEmpty (s : RtmpServer) (streamKey : Bytes) : RtmpServer :=
  match s.sessions streamKey with
  | none => s
  | some sid =>
      match s.heap sid with
      | none => s
      | some session =>
          if session.isEmpty then
            { s with
              sessions := Function.update s.sessions streamKey none
              heap := Function.update s.heap sid none }
          else s

/-- `session->setPublisher(conn)`: whether the session took the publisher. -/
def setPublisher (s : RtmpServer) (sid : SessionId) (c : ConnId) : RtmpServer × Bool :=
  match s.heap sid with
  | none => (s, false)
  | some session => (s.modifySession sid fun x => (x.setPublisher c).1, (session.setPublisher c).2)

/-- `cleanupConnection`: the session is looked up under the key that the context names
now, and the connection is taken out of it in the role that the context has now. -/
def cleanupConnection (s : RtmpServer) (c : ConnId) : RtmpServer :=
  let role := (s.context c).role
  let streamKey := (s.context c).streamKey
  if streamKey = [] then s
  else
    match s.sessions streamKey with
    | none => s
    | some sid =>
        let s :=
          match role with
          | .kPublisher => s.modifySession sid (·.clearPublisher c)
          | .kPlayer => s.modifySession sid (·.removePlayer c)
          | .kUnknown => s
        s.removeIfEmpty streamKey

/-- `detachConnectionFromSession`. -/
def detachConnectionFromSession (s : RtmpServer) (c : ConnId) : RtmpServer :=
  (s.cleanupConnection c).modifyContext c fun context => { context with
    session := none
    role := .kUnknown
    streamId := 0
    streamName := []
    publishType := [] }

/-- `broadcastMessage`: disconnected players are erased, the others get the message. -/
def broadcastMessage (s : RtmpServer) (sid : SessionId) (media : Media) (outChunkSize : UInt32) :
    RtmpServer :=
  match s.heap sid with
  | none => s
  | some session =>
      (s.modifySession sid (·.dropDisconnected s.connected)).record
        ((session.players.filter s.connected).map fun player =>
          .media player sid media outChunkSize)

/-- `session->onMediaMessage`. -/
def onMediaMessage (s : RtmpServer) (sid : SessionId) (media : Media) (outChunkSize : UInt32) :
    RtmpServer :=
  (s.modifySession sid (·.cacheMediaMessage media)).broadcastMessage sid media outChunkSize

/-- `session->replayCachedMessagesToPlayer`. -/
def replayCachedMessagesToPlayer (s : RtmpServer) (sid : SessionId) (c : ConnId)
    (outChunkSize : UInt32) : RtmpServer :=
  match s.heap sid with
  | none => s
  | some session =>
      if s.connected c then
        s.record (session.cachedMessages.map fun media => .media c sid media outChunkSize)
      else s

/-! ### Handlers

A handler returns the new state and the `bool` of the source; `false` makes the server
call `shutdown()`. -/

def handleConnect (s : RtmpServer) (c : ConnId) (command : RtmpCommandMessage) :
    RtmpServer × Bool :=
  if command.commandObject.isObjectLike = false then (s, false)
  else
    let object := command.commandObject.objectValue
    match OrderedMap.lookup (ascii "app") object with
    | none => (s, false)
    | some app =>
        if app.isString = false then (s, false)
        else
          let s := s.modifyContext c fun context => { context with
            app := app.stringValue
            tcUrl :=
              match OrderedMap.lookup (ascii "tcUrl") object with
              | some tcUrl => if tcUrl.isString then tcUrl.stringValue else context.tcUrl
              | none => context.tcUrl
            objectEncoding :=
              match OrderedMap.lookup (ascii "objectEncoding") object with
              | some encoding =>
                  if encoding.isNumber then encoding.numberValue else context.objectEncoding
              | none => context.objectEncoding }
          let context := s.context c
          let s := s.sendWindowAcknowledgementSize c context.acknowledgementWindow
          let s := s.sendSetPeerBandwidth c context.peerBandwidth
          let s := s.sendSetChunkSize c context.outChunkSize
          (s.sendConnectSuccess c command, true)

def handleCreateStream (s : RtmpServer) (c : ConnId) (command : RtmpCommandMessage) :
    RtmpServer × Bool :=
  let streamId := (s.context c).nextStreamId
  let s := s.modifyContext c fun context => { context with
    nextStreamId := streamId + 1
    streamId := streamId }
  (s.sendCreateStreamResult c command streamId, true)

/-- The checks with which `handlePublish` and `handlePlay` begin: after `createStream`, on
its stream id, with a stream name that parses. -/
def requestedTarget (context : RtmpConnectionContext) (command : RtmpCommandMessage) :
    Option StreamTarget :=
  if context.streamId = 0 then none
  else if command.messageStreamId ≠ context.streamId then none
  else
    match command.arguments with
    | [] => none
    | argument :: _ =>
        if argument.isString = false then none else parseStreamTarget argument.stringValue

/-- `publish` keeps the old publish type when its second argument is not a string. -/
def requestedType (context : RtmpConnectionContext) (command : RtmpCommandMessage) : Bytes :=
  match command.arguments with
  | _ :: publishType :: _ =>
      if publishType.isString then publishType.stringValue else context.publishType
  | _ => context.publishType

def handlePublish (env : Environment) (s : RtmpServer) (c : ConnId)
    (command : RtmpCommandMessage) : RtmpServer × Bool :=
  match requestedTarget (s.context c) command with
  | none => (s, false)
  | some target =>
      let s := s.modifyContext c fun context => { context with
        streamName := target.streamName
        publishType := requestedType context command }
      let streamKey := (s.context c).streamKey
      if streamKey = [] then (s, false)
      else
        match s.authorizePublish env c streamKey target.ticket with
        | (s, false) =>
            (s.sendOnStatus c (s.context c).streamId "NetStream.Publish.BadName"
              "Invalid RTMP ticket." true, false)
        | (s, true) =>
            let (s, sid) := s.getOrCreateSession streamKey
            match s.setPublisher sid c with
            | (s, false) =>
                (s.sendOnStatus c (s.context c).streamId "NetStream.Publish.BadName"
                  "Stream already publishing." true, true)
            | (s, true) =>
                let s := s.modifyContext c fun context => { context with
                  role := .kPublisher
                  session := some sid }
                (s.sendOnStatus c (s.context c).streamId "NetStream.Publish.Start"
                  "Start publishing." false, true)

def handlePlay (env : Environment) (s : RtmpServer) (c : ConnId)
    (command : RtmpCommandMessage) : RtmpServer × Bool :=
  match requestedTarget (s.context c) command with
  | none => (s, false)
  | some target =>
      let s := s.modifyContext c fun context => { context with streamName := target.streamName }
      let streamKey := (s.context c).streamKey
      if streamKey = [] then (s, false)
      else
        match s.authorizePlay env c streamKey target.ticket with
        | (s, false) =>
            (s.sendOnStatus c (s.context c).streamId "NetStream.Play.Failed"
              "Invalid RTMP ticket." true, false)
        | (s, true) =>
            let (s, sid) := s.getOrCreateSession streamKey
            let s := s.modifySession sid (·.addPlayer c)
            let s := s.modifyContext c fun context => { context with
              role := .kPlayer
              session := some sid }
            let s := s.sendOnStatus c (s.context c).streamId "NetStream.Play.Start"
              "Start playing." false
            (s.replayCachedMessagesToPlayer sid c (s.context c).outChunkSize, true)

def handleMediaMessage (s : RtmpServer) (c : ConnId) (message : RtmpMessage) :
    RtmpServer × Bool :=
  if (s.context c).role ≠ .kPublisher then (s, true)
  else
    match s.lock c with
    | none => (s, false)
    | some sid => (s.onMediaMessage sid ⟨c, message⟩ (s.context c).outChunkSize, true)

/-- What `handleDeleteStream` finds: no active session, the wrong stream, or a stream that
the connection leaves. -/
inductive DeleteCheck where
  | ignored | mismatch | accepted
deriving DecidableEq

def deleteCheck (s : RtmpServer) (c : ConnId) (command : RtmpCommandMessage) : DeleteCheck :=
  let context := s.context c
  if context.role = .kUnknown ∨ s.lock c = none then .ignored
  else if command.messageStreamId ≠ 0 ∧ context.streamId ≠ 0 ∧
      command.messageStreamId ≠ context.streamId then .mismatch
  else .accepted

def handleDeleteStream (s : RtmpServer) (c : ConnId) (command : RtmpCommandMessage) :
    RtmpServer × Bool :=
  match s.deleteCheck c command with
  | .ignored => (s, true)
  | .mismatch => (s, false)
  | .accepted => (s.detachConnectionFromSession c, true)

def handleCommandMessage (env : Environment) (s : RtmpServer) (c : ConnId)
    (command : RtmpCommandMessage) : RtmpServer × Bool :=
  if command.name = ascii "connect" then s.handleConnect c command
  else if command.name = ascii "createStream" then s.handleCreateStream c command
  else if command.name = ascii "publish" then s.handlePublish env c command
  else if command.name = ascii "play" then s.handlePlay env c command
  else if command.name = ascii "deleteStream" ∨ command.name = ascii "closeStream" then
    s.handleDeleteStream c command
  else (s, true)

/-- `SetChunkSize`, which the context and the parser both remember. -/
def setInChunkSize (s : RtmpServer) (c : ConnId) (chunkSize : UInt32) : RtmpServer :=
  s.modifyContext c fun context => { context with
    inChunkSize := chunkSize
    chunkParser := context.chunkParser.setInChunkSize chunkSize }

def handleMessage (env : Environment) (s : RtmpServer) (c : ConnId) (message : RtmpMessage) :
    RtmpServer × Bool :=
  if message.typeId = kMessageTypeSetChunkSize ∧ 4 ≤ message.payload.length then
    (s.setInChunkSize c (readUint32BE message.payload), true)
  else if message.typeId = kMessageTypeCommandAmf0 then
    match decodeCommandMessageAmf0 message with
    | .error _ => (s, false)
    | .ok command => s.handleCommandMessage env c command
  else if message.typeId = kMessageTypeDataAmf0 ∨ message.typeId = kMessageTypeAudio ∨
      message.typeId = kMessageTypeVideo then
    s.handleMediaMessage c message
  else (s, true)

/-! ### Connections -/

/-- `onConnection` for a new connection. -/
def accept (s : RtmpServer) : RtmpServer :=
  { s with
    connections := Function.update s.connections s.nextConn (some {})
    nextConn := s.nextConn + 1 }

/-- `TcpConnection::shutdown`: only the write half is closed, and reading goes on. -/
def shutdown (s : RtmpServer) (c : ConnId) : RtmpServer :=
  s.modifyConnection c fun conn =>
    if conn.state = .kConnected then { conn with state := .kDisconnecting } else conn

/-- `TcpConnection::handleClose` with `onConnection` for a connection that is gone. -/
def close (s : RtmpServer) (c : ConnId) : RtmpServer :=
  (s.modifyConnection c fun conn => { conn with state := .kDisconnected }).cleanupConnection c

end RtmpServer

end Rmuduo.Rtmp
