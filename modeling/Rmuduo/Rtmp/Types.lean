/-
Constants, messages and names of the RTMP layer (`rtmp/RtmpTypes.h`,
`rtmp/RtmpMessage.h`).

A `std::string` is a byte string. The constants that no modelled function reads
(the message types the server never looks at) are left out.
-/

import Rmuduo.Lib.Bytes

namespace Rmuduo.Rtmp

open Lib

def kVersion : UInt8 := 3
def kDefaultChunkSize : UInt32 := 128
def kDefaultAcknowledgementWindow : UInt32 := 5000000
def kDefaultPeerBandwidth : UInt32 := 5000000

def kChunkHeaderType0 : UInt8 := 0
def kChunkHeaderType1 : UInt8 := 1
def kChunkHeaderType2 : UInt8 := 2
def kChunkHeaderType3 : UInt8 := 3

def kMessageTypeSetChunkSize : UInt8 := 1
def kMessageTypeWindowAcknowledgementSize : UInt8 := 5
def kMessageTypeSetPeerBandwidth : UInt8 := 6
def kMessageTypeAudio : UInt8 := 8
def kMessageTypeVideo : UInt8 := 9
def kMessageTypeDataAmf0 : UInt8 := 18
def kMessageTypeCommandAmf0 : UInt8 := 20

def kChunkStreamIdControl : UInt32 := 2
def kChunkStreamIdCommand : UInt32 := 3

/-- `HandshakeState`. The source's `kSendS0S1S2` is never entered. -/
inductive HandshakeState where
  | kWaitC0C1 | kSendS0S1S2 | kWaitC2 | kHandshakeDone
deriving DecidableEq, Repr

inductive ConnectionRole where
  | kUnknown | kPublisher | kPlayer
deriving DecidableEq, Repr

/-- `RtmpMessage`: one complete message. -/
structure RtmpMessage where
  timestamp : UInt32 := 0
  messageLength : UInt32 := 0
  typeId : UInt8 := 0
  messageStreamId : UInt32 := 0
  chunkStreamId : UInt32 := 0
  payload : Bytes := []
deriving DecidableEq, Repr

/-- `MakeStreamKey`: `"/" + app + "/" + stream_name`. -/
def makeStreamKey (app streamName : Bytes) : Bytes :=
  ascii "/" ++ app ++ ascii "/" ++ streamName

end Rmuduo.Rtmp
