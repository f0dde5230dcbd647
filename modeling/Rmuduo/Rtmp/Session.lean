/-
One stream session (`rtmp/RtmpSession.h`, `rtmp/RtmpSession.cc`).

A connection is named by an identifier, which stands for the `TcpConnectionPtr` as for
the connection's name: the server gives no two connections one name. `players_` is the
list of the players; the order in which the source walks its hash table is not
specified, and nothing here depends on it.

`Media` is a message together with the connection it came from. The source keeps the
message alone: `origin` is there to be reasoned about, and no function reads it.
-/

import Rmuduo.Rtmp.Types

namespace Rmuduo.Rtmp

open Lib

/-- Names a connection, in the order in which they were accepted. -/
abbrev ConnId := Nat

/-- Names a session object, in the order in which they were created. -/
abbrev SessionId := Nat

/-- A media message and where it came from. -/
structure Media where
  origin : ConnId
  message : RtmpMessage
deriving DecidableEq

def isAacSequenceHeader (message : RtmpMessage) : Bool :=
  if message.typeId ≠ kMessageTypeAudio ∨ message.payload.length < 2 then false
  else
    let soundFormat := (byteAt message.payload 0 >>> 4) &&& 0x0F
    let aacPacketType := byteAt message.payload 1
    soundFormat = 10 ∧ aacPacketType = 0

def isAvcSequenceHeader (message : RtmpMessage) : Bool :=
  if message.typeId ≠ kMessageTypeVideo ∨ message.payload.length < 2 then false
  else
    let codecId := byteAt message.payload 0 &&& 0x0F
    let avcPacketType := byteAt message.payload 1
    codecId = 7 ∧ avcPacketType = 0

def isVideoKeyFrame (message : RtmpMessage) : Bool :=
  if message.typeId ≠ kMessageTypeVideo ∨ message.payload.length = 0 then false
  else
    let frameType := (byteAt message.payload 0 >>> 4) &&& 0x0F
    frameType = 1

structure RtmpSession where
  streamKey : Bytes
  publisher : Option ConnId := none
  players : List ConnId := []
  metadata : Option Media := none
  audioSequenceHeader : Option Media := none
  videoSequenceHeader : Option Media := none
  gopCache : List Media := []
  gopStarted : Bool := false
deriving DecidableEq

namespace RtmpSession

/-- `setPublisher`: the session and the result. A publisher that returns to an empty
slot finds empty caches. -/
def setPublisher (s : RtmpSession) (connection : ConnId) : RtmpSession × Bool :=
  if s.publisher ≠ none ∧ s.publisher ≠ some connection then (s, false)
  else
    let s :=
      if s.publisher ≠ some connection then
        { s with
          metadata := none
          audioSequenceHeader := none
          videoSequenceHeader := none
          gopCache := []
          gopStarted := false }
      else s
    ({ s with publisher := some connection }, true)

def clearPublisher (s : RtmpSession) (connection : ConnId) : RtmpSession :=
  if s.publisher = some connection then { s with publisher := none } else s

/-- `addPlayer`: `emplace` keeps a player that is there. -/
def addPlayer (s : RtmpSession) (connection : ConnId) : RtmpSession :=
  if connection ∈ s.players then s else { s with players := s.players ++ [connection] }

def removePlayer (s : RtmpSession) (connection : ConnId) : RtmpSession :=
  { s with players := s.players.filter (· ≠ connection) }

/-- `empty`. -/
def isEmpty (s : RtmpSession) : Bool := s.publisher.isNone && s.players.isEmpty

def cacheMediaMessage (s : RtmpSession) (media : Media) : RtmpSession :=
  let message := media.message
  if message.typeId = kMessageTypeDataAmf0 then { s with metadata := some media }
  else if isAacSequenceHeader message then { s with audioSequenceHeader := some media }
  else if isAvcSequenceHeader message then { s with videoSequenceHeader := some media }
  else
    let s :=
      if message.typeId = kMessageTypeVideo ∧ isVideoKeyFrame message then
        { s with gopCache := [], gopStarted := true }
      else s
    if s.gopStarted = false then s
    else if message.typeId = kMessageTypeAudio ∨ message.typeId = kMessageTypeVideo then
      { s with gopCache := s.gopCache ++ [media] }
    else s

/-- The players that `broadcastMessage` keeps, and sends to. -/
def dropDisconnected (s : RtmpSession) (connected : ConnId → Bool) : RtmpSession :=
  { s with players := s.players.filter connected }

/-- What `replayCachedMessagesToPlayer` sends, in order. -/
def cachedMessages (s : RtmpSession) : List Media :=
  s.metadata.toList ++ s.audioSequenceHeader.toList ++ s.videoSequenceHeader.toList ++ s.gopCache

/-! ### What the operations keep -/

@[simp] theorem setPublisher_streamKey (s : RtmpSession) (c : ConnId) :
    (s.setPublisher c).1.streamKey = s.streamKey := by
  unfold setPublisher
  split
  · rfl
  · dsimp only
    split <;> rfl

@[simp] theorem setPublisher_players (s : RtmpSession) (c : ConnId) :
    (s.setPublisher c).1.players = s.players := by
  unfold setPublisher
  split
  · rfl
  · dsimp only
    split <;> rfl

/-- The publisher slot takes a connection when it is free or its own. -/
theorem setPublisher_accepts {s : RtmpSession} {c : ConnId} :
    (s.setPublisher c).2 = true ↔ s.publisher = none ∨ s.publisher = some c := by
  unfold setPublisher
  split
  · rename_i h
    simp only [Bool.false_eq_true, false_iff, not_or]
    exact h
  · rename_i h
    simp only [true_iff]
    by_cases hnone : s.publisher = none
    · exact .inl hnone
    · exact .inr (by_contra fun hc => h ⟨hnone, hc⟩)

theorem setPublisher_publisher {s : RtmpSession} {c : ConnId} (h : (s.setPublisher c).2 = true) :
    (s.setPublisher c).1.publisher = some c := by
  unfold setPublisher at h ⊢
  split
  · rename_i hother
    rw [if_pos hother] at h
    cases h
  · rfl

theorem setPublisher_rejects {s : RtmpSession} {c : ConnId} (h : (s.setPublisher c).2 = false) :
    (s.setPublisher c).1 = s := by
  unfold setPublisher at h ⊢
  split
  · rfl
  · rename_i hother
    rw [if_neg hother] at h
    cases h

/-- What a new publisher finds cached: nothing, or what it sent itself. -/
theorem cachedMessages_setPublisher {s : RtmpSession} {c : ConnId} {media : Media}
    (h : media ∈ (s.setPublisher c).1.cachedMessages) :
    media ∈ s.cachedMessages := by
  unfold setPublisher at h
  split at h
  · exact h
  · dsimp only at h
    split at h
    · simp [cachedMessages] at h
    · exact h

@[simp] theorem clearPublisher_streamKey (s : RtmpSession) (c : ConnId) :
    (s.clearPublisher c).streamKey = s.streamKey := by
  unfold clearPublisher
  split <;> rfl

@[simp] theorem clearPublisher_players (s : RtmpSession) (c : ConnId) :
    (s.clearPublisher c).players = s.players := by
  unfold clearPublisher
  split <;> rfl

@[simp] theorem clearPublisher_cachedMessages (s : RtmpSession) (c : ConnId) :
    (s.clearPublisher c).cachedMessages = s.cachedMessages := by
  unfold clearPublisher
  split <;> rfl

theorem clearPublisher_publisher {s : RtmpSession} {c d : ConnId} :
    (s.clearPublisher c).publisher = some d ↔ s.publisher = some d ∧ d ≠ c := by
  unfold clearPublisher
  split
  · rename_i h
    simp only [reduceCtorEq, false_iff, not_and, not_not]
    intro hd
    rw [hd] at h
    exact Option.some.inj h
  · rename_i h
    refine ⟨fun hd => ⟨hd, fun hdc => h (hdc ▸ hd)⟩, And.left⟩

@[simp] theorem addPlayer_streamKey (s : RtmpSession) (c : ConnId) :
    (s.addPlayer c).streamKey = s.streamKey := by
  unfold addPlayer
  split <;> rfl

@[simp] theorem addPlayer_publisher (s : RtmpSession) (c : ConnId) :
    (s.addPlayer c).publisher = s.publisher := by
  unfold addPlayer
  split <;> rfl

@[simp] theorem addPlayer_cachedMessages (s : RtmpSession) (c : ConnId) :
    (s.addPlayer c).cachedMessages = s.cachedMessages := by
  unfold addPlayer
  split <;> rfl

theorem mem_addPlayer {s : RtmpSession} {c d : ConnId} :
    d ∈ (s.addPlayer c).players ↔ d ∈ s.players ∨ d = c := by
  unfold addPlayer
  split
  · rename_i h
    refine ⟨.inl, ?_⟩
    rintro (hd | rfl)
    · exact hd
    · exact h
  · simp

theorem mem_removePlayer {s : RtmpSession} {c d : ConnId} :
    d ∈ (s.removePlayer c).players ↔ d ∈ s.players ∧ d ≠ c := by
  simp [removePlayer]

@[simp] theorem removePlayer_streamKey (s : RtmpSession) (c : ConnId) :
    (s.removePlayer c).streamKey = s.streamKey := rfl

@[simp] theorem removePlayer_publisher (s : RtmpSession) (c : ConnId) :
    (s.removePlayer c).publisher = s.publisher := rfl

@[simp] theorem removePlayer_cachedMessages (s : RtmpSession) (c : ConnId) :
    (s.removePlayer c).cachedMessages = s.cachedMessages := rfl

@[simp] theorem cacheMediaMessage_streamKey (s : RtmpSession) (media : Media) :
    (s.cacheMediaMessage media).streamKey = s.streamKey := by
  unfold cacheMediaMessage
  dsimp only
  split_ifs <;> rfl

@[simp] theorem cacheMediaMessage_publisher (s : RtmpSession) (media : Media) :
    (s.cacheMediaMessage media).publisher = s.publisher := by
  unfold cacheMediaMessage
  dsimp only
  split_ifs <;> rfl

@[simp] theorem cacheMediaMessage_players (s : RtmpSession) (media : Media) :
    (s.cacheMediaMessage media).players = s.players := by
  unfold cacheMediaMessage
  dsimp only
  split_ifs <;> rfl

/-- The caches hold what they held, or the message that has just come. -/
theorem mem_cacheMediaMessage {s : RtmpSession} {media m : Media}
    (h : m ∈ (s.cacheMediaMessage media).cachedMessages) : m = media ∨ m ∈ s.cachedMessages := by
  unfold cacheMediaMessage at h
  dsimp only at h
  split_ifs at h <;>
    simp only [cachedMessages, List.mem_append, Option.mem_toList, List.mem_singleton,
      List.not_mem_nil] at h ⊢ <;> grind

@[simp] theorem dropDisconnected_streamKey (s : RtmpSession) (connected : ConnId → Bool) :
    (s.dropDisconnected connected).streamKey = s.streamKey := rfl

@[simp] theorem dropDisconnected_publisher (s : RtmpSession) (connected : ConnId → Bool) :
    (s.dropDisconnected connected).publisher = s.publisher := rfl

theorem mem_dropDisconnected {s : RtmpSession} {connected : ConnId → Bool} {c : ConnId} :
    c ∈ (s.dropDisconnected connected).players ↔ c ∈ s.players ∧ connected c = true :=
  List.mem_filter

end RtmpSession

end Rmuduo.Rtmp
