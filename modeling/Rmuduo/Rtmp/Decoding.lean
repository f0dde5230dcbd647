/-
What a connection decodes.

The messages that a connection passes to `handleMessage`, over all calls of `onMessage`, are
compared with those of `reference` on all the bytes behind the handshake. They are the same
in every run in which no call disturbs the chunk size that it parses with, no call loses
messages to a malformed chunk behind them, and no handler rejects a message that is not the
last one of its call.

* `Transport.read_follows` — one call keeps the connection where the reference is.
* `messages_decoded` — the messages of a run.
* `resizedTogether_disturbed` — a chunk in one call with the `SetChunkSize` before it.
-/

import Rmuduo.Rtmp.ProtocolError

namespace Rmuduo.Rtmp

open Lib System

/-! ### One call -/

/-- The reference on what stands behind the handshake. -/
def decoded (bytes : Bytes) : Drained UInt8 RtmpChunkParser String ChunkRecord :=
  reference.drain {} (afterHandshake bytes)

def decodedMessages (bytes : Bytes) : List RtmpMessage :=
  (decoded bytes).items.filterMap ChunkRecord.message

theorem decoded_waits {bytes : Bytes} (h : (shaken bytes).1 ≠ .kHandshakeDone) :
    decoded bytes = ⟨{}, [], [], none⟩ := by
  unfold decoded
  rw [afterHandshake_waits h, Reader.drain_nil]

theorem decodedMessages_waits {bytes : Bytes} (h : (shaken bytes).1 ≠ .kHandshakeDone) :
    decodedMessages bytes = [] := by
  rw [decodedMessages, decoded_waits h]
  rfl

namespace Transport

/-- The bytes that a call of `onMessage` gives to the chunk parser. -/
def chunkBytes (random : Fin 1528 → UInt8) (t : Transport) : Bytes :=
  if t.handshake = .kHandshakeDone then t.inputBuffer
  else if (process random t.handshake t.inputBuffer).state = .kHandshakeDone then
    (process random t.handshake t.inputBuffer).buf
  else []

/-- No chunk of the bytes is cut with a size that is not due, and none that completes a
message stands before a malformed one. -/
def Steady (p : RtmpChunkParser) (buf : Bytes) : Prop :=
  Undisturbed p.inChunkSize p buf ∧
    ((chunkReader.drain p buf).error ≠ none →
      (chunkReader.drain p buf).items.filterMap ChunkRecord.message = [])

/-- The connection that has been delivered `bytes` is where the reference is. -/
structure Follows (t : Transport) (bytes : Bytes) : Prop where
  handshake : t.handshake = (shaken bytes).1
  parser : GoesOn t.chunkParser (decoded bytes).state (decoded bytes).rest
  unread : t.inputBuffer =
    if (shaken bytes).1 = .kHandshakeDone then (decoded bytes).rest else (shaken bytes).2

/-- The chunk sizes that messages set, one after the other. -/
def resizedAll (t : Transport) (messages : List RtmpMessage) : Transport :=
  { t with chunkParser :=
      t.chunkParser.setInChunkSize (sizesAfter t.chunkParser.inChunkSize messages) }

section Following

variable {random : Fin 1528 → UInt8} {t : Transport} {p : RtmpChunkParser} {bytes buf : Bytes}

theorem chunkBytes_done (h : t.handshake = .kHandshakeDone) :
    t.chunkBytes random = t.inputBuffer := if_pos h

theorem chunkBytes_now (h : t.handshake ≠ .kHandshakeDone)
    (hnow : (t.counted.handshaken random).handshake = .kHandshakeDone) :
    t.chunkBytes random = (t.counted.handshaken random).inputBuffer :=
  (if_neg h).trans (if_pos hnow)

theorem chunkBytes_waits (h : t.handshake ≠ .kHandshakeDone)
    (hstill : (t.counted.handshaken random).handshake ≠ .kHandshakeDone) :
    t.chunkBytes random = [] :=
  (if_neg h).trans (if_neg hstill)

theorem follows_init : Transport.Follows ⟨.kWaitC0C1, {}, 0, []⟩ [] where
  handshake := rfl
  parser := by
    rw [decoded_waits (by decide)]
    exact goesOn_init
  unread := rfl

/-- A call of the parser on bytes that are steady reads what the reference reads. -/
theorem parse_follows {data : Bytes} (hparser : GoesOn t.chunkParser p buf)
    (hbuf : t.inputBuffer = buf ++ data) (hsteady : Steady t.chunkParser t.inputBuffer) :
    let d := reference.drain p (buf ++ data)
    let messages := t.parse.2.getD []
    t.parse.1.handshake = t.handshake ∧ t.parse.1.inputBuffer = d.rest ∧
      messages.map RtmpMessage.untimed =
        (d.items.filterMap ChunkRecord.message).map RtmpMessage.untimed ∧
      GoesOn (t.parse.1.resizedAll messages).chunkParser d.state d.rest := by
  by_cases hempty : t.inputBuffer.length = 0
  · have hnil : buf ++ data = [] := by
      rw [← hbuf]
      exact List.eq_nil_of_length_eq_zero hempty
    obtain ⟨rfl, rfl⟩ := List.append_eq_nil_iff.mp hnil
    have hparse : t.parse = (t, some []) := if_pos hempty
    rw [hparse, List.append_nil, Reader.drain_nil]
    exact ⟨rfl, hbuf, rfl, hparser⟩
  · have hundisturbed : Undisturbed t.chunkParser.inChunkSize t.chunkParser (buf ++ data) :=
      hbuf ▸ hsteady.1
    have hfollows := Rtmp.parse_follows hparser hundisturbed
    dsimp only at hfollows ⊢
    rw [← hbuf] at hfollows ⊢
    obtain ⟨hrest, -, hmessages, hgoesOn⟩ := hfollows
    have hparse : t.parse =
        ({ t with
          inputBuffer := (Rtmp.parse t.chunkParser t.inputBuffer).buf
          chunkParser := (Rtmp.parse t.chunkParser t.inputBuffer).parser },
        if (Rtmp.parse t.chunkParser t.inputBuffer).error.isSome then none
        else some (Rtmp.parse t.chunkParser t.inputBuffer).messages) := if_neg hempty
    have hgiven : t.parse.2.getD [] = (Rtmp.parse t.chunkParser t.inputBuffer).messages := by
      rw [hparse]
      dsimp only
      split_ifs with herror
      · rw [parse_eq_drain] at herror ⊢
        exact (hsteady.2 (Option.isSome_iff_ne_none.mp herror)).symm
      · rfl
    rw [hgiven, hparse]
    exact ⟨rfl, hrest, hmessages, hgoesOn⟩

/-- The parser reads on, where the handshake is done. -/
theorem follows_parse {bytes' data : Bytes} {items : List ChunkRecord}
    (hdone : (shaken bytes').1 = .kHandshakeDone) (hhandshake : t.handshake = .kHandshakeDone)
    (hparser : GoesOn t.chunkParser p buf) (hbuf : t.inputBuffer = buf ++ data)
    (hsteady : Steady t.chunkParser t.inputBuffer)
    (hdecoded : decoded bytes' = (reference.drain p (buf ++ data)).prepend items) :
    (t.parse.1.resizedAll (t.parse.2.getD [])).Follows bytes' ∧
      (decodedMessages bytes').map RtmpMessage.untimed =
        (items.filterMap ChunkRecord.message).map RtmpMessage.untimed ++
          (t.parse.2.getD []).map RtmpMessage.untimed := by
  obtain ⟨hstill, hrest, hmessages, hgoesOn⟩ := parse_follows hparser hbuf hsteady
  refine ⟨⟨?_, ?_, ?_⟩, ?_⟩
  · rw [hdone]
    exact hstill.trans hhandshake
  · rw [hdecoded]
    exact hgoesOn
  · rw [if_pos hdone, hdecoded]
    exact hrest
  · rw [hmessages, decodedMessages, hdecoded, Drained.prepend_items, List.filterMap_append,
      List.map_append]

/-- While the handshake of a connection waits, nothing is decoded, and the bytes that arrive go
to the handshake. -/
theorem Follows.handshaken (h : t.Follows bytes) (random : Fin 1528 → UInt8) (data : Bytes)
    (hwaits : t.handshake ≠ .kHandshakeDone) :
    ((t.append data).counted.handshaken random).handshake = (shaken (bytes ++ data)).1 ∧
      ((t.append data).counted.handshaken random).inputBuffer = (shaken (bytes ++ data)).2 ∧
      GoesOn t.chunkParser {} [] ∧ decodedMessages bytes = [] := by
  obtain ⟨hhandshake, hparser, hunread⟩ := h
  have hbehind : (shaken bytes).1 ≠ .kHandshakeDone := hhandshake ▸ hwaits
  have hshaken := process_shaken random data hbehind
  rw [if_neg hbehind] at hunread
  rw [← hhandshake, ← hunread] at hshaken
  rw [decoded_waits hbehind] at hparser
  exact ⟨congrArg Prod.fst hshaken, congrArg Prod.snd hshaken, hparser,
    decodedMessages_waits hbehind⟩

/-- **One call** keeps the connection where the reference is, and completes the messages that
the reference completes. -/
theorem read_follows (h : t.Follows bytes) (data : Bytes)
    (hsteady : Steady t.chunkParser ((t.append data).chunkBytes random)) :
    (((t.append data).read random).1.resizedAll
        (((t.append data).read random).2.getD [])).Follows (bytes ++ data) ∧
      (decodedMessages (bytes ++ data)).map RtmpMessage.untimed =
        (decodedMessages bytes).map RtmpMessage.untimed ++
          (((t.append data).read random).2.getD []).map RtmpMessage.untimed := by
  rcases read_cases random (t.append data) with
    ⟨hdone, hread⟩ | ⟨hwaits, hnow, hread⟩ | ⟨hwaits, hstill, hread⟩
  · -- The handshake was done before.
    obtain ⟨hhandshake, hparser, hunread⟩ := h
    have hbehind : (shaken bytes).1 = .kHandshakeDone := hhandshake.symm.trans hdone
    have hshaken := shaken_append_done hbehind data
    have hdone' : (shaken (bytes ++ data)).1 = .kHandshakeDone := by rw [hshaken]
    rw [chunkBytes_done hdone] at hsteady
    rw [if_pos hbehind] at hunread
    have hbuf : (t.append data).inputBuffer = (decoded bytes).rest ++ data :=
      congrArg (· ++ data) hunread
    rw [hread]
    refine follows_parse (t := (t.append data).counted) hdone' hdone hparser hbuf hsteady ?_
    unfold decoded
    rw [afterHandshake_done hdone', afterHandshake_done hbehind, hshaken]
    exact Reader.drain_append (R := reference) _ _ _
  · -- The handshake takes bytes, and is done with them.
    obtain ⟨hstate, hbuf, hparser, hnone⟩ := h.handshaken random data hwaits
    have hdone' : (shaken (bytes ++ data)).1 = .kHandshakeDone := hstate.symm.trans hnow
    rw [chunkBytes_now hwaits hnow] at hsteady
    have hdecoded : decoded (bytes ++ data) = (reference.drain {}
        ([] ++ ((t.append data).counted.handshaken random).inputBuffer)).prepend [] := by
      unfold decoded
      rw [afterHandshake_done hdone', ← hbuf]
      rfl
    rw [hread, hnone]
    exact follows_parse (t := (t.append data).counted.handshaken random) hdone' hnow hparser rfl
      hsteady hdecoded
  · -- The handshake waits for more.
    obtain ⟨hstate, hbuf, hparser, hnone⟩ := h.handshaken random data hwaits
    have hwaits' : (shaken (bytes ++ data)).1 ≠ .kHandshakeDone := hstate ▸ hstill
    have hempty : ((t.append data).read random).2.getD [] = [] := by
      rw [hread]
      dsimp only
      split <;> rfl
    rw [hempty, hread, hnone, decodedMessages_waits hwaits']
    refine ⟨⟨hstate, ?_, ?_⟩, rfl⟩
    · rw [decoded_waits hwaits']
      exact hparser
    · rw [if_neg hwaits']
      exact hbuf

end Following

end Transport

/-! ### Runs -/

namespace RtmpServer

/-- The messages that the loop of `onMessage` passes to `handleMessage`. -/
def passedOf (env : Environment) (s : RtmpServer) (c : ConnId) :
    List RtmpMessage → List RtmpMessage
  | [] => []
  | message :: messages =>
      message ::
        if (s.handleMessage env c message).2 then
          (s.handleMessage env c message).1.passedOf env c messages
        else []

/-- The messages of a connection that an event passes to `handleMessage`. -/
def passed (env : Environment) (c : ConnId) (s : RtmpServer) : NetEvent → List RtmpMessage
  | .receive d data =>
      if d = c ∧ s.live c = true ∧ data ≠ [] then
        ((s.append c data).readMessages env c).1.passedOf env c
          (((s.append c data).readMessages env c).2.getD [])
      else []
  | _ => []

/-- The bytes that an event delivers to a connection. -/
def delivered (c : ConnId) (s : RtmpServer) : NetEvent → Bytes
  | .receive d data => if d = c ∧ s.live c = true then data else []
  | _ => []

def passedTo (env : Environment) (c : ConnId) (es : List NetEvent) : List RtmpMessage :=
  collect (netStep env) (passed env c) {} es

def deliveredTo (env : Environment) (c : ConnId) (es : List NetEvent) : Bytes :=
  collect (netStep env) (delivered c) {} es

/-- Every message but the last is accepted. -/
def AcceptedButLast (env : Environment) (c : ConnId) : RtmpServer → List RtmpMessage → Prop
  | _, [] => True
  | s, message :: messages =>
      messages ≠ [] → (s.handleMessage env c message).2 = true ∧
        AcceptedButLast env c (s.handleMessage env c message).1 messages

/-- The bytes that a call of `onMessage` gives to the chunk parser. -/
def chunkBytes (env : Environment) (s : RtmpServer) (c : ConnId) : Bytes :=
  match s.transport c with
  | some t => t.chunkBytes (env.random c)
  | none => []

/-- What is received on the connection is steady, and no message is rejected before the last
one of the call. -/
def Timely (env : Environment) (c : ConnId) (s : RtmpServer) : NetEvent → Prop
  | .receive d data =>
      d = c → s.live c = true → data ≠ [] →
        Transport.Steady (s.context c).chunkParser ((s.append c data).chunkBytes env c) ∧
          AcceptedButLast env c ((s.append c data).readMessages env c).1
            (((s.append c data).readMessages env c).2.getD [])
  | _ => True

/-- The connection has passed on the messages of the reference, and goes on from there. -/
def Tracked : Option Transport → Bytes → List RtmpMessage → Prop
  | none, bytes, messages => bytes = [] ∧ messages = []
  | some t, bytes, messages =>
      t.Follows bytes ∧
        messages.map RtmpMessage.untimed = (decodedMessages bytes).map RtmpMessage.untimed

section Decoding

variable {env : Environment} {s : RtmpServer} {c : ConnId}

theorem acceptedButLast_of_length {messages : List RtmpMessage} (h : messages.length ≤ 1) :
    AcceptedButLast env c s messages := by
  cases messages with
  | nil => trivial
  | cons message messages =>
      intro hne
      exact absurd (List.eq_nil_of_length_eq_zero (Nat.le_zero.mp (Nat.le_of_succ_le_succ h))) hne

/-- A call that completes one message at most is timely, when its bytes end with the first chunk
that sets a size. -/
theorem timely_alone {data : Bytes}
    (kept : ∀ r ∈ (chunkReader.drain (s.context c).chunkParser
        ((s.append c data).chunkBytes env c)).items.dropLast,
      sizesAfter (s.context c).chunkParser.inChunkSize r.message.toList =
        (s.context c).chunkParser.inChunkSize)
    (ends : (chunkReader.drain (s.context c).chunkParser
      ((s.append c data).chunkBytes env c)).rest = [])
    (sound : (chunkReader.drain (s.context c).chunkParser
      ((s.append c data).chunkBytes env c)).error = none)
    (alone : (((s.append c data).readMessages env c).2.getD []).length ≤ 1) :
    Timely env c s (.receive c data) := by
  intro _ _ _
  refine ⟨⟨undisturbed_of_last kept ends, ?_⟩, acceptedButLast_of_length alone⟩
  intro herror
  exact absurd sound herror

/-- The messages that the loop passes on set their chunk sizes. -/
theorem handleMessages_transport (messages : List RtmpMessage) :
    (s.handleMessages env c messages).1.transport c =
      (s.transport c).map (·.resizedAll (s.passedOf env c messages)) := by
  induction messages generalizing s with
  | nil => exact (Option.map_id' ..).symm
  | cons message messages ih =>
      have hfirst : (s.handleMessage env c message).1.transport c =
          (s.transport c).map (·.resized message) := handleMessage_transport
      rw [passedOf, handleMessages]
      cases hm : s.handleMessage env c message with
      | mk s₁ ok =>
          rw [hm] at hfirst
          have hfirst : s₁.transport c = (s.transport c).map (·.resized message) := hfirst
          cases ok with
          | false => exact hfirst
          | true =>
              have hrest := ih (s := s₁)
              rw [hfirst, Option.map_map] at hrest
              exact hrest

theorem receive_transport {data : Bytes} :
    (s.receive env c data).transport c =
      (((s.append c data).readMessages env c).1.transport c).map
        (·.resizedAll (((s.append c data).readMessages env c).1.passedOf env c
          (((s.append c data).readMessages env c).2.getD []))) := by
  rw [receive, onMessage]
  cases (s.append c data).readMessages env c with
  | mk s₁ given =>
      cases given with
      | none => exact shutdown_transport.trans (Option.map_id' ..).symm
      | some given =>
          have htransport : (s₁.handleMessages env c given).1.transport c = _ :=
            handleMessages_transport given
          dsimp only
          cases hh : s₁.handleMessages env c given with
          | mk s₂ ok =>
              rw [hh] at htransport
              cases ok with
              | true => exact htransport
              | false => exact shutdown_transport.trans htransport

/-- When no message but the last is rejected, all are passed on. -/
theorem passedOf_accepted {messages : List RtmpMessage}
    (accepted : AcceptedButLast env c s messages) : s.passedOf env c messages = messages := by
  induction messages generalizing s with
  | nil => rfl
  | cons message messages ih =>
      rw [passedOf]
      cases messages with
      | nil => simp [passedOf]
      | cons message' messages =>
          obtain ⟨hok, hrest⟩ := accepted (List.cons_ne_nil _ _)
          rw [if_pos hok, ih hrest]

/-- What a call of `onMessage` on steady bytes passes on. -/
theorem tracked_receive {data bytes : Bytes} {messages : List RtmpMessage} {t : Transport}
    (ht : s.transport c = some t) (hfollows : t.Follows bytes)
    (hmessages : messages.map RtmpMessage.untimed =
      (decodedMessages bytes).map RtmpMessage.untimed)
    (steady : Transport.Steady (s.context c).chunkParser ((s.append c data).chunkBytes env c))
    (accepted : AcceptedButLast env c ((s.append c data).readMessages env c).1
      (((s.append c data).readMessages env c).2.getD [])) :
    Tracked ((s.receive env c data).transport c) (bytes ++ data)
      (messages ++ ((s.append c data).readMessages env c).1.passedOf env c
        (((s.append c data).readMessages env c).2.getD [])) := by
  have happended := append_transport ht data
  obtain ⟨hread, hgiven⟩ := readMessages_transport env happended
  have hchunks :
      (s.append c data).chunkBytes env c = (t.append data).chunkBytes (env.random c) := by
    unfold chunkBytes
    rw [happended]
  obtain ⟨-, hparser, -, -⟩ := context_of_transport ht
  rw [hchunks, hparser] at steady
  obtain ⟨hstill, hnew⟩ := Transport.read_follows hfollows data steady
  have hpassed := passedOf_accepted accepted
  have hreceived : (s.receive env c data).transport c =
      some (((t.append data).read (env.random c)).1.resizedAll
        (((t.append data).read (env.random c)).2.getD [])) := by
    rw [receive_transport, hpassed, hread, hgiven]
    rfl
  rw [hpassed]
  rw [hreceived, hgiven]
  refine ⟨hstill, ?_⟩
  rw [hnew, List.map_append, hmessages]

theorem transport_of_fresh (hs : Sound s) : s.transport s.nextConn = none := by
  unfold transport
  cases hc : s.connections s.nextConn with
  | none => rfl
  | some conn =>
      have hknown := hs.known.connection s.nextConn (by simp [binding, hc])
      exact absurd hknown (Nat.lt_irrefl _)

theorem delivered_of_bringsNothing {e : NetEvent} (h : BringsNothing c s e) :
    delivered c s e = [] := by
  cases e with
  | accept => rfl
  | close d => rfl
  | receive d data =>
      rw [delivered]
      split
      · rename_i hreceives
        exact h data (by rw [hreceives.1]) hreceives.2
      · rfl

theorem passed_of_bringsNothing {e : NetEvent} (h : BringsNothing c s e) :
    passed env c s e = [] := by
  cases e with
  | accept => rfl
  | close d => rfl
  | receive d data =>
      refine if_neg ?_
      rintro ⟨rfl, hlive, hdata⟩
      exact hdata (h data rfl hlive)

/-- One event keeps the connection where the reference is. -/
theorem Tracked.netStep {bytes : Bytes} {messages : List RtmpMessage} {e : NetEvent}
    (h : Tracked (s.transport c) bytes messages) (hs : Sound s) (timely : Timely env c s e) :
    Tracked ((netStep env s e).transport c) (bytes ++ delivered c s e)
      (messages ++ passed env c s e) := by
  rcases netStep_cases env s c e with ⟨data, rfl, hlive, hdata, hstep⟩ | ⟨hnothing, hnew, hfresh⟩ |
    ⟨hnothing, hsame⟩
  · obtain ⟨t, ht⟩ := transport_of_live hlive
    rw [ht] at h
    obtain ⟨steady, accepted⟩ := timely rfl hlive hdata
    have hdelivered : delivered c s (.receive c data) = data := if_pos ⟨rfl, hlive⟩
    have hpassed : passed env c s (.receive c data) =
        ((s.append c data).readMessages env c).1.passedOf env c
          (((s.append c data).readMessages env c).2.getD []) := if_pos ⟨rfl, hlive, hdata⟩
    rw [hstep, hdelivered, hpassed]
    exact tracked_receive ht h.1 h.2 steady accepted
  · rw [hnew, transport_of_fresh hs] at h
    obtain ⟨rfl, rfl⟩ := h
    rw [delivered_of_bringsNothing hnothing, passed_of_bringsNothing hnothing, transport, hfresh]
    refine ⟨Transport.follows_init, ?_⟩
    rw [List.append_nil, List.append_nil, decodedMessages_waits (by decide)]
  · have htransport : (RtmpServer.netStep env s e).transport c = s.transport c :=
      hsame below_transport
    rw [htransport, delivered_of_bringsNothing hnothing, passed_of_bringsNothing hnothing,
      List.append_nil, List.append_nil]
    exact h

/-- A whole run does. -/
theorem Tracked.netRun {bytes : Bytes} {messages : List RtmpMessage} {es : List NetEvent}
    (h : Tracked (s.transport c) bytes messages) (hs : Sound s)
    (timely : Along (RtmpServer.netStep env) (Timely env c) s es) :
    Tracked ((run (RtmpServer.netStep env) s es).transport c)
      (bytes ++ collect (RtmpServer.netStep env) (delivered c) s es)
      (messages ++ collect (RtmpServer.netStep env) (passed env c) s es) := by
  induction es generalizing s bytes messages with
  | nil => simpa [collect] using h
  | cons e es ih =>
      have hrest := ih (h.netStep hs timely.1) (hs.netStep env e) timely.2
      simpa [collect, List.append_assoc] using hrest

/-- **What a connection decodes.** In a run whose calls are all timely, the messages that the
connection passes to `handleMessage` are those of the reference on all that stands behind its
handshake, in payloads, lengths, type ids and stream ids. -/
theorem messages_decoded (env : Environment) (es : List NetEvent) (c : ConnId)
    (timely : Along (RtmpServer.netStep env) (Timely env c) {} es) :
    (passedTo env c es).map RtmpMessage.untimed =
      (decodedMessages (deliveredTo env c es)).map RtmpMessage.untimed := by
  have hinit : Tracked (({} : RtmpServer).transport c) [] [] := ⟨rfl, rfl⟩
  have htracked := hinit.netRun sound_init timely
  rw [List.nil_append, List.nil_append] at htracked
  change Tracked _ (deliveredTo env c es) (passedTo env c es) at htracked
  cases ht : (run (RtmpServer.netStep env) {} es).transport c with
  | some t =>
      rw [ht] at htracked
      exact htracked.2
  | none =>
      rw [ht] at htracked
      rw [htracked.1, htracked.2, decodedMessages_waits (by decide)]

end Decoding

/-- A `SetChunkSize`. -/
def resizing : Bytes :=
  encodeMessage { messageLength := 4, typeId := kMessageTypeSetChunkSize, chunkStreamId := 2,
                  payload := [0, 0, 16, 0] } kDefaultChunkSize

/-- An audio message of 130 bytes, in one chunk of the new size. -/
def resized : Bytes :=
  encodeMessage { messageLength := 130, typeId := kMessageTypeAudio, messageStreamId := 1,
                  chunkStreamId := 4, payload := List.replicate 130 0 } 4096

theorem messages_decoded_resized :
    Along (RtmpServer.netStep {}) (Timely {} 0) {}
        [.accept, .receive 0 Client.handshake, .receive 0 resizing, .receive 0 resized] ∧
      (passedTo {} 0 [.accept, .receive 0 Client.handshake, .receive 0 resizing,
        .receive 0 resized]).map RtmpMessage.untimed =
        (decodedMessages (deliveredTo {} 0 [.accept, .receive 0 Client.handshake,
          .receive 0 resizing, .receive 0 resized])).map RtmpMessage.untimed := by
  have timely : Along (RtmpServer.netStep {}) (Timely {} 0) {}
      [.accept, .receive 0 Client.handshake, .receive 0 resizing, .receive 0 resized] := by
    refine ⟨trivial, ?_, ?_, ?_, trivial⟩
    all_goals apply timely_alone <;> decide +kernel
  exact ⟨timely, messages_decoded {} _ 0 timely⟩

/-- Together with the `SetChunkSize` before it, the message is cut with the old size, and is
not completed. -/
theorem resizedTogether_disturbed :
    (passedTo {} 0 [.accept, .receive 0 Client.handshake,
        .receive 0 (resizing ++ resized)]).map RtmpMessage.untimed ≠
      (decodedMessages (deliveredTo {} 0 [.accept, .receive 0 Client.handshake,
        .receive 0 (resizing ++ resized)])).map RtmpMessage.untimed := by
  decide +kernel

end RtmpServer

end Rmuduo.Rtmp
