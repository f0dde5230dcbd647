/-
What a client reads.

A client skips the answer of the handshake and then reads chunks of the default size, which is
the size that the server announces. Whatever all connections do, and however the bytes are cut on
the way back, it reads the messages that the server has written to it, one behind the other.

* `client_reads` — the output is the answer of the handshake and then whole messages, and the
  media among them are those that the sessions have sent.
* `results_read` — requests are answered in order: the `_result`s that a client reads are those
  that its own messages call for, and its message streams are numbered from 1 on.
-/

import Rmuduo.Rtmp.ClientView

namespace Rmuduo.Rtmp

open Lib System

/-! ### The output of a connection -/

/-- The bytes that an entry of the log puts on its connection. -/
def Action.bytes : Action → Bytes
  | .send _ data => data
  | .media _ _ m outChunkSize => encodeMessage m.message outChunkSize
  | .authorize _ _ _ _ _ => []
  | .create _ _ => []

def Action.mediaMessage? : Action → Option RtmpMessage
  | .media _ _ m _ => some m.message
  | _ => none

namespace RtmpServer

/-- All bytes that have been written to `q`. -/
def output (q : ConnId) (log : List Action) : Bytes := (writtenTo q log).flatMap Action.bytes

/-- The media messages that sessions have sent to `q`. -/
def relayedTo (q : ConnId) (log : List Action) : List RtmpMessage :=
  (writtenTo q log).filterMap Action.mediaMessage?

section Output

variable {env : Environment} {s : RtmpServer} {q : ConnId} {responses : List Bytes}
  {sayings : List Saying} {messages : List RtmpMessage}

theorem flatMap_bytes_send (responses : List Bytes) :
    (responses.map (Action.send q)).flatMap Action.bytes = responses.flatten := by
  rw [List.flatMap_map]
  exact List.flatMap_id'

theorem bytes_action (x : Saying) :
    (x.action q).bytes = encodeMessage x.message kDefaultChunkSize := by
  cases x <;> rfl

theorem flatMap_bytes_action (sayings : List Saying) :
    (sayings.map (·.action q)).flatMap Action.bytes =
      encodeAll kDefaultChunkSize (sayings.map Saying.message) := by
  rw [List.flatMap_map, encodeAll, List.map_map, ← List.flatMap_def]
  exact List.flatMap_congr fun x _ => bytes_action x

theorem mediaMessage_action {x : Saying} (h : x.Proper) :
    (x.action q).mediaMessage? = if isMedia x.message then some x.message else none := by
  cases x with
  | reply m => exact (if_neg h.2.2).symm
  | media session m => exact (if_pos h.2).symm

theorem Tells.output (h : Tells env q responses sayings messages s) :
    RtmpServer.output q s.log =
      responses.flatten ++ encodeAll kDefaultChunkSize (sayings.map Saying.message) := by
  rw [RtmpServer.output, h.written, List.flatMap_append, flatMap_bytes_send, flatMap_bytes_action]

/-- The media of a log are those among the messages that it writes. -/
theorem Tells.relayedTo (h : Tells env q responses sayings messages s) :
    RtmpServer.relayedTo q s.log = (sayings.map Saying.message).filter fun m => isMedia m := by
  have hnone : (responses.map (Action.send q)).filterMap Action.mediaMessage? = [] := by
    rw [List.filterMap_map]
    exact List.filterMap_eq_nil_iff.mpr fun _ _ => rfl
  rw [RtmpServer.relayedTo, h.written, List.filterMap_append, hnone, List.nil_append,
    List.filterMap_map, ← List.filterMap_eq_filter, List.filterMap_map]
  refine List.filterMap_congr fun x hx => ?_
  rw [Function.comp_apply, mediaMessage_action (h.proper x hx)]
  simp [Option.guard]

/-- The answer of the handshake comes first, and messages behind it. -/
theorem Tells.framed (h : Tells env q responses sayings messages s) :
    (RtmpServer.output q s.log = [] ∨ ∃ c1, kHandshakePacketSize ≤ c1.length ∧
      (RtmpServer.output q s.log).take 3073 = buildS0S1S2 (env.random q) c1) ∧
    (RtmpServer.output q s.log).drop 3073 =
      encodeAll kDefaultChunkSize (sayings.map Saying.message) := by
  rw [h.output]
  match responses, h.response, h.once, h.behind with
  | [], _, _, hbehind =>
      rw [hbehind rfl]
      exact ⟨.inl rfl, rfl⟩
  | [r], hresponse, _, _ =>
      obtain ⟨c1, hlen, rfl⟩ := hresponse r List.mem_cons_self
      have hsize : (buildS0S1S2 (env.random q) c1).length = 3073 :=
        Handshaking.length_buildS0S1S2 hlen
      rw [List.flatten_singleton]
      refine ⟨.inr ⟨c1, hlen, ?_⟩, ?_⟩
      · rw [← hsize, List.take_left]
      · rw [← hsize, List.drop_left]
  | _ :: _ :: _, _, honce, _ =>
      exact absurd honce (by simp)

/-- Without extended timestamps everything that is written can be read. -/
theorem Tells.relayable (h : Tells env q responses sayings messages s)
    (early : ∀ m ∈ RtmpServer.relayedTo q s.log, m.timestamp < 0x00FFFFFF) :
    ∀ m ∈ sayings.map Saying.message, Relayable m := by
  intro m hm
  obtain ⟨x, hx, rfl⟩ := List.mem_map.mp hm
  have hproper := h.proper x hx
  refine hproper.carried.relayable ?_
  cases x with
  | reply m =>
      rw [Saying.message, hproper.2.1]
      decide
  | media session media =>
      refine early _ ?_
      rw [h.relayedTo]
      exact List.mem_filter.mpr ⟨hm, decide_eq_true hproper.2⟩

end Output

/-! ### What a client reads -/

/-- Written messages are read however they are cut. -/
theorem feed_written {ms : List RtmpMessage} (sound : ∀ m ∈ ms, Relayable m) {segs : List Bytes}
    (cut : segs.flatten = encodeAll kDefaultChunkSize ms) :
    (feed {} [] segs).messages = ms ∧ (feed {} [] segs).buf = [] ∧
      (feed {} [] segs).error = none := by
  have hsize : 1 ≤ kDefaultChunkSize.toNat := by decide
  have start : Sending kDefaultChunkSize {} segs.flatten ms := by
    rw [cut]
    exact .between rfl sound
  cases segs with
  | nil =>
      obtain ⟨-, -, hmessages⟩ := start.drain hsize
      rw [List.flatten_nil, Reader.drain_nil] at hmessages
      exact ⟨hmessages, rfl, rfl⟩
  | cons seg segs => exact start.feed hsize

section Reading

variable (env : Environment) (es : List NetEvent) (q : ConnId)

/-- **What a client reads** after any run, in any segments: the answer of the handshake, and then
whole messages without a rest. The media messages among them are those that the server has sent to
it, in that order. -/
theorem client_reads
    (early : ∀ m ∈ relayedTo q (netAfter env es).log, m.timestamp < 0x00FFFFFF) {segs : List Bytes}
    (cut : segs.flatten = (output q (netAfter env es).log).drop 3073) :
    (output q (netAfter env es).log = [] ∨ ∃ c1, kHandshakePacketSize ≤ c1.length ∧
      (output q (netAfter env es).log).take 3073 = buildS0S1S2 (env.random q) c1) ∧
    (feed {} [] segs).error = none ∧ (feed {} [] segs).buf = [] ∧
    encodeAll kDefaultChunkSize (feed {} [] segs).messages = segs.flatten ∧
    ((feed {} [] segs).messages.filter fun m => isMedia m) = relayedTo q (netAfter env es).log := by
  obtain ⟨responses, sayings, h⟩ := (told_netAfter env es).2 q
  obtain ⟨hframe, hrest⟩ := h.framed
  obtain ⟨hmessages, hbuf, herror⟩ := feed_written (h.relayable early) (cut.trans hrest)
  refine ⟨hframe, herror, hbuf, ?_, ?_⟩
  · rw [hmessages, cut, hrest]
  · rw [hmessages, h.relayedTo]

/-- A publisher and a player of one stream, and a frame. -/
def relayRun : List NetEvent := [
  .accept, .receive 0 Client.handshake, .receive 0 (Client.bytes [
    Client.connect (ascii "live"), Client.createStream, Client.request "publish" 1 (ascii "key")]),
  .accept, .receive 1 Client.handshake, .receive 1 (Client.bytes [
    Client.connect (ascii "live"), Client.createStream, Client.request "play" 1 (ascii "key")]),
  .receive 0 (Client.bytes [Client.video 1 [0x17, 1]])]

theorem relayedTo_relayRun :
    relayedTo 1 (netAfter {} relayRun).log = [Client.video 1 [0x17, 1]] := by
  decide +kernel

theorem early_relayRun :
    ∀ m ∈ relayedTo 1 (netAfter {} relayRun).log, m.timestamp < 0x00FFFFFF := by
  rw [relayedTo_relayRun]
  decide +kernel

theorem client_reads_frame :
    ((feed {} [] [(output 1 (netAfter {} relayRun).log).drop 3073]).messages.filter
      fun m => isMedia m) = [Client.video 1 [0x17, 1]] := by
  have cut : [(output 1 (netAfter {} relayRun).log).drop 3073].flatten =
      (output 1 (netAfter {} relayRun).log).drop 3073 := List.flatten_singleton
  obtain ⟨-, -, -, -, hmedia⟩ := client_reads {} relayRun 1 early_relayRun cut
  exact hmedia.trans relayedTo_relayRun

/-- **Requests are answered in order.** The `_result`s that a client reads are those that its own
messages call for, whatever the other connections do, and all of them as long as it is
connected. -/
theorem results_read
    (early : ∀ m ∈ relayedTo q (netAfter env es).log, m.timestamp < 0x00FFFFFF) {segs : List Bytes}
    (cut : segs.flatten = (output q (netAfter env es).log).drop 3073) :
    (feed {} [] segs).messages.filterMap resultOf <+: resultsTo 1 (passedTo env q es) ∧
    ((netAfter env es).connected q = true →
      (feed {} [] segs).messages.filterMap resultOf = resultsTo 1 (passedTo env q es)) := by
  obtain ⟨responses, sayings, h⟩ := (told_netAfter env es).2 q
  obtain ⟨-, hrest⟩ := h.framed
  obtain ⟨hmessages, -, -⟩ := feed_written (h.relayable early) (cut.trans hrest)
  rw [hmessages, List.filterMap_map]
  exact ⟨h.results, h.all⟩

/-- A connection that opens two message streams. -/
def openingRun : List NetEvent := [
  .accept, .receive 0 Client.handshake, .receive 0 (Client.bytes [
    Client.connect (ascii "live"),
    Client.command 0 [.string (ascii "createStream"), .number 7, .null],
    Client.command 0 [.string (ascii "createStream"), .number 8, .null]])]

theorem results_read_opening :
    ((feed {} [] [(output 0 (netAfter {} openingRun).log).drop 3073]).messages.filterMap
      resultOf).map (·.transactionId) = [0, 7, 8] := by
  have early : ∀ m ∈ relayedTo 0 (netAfter {} openingRun).log, m.timestamp < 0x00FFFFFF := by
    decide +kernel
  rw [(results_read {} openingRun 0 early List.flatten_singleton).2 (by decide +kernel)]
  decide +kernel

end Reading

end RtmpServer

end Rmuduo.Rtmp
