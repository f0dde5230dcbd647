/-
What the server writes to a connection.

Everything goes through `TcpConnection::send`: the answer of the handshake, the server's own
control and command messages, and the media of a session. The messages are written by different
handlers, also by those of other connections, and each is cut into chunks on its own.

* `Saying` — a message that the server writes: its own, or media.
* `Says` — from one state to another, the server writes such messages to one connection.
* `resultTo` — the `_result` that a message calls for.
* `answers_handleMessage` — what the handlers write to the connection that a message came from.
* `written_broadcast` — what a media message makes the server write to each connection.
-/

import Rmuduo.Rtmp.LateJoin
import Rmuduo.Rtmp.ParsedMessages

namespace Rmuduo.Rtmp

open Lib RtmpServer

/-! ### Messages of the server -/

/-- The message that `sendControl` writes. -/
def controlMessage (typeId : UInt8) (payload : Bytes) : RtmpMessage where
  timestamp := 0
  messageLength := payload.length.toUInt32
  typeId := typeId
  messageStreamId := 0
  chunkStreamId := kChunkStreamIdControl
  payload := payload

/-- The message that `sendCommand` writes. -/
def commandMessage (messageStreamId : UInt32) (values : List Amf0Value) : RtmpMessage where
  timestamp := 0
  messageLength := (appendValues values).length.toUInt32
  typeId := kMessageTypeCommandAmf0
  messageStreamId := messageStreamId
  chunkStreamId := kChunkStreamIdCommand
  payload := appendValues values

/-- A message that is written to a connection: the server's own, or media of a session. -/
inductive Saying where
  | reply (message : RtmpMessage)
  | media (session : SessionId) (media : Media)

namespace Saying

def message : Saying → RtmpMessage
  | .reply m => m
  | .media _ m => m.message

/-- The entry of the log by which the message goes to `q`. -/
def action (q : ConnId) : Saying → Action
  | .reply m => .send q (encodeMessage m kDefaultChunkSize)
  | .media session m => .media q session m kDefaultChunkSize

/-- A message of the server is none of media, and has no timestamp. -/
def Proper : Saying → Prop
  | .reply m => Carried m ∧ m.timestamp = 0 ∧ ¬ isMedia m
  | .media _ m => Carried m.message ∧ isMedia m.message

theorem Proper.carried {x : Saying} (h : x.Proper) : Carried x.message := by
  cases x with
  | reply => exact h.1
  | media => exact h.1

end Saying

section Messages

theorem toNat_length_toUInt32 {payload : Bytes} (h : payload.length < 2 ^ 24) :
    payload.length.toUInt32.toNat = payload.length :=
  Nat.mod_eq_of_lt (Nat.lt_trans h (by decide))

theorem carried_controlMessage (typeId : UInt8) {payload : Bytes} (h : payload.length < 2 ^ 24) :
    Carried (controlMessage typeId payload) where
  sized := (toNat_length_toUInt32 h).symm
  short := (toNat_length_toUInt32 h).symm ▸ h
  low := (by decide : (2 : UInt32) ≤ kChunkStreamIdControl)
  high := (by decide : kChunkStreamIdControl ≤ 65599)

theorem carried_commandMessage (messageStreamId : UInt32) {values : List Amf0Value}
    (h : (appendValues values).length < 2 ^ 24) : Carried (commandMessage messageStreamId values) where
  sized := (toNat_length_toUInt32 h).symm
  short := (toNat_length_toUInt32 h).symm ▸ h
  low := (by decide : (2 : UInt32) ≤ kChunkStreamIdCommand)
  high := (by decide : kChunkStreamIdCommand ≤ 65599)

/-- What a client reads of a command of the server. -/
theorem commandOf_commandMessage {id : UInt32} {name : Bytes} {transactionId : UInt64}
    {rest : List Amf0Value} (hname : name.length ≤ 65535) (hord : ∀ v ∈ rest, v.Ordered)
    (hfits : ∀ v ∈ rest, v.Fits) :
    commandOf (commandMessage id (.string name :: .number transactionId :: rest)) =
      some {
        name := name
        transactionId := transactionId
        messageStreamId := id
        commandObject := rest.getD 0 .null
        arguments := rest.drop 1 } := by
  have hord' : ∀ v ∈ Amf0Value.string name :: .number transactionId :: rest, v.Ordered := by
    simp only [List.forall_mem_cons]
    exact ⟨trivial, trivial, hord⟩
  have hfits' : ∀ v ∈ Amf0Value.string name :: .number transactionId :: rest, v.Fits := by
    simp only [List.forall_mem_cons]
    exact ⟨by rwa [Amf0Value.Fits], trivial, hfits⟩
  have hread : decodeAll (commandMessage id (.string name :: .number transactionId :: rest)).payload =
      .ok (.string name :: .number transactionId :: rest) := decodeAll_appendValues hord' hfits'
  have htype : (commandMessage id (.string name :: .number transactionId :: rest)).typeId =
      kMessageTypeCommandAmf0 := rfl
  unfold commandOf decodeCommandMessageAmf0
  rw [if_neg (not_not.mpr htype), if_neg (not_not.mpr htype), hread]
  have hlen : ¬ (Amf0Value.string name :: .number transactionId :: rest).length < 2 := by simp
  dsimp only
  rw [if_neg hlen, if_neg (by simp [Amf0Value.isString, Amf0Value.isNumber])]
  rfl

end Messages

/-! ### The log of a connection -/

namespace RtmpServer

def isTo (q : ConnId) : Action → Bool
  | .send receiver _ => receiver = q
  | .media receiver _ _ _ => receiver = q
  | .authorize _ _ _ _ _ => false
  | .create _ _ => false

/-- What has been written to `q`, in order. -/
def writtenTo (q : ConnId) (log : List Action) : List Action := log.filter (isTo q)

@[simp] theorem writtenTo_append (q : ConnId) (log log' : List Action) :
    writtenTo q (log ++ log') = writtenTo q log ++ writtenTo q log' :=
  List.filter_append ..

@[simp] theorem isTo_action (q : ConnId) (x : Saying) : isTo q (x.action q) = true := by
  cases x <;> simp [isTo, Saying.action]

theorem isTo_action_ne {q c : ConnId} (h : q ≠ c) (x : Saying) : isTo q (x.action c) = false := by
  cases x <;> simp [isTo, Saying.action, Ne.symm h]

theorem writtenTo_actions (q : ConnId) (sayings : List Saying) :
    writtenTo q (sayings.map (·.action q)) = sayings.map (·.action q) := by
  simp [writtenTo]

theorem writtenTo_actions_ne {q c : ConnId} (h : q ≠ c) (sayings : List Saying) :
    writtenTo q (sayings.map (·.action c)) = [] := by
  simp [writtenTo, isTo_action_ne h]

/-- The size of the chunks that go out, and the next message stream id. -/
def outgoing (conn : Connection) : UInt32 × UInt32 :=
  (conn.context.outChunkSize, conn.context.nextStreamId)

/-- So many message streams have been opened. -/
def advanced (opened : UInt32) (o : UInt32 × UInt32) : UInt32 × UInt32 := (o.1, o.2 + opened)

/-- From `s` to `s'` the server writes to `c` alone, as long as `c` is connected, and opens message
streams of `c`. -/
structure Says (c : ConnId) (sayings : List Saying) (opened : UInt32) (s s' : RtmpServer) :
    Prop where
  connected : ∀ q, s'.connected q = s.connected q
  written : writtenTo c s'.log =
    writtenTo c s.log ++ if s.connected c then sayings.map (·.action c) else []
  others : ∀ q, q ≠ c → writtenTo q s'.log = writtenTo q s.log
  counted : s'.viewed outgoing c = (s.viewed outgoing c).map (advanced opened)
  kept : ∀ q, q ≠ c → s'.viewed outgoing q = s.viewed outgoing q

section Saying

variable {env : Environment} {s s' s₁ : RtmpServer} {c d : ConnId} {sayings sayings' : List Saying}
  {n n' : UInt32}

theorem map_advanced_zero (o : Option (UInt32 × UInt32)) : o.map (advanced 0) = o := by
  cases o <;> simp [advanced]

theorem Says.trans (h : Says c sayings n s s₁) (h' : Says c sayings' n' s₁ s') :
    Says c (sayings ++ sayings') (n + n') s s' where
  connected q := (h'.connected q).trans (h.connected q)
  written := by
    rw [h'.written, h.written, h.connected]
    split <;> simp
  others q hq := (h'.others q hq).trans (h.others q hq)
  counted := by
    rw [h'.counted, h.counted, Option.map_map]
    congr 1
    funext o
    simp [advanced, UInt32.add_assoc]
  kept q hq := (h'.kept q hq).trans (h.kept q hq)

/-- A step that writes nothing and leaves the connections alone. -/
theorem says_nothing (connections : s'.connections = s.connections)
    (log : ∀ q, writtenTo q s'.log = writtenTo q s.log) : Says c [] 0 s s' where
  connected q := by simp only [RtmpServer.connected, connections]
  written := by simp [log c]
  others q _ := log q
  counted := by rw [viewed_of_connections connections, map_advanced_zero]
  kept q _ := viewed_of_connections connections

theorem says_refl (s : RtmpServer) (c : ConnId) : Says c [] 0 s s :=
  says_nothing rfl fun _ => rfl

theorem modifyContext_connected {f : RtmpConnectionContext → RtmpConnectionContext} :
    (s.modifyContext c f).connected d = s.connected d := by
  unfold RtmpServer.connected modifyContext modifyConnection
  by_cases hd : d = c
  · subst hd
    simp only [Function.update_self]
    cases s.connections d <;> rfl
  · simp only [Function.update_of_ne hd]

/-- A change of the context that opens message streams. -/
theorem says_modifyContext {f : RtmpConnectionContext → RtmpConnectionContext}
    (next : ∀ conn, s.connections c = some conn →
      (f conn.context).outChunkSize = conn.context.outChunkSize ∧
        (f conn.context).nextStreamId = conn.context.nextStreamId + n) :
    Says c [] n s (s.modifyContext c f) where
  connected _ := modifyContext_connected
  written := by simp [modifyContext, modifyConnection]
  others _ _ := rfl
  counted := by
    unfold viewed modifyContext modifyConnection
    simp only [Function.update_self, Option.map_map]
    cases hc : s.connections c with
    | none => rfl
    | some conn =>
        obtain ⟨hsize, hnext⟩ := next conn hc
        simp [outgoing, advanced, hsize, hnext]
  kept _ hq := viewed_modifyConnection_ne hq

/-- A change of the context that opens none. -/
theorem says_modifyContext_same {f : RtmpConnectionContext → RtmpConnectionContext}
    (size : ∀ x, (f x).outChunkSize = x.outChunkSize)
    (next : ∀ x, (f x).nextStreamId = x.nextStreamId) : Says c [] 0 s (s.modifyContext c f) :=
  says_modifyContext fun conn _ => ⟨size conn.context, by rw [next, UInt32.add_zero]⟩

/-- What `send` writes. -/
theorem says_record (s : RtmpServer) (c : ConnId) (sayings : List Saying) :
    Says c sayings 0 s
      (if s.connected c then s.record (sayings.map (·.action c)) else s) := by
  split
  · rename_i hconnected
    refine ⟨fun _ => rfl, ?_, fun q hq => ?_, ?_, fun _ _ => rfl⟩
    · rw [if_pos hconnected, record, writtenTo_append, writtenTo_actions]
    · rw [record, writtenTo_append, writtenTo_actions_ne hq, List.append_nil]
    · exact (map_advanced_zero _).symm
  · rename_i hnot
    refine ⟨fun _ => rfl, ?_, fun _ _ => rfl, (map_advanced_zero _).symm, fun _ _ => rfl⟩
    rw [if_neg hnot, List.append_nil]

theorem says_send (s : RtmpServer) (c : ConnId) (m : RtmpMessage) :
    Says c [.reply m] 0 s (s.send c (encodeMessage m kDefaultChunkSize)) :=
  says_record s c [.reply m]

variable (env) in
theorem says_authorize (s : RtmpServer) (c : ConnId) (streamKey ticket : Bytes) (publish : Bool) :
    Says c [] 0 s (authorize env s c streamKey ticket publish).1 := by
  refine says_nothing (authorize_connections env s c streamKey ticket publish) fun q => ?_
  unfold authorize
  split
  · rfl
  · simp [record, writtenTo, isTo]

theorem says_getOrCreateSession (s : RtmpServer) (c : ConnId) (streamKey : Bytes) :
    Says c [] 0 s (s.getOrCreateSession streamKey).1 := by
  refine says_nothing getOrCreateSession_connections fun q => ?_
  cases hkey : s.sessions streamKey with
  | some sid => rw [getOrCreateSession_of_some hkey]
  | none =>
      rw [getOrCreateSession_of_none hkey]
      simp [record, writtenTo, isTo]

theorem says_modifySession (s : RtmpServer) (c : ConnId) (sid : SessionId)
    (f : RtmpSession → RtmpSession) : Says c [] 0 s (s.modifySession sid f) :=
  says_nothing rfl fun _ => rfl

theorem says_setPublisher (s : RtmpServer) (c : ConnId) (sid : SessionId) :
    Says c [] 0 s (s.setPublisher sid c).1 := by
  refine says_nothing (setPublisher_connections s sid c) fun q => ?_
  unfold RtmpServer.setPublisher
  split <;> rfl

theorem says_join (s : RtmpServer) (c : ConnId) (streamKey : Bytes) (role : ConnectionRole)
    (enter : RtmpSession → RtmpSession) : Says c [] 0 s (s.join c streamKey role enter) := by
  have hentered : Says c [] 0 s ((s.getOrCreateSession streamKey).1.modifySession
      (s.getOrCreateSession streamKey).2 enter) :=
    (says_getOrCreateSession s c streamKey).trans (says_modifySession _ c _ enter)
  exact hentered.trans (says_modifyContext_same (f := fun context => { context with
    role := role
    session := some (s.getOrCreateSession streamKey).2 }) (fun _ => rfl) fun _ => rfl)

theorem says_cleanupConnection (s : RtmpServer) (c : ConnId) : Says c [] 0 s (s.cleanupConnection c) :=
  says_nothing (cleanupConnection_connections s c) fun q => by rw [cleanupConnection_log]

/-- A replay writes what is cached. -/
theorem says_replay {sid : SessionId} {session : RtmpSession} (alive : s.heap sid = some session)
    (c : ConnId) : Says c (session.cachedMessages.map (.media sid)) 0 s
      (s.replayCachedMessagesToPlayer sid c kDefaultChunkSize) := by
  have h := says_record s c (session.cachedMessages.map (.media sid))
  rw [List.map_map] at h
  unfold replayCachedMessagesToPlayer
  rw [alive]
  exact h

end Saying

/-! ### Answers -/

/-- The values of a `_result` behind the transaction id: what `connect` is told. -/
def connectValues : List Amf0Value := [
  objectOf [
    (ascii "fmsVer", .string (ascii "FMS/4,5,0,297")),
    (ascii "capabilities", .number (doubleBits 255)),
    (ascii "mode", .number (doubleBits 1))],
  objectOf [
    (ascii "level", .string (ascii "status")),
    (ascii "code", .string (ascii "NetConnection.Connect.Success")),
    (ascii "description", .string (ascii "Connection succeeded.")),
    (ascii "objectEncoding", .number (doubleBits 0))]]

/-- The values of an `onStatus` behind the transaction id. -/
def statusValues (code description : String) (error : Bool) : List Amf0Value := [
  .null,
  objectOf [
    (ascii "level", .string (ascii (if error then "error" else "status"))),
    (ascii "code", .string (ascii code)),
    (ascii "description", .string (ascii description))]]

/-- A `_result` as a client reads it. -/
def resultCommand (transactionId : UInt64) (rest : List Amf0Value) : RtmpCommandMessage where
  name := ascii "_result"
  transactionId := transactionId
  messageStreamId := 0
  commandObject := rest.getD 0 .null
  arguments := rest.drop 1

/-- The `_result` that a message carries. -/
def resultOf (m : RtmpMessage) : Option RtmpCommandMessage :=
  (commandOf m).filter fun command => command.name = ascii "_result"

def results (sayings : List Saying) : List RtmpCommandMessage :=
  sayings.filterMap fun x => resultOf x.message

/-- A `connect` names its app by a string. -/
def namesApp (command : RtmpCommandMessage) : Bool :=
  command.commandObject.isObjectLike &&
    (OrderedMap.lookup (ascii "app") command.commandObject.objectValue).any (·.isString)

/-- The `_result` that a command calls for, when `streamId` is the next message stream. -/
def resultFor (streamId : UInt32) (command : RtmpCommandMessage) : Option RtmpCommandMessage :=
  if command.name = ascii "connect" then
    if namesApp command then some (resultCommand command.transactionId connectValues) else none
  else if command.name = ascii "createStream" then
    some (resultCommand command.transactionId [.null, .number (doubleBits streamId)])
  else none

/-- The message streams that a command opens. -/
def opened (command : RtmpCommandMessage) : UInt32 :=
  if command.name = ascii "createStream" then 1 else 0

/-- From `s` to `s'` the server writes proper messages to `c`, and this `_result` among them. -/
def Answers (c : ConnId) (result : Option RtmpCommandMessage) (opened : UInt32)
    (s s' : RtmpServer) : Prop :=
  ∃ sayings, Says c sayings opened s s' ∧ (∀ x ∈ sayings, x.Proper) ∧
    results sayings = result.toList

section Values

theorem objectOf_ok {properties : List (Bytes × Amf0Value)}
    (h : ∀ p ∈ properties, p.1.length ≤ 65535 ∧ p.2.Ordered ∧ p.2.Fits) :
    (objectOf properties).Ordered ∧ (objectOf properties).Fits := by
  have hall : ∀ (object : List (Bytes × Amf0Value)), PropertiesOk object →
      PropertiesOk (properties.foldl (fun object p => OrderedMap.emplace p.1 p.2 object) object) := by
    induction properties with
    | nil => exact fun _ hobject => hobject
    | cons p properties ih =>
        intro object hobject
        obtain ⟨hkey, hord, hfits⟩ := h p List.mem_cons_self
        exact ih (fun p' hp' => h p' (List.mem_cons_of_mem p hp')) _
          (hobject.emplace hkey hord hfits)
  have hok := hall [] PropertiesOk.nil
  rw [objectOf, Amf0Value.Ordered, Amf0Value.Fits, propertiesOrdered_iff, propertiesFit_iff]
  exact ⟨⟨hok.map, hok.ordered⟩, hok.fit⟩

theorem connectValues_ok : ∀ v ∈ connectValues, v.Ordered ∧ v.Fits := by
  intro v hv
  rcases List.mem_pair.mp hv with rfl | rfl
  all_goals
    apply objectOf_ok
    simp only [List.forall_mem_cons, Amf0Value.Ordered, Amf0Value.Fits, List.not_mem_nil,
      false_implies, implies_true, and_true, true_and]
    decide +kernel

theorem statusValues_ok {code description : String} (error : Bool)
    (hcode : (ascii code).length ≤ 65535) (hdescription : (ascii description).length ≤ 65535) :
    ∀ v ∈ statusValues code description error, v.Ordered ∧ v.Fits := by
  intro v hv
  rcases List.mem_pair.mp hv with rfl | rfl
  · exact ⟨trivial, trivial⟩
  · apply objectOf_ok
    simp only [List.forall_mem_cons, Amf0Value.Ordered, Amf0Value.Fits, List.not_mem_nil,
      false_implies, implies_true, and_true, true_and]
    refine ⟨⟨by decide +kernel, ?_⟩, ⟨by decide +kernel, hcode⟩, by decide +kernel, hdescription⟩
    cases error <;> decide +kernel

theorem resultOf_of_typeId {m : RtmpMessage} (h : m.typeId ≠ kMessageTypeCommandAmf0) :
    resultOf m = none := by
  rw [resultOf, commandOf_of_typeId h]
  rfl

theorem resultOf_result (transactionId : UInt64) {rest : List Amf0Value}
    (hok : ∀ v ∈ rest, v.Ordered ∧ v.Fits) :
    resultOf (commandMessage 0 (.string (ascii "_result") :: .number transactionId :: rest)) =
      some (resultCommand transactionId rest) := by
  rw [resultOf, commandOf_commandMessage (by decide +kernel) (fun v hv => (hok v hv).1)
    fun v hv => (hok v hv).2]
  rfl

theorem resultOf_status (id : UInt32) {rest : List Amf0Value}
    (hok : ∀ v ∈ rest, v.Ordered ∧ v.Fits) :
    resultOf (commandMessage id (.string (ascii "onStatus") :: .number (doubleBits 0) :: rest)) =
      none := by
  rw [resultOf, commandOf_commandMessage (by decide +kernel) (fun v hv => (hok v hv).1)
    fun v hv => (hok v hv).2]
  exact Option.filter_eq_none_iff.mpr fun command hcommand => by
    cases hcommand
    exact (by decide +kernel : ¬ decide (ascii "onStatus" = ascii "_result") = true)

end Values

section Answering

variable {env : Environment} {s s' s₁ : RtmpServer} {c : ConnId}
  {result : Option RtmpCommandMessage} {n n' : UInt32} {command : RtmpCommandMessage}

theorem Says.answers (h : Says c [] n s s') : Answers c none n s s' :=
  ⟨[], h, by simp, rfl⟩

theorem answers_refl (s : RtmpServer) (c : ConnId) : Answers c none 0 s s := (says_refl s c).answers

theorem Answers.trans (h : Answers c none n s s₁) (h' : Answers c result n' s₁ s') :
    Answers c result (n + n') s s' := by
  obtain ⟨sayings, hsaid, hproper, hresults⟩ := h
  obtain ⟨sayings', hsaid', hproper', hresults'⟩ := h'
  refine ⟨sayings ++ sayings', hsaid.trans hsaid', ?_, ?_⟩
  · intro x hx
    rcases List.mem_append.mp hx with hx | hx
    · exact hproper x hx
    · exact hproper' x hx
  · unfold results at hresults hresults' ⊢
    rw [List.filterMap_append, hresults, hresults', Option.toList_none, List.nil_append]

/-- Steps that open no message stream. -/
theorem Answers.then (h : Answers c none 0 s s₁) (h' : Answers c result n s₁ s') :
    Answers c result n s s' := by
  simpa using h.trans h'

theorem answers_send {m : RtmpMessage} (hcarried : Carried m) (htime : m.timestamp = 0)
    (hmedia : ¬ isMedia m) (s : RtmpServer) (c : ConnId) :
    Answers c (resultOf m) 0 s (s.send c (encodeMessage m kDefaultChunkSize)) := by
  refine ⟨[.reply m], says_send s c m, ?_, ?_⟩
  · intro x hx
    rw [List.mem_singleton.mp hx]
    exact ⟨hcarried, htime, hmedia⟩
  · rw [results, List.filterMap_cons, List.filterMap_nil]
    cases hr : resultOf m <;> simp [Saying.message, hr]

theorem answers_sendControl {typeId : UInt8} {payload : Bytes} (hlen : payload.length < 2 ^ 24)
    (hcommand : typeId ≠ kMessageTypeCommandAmf0) (hmedia : ¬ isMedia (controlMessage typeId payload))
    (s : RtmpServer) (c : ConnId) : Answers c none 0 s (s.sendControl c typeId payload) := by
  have h := answers_send (carried_controlMessage typeId hlen) rfl hmedia s c
  rwa [resultOf_of_typeId hcommand] at h

theorem not_isMedia_commandMessage (id : UInt32) (values : List Amf0Value) :
    ¬ isMedia (commandMessage id values) := by
  rintro (h | h | h) <;> cases h

theorem answers_sendCommand (id : UInt32) {values : List Amf0Value}
    (hlen : (appendValues values).length < 2 ^ 24) (s : RtmpServer) (c : ConnId) :
    Answers c (resultOf (commandMessage id values)) 0 s (s.sendCommand c id values) :=
  answers_send (carried_commandMessage id hlen) rfl (not_isMedia_commandMessage id values) s c

theorem answers_sendOnStatus {code description : String} {error : Bool} (id : UInt32)
    (hlen : (appendValues (.string (ascii "onStatus") :: .number (doubleBits 0) ::
      statusValues code description error)).length < 2 ^ 24)
    (hcode : (ascii code).length ≤ 65535) (hdescription : (ascii description).length ≤ 65535)
    (s : RtmpServer) (c : ConnId) :
    Answers c none 0 s (s.sendOnStatus c id code description error) := by
  have h := answers_sendCommand id hlen s c
  rwa [resultOf_status id (statusValues_ok error hcode hdescription)] at h

/-- How long a command is does not depend on its transaction id. -/
theorem length_transactionId (name : Bytes) (t t' : UInt64) (rest : List Amf0Value) :
    (appendValues (.string name :: .number t :: rest)).length =
      (appendValues (.string name :: .number t' :: rest)).length := by
  simp [appendValues, appendValue, putUint64BE]

theorem answers_sendConnectSuccess (s : RtmpServer) (c : ConnId) (command : RtmpCommandMessage) :
    Answers c (some (resultCommand command.transactionId connectValues)) 0 s
      (s.sendConnectSuccess c command) := by
  have hlen : (appendValues (.string (ascii "_result") :: .number command.transactionId ::
      connectValues)).length < 2 ^ 24 := by
    rw [length_transactionId _ _ 0]
    decide +kernel
  have h := answers_sendCommand 0 hlen s c
  rwa [resultOf_result _ connectValues_ok] at h

theorem answers_sendCreateStreamResult (s : RtmpServer) (c : ConnId)
    (command : RtmpCommandMessage) (streamId : UInt32) :
    Answers c (some (resultCommand command.transactionId [.null, .number (doubleBits streamId)])) 0 s
      (s.sendCreateStreamResult c command streamId) := by
  have hlen : (appendValues [.string (ascii "_result"), .number command.transactionId, .null,
      .number (doubleBits streamId)]).length < 2 ^ 24 := by
    rw [length_transactionId _ _ 0]
    exact (by decide +kernel : (appendValues [.string (ascii "_result"), .number 0, .null,
      .number 0]).length < 2 ^ 24)
  have h := answers_sendCommand 0 hlen s c
  have hok : ∀ v ∈ [Amf0Value.null, .number (doubleBits streamId)], v.Ordered ∧ v.Fits := by
    simp [Amf0Value.Ordered, Amf0Value.Fits]
  rwa [resultOf_result _ hok] at h

/-! ### Handlers -/

/-- The four messages that an accepted `connect` is answered with. -/
theorem answers_connectReplies (s : RtmpServer) (c : ConnId) (command : RtmpCommandMessage)
    (windowSize peerBandwidth chunkSize : UInt32) :
    Answers c (some (resultCommand command.transactionId connectValues)) 0 s
      ((((s.sendWindowAcknowledgementSize c windowSize).sendSetPeerBandwidth c
        peerBandwidth).sendSetChunkSize c chunkSize).sendConnectSuccess c command) := by
  have hcontrol {typeId : UInt8} (payload : Bytes) (hlen : payload.length < 2 ^ 24)
      (htype : typeId < 8) (s : RtmpServer) : Answers c none 0 s (s.sendControl c typeId payload) := by
    refine answers_sendControl hlen ?_ ?_ s c
    · rintro rfl
      exact absurd htype (by decide)
    · rintro (h | h | h)
      all_goals
        rw [show typeId = _ from h] at htype
        exact absurd htype (by decide)
  have hwindow := hcontrol (putUint32BE windowSize)
    (by decide : (4 : Nat) < 2 ^ 24) (by decide : kMessageTypeWindowAcknowledgementSize < 8) s
  have hbandwidth := hcontrol (putUint32BE peerBandwidth ++ [2])
    (by simp [putUint32BE]) (by decide : kMessageTypeSetPeerBandwidth < 8)
    (s.sendWindowAcknowledgementSize c windowSize)
  have hsize := hcontrol (putUint32BE chunkSize)
    (by decide : (4 : Nat) < 2 ^ 24) (by decide : kMessageTypeSetChunkSize < 8)
    ((s.sendWindowAcknowledgementSize c windowSize).sendSetPeerBandwidth c peerBandwidth)
  exact hwindow.then (hbandwidth.then (hsize.then (answers_sendConnectSuccess _ c command)))

theorem answers_handleConnect (s : RtmpServer) (c : ConnId) (command : RtmpCommandMessage) :
    Answers c (if namesApp command then some (resultCommand command.transactionId connectValues)
      else none) 0 s (s.handleConnect c command).1 := by
  unfold handleConnect
  by_cases hobject : command.commandObject.isObjectLike = false
  · have hnames : namesApp command = false := by simp [namesApp, hobject]
    rw [if_pos hobject, hnames]
    exact answers_refl s c
  · rw [if_neg hobject]
    dsimp only
    cases happ : OrderedMap.lookup (ascii "app") command.commandObject.objectValue with
    | none =>
        have hnames : namesApp command = false := by simp [namesApp, happ]
        rw [hnames]
        exact answers_refl s c
    | some app =>
      have hnames : namesApp command = app.isString := by simp [namesApp, happ, hobject]
      rw [hnames]
      dsimp only
      by_cases hstring : app.isString = false
      · rw [if_pos hstring, hstring]
        exact answers_refl s c
      · rw [if_neg hstring, if_pos (Bool.eq_true_of_not_eq_false hstring)]
        exact Answers.then (says_modifyContext_same (fun _ => by rfl) fun _ => by rfl).answers
          (answers_connectReplies _ c command _ _ _)

theorem answers_handleCreateStream (s : RtmpServer) (c : ConnId) (command : RtmpCommandMessage) :
    Answers c (some (resultCommand command.transactionId
      [.null, .number (doubleBits (s.context c).nextStreamId)])) 1 s
      (s.handleCreateStream c command).1 := by
  have hopened : Says c [] 1 s (s.modifyContext c fun context => { context with
      nextStreamId := (s.context c).nextStreamId + 1
      streamId := (s.context c).nextStreamId }) := by
    refine says_modifyContext fun conn hc => ⟨rfl, ?_⟩
    rw [context, hc]
  exact hopened.answers.trans (answers_sendCreateStreamResult _ c command _)

theorem answers_handlePublish (env : Environment) (s : RtmpServer) (c : ConnId)
    (command : RtmpCommandMessage) : Answers c none 0 s (s.handlePublish env c command).1 := by
  unfold handlePublish
  split
  · exact answers_refl s c
  · rename_i target _
    have hnamed : Answers c none 0 s (s.modifyContext c fun context => { context with
        streamName := target.streamName
        publishType := requestedType context command }) :=
      Says.answers (says_modifyContext_same (fun _ => rfl) fun _ => rfl)
    dsimp only
    generalize s.modifyContext c _ = s₁ at hnamed ⊢
    refine hnamed.then ?_
    split
    · exact answers_refl s₁ c
    · have hasked := (says_authorize env s₁ c (s₁.context c).streamKey target.ticket
        true).answers
      unfold authorizePublish
      split
      · rename_i s₂ hauth
        rw [hauth] at hasked
        exact hasked.then (answers_sendOnStatus _ (by decide +kernel) (by decide +kernel)
          (by decide +kernel) s₂ c)
      · rename_i s₂ hauth
        rw [hauth] at hasked
        refine hasked.then ((says_getOrCreateSession s₂ c (s₁.context c).streamKey).answers.then ?_)
        generalize s₂.getOrCreateSession (s₁.context c).streamKey = r
        have hset := (says_setPublisher r.1 c r.2).answers
        split
        · rename_i s₃ hs₃
          rw [hs₃] at hset
          exact hset.then (answers_sendOnStatus _ (by decide +kernel) (by decide +kernel)
            (by decide +kernel) s₃ c)
        · rename_i s₃ hs₃
          rw [hs₃] at hset
          have hbound : Answers c none 0 s₃ (s₃.modifyContext c fun context => { context with
              role := .kPublisher
              session := some r.2 }) :=
            Says.answers (says_modifyContext_same (fun _ => rfl) fun _ => rfl)
          refine hset.then (hbound.then ?_)
          refine answers_sendOnStatus _ ?_ ?_ ?_ _ c <;> decide +kernel

/-- All that a session has cached is carried media. -/
def CachesProper (session : RtmpSession) : Prop :=
  ∀ media ∈ session.cachedMessages, Carried media.message ∧ isMedia media.message

theorem answers_replay {sid : SessionId} {n : UInt32} (hcached : s.EverySession CachesProper)
    (hsize : n = kDefaultChunkSize) (c : ConnId) :
    Answers c none 0 s (s.replayCachedMessagesToPlayer sid c n) := by
  subst hsize
  cases halive : s.heap sid with
  | none =>
      unfold replayCachedMessagesToPlayer
      rw [halive]
      exact answers_refl s c
  | some session =>
      refine ⟨_, says_replay halive c, ?_, ?_⟩
      · intro x hx
        obtain ⟨media, hmedia, rfl⟩ := List.mem_map.mp hx
        exact hcached sid session halive media hmedia
      · refine List.filterMap_eq_nil_iff.mpr fun x hx => ?_
        obtain ⟨media, hmedia, rfl⟩ := List.mem_map.mp hx
        unfold resultOf
        rw [Saying.message, commandOf_of_isMedia (hcached sid session halive media hmedia).2]
        rfl

theorem outChunkSize_eq_viewed (s : RtmpServer) (c : ConnId) : (s.context c).outChunkSize =
    ((s.viewed outgoing c).map Prod.fst).getD kDefaultChunkSize := by
  unfold context viewed
  cases s.connections c <;> rfl

theorem nextStreamId_eq_viewed (s : RtmpServer) (c : ConnId) : (s.context c).nextStreamId =
    ((s.viewed outgoing c).map Prod.snd).getD 1 := by
  unfold context viewed
  cases s.connections c <;> rfl

/-- What is written goes out in chunks of the same size. -/
theorem Says.outChunkSize {sayings : List Saying} (h : Says c sayings n s s') (q : ConnId) :
    (s'.context q).outChunkSize = (s.context q).outChunkSize := by
  rw [outChunkSize_eq_viewed, outChunkSize_eq_viewed]
  by_cases hq : q = c
  · rw [hq, h.counted, Option.map_map]
    rfl
  · rw [h.kept q hq]

theorem answers_handlePlay (env : Environment) (hcached : s.EverySession CachesProper)
    (hsize : (s.context c).outChunkSize = kDefaultChunkSize) (command : RtmpCommandMessage) :
    Answers c none 0 s (s.handlePlay env c command).1 := by
  unfold handlePlay
  split
  · exact answers_refl s c
  · rename_i target _
    have hnamed : Says c [] 0 s (s.modifyContext c fun context => { context with
        streamName := target.streamName }) :=
      says_modifyContext_same (fun _ => rfl) fun _ => rfl
    have hheap : (s.modifyContext c fun context => { context with
        streamName := target.streamName }).heap = s.heap := rfl
    dsimp only
    generalize s.modifyContext c _ = s₁ at hnamed hheap ⊢
    refine hnamed.answers.then ?_
    split
    · exact answers_refl s₁ c
    · have hasked := says_authorize env s₁ c (s₁.context c).streamKey target.ticket false
      have hsame : (authorize env s₁ c (s₁.context c).streamKey target.ticket false).1.heap =
          s₁.heap := by
        unfold authorize
        split <;> rfl
      unfold authorizePlay
      split
      · rename_i s₂ hauth
        rw [hauth] at hasked
        exact hasked.answers.then (answers_sendOnStatus _ (by decide +kernel) (by decide +kernel)
          (by decide +kernel) s₂ c)
      · rename_i s₂ hauth
        rw [hauth] at hasked hsame
        generalize (s₁.context c).streamKey = streamKey
        have hjoined : Says c [] 0 s₂ (s₂.becomePlayer c streamKey) := says_join ..
        have hproper : (s₂.becomePlayer c streamKey).EverySession CachesProper := by
          have h₂ : s₂.EverySession CachesProper := by
            unfold EverySession
            rw [hsame, hheap]
            exact hcached
          refine h₂.join (fun media hmedia => by cases hmedia) fun x hx media hmedia => ?_
          rw [x.addPlayer_cachedMessages] at hmedia
          exact hx media hmedia
        have hstill : ((s₂.becomePlayer c streamKey).context c).outChunkSize = kDefaultChunkSize := by
          rw [hjoined.outChunkSize, hasked.outChunkSize, hnamed.outChunkSize, hsize]
        have htold : Answers c none 0 (s₂.becomePlayer c streamKey)
            ((s₂.becomePlayer c streamKey).sendOnStatus c
              ((s₂.becomePlayer c streamKey).context c).streamId "NetStream.Play.Start"
              "Start playing." false) := by
          refine answers_sendOnStatus _ ?_ ?_ ?_ _ c <;> decide +kernel
        refine hasked.answers.then (hjoined.answers.then (htold.then ?_))
        have hquiet := quiet_sendOnStatus (s₂.becomePlayer c streamKey) c
          ((s₂.becomePlayer c streamKey).context c).streamId "NetStream.Play.Start"
          "Start playing." false
        obtain ⟨sayings, hsaid, -, -⟩ := htold
        refine answers_replay ?_ (hsaid.outChunkSize c ▸ hstill) c
        unfold EverySession
        rw [hquiet.heap]
        exact hproper

theorem answers_handleDeleteStream (s : RtmpServer) (c : ConnId) (command : RtmpCommandMessage) :
    Answers c none 0 s (s.handleDeleteStream c command).1 := by
  unfold handleDeleteStream
  split
  · exact answers_refl s c
  · exact answers_refl s c
  · have hleft : Answers c none 0 (s.cleanupConnection c) (s.detachConnectionFromSession c) :=
      Says.answers (says_modifyContext_same (fun _ => rfl) fun _ => rfl)
    exact (says_cleanupConnection s c).answers.then hleft

/-- **What a command is answered.** -/
theorem answers_handleCommandMessage (env : Environment) (hcached : s.EverySession CachesProper)
    (hsize : (s.context c).outChunkSize = kDefaultChunkSize) (command : RtmpCommandMessage) :
    Answers c (resultFor (s.context c).nextStreamId command) (opened command) s
      (s.handleCommandMessage env c command).1 := by
  have hnone (h : command.name ≠ ascii "connect") (h' : command.name ≠ ascii "createStream") :
      resultFor (s.context c).nextStreamId command = none ∧ opened command = 0 := by
    rw [resultFor, opened, if_neg h, if_neg h', if_neg h']
    exact ⟨rfl, rfl⟩
  unfold handleCommandMessage
  split
  · rename_i hname
    have hcreate : command.name ≠ ascii "createStream" := by
      rw [hname]
      decide +kernel
    rw [resultFor, opened, if_pos hname, if_neg hcreate]
    exact answers_handleConnect s c command
  · rename_i hconnect
    split
    · rename_i hname
      rw [resultFor, opened, if_neg hconnect, if_pos hname, if_pos hname]
      exact answers_handleCreateStream s c command
    · rename_i hcreate
      rw [(hnone hconnect hcreate).1, (hnone hconnect hcreate).2]
      split_ifs
      · exact answers_handlePublish env s c command
      · exact answers_handlePlay env hcached hsize command
      · exact answers_handleDeleteStream s c command
      · exact answers_refl s c

/-! ### Messages -/

/-- The `_result` that a message calls for. -/
def resultTo (streamId : UInt32) (message : RtmpMessage) : Option RtmpCommandMessage :=
  (commandOf message).bind (resultFor streamId)

/-- The message streams that a message opens. -/
def openedBy (message : RtmpMessage) : UInt32 := (commandOf message).elim 0 opened

/-- **What a message is answered,** other than media. -/
theorem answers_handleMessage (env : Environment) (hcached : s.EverySession CachesProper)
    (hsize : (s.context c).outChunkSize = kDefaultChunkSize) {message : RtmpMessage}
    (hmedia : ¬ isMedia message) :
    Answers c (resultTo (s.context c).nextStreamId message) (openedBy message) s
      (s.handleMessage env c message).1 := by
  unfold resultTo openedBy
  cases hcommand : commandOf message with
  | some command =>
      rw [handleMessage_command env hcommand]
      exact answers_handleCommandMessage env hcached hsize command
  | none =>
      unfold handleMessage
      split
      · exact Says.answers (says_modifyContext_same (f := fun context => { context with
          inChunkSize := readUint32BE message.payload
          chunkParser := context.chunkParser.setInChunkSize (readUint32BE message.payload) })
          (fun _ => rfl) fun _ => rfl)
      · split
        · rename_i htype
          unfold commandOf at hcommand
          rw [if_neg (not_not.mpr htype)] at hcommand
          cases hdecode : decodeCommandMessageAmf0 message with
          | error e => exact answers_refl s c
          | ok command =>
              rw [hdecode] at hcommand
              cases hcommand
        · have hother : ¬ (message.typeId = kMessageTypeDataAmf0 ∨
              message.typeId = kMessageTypeAudio ∨ message.typeId = kMessageTypeVideo) := hmedia
          rw [if_neg hother]
          exact answers_refl s c

/-- Media is sent to the players of one session, or to nobody. -/
theorem handleMessage_broadcast (env : Environment) {message : RtmpMessage}
    (hsize : (s.context c).outChunkSize = kDefaultChunkSize) (hmedia : isMedia message) :
    (s.handleMessage env c message).1 = s ∨ ∃ sid session, s.heap sid = some session ∧
      (s.handleMessage env c message).1 = s.onMediaMessage sid ⟨c, message⟩ kDefaultChunkSize := by
  rw [handleMessage_media hmedia, ← hsize]
  unfold handleMediaMessage
  split
  · exact .inl rfl
  · cases hlock : s.lock c with
    | none => exact .inl rfl
    | some sid =>
        obtain ⟨session, hsession⟩ := Option.isSome_iff_exists.mp
          (Option.filter_eq_some_iff.mp hlock).2
        exact .inr ⟨sid, session, hsession, rfl⟩

/-- A broadcast writes the message to each connected player. -/
theorem written_broadcast {sid : SessionId} {session : RtmpSession}
    (alive : s.heap sid = some session) (media : Media) (q : ConnId) :
    ∃ sayings : List Saying, writtenTo q (s.onMediaMessage sid media kDefaultChunkSize).log =
        writtenTo q s.log ++ sayings.map (·.action q) ∧
      (∀ x ∈ sayings, x = .media sid media ∧ q ∈ session.players ∧ s.connected q = true) := by
  refine ⟨((session.players.filter s.connected).filter (· = q)).map fun _ => .media sid media, ?_, ?_⟩
  · rw [onMediaMessage_eq alive, record, writtenTo_append]
    congr 1
    rw [writtenTo, List.filter_map, List.map_map]
    have htest : (isTo q ∘ fun player => Action.media player sid media kDefaultChunkSize) =
        fun player => decide (player = q) := rfl
    rw [htest]
    refine List.map_congr_left fun player hplayer => ?_
    have hq : player = q := by simpa using (List.mem_filter.mp hplayer).2
    rw [hq]
    rfl
  · intro x hx
    obtain ⟨player, hplayer, rfl⟩ := List.mem_map.mp hx
    obtain ⟨hmem, hq⟩ := List.mem_filter.mp hplayer
    obtain ⟨hplayers, hconnected⟩ := List.mem_filter.mp hmem
    have hq : player = q := by simpa using hq
    exact ⟨rfl, hq ▸ hplayers, hq ▸ hconnected⟩

end Answering

end RtmpServer

end Rmuduo.Rtmp
