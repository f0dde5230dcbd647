/-
That messages are complete after the expected number of chunks.

`handleMessage` takes the chunk size out of a `SetChunkSize` as it stands there. As long as no
such size is zero, every chunk brings a message on, and its connection is on course.

* `Transport.Booked` — what the parser of a connection holds is what the record of its chunks
  says.
* `takenTo`, `contextsTo` — the chunks that a connection takes in a run, and the contexts that it
  has.
* `explained_takenTo` — the chunks of a run are such a record, whatever the sizes.
* `sized_netRun` — the context and the parser have one chunk size, which is not zero.
* `onCourse_iff` — a connection is on course when it is never told the size zero.
-/

import Rmuduo.Rtmp.ChunkCount
import Rmuduo.Rtmp.Decoding

namespace Rmuduo.Rtmp

open Lib System

/-! ### Transports -/

namespace Transport

/-- What the parser holds is what is on record. Before the handshake is done, it has seen
nothing. -/
structure Booked (t : Transport) (taken : List TakenChunk) : Prop where
  goesOn : t.handshake = .kHandshakeDone → Ledger t.chunkParser t.inputBuffer taken
  waits : t.handshake ≠ .kHandshakeDone → taken = [] ∧ ∀ buf, Ledger t.chunkParser buf []

section Booking

variable {random : Fin 1528 → UInt8} {t : Transport} {taken : List TakenChunk}

theorem booked_init : Booked ⟨.kWaitC0C1, {}, 0, []⟩ [] where
  goesOn h := by cases h
  waits _ := ⟨rfl, ledger_init⟩

theorem takenChunks_nil (p : RtmpChunkParser) : takenChunks p [] = [] := by
  apply takenChunks_of_stop
  intro used p' r hread
  rw [readChunk_nil] at hread
  cases hread

theorem Booked.append (h : t.Booked taken) (data : Bytes) : (t.append data).Booked taken where
  goesOn hdone := (h.goesOn hdone).append data
  waits := h.waits

theorem Booked.resizedAll (h : t.Booked taken) (messages : List RtmpMessage) :
    (t.resizedAll messages).Booked taken where
  goesOn hdone := (h.goesOn hdone).setInChunkSize _
  waits hwaits := by
    obtain ⟨hnone, hledger⟩ := h.waits hwaits
    exact ⟨hnone, fun buf => (hledger buf).setInChunkSize _⟩

theorem booked_parse (hdone : t.handshake = .kHandshakeDone)
    (h : Ledger t.chunkParser t.inputBuffer taken) :
    t.parse.1.Booked (taken ++ takenChunks t.chunkParser t.inputBuffer) := by
  rw [Transport.parse]
  split
  · rename_i hempty
    rw [List.eq_nil_of_length_eq_zero hempty, takenChunks_nil, List.append_nil]
    exact ⟨fun _ => h, fun hwaits => absurd hdone hwaits⟩
  · exact ⟨fun _ => h.parse, fun hwaits => absurd hdone hwaits⟩

/-- One call of `onMessage`, up to the messages. -/
theorem Booked.read (h : t.Booked taken) :
    (t.read random).1.Booked (taken ++ takenChunks t.chunkParser (t.chunkBytes random)) := by
  rcases read_cases random t with ⟨hdone, hread⟩ | ⟨hwaits, hnow, hread⟩ | ⟨hwaits, hstill, hread⟩
  · rw [hread, chunkBytes_done hdone]
    exact booked_parse (t := t.counted) hdone (h.goesOn hdone)
  · obtain ⟨rfl, hledger⟩ := h.waits hwaits
    rw [hread, chunkBytes_now hwaits hnow]
    exact booked_parse hnow (hledger _)
  · obtain ⟨rfl, hledger⟩ := h.waits hwaits
    rw [hread, chunkBytes_waits hwaits hstill, takenChunks_nil]
    exact ⟨fun hdone => absurd hdone hstill, fun _ => ⟨rfl, hledger⟩⟩

theorem parse_inChunkSize : t.parse.1.chunkParser.inChunkSize = t.chunkParser.inChunkSize := by
  rw [Transport.parse]
  split
  · rfl
  · dsimp only
    rw [parse_eq_drain]
    exact touch_inChunkSize.trans drain_inChunkSize

theorem read_inChunkSize :
    (t.read random).1.chunkParser.inChunkSize = t.chunkParser.inChunkSize := by
  rcases read_cases random t with ⟨-, hread⟩ | ⟨-, -, hread⟩ | ⟨-, -, hread⟩
  · rw [hread]
    exact parse_inChunkSize
  · rw [hread]
    exact parse_inChunkSize
  · rw [hread]
    rfl

end Booking

end Transport

/-! ### Contexts -/

/-- The context and its parser have one chunk size, and a chunk can carry something. -/
structure Sized (context : RtmpConnectionContext) : Prop where
  agree : context.inChunkSize = context.chunkParser.inChunkSize
  positive : 1 ≤ context.inChunkSize

/-- A `SetChunkSize` that sets the size zero. -/
def Stalls (message : RtmpMessage) : Prop :=
  Resizes message ∧ readUint32BE message.payload = 0

theorem Sized.congr {context context' : RtmpConnectionContext} (h : Sized context)
    (size : context'.inChunkSize = context.inChunkSize)
    (parser : context'.chunkParser.inChunkSize = context.chunkParser.inChunkSize) :
    Sized context' where
  agree := by rw [size, parser, h.agree]
  positive := by
    rw [size]
    exact h.positive

theorem sized_init : Sized {} := ⟨rfl, by decide⟩

theorem one_le_of_ne_zero {n : UInt32} (h : n ≠ 0) : 1 ≤ n := by
  rw [UInt32.le_iff_toNat_le]
  exact Nat.one_le_iff_ne_zero.mpr fun hzero => h (UInt32.toNat_inj.mp hzero)

namespace RtmpServer

/-- The chunk size in the context. -/
def contextSize (conn : Connection) : UInt32 := conn.context.inChunkSize

theorem below_contextSize : Below contextSize := by
  intro conn state context _ _ _ hsize
  exact hsize

section Contexts

variable {env : Environment} {s s' : RtmpServer} {c d : ConnId} {message : RtmpMessage}

theorem inChunkSize_eq_viewed (s : RtmpServer) (c : ConnId) :
    (s.context c).inChunkSize = (s.viewed contextSize c).getD kDefaultChunkSize := by
  rw [context, viewed]
  cases s.connections c <;> rfl

theorem chunkParser_eq_transport (s : RtmpServer) (c : ConnId) :
    (s.context c).chunkParser = ((s.transport c).map (·.chunkParser)).getD {} := by
  rw [context, transport]
  cases s.connections c <;> rfl

/-- What shows in neither view leaves the sizes as they are. -/
theorem sized_of_views (h : Sized (s.context c))
    (size : s'.viewed contextSize c = s.viewed contextSize c)
    (parser : s'.transport c = s.transport c) : Sized (s'.context c) := by
  apply h.congr
  · rw [inChunkSize_eq_viewed, size, ← inChunkSize_eq_viewed]
  · rw [chunkParser_eq_transport, parser, ← chunkParser_eq_transport]

theorem sized_of_below (h : Sized (s.context c))
    (views : ∀ {α : Type} {view : Connection → α}, Below view →
      s'.viewed view c = s.viewed view c) : Sized (s'.context c) :=
  sized_of_views h (views below_contextSize) (views below_transport)

/-- Reading bytes leaves the context's size alone. -/
theorem Reads.viewed_contextSize (h : Reads env c s s') :
    s'.viewed contextSize c = s.viewed contextSize c := by
  obtain ⟨es, rfl, hreads⟩ := h
  induction es generalizing s with
  | nil => rfl
  | cons e es ih =>
      have hfirst : (step env s e).viewed contextSize c = s.viewed contextSize c := by
        cases e with
        | transport d t => exact viewed_modifyConnection_same fun _ => rfl
        | respond d data => exact viewed_of_connections (send_connections data)
        | accept => exact (hreads _ List.mem_cons_self).elim
        | message => exact (hreads _ List.mem_cons_self).elim
        | shutdown => exact (hreads _ List.mem_cons_self).elim
        | close => exact (hreads _ List.mem_cons_self).elim
      exact (ih fun e' he' => hreads e' (List.mem_cons_of_mem _ he')).trans hfirst

theorem sized_readMessages (env : Environment) (h : Sized (s.context c)) (hlive : s.live c = true)
    (data : Bytes) :
    Sized (((s.append c data).readMessages env c).1.context c) := by
  obtain ⟨t, ht⟩ := transport_of_live hlive
  obtain ⟨hread, -⟩ := readMessages_transport env (append_transport ht data)
  apply h.congr
  · rw [inChunkSize_eq_viewed, Reads.viewed_contextSize ((reads_append data).trans
      reads_readMessages), ← inChunkSize_eq_viewed]
  · rw [chunkParser_eq_transport, chunkParser_eq_transport, hread, ht]
    exact Transport.read_inChunkSize

theorem context_resizes (env : Environment) (hlive : s.live c = true) (h : Resizes message) :
    ((s.handleMessage env c message).1.context c).inChunkSize = readUint32BE message.payload ∧
      ((s.handleMessage env c message).1.context c).chunkParser.inChunkSize =
        readUint32BE message.payload := by
  rw [handleMessage_resizes h, setInChunkSize, context_modifyContext _ hlive]
  exact ⟨rfl, rfl⟩

/-- A message sets both sizes, or none. -/
theorem sized_handleMessage (env : Environment) (h : Sized (s.context c))
    (hlive : s.live c = true) (advances : ¬ Stalls message) :
    Sized ((s.handleMessage env c message).1.context c) := by
  by_cases hresizes : Resizes message
  · obtain ⟨hsize, hparser⟩ := context_resizes env hlive hresizes
    refine ⟨hsize.trans hparser.symm, ?_⟩
    rw [hsize]
    exact one_le_of_ne_zero fun hzero => advances ⟨hresizes, hzero⟩
  · exact sized_of_below h fun hview => handleMessage_viewed hview hresizes

end Contexts

/-! ### Runs -/

/-- The chunks of a connection that an event takes. -/
def takenIn (env : Environment) (c : ConnId) (s : RtmpServer) : NetEvent → List TakenChunk
  | .receive d data =>
      if d = c ∧ s.live c = true ∧ data ≠ [] then
        takenChunks (s.context c).chunkParser ((s.append c data).chunkBytes env c)
      else []
  | _ => []

/-- The contexts of a connection after each message that the loop of `onMessage` handles. -/
def contextsOf (env : Environment) (s : RtmpServer) (c : ConnId) :
    List RtmpMessage → List RtmpConnectionContext
  | [] => []
  | message :: messages =>
      (s.handleMessage env c message).1.context c ::
        if (s.handleMessage env c message).2 then
          (s.handleMessage env c message).1.contextsOf env c messages
        else []

/-- The contexts that a connection has in the course of an event, and after it. -/
def contextsIn (env : Environment) (c : ConnId) (s : RtmpServer) (e : NetEvent) :
    List RtmpConnectionContext :=
  (match e with
    | .receive d data =>
        if d = c ∧ s.live c = true ∧ data ≠ [] then
          ((s.append c data).readMessages env c).1.context c ::
            ((s.append c data).readMessages env c).1.contextsOf env c
              (((s.append c data).readMessages env c).2.getD [])
        else []
    | _ => []) ++ [(netStep env s e).context c]

def takenTo (env : Environment) (c : ConnId) (es : List NetEvent) : List TakenChunk :=
  collect (netStep env) (takenIn env c) {} es

def contextsTo (env : Environment) (c : ConnId) (es : List NetEvent) :
    List RtmpConnectionContext :=
  collect (netStep env) (contextsIn env c) {} es

section Records

variable {env : Environment} {s : RtmpServer} {c : ConnId} {e : NetEvent} {es : List NetEvent}
  {taken : List TakenChunk} {data : Bytes}

/-- The chunks of a connection so far are the record of its transport. -/
def Recorded : Option Transport → List TakenChunk → Prop
  | none, taken => taken = []
  | some t, taken => t.Booked taken

theorem takenIn_of_bringsNothing (h : BringsNothing c s e) : takenIn env c s e = [] := by
  cases e with
  | accept => rfl
  | close d => rfl
  | receive d data =>
      apply if_neg
      rintro ⟨rfl, hlive, hdata⟩
      exact hdata (h data rfl hlive)

theorem takenIn_receive (hlive : s.live c = true) (hdata : data ≠ []) :
    takenIn env c s (.receive c data) =
      takenChunks (s.context c).chunkParser ((s.append c data).chunkBytes env c) :=
  if_pos ⟨rfl, hlive, hdata⟩

/-- One event. -/
theorem Recorded.netStep (h : Recorded (s.transport c) taken) (hs : Sound s) (e : NetEvent) :
    Recorded ((netStep env s e).transport c) (taken ++ takenIn env c s e) := by
  rcases netStep_cases env s c e with ⟨data, rfl, hlive, hdata, hstep⟩ | ⟨hnothing, hnew, hfresh⟩ |
    ⟨hnothing, hsame⟩
  · obtain ⟨t, ht⟩ := transport_of_live hlive
    rw [ht] at h
    have h : t.Booked taken := h
    have happended := append_transport ht data
    obtain ⟨hread, -⟩ := readMessages_transport env happended
    obtain ⟨-, hparser, -, -⟩ := context_of_transport ht
    have hchunks : (s.append c data).chunkBytes env c =
        (t.append data).chunkBytes (env.random c) := by
      rw [chunkBytes, happended]
    rw [hstep, takenIn_receive hlive hdata, receive_transport, hread, hchunks, hparser]
    exact ((h.append data).read).resizedAll _
  · rw [hnew, transport_of_fresh hs] at h
    obtain rfl : taken = [] := h
    rw [takenIn_of_bringsNothing hnothing, transport, hfresh]
    exact Transport.booked_init
  · have htransport : (RtmpServer.netStep env s e).transport c = s.transport c :=
      hsame below_transport
    rw [htransport, takenIn_of_bringsNothing hnothing, List.append_nil]
    exact h

/-- **The chunks of a run** are a record: what each of them starts from is what the last chunk
of its chunk stream has left. -/
theorem explained_takenTo (env : Environment) (es : List NetEvent) (c : ConnId) :
    Explained TakenNext (takenTo env c es) := by
  have hinit : Sound ({} : RtmpServer) ∧ Recorded (({} : RtmpServer).transport c) [] :=
    ⟨sound_init, rfl⟩
  have hrun : Sound (netAfter env es) ∧
      Recorded ((netAfter env es).transport c) ([] ++ takenTo env c es) :=
    collect_invariant (I := fun s taken => Sound s ∧ Recorded (s.transport c) taken)
      (fun s e taken h => ⟨h.1.netStep env e, h.2.netStep h.1 e⟩) es hinit
  obtain ⟨-, hrecorded⟩ := hrun
  rw [List.nil_append] at hrecorded
  cases ht : (netAfter env es).transport c with
  | none =>
      rw [ht] at hrecorded
      have hnone : takenTo env c es = [] := hrecorded
      rw [hnone]
      exact explained_nil _
  | some t =>
      rw [ht] at hrecorded
      have hbooked : t.Booked (takenTo env c es) := hrecorded
      by_cases hdone : t.handshake = .kHandshakeDone
      · exact (hbooked.goesOn hdone).explained
      · rw [(hbooked.waits hdone).1]
        exact explained_nil _

end Records

section Sizes

variable {env : Environment} {s : RtmpServer} {c : ConnId} {e : NetEvent} {es : List NetEvent}
  {data : Bytes} {messages : List RtmpMessage}

/-- The messages of a call. -/
theorem sized_contextsOf (h : Sized (s.context c)) (hlive : s.live c = true)
    (advances : ∀ message ∈ s.passedOf env c messages, ¬ Stalls message) :
    (∀ context ∈ s.contextsOf env c messages, Sized context) ∧
      Sized ((s.handleMessages env c messages).1.context c) := by
  induction messages generalizing s with
  | nil => exact ⟨by simp [contextsOf], h⟩
  | cons message messages ih =>
      rw [passedOf] at advances
      have hfirst := sized_handleMessage env h hlive (advances _ List.mem_cons_self)
      have hlive' := handleMessage_live env message hlive
      rw [contextsOf, handleMessages]
      cases hm : s.handleMessage env c message with
      | mk s₁ ok =>
          rw [hm] at advances hfirst hlive'
          cases ok with
          | false =>
              refine ⟨?_, hfirst⟩
              intro context hcontext
              rw [List.mem_singleton.mp hcontext]
              exact hfirst
          | true =>
              obtain ⟨hrest, hlast⟩ := ih hfirst hlive' fun message' hmessage' =>
                advances message' (List.mem_cons_of_mem _ hmessage')
              refine ⟨?_, hlast⟩
              intro context hcontext
              rcases List.mem_cons.mp hcontext with rfl | hlater
              · exact hfirst
              · exact hrest context hlater

/-- What the connection is left with after a call of `onMessage`. -/
theorem context_receive (env : Environment) (s : RtmpServer) (c : ConnId) (data : Bytes) :
    ∀ {α : Type} {view : Connection → α}, Below view →
      (s.receive env c data).viewed view c =
        (((s.append c data).readMessages env c).1.handleMessages env c
          (((s.append c data).readMessages env c).2.getD [])).1.viewed view c := by
  intro α view hview
  rw [receive, onMessage]
  cases (s.append c data).readMessages env c with
  | mk s₁ given =>
      cases given with
      | none => exact shutdown_viewed hview
      | some given =>
          dsimp only
          rw [Option.getD_some]
          cases s₁.handleMessages env c given with
          | mk s₂ ok =>
              cases ok with
              | true => rfl
              | false => exact shutdown_viewed hview

theorem contextsIn_of_bringsNothing (h : BringsNothing c s e) :
    contextsIn env c s e = [(netStep env s e).context c] := by
  cases e with
  | accept => rfl
  | close d => rfl
  | receive d data =>
      rw [contextsIn, if_neg]
      · rfl
      · rintro ⟨rfl, hlive, hdata⟩
        exact hdata (h data rfl hlive)

/-- One event: the sizes of the contexts, and with what size the chunks are taken. -/
theorem sized_netStep (h : Sized (s.context c))
    (advances : ∀ message ∈ passed env c s e, ¬ Stalls message) :
    (∀ context ∈ contextsIn env c s e, Sized context) ∧
      (∀ chunk ∈ takenIn env c s e, 1 ≤ chunk.inChunkSize) ∧
      Sized ((netStep env s e).context c) := by
  rcases netStep_cases env s c e with ⟨data, rfl, hlive, hdata, hstep⟩ | ⟨hnothing, -, hfresh⟩ |
    ⟨hnothing, hsame⟩
  · have hread := sized_readMessages env h hlive data
    have hlive' : ((s.append c data).readMessages env c).1.live c = true :=
      (live_congr (((reads_append data).trans reads_readMessages).quiet.binding c)).trans hlive
    rw [passed, if_pos ⟨rfl, hlive, hdata⟩] at advances
    obtain ⟨hcontexts, hhandled⟩ := sized_contextsOf hread hlive' advances
    have hafter : Sized ((netStep env s (.receive c data)).context c) := by
      rw [hstep]
      exact sized_of_below hhandled (context_receive env s c data)
    refine ⟨?_, ?_, hafter⟩
    · intro context hcontext
      rw [contextsIn, if_pos ⟨rfl, hlive, hdata⟩, List.cons_append] at hcontext
      rcases List.mem_cons.mp hcontext with rfl | hlater
      · exact hread
      · rcases List.mem_append.mp hlater with hloop | hlast
        · exact hcontexts context hloop
        · rw [List.mem_singleton.mp hlast]
          exact hafter
    · intro chunk hchunk
      rw [takenIn_receive hlive hdata] at hchunk
      rw [inChunkSize_of_mem_takenChunks hchunk, ← h.agree]
      exact h.positive
  · have hafter : Sized ((netStep env s e).context c) := by
      rw [context, hfresh]
      exact sized_init
    rw [contextsIn_of_bringsNothing hnothing, takenIn_of_bringsNothing hnothing]
    refine ⟨?_, by simp, hafter⟩
    intro context hcontext
    rw [List.mem_singleton.mp hcontext]
    exact hafter
  · have hafter := sized_of_below h hsame
    rw [contextsIn_of_bringsNothing hnothing, takenIn_of_bringsNothing hnothing]
    refine ⟨?_, by simp, hafter⟩
    intro context hcontext
    rw [List.mem_singleton.mp hcontext]
    exact hafter

/-- A whole run. -/
theorem sized_netRun (h : Sized (s.context c))
    (advances : ∀ message ∈ collect (netStep env) (passed env c) s es, ¬ Stalls message) :
    (∀ context ∈ collect (netStep env) (contextsIn env c) s es, Sized context) ∧
      ∀ chunk ∈ collect (netStep env) (takenIn env c) s es, 1 ≤ chunk.inChunkSize := by
  induction es generalizing s with
  | nil => simp [collect]
  | cons e es ih =>
      rw [collect] at advances
      obtain ⟨hcontexts, htaken, hafter⟩ := sized_netStep h fun message hmessage =>
        advances message (List.mem_append_left _ hmessage)
      obtain ⟨hmoreContexts, hmoreTaken⟩ := ih hafter fun message hmessage =>
        advances message (List.mem_append_right _ hmessage)
      rw [collect, collect]
      constructor
      · intro context hcontext
        rcases List.mem_append.mp hcontext with hnow | hlater
        · exact hcontexts context hnow
        · exact hmoreContexts context hlater
      · intro chunk hchunk
        rcases List.mem_append.mp hchunk with hnow | hlater
        · exact htaken chunk hnow
        · exact hmoreTaken chunk hlater

/-- The size that a message sets is in the context behind it. -/
theorem resized_contextsOf {message : RtmpMessage} (hlive : s.live c = true)
    (h : Resizes message) (hpassed : message ∈ s.passedOf env c messages) :
    ∃ context ∈ s.contextsOf env c messages,
      context.inChunkSize = readUint32BE message.payload := by
  induction messages generalizing s with
  | nil => cases hpassed
  | cons first messages ih =>
      rw [passedOf] at hpassed
      rw [contextsOf]
      rcases List.mem_cons.mp hpassed with rfl | hlater
      · exact ⟨_, List.mem_cons_self, (context_resizes env hlive h).1⟩
      · split at hlater
        · rename_i hok
          obtain ⟨context, hcontext, hsize⟩ := ih (handleMessage_live env first hlive) hlater
          rw [if_pos hok]
          exact ⟨context, List.mem_cons_of_mem _ hcontext, hsize⟩
        · cases hlater

theorem resized_contextsIn {message : RtmpMessage} (h : Resizes message)
    (hpassed : message ∈ passed env c s e) :
    ∃ context ∈ contextsIn env c s e, context.inChunkSize = readUint32BE message.payload := by
  cases e with
  | accept => cases hpassed
  | close d => cases hpassed
  | receive d data =>
      rw [passed] at hpassed
      split at hpassed
      · rename_i harrives
        obtain ⟨rfl, hlive, hdata⟩ := harrives
        have hlive' : ((s.append d data).readMessages env d).1.live d = true :=
          (live_congr (((reads_append data).trans reads_readMessages).quiet.binding d)).trans hlive
        obtain ⟨context, hcontext, hsize⟩ := resized_contextsOf hlive' h hpassed
        refine ⟨context, ?_, hsize⟩
        rw [contextsIn, if_pos ⟨rfl, hlive, hdata⟩]
        exact List.mem_append_left _ (List.mem_cons_of_mem _ hcontext)
      · cases hpassed

theorem resized_contexts {message : RtmpMessage} (h : Resizes message)
    (hpassed : message ∈ collect (netStep env) (passed env c) s es) :
    ∃ context ∈ collect (netStep env) (contextsIn env c) s es,
      context.inChunkSize = readUint32BE message.payload := by
  induction es generalizing s with
  | nil => cases hpassed
  | cons e es ih =>
      rw [collect] at hpassed
      rw [collect]
      rcases List.mem_append.mp hpassed with hnow | hlater
      · obtain ⟨context, hcontext, hsize⟩ := resized_contextsIn h hnow
        exact ⟨context, List.mem_append_left _ hcontext, hsize⟩
      · obtain ⟨context, hcontext, hsize⟩ := ih hlater
        exact ⟨context, List.mem_append_right _ hcontext, hsize⟩

end Sizes

/-! ### On course -/

/-- The connection decodes what it receives as chunks are meant to be decoded: there is one
chunk size, which is not zero, every chunk brings its message on, and a message of `n` bytes in
chunks of one size is complete with the chunk that is due. -/
structure OnCourse (env : Environment) (es : List NetEvent) (c : ConnId) : Prop where
  sized : ∀ context ∈ contextsTo env c es, Sized context
  advances : ∀ chunk ∈ takenTo env c es,
    chunk.state.bytesRead < chunk.state.messageLength → chunk.state.bytesRead < chunk.read
  counted : ∀ (before : List TakenChunk) (chunk : TakenChunk) (after : List TakenChunk)
    (size : UInt32), takenTo env c es = before ++ chunk :: after →
    (∀ x ∈ messageChunks chunk.csid (before ++ [chunk]), x.inChunkSize = size) →
    (chunk.message.isSome ↔ (messageChunks chunk.csid (before ++ [chunk])).length =
        chunksNeeded chunk.state.messageLength.toNat size.toNat) ∧
      (messageChunks chunk.csid (before ++ [chunk])).length ≤
        chunksNeeded chunk.state.messageLength.toNat size.toNat

/-- **When a connection is on course**: when no `SetChunkSize` that it handles sets the size
zero. -/
theorem onCourse_iff (env : Environment) (es : List NetEvent) (c : ConnId) :
    OnCourse env es c ↔ ∀ message ∈ passedTo env c es, ¬ Stalls message := by
  constructor
  · rintro h message hmessage ⟨hresizes, hzero⟩
    obtain ⟨context, hcontext, hsize⟩ := resized_contexts hresizes hmessage
    have hpositive := (h.sized context hcontext).positive
    rw [hsize, hzero] at hpositive
    exact absurd hpositive (by decide)
  · intro h
    have hinit : Sized (({} : RtmpServer).context c) := sized_init
    obtain ⟨hsized, htaken⟩ := sized_netRun hinit h
    refine ⟨hsized, ?_, ?_⟩
    · intro chunk hchunk hopen
      exact TakenChunk.read_lt hopen (htaken chunk hchunk)
    · intro before chunk after size hsplit hsize
      have hexplained := explained_takenTo env es c
      rw [hsplit, List.append_cons] at hexplained
      have hmember : chunk ∈ takenTo env c es := by
        rw [hsplit]
        simp
      have hpositive := htaken chunk hmember
      have hlast : chunk ∈ messageChunks chunk.csid (before ++ [chunk]) := by
        apply List.mem_of_getLast?
        rw [getLast?_messageChunks, latest_concat, if_pos (decide_eq_true rfl)]
      rw [hsize chunk hlast, UInt32.le_iff_toNat_le] at hpositive
      exact completed_iff hexplained.front hpositive hsize

/-- A `SetChunkSize` that sets the size zero. -/
def stalling : Bytes :=
  encodeMessage { messageLength := 4, typeId := kMessageTypeSetChunkSize, chunkStreamId := 2,
                  payload := [0, 0, 0, 0] } kDefaultChunkSize

/-- The header of an audio message of one byte, and two chunks more of it. -/
def stalled : Bytes := [4, 0, 0, 0, 0, 0, 1, 8, 1, 0, 0, 0, 0xC4, 0xC4]

/-- None of the chunks behind such a message carries anything. -/
theorem stalled_not_onCourse :
    (takenTo {} 0 [.accept, .receive 0 Client.handshake, .receive 0 stalling,
        .receive 0 stalled]).map (fun chunk =>
          (chunk.csid, chunk.state.messageLength, chunk.read, chunk.message.isSome)) =
        [(2, 4, 4, true), (4, 1, 0, false), (4, 1, 0, false), (4, 1, 0, false)] ∧
      ¬ OnCourse {} [.accept, .receive 0 Client.handshake, .receive 0 stalling,
        .receive 0 stalled] 0 := by
  refine ⟨by decide +kernel, ?_⟩
  intro h
  have hstalls : ∃ chunk ∈ takenTo {} 0 [.accept, .receive 0 Client.handshake,
      .receive 0 stalling, .receive 0 stalled],
      chunk.state.bytesRead < chunk.state.messageLength ∧
        ¬ chunk.state.bytesRead < chunk.read := by decide +kernel
  obtain ⟨chunk, hchunk, hopen, hstays⟩ := hstalls
  exact hstays (h.advances chunk hchunk hopen)

end RtmpServer

end Rmuduo.Rtmp
