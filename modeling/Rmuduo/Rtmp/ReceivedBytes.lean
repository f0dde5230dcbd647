/-
What `receivedBytes()` counts.

`onMessage` adds `readableBytes()`: all that is in the buffer, also what earlier calls have seen
and left there, an unfinished C0 and C1, C2 or chunk.

* `netStep_counts` — what one event adds.
* `counts_iff` — the counter has what has arrived as long as no bytes find others in the buffer.
* `receivedBytes_iff` — the same for the `size_t` that is returned.
* `counted_twice` — C0 alone in the first read.
-/

import Rmuduo.Rtmp.Decoding

namespace Rmuduo.Rtmp

open Lib System

namespace Transport

variable {random : Fin 1528 → UInt8} {t : Transport}

@[simp] theorem parse_receivedBytes : t.parse.1.receivedBytes = t.receivedBytes := by
  unfold parse
  split <;> rfl

theorem length_parse_le : t.parse.1.inputBuffer.length ≤ t.inputBuffer.length := by
  unfold parse
  split
  · rfl
  · dsimp only
    rw [parse_eq_drain]
    exact Reader.length_rest_le _ _

theorem length_handshaken_le :
    (t.handshaken random).inputBuffer.length ≤ t.inputBuffer.length :=
  length_process_le random t.handshake t.inputBuffer

/-- A call counts the whole buffer. -/
theorem read_receivedBytes :
    (t.read random).1.receivedBytes = t.receivedBytes + t.inputBuffer.length := by
  rcases read_cases random t with ⟨-, hread⟩ | ⟨-, -, hread⟩ | ⟨-, -, hread⟩
  all_goals
    rw [hread]
    simp [counted, handshaken]

theorem length_read_le : (t.read random).1.inputBuffer.length ≤ t.inputBuffer.length := by
  rcases read_cases random t with ⟨-, hread⟩ | ⟨-, -, hread⟩ | ⟨-, -, hread⟩
  · rw [hread]
    exact length_parse_le
  · rw [hread]
    exact Nat.le_trans length_parse_le length_handshaken_le
  · rw [hread]
    exact length_handshaken_le

end Transport

namespace RtmpServer

/-- `receivedBytes()` of the connection's context. The counter is a `size_t`; the sums are taken
modulo its size when they are read. -/
def receivedBytes (s : RtmpServer) (c : ConnId) : Nat := (s.context c).receivedBytes % 2 ^ 64

/-- Bytes that arrive on the connection find nothing that earlier calls have left. -/
def FindsNothing (c : ConnId) (s : RtmpServer) (e : NetEvent) : Prop :=
  delivered c s e ≠ [] → s.inputBuffer c = []

section Counting

variable {env : Environment} {s : RtmpServer} {c : ConnId}

theorem counter_eq : (s.context c).receivedBytes =
    ((s.transport c).map Transport.receivedBytes).getD 0 := by
  unfold context transport
  cases s.connections c <;> rfl

theorem inputBuffer_eq : s.inputBuffer c =
    ((s.transport c).map Transport.inputBuffer).getD [] := by
  unfold inputBuffer transport
  cases s.connections c <;> rfl

/-- Receiving bytes counts them, and those that are already there. -/
theorem receive_counts {data : Bytes} (hlive : s.live c = true) :
    ((s.receive env c data).context c).receivedBytes =
      (s.context c).receivedBytes + (s.inputBuffer c).length + data.length ∧
    ((s.receive env c data).inputBuffer c).length ≤ (s.inputBuffer c).length + data.length := by
  obtain ⟨t, ht⟩ := transport_of_live hlive
  have hread := (readMessages_transport env (append_transport ht data)).1
  rw [counter_eq, counter_eq, inputBuffer_eq, inputBuffer_eq, receive_transport, hread, ht]
  dsimp only [Option.map_some, Option.getD_some, Transport.resizedAll]
  constructor
  · rw [Transport.read_receivedBytes]
    simp [Transport.append, Nat.add_assoc]
  · refine Nat.le_trans Transport.length_read_le ?_
    simp [Transport.append]

/-- One event adds the bytes that it delivers, with those that they find. -/
theorem netStep_counts (env : Environment) (c : ConnId) (hs : Sound s) (e : NetEvent) :
    ((netStep env s e).context c).receivedBytes =
      (s.context c).receivedBytes +
        (if delivered c s e = [] then 0 else (s.inputBuffer c).length) +
        (delivered c s e).length ∧
    ((netStep env s e).inputBuffer c).length ≤
      (s.inputBuffer c).length + (delivered c s e).length := by
  rcases netStep_cases env s c e with ⟨data, rfl, hlive, hdata, hstep⟩ |
    ⟨hnothing, hnew, hfresh⟩ | ⟨hnothing, hsame⟩
  · have hdelivered : delivered c s (.receive c data) = data := if_pos ⟨rfl, hlive⟩
    rw [hstep, hdelivered, if_neg hdata]
    exact receive_counts hlive
  · have hnone := transport_of_fresh hs
    rw [← hnew] at hnone
    have hnew : (netStep env s e).transport c = some (({} : Connection).transport) := by
      rw [transport, hfresh]
      rfl
    rw [delivered_of_bringsNothing hnothing, counter_eq, counter_eq, inputBuffer_eq,
      inputBuffer_eq, hnew, hnone]
    exact ⟨rfl, Nat.le_refl _⟩
  · have htransport : (netStep env s e).transport c = s.transport c := hsame below_transport
    rw [delivered_of_bringsNothing hnothing, counter_eq, counter_eq, inputBuffer_eq,
      inputBuffer_eq, htransport]
    simp

/-! ### Runs -/

theorem netAfter_concat (es : List NetEvent) (e : NetEvent) :
    netAfter env (es ++ [e]) = netStep env (netAfter env es) e :=
  run_append _ _ _ _

theorem deliveredTo_append (es fs : List NetEvent) :
    deliveredTo env c (es ++ fs) =
      deliveredTo env c es ++ collect (netStep env) (delivered c) (netAfter env es) fs :=
  collect_append _ _ _ _ _

theorem deliveredTo_concat (es : List NetEvent) (e : NetEvent) :
    deliveredTo env c (es ++ [e]) = deliveredTo env c es ++ delivered c (netAfter env es) e := by
  simp [deliveredTo_append, collect]

/-- No more is left in the buffer than has arrived. -/
theorem length_inputBuffer_le (env : Environment) (c : ConnId) (es : List NetEvent) :
    ((netAfter env es).inputBuffer c).length ≤ (deliveredTo env c es).length := by
  induction es using List.reverseRecOn with
  | nil => exact Nat.le_refl _
  | append_singleton es e ih =>
      have hstep := (netStep_counts env c (sound_netAfter env es) e).2
      rw [netAfter_concat, deliveredTo_concat, List.length_append]
      omega

/-- The counter after one event more. -/
theorem counter_concat (es : List NetEvent) (e : NetEvent) :
    ((netAfter env (es ++ [e])).context c).receivedBytes =
      ((netAfter env es).context c).receivedBytes +
        (if delivered c (netAfter env es) e = [] then 0
          else ((netAfter env es).inputBuffer c).length) +
        (delivered c (netAfter env es) e).length := by
  rw [netAfter_concat]
  exact (netStep_counts env c (sound_netAfter env es) e).1

/-- **The counter is right as long as bytes find nothing.** -/
theorem counts_iff (env : Environment) (c : ConnId) (es : List NetEvent) :
    (∀ before, before <+: es →
      ((netAfter env before).context c).receivedBytes = (deliveredTo env c before).length) ↔
    Along (netStep env) (FindsNothing c) {} es := by
  refine prefixes_iff_along (Q := fun es =>
    ((netAfter env es).context c).receivedBytes = (deliveredTo env c es).length) rfl ?_ es
  intro es e hbefore
  change _ ↔ FindsNothing c (netAfter env es) e
  rw [counter_concat, deliveredTo_concat, List.length_append, hbefore, FindsNothing]
  by_cases hnone : delivered c (netAfter env es) e = []
  · simp [hnone]
  · simp [hnone]

/-- What is right modulo the size of a `size_t`, after every call, is right. -/
theorem counter_of_receivedBytes (es : List NetEvent)
    (h : ∀ before, before <+: es →
      (netAfter env before).receivedBytes c = (deliveredTo env c before).length) :
    ((netAfter env es).context c).receivedBytes = (deliveredTo env c es).length := by
  induction es using List.reverseRecOn with
  | nil => rfl
  | append_singleton es e ih =>
      have hlast := h _ (List.prefix_refl _)
      have hbefore := ih fun before hbefore => h before (hbefore.trans (List.prefix_append _ _))
      have hleft := length_inputBuffer_le env c es
      unfold receivedBytes at hlast
      rw [counter_concat, deliveredTo_concat, List.length_append, hbefore] at hlast ⊢
      -- What is left is less than the modulus, so it cannot vanish in it.
      by_cases hnone : delivered c (netAfter env es) e = []
      · simp only [if_pos hnone]
        omega
      · simp only [if_neg hnone] at hlast ⊢
        omega

/-- **`receivedBytes()` is what has arrived**, after every call, if and only if no bytes find
others in the buffer, and there are less than 2^64 of them. -/
theorem receivedBytes_iff (env : Environment) (c : ConnId) (es : List NetEvent) :
    (∀ before, before <+: es →
      (netAfter env before).receivedBytes c = (deliveredTo env c before).length) ↔
    Along (netStep env) (FindsNothing c) {} es ∧ (deliveredTo env c es).length < 2 ^ 64 := by
  rw [← counts_iff]
  constructor
  · intro h
    refine ⟨fun before hbefore => ?_, ?_⟩
    · exact counter_of_receivedBytes before fun early hearly => h early (hearly.trans hbefore)
    · rw [← h es (List.prefix_refl es)]
      exact Nat.mod_lt _ (by decide)
  · rintro ⟨h, hbound⟩ before ⟨after, rfl⟩
    rw [deliveredTo_append, List.length_append] at hbound
    rw [receivedBytes, h before (List.prefix_append _ _)]
    exact Nat.mod_eq_of_lt (by omega)

end Counting

/-- C0 arrives alone, and one byte of C1 behind it. -/
def splitC0C1 : List NetEvent := [.accept, .receive 0 [3], .receive 0 [0]]

/-- C0 is counted twice. -/
theorem counted_twice :
    (netAfter {} splitC0C1).receivedBytes 0 = 3 ∧ (deliveredTo {} 0 splitC0C1).length = 2 ∧
      ¬ ∀ before, before <+: splitC0C1 →
        (netAfter {} before).receivedBytes 0 = (deliveredTo {} 0 before).length := by
  have hthree : (netAfter {} splitC0C1).receivedBytes 0 = 3 := by decide
  have htwo : (deliveredTo {} 0 splitC0C1).length = 2 := by decide
  refine ⟨hthree, htwo, fun h => ?_⟩
  have hall := h splitC0C1 (List.prefix_refl _)
  rw [hthree, htwo] at hall
  cases hall

end RtmpServer

end Rmuduo.Rtmp
