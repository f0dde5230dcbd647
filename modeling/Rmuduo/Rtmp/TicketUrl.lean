/-
Ticket URLs: the login server writes them, the RTMP server reads them.

The login server joins app and stream name to a key and puts the ticket behind the stream name
of the URL; the handlers of publish and play take the raw name apart again and join the key
themselves. The two agree on the layout.

* `parseStreamTarget_ticketUrl` — the raw name of an issued URL is the stream name and the
  ticket.
* `makeStreamKey_eq_iff` — a key of the login server is the key of no other app and name.
* `ticket_authorizes_iff` — an unexpired ticket authorizes its own stream and no other.
-/

import Rmuduo.Auth.LoginServer
import Rmuduo.Rtmp.ServerRun

namespace Rmuduo.Rtmp

open Lib Auth Auth.LoginServer

/-! ### Reading an issued URL -/

section Reading

variable {streamName ticket : Bytes}

/-- A valid stream name holds no byte that the layout of URLs and keys uses. -/
theorem not_mem_of_valid (valid : isValidStreamName streamName = true) {b : UInt8}
    (hb : validByte b = false) : b ∉ streamName := by
  intro mem
  rw [List.all_eq_true.mp (of_decide_eq_true valid).2 b mem] at hb
  cases hb

theorem ne_nil_of_valid (valid : isValidStreamName streamName = true) : streamName ≠ [] :=
  (of_decide_eq_true valid).1

/-- A query of one `ticket=` parameter. -/
theorem parseTicket_single (digits : ∀ b ∈ ticket, isHexDigit b = true) (fuel : Nat)
    (initial : Bytes) :
    parseTicket (fuel + 1) (ascii "ticket=" ++ ticket) initial = ticket := by
  have hname : (ascii "ticket=").all (· ≠ 38) = true := by decide
  have hpart : (ascii "ticket=" ++ ticket).takeWhile (· ≠ 38) = ascii "ticket=" ++ ticket := by
    rw [List.takeWhile_eq_self_iff]
    intro b hb
    rcases List.mem_append.mp hb with hprefix | hticket
    · exact List.all_eq_true.mp hname b hprefix
    · rw [decide_eq_true_eq]
      rintro rfl
      exact absurd (digits 38 hticket) (by decide)
  unfold parseTicket
  rw [if_neg (by simp [ascii])]
  dsimp only
  rw [hpart, if_pos rfl, if_pos (by simp)]
  exact List.drop_left

theorem parseStreamTarget_url (valid : isValidStreamName streamName = true)
    (digits : ∀ b ∈ ticket, isHexDigit b = true) :
    parseStreamTarget (streamName ++ ascii "?ticket=" ++ ticket) =
      some { streamName := streamName, ticket := ticket } := by
  have hname : (streamName ++ ascii "?ticket=" ++ ticket).takeWhile (· ≠ 63) = streamName := by
    rw [List.append_assoc, List.takeWhile_append_of_pos]
    · simp [ascii]
    · intro b hb
      rw [decide_eq_true_eq]
      rintro rfl
      exact not_mem_of_valid valid (by decide) hb
  have hquery : (streamName ++ ascii "?ticket=" ++ ticket).drop (streamName.length + 1) =
      ascii "ticket=" ++ ticket := by
    rw [List.append_assoc, ← List.drop_drop, List.drop_left]
    rfl
  have hne : streamName.length ≠ 0 := fun h => ne_nil_of_valid valid (List.length_eq_zero_iff.mp h)
  unfold parseStreamTarget
  dsimp only
  rw [hname, hquery, if_neg (by simp [ascii]), if_neg (by simp [ascii]), if_neg hne]
  have hlength : (ascii "ticket=" ++ ticket).length = ticket.length + 6 + 1 := by
    simp [ascii]
  rw [hlength, parseTicket_single digits]

/-- What stands behind `/live/` in the URL of a ticket. -/
theorem behind_ticketUrl (t : RtmpTicket) (rtmpPort : UInt16) (streamName : Bytes) :
    behind (ascii "/live/") (ticketUrl t kRtmpHost rtmpPort kRtmpApp streamName) =
      some (streamName ++ ascii "?ticket=" ++ t.ticket) := by
  have hport : (47 : UInt8) ∉ ascii "127.0.0.1:" ++ decimal rtmpPort.toNat := by
    intro mem
    rcases List.mem_append.mp mem with hhost | hdigit
    · exact absurd hhost (by decide)
    · exact absurd (isdigit_decimal _ 47 hdigit) (by decide)
  have hurl : ticketUrl t kRtmpHost rtmpPort kRtmpApp streamName =
      ascii "rtmp:" ++ (47 :: 47 :: (ascii "127.0.0.1:" ++ decimal rtmpPort.toNat ++
        (ascii "/live/" ++ (streamName ++ ascii "?ticket=" ++ t.ticket)))) := by
    simp [ticketUrl, kRtmpHost, kRtmpApp, ascii]
  have hpattern : ascii "/live/" = 47 :: ascii "live/" := rfl
  rw [hurl, hpattern, behind_skip (by decide)]
  -- Neither of the two slashes in front of the host begins the text.
  rw [behind, if_neg (by simp [ascii]), behind, if_neg (by simp [ascii]), behind_skip hport]
  exact behind_pattern 47 (ascii "live/") _

/-- **The raw name of an issued URL** parses to the stream name and the ticket. -/
theorem parseStreamTarget_ticketUrl {t : RtmpTicket} (valid : isValidStreamName streamName = true)
    (digits : ∀ b ∈ t.ticket, isHexDigit b = true) (rtmpPort : UInt16) :
    (behind (ascii "/live/") (ticketUrl t kRtmpHost rtmpPort kRtmpApp streamName)).bind
      parseStreamTarget = some { streamName := streamName, ticket := t.ticket } := by
  rw [behind_ticketUrl]
  exact parseStreamTarget_url valid digits

end Reading

/-! ### Asking for a stream -/

/-- The key that the login server writes for a valid name is that of no other app and name. -/
theorem makeStreamKey_eq_iff {app name streamName : Bytes}
    (valid : isValidStreamName streamName = true) :
    makeStreamKey app name = LoginServer.makeStreamKey kRtmpApp streamName ↔
      app = kRtmpApp ∧ name = streamName := by
  have hslash : ∀ app name : Bytes, ascii "/" ++ app ++ ascii "/" ++ name =
      47 :: (app ++ 47 :: name) := by
    intro app name
    simp [ascii]
  unfold makeStreamKey LoginServer.makeStreamKey
  rw [hslash, hslash, List.cons_inj_right]
  exact join_inj (by decide) (not_mem_of_valid valid (by decide))

/-- The command asks, on the stream of the context, for the raw name. -/
structure Asks (context : RtmpConnectionContext) (command : RtmpCommandMessage)
    (rawName : Bytes) : Prop where
  created : context.streamId ≠ 0
  stream : command.messageStreamId = context.streamId
  name : ∃ rest, command.arguments = .string rawName :: rest

/-- The ticket manager grants what the command asks for. -/
def Authorized (m : RtmpTicketManager) (now : Int) (publish : Bool)
    (context : RtmpConnectionContext) (command : RtmpCommandMessage) : Prop :=
  ∃ streamKey ticket, RtmpServer.requestedKey context command = some (streamKey, ticket) ∧
    (authCallback m now streamKey ticket publish).2 = true

section Asking

variable {context : RtmpConnectionContext} {command : RtmpCommandMessage} {rawName : Bytes}
  {target : StreamTarget} {ttlSeconds : Int} {m : RtmpTicketManager} {history : List Creation}
  {last now : Int}

/-- With the callback of the login server, the handlers ask the ticket manager. -/
theorem authorized_iff_allows {env : Environment} {s : RtmpServer} {c : ConnId}
    {callback : Nat → Bytes → Bytes → Bool → Bool} (installed : env.authCallback = some callback)
    {publish : Bool} (answers : ∀ streamKey ticket, callback s.authCalls streamKey ticket publish =
      (authCallback m now streamKey ticket publish).2) :
    Authorized m now publish (s.context c) command ↔
      ∃ streamKey ticket, RtmpServer.requestedKey (s.context c) command = some (streamKey, ticket) ∧
        RtmpServer.allows env s streamKey ticket publish = true := by
  unfold Authorized RtmpServer.allows
  rw [installed]
  simp only [answers]

theorem requestedTarget_of_asks (asks : Asks context command rawName) :
    RtmpServer.requestedTarget context command = parseStreamTarget rawName := by
  obtain ⟨rest, hrest⟩ := asks.name
  unfold RtmpServer.requestedTarget
  rw [if_neg asks.created, if_neg (not_not_intro asks.stream), hrest]
  rfl

/-- What a command that asks for a target asks for: nothing while there is no app, or the key of
the app and the name. -/
theorem requestedKey_of_asks (asks : Asks context command rawName)
    (parsed : parseStreamTarget rawName = some target) {streamKey ticket : Bytes} :
    RtmpServer.requestedKey context command = some (streamKey, ticket) ↔
      context.app ≠ [] ∧ streamKey = makeStreamKey context.app target.streamName ∧
        ticket = target.ticket := by
  have hname := parseStreamTarget_name parsed
  unfold RtmpServer.requestedKey RtmpConnectionContext.streamKey
  rw [requestedTarget_of_asks asks, parsed]
  dsimp only
  by_cases happ : context.app = []
  · simp [happ]
  · have hkey : makeStreamKey context.app target.streamName ≠ [] := by
      simp [makeStreamKey, ascii]
    rw [if_neg (not_or.mpr ⟨happ, hname⟩), if_neg hkey]
    simp [happ, eq_comm]

/-- The callback grants what a verification returns. -/
theorem authCallback_grants {streamKey ticket : Bytes} {publish : Bool} :
    (authCallback m now streamKey ticket publish).2 = true ↔
      ∃ t, (m.verify now ticket streamKey publish).2 = some t := by
  unfold authCallback RtmpTicketManager.verifyPublish RtmpTicketManager.verifyPlay
  cases publish with
  | true => exact Option.isSome_iff_exists
  | false => exact Option.isSome_iff_exists

/-- **Tickets authorize exactly the issued stream**: while a ticket of the login server is
unexpired and permits the action, presenting it authorizes the action for the app `live` and the
stream name that it was issued for, and for nothing else; and the raw name of the issued URL
parses to that name and the ticket. -/
theorem ticket_authorizes_iff (h : Reached ttlSeconds m history last) {c : Creation}
    (mem : c ∈ history) {streamName : Bytes} (issued : IssuedFor streamName c) :
    (∀ now publish context command rawName target, last ≤ now →
      now < (c.issued ttlSeconds).expireAt → c.permission.Includes publish →
      Asks context command rawName → parseStreamTarget rawName = some target →
      target.ticket = c.ticket →
      (Authorized m now publish context command ↔
        context.app = kRtmpApp ∧ target.streamName = streamName)) ∧
    ∀ rtmpPort, (behind (ascii "/live/")
        (ticketUrl (c.issued ttlSeconds) kRtmpHost rtmpPort kRtmpApp streamName)).bind
      parseStreamTarget = some { streamName := streamName, ticket := c.ticket } := by
  refine ⟨?_, fun rtmpPort =>
    parseStreamTarget_ticketUrl issued.valid (reached_digits h mem) rtmpPort⟩
  intro now publish context command rawName target later unexpired permits asks parsed presents
  have hrecent := mostRecent_of_unexpired h mem (lt_of_le_of_lt later unexpired)
  constructor
  · rintro ⟨streamKey, ticket, hrequested, hgranted⟩
    obtain ⟨-, rfl, rfl⟩ := (requestedKey_of_asks asks parsed).mp hrequested
    obtain ⟨t, hverified⟩ := authCallback_grants.mp hgranted
    obtain ⟨c', hc', hkey, -⟩ := (verify_iff h later ..).mp hverified
    rw [presents, hrecent] at hc'
    cases hc'
    rw [issued.key] at hkey
    exact (makeStreamKey_eq_iff issued.valid).mp hkey.symm
  · rintro ⟨happ, hname⟩
    have hne : context.app ≠ [] := by
      rw [happ]
      decide
    refine ⟨_, _, (requestedKey_of_asks asks parsed).mpr ⟨hne, rfl, rfl⟩,
      authCallback_grants.mpr ⟨c.issued ttlSeconds, (verify_iff h later ..).mpr
        ⟨c, ?_, ?_, permits, unexpired, rfl⟩⟩⟩
    · rw [presents]
      exact hrecent
    · rw [issued.key]
      exact ((makeStreamKey_eq_iff issued.valid).mpr ⟨happ, hname⟩).symm

/-- A publish of `a` with the first ticket of a manager. -/
def firstPublish : RtmpCommandMessage where
  name := ascii "publish"
  transactionId := 0
  messageStreamId := 1
  commandObject := .null
  arguments := [.string (ascii "a" ++ ascii "?ticket=" ++ firstTicket.2.ticket)]

theorem firstTicket_issued : IssuedFor (ascii "a")
    ⟨0, {}, ascii "/live/a", .kPublish, firstTicket.2.ticket⟩ where
  valid := by decide
  key := by decide
  permitted := by decide

theorem firstTicket_authorizes :
    Authorized firstTicket.1 299 true { app := ascii "live", streamId := 1 } firstPublish :=
  have digits := reached_digits reached_firstTicket (List.mem_singleton.mpr rfl)
  ((ticket_authorizes_iff reached_firstTicket (List.mem_singleton.mpr rfl) firstTicket_issued).1
    299 true { app := ascii "live", streamId := 1 } firstPublish _ _ (by decide) (by decide)
    (.inr rfl) ⟨by decide, rfl, ⟨[], rfl⟩⟩ (parseStreamTarget_url firstTicket_issued.valid digits)
    rfl).mpr ⟨rfl, rfl⟩

end Asking

end Rmuduo.Rtmp
