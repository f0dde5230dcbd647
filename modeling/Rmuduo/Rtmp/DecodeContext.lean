/-
The sequence header under which a player decodes a frame.

A decoder reads an AVC frame with the parameters of the AVC sequence header that it got
last. Live, a player gets headers and frames in the order of the publisher. The replay
begins with the header that is cached, which may be younger than cached frames.

* `decodeContexts` — the AVC frames of a stream, each with the header before it.
* `SteadyHeader` — since the last key frame, every AVC frame has come under the header that
  is still the latest one.
* `decodeContexts_backlog_iff` — exactly then the replay and the live stream after it give
  every frame the header that it had in the order of the publisher.
* `decodeContexts_delivered_iff` — what a player gets from an accepted play on, while the session
  keeps its publisher.
-/

import Rmuduo.Rtmp.LateJoin

namespace Rmuduo.Rtmp

open Lib

/-- A video frame of codec 7 that is no sequence header. -/
def Media.isAvcFrame (media : Media) : Bool :=
  media.message.typeId = kMessageTypeVideo ∧ 0 < media.message.payload.length ∧
    byteAt media.message.payload 0 &&& 0x0F = 7 ∧ media.isAvcHeader = false

/-- The AVC frames of a stream, in order, each with the last AVC sequence header before it. -/
def decodeContexts (stream : List Media) : List (Option Media × Media) :=
  inContext Media.isAvcHeader Media.isAvcFrame none stream

/-- Every AVC frame from the last key frame on has come under the sequence header that is the
latest one now. -/
def SteadyHeader (history : List Media) : Prop :=
  ∀ before frame after, history = before ++ frame :: after → frame.isAvcFrame = true →
    frame :: after <:+ fromLast Media.isKeyFrame history →
    latest Media.isAvcHeader before = latest Media.isAvcHeader history

theorem Media.isFrame_of_isAvcFrame {media : Media} (h : media.isAvcFrame = true) :
    media.isFrame = true := by
  obtain ⟨hvideo, -, -, havc⟩ := of_decide_eq_true h
  have haac : media.isAacHeader = false := isAacHeader_of_typeId (by rw [hvideo]; decide)
  exact decide_eq_true ⟨.inr hvideo, haac, havc⟩

theorem Media.isAvcHeader_of_isFrame {media : Media} (h : media.isFrame = true) :
    media.isAvcHeader = false :=
  (of_decide_eq_true h).2.2

section Backlog

variable {history : List Media}

/-- The messages that a replay sends before the frames. -/
def preamble (history : List Media) : List Media :=
  (latest Media.isData history).toList ++ (latest Media.isAacHeader history).toList ++
    (latest Media.isAvcHeader history).toList

theorem backlog_eq : backlog history =
    preamble history ++ (fromLast Media.isKeyFrame history).filter Media.isFrame := by
  rw [backlog, preamble, fromLast_filter fun _ => Media.isFrame_of_isKeyFrame]

/-- The preamble holds no frame. -/
theorem isFrame_of_mem_preamble {media : Media} (h : media ∈ preamble history) :
    media.isFrame = false := by
  rcases List.mem_append.mp h with h | h
  · rcases List.mem_append.mp h with h | h
    · exact (Media.of_isData (latest_meets (Option.mem_toList.mp h))).2.2
    · exact (Media.of_isAacHeader (latest_meets (Option.mem_toList.mp h))).2
  · exact Media.of_isAvcHeader (latest_meets (Option.mem_toList.mp h))

theorem inContext_preamble {context : Option Media} :
    inContext Media.isAvcHeader Media.isAvcFrame context (preamble history) = [] := by
  have hnone : (preamble history).filter Media.isAvcFrame = [] := by
    refine List.filter_eq_nil_iff.mpr fun media hmedia hframe => ?_
    have hother := isFrame_of_mem_preamble hmedia
    rw [Media.isFrame_of_isAvcFrame hframe] at hother
    cases hother
  rw [← inContext_map_snd Media.isAvcHeader _ context, List.map_eq_nil_iff] at hnone
  exact hnone

/-- The header in the preamble is the latest one. -/
theorem latest_preamble : latest Media.isAvcHeader (preamble history) =
    latest Media.isAvcHeader history := by
  have hother : latest Media.isAvcHeader ((latest Media.isData history).toList ++
      (latest Media.isAacHeader history).toList) = none := by
    refine latest_eq_none.mpr fun media h => ?_
    rcases List.mem_append.mp h with h | h
    · exact (Media.of_isData (latest_meets (Option.mem_toList.mp h))).2.1
    · exact (Media.of_isAacHeader (latest_meets (Option.mem_toList.mp h))).1
  rw [preamble, latest_append, latest_toList, hother, Option.or_none]

/-- The AVC frames of the history from the last key frame on, which are those that are
replayed. -/
def cachedFrames (history : List Media) : List Media :=
  (fromLast Media.isKeyFrame history).filter Media.isAvcFrame

/-- The replay puts every cached frame under the latest header, and the live stream goes on
under it. -/
theorem decodeContexts_backlog (live : List Media) : decodeContexts (backlog history ++ live) =
    (cachedFrames history).map (fun frame => (latest Media.isAvcHeader history, frame)) ++
      inContext Media.isAvcHeader Media.isAvcFrame (latest Media.isAvcHeader history) live := by
  have hnone : ∀ media ∈ (fromLast Media.isKeyFrame history).filter Media.isFrame,
      media.isAvcHeader = false := fun media h =>
    Media.isAvcHeader_of_isFrame (List.mem_filter.mp h).2
  have hframes : ((fromLast Media.isKeyFrame history).filter Media.isFrame).filter
      Media.isAvcFrame = cachedFrames history := by
    rw [List.filter_filter, cachedFrames]
    refine List.filter_congr fun media _ => ?_
    cases h : media.isAvcFrame with
    | false => rfl
    | true => rw [Media.isFrame_of_isAvcFrame h]; rfl
  rw [decodeContexts, backlog_eq, inContext_append, inContext_append, inContext_preamble,
    inContext_of_none hnone, hframes, latest_append, latest_eq_none.mpr hnone, latest_preamble]
  simp

/-- **Replay keeps the context exactly under a steady header.** -/
theorem decodeContexts_backlog_iff (live : List Media) :
    decodeContexts (backlog history ++ live) <:+ decodeContexts (history ++ live) ↔
      SteadyHeader history := by
  obtain ⟨earlier, hearlier⟩ := fromLast_suffix Media.isKeyFrame history
  have hlength : ((cachedFrames history).map fun frame =>
        (latest Media.isAvcHeader history, frame)).length =
      (inContext Media.isAvcHeader Media.isAvcFrame (latest Media.isAvcHeader earlier)
        (fromLast Media.isKeyFrame history)).length := by
    rw [List.length_map, cachedFrames,
      ← inContext_map_snd Media.isAvcHeader _ (latest Media.isAvcHeader earlier), List.length_map]
  have hpublished : decodeContexts history = decodeContexts earlier ++
      inContext Media.isAvcHeader Media.isAvcFrame (latest Media.isAvcHeader earlier)
        (fromLast Media.isKeyFrame history) := by
    conv_lhs => rw [← hearlier]
    rw [decodeContexts, inContext_append, Option.or_none]
    rfl
  have hlive : decodeContexts (history ++ live) = decodeContexts history ++
      inContext Media.isAvcHeader Media.isAvcFrame (latest Media.isAvcHeader history) live := by
    rw [decodeContexts, inContext_append, Option.or_none]
    rfl
  -- The live frames keep their context, so the cached ones decide.
  rw [decodeContexts_backlog, hlive, List.suffix_append_self_iff, hpublished,
    ← List.nil_append (List.map _ _), List.suffix_append_inj_of_length_eq hlength,
    cachedFrames, inContext_eq_const]
  simp only [List.nil_suffix, true_and]
  constructor
  · intro h before frame after hhistory hframe hsuffix
    obtain ⟨between, hgop⟩ := hsuffix
    have hsplit : before ++ frame :: after = (earlier ++ between) ++ frame :: after := by
      rw [← hhistory, List.append_assoc, hgop, hearlier]
    have hbefore := List.append_cancel_right hsplit
    have hentry := h _ (mem_inContext.mpr ⟨between, after, hgop.symm, hframe, rfl⟩)
    rw [hbefore, latest_append]
    exact hentry
  · rintro steady ⟨context, frame⟩ hentry
    obtain ⟨between, after, hgop, hframe, rfl⟩ := mem_inContext.mp hentry
    have hhistory : history = (earlier ++ between) ++ frame :: after := by
      rw [List.append_assoc, ← hgop, hearlier]
    rw [← latest_append]
    exact steady _ _ _ hhistory hframe ⟨between, hgop.symm⟩

/-- Whatever their context, the AVC frames delivered are the last ones published. -/
theorem decodeContexts_backlog_frames (history live : List Media) :
    (decodeContexts (backlog history ++ live)).map Prod.snd <:+
      (decodeContexts (history ++ live)).map Prod.snd := by
  obtain ⟨earlier, hearlier⟩ := fromLast_suffix Media.isKeyFrame history
  refine ⟨earlier.filter Media.isAvcFrame, ?_⟩
  rw [decodeContexts_backlog, decodeContexts, inContext_map_snd, List.map_append, List.map_map,
    inContext_map_snd, cachedFrames, List.filter_append]
  conv_rhs => rw [← hearlier]
  simp [Function.comp_def]

end Backlog

/-! ### Every run -/

namespace RtmpServer

/-- What a session sends to `q` in the events `fs` after a run. -/
def deliveredIn (env : Environment) (es fs : List Event) (q : ConnId) (sid : SessionId) :
    List Media :=
  (sentTo q sid (after env (es ++ fs)).log).drop (sentTo q sid (after env es).log).length

/-- From an accepted play of `q` on, as long as `q` stays connected and sends no command, the AVC
frames that it gets stand under the sequence headers that they had in the order of the session if
and only if no AVC frame of the replay had another header than the latest one at the play. -/
theorem decodeContexts_since_play_iff (env : Environment) (es : List Event) {fs : List Event}
    {q : ConnId} {sid : SessionId} {session : RtmpSession} {message : RtmpMessage}
    {command : RtmpCommandMessage} {streamKey : Bytes}
    (hcommand : commandOf message = some command) (hname : command.name = ascii "play")
    (accepted : Plays env (after env es) q command streamKey)
    (hkey : (after env es).sessions streamKey = some sid)
    (hsession : (after env es).heap sid = some session)
    (connected : (after env es).connected q = true)
    (listens : System.Along (step env) (Listens q) (after env (es ++ [.message q message])) fs) :
    decodeContexts (deliveredIn env es (.message q message :: fs) q sid) <:+
        decodeContexts (acceptedSince env es sid ++
          System.collect (step env) (acceptedIn sid) (after env (es ++ [.message q message])) fs) ↔
      SteadyHeader (acceptedSince env es sid) := by
  have hcached := RtmpSession.cachedMessages_eq_backlog (caches_after es hsession)
  rw [deliveredIn, sentTo_since_play env es hcommand hname accepted hkey hsession connected listens,
    List.drop_left, hcached]
  exact decodeContexts_backlog_iff _

/-- **When a replay preserves the decode context.** From an accepted play of `q` on a session with a
publisher, as long as the session keeps it and `q` stays connected and sends no command, the AVC
frames that `q` gets stand under the sequence headers that they had in the order of the publisher if
and only if no AVC frame of the replay had another header than the latest one at the play. -/
theorem decodeContexts_delivered_iff (env : Environment) (es fs : List Event) {q : ConnId}
    {sid : SessionId} {session : RtmpSession} {message : RtmpMessage}
    {command : RtmpCommandMessage} {streamKey : Bytes}
    (hcommand : commandOf message = some command) (hname : command.name = ascii "play")
    (accepted : Plays env (after env es) q command streamKey)
    (hkey : (after env es).sessions streamKey = some sid)
    (hsession : (after env es).heap sid = some session) (hpublisher : session.publisher ≠ none)
    (connected : (after env es).connected q = true)
    (listens : System.Along (step env) (Listens q) (after env (es ++ [.message q message])) fs)
    (published : System.Along (step env) (fun s _ => s.publisherOf sid ≠ none)
      (after env (es ++ [.message q message])) fs) :
    decodeContexts (deliveredIn env es (.message q message :: fs) q sid) <:+
        decodeContexts (acceptedSince env (es ++ .message q message :: fs) sid) ↔
      SteadyHeader (acceptedSince env es sid) := by
  have hafter := after_concat env es (.message q message)
  have hslot : (after env es).publisherOf sid ≠ none := by
    rw [publisherOf, hsession]
    exact hpublisher
  have hkept : System.Along (step env) (fun s _ => s.publisherOf sid ≠ none) (after env es)
      (.message q message :: fs) := ⟨hslot, hafter ▸ published⟩
  have hnone : acceptedIn sid (after env es) (.message q message) = [] := by
    refine if_neg fun hmedia => ?_
    rw [commandOf_of_isMedia hmedia.2.1] at hcommand
    cases hcommand
  have horder : acceptedSince env (es ++ .message q message :: fs) sid =
      acceptedSince env es sid ++
        System.collect (step env) (acceptedIn sid) (after env (es ++ [.message q message])) fs := by
    rw [acceptedSince_append es hkept, System.collect, hnone, List.nil_append,
      hafter]
  rw [horder]
  exact decodeContexts_since_play_iff env es hcommand hname accepted hkey hsession connected listens

theorem decodeContexts_delivered_oneGop : SteadyHeader (acceptedSince {} oneGop 0) := by
  obtain ⟨command, session, hcommand, hname, accepted, hsession, hpublisher⟩ := oneGop_plays
  have published : System.Along (step {}) (fun s _ => s.publisherOf 0 ≠ none)
      (after {} (oneGop ++ [.message 1 playing])) [.message 0 (Client.video 1 [0x27, 1, 9])] :=
    ⟨by decide +kernel, trivial⟩
  exact (decodeContexts_delivered_iff {} oneGop _ hcommand hname accepted (by decide +kernel)
    hsession (by simp [hpublisher]) (by decide +kernel) oneGop_listens published).mp
      (by decide +kernel)

/-- A header, a key frame, another header and a frame. -/
def newHeader : List Event := broadcasting [[0x17, 0, 1], [0x17, 1], [0x17, 0, 2], [0x27, 1]]

/-- A new header in the middle of a GOP: a player that joins then gets the key frame under the
new header, though it was published under the old one. -/
theorem decodeContexts_delivered_newHeader :
    acceptedSince {} newHeader 0 = [⟨0, Client.video 1 [0x17, 0, 1]⟩,
      ⟨0, Client.video 1 [0x17, 1]⟩, ⟨0, Client.video 1 [0x17, 0, 2]⟩,
      ⟨0, Client.video 1 [0x27, 1]⟩] ∧
    deliveredIn {} newHeader [.message 1 playing] 1 0 = [⟨0, Client.video 1 [0x17, 0, 2]⟩,
      ⟨0, Client.video 1 [0x17, 1]⟩, ⟨0, Client.video 1 [0x27, 1]⟩] ∧
    ¬ decodeContexts (deliveredIn {} newHeader [.message 1 playing] 1 0) <:+
      decodeContexts (acceptedSince {} newHeader 0) := by
  decide +kernel

end RtmpServer

end Rmuduo.Rtmp
