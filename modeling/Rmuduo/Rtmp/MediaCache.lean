/-
What a session has cached, as a function of what it has accepted.

* `Caches.of` — the caches that a history of accepted messages leaves: the latest data
  message, the latest AAC and AVC sequence headers, and the frames from the most recent
  key frame on.
* `caches_cacheMediaMessage` — one more message extends the history.
* `backlog` — what a player gets of the history when it joins.
-/

import Rmuduo.Lib.Recent
import Rmuduo.Rtmp.Session

namespace Rmuduo.Rtmp

open Lib

/-! ### Kinds of media -/

namespace Media

def isData (media : Media) : Bool := media.message.typeId = kMessageTypeDataAmf0

def isAacHeader (media : Media) : Bool := isAacSequenceHeader media.message

def isAvcHeader (media : Media) : Bool := isAvcSequenceHeader media.message

/-- An audio or video message that is no such sequence header. -/
def isFrame (media : Media) : Bool :=
  (media.message.typeId = kMessageTypeAudio ∨ media.message.typeId = kMessageTypeVideo) ∧
    media.isAacHeader = false ∧ media.isAvcHeader = false

/-- A video key frame that is no sequence header. -/
def isKeyFrame (media : Media) : Bool := isVideoKeyFrame media.message && !media.isAvcHeader

variable {media : Media}

theorem isData_iff : media.isData = true ↔ media.message.typeId = kMessageTypeDataAmf0 :=
  decide_eq_true_iff

theorem typeId_of_isAacHeader (h : media.isAacHeader = true) :
    media.message.typeId = kMessageTypeAudio := by
  unfold isAacHeader isAacSequenceHeader at h
  by_contra hne
  simp [hne] at h

theorem typeId_of_isAvcHeader (h : media.isAvcHeader = true) :
    media.message.typeId = kMessageTypeVideo := by
  unfold isAvcHeader isAvcSequenceHeader at h
  by_contra hne
  simp [hne] at h

theorem typeId_of_isVideoKeyFrame (h : isVideoKeyFrame media.message = true) :
    media.message.typeId = kMessageTypeVideo := by
  unfold isVideoKeyFrame at h
  by_contra hne
  simp [hne] at h

/-- What has another type is of another kind. -/
theorem isAacHeader_of_typeId (h : media.message.typeId ≠ kMessageTypeAudio) :
    media.isAacHeader = false :=
  Bool.eq_false_iff.mpr fun hheader => h (typeId_of_isAacHeader hheader)

theorem isAvcHeader_of_typeId (h : media.message.typeId ≠ kMessageTypeVideo) :
    media.isAvcHeader = false :=
  Bool.eq_false_iff.mpr fun hheader => h (typeId_of_isAvcHeader hheader)

theorem typeId_of_isFrame (h : media.isFrame = true) :
    media.message.typeId = kMessageTypeAudio ∨ media.message.typeId = kMessageTypeVideo :=
  (of_decide_eq_true h).1

/-- A key frame is a frame. -/
theorem isFrame_of_isKeyFrame (h : media.isKeyFrame = true) : media.isFrame = true := by
  obtain ⟨hkey, havc⟩ := Bool.and_eq_true_iff.mp h
  have hvideo := typeId_of_isVideoKeyFrame hkey
  have haac : media.isAacHeader = false := isAacHeader_of_typeId (by rw [hvideo]; decide)
  exact decide_eq_true ⟨.inr hvideo, haac, Bool.not_eq_eq_eq_not.mp havc⟩

theorem isKeyFrame_of_not_isFrame (h : media.isFrame = false) : media.isKeyFrame = false :=
  Bool.eq_false_iff.mpr fun hkey => by simp [isFrame_of_isKeyFrame hkey] at h

/-- A data message is nothing else. -/
theorem of_isData (h : media.isData = true) :
    media.isAacHeader = false ∧ media.isAvcHeader = false ∧ media.isFrame = false := by
  have hdata : media.message.typeId = kMessageTypeDataAmf0 := isData_iff.mp h
  refine ⟨isAacHeader_of_typeId (by rw [hdata]; decide),
    isAvcHeader_of_typeId (by rw [hdata]; decide), Bool.eq_false_iff.mpr fun hframe => ?_⟩
  rcases typeId_of_isFrame hframe with htype | htype <;> rw [hdata] at htype <;> cases htype

/-- An AAC sequence header is no AVC sequence header and no frame. -/
theorem of_isAacHeader (h : media.isAacHeader = true) :
    media.isAvcHeader = false ∧ media.isFrame = false :=
  ⟨isAvcHeader_of_typeId (by rw [typeId_of_isAacHeader h]; decide), by simp [isFrame, h]⟩

theorem of_isAvcHeader (h : media.isAvcHeader = true) : media.isFrame = false := by
  simp [isFrame, h]

end Media

/-! ### The caches -/

/-- The caches of a session. -/
structure Caches where
  metadata : Option Media
  audioSequenceHeader : Option Media
  videoSequenceHeader : Option Media
  gopCache : List Media
  gopStarted : Bool
deriving DecidableEq

/-- The caches that a history of accepted messages leaves. -/
def Caches.of (history : List Media) : Caches where
  metadata := latest Media.isData history
  audioSequenceHeader := latest Media.isAacHeader history
  videoSequenceHeader := latest Media.isAvcHeader history
  gopCache := fromLast Media.isKeyFrame (history.filter Media.isFrame)
  gopStarted := (history.filter Media.isFrame).any Media.isKeyFrame

/-- What one more message makes of the caches. -/
theorem Caches.of_concat (history : List Media) (media : Media) :
    Caches.of (history ++ [media]) =
      let old := Caches.of history
      { metadata := if media.isData then some media else old.metadata
        audioSequenceHeader := if media.isAacHeader then some media else old.audioSequenceHeader
        videoSequenceHeader := if media.isAvcHeader then some media else old.videoSequenceHeader
        gopCache :=
          if media.isKeyFrame then [media]
          else if media.isFrame && old.gopStarted then old.gopCache ++ [media]
          else old.gopCache
        gopStarted := old.gopStarted || media.isKeyFrame } := by
  simp only [Caches.of, latest_concat, List.filter_append, Caches.mk.injEq, true_and]
  cases hframe : media.isFrame with
  | false => simp [hframe, Media.isKeyFrame_of_not_isFrame hframe]
  | true =>
      rw [List.filter_cons_of_pos hframe, List.filter_nil, fromLast_concat]
      by_cases hstarted : (history.filter Media.isFrame).any Media.isKeyFrame = true
      · simp [hstarted]
      · have hstarted := Bool.eq_false_iff.mpr hstarted
        simp [hstarted, fromLast_of_none hstarted]

/-- What a player gets of a history when it joins: the latest data message and sequence
headers, then the frames from the most recent key frame on. -/
def backlog (history : List Media) : List Media :=
  (latest Media.isData history).toList ++ (latest Media.isAacHeader history).toList ++
    (latest Media.isAvcHeader history).toList ++
    fromLast Media.isKeyFrame (history.filter Media.isFrame)

/-- A message that is cached whatever comes before it: a data message, a sequence header or a
key frame. -/
def Media.isKept (media : Media) : Bool :=
  media.isData || media.isAacHeader || media.isAvcHeader || media.isKeyFrame

/-- Nothing else is in the backlog than what was in the history. -/
theorem mem_of_mem_backlog {history : List Media} {media : Media} (h : media ∈ backlog history) :
    media ∈ history := by
  simp only [backlog, List.mem_append, Option.mem_toList] at h
  rcases h with ((hdata | haac) | havc) | hframe
  · exact latest_mem hdata
  · exact latest_mem haac
  · exact latest_mem havc
  · exact List.mem_of_mem_filter ((fromLast_suffix _ _).subset hframe)

/-- The backlog is empty as long as nothing has come that is kept. -/
theorem backlog_eq_nil {history : List Media} :
    backlog history = [] ↔ ∀ media ∈ history, media.isKept = false := by
  have hframes : fromLast Media.isKeyFrame (history.filter Media.isFrame) = [] ↔
      ∀ media ∈ history, media.isKeyFrame = false := by
    rw [fromLast_eq_nil]
    constructor
    · intro h media hmedia
      cases hframe : media.isFrame with
      | true => exact h media (List.mem_filter.mpr ⟨hmedia, hframe⟩)
      | false => exact Media.isKeyFrame_of_not_isFrame hframe
    · intro h media hmedia
      exact h media (List.mem_of_mem_filter hmedia)
  simp only [backlog, List.append_eq_nil_iff, Option.toList_eq_nil_iff, latest_eq_none, hframes,
    Media.isKept, Bool.or_eq_false_iff]
  constructor
  · intro h media hmedia
    exact ⟨⟨⟨h.1.1.1 media hmedia, h.1.1.2 media hmedia⟩, h.1.2 media hmedia⟩, h.2 media hmedia⟩
  · intro h
    exact ⟨⟨⟨fun media hmedia => (h media hmedia).1.1.1,
      fun media hmedia => (h media hmedia).1.1.2⟩,
      fun media hmedia => (h media hmedia).1.2⟩, fun media hmedia => (h media hmedia).2⟩

namespace RtmpSession

def caches (s : RtmpSession) : Caches where
  metadata := s.metadata
  audioSequenceHeader := s.audioSequenceHeader
  videoSequenceHeader := s.videoSequenceHeader
  gopCache := s.gopCache
  gopStarted := s.gopStarted

theorem cachedMessages_eq_backlog {s : RtmpSession} {history : List Media}
    (h : s.caches = .of history) : s.cachedMessages = backlog history := by
  obtain ⟨hmetadata, haudio, hvideo, hgop, -⟩ := Caches.mk.inj h
  rw [cachedMessages, backlog, hmetadata, haudio, hvideo, hgop]

/-- What is cached, by the kind of the message. -/
theorem cacheMediaMessage_eq (s : RtmpSession) (media : Media) : s.cacheMediaMessage media =
    if media.isData then { s with metadata := some media }
    else if media.isAacHeader then { s with audioSequenceHeader := some media }
    else if media.isAvcHeader then { s with videoSequenceHeader := some media }
    else if media.isKeyFrame then { s with gopCache := [media], gopStarted := true }
    else if media.isFrame && s.gopStarted then { s with gopCache := s.gopCache ++ [media] }
    else s := by
  unfold cacheMediaMessage
  dsimp only
  rw [show isAacSequenceHeader media.message = media.isAacHeader from rfl,
    show isAvcSequenceHeader media.message = media.isAvcHeader from rfl]
  by_cases hdata : media.message.typeId = kMessageTypeDataAmf0
  · rw [if_pos hdata, if_pos (Media.isData_iff.mpr hdata)]
  rw [if_neg hdata, if_neg (mt Media.isData_iff.mp hdata)]
  by_cases haac : media.isAacHeader = true
  · rw [if_pos haac, if_pos haac]
  rw [if_neg haac, if_neg haac]
  by_cases havc : media.isAvcHeader = true
  · rw [if_pos havc, if_pos havc]
  rw [if_neg havc, if_neg havc]
  -- What is left is a frame, or of no type that the session knows.
  have hframe : media.isFrame = true ↔
      media.message.typeId = kMessageTypeAudio ∨ media.message.typeId = kMessageTypeVideo := by
    simp [Media.isFrame, haac, havc]
  have hkey : media.isKeyFrame = isVideoKeyFrame media.message := by
    simp [Media.isKeyFrame, havc]
  rw [hkey]
  by_cases hvideo : isVideoKeyFrame media.message = true
  · have htype := Media.typeId_of_isVideoKeyFrame hvideo
    simp [hvideo, htype]
  · cases hstarted : s.gopStarted with
    | false => simp [hvideo, hstarted]
    | true => simp [hvideo, hstarted, hframe]

/-- One more message extends the history. -/
theorem caches_cacheMediaMessage {s : RtmpSession} {history : List Media}
    (h : s.caches = .of history) (media : Media) :
    (s.cacheMediaMessage media).caches = .of (history ++ [media]) := by
  rw [Caches.of_concat, ← h, cacheMediaMessage_eq]
  cases hdata : media.isData with
  | true =>
      obtain ⟨haac, havc, hframe⟩ := Media.of_isData hdata
      simp [caches, haac, havc, hframe, Media.isKeyFrame_of_not_isFrame hframe]
  | false =>
    cases haac : media.isAacHeader with
    | true =>
        obtain ⟨havc, hframe⟩ := Media.of_isAacHeader haac
        simp [caches, havc, hframe, Media.isKeyFrame_of_not_isFrame hframe]
    | false =>
      cases havc : media.isAvcHeader with
      | true =>
          have hframe := Media.of_isAvcHeader havc
          simp [caches, hframe, Media.isKeyFrame_of_not_isFrame hframe]
      | false =>
        cases hkey : media.isKeyFrame with
        | true => simp [caches]
        | false =>
          cases hframe : media.isFrame && s.gopStarted <;>
            simp only [caches, hframe, Bool.or_false] <;> rfl

@[simp] theorem caches_addPlayer (s : RtmpSession) (c : ConnId) :
    (s.addPlayer c).caches = s.caches := by
  unfold addPlayer
  split <;> rfl

@[simp] theorem caches_removePlayer (s : RtmpSession) (c : ConnId) :
    (s.removePlayer c).caches = s.caches := rfl

@[simp] theorem caches_clearPublisher (s : RtmpSession) (c : ConnId) :
    (s.clearPublisher c).caches = s.caches := by
  unfold clearPublisher
  split <;> rfl

/-- A publisher that fills the empty slot finds empty caches. -/
theorem caches_setPublisher_of_none {s : RtmpSession} (h : s.publisher = none) (c : ConnId) :
    (s.setPublisher c).1.caches = .of [] := by
  simp [setPublisher, h, caches, Caches.of]

/-- Otherwise the caches stay. -/
theorem caches_setPublisher_of_some {s : RtmpSession} (h : s.publisher ≠ none) (c : ConnId) :
    (s.setPublisher c).1.caches = s.caches := by
  unfold setPublisher
  by_cases hc : s.publisher = some c
  · simp [hc, caches]
  · rw [if_pos ⟨h, hc⟩]

end RtmpSession

end Rmuduo.Rtmp
