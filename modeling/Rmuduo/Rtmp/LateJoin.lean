/-
What a player gets from the moment it joins.

* `sentTo` — the media messages that a session has sent to a connection.
* `sentTo_play` — an accepted play sends what the session has cached.
* `sentTo_live` — as long as the player stays and sends no command, it is sent every
  message that the session accepts, once and in order.
* `sentTo_since_play`, `late_joiner` — so a player gets the backlog of the history and then
  the live stream.
-/

import Rmuduo.Rtmp.MediaFlow

namespace Rmuduo.Rtmp.RtmpServer

open Lib

/-! ### What a session sends to a connection -/

/-- The media message of an action by which a session sends it to `q`. -/
def mediaTo (q : ConnId) (sid : SessionId) : Action → Option Media
  | .media receiver session media _ => if receiver = q ∧ session = sid then some media else none
  | .send _ _ => none
  | .authorize _ _ _ _ _ => none
  | .create _ _ => none

/-- The media messages that a session has sent to `q`, in order. -/
def sentTo (q : ConnId) (sid : SessionId) (log : List Action) : List Media :=
  log.filterMap (mediaTo q sid)

section Sent

variable {q : ConnId} {sid : SessionId} {s s' : RtmpServer}

theorem sentTo_append (log log' : List Action) :
    sentTo q sid (log ++ log') = sentTo q sid log ++ sentTo q sid log' :=
  List.filterMap_append

theorem Silent.sentTo (h : Silent s s') : sentTo q sid s'.log = sentTo q sid s.log := by
  obtain ⟨actions, hlog, hsilent⟩ := h
  have hnone : RtmpServer.sentTo q sid actions = [] := by
    refine List.filterMap_eq_nil_iff.mpr fun a ha => ?_
    cases a with
    | media => cases hsilent _ ha
    | send => rfl
    | authorize => rfl
    | create => rfl
  rw [hlog, sentTo_append, hnone, List.append_nil]

/-- A replay to one connection. -/
theorem sentTo_replayed (c : ConnId) (i : SessionId) (n : UInt32) (medias : List Media) :
    sentTo q sid (medias.map fun media => .media c i media n) =
      if c = q ∧ i = sid then medias else [] := by
  by_cases h : c = q ∧ i = sid <;>
    simp [sentTo, List.filterMap_map, Function.comp_def, mediaTo, h]

/-- A broadcast reaches each of its receivers once. -/
theorem sentTo_broadcast (i : SessionId) (media : Media) (n : UInt32) {receivers : List ConnId}
    (nodup : receivers.Nodup) :
    sentTo q sid (receivers.map fun player => .media player i media n) =
      if i = sid ∧ q ∈ receivers then [media] else [] := by
  induction nodup with
  | nil => simp [sentTo]
  | @cons player receivers hnew _ ih =>
      have hfirst : sentTo q sid [.media player i media n] =
          if player = q ∧ i = sid then [media] else [] := sentTo_replayed player i n [media]
      rw [List.map_cons, ← List.singleton_append, sentTo_append, ih, hfirst]
      by_cases hplayer : player = q
      · subst hplayer
        have hrest : player ∉ receivers := fun h => hnew player h rfl
        simp [hrest]
      · have hother : q ≠ player := fun h => hplayer h.symm
        simp [hplayer, hother]

end Sent

/-! ### Staying a player -/

/-- `q` is a player of the session. -/
def Joined (q : ConnId) (sid : SessionId) (s : RtmpServer) : Prop :=
  ∃ session, s.heap sid = some session ∧ q ∈ session.players

/-- `q` is connected, and what happens next is no command of `q`. -/
def Listens (q : ConnId) (s : RtmpServer) (e : Event) : Prop :=
  s.connected q = true ∧ ∀ message, e = .message q message → commandOf message = none

theorem lasting_nodup : Lasting fun session => session.players.Nodup where
  new _ _ := List.nodup_nil
  setPublisher x c h := by rwa [x.setPublisher_players]
  addPlayer x c h := by
    unfold RtmpSession.addPlayer
    split
    · exact h
    · rename_i hc
      exact List.nodup_append.mpr ⟨h, List.nodup_singleton c, fun a ha b hb hab => by
        rw [List.mem_singleton.mp hb] at hab
        exact hc (hab ▸ ha)⟩
  cleaned role c x h := by
    cases role with
    | kPublisher => rwa [cleaned, x.clearPublisher_players]
    | kPlayer => exact h.filter _
    | kUnknown => exact h
  afterMedia s media x h := by
    unfold afterMedia RtmpSession.dropDisconnected
    rw [RtmpSession.cacheMediaMessage_players]
    exact h.filter _

section Staying

variable {env : Environment} {s s' : RtmpServer} {e : Event} {q : ConnId} {sid : SessionId}

theorem Joined.congr (hj : Joined q sid s) (heap : s'.heap = s.heap) : Joined q sid s' := by
  rwa [Joined, heap]

theorem Joined.join (hj : Joined q sid s) (hm : Managed s) {c : ConnId} {streamKey : Bytes}
    {role : ConnectionRole} {enter : RtmpSession → RtmpSession}
    (henter : ∀ x : RtmpSession, q ∈ x.players → q ∈ (enter x).players) :
    Joined q sid (s.join c streamKey role enter) := by
  obtain ⟨session, hsession, hq⟩ := hj
  refine ⟨_, modifySession_heap.mpr ⟨session, hm.getOrCreateSession_heap hsession streamKey, rfl⟩,
    ?_⟩
  split
  · exact henter session hq
  · exact hq

/-- A clean-up after another connection leaves the player where it is. -/
theorem Joined.cleanupConnection (hj : Joined q sid s) {c : ConnId} (hc : q ≠ c) :
    Joined q sid (s.cleanupConnection c) := by
  obtain ⟨session, hsession, hq⟩ := hj
  have hplayer : q ∈ (cleaned (s.context c).role c session).players :=
    mem_cleaned_players.mpr ⟨hq, fun _ => hc⟩
  by_cases hnamed : s.namedSession c = some sid
  · refine ⟨_, cleanupConnection_heap.mpr ⟨session, hsession, ?_⟩, hplayer⟩
    rw [if_pos hnamed]
    refine ⟨rfl, ?_⟩
    have hplayers := List.isEmpty_eq_false_iff.mpr (List.ne_nil_of_mem hplayer)
    rw [RtmpSession.isEmpty, hplayers, Bool.and_false]
  · refine ⟨session, cleanupConnection_heap.mpr ⟨session, hsession, ?_⟩, hq⟩
    rw [if_neg hnamed]

theorem OtherChange.joined (h : OtherChange s e s') (hm : Managed s) (listens : s.Listens q e)
    (stays : e ≠ .close q) (hj : Joined q sid s) : Joined q sid s' := by
  cases h with
  | unchanged heap => exact hj.congr heap
  | published asked heap =>
      refine ((hj.congr asked.heap).join (hm.quiet asked) fun x hx => ?_).congr heap
      rwa [x.setPublisher_players]
  | played _ _ asked heap =>
      exact ((hj.congr asked.heap).join (hm.quiet asked) fun x hx =>
        RtmpSession.mem_addPlayer.mpr (.inl hx)).congr heap
  | @left c s₁ same event heap =>
      refine ((hj.congr same).cleanupConnection fun hqc => ?_).congr heap
      subst hqc
      rcases event with rfl | ⟨message, command, rfl, hcommand⟩
      · exact stays rfl
      · rw [listens.2 message rfl] at hcommand
        cases hcommand

/-- A player that listens stays one, as long as it is connected. -/
theorem Joined.step (hj : Joined q sid s) (hm : Managed s) (listens : s.Listens q e)
    (connected : (step env s e).connected q = true) : Joined q sid (step env s e) := by
  have stays : e ≠ .close q := by
    rintro rfl
    have hlive := live_of_connected connected
    have hclosed : RtmpServer.step env s (.close q) = s.close q :=
      if_pos (live_of_connected listens.1)
    rw [hclosed, close_live] at hlive
    cases hlive
  cases step_cases env s e with
  | other _ change => exact change.joined hm listens stays hj
  | @accepted i session media n alive _ sent =>
      obtain ⟨x, hx, hq⟩ := hj
      rw [sent, onMediaMessage_eq alive]
      refine ⟨_, modifySession_heap.mpr ⟨x, hx, rfl⟩, ?_⟩
      split
      · refine RtmpSession.mem_dropDisconnected.mpr ⟨?_, listens.1⟩
        rwa [RtmpSession.cacheMediaMessage_players]
      · exact hq

/-! ### The live stream -/

/-- A player that listens is sent what its session accepts, and nothing else. -/
theorem sentTo_step (hj : Joined q sid s) (hn : s.EverySession (·.players.Nodup))
    (listens : s.Listens q e) :
    sentTo q sid (step env s e).log = sentTo q sid s.log ++ acceptedIn sid s e := by
  cases step_cases env s e with
  | @accepted i session media n alive into sent =>
      obtain ⟨x, hx, hq⟩ := hj
      have hreceivers := (hn i session alive).filter s.connected
      rw [sent, onMediaMessage_eq alive, into]
      change sentTo q sid (s.log ++ _) = _
      rw [sentTo_append, sentTo_broadcast i media n hreceivers]
      by_cases hi : i = sid
      · subst hi
        rw [alive] at hx
        cases hx
        simp [hq, listens.1]
      · have hother : ¬ sid = i := fun h => hi h.symm
        simp [hi, hother]
  | other none change =>
      rw [none, List.append_nil]
      cases change with
      | unchanged _ silent => exact silent.sentTo
      | published _ _ silent => exact silent.sentTo
      | left _ _ _ silent => exact silent.sentTo
      | @played c message command streamKey s₁ s₂ i n event hcommand _ _ silent log =>
          have hc : c ≠ q := by
            rintro rfl
            rw [listens.2 message event] at hcommand
            cases hcommand
          rw [log, ← silent.sentTo]
          unfold replayCachedMessagesToPlayer
          split
          · rfl
          · split
            · change sentTo q sid (s₂.log ++ _) = _
              rw [sentTo_append, sentTo_replayed, if_neg fun h => hc h.1, List.append_nil]
            · rfl

/-- **The live stream.** From any state on, a player that listens is sent every message that
its session accepts, once and in order. -/
theorem sentTo_live {fs : List Event} (hj : s.connected q = true → Joined q sid s)
    (hm : Managed s) (hn : s.EverySession (·.players.Nodup))
    (listens : System.Along (RtmpServer.step env) (Listens q) s fs) :
    sentTo q sid (System.run (RtmpServer.step env) s fs).log =
      sentTo q sid s.log ++ System.collect (RtmpServer.step env) (acceptedIn sid) s fs := by
  induction fs generalizing s with
  | nil => simp [System.collect]
  | cons e fs ih =>
      obtain ⟨hlistens, hrest⟩ := listens
      have joined := hj hlistens.1
      rw [System.run_cons, ih (fun h => joined.step hm hlistens h) (hm.step env e)
        (hn.step lasting_nodup env e) hrest, sentTo_step joined hn hlistens, List.append_assoc,
        System.collect]

end Staying

/-! ### The play -/

section Joining

variable {env : Environment} {s : RtmpServer} {q : ConnId} {sid : SessionId}
  {session : RtmpSession} {message : RtmpMessage} {command : RtmpCommandMessage}
  {streamKey : Bytes}

theorem Plays.unique {streamKey' : Bytes} (h : Plays env s q command streamKey)
    (h' : Plays env s q command streamKey') : streamKey' = streamKey := by
  obtain ⟨ticket, hkey, -⟩ := h
  obtain ⟨ticket', hkey', -⟩ := h'
  rw [hkey] at hkey'
  cases hkey'
  rfl

/-- A player joins the session of the key. -/
theorem becomePlayer_session (hkey : s.sessions streamKey = some sid)
    (hsession : s.heap sid = some session) :
    (s.becomePlayer q streamKey).heap sid = some (session.addPlayer q) := by
  unfold becomePlayer join
  rw [getOrCreateSession_of_some hkey]
  exact modifySession_heap_self.trans (by rw [hsession]; rfl)

theorem handleMessage_play (hcommand : commandOf message = some command)
    (hname : command.name = ascii "play") :
    s.handleMessage env q message = s.handlePlay env q command := by
  rw [handleMessage_command env hcommand]
  unfold handleCommandMessage
  rw [hname]
  rfl

/-- Whether a connection is shut down after a message changes neither the sessions nor what has
been sent. -/
theorem step_message_frame (env : Environment) {q : ConnId} (message : RtmpMessage)
    (hlive : s.live q = true) :
    (step env s (.message q message)).heap = (s.handleMessage env q message).1.heap ∧
      (step env s (.message q message)).log = (s.handleMessage env q message).1.log := by
  rcases step_message_eq env message hlive with h | h <;> rw [h]
  · exact ⟨rfl, rfl⟩
  · exact ⟨rfl, rfl⟩

/-- An accepted play makes `q` a player of the session, and sends it what the session has
cached. -/
theorem play_replays (hcommand : commandOf message = some command)
    (hname : command.name = ascii "play") (accepted : Plays env s q command streamKey)
    (hkey : s.sessions streamKey = some sid) (hsession : s.heap sid = some session)
    (connected : s.connected q = true) :
    ∃ s' n, Silent s s' ∧ s'.heap sid = some (session.addPlayer q) ∧
      (step env s (.message q message)).heap = s'.heap ∧
      (step env s (.message q message)).log =
        s'.log ++ session.cachedMessages.map fun media => .media q sid media n := by
  have hlive := live_of_connected connected
  rcases handlePlay_cases env s q command hlive with
    ⟨-, refused⟩ | ⟨streamKey', s₁, s₂, n, accepted', -, asked, -, joined, hresult⟩
  · exact absurd accepted (refused streamKey)
  · obtain rfl := accepted.unique accepted'
    have hkey₁ : s₁.sessions streamKey' = some sid := asked.sessions ▸ hkey
    have hsession₁ : s₁.heap sid = some session := asked.heap ▸ hsession
    have hsession₂ : s₂.heap sid = some (session.addPlayer q) := by
      rw [joined.heap]
      exact becomePlayer_session hkey₁ hsession₁
    have connected₂ : s₂.connected q = true := by
      rw [connected_congr (joined.binding q)]
      exact join_connected.trans ((connected_congr (asked.binding q)).trans connected)
    have silent : Silent s s₂ :=
      ((Silent.of_quiet asked).trans (silent_join ..)).trans (.of_quiet joined)
    rw [getOrCreateSession_of_some hkey₁, replayCachedMessagesToPlayer, hsession₂] at hresult
    dsimp only at hresult
    rw [if_pos connected₂, RtmpSession.addPlayer_cachedMessages] at hresult
    obtain ⟨hheap, hlog⟩ := step_message_frame env message hlive
    rw [handleMessage_play hcommand hname, hresult] at hheap hlog
    exact ⟨s₂, n, silent, hsession₂, hheap, hlog⟩

/-- **The play.** An accepted play makes `q` a player of the session and sends it what the
session has cached. -/
theorem sentTo_play (hcommand : commandOf message = some command)
    (hname : command.name = ascii "play") (accepted : Plays env s q command streamKey)
    (hkey : s.sessions streamKey = some sid) (hsession : s.heap sid = some session)
    (connected : s.connected q = true) :
    Joined q sid (step env s (.message q message)) ∧
      sentTo q sid (step env s (.message q message)).log =
        sentTo q sid s.log ++ session.cachedMessages := by
  obtain ⟨s', n, silent, hplayer, hheap, hlog⟩ :=
    play_replays hcommand hname accepted hkey hsession connected
  constructor
  · exact ⟨_, hheap ▸ hplayer, RtmpSession.mem_addPlayer.mpr (.inr rfl)⟩
  · rw [hlog, sentTo_append, silent.sentTo, sentTo_replayed, if_pos ⟨rfl, rfl⟩]

/-- From an accepted play on, a player that listens is sent what the session has cached, and
then what it accepts. -/
theorem sentTo_since_play (env : Environment) (es : List Event) {fs : List Event}
    (hcommand : commandOf message = some command) (hname : command.name = ascii "play")
    (accepted : Plays env (after env es) q command streamKey)
    (hkey : (after env es).sessions streamKey = some sid)
    (hsession : (after env es).heap sid = some session)
    (connected : (after env es).connected q = true)
    (listens : System.Along (step env) (Listens q) (after env (es ++ [.message q message])) fs) :
    sentTo q sid (after env (es ++ .message q message :: fs)).log =
      sentTo q sid (after env es).log ++ (session.cachedMessages ++
        System.collect (step env) (acceptedIn sid)
          (after env (es ++ [.message q message])) fs) := by
  have hsplit : after env (es ++ [.message q message]) =
      step env (after env es) (.message q message) := System.run_append ..
  obtain ⟨joined, replayed⟩ := sentTo_play hcommand hname accepted hkey hsession connected
  have live := sentTo_live (fun _ => joined) ((managed_after env es).step env _)
    ((everySession_after lasting_nodup env es).step lasting_nodup env _) (hsplit ▸ listens)
  rw [hsplit, after, System.run_append, System.run_cons, ← after, live, replayed,
    List.append_assoc]

/-- **Late joiners get a gap-free stream.** When a play of `q` on a session is accepted, whether
or not the session still has its publisher, and as long as `q` then stays connected and sends no
command, the session sends it the backlog of what it has accepted since its publisher slot was
last filled, and then every message that it accepts, once and in order. -/
theorem late_joiner (env : Environment) (es fs : List Event)
    (hcommand : commandOf message = some command) (hname : command.name = ascii "play")
    (accepted : Plays env (after env es) q command streamKey)
    (hkey : (after env es).sessions streamKey = some sid)
    (hsession : (after env es).heap sid = some session)
    (connected : (after env es).connected q = true)
    (listens : System.Along (step env) (Listens q) (after env (es ++ [.message q message])) fs) :
    sentTo q sid (after env (es ++ .message q message :: fs)).log =
      sentTo q sid (after env es).log ++ (backlog (acceptedSince env es sid) ++
        System.collect (step env) (acceptedIn sid)
          (after env (es ++ [.message q message])) fs) := by
  have hcached := RtmpSession.cachedMessages_eq_backlog (caches_after es hsession)
  rw [sentTo_since_play env es hcommand hname accepted hkey hsession connected listens, hcached]

/-- Connection 0 publishes video frames under `/live/a`, and connection 1 is ready to play. -/
def broadcasting (payloads : List Bytes) : List Event :=
  Client.opening 0 (ascii "live") ++ Client.opening 1 (ascii "live") ++
    .message 0 (Client.request "publish" 1 (ascii "a")) ::
      payloads.map fun payload => .message 0 (Client.video 1 payload)

/-- The play that connection 1 sends. -/
def playing : RtmpMessage := Client.request "play" 1 (ascii "a")

/-- A header, a frame, a key frame and a frame. -/
def oneGop : List Event := broadcasting [[0x17, 0], [0x27, 1, 7], [0x17, 1], [0x27, 1, 8]]

theorem oneGop_plays : ∃ command session, commandOf playing = some command ∧
    command.name = ascii "play" ∧ Plays {} (after {} oneGop) 1 command (ascii "/live/a") ∧
    (after {} oneGop).heap 0 = some session ∧ session.publisher = some 0 := by
  obtain ⟨command, hcommand⟩ := Option.isSome_iff_exists.mp
    (show (commandOf playing).isSome = true by decide +kernel)
  have hname : (commandOf playing).map (·.name) = some (ascii "play") := by decide +kernel
  have hrequested : (commandOf playing).map (requestedKey ((after {} oneGop).context 1)) =
      some (some (ascii "/live/a", [])) := by decide +kernel
  rw [hcommand, Option.map_some, Option.some_inj] at hname hrequested
  obtain ⟨session, hsession⟩ := Option.isSome_iff_exists.mp
    (show ((after {} oneGop).heap 0).isSome = true by decide +kernel)
  have hpublisher : ((after {} oneGop).heap 0).map (·.publisher) = some (some 0) := by
    decide +kernel
  rw [hsession, Option.map_some, Option.some_inj] at hpublisher
  exact ⟨command, session, hcommand, hname, ⟨[], hrequested, rfl⟩, hsession, hpublisher⟩

theorem oneGop_listens : System.Along (step {}) (Listens 1)
    (after {} (oneGop ++ [.message 1 playing])) [.message 0 (Client.video 1 [0x27, 1, 9])] := by
  refine ⟨⟨by decide +kernel, ?_⟩, trivial⟩
  rintro message ⟨⟩

theorem late_joiner_oneGop :
    sentTo 1 0 (after {} (oneGop ++ .message 1 playing ::
        [.message 0 (Client.video 1 [0x27, 1, 9])])).log =
      [⟨0, Client.video 1 [0x17, 0]⟩, ⟨0, Client.video 1 [0x17, 1]⟩,
        ⟨0, Client.video 1 [0x27, 1, 8]⟩, ⟨0, Client.video 1 [0x27, 1, 9]⟩] := by
  obtain ⟨command, session, hcommand, hname, accepted, hsession, -⟩ := oneGop_plays
  exact (late_joiner {} oneGop _ hcommand hname accepted (by decide +kernel) hsession
    (by decide +kernel) oneGop_listens).trans (by decide +kernel)

end Joining

end Rmuduo.Rtmp.RtmpServer
