import CrownClash.Go.Live2v2Cancel
import CrownClash.Parity.Live2v2Wire
import CrownClash.Ts.LiveMatchView

/-!
# Parity: a cancelled 2v2 match and its players

A match, one client of it and the channel between them: what the match sends to the
sessions of the client arrives in order, and meanwhile anything else may happen to
both.  The session of the client is then what the messages it has got make of it
(`hear`), and a session that was not told the start of its match does not know the
match that is cancelled.  `cancelled_reaches` says when the cancellation gets through.
-/

namespace CrownClash.Parity

open Lib
open Go (Presence Live2v2Run Live2v2Event Live2v2ServerMessage Live2v2MatchState)
open Ts (LiveMatchClient SessionView Stage TwoVTwoServerMessage parseTwoVTwoServerMessage)

/-! ### A match and a client -/

/-- `read` counts the messages of the match that the client is done with. -/
structure Live2v2Link where
  server : Live2v2Run
  client : LiveMatchClient
  read : ℕ

inductive LinkEvent
  | server (e : Live2v2Event)
  /-- Something happens at the client. -/
  | own (e : LiveMatchClient.ClientEvent)
  /-- The next message of the match. -/
  | deliver

/-- A message that goes to one of the client's sessions. -/
def Addressed (mine : List Presence) (m : List Presence × Live2v2ServerMessage) : Prop :=
  ∃ p ∈ mine, p ∈ m.1

instance (mine : List Presence) (m : List Presence × Live2v2ServerMessage) :
    Decidable (Addressed mine m) :=
  inferInstanceAs (Decidable (∃ p ∈ mine, p ∈ m.1))

namespace Live2v2Link

/-- The next message is for others, or arrives on the socket of the client's session as
soon as the client hears it. -/
def deliver (mine : List Presence) (l : Live2v2Link) : Live2v2Link :=
  match l.server.live.sent[l.read]? with
  | none => l
  | some m =>
    if ¬ Addressed mine m then { l with read := l.read + 1 }
    else
      match l.client.v2 with
      | none => l
      | some i =>
        if l.client.hears (l.client.sessions i).socket then
          { l with
            client := l.client.step (.data (l.client.sessions i).socket m.2.opCode m.2.json)
            read := l.read + 1 }
        else l

/-- Data comes from the match alone, and the player stays. -/
def step [MathLib] (mine : List Presence) (l : Live2v2Link) : LinkEvent → Live2v2Link
  | .server e => { l with server := l.server.step e }
  | .own e => if e.isOwn then { l with client := l.client.step e } else l
  | .deliver => l.deliver mine

/-- What the client has got so far. -/
def heard (mine : List Presence) (l : Live2v2Link) : List (List Presence × Live2v2ServerMessage) :=
  (l.server.live.sent.take l.read).filter fun m => Addressed mine m

/-- The client has got the cancellation of the match. -/
def CancelRead (mine : List Presence) (l : Live2v2Link) : Prop :=
  ∃ m ∈ l.heard mine, m.2.cancels.isSome = true

instance (mine : List Presence) (l : Live2v2Link) : Decidable (l.CancelRead mine) :=
  inferInstanceAs (Decidable (∃ m ∈ l.heard mine, m.2.cancels.isSome = true))

/-- A new match and a client whose match was found. -/
def start (s : Live2v2MatchState) (rawMatchId : String) (settled : Option String)
    (reconnectTransport : Bool) : Live2v2Link :=
  ⟨.start s, .matched rawMatchId settled reconnectTransport, 0⟩

end Live2v2Link

/-- The calls of the match. -/
def serverEvents (events : List LinkEvent) : List Live2v2Event :=
  events.filterMap fun
    | .server e => some e
    | _ => none

/-! ### What the messages make of a session -/

/-- The session of a client and the match it has settled last. -/
structure Hearing where
  session : SessionView
  settled : Option String

/-- A start and a cancellation are all that counts until the match has a result. -/
def hear (h : Hearing) (m : List Presence × Live2v2ServerMessage) : Hearing :=
  match m.2 with
  | .matchStarted matchId .. => { h with session := h.session.started matchId }
  | .matchCancelled matchId =>
    if h.session.canonicalMatchId ≠ some matchId ∨ h.settled = some matchId then h
    else ⟨⟨some matchId, .cancelled⟩, some matchId⟩
  | _ => h

/-- What a client makes of what it has got. -/
def hearing (settled : Option String) (heard : List (List Presence × Live2v2ServerMessage)) :
    Hearing :=
  heard.foldl hear ⟨⟨none, .waiting⟩, settled⟩

theorem hearing_snoc (settled : Option String)
    (heard : List (List Presence × Live2v2ServerMessage))
    (m : List Presence × Live2v2ServerMessage) :
    hearing settled (heard ++ [m]) = hear (hearing settled heard) m :=
  List.foldl_append ..

theorem hear_stage {h : Hearing} (hs : h.session.stage ≠ .finished)
    (m : List Presence × Live2v2ServerMessage) : (hear h m).session.stage ≠ .finished := by
  unfold hear
  split
  · change (SessionView.started _ _).stage ≠ _
    unfold SessionView.started
    split
    · exact fun h => nomatch h
    · exact hs
  · split
    · exact hs
    · exact fun h => nomatch h
  · exact hs

theorem hearing_stage (settled : Option String)
    (heard : List (List Presence × Live2v2ServerMessage)) :
    (hearing settled heard).session.stage ≠ .finished :=
  foldl_preserves (P := fun h : Hearing => h.session.stage ≠ .finished)
    (fun _ m _ h => hear_stage h m) fun h => nomatch h

/-- The client of a link is what the messages it has got have made of it. -/
structure Agrees (settled : Option String) (heard : List (List Presence × Live2v2ServerMessage))
    (c : LiveMatchClient) : Prop where
  v2 : c.view.v2 = some 0
  session : c.view.sessions 0 = (hearing settled heard).session
  settled : c.view.lastSettledMatchId = (hearing settled heard).settled

/-- The schema version stands in front of every message. -/
theorem schemaVersion_json (m : Live2v2ServerMessage) :
    (m.json.get? "schemaVersion").bind Json.safeInteger? = some 2 := by
  cases m <;> rfl

theorem expectedOpcode_view (m : Live2v2ServerMessage) :
    LiveMatchClient.expectedOpcode (view m) = m.opCode := by
  cases m <;> rfl


/-- A message that the validator refuses makes nothing of a session. -/
theorem hear_unreadable {m : List Presence × Live2v2ServerMessage} (h : Hearing)
    (hr : ¬ Readable m.2) : hear h m = h := by
  unfold hear
  split
  next hm =>
    rw [hm] at hr
    exact absurd trivial hr
  next hm =>
    rw [hm] at hr
    exact absurd trivial hr
  · rfl

/-- The client takes a message of the server for its session, or refuses it. -/
theorem handleMatchData_json {c : LiveMatchClient} (hv : c.v2 = some 0)
    {m : Live2v2ServerMessage} (hsound : Sound m) :
    (Readable m → c.handleMatchData m.opCode m.json = c.applyTwoVTwoMessage 0 (view m)) ∧
      (¬ Readable m → c.handleMatchData m.opCode m.json = c) := by
  have hversion : c.handleMatchData m.opCode m.json = c.handleTwoVTwoPayload m.opCode m.json :=
    if_pos (schemaVersion_json m)
  rw [hversion]
  unfold LiveMatchClient.handleTwoVTwoPayload
  constructor
  · intro hr
    rw [(parse_json hsound).1 hr]
    dsimp only
    rw [if_neg (not_not.mpr (expectedOpcode_view m).symm), hv]
  · intro hr
    rw [(parse_json hsound).2 hr]

/-- **The client makes of a message what it is.** -/
theorem Agrees.data {settled : Option String} {heard : List (List Presence × Live2v2ServerMessage)}
    {c : LiveMatchClient} (h : Agrees settled heard c)
    {m : List Presence × Live2v2ServerMessage} (hsound : Sound m.2)
    (hresult : ∀ matchId winner participants, m.2 ≠ .matchResult matchId winner participants) :
    Agrees settled (heard ++ [m]) (c.handleMatchData m.2.opCode m.2.json) := by
  have hv : c.v2 = some 0 := h.v2
  by_cases hr : Readable m.2
  · rw [(handleMatchData_json hv hsound).1 hr]
    have hphase : (c.sessions 0).phase ≠ .finished := by
      intro hp
      have hstage := hearing_stage settled heard
      rw [← h.session] at hstage
      change (c.sessions 0).phase.stage ≠ _ at hstage
      rw [hp] at hstage
      exact hstage rfl
    have happly := Ts.view_applyMessage hphase (view m.2)
    have hsame : (c.applyTwoVTwoMessage 0 (view m.2)).view = c.view →
        hear (hearing settled heard) m = hearing settled heard →
          Agrees settled (heard ++ [m]) (c.applyTwoVTwoMessage 0 (view m.2)) := by
      intro hview hhear
      refine ⟨?_, ?_, ?_⟩
      · rw [hview]
        exact h.v2
      · rw [hview, hearing_snoc, hhear]
        exact h.session
      · rw [hview, hearing_snoc, hhear]
        exact h.settled
    obtain ⟨recipients, m⟩ := m
    dsimp only at *
    cases m with
    | matchStarted matchId slot teamId nextSequence players state =>
      refine ⟨?_, ?_, ?_⟩
      · rw [happly]
        exact h.v2
      · rw [happly, hearing_snoc]
        change Function.update c.view.sessions 0 _ 0 = _
        rw [Function.update_self, h.session]
        rfl
      · rw [happly, hearing_snoc]
        exact h.settled
    | matchCancelled matchId =>
      have hended : (c.applyTwoVTwoMessage 0 (view (.matchCancelled matchId))).view =
          c.view.ended 0 matchId .cancelled := happly
      unfold Ts.ClientView.ended at hended
      by_cases hskip : (c.view.sessions 0).canonicalMatchId ≠ some matchId ∨
          c.view.lastSettledMatchId = some matchId
      · rw [if_pos hskip] at hended
        refine hsame hended ?_
        rw [h.session, h.settled] at hskip
        exact if_pos hskip
      · rw [if_neg hskip] at hended
        rw [h.session, h.settled] at hskip
        have hhear : hear (hearing settled heard) (recipients, .matchCancelled matchId) =
            ⟨⟨some matchId, .cancelled⟩, some matchId⟩ := if_neg hskip
        refine ⟨?_, ?_, ?_⟩
        · rw [hended]
          exact h.v2
        · rw [hended, hearing_snoc, hhear]
          change Function.update c.view.sessions 0 ⟨some matchId, .cancelled⟩ 0 = _
          rw [Function.update_self]
        · rw [hended, hearing_snoc, hhear]
    | matchResult matchId winner participants => exact absurd rfl (hresult _ _ _)
    | state tick state => exact hsame happly rfl
    | commandAccepted sequence slot => exact hsame happly rfl
    | commandRejected code sequence => exact hsame happly rfl
    | rematchStarted matchId => exact hsame happly rfl
    | matchClosed matchId => exact hsame happly rfl
    | settlementFailed => exact hsame happly rfl
  · rw [(handleMatchData_json hv hsound).2 hr]
    refine ⟨h.v2, ?_, ?_⟩
    · rw [hearing_snoc, hear_unreadable _ hr]
      exact h.session
    · rw [hearing_snoc, hear_unreadable _ hr]
      exact h.settled


/-! ### What a session has heard -/

/-- A match that is known plays on, whoever is told of it again. -/
theorem hear_playing {matchId : String} {settled : Option String}
    {m : List Presence × Live2v2ServerMessage} (hc : m.2.cancels = none) :
    hear ⟨⟨some matchId, .playing⟩, settled⟩ m = ⟨⟨some matchId, .playing⟩, settled⟩ := by
  unfold hear
  split
  · rfl
  next hm =>
    rw [hm] at hc
    cases hc
  · rfl

/-- A session that waits goes on to wait until its match starts. -/
theorem hear_waiting {settled : Option String} {m : List Presence × Live2v2ServerMessage}
    (hs : m.2.starts = none) : hear ⟨⟨none, .waiting⟩, settled⟩ m = ⟨⟨none, .waiting⟩, settled⟩ := by
  unfold hear
  split
  next hm =>
    rw [hm] at hs
    cases hs
  next matchId hm => exact if_pos (Or.inl fun hid => nomatch hid)
  · rfl

theorem hearing_untold {settled : Option String} {heard : List (List Presence × Live2v2ServerMessage)}
    (h : Go.Untold heard) : hearing settled heard = ⟨⟨none, .waiting⟩, settled⟩ :=
  foldl_preserves (P := fun g : Hearing => g = ⟨⟨none, .waiting⟩, settled⟩)
    (fun g m hm hg => by rw [hg, hear_waiting (h m hm)]) rfl

/-- **A session that was told of its match is in it**, whatever else it has heard. -/
theorem hearing_told {matchId : String} {settled : Option String}
    {heard : List (List Presence × Live2v2ServerMessage)}
    (hid : ∀ m ∈ heard, ∀ id, m.2.starts = some id → id = matchId)
    (hc : ∀ m ∈ heard, m.2.cancels = none) (hs : ∃ m ∈ heard, m.2.starts.isSome = true) :
    hearing settled heard = ⟨⟨some matchId, .playing⟩, settled⟩ := by
  unfold hearing
  induction heard with
  | nil =>
    obtain ⟨m, hm, -⟩ := hs
    cases hm
  | cons m heard ih =>
    rw [List.foldl_cons]
    cases hstarts : m.2.starts with
    | none =>
      rw [hear_waiting hstarts]
      refine ih (fun n hn => hid n (List.mem_cons_of_mem m hn))
        (fun n hn => hc n (List.mem_cons_of_mem m hn)) ?_
      obtain ⟨n, hn, hsome⟩ := hs
      rcases List.mem_cons.mp hn with rfl | hn
      · rw [hstarts] at hsome
        cases hsome
      · exact ⟨n, hn, hsome⟩
    | some id =>
      have hfirst : hear ⟨⟨none, .waiting⟩, settled⟩ m = ⟨⟨some matchId, .playing⟩, settled⟩ := by
        rw [← hid m List.mem_cons_self id hstarts]
        unfold hear
        split
        next hm =>
          rw [hm] at hstarts
          cases hstarts
          rfl
        next hm =>
          rw [hm] at hstarts
          cases hstarts
        next hstart _ =>
          obtain ⟨recipients, m⟩ := m
          cases m with
          | matchStarted => exact absurd rfl (hstart _ _ _ _ _ _)
          | _ => cases hstarts
      rw [hfirst]
      exact foldl_preserves (P := fun g : Hearing => g = ⟨⟨some matchId, .playing⟩, settled⟩)
        (fun g n hn hg => by rw [hg, hear_playing (hc n (List.mem_cons_of_mem m hn))]) rfl

/-! ### Every run -/

section Run

variable [MathLib]

/-- What holds of a link along a run. -/
structure LinkOk (s : Live2v2MatchState) (settled : Option String) (mine : List Presence)
    (events : List LinkEvent) (l : Live2v2Link) : Prop where
  server : l.server = (serverEvents events).foldl Live2v2Run.step (.start s)
  read : l.read ≤ l.server.live.sent.length
  agrees : (∀ m ∈ l.heard mine, ∀ matchId winner participants,
    m.2 ≠ .matchResult matchId winner participants) → Agrees settled (l.heard mine) l.client

omit [MathLib] in
theorem serverEvents_snoc (events : List LinkEvent) (e : LinkEvent) :
    serverEvents (events ++ [e]) = serverEvents events ++ serverEvents [e] :=
  List.filterMap_append

omit [MathLib] in
/-- The next message is heard, or it is for others. -/
theorem heard_next {mine : List Presence} {server : Live2v2Run} {read : ℕ}
    {c c' : LiveMatchClient} {m : List Presence × Live2v2ServerMessage}
    (hm : server.live.sent[read]? = some m) :
    Live2v2Link.heard mine ⟨server, c', read + 1⟩ =
      Live2v2Link.heard mine ⟨server, c, read⟩ ++ if Addressed mine m then [m] else [] := by
  unfold Live2v2Link.heard
  dsimp only
  rw [List.take_add_one, hm, Option.toList_some, List.filter_append]
  congr 1
  by_cases ha : Addressed mine m
  · rw [if_pos ha, List.filter_singleton, decide_eq_true ha]
    rfl
  · rw [if_neg ha, List.filter_singleton, decide_eq_false ha]
    rfl

theorem LinkOk.deliver {s : Live2v2MatchState} {settled : Option String} {mine : List Presence}
    {events : List LinkEvent} {l : Live2v2Link} (hnew : Go.NewMatch s)
    (h : LinkOk s settled mine events l) :
    LinkOk s settled mine (events ++ [.deliver]) (l.deliver mine) := by
  have hevents : serverEvents (events ++ [.deliver]) = serverEvents events := by
    rw [serverEvents_snoc]
    exact List.append_nil _
  have hstay : LinkOk s settled mine (events ++ [.deliver]) l := by
    refine ⟨?_, h.read, h.agrees⟩
    rw [hevents]
    exact h.server
  unfold Live2v2Link.deliver
  split
  · exact hstay
  next m hm =>
  have hlength : l.read + 1 ≤ l.server.live.sent.length :=
    (List.getElem?_eq_some_iff.mp hm).1
  split
  next ha =>
    have hheard : Live2v2Link.heard mine ⟨l.server, l.client, l.read + 1⟩ = l.heard mine := by
      rw [heard_next (c := l.client) hm, if_neg ha, List.append_nil]
    refine ⟨hstay.server, hlength, ?_⟩
    rw [hheard]
    exact h.agrees
  next ha =>
  rw [not_not] at ha
  split
  · exact hstay
  next i hi =>
  split
  next hears =>
    refine ⟨hstay.server, hlength, ?_⟩
    have hheard : ∀ c', Live2v2Link.heard mine ⟨l.server, c', l.read + 1⟩ =
        l.heard mine ++ [m] := by
      intro c'
      rw [heard_next (c := l.client) hm, if_pos ha]
    rw [hheard]
    intro hresult
    have hagrees := h.agrees fun m hm => hresult m (List.mem_append_left _ hm)
    have hsound : Sound m.2 := by
      have hwire := wireOk_run hnew (serverEvents events)
      rw [← h.server] at hwire
      exact hwire.sound m (List.mem_of_getElem? hm)
    have hstep : l.client.step (.data (l.client.sessions i).socket m.2.opCode m.2.json) =
        l.client.handleMatchData m.2.opCode m.2.json := if_pos hears
    rw [hstep]
    exact hagrees.data hsound (hresult m (List.mem_append_right _ (List.mem_singleton_self m)))
  · exact hstay

theorem LinkOk.step {s : Live2v2MatchState} {settled : Option String} {mine : List Presence}
    {events : List LinkEvent} {l : Live2v2Link} (hnew : Go.NewMatch s)
    (h : LinkOk s settled mine events l) (e : LinkEvent) :
    LinkOk s settled mine (events ++ [e]) (l.step mine e) := by
  cases e with
  | server e =>
    have hsent := Go.sent_moves (Go.step_moves l.server e)
    obtain ⟨rest, hrest⟩ := hsent
    have hheard : Live2v2Link.heard mine ⟨l.server.step e, l.client, l.read⟩ = l.heard mine := by
      unfold Live2v2Link.heard
      dsimp only
      rw [← hrest, List.take_append_of_le_length h.read]
    refine ⟨?_, ?_, ?_⟩
    · rw [serverEvents_snoc, List.foldl_append, ← h.server]
      rfl
    · change l.read ≤ (l.server.step e).live.sent.length
      rw [← hrest, List.length_append]
      exact h.read.trans (Nat.le_add_right _ _)
    · change (∀ m ∈ Live2v2Link.heard mine ⟨l.server.step e, l.client, l.read⟩, _) →
        Agrees settled (Live2v2Link.heard mine ⟨l.server.step e, l.client, l.read⟩) l.client
      rw [hheard]
      exact h.agrees
  | own e =>
    have hevents : serverEvents (events ++ [.own e]) = serverEvents events := by
      rw [serverEvents_snoc]
      exact List.append_nil _
    unfold Live2v2Link.step
    dsimp only
    split
    next hown =>
      refine ⟨hevents ▸ h.server, h.read, fun hresult => ?_⟩
      have hagrees := h.agrees hresult
      have hview := Ts.view_step l.client hown
      refine ⟨?_, ?_, ?_⟩
      · rw [hview]
        exact hagrees.v2
      · rw [hview]
        exact hagrees.session
      · rw [hview]
        exact hagrees.settled
    · exact ⟨hevents ▸ h.server, h.read, h.agrees⟩
  | deliver => exact h.deliver hnew

theorem linkOk_run {s : Live2v2MatchState} (hnew : Go.NewMatch s) (mine : List Presence)
    (rawMatchId : String) (settled : Option String) (reconnectTransport : Bool)
    (events : List LinkEvent) :
    LinkOk s settled mine events
      (events.foldl (Live2v2Link.step mine) (.start s rawMatchId settled reconnectTransport)) := by
  refine history (H := LinkOk s settled mine) ?_ (fun before e hb => hb.step hnew e) events
  exact ⟨rfl, Nat.zero_le _, fun _ => ⟨rfl, rfl, rfl⟩⟩


omit [MathLib] in
theorem stage_cancelled_iff {phase : Ts.TwoVTwoSessionPhase} :
    phase = .cancelled ↔ phase.stage = .cancelled := by
  cases phase <;> decide

omit [MathLib] in
/-- What a client has heard when the cancellation of a match is the last message. -/
theorem hearing_toldOff {sent : List (List Presence × Live2v2ServerMessage)} {matchId : String}
    (settled : Option String) {mine : List Presence} {read : ℕ}
    (htold : Go.ToldOff sent) (hid : ∀ m ∈ sent, ∀ id, m.2.starts = some id → id = matchId)
    (hcid : ∀ m ∈ sent, ∀ id, m.2.cancels = some id → id = matchId)
    (hread : ∃ m ∈ (sent.take read).filter (fun m => Addressed mine m), m.2.cancels.isSome = true) :
    hearing settled ((sent.take read).filter fun m => Addressed mine m) =
      if settled = some matchId then ⟨⟨some matchId, .playing⟩, settled⟩
      else ⟨⟨some matchId, .cancelled⟩, some matchId⟩ := by
  obtain ⟨early, recipients, id, hsent, hearly, htold⟩ := htold
  have hlast : id = matchId := by
    refine hcid (recipients, .matchCancelled id) ?_ id rfl
    rw [hsent]
    exact List.mem_append_right _ (List.mem_singleton_self _)
  subst hlast
  obtain ⟨m, hm, hcancels⟩ := hread
  rw [List.mem_filter] at hm
  obtain ⟨hm, ha⟩ := hm
  have hall : sent.take read = sent := by
    rw [hsent] at hm ⊢
    by_cases hle : read ≤ early.length
    · rw [List.take_append_of_le_length hle] at hm
      rw [hearly m (List.mem_of_mem_take hm)] at hcancels
      cases hcancels
    · refine List.take_of_length_le ?_
      rw [List.length_append, List.length_singleton]
      omega
  rw [hall, hsent] at hm
  have hself : m = (recipients, .matchCancelled id) := by
    rcases List.mem_append.mp hm with hm | hm
    · rw [hearly m hm] at hcancels
      cases hcancels
    · exact List.mem_singleton.mp hm
  subst hself
  have hknown : hearing settled (early.filter fun m => Addressed mine m) =
      ⟨⟨some id, .playing⟩, settled⟩ := by
    refine hearing_told (fun n hn i hs => hid n ?_ i hs)
      (fun n hn => hearly n (List.mem_filter.mp hn).1) ?_
    · rw [hsent]
      exact List.mem_append_left _ (List.mem_filter.mp hn).1
    · obtain ⟨p, hp, hrecipient⟩ := of_decide_eq_true ha
      obtain ⟨n, hn, hpn, hstarts⟩ := htold p hrecipient
      exact ⟨n, List.mem_filter.mpr ⟨hn, decide_eq_true ⟨p, hp, hpn⟩⟩, hstarts⟩
  rw [hall, hsent, List.filter_append, List.filter_singleton, ha, Bool.cond_true, hearing_snoc,
    hknown]
  by_cases hs : settled = some id
  · rw [if_pos hs]
    exact if_pos (Or.inr hs)
  · rw [if_neg hs]
    exact if_neg (not_or.mpr ⟨not_not.mpr rfl, hs⟩)

/-- **A cancelled match reaches the players it has been played with, and no others.**
In every run of a match and of a client of it that gets all of its messages in order,
once the client has got the cancellation its session is cancelled if and only if the
match had been played, and the client has not settled a match of the same id before. -/
theorem cancelled_reaches {enable2v2 equalPower : Bool} {params : Go.Live2v2Params}
    {lookup : String → Go.SeatLookup} {randomHex : Option String} {startedAt : ℤ}
    {s : Live2v2MatchState}
    (h : Go.live2v2MatchInit enable2v2 equalPower params lookup randomHex startedAt = some s)
    (mine : List Presence) (rawMatchId : String) (settled : Option String)
    (reconnectTransport : Bool) (events : List LinkEvent)
    (hread : (events.foldl (Live2v2Link.step mine)
      (.start s rawMatchId settled reconnectTransport)).CancelRead mine) :
    ((events.foldl (Live2v2Link.step mine)
        (.start s rawMatchId settled reconnectTransport)).client.sessions 0).phase = .cancelled ↔
      Go.Played (.start s) (serverEvents events) ∧ settled ≠ some s.matchId := by
  have hnew := Go.live2v2MatchInit_new h
  have hok := linkOk_run hnew mine rawMatchId settled reconnectTransport events
  have hcancel := Go.cancelOk_run hnew (serverEvents events)
  rw [← hok.server] at hcancel
  have hunsettled : ((serverEvents events).foldl Live2v2Run.step (.start s)).live.phase ≠
      .finished → Go.Unsettled ((serverEvents events).foldl Live2v2Run.step (.start s)).live :=
    (Go.run_preserves (P := fun t => t.phase ≠ .finished → Go.Unsettled t)
      (fun _ _ hm ht => Go.unsettled_move hm ht)
      (fun _ => ⟨hnew.settled, fun m hm => by rw [hnew.sent] at hm; cases hm⟩) _).last
  rw [← hok.server] at hunsettled
  generalize events.foldl (Live2v2Link.step mine)
    (.start s rawMatchId settled reconnectTransport) = l at *
  obtain ⟨m, hm, hcancels⟩ := hread
  have hsent : ∀ {n}, n ∈ l.heard mine → n ∈ l.server.live.sent := fun hn =>
    List.mem_of_mem_take (List.mem_filter.mp hn).1
  obtain ⟨id, hid⟩ := Option.isSome_iff_exists.mp hcancels
  have hphase : l.server.live.phase = .cancelled := (hcancel.spoken.cancels m (hsent hm) id hid).2
  have hagrees := hok.agrees fun n hn =>
    (hunsettled (by rw [hphase]; decide)).sent n (hsent hn)
  have hview : (l.client.sessions 0).phase.stage = (hearing settled (l.heard mine)).session.stage :=
    congrArg SessionView.stage hagrees.session
  rw [stage_cancelled_iff, hview]
  by_cases hplayed : Go.Played (.start s) (serverEvents events)
  · have htold := hcancel.toldOff hplayed hphase
    have hheard : hearing settled (l.heard mine) = _ :=
      hearing_toldOff settled htold hcancel.spoken.starts
        (fun n hn i hc => (hcancel.spoken.cancels n hn i hc).1) ⟨m, hm, hcancels⟩
    rw [hheard]
    change _ ↔ _ ∧ settled ≠ some (Live2v2Run.start s).live.matchId
    by_cases hs : settled = some (Live2v2Run.start s).live.matchId
    · rw [if_pos hs]
      exact ⟨fun hstage => (nomatch hstage), fun hboth => absurd hs hboth.2⟩
    · rw [if_neg hs]
      exact ⟨fun _ => ⟨hplayed, hs⟩, fun _ => rfl⟩
  · have huntold : Go.Untold (l.heard mine) := fun n hn =>
      (hcancel.silent hplayed).untold n (hsent hn)
    rw [hearing_untold huntold]
    exact ⟨fun hstage => (nomatch hstage), fun hboth => absurd hboth.1 hplayed⟩

end Run

/-! ### Cancelled in the battle and in the lobby -/

/-- The four play, and the server shuts down. -/
def shutDown : List LinkEvent :=
  (Go.fourReady ++ [Live2v2Event.terminate]).map .server ++ List.replicate 10 .deliver

theorem cancelled_reaches_shutDown :
    ((shutDown.foldl (@Live2v2Link.step decimalHypot [Go.guest "anna"])
        (.start Go.fourMatch "raw" none true)).client.sessions 0).phase = .cancelled ↔
      @Go.Played decimalHypot (.start Go.fourMatch) (serverEvents shutDown) ∧
        none ≠ some Go.fourMatch.matchId :=
  @cancelled_reaches decimalHypot _ _ _ _ _ _ _ Go.fourMatch_init [Go.guest "anna"] "raw" none true
    shutDown (by decide +kernel)

/-- Anna is the first to come, and gives up before the others are there. -/
def annaGivesUp : List LinkEvent :=
  [.server (.attempt (Go.guest "anna")), .server (.join [(Go.guest "anna", none)] 0),
   .server (.loop 1 0 [Go.messageOf "anna" "surrender" 0 "" ""] Go.settlingAnswers), .deliver]

/-- **Anna's client goes on waiting for a match that is cancelled.** -/
theorem cancelled_missed : ¬ ∀ (mine : List Presence) (events : List LinkEvent),
    (events.foldl (@Live2v2Link.step decimalHypot mine)
        (.start Go.fourMatch "raw" none true)).CancelRead mine →
      ((events.foldl (@Live2v2Link.step decimalHypot mine)
        (.start Go.fourMatch "raw" none true)).client.sessions 0).phase = .cancelled := by
  intro h
  have hread : (annaGivesUp.foldl (@Live2v2Link.step decimalHypot [Go.guest "anna"])
      (.start Go.fourMatch "raw" none true)).CancelRead [Go.guest "anna"] := by
    decide +kernel
  have hphase := h _ _ hread
  revert hphase
  decide +kernel

end CrownClash.Parity
