import CrownClash.Go.Live2v2Forfeit

/-!
# Server: what a cancelled 2v2 match has told its players

A match can be cancelled while it waits, during the countdown, and, when the server
shuts down, in the battle.  Only a battle has told its players that it starts: each
session that sits in a slot then has been sent the start of the match, by the call
that began the battle or by the join that brought the session back.  `cancelOk_run`
says so of whole runs.
-/

namespace CrownClash.Go

open Lib Live2v2MatchState

/-- The match that a message starts. -/
def Live2v2ServerMessage.starts : Live2v2ServerMessage → Option String
  | .matchStarted matchId .. => some matchId
  | _ => none

/-- The match that a message cancels. -/
def Live2v2ServerMessage.cancels : Live2v2ServerMessage → Option String
  | .matchCancelled matchId => some matchId
  | _ => none

/-- A session was told that its match starts. -/
def Told (sent : List (List Presence × Live2v2ServerMessage)) (presence : Presence) : Prop :=
  ∃ m ∈ sent, presence ∈ m.1 ∧ m.2.starts.isSome = true

/-- Nobody was told that the match starts. -/
def Untold (sent : List (List Presence × Live2v2ServerMessage)) : Prop :=
  ∀ m ∈ sent, m.2.starts = none

theorem Told.mono {sent sent' : List (List Presence × Live2v2ServerMessage)} {presence : Presence}
    (h : Told sent presence) (hs : sent <+: sent') : Told sent' presence := by
  obtain ⟨m, hm, hp, hstarts⟩ := h
  exact ⟨m, hs.subset hm, hp, hstarts⟩

theorem Untold.append {sent messages : List (List Presence × Live2v2ServerMessage)}
    (h : Untold sent) (hm : Untold messages) : Untold (sent ++ messages) := by
  intro m hmem
  rcases List.mem_append.mp hmem with hmem | hmem
  · exact h m hmem
  · exact hm m hmem

theorem untold_single (recipients : List Presence) {message : Live2v2ServerMessage}
    (h : message.starts = none) : Untold [(recipients, message)] := by
  intro m hm
  rw [List.mem_singleton.mp hm]
  exact h

section Moves

variable [MathLib]

/-! ### What is said stays said -/

theorem sent_change {s s' : Live2v2MatchState} (hc : Change s s') : s.sent <+: s'.sent := by
  cases hc with
  | keep hk => rw [hk.sent]
  | send messages hm => exact List.prefix_append s.sent messages
  | accept message slot payload serverSeq hp hseq hlog ho => exact List.prefix_append s.sent _
  | _ => exact List.prefix_rfl

theorem sent_moves {s s' : Live2v2MatchState} (hm : Moves s s') : s.sent <+: s'.sent := by
  induction hm with
  | refl => exact List.prefix_rfl
  | tail _ hlast ih =>
    cases hlast with
    | change hc => exact ih.trans (sent_change hc)
    | simulate hp hs => exact ih

omit [MathLib] in
/-- A match speaks of itself, and says that it is cancelled once it is. -/
structure Spoken (matchId : String) (s : Live2v2MatchState) : Prop where
  sameId : s.matchId = matchId
  starts : ∀ m ∈ s.sent, ∀ id, m.2.starts = some id → id = matchId
  cancels : ∀ m ∈ s.sent, ∀ id, m.2.cancels = some id → id = matchId ∧ s.phase = .cancelled

omit [MathLib] in
theorem MaySend.starts {s : Live2v2MatchState} {message : Live2v2ServerMessage}
    (h : MaySend s message) {id : String} (hs : message.starts = some id) : id = s.matchId := by
  cases h with
  | started slot => exact (Option.some.inj hs).symm
  | _ => cases hs

omit [MathLib] in
theorem MaySend.cancels {s : Live2v2MatchState} {message : Live2v2ServerMessage}
    (h : MaySend s message) {id : String} (hs : message.cancels = some id) :
    id = s.matchId ∧ s.phase = .cancelled := by
  cases h with
  | cancelled hphase => exact ⟨(Option.some.inj hs).symm, hphase⟩
  | _ => cases hs

omit [MathLib] in
/-- A match that is not cancelled has not said that it is. -/
theorem Spoken.open {matchId : String} {s : Live2v2MatchState} (h : Spoken matchId s)
    (hp : s.phase ≠ .cancelled) : ∀ m ∈ s.sent, m.2.cancels = none := by
  intro m hm
  cases hc : m.2.cancels with
  | none => rfl
  | some id => exact absurd (h.cancels m hm id hc).2 hp

omit [MathLib] in
/-- The phase of an open match changes. -/
theorem Spoken.phase {matchId : String} {s s' : Live2v2MatchState} (h : Spoken matchId s)
    (hid : s'.matchId = s.matchId) (hsent : s'.sent = s.sent) (hp : s.phase ≠ .cancelled) :
    Spoken matchId s' := by
  refine ⟨hid.trans h.sameId, ?_, fun m hm id hc => ?_⟩
  · rw [hsent]
    exact h.starts
  · rw [hsent] at hm
    rw [h.open hp m hm] at hc
    cases hc

theorem Spoken.move {matchId : String} {s s' : Live2v2MatchState} (hm : Move s s')
    (h : Spoken matchId s) : Spoken matchId s' := by
  cases hm with
  | simulate hp hs => exact { h with }
  | change hc =>
    cases hc with
    | keep hk =>
      refine ⟨hk.matchId.trans h.sameId, ?_, ?_⟩
      · rw [hk.sent]
        exact h.starts
      · rw [hk.sent, hk.phase]
        exact h.cancels
    | send messages hsay =>
      refine ⟨h.sameId, fun m hm id hs => ?_, fun m hm id hs => ?_⟩
      · rcases List.mem_append.mp hm with hm | hm
        · exact h.starts m hm id hs
        · exact ((hsay m hm).starts hs).trans h.sameId
      · rcases List.mem_append.mp hm with hm | hm
        · exact h.cancels m hm id hs
        · obtain ⟨hid, hphase⟩ := (hsay m hm).cancels hs
          exact ⟨hid.trans h.sameId, hphase⟩
    | countdown hw => exact h.phase rfl rfl (by rw [hw]; decide)
    | cancel hn =>
      exact ⟨h.sameId, h.starts, fun m hm id hs => ⟨(h.cancels m hm id hs).1, rfl⟩⟩
    | start hcount hs => exact h.phase rfl rfl (by rw [hcount]; decide)
    | accept message slot payload serverSeq hp hseq hlog ho =>
      have hopen : s.phase ≠ .cancelled := by
        rw [hp]
        decide
      refine ⟨h.sameId, fun m hm id hs => ?_, fun m hm id hs => ?_⟩
      all_goals rcases List.mem_append.mp hm with hm | hm
      · exact h.starts m hm id hs
      · rw [List.mem_singleton.mp hm] at hs
        cases hs
      · rw [h.open hopen m hm] at hs
        cases hs
      · rw [List.mem_singleton.mp hm] at hs
        cases hs
    | decide status hp hs hd => exact h.phase rfl rfl (by rw [hp]; decide)
    | finish hp hs => exact h.phase rfl rfl (by rw [hp]; decide)
    | settle hf => exact h.phase rfl rfl (by rw [hf]; decide)

end Moves


/-! ### Who sits in a slot -/

/-- Only a join seats a session. -/
theorem lobbyMoves_presence {e : Live2v2Event} (hjoin : ∀ arrivals tick, e ≠ .join arrivals tick)
    {l l' : Lobby} (hm : LobbyMoves e l l') {slot : Slot} {p : Presence}
    (hp : (l'.seats slot).presence = some p) : (l.seats slot).presence = some p := by
  refine lobbyMoves_preserve (P := fun l' => ∀ p, (l'.seats slot).presence = some p →
    (l.seats slot).presence = some p) (fun l₁ l₂ hm ih p hp => ih p ?_) hm (fun _ h => h) p hp
  have hset : ∀ {k seat}, ((l₁.setSeat k seat).seats slot).presence = some p →
      (seat.presence = none ∨ seat.presence = (l₁.seats k).presence) →
        (l₁.seats slot).presence = some p := by
    intro k seat h hseat
    change (Function.update l₁.seats k seat slot).presence = some p at h
    by_cases hk : slot = k
    · rw [hk, Function.update_self] at h
      rcases hseat with hnone | hsame
      · rw [hnone] at h
        cases h
      · rw [hk, ← hsame, h]
    · rwa [Function.update_of_ne hk] at h
  cases hm with
  | adopt k presence hj huser =>
    obtain ⟨arrivals, tick, rfl, -⟩ := hj
    exact absurd rfl (hjoin arrivals tick)
  | vacate k presence now hleave hholds => exact hset hp (Or.inl rfl)
  | expire tick now messages answers hloop hphase hexpire =>
    rcases hexpire.seats slot with hs | ⟨-, -, hs⟩
    · rwa [hs] at hp
    · rwa [hs] at hp
  | surrender k message horder hholds hphase hconnected => exact hset hp (Or.inl rfl)
  | ready k message horder hholds hphase => exact hset hp (Or.inr rfl)
  | countdown hphase hjoined => exact hp
  | start tick now messages answers hloop hphase hready => exact hp
  | cancel hphase => exact hp
  | finish tick now messages answers hloop hphase => exact hp

/-- A user who sits in a slot, or has sat there before the countdown began, is known
to the match from then on. -/
structure Known (l : Lobby) : Prop where
  distinct : Function.Injective fun slot => (l.seats slot).userId
  seated : ∀ slot, (l.seats slot).presence.isSome = true →
    l.presenceByUser (l.seats slot).userId = some slot
  everybody : l.phase = .countdown ∨ l.phase = .playing → ∀ slot,
    l.presenceByUser (l.seats slot).userId = some slot

/-- A seat changes, and nobody comes to sit there. -/
theorem Known.setSeat {l : Lobby} (h : Known l) {slot : Slot} {seat : SlotSeat}
    (hu : seat.userId = (l.seats slot).userId)
    (hp : seat.presence.isSome = true → (l.seats slot).presence.isSome = true) :
    Known (l.setSeat slot seat) := by
  have huser : ∀ k, ((l.setSeat slot seat).seats k).userId = (l.seats k).userId ∧
      (((l.setSeat slot seat).seats k).presence.isSome = true →
        (l.seats k).presence.isSome = true) := by
    intro k
    change (Function.update l.seats slot seat k).userId = _ ∧
      ((Function.update l.seats slot seat k).presence.isSome = true → _)
    by_cases hk : k = slot
    · rw [hk, Function.update_self]
      exact ⟨hu, hp⟩
    · rw [Function.update_of_ne hk]
      exact ⟨rfl, fun h => h⟩
  refine ⟨?_, fun k hk => ?_, fun hphase k => ?_⟩
  · rw [funext fun k => (huser k).1]
    exact h.distinct
  · rw [(huser k).1]
    exact h.seated k ((huser k).2 hk)
  · rw [(huser k).1]
    exact h.everybody hphase k

theorem Known.move {e : Live2v2Event} {l l' : Lobby} (hm : LobbyMove e l l') (hok : LobbyOk l)
    (h : Known l) : Known l' := by
  cases hm with
  | adopt slot presence hjoin huser =>
    have hu : (l.seats slot).userId = presence.userId := by
      rcases huser with hb | hu
      · exact hok.bound _ slot hb
      · exact hu
    have huserId : ∀ k, ((l.adopt slot presence).seats k).userId = (l.seats k).userId := by
      intro k
      change (Function.update l.seats slot _ k).userId = _
      by_cases hk : k = slot
      · rw [hk, Function.update_self]
      · rw [Function.update_of_ne hk]
    have hknown : ∀ k, (k ≠ slot → l.presenceByUser (l.seats k).userId = some k) →
        (l.adopt slot presence).presenceByUser ((l.adopt slot presence).seats k).userId =
          some k := by
      intro k hk
      rw [huserId]
      change Function.update l.presenceByUser presence.userId (some slot) (l.seats k).userId = _
      by_cases hks : k = slot
      · rw [hks, hu, Function.update_self]
      · have hne : (l.seats k).userId ≠ presence.userId := fun he =>
          hks (h.distinct (he.trans hu.symm))
        rw [Function.update_of_ne hne]
        exact hk hks
    refine ⟨?_, fun k hk => hknown k fun hks => ?_, fun hphase k => hknown k fun _ => ?_⟩
    · rw [funext huserId]
      exact h.distinct
    · change (Function.update l.seats slot _ k).presence.isSome = true at hk
      rw [Function.update_of_ne hks] at hk
      exact h.seated k hk
    · exact h.everybody hphase k
  | vacate slot presence now hleave hholds => exact h.setSeat rfl fun hs => by cases hs
  | expire tick now messages answers hloop hphase hexpire =>
    have hseat : ∀ k, (l'.seats k).userId = (l.seats k).userId ∧
        (l'.seats k).presence = (l.seats k).presence := by
      intro k
      rcases hexpire.seats k with hs | ⟨-, -, hs⟩
      · rw [hs]
        exact ⟨rfl, rfl⟩
      · rw [hs]
        exact ⟨rfl, rfl⟩
    refine ⟨?_, fun k hk => ?_, fun hp k => ?_⟩
    · rw [funext fun k => (hseat k).1]
      exact h.distinct
    · rw [(hseat k).1, hexpire.presenceByUser]
      exact h.seated k ((hseat k).2 ▸ hk)
    · rw [(hseat k).1, hexpire.presenceByUser]
      exact h.everybody (hexpire.phase ▸ hp) k
  | surrender slot message horder hholds hphase hconnected =>
    exact h.setSeat rfl fun hs => by cases hs
  | ready slot message horder hholds hphase => exact h.setSeat rfl fun hs => hs
  | countdown hphase hjoined =>
    exact ⟨h.distinct, h.seated, fun _ slot => h.seated slot (hjoined slot)⟩
  | start tick now messages answers hloop hphase hready =>
    exact ⟨h.distinct, h.seated, fun _ => h.everybody (Or.inl hphase)⟩
  | cancel hphase =>
    exact ⟨h.distinct, h.seated, fun hp => by rcases hp with hp | hp <;> cases hp⟩
  | finish tick now messages answers hloop hphase =>
    exact ⟨h.distinct, h.seated, fun hp => by rcases hp with hp | hp <;> cases hp⟩

theorem NewMatch.known {s : Live2v2MatchState} (h : NewMatch s) : Known s.lobby := by
  refine ⟨h.users.distinct, fun slot hs => ?_, fun hp => ?_⟩
  · obtain ⟨userId, career, hslot⟩ := h.slots slot
    change (s.slots slot).seat.presence.isSome = true at hs
    rw [hslot] at hs
    cases hs
  · change s.phase = .countdown ∨ s.phase = .playing at hp
    rw [h.phase] at hp
    rcases hp with hp | hp <;> cases hp


/-! ### What a call says before the battle -/

section Calls

variable [MathLib]

omit [MathLib] in
/-- Outside of the battle a join says nothing. -/
theorem joinOne_quiet {s : Live2v2MatchState} (h : s.phase ≠ .playing) (presence : Presence)
    (displayName : Option String) : (s.joinOne presence displayName).sent = s.sent := by
  unfold joinOne
  split
  next slot hslot =>
    dsimp only
    have hphase : (s.adoptPresence slot presence).phase ≠ .playing := h
    rw [if_neg hphase]
    rfl
  · split
    · rfl
    · rfl

/-- The match does not play, and has told nobody that it starts. -/
structure Silent (s : Live2v2MatchState) : Prop where
  phase : s.phase = .waiting ∨ s.phase = .countdown ∨ s.phase = .cancelled
  untold : Untold s.sent

omit [MathLib] in
theorem Silent.send {s : Live2v2MatchState} (h : Silent s) (recipients : List Presence)
    {message : Live2v2ServerMessage} (hm : message.starts = none) :
    Silent (s.send recipients message) :=
  ⟨h.phase, h.untold.append (untold_single recipients hm)⟩

omit [MathLib] in
theorem Silent.cancel {s : Live2v2MatchState} (h : Silent s) : Silent s.cancelMatch :=
  ⟨Or.inr (Or.inr rfl), h.untold.append (untold_single _ rfl)⟩

omit [MathLib] in
theorem Silent.open {s : Live2v2MatchState} (h : Silent s) :
    s.phase ≠ .playing ∧ s.phase ≠ .finished := by
  rcases h.phase with hp | hp | hp <;> (rw [hp]; decide)

omit [MathLib] in
theorem Silent.matchJoin {s : Live2v2MatchState} (h : Silent s)
    (arrivals : List (Presence × Option String)) (tick : ℤ) : Silent (s.matchJoin arrivals tick) := by
  have hall := foldl_preserves (l := arrivals) (f := fun t a => t.joinOne a.1 a.2) (P := Silent)
    (fun t a _ ht => by
      refine ⟨?_, ?_⟩
      · rw [(joinOne_battle t a.1 a.2).1]
        exact ht.phase
      · rw [joinOne_quiet ht.open.1]
        exact ht.untold) h
  unfold Live2v2MatchState.matchJoin
  dsimp only
  split
  · exact ⟨Or.inr (Or.inl rfl), hall.untold⟩
  · exact hall

omit [MathLib] in
theorem Silent.matchLeave {s : Live2v2MatchState} (h : Silent s) (presences : List Presence)
    (now : ℤ) : Silent (s.matchLeave presences now) := by
  refine ⟨?_, ?_⟩
  · rw [(matchLeave_battle s presences now).1]
    exact h.phase
  · unfold Live2v2MatchState.matchLeave
    split
    · exact h.untold
    · refine foldl_preserves (P := fun t : Live2v2MatchState => Untold t.sent)
        (fun t p _ ht => ?_) h.untold
      unfold leaveOne
      split
      · exact ht
      split
      · exact ht
      split
      · exact ht
      · exact ht

theorem Silent.handleMessage {s : Live2v2MatchState} (h : Silent s) (message : Live2v2Message)
    (serverSeq : ℤ) (answers : Answers) :
    Silent (s.handleMessage message serverSeq answers) := by
  have hreject : ∀ code, Silent (s.rejectCommand message code) := fun code => h.send _ rfl
  obtain ⟨hplay, hfin⟩ := h.open
  unfold Live2v2MatchState.handleMessage
  split
  · exact hreject _
  split
  · exact hreject _
  split
  · unfold handleDispatch
    rw [if_pos hplay]
    exact hreject _
  split
  · unfold handleReady
    split
    · exact hreject _
    · exact ⟨h.phase, h.untold⟩
  split
  · unfold handleSurrender
    split
    · exact h.cancel
    · exact h.cancel
    next hp => exact absurd hp hplay
    · exact hreject _
  split
  · unfold handleRematchVote
    rw [if_pos (Or.inl hfin)]
    exact hreject _
  · exact hreject _

theorem Silent.handleMessages {s : Live2v2MatchState} (h : Silent s)
    (messages : List Live2v2Message) (answers : Answers) :
    Silent (s.handleMessages messages answers) := by
  have hall := foldl_preserves (l := messages.zipIdx)
    (f := fun t m => t.handleMessage m.1 (s.serverSeq + m.2 + 1) answers) (P := Silent)
    (fun t m _ ht => ht.handleMessage m.1 _ answers) h
  exact ⟨hall.phase, hall.untold⟩

/-- The end of such a call. -/
theorem afterMessages_silent {t : Live2v2MatchState} (h : Silent t)
    (hmap : t.battlefieldId = live2v2BattlefieldId) (tick now : ℤ) (answers : Answers) :
    Silent (t.afterMessages tick now answers).1 ∨
      ∃ u : Live2v2MatchState, (t.afterMessages tick now answers).1 =
        (u.startMatch now).playTick now answers ∧ u.battlefieldId = live2v2BattlefieldId := by
  have hstart : t.advancePhase tick now = t.startMatch now ∨ Silent (t.advancePhase tick now) := by
    unfold advancePhase
    split
    · split
      · exact Or.inr ⟨Or.inr (Or.inl rfl), h.untold⟩
      split
      · exact Or.inr h.cancel
      · exact Or.inr h
    · split
      · exact Or.inl rfl
      split
      · split
        · exact Or.inl rfl
        · exact Or.inr h.cancel
      · exact Or.inr h
    · exact Or.inr h
  unfold afterMessages
  rw [if_neg h.open.2]
  dsimp only
  rcases hstart with hstart | hsilent
  · rw [hstart, if_pos (startMatch_playTick hmap now answers).1]
    exact Or.inr ⟨t, rfl, hmap⟩
  · rw [if_neg hsilent.open.1]
    exact Or.inl hsilent

/-- **A call of the loop before the battle** tells nobody that the match starts, or it
starts the match and plays the first tick. -/
theorem matchLoop_silent {s : Live2v2MatchState} (h : Silent s) (hplay : PlayOk s) (tick : ℕ)
    (now : ℤ) (messages : List Live2v2Message) (answers : Answers) :
    Silent (s.matchLoop tick now messages answers).1 ∨
      ∃ t : Live2v2MatchState, (s.matchLoop tick now messages answers).1 =
        (t.startMatch now).playTick now answers ∧ t.battlefieldId = live2v2BattlefieldId := by
  by_cases hc : s.phase = .cancelled
  · have hover : s.matchLoop tick now messages answers = ({ s with tick := tick }, false) := by
      unfold Live2v2MatchState.matchLoop
      exact if_pos hc
    rw [hover]
    exact Or.inl ⟨h.phase, h.untold⟩
  have hwaits : s.phase = .waiting ∨ s.phase = .countdown := by
    rcases h.phase with hp | hp | hp
    · exact Or.inl hp
    · exact Or.inr hp
    · exact absurd hp hc
  have hread : Silent (messagesRead s tick messages answers) := by
    have htick : Silent { s with tick := tick } := ⟨h.phase, h.untold⟩
    exact htick.handleMessages messages answers
  have hmap : (messagesRead s tick messages answers).battlefieldId = live2v2BattlefieldId :=
    (changes_preserve (fun _ _ hc hs => PlayOk.change hc hs)
      ((changes_tick s tick).trans (handleMessages_changes _ messages answers)) hplay).map
  rw [matchLoop_waits hwaits]
  generalize messagesRead s tick messages answers = t at hread hmap
  exact afterMessages_silent hread hmap tick now answers

end Calls


/-! ### What a call says in the battle -/

/-- Every session in a slot was told that the match starts. -/
def AllTold (s : Live2v2MatchState) : Prop :=
  ∀ slot p, (s.slots slot).presence = some p → Told s.sent p

/-- Nobody new sits in a slot, and what was said stays said. -/
theorem AllTold.later {s s' : Live2v2MatchState} (h : AllTold s) (hsent : s.sent <+: s'.sent)
    (hp : ∀ slot p, (s'.slots slot).presence = some p → (s.slots slot).presence = some p) :
    AllTold s' :=
  fun slot p hs => (h slot p (hp slot p hs)).mono hsent

/-- The start of a match is sent to every session. -/
theorem allTold_broadcast (s : Live2v2MatchState) : AllTold s.broadcastMatchStarted := by
  intro slot p hp
  refine ⟨([p], s.matchStartedPayload slot), ?_, List.mem_singleton_self p, rfl⟩
  refine List.mem_append_right _ (List.mem_filterMap.mpr ⟨slot, Slot.mem_all slot, ?_⟩)
  change (s.slots slot).presence = some p at hp
  rw [hp]
  rfl

section Calls

variable [MathLib]

theorem allTold_start {s : Live2v2MatchState} (hmap : s.battlefieldId = live2v2BattlefieldId)
    (now : ℤ) (answers : Answers) :
    ((s.startMatch now).playTick now answers).phase = .playing ∧
      AllTold ((s.startMatch now).playTick now answers) := by
  obtain ⟨hphase, hlobby⟩ := startMatch_playTick hmap now answers
  have hstarted : AllTold (s.startMatch now) ∧ (s.startMatch now).lobby.seats = s.lobby.seats := by
    obtain ⟨initialState, hset, -⟩ := createInitial2v2State_start hmap
    unfold startMatch
    rw [hset]
    exact ⟨allTold_broadcast _, rfl⟩
  have hsent : (s.startMatch now).sent <+: ((s.startMatch now).playTick now answers).sent :=
    sent_moves ((stepped_moves _ hphase).trans
      (moves_of_changes (playTick_changes _ now answers hphase)))
  refine ⟨congrArg Lobby.phase hlobby, hstarted.1.later hsent fun slot p hp => ?_⟩
  have hseats := congrArg (fun l : Lobby => (l.seats slot).presence) hlobby
  change (((s.startMatch now).playTick now answers).slots slot).presence =
    (s.lobby.seats slot).presence at hseats
  change ((s.startMatch now).lobby.seats slot).presence = some p
  rw [hstarted.2, ← hseats, hp]

omit [MathLib] in
/-- A session that comes back to the battle is told. -/
theorem AllTold.joinOne {s : Live2v2MatchState} (h : AllTold s) (hphase : s.phase = .playing)
    (hknown : Known s.lobby) (presence : Presence) (displayName : Option String) :
    AllTold (s.joinOne presence displayName) := by
  unfold Live2v2MatchState.joinOne
  split
  next slot hslot =>
    dsimp only
    have hplay : (s.adoptPresence slot presence).phase = .playing := hphase
    have hself : ((s.adoptPresence slot presence).slots slot).presence = some presence := by
      change (Function.update s.slots slot _ slot).presence = _
      rw [Function.update_self]
    rw [if_pos hplay]
    unfold resyncRejoinedSlot
    rw [hself]
    intro k p hp
    change ((s.adoptPresence slot presence).slots k).presence = some p at hp
    by_cases hk : k = slot
    · rw [hk, hself] at hp
      cases hp
      exact ⟨_, List.mem_append_right _ (List.mem_singleton_self _), List.mem_singleton_self _, rfl⟩
    · refine (h k p ?_).mono (List.prefix_append s.sent _)
      change (Function.update s.slots slot _ k).presence = some p at hp
      rwa [Function.update_of_ne hk] at hp
  next hnone =>
    split
    · exact h
    next slot hslot =>
      -- The user of an empty slot is known to a match that plays.
      have hfound := List.find?_some hslot
      rw [Bool.and_eq_true] at hfound
      have huser : (s.slots slot).userId = presence.userId := of_decide_eq_true hfound.1
      have hsome : s.presenceByUser (s.slots slot).userId = some slot :=
        hknown.everybody (Or.inr hphase) slot
      rw [huser, hnone] at hsome
      cases hsome

omit [MathLib] in
theorem allTold_matchJoin {s : Live2v2MatchState} (h : AllTold s) (hphase : s.phase = .playing)
    (hok : LobbyOk s.lobby) (hknown : Known s.lobby) (arrivals : List (Presence × Option String))
    (tick : ℕ) : AllTold (s.matchJoin arrivals tick) := by
  have hall := foldl_preserves (l := arrivals) (f := fun t a => t.joinOne a.1 a.2)
    (P := fun t : Live2v2MatchState => AllTold t ∧ t.phase = .playing ∧ LobbyOk t.lobby ∧
      Known t.lobby) (fun t a ha ht => ?_) ⟨h, hphase, hok, hknown⟩
  · unfold Live2v2MatchState.matchJoin
    dsimp only
    have hplay := hall.2.1
    rw [hplay]
    exact hall.1
  · obtain ⟨htold, hp, hok, hk⟩ := ht
    have hmoves : LobbyMoves (.join arrivals tick) t.lobby (t.joinOne a.1 a.2).lobby :=
      joinOne_lobby t a.1 a.2 ⟨arrivals, tick, rfl, List.mem_map_of_mem ha⟩
    have hkeep := lobbyMoves_preserve (P := fun l => LobbyOk l ∧ Known l)
      (fun l l' hm hl => ⟨hl.1.move hm, hl.2.move hm hl.1⟩) hmoves ⟨hok, hk⟩
    exact ⟨htold.joinOne hp hk a.1 a.2, (joinOne_battle t a.1 a.2).1.trans hp, hkeep.1, hkeep.2⟩

end Calls


/-! ### Every run -/

/-- The match was in its battle in some state of the run. -/
def Played [MathLib] (start : Live2v2Run) (events : List Live2v2Event) : Prop :=
  ∃ before, before <+: events ∧ (before.foldl Live2v2Run.step start).live.phase = .playing

/-- What was said when a match that had been played was cancelled. -/
def ToldOff (sent : List (List Presence × Live2v2ServerMessage)) : Prop :=
  ∃ early recipients matchId, sent = early ++ [(recipients, .matchCancelled matchId)] ∧
    (∀ m ∈ early, m.2.cancels = none) ∧ ∀ p ∈ recipients, Told early p

section Run

variable [MathLib]

/-- **What a match has told its players**, along a run: nothing before it was played,
each of them during the battle, and each of them before it was cancelled if it had been
played. -/
structure CancelOk (start : Live2v2Run) (events : List Live2v2Event) (r : Live2v2Run) :
    Prop where
  play : PlayOk r.live
  lobby : LobbyOk r.live.lobby
  known : Known r.live.lobby
  spoken : Spoken start.live.matchId r.live
  silent : ¬ Played start events → Silent r.live
  begun : Played start events → r.live.phase ≠ .waiting ∧ r.live.phase ≠ .countdown
  told : r.live.phase = .playing → AllTold r.live
  toldOff : Played start events → r.live.phase = .cancelled → ToldOff r.live.sent

theorem Played.later {start : Live2v2Run} {events : List Live2v2Event} (h : Played start events)
    (e : Live2v2Event) : Played start (events ++ [e]) := by
  obtain ⟨before, hb, hp⟩ := h
  exact ⟨before, hb.trans (List.prefix_append events [e]), hp⟩

theorem played_snoc {start : Live2v2Run} {events : List Live2v2Event} {e : Live2v2Event}
    (h : ((events.foldl Live2v2Run.step start).step e).live.phase = .playing) :
    Played start (events ++ [e]) :=
  ⟨events ++ [e], List.prefix_rfl, by rwa [List.foldl_append]⟩

/-- A match of which nobody was told that it starts is not told so, or starts. -/
theorem step_silent {r : Live2v2Run} (h : Silent r.live) (hplay : PlayOk r.live)
    (e : Live2v2Event) : Silent (r.step e).live ∨
      ((r.step e).live.phase = .playing ∧ AllTold (r.step e).live) := by
  unfold Live2v2Run.step
  split
  · exact Or.inl h
  cases e with
  | attempt presence =>
    dsimp only
    split
    · exact Or.inl h
    · exact Or.inl h
  | join arrivals tick =>
    dsimp only
    split
    · exact Or.inl (h.matchJoin arrivals tick)
    · exact Or.inl h
  | leave presences now => exact Or.inl (h.matchLeave presences now)
  | loop tick now messages answers =>
    dsimp only
    rcases matchLoop_silent h hplay tick now messages answers with hs | ⟨t, ht, hmap⟩
    · exact Or.inl hs
    · rw [ht]
      exact Or.inr (allTold_start hmap now answers)
  | terminate =>
    dsimp only
    unfold matchTerminate
    split
    · exact Or.inl h.cancel
    · exact Or.inl h


/-- Once a match is cancelled nothing more is said. -/
theorem step_cancelled_sent {r : Live2v2Run} (h : r.live.phase = .cancelled) (e : Live2v2Event) :
    (r.step e).live.sent = r.live.sent := by
  have hnot : r.live.phase ≠ .playing := by
    rw [h]
    decide
  unfold Live2v2Run.step
  split
  · rfl
  cases e with
  | attempt presence =>
    dsimp only
    split
    · rfl
    · rfl
  | join arrivals tick =>
    dsimp only
    split
    · have hall := foldl_preserves (l := arrivals) (f := fun t a => t.joinOne a.1 a.2)
        (P := fun t : Live2v2MatchState => t.phase = .cancelled ∧ t.sent = r.live.sent)
        (fun t a _ ht => by
          have hphase : t.phase ≠ .playing := by
            rw [ht.1]
            decide
          exact ⟨(joinOne_battle t a.1 a.2).1.trans ht.1,
            (joinOne_quiet hphase a.1 a.2).trans ht.2⟩) ⟨h, rfl⟩
      unfold Live2v2MatchState.matchJoin
      dsimp only
      split
      · exact hall.2
      · exact hall.2
    · rfl
  | leave presences now =>
    change (r.live.matchLeave presences now).sent = _
    unfold Live2v2MatchState.matchLeave
    rw [if_pos (Or.inr h)]
  | loop tick now messages answers =>
    change (r.live.matchLoop tick now messages answers).1.sent = _
    unfold Live2v2MatchState.matchLoop
    dsimp only
    rw [if_pos h]
  | terminate =>
    change r.live.matchTerminate.sent = _
    unfold matchTerminate
    rw [h]
    rfl

omit [MathLib] in
/-- Only the end of the server cancels a match that is played. -/
theorem lobbyMoves_playing {e : Live2v2Event} (he : e ≠ .terminate) {l l' : Lobby}
    (hm : LobbyMoves e l l') (h : l.phase = .playing) : l'.phase ≠ .cancelled := by
  have hkeep := lobbyMoves_preserve (P := fun l => l.phase = .playing ∨ l.phase = .finished)
    (fun l₁ l₂ hm hl => ?_) hm (Or.inl h)
  · rcases hkeep with hp | hp <;> (rw [hp]; decide)
  cases hm with
  | adopt slot presence hjoin huser => exact hl
  | vacate slot presence now hleave hholds => exact hl
  | expire tick now messages answers hloop hphase hexpire => exact Or.inl (hexpire.phase.trans hphase)
  | surrender slot message horder hholds hphase hconnected => exact hl
  | ready slot message horder hholds hphase => exact hl
  | countdown hphase hjoined =>
    rw [hphase] at hl
    rcases hl with hl | hl <;> cases hl
  | start tick now messages answers hloop hphase hready => exact Or.inl rfl
  | cancel hphase =>
    rcases hphase with hp | hp | ⟨-, hend⟩
    · rw [hp] at hl
      rcases hl with hl | hl <;> cases hl
    · rw [hp] at hl
      rcases hl with hl | hl <;> cases hl
    · exact absurd hend he
  | finish tick now messages answers hloop hphase => exact Or.inr rfl

/-- A session that sits in a slot of the battle after a call was told. -/
theorem step_allTold {r : Live2v2Run} (h : r.live.phase = .playing → AllTold r.live)
    (hplay : PlayOk r.live) (hok : LobbyOk r.live.lobby) (hknown : Known r.live.lobby)
    (hsilent : r.live.phase = .countdown → Silent r.live) {e : Live2v2Event}
    (hp : (r.step e).live.phase = .playing) : AllTold (r.step e).live := by
  by_cases hphase : r.live.phase = .playing
  · by_cases hjoin : ∃ arrivals tick, e = .join arrivals tick
    · obtain ⟨arrivals, tick, rfl⟩ := hjoin
      unfold Live2v2Run.step
      split
      · exact h hphase
      · dsimp only
        split
        · exact allTold_matchJoin (h hphase) hphase hok hknown arrivals tick
        · exact h hphase
    · have hne : ∀ arrivals tick, e ≠ .join arrivals tick := fun arrivals tick he =>
        hjoin ⟨arrivals, tick, he⟩
      exact (h hphase).later (sent_moves (step_moves r e)) fun slot p hs =>
        lobbyMoves_presence hne (step_lobby r e) hs
  · obtain ⟨tick, now, messages, answers, rfl, hr, hcount, -⟩ := enters_loop hplay ⟨hphase, hp⟩
    rcases step_silent (hsilent hcount) hplay (.loop tick now messages answers) with hs | hs
    · exact absurd hp hs.open.1
    · exact hs.2

/-- What is said when the server shuts a match down that is played. -/
theorem toldOff_terminate {r : Live2v2Run} {matchId : String} (h : r.live.phase = .playing)
    (htold : AllTold r.live) (hspoken : Spoken matchId r.live)
    (hc : (r.step .terminate).live.phase = .cancelled) : ToldOff (r.step .terminate).live.sent := by
  unfold Live2v2Run.step at hc ⊢
  split at hc
  · rw [h] at hc
    cases hc
  next hr =>
  rw [if_neg hr]
  change ToldOff r.live.matchTerminate.sent
  unfold matchTerminate
  rw [if_pos (Or.inl h)]
  refine ⟨r.live.sent, r.live.connectedPresences, r.live.matchId, rfl, hspoken.open ?_,
    fun p hp => ?_⟩
  · rw [h]
    decide
  · obtain ⟨slot, -, hslot⟩ := List.mem_filterMap.mp hp
    exact htold slot p hslot

theorem CancelOk.step {start : Live2v2Run} {events : List Live2v2Event} {e : Live2v2Event}
    (h : CancelOk start events (events.foldl Live2v2Run.step start)) :
    CancelOk start (events ++ [e]) ((events.foldl Live2v2Run.step start).step e) := by
  generalize hr : events.foldl Live2v2Run.step start = r at h
  have hplayed : Played start (events ++ [e]) → Played start events ∨
      (r.step e).live.phase = .playing := by
    rintro ⟨before, hb, hp⟩
    rcases List.prefix_concat_iff.mp hb with rfl | hb
    · rw [List.foldl_append, hr] at hp
      exact Or.inr hp
    · exact Or.inl ⟨before, hb, hp⟩
  have hsnoc : (r.step e).live.phase = .playing → Played start (events ++ [e]) := by
    rw [← hr]
    exact played_snoc
  have hwait : r.live.phase = .waiting ∨ r.live.phase = .countdown → ¬ Played start events := by
    intro hp hplayed
    have hbegun := h.begun hplayed
    rcases hp with hp | hp
    · exact hbegun.1 hp
    · exact hbegun.2 hp
  refine
    { play := step_preserves (fun _ _ hm hs => PlayOk.move hm hs) e h.play
      lobby := step_keepsLobby (fun _ _ _ hm hl => hl.move hm) e h.lobby
      known := ?_
      spoken := step_preserves (fun _ _ hm hs => Spoken.move hm hs) e h.spoken
      silent := fun hnot => ?_
      begun := fun hp => ?_
      told := step_allTold h.told h.play h.lobby h.known fun hc => h.silent (hwait (Or.inr hc))
      toldOff := fun hp hc => ?_ }
  · exact (step_keepsLobby (P := fun l => LobbyOk l ∧ Known l)
      (fun _ _ _ hm hl => ⟨hl.1.move hm, hl.2.move hm hl.1⟩) e ⟨h.lobby, h.known⟩).2
  · rcases step_silent (h.silent fun hp => hnot (hp.later e)) h.play e with hs | hs
    · exact hs
    · exact absurd (hsnoc hs.1) hnot
  · rcases hplayed hp with hp | hp
    · exact step_begun (h.begun hp) e
    · rw [hp]
      decide
  · rcases hplayed hp with hp | hp
    · have hbegun := h.begun hp
      cases hphase : r.live.phase with
      | waiting => exact absurd hphase hbegun.1
      | countdown => exact absurd hphase hbegun.2
      | playing =>
        by_cases he : e = .terminate
        · subst he
          exact toldOff_terminate hphase (h.told hphase) h.spoken hc
        · exact absurd hc (lobbyMoves_playing he (step_lobby r e) hphase)
      | finished =>
        have hstays := step_over (Or.inl rfl) hphase e
        rw [hstays] at hc
        cases hc
      | cancelled =>
        rw [step_cancelled_sent hphase e]
        exact h.toldOff hp hphase
    · rw [hp] at hc
      cases hc

/-- In every run a match keeps to it. -/
theorem cancelOk_run {s : Live2v2MatchState} (h : NewMatch s) (events : List Live2v2Event) :
    CancelOk (.start s) events (events.foldl Live2v2Run.step (.start s)) := by
  refine history (H := CancelOk (.start s)) ?_ (fun before e hb => hb.step) events
  have hnot : ¬ Played (.start s) [] := by
    rintro ⟨before, hb, hp⟩
    rw [List.prefix_nil.mp hb] at hp
    change s.phase = .playing at hp
    rw [h.phase] at hp
    cases hp
  have hempty : Untold s.sent := by
    intro m hm
    rw [h.sent] at hm
    cases hm
  refine
    { play := h.playOk
      lobby := h.lobbyOk
      known := h.known
      spoken := ⟨rfl, fun m hm => ?_, fun m hm => ?_⟩
      silent := fun _ => ⟨Or.inl h.phase, hempty⟩
      begun := fun hp => absurd hp hnot
      told := fun hp => ?_
      toldOff := fun hp => absurd hp hnot }
  · change m ∈ s.sent at hm
    rw [h.sent] at hm
    cases hm
  · change m ∈ s.sent at hm
    rw [h.sent] at hm
    cases hm
  · change s.phase = .playing at hp
    rw [h.phase] at hp
    cases hp

end Run

end CrownClash.Go
