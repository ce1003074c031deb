import CrownClash.Go.Live2v2Run

/-!
# Server: who sits where in a 2v2 match

Who is connected to a slot, since when somebody is missing from it, and who has
given up is decided by four callbacks: joins, leaves, the messages and the scan
for expired reconnect windows.  `Lobby` is that part of a match, and `LobbyMove`
lists what can happen to it, each time with the call that does it.
`step_lobby` says that a call does nothing else; what holds of the seats of a
match is then shown for the moves.
-/

namespace CrownClash.Go

open Lib Live2v2MatchState

/-- A slot as a seat. -/
structure SlotSeat where
  userId : String
  teamId : TeamId
  presence : Option Presence
  connected : Bool
  disconnectedAt : Option ℤ
  abandoned : Bool
  surrendered : Bool
  ready : Bool

def Live2v2SlotState.seat (slotState : Live2v2SlotState) : SlotSeat where
  userId := slotState.userId
  teamId := slotState.teamId
  presence := slotState.presence
  connected := slotState.connected
  disconnectedAt := slotState.disconnectedAt
  abandoned := slotState.abandoned
  surrendered := slotState.surrendered
  ready := slotState.ready

structure Lobby where
  phase : Live2v2Phase
  seats : Slot → SlotSeat
  presenceByUser : String → Option Slot

def Live2v2MatchState.lobby (s : Live2v2MatchState) : Lobby where
  phase := s.phase
  seats slot := (s.slots slot).seat
  presenceByUser := s.presenceByUser

/-- The user of the seat gave up for good or came back too late. -/
def SlotSeat.gone (seat : SlotSeat) : Prop := seat.abandoned = true ∨ seat.surrendered = true

namespace Lobby

def setSeat (l : Lobby) (slot : Slot) (seat : SlotSeat) : Lobby :=
  { l with seats := Function.update l.seats slot seat }

/-- A session takes its user's seat. -/
def adopt (l : Lobby) (slot : Slot) (presence : Presence) : Lobby where
  phase := l.phase
  seats := Function.update l.seats slot
    { l.seats slot with
      presence := some presence
      connected := true
      disconnectedAt := none }
  presenceByUser := Function.update l.presenceByUser presence.userId (some slot)

/-- The session of a seat is gone. -/
def vacate (l : Lobby) (slot : Slot) (now : ℤ) : Lobby :=
  l.setSeat slot
    { l.seats slot with
      presence := none
      connected := false
      disconnectedAt := some now }

/-- The user of a seat gives up. -/
def surrender (l : Lobby) (slot : Slot) : Lobby :=
  l.setSeat slot
    { l.seats slot with
      surrendered := true
      connected := false
      presence := none }

def ready (l : Lobby) (slot : Slot) : Lobby :=
  l.setSeat slot { l.seats slot with ready := true }

/-- The reconnect window of a seat is over. -/
def Expired (seat : SlotSeat) (now : ℤ) : Prop :=
  seat.connected = false ∧ ∃ since, seat.disconnectedAt = some since ∧
    live2v2ReconnectGraceSeconds * second < now - since

/-- The seats of an expired window are abandoned, and no others. -/
structure Expire (l l' : Lobby) (now : ℤ) : Prop where
  phase : l'.phase = l.phase
  presenceByUser : l'.presenceByUser = l.presenceByUser
  seats : ∀ slot, l'.seats slot = l.seats slot ∨
    ((l.seats slot).surrendered = false ∧ Expired (l.seats slot) now ∧
      l'.seats slot = { l.seats slot with abandoned := true })

/-- The session that sends a message is the one that holds the slot. -/
def Holds (l : Lobby) (slot : Slot) (sender : Presence) : Prop :=
  l.presenceByUser sender.userId = some slot ∧
    ∃ active, (l.seats slot).presence = some active ∧ active.sessionId = sender.sessionId

end Lobby

/-- A message of the call orders `type`. -/
def Orders (e : Live2v2Event) (message : Live2v2Message) (type : String) : Prop :=
  ∃ tick now messages answers, e = .loop tick now messages answers ∧ message ∈ messages ∧
    ∃ payload, readPayload message = some payload ∧ payload.type = type

/-- **What a call can do to the lobby of a match**, one thing at a time. -/
inductive LobbyMove (e : Live2v2Event) : Lobby → Lobby → Prop
  | adopt {l : Lobby} (slot : Slot) (presence : Presence)
    (hjoin : ∃ arrivals tick, e = .join arrivals tick ∧ presence ∈ arrivals.map Prod.fst)
    (huser : l.presenceByUser presence.userId = some slot ∨
      (l.seats slot).userId = presence.userId) : LobbyMove e l (l.adopt slot presence)
  | vacate {l : Lobby} (slot : Slot) (presence : Presence) (now : ℤ)
    (hleave : ∃ presences, e = .leave presences now ∧ presence ∈ presences)
    (hholds : l.Holds slot presence) : LobbyMove e l (l.vacate slot now)
  | expire {l l' : Lobby} (tick : ℕ) (now : ℤ) (messages : List Live2v2Message) (answers : Answers)
    (hloop : e = .loop tick now messages answers) (hphase : l.phase = .playing)
    (h : l.Expire l' now) : LobbyMove e l l'
  | surrender {l : Lobby} (slot : Slot) (message : Live2v2Message)
    (horder : Orders e message "surrender") (hholds : l.Holds slot message.sender)
    (hphase : l.phase = .playing) (hconnected : (l.seats slot).connected = true) :
    LobbyMove e l (l.surrender slot)
  | ready {l : Lobby} (slot : Slot) (message : Live2v2Message) (horder : Orders e message "ready")
    (hholds : l.Holds slot message.sender) (hphase : l.phase = .waiting ∨ l.phase = .countdown) :
    LobbyMove e l (l.ready slot)
  | countdown {l : Lobby} (hphase : l.phase = .waiting)
    (hjoined : ∀ slot, (l.seats slot).presence.isSome = true) :
    LobbyMove e l { l with phase := .countdown }
  | start {l : Lobby} (tick : ℕ) (now : ℤ) (messages : List Live2v2Message) (answers : Answers)
    (hloop : e = .loop tick now messages answers) (hphase : l.phase = .countdown)
    (h : (∀ slot, (l.seats slot).ready = true) ∨
      ∀ slot, (l.seats slot).presence.isSome = true) :
    LobbyMove e l { l with phase := .playing }
  | cancel {l : Lobby} (hphase : l.phase = .waiting ∨ l.phase = .countdown ∨
      (l.phase = .playing ∧ e = .terminate)) : LobbyMove e l { l with phase := .cancelled }
  | finish {l : Lobby} (tick : ℕ) (now : ℤ) (messages : List Live2v2Message) (answers : Answers)
    (hloop : e = .loop tick now messages answers) (hphase : l.phase = .playing) :
    LobbyMove e l { l with phase := .finished }

/-- One move after the other. -/
abbrev LobbyMoves (e : Live2v2Event) : Lobby → Lobby → Prop := Relation.ReflTransGen (LobbyMove e)

/-- What every move of a call keeps, its moves keep. -/
theorem lobbyMoves_preserve {e : Live2v2Event} {P : Lobby → Prop}
    (h : ∀ l l', LobbyMove e l l' → P l → P l') {l l' : Lobby} (hm : LobbyMoves e l l')
    (hp : P l) : P l' := by
  induction hm with
  | refl => exact hp
  | tail _ hlast ih => exact h _ _ hlast ih

/-! ### Operations that leave the lobby alone -/

theorem lobby_setSlot (s : Live2v2MatchState) (slot : Slot) (slotState : Live2v2SlotState) :
    (s.setSlot slot slotState).lobby = s.lobby.setSeat slot slotState.seat := by
  unfold Live2v2MatchState.lobby setSlot Lobby.setSeat
  dsimp only
  congr 1
  funext k
  by_cases hk : k = slot
  · subst hk
    rw [Function.update_self, Function.update_self]
  · rw [Function.update_of_ne hk, Function.update_of_ne hk]

theorem setSeat_self (l : Lobby) (slot : Slot) : l.setSeat slot (l.seats slot) = l := by
  unfold Lobby.setSeat
  rw [Function.update_eq_self]

/-! ### Joins and leaves -/

theorem joinOne_lobby {e : Live2v2Event} (s : Live2v2MatchState) (presence : Presence)
    (displayName : Option String)
    (hjoin : ∃ arrivals tick, e = .join arrivals tick ∧ presence ∈ arrivals.map Prod.fst) :
    LobbyMoves e s.lobby (s.joinOne presence displayName).lobby := by
  unfold joinOne
  cases hu : s.presenceByUser presence.userId with
  | some slot =>
    have hadopt : (s.adoptPresence slot presence).lobby = s.lobby.adopt slot presence := by
      unfold adoptPresence
      rw [lobby_setSlot]
      have hsame : Function.update s.lobby.presenceByUser presence.userId (some slot)
          = s.lobby.presenceByUser := by
        rw [← hu]
        exact Function.update_eq_self _ _
      unfold Lobby.adopt
      rw [hsame]
      rfl
    have hmove : LobbyMoves e s.lobby (s.adoptPresence slot presence).lobby := by
      rw [hadopt]
      exact .single (.adopt slot presence hjoin (Or.inl hu))
    dsimp only
    split
    · unfold resyncRejoinedSlot
      cases ((s.adoptPresence slot presence).slots slot).presence with
      | none => exact hmove
      | some p => exact hmove
    · exact hmove
  | none =>
    cases hs : s.emptySlotForUser presence.userId with
    | none => exact .refl
    | some slot =>
      have hfound := List.find?_some hs
      rw [Bool.and_eq_true] at hfound
      have huser : (s.lobby.seats slot).userId = presence.userId := of_decide_eq_true hfound.1
      refine .single ?_
      have hmove := LobbyMove.adopt (l := s.lobby) slot presence hjoin (Or.inr huser)
      dsimp only
      unfold adoptPresence
      have hlobby : ({ (s.setSlot slot { s.slots slot with
            displayName := displayName.getD presence.username }).setSlot slot
            { (s.setSlot slot { s.slots slot with
                displayName := displayName.getD presence.username }).slots slot with
              presence := some presence
              connected := true
              disconnectedAt := none } with
          presenceByUser := Function.update s.presenceByUser presence.userId (some slot)
          }).lobby = s.lobby.adopt slot presence := by
        unfold Live2v2MatchState.lobby Lobby.adopt setSlot
        dsimp only
        congr 1
        funext k
        by_cases hk : k = slot
        · subst hk
          rw [Function.update_self, Function.update_self, Function.update_self]
          rfl
        · rw [Function.update_of_ne hk, Function.update_of_ne hk, Function.update_of_ne hk]
      exact hlobby ▸ hmove

theorem Slot.mem_all : ∀ slot, slot ∈ Slot.all := by decide

/-- Every slot has a session. -/
theorem allSlotsJoined_iff {s : Live2v2MatchState} :
    s.allSlotsJoined = true ↔ ∀ slot, (s.lobby.seats slot).presence.isSome = true := by
  unfold allSlotsJoined
  rw [List.all_eq_true]
  constructor
  · intro h slot
    exact h slot (Slot.mem_all slot)
  · intro h slot _
    exact h slot

theorem startCountdown_lobby {e : Live2v2Event} (s : Live2v2MatchState) (tick : ℤ)
    (hphase : s.phase = .waiting) (hjoined : s.allSlotsJoined = true) :
    LobbyMoves e s.lobby (s.startCountdown tick).lobby :=
  .single (.countdown hphase (allSlotsJoined_iff.mp hjoined))

theorem matchJoin_lobby (s : Live2v2MatchState) (arrivals : List (Presence × Option String))
    (tick : ℕ) :
    LobbyMoves (.join arrivals tick) s.lobby (s.matchJoin arrivals tick).lobby := by
  have hall : ∀ (rest : List (Presence × Option String)) (s : Live2v2MatchState),
      (∀ a ∈ rest, a ∈ arrivals) → LobbyMoves (.join arrivals tick) s.lobby
        (rest.foldl (fun s a => s.joinOne a.1 a.2) s).lobby := by
    intro rest
    induction rest with
    | nil => intro s _; exact .refl
    | cons a rest ih =>
      intro s hrest
      have hfirst := joinOne_lobby s a.1 a.2
        ⟨arrivals, tick, rfl, List.mem_map_of_mem (hrest a List.mem_cons_self)⟩
      exact hfirst.trans (ih _ fun b hb => hrest b (List.mem_cons_of_mem a hb))
  unfold Live2v2MatchState.matchJoin
  dsimp only
  split
  · next hw =>
    rw [Bool.and_eq_true] at hw
    exact (hall arrivals s fun _ h => h).trans
      (startCountdown_lobby _ tick (of_decide_eq_true hw.1) hw.2)
  · exact hall arrivals s fun _ h => h

theorem leaveOne_lobby {e : Live2v2Event} (s : Live2v2MatchState) (presence : Presence) (now : ℤ)
    (hleave : ∃ presences, e = .leave presences now ∧ presence ∈ presences) :
    LobbyMoves e s.lobby (leaveOne now s presence).lobby := by
  unfold leaveOne
  cases hu : s.presenceByUser presence.userId with
  | none => exact .refl
  | some slot =>
    dsimp only
    cases hp : (s.slots slot).presence with
    | none => exact .refl
    | some active =>
      dsimp only
      split
      · exact .refl
      · next hsession =>
        rw [lobby_setSlot]
        exact .single (.vacate slot presence now hleave ⟨hu, active, hp, not_not.mp hsession⟩)

theorem matchLeave_lobby (s : Live2v2MatchState) (presences : List Presence) (now : ℤ) :
    LobbyMoves (.leave presences now) s.lobby (s.matchLeave presences now).lobby := by
  have hall : ∀ (rest : List Presence) (s : Live2v2MatchState), (∀ p ∈ rest, p ∈ presences) →
      LobbyMoves (.leave presences now) s.lobby (rest.foldl (leaveOne now) s).lobby := by
    intro rest
    induction rest with
    | nil => intro s _; exact .refl
    | cons p rest ih =>
      intro s hrest
      have hfirst := leaveOne_lobby s p now ⟨presences, rfl, hrest p List.mem_cons_self⟩
      exact hfirst.trans (ih _ fun q hq => hrest q (List.mem_cons_of_mem p hq))
  unfold Live2v2MatchState.matchLeave
  split
  · exact .refl
  · exact hall presences s fun _ h => h

/-! ### The end of a match -/

/-- The phase the lobby is in once the match is over. -/
theorem finishMatch_lobby (s : Live2v2MatchState) (answers : Answers) :
    (s.finishMatch answers).lobby
      = if s.settled then s.lobby else { s.lobby with phase := .finished } := by
  unfold finishMatch
  split
  · rfl
  · dsimp only
    cases answers.settle { s with phase := .finished }.settleRequest with
    | none => rfl
    | some settlements => rfl

section Calls

variable {tick : ℕ} {now : ℤ} {messages : List Live2v2Message} {answers : Answers}

/-- A running match ends in a call of the loop. -/
theorem finishMatch_moves {s : Live2v2MatchState} (hphase : s.phase = .playing) :
    LobbyMoves (.loop tick now messages answers) s.lobby (s.finishMatch answers).lobby := by
  rw [finishMatch_lobby]
  split
  · exact .refl
  · exact .single (.finish tick now messages answers rfl hphase)

theorem checkTeamForfeit_lobby {s : Live2v2MatchState} (hphase : s.phase = .playing) :
    LobbyMoves (.loop tick now messages answers) s.lobby (s.checkTeamForfeit answers).lobby := by
  have hend : ∀ status, LobbyMoves (.loop tick now messages answers) s.lobby
      (s.endAs status answers).lobby := by
    intro status
    exact finishMatch_moves (s := { s with state := { s.state with status := status } }) hphase
  unfold checkTeamForfeit
  split
  · exact hend .defeat
  · split
    · exact hend .victory
    · exact .refl

/-- What the scan for expired windows does to a seat. -/
theorem expireSlot_seat (now : ℤ) (slotState : Live2v2SlotState) :
    (expireSlot now slotState).seat = slotState.seat ∨
      (slotState.surrendered = false ∧ Lobby.Expired slotState.seat now ∧
        (expireSlot now slotState).seat = { slotState.seat with abandoned := true }) := by
  unfold expireSlot
  split
  · exact Or.inl rfl
  next hopen =>
  cases hd : slotState.disconnectedAt with
  | none => exact Or.inl rfl
  | some since =>
    dsimp only
    split
    · next hgrace =>
      simp only [Bool.or_eq_true, not_or, Bool.not_eq_true] at hopen
      refine Or.inr ⟨hopen.2, ⟨hopen.1.1, since, ?_, hgrace⟩, ?_⟩
      · exact hd
      · unfold Live2v2SlotState.seat
        rw [hd]
    · exact Or.inl rfl

theorem expire_lobby (s : Live2v2MatchState) (now : ℤ) :
    s.lobby.Expire { s with slots := fun slot => expireSlot now (s.slots slot) }.lobby now :=
  ⟨rfl, rfl, fun slot => expireSlot_seat now (s.slots slot)⟩

theorem enforceReconnectGrace_lobby {s : Live2v2MatchState} (hphase : s.phase = .playing) :
    LobbyMoves (.loop tick now messages answers) s.lobby
      (s.enforceReconnectGrace now answers).lobby := by
  have hexpire : LobbyMove (.loop tick now messages answers) s.lobby
      { s with slots := fun slot => expireSlot now (s.slots slot) }.lobby :=
    .expire tick now messages answers rfl hphase (expire_lobby s now)
  exact .head hexpire
    (checkTeamForfeit_lobby (s := { s with slots := fun slot => expireSlot now (s.slots slot) })
      hphase)

end Calls

/-! ### Messages -/

section Messages

variable {tick : ℕ} {now : ℤ} {messages : List Live2v2Message} {answers : Answers}

/-- What `senderSlot` answers. -/
theorem senderSlot_holds {s : Live2v2MatchState} {message : Live2v2Message} {slot : Slot}
    (h : s.senderSlot message = some slot) : s.lobby.Holds slot message.sender := by
  unfold senderSlot at h
  cases hu : s.presenceByUser message.sender.userId with
  | none =>
    rw [hu] at h
    cases h
  | some k =>
    rw [hu] at h
    dsimp only at h
    cases hp : (s.slots k).presence with
    | none =>
      rw [hp] at h
      cases h
    | some active =>
      rw [hp] at h
      dsimp only at h
      split at h
      · next hsession =>
        cases h
        exact ⟨hu, active, hp, hsession⟩
      · cases h

theorem handleReady_lobby {s : Live2v2MatchState} {message : Live2v2Message} {slot : Slot}
    {e : Live2v2Event} (horder : Orders e message "ready")
    (hholds : s.lobby.Holds slot message.sender) :
    LobbyMoves e s.lobby (s.handleReady message slot).lobby := by
  unfold handleReady
  split
  · exact .refl
  · next hphase =>
    rw [lobby_setSlot]
    refine .single (.ready slot message horder hholds ?_)
    rcases Classical.em (s.phase = .waiting) with hw | hw
    · exact Or.inl hw
    · exact Or.inr (by_contra fun hc => hphase ⟨hw, hc⟩)

theorem handleSurrender_lobby {s : Live2v2MatchState} {message : Live2v2Message} {slot : Slot}
    (horder : Orders (.loop tick now messages answers) message "surrender")
    (hholds : s.lobby.Holds slot message.sender) :
    LobbyMoves (.loop tick now messages answers) s.lobby
      (s.handleSurrender message slot answers).lobby := by
  unfold handleSurrender
  split
  · next hw => exact .single (.cancel (Or.inl hw))
  · next hc => exact .single (.cancel (Or.inr (Or.inl hc)))
  · next hp =>
    split
    · exact .refl
    · next hconnected =>
      rw [Bool.not_eq_true, Bool.not_eq_false'] at hconnected
      have hmove : LobbyMove (.loop tick now messages answers) s.lobby
          (s.setSlot slot
            { s.slots slot with
              surrendered := true
              connected := false
              presence := none }).lobby := by
        rw [lobby_setSlot]
        exact .surrender slot message horder hholds hp hconnected
      exact .head hmove (checkTeamForfeit_lobby hp)
  · exact .refl

theorem handleDispatch_lobby [MathLib] (s : Live2v2MatchState) (message : Live2v2Message)
    (payload : Live2v2ClientMessage) (slot : Slot) (serverSeq : ℤ) :
    (s.handleDispatch message payload slot serverSeq).lobby = s.lobby := by
  have haccept : ∀ state, (s.acceptDispatch message slot payload serverSeq state).lobby
      = s.lobby := by
    intro state
    exact (lobby_setSlot s slot { s.slots slot with nextSeq := (s.slots slot).nextSeq + 1 }).trans
      (setSeat_self s.lobby slot)
  unfold handleDispatch
  split
  · rfl
  split
  · rfl
  split
  · rfl
  split
  · rfl
  split
  · rfl
  split
  · rfl
  split
  · rfl
  · rfl
  · rfl
  · exact haccept _

theorem handleRematchVote_lobby (s : Live2v2MatchState) (message : Live2v2Message) (slot : Slot)
    (answers : Answers) : (s.handleRematchVote message slot answers).lobby = s.lobby := by
  unfold handleRematchVote
  split
  · rfl
  split
  · rfl
  split
  · rfl
  split
  · rfl
  dsimp only
  split
  · unfold startRematch
    cases answers.matchCreate with
    | none => rfl
    | some matchId => rfl
  · rfl

theorem handleMessage_lobby [MathLib] {s : Live2v2MatchState} {message : Live2v2Message}
    (serverSeq : ℤ) (hmem : message ∈ messages) :
    LobbyMoves (.loop tick now messages answers) s.lobby
      (s.handleMessage message serverSeq answers).lobby := by
  unfold handleMessage
  cases hs : s.senderSlot message with
  | none => exact .refl
  | some slot =>
    have hholds := senderSlot_holds hs
    dsimp only
    cases hr : readPayload message with
    | none => exact .refl
    | some payload =>
      have horder : ∀ type, payload.type = type →
          Orders (.loop tick now messages answers) message type :=
        fun type ht => ⟨tick, now, messages, answers, rfl, hmem, payload, hr, ht⟩
      dsimp only
      split
      · rw [handleDispatch_lobby]
      split
      · next ht => exact handleReady_lobby (horder "ready" ht) hholds
      split
      · next ht => exact handleSurrender_lobby (horder "surrender" ht) hholds
      split
      · rw [handleRematchVote_lobby]
      · exact .refl

theorem handleMessages_lobby [MathLib] (s : Live2v2MatchState) :
    LobbyMoves (.loop tick now messages answers) s.lobby
      (s.handleMessages messages answers).lobby := by
  have hall : ∀ (numbered : List (Live2v2Message × ℕ)) (base : ℤ) (s : Live2v2MatchState),
      (∀ m ∈ numbered, m.1 ∈ messages) → LobbyMoves (.loop tick now messages answers) s.lobby
        (numbered.foldl (fun t m => t.handleMessage m.1 (base + m.2 + 1) answers) s).lobby := by
    intro numbered base
    induction numbered with
    | nil => intro s _; exact .refl
    | cons m numbered ih =>
      intro s hmem
      have hfirst : LobbyMoves (.loop tick now messages answers) s.lobby
          (s.handleMessage m.1 (base + m.2 + 1) answers).lobby :=
        handleMessage_lobby _ (hmem m List.mem_cons_self)
      exact hfirst.trans (ih _ fun n hn => hmem n (List.mem_cons_of_mem m hn))
  exact hall messages.zipIdx s.serverSeq s fun m hm => (List.mem_zipIdx' hm).2 ▸ List.getElem_mem _

end Messages

/-! ### The loop -/

section Loop

variable {tick : ℕ} {now : ℤ} {messages : List Live2v2Message} {answers : Answers}

theorem allSlotsReady_iff {s : Live2v2MatchState} :
    s.allSlotsReady = true ↔ ∀ slot, (s.lobby.seats slot).ready = true := by
  unfold allSlotsReady
  rw [List.all_eq_true]
  constructor
  · intro h slot
    exact h slot (Slot.mem_all slot)
  · intro h slot _
    exact h slot

theorem startMatch_lobby {s : Live2v2MatchState} (hphase : s.phase = .countdown)
    (h : s.allSlotsReady = true ∨ s.allSlotsJoined = true) :
    LobbyMoves (.loop tick now messages answers) s.lobby (s.startMatch now).lobby := by
  unfold startMatch
  cases s.createInitial2v2State with
  | none => exact .single (.cancel (Or.inr (Or.inl hphase)))
  | some initialState =>
    exact .single (.start tick now messages answers rfl hphase
      (h.imp allSlotsReady_iff.mp allSlotsJoined_iff.mp))

theorem advancePhase_lobby (s : Live2v2MatchState) :
    LobbyMoves (.loop tick now messages answers) s.lobby (s.advancePhase tick now).lobby := by
  unfold advancePhase
  split
  · next hw =>
    split
    · next hjoined => exact startCountdown_lobby s tick hw hjoined
    · split
      · exact .single (.cancel (Or.inl hw))
      · exact .refl
  · next hc =>
    split
    · next hready => exact startMatch_lobby hc (Or.inl hready)
    · split
      · split
        · next hjoined => exact startMatch_lobby hc (Or.inr hjoined)
        · exact .single (.cancel (Or.inr (Or.inl hc)))
      · exact .refl
  · exact .refl

variable [MathLib]

theorem lobby_stepped (s : Live2v2MatchState) : s.stepped.lobby = s.lobby := by
  unfold stepped
  split <;> rfl

theorem playTick_lobby {s : Live2v2MatchState} (hphase : s.phase = .playing) :
    LobbyMoves (.loop tick now messages answers) s.lobby (s.playTick now answers).lobby := by
  have hstepped : s.stepped.phase = .playing := (phase_stepped s).trans hphase
  rw [← lobby_stepped s]
  change LobbyMoves (.loop tick now messages answers) s.stepped.lobby
    (if s.stepped.broadcastStates.state.status ≠ .playing then
      s.stepped.broadcastStates.finishMatch answers
    else if now > s.stepped.broadcastStates.deadlineAt then
      s.stepped.broadcastStates.endAs .draw answers
    else s.stepped.broadcastStates).lobby
  split
  · exact finishMatch_moves (s := s.stepped.broadcastStates) hstepped
  split
  · have hstatus : { s.stepped.broadcastStates with
        state := { s.stepped.broadcastStates.state with status := .draw } }.phase = .playing :=
      hstepped
    exact finishMatch_moves hstatus
  · exact .refl

theorem afterMessages_lobby (s : Live2v2MatchState) :
    LobbyMoves (.loop tick now messages answers) s.lobby
      (s.afterMessages tick now answers).1.lobby := by
  unfold afterMessages
  split
  · split
    · dsimp only
      split
      · exact .refl
      · exact .refl
    · exact .refl
  · have hadvance : LobbyMoves (.loop tick now messages answers) s.lobby
        (s.advancePhase tick now).lobby := advancePhase_lobby s
    dsimp only
    split
    · next hp => exact hadvance.trans (playTick_lobby hp)
    · exact hadvance

theorem matchLoop_lobby (s : Live2v2MatchState) :
    LobbyMoves (.loop tick now messages answers) s.lobby
      (s.matchLoop tick now messages answers).1.lobby := by
  unfold Live2v2MatchState.matchLoop
  dsimp only
  split
  · exact .refl
  split
  · next hf =>
    rw [Bool.and_eq_true] at hf
    have hphase : s.phase = .finished := of_decide_eq_true hf.1
    dsimp only
    split
    · rw [finishMatch_lobby]
      split
      · exact .refl
      · have hsame : { { s with tick := tick }.lobby with phase := .finished } = s.lobby := by
          unfold Live2v2MatchState.lobby
          rw [hphase]
        rw [hsame]
    · exact .refl
  have hhandle : ∀ t : Live2v2MatchState, LobbyMoves (.loop tick now messages answers) t.lobby
      ((t.handleMessages messages answers).afterMessages tick now answers).1.lobby :=
    fun t => (handleMessages_lobby t).trans (afterMessages_lobby _)
  split
  · next hp =>
    have hgrace : LobbyMoves (.loop tick now messages answers) s.lobby
        ({ s with tick := tick }.enforceReconnectGrace now answers).lobby :=
      enforceReconnectGrace_lobby (s := { s with tick := tick }) hp
    split
    · exact hgrace
    · exact hgrace.trans (hhandle _)
  · exact hhandle { s with tick := tick }

/-- **A call does nothing else to the lobby.** -/
theorem step_lobby (r : Live2v2Run) (e : Live2v2Event) :
    LobbyMoves e r.live.lobby (r.step e).live.lobby := by
  unfold Live2v2Run.step
  split
  · exact .refl
  cases e with
  | attempt presence =>
    dsimp only
    split
    · exact .refl
    · exact .refl
  | join arrivals tick =>
    dsimp only
    split
    · exact matchJoin_lobby r.live arrivals tick
    · exact .refl
  | leave presences now => exact matchLeave_lobby r.live presences now
  | loop tick now messages answers => exact matchLoop_lobby r.live
  | terminate =>
    dsimp only
    unfold matchTerminate
    split
    · next h =>
      rcases h with hp | hc | hw
      · exact .single (.cancel (Or.inr (Or.inr ⟨hp, rfl⟩)))
      · exact .single (.cancel (Or.inr (Or.inl hc)))
      · exact .single (.cancel (Or.inl hw))
    · exact .refl

/-- What every move of the lobby keeps, every call keeps. -/
theorem step_keepsLobby {P : Lobby → Prop} (h : ∀ e l l', LobbyMove e l l' → P l → P l')
    {r : Live2v2Run} (e : Live2v2Event) (hp : P r.live.lobby) : P (r.step e).live.lobby :=
  lobbyMoves_preserve (h e) (step_lobby r e) hp

end Loop

/-! ### The seats of a match -/

/-- What holds of the seats of every match: a user knows the slot that is theirs,
a session in a seat is its user's, a seat is connected exactly while it has a
session, nobody is missing from a seat with a session, and before the battle
nobody has given up. -/
structure LobbyOk (l : Lobby) : Prop where
  bound : ∀ userId slot, l.presenceByUser userId = some slot → (l.seats slot).userId = userId
  seated : ∀ slot p, (l.seats slot).presence = some p → p.userId = (l.seats slot).userId
  connected : ∀ slot, (l.seats slot).connected = (l.seats slot).presence.isSome
  missing : ∀ slot since, (l.seats slot).disconnectedAt = some since →
    (l.seats slot).presence = none
  team : ∀ slot, (l.seats slot).teamId = teamIdForSlot slot.val
  fresh : l.phase = .waiting ∨ l.phase = .countdown → ∀ slot, ¬ (l.seats slot).gone

/-- A change of one seat that keeps what a seat has to be. -/
theorem LobbyOk.setSeat {l : Lobby} (h : LobbyOk l) {slot : Slot} {seat : SlotSeat}
    (huser : seat.userId = (l.seats slot).userId) (hteam : seat.teamId = (l.seats slot).teamId)
    (hseated : ∀ p, seat.presence = some p → p.userId = seat.userId)
    (hconnected : seat.connected = seat.presence.isSome)
    (hmissing : ∀ since, seat.disconnectedAt = some since → seat.presence = none)
    (hfresh : l.phase = .waiting ∨ l.phase = .countdown → ¬ seat.gone) :
    LobbyOk (l.setSeat slot seat) := by
  have hself : (l.setSeat slot seat).seats slot = seat := Function.update_self ..
  have hother : ∀ k, k ≠ slot → (l.setSeat slot seat).seats k = l.seats k :=
    fun k hk => Function.update_of_ne hk ..
  have husers : ∀ k, ((l.setSeat slot seat).seats k).userId = (l.seats k).userId := by
    intro k
    by_cases hk : k = slot
    · rw [hk, hself, huser]
    · rw [hother k hk]
  refine ⟨fun userId k hb => (husers k).trans (h.bound userId k hb), fun k => ?_, fun k => ?_,
    fun k => ?_, fun k => ?_, fun hphase k => ?_⟩
  all_goals by_cases hk : k = slot
  · rw [hk, hself]
    exact hseated
  · rw [hother k hk]
    exact h.seated k
  · rw [hk, hself]
    exact hconnected
  · rw [hother k hk]
    exact h.connected k
  · rw [hk, hself]
    exact hmissing
  · rw [hother k hk]
    exact h.missing k
  · rw [hk, hself, hteam]
    exact h.team slot
  · rw [hother k hk]
    exact h.team k
  · rw [hk, hself]
    exact hfresh hphase
  · rw [hother k hk]
    exact h.fresh hphase k

theorem LobbyOk.move {e : Live2v2Event} {l l' : Lobby} (hm : LobbyMove e l l') (h : LobbyOk l) :
    LobbyOk l' := by
  cases hm with
  | adopt slot presence hjoin huser =>
    have hu : (l.seats slot).userId = presence.userId := by
      rcases huser with hb | hu
      · exact h.bound _ slot hb
      · exact hu
    have hseat : LobbyOk (l.setSeat slot
        { l.seats slot with
          presence := some presence
          connected := true
          disconnectedAt := none }) := by
      refine h.setSeat rfl rfl (fun p hp => ?_) rfl (fun since hs => ?_) fun hphase hg => ?_
      · cases hp
        exact hu.symm
      · cases hs
      · exact h.fresh hphase slot hg
    refine { hseat with bound := fun userId k hb => ?_ }
    change Function.update l.presenceByUser presence.userId (some slot) userId = some k at hb
    by_cases hid : userId = presence.userId
    · rw [hid, Function.update_self] at hb
      cases hb
      rw [hid, ← hu]
      change (Function.update l.seats slot _ slot).userId = _
      rw [Function.update_self]
    · rw [Function.update_of_ne hid] at hb
      exact hseat.bound userId k hb
  | vacate slot presence now hleave hholds =>
    refine h.setSeat rfl rfl (fun p hp => ?_) rfl (fun _ _ => rfl) fun hphase hg => ?_
    · cases hp
    · exact h.fresh hphase slot hg
  | expire tick now messages answers hloop hphase hexpire =>
    have hplaying : ¬ (l'.phase = .waiting ∨ l'.phase = .countdown) := by
      rw [hexpire.phase, hphase]
      rintro (hw | hw) <;> cases hw
    refine ⟨fun userId slot hb => ?_, fun slot => ?_, fun slot => ?_, fun slot => ?_, fun slot => ?_,
      fun hw => absurd hw hplaying⟩
    · rw [hexpire.presenceByUser] at hb
      have hu := h.bound userId slot hb
      rcases hexpire.seats slot with hs | ⟨-, -, hs⟩
      · rw [hs, hu]
      · rw [hs]
        exact hu
    all_goals rcases hexpire.seats slot with hs | ⟨-, -, hs⟩
    · rw [hs]
      exact h.seated slot
    · rw [hs]
      exact h.seated slot
    · rw [hs]
      exact h.connected slot
    · rw [hs]
      exact h.connected slot
    · rw [hs]
      exact h.missing slot
    · rw [hs]
      exact h.missing slot
    · rw [hs]
      exact h.team slot
    · rw [hs]
      exact h.team slot
  | surrender slot message horder hholds hphase hconnected =>
    refine h.setSeat rfl rfl (fun p hp => ?_) rfl (fun _ _ => rfl) fun hw _ => ?_
    · cases hp
    · rw [hphase] at hw
      rcases hw with hw | hw <;> cases hw
  | ready slot message horder hholds hphase =>
    exact h.setSeat rfl rfl (h.seated slot) (h.connected slot) (h.missing slot) fun hw => h.fresh hw slot
  | countdown hphase hjoined => exact { h with fresh := fun _ => h.fresh (Or.inl hphase) }
  | start tick now messages answers hloop hphase hready =>
    exact { h with fresh := fun hw => by rcases hw with hw | hw <;> cases hw }
  | cancel hphase => exact { h with fresh := fun hw => by rcases hw with hw | hw <;> cases hw }
  | finish tick now messages answers hloop hphase =>
    exact { h with fresh := fun hw => by rcases hw with hw | hw <;> cases hw }

theorem NewMatch.lobbyOk {s : Live2v2MatchState} (h : NewMatch s) : LobbyOk s.lobby := by
  have hbound : s.lobby.presenceByUser = fun _ => none := h.presenceByUser
  have hseat : ∀ slot, (s.lobby.seats slot).presence = none ∧
      (s.lobby.seats slot).connected = false ∧ (s.lobby.seats slot).disconnectedAt = none ∧
      (s.lobby.seats slot).teamId = teamIdForSlot slot.val ∧ ¬ (s.lobby.seats slot).gone := by
    intro slot
    obtain ⟨userId, career, hslot⟩ := h.slots slot
    change (s.slots slot).seat.presence = none ∧ (s.slots slot).seat.connected = false ∧
      (s.slots slot).seat.disconnectedAt = none ∧ (s.slots slot).seat.teamId = _ ∧
      ¬ (s.slots slot).seat.gone
    rw [hslot]
    exact ⟨rfl, rfl, rfl, rfl, fun hg => by rcases hg with hg | hg <;> cases hg⟩
  refine ⟨fun userId slot hb => ?_, fun slot p hp => ?_, fun slot => ?_, fun slot _ _ => (hseat slot).1,
    fun slot => (hseat slot).2.2.2.1, fun _ slot => (hseat slot).2.2.2.2⟩
  · rw [hbound] at hb
    cases hb
  · rw [(hseat slot).1] at hp
    cases hp
  · rw [(hseat slot).1, (hseat slot).2.1]
    rfl

/-! ### Marks stay -/

/-- Who gave up or came back too late stays so, and a slot keeps its user. -/
structure MarksStay (l l' : Lobby) : Prop where
  userId : ∀ slot, (l'.seats slot).userId = (l.seats slot).userId
  abandoned : ∀ slot, (l.seats slot).abandoned = true → (l'.seats slot).abandoned = true
  surrendered : ∀ slot, (l.seats slot).surrendered = true → (l'.seats slot).surrendered = true

theorem MarksStay.refl (l : Lobby) : MarksStay l l :=
  ⟨fun _ => rfl, fun _ h => h, fun _ h => h⟩

theorem MarksStay.trans {l l' l'' : Lobby} (h : MarksStay l l') (g : MarksStay l' l'') :
    MarksStay l l'' :=
  ⟨fun slot => (g.userId slot).trans (h.userId slot),
    fun slot hm => g.abandoned slot (h.abandoned slot hm),
    fun slot hm => g.surrendered slot (h.surrendered slot hm)⟩

theorem marksStay_setSeat (l : Lobby) {slot : Slot} {seat : SlotSeat}
    (hu : seat.userId = (l.seats slot).userId)
    (ha : (l.seats slot).abandoned = true → seat.abandoned = true)
    (hs : (l.seats slot).surrendered = true → seat.surrendered = true) :
    MarksStay l (l.setSeat slot seat) := by
  unfold Lobby.setSeat
  refine ⟨fun k => ?_, fun k => ?_, fun k => ?_⟩
  all_goals dsimp only
  all_goals by_cases hk : k = slot
  · rw [hk, Function.update_self]
    exact hu
  · rw [Function.update_of_ne hk]
  · rw [hk, Function.update_self]
    exact ha
  · rw [Function.update_of_ne hk]
    exact id
  · rw [hk, Function.update_self]
    exact hs
  · rw [Function.update_of_ne hk]
    exact id

theorem marksStay_move {e : Live2v2Event} {l l' : Lobby} (hm : LobbyMove e l l') :
    MarksStay l l' := by
  cases hm with
  | adopt slot presence hjoin huser =>
    have hseat : MarksStay l (l.setSeat slot
        { l.seats slot with
          presence := some presence
          connected := true
          disconnectedAt := none }) := marksStay_setSeat l rfl id id
    exact { hseat with }
  | vacate slot presence now hleave hholds => exact marksStay_setSeat l rfl id id
  | expire tick now messages answers hloop hphase hexpire =>
    refine ⟨fun slot => ?_, fun slot => ?_, fun slot => ?_⟩
    all_goals rcases hexpire.seats slot with hs | ⟨-, -, hs⟩
    all_goals rw [hs]
    · exact id
    · exact fun _ => rfl
    · exact id
    · exact id
  | surrender slot message horder hholds hphase hconnected =>
    exact marksStay_setSeat l rfl id fun _ => rfl
  | ready slot message horder hholds hphase => exact marksStay_setSeat l rfl id id
  | countdown hphase hjoined => exact { MarksStay.refl l with }
  | start tick now messages answers hloop hphase hready => exact { MarksStay.refl l with }
  | cancel hphase => exact { MarksStay.refl l with }
  | finish tick now messages answers hloop hphase => exact { MarksStay.refl l with }

theorem marksStay_moves {e : Live2v2Event} {l l' : Lobby} (hm : LobbyMoves e l l') :
    MarksStay l l' := by
  induction hm with
  | refl => exact .refl l
  | tail _ hlast ih => exact ih.trans (marksStay_move hlast)

end CrownClash.Go
