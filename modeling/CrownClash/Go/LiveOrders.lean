import CrownClash.Go.Live
import CrownClash.Go.Live2v2Log

/-!
# Server: how a live match takes a dispatch

Both handlers accept a dispatch under the same conditions: the match is running, the
number of the dispatch is the one the player has reached, and the battle allows it,
which `LegalDispatch` spells out.  Everything else they answer with a refusal, and a
refusal leaves the player's number where it was.
-/

namespace CrownClash.Go

open Lib

/-! ### Legal dispatches -/

/-- The source is the sender's and has units to spare, the target is another
territory, and a road leads there. -/
structure LegalDispatch [MathLib] (state : GameState) (sourceId targetId : String)
    (owner : Team) : Prop where
  source : ∃ source, state.territories.get? sourceId = some source ∧ source.owner = owner ∧
    1 < source.units
  target : ∃ target, state.territories.get? targetId = some target
  ne : sourceId ≠ targetId
  route : ∃ route, findDispatchRoute state sourceId targetId owner = some route

theorem calculateDispatchUnits_pos (units : ℤ) (ratio : ℚ) :
    0 < calculateDispatchUnitsWithRatio units ratio ↔ 1 < units := by
  unfold calculateDispatchUnitsWithRatio
  split
  · omega
  · next h =>
    have hmax := le_max_left (1 : ℤ) ⌊(units : ℚ) * ratio⌋
    omega

/-- **A dispatch is carried out exactly when it is legal.** -/
theorem dispatchArmy_ok_iff [MathLib] {state : GameState} {sourceId targetId : String}
    {owner : Team} {multiplier : ℚ} {id : String} :
    (∃ state', dispatchArmy state sourceId targetId owner multiplier id = .ok state')
      ↔ LegalDispatch state sourceId targetId owner := by
  unfold dispatchArmy dispatchArmyWithRatio
  cases hs : state.territories.get? sourceId with
  | none =>
    refine ⟨fun ⟨_, h⟩ => (nomatch h), fun h => ?_⟩
    obtain ⟨source, hsource, -⟩ := h.source
    rw [hs] at hsource
    cases hsource
  | some source =>
  cases ht : state.territories.get? targetId with
  | none =>
    refine ⟨fun ⟨_, h⟩ => (nomatch h), fun h => ?_⟩
    obtain ⟨target, htarget⟩ := h.target
    rw [ht] at htarget
    cases htarget
  | some target =>
  dsimp only
  by_cases hc : sourceId = targetId ∨ source.owner ≠ owner
  · rw [if_pos hc]
    refine ⟨fun ⟨_, h⟩ => (nomatch h), fun h => ?_⟩
    obtain ⟨source', hsource, howner, -⟩ := h.source
    rw [hs] at hsource
    cases hsource
    exact absurd hc (not_or.mpr ⟨h.ne, not_not.mpr howner⟩)
  rw [if_neg hc]
  rw [not_or, not_not] at hc
  cases hr : findDispatchRoute state sourceId targetId owner with
  | none =>
    refine ⟨fun ⟨_, h⟩ => (nomatch h), fun h => ?_⟩
    obtain ⟨route, hroute⟩ := h.route
    rw [hr] at hroute
    cases hroute
  | some route =>
  dsimp only
  by_cases hu : calculateDispatchUnitsWithRatio source.units 0.5 ≤ 0
  · rw [if_pos hu]
    refine ⟨fun ⟨_, h⟩ => (nomatch h), fun h => ?_⟩
    obtain ⟨source', hsource, -, hunits⟩ := h.source
    rw [hs] at hsource
    cases hsource
    exact absurd ((calculateDispatchUnits_pos _ 0.5).mpr hunits) (not_lt.mpr hu)
  · rw [if_neg hu]
    refine ⟨fun _ => ⟨⟨source, hs, hc.2, ?_⟩, ⟨target, ht⟩, hc.1, ⟨route, hr⟩⟩, fun _ => ⟨_, rfl⟩⟩
    exact (calculateDispatchUnits_pos _ 0.5).mp (not_le.mp hu)

/-! ### One against one -/

namespace LiveMatchState

/-- What `MatchLoop` does with one message. -/
def onMessage [MathLib] (s : LiveMatchState) (message : LiveMessage) : LiveMatchState :=
  if s.finished then s
  else if !s.started then s.rejectCommand message .notStarted
  else s.handle message

end LiveMatchState

section Live

variable [MathLib]

/-- The dispatch of a player that the handler accepts. -/
def LiveMatchState.Takes (s : LiveMatchState) (message : LiveMessage) (s' : LiveMatchState) :
    Prop :=
  ∃ payload seat player state, message.payload = some payload ∧
    s.playerOf message.sender.userId = some (seat, player) ∧
    player.nextSeq = payload.sequence ∧
    LegalDispatch s.state payload.sourceId payload.targetId player.role ∧
    s' = { s with
      state := state
      players := Function.update s.players seat
        (some { player with nextSeq := player.nextSeq + 1 })
      sent := s.sent ++ [(message.sender, .commandAccepted payload.sequence)] }

/-- **A message is refused, or it is a legal dispatch with the expected number.** -/
theorem handle_cases (s : LiveMatchState) (message : LiveMessage) :
    (∃ code, s.handle message = s.rejectCommand message code) ∨
      s.Takes message (s.handle message) := by
  unfold LiveMatchState.handle
  cases hm : message.payload with
  | none => exact Or.inl ⟨_, rfl⟩
  | some payload =>
    dsimp only
    split
    · exact Or.inl ⟨_, rfl⟩
    cases hp : s.playerOf message.sender.userId with
    | none => exact Or.inl ⟨_, rfl⟩
    | some p =>
      obtain ⟨seat, player⟩ := p
      dsimp only
      split
      · exact Or.inl ⟨_, rfl⟩
      next hseq =>
      cases ho : s.order player payload with
      | error e => exact Or.inl ⟨_, rfl⟩
      | ok state =>
        exact Or.inr ⟨payload, seat, player, state, hm, hp, not_not.mp hseq,
          dispatchArmy_ok_iff.mp ⟨state, ho⟩, rfl⟩

/-- A legal dispatch with the expected number is accepted. -/
theorem handle_takes {s : LiveMatchState} {message : LiveMessage} {payload : LiveClientMessage}
    {seat : Seat} {player : LivePlayerState} (hm : message.payload = some payload)
    (ht : payload.type = "dispatch") (hp : s.playerOf message.sender.userId = some (seat, player))
    (hseq : player.nextSeq = payload.sequence)
    (hlegal : LegalDispatch s.state payload.sourceId payload.targetId player.role) :
    s.Takes message (s.handle message) := by
  obtain ⟨state, ho⟩ : ∃ state, s.order player payload = .ok state :=
    dispatchArmy_ok_iff.mpr hlegal
  refine ⟨payload, seat, player, state, hm, hp, hseq, hlegal, ?_⟩
  unfold LiveMatchState.handle
  rw [hm]
  dsimp only
  rw [if_neg (not_not.mpr ht), hp]
  dsimp only
  rw [if_neg (not_not.mpr hseq), ho]

/-- **What `MatchLoop` does with one message**: nothing, a refusal, or, in a running
match, an accepted dispatch. -/
theorem onMessage_cases (s : LiveMatchState) (message : LiveMessage) :
    s.onMessage message = s ∨ (∃ code, s.onMessage message = s.rejectCommand message code) ∨
      (s.started = true ∧ s.finished = false ∧ s.Takes message (s.onMessage message)) := by
  unfold LiveMatchState.onMessage
  cases hf : s.finished with
  | true => exact Or.inl (if_pos rfl)
  | false =>
    rw [if_neg Bool.false_ne_true]
    cases hs : s.started with
    | false => exact Or.inr (Or.inl ⟨_, if_pos rfl⟩)
    | true =>
      rw [Bool.not_true, if_neg Bool.false_ne_true]
      rcases handle_cases s message with hreject | htakes
      · exact Or.inr (Or.inl hreject)
      · exact Or.inr (Or.inr ⟨rfl, rfl, htakes⟩)

/-- The rest of a call of the loop leaves the players and their seats alone. -/
theorem matchLoop_players (s : LiveMatchState) (now : ℤ) (settled : String → Bool) :
    (matchLoop s [] now settled).players = s.players ∧
      (matchLoop s [] now settled).presenceById = s.presenceById := by
  have hsimulate : s.simulate.players = s.players ∧ s.simulate.presenceById = s.presenceById := by
    unfold LiveMatchState.simulate
    split <;> exact ⟨rfl, rfl⟩
  have hclose : ∀ t : LiveMatchState, (t.closeIfOver now settled).players = t.players ∧
      (t.closeIfOver now settled).presenceById = t.presenceById := by
    intro t
    unfold LiveMatchState.closeIfOver
    split
    · exact ⟨rfl, rfl⟩
    · split <;> exact ⟨rfl, rfl⟩
  unfold matchLoop
  split
  · exact ⟨rfl, rfl⟩
  split
  · exact ⟨rfl, rfl⟩
  · exact ⟨(hclose _).1.trans hsimulate.1, (hclose _).2.trans hsimulate.2⟩

end Live

/-! ### Two against two -/

def live2v2MaxPayloadBytes : ℕ := 4096

section Live2v2

variable [MathLib] {s : Live2v2MatchState} {slot : Slot}

open Live2v2MatchState

omit [MathLib] in
theorem senderSlot_of_holds {message : Live2v2Message}
    (h : s.lobby.Holds slot message.sender) : s.senderSlot message = some slot := by
  obtain ⟨hbound, active, hactive, hsession⟩ := h
  have hbound' : s.presenceByUser message.sender.userId = some slot := hbound
  have hactive' : (s.slots slot).presence = some active := hactive
  unfold senderSlot
  rw [hbound']
  dsimp only
  rw [hactive']
  exact if_pos hsession

/-- A dispatch that passes every check is accepted. -/
theorem handleDispatch_accept {payload : Live2v2ClientMessage} {serverSeq : ℤ}
    {state : GameState} (message : Live2v2Message) (h : Accepts s slot payload serverSeq state) :
    s.handleDispatch message payload slot serverSeq
      = s.acceptDispatch message slot payload serverSeq state := by
  obtain ⟨source, hsource⟩ := h.source
  obtain ⟨target, htarget⟩ := h.target
  unfold handleDispatch
  rw [if_neg (not_not.mpr h.phase), h.abandoned, h.surrendered, h.connected,
    if_neg (by decide), if_neg (not_not.mpr h.sequence), if_neg (not_le.mpr h.room), hsource,
    htarget, if_neg (by exact Bool.false_ne_true), if_neg (by exact Bool.false_ne_true), h.order]

/-- What a slot needs for its dispatch, besides the number, while the match is played. -/
theorem accepts_of_legal {payload : Live2v2ClientMessage} (serverSeq : ℤ)
    (hphase : s.phase = .playing) (hroom : s.actionLog.length < live2v2MaxActionsPerMatch)
    (hlegal : LegalDispatch s.state payload.sourceId payload.targetId
      (simulationOwnerForSlot slot.val))
    (hgone : ¬ (s.lobby.seats slot).gone) (hconnected : (s.slots slot).connected = true)
    (hseq : (s.slots slot).nextSeq = payload.sequence) :
    ∃ state, Accepts s slot payload serverSeq state := by
  obtain ⟨state, ho⟩ : ∃ state, s.order slot payload serverSeq = .ok state :=
    dispatchArmy_ok_iff.mpr hlegal
  obtain ⟨source, hsource, -⟩ := hlegal.source
  obtain ⟨habandoned, hsurrendered⟩ := not_or.mp hgone
  exact ⟨state, hphase, Bool.eq_false_iff.mpr habandoned, Bool.eq_false_iff.mpr hsurrendered,
    hconnected, hseq, hroom, ⟨source, hsource⟩, hlegal.target, ho⟩

theorem Accepts.legal {payload : Live2v2ClientMessage} {serverSeq : ℤ} {state : GameState}
    (h : Accepts s slot payload serverSeq state) :
    LegalDispatch s.state payload.sourceId payload.targetId (simulationOwnerForSlot slot.val) :=
  dispatchArmy_ok_iff.mp ⟨state, h.order⟩

end Live2v2

/-! ### Keeping a seat -/

/-- A call in which a user has no part. -/
def Foreign (me : Presence) : Live2v2Event → Prop
  | .attempt _ => True
  | .join arrivals _ => ∀ p ∈ arrivals.map Prod.fst, p.userId ≠ me.userId
  | .leave presences _ => ∀ p ∈ presences, p.userId ≠ me.userId
  | .loop _ _ messages _ => ∀ m ∈ messages, m.sender.userId ≠ me.userId
  | .terminate => True

/-- A session sits in a slot, and its user has not given up. -/
structure SitsIn (me : Presence) (slot : Slot) (l : Lobby) : Prop where
  ok : LobbyOk l
  holds : l.Holds slot me
  standing : ¬ (l.seats slot).gone

section Seat

variable {me : Presence} {slot : Slot} {l l' : Lobby}

theorem SitsIn.connected (h : SitsIn me slot l) : (l.seats slot).connected = true := by
  obtain ⟨-, active, hactive, -⟩ := h.holds
  rw [h.ok.connected slot, hactive]
  rfl

/-- Nobody else sits there. -/
theorem SitsIn.alone (h : SitsIn me slot l) {k : Slot} {userId : String}
    (hk : (l.seats k).userId = userId) (hne : userId ≠ me.userId) : k ≠ slot := by
  rintro rfl
  exact hne (hk.symm.trans (h.ok.bound _ k h.holds.1))

/-- A change of another seat. -/
theorem SitsIn.setSeat (h : SitsIn me slot l) {k : Slot} {seat : SlotSeat} (hk : k ≠ slot)
    (hok : LobbyOk (l.setSeat k seat)) : SitsIn me slot (l.setSeat k seat) := by
  have hsame : (l.setSeat k seat).seats slot = l.seats slot := Function.update_of_ne hk.symm ..
  refine ⟨hok, ⟨h.holds.1, ?_⟩, ?_⟩
  · rw [hsame]
    exact h.holds.2
  · rw [hsame]
    exact h.standing

/-- **A seat is kept through every call in which its user has no part.** -/
theorem SitsIn.move {e : Live2v2Event} (he : Foreign me e) (hm : LobbyMove e l l')
    (h : SitsIn me slot l) : SitsIn me slot l' := by
  have hok := LobbyOk.move hm h.ok
  cases hm with
  | adopt k presence hjoin huser =>
    obtain ⟨arrivals, tick, rfl, hmem⟩ := hjoin
    have hne : presence.userId ≠ me.userId := he presence hmem
    have hk : k ≠ slot := by
      refine h.alone ?_ hne
      rcases huser with hb | hu
      · exact h.ok.bound _ k hb
      · exact hu
    have hsame : (l.adopt k presence).seats slot = l.seats slot :=
      Function.update_of_ne hk.symm ..
    refine ⟨hok, ⟨?_, ?_⟩, ?_⟩
    · show Function.update l.presenceByUser presence.userId (some k) me.userId = some slot
      rw [Function.update_of_ne hne.symm]
      exact h.holds.1
    · rw [hsame]
      exact h.holds.2
    · rw [hsame]
      exact h.standing
  | vacate k presence now hleave hholds =>
    obtain ⟨presences, rfl, hmem⟩ := hleave
    exact h.setSeat (h.alone (h.ok.bound _ k hholds.1) (he presence hmem)) hok
  | expire tick now messages answers hloop hphase hexpire =>
    have hsame : l'.seats slot = l.seats slot := by
      rcases hexpire.seats slot with hs | ⟨-, hgone, -⟩
      · exact hs
      · have hconnected := h.connected
        rw [hgone.1] at hconnected
        cases hconnected
    refine ⟨hok, ⟨?_, ?_⟩, ?_⟩
    · rw [hexpire.presenceByUser]
      exact h.holds.1
    · rw [hsame]
      exact h.holds.2
    · rw [hsame]
      exact h.standing
  | surrender k message horder hholds hphase hconnected =>
    obtain ⟨tick, now, messages, answers, rfl, hmem, -⟩ := horder
    exact h.setSeat (h.alone (h.ok.bound _ k hholds.1) (he message hmem)) hok
  | ready k message horder hholds hphase =>
    obtain ⟨tick, now, messages, answers, rfl, hmem, -⟩ := horder
    exact h.setSeat (h.alone (h.ok.bound _ k hholds.1) (he message hmem)) hok
  | countdown hphase hjoined => exact ⟨hok, h.holds, h.standing⟩
  | start tick now messages answers hloop hphase hready => exact ⟨hok, h.holds, h.standing⟩
  | cancel hphase => exact ⟨hok, h.holds, h.standing⟩
  | finish tick now messages answers hloop hphase => exact ⟨hok, h.holds, h.standing⟩

theorem SitsIn.moves {e : Live2v2Event} (he : Foreign me e) (hm : LobbyMoves e l l')
    (h : SitsIn me slot l) : SitsIn me slot l' :=
  lobbyMoves_preserve (fun _ _ hm => SitsIn.move he hm) hm h

end Seat

/-! ### Counting along -/

/-- No slot has had more dispatches accepted than the log has entries. -/
def SeqsOk (s : Live2v2MatchState) : Prop :=
  ∀ slot, 0 ≤ (s.slots slot).nextSeq ∧ (s.slots slot).nextSeq ≤ s.actionLog.length

theorem seqsOk_move [MathLib] {s s' : Live2v2MatchState} (hm : Move s s') (h : SeqsOk s) :
    SeqsOk s' := by
  cases hm with
  | simulate hphase hs => exact h
  | change hc =>
    cases hc with
    | keep hsame =>
      intro slot
      rw [(hsame.slots slot).nextSeq, hsame.actionLog]
      exact h slot
    | accept message slot payload serverSeq hphase hseq hlog ho =>
      intro k
      show 0 ≤ (Function.update s.slots slot _ k).nextSeq ∧
        (Function.update s.slots slot _ k).nextSeq
          ≤ ((s.actionLog ++ [s.actionOf slot payload serverSeq]).length : ℤ)
      rw [List.length_append, List.length_singleton]
      have hslot := h slot
      have hk := h k
      by_cases he : k = slot
      · rw [he, Function.update_self]
        push_cast
        show 0 ≤ (s.slots slot).nextSeq + 1 ∧ (s.slots slot).nextSeq + 1 ≤ _
        omega
      · rw [Function.update_of_ne he]
        push_cast
        omega
    | send messages hmay => exact h
    | countdown hphase => exact h
    | cancel hphase => exact h
    | start hphase hs => exact h
    | decide status hphase hs hd => exact h
    | finish hphase hs => exact h
    | settle hphase => exact h

end CrownClash.Go
