import CrownClash.Go.Live2v2
import CrownClash.Lib.Run
import Mathlib.Logic.Relation

/-!
# Server: the runs of a 2v2 match

A run is the calls the runtime makes: attempts to join, joins of presences that
were let in, leaves, calls of the loop, and the end of the server.

Whatever the call, it does a few things one at a time, and `Change` lists them:
it keeps the match and only moves its bookkeeping, it sends, it changes the
phase, it starts the battle, accepts a dispatch, decides the battle, finishes and
settles.  A `Move` is a change or one step of the battle.  `step_moves` says so
once, and every invariant of a run is then shown for the moves and not for the
calls.
-/

namespace CrownClash.Go

open Lib Live2v2MatchState
open Store (MatchSettlement)

structure Live2v2Run where
  live : Live2v2MatchState
  /-- The runtime still calls the match. -/
  running : Bool
  admitted : List Presence

inductive Live2v2Event
  | attempt (presence : Presence)
  | join (arrivals : List (Presence × Option String)) (tick : ℕ)
  | leave (presences : List Presence) (now : ℤ)
  | loop (tick : ℕ) (now : ℤ) (messages : List Live2v2Message) (answers : Answers)
  | terminate

/-- A match before its first call. -/
def Live2v2Run.start (s : Live2v2MatchState) : Live2v2Run := ⟨s, true, []⟩

variable [MathLib]

def Live2v2Run.step (r : Live2v2Run) (e : Live2v2Event) : Live2v2Run :=
  if !r.running then r
  else
    match e with
    | .attempt presence =>
      match r.live.matchJoinAttempt presence with
      | .error _ => r
      | .ok _ => { r with admitted := presence :: r.admitted }
    | .join arrivals tick =>
      if arrivals.all fun a => r.admitted.contains a.1 then
        { r with
          live := r.live.matchJoin arrivals tick
          admitted := r.admitted.diff (arrivals.map Prod.fst) }
      else r
    | .leave presences now => { r with live := r.live.matchLeave presences now }
    | .loop tick now messages answers =>
      let p := r.live.matchLoop tick now messages answers
      { r with
        live := p.1
        running := p.2 }
    | .terminate => { r with live := r.live.matchTerminate }

theorem step_loop {r : Live2v2Run} (hr : r.running = true) (tick : ℕ) (now : ℤ)
    (messages : List Live2v2Message) (answers : Answers) :
    (r.step (.loop tick now messages answers)).live
      = (r.live.matchLoop tick now messages answers).1 := by
  unfold Live2v2Run.step
  rw [hr]
  rfl

/-! ### What can change -/

omit [MathLib] in
/-- What a slot is, apart from who is connected to it. -/
structure SameSlot (a b : Live2v2SlotState) : Prop where
  userId : b.userId = a.userId
  teamId : b.teamId = a.teamId
  career : b.career = a.career
  nextSeq : b.nextSeq = a.nextSeq

/-- Only bookkeeping moves: ticks, numbers, votes, presences. -/
structure SameMatch (s s' : Live2v2MatchState) : Prop where
  slots : ∀ slot, SameSlot (s.slots slot) (s'.slots slot)
  matchId : s'.matchId = s.matchId
  battlefieldId : s'.battlefieldId = s.battlefieldId
  phase : s'.phase = s.phase
  state : s'.state = s.state
  accumulators : s'.accumulators = s.accumulators
  actionLog : s'.actionLog = s.actionLog
  stats : s'.stats = s.stats
  settled : s'.settled = s.settled
  sent : s'.sent = s.sent
  tick : 0 ≤ s.tick → 0 ≤ s'.tick

/-- The messages a match may send as it stands. -/
inductive MaySend (s : Live2v2MatchState) : Live2v2ServerMessage → Prop
  | started (slot : Slot) : MaySend s (s.matchStartedPayload slot)
  | state (slot : Slot) :
    MaySend s (.state s.tick (stateForRole s.state (roleForTeamId (s.slots slot).teamId)))
  | rejected (code : Live2v2Rejection) (sequence : ℤ) : MaySend s (.commandRejected code sequence)
  | rematch (id : String) (h : id ≠ "") : MaySend s (.rematchStarted id)
  | result (settlements : Slot → MatchSettlement) (h : s.phase = .finished) :
    MaySend s (.matchResult s.matchId (winnerTeamId s.state.status)
      (Slot.all.map fun slot => (s.participantOutcome slot, settlements slot)))
  | cancelled (h : s.phase = .cancelled) : MaySend s (.matchCancelled s.matchId)
  | closed : MaySend s (.matchClosed s.matchId)
  | failed : MaySend s .settlementFailed

/-- What can happen to a match, one thing at a time, while its battle stands still. -/
inductive Change : Live2v2MatchState → Live2v2MatchState → Prop
  | keep {s s' : Live2v2MatchState} (h : SameMatch s s') : Change s s'
  | send {s : Live2v2MatchState} (messages : List (List Presence × Live2v2ServerMessage))
    (h : ∀ m ∈ messages, MaySend s m.2) : Change s { s with sent := s.sent ++ messages }
  | countdown {s : Live2v2MatchState} (h : s.phase = .waiting) :
    Change s { s with phase := .countdown }
  | cancel {s : Live2v2MatchState} (h : s.phase ≠ .finished) :
    Change s { s with phase := .cancelled }
  | start {s : Live2v2MatchState} {initialState : GameState} (h : s.phase = .countdown)
    (hs : s.createInitial2v2State = some initialState) :
    Change s { s with state := initialState, phase := .playing }
  | accept {s : Live2v2MatchState} (message : Live2v2Message) (slot : Slot)
    (payload : Live2v2ClientMessage) (serverSeq : ℤ) {state : GameState} (h : s.phase = .playing)
    (hseq : (s.slots slot).nextSeq = payload.sequence)
    (hlog : s.actionLog.length < live2v2MaxActionsPerMatch)
    (ho : s.order slot payload serverSeq = .ok state) :
    Change s (s.acceptDispatch message slot payload serverSeq state)
  | decide {s : Live2v2MatchState} (status : MatchStatus) (h : s.phase = .playing)
    (hs : s.state.status = .playing) (hd : status ≠ .playing) :
    Change s { s with state := { s.state with status := status } }
  | finish {s : Live2v2MatchState} (h : s.phase = .playing) (hs : s.state.status ≠ .playing) :
    Change s { s with phase := .finished }
  | settle {s : Live2v2MatchState} (h : s.phase = .finished) :
    Change s { s with settled := true }

/-- A change, or a step of the battle. -/
inductive Move : Live2v2MatchState → Live2v2MatchState → Prop
  | change {s s' : Live2v2MatchState} (h : Change s s') : Move s s'
  | simulate {s : Live2v2MatchState} (h : s.phase = .playing) (hs : s.state.status = .playing) :
    Move s s.simulate

/-- One change after the other. -/
abbrev Changes : Live2v2MatchState → Live2v2MatchState → Prop := Relation.ReflTransGen Change

/-- One move after the other. -/
abbrev Moves : Live2v2MatchState → Live2v2MatchState → Prop := Relation.ReflTransGen Move

theorem moves_of_changes {s s' : Live2v2MatchState} (h : Changes s s') : Moves s s' :=
  Relation.ReflTransGen.mono (fun _ _ => Move.change) _ _ h

theorem SameMatch.changes {s s' : Live2v2MatchState} (h : SameMatch s s') : Changes s s' :=
  .single (.keep h)

omit [MathLib] in
theorem SameSlot.refl (a : Live2v2SlotState) : SameSlot a a := ⟨rfl, rfl, rfl, rfl⟩

omit [MathLib] in
theorem sameMatch_setSlot (s : Live2v2MatchState) {slot : Slot} {slotState : Live2v2SlotState}
    (h : SameSlot (s.slots slot) slotState) : SameMatch s (s.setSlot slot slotState) := by
  refine ⟨fun k => ?_, rfl, rfl, rfl, rfl, rfl, rfl, rfl, rfl, rfl, id⟩
  change SameSlot (s.slots k) (Function.update s.slots slot slotState k)
  by_cases hk : k = slot
  · subst hk
    rw [Function.update_self]
    exact h
  · rw [Function.update_of_ne hk]
    exact .refl _

/-- A slot changes in what it is not. -/
theorem changes_setSlot (s : Live2v2MatchState) {slot : Slot} {slotState : Live2v2SlotState}
    (hu : slotState.userId = (s.slots slot).userId) (ht : slotState.teamId = (s.slots slot).teamId)
    (hc : slotState.career = (s.slots slot).career)
    (hn : slotState.nextSeq = (s.slots slot).nextSeq) : Changes s (s.setSlot slot slotState) :=
  (sameMatch_setSlot s ⟨hu, ht, hc, hn⟩).changes

theorem changes_send (s : Live2v2MatchState) (recipients : List Presence)
    {message : Live2v2ServerMessage} (h : MaySend s message) :
    Changes s (s.send recipients message) :=
  .single (.send [(recipients, message)] fun m hm => by
    rw [List.mem_singleton.mp hm]
    exact h)

theorem changes_sendEach (s : Live2v2MatchState) {payload : Slot → Live2v2ServerMessage}
    (h : ∀ slot, MaySend s (payload slot)) : Changes s (s.sendEach payload) :=
  .single (.send _ fun m hm => by
    obtain ⟨slot, -, hs⟩ := List.mem_filterMap.mp hm
    obtain ⟨presence, -, rfl⟩ := Option.map_eq_some_iff.mp hs
    exact h slot)

theorem changes_reject (s : Live2v2MatchState) (message : Live2v2Message)
    (code : Live2v2Rejection) : Changes s (s.rejectCommand message code) :=
  changes_send s _ (.rejected code _)

/-! ### The calls -/

theorem joinOne_changes (s : Live2v2MatchState) (presence : Presence)
    (displayName : Option String) : Changes s (s.joinOne presence displayName) := by
  unfold joinOne
  cases s.presenceByUser presence.userId with
  | some slot =>
    have hadopt : Changes s (s.adoptPresence slot presence) :=
      changes_setSlot s rfl rfl rfl rfl
    dsimp only
    split
    · unfold resyncRejoinedSlot
      cases ((s.adoptPresence slot presence).slots slot).presence with
      | none => exact hadopt
      | some p => exact hadopt.trans (changes_send _ [p] (.started slot))
    · exact hadopt
  | none =>
    cases s.emptySlotForUser presence.userId with
    | none => exact .refl
    | some slot =>
      have hname : Changes s (s.setSlot slot
          { s.slots slot with displayName := displayName.getD presence.username }) :=
        changes_setSlot s rfl rfl rfl rfl
      have hadopt : ∀ t : Live2v2MatchState, Changes t (t.adoptPresence slot presence) :=
        fun t => changes_setSlot t rfl rfl rfl rfl
      refine hname.trans ((hadopt _).trans ?_)
      exact SameMatch.changes ⟨fun _ => .refl _, rfl, rfl, rfl, rfl, rfl, rfl, rfl, rfl, rfl, id⟩

theorem startCountdown_changes (s : Live2v2MatchState) (tick : ℤ) (h : s.phase = .waiting) :
    Changes s (s.startCountdown tick) :=
  .tail (.single (.countdown h))
    (.keep ⟨fun _ => .refl _, rfl, rfl, rfl, rfl, rfl, rfl, rfl, rfl, rfl, id⟩)

theorem matchJoin_changes (s : Live2v2MatchState) (arrivals : List (Presence × Option String))
    (tick : ℤ) : Changes s (s.matchJoin arrivals tick) := by
  have hall : ∀ (arrivals : List (Presence × Option String)) (s : Live2v2MatchState),
      Changes s (arrivals.foldl (fun s a => s.joinOne a.1 a.2) s) := by
    intro arrivals
    induction arrivals with
    | nil => intro s; exact .refl
    | cons a arrivals ih => intro s; exact (joinOne_changes s a.1 a.2).trans (ih _)
  unfold Live2v2MatchState.matchJoin
  dsimp only
  split
  · next hw =>
    rw [Bool.and_eq_true] at hw
    exact (hall arrivals s).trans (startCountdown_changes _ tick (of_decide_eq_true hw.1))
  · exact hall arrivals s

theorem leaveOne_changes (now : ℤ) (s : Live2v2MatchState) (presence : Presence) :
    Changes s (leaveOne now s presence) := by
  unfold leaveOne
  split
  · exact .refl
  split
  · exact .refl
  split
  · exact .refl
  · exact changes_setSlot s rfl rfl rfl rfl

theorem matchLeave_changes (now : ℤ) : ∀ (presences : List Presence) (s : Live2v2MatchState),
    Changes s (s.matchLeave presences now) := by
  have hall : ∀ (presences : List Presence) (s : Live2v2MatchState),
      Changes s (presences.foldl (leaveOne now) s) := by
    intro presences
    induction presences with
    | nil => intro s; exact .refl
    | cons p presences ih => intro s; exact (leaveOne_changes now s p).trans (ih _)
  intro presences s
  unfold Live2v2MatchState.matchLeave
  split
  · exact .refl
  · exact hall presences s

theorem cancelMatch_changes (s : Live2v2MatchState) (h : s.phase ≠ .finished) :
    Changes s s.cancelMatch :=
  .trans (.single (.cancel h)) (changes_send { s with phase := .cancelled } _
    (.cancelled rfl))

theorem finishMatch_changes (s : Live2v2MatchState) (answers : Answers)
    (h : s.phase = .finished ∨ (s.phase = .playing ∧ s.state.status ≠ .playing)) :
    Changes s (s.finishMatch answers) := by
  have hfin : Changes s { s with phase := .finished } := by
    rcases h with h | ⟨h, hs⟩
    · exact SameMatch.changes
        ⟨fun _ => .refl _, rfl, rfl, h.symm, rfl, rfl, rfl, rfl, rfl, rfl, id⟩
    · exact .single (.finish h hs)
  unfold finishMatch
  split
  · exact .refl
  · dsimp only
    split
    · refine hfin.trans (.trans (SameMatch.changes ?_) (changes_send _ _ .failed))
      exact ⟨fun _ => .refl _, rfl, rfl, rfl, rfl, rfl, rfl, rfl, rfl, rfl, id⟩
    · next settlements hset =>
      have hsettle : Changes { s with phase := .finished }
          { s with phase := .finished, settled := true } := .single (.settle rfl)
      have hends : SameMatch { s with phase := .finished, settled := true }
          { s with
            phase := .finished
            settled := true
            rematchEnds := s.tick + ticksOf live2v2RematchWindowSeconds } :=
        ⟨fun _ => .refl _, rfl, rfl, rfl, rfl, rfl, rfl, rfl, rfl, rfl, id⟩
      exact hfin.trans (hsettle.trans (hends.changes.trans
        (changes_send _ _ (.result settlements rfl))))

theorem endAs_changes (s : Live2v2MatchState) {status : MatchStatus} (answers : Answers)
    (h : s.phase = .playing) (hs : s.state.status = .playing) (hd : status ≠ .playing) :
    Changes s (s.endAs status answers) :=
  .trans (.single (.decide status h hs hd)) (finishMatch_changes _ answers (Or.inr ⟨h, hd⟩))

theorem checkTeamForfeit_changes (s : Live2v2MatchState) (answers : Answers)
    (h : s.phase = .playing) : Changes s (s.checkTeamForfeit answers) := by
  unfold checkTeamForfeit
  split
  · next hd =>
    rw [Bool.and_eq_true] at hd
    exact endAs_changes s answers h (of_decide_eq_true hd.2) (by decide)
  · split
    · next hd =>
      rw [Bool.and_eq_true] at hd
      exact endAs_changes s answers h (of_decide_eq_true hd.2) (by decide)
    · exact .refl

omit [MathLib] in
theorem expireSlot_same (now : ℤ) (slotState : Live2v2SlotState) :
    SameSlot slotState (expireSlot now slotState) := by
  unfold expireSlot
  split
  · exact .refl _
  · split
    · exact .refl _
    · split
      · exact ⟨rfl, rfl, rfl, rfl⟩
      · exact .refl _

theorem enforceReconnectGrace_changes (s : Live2v2MatchState) (now : ℤ) (answers : Answers)
    (h : s.phase = .playing) : Changes s (s.enforceReconnectGrace now answers) := by
  have hkeep : SameMatch s { s with slots := fun slot => expireSlot now (s.slots slot) } :=
    ⟨fun slot => expireSlot_same now _, rfl, rfl, rfl, rfl, rfl, rfl, rfl, rfl, rfl, id⟩
  exact hkeep.changes.trans (checkTeamForfeit_changes _ answers h)

theorem startMatch_changes (s : Live2v2MatchState) (now : ℤ) (h : s.phase = .countdown) :
    Changes s (s.startMatch now) := by
  unfold startMatch
  cases hs : s.createInitial2v2State with
  | none => exact cancelMatch_changes s (by rw [h]; decide)
  | some initialState =>
    have hstart : Changes s { s with state := initialState, phase := .playing } :=
      .single (.start h hs)
    have hdeadline : SameMatch { s with state := initialState, phase := .playing }
        { s with
          state := initialState
          phase := .playing
          deadlineAt := now + live2v2MaxMatchTime * second } :=
      ⟨fun _ => .refl _, rfl, rfl, rfl, rfl, rfl, rfl, rfl, rfl, rfl, id⟩
    exact hstart.trans (hdeadline.changes.trans (changes_sendEach _ fun slot => .started slot))

/-! ### Messages -/

theorem handleDispatch_changes (s : Live2v2MatchState) (message : Live2v2Message)
    (payload : Live2v2ClientMessage) (slot : Slot) (serverSeq : ℤ) :
    Changes s (s.handleDispatch message payload slot serverSeq) := by
  unfold handleDispatch
  split
  · exact changes_reject s message _
  next hphase =>
  split
  · exact changes_reject s message _
  split
  · exact changes_reject s message _
  next hseq =>
  split
  · exact changes_reject s message _
  next hlog =>
  split
  · exact changes_reject s message _
  split
  · exact changes_reject s message _
  split
  · exact changes_reject s message _
  · exact changes_reject s message _
  · exact changes_reject s message _
  · next state ho =>
    exact .single (.accept message slot payload serverSeq (not_not.mp hphase) (not_not.mp hseq)
      (not_le.mp hlog) ho)

theorem handleSurrender_changes (s : Live2v2MatchState) (message : Live2v2Message) (slot : Slot)
    (answers : Answers) : Changes s (s.handleSurrender message slot answers) := by
  unfold handleSurrender
  split
  · next h => exact cancelMatch_changes s (by rw [h]; decide)
  · next h => exact cancelMatch_changes s (by rw [h]; decide)
  · next h =>
    split
    · exact changes_reject s message _
    · have hslot : Changes s (s.setSlot slot
          { s.slots slot with
            surrendered := true
            connected := false
            presence := none }) := changes_setSlot s rfl rfl rfl rfl
      exact hslot.trans (checkTeamForfeit_changes _ answers h)
  · exact changes_reject s message _

theorem handleRematchVote_changes (s : Live2v2MatchState) (message : Live2v2Message) (slot : Slot)
    (answers : Answers) : Changes s (s.handleRematchVote message slot answers) := by
  unfold handleRematchVote
  split
  · exact changes_reject s message _
  split
  · exact changes_reject s message _
  split
  · exact changes_reject s message _
  split
  · exact changes_reject s message _
  have hvote : Changes s { s with rematchVotes := Function.update s.rematchVotes slot true } :=
    SameMatch.changes ⟨fun _ => .refl _, rfl, rfl, rfl, rfl, rfl, rfl, rfl, rfl, rfl, id⟩
  dsimp only
  split
  · unfold startRematch
    cases answers.matchCreate with
    | none => exact hvote
    | some matchId =>
      have hmade : SameMatch { s with rematchVotes := Function.update s.rematchVotes slot true }
          { s with
            rematchVotes := Function.update s.rematchVotes slot true
            rematchMade := true } :=
        ⟨fun _ => .refl _, rfl, rfl, rfl, rfl, rfl, rfl, rfl, rfl, rfl, id⟩
      exact hvote.trans (hmade.changes.trans
        (changes_sendEach _ fun _ => .rematch matchId.val matchId.property))
  · exact hvote

theorem handleMessage_changes (s : Live2v2MatchState) (message : Live2v2Message) (serverSeq : ℤ)
    (answers : Answers) : Changes s (s.handleMessage message serverSeq answers) := by
  unfold handleMessage
  split
  · exact changes_reject s message _
  next slot hslot =>
  split
  · exact changes_reject s message _
  next payload hpayload =>
  split
  · exact handleDispatch_changes s message payload slot serverSeq
  split
  · unfold handleReady
    split
    · exact changes_reject s message _
    · exact changes_setSlot s rfl rfl rfl rfl
  split
  · exact handleSurrender_changes s message slot answers
  split
  · exact handleRematchVote_changes s message slot answers
  · exact changes_reject s message _

theorem handleMessages_changes (s : Live2v2MatchState) (messages : List Live2v2Message)
    (answers : Answers) : Changes s (s.handleMessages messages answers) := by
  have hall : ∀ (numbered : List (Live2v2Message × ℕ)) (base : ℤ) (s : Live2v2MatchState),
      Changes s (numbered.foldl (fun t m => t.handleMessage m.1 (base + m.2 + 1) answers) s) := by
    intro numbered base
    induction numbered with
    | nil => intro s; exact .refl
    | cons m numbered ih => intro s; exact (handleMessage_changes s m.1 _ answers).trans (ih _)
  exact (hall _ _ s).trans
    (SameMatch.changes ⟨fun _ => .refl _, rfl, rfl, rfl, rfl, rfl, rfl, rfl, rfl, rfl, id⟩)

/-! ### The loop -/

theorem advancePhase_changes (s : Live2v2MatchState) (tick now : ℤ) :
    Changes s (s.advancePhase tick now) := by
  unfold advancePhase
  split
  · next h =>
    split
    · exact startCountdown_changes s tick h
    · split
      · exact cancelMatch_changes s (by rw [h]; decide)
      · exact .refl
  · next h =>
    split
    · exact startMatch_changes s now h
    · split
      · split
        · exact startMatch_changes s now h
        · exact cancelMatch_changes s (by rw [h]; decide)
      · exact .refl
  · exact .refl

omit [MathLib] in
/-- A match that has begun does not wait any more. -/
theorem advancePhase_begun {s : Live2v2MatchState} (h : s.phase ≠ .waiting ∧ s.phase ≠ .countdown)
    (tick now : ℤ) : s.advancePhase tick now = s := by
  unfold advancePhase
  split
  · next hw => exact absurd hw h.1
  · next hc => exact absurd hc h.2
  · rfl

/-- The state of a running match once its step, if it takes one, is done. -/
def Live2v2MatchState.stepped (s : Live2v2MatchState) : Live2v2MatchState :=
  if s.state.status = .playing then s.simulate else s

theorem stepped_moves (s : Live2v2MatchState) (h : s.phase = .playing) : Moves s s.stepped := by
  unfold stepped
  split
  · next hs => exact .single (.simulate h hs)
  · exact .refl

theorem phase_stepped (s : Live2v2MatchState) : s.stepped.phase = s.phase := by
  unfold stepped
  split <;> rfl

/-- After its step a running match sends its state and may end. -/
theorem playTick_changes (s : Live2v2MatchState) (now : ℤ) (answers : Answers)
    (h : s.phase = .playing) : Changes s.stepped (s.playTick now answers) := by
  have hphase : s.stepped.phase = .playing := (phase_stepped s).trans h
  have hsend : Changes s.stepped s.stepped.broadcastStates :=
    changes_sendEach s.stepped fun slot => .state slot
  unfold playTick
  dsimp only
  change Changes s.stepped (if s.stepped.broadcastStates.state.status ≠ .playing then
      s.stepped.broadcastStates.finishMatch answers
    else if now > s.stepped.broadcastStates.deadlineAt then
      s.stepped.broadcastStates.endAs .draw answers
    else s.stepped.broadcastStates)
  split
  · next hs => exact hsend.trans (finishMatch_changes _ answers (Or.inr ⟨hphase, hs⟩))
  next hs =>
  split
  · exact hsend.trans (endAs_changes _ answers hphase (not_not.mp hs) (by decide))
  · exact hsend

theorem afterMessages_moves (s : Live2v2MatchState) (tick now : ℤ) (answers : Answers) :
    Moves s (s.afterMessages tick now answers).1 := by
  unfold afterMessages
  split
  · split
    · dsimp only
      split
      · exact .refl
      · exact moves_of_changes (changes_send s _ .closed)
    · exact .refl
  · have hadvance := moves_of_changes (advancePhase_changes s tick now)
    dsimp only
    split
    · next h =>
      exact hadvance.trans ((stepped_moves _ h).trans
        (moves_of_changes (playTick_changes _ now answers h)))
    · exact hadvance

theorem changes_tick (s : Live2v2MatchState) (tick : ℕ) : Changes s { s with tick := tick } :=
  SameMatch.changes
    ⟨fun _ => .refl _, rfl, rfl, rfl, rfl, rfl, rfl, rfl, rfl, rfl, fun _ => Int.natCast_nonneg _⟩

theorem matchLoop_moves (s : Live2v2MatchState) (tick : ℕ) (now : ℤ)
    (messages : List Live2v2Message) (answers : Answers) :
    Moves s (s.matchLoop tick now messages answers).1 := by
  have htick := changes_tick s tick
  unfold Live2v2MatchState.matchLoop
  dsimp only
  split
  · exact moves_of_changes htick
  split
  · next hf =>
    rw [Bool.and_eq_true] at hf
    dsimp only
    split
    · exact moves_of_changes
        (htick.trans (finishMatch_changes _ answers (Or.inl (of_decide_eq_true hf.1))))
    · exact moves_of_changes htick
  split
  · next hp =>
    have hgrace := htick.trans (enforceReconnectGrace_changes { s with tick := tick } now answers hp)
    split
    · exact moves_of_changes hgrace
    · exact (moves_of_changes (hgrace.trans (handleMessages_changes _ messages answers))).trans
        (afterMessages_moves _ tick now answers)
  · exact (moves_of_changes (htick.trans (handleMessages_changes _ messages answers))).trans
      (afterMessages_moves _ tick now answers)

/-- **A call is a sequence of moves.** -/
theorem step_moves (r : Live2v2Run) (e : Live2v2Event) : Moves r.live (r.step e).live := by
  unfold Live2v2Run.step
  split
  · exact .refl
  cases e with
  | attempt presence =>
    dsimp only
    split
    · exact .refl
    · exact .refl
  | join arrivals tick =>
    dsimp only
    split
    · exact moves_of_changes (matchJoin_changes r.live arrivals tick)
    · exact .refl
  | leave presences now => exact moves_of_changes (matchLeave_changes now presences r.live)
  | loop tick now messages answers => exact matchLoop_moves r.live tick now messages answers
  | terminate =>
    dsimp only
    unfold matchTerminate
    split
    · next h =>
      refine moves_of_changes (cancelMatch_changes r.live ?_)
      intro hf
      rw [hf] at h
      rcases h with h | h | h <;> cases h
    · exact .refl

/-- What every change keeps, changes keep. -/
theorem changes_preserve {P : Live2v2MatchState → Prop}
    (h : ∀ s s', Change s s' → P s → P s') {s s' : Live2v2MatchState} (hc : Changes s s')
    (hp : P s) : P s' := by
  induction hc with
  | refl => exact hp
  | tail _ hlast ih => exact h _ _ hlast ih

/-- What every move keeps, moves keep. -/
theorem moves_preserve {P : Live2v2MatchState → Prop} (h : ∀ s s', Move s s' → P s → P s')
    {s s' : Live2v2MatchState} (hm : Moves s s') (hp : P s) : P s' := by
  induction hm with
  | refl => exact hp
  | tail _ hlast ih => exact h _ _ hlast ih

/-- What every move keeps, every call keeps. -/
theorem step_preserves {P : Live2v2MatchState → Prop} (h : ∀ s s', Move s s' → P s → P s')
    {r : Live2v2Run} (e : Live2v2Event) (hp : P r.live) : P (r.step e).live :=
  moves_preserve h (step_moves r e) hp

/-- What every move keeps holds throughout a run. -/
theorem run_preserves {P : Live2v2MatchState → Prop} (h : ∀ s s', Move s s' → P s → P s')
    {s : Live2v2MatchState} (hp : P s) (events : List Live2v2Event) :
    Always Live2v2Run.step (fun r => P r.live) (.start s) events :=
  always_of_preserves (E := fun _ => True)
    (fun _ e _ (hr : P _) => step_preserves h e hr) (fun _ _ => trivial) hp

/-! ### The battle of a match -/

/-- A match plays on the one map there is for four, and its battle is well formed
and knows no tactical rules. -/
structure PlayOk (s : Live2v2MatchState) : Prop where
  map : s.battlefieldId = live2v2BattlefieldId
  battle : s.phase = .playing → BattleOk s.state
  plain : s.phase = .playing → usesTacticalRules s.state.gameplayRulesVersion = false

/-- How a match is set up for the replay engine. -/
def setupOf (s : Live2v2MatchState) : TwoVTwoSimulationOptions where
  territories := quadCitadel.templates
  spawnAssignments := live2v2SpawnAssignments
  modifiersBySlot := s.modifiersBySlot
  timeLimitSeconds := pvpTimeLimitSeconds
  battlefieldId := live2v2BattlefieldId
  actions := []
  gameplayRulesVersion := 0

omit [MathLib] in
/-- The match starts as the replay engine starts. -/
theorem createInitial2v2State_eq {s : Live2v2MatchState} (h : s.battlefieldId = live2v2BattlefieldId) :
    s.createInitial2v2State = (initialState2v2 (setupOf s)).toOption := by
  have hfind : (battlefields.find? fun b => b.id = live2v2BattlefieldId) = some quadCitadel := rfl
  unfold createInitial2v2State
  rw [h, hfind]
  unfold initialState2v2 setupOf
  dsimp only
  cases createInitial2v2GameState quadCitadel.templates live2v2SpawnAssignments s.modifiersBySlot
    pvpTimeLimitSeconds live2v2BattlefieldId with
  | error e => rfl
  | ok state => rfl

omit [MathLib] in
theorem createInitial2v2State_ok {s : Live2v2MatchState} {initialState : GameState}
    (h : s.battlefieldId = live2v2BattlefieldId)
    (hs : s.createInitial2v2State = some initialState) :
    BattleOk initialState ∧ usesTacticalRules initialState.gameplayRulesVersion = false := by
  rw [createInitial2v2State_eq h] at hs
  cases hi : initialState2v2 (setupOf s) with
  | error e =>
    rw [hi] at hs
    cases hs
  | ok state =>
    rw [hi] at hs
    cases hs
    exact initialState2v2_ok quadCitadel_mem rfl rfl hi

omit [MathLib] in
theorem simulationOwnerForSlot_ne_neutral (slot : ℤ) : simulationOwnerForSlot slot ≠ .neutral := by
  unfold simulationOwnerForSlot
  split <;> decide

theorem PlayOk.change {s s' : Live2v2MatchState} (hc : Change s s') (h : PlayOk s) : PlayOk s' := by
  cases hc with
  | keep hk =>
    refine ⟨hk.battlefieldId.trans h.map, fun hp => ?_, fun hp => ?_⟩
    · rw [hk.state]
      exact h.battle (hk.phase ▸ hp)
    · rw [hk.state]
      exact h.plain (hk.phase ▸ hp)
  | send messages hm => exact { h with }
  | countdown hw => exact ⟨h.map, (fun hp => nomatch hp), fun hp => nomatch hp⟩
  | cancel hn => exact ⟨h.map, (fun hp => nomatch hp), fun hp => nomatch hp⟩
  | start hcount hs =>
    have hok := createInitial2v2State_ok h.map hs
    exact ⟨h.map, fun _ => hok.1, fun _ => hok.2⟩
  | accept message slot payload serverSeq hp hseq hlog ho =>
    have hn := simulationOwnerForSlot_ne_neutral slot.val
    have hok := dispatchArmyWithRatio_battleOk (h.battle hp) hn ho
    obtain ⟨source, army, -, -, -, -, -, -, -, -, -, -, hstate⟩ :=
      dispatchArmyWithRatio_ok_cases hn ho
    refine ⟨h.map, fun _ => hok, fun _ => ?_⟩
    subst hstate
    exact h.plain hp
  | decide status hp hs hd => exact ⟨h.map, fun _ => { h.battle hp with }, fun _ => h.plain hp⟩
  | finish hp hs => exact ⟨h.map, (fun hp => nomatch hp), fun hp => nomatch hp⟩
  | settle hf => exact { h with }

theorem PlayOk.move {s s' : Live2v2MatchState} (hm : Move s s') (h : PlayOk s) : PlayOk s' := by
  cases hm with
  | change hc => exact h.change hc
  | simulate hp hs =>
    have hδ : (0 : ℚ) ≤ 1 / live2v2TickRate := by norm_num [live2v2TickRate]
    have hclock := stepSimulation_clock (h.battle hp) hs s.accumulators hδ
    refine ⟨h.map, fun _ => stepSimulation_ok (h.battle hp) hδ, fun _ => ?_⟩
    change usesTacticalRules (stepSimulation s.state s.accumulators _).1.gameplayRulesVersion = false
    rw [hclock.2.1]
    exact h.plain hp

/-! ### A new match -/

section Start

omit [MathLib]

theorem bySlot_mem {α : Type} {a b c d : α} (slot : Slot) : bySlot a b c d slot ∈ [a, b, c, d] := by
  match slot with
  | 0 => exact List.mem_cons_self
  | 1 => exact List.mem_cons_of_mem _ List.mem_cons_self
  | 2 => exact List.mem_cons_of_mem _ (List.mem_cons_of_mem _ List.mem_cons_self)
  | 3 =>
    exact List.mem_cons_of_mem _ (List.mem_cons_of_mem _ (List.mem_cons_of_mem _
      List.mem_cons_self))

theorem bySlot_injective {a b c d : String} (h : [a, b, c, d].Nodup) :
    Function.Injective (bySlot a b c d) := by
  have hget : bySlot a b c d = [a, b, c, d].get := by
    funext slot
    match slot with
    | 0 => rfl
    | 1 => rfl
    | 2 => rfl
    | 3 => rfl
  rw [hget]
  exact List.nodup_iff_injective_get.mp h

/-- Four users, all different and none of them empty. -/
structure UsersOk (order : Slot → String) : Prop where
  named : ∀ slot, order slot ≠ ""
  distinct : Function.Injective order

theorem usersOk_bySlot {a b c d : String} (hn : [a, b, c, d].Nodup)
    (he : "" ∉ [a, b, c, d]) : UsersOk (bySlot a b c d) :=
  ⟨fun slot h => he (h ▸ bySlot_mem slot), bySlot_injective hn⟩

theorem assign2v2SlotsBySnakeDraft_ok {entries : List TwoVTwoDraftEntry} {draft : Slot → String}
    (h : assign2v2SlotsBySnakeDraft entries = some draft) : UsersOk draft := by
  unfold assign2v2SlotsBySnakeDraft at h
  split at h
  · cases h
  next hv =>
  rw [not_or, not_not] at hv
  obtain ⟨hname, hdup⟩ := hv
  have hperm : ((sortBy draftBefore entries).map TwoVTwoDraftEntry.userId).Perm
      (entries.map TwoVTwoDraftEntry.userId) := (perm_sortBy draftBefore entries).map _
  split at h
  · next first second third last hs =>
    cases h
    rw [hs] at hperm
    have hswap : [first.userId, last.userId, second.userId, third.userId].Perm
        [first.userId, second.userId, third.userId, last.userId] := by
      have hback : ([last.userId] ++ [second.userId, third.userId]).Perm
          ([second.userId, third.userId] ++ [last.userId]) := List.perm_append_comm
      exact hback.cons _
    have hall := hswap.trans hperm
    refine usersOk_bySlot (hall.nodup_iff.mpr hdup) fun he => ?_
    obtain ⟨e, hmem, hempty⟩ := List.mem_map.mp (hall.mem_iff.mp he)
    exact hname (List.any_eq_true.mpr ⟨e, hmem, decide_eq_true hempty⟩)
  · cases h

theorem slotOrder_ok {draft order : Slot → String} {allowedUsers : List String}
    {slotUsers : Option (List String)} (hd : UsersOk draft)
    (h : slotOrder draft allowedUsers slotUsers = some order) : UsersOk order := by
  unfold slotOrder at h
  split at h
  · split at h
    · cases h
      exact hd
    next hv =>
    split at h
    · next hn =>
      cases h
      exact usersOk_bySlot hn fun he => hv (Or.inl he)
    · cases h
  · cases h
    exact hd

theorem newLive2v2MatchId_ne (randomHex : Option String) (startedAt : ℤ) :
    newLive2v2MatchId randomHex startedAt ≠ "" := by
  have hne : ∀ rest : String, "live2v2_" ++ rest ≠ "" := by
    intro rest h
    have hlen := congrArg String.length h
    rw [String.length_append] at hlen
    have h8 : "live2v2_".length = 8 := by decide
    have h0 : "".length = 0 := by decide
    omega
  unfold newLive2v2MatchId
  split
  · exact hne _
  · rw [String.append_assoc, String.append_assoc]
    exact hne _

/-- What a new match looks like. -/
structure NewMatch (s : Live2v2MatchState) : Prop where
  phase : s.phase = .waiting
  map : s.battlefieldId = live2v2BattlefieldId
  actionLog : s.actionLog = []
  sent : s.sent = []
  settled : s.settled = false
  tick : s.tick = 0
  accumulators : s.accumulators = .empty
  matchId : s.matchId ≠ ""
  slots : ∀ slot, ∃ userId career, s.slots slot = slotStart userId career slot
  presenceByUser : s.presenceByUser = fun _ => none
  serverSeq : s.serverSeq = 0
  users : UsersOk fun slot => (s.slots slot).userId

theorem live2v2MatchInit_new {enable2v2 equalPower : Bool} {params : Live2v2Params}
    {lookup : String → SeatLookup} {randomHex : Option String} {startedAt : ℤ}
    {s : Live2v2MatchState}
    (h : live2v2MatchInit enable2v2 equalPower params lookup randomHex startedAt = some s) :
    NewMatch s := by
  unfold live2v2MatchInit at h
  dsimp only at h
  split at h
  · cases h
  simp only [Option.bind_eq_bind, Option.bind_eq_some_iff, Option.pure_def] at h
  obtain ⟨entries, -, draft, hdraft, order, horder, first, -, second, -, third, -, fourth, -, hs⟩ :=
    h
  cases hs
  have husers := slotOrder_ok (assign2v2SlotsBySnakeDraft_ok hdraft) horder
  exact
    { phase := rfl
      map := rfl
      actionLog := rfl
      sent := rfl
      settled := rfl
      tick := rfl
      accumulators := rfl
      matchId := newLive2v2MatchId_ne _ _
      slots := fun slot => ⟨_, _, rfl⟩
      presenceByUser := rfl
      serverSeq := rfl
      users := husers }

theorem NewMatch.playOk {s : Live2v2MatchState} (h : NewMatch s) : PlayOk s := by
  refine ⟨h.map, fun hp => ?_, fun hp => ?_⟩
  · rw [h.phase] at hp
    cases hp
  · rw [h.phase] at hp
    cases hp

/-! ### Four to play -/

/-- Four users with fresh careers, who seed in the order of their names. -/
def fourUsers : Live2v2Params := ⟨["anna", "bert", "carl", "dora"], none⟩

/-- A store that settles and a runtime that creates no rematch. -/
def settlingAnswers : Answers where
  settle request := some fun _ =>
    Store.settleMatchWithPolicy (freshCareer "anna") .draw MatchStats.zero request.matchId 0
      Store.casualPolicy
  matchCreate := none

/-- A match of the four. -/
def fourMatch : Live2v2MatchState :=
  (live2v2MatchInit true false fourUsers freshLookup none 0).get (by decide)

theorem fourMatch_init :
    live2v2MatchInit true false fourUsers freshLookup none 0 = some fourMatch :=
  (Option.some_get _).symm

def messageOf (userId type : String) (sequence : ℤ) (sourceId targetId : String) :
    Live2v2Message :=
  ⟨guest userId, false, some ⟨2, type, sequence, sourceId, targetId⟩⟩

def readyOf (userId : String) : Live2v2Message := messageOf userId "ready" 0 "" ""

/-- The four come in, join together and are ready at once. -/
def fourReady : List Live2v2Event :=
  [.attempt (guest "anna"), .attempt (guest "bert"), .attempt (guest "carl"),
   .attempt (guest "dora"),
   .join [(guest "anna", none), (guest "bert", none), (guest "carl", none),
     (guest "dora", none)] 0,
   .loop 1 0 [readyOf "anna", readyOf "bert", readyOf "carl", readyOf "dora"] settlingAnswers]

def surrenderOf (userId : String) : Live2v2Message := messageOf userId "surrender" 0 "" ""

/-- Anna sends an army and leaves.  When she has been away too long, the other of her team gives
up. -/
def teamLost : List Live2v2Event :=
  fourReady ++
    [.loop 2 0 [messageOf "anna" "dispatch" 0 "a_base_w" "n_corner_sw"] settlingAnswers,
     .leave [guest "anna"] 0, .loop 3 (31 * second) [] settlingAnswers,
     .loop 4 (31 * second) [surrenderOf "dora"] settlingAnswers]

end Start

end CrownClash.Go
