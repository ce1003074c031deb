import CrownClash.Go.Live
import CrownClash.Go.Simulate2v2
import CrownClash.Store.Economy

/-!
# Server: the live 2v2 match handler

`live2v2.go`.  Four slots, two a team, play one battle of two sides: slots 0 and
1 are team A and the side `player`, slots 2 and 3 are team B and the side
`enemy`.  A match waits for its four users, counts down, plays, and is finished
or cancelled; a finished match is settled, asked again while the store fails, and
kept open for a rematch.

As in `Live.lean` a call reads the clock once (in nanoseconds), the store and the
runtime answer through `Answers`, and what is sent is appended to `sent`.  A
match that could not be set up has no slots, admits nobody and sends nothing, so
`live2v2MatchInit` gives none.
-/

namespace CrownClash.Go

open Lib
open Store (MatchSettlement)

def live2v2TickRate : ℕ := 20

def live2v2CountdownSeconds : ℤ := 10

def live2v2ReconnectGraceSeconds : ℤ := 30

def live2v2RematchWindowSeconds : ℤ := 10

def live2v2SettlementRetrySeconds : ℤ := 1

/-- `PvpTimeLimitSeconds + 30` -/
def live2v2MaxMatchTime : ℤ := 120

def live2v2WaitingTimeoutSeconds : ℤ := 30

def live2v2MaxActionsPerMatch : ℕ := twoVTwoDefaultMaxActions

def live2v2BattlefieldId : String := "quad_citadel"

/-- A second of the server's clock. -/
def second : ℤ := 10 ^ 9

/-- Seconds as ticks of the loop. -/
def ticksOf (seconds : ℤ) : ℤ := seconds * live2v2TickRate

/-- The slots of a match. -/
abbrev Slot := Fin 4

def Slot.all : List Slot := [0, 1, 2, 3]

/-- One value for each slot. -/
def bySlot {α : Type} (a b c d : α) : Slot → α
  | 0 => a
  | 1 => b
  | 2 => c
  | 3 => d

def live2v2StartBase : Slot → String := bySlot "a_base_w" "a_base_e" "b_base_e" "b_base_w"

def live2v2SpawnAssignments : List TwoVTwoSpawnAssignment :=
  Slot.all.map fun slot => ⟨slot.val, live2v2StartBase slot⟩

inductive Live2v2Phase
  | waiting
  | countdown
  | playing
  | finished
  | cancelled
  deriving DecidableEq, Repr

structure Live2v2SlotState where
  presence : Option Presence
  userId : String
  displayName : String
  career : PlayerCareer
  teamId : TeamId
  startBase : String
  nextSeq : ℤ
  connected : Bool
  disconnectedAt : Option ℤ
  abandoned : Bool
  surrendered : Bool
  ready : Bool

structure MatchStats2v2 where
  unitsDispatchedBySlot : Slot → ℤ
  territoriesCapturedBySlot : Slot → ℤ
  teamUnitsDispatched : ℤ × ℤ
  teamTerritoriesCaptured : ℤ × ℤ

/-! ### What is sent and what is settled -/

inductive Live2v2Rejection
  | notInMatch
  | invalidPayload
  | unknownMessage
  | notStarted
  | slotDisconnected
  | invalidSequence
  | tooManyActions
  | invalidSource
  | invalidTarget
  | invalidDispatch
  deriving DecidableEq, Repr

structure RosterEntry where
  slot : ℤ
  teamId : TeamId
  userId : String
  displayName : String
  deriving DecidableEq, Repr

structure TwoVTwoParticipantOutcome where
  slot : Slot
  userId : String
  teamId : TeamId
  status : MatchStatus
  stats : MatchStats
  abandoned : Bool
  deriving DecidableEq, Repr

structure Live2v2ReplayPlayer where
  slot : Slot
  teamId : TeamId
  userId : String
  modifiers : PlayerUpgradeModifiers
  deriving DecidableEq, Repr

structure Live2v2Replay where
  gameplayRulesVersion : ℤ
  battlefieldId : String
  timeLimitSeconds : ℚ
  players : List Live2v2ReplayPlayer
  actions : List CanonicalTwoVTwoAction
  winnerTeamId : Option TeamId
  perTeam : MatchStats × MatchStats
  deriving DecidableEq, Repr

structure Settle2v2Request where
  matchId : String
  battlefieldId : String
  replayPayload : Live2v2Replay
  participants : List TwoVTwoParticipantOutcome
  deriving DecidableEq, Repr

inductive Live2v2ServerMessage
  | matchStarted (matchId : String) (slot : Slot) (teamId : TeamId) (nextSequence : ℤ)
      (players : List RosterEntry) (state : GameState)
  | state (tick : ℤ) (state : GameState)
  | commandAccepted (sequence : ℤ) (slot : Slot)
  | commandRejected (code : Live2v2Rejection) (sequence : ℤ)
  | rematchStarted (matchId : String)
  | matchResult (matchId : String) (winnerTeamId : Option TeamId)
      (participants : List (TwoVTwoParticipantOutcome × MatchSettlement))
  | matchCancelled (matchId : String)
  | matchClosed (matchId : String)
  | settlementFailed

/-- The answers of the store and of the runtime during one call. -/
structure Answers where
  /-- `SettleMatch2v2`: four settlements, or an error. -/
  settle : Settle2v2Request → Option (Slot → MatchSettlement)
  /-- `MatchCreate`: the id of a new match, which is never empty, or an error. -/
  matchCreate : Option { id : String // id ≠ "" }

structure Live2v2MatchState where
  slots : Slot → Live2v2SlotState
  presenceByUser : String → Option Slot
  state : GameState
  accumulators : Accumulators
  actionLog : List CanonicalTwoVTwoAction
  serverSeq : ℤ
  tick : ℤ
  matchId : String
  battlefieldId : String
  allowedUsers : List String
  phase : Live2v2Phase
  countdownEnds : ℤ
  waitingEnds : ℤ
  deadlineAt : ℤ
  stats : MatchStats2v2
  rematchVotes : Slot → Bool
  rematchEnds : ℤ
  rematchMade : Bool
  settled : Bool
  settlementRetryAt : ℤ
  sent : List (List Presence × Live2v2ServerMessage)

namespace Live2v2MatchState

def send (s : Live2v2MatchState) (recipients : List Presence) (message : Live2v2ServerMessage) :
    Live2v2MatchState :=
  { s with sent := s.sent ++ [(recipients, message)] }

/-- A change of one slot. -/
def setSlot (s : Live2v2MatchState) (slot : Slot) (slotState : Live2v2SlotState) :
    Live2v2MatchState :=
  { s with slots := Function.update s.slots slot slotState }

end Live2v2MatchState

/-! ### Setting up -/

structure TwoVTwoDraftEntry where
  userId : String
  trophies : ℤ
  deriving DecidableEq, Repr

def draftBefore (a b : TwoVTwoDraftEntry) : Bool :=
  a.trophies > b.trophies || (a.trophies == b.trophies && a.userId < b.userId)

/-- The snake draft: best and last seed against the second and the third. -/
def assign2v2SlotsBySnakeDraft (entries : List TwoVTwoDraftEntry) : Option (Slot → String) :=
  if entries.any (fun e => e.userId = "") ∨ ¬ (entries.map TwoVTwoDraftEntry.userId).Nodup then
    none
  else
    match sortBy draftBefore entries with
    | [first, second, third, last] =>
      some (bySlot first.userId last.userId second.userId third.userId)
    | _ => none

/-- A slot before its user joins. -/
def slotStart (userId : String) (career : PlayerCareer) (slot : Slot) : Live2v2SlotState where
  presence := none
  userId := userId
  displayName := ""
  career := career
  teamId := teamIdForSlot slot.val
  startBase := live2v2StartBase slot
  nextSeq := 0
  connected := false
  disconnectedAt := none
  abandoned := false
  surrendered := false
  ready := false

structure Live2v2Params where
  allowedUsers : List String
  /-- The slot order of a rematch. -/
  slotUsers : Option (List String)

/-- The order of the slots: the draft's, or that of the match before. -/
def slotOrder (draft : Slot → String) (allowedUsers : List String)
    (slotUsers : Option (List String)) : Option (Slot → String) :=
  match slotUsers with
  | some [a, b, c, d] =>
    if "" ∈ [a, b, c, d] ∨ ¬ (∀ id ∈ [a, b, c, d], id ∈ allowedUsers) then some draft
    else if [a, b, c, d].Nodup then some (bySlot a b c d)
    else none
  | _ => some draft

/-- The id of a new match; without random bytes it is made of the clock alone. -/
def newLive2v2MatchId (randomHex : Option String) (startedAt : ℤ) : String :=
  match randomHex with
  | none => "live2v2_" ++ toString startedAt
  | some hex => "live2v2_" ++ hex ++ "_" ++ toString startedAt

/-- A new match for its four users, with the careers the store answers. -/
def live2v2MatchInit (enable2v2 equalPower : Bool) (params : Live2v2Params)
    (lookup : String → SeatLookup) (randomHex : Option String) (startedAt : ℤ) :
    Option Live2v2MatchState := do
  let careerOf := fun userId => (lookup userId).liveCareer equalPower
  let allowedUsers := params.allowedUsers.filter fun u => u ≠ ""
  if !enable2v2 || allowedUsers.length ≠ 4 then none
  let entries ← allowedUsers.mapM fun u =>
    (careerOf u).map fun career => (⟨u, career.trophies⟩ : TwoVTwoDraftEntry)
  let draft ← assign2v2SlotsBySnakeDraft entries
  let order ← slotOrder draft allowedUsers params.slotUsers
  let first ← careerOf (order 0)
  let second ← careerOf (order 1)
  let third ← careerOf (order 2)
  let fourth ← careerOf (order 3)
  return {
    slots := fun slot => slotStart (order slot) (bySlot first second third fourth slot) slot
    presenceByUser := fun _ => none
    state := createInitialGameStateForBattlefield defaultModifiers defaultModifiers
      live2v2BattlefieldId
    accumulators := .empty
    actionLog := []
    serverSeq := 0
    tick := 0
    matchId := newLive2v2MatchId randomHex startedAt
    battlefieldId := live2v2BattlefieldId
    allowedUsers := allowedUsers
    phase := .waiting
    countdownEnds := 0
    waitingEnds := ticksOf live2v2WaitingTimeoutSeconds
    deadlineAt := 0
    stats := ⟨fun _ => 0, fun _ => 0, (0, 0), (0, 0)⟩
    rematchVotes := fun _ => false
    rematchEnds := 0
    rematchMade := false
    settled := false
    settlementRetryAt := 0
    sent := [] }

namespace Live2v2MatchState

/-! ### Payloads -/

def slotIndex (s : Live2v2MatchState) (userId : String) : ℤ :=
  match Slot.all.find? fun slot => (s.slots slot).userId = userId with
  | some slot => slot.val
  | none => -1

def roleForTeamId : TeamId → Team
  | .a => .player
  | .b => .enemy

def matchStartedPayload (s : Live2v2MatchState) (slot : Slot) : Live2v2ServerMessage :=
  .matchStarted s.matchId slot (s.slots slot).teamId (s.slots slot).nextSeq
    (Slot.all.map fun k =>
      { slot := s.slotIndex (s.slots k).userId
        teamId := (s.slots k).teamId
        userId := (s.slots k).userId
        displayName := (s.slots k).displayName })
    (stateForRole s.state (roleForTeamId (s.slots slot).teamId))

def connectedPresences (s : Live2v2MatchState) : List Presence :=
  Slot.all.filterMap fun slot => (s.slots slot).presence

/-- One message to every slot that has a presence. -/
def sendEach (s : Live2v2MatchState) (payload : Slot → Live2v2ServerMessage) : Live2v2MatchState :=
  { s with
    sent := s.sent ++ Slot.all.filterMap fun slot =>
      (s.slots slot).presence.map fun presence => ([presence], payload slot) }

def broadcastMatchStarted (s : Live2v2MatchState) : Live2v2MatchState :=
  s.sendEach s.matchStartedPayload

def broadcastStates (s : Live2v2MatchState) : Live2v2MatchState :=
  s.sendEach fun slot =>
    .state s.tick (stateForRole s.state (roleForTeamId (s.slots slot).teamId))

/-! ### Joining and leaving -/

inductive JoinRefusal
  | finished
  | notReconnectable
  | notAuthorized
  | full
  deriving DecidableEq, Repr

def emptySlotForUser (s : Live2v2MatchState) (userId : String) : Option Slot :=
  Slot.all.find? fun slot => (s.slots slot).userId = userId && (s.slots slot).presence.isNone

def matchJoinAttempt (s : Live2v2MatchState) (presence : Presence) : Except JoinRefusal Unit :=
  if s.phase = .finished ∨ s.phase = .cancelled then .error .finished
  else
    match s.presenceByUser presence.userId with
    | some slot =>
      if (s.slots slot).surrendered || (s.slots slot).abandoned then .error .notReconnectable
      else .ok ()
    | none =>
      if s.allowedUsers ≠ [] ∧ presence.userId ∉ s.allowedUsers then .error .notAuthorized
      else if (s.emptySlotForUser presence.userId).isNone then .error .full
      else .ok ()

/-- The newest session owns the slot. -/
def adoptPresence (s : Live2v2MatchState) (slot : Slot) (presence : Presence) : Live2v2MatchState :=
  s.setSlot slot
    { s.slots slot with
      presence := some presence
      connected := true
      disconnectedAt := none }

def resyncRejoinedSlot (s : Live2v2MatchState) (slot : Slot) : Live2v2MatchState :=
  match (s.slots slot).presence with
  | none => s
  | some presence => s.send [presence] (s.matchStartedPayload slot)

def allSlotsJoined (s : Live2v2MatchState) : Bool :=
  Slot.all.all fun slot => (s.slots slot).presence.isSome

/-- A presence joins; its display name is the store's answer, if there is one. -/
def joinOne (s : Live2v2MatchState) (presence : Presence) (displayName : Option String) :
    Live2v2MatchState :=
  match s.presenceByUser presence.userId with
  | some slot =>
    let s := s.adoptPresence slot presence
    if s.phase = .playing then s.resyncRejoinedSlot slot else s
  | none =>
    match s.emptySlotForUser presence.userId with
    | none => s
    | some slot =>
      let s := s.setSlot slot
        { s.slots slot with displayName := displayName.getD presence.username }
      let s := s.adoptPresence slot presence
      { s with presenceByUser := Function.update s.presenceByUser presence.userId (some slot) }

/-- The countdown begins once all four have joined. -/
def startCountdown (s : Live2v2MatchState) (tick : ℤ) : Live2v2MatchState :=
  { s with
    phase := .countdown
    countdownEnds := tick + ticksOf live2v2CountdownSeconds }

def matchJoin (s : Live2v2MatchState) (arrivals : List (Presence × Option String)) (tick : ℤ) :
    Live2v2MatchState :=
  let s := arrivals.foldl (fun s a => s.joinOne a.1 a.2) s
  if s.phase = .waiting && s.allSlotsJoined then s.startCountdown tick else s

/-- A presence leaves; a session that was replaced before is ignored. -/
def leaveOne (now : ℤ) (s : Live2v2MatchState) (presence : Presence) : Live2v2MatchState :=
  match s.presenceByUser presence.userId with
  | none => s
  | some slot =>
    match (s.slots slot).presence with
    | none => s
    | some active =>
      if active.sessionId ≠ presence.sessionId then s
      else
        s.setSlot slot
          { s.slots slot with
            presence := none
            connected := false
            disconnectedAt := some now }

def matchLeave (s : Live2v2MatchState) (presences : List Presence) (now : ℤ) : Live2v2MatchState :=
  if s.phase = .finished ∨ s.phase = .cancelled then s
  else presences.foldl (leaveOne now) s

/-! ### The end of a match -/

def winnerTeamId (status : MatchStatus) : Option TeamId :=
  match status with
  | .victory => some .a
  | .defeat => some .b
  | _ => none

/-- An abandoned or surrendered slot is settled as a defeat. -/
def participantOutcome (s : Live2v2MatchState) (slot : Slot) : TwoVTwoParticipantOutcome :=
  let role := roleForTeamId (s.slots slot).teamId
  let abandoned := (s.slots slot).abandoned || (s.slots slot).surrendered
  { slot := slot
    userId := (s.slots slot).userId
    teamId := (s.slots slot).teamId
    status := if abandoned then .defeat else statusForRole s.state.status role
    stats := statsForRole s.state.stats role
    abandoned := abandoned }

def replayPayload (s : Live2v2MatchState) : Live2v2Replay where
  gameplayRulesVersion := s.state.gameplayRulesVersion
  battlefieldId := s.battlefieldId
  timeLimitSeconds := s.state.timeLimitSeconds
  players := Slot.all.map fun slot =>
    { slot := slot
      teamId := (s.slots slot).teamId
      userId := (s.slots slot).userId
      modifiers := upgradeModifiers (s.slots slot).career }
  actions := s.actionLog
  winnerTeamId := winnerTeamId s.state.status
  perTeam := (s.state.stats, statsForRole s.state.stats .enemy)

def settleRequest (s : Live2v2MatchState) : Settle2v2Request where
  matchId := s.matchId
  battlefieldId := s.battlefieldId
  replayPayload := s.replayPayload
  participants := Slot.all.map s.participantOutcome

/-- The match is over and its four participants are settled, now or, when the
store fails, at a later tick. -/
def finishMatch (s : Live2v2MatchState) (answers : Answers) : Live2v2MatchState :=
  if s.settled then s
  else
    let s := { s with phase := .finished }
    match answers.settle s.settleRequest with
    | none =>
      { s with settlementRetryAt := s.tick + ticksOf live2v2SettlementRetrySeconds }.send
        s.connectedPresences .settlementFailed
    | some settlements =>
      { s with
        settled := true
        rematchEnds := s.tick + ticksOf live2v2RematchWindowSeconds }.send s.connectedPresences
          (.matchResult s.matchId (winnerTeamId s.state.status)
            (Slot.all.map fun slot => (s.participantOutcome slot, settlements slot)))

def cancelMatch (s : Live2v2MatchState) : Live2v2MatchState :=
  { s with phase := .cancelled }.send s.connectedPresences (.matchCancelled s.matchId)

/-- Neither slot of a team can play any more. -/
def teamDead (s : Live2v2MatchState) (teamId : TeamId) : Bool :=
  Slot.all.all fun slot =>
    !(teamIdForSlot slot.val = teamId) || (s.slots slot).abandoned || (s.slots slot).surrendered

/-- The match ends with a status other than the battle's own. -/
def endAs (s : Live2v2MatchState) (status : MatchStatus) (answers : Answers) : Live2v2MatchState :=
  { s with state := { s.state with status := status } }.finishMatch answers

def checkTeamForfeit (s : Live2v2MatchState) (answers : Answers) : Live2v2MatchState :=
  if s.teamDead .a && s.state.status = .playing then s.endAs .defeat answers
  else if s.teamDead .b && s.state.status = .playing then s.endAs .victory answers
  else s

/-- A slot whose reconnect window is over. -/
def expireSlot (now : ℤ) (slotState : Live2v2SlotState) : Live2v2SlotState :=
  if slotState.connected || slotState.abandoned || slotState.surrendered then slotState
  else
    match slotState.disconnectedAt with
    | none => slotState
    | some since =>
      if now - since > live2v2ReconnectGraceSeconds * second then
        { slotState with abandoned := true }
      else slotState

def enforceReconnectGrace (s : Live2v2MatchState) (now : ℤ) (answers : Answers) :
    Live2v2MatchState :=
  { s with slots := fun slot => expireSlot now (s.slots slot) }.checkTeamForfeit answers

/-! ### The start -/

def modifiersBySlot (s : Live2v2MatchState) (slot : ℤ) : PlayerUpgradeModifiers :=
  upgradeModifiers (s.slots (Fin.ofNat 4 slot.toNat)).career

/-- The battle the four play, or none when the map is not shipped. -/
def createInitial2v2State (s : Live2v2MatchState) : Option GameState :=
  match battlefields.find? fun b => b.id = s.battlefieldId with
  | none => none
  | some definition =>
    (createInitial2v2GameState definition.templates live2v2SpawnAssignments s.modifiersBySlot
      pvpTimeLimitSeconds s.battlefieldId).toOption

def startMatch (s : Live2v2MatchState) (now : ℤ) : Live2v2MatchState :=
  match s.createInitial2v2State with
  | none => s.cancelMatch
  | some initialState =>
    { s with
      state := initialState
      phase := .playing
      deadlineAt := now + live2v2MaxMatchTime * second }.broadcastMatchStarted

end Live2v2MatchState

/-! ### Messages -/

structure Live2v2ClientMessage where
  schemaVersion : ℤ
  type : String
  sequence : ℤ
  sourceId : String
  targetId : String
  deriving DecidableEq, Repr

/-- A message and who sent it: whether it is over the size limit, and what its
bytes decode to, if they do. -/
structure Live2v2Message where
  sender : Presence
  oversize : Bool
  payload : Option Live2v2ClientMessage

namespace Live2v2MatchState

/-- A refusal echoes the sequence number it could read. -/
def rejectCommand (s : Live2v2MatchState) (message : Live2v2Message) (code : Live2v2Rejection) :
    Live2v2MatchState :=
  s.send [message.sender]
    (.commandRejected code (message.payload.elim 0 Live2v2ClientMessage.sequence))

/-- The log entry of an accepted dispatch. -/
def actionOf (s : Live2v2MatchState) (slot : Slot) (payload : Live2v2ClientMessage)
    (serverSeq : ℤ) : CanonicalTwoVTwoAction where
  schemaVersion := matchSchemaVersion2
  tick := s.tick
  serverSeq := serverSeq
  slot := slot.val
  clientSeq := payload.sequence
  sourceId := payload.sourceId
  targetId := payload.targetId

section Dispatch

variable [MathLib]

/-- The dispatch a slot orders, in the battle as it stands. -/
def order (s : Live2v2MatchState) (slot : Slot) (payload : Live2v2ClientMessage) (serverSeq : ℤ) :
    Except DispatchError GameState :=
  dispatchArmy s.state payload.sourceId payload.targetId (simulationOwnerForSlot slot.val)
    (upgradeModifiers (s.slots slot).career).armySpeedMultiplier
    (twoVTwoArmyId (s.actionOf slot payload serverSeq))

/-- An accepted dispatch, which leads to `state`. -/
def acceptDispatch (s : Live2v2MatchState) (message : Live2v2Message) (slot : Slot)
    (payload : Live2v2ClientMessage) (serverSeq : ℤ) (state : GameState) : Live2v2MatchState :=
  let units := (s.state.territory payload.sourceId).units - (state.territory payload.sourceId).units
  { s with
    state := state
    slots := Function.update s.slots slot
      { s.slots slot with nextSeq := (s.slots slot).nextSeq + 1 }
    actionLog := s.actionLog ++ [s.actionOf slot payload serverSeq]
    stats := { s.stats with
      unitsDispatchedBySlot := Function.update s.stats.unitsDispatchedBySlot slot
        (s.stats.unitsDispatchedBySlot slot + units) }
    sent := s.sent ++ [([message.sender], .commandAccepted payload.sequence slot)] }

def handleDispatch (s : Live2v2MatchState) (message : Live2v2Message)
    (payload : Live2v2ClientMessage) (slot : Slot) (serverSeq : ℤ) : Live2v2MatchState :=
  if s.phase ≠ .playing then s.rejectCommand message .notStarted
  else if (s.slots slot).abandoned || (s.slots slot).surrendered || !(s.slots slot).connected then
    s.rejectCommand message .slotDisconnected
  else if (s.slots slot).nextSeq ≠ payload.sequence then s.rejectCommand message .invalidSequence
  else if s.actionLog.length ≥ live2v2MaxActionsPerMatch then
    s.rejectCommand message .tooManyActions
  else if (s.state.territories.get? payload.sourceId).isNone then
    s.rejectCommand message .invalidSource
  else if (s.state.territories.get? payload.targetId).isNone then
    s.rejectCommand message .invalidTarget
  else
    match s.order slot payload serverSeq with
    | .error .invalidSource => s.rejectCommand message .invalidSource
    | .error .invalidTarget => s.rejectCommand message .invalidTarget
    | .error .invalidDispatch => s.rejectCommand message .invalidDispatch
    | .ok state => s.acceptDispatch message slot payload serverSeq state

end Dispatch

def handleReady (s : Live2v2MatchState) (message : Live2v2Message) (slot : Slot) :
    Live2v2MatchState :=
  if s.phase ≠ .waiting ∧ s.phase ≠ .countdown then s.rejectCommand message .unknownMessage
  else s.setSlot slot { s.slots slot with ready := true }

def handleSurrender (s : Live2v2MatchState) (message : Live2v2Message) (slot : Slot)
    (answers : Answers) : Live2v2MatchState :=
  match s.phase with
  | .waiting => s.cancelMatch
  | .countdown => s.cancelMatch
  | .playing =>
    if !(s.slots slot).connected then s.rejectCommand message .slotDisconnected
    else
      (s.setSlot slot
        { s.slots slot with
          surrendered := true
          connected := false
          presence := none }).checkTeamForfeit answers
  | _ => s.rejectCommand message .unknownMessage

/-- The rematch all four voted for, which the runtime may fail to create. -/
def startRematch (s : Live2v2MatchState) (answers : Answers) : Live2v2MatchState :=
  match answers.matchCreate with
  | none => s
  | some matchId => { s with rematchMade := true }.sendEach fun _ => .rematchStarted matchId.val

def handleRematchVote (s : Live2v2MatchState) (message : Live2v2Message) (slot : Slot)
    (answers : Answers) : Live2v2MatchState :=
  if s.phase ≠ .finished ∨ s.settled = false ∨ s.rematchMade then
    s.rejectCommand message .invalidPayload
  else if s.tick ≥ s.rematchEnds then s.rejectCommand message .invalidPayload
  else if !(s.slots slot).connected then s.rejectCommand message .slotDisconnected
  else if s.rematchVotes slot then s.rejectCommand message .invalidPayload
  else
    let s := { s with rematchVotes := Function.update s.rematchVotes slot true }
    if Slot.all.all s.rematchVotes then s.startRematch answers else s

/-- The slot a message may command: its user holds one and its session is the
newest there. -/
def senderSlot (s : Live2v2MatchState) (message : Live2v2Message) : Option Slot :=
  match s.presenceByUser message.sender.userId with
  | none => none
  | some slot =>
    match (s.slots slot).presence with
    | none => none
    | some active => if active.sessionId = message.sender.sessionId then some slot else none

/-- What a message orders, once its size, its encoding and its schema pass. -/
def readPayload (message : Live2v2Message) : Option Live2v2ClientMessage :=
  if message.oversize then none
  else message.payload.filter fun payload => payload.schemaVersion = matchSchemaVersion2

section Loop

variable [MathLib]

def handleMessage (s : Live2v2MatchState) (message : Live2v2Message) (serverSeq : ℤ)
    (answers : Answers) : Live2v2MatchState :=
  match s.senderSlot message with
  | none => s.rejectCommand message .notInMatch
  | some slot =>
    match readPayload message with
    | none => s.rejectCommand message .invalidPayload
    | some payload =>
      if payload.type = "dispatch" then s.handleDispatch message payload slot serverSeq
      else if payload.type = "ready" then s.handleReady message slot
      else if payload.type = "surrender" then s.handleSurrender message slot answers
      else if payload.type = "rematch_vote" then s.handleRematchVote message slot answers
      else s.rejectCommand message .unknownMessage

/-- The messages of one call, numbered after those of the calls before. -/
def handleMessages (s : Live2v2MatchState) (messages : List Live2v2Message) (answers : Answers) :
    Live2v2MatchState :=
  let handled := messages.zipIdx.foldl
    (fun t m => t.handleMessage m.1 (s.serverSeq + m.2 + 1) answers) s
  { handled with serverSeq := s.serverSeq + messages.length }

end Loop

/-! ### Captures -/

/-- The slot in an army id `2v2_tick_serverSeq_slot_clientSeq`. -/
def slotFrom2v2ArmyId (armyId : String) : Option Slot :=
  match armyId.splitOn "_" with
  | [mark, tick, serverSeq, slot, clientSeq] =>
    match tick.toInt?, serverSeq.toInt?, slot.toInt?, clientSeq.toInt? with
    | some _, some _, some slot, some _ =>
      if mark = "2v2" ∧ 0 ≤ slot ∧ slot < 4 then some (Fin.ofNat 4 slot.toNat) else none
    | _, _, _, _ => none
  | _ => none

/-- The last army that was on its way to each territory and of which no other is
still on its way there. -/
def vanishedArmies (before after : List MarchingArmy) : List (String × MarchingArmy) :=
  (before.foldl (fun vanished army => vanished.set army.targetId army)
    (Record.empty : Record String MarchingArmy)).entries.filter fun e =>
      !after.any fun army => army.targetId = e.1

/-- One round of the loop that credits captures. -/
def creditCapture (previous state : GameState) (captured : Slot → ℤ) (e : String × MarchingArmy) :
    Slot → ℤ :=
  match state.territories.get? e.1 with
  | none => captured
  | some territory =>
    if territory.owner ≠ e.2.owner then captured
    else if (previous.territories.get? e.1).map Territory.owner = some e.2.owner then captured
    else
      match slotFrom2v2ArmyId e.2.id with
      | none => captured
      | some slot => Function.update captured slot (captured slot + 1)

def trackPerSlotCaptures (s : Live2v2MatchState) (previous : GameState) : Live2v2MatchState :=
  { s with
    stats := { s.stats with
      territoriesCapturedBySlot :=
        (vanishedArmies previous.armies s.state.armies).foldl (creditCapture previous s.state)
          s.stats.territoriesCapturedBySlot
      teamUnitsDispatched := (s.state.stats.playerUnitsDispatched,
        s.state.stats.enemyUnitsDispatched)
      teamTerritoriesCaptured := (s.state.stats.territoriesCapturedByPlayer,
        s.state.stats.territoriesCapturedByEnemy) } }

/-! ### The loop -/

section Loop

variable [MathLib]

/-- One step of the battle.  The copy that `previous` is has its own list of
armies, but its territories are the map that the step writes into: what it holds
once the step is done are the territories after it. -/
def simulate (s : Live2v2MatchState) : Live2v2MatchState :=
  let p := stepSimulation s.state s.accumulators (1 / live2v2TickRate)
  let previous := { s.state with territories := p.1.territories }
  { s with
    state := p.1
    accumulators := p.2 }.trackPerSlotCaptures previous

def allSlotsReady (s : Live2v2MatchState) : Bool := Slot.all.all fun slot => (s.slots slot).ready

/-- The lobby and the countdown. -/
def advancePhase (s : Live2v2MatchState) (tick now : ℤ) : Live2v2MatchState :=
  match s.phase with
  | .waiting =>
    if s.allSlotsJoined then s.startCountdown tick
    else if tick ≥ s.waitingEnds then s.cancelMatch
    else s
  | .countdown =>
    if s.allSlotsReady then s.startMatch now
    else if tick ≥ s.countdownEnds then
      if s.allSlotsJoined then s.startMatch now else s.cancelMatch
    else s
  | _ => s

/-- The battle of a running match. -/
def playTick (s : Live2v2MatchState) (now : ℤ) (answers : Answers) : Live2v2MatchState :=
  let s := if s.state.status = .playing then s.simulate else s
  let s := s.broadcastStates
  if s.state.status ≠ .playing then s.finishMatch answers
  else if now > s.deadlineAt then s.endAs .draw answers
  else s

/-- The part of the loop after the messages. -/
def afterMessages (s : Live2v2MatchState) (tick now : ℤ) (answers : Answers) :
    Live2v2MatchState × Bool :=
  if s.phase = .finished then
    if s.settled && tick ≥ s.rematchEnds then
      (if s.rematchMade then s else s.send s.connectedPresences (.matchClosed s.matchId), false)
    else (s, true)
  else
    let s := s.advancePhase tick now
    (if s.phase = .playing then s.playTick now answers else s, true)

/-- One call of the loop, and whether the match goes on. -/
def matchLoop (s : Live2v2MatchState) (tick now : ℤ) (messages : List Live2v2Message)
    (answers : Answers) : Live2v2MatchState × Bool :=
  let s := { s with tick := tick }
  if s.phase = .cancelled then (s, false)
  else if s.phase = .finished && !s.settled then
    (if tick ≥ s.settlementRetryAt then s.finishMatch answers else s, true)
  else if s.phase = .playing then
    let s := s.enforceReconnectGrace now answers
    if s.phase ≠ .playing then (s, true)
    else (s.handleMessages messages answers).afterMessages tick now answers
  else (s.handleMessages messages answers).afterMessages tick now answers

end Loop

def matchTerminate (s : Live2v2MatchState) : Live2v2MatchState :=
  if s.phase = .playing ∨ s.phase = .countdown ∨ s.phase = .waiting then s.cancelMatch else s

end Live2v2MatchState

end CrownClash.Go
