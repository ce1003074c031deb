import CrownClash.Go.Simulation
import CrownClash.Go.Upgrades
import Mathlib.Logic.Function.Basic

/-!
# Server: the live 1v1 match handler

`live.go`.  The runtime calls the handler one call at a time: it asks
`matchJoinAttempt` whether a presence may come in, hands the admitted presences
to `matchJoin` some time later, and then calls `matchLeave` and, twenty times a
second, `matchLoop`.

What a call reads from outside stands in its arguments: the clock, the answers of
the store, and for every message the bytes it carries, already decoded or not
decodable.  What a call sends is appended to `sent`.
-/

namespace CrownClash.Go

open Lib

/-! ### The runtime and the store -/

/-- One connection of a user. -/
structure Presence where
  userId : String
  sessionId : String
  username : String
  deriving DecidableEq, Repr

/-- What the store answers when a user takes a seat; an error is `none`. -/
structure SeatLookup where
  /-- `GetOrCreateCareer` -/
  career : Option PlayerCareer
  /-- The loadout row that `pilotLiveCareer` reads, when there is one. -/
  pilotCommander : Option (Option String)
  /-- `GetPlayerDisplayName` -/
  displayName : Option String

/-- A presence that joins, and the store's answers about it. -/
structure Arrival where
  presence : Presence
  lookup : SeatLookup

/-- The career of a pilot match: no upgrades, and the commander of the loadout. -/
def pilotLiveCareer (loadout : Option (Option String)) (career : PlayerCareer) :
    Option PlayerCareer :=
  let career :=
    { career with
      startingGarrisonLevel := 0
      productionLevel := 0
      armySpeedLevel := 0 }
  match loadout with
  | none => none
  | some none => some career
  | some (some commander) => some { career with selectedCommanderId := commander }

/-- The career a seat is taken with, or none when the store fails. -/
def SeatLookup.liveCareer (l : SeatLookup) (equalPower : Bool) : Option PlayerCareer :=
  match l.career with
  | none => none
  | some career =>
    if equalPower then pilotLiveCareer l.pilotCommander career else some career

/-! ### The two views of a match -/

def mapTeamForRole (team role : Team) : Team :=
  if role = .player then team
  else
    match team with
    | .player => .enemy
    | .enemy => .player
    | .neutral => .neutral

def statusForRole (status : MatchStatus) (role : Team) : MatchStatus :=
  if role = .player ∨ status = .playing ∨ status = .draw then status
  else
    match status with
    | .victory => .defeat
    | .defeat => .victory
    | status => status

def statsForRole (stats : MatchStats) (role : Team) : MatchStats :=
  if role = .player then stats
  else
    { matchDurationSeconds := stats.matchDurationSeconds
      playerUnitsDispatched := stats.enemyUnitsDispatched
      enemyUnitsDispatched := stats.playerUnitsDispatched
      territoriesCapturedByPlayer := stats.territoriesCapturedByEnemy
      territoriesCapturedByEnemy := stats.territoriesCapturedByPlayer }

def stateForRole (state : GameState) (role : Team) : GameState :=
  { state with
    territories := state.territories.map fun _ t => { t with owner := mapTeamForRole t.owner role }
    armies := state.armies.map fun a => { a with owner := mapTeamForRole a.owner role }
    status := statusForRole state.status role
    stats := statsForRole state.stats role }

/-! ### The match -/

def liveTickRate : ℕ := 20

def liveMaxMatchTime : ℚ := pvpTimeLimitSeconds + 15

def liveJoinCodeLen : ℕ := 8

structure LivePlayerState where
  presence : Presence
  userId : String
  displayName : String
  career : PlayerCareer
  role : Team
  nextSeq : ℤ

inductive LiveRejection
  | notStarted
  | invalidPayload
  | unknownMessage
  | invalidSequence
  | invalidDispatch
  deriving DecidableEq, Repr

inductive LiveServerMessage
  | matchStarted (matchId : String) (role : Team) (playerName opponentName : String)
      (state : GameState)
  | state (state : GameState)
  | commandAccepted (sequence : ℤ)
  | commandRejected (code : LiveRejection) (sequence : ℤ)
  | matchResult (matchId : String) (status : MatchStatus) (stats : MatchStats)
  | settlementFailed

/-- One slot of the two. -/
abbrev Seat := Fin 2

structure LiveMatchState where
  equalPower : Bool
  players : Seat → Option LivePlayerState
  presenceById : String → Option Seat
  state : GameState
  accumulators : Accumulators
  startedAt : ℤ
  started : Bool
  finished : Bool
  allowedUsers : List String
  inviteCode : String
  battlefieldId : String
  sent : List (Presence × LiveServerMessage)

/-- The players who hold a seat, in the order of the seats. -/
def LiveMatchState.seated (s : LiveMatchState) : List LivePlayerState :=
  [s.players 0, s.players 1].reduceOption

def LiveMatchState.send (s : LiveMatchState) (messages : List (Presence × LiveServerMessage)) :
    LiveMatchState :=
  { s with sent := s.sent ++ messages }

/-- What the runtime is asked to open a match with. -/
structure LiveMatchParams where
  invite : Bool
  inviteCode : Option String
  allowedUsers : List String

/-- A new match.  The join code and the map are drawn by the server's random
source; nothing reads the battle before the match starts. -/
def liveMatchInit (equalPower : Bool) (params : LiveMatchParams) (newLiveJoinCode : String)
    (battlefieldId : String) : LiveMatchState where
  equalPower := equalPower
  players _ := none
  presenceById _ := none
  state := createInitialGameStateForBattlefield defaultModifiers defaultModifiers battlefieldId
  accumulators := .empty
  startedAt := 0
  started := false
  finished := false
  allowedUsers := params.allowedUsers.filter fun u => u ≠ ""
  inviteCode :=
    if params.invite then
      match params.inviteCode with
      | some code => if code.utf8ByteSize = liveJoinCodeLen then code else newLiveJoinCode
      | none => newLiveJoinCode
    else ""
  battlefieldId := battlefieldId
  sent := []

inductive LiveJoinRefusal
  | full
  | finished
  | notAuthorized
  | invalidCode
  deriving DecidableEq, Repr

/-- May a presence come in?  `code` is the join code it brings along. -/
def matchJoinAttempt (s : LiveMatchState) (presence : Presence) (code : Option String) :
    Except LiveJoinRefusal Unit :=
  if (s.presenceById presence.userId).isSome then .ok ()
  else if (s.players 0).isSome ∧ (s.players 1).isSome then .error .full
  else if s.finished then .error .finished
  else if s.allowedUsers ≠ [] ∧ presence.userId ∉ s.allowedUsers then .error .notAuthorized
  else if s.inviteCode ≠ "" ∧ code ≠ some s.inviteCode then .error .invalidCode
  else .ok ()

/-! ### Joining -/

def livePlayerMatchId (startedAt : ℤ) (userId : String) : String :=
  "live_" ++ toString startedAt ++ "_" ++ userId

def LiveMatchState.opponentOf (s : LiveMatchState) (player : LivePlayerState) :
    Option LivePlayerState :=
  s.seated.find? fun candidate => candidate.userId ≠ player.userId

def LiveMatchState.matchStartedPayload (s : LiveMatchState) (player : LivePlayerState) :
    LiveServerMessage :=
  .matchStarted (livePlayerMatchId s.startedAt player.userId) player.role player.displayName
    ((s.opponentOf player).elim "Opponent" LivePlayerState.displayName)
    (stateForRole s.state player.role)

def LiveMatchState.broadcastMatchStarted (s : LiveMatchState) : LiveMatchState :=
  s.send (s.seated.map fun player => (player.presence, s.matchStartedPayload player))

/-- The seat the next presence gets: the second one once the first is taken.
Whether the second one is free is not asked again. -/
def LiveMatchState.nextSeat (s : LiveMatchState) : Seat :=
  if (s.players 0).isSome then 1 else 0

def roleOfSeat (seat : Seat) : Team := if seat = 0 then .player else .enemy

/-- A user takes the next seat. -/
def LiveMatchState.seat (s : LiveMatchState) (a : Arrival) (career : PlayerCareer) :
    LiveMatchState :=
  { s with
    players := Function.update s.players s.nextSeat (some
      { presence := a.presence
        userId := a.presence.userId
        displayName := a.lookup.displayName.getD a.presence.username
        career := career
        role := roleOfSeat s.nextSeat
        nextSeq := 0 })
    presenceById := Function.update s.presenceById a.presence.userId (some s.nextSeat) }

/-- One round of the loop of `MatchJoin`. -/
def LiveMatchState.joinOne (s : LiveMatchState) (a : Arrival) : LiveMatchState :=
  if (s.presenceById a.presence.userId).isSome then s
  else
    match a.lookup.liveCareer s.equalPower with
    | none => s
    | some career => s.seat a career

/-- The match starts once both seats are taken. -/
def LiveMatchState.startIfFull (s : LiveMatchState) (now : ℤ) : LiveMatchState :=
  match s.players 0, s.players 1, s.started with
  | some first, some second, false =>
    { s with
      state := createInitialGameStateForBattlefield (upgradeModifiers first.career)
        (upgradeModifiers second.career) s.battlefieldId
      startedAt := now
      started := true }.broadcastMatchStarted
  | _, _, _ => s

def matchJoin (s : LiveMatchState) (arrivals : List Arrival) (now : ℤ) : LiveMatchState :=
  (arrivals.foldl LiveMatchState.joinOne s).startIfFull now

/-! ### Settling and leaving -/

/-- `settled` is whether the store settles the match of a user. -/
def LiveMatchState.finishSettlements (s : LiveMatchState) (settled : String → Bool) :
    LiveMatchState :=
  s.send (s.seated.map fun player =>
    (player.presence,
      if settled player.userId then
        .matchResult (livePlayerMatchId s.startedAt player.userId)
          (statusForRole s.state.status player.role) (statsForRole s.state.stats player.role)
      else .settlementFailed))

def canonicalForfeitStatus (leaverRole : Team) : MatchStatus :=
  if leaverRole = .player then .defeat else .victory

/-- A user who was not in a running match gives the seat back. -/
def LiveMatchState.vacate (s : LiveMatchState) (userId : String) (seat : Seat) : LiveMatchState :=
  { s with
    presenceById := Function.update s.presenceById userId none
    players := Function.update s.players seat none }

/-- Leaving a running match forfeits it; both players are settled, the one who
leaves included. -/
def LiveMatchState.forfeit (s : LiveMatchState) (userId : String) (seat : Seat)
    (player : LivePlayerState) (settled : String → Bool) : LiveMatchState :=
  let ended :=
    { s with
      presenceById := Function.update s.presenceById userId none
      finished := true
      state := { s.state with status := canonicalForfeitStatus player.role } }
  let ended := ended.finishSettlements settled
  { ended with players := Function.update ended.players seat none }

/-- The loop of `MatchLeave`; it ends early when a player forfeits. -/
def LiveMatchState.leaveAll (settled : String → Bool) :
    LiveMatchState → List Presence → LiveMatchState × Bool
  | s, [] => (s, false)
  | s, presence :: rest =>
    match s.presenceById presence.userId with
    | none => s.leaveAll settled rest
    | some seat =>
      match s.players seat, s.started with
      | some player, true => (s.forfeit presence.userId seat player settled, true)
      | _, _ => (s.vacate presence.userId seat).leaveAll settled rest

def matchLeave (s : LiveMatchState) (presences : List Presence) (settled : String → Bool) :
    LiveMatchState :=
  if s.finished then s
  else
    let r := s.leaveAll settled presences
    if r.2 then r.1
    else if (r.1.players 0).isNone ∧ (r.1.players 1).isNone then { r.1 with finished := true }
    else r.1

/-! ### The loop -/

structure LiveClientMessage where
  type : String
  sequence : ℤ
  sourceId : String
  targetId : String
  deriving DecidableEq, Repr

/-- A message and who sent it.  Bytes that do not decode have no payload. -/
structure LiveMessage where
  sender : Presence
  payload : Option LiveClientMessage

def LiveMatchState.rejectCommand (s : LiveMatchState) (message : LiveMessage)
    (code : LiveRejection) : LiveMatchState :=
  s.send [(message.sender,
    .commandRejected code (message.payload.elim 0 LiveClientMessage.sequence))]

def roleText : Team → String
  | .player => "player"
  | .enemy => "enemy"
  | .neutral => "neutral"

def liveArmyId (startedAt : ℤ) (role : Team) (sequence : ℤ) : String :=
  "live_" ++ toString startedAt ++ "_" ++ roleText role ++ "_" ++ toString sequence

/-- The seat of a user and who sits there. -/
def LiveMatchState.playerOf (s : LiveMatchState) (userId : String) :
    Option (Seat × LivePlayerState) :=
  (s.presenceById userId).bind fun seat => (s.players seat).map fun player => (seat, player)

section Loop

variable [MathLib]

/-- The dispatch a player orders, in the battle as it stands. -/
def LiveMatchState.order (s : LiveMatchState) (player : LivePlayerState)
    (payload : LiveClientMessage) : Except DispatchError GameState :=
  dispatchArmy s.state payload.sourceId payload.targetId player.role
    (upgradeModifiers player.career).armySpeedMultiplier
    (liveArmyId s.startedAt player.role payload.sequence)

/-- One message of a running match. -/
def LiveMatchState.handle (s : LiveMatchState) (message : LiveMessage) : LiveMatchState :=
  match message.payload with
  | none => s.rejectCommand message .invalidPayload
  | some payload =>
    if payload.type ≠ "dispatch" then s.rejectCommand message .unknownMessage
    else
      match s.playerOf message.sender.userId with
      | none => s.rejectCommand message .notStarted
      | some (seat, player) =>
        if player.nextSeq ≠ payload.sequence then s.rejectCommand message .invalidSequence
        else
          match s.order player payload with
          | .error _ => s.rejectCommand message .invalidDispatch
          | .ok state =>
            { s with
              state := state
              players := Function.update s.players seat
                (some { player with nextSeq := player.nextSeq + 1 })
              sent := s.sent ++ [(message.sender, .commandAccepted payload.sequence)] }

def LiveMatchState.broadcastStates (s : LiveMatchState) : LiveMatchState :=
  s.send (s.seated.map fun player =>
    (player.presence, .state (stateForRole s.state player.role)))

/-- The step of the battle in one call of the loop. -/
def LiveMatchState.simulate (s : LiveMatchState) : LiveMatchState :=
  if s.state.status = .playing then
    let p := stepSimulation s.state s.accumulators (1 / liveTickRate)
    { s with
      state := p.1
      accumulators := p.2 }
  else s

/-- What ends a match: the verdict of the battle, or the safety net. -/
def LiveMatchState.closeIfOver (s : LiveMatchState) (now : ℤ) (settled : String → Bool) :
    LiveMatchState :=
  if s.state.status ≠ .playing then { s with finished := true }.finishSettlements settled
  else if ((now - s.startedAt : ℤ) : ℚ) / 1000 > liveMaxMatchTime then
    { s with
      finished := true
      state := { s.state with status := .draw } }.finishSettlements settled
  else s

def matchLoop (s : LiveMatchState) (messages : List LiveMessage) (now : ℤ)
    (settled : String → Bool) : LiveMatchState :=
  if s.finished then s
  else if !s.started then
    messages.foldl (fun s message => s.rejectCommand message .notStarted) s
  else
    (messages.foldl LiveMatchState.handle s).simulate.broadcastStates.closeIfOver now settled

end Loop

/-! ### Someone to play

A user whom the store knows, for the runs that the other modules evaluate. -/

def guest (userId : String) : Presence := ⟨userId, "session_" ++ userId, userId⟩

/-- A career without upgrades. -/
def freshCareer (userId : String) : PlayerCareer :=
  ⟨userId, 100, 0, 0, 0, 0, 0, 0, "crown_guard", 0, 0, 0, 0, 0, true⟩

def freshLookup (userId : String) : SeatLookup := ⟨some (freshCareer userId), some none, none⟩

end CrownClash.Go
