import CrownClash.Store.BotMatches
import CrownClash.Ts.BotScene
import CrownClash.Ts.Progression

/-!
# Client: the launch of a battle

`GameScene.ts` is launched with a ticket, and an attack on another realm with the ticket of
the attack besides.  The ticket says which rules and which map are played and, for an attack
or a practice, with which modifiers; without them they are those of the career.

An attack and a practice are saved while they are fought (`saveRealmBattle`), in the one slot
that `PilotClient.ts` keeps for a player, and are taken up again from there when the scene is
opened the next time.  What was not saved is lost, and the battle goes on from the save.
-/

namespace CrownClash.Ts

open Lib
open Go (PlayerCareer)

structure BotMatchTicket where
  botDifficulty : Option BotDifficulty
  playerModifiers : Option PlayerUpgradeModifiers
  gameplayRulesVersion : Option ℤ
  matchId : String
  battlefieldId : String
  commanderId : Option CommanderId

/-- What an attack is fought with. -/
structure RealmModifiers where
  playerModifiers : PlayerUpgradeModifiers
  enemyModifiers : PlayerUpgradeModifiers

/-- An enemy without modifiers of its own. -/
def defaultEnemyModifiers : PlayerUpgradeModifiers := ⟨20, 1, 1⟩

/-- What `init` and `createUpgradedMatchState` make of a launch. -/
def launchOptions (botMatch : BotMatchTicket) (realmTicket : Option RealmModifiers)
    (career : PlayerCareer) : PvpSimulationOptions where
  playerModifiers :=
    match realmTicket with
    | some ticket => ticket.playerModifiers
    | none => botMatch.playerModifiers.getD (getPlayerUpgradeModifiers career)
  enemyModifiers := (realmTicket.map RealmModifiers.enemyModifiers).getD defaultEnemyModifiers
  battlefieldId := botMatch.battlefieldId
  gameplayRulesVersion := botMatch.gameplayRulesVersion.getD 1
  botDifficulty := botMatch.botDifficulty.getD .normal
  commanderId := botMatch.commanderId

/-! ### Tickets as they are received -/

/-- The ticket of a bot match. -/
def receivedTicket (ticket : Store.BotMatchTicket) : BotMatchTicket where
  botDifficulty := some ticket.botDifficulty
  playerModifiers := ticket.playerModifiers
  gameplayRulesVersion := some ticket.gameplayRulesVersion
  matchId := ticket.matchId
  battlefieldId := ticket.battlefieldId
  commanderId := ticket.commanderId

/-- The ticket of an attack also stands for that of a bot match.  It names no difficulty and
no commander. -/
def receivedRealmTicket (ticket : Store.RealmTicket) : BotMatchTicket where
  botDifficulty := none
  playerModifiers := some ticket.playerModifiers
  gameplayRulesVersion := some ticket.gameplayRulesVersion
  matchId := ticket.matchId
  battlefieldId := ticket.battlefieldId
  commanderId := none

def realmLaunch (ticket : Store.RealmTicket) (career : PlayerCareer) : PvpSimulationOptions :=
  launchOptions (receivedRealmTicket ticket)
    (some ⟨ticket.playerModifiers, ticket.enemyModifiers⟩) career

def botLaunch (row : Store.BotMatchRow) (career : PlayerCareer) : PvpSimulationOptions :=
  launchOptions (receivedTicket row.ticket) none career

/-! ### The saved battle -/

structure SavedBattle where
  state : GameState
  actions : List PvpAction
  accumulators : Accumulators
  aiNextTick : ℚ
  botStepRemainder : ℚ

/-- The slot of a player: the match that was saved last. -/
abbrev BattleSlot := Option (String × SavedBattle)

def readBattle (slot : BattleSlot) (matchId : String) : Option SavedBattle :=
  match slot with
  | some (saved, battle) => if saved = matchId then some battle else none
  | none => none

def BotScene.saved (scene : BotScene) : SavedBattle :=
  ⟨scene.gameState, scene.matchActions, scene.accumulators, scene.aiNextTick,
    scene.botStepRemainder⟩

/-- A battle that is over is not saved any more. -/
def saveRealmBattle (matchId : String) (scene : BotScene) (slot : BattleSlot) : BattleSlot :=
  if scene.gameState.status = .playing then some (matchId, scene.saved) else slot

def BotScene.resume (scene : BotScene) (saved : SavedBattle) : BotScene :=
  { scene with
    gameState := saved.state
    matchActions := saved.actions
    accumulators := saved.accumulators
    aiNextTick := saved.aiNextTick
    botStepRemainder := saved.botStepRemainder }

/-- A new scene takes up the battle that is saved for its match. -/
def openBattle (o : PvpSimulationOptions) (matchId : String) (slot : BattleSlot)
    (scene : BotScene) : BotScene :=
  match readBattle slot matchId with
  | some saved =>
    if saved.state.status = .playing ∧
        saved.state.gameplayRulesVersion = o.gameplayRulesVersion ∧
        saved.actions.length ≤ maxPvpActions then scene.resume saved
    else scene
  | none => scene

/-! ### A battle over several sessions -/

/-- The scene that is open or was the last, and what is saved. -/
structure BattleSession where
  scene : BotScene
  slot : BattleSlot

namespace BattleSession

/-- What happens to a battle.  It is saved every second, when the app is paused and when the
scene is left in order; it may also be left without. -/
inductive Event
  | input (i : BotScene.Input)
  | save
  | reopen
  /-- Another battle takes the slot, or the slot is cleared. -/
  | overwrite (slot : BattleSlot)

variable [MathLib]

/-- `fresh` is the scene that a launch makes. -/
def step (o : PvpSimulationOptions) (armyIdGenerator : ℕ → String) (matchId : String)
    (fresh : BotScene) (s : BattleSession) : Event → BattleSession
  | .input i =>
    if s.scene.gameState.status = .playing then
      { s with scene := s.scene.input o armyIdGenerator i }
    else s
  | .save => { s with slot := saveRealmBattle matchId s.scene s.slot }
  | .reopen =>
    { s with
      scene := { openBattle o matchId s.slot fresh with
        generatedArmyIds := s.scene.generatedArmyIds } }
  | .overwrite slot => if (readBattle slot matchId).isSome then s else { s with slot := slot }

def play (o : PvpSimulationOptions) (armyIdGenerator : ℕ → String) (matchId : String)
    (fresh : BotScene) (s : BattleSession) (events : List Event) : BattleSession :=
  events.foldl (step o armyIdGenerator matchId fresh) s

end BattleSession

end CrownClash.Ts
