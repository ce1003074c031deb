import CrownClash.Ts.Clock
import CrownClash.Ts.OrderPreview

/-!
# Client: a battle against the bot as it is played

The bot part of `GameScene.ts`: a frame hands out ticks of the fixed clock, the bot
acts after a tick when its time has come, and between two frames the player selects
towers, drags onto a target and spends the ability of the commander.  What is sent is
recorded, army by army, for the replay that settles the battle.

Where the finger is on the board is not modelled: a movement of it comes with the
towers that it crossed and the one that it is over.
-/

namespace CrownClash.Ts

open Lib

structure BotScene where
  gameState : GameState
  accumulators : Accumulators
  aiNextTick : ℚ
  botStepRemainder : ℚ
  matchActions : List PvpAction
  selectedSourceIds : List String
  hoveredTargetId : Option String
  lastHoveredFriendlyId : Option String
  abilityTargeting : Bool
  /-- How many times `armyIdGenerator` was called. -/
  generatedArmyIds : ℕ

/-- The commander whose ability the rules of the match know. -/
def abilityCommanderId (o : PvpSimulationOptions) : Option CommanderId :=
  if hasCommanderAbilities o.gameplayRulesVersion then o.commanderId else none

def abilityNeedsTarget (ability : AbilityId) : Bool := ability = .vanguardCharge

/-- `armyDestination` without a state to look the owners up in. -/
def recordedDestination (army : MarchingArmy) : String := army.routeIds.getLastD army.targetId

/-- The time of the battle, rounded to milliseconds. -/
def atSeconds (state : GameState) : ℚ := (roundHalfUp (state.elapsedTimeSeconds * 1000) : ℚ) / 1000

def playerAbilityId (actions : ℕ) : String := "player_ability_" ++ toString actions

def enemyAbilityId (armies : ℕ) : String := "enemy_ability_" ++ toString armies

namespace BotScene

/-! ### The selection -/

def cancelDragSelection (scene : BotScene) : BotScene :=
  { scene with
    selectedSourceIds := []
    hoveredTargetId := none
    lastHoveredFriendlyId := none }

def startDragFromTerritory (scene : BotScene) (territoryId : String) : BotScene :=
  if scene.gameState.status ≠ .playing then scene
  else
    match scene.gameState.territories.get? territoryId with
    | none => scene
    | some territory =>
      if territory.owner = .player ∧ territory.units > 1 then
        { scene with
          selectedSourceIds := [territoryId]
          lastHoveredFriendlyId := none
          hoveredTargetId := none }
      else scene

/-- Adds a friendly tower the finger passed through to the strike's sources. -/
def linkFriendlySource (scene : BotScene) (territory : Option Territory) : BotScene :=
  match territory with
  | none => scene
  | some territory =>
    if scene.abilityTargeting ∨ territory.owner ≠ .player ∨ territory.units ≤ 1 ∨
        territory.id ∈ scene.selectedSourceIds then scene
    else { scene with selectedSourceIds := scene.selectedSourceIds ++ [territory.id] }

/-- The finger has left a friendly tower that it was over: the tower joins the strike. -/
def leaveFriendly (scene : BotScene) (hoveredTerritory : Option Territory) : BotScene :=
  match scene.lastHoveredFriendlyId with
  | none => scene
  | some id =>
    if hoveredTerritory.map Territory.id = some id then scene
    else
      { scene.linkFriendlySource (scene.gameState.territories.get? id) with
        lastHoveredFriendlyId := none }

def hover (scene : BotScene) : Option Territory → BotScene
  | none => { scene with hoveredTargetId := none }
  | some territory =>
    if territory.id ∈ scene.selectedSourceIds then { scene with hoveredTargetId := none }
    else
      { scene with
        hoveredTargetId := some territory.id
        lastHoveredFriendlyId :=
          if territory.owner = .player then some territory.id else scene.lastHoveredFriendlyId }

def pointerMove (scene : BotScene) (crossed : List String) (hovered : Option String) : BotScene :=
  if scene.selectedSourceIds = [] then scene
  else
    let hoveredTerritory := hovered.bind scene.gameState.territories.get?
    let towers := (crossed.filterMap scene.gameState.territories.get?).filter fun t =>
      some t.id ≠ hoveredTerritory.map Territory.id
    let scene := towers.foldl (fun scene t => scene.linkFriendlySource (some t)) scene
    (scene.leaveFriendly hoveredTerritory).hover hoveredTerritory

/-! ### The record -/

def recordDispatchActions (scene : BotScene) (armies : List MarchingArmy) : BotScene :=
  { scene with
    matchActions := armies.foldl (fun actions army =>
      if actions.length ≥ maxPvpActions then actions
      else actions ++
        [{ sequence := actions.length
           atSeconds := Ts.atSeconds scene.gameState
           sourceId := army.sourceId
           targetId := recordedDestination army
           kind := .dispatch }]) scene.matchActions }

variable [MathLib]

/-- Applies the ability locally with the same rule the server replays, and records it. -/
def tryUseAbility (o : PvpSimulationOptions) (scene : BotScene) (sourceId targetId : String) :
    BotScene :=
  if abilityCommanderId o = none ∨ scene.matchActions.length ≥ maxPvpActions then scene
  else
    match applyPlayerAbility scene.gameState (abilityCommanderId o) sourceId targetId
      o.playerModifiers.armySpeedMultiplier (playerAbilityId scene.matchActions.length) with
    | none => scene
    | some state =>
      { scene with
        gameState := state
        matchActions := scene.matchActions ++
          [{ sequence := scene.matchActions.length
             atSeconds := Ts.atSeconds state
             sourceId := sourceId
             targetId := targetId
             kind := .ability }]
        abilityTargeting := false }

/-! ### The release of a drag -/

/-- The armies of a drag leave together, from the state that all of them were planned in. -/
def sendDrag (o : PvpSimulationOptions) (armyIdGenerator : ℕ → String) (scene : BotScene)
    (sources : List Territory) (target : Territory) : BotScene :=
  let multiDispatch := dispatchMultipleArmiesOn
    (getBattlefield scene.gameState.battlefieldId).roads sources target .player 0.5
    o.playerModifiers.armySpeedMultiplier
    (fun sent => armyIdGenerator (scene.generatedArmyIds + sent)) scene.gameState
  if multiDispatch.armies = [] then scene
  else
    { scene with
      gameState := withMultiDispatch scene.gameState multiDispatch .player
      generatedArmyIds := scene.generatedArmyIds + multiDispatch.armies.length
    }.recordDispatchActions multiDispatch.armies

/-- What a release does with the towers that were selected. -/
def releaseDrag (o : PvpSimulationOptions) (armyIdGenerator : ℕ → String) (scene : BotScene)
    (sourceIds : List String) (targetId : String) : BotScene :=
  if targetId ∈ sourceIds then scene
  else
    let sources := sourceIds.filterMap scene.gameState.territories.get?
    match scene.gameState.territories.get? targetId, sources with
    | some target, _ :: _ =>
      if scene.abilityTargeting then
        -- Vanguard charge: the dragged tower sends its army.
        scene.tryUseAbility o (sourceIds.headD "") targetId
      else if scene.matchActions.length +
          (previewOrderOn (getBattlefield scene.gameState.battlefieldId).roads scene.gameState
            sourceIds targetId .player o.playerModifiers.armySpeedMultiplier 1).orders.length
          > maxPvpActions then scene
      else scene.sendDrag o armyIdGenerator sources target
    | _, _ => scene

def handlePointerRelease (o : PvpSimulationOptions) (armyIdGenerator : ℕ → String)
    (scene : BotScene) : BotScene :=
  if scene.selectedSourceIds = [] then scene
  else
    match scene.hoveredTargetId with
    | none => scene.cancelDragSelection
    | some targetId =>
      scene.cancelDragSelection.releaseDrag o armyIdGenerator scene.selectedSourceIds targetId

/-! ### The ability -/

def setAbilityTargeting (scene : BotScene) (on : Bool) : BotScene :=
  if on then { scene with abilityTargeting := true }.cancelDragSelection
  else { scene with abilityTargeting := false }

def isSelfTargetingAbility (o : PvpSimulationOptions) (scene : BotScene) : Bool :=
  scene.abilityTargeting && match abilityCommanderId o with
    | none => false
    | some commander => !abilityNeedsTarget (commanderAbility commander)

/-- The finger comes down on a tower. -/
def pointerDownOn (o : PvpSimulationOptions) (scene : BotScene) (territoryId : String) :
    BotScene :=
  if scene.isSelfTargetingAbility o then scene.tryUseAbility o territoryId territoryId
  else scene.startDragFromTerritory territoryId

/-- The finger comes down somewhere on the board. -/
def pointerDown (o : PvpSimulationOptions) (scene : BotScene) (territoryId : Option String) :
    BotScene :=
  if scene.gameState.status ≠ .playing ∨ scene.selectedSourceIds ≠ [] then scene
  else if scene.isSelfTargetingAbility o then
    match territoryId with
    | some id => scene.tryUseAbility o id id
    | none => scene.setAbilityTargeting false
  else
    match territoryId with
    | some id => scene.startDragFromTerritory id
    | none => scene

/-! ### The bot -/

/-- One dispatch of the bot; one that is refused is skipped. -/
def dispatchAiMove (o : PvpSimulationOptions) (armyIdGenerator : ℕ → String) (scene : BotScene)
    (move : AiMove) : BotScene :=
  match scene.gameState.territories.get? move.fromId,
    scene.gameState.territories.get? move.toId with
  | some source, some target =>
    match dispatchArmy source target .enemy 0.5 (armyIdGenerator scene.generatedArmyIds)
      o.enemyModifiers.armySpeedMultiplier (some scene.gameState) with
    | .error _ => scene
    | .ok dispatch =>
      { scene with
        gameState :=
          { scene.gameState with
            territories := scene.gameState.territories.set move.fromId dispatch.sourceTerritory
            armies := scene.gameState.armies ++ [dispatch.army]
            stats :=
              { scene.gameState.stats with
                enemyUnitsDispatched :=
                  scene.gameState.stats.enemyUnitsDispatched + dispatch.army.units } }
        generatedArmyIds := scene.generatedArmyIds + 1 }
  -- The policy only names towers of the map.
  | _, _ => scene

/-- The same of the older rules, which dispatch without the state. -/
def dispatchOldAiMove (o : PvpSimulationOptions) (armyIdGenerator : ℕ → String)
    (scene : BotScene) (move : AiMove) : BotScene :=
  match scene.gameState.territories.get? move.fromId,
    scene.gameState.territories.get? move.toId with
  | some source, some target =>
    match dispatchArmy source target .enemy 0.5 (armyIdGenerator scene.generatedArmyIds)
      o.enemyModifiers.armySpeedMultiplier none with
    | .error _ => scene
    | .ok dispatch =>
      { scene with
        gameState :=
          { scene.gameState with
            territories := scene.gameState.territories.set source.id dispatch.sourceTerritory
            armies := scene.gameState.armies ++ [dispatch.army]
            stats :=
              { scene.gameState.stats with
                enemyUnitsDispatched :=
                  scene.gameState.stats.enemyUnitsDispatched + dispatch.army.units } }
        generatedArmyIds := scene.generatedArmyIds + 1 }
  | _, _ => scene

/-- The bot's ability, when it chooses one and it is legal: the scene and the moves
that are left. -/
def spendAiAbility (o : PvpSimulationOptions) (scene : BotScene) (moves : List AiMove) :
    BotScene × List AiMove :=
  match chooseBotAbility scene.gameState .enemy (botCommander o.botDifficulty) moves with
  | none => (scene, moves)
  | some choice =>
    match applyTeamAbility scene.gameState .enemy (botCommander o.botDifficulty) choice.sourceId
      choice.targetId o.enemyModifiers.armySpeedMultiplier
      (enemyAbilityId scene.gameState.armies.length) with
    | none => (scene, moves)
    | some state => ({ scene with gameState := state }, choice.moves)

def executeAiTurn (o : PvpSimulationOptions) (armyIdGenerator : ℕ → String) (scene : BotScene) :
    BotScene :=
  if usesTacticalRules scene.gameState.gameplayRulesVersion then
    let moves := evaluateTacticalMoves scene.gameState .enemy o.enemyModifiers.armySpeedMultiplier
    let p := scene.spendAiAbility o moves
    p.2.foldl (fun scene move => scene.dispatchAiMove o armyIdGenerator move) p.1
  else
    match evaluateAiMove scene.gameState.territories .enemy 8 with
    | none => scene
    | some move => scene.dispatchOldAiMove o armyIdGenerator move

/-! ### The frames -/

/-- One round of the loop of `stepBotMatch`. -/
def tick (o : PvpSimulationOptions) (armyIdGenerator : ℕ → String) (scene : BotScene) : BotScene :=
  let result := stepSimulation scene.gameState scene.accumulators pvpSimulationTickSeconds
  let scene := { scene with gameState := result.state, accumulators := result.accumulators }
  if scene.gameState.status = .playing ∧
      scene.gameState.elapsedTimeSeconds ≥ scene.aiNextTick - 1 / 10 ^ 9 then
    { scene with
      aiNextTick := scene.aiNextTick + getBotAiTickSeconds o.botDifficulty
    }.executeAiTurn o armyIdGenerator
  else scene

/-- A frame is cut to a quarter of a second and runs at most twenty ticks; the ticks that
are left over go back into the remainder. -/
def stepBotMatch (o : PvpSimulationOptions) (armyIdGenerator : ℕ → String) (scene : BotScene)
    (deltaSeconds : ℚ) : BotScene :=
  if deltaSeconds ≤ 0 then scene
  else
    let remainder := if scene.botStepRemainder < 0 then 0 else scene.botStepRemainder
    let budget := consumeSimulationTicks remainder (min deltaSeconds 0.25)
    let ticks := min budget.ticks 20
    let scene := whileLoop (fun scene => scene.gameState.status = .playing)
      (tick o armyIdGenerator) ticks.toNat
      { scene with botStepRemainder := budget.remainderSeconds }
    if budget.ticks > ticks then
      { scene with
        botStepRemainder :=
          scene.botStepRemainder + (budget.ticks - ticks) * pvpSimulationTickSeconds }
    else scene

/-- `delta` is in milliseconds.  The battle stands still behind the menu and the intro. -/
def update (o : PvpSimulationOptions) (armyIdGenerator : ℕ → String) (scene : BotScene)
    (delta : ℚ) (paused : Bool) : BotScene :=
  if delta ≤ 0 ∨ scene.gameState.status ≠ .playing ∨ paused then scene
  else scene.stepBotMatch o armyIdGenerator (delta / 1000)

/-! ### A match -/

omit [MathLib] in
/-- The scene before its first frame. -/
def create (o : PvpSimulationOptions) : Except String BotScene :=
  (createInitialGameState pvpTimeLimitSeconds o.gameplayRulesVersion o.playerModifiers
    o.enemyModifiers o.battlefieldId).map fun state =>
      { gameState := state
        accumulators := .empty
        aiNextTick := getBotAiTickSeconds o.botDifficulty
        botStepRemainder := 0
        matchActions := []
        selectedSourceIds := []
        hoveredTargetId := none
        lastHoveredFriendlyId := none
        abilityTargeting := false
        generatedArmyIds := 0 }

/-- What happens in the scene, one thing at a time. -/
inductive Input
  | update (delta : ℚ) (paused : Bool)
  | pointerDownOn (territoryId : String)
  | pointerDown (territoryId : Option String)
  | pointerMove (crossed : List String) (hovered : Option String)
  | pointerUp
  | menu
  | abilityButton (on : Bool)
  deriving DecidableEq, Repr

def input (o : PvpSimulationOptions) (armyIdGenerator : ℕ → String) (scene : BotScene) :
    Input → BotScene
  | .update delta paused => scene.update o armyIdGenerator delta paused
  | .pointerDownOn territoryId => scene.pointerDownOn o territoryId
  | .pointerDown territoryId => scene.pointerDown o territoryId
  | .pointerMove crossed hovered => scene.pointerMove crossed hovered
  | .pointerUp => scene.handlePointerRelease o armyIdGenerator
  -- The finger is lifted over the menu.
  | .menu => scene.cancelDragSelection
  -- There is a button only where there is a commander.
  | .abilityButton on => if abilityCommanderId o = none then scene else scene.setAbilityTargeting on

/-- The scenes of a match: anything may happen as long as the battle is playing. -/
inductive Plays (o : PvpSimulationOptions) (armyIdGenerator : ℕ → String) : BotScene → Prop
  | create {scene : BotScene} (h : create o = .ok scene) : Plays o armyIdGenerator scene
  | input {scene : BotScene} (h : Plays o armyIdGenerator scene)
    (hplaying : scene.gameState.status = .playing) (i : Input) :
    Plays o armyIdGenerator (scene.input o armyIdGenerator i)

end BotScene

end CrownClash.Ts
