import CrownClash.Lib.While
import CrownClash.Ts.Abilities

/-!
# Client: the replay of a match against the bot

`simulatePvpBattle` of `pvp.ts` with `ai.ts`, `bot-difficulty.ts` and the
creation of the initial state.

A dispatch of the bot that is refused throws out of the whole replay here, where
the server drops it; `botDispatch` keeps the two apart as `Except`.  A recorded
dispatch that is refused is caught and skipped.
-/

namespace CrownClash.Ts

open Lib

def pvpTimeLimitSeconds : ℚ := 90

def pvpSimulationTickSeconds : ℚ := 0.02

def maxPvpActions : ℕ := 120

def aiScoreEpsilon : ℚ := 1 / 10 ^ 9

def botCommander : BotDifficulty → Option CommanderId
  | .easy => none
  | .normal => some .quartermaster
  | .hard => some .vanguard

def getBotAiTickSeconds : BotDifficulty → ℚ
  | .easy => 3.6
  | .normal => 1.8
  | .hard => 0.9

/-! ### The initial state -/

/-- The support towers of a tactical map. -/
def tacticalSupports (battlefieldId : String) : List String :=
  if battlefieldId = "crown_cross" then ["n_bot_left", "n_top_right"]
  else if battlefieldId = "twin_passes" then ["n_west_gate_s", "n_east_gate_n"]
  else if battlefieldId = "royal_ring" then ["n_ring_sw", "n_ring_ne"]
  else []

def addUnits (units : ℤ) (_ : String) (t : Territory) : Territory :=
  { t with units := t.units + units }

/-- The support tower at position `i` of the list. -/
def makeSupport (playerModifiers enemyModifiers : PlayerUpgradeModifiers) (i : ℕ) (_ : String)
    (t : Territory) : Territory :=
  { t with
    owner := if i = 0 then .player else .enemy
    units := tacticalSupportUnits
    productionRate := t.productionRate *
      (if i = 0 then playerModifiers else enemyModifiers).productionRateMultiplier }

def tacticalOpening (playerModifiers enemyModifiers : PlayerUpgradeModifiers)
    (battlefieldId : String) (territories : Record String Territory) :
    Record String Territory :=
  let territories := territories.modify (addUnits tacticalBaseBonus) "p_base"
  let territories := territories.modify (addUnits tacticalBaseBonus) "e_base"
  (tacticalSupports battlefieldId).zipIdx.foldl
    (fun territories e => territories.modify (makeSupport playerModifiers enemyModifiers e.2) e.1)
    territories

def createInitialGameState (timeLimit : ℚ) (gameplayRulesVersion : ℤ)
    (playerModifiers enemyModifiers : PlayerUpgradeModifiers) (battlefieldId : String) :
    Except String GameState :=
  let battlefieldId := normalizeBattlefieldId battlefieldId
  match validateGameplayRulesVersion gameplayRulesVersion with
  | none => .error "unsupported_gameplay_rules_version"
  | some version =>
    let territories := createDefaultTerritories playerModifiers enemyModifiers battlefieldId
    if usesTacticalRules version && battlefieldId == "quad_citadel" then
      .error "tactical_rules_require_1v1"
    else
      .ok
        { battlefieldId := battlefieldId
          territories := if usesTacticalRules version then
            tacticalOpening playerModifiers enemyModifiers battlefieldId territories
            else territories
          armies := []
          status := .playing
          elapsedTimeSeconds := 0
          timeLimitSeconds := timeLimit
          stats := .zero
          gameplayRulesVersion := version
          productionReadyAtMs := .empty
          shieldedUntilMs := .empty
          playerAbilityUsed := false
          enemyAbilityUsed := false }

/-! ### The policy of the older rules -/

section Policy

variable [MathLib]

def scoreAiDispatch (source target : Territory) (aiTeam : Team) : ℚ :=
  let dispatchAmount := calculateDispatchUnits source.units 0.5
  let distancePenalty := hypot (target.x - source.x) (target.y - source.y) * 0.06
  if target.owner ≠ aiTeam then
    let defenseStrength := getTerritoryDefenseStrength target 1
    let canCapture := dispatchAmount > defenseStrength
    let unitAdvantage := dispatchAmount - defenseStrength
    let typeValue : ℚ := match target.type with
      | .barracks => 18
      | .stable => 14
      | .fortress => 10
    if target.owner ≠ .neutral then
      if canCapture then 110 + typeValue + (unitAdvantage : ℚ) * 3 - distancePenalty
      else 25 - (target.units : ℚ) - distancePenalty
    else if canCapture then
      let score := 65 + typeValue + ((12 - defenseStrength : ℤ) : ℚ) * 2 - distancePenalty
      if target.id = "n_center" ∨ (target.tier ≥ 2 ∧ target.type = .fortress) then score + 35
      else score
    else -50
  else if target.units < 8 ∧ source.units ≥ 16 then
    35 + ((15 - target.units : ℤ) : ℚ) * 1.5 - distancePenalty
  else -20

/-- The best move so far with its score; `none` is a score of minus infinity. -/
abbrev BestMove := Option (ℚ × AiMove)

def considerTarget (aiTeam : Team) (source : Territory) (best : BestMove) (target : Territory) :
    BestMove :=
  let score := scoreAiDispatch source target aiTeam
  match best with
  | none => some (score, ⟨source.id, target.id⟩)
  | some b => if score > b.1 then some (score, ⟨source.id, target.id⟩) else best

def considerSource (territoryList : List Territory) (aiTeam : Team) (best : BestMove)
    (source : Territory) : BestMove :=
  if calculateDispatchUnits source.units 0.5 ≤ 0 then best
  else (territoryList.filter fun t => t.id ≠ source.id).foldl (considerTarget aiTeam source) best

def evaluateAiMove (territories : Record String Territory) (aiTeam : Team)
    (minDispatchThreshold : ℤ) : Option AiMove :=
  let territoryList := territories.values
  let myTerritories := territoryList.filter fun t => t.owner = aiTeam
  let readySources := myTerritories.filter fun t => t.units ≥ minDispatchThreshold
  match readySources.foldl (considerSource territoryList aiTeam) none with
  | none => none
  | some (score, move) => if score > aiScoreEpsilon then some move else none

end Policy

/-! ### The replay -/

structure PvpSimulationOptions where
  playerModifiers : PlayerUpgradeModifiers
  enemyModifiers : PlayerUpgradeModifiers
  battlefieldId : String
  gameplayRulesVersion : ℤ
  botDifficulty : BotDifficulty
  commanderId : Option CommanderId

structure Replay where
  state : GameState
  accumulators : Accumulators
  currentTime : ℚ
  currentTick : ℤ
  nextAiTick : ℚ
  aiActionIndex : ℕ
  actionIndex : ℕ

def Replay.playing (r : Replay) : Bool := r.state.status = .playing

section Simulate

variable [MathLib]

/-- `dispatchFromState`; a failure is the code of the error it throws. -/
def dispatchFromState (state : GameState) (sourceId targetId : String) (owner : Team)
    (travelSpeedMultiplier : ℚ) (armyId : String) : Except String GameState :=
  match lookup state.territories sourceId, lookup state.territories targetId with
  | .missing, _ => .error "invalid_source"
  | _, .missing => .error "invalid_target"
  | .own source, .own target =>
    match dispatchArmy source target owner 0.5 armyId travelSpeedMultiplier (some state) with
    | .error _ => .error "invalid_dispatch"
    | .ok d =>
      .ok { state with
        territories := state.territories.set sourceId d.sourceTerritory
        armies := state.armies ++ [d.army]
        stats := { state.stats with
          playerUnitsDispatched :=
            if owner = .player then state.stats.playerUnitsDispatched + d.army.units
            else state.stats.playerUnitsDispatched
          enemyUnitsDispatched :=
            if owner = .enemy then state.stats.enemyUnitsDispatched + d.army.units
            else state.stats.enemyUnitsDispatched } }
  -- An inherited member has neither an owner to dispatch it nor an id to be reached by.
  | _, _ => .error "invalid_dispatch"

def Replay.step (r : Replay) (deltaSeconds : ℚ) : Replay :=
  let s := stepSimulation r.state r.accumulators deltaSeconds
  { r with state := s.state, accumulators := s.accumulators }

def currentRules (version : ℤ) : Bool := version == 2 || usesTacticalRules version

/-- The clock of the rules that count ticks. -/
def stepToTick (timestamp : ℚ) (r : Replay) : Replay :=
  let targetTick := ⌊timestamp / pvpSimulationTickSeconds + 1 / 10 ^ 9⌋
  let r := whileLoop (fun r => r.playing && r.currentTick < targetTick)
    (fun r => { r.step pvpSimulationTickSeconds with currentTick := r.currentTick + 1 })
    (targetTick - r.currentTick).toNat r
  { r with currentTime := r.currentTick * pvpSimulationTickSeconds }

/-- The clock of the first rules. -/
def stepToTime (timestamp : ℚ) (r : Replay) : Replay :=
  let r := whileLoop
    (fun r => r.playing && r.currentTime + pvpSimulationTickSeconds ≤ timestamp + 1 / 10 ^ 9)
    (fun r => { r.step pvpSimulationTickSeconds with
      currentTime := r.currentTime + pvpSimulationTickSeconds })
    ⌊(timestamp + 1 / 10 ^ 9 - r.currentTime) / pvpSimulationTickSeconds⌋.toNat r
  let remainder := timestamp - r.currentTime
  let r := if r.playing && remainder > 0 then r.step remainder else r
  let clockCorrection := timestamp - r.state.elapsedTimeSeconds
  let r := if r.playing && clockCorrection > 0 then r.step clockCorrection else r
  { r with currentTime := timestamp }

def stepTo (o : PvpSimulationOptions) (timestamp : ℚ) (r : Replay) : Replay :=
  if currentRules o.gameplayRulesVersion then stepToTick timestamp r else stepToTime timestamp r

def aiArmyId (index : ℕ) : String := "pvp_ai_" ++ toString index

def playerArmyId (sequence : ℤ) : String := "pvp_player_" ++ toString sequence

/-- One dispatch of the bot; a refused one throws. -/
def botDispatch (o : PvpSimulationOptions) (r : Replay) (move : AiMove) : Except String Replay :=
  match dispatchFromState r.state move.fromId move.toId .enemy
      o.enemyModifiers.armySpeedMultiplier (aiArmyId r.aiActionIndex) with
  | .error e => .error e
  | .ok state => .ok { r with state := state, aiActionIndex := r.aiActionIndex + 1 }

/-- The bot's ability, when it chooses one and it is legal: the replay and the
moves that are left. -/
def spendAbility (o : PvpSimulationOptions) (r : Replay) (moves : List AiMove) :
    Replay × List AiMove :=
  let commander := botCommander o.botDifficulty
  match chooseBotAbility r.state .enemy commander moves with
  | none => (r, moves)
  | some choice =>
    match applyTeamAbility r.state .enemy commander choice.sourceId choice.targetId
        o.enemyModifiers.armySpeedMultiplier (aiArmyId r.aiActionIndex) with
    | none => (r, moves)
    | some state => ({ r with state := state, aiActionIndex := r.aiActionIndex + 1 }, choice.moves)

def executeAiAction (o : PvpSimulationOptions) (r : Replay) : Except String Replay :=
  if !r.playing then .ok r
  else if usesTacticalRules r.state.gameplayRulesVersion then
    let moves := evaluateTacticalMoves r.state .enemy o.enemyModifiers.armySpeedMultiplier
    let p := spendAbility o r moves
    p.2.foldlM (botDispatch o) p.1
  else
    match evaluateAiMove r.state.territories .enemy 8 with
    | none => .ok r
    | some move => botDispatch o r move

def clockEpsilon (o : PvpSimulationOptions) : ℚ :=
  if currentRules o.gameplayRulesVersion then 1 / 10 ^ 9 else 0

/-- One round of the loop that lets the bot act; after a throw nothing runs. -/
def aiRound (o : PvpSimulationOptions) : Except String Replay → Except String Replay
  | .error e => .error e
  | .ok r =>
    match executeAiAction o (stepTo o r.nextAiTick r) with
    | .error e => .error e
    | .ok r' => .ok { r' with nextAiTick := r.nextAiTick + getBotAiTickSeconds o.botDifficulty }

def aiDue (o : PvpSimulationOptions) (timestamp : ℚ) : Except String Replay → Bool
  | .error _ => false
  | .ok r => r.playing && r.nextAiTick ≤ timestamp + clockEpsilon o

/-- Let the bot act at each of its ticks up to a time. -/
def aiUntil (o : PvpSimulationOptions) (timestamp : ℚ) (r : Replay) : Except String Replay :=
  whileLoop (aiDue o timestamp) (aiRound o)
    (⌊(timestamp + clockEpsilon o - r.nextAiTick) / getBotAiTickSeconds o.botDifficulty⌋
      + 1).toNat (.ok r)

/-- A recorded action; what is not legal in the replayed state is ignored. -/
def playAction (o : PvpSimulationOptions) (r : Replay) (action : PvpAction) : Replay :=
  let armyId := playerArmyId action.sequence
  if action.kind = .ability then
    match applyPlayerAbility r.state o.commanderId action.sourceId action.targetId
        o.playerModifiers.armySpeedMultiplier armyId with
    | none => r
    | some state => { r with state := state, actionIndex := r.actionIndex + 1 }
  else
    match dispatchFromState r.state action.sourceId action.targetId .player
        o.playerModifiers.armySpeedMultiplier armyId with
    | .error _ => r
    | .ok state => { r with state := state, actionIndex := r.actionIndex + 1 }

def playActions (o : PvpSimulationOptions) : List PvpAction → Replay → Except String Replay
  | [], r => .ok r
  | action :: actions, r => do
    let r ← aiUntil o action.atSeconds r
    if !r.playing then return r
    let r := stepTo o action.atSeconds r
    if !r.playing then return r
    playActions o actions (playAction o r action)

/-- The checks of the action list, in the order of the loop. -/
def validateActionsFrom : ℕ → ℚ → List PvpAction → Except String Unit
  | _, _, [] => .ok ()
  | index, previousTime, action :: actions =>
    if action.sequence ≠ index then .error "invalid_sequence"
    else if action.kind ≠ .dispatch ∧ action.kind ≠ .ability then .error "invalid_action_kind"
    else if action.atSeconds < 0 ∨ action.atSeconds > pvpTimeLimitSeconds ∨
        action.atSeconds < previousTime then .error "invalid_timestamp"
    else validateActionsFrom (index + 1) action.atSeconds actions

def validateActions (actions : List PvpAction) : Except String Unit :=
  if actions.length > maxPvpActions then .error "too_many_actions"
  else validateActionsFrom 0 0 actions

def battleSummary (r : Replay) : PvpBattleSummary where
  status := if r.state.status = .playing then .draw else r.state.status
  stats := r.state.stats
  durationSeconds := ⌊r.state.elapsedTimeSeconds⌋
  actionsProcessed := r.actionIndex

/-- The clock to the end, and a last step of no time if the match still runs. -/
def finalStep (o : PvpSimulationOptions) (r : Replay) : Replay :=
  if r.playing then
    let r := stepTo o pvpTimeLimitSeconds r
    if r.playing then { r with state := (stepSimulation r.state r.accumulators 0).state } else r
  else r

def simulatePvpBattle (actions : List PvpAction) (o : PvpSimulationOptions) :
    Except String (GameState × PvpBattleSummary) := do
  validateActions actions
  let state ← createInitialGameState pvpTimeLimitSeconds o.gameplayRulesVersion
    o.playerModifiers o.enemyModifiers o.battlefieldId
  let r ← playActions o actions
    ⟨state, .empty, 0, 0, getBotAiTickSeconds o.botDifficulty, 0, 0⟩
  let r ← aiUntil o pvpTimeLimitSeconds r
  let r := finalStep o r
  return (r.state, battleSummary r)

end Simulate

end CrownClash.Ts
