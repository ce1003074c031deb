import CrownClash.Go.Abilities
import CrownClash.Lib.While

/-!
# Server: the replay of a match against the bot

`simulateBotBattleWithCommander` of `domain.go` with the policy of the older
rules (`evaluateAIMove`) and the difficulty table of `bot_difficulty.go`.

The replay is three loops around one state, `BotReplay`: the clock loop of
`stepTo`, the loop that lets the bot act at every tick of its own up to a time,
and the walk along the recorded actions.  The first two are while loops of the
source, and the rounds they are given are those that fit into the time: each one
moves its clock by the whole tick.
-/

namespace CrownClash.Go

open Lib

def maxPvpActions : ℕ := 120

def aiScoreEpsilon : ℚ := 1 / 10 ^ 9

def botCommanderId : BotDifficulty → Option CommanderId
  | .easy => none
  | .normal => some .quartermaster
  | .hard => some .vanguard

def botAiTickSeconds : BotDifficulty → ℚ
  | .easy => 3.6
  | .normal => 1.8
  | .hard => 0.9

/-! ### The opening -/

/-- The support towers of a map; the empty pair for an unknown one. -/
def tacticalSupports (battlefieldId : String) : String × String :=
  if battlefieldId = "crown_cross" then ("n_bot_left", "n_top_right")
  else if battlefieldId = "twin_passes" then ("n_west_gate_s", "n_east_gate_n")
  else if battlefieldId = "royal_ring" then ("n_ring_sw", "n_ring_ne")
  else ("", "")

def updateTerritory (state : GameState) (id : String) (f : Territory → Territory) : GameState :=
  { state with territories := state.territories.set id (f (state.territory id)) }

def addBaseBonus (t : Territory) : Territory := { t with units := t.units + 8 }

def makeSupport (owner : Team) (modifiers : PlayerUpgradeModifiers) (t : Territory) : Territory :=
  { t with
    units := 14
    owner := owner
    productionRate := t.productionRate * modifiers.productionRateMultiplier }

def applyTacticalOpening (state : GameState) (player enemy : PlayerUpgradeModifiers) :
    GameState :=
  let supports := tacticalSupports state.battlefieldId
  let state := updateTerritory state "p_base" addBaseBonus
  let state := updateTerritory state "e_base" addBaseBonus
  let state := updateTerritory state supports.1 (makeSupport .player player)
  updateTerritory state supports.2 (makeSupport .enemy enemy)

/-! ### The policy of the older rules -/

section Policy

variable [MathLib]

/-- The score of a dispatch from `source` to `target`. -/
def aiScore (source target : Territory) (dispatchAmount : ℤ) : ℚ :=
  let distancePenalty := hypot (target.x - source.x) (target.y - source.y) * 0.06
  if target.owner ≠ .enemy then
    let defenseStrength := territoryDefenseStrength target
    let canCapture := dispatchAmount > defenseStrength
    let advantage := dispatchAmount - defenseStrength
    let typeValue : ℚ := match target.type with
      | .barracks => 18
      | .stable => 14
      | .fortress => 10
    if target.owner = .player then
      if canCapture then 110 + typeValue + (advantage : ℚ) * 3 - distancePenalty
      else 25 - (target.units : ℚ) - distancePenalty
    else if canCapture then
      let score := 65 + typeValue + ((12 - defenseStrength : ℤ) : ℚ) * 2 - distancePenalty
      if target.id = "n_center" ∨ (target.tier ≥ 2 ∧ target.type = .fortress) then score + 35
      else score
    else -50
  else if target.units < 8 ∧ source.units ≥ 16 then
    35 + ((15 - target.units : ℤ) : ℚ) * 1.5 - distancePenalty
  else -20

/-- The best move so far with its score; `none` is a score of minus infinity. -/
abbrev BestMove := Option (ℚ × String × String)

def considerTarget (state : GameState) (source : Territory) (best : BestMove)
    (targetId : String) : BestMove :=
  let target := state.territory targetId
  if target.id = source.id then best
  else
    let score := aiScore source target (calculateDispatchUnits source.units)
    match best with
    | none => some (score, source.id, target.id)
    | some b => if score > b.1 then some (score, source.id, target.id) else best

def considerSource (state : GameState) (best : BestMove) (sourceId : String) : BestMove :=
  let source := state.territory sourceId
  if source.owner ≠ .enemy ∨ source.units < 8 then best
  else if calculateDispatchUnits source.units ≤ 0 then best
  else (territoryOrderForBattlefield state.battlefieldId).foldl (considerTarget state source) best

def evaluateAIMove (state : GameState) : Option (String × String) :=
  match (territoryOrderForBattlefield state.battlefieldId).foldl (considerSource state) none with
  | none => none
  | some (score, move) => if score > aiScoreEpsilon then some move else none

end Policy

/-! ### The replay -/

/-- What the replay was issued with. -/
structure BotMatch where
  player : PlayerUpgradeModifiers
  enemy : PlayerUpgradeModifiers
  battlefieldId : String
  rulesVersion : ℤ
  difficulty : BotDifficulty
  commander : Option CommanderId

structure BotReplay where
  state : GameState
  accumulators : Accumulators
  currentTime : ℚ
  currentTick : ℤ
  nextAITick : ℚ
  aiActionIndex : ℕ
  actionsProcessed : ℕ

def BotReplay.playing (r : BotReplay) : Bool := r.state.status = .playing

section Replay

variable [MathLib]

def BotReplay.step (r : BotReplay) (delta : ℚ) : BotReplay :=
  let p := stepSimulation r.state r.accumulators delta
  { r with state := p.1, accumulators := p.2 }

/-- The clock of the rules that count ticks. -/
def stepToTick (timestamp : ℚ) (r : BotReplay) : BotReplay :=
  let targetTick := ⌊timestamp / pvpSimulationTick + 1 / 10 ^ 9⌋
  let r := whileLoop (fun r => r.playing && r.currentTick < targetTick)
    (fun r => { r.step pvpSimulationTick with currentTick := r.currentTick + 1 })
    (targetTick - r.currentTick).toNat r
  { r with currentTime := r.currentTick * pvpSimulationTick }

/-- The clock of the first rules, which steps the remainder and then whatever is
missing from the match clock. -/
def stepToTime (timestamp : ℚ) (r : BotReplay) : BotReplay :=
  let r := whileLoop
    (fun r => r.playing && r.currentTime + pvpSimulationTick ≤ timestamp + 1 / 10 ^ 9)
    (fun r => { r.step pvpSimulationTick with currentTime := r.currentTime + pvpSimulationTick })
    ⌊(timestamp + 1 / 10 ^ 9 - r.currentTime) / pvpSimulationTick⌋.toNat r
  let remainder := timestamp - r.currentTime
  let r := if r.playing && remainder > 0 then r.step remainder else r
  let clockCorrection := timestamp - r.state.elapsedTimeSeconds
  let r := if r.playing && clockCorrection > 0 then r.step clockCorrection else r
  { r with currentTime := timestamp }

def stepTo (m : BotMatch) (timestamp : ℚ) (r : BotReplay) : BotReplay :=
  if hasCaptureRecovery m.rulesVersion then stepToTick timestamp r else stepToTime timestamp r

def aiArmyId (index : ℕ) : String := "pvp_ai_" ++ toString index

def playerArmyId (sequence : ℤ) : String := "pvp_player_" ++ toString sequence

/-- One dispatch of the bot; a refused one is dropped. -/
def dispatchMove (m : BotMatch) (r : BotReplay) (move : TacticalMove) : BotReplay :=
  let r' := { r with aiActionIndex := r.aiActionIndex + 1 }
  match dispatchArmy r.state move.fromId move.toId .enemy m.enemy.armySpeedMultiplier
      (aiArmyId r.aiActionIndex) with
  | .error _ => r'
  | .ok state => { r' with state := state }

/-- The bot's ability, when it chooses one and it is legal: the replay and the
moves that are left. -/
def spendAbility (m : BotMatch) (r : BotReplay) (moves : List TacticalMove) :
    BotReplay × List TacticalMove :=
  let botCommander := botCommanderId m.difficulty
  match chooseBotAbility r.state .enemy botCommander moves with
  | none => (r, moves)
  | some choice =>
    match applyTeamAbility r.state .enemy botCommander choice.sourceId choice.targetId
        m.enemy.armySpeedMultiplier (aiArmyId r.aiActionIndex) with
    | none => (r, moves)
    | some state => ({ r with state := state, aiActionIndex := r.aiActionIndex + 1 }, choice.moves)

def executeAI (m : BotMatch) (r : BotReplay) : BotReplay :=
  if !r.playing then r
  else if usesTacticalRules r.state.gameplayRulesVersion then
    let moves := evaluateTacticalMoves r.state .enemy m.enemy.armySpeedMultiplier
    let p := spendAbility m r moves
    p.2.foldl (dispatchMove m) p.1
  else
    match evaluateAIMove r.state with
    | none => r
    | some move => dispatchMove m r ⟨move.1, move.2⟩

def clockEpsilon (m : BotMatch) : ℚ :=
  if hasCaptureRecovery m.rulesVersion then 1 / 10 ^ 9 else 0

/-- Let the bot act at each of its ticks up to a time. -/
def aiUntil (m : BotMatch) (timestamp : ℚ) (r : BotReplay) : BotReplay :=
  let tick := botAiTickSeconds m.difficulty
  whileLoop (fun r => r.playing && r.nextAITick ≤ timestamp + clockEpsilon m)
    (fun r => { executeAI m (stepTo m r.nextAITick r) with nextAITick := r.nextAITick + tick })
    (⌊(timestamp + clockEpsilon m - r.nextAITick) / tick⌋ + 1).toNat r

/-- A recorded action; what is not legal in the replayed state is skipped. -/
def playAction (m : BotMatch) (r : BotReplay) (action : PvpAction) : BotReplay :=
  let armyId := playerArmyId action.sequence
  if action.kind = .ability then
    match applyPlayerAbility r.state m.commander action.sourceId action.targetId
        m.player.armySpeedMultiplier armyId with
    | none => r
    | some state => { r with state := state, actionsProcessed := r.actionsProcessed + 1 }
  else
    match dispatchArmy r.state action.sourceId action.targetId .player
        m.player.armySpeedMultiplier armyId with
    | .error _ => r
    | .ok state => { r with state := state, actionsProcessed := r.actionsProcessed + 1 }

def playActions (m : BotMatch) : List PvpAction → BotReplay → BotReplay
  | [], r => r
  | action :: actions, r =>
    let r := aiUntil m action.atSeconds r
    if !r.playing then r
    else
      let r := stepTo m action.atSeconds r
      if !r.playing then r else playActions m actions (playAction m r action)

/-- The checks of the action list, in the order of the loop. -/
def validateActions : ℕ → ℚ → List PvpAction → Except String Unit
  | _, _, [] => .ok ()
  | index, previousTime, action :: actions =>
    if action.sequence ≠ index then .error "invalid_sequence"
    else if action.kind ≠ .dispatch ∧ action.kind ≠ .ability then .error "invalid_action_kind"
    else if action.atSeconds < 0 ∨ action.atSeconds > pvpTimeLimitSeconds ∨
        action.atSeconds < previousTime then .error "invalid_timestamp"
    else validateActions (index + 1) action.atSeconds actions

def initialReplay (m : BotMatch) : Except String BotReplay :=
  let state := { createInitialGameStateForBattlefield m.player m.enemy m.battlefieldId with
    gameplayRulesVersion := m.rulesVersion }
  let start (state : GameState) : BotReplay :=
    ⟨state, .empty, 0, 0, botAiTickSeconds m.difficulty, 0, 0⟩
  if usesTacticalRules m.rulesVersion then
    if m.battlefieldId = "quad_citadel" then .error "tactical_rules_require_1v1"
    else .ok (start (applyTacticalOpening state m.player m.enemy))
  else .ok (start state)

def battleSummary (r : BotReplay) : PvpBattleSummary where
  status := if r.state.status = .playing then .draw else r.state.status
  stats := r.state.stats
  durationSeconds := ⌊r.state.elapsedTimeSeconds⌋
  actionsProcessed := r.actionsProcessed

/-- The replay once it has begun: the actions, the bot to the end, the clock to
the end. -/
def finishBattle (m : BotMatch) (actions : List PvpAction) (r : BotReplay) : BotReplay :=
  let r := aiUntil m pvpTimeLimitSeconds (playActions m actions r)
  if r.playing then stepTo m pvpTimeLimitSeconds r else r

def simulateBotBattleWithCommander (actions : List PvpAction) (m : BotMatch) :
    Except String (GameState × PvpBattleSummary) := do
  if supportedGameplayRules m.rulesVersion = false then
    throw "unsupported_gameplay_rules_version"
  if actions.length > maxPvpActions then throw "too_many_actions"
  validateActions 0 0 actions
  let r ← initialReplay m
  let r := finishBattle m actions r
  return (r.state, battleSummary r)

end Replay

end CrownClash.Go
