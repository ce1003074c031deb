import CrownClash.Ts.TacticalAi

/-!
# Client: commander abilities

`abilities.ts` and `bot-abilities.ts`.  A recorded action names its towers by
text, so the reads of the territory record go through `lookup`: a name every
object inherits is truthy, but it has no owner and no id, and neither as source
nor as target does it make an ability legal.
-/

namespace CrownClash.Ts

open Lib

def unlockSeconds : ℚ := 15

def shieldDurationMs : ℤ := 8000

def supplyUnits : ℤ := 5

def chargeUnitMultiplier : ℚ := 2

def chargeSpeedMultiplier : ℚ := 1.5

def commanderAbility : CommanderId → AbilityId
  | .crownGuard => .royalShield
  | .quartermaster => .supplyDrop
  | .vanguard => .vanguardCharge

def abilityUsed (state : GameState) (team : Team) : Bool :=
  if team = .player then state.playerAbilityUsed else state.enemyAbilityUsed

/-- `{ ...state, ...usedFlag }`. -/
def withUsedFlag (state : GameState) (team : Team) : GameState :=
  if team = .player then { state with playerAbilityUsed := true }
  else { state with enemyAbilityUsed := true }

/-- The statistics with `units` more dispatched by a side. -/
def addUnitsDispatched (stats : MatchStats) (owner : Team) (units : ℤ) : MatchStats :=
  { stats with
    playerUnitsDispatched :=
      if owner = .player then stats.playerUnitsDispatched + units
      else stats.playerUnitsDispatched
    enemyUnitsDispatched :=
      if owner = .player then stats.enemyUnitsDispatched
      else stats.enemyUnitsDispatched + units }

variable [MathLib]

/-- An ability, or `null` when it is not legal in this state. -/
def applyTeamAbility (state : GameState) (team : Team) (commanderId : Option CommanderId)
    (sourceId targetId : String) (armySpeedMultiplier : ℚ) (armyId : String) :
    Option GameState :=
  match commanderId with
  | none => none
  | some commander =>
    if hasCommanderAbilities state.gameplayRulesVersion = false ∨ state.status ≠ .playing then none
    else if abilityUsed state team = true ∨
        state.elapsedTimeSeconds + 1 / 10 ^ 9 < unlockSeconds then none
    else
      match lookup state.territories sourceId with
      | .missing => none
      -- An inherited member has no `owner`.
      | .inherited => none
      | .own source =>
        if source.owner ≠ team then none
        else
          let nowMs := roundHalfUp (state.elapsedTimeSeconds * 1000)
          match commanderAbility commander with
          | .royalShield =>
            if targetId ≠ sourceId then none
            else
              some (withUsedFlag
                { state with
                  shieldedUntilMs :=
                    state.shieldedUntilMs.set sourceId (nowMs + shieldDurationMs) } team)
          | .supplyDrop =>
            if targetId ≠ sourceId then none
            else
              some (withUsedFlag
                { state with
                  territories := state.territories.set sourceId
                    { source with units := source.units + supplyUnits } } team)
          | .vanguardCharge =>
            match lookup state.territories targetId with
            | .missing => none
            -- An inherited member has no `id`, so there is no route to it.
            | .inherited => none
            | .own target =>
              if targetId = sourceId then none
              else
                match dispatchArmy source target team 0.5 armyId
                    (armySpeedMultiplier * chargeSpeedMultiplier) (some state) with
                | .error _ => none
                | .ok d =>
                  let army := { d.army with
                    units := ⌊(d.army.units : ℚ) * chargeUnitMultiplier⌋ }
                  some (withUsedFlag
                    { state with
                      territories := state.territories.set sourceId d.sourceTerritory
                      armies := state.armies ++ [army]
                      stats := addUnitsDispatched state.stats team army.units } team)

def applyPlayerAbility (state : GameState) (commanderId : Option CommanderId)
    (sourceId targetId : String) (armySpeedMultiplier : ℚ) (armyId : String) :
    Option GameState :=
  applyTeamAbility state .player commanderId sourceId targetId armySpeedMultiplier armyId

/-! ### The bot's choice -/

structure BotAbilityChoice where
  sourceId : String
  targetId : String
  /-- The moves the bot should still dispatch (a charge replaces the first one). -/
  moves : List AiMove
  deriving DecidableEq, Repr

structure ThreatenedTower where
  tower : Territory
  firstEta : ℚ
  horizon : ℚ
  deriving DecidableEq, Repr

/-- An own tower that the armies already marching on it would capture. -/
def threatenedTower (state : GameState) (team : Team) (tower : Territory) :
    Option ThreatenedTower :=
  let hostile := hostileIncoming state tower.id team
  match hostile.head?, hostile.getLast? with
  | some first, some last =>
    if (tacticalForecast state tower last.eta tower.units 1).owner = team then none
    else some ⟨tower, first.eta, last.eta⟩
  | _, _ => none

def threatenedTowers (state : GameState) (team : Team) : List ThreatenedTower :=
  (sortBy (fun a b => a.id < b.id)
    (state.territories.values.filter fun t => t.owner = team)).filterMap
      (threatenedTower state team)

/-- Only worth it when the shield is up for the fight and actually saves the tower. -/
def savedTowers (state : GameState) (team : Team) : List ThreatenedTower :=
  let shieldSeconds : ℚ := shieldDurationMs / 1000
  sortBy (fun a b =>
      if b.tower.units - a.tower.units ≠ 0 then b.tower.units - a.tower.units < 0
      else a.tower.id < b.tower.id) <|
    (threatenedTowers state team).filter fun t =>
      t.firstEta ≤ shieldSeconds - 1 + 1 / 10 ^ 9 &&
        (tacticalForecast state t.tower (min t.horizon (shieldSeconds - 1)) t.tower.units
          shieldDefenseMultiplier).owner = team

/-- The towers that a supply drop would save, the soonest threat first. -/
def rescuedTowers (state : GameState) (team : Team) : List ThreatenedTower :=
  sortBy (fun a b =>
      if a.firstEta - b.firstEta ≠ 0 then a.firstEta - b.firstEta < 0
      else a.tower.id < b.tower.id) <|
    (threatenedTowers state team).filter fun t =>
      (tacticalForecast state t.tower t.horizon (t.tower.units + supplyUnits) 1).owner = team

def chooseBotAbility (state : GameState) (team : Team) (commanderId : Option CommanderId)
    (moves : List AiMove) : Option BotAbilityChoice :=
  match commanderId with
  | none => none
  | some commander =>
    if hasCommanderAbilities state.gameplayRulesVersion = false ∨ state.status ≠ .playing then none
    else if abilityUsed state team = true ∨
        state.elapsedTimeSeconds + 1 / 10 ^ 9 < unlockSeconds then none
    else
      match commanderAbility commander with
      | .vanguardCharge =>
        match moves with
        | [] => none
        | m :: rest => some ⟨m.fromId, m.toId, rest⟩
      | .royalShield =>
        match savedTowers state team with
        | [] => none
        | t :: _ => some ⟨t.tower.id, t.tower.id, moves⟩
      | .supplyDrop =>
        match rescuedTowers state team, moves with
        | t :: _, _ => some ⟨t.tower.id, t.tower.id, moves⟩
        | [], m :: _ => some ⟨m.fromId, m.fromId, moves⟩
        | [], [] => none

end CrownClash.Ts
