import CrownClash.Go.TacticalAi

/-!
# Server: commander abilities

`abilities.go` and `bot_abilities.go`: the one ability a side may use in a match
of version 4, and the rule by which the bot spends its own.  An ability that is
not legal leaves the state as it is, which is `none` here.
-/

namespace CrownClash.Go

open Lib

def abilityUnlockSeconds : ℚ := 15

def abilityShieldDurationMs : ℤ := 8000

def abilitySupplyUnits : ℤ := 5

def abilityChargeUnitMultiplier : ℚ := 2

def abilityChargeSpeedMultiplier : ℚ := 1.5

def commanderAbility : CommanderId → AbilityId
  | .crownGuard => .royalShield
  | .quartermaster => .supplyDrop
  | .vanguard => .vanguardCharge

def abilityUsed (state : GameState) (team : Team) : Bool :=
  if team = .player then state.playerAbilityUsed else state.enemyAbilityUsed

def markAbilityUsed (state : GameState) (team : Team) : GameState :=
  if team = .player then { state with playerAbilityUsed := true }
  else { state with enemyAbilityUsed := true }

variable [MathLib]

/-- The last army of the list arrives stronger than it left. -/
def boostLastArmy (state : GameState) (team : Team) : GameState :=
  match state.armies.getLast? with
  | none => state
  | some last =>
    let boosted := ⌊(last.units : ℚ) * abilityChargeUnitMultiplier⌋
    { state with
      armies := state.armies.dropLast ++ [{ last with units := boosted }]
      stats := addUnitsDispatched state.stats team (boosted - last.units) }

def applyTeamAbility (state : GameState) (team : Team) (commander : Option CommanderId)
    (sourceId targetId : String) (speedMultiplier : ℚ) (armyId : String) : Option GameState :=
  if hasCommanderAbilities state.gameplayRulesVersion = false ∨ state.status ≠ .playing ∨
      abilityUsed state team = true then none
  else if state.elapsedTimeSeconds + 1 / 10 ^ 9 < abilityUnlockSeconds then none
  else
    match commander with
    | none => none
    | some commander =>
      match state.territories.get? sourceId with
      | none => none
      | some source =>
        if source.owner ≠ team then none
        else
          match commanderAbility commander with
          | .royalShield =>
            if targetId ≠ sourceId then none
            else
              let shieldedUntil := matchMs state + abilityShieldDurationMs
              some (markAbilityUsed
                { state with
                  shieldedUntilMs := state.shieldedUntilMs.set sourceId shieldedUntil } team)
          | .supplyDrop =>
            if targetId ≠ sourceId then none
            else
              let source := { source with units := source.units + abilitySupplyUnits }
              some (markAbilityUsed
                { state with territories := state.territories.set sourceId source } team)
          | .vanguardCharge =>
            if targetId = sourceId then none
            else
              match dispatchArmyWithRatio state sourceId targetId team
                (speedMultiplier * abilityChargeSpeedMultiplier) armyId 0.5 with
              | .error _ => none
              | .ok state => some (markAbilityUsed (boostLastArmy state team) team)

def applyPlayerAbility (state : GameState) (commander : Option CommanderId)
    (sourceId targetId : String) (speedMultiplier : ℚ) (armyId : String) : Option GameState :=
  applyTeamAbility state .player commander sourceId targetId speedMultiplier armyId

/-! ### The bot's choice -/

structure BotAbilityChoice where
  sourceId : String
  targetId : String
  /-- The dispatches still to send (a charge replaces the first). -/
  moves : List TacticalMove
  deriving DecidableEq, Repr

structure ThreatenedTower where
  tower : Territory
  firstEta : ℚ
  horizon : ℚ
  deriving DecidableEq, Repr

/-- An own tower that the armies already marching on it would capture. -/
def threatenedTower (state : GameState) (team : Team) (id : String) : Option ThreatenedTower :=
  let tower := state.territory id
  if tower.owner ≠ team then none
  else
    let hostile := hostileAt state id team
    match hostile.head?, hostile.getLast? with
    | some first, some last =>
      if (tacticalForecast state tower last.eta tower.units).owner = team then none
      else some ⟨tower, first.eta, last.eta⟩
    | _, _ => none

def threatenedTowers (state : GameState) (team : Team) : List ThreatenedTower :=
  (sortedIds state).filterMap (threatenedTower state team)

/-- The threatened towers a shield would save, the largest garrison first. -/
def savedTowers (state : GameState) (team : Team) : List ThreatenedTower :=
  let shieldSeconds : ℚ := abilityShieldDurationMs / 1000
  sortBy (fun a b =>
      if a.tower.units ≠ b.tower.units then a.tower.units > b.tower.units
      else a.tower.id < b.tower.id) <|
    (threatenedTowers state team).filter fun t =>
      !(t.firstEta > shieldSeconds - 1 + 1 / 10 ^ 9) &&
        let horizon := if shieldSeconds - 1 < t.horizon then shieldSeconds - 1 else t.horizon
        (tacticalForecastWithDefense state t.tower horizon t.tower.units
          abilityShieldDefenseMultiplier).owner = team

/-- The threatened towers that more units would save, the soonest threat first. -/
def rescuedTowers (state : GameState) (team : Team) : List ThreatenedTower :=
  sortBy (fun a b =>
      if a.firstEta ≠ b.firstEta then a.firstEta < b.firstEta else a.tower.id < b.tower.id) <|
    (threatenedTowers state team).filter fun t =>
      (tacticalForecast state t.tower t.horizon (t.tower.units + abilitySupplyUnits)).owner = team

def chooseBotAbility (state : GameState) (team : Team) (commander : Option CommanderId)
    (moves : List TacticalMove) : Option BotAbilityChoice :=
  match commander with
  | none => none
  | some commander =>
    if hasCommanderAbilities state.gameplayRulesVersion = false ∨ state.status ≠ .playing then none
    else if abilityUsed state team = true ∨
        state.elapsedTimeSeconds + 1 / 10 ^ 9 < abilityUnlockSeconds then none
    else
      match commanderAbility commander with
      | .vanguardCharge =>
        match moves with
        | [] => none
        | m :: rest => some ⟨m.fromId, m.toId, rest⟩
      | .royalShield =>
        match savedTowers state team with
        | [] => none
        | t :: _ => some ⟨t.tower.id, t.tower.id, moves⟩
      | .supplyDrop =>
        match rescuedTowers state team, moves with
        | t :: _, _ => some ⟨t.tower.id, t.tower.id, moves⟩
        | [], m :: _ => some ⟨m.fromId, m.fromId, moves⟩
        | [], [] => none

end CrownClash.Go
