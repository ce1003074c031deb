import CrownClash.Go.Tactical

/-!
# Server: one battle

`domain.go` from the creation of the map to one step of the simulation: combat,
dispatch, production and the end of the match.

The server walks its territory map along the file order of the battlefield.  A
function that writes through the state pointer returns the new state here, and
`stepSimulation` returns the pair it returns in the source.
-/

namespace CrownClash.Go

open Lib

def pvpTimeLimitSeconds : ℚ := 90

def pvpSimulationTick : ℚ := 0.02

def currentGameplayRulesVersion : ℤ := 2

def captureRecoveryMs : ℤ := 3000

def abilityShieldDefenseMultiplier : ℚ := 2

def fortressDefenseMultiplier : ℚ := 1.25

def barracksProductionMultiplier : ℚ := 1.25

def stableArmySpeedMultiplier : ℚ := 1.25

def productionAccumulatorEpsilon : ℚ := 1 / 10 ^ 9

/-! ### The map -/

def territoryOrderForBattlefield (battlefieldId : String) : List String :=
  (battlefieldOf battlefieldId).order

def battlefieldIds : List String := ["crown_cross", "twin_passes", "royal_ring"]

def isBattlefieldId (value : String) : Bool := value ∈ battlefieldIds

def defaultModifiers : PlayerUpgradeModifiers := ⟨20, 1, 1⟩

/-- A template with the garrison and production of the side that starts on it. -/
def createTerritory (player enemy : PlayerUpgradeModifiers) (t : Territory) : Territory :=
  if t.id = "p_base" ∨ t.owner = .player then
    { t with
      units := player.startingUnits
      productionRate := t.productionRate * player.productionRateMultiplier }
  else if t.id = "e_base" ∨ t.owner = .enemy then
    { t with
      units := enemy.startingUnits
      productionRate := t.productionRate * enemy.productionRateMultiplier }
  else t

theorem createTerritory_id (player enemy : PlayerUpgradeModifiers) (t : Territory) :
    (createTerritory player enemy t).id = t.id := by
  unfold createTerritory
  split
  · rfl
  · split <;> rfl

def createTerritoriesForBattlefield (player enemy : PlayerUpgradeModifiers)
    (battlefieldId : String) : Record String Territory where
  entries := (battlefieldOf battlefieldId).territories.map fun t =>
    (t.id, createTerritory player enemy t)
  nodup := by
    rw [List.map_map]
    exact (battlefieldOf battlefieldId).nodup_ids

def createInitialGameStateForBattlefield (player enemy : PlayerUpgradeModifiers)
    (battlefieldId : String) : GameState :=
  let battlefieldId := if isBattlefieldId battlefieldId then battlefieldId else "crown_cross"
  { battlefieldId := battlefieldId
    territories := createTerritoriesForBattlefield player enemy battlefieldId
    armies := []
    status := .playing
    elapsedTimeSeconds := 0
    timeLimitSeconds := pvpTimeLimitSeconds
    stats := .zero
    gameplayRulesVersion := currentGameplayRulesVersion
    productionReadyAtMs := .empty
    shieldedUntilMs := .empty
    playerAbilityUsed := false
    enemyAbilityUsed := false }

/-! ### Combat -/

def territoryDefenseMultiplier : TerritoryType → ℚ
  | .fortress => fortressDefenseMultiplier
  | _ => 1

def territoryDefenseStrengthWithBonus (territory : Territory) (bonus : ℚ) : ℤ :=
  ⌈(territory.units : ℚ) * (territoryDefenseMultiplier territory.type * bonus)⌉

def territoryDefenseStrength (territory : Territory) : ℤ :=
  territoryDefenseStrengthWithBonus territory 1

def remainingDefenders (territoryType : TerritoryType) (effectiveUnits : ℤ) (bonus : ℚ) : ℤ :=
  ⌈(effectiveUnits : ℚ) / (territoryDefenseMultiplier territoryType * bonus)⌉

def territoryProductionMultiplier : TerritoryType → ℚ
  | .barracks => barracksProductionMultiplier
  | _ => 1

def territoryArmySpeedMultiplier : TerritoryType → ℚ
  | .stable => stableArmySpeedMultiplier
  | _ => 1

structure CombatResult where
  newOwner : Team
  remaining : ℤ
  captured : Bool
  deriving DecidableEq, Repr

def resolveArrivalWithBonus (target : Territory) (incoming : ℤ) (attacker : Team)
    (defenseBonus : ℚ) : CombatResult :=
  if incoming ≤ 0 then ⟨target.owner, target.units, false⟩
  else if attacker = target.owner then ⟨target.owner, target.units + incoming, false⟩
  else
    let defenseStrength := territoryDefenseStrengthWithBonus target defenseBonus
    if incoming > defenseStrength then ⟨attacker, incoming - defenseStrength, true⟩
    else ⟨target.owner,
      remainingDefenders target.type (defenseStrength - incoming) defenseBonus, false⟩

def resolveArrival (target : Territory) (incoming : ℤ) (attacker : Team) : CombatResult :=
  resolveArrivalWithBonus target incoming attacker 1

/-! ### Dispatch -/

inductive DispatchError
  | invalidSource
  | invalidTarget
  | invalidDispatch
  deriving DecidableEq, Repr

def calculateDispatchUnitsWithRatio (units : ℤ) (ratio : ℚ) : ℤ :=
  if units ≤ 1 then 0 else max 1 ⌊(units : ℚ) * ratio⌋

def calculateDispatchUnits (units : ℤ) : ℤ := calculateDispatchUnitsWithRatio units 0.5

variable [MathLib]

/-- The army that leaves `source`, before it is put on a road. -/
def newArmy (id sourceId targetId : String) (source target : Territory) (owner : Team)
    (units : ℤ) (multiplier : ℚ) : MarchingArmy :=
  let distance := hypot (target.x - source.x) (target.y - source.y)
  let duration := max 1
    (distance / (baseArmyTravelSpeed * multiplier * territoryArmySpeedMultiplier source.type))
  { routeIds := []
    routeLeg := 0
    routeSpeedMultiplier := 0
    id := id
    sourceId := sourceId
    targetId := targetId
    owner := owner
    units := units
    startX := source.x
    startY := source.y
    targetX := target.x
    targetY := target.y
    progress := 0
    speed := 1 / duration
    distance := distance }

def addUnitsDispatched (stats : MatchStats) (owner : Team) (units : ℤ) : MatchStats :=
  if owner = .player then
    { stats with playerUnitsDispatched := stats.playerUnitsDispatched + units }
  else { stats with enemyUnitsDispatched := stats.enemyUnitsDispatched + units }

def dispatchArmyWithRatio (state : GameState) (sourceId targetId : String) (owner : Team)
    (multiplier : ℚ) (id : String) (ratio : ℚ) : Except DispatchError GameState :=
  match state.territories.get? sourceId, state.territories.get? targetId with
  | none, _ => .error .invalidSource
  | some _, none => .error .invalidTarget
  | some source, some target =>
    if sourceId = targetId ∨ source.owner ≠ owner then .error .invalidDispatch
    else
      match findDispatchRoute state sourceId targetId owner with
      | none => .error .invalidDispatch
      | some route =>
        let units := calculateDispatchUnitsWithRatio source.units ratio
        if units ≤ 0 then .error .invalidDispatch
        else
          let multiplier := if multiplier > 0 then multiplier else 1
          let army := newArmy id sourceId targetId source target owner units multiplier
          let source := { source with units := source.units - units }
          let territories := state.territories.set sourceId source
          let army :=
            if usesTacticalRules state.gameplayRulesVersion then
              setArmyLeg
                { army with
                  routeIds := route
                  routeSpeedMultiplier :=
                    multiplier * territoryArmySpeedMultiplier source.type }
                source (territories.getD (route.getD 1 "") Territory.zero) 0
            else army
          .ok { state with
            territories := territories
            armies := state.armies ++ [army]
            stats := addUnitsDispatched state.stats owner units }

def dispatchArmy (state : GameState) (sourceId targetId : String) (owner : Team)
    (multiplier : ℚ) (id : String) : Except DispatchError GameState :=
  dispatchArmyWithRatio state sourceId targetId owner multiplier id 0.5

end CrownClash.Go
