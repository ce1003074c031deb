import CrownClash.Ts.Domain

/-!
# Client: dispatch, production and one step of the simulation

`dispatch.ts`, `generation.ts` and `simulation.ts` of the game core.  The client
copies where the server writes in place: a step builds a fresh record of
territories, resolves the arrivals in it, and hands it to the production tick,
which builds another one.
-/

namespace CrownClash.Ts

open Lib

/-! ### Dispatch -/

def baseArmyTravelSpeed : ℚ := 140

def calculateDispatchUnits (currentUnits : ℤ) (ratio : ℚ) : ℤ :=
  if currentUnits ≤ 1 then 0 else max 1 ⌊(currentUnits : ℚ) * ratio⌋

section Dispatch

variable [MathLib]

/-- A successful dispatch: the source that is left and the army that marches. -/
structure Dispatched where
  sourceTerritory : Territory
  army : MarchingArmy
  deriving DecidableEq

/-- `dispatchArmy`; a failure is its `reason`. -/
def dispatchArmy (source target : Territory) (expectedOwner : Team) (dispatchRatio : ℚ)
    (armyId : String) (travelSpeedMultiplier : ℚ) (state : Option GameState) :
    Except String Dispatched :=
  if source.id = target.id then .error "Cannot dispatch to the same territory"
  else if source.owner ≠ expectedOwner then
    .error "Source territory is not owned by the dispatcher"
  else
    let route := match state with
      | some state => findDispatchRoute state source.id target.id expectedOwner
      | none => some [source.id, target.id]
    match route with
    | none =>
      .error (if target.owner = expectedOwner then "No friendly route"
        else "Attack an adjacent tower")
    | some route =>
      let unitsToSend := calculateDispatchUnits source.units dispatchRatio
      if unitsToSend ≤ 0 then .error "Not enough units in source territory"
      else
        let distance := hypot (target.x - source.x) (target.y - source.y)
        let safeSpeedMultiplier := if travelSpeedMultiplier > 0 then travelSpeedMultiplier else 1
        let sourceSpeedMultiplier := getTerritoryArmySpeedMultiplier source.type
        let durationSeconds := max 1
          (distance / (baseArmyTravelSpeed * safeSpeedMultiplier * sourceSpeedMultiplier))
        let army : MarchingArmy :=
          { routeIds := []
            routeLeg := 0
            routeSpeedMultiplier := 0
            id := armyId
            sourceId := source.id
            targetId := target.id
            owner := expectedOwner
            units := unitsToSend
            startX := source.x
            startY := source.y
            targetX := target.x
            targetY := target.y
            progress := 0
            speed := 1 / durationSeconds
            distance := distance }
        .ok
          { sourceTerritory := { source with units := source.units - unitsToSend }
            army := match state with
              | some state =>
                if usesTacticalRules state.gameplayRulesVersion then
                  setArmyLeg
                    { army with
                      routeIds := route
                      routeSpeedMultiplier := safeSpeedMultiplier * sourceSpeedMultiplier }
                    source (state.territory (route.getD 1 "")) 0
                else army
              | none => army }

end Dispatch

/-! ### Production -/

def accumulatorSnapEpsilon : ℚ := 1 / 10 ^ 9

/-- What one territory produces: the territory, the accumulator and the count. -/
structure Generated where
  territory : Territory
  accumulator : ℚ
  generated : ℤ
  deriving DecidableEq

def generateUnits (territory : Territory) (accumulator multiplier deltaSeconds : ℚ) :
    Generated :=
  if territory.owner = .neutral ∨ territory.productionRate ≤ 0 then ⟨territory, 0, 0⟩
  else if territory.units ≥ territory.maxUnits then ⟨territory, 0, 0⟩
  else
    let productionRate :=
      territory.productionRate * getTerritoryProductionMultiplier territory.type * multiplier
    let rawAcc := accumulator + productionRate * deltaSeconds
    let currentAcc := snap accumulatorSnapEpsilon (roundHalfUp rawAcc) rawAcc
    let wholeUnits := ⌊currentAcc⌋
    if wholeUnits > 0 then
      let allowedIncrease := max 0 (territory.maxUnits - territory.units)
      let actualIncrease := min wholeUnits allowedIncrease
      ⟨{ territory with units := territory.units + actualIncrease }, currentAcc - wholeUnits,
        actualIncrease⟩
    else ⟨territory, currentAcc, 0⟩

structure GenerationUpdateResult where
  territories : Record String Territory
  accumulators : Accumulators
  generatedCounts : Record String ℤ

/-- One round of the loop of `tickUnitGeneration`. -/
def generateEntry (productionMultipliers : Option (Record String ℚ)) (deltaSeconds : ℚ)
    (g : GenerationUpdateResult) (e : String × Territory) : GenerationUpdateResult :=
  let multiplier := match productionMultipliers with
    | some multipliers => multipliers.getD e.1 1
    | none => 1
  let r := generateUnits e.2 (g.accumulators.getD e.1 0) multiplier deltaSeconds
  { territories := g.territories.set e.1 r.territory
    accumulators := g.accumulators.set e.1 r.accumulator
    generatedCounts := g.generatedCounts.set e.1 r.generated }

def tickUnitGeneration (territories : Record String Territory) (accumulators : Accumulators)
    (deltaSeconds : ℚ) (productionMultipliers : Option (Record String ℚ)) :
    GenerationUpdateResult :=
  territories.entries.foldl (generateEntry productionMultipliers deltaSeconds)
    ⟨.empty, accumulators, .empty⟩

/-! ### Arrivals -/

/-- What the army loop works on. -/
structure Marching where
  territories : Record String Territory
  /-- `undefined` when the rules know no capture recovery. -/
  readyTimes : Option (Record String ℤ)
  generationAccumulators : Accumulators
  stats : MatchStats
  remainingArmies : List MarchingArmy
  resolvedArrivals : List CombatResult

/-- What the whole step reads: the state it started from and its new clock. -/
structure StepClock where
  currentState : GameState
  newElapsed : ℚ
  nowMs : ℤ

def addCapture (stats : MatchStats) : Team → MatchStats
  | .player =>
    { stats with territoriesCapturedByPlayer := stats.territoriesCapturedByPlayer + 1 }
  | .enemy =>
    { stats with territoriesCapturedByEnemy := stats.territoriesCapturedByEnemy + 1 }
  | .neutral => stats

/-- Recaptures preserve a recovery already in progress, for either owner. -/
def startRecovery (nowMs : ℤ) (id : String) (readyTimes : Record String ℤ) : Record String ℤ :=
  if readyTimes.getD id 0 ≤ nowMs then readyTimes.set id (nowMs + captureRecoveryMs)
  else readyTimes

/-- An army has arrived at its target. -/
def arriveArmy (c : StepClock) (m : Marching) (army : MarchingArmy) : Marching :=
  match m.territories.get? army.targetId with
  | none => m
  | some target =>
    let shielded := c.currentState.shieldedUntilMs.getD target.id 0 > c.nowMs
    let arrival := resolveArrival target army.units army.owner
      (if shielded then shieldDefenseMultiplier else 1)
    let combat := { arrival with
      routeInterrupted := army.routeIds ≠ [] && army.targetId ≠ army.routeIds.getLastD "" }
    let m := { m with
      territories := m.territories.set army.targetId
        { target with owner := combat.newOwner, units := combat.remainingUnits }
      resolvedArrivals := m.resolvedArrivals ++ [combat] }
    if combat.captured then
      { m with
        readyTimes := m.readyTimes.map (startRecovery c.nowMs target.id)
        generationAccumulators := match m.readyTimes with
          | some _ => m.generationAccumulators.set target.id 0
          | none => m.generationAccumulators
        stats := addCapture m.stats combat.newOwner }
    else m

section Moving

variable [MathLib]

/-- An army after `delta` seconds on the road, and whether it has arrived. -/
def advanceArmy (version : ℤ) (territories : Record String Territory) (delta : ℚ)
    (originalArmy : MarchingArmy) : MarchingArmy × Bool :=
  if usesTacticalRules version then
    let routed := advanceRoutedArmy originalArmy territories delta
    let nextProgress := if routed.2 then 1 else routed.1.progress
    if nextProgress ≥ 1 then (routed.1, true)
    else ({ routed.1 with progress := nextProgress }, false)
  else
    let nextProgress := originalArmy.progress + originalArmy.speed * delta
    if nextProgress ≥ 1 then (originalArmy, true)
    else ({ originalArmy with progress := nextProgress }, false)

def moveArmy (c : StepClock) (delta : ℚ) (m : Marching) (originalArmy : MarchingArmy) :
    Marching :=
  let r := advanceArmy c.currentState.gameplayRulesVersion m.territories delta originalArmy
  if r.2 then arriveArmy c m r.1
  else { m with remainingArmies := m.remainingArmies ++ [r.1] }

end Moving

/-! ### The step -/

def hasArmy (armies : List MarchingArmy) (team : Team) : Bool := armies.any fun a => a.owner = team

/-- Win or loss once every army has moved and every tower has produced. -/
def nextStatus (territories : Record String Territory) (remainingArmies : List MarchingArmy)
    (newElapsed timeLimitSeconds : ℚ) : MatchStatus :=
  let playerTerritories := territories.values.filter fun t => t.owner = .player
  let enemyTerritories := territories.values.filter fun t => t.owner = .enemy
  if enemyTerritories.length = 0 ∧ hasArmy remainingArmies .enemy = false then .victory
  else if playerTerritories.length = 0 ∧ hasArmy remainingArmies .player = false then .defeat
  else if newElapsed ≥ timeLimitSeconds then
    let playerTotal := (playerTerritories.map Territory.units).sum
    let enemyTotal := (enemyTerritories.map Territory.units).sum
    if playerTerritories.length > enemyTerritories.length then .victory
    else if enemyTerritories.length > playerTerritories.length then .defeat
    else if playerTotal > enemyTotal then .victory
    else if enemyTotal > playerTotal then .defeat
    else .draw
  else .playing

def stepClock (currentState : GameState) (deltaSeconds : ℚ) : StepClock :=
  let elapsed := currentState.elapsedTimeSeconds + deltaSeconds
  let newElapsed := if hasCaptureRecovery currentState.gameplayRulesVersion then
    (roundHalfUp (elapsed * 10 ^ 9) : ℚ) / 10 ^ 9 else elapsed
  ⟨currentState, newElapsed, roundHalfUp (newElapsed * 1000)⟩

structure StepResult where
  state : GameState
  accumulators : Accumulators
  resolvedArrivals : List CombatResult

/-- The army loop when it starts. -/
def marchStart (c : StepClock) (accumulators : Accumulators) : Marching where
  territories := c.currentState.territories
  readyTimes := if hasCaptureRecovery c.currentState.gameplayRulesVersion then
    some c.currentState.productionReadyAtMs else none
  generationAccumulators := accumulators
  stats := { c.currentState.stats with matchDurationSeconds := c.newElapsed }
  remainingArmies := []
  resolvedArrivals := []

/-- The rest of a step once the armies have moved: production, then the verdict. -/
def finishStep (c : StepClock) (m : Marching) (deltaSeconds : ℚ) : StepResult :=
  let productionMultipliers := m.readyTimes.map fun ready =>
    ready.map fun _ readyAtMs => getCaptureProductionMultiplier c.newElapsed readyAtMs
  let genResult := tickUnitGeneration m.territories m.generationAccumulators deltaSeconds
    productionMultipliers
  { state :=
      { battlefieldId := c.currentState.battlefieldId
        territories := genResult.territories
        armies := m.remainingArmies
        status := nextStatus genResult.territories m.remainingArmies c.newElapsed
          c.currentState.timeLimitSeconds
        elapsedTimeSeconds := c.newElapsed
        timeLimitSeconds := c.currentState.timeLimitSeconds
        stats := m.stats
        gameplayRulesVersion := c.currentState.gameplayRulesVersion
        productionReadyAtMs := m.readyTimes.getD .empty
        shieldedUntilMs := c.currentState.shieldedUntilMs
        playerAbilityUsed := c.currentState.playerAbilityUsed
        enemyAbilityUsed := c.currentState.enemyAbilityUsed }
    accumulators := genResult.accumulators
    resolvedArrivals := m.resolvedArrivals }

variable [MathLib]

def stepSimulation (currentState : GameState) (accumulators : Accumulators)
    (deltaSeconds : ℚ) : StepResult :=
  if currentState.status ≠ .playing then ⟨currentState, accumulators, []⟩
  else
    let c := stepClock currentState deltaSeconds
    let m := currentState.armies.foldl (moveArmy c deltaSeconds) (marchStart c accumulators)
    finishStep c m deltaSeconds

end CrownClash.Ts
