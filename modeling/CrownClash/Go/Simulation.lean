import CrownClash.Go.Domain

/-!
# Server: one step of the simulation

`stepSimulation` of `domain.go` and what it calls: first every army moves and
those that arrive fight, in the order of the army list and each against the map
the armies before it left; then every tower produces; then the match may end.

The loop over the armies is `moveArmies`, a fold of `moveArmy`.  What it does is
said by `arriveArmy`, the effect of one arrival on the map, the capture clock,
the accumulators and the statistics; everything later that speaks about
captures is about that one function.
-/

namespace CrownClash.Go

open Lib

/-! ### Production -/

def captureProductionMultiplier (elapsed : ℚ) (readyAtMs : ℤ) : ℚ :=
  let remaining := max 0 ((readyAtMs : ℚ) - roundHalfAway (elapsed * 1000))
  1 - 0.5 * min 1 (remaining / captureRecoveryMs)

/-- What one tower produces in `delta` seconds: the tower with its new garrison
and the fraction that is left over. -/
def generateUnits (territory : Territory) (accumulator multiplier delta : ℚ) : Territory × ℚ :=
  if territory.owner = .neutral ∨ territory.productionRate ≤ 0 ∨
      territory.units ≥ territory.maxUnits then (territory, 0)
  else
    let raw := accumulator +
      territory.productionRate * territoryProductionMultiplier territory.type * multiplier * delta
    let current := snap productionAccumulatorEpsilon (roundHalfAway raw) raw
    let whole := ⌊current⌋
    if whole > 0 then
      let allowed := max 0 (territory.maxUnits - territory.units)
      ({ territory with units := territory.units + min whole allowed }, current - whole)
    else (territory, current)

def productionMultiplier (state : GameState) (id : String) : ℚ :=
  if hasCaptureRecovery state.gameplayRulesVersion then
    captureProductionMultiplier state.elapsedTimeSeconds (state.productionReadyAtMs.getD id 0)
  else 1

/-- One round of the loop of `tickGeneration`. -/
def generateAt (state : GameState) (accumulators : Accumulators) (delta : ℚ)
    (p : Record String Territory × Accumulators) (id : String) :
    Record String Territory × Accumulators :=
  match p.1.get? id with
  | none => (p.1, p.2.set id 0)
  | some territory =>
    let r := generateUnits territory (accumulators.getD id 0) (productionMultiplier state id) delta
    (p.1.set id r.1, p.2.set id r.2)

def tickGeneration (state : GameState) (accumulators : Accumulators) (delta : ℚ) :
    GameState × Accumulators :=
  let p := (territoryOrderForBattlefield state.battlefieldId).foldl
    (generateAt state accumulators delta) (state.territories, .empty)
  ({ state with territories := p.1 }, p.2)

/-! ### Arrivals -/

def addCapture (stats : MatchStats) : Team → MatchStats
  | .player =>
    { stats with territoriesCapturedByPlayer := stats.territoriesCapturedByPlayer + 1 }
  | .enemy =>
    { stats with territoriesCapturedByEnemy := stats.territoriesCapturedByEnemy + 1 }
  | .neutral => stats

def matchMs (state : GameState) : ℤ := roundHalfAway (state.elapsedTimeSeconds * 1000)

/-- The royal shield over a tower, or none. -/
def defenseBonus (state : GameState) (target : Territory) : ℚ :=
  if state.shieldedUntilMs.getD target.id 0 > matchMs state then abilityShieldDefenseMultiplier
  else 1

/-- The recovery clock of a captured tower, which a recapture does not restart. -/
def startRecovery (state : GameState) (id : String) : Record String ℤ :=
  if state.productionReadyAtMs.getD id 0 ≤ matchMs state then
    state.productionReadyAtMs.set id (matchMs state + captureRecoveryMs)
  else state.productionReadyAtMs

/-- An army reaches its target. -/
def arriveArmy (p : GameState × Accumulators) (army : MarchingArmy) : GameState × Accumulators :=
  match p.1.territories.get? army.targetId with
  | none => p
  | some target =>
    let combat := resolveArrivalWithBonus target army.units army.owner (defenseBonus p.1 target)
    let taken := { target with owner := combat.newOwner, units := combat.remaining }
    let state := { p.1 with territories := p.1.territories.set army.targetId taken }
    if combat.captured then
      let recovery := hasCaptureRecovery state.gameplayRulesVersion
      ({ state with
          productionReadyAtMs :=
            if recovery then startRecovery state target.id else state.productionReadyAtMs
          stats := addCapture state.stats combat.newOwner },
        if recovery then p.2.set target.id 0 else p.2)
    else (state, p.2)

section Moving

variable [MathLib]

/-- An army after `delta` seconds on the road, and whether it has arrived. -/
def advanceArmy (state : GameState) (delta : ℚ) (army : MarchingArmy) : MarchingArmy × Bool :=
  if usesTacticalRules state.gameplayRulesVersion then
    let r := advanceRoutedArmy army state.territories delta
    let nextProgress := if r.2 then 1 else r.1.progress
    if nextProgress ≥ 1 then (r.1, true) else ({ r.1 with progress := nextProgress }, false)
  else
    let nextProgress := army.progress + army.speed * delta
    if nextProgress ≥ 1 then (army, true) else ({ army with progress := nextProgress }, false)

/-- The state of the army loop: the match so far and the armies still marching. -/
structure Marching where
  state : GameState
  accumulators : Accumulators
  remaining : List MarchingArmy

/-- The state once the loop is over. -/
def Marching.close (m : Marching) : GameState := { m.state with armies := m.remaining }

def moveArmy (delta : ℚ) (m : Marching) (army : MarchingArmy) : Marching :=
  let r := advanceArmy m.state delta army
  if r.2 then
    let p := arriveArmy (m.state, m.accumulators) r.1
    { m with state := p.1, accumulators := p.2 }
  else { m with remaining := m.remaining ++ [r.1] }

def moveArmies (state : GameState) (accumulators : Accumulators) (delta : ℚ) : Marching :=
  state.armies.foldl (moveArmy delta) ⟨state, accumulators, []⟩

end Moving

/-! ### The end of the match -/

/-- The towers of a side along the file order of the map. -/
def territoriesOf (state : GameState) (team : Team) : List Territory :=
  ((territoryOrderForBattlefield state.battlefieldId).map state.territory).filter
    fun t => t.owner = team

def unitsOf (ts : List Territory) : ℤ := (ts.map Territory.units).sum

def hasArmy (armies : List MarchingArmy) (team : Team) : Bool := armies.any fun a => a.owner = team

/-- The verdict at the time limit: towers first, then units. -/
def timeLimitStatus (state : GameState) : MatchStatus :=
  let player := territoriesOf state .player
  let enemy := territoriesOf state .enemy
  if player.length > enemy.length ∨
      (player.length = enemy.length ∧ unitsOf player > unitsOf enemy) then .victory
  else if enemy.length > player.length ∨
      (player.length = enemy.length ∧ unitsOf enemy > unitsOf player) then .defeat
  else .draw

def nextStatus (state : GameState) : MatchStatus :=
  if territoriesOf state .enemy = [] ∧ hasArmy state.armies .enemy = false then .victory
  else if territoriesOf state .player = [] ∧ hasArmy state.armies .player = false then .defeat
  else if state.elapsedTimeSeconds ≥ state.timeLimitSeconds then timeLimitStatus state
  else .playing

/-- The clock after `delta` seconds, kept on a grid of nanoseconds by the rules
that know capture recovery. -/
def nextElapsed (state : GameState) (delta : ℚ) : ℚ :=
  let elapsed := state.elapsedTimeSeconds + delta
  if hasCaptureRecovery state.gameplayRulesVersion then
    roundHalfAway (elapsed * 10 ^ 9) / 10 ^ 9
  else elapsed

/-- The state at the head of a step: the clock and the duration moved on. -/
def startStep (state : GameState) (delta : ℚ) : GameState :=
  { state with
    elapsedTimeSeconds := nextElapsed state delta
    stats := { state.stats with matchDurationSeconds := nextElapsed state delta } }

/-- The rest of a step once the armies have moved: production, then the verdict. -/
def finishStep (m : Marching) (delta : ℚ) : GameState × Accumulators :=
  let p := tickGeneration m.close m.accumulators delta
  ({ p.1 with status := nextStatus p.1 }, p.2)

variable [MathLib]

def stepSimulation (state : GameState) (accumulators : Accumulators) (delta : ℚ) :
    GameState × Accumulators :=
  if state.status ≠ .playing then (state, accumulators)
  else finishStep (moveArmies (startStep state delta) accumulators delta) delta

end CrownClash.Go
