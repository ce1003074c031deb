import CrownClash.Ts.Pvp
import CrownClash.TwoVTwo

/-!
# Client: the replay of a 2v2 match

`pvp2v2.ts` and `init2v2.ts`.  The client refuses numbers that are not safe
integers, and it reads the territories an action names off plain objects: a name
every object inherits is truthy, so it passes the test of existence.  As a source
or a spawn it has no owner.  As a target it has neither id nor coordinates, and
the army that is sent there never arrives (`ghostArmy`).
-/

namespace CrownClash.Ts

open Lib

def twoVTwoSlots : List ℤ := [0, 1, 2, 3]

def teamIdForSlot (slot : ℤ) : TeamId := if slot < 2 then .a else .b

def simulationOwnerForSlot (slot : ℤ) : Team :=
  if teamIdForSlot slot = .a then .player else .enemy

def defaultMaxActions : ℕ := maxPvpActions * 4

/-- `Number.isSafeInteger` of an integer. -/
def isSafeInteger (n : ℤ) : Bool := -(2 ^ 53 - 1) ≤ n && n ≤ 2 ^ 53 - 1

/-! ### The start -/

/-- The checks of one spawn assignment, after the slots and territories before it. -/
def validateSpawn (territories : Record String Territory) (seenSlots : List ℤ)
    (seenTerritories : List String) (assignment : TwoVTwoSpawnAssignment) :
    Except TwoVTwoErrorCode Unit :=
  if assignment.slot ∉ twoVTwoSlots then .error .spawnSlot
  else if assignment.slot ∈ seenSlots ∨ assignment.territoryId ∈ seenTerritories then
    .error .spawnAssignments
  else
    match lookup territories assignment.territoryId with
    | .missing => .error .spawnNotFound
    -- An inherited member has no owner.
    | .inherited => .error .spawnOwner
    | .own territory =>
      if territory.owner ≠ simulationOwnerForSlot assignment.slot then .error .spawnOwner
      else .ok ()

def validateSpawns (territories : Record String Territory) :
    List ℤ → List String → List TwoVTwoSpawnAssignment → Except TwoVTwoErrorCode Unit
  | _, _, [] => .ok ()
  | seenSlots, seenTerritories, assignment :: rest => do
    validateSpawn territories seenSlots seenTerritories assignment
    validateSpawns territories (assignment.slot :: seenSlots)
      (assignment.territoryId :: seenTerritories) rest

/-- The modifiers of a slot, put on the territory it spawns on. -/
def applySpawn (modifiersBySlot : ℤ → PlayerUpgradeModifiers)
    (territories : Record String Territory) (assignment : TwoVTwoSpawnAssignment) :
    Record String Territory :=
  let spawn := territories.getD assignment.territoryId Territory.zero
  let modifiers := modifiersBySlot assignment.slot
  territories.set assignment.territoryId
    { spawn with
      units := modifiers.startingUnits
      productionRate := spawn.productionRate * modifiers.productionRateMultiplier }

/-- Version 1 is recorded by leaving the version out. -/
def createInitial2v2GameState (o : TwoVTwoSimulationOptions) :
    Except TwoVTwoErrorCode GameState := do
  if o.spawnAssignments.length ≠ twoVTwoSlots.length then throw .spawnAssignments
  validateSpawns o.territories [] [] o.spawnAssignments
  match validateGameplayRulesVersion o.gameplayRulesVersion with
  | none => throw .unsupportedGameplayRulesVersion
  | some version =>
    if version ≥ 3 then throw .unsupportedGameplayRulesVersion
    pure
      { battlefieldId := o.battlefieldId
        territories := o.spawnAssignments.foldl (applySpawn o.modifiersBySlot) o.territories
        armies := []
        status := .playing
        elapsedTimeSeconds := 0
        timeLimitSeconds := o.timeLimitSeconds
        stats := .zero
        gameplayRulesVersion := if version = 2 then 2 else 0
        productionReadyAtMs := .empty
        shieldedUntilMs := .empty
        playerAbilityUsed := false
        enemyAbilityUsed := false }

/-! ### The canonical log -/

/-- The first difference that is not zero. -/
def compareCanonicalActions (left right : CanonicalTwoVTwoAction) : ℤ :=
  if left.tick - right.tick ≠ 0 then left.tick - right.tick
  else if left.serverSeq - right.serverSeq ≠ 0 then left.serverSeq - right.serverSeq
  else if left.slot - right.slot ≠ 0 then left.slot - right.slot
  else left.clientSeq - right.clientSeq

def checkAction (c : LogCheck) (action : CanonicalTwoVTwoAction) : Except TwoVTwoErrorCode Unit :=
  if action.schemaVersion ≠ matchSchemaVersion2 then .error .invalidSchemaVersion
  else if !isSafeInteger action.tick || action.tick < 0 then .error .invalidTick
  else if !isSafeInteger action.serverSeq || action.serverSeq < 0 then
    .error .invalidServerSequence
  else if action.serverSeq ∈ c.seenServerSequences then .error .invalidServerSequence
  else if action.slot ∉ twoVTwoSlots then .error .invalidSlot
  else if !isSafeInteger action.clientSeq || action.clientSeq ≠ c.nextClientSequence action.slot
  then .error .invalidClientSequence
  else if action.sourceId = "" then .error .invalidSource
  else if action.targetId = "" then .error .invalidTarget
  else .ok ()

def checkActions : LogCheck → List CanonicalTwoVTwoAction → Except TwoVTwoErrorCode Unit
  | _, [] => .ok ()
  | c, action :: rest => do
    checkAction c action
    checkActions (c.add action) rest

def canonicalizeTwoVTwoActions (actions : List CanonicalTwoVTwoAction) (maxActions : ℕ) :
    Except TwoVTwoErrorCode (List CanonicalTwoVTwoAction) := do
  if actions.length > maxActions then throw .tooManyActions
  let canonical := sortBy (fun a b => compareCanonicalActions a b < 0) actions
  checkActions .start canonical
  return canonical

/-! ### The replay -/

structure Replay2v2 where
  state : GameState
  accumulators : Accumulators
  currentTick : ℤ
  actionsProcessed : ℕ

def Replay2v2.playing (r : Replay2v2) : Bool := r.state.status = .playing

def twoVTwoArmyId (action : CanonicalTwoVTwoAction) : String :=
  "2v2_" ++ toString action.tick ++ "_" ++ toString action.serverSeq ++ "_"
    ++ toString action.slot ++ "_" ++ toString action.clientSeq

def maximumTick (state : GameState) : ℤ :=
  ⌊state.timeLimitSeconds / pvpSimulationTickSeconds + 1 / 10 ^ 9⌋

/-- What is sent to an inherited member.  Its target is `undefined` and its speed
is not a number, so its progress never reaches one; a speed of zero stands for
that. -/
def ghostArmy (source : Territory) (owner : Team) (armyId : String) : MarchingArmy where
  routeIds := []
  routeLeg := 0
  routeSpeedMultiplier := 0
  id := armyId
  sourceId := source.id
  targetId := ""
  owner := owner
  units := calculateDispatchUnits source.units 0.5
  startX := source.x
  startY := source.y
  targetX := 0
  targetY := 0
  progress := 0
  speed := 0
  distance := 0

/-- The dispatch to an inherited member, which is no territory of any side. -/
def dispatchToInherited (source : Territory) (owner : Team) (armyId : String) :
    Except String Dispatched :=
  if source.owner ≠ owner then .error "Source territory is not owned by the dispatcher"
  else if calculateDispatchUnits source.units 0.5 ≤ 0 then
    .error "Not enough units in source territory"
  else
    .ok
      { sourceTerritory :=
          { source with units := source.units - calculateDispatchUnits source.units 0.5 }
        army := ghostArmy source owner armyId }

section Replay

variable [MathLib]

def Replay2v2.step (r : Replay2v2) (delta : ℚ) : Replay2v2 :=
  let s := stepSimulation r.state r.accumulators delta
  { r with state := s.state, accumulators := s.accumulators }

/-- One round of the clock loop. -/
def Replay2v2.tick (r : Replay2v2) : Replay2v2 :=
  { r.step pvpSimulationTickSeconds with currentTick := r.currentTick + 1 }

def stepUntil (targetTick : ℤ) (r : Replay2v2) : Replay2v2 :=
  whileLoop (fun r => r.playing && r.currentTick < targetTick) Replay2v2.tick
    (targetTick - r.currentTick).toNat r

/-- The state after a dispatch of the log. -/
def withDispatch (state : GameState) (owner : Team) (d : Dispatched) : GameState :=
  { state with
    territories := state.territories.set d.sourceTerritory.id d.sourceTerritory
    armies := state.armies ++ [d.army]
    stats := { state.stats with
      playerUnitsDispatched :=
        if owner = .player then state.stats.playerUnitsDispatched + d.army.units
        else state.stats.playerUnitsDispatched
      enemyUnitsDispatched :=
        if owner = .enemy then state.stats.enemyUnitsDispatched + d.army.units
        else state.stats.enemyUnitsDispatched } }

/-- One action of the log in the state it arrives in. -/
def applyAction (modifiersBySlot : ℤ → PlayerUpgradeModifiers) (r : Replay2v2)
    (action : CanonicalTwoVTwoAction) : Except TwoVTwoErrorCode Replay2v2 :=
  let owner := simulationOwnerForSlot action.slot
  let finish (dispatched : Except String Dispatched) : Except TwoVTwoErrorCode Replay2v2 :=
    match dispatched with
    | .error _ => .error .invalidDispatch
    | .ok d => .ok { r with
        state := withDispatch r.state owner d, actionsProcessed := r.actionsProcessed + 1 }
  match lookup r.state.territories action.sourceId,
    lookup r.state.territories action.targetId with
  | .missing, _ => .error .invalidSource
  | _, .missing => .error .invalidTarget
  -- An inherited member has no owner.
  | .inherited, _ => .error .slotNotPermitted
  | .own source, .own target =>
    if source.owner ≠ owner then .error .slotNotPermitted
    else finish (dispatchArmy source target owner 0.5 (twoVTwoArmyId action)
      (modifiersBySlot action.slot).armySpeedMultiplier none)
  | .own source, .inherited =>
    if source.owner ≠ owner then .error .slotNotPermitted
    else finish (dispatchToInherited source owner (twoVTwoArmyId action))

def runActions (modifiersBySlot : ℤ → PlayerUpgradeModifiers) (maxTick : ℤ) :
    List CanonicalTwoVTwoAction → Replay2v2 → Except TwoVTwoErrorCode Replay2v2
  | [], r => .ok r
  | action :: rest, r =>
    if action.tick > maxTick then .error .invalidTick
    else
      let r := stepUntil action.tick r
      if !r.playing then .error .actionAfterBattleEnd
      else do
        let r ← applyAction modifiersBySlot r action
        runActions modifiersBySlot maxTick rest r

/-- The clock to the last tick, and the rest of the time when the match still runs. -/
def finish2v2 (maxTick : ℤ) (r : Replay2v2) : Replay2v2 :=
  let r := stepUntil maxTick r
  if r.playing then r.step (max 0 (r.state.timeLimitSeconds - r.state.elapsedTimeSeconds)) else r

def simulate2v2Battle (o : TwoVTwoSimulationOptions) :
    Except TwoVTwoErrorCode TwoVTwoSimulationResult := do
  let canonicalActions ← canonicalizeTwoVTwoActions o.actions defaultMaxActions
  let state ← createInitial2v2GameState o
  let r ← runActions o.modifiersBySlot (maximumTick state) canonicalActions ⟨state, .empty, 0, 0⟩
  let r := finish2v2 (maximumTick state) r
  return ⟨canonicalActions, r.state, r.actionsProcessed⟩

end Replay

end CrownClash.Ts
