import CrownClash.Battlefields
import CrownClash.Lib.Hypot
import CrownClash.Lib.Rounding
import CrownClash.Lib.Sorting
import CrownClash.Lib.Text
import Mathlib.Algebra.Order.Field.Rat

/-!
# Client: map, combat, roads and dispatch

`battlefields.ts`, `map.ts`, `gameplay-rules.ts`, `territory-types.ts`,
`combat.ts`, `tactical-routes.ts` and `dispatch.ts` of the game core.

A property read of a record finds the entry of that key, or a member that every
object inherits, or nothing.  `Lookup` keeps the three apart: an inherited member
is truthy but has none of the fields of a territory.
-/

namespace CrownClash.Ts

open Lib

/-- The names that every object inherits. -/
def objectPrototypeKeys : List String :=
  ["constructor", "__defineGetter__", "__defineSetter__", "hasOwnProperty", "__lookupGetter__",
   "__lookupSetter__", "isPrototypeOf", "propertyIsEnumerable", "toString", "valueOf",
   "__proto__", "toLocaleString"]

/-- What a property read of a record gives. -/
inductive Lookup (α : Type)
  | own (value : α)
  | inherited
  | missing
  deriving DecidableEq, Repr

def lookup {α : Type} (r : Record String α) (key : String) : Lookup α :=
  match r.get? key with
  | some v => .own v
  | none => if key ∈ objectPrototypeKeys then .inherited else .missing

/-! ### Rules -/

def tacticalBaseBonus : ℤ := 8

def tacticalSupportUnits : ℤ := 14

def tacticalMinLegSeconds : ℚ := 2

def hasCaptureRecovery (version : ℤ) : Bool := version == 2 || version == 3 || version == 4

def usesTacticalRules (version : ℤ) : Bool := version == 3 || version == 4

def hasCommanderAbilities (version : ℤ) : Bool := version == 4

def captureRecoveryMs : ℤ := 3000

def captureInitialProductionMultiplier : ℚ := 0.5

def shieldDefenseMultiplier : ℚ := 2

def validateGameplayRulesVersion (value : ℤ) : Option ℤ :=
  if value ≠ 1 ∧ value ≠ 2 ∧ value ≠ 3 ∧ value ≠ 4 then none else some value

def getCaptureProductionMultiplier (elapsedSeconds : ℚ) (readyAtMs : ℤ) : ℚ :=
  let remaining := max 0 ((readyAtMs : ℚ) - roundHalfUp (elapsedSeconds * 1000))
  1 - (1 - captureInitialProductionMultiplier) * min 1 (remaining / captureRecoveryMs)

/-! ### The map -/

def normalizeBattlefieldId (value : String) : String :=
  if battlefields.any fun b => b.id = value then value else "crown_cross"

def getBattlefield (value : String) : BattlefieldDefinition :=
  (battlefields.find? fun b => b.id = normalizeBattlefieldId value).getD crownCross

/-- A template with the garrison and production of the side that starts on it. -/
def createTerritory (playerModifiers enemyModifiers : PlayerUpgradeModifiers)
    (template : Territory) : Territory :=
  if template.id = "p_base" ∨ template.owner = .player then
    { template with
      units := playerModifiers.startingUnits
      productionRate := template.productionRate * playerModifiers.productionRateMultiplier }
  else if template.id = "e_base" ∨ template.owner = .enemy then
    { template with
      units := enemyModifiers.startingUnits
      productionRate := template.productionRate * enemyModifiers.productionRateMultiplier }
  else template

def createDefaultTerritories (playerModifiers enemyModifiers : PlayerUpgradeModifiers)
    (battlefieldId : String) : Record String Territory where
  entries := (getBattlefield battlefieldId).territories.map fun t =>
    (t.id, createTerritory playerModifiers enemyModifiers t)
  nodup := by
    rw [List.map_map]
    have h : (Prod.fst ∘ fun t : Territory =>
        (t.id, createTerritory playerModifiers enemyModifiers t)) = Territory.id := rfl
    rw [h]
    exact (getBattlefield battlefieldId).nodup_ids

/-! ### Combat -/

def fortressDefenseMultiplier : ℚ := 1.25

def barracksProductionMultiplier : ℚ := 1.25

def stableArmySpeedMultiplier : ℚ := 1.25

def getTerritoryDefenseMultiplier : TerritoryType → ℚ
  | .fortress => fortressDefenseMultiplier
  | _ => 1

def getTerritoryDefenseStrength (territory : Territory) (bonus : ℚ) : ℤ :=
  ⌈(territory.units : ℚ) * (getTerritoryDefenseMultiplier territory.type * bonus)⌉

def getRemainingDefenders (type : TerritoryType) (effectiveUnits : ℤ) (bonus : ℚ) : ℤ :=
  ⌈(effectiveUnits : ℚ) / (getTerritoryDefenseMultiplier type * bonus)⌉

def getTerritoryProductionMultiplier : TerritoryType → ℚ
  | .barracks => barracksProductionMultiplier
  | _ => 1

def getTerritoryArmySpeedMultiplier : TerritoryType → ℚ
  | .stable => stableArmySpeedMultiplier
  | _ => 1

structure CombatResult where
  routeInterrupted : Bool
  targetId : String
  attackerOwner : Team
  previousOwner : Team
  newOwner : Team
  previousUnits : ℤ
  incomingUnits : ℤ
  remainingUnits : ℤ
  captured : Bool
  reinforced : Bool
  deriving DecidableEq, Repr

def resolveArrival (target : Territory) (incomingUnits : ℤ) (attackerOwner : Team)
    (defenseBonus : ℚ) : CombatResult :=
  let result : CombatResult :=
    { routeInterrupted := false
      targetId := target.id
      attackerOwner := attackerOwner
      previousOwner := target.owner
      newOwner := target.owner
      previousUnits := target.units
      incomingUnits := incomingUnits
      remainingUnits := target.units
      captured := false
      reinforced := false }
  if incomingUnits ≤ 0 then { result with incomingUnits := 0 }
  else if attackerOwner = target.owner then
    { result with remainingUnits := target.units + incomingUnits, reinforced := true }
  else
    let defenseStrength := getTerritoryDefenseStrength target defenseBonus
    if incomingUnits > defenseStrength then
      { result with
        newOwner := attackerOwner
        remainingUnits := incomingUnits - defenseStrength
        captured := true }
    else if incomingUnits < defenseStrength then
      { result with
        remainingUnits :=
          getRemainingDefenders target.type (defenseStrength - incomingUnits) defenseBonus }
    else { result with remainingUnits := 0 }

/-! ### Roads -/

def tacticalNeighbors (state : GameState) (id : String) : List String :=
  sortBy utf16Lt <| (getBattlefield state.battlefieldId).roads.flatMap fun r =>
    if r.1 = id then [r.2] else if r.2 = id then [r.1] else []

structure PathEntry where
  id : String
  cost : ℤ
  path : List String
  deriving DecidableEq, Repr

def comparePath (a b : List String) : ℤ :=
  let x := String.intercalate "|" a
  let y := String.intercalate "|" b
  if utf16Lt x y then -1 else if utf16Lt y x then 1 else 0

def comparePathEntry (a b : PathEntry) : ℤ :=
  if a.cost - b.cost ≠ 0 then a.cost - b.cost else comparePath a.path b.path

variable [MathLib]

def legCost (source target : Territory) : ℤ :=
  roundHalfUp (hypot (target.x - source.x) (target.y - source.y) * 1000)

def friendlyPushes (state : GameState) (owner : Team) (best : Record String PathEntry)
    (next : PathEntry) : List PathEntry :=
  (tacticalNeighbors state next.id).filterMap fun id =>
    match state.territories.get? id with
    | none => none
    | some t =>
      if t.owner ≠ owner ∨ (best.get? id).isSome then none
      else some ⟨id, next.cost + legCost (state.territory next.id) t, next.path ++ [id]⟩

/-- The queue loop of `friendlyPaths`, at most `fuel` rounds of it. -/
def friendlyPathsLoop (state : GameState) (owner : Team) :
    ℕ → List PathEntry → Record String PathEntry → Record String PathEntry
  | 0, _, best => best
  | fuel + 1, queue, best =>
    match sortBy (fun a b => comparePathEntry a b < 0) queue with
    | [] => best
    | next :: queue =>
      if (best.get? next.id).isSome then friendlyPathsLoop state owner fuel queue best
      else
        let best := best.set next.id next
        friendlyPathsLoop state owner fuel (queue ++ friendlyPushes state owner best next) best

def friendlyPaths (state : GameState) (sourceId : String) (owner : Team) :
    Record String PathEntry :=
  friendlyPathsLoop state owner (1 + 2 * (getBattlefield state.battlefieldId).roads.length)
    [⟨sourceId, 0, [sourceId]⟩] .empty

def chooseRoute (chosen : Option PathEntry) (candidate : PathEntry) : Option PathEntry :=
  match chosen with
  | none => some candidate
  | some c =>
    if candidate.cost < c.cost ∨
        (candidate.cost = c.cost ∧ comparePath candidate.path c.path < 0) then some candidate
    else some c

/-- One round of the loop over the towers next to the target of an attack. -/
def considerEntry (state : GameState) (reachable : Record String PathEntry) (target : Territory)
    (targetId : String) (chosen : Option PathEntry) (entryId : String) : Option PathEntry :=
  match reachable.get? entryId with
  | none => chosen
  | some entry => chooseRoute chosen
      ⟨targetId, entry.cost + legCost (state.territory entryId) target, entry.path ++ [targetId]⟩

/-- The route of a dispatch, or `null`.  The ids are those of two territory
objects, so a missing key and an inherited name read alike. -/
def findDispatchRoute (state : GameState) (sourceId targetId : String) (owner : Team) :
    Option (List String) :=
  match state.territories.get? sourceId, state.territories.get? targetId with
  | some source, some target =>
    if sourceId = targetId ∨ source.owner ≠ owner then none
    else if !usesTacticalRules state.gameplayRulesVersion then some [sourceId, targetId]
    else if target.owner ≠ owner then
      if (tacticalNeighbors state sourceId).contains targetId then some [sourceId, targetId]
      else
        let reachable := friendlyPaths state sourceId owner
        let chosen := (tacticalNeighbors state targetId).foldl
          (considerEntry state reachable target targetId) none
        chosen.map PathEntry.path
    else ((friendlyPaths state sourceId owner).get? targetId).map PathEntry.path
  | _, _ => none

def setArmyLeg (army : MarchingArmy) (source target : Territory) (leg : ℕ) : MarchingArmy :=
  let distance := hypot (target.x - source.x) (target.y - source.y)
  -- An absent multiplier counts as one.
  let multiplier := if army.routeSpeedMultiplier = 0 then 1 else army.routeSpeedMultiplier
  { army with
    routeLeg := leg
    targetId := target.id
    startX := source.x
    startY := source.y
    targetX := target.x
    targetY := target.y
    distance := distance
    progress := 0
    speed := 1 / max tacticalMinLegSeconds (distance / (140 * multiplier)) }

/-- The legs an army walks in `remaining` seconds.  `rest` is the part of its
route behind the waypoint it is heading for, `routeIds.slice(routeLeg + 2)`. -/
def advanceLegs (territories : Record String Territory) :
    List String → MarchingArmy → ℚ → MarchingArmy × Bool
  | rest, moving, remaining =>
    let progress := moving.progress + moving.speed * remaining
    if progress < 1 then ({ moving with progress := progress }, false)
    else
      match rest, territories.get? moving.targetId with
      | nextId :: rest, some waypoint =>
        if waypoint.owner ≠ moving.owner then ({ moving with progress := 1 }, true)
        else advanceLegs territories rest
          (setArmyLeg moving waypoint (territories.getD nextId Territory.zero)
            (moving.routeLeg + 1))
          ((progress - 1) / moving.speed)
      | _, _ => ({ moving with progress := 1 }, true)

def advanceRoutedArmy (army : MarchingArmy) (territories : Record String Territory) (delta : ℚ) :
    MarchingArmy × Bool :=
  advanceLegs territories (army.routeIds.drop (army.routeLeg + 2)) army delta

def armyDestination (army : MarchingArmy) (state : GameState) : String :=
  match (army.routeIds.drop (army.routeLeg + 1)).find? fun id =>
      (state.territories.get? id).map Territory.owner ≠ some army.owner with
  | some id => id
  | none => army.routeIds.getLastD army.targetId

/-- The time for the legs behind the current one: `legs` are the remaining
waypoints and `i` is the leg that starts at the first of them. -/
def remainingLegSeconds (army : MarchingArmy) (state : GameState) (destination : String) :
    ℕ → List String → ℚ
  | i, id :: next :: legs =>
    if id = destination then 0
    else 1 / (setArmyLeg army (state.territory id) (state.territory next) i).speed
      + remainingLegSeconds army state destination (i + 1) (next :: legs)
  | _, _ => 0

def armyArrivalSeconds (army : MarchingArmy) (state : GameState) : ℚ :=
  (1 - army.progress) / army.speed +
    remainingLegSeconds army state (armyDestination army state) (army.routeLeg + 1)
      (army.routeIds.drop (army.routeLeg + 1))

end CrownClash.Ts
