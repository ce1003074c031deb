import CrownClash.Battlefields
import CrownClash.Lib.Hypot
import CrownClash.Lib.Rounding
import CrownClash.Lib.Sorting
import Mathlib.Algebra.Order.Field.Rat

/-!
# Server: roads and routed armies

The first half of `tactical.go`: which rules versions know what, the neighbours
of a tower, the cheapest friendly paths, the route of a dispatch and the way an
army walks it.

`friendlyPaths` is a loop over a queue that empties because every road end is
pushed at most once.  The model gives the loop that many rounds; `Go/Routes.lean`
shows that it never runs out of them.
-/

namespace CrownClash.Go

open Lib

def baseArmyTravelSpeed : ℚ := 140

def hasCaptureRecovery (version : ℤ) : Bool := version ≥ 2 && version ≤ 4

def supportedGameplayRules (version : ℤ) : Bool := version == 1 || hasCaptureRecovery version

def usesTacticalRules (version : ℤ) : Bool := version == 3 || version == 4

def hasCommanderAbilities (version : ℤ) : Bool := version == 4

/-- The roads of a map; an id that names no map has none. -/
def battlefieldRoads (battlefieldId : String) : List (String × String) :=
  match battlefields.find? fun b => b.id = battlefieldId with
  | none => []
  | some b => b.roads

def sortStrings (ids : List String) : List String := sortBy (fun a b => a < b) ids

def tacticalNeighbors (state : GameState) (id : String) : List String :=
  sortStrings <| (battlefieldRoads state.battlefieldId).filterMap fun r =>
    if r.1 = id then some r.2 else if r.2 = id then some r.1 else none

structure RouteEntry where
  cost : ℤ
  path : List String
  deriving DecidableEq, Repr

structure QueueEntry where
  id : String
  cost : ℤ
  path : List String
  deriving DecidableEq, Repr

def pathKey (p : List String) : String := String.intercalate "|" p

variable [MathLib]

def legCost (source target : Territory) : ℤ :=
  roundHalfAway (hypot (target.x - source.x) (target.y - source.y) * 1000)

def queueBefore (a b : QueueEntry) : Bool :=
  if a.cost ≠ b.cost then a.cost < b.cost else pathKey a.path < pathKey b.path

/-- The entries pushed when `next` is settled: its friendly neighbours that are
not settled yet. -/
def friendlyPushes (state : GameState) (owner : Team) (best : Record String RouteEntry)
    (next : QueueEntry) : List QueueEntry :=
  (tacticalNeighbors state next.id).filterMap fun id =>
    match state.territories.get? id with
    | none => none
    | some t =>
      if t.owner ≠ owner ∨ (best.get? id).isSome then none
      else some ⟨id, next.cost + legCost (state.territory next.id) t, next.path ++ [id]⟩

/-- The queue loop of `friendlyPaths`, at most `fuel` rounds of it. -/
def friendlyPathsLoop (state : GameState) (owner : Team) :
    ℕ → List QueueEntry → Record String RouteEntry → Record String RouteEntry
  | 0, _, best => best
  | fuel + 1, queue, best =>
    match sortBy queueBefore queue with
    | [] => best
    | next :: queue =>
      if (best.get? next.id).isSome then friendlyPathsLoop state owner fuel queue best
      else
        let best := best.set next.id ⟨next.cost, next.path⟩
        friendlyPathsLoop state owner fuel (queue ++ friendlyPushes state owner best next) best

/-- One round for the source and one for each end of each road. -/
def friendlyPathsFuel (state : GameState) : ℕ :=
  1 + 2 * (battlefieldRoads state.battlefieldId).length

def friendlyPaths (state : GameState) (sourceId : String) (owner : Team) :
    Record String RouteEntry :=
  friendlyPathsLoop state owner (friendlyPathsFuel state) [⟨sourceId, 0, [sourceId]⟩] .empty

/-- Keep the cheaper candidate, and the one with the smaller path text on a tie. -/
def chooseRoute (chosen : Option RouteEntry) (candidate : RouteEntry) : Option RouteEntry :=
  match chosen with
  | none => some candidate
  | some c =>
    if candidate.cost < c.cost ∨
        (candidate.cost = c.cost ∧ pathKey candidate.path < pathKey c.path) then some candidate
    else some c

/-- One round of the loop over the towers next to the target of an attack. -/
def considerEntry (state : GameState) (reachable : Record String RouteEntry) (target : Territory)
    (targetId : String) (chosen : Option RouteEntry) (entryId : String) : Option RouteEntry :=
  match reachable.get? entryId with
  | none => chosen
  | some entry => chooseRoute chosen
      ⟨entry.cost + legCost (state.territory entryId) target, entry.path ++ [targetId]⟩

def findDispatchRoute (state : GameState) (sourceId targetId : String) (owner : Team) :
    Option (List String) :=
  match state.territories.get? sourceId, state.territories.get? targetId with
  | some source, some target =>
    if sourceId = targetId ∨ source.owner ≠ owner then none
    else if usesTacticalRules state.gameplayRulesVersion = false then some [sourceId, targetId]
    else if target.owner ≠ owner then
      if targetId ∈ tacticalNeighbors state sourceId then some [sourceId, targetId]
      else
        let reachable := friendlyPaths state sourceId owner
        let chosen := (tacticalNeighbors state targetId).foldl
          (considerEntry state reachable target targetId) none
        chosen.map RouteEntry.path
    else ((friendlyPaths state sourceId owner).get? targetId).map RouteEntry.path
  | _, _ => none

def setArmyLeg (army : MarchingArmy) (source target : Territory) (leg : ℕ) : MarchingArmy :=
  let distance := hypot (target.x - source.x) (target.y - source.y)
  { army with
    routeLeg := leg
    targetId := target.id
    startX := source.x
    startY := source.y
    targetX := target.x
    targetY := target.y
    distance := distance
    progress := 0
    speed := 1 / max 2 (distance / (baseArmyTravelSpeed * army.routeSpeedMultiplier)) }

/-- The legs an army walks in `delta` seconds.  `rest` is the part of its route
behind the waypoint it is heading for, `routeIds.drop (routeLeg + 2)`. -/
def advanceLegs (territories : Record String Territory) :
    List String → MarchingArmy → ℚ → MarchingArmy × Bool
  | rest, army, delta =>
    let progress := army.progress + army.speed * delta
    if progress < 1 then ({ army with progress := progress }, false)
    else
      match rest, territories.get? army.targetId with
      | nextId :: rest, some waypoint =>
        if waypoint.owner ≠ army.owner then ({ army with progress := 1 }, true)
        else advanceLegs territories rest
          (setArmyLeg army waypoint (territories.getD nextId Territory.zero) (army.routeLeg + 1))
          ((progress - 1) / army.speed)
      | _, _ => ({ army with progress := 1 }, true)

def advanceRoutedArmy (army : MarchingArmy) (territories : Record String Territory) (delta : ℚ) :
    MarchingArmy × Bool :=
  advanceLegs territories (army.routeIds.drop (army.routeLeg + 2)) army delta

def armyDestination (a : MarchingArmy) (state : GameState) : String :=
  match (a.routeIds.drop (a.routeLeg + 1)).find? fun id => (state.territory id).owner ≠ a.owner with
  | some id => id
  | none => a.routeIds.getLastD a.targetId

/-- The time for the legs behind the current one.  `legs` are the remaining
waypoints, `routeIds.drop (routeLeg + 1)`, and `i` is the leg that starts at the
first of them. -/
def remainingLegSeconds (a : MarchingArmy) (state : GameState) (destination : String) :
    ℕ → List String → ℚ
  | i, id :: next :: legs =>
    if id = destination then 0
    else 1 / (setArmyLeg a (state.territory id) (state.territory next) i).speed
      + remainingLegSeconds a state destination (i + 1) (next :: legs)
  | _, _ => 0

def armyArrivalSeconds (a : MarchingArmy) (state : GameState) : ℚ :=
  (1 - a.progress) / a.speed +
    remainingLegSeconds a state (armyDestination a state) (a.routeLeg + 1)
      (a.routeIds.drop (a.routeLeg + 1))

end CrownClash.Go
