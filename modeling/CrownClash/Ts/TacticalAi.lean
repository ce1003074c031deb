import CrownClash.Ts.Simulation

/-!
# Client: the tactical policy

`tactical-ai.ts`.  The client walks the towers themselves where the server walks
their ids, numbers the armies after filtering where the server numbers them
before, and tries out a source by dispatching from it.
-/

namespace CrownClash.Ts

open Lib

structure AiMove where
  fromId : String
  toId : String
  deriving DecidableEq, Repr

structure Incoming where
  army : MarchingArmy
  index : ℕ
  eta : ℚ
  deriving DecidableEq, Repr

structure Candidate where
  source : Territory
  army : MarchingArmy
  eta : ℚ
  deriving DecidableEq, Repr

/-- The towers of the map, sorted by id. -/
def sortedTowers (state : GameState) : List Territory :=
  sortBy (fun a b => a.id < b.id) state.territories.values

variable [MathLib]

/-- Armies heading for `id`, soonest first (ties keep army order). -/
def tacticalIncoming (state : GameState) (id : String) : List Incoming :=
  sortBy (fun a b => a.eta < b.eta || (a.eta == b.eta && a.index < b.index)) <|
    (state.armies.filter fun a => armyDestination a state = id).zipIdx.map fun e =>
      ⟨e.1, e.2, armyArrivalSeconds e.1 state⟩

/-- The armies of the other sides heading for `id`. -/
def hostileIncoming (state : GameState) (id : String) (team : Team) : List Incoming :=
  (tacticalIncoming state id).filter fun a => a.army.owner ≠ team

/-- The tower as it will stand once every army due within `seconds` has resolved. -/
def tacticalForecast (state : GameState) (t : Territory) (seconds : ℚ) (units : ℤ)
    (defenseMultiplier : ℚ) : Territory :=
  (tacticalIncoming state t.id).foldl (fun projected a =>
    if a.eta ≤ seconds + 1 / 10 ^ 9 then
      let r := resolveArrival projected a.army.units a.army.owner defenseMultiplier
      { projected with owner := r.newOwner, units := r.remainingUnits }
    else projected) { t with units := units }

/-- A source is tried out by dispatching from it. -/
def candidate (state : GameState) (target : Territory) (team : Team) (speedMultiplier : ℚ)
    (source : Territory) : Option Candidate :=
  match dispatchArmy source target team 0.5 "candidate" speedMultiplier (some state) with
  | .error _ => none
  | .ok d =>
    let hostile := hostileIncoming state source.id team
    match hostile.getLast? with
    | some last =>
      if (tacticalForecast state source last.eta d.sourceTerritory.units 1).owner ≠ team then none
      else some ⟨source, d.army, armyArrivalSeconds d.army state⟩
    | none => some ⟨source, d.army, armyArrivalSeconds d.army state⟩

def candidates (state : GameState) (target : Territory) (team : Team) (speedMultiplier : ℚ) :
    List Candidate :=
  sortBy (fun a b => a.eta < b.eta || (a.eta == b.eta && a.source.id < b.source.id)) <|
    ((sortedTowers state).filter fun s =>
      s.owner = team && 4 ≤ s.units && s.id ≠ target.id).filterMap
        (candidate state target team speedMultiplier)

/-! ### The three rules -/

/-- The candidates taken one after the other until the tower holds. -/
def rescueLoop (state : GameState) (target : Territory) (team : Team) (horizon : ℚ) :
    List Candidate → ℤ → List AiMove → Option (List AiMove)
  | [], _, _ => none
  | c :: cs, units, moves =>
    let units := units + c.army.units
    let moves := moves ++ [⟨c.source.id, target.id⟩]
    if (tacticalForecast state target horizon units 1).owner = team then some moves
    else rescueLoop state target team horizon cs units moves

/-- Rescue a threatened friendly tower before the first hostile wave reaches it. -/
def rescueMoves (state : GameState) (team : Team) (speedMultiplier : ℚ) (target : Territory) :
    Option (List AiMove) :=
  let hostile := hostileIncoming state target.id team
  match hostile.head?, hostile.getLast? with
  | some first, some last =>
    let horizon := last.eta
    if (tacticalForecast state target horizon target.units 1).owner = team then none
    else
      let cs := (candidates state target team speedMultiplier).filter fun c =>
        c.eta < first.eta - 1 / 10 ^ 9
      rescueLoop state target team horizon cs target.units []
  | _, _ => none

def captureScore (target remaining : Territory) (eta : ℚ) : ℤ :=
  let role := match target.type with
    | .barracks => 18
    | .stable => 14
    | .fortress => 10
  (if target.owner = .neutral then 500 else 1000) + role * 10 + min remaining.units 50
    - roundHalfUp (eta * 10)

/-- The candidates attack one after the other until the tower is taken. -/
def captureLoop (target : Territory) (team : Team) :
    List Candidate → Territory → List AiMove → Option (ℤ × List AiMove)
  | [], _, _ => none
  | c :: cs, remaining, moves =>
    let result := resolveArrival remaining c.army.units team 1
    let remaining := { remaining with units := result.remainingUnits, owner := result.newOwner }
    let moves := moves ++ [⟨c.source.id, target.id⟩]
    if remaining.owner = team then some (captureScore target remaining c.eta, moves)
    else captureLoop target team cs remaining moves

/-- Coordinate a capturable target, accounting for committed waves. -/
def captureMoves (state : GameState) (team : Team) (speedMultiplier : ℚ) (target : Territory) :
    Option (ℤ × List AiMove) :=
  let options := candidates state target team speedMultiplier
  match options.getLast? with
  | none => none
  | some last =>
    let projected := tacticalForecast state target last.eta target.units 1
    if projected.owner = team then none
    else
      let growth := if target.owner = .neutral then 0 else
        ⌈last.eta * target.productionRate * getTerritoryProductionMultiplier target.type⌉
      captureLoop target team options { projected with units := projected.units + growth } []

/-- Keep the first attack with the highest score. -/
def keepBest (best : Option (ℤ × List AiMove)) (attack : Option (ℤ × List AiMove)) :
    Option (ℤ × List AiMove) :=
  match attack, best with
  | none, _ => best
  | some a, none => some a
  | some a, some b => if a.1 > b.1 then some a else some b

omit [MathLib] in
def frontier (state : GameState) (team : Team) (t : Territory) : Bool :=
  (tacticalNeighbors state t.id).any fun id => (state.territory id).owner ≠ team

/-- `Math.max` of a list, which is only ever taken of a list with an element. -/
def maxOf : List ℤ → ℤ
  | [] => 0
  | [a] => a
  | a :: l => max a (maxOf l)

/-- Rear supply goes to a frontier, never in a friendly reinforcement loop. -/
def supplyMove (state : GameState) (team : Team) (speedMultiplier : ℚ) (target : Territory) :
    Option (List AiMove) :=
  let committed := (((tacticalIncoming state target.id).filter fun a => a.army.owner = team).map
    fun a => a.army.units).sum
  let strongest := maxOf
    (((tacticalNeighbors state target.id).filter fun id => (state.territory id).owner ≠ team).map
      fun id => getTerritoryDefenseStrength (state.territory id) 1)
  if calculateDispatchUnits (target.units + committed) 0.5 > strongest then none
  else
    ((candidates state target team speedMultiplier).find? fun c =>
      !frontier state team c.source).map fun c => [⟨c.source.id, target.id⟩]

def evaluateTacticalMoves (state : GameState) (team : Team) (speedMultiplier : ℚ) :
    List AiMove :=
  if state.status ≠ .playing then []
  else
    let towers := sortedTowers state
    let own := towers.filter fun t => t.owner = team
    match own.findSome? (rescueMoves state team speedMultiplier) with
    | some moves => moves
    | none =>
      let best := (towers.filter fun t => t.owner ≠ team).foldl (fun best target =>
        keepBest best (captureMoves state team speedMultiplier target)) none
      match best with
      | some (_, m :: ms) => m :: ms
      | _ =>
        ((own.filter fun t => frontier state team t).findSome?
          (supplyMove state team speedMultiplier)).getD []

end CrownClash.Ts
