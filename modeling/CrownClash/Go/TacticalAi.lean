import CrownClash.Go.Simulation

/-!
# Server: the tactical policy

The second half of `tactical.go`: the armies on the way to a tower, the forecast
of what they leave of it, the sources that can reach it, and the three rules of
the policy in their order: rescue a threatened tower, take a tower that can be
taken, move up supply from the rear.

The server sorts with `sort.Slice`, which is not stable; every comparison it
uses here ends in an index or an id, so the order is determined.
-/

namespace CrownClash.Go

open Lib

structure TacticalMove where
  fromId : String
  toId : String
  deriving DecidableEq, Repr

structure TacticalIncoming where
  army : MarchingArmy
  index : ℕ
  eta : ℚ
  deriving DecidableEq, Repr

structure TacticalCandidate where
  source : Territory
  army : MarchingArmy
  eta : ℚ
  deriving DecidableEq, Repr

/-- The ids of the map, sorted. -/
def sortedIds (state : GameState) : List String := sortStrings state.territories.keys

variable [MathLib]

/-- The armies heading for `id`, soonest first. -/
def tacticalIncomingAt (state : GameState) (id : String) : List TacticalIncoming :=
  sortBy (fun a b => a.eta < b.eta || (a.eta == b.eta && a.index < b.index)) <|
    (state.armies.zipIdx.filter fun e => armyDestination e.1 state = id).map fun e =>
      ⟨e.1, e.2, armyArrivalSeconds e.1 state⟩

/-- The armies of the other sides heading for `id`. -/
def hostileAt (state : GameState) (id : String) (team : Team) : List TacticalIncoming :=
  (tacticalIncomingAt state id).filter fun a => a.army.owner ≠ team

def tacticalForecastWithDefense (state : GameState) (t : Territory) (seconds : ℚ) (units : ℤ)
    (defenseBonus : ℚ) : Territory :=
  (tacticalIncomingAt state t.id).foldl (fun t a =>
    if a.eta ≤ seconds + 1 / 10 ^ 9 then
      let r := resolveArrivalWithBonus t a.army.units a.army.owner defenseBonus
      { t with owner := r.newOwner, units := r.remaining }
    else t) { t with units := units }

def tacticalForecast (state : GameState) (t : Territory) (seconds : ℚ) (units : ℤ) : Territory :=
  tacticalForecastWithDefense state t seconds units 1

/-- The army a source would send, on the first leg of its route. -/
def candidateArmy (state : GameState) (s : Territory) (route : List String) (team : Team)
    (units : ℤ) (multiplier : ℚ) : MarchingArmy :=
  setArmyLeg
    { routeIds := route
      routeLeg := 0
      routeSpeedMultiplier := multiplier * territoryArmySpeedMultiplier s.type
      id := "candidate"
      sourceId := s.id
      targetId := ""
      owner := team
      units := units
      startX := 0
      startY := 0
      targetX := 0
      targetY := 0
      progress := 0
      speed := 0
      distance := 0 }
    s (state.territory (route.getD 1 "")) 0

/-- The rest of the garrison still holds the source against everything that is
already marching on it. -/
def candidateSafe (state : GameState) (s : Territory) (team : Team) (units : ℤ) : Bool :=
  match (hostileAt state s.id team).getLast? with
  | none => true
  | some last => (tacticalForecast state s last.eta (s.units - units)).owner = team

/-- A source that may send half its garrison. -/
def tacticalCandidate (state : GameState) (target : Territory) (team : Team) (multiplier : ℚ)
    (id : String) : Option TacticalCandidate :=
  let s := state.territory id
  if s.owner ≠ team ∨ s.units < 4 ∨ s.id = target.id then none
  else
    match findDispatchRoute state s.id target.id team with
    | none => none
    | some route =>
      let units := calculateDispatchUnits s.units
      if candidateSafe state s team units then
        let a := candidateArmy state s route team units multiplier
        some ⟨s, a, armyArrivalSeconds a state⟩
      else none

def tacticalCandidates (state : GameState) (target : Territory) (team : Team) (multiplier : ℚ) :
    List TacticalCandidate :=
  sortBy (fun a b => a.eta < b.eta || (a.eta == b.eta && a.source.id < b.source.id)) <|
    (sortedIds state).filterMap (tacticalCandidate state target team multiplier)

/-- **What a candidate is.**  A tower of the side with four units at least and a
route to the target, with the army it would send and the time that one needs. -/
theorem tacticalCandidate_some {state : GameState} {target : Territory} {team : Team}
    {multiplier : ℚ} {id : String} {c : TacticalCandidate}
    (h : tacticalCandidate state target team multiplier id = some c) :
    c.source = state.territory id ∧ c.source.owner = team ∧ 4 ≤ c.source.units ∧
      c.source.id ≠ target.id ∧
      ∃ route, findDispatchRoute state c.source.id target.id team = some route ∧
        c.army = candidateArmy state c.source route team (calculateDispatchUnits c.source.units)
          multiplier ∧
        c.eta = armyArrivalSeconds c.army state := by
  unfold tacticalCandidate at h
  dsimp only at h
  split at h
  · cases h
  · next hc =>
    rw [not_or, not_or, not_not, not_lt] at hc
    split at h
    · cases h
    · next route hroute =>
      split at h
      · obtain rfl := Option.some.inj h
        exact ⟨rfl, hc.1, hc.2.1, hc.2.2, route, hroute, rfl, rfl⟩
      · cases h

/-! ### The three rules -/

/-- The candidates taken one after the other until the tower holds. -/
def rescueLoop (state : GameState) (t : Territory) (id : String) (team : Team) (horizon : ℚ) :
    List TacticalCandidate → ℤ → List TacticalMove → Option (List TacticalMove)
  | [], _, _ => none
  | c :: cs, units, moves =>
    let units := units + c.army.units
    let moves := moves ++ [⟨c.source.id, id⟩]
    if (tacticalForecast state t horizon units).owner = team then some moves
    else rescueLoop state t id team horizon cs units moves

/-- Rescue one threatened tower, if it can be rescued. -/
def rescueMoves (state : GameState) (team : Team) (multiplier : ℚ) (id : String) :
    Option (List TacticalMove) :=
  let t := state.territory id
  if t.owner ≠ team then none
  else
    let hostile := hostileAt state id team
    match hostile.head?, hostile.getLast? with
    | some first, some last =>
      if (tacticalForecast state t last.eta t.units).owner = team then none
      else
        let candidates := (tacticalCandidates state t team multiplier).filter fun c =>
          c.eta < first.eta - 1 / 10 ^ 9
        rescueLoop state t id team last.eta candidates t.units []
    | _, _ => none

/-- The value of taking a tower that is left with `projected`. -/
def captureScore (t projected : Territory) (eta : ℚ) : ℤ :=
  let role := match t.type with
    | .barracks => 18
    | .stable => 14
    | .fortress => 10
  let base := if t.owner = .neutral then 500 else 1000
  base + role * 10 + min projected.units 50 - roundHalfAway (eta * 10)

/-- The candidates attack one after the other until the tower is taken. -/
def captureLoop (t : Territory) (id : String) (team : Team) :
    List TacticalCandidate → Territory → List TacticalMove → Option (ℤ × List TacticalMove)
  | [], _, _ => none
  | c :: cs, projected, moves =>
    let r := resolveArrival projected c.army.units team
    let projected := { projected with owner := r.newOwner, units := r.remaining }
    let moves := moves ++ [⟨c.source.id, id⟩]
    if projected.owner = team then some (captureScore t projected c.eta, moves)
    else captureLoop t id team cs projected moves

/-- The attack on one tower with its score, if it takes the tower. -/
def captureMoves (state : GameState) (team : Team) (multiplier : ℚ) (id : String) :
    Option (ℤ × List TacticalMove) :=
  let t := state.territory id
  if t.owner = team then none
  else
    let options := tacticalCandidates state t team multiplier
    match options.getLast? with
    | none => none
    | some last =>
      let projected := tacticalForecast state t last.eta t.units
      if projected.owner = team then none
      else
        let growth := if t.owner ≠ .neutral then
          ⌈last.eta * t.productionRate * territoryProductionMultiplier t.type⌉ else 0
        captureLoop t id team options { projected with units := projected.units + growth } []

/-- Keep the first attack with the highest score. -/
def keepBest (best : Option (ℤ × List TacticalMove)) (attack : Option (ℤ × List TacticalMove)) :
    Option (ℤ × List TacticalMove) :=
  match attack, best with
  | none, _ => best
  | some a, none => some a
  | some a, some b => if a.1 > b.1 then some a else some b

omit [MathLib] in
def frontier (state : GameState) (team : Team) (t : Territory) : Bool :=
  (tacticalNeighbors state t.id).any fun id => (state.territory id).owner ≠ team

/-- The strongest neighbour of the other sides. -/
def strongestNeighbor (state : GameState) (team : Team) (t : Territory) : ℤ :=
  (tacticalNeighbors state t.id).foldl (fun strongest id =>
    let n := state.territory id
    if n.owner ≠ team then max strongest (territoryDefenseStrength n) else strongest) 0

/-- Move up supply to a frontier tower that cannot attack by itself. -/
def supplyMove (state : GameState) (team : Team) (multiplier : ℚ) (id : String) :
    Option (List TacticalMove) :=
  let t := state.territory id
  if t.owner ≠ team ∨ frontier state team t = false then none
  else
    let committed := (((tacticalIncomingAt state id).filter fun a => a.army.owner = team).map
      fun a => a.army.units).sum
    if calculateDispatchUnits (t.units + committed) > strongestNeighbor state team t then none
    else
      ((tacticalCandidates state t team multiplier).find? fun c =>
        !frontier state team c.source).map fun c => [⟨c.source.id, id⟩]

def evaluateTacticalMoves (state : GameState) (team : Team) (multiplier : ℚ) :
    List TacticalMove :=
  if state.status ≠ .playing then []
  else
    let ids := sortedIds state
    match ids.findSome? (rescueMoves state team multiplier) with
    | some moves => moves
    | none =>
      let best := ids.foldl (fun best id =>
        keepBest best (captureMoves state team multiplier id)) none
      match best with
      | some (_, m :: ms) => m :: ms
      | _ => (ids.findSome? (supplyMove state team multiplier)).getD []

end CrownClash.Go
