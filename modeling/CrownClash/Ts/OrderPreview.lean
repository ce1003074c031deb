import CrownClash.Ts.Routes
import CrownClash.Ts.Simulation

/-!
# Client: an order and its preview

`dispatchMultipleArmies` of `dispatch.ts` sends an army from each of the selected towers,
`previewOrder` of `order-preview.ts` says beforehand how the target will end.  The preview
takes the armies in the order in which they are predicted to arrive.

Both are given on any roads, as `Ts/Routes.lean` has the search; on the roads of the map
they are what a battle uses (`dispatchArmy_on`).
-/

namespace CrownClash.Ts

open Lib

variable [MathLib]

/-! ### One army -/

/-- `dispatchArmy` of a battle, with the roads as an argument. -/
def dispatchArmyOn (roads : List (String × String)) (source target : Territory)
    (expectedOwner : Team) (dispatchRatio : ℚ) (armyId : String) (travelSpeedMultiplier : ℚ)
    (state : GameState) : Except String Dispatched :=
  if source.id = target.id then .error "Cannot dispatch to the same territory"
  else if source.owner ≠ expectedOwner then
    .error "Source territory is not owned by the dispatcher"
  else
    match findDispatchRouteOn roads state source.id target.id expectedOwner with
    | none =>
      .error (if target.owner = expectedOwner then "No friendly route"
        else "Attack an adjacent tower")
    | some route =>
      let unitsToSend := calculateDispatchUnits source.units dispatchRatio
      if unitsToSend ≤ 0 then .error "Not enough units in source territory"
      else
        let distance := hypot (target.x - source.x) (target.y - source.y)
        let safeSpeedMultiplier := if travelSpeedMultiplier > 0 then travelSpeedMultiplier else 1
        let sourceSpeedMultiplier := getTerritoryArmySpeedMultiplier source.type
        let durationSeconds := max 1
          (distance / (baseArmyTravelSpeed * safeSpeedMultiplier * sourceSpeedMultiplier))
        let army : MarchingArmy :=
          { routeIds := []
            routeLeg := 0
            routeSpeedMultiplier := 0
            id := armyId
            sourceId := source.id
            targetId := target.id
            owner := expectedOwner
            units := unitsToSend
            startX := source.x
            startY := source.y
            targetX := target.x
            targetY := target.y
            progress := 0
            speed := 1 / durationSeconds
            distance := distance }
        .ok
          { sourceTerritory := { source with units := source.units - unitsToSend }
            army :=
              if usesTacticalRules state.gameplayRulesVersion then
                setArmyLeg
                  { army with
                    routeIds := route
                    routeSpeedMultiplier := safeSpeedMultiplier * sourceSpeedMultiplier }
                  source (state.territory (route.getD 1 "")) 0
              else army }

/-- **A dispatch of a match is that on the roads of its map.** -/
theorem dispatchArmy_on (source target : Territory) (expectedOwner : Team) (dispatchRatio : ℚ)
    (armyId : String) (travelSpeedMultiplier : ℚ) (state : GameState) :
    dispatchArmy source target expectedOwner dispatchRatio armyId travelSpeedMultiplier (some state)
      = dispatchArmyOn (getBattlefield state.battlefieldId).roads source target expectedOwner
          dispatchRatio armyId travelSpeedMultiplier state := by
  unfold dispatchArmy dispatchArmyOn
  rw [← findDispatchRoute_on] <;> rfl

/-! ### Several armies -/

structure MultiDispatchResult where
  successes : List Dispatched
  armies : List MarchingArmy
  updatedSources : Record String Territory
  totalUnitsDispatched : ℤ

/-- One round of the loop.  `armyIdGenerator` gives the id of the next army by the number of
those that were sent. -/
def dispatchNextArmy (roads : List (String × String)) (target : Territory) (expectedOwner : Team)
    (dispatchRatio travelSpeedMultiplier : ℚ) (armyIdGenerator : ℕ → String) (state : GameState)
    (result : MultiDispatchResult) (source : Territory) : MultiDispatchResult :=
  if source.id = target.id then result
  else
    match dispatchArmyOn roads source target expectedOwner dispatchRatio
      (armyIdGenerator result.armies.length) travelSpeedMultiplier state with
    | .error _ => result
    | .ok res =>
      { successes := result.successes ++ [res]
        armies := result.armies ++ [res.army]
        updatedSources := result.updatedSources.set source.id res.sourceTerritory
        totalUnitsDispatched := result.totalUnitsDispatched + res.army.units }

def dispatchMultipleArmiesOn (roads : List (String × String)) (sources : List Territory)
    (target : Territory) (expectedOwner : Team) (dispatchRatio travelSpeedMultiplier : ℚ)
    (armyIdGenerator : ℕ → String) (state : GameState) : MultiDispatchResult :=
  sources.foldl (dispatchNextArmy roads target expectedOwner dispatchRatio travelSpeedMultiplier
    armyIdGenerator state) ⟨[], [], .empty, 0⟩

omit [MathLib] in
/-- The state once the armies of an order are on the road. -/
def withMultiDispatch (state : GameState) (result : MultiDispatchResult) (owner : Team) : GameState :=
  { state with
    territories := result.updatedSources.entries.foldl (fun r e => r.set e.1 e.2) state.territories
    armies := state.armies ++ result.armies
    stats := match owner with
      | .player =>
        { state.stats with
          playerUnitsDispatched := state.stats.playerUnitsDispatched + result.totalUnitsDispatched }
      | .enemy =>
        { state.stats with
          enemyUnitsDispatched := state.stats.enemyUnitsDispatched + result.totalUnitsDispatched }
      | .neutral => state.stats }

/-! ### The preview -/

structure PreviewedOrder where
  army : MarchingArmy
  source : Territory
  deriving DecidableEq

structure OrderPreview where
  orders : List PreviewedOrder
  projected : Option Territory
  sent : ℤ
  left : ℤ
  reason : String
  deriving DecidableEq

/-- The order of a source, if it gives one. -/
def previewedOrders (roads : List (String × String)) (state : GameState)
    (target : Option Territory) (owner : Team) (multiplier unitMultiplier : ℚ) (id : String) :
    List PreviewedOrder :=
  match state.territories.get? id, target with
  | some source, some target =>
    match dispatchArmyOn roads source target owner (1 / 2) ("preview_" ++ id) multiplier state with
    | .ok d =>
      [⟨{ d.army with units := ⌊(d.army.units : ℚ) * unitMultiplier⌋ }, d.sourceTerritory⟩]
    | .error _ => []
  | _, _ => []

/-- An order with its place in the list and the time of its arrival. -/
structure PreviewedArrival where
  order : PreviewedOrder
  index : ℕ
  eta : ℚ

/-- `a.eta - b.eta || a.index - b.index` -/
def arrivesBefore (a b : PreviewedArrival) : Bool :=
  if a.eta ≠ b.eta then decide (a.eta < b.eta) else decide (a.index < b.index)

omit [MathLib] in
/-- The target after one more of the arrivals. -/
def projectArrival (owner : Team) (projected : Territory) (arrival : PreviewedArrival) :
    Territory :=
  let r := resolveArrival projected arrival.order.army.units owner 1
  { projected with owner := r.newOwner, units := r.remainingUnits }

def previewOrderOn (roads : List (String × String)) (state : GameState) (sources : List String)
    (targetId : String) (owner : Team) (multiplier unitMultiplier : ℚ) : OrderPreview :=
  let target := state.territories.get? targetId
  let orders := sources.flatMap
    (previewedOrders roads state target owner multiplier unitMultiplier)
  let arrivals := sortBy arrivesBefore <| orders.zipIdx.map fun p =>
    ⟨p.1, p.2, armyArrivalSeconds p.1.army state⟩
  { orders := orders
    projected := target.map fun target => arrivals.foldl (projectArrival owner) target
    sent := (orders.map fun d => d.army.units).sum
    left := (orders.map fun d => d.source.units).sum
    reason :=
      if orders ≠ [] then ""
      else if target.map Territory.owner = some owner then "No friendly route"
      else "Attack an adjacent tower" }

/-! ### The run -/

/-- `n` ticks of `delta` seconds, without an order. -/
def runTicks (delta : ℚ) : ℕ → GameState → Accumulators → GameState × Accumulators
  | 0, state, accumulators => (state, accumulators)
  | n + 1, state, accumulators =>
    let r := stepSimulation state accumulators delta
    runTicks delta n r.state r.accumulators

end CrownClash.Ts
