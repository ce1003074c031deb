import CrownClash.Go.BotBattle
import CrownClash.Lanes

/-!
# Server: lane battles

`lanes.go`: opening and cutting lanes, one step of a lane battle, the policy of
the bot and the replay of the player's recorded orders.

A step advances the base simulation first and returns with the lanes untouched
when that ended the battle.  Only then the soldiers march and the lanes emit,
and the battle is judged once more with the soldiers in flight counted.
-/

namespace CrownClash.Go

open Lib

def laneEmitSeconds : ℚ := 0.2

def laneSoldierSpeed : ℚ := 140

def laneEpsilon : ℚ := 1 / 10 ^ 9

def levelRulesVersion : ℤ := 3

def laneRulesVersion : ℤ := levelRulesVersion

def laneRescueMaxHold : ℤ := 8

def levelPlayerModifiers : PlayerUpgradeModifiers := ⟨20, 1, 1⟩

def laneBotTickSeconds : BotDifficulty → ℚ
  | .easy => 8
  | .normal => 6
  | .hard => 4.5

def laneBotStartSeconds : BotDifficulty → ℚ
  | .easy => 10
  | .normal => 8
  | .hard => 2

def laneEnemyModifiers : BotDifficulty → PlayerUpgradeModifiers
  | .easy => ⟨14, 0.6, 1⟩
  | .normal => ⟨18, 0.8, 1⟩
  | .hard => ⟨20, 0.85, 1⟩

/-- The nine levels: every difficulty on every map. -/
def laneLevelDefs : List LaneLevel :=
  [BotDifficulty.easy, .normal, .hard].zipIdx.flatMap fun d =>
    battlefieldIds.zipIdx.map fun m =>
      ⟨d.2 * battlefieldIds.length + m.2 + 1, m.1, d.1, laneEnemyModifiers d.1⟩

/-! ### Lanes -/

def maxLanes (state : GameState) (towerId : String) : ℕ :=
  match state.territories.get? towerId with
  | some t => if t.tier > 0 then t.tier else 1
  | none => 1

def cutLane (lanes : LaneState) (owner : Team) (sourceId targetId : String) : LaneState × Bool :=
  let kept := lanes.lanes.filter fun l => !l.connects owner sourceId targetId
  if kept.length = lanes.lanes.length then (lanes, false) else ({ lanes with lanes := kept }, true)

def countLanes (lanes : List Lane) (owner : Team) (sourceId : String) : ℕ :=
  (lanes.filter fun l => l.owner = owner ∧ l.sourceId = sourceId).length

section Opening

variable [MathLib]

def laneRouteLength (state : GameState) : List String → ℚ
  | a :: b :: route =>
    hypot ((state.territory b).x - (state.territory a).x)
      ((state.territory b).y - (state.territory a).y) + laneRouteLength state (b :: route)
  | _ => 0

def laneRouteSeconds (state : GameState) (route : List String) : ℚ :=
  laneRouteLength state route / laneSoldierSpeed

def openLane (state : GameState) (lanes : LaneState) (owner : Team) (sourceId targetId : String) :
    LaneState :=
  if lanes.lanes.any fun l => l.connects owner sourceId targetId then lanes
  else if countLanes lanes.lanes owner sourceId ≥ maxLanes state sourceId then lanes
  else
    match findDispatchRoute state sourceId targetId owner with
    | none => lanes
    | some route =>
      let lane : Lane := ⟨"lane_" ++ toString lanes.nextLaneId, owner, sourceId, targetId, route, 0⟩
      { lanes with lanes := lanes.lanes ++ [lane], nextLaneId := lanes.nextLaneId + 1 }

end Opening

/-! ### The soldiers in flight -/

/-- The state of the soldier loop. -/
structure LaneMarch where
  territories : Record String Territory
  stats : MatchStats
  flying : List Soldier

/-- The effect of one soldier on the tower it reaches. -/
def meetTower (soldier : Soldier) (target : Territory) : Territory :=
  if target.owner = soldier.owner then
    { target with units := min target.maxUnits (target.units + 1) }
  else if target.units > 0 then { target with units := target.units - 1 }
  else { target with owner := soldier.owner, units := 1 }

def countCapture (stats : MatchStats) (soldier : Soldier) (target : Territory) : MatchStats :=
  if target.owner = soldier.owner ∨ target.units > 0 then stats
  else if soldier.owner = .player then
    { stats with territoriesCapturedByPlayer := stats.territoriesCapturedByPlayer + 1 }
  else { stats with territoriesCapturedByEnemy := stats.territoriesCapturedByEnemy + 1 }

def moveSoldier (delta : ℚ) (m : LaneMarch) (soldier : Soldier) : LaneMarch :=
  let remaining := soldier.remaining - delta
  if remaining > laneEpsilon then
    { m with flying := m.flying ++ [{ soldier with remaining := remaining }] }
  else
    match m.territories.get? soldier.targetId with
    | none => m
    | some target =>
      { m with
        territories := m.territories.set soldier.targetId (meetTower soldier target)
        stats := countCapture m.stats soldier target }

def moveSoldiers (state : GameState) (lanes : LaneState) (delta : ℚ) : LaneMarch :=
  lanes.soldiers.foldl (moveSoldier delta) ⟨state.territories, state.stats, []⟩

/-! ### The lanes emit -/

/-- The state of the loop over the lanes. -/
structure LaneEmit where
  territories : Record String Territory
  stats : MatchStats
  emitted : List Soldier
  nextLanes : List Lane

/-- The inner loop: the seconds to the next soldier, the source and what left it. -/
structure LaneWait where
  wait : ℚ
  source : Territory
  stats : MatchStats
  emitted : List Soldier

/-- One round of the inner loop.  The `break` of the source leaves it with a wait
that ends the loop by itself. -/
def emitOnce (lane : Lane) (total : ℚ) (w : LaneWait) : LaneWait :=
  let w := if w.source.units > 1 then
      { w with
        source := { w.source with units := w.source.units - 1 }
        emitted := w.emitted ++ [⟨lane.owner, lane.targetId, lane.routeIds, total, total⟩]
        stats := addUnitsDispatched w.stats lane.owner 1 }
    else w
  let wait := w.wait + laneEmitSeconds
  { w with wait := if w.source.units ≤ 1 then max wait laneEmitSeconds else wait }

def emitLoop (lane : Lane) (total : ℚ) (w : LaneWait) : LaneWait :=
  whileLoop (fun w => w.wait ≤ laneEpsilon) (emitOnce lane total)
    (⌊(laneEpsilon - w.wait) / laneEmitSeconds⌋ + 1).toNat w

section Step

variable [MathLib]

/-- One round of the loop over the lanes; a lane whose source was lost is dropped. -/
def emitLane (state : GameState) (delta : ℚ) (e : LaneEmit) (lane : Lane) : LaneEmit :=
  let source := e.territories.getD lane.sourceId Territory.zero
  if source.owner ≠ lane.owner then e
  else
    let w := emitLoop lane (laneRouteSeconds state lane.routeIds)
      ⟨lane.nextEmitIn - delta, source, e.stats, e.emitted⟩
    { territories := e.territories.set lane.sourceId w.source
      stats := w.stats
      emitted := w.emitted
      nextLanes := e.nextLanes ++ [{ lane with nextEmitIn := w.wait }] }

def emitLanes (state : GameState) (m : LaneMarch) (lanes : LaneState) (delta : ℚ) : LaneEmit :=
  lanes.lanes.foldl (emitLane state delta) ⟨m.territories, m.stats, [], []⟩

/-! ### The step -/

omit [MathLib] in
def towersOf (territories : Record String Territory) (team : Team) : ℕ :=
  (territories.values.filter fun t => t.owner = team).length

omit [MathLib] in
def inFlight (soldiers : List Soldier) (team : Team) : ℕ :=
  (soldiers.filter fun s => s.owner = team).length

omit [MathLib] in
/-- The verdict of the lane step: a side with no tower and no soldier has lost. -/
def laneStatus (territories : Record String Territory) (soldiers : List Soldier)
    (status : MatchStatus) : MatchStatus :=
  if towersOf territories .enemy = 0 ∧ inFlight soldiers .enemy = 0 then .victory
  else if towersOf territories .player = 0 ∧ inFlight soldiers .player = 0 then .defeat
  else status

/-- What stands between two steps of a lane battle. -/
structure LaneBattle where
  state : GameState
  accumulators : Accumulators
  lanes : LaneState

/-- The second half of a step, from a base state that is still playing. -/
def stepLanes (state : GameState) (accumulators : Accumulators) (lanes : LaneState) (delta : ℚ) :
    LaneBattle :=
  let m := moveSoldiers state lanes delta
  let e := emitLanes state m lanes delta
  let soldiers := m.flying ++ e.emitted
  { state := { state with
      territories := e.territories
      stats := e.stats
      status := laneStatus e.territories soldiers state.status }
    accumulators := accumulators
    lanes := { lanes with lanes := e.nextLanes, soldiers := soldiers } }

def stepLaneSimulation (state : GameState) (accumulators : Accumulators) (lanes : LaneState)
    (delta : ℚ) : LaneBattle :=
  let p := stepSimulation state accumulators delta
  if p.1.status ≠ .playing then ⟨p.1, p.2, lanes⟩ else stepLanes p.1 p.2 lanes delta

end Step

/-! ### The policy -/

def laneRegeneration (t : Territory) : ℚ :=
  if t.owner = .neutral then 0 else t.productionRate * territoryProductionMultiplier t.type

def laneRate : ℚ := 1 / laneEmitSeconds

def laneTowers (state : GameState) : List Territory :=
  (sortStrings state.territories.keys).map state.territory

/-- A lane of the side that is done or cannot win. -/
def cutOrder (state : GameState) (team : Team) (lane : Lane) : Option LaneOrder :=
  if lane.owner ≠ team then none
  else
    match state.territories.get? lane.targetId, state.territories.get? lane.sourceId with
    | some target, some _ =>
      let finished := target.owner = team ∧ target.units ≥ min (target.maxUnits - 1) 14
      let hopeless := target.owner ≠ team ∧ laneRate ≤ laneRegeneration target + 0.1
      if finished ∨ hopeless then some ⟨lane.sourceId, lane.targetId⟩ else none
    | _, _ => none

def isCut (cuts : List LaneOrder) (l : Lane) : Bool :=
  cuts.any fun c => c.source = l.sourceId ∧ c.target = l.targetId

/-- The lanes of the side that are not cut. -/
def activeLanes (lanes : LaneState) (team : Team) (cuts : List LaneOrder) : List Lane :=
  lanes.lanes.filter fun l => l.owner = team ∧ isCut cuts l = false

def attackedBy (lanes : LaneState) (team : Team) (t : Territory) : ℕ :=
  (lanes.lanes.filter fun l => l.owner ≠ team ∧ l.targetId = t.id).length

def targeted (active : List Lane) (t : Territory) : ℕ :=
  (active.filter fun l => l.targetId = t.id).length

def hasOwnTo (own : List Lane) (t : Territory) : Bool := own.any fun l => l.targetId = t.id

section Policy

variable [MathLib]

/-- A friendly tower worth a rescue from `source`. -/
def needsRescue (state : GameState) (lanes : LaneState) (team : Team) (active own : List Lane)
    (source t : Territory) : Bool :=
  !(t.owner ≠ team || t.id = source.id || attackedBy lanes team t ≤ 0 ||
      t.units ≥ laneRescueMaxHold || source.units < 12 || targeted active t ≠ 0) &&
    !(hasOwnTo own t || findDispatchRoute state source.id t.id team = none)

omit [MathLib] in
/-- One round of the search for the weakest tower. -/
def keepWeakest (rescue : Option Territory) (t : Territory) : Option Territory :=
  match rescue with
  | none => some t
  | some r => if t.units < r.units ∨ (t.units = r.units ∧ t.id < r.id) then some t else some r

def isOption (state : GameState) (team : Team) (active own : List Lane) (source t : Territory) :
    Bool :=
  !(t.owner = team || hasOwnTo own t || targeted active t ≥ 2) &&
    !(!(laneRate > laneRegeneration t + 0.2) ||
      findDispatchRoute state source.id t.id team = none)

def optionScore (lanes : LaneState) (team : Team) (source t : Territory) : ℚ :=
  let score : ℚ := t.units
  let score := if t.owner ≠ .neutral then score + 3 else score
  let score := score + hypot (t.x - source.x) (t.y - source.y) / 45
  if attackedBy lanes team t > 0 then score - 2 else score

omit [MathLib] in
def optionBefore (a b : Territory × ℚ) : Bool :=
  if a.2 ≠ b.2 then a.2 < b.2 else a.1.id < b.1.id

/-- The lane one tower opens, if any. -/
def openOrder (state : GameState) (lanes : LaneState) (team : Team) (active : List Lane)
    (source : Territory) : Option LaneOrder :=
  if source.owner ≠ team ∨ source.units < 4 then none
  else
    let own := active.filter fun l => l.sourceId = source.id
    if own.length ≥ maxLanes state source.id then none
    else
      let rescue := (laneTowers state).foldl (fun rescue t =>
        if needsRescue state lanes team active own source t then keepWeakest rescue t
        else rescue) none
      match rescue with
      | some r => some ⟨source.id, r.id⟩
      | none =>
        let options := ((laneTowers state).filter (isOption state team active own source)).map
          fun t => (t, optionScore lanes team source t)
        match sortBy optionBefore options with
        | [] => none
        | best :: _ => some ⟨source.id, best.1.id⟩

structure LaneOrders where
  opens : List LaneOrder
  cuts : List LaneOrder

def planLanes (state : GameState) (lanes : LaneState) (team : Team) : LaneOrders :=
  let cuts := lanes.lanes.filterMap (cutOrder state team)
  let active := activeLanes lanes team cuts
  ⟨(laneTowers state).filterMap (openOrder state lanes team active), cuts⟩

/-! ### The engine -/

structure LaneEngine where
  difficulty : BotDifficulty
  lanes : LaneState
  nextBotSecs : ℚ

omit [MathLib] in
def newLaneEngine (difficulty : BotDifficulty) : LaneEngine :=
  ⟨difficulty, emptyLaneState, laneBotStartSeconds difficulty⟩

/-- The enemy's plan, carried out. -/
def planEnemy (state : GameState) (lanes : LaneState) : LaneState :=
  let plan := planLanes state lanes .enemy
  let lanes := plan.cuts.foldl (fun lanes o => (cutLane lanes .enemy o.source o.target).1) lanes
  plan.opens.foldl (fun lanes o => openLane state lanes .enemy o.source o.target) lanes

/-- The replay of a lane battle: the engine and the match beside it. -/
structure LaneRun where
  engine : LaneEngine
  state : GameState
  accumulators : Accumulators
  tick : ℕ
  processed : ℕ

def LaneEngine.step (r : LaneRun) (delta : ℚ) : LaneRun :=
  let b := stepLaneSimulation r.state r.accumulators r.engine.lanes delta
  let engine := { r.engine with lanes := b.lanes }
  let engine :=
    if b.state.status = .playing ∧
        b.state.elapsedTimeSeconds ≥ engine.nextBotSecs - laneEpsilon then
      { engine with
        nextBotSecs := engine.nextBotSecs + laneBotTickSeconds engine.difficulty
        lanes := planEnemy b.state engine.lanes }
    else engine
  { r with engine := engine, state := b.state, accumulators := b.accumulators }

/-- `open`: true when the lane is running afterwards. -/
def LaneEngine.openFrom (e : LaneEngine) (state : GameState) (sourceId targetId : String) :
    LaneEngine × Bool :=
  match state.territories.get? sourceId with
  | none => (e, false)
  | some source =>
    if source.owner ≠ .player ∨ sourceId = targetId then (e, false)
    else
      let lanes := openLane state e.lanes .player sourceId targetId
      ({ e with lanes := lanes }, lanes.lanes.any fun l => l.connects .player sourceId targetId)

omit [MathLib] in
def LaneEngine.cut (e : LaneEngine) (sourceId targetId : String) : LaneEngine × Bool :=
  let p := cutLane e.lanes .player sourceId targetId
  ({ e with lanes := p.1 }, p.2)

/-! ### The replay -/

omit [MathLib] in
def checkLaneActions (territories : Record String Territory) :
    ℕ → ℚ → List LaneAction → Except LaneReplayErrorCode Unit
  | _, _, [] => .ok ()
  | index, previous, a :: actions =>
    if a.sequence ≠ index then .error .invalidSequence
    else if a.kind ≠ .lane ∧ a.kind ≠ .cut then .error .invalidActionKind
    else if a.atSeconds < 0 ∨ a.atSeconds > pvpTimeLimitSeconds ∨ a.atSeconds < previous then
      .error .invalidTimestamp
    else if (territories.get? a.sourceId).isNone then .error .invalidTerritory
    else if (territories.get? a.targetId).isNone then .error .invalidTerritory
    else checkLaneActions territories (index + 1) a.atSeconds actions

omit [MathLib] in
def laneStart (level : LaneLevel) : GameState :=
  applyTacticalOpening
    { createInitialGameStateForBattlefield levelPlayerModifiers level.enemy level.battlefieldId with
      gameplayRulesVersion := laneRulesVersion }
    levelPlayerModifiers level.enemy

omit [MathLib] in
def LaneRun.playing (r : LaneRun) : Bool := r.state.status = .playing

def stepLaneToTick (target : ℕ) (r : LaneRun) : LaneRun :=
  whileLoop (fun r => r.playing && r.tick < target)
    (fun r => { LaneEngine.step r pvpSimulationTick with tick := r.tick + 1 }) (target - r.tick) r

/-- One recorded order; an order that is not legal in the replayed state is ignored. -/
def applyLaneAction (r : LaneRun) (a : LaneAction) : LaneRun :=
  let p := if a.kind = .lane then r.engine.openFrom r.state a.sourceId a.targetId
    else r.engine.cut a.sourceId a.targetId
  { r with engine := p.1, processed := if p.2 then r.processed + 1 else r.processed }

def playLaneActions : List LaneAction → LaneRun → LaneRun
  | [], r => r
  | a :: actions, r =>
    let r := stepLaneToTick ⌊a.atSeconds / pvpSimulationTick + 1 / 10 ^ 9⌋.toNat r
    if !r.playing then r else playLaneActions actions (applyLaneAction r a)

/-- The last tick of a replay. -/
def laneLastTick : ℕ := (⌈pvpTimeLimitSeconds / pvpSimulationTick⌉ + 5).toNat

/-- The run behind `ReplayLaneBattle`, from the checks to the last tick. -/
def laneReplay (level : LaneLevel) (actions : List LaneAction) :
    Except LaneReplayErrorCode LaneRun := do
  let state := laneStart level
  if actions.length > maxPvpActions then throw .tooManyActions
  checkLaneActions state.territories 0 0 actions
  let r : LaneRun := ⟨newLaneEngine level.botDifficulty, state, .empty, 0, 0⟩
  pure (stepLaneToTick laneLastTick (playLaneActions actions r))

omit [MathLib] in
def laneSummary (r : LaneRun) : LaneBattleSummary where
  status := if r.state.status = .playing then .draw else r.state.status
  durationSeconds := ⌊r.state.elapsedTimeSeconds⌋
  actionsProcessed := r.processed

def replayLaneBattle (level : LaneLevel) (actions : List LaneAction) :
    Except LaneReplayErrorCode (GameState × LaneBattleSummary) :=
  (laneReplay level actions).map fun r => (r.state, laneSummary r)

end Policy

end CrownClash.Go
