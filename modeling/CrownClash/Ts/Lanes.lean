import CrownClash.Ts.Pvp
import CrownClash.Lanes

/-!
# Client: lane battles

`lanes.ts`, `lane-ai.ts`, `lane-engine.ts` and `lane-replay.ts` of the game core
with the standard configuration and the bot at its best (`skill` 0).

The recorded towers of a replay are checked by the truth value of a property
read, so a name that every object inherits passes that check.  No order on such
a name does anything afterwards: as a source it has no owner, and as a target it
has no road.
-/

namespace CrownClash.Ts

open Lib

def laneEmitSeconds : ℚ := 0.2

def laneSoldierSpeed : ℚ := 140

def levelRulesVersion : ℤ := 3

def levelPlayerModifiers : PlayerUpgradeModifiers := ⟨20, 1, 1⟩

def laneBotTickSeconds : BotDifficulty → ℚ
  | .easy => 8
  | .normal => 6
  | .hard => 4.5

def laneBotStartSeconds : BotDifficulty → ℚ
  | .easy => 10
  | .normal => 8
  | .hard => 2

def laneEnemyModifiers : BotDifficulty → PlayerUpgradeModifiers
  | .easy => ⟨14, 0.6, 1⟩
  | .normal => ⟨18, 0.8, 1⟩
  | .hard => ⟨20, 0.85, 1⟩

def laneMaps : List String := ["crown_cross", "twin_passes", "royal_ring"]

/-- The nine levels: every difficulty on every map. -/
def laneLevels : List LaneLevel :=
  [BotDifficulty.easy, .normal, .hard].zipIdx.flatMap fun d =>
    laneMaps.zipIdx.map fun m => ⟨d.2 * laneMaps.length + m.2 + 1, m.1, d.1, laneEnemyModifiers d.1⟩

/-! ### Lanes -/

def maxLanes (state : GameState) (towerId : String) : ℕ :=
  match state.territories.get? towerId with
  | some t => t.tier
  | none => 1

def cutLane (lanes : LaneState) (owner : Team) (sourceId targetId : String) : LaneState :=
  let kept := lanes.lanes.filter fun l => !l.connects owner sourceId targetId
  if kept.length = lanes.lanes.length then lanes else { lanes with lanes := kept }

section Opening

variable [MathLib]

def routeLength (state : GameState) : List String → ℚ
  | a :: b :: routeIds =>
    hypot ((state.territory b).x - (state.territory a).x)
      ((state.territory b).y - (state.territory a).y) + routeLength state (b :: routeIds)
  | _ => 0

def routeSeconds (state : GameState) (routeIds : List String) : ℚ :=
  routeLength state routeIds / laneSoldierSpeed

def openLane (state : GameState) (lanes : LaneState) (owner : Team) (sourceId targetId : String) :
    LaneState :=
  if lanes.lanes.any fun l => l.connects owner sourceId targetId then lanes
  else if (lanes.lanes.filter fun l => l.owner = owner ∧ l.sourceId = sourceId).length
      ≥ maxLanes state sourceId then lanes
  else
    match findDispatchRoute state sourceId targetId owner with
    | none => lanes
    | some route =>
      let lane : Lane :=
        { id := "lane_" ++ toString lanes.nextLaneId
          owner := owner
          sourceId := sourceId
          targetId := targetId
          routeIds := route
          nextEmitIn := 0 }
      { lanes with lanes := lanes.lanes ++ [lane], nextLaneId := lanes.nextLaneId + 1 }

end Opening

/-- The lanes that can still run. -/
def pruneDeadLanes (territories : Record String Territory) (lanes : List Lane) : List Lane :=
  lanes.filter fun l => (territories.get? l.sourceId).map Territory.owner = some l.owner

/-! ### The step -/

structure LaneMarch where
  territories : Record String Territory
  stats : MatchStats
  flying : List Soldier

/-- One soldier in flight: it marches on or meets its tower. -/
def moveSoldier (deltaSeconds : ℚ) (m : LaneMarch) (soldier : Soldier) : LaneMarch :=
  let remaining := soldier.remaining - deltaSeconds
  if remaining > 1 / 10 ^ 9 then
    { m with flying := m.flying ++ [{ soldier with remaining := remaining }] }
  else
    match m.territories.get? soldier.targetId with
    | none => m
    | some target =>
      if target.owner = soldier.owner then
        { m with
          territories := m.territories.set soldier.targetId
            { target with units := min target.maxUnits (target.units + 1) } }
      else if target.units > 0 then
        { m with
          territories := m.territories.set soldier.targetId
            { target with units := target.units - 1 } }
      else
        { m with
          territories := m.territories.set soldier.targetId
            { target with owner := soldier.owner, units := 1 }
          stats :=
            if soldier.owner = .player then
              { m.stats with
                territoriesCapturedByPlayer := m.stats.territoriesCapturedByPlayer + 1 }
            else
              { m.stats with
                territoriesCapturedByEnemy := m.stats.territoriesCapturedByEnemy + 1 } }

structure LaneEmit where
  territories : Record String Territory
  stats : MatchStats
  emitted : List Soldier
  nextLanes : List Lane

structure LaneWait where
  wait : ℚ
  source : Territory
  stats : MatchStats
  emitted : List Soldier

/-- One round of the inner loop.  The `break` of the source leaves it with a wait
that ends the loop by itself. -/
def emitOnce (lane : Lane) (total : ℚ) (w : LaneWait) : LaneWait :=
  let w := if w.source.units > 1 then
      { w with
        source := { w.source with units := w.source.units - 1 }
        emitted := w.emitted ++
          [{ owner := lane.owner
             targetId := lane.targetId
             routeIds := lane.routeIds
             total := total
             remaining := total }]
        stats :=
          if lane.owner = .player then
            { w.stats with playerUnitsDispatched := w.stats.playerUnitsDispatched + 1 }
          else { w.stats with enemyUnitsDispatched := w.stats.enemyUnitsDispatched + 1 } }
    else w
  let wait := w.wait + laneEmitSeconds
  { w with wait := if w.source.units ≤ 1 then max wait laneEmitSeconds else wait }

def emitLoop (lane : Lane) (total : ℚ) (w : LaneWait) : LaneWait :=
  whileLoop (fun w => w.wait ≤ 1 / 10 ^ 9) (emitOnce lane total)
    (⌊(1 / 10 ^ 9 - w.wait) / laneEmitSeconds⌋ + 1).toNat w

def towers (territories : Record String Territory) (team : Team) : ℕ :=
  (territories.values.filter fun t => t.owner = team).length

def inFlight (soldiers : List Soldier) (team : Team) : ℕ :=
  (soldiers.filter fun s => s.owner = team).length

/-- What a lane step returns. -/
structure LaneStepResult where
  state : GameState
  accumulators : Accumulators
  lanes : LaneState

section Step

variable [MathLib]

def emitLane (state : GameState) (deltaSeconds : ℚ) (e : LaneEmit) (lane : Lane) : LaneEmit :=
  let w := emitLoop lane (routeSeconds state lane.routeIds)
    ⟨lane.nextEmitIn - deltaSeconds, e.territories.getD lane.sourceId Territory.zero, e.stats,
      e.emitted⟩
  { territories := e.territories.set lane.sourceId w.source
    stats := w.stats
    emitted := w.emitted
    nextLanes := e.nextLanes ++ [{ lane with nextEmitIn := w.wait }] }

/-- The lanes' half of a step, from a base state that is still playing. -/
def stepLanes (state : GameState) (accumulators : Accumulators) (lanes : LaneState)
    (deltaSeconds : ℚ) : LaneStepResult :=
  let m := lanes.soldiers.foldl (moveSoldier deltaSeconds) ⟨state.territories, state.stats, []⟩
  let live := pruneDeadLanes m.territories lanes.lanes
  let e := live.foldl (emitLane state deltaSeconds) ⟨m.territories, m.stats, [], []⟩
  let soldiers := m.flying ++ e.emitted
  let status :=
    if towers e.territories .enemy = 0 ∧ inFlight soldiers .enemy = 0 then .victory
    else if towers e.territories .player = 0 ∧ inFlight soldiers .player = 0 then .defeat
    else state.status
  { state := { state with territories := e.territories, stats := e.stats, status := status }
    accumulators := accumulators
    lanes := { lanes with lanes := e.nextLanes, soldiers := soldiers } }

def stepLaneSimulation (state : GameState) (accumulators : Accumulators) (lanes : LaneState)
    (deltaSeconds : ℚ) : LaneStepResult :=
  let step := stepSimulation state accumulators deltaSeconds
  if step.state.status ≠ .playing then ⟨step.state, step.accumulators, lanes⟩
  else stepLanes step.state step.accumulators lanes deltaSeconds

end Step

/-! ### The policy -/

def regeneration (t : Territory) : ℚ :=
  if t.owner = .neutral then 0 else t.productionRate * getTerritoryProductionMultiplier t.type

def laneRate : ℚ := 1 / laneEmitSeconds

def laneTowers (state : GameState) : List Territory :=
  sortBy (fun a b => a.id < b.id) state.territories.values

def cutOrder (state : GameState) (team : Team) (lane : Lane) : Option LaneOrder :=
  match state.territories.get? lane.targetId, state.territories.get? lane.sourceId with
  | some target, some _ =>
    let finished := target.owner = team ∧ target.units ≥
      (if lane.sourceId = lane.targetId then 0 else min (target.maxUnits - 1) 14)
    let hopeless := target.owner ≠ team ∧ laneRate ≤ regeneration target + 0.1
    if finished ∨ hopeless then some ⟨lane.sourceId, lane.targetId⟩ else none
  | _, _ => none

/-- The text an order or a lane has in the set `cutKeys`. -/
def cutKey (source target : String) : String := source ++ ">" ++ target

def attackedBy (lanes : LaneState) (team : Team) (t : Territory) : ℕ :=
  (lanes.lanes.filter fun l => l.owner ≠ team ∧ l.targetId = t.id).length

def targeted (active : List Lane) (t : Territory) : ℕ :=
  (active.filter fun l => l.targetId = t.id).length

def weakerBefore (a b : Territory) : Bool :=
  if a.units ≠ b.units then a.units < b.units else a.id < b.id

def optionBefore (a b : Territory × ℚ) : Bool :=
  if a.2 ≠ b.2 then a.2 < b.2 else a.1.id < b.1.id

section Policy

variable [MathLib]

/-- The towers `source` may rescue, weakest first. -/
def rescues (state : GameState) (lanes : LaneState) (team : Team) (active own : List Lane)
    (source : Territory) : List Territory :=
  let threatened := (laneTowers state).filter fun t =>
    t.owner = team ∧ t.id ≠ source.id ∧ attackedBy lanes team t > 0 ∧ t.units < 8 ∧
      source.units ≥ 12 ∧ targeted active t = 0
  sortBy weakerBefore <| threatened.filter fun t =>
    (!own.any fun l => l.targetId = t.id) ∧
      (findDispatchRoute state source.id t.id team).isSome

/-- The towers `source` may attack, each with its score, best first. -/
def laneOptions (state : GameState) (lanes : LaneState) (team : Team) (active own : List Lane)
    (source : Territory) : List (Territory × ℚ) :=
  let open' := (laneTowers state).filter fun t =>
    t.owner ≠ team ∧ (!own.any fun l => l.targetId = t.id) ∧ targeted active t < 2
  let beatable := open'.filter fun t =>
    laneRate > regeneration t + 0.2 ∧ (findDispatchRoute state source.id t.id team).isSome
  sortBy optionBefore <| beatable.map fun t =>
    (t, (t.units : ℚ) + (if t.owner = .neutral then 0 else 3)
      + hypot (t.x - source.x) (t.y - source.y) / 45
      - (if attackedBy lanes team t > 0 then 2 else 0))

def openOrder (state : GameState) (lanes : LaneState) (team : Team) (active : List Lane)
    (source : Territory) : Option LaneOrder :=
  let own := active.filter fun l => l.sourceId = source.id
  if own.length ≥ maxLanes state source.id then none
  else
    match (rescues state lanes team active own source).head? with
    | some rescue => some ⟨source.id, rescue.id⟩
    | none => (laneOptions state lanes team active own source).head?.map fun pick =>
        ⟨source.id, pick.1.id⟩

structure LaneOrders where
  opens : List LaneOrder
  cuts : List LaneOrder

def planLanes (state : GameState) (lanes : LaneState) (team : Team) : LaneOrders :=
  let cut := (lanes.lanes.filter fun l => l.owner = team).filterMap (cutOrder state team)
  let cutKeys := cut.map fun o => cutKey o.source o.target
  let active := lanes.lanes.filter fun l => l.owner = team ∧ cutKey l.sourceId l.targetId ∉ cutKeys
  let sources := (laneTowers state).filter fun t => t.owner = team ∧ t.units ≥ 4
  ⟨sources.filterMap (openOrder state lanes team active), cut⟩

/-! ### The engine -/

structure LaneEngine where
  difficulty : BotDifficulty
  lanes : LaneState
  nextBotSeconds : ℚ

omit [MathLib] in
def newLaneEngine (difficulty : BotDifficulty) : LaneEngine :=
  ⟨difficulty, emptyLaneState, laneBotStartSeconds difficulty⟩

def LaneEngine.plan (e : LaneEngine) (state : GameState) (team : Team) : LaneEngine :=
  let plan := planLanes state e.lanes team
  let lanes := plan.cuts.foldl (fun lanes o => cutLane lanes team o.source o.target) e.lanes
  { e with
    lanes := plan.opens.foldl (fun lanes o => openLane state lanes team o.source o.target) lanes }

/-- The replay of a lane battle: the engine and the match beside it. -/
structure LaneRun where
  engine : LaneEngine
  state : GameState
  accumulators : Accumulators
  tick : ℕ
  processed : ℕ

def LaneEngine.step (r : LaneRun) (deltaSeconds : ℚ) : LaneRun :=
  let result := stepLaneSimulation r.state r.accumulators r.engine.lanes deltaSeconds
  let engine := { r.engine with lanes := result.lanes }
  let engine :=
    if result.state.status = .playing ∧
        result.state.elapsedTimeSeconds ≥ engine.nextBotSeconds - 1 / 10 ^ 9 then
      { engine with
        nextBotSeconds := engine.nextBotSeconds + laneBotTickSeconds engine.difficulty }.plan
          result.state .enemy
    else engine
  { r with engine := engine, state := result.state, accumulators := result.accumulators }

/-- `open`: true when a player lane between the towers is running afterwards. -/
def LaneEngine.openFrom (e : LaneEngine) (state : GameState) (sourceId targetId : String) :
    LaneEngine × Bool :=
  match lookup state.territories sourceId with
  | .missing => (e, false)
  | .inherited => (e, false)
  | .own source =>
    if source.owner ≠ .player ∨ sourceId = targetId then (e, false)
    else
      let lanes := openLane state e.lanes .player sourceId targetId
      ({ e with lanes := lanes }, lanes.lanes.any fun l => l.connects .player sourceId targetId)

omit [MathLib] in
/-- `cut`: true when a lane was removed, which is when `cutLane` gave a new state. -/
def LaneEngine.cut (e : LaneEngine) (sourceId targetId : String) : LaneEngine × Bool :=
  let next := cutLane e.lanes .player sourceId targetId
  ({ e with lanes := next }, next.lanes.length ≠ e.lanes.lanes.length)

/-! ### The replay -/

omit [MathLib] in
def validateLaneActions (territories : Record String Territory) :
    ℕ → ℚ → List LaneAction → Except LaneReplayErrorCode Unit
  | _, _, [] => .ok ()
  | index, previous, action :: actions =>
    if action.sequence ≠ index then .error .invalidSequence
    else if action.kind ≠ .lane ∧ action.kind ≠ .cut then .error .invalidActionKind
    else if action.atSeconds < 0 ∨ action.atSeconds > pvpTimeLimitSeconds ∨
        action.atSeconds < previous then .error .invalidTimestamp
    else if lookup territories action.sourceId = .missing ∨
        lookup territories action.targetId = .missing then .error .invalidTerritory
    else validateLaneActions territories (index + 1) action.atSeconds actions

omit [MathLib] in
def LaneRun.playing (r : LaneRun) : Bool := r.state.status = .playing

def stepLaneToTick (target : ℕ) (r : LaneRun) : LaneRun :=
  whileLoop (fun r => r.playing && r.tick < target)
    (fun r => { LaneEngine.step r pvpSimulationTickSeconds with tick := r.tick + 1 })
    (target - r.tick) r

def applyLaneAction (r : LaneRun) (action : LaneAction) : LaneRun :=
  let p := if action.kind = .lane then
      r.engine.openFrom r.state action.sourceId action.targetId
    else r.engine.cut action.sourceId action.targetId
  { r with engine := p.1, processed := if p.2 then r.processed + 1 else r.processed }

def playLaneActions : List LaneAction → LaneRun → LaneRun
  | [], r => r
  | action :: actions, r =>
    let r := stepLaneToTick ⌊action.atSeconds / pvpSimulationTickSeconds + 1 / 10 ^ 9⌋.toNat r
    if !r.playing then r else playLaneActions actions (applyLaneAction r action)

def laneLastTick : ℕ := (⌈pvpTimeLimitSeconds / pvpSimulationTickSeconds⌉ + 5).toNat

/-- What a replay can throw: an error of the setup or one of the action list. -/
inductive LaneError
  | setup (message : String)
  | replay (code : LaneReplayErrorCode)
  deriving DecidableEq

omit [MathLib] in
def validate (actions : List LaneAction) (state : GameState) : Except LaneReplayErrorCode Unit :=
  if actions.length > maxPvpActions then .error .tooManyActions
  else validateLaneActions state.territories 0 0 actions

/-- The run behind `simulateLaneBattle`, from the checks to the last tick. -/
def laneReplay (level : LaneLevel) (actions : List LaneAction) : Except LaneError LaneRun := do
  let state ← (createInitialGameState pvpTimeLimitSeconds levelRulesVersion levelPlayerModifiers
    level.enemy level.battlefieldId).mapError .setup
  (validate actions state).mapError .replay
  let r : LaneRun := ⟨newLaneEngine level.botDifficulty, state, .empty, 0, 0⟩
  pure (stepLaneToTick laneLastTick (playLaneActions actions r))

omit [MathLib] in
def laneSummary (r : LaneRun) : LaneBattleSummary where
  status := if r.state.status = .playing then .draw else r.state.status
  durationSeconds := ⌊r.state.elapsedTimeSeconds⌋
  actionsProcessed := r.processed

def simulateLaneBattle (level : LaneLevel) (actions : List LaneAction) :
    Except LaneError (GameState × LaneBattleSummary) :=
  (laneReplay level actions).map fun r => (r.state, laneSummary r)

end Policy

end CrownClash.Ts
