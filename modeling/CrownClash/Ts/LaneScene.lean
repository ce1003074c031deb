import CrownClash.Ts.Lanes

/-!
# Client: a lane battle as it is played

The lane part of `GameScene.ts` and the gestures of `lane-engine.ts`.  The scene steps
the engine on the fixed clock and, between two steps, carries out what the player does:
a drag opens lanes onto a tower, a swipe cuts the lanes it crosses.  What is carried
out is recorded, order by order, for the replay that settles the battle.
-/

namespace CrownClash.Ts

open Lib

/-- A point of the board, in flat world coordinates. -/
structure Point where
  x : ℚ
  y : ℚ
  deriving DecidableEq, Repr

/-! ### Swipes -/

/-- On which side of the line through `p` and `q` the point `r` is. -/
def turn (p q r : Point) : ℚ := (q.x - p.x) * (r.y - p.y) - (q.y - p.y) * (r.x - p.x)

def crosses (start finish a b : Point) : Bool :=
  turn start finish a * turn start finish b < 0 ∧ turn a b start * turn a b finish < 0

def Territory.point (t : Territory) : Point := ⟨t.x, t.y⟩

/-- A swipe crosses one leg of a lane's route. -/
def crossesLeg (state : GameState) (start finish : Point) (leg : String × String) : Bool :=
  match state.territories.get? leg.1, state.territories.get? leg.2 with
  | some a, some b => crosses start finish (Territory.point a) (Territory.point b)
  | _, _ => false

/-- The lanes of a side whose route a swipe crosses. -/
def lanesCrossedBySegment (state : GameState) (lanes : LaneState) (owner : Team)
    (start finish : Point) : List Lane :=
  lanes.lanes.filter fun lane =>
    lane.owner = owner && (lane.routeIds.zip lane.routeIds.tail).any (crossesLeg state start finish)

/-- A swipe cuts the player's lanes it crosses, and returns them. -/
def LaneEngine.cutBySwipe (e : LaneEngine) (state : GameState) (start finish : Point) :
    LaneEngine × List Lane :=
  let crossed := lanesCrossedBySegment state e.lanes .player start finish
  (crossed.foldl (fun e lane => (e.cut lane.sourceId lane.targetId).1) e, crossed)

/-! ### Drags -/

structure OpenedLanes where
  engine : LaneEngine
  opened : List String
  blocked : List String

section Opening

variable [MathLib]

/-- One tower of a drag. -/
def LaneEngine.openOne (state : GameState) (targetId : String) (r : OpenedLanes) (id : String) :
    OpenedLanes :=
  if (r.engine.openFrom state id targetId).2 then
    { r with
      engine := (r.engine.openFrom state id targetId).1
      opened := r.opened ++ [id] }
  else
    { r with
      engine := (r.engine.openFrom state id targetId).1
      blocked := r.blocked ++ [id] }

/-- A drag from one or more towers: `opened` are those that run a lane afterwards. -/
def LaneEngine.openFor (e : LaneEngine) (state : GameState) (sourceIds : List String)
    (targetId : String) : OpenedLanes :=
  sourceIds.foldl (openOne state targetId) ⟨e, [], []⟩

end Opening

/-! ### The scene -/

structure LaneScene where
  laneRuntime : LaneEngine
  gameState : GameState
  accumulators : Accumulators
  laneActions : List LaneAction

namespace LaneScene

/-- An order is recorded with the time of the battle, rounded to milliseconds. -/
def recordLaneAction (scene : LaneScene) (kind : LaneActionKind) (sourceId targetId : String) :
    LaneScene :=
  { scene with
    laneActions := scene.laneActions ++
      [{ sequence := scene.laneActions.length
         atSeconds := (roundHalfUp (scene.gameState.elapsedTimeSeconds * 1000) : ℚ) / 1000
         kind := kind
         sourceId := sourceId
         targetId := targetId }] }

/-- A swipe cuts as long as there is room for one order more, and records each cut. -/
def swipeCutLanes (scene : LaneScene) (start finish : Point) : LaneScene :=
  if scene.laneActions.length < maxPvpActions then
    let cut := scene.laneRuntime.cutBySwipe scene.gameState start finish
    cut.2.foldl (fun scene lane => scene.recordLaneAction .cut lane.sourceId lane.targetId)
      { scene with laneRuntime := cut.1 }
  else scene

variable [MathLib]

/-- A drag is refused unless there is room for an order from each of its towers. -/
def openLanes (scene : LaneScene) (sourceIds : List String) (targetId : String) : LaneScene :=
  if scene.laneActions.length + sourceIds.length > maxPvpActions then scene
  else
    let lanes := scene.laneRuntime.openFor scene.gameState sourceIds targetId
    lanes.opened.foldl (fun scene id => scene.recordLaneAction .lane id targetId)
      { scene with laneRuntime := lanes.engine }

/-- One tick of `stepBotMatch` in a lane battle. -/
def tick (scene : LaneScene) : LaneScene :=
  if scene.gameState.status = .playing then
    let r := LaneEngine.step ⟨scene.laneRuntime, scene.gameState, scene.accumulators, 0, 0⟩
      pvpSimulationTickSeconds
    { scene with
      laneRuntime := r.engine
      gameState := r.state
      accumulators := r.accumulators }
  else scene

/-- A level before its first tick. -/
def start (level : LaneLevel) : Except String LaneScene :=
  (createInitialGameState pvpTimeLimitSeconds levelRulesVersion levelPlayerModifiers level.enemy
    level.battlefieldId).map fun state => ⟨newLaneEngine level.botDifficulty, state, .empty, []⟩

/-- What happens in the scene, one thing at a time. -/
inductive Input
  | tick
  | drag (sourceIds : List String) (targetId : String)
  | swipe (start finish : Point)
  deriving DecidableEq, Repr

def input (scene : LaneScene) : Input → LaneScene
  | .tick => scene.tick
  | .drag sourceIds targetId => scene.openLanes sourceIds targetId
  | .swipe start finish => scene.swipeCutLanes start finish

/-- The battle goes on to its end, and the player does nothing more. -/
def playOut (scene : LaneScene) : LaneScene :=
  whileLoop (fun scene => scene.gameState.status = .playing) tick laneLastTick scene

end LaneScene

end CrownClash.Ts
