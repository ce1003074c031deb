import CrownClash.Types

/-!
# Lane battles: the records of both engines

A drag opens a lane that streams single soldiers from a tower until it is cut.
The lanes stand beside the state of the battle, which has no armies then.
-/

namespace CrownClash

structure Lane where
  id : String
  owner : Team
  sourceId : String
  targetId : String
  routeIds : List String
  /-- Match seconds until the next soldier leaves. -/
  nextEmitIn : ℚ
  deriving DecidableEq, Repr

structure Soldier where
  owner : Team
  targetId : String
  routeIds : List String
  /-- Seconds of travel for the whole route, and how many are left. -/
  total : ℚ
  remaining : ℚ
  deriving DecidableEq, Repr

structure LaneState where
  lanes : List Lane
  soldiers : List Soldier
  nextLaneId : ℕ
  deriving DecidableEq, Repr

def emptyLaneState : LaneState := ⟨[], [], 0⟩

/-- An order of the lane policy. -/
structure LaneOrder where
  source : String
  target : String
  deriving DecidableEq, Repr

/-- A lane from one tower to another, of one side. -/
def Lane.connects (l : Lane) (owner : Team) (sourceId targetId : String) : Bool :=
  l.owner = owner ∧ l.sourceId = sourceId ∧ l.targetId = targetId

theorem Lane.connects_iff {l : Lane} {owner : Team} {sourceId targetId : String} :
    l.connects owner sourceId targetId = true
      ↔ l.owner = owner ∧ l.sourceId = sourceId ∧ l.targetId = targetId :=
  decide_eq_true_iff

/-! ### Recorded orders -/

/-- The `kind` of a recorded order, `"lane"`, `"cut"` or any other text. -/
inductive LaneActionKind
  | lane
  | cut
  | unknown (text : String)
  deriving DecidableEq, Repr

structure LaneAction where
  sequence : ℤ
  atSeconds : ℚ
  kind : LaneActionKind
  sourceId : String
  targetId : String
  deriving DecidableEq, Repr

inductive LaneReplayErrorCode
  | tooManyActions
  | invalidSequence
  | invalidActionKind
  | invalidTimestamp
  | invalidTerritory
  deriving DecidableEq, Repr

/-- What a lane battle is set up with: a map, a bot and the enemy's modifiers. -/
structure LaneLevel where
  id : ℕ
  battlefieldId : String
  botDifficulty : BotDifficulty
  enemy : PlayerUpgradeModifiers
  deriving DecidableEq, Repr

structure LaneBattleSummary where
  status : MatchStatus
  durationSeconds : ℤ
  actionsProcessed : ℕ
  deriving DecidableEq, Repr

/-- What happens to a lane battle: an order of either side, or a step of the clock. -/
inductive LaneEvent
  | openLane (owner : Team) (sourceId targetId : String)
  | cutLane (owner : Team) (sourceId targetId : String)
  | step (delta : ℚ)
  deriving DecidableEq, Repr

/-- Time does not run backwards. -/
def LaneEvent.Forward : LaneEvent → Prop
  | .step delta => 0 ≤ delta
  | _ => True

end CrownClash
