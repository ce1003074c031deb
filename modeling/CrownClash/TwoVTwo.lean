import CrownClash.Types

/-!
# The shared 2v2 records

The action log of a 2v2 match, the spawn assignment it is replayed with and the
codes both replay engines refuse it with.  A slot, a tick and the two sequence
numbers are integers of any size here: that a log is legal is what the engines
check.
-/

namespace CrownClash

open Lib

inductive TeamId
  | a
  | b
  deriving DecidableEq, Repr

structure CanonicalTwoVTwoAction where
  schemaVersion : ℤ
  tick : ℤ
  serverSeq : ℤ
  slot : ℤ
  clientSeq : ℤ
  sourceId : String
  targetId : String
  deriving DecidableEq, Repr

structure TwoVTwoSpawnAssignment where
  slot : ℤ
  territoryId : String
  deriving DecidableEq, Repr

def matchSchemaVersion2 : ℤ := 2

inductive TwoVTwoErrorCode
  | tooManyActions
  | invalidSchemaVersion
  | invalidTick
  | invalidServerSequence
  | invalidClientSequence
  | invalidSlot
  | invalidSource
  | invalidTarget
  | slotNotPermitted
  | invalidDispatch
  | actionAfterBattleEnd
  /-- `2v2_initialization_invalid:spawn_assignments` -/
  | spawnAssignments
  /-- `2v2_initialization_invalid:slot` -/
  | spawnSlot
  /-- `2v2_initialization_invalid:spawn_not_found` -/
  | spawnNotFound
  /-- `2v2_initialization_invalid:spawn_owner` -/
  | spawnOwner
  | unsupportedGameplayRulesVersion
  deriving DecidableEq, Repr

/-- What the check of the log keeps: the server sequences seen and the next
client sequence of every slot. -/
structure LogCheck where
  seenServerSequences : List ℤ
  nextClientSequence : ℤ → ℤ

def LogCheck.start : LogCheck := ⟨[], fun _ => 0⟩

def LogCheck.add (c : LogCheck) (action : CanonicalTwoVTwoAction) : LogCheck where
  seenServerSequences := action.serverSeq :: c.seenServerSequences
  nextClientSequence slot :=
    if slot = action.slot then c.nextClientSequence slot + 1 else c.nextClientSequence slot

/-- What a replay is asked to do.  The limit on the number of actions is the
default of both engines. -/
structure TwoVTwoSimulationOptions where
  territories : Record String Territory
  spawnAssignments : List TwoVTwoSpawnAssignment
  /-- Read at the four slots only. -/
  modifiersBySlot : ℤ → PlayerUpgradeModifiers
  timeLimitSeconds : ℚ
  battlefieldId : String
  actions : List CanonicalTwoVTwoAction
  gameplayRulesVersion : ℤ

structure TwoVTwoSimulationResult where
  canonicalActions : List CanonicalTwoVTwoAction
  finalState : GameState
  actionsProcessed : ℕ
  deriving DecidableEq

end CrownClash
