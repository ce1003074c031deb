import CrownClash.Lib.Record
import Mathlib.Data.Rat.Defs

/-!
# The shared battle domain

The records that both engines pass around, in the wire form that both of them
read and write.  The server declares them as structs whose optional fields are
omitted when they are zero, the client as interfaces with optional fields, so
an absent field is the zero value here: no `routeIds` is the empty list, no
`gameplayRulesVersion` is `0`, no `productionReadyAtMs` the empty record.

Numbers are exact.  Unit counts are integers; times, coordinates, rates and
speeds are rationals.
-/

namespace CrownClash

open Lib

inductive Team
  | player
  | enemy
  | neutral
  deriving DecidableEq, Repr

inductive TerritoryType
  | fortress
  | barracks
  | stable
  deriving DecidableEq, Repr

inductive MatchStatus
  | playing
  | victory
  | defeat
  | draw
  deriving DecidableEq, Repr

inductive MatchMode
  | oneVOne
  | twoVTwo
  deriving DecidableEq, Repr

structure Territory where
  id : String
  name : String
  x : ℚ
  y : ℚ
  radius : ℚ
  owner : Team
  units : ℤ
  maxUnits : ℤ
  productionRate : ℚ
  tier : ℕ
  type : TerritoryType
  deriving DecidableEq, Repr

/-- An army on the way.  `targetId` is the current waypoint; a routed army also
carries its whole route, the leg it is on and its speed multiplier. -/
structure MarchingArmy where
  routeIds : List String
  routeLeg : ℕ
  routeSpeedMultiplier : ℚ
  id : String
  sourceId : String
  targetId : String
  owner : Team
  units : ℤ
  startX : ℚ
  startY : ℚ
  targetX : ℚ
  targetY : ℚ
  progress : ℚ
  speed : ℚ
  distance : ℚ
  deriving DecidableEq, Repr

structure MatchStats where
  matchDurationSeconds : ℚ
  playerUnitsDispatched : ℤ
  enemyUnitsDispatched : ℤ
  territoriesCapturedByPlayer : ℤ
  territoriesCapturedByEnemy : ℤ
  deriving DecidableEq, Repr

@[ext] structure GameState where
  battlefieldId : String
  territories : Record String Territory
  armies : List MarchingArmy
  status : MatchStatus
  elapsedTimeSeconds : ℚ
  timeLimitSeconds : ℚ
  stats : MatchStats
  gameplayRulesVersion : ℤ
  productionReadyAtMs : Record String ℤ
  shieldedUntilMs : Record String ℤ
  playerAbilityUsed : Bool
  enemyAbilityUsed : Bool
  deriving DecidableEq

/-- Fractions of a unit produced so far, by territory id; an absent id reads `0`. -/
abbrev Accumulators := Record String ℚ

structure PlayerUpgradeModifiers where
  startingUnits : ℤ
  productionRateMultiplier : ℚ
  armySpeedMultiplier : ℚ
  deriving DecidableEq, Repr

/-! ### Matches against the bot -/

inductive CommanderId
  | crownGuard
  | quartermaster
  | vanguard
  deriving DecidableEq, Repr

inductive AbilityId
  | royalShield
  | supplyDrop
  | vanguardCharge
  deriving DecidableEq, Repr

inductive BotDifficulty
  | easy
  | normal
  | hard
  deriving DecidableEq, Repr

/-- The `kind` of a recorded action.  A missing kind is an ordinary dispatch, and
the wire form knows one other, `"ability"`. -/
inductive PvpActionKind
  | dispatch
  | ability
  | unknown (text : String)
  deriving DecidableEq, Repr

structure PvpAction where
  sequence : ℤ
  atSeconds : ℚ
  sourceId : String
  targetId : String
  kind : PvpActionKind
  deriving DecidableEq, Repr

structure PvpBattleSummary where
  status : MatchStatus
  stats : MatchStats
  durationSeconds : ℤ
  actionsProcessed : ℕ
  deriving DecidableEq, Repr

/-- What a read of a missing key gives on the server: every field zero.  No rule
tells the empty owner from a neutral one or the empty type from a plain one. -/
def Territory.zero : Territory :=
  ⟨"", "", 0, 0, 0, .neutral, 0, 0, 0, 0, .fortress⟩

/-- The territory stored under an id. -/
def GameState.territory (state : GameState) (id : String) : Territory :=
  state.territories.getD id Territory.zero

/-- The statistics of a match that has just begun. -/
def MatchStats.zero : MatchStats := ⟨0, 0, 0, 0, 0⟩

end CrownClash
