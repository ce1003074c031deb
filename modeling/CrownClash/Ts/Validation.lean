import CrownClash.Lib.Text
import CrownClash.MapRules
import Mathlib.Data.Rat.Defs

/-!
# Client: `validateBattlefieldDefinition`

`battlefields.ts` also checks the colours of a map.  Texts are compared by their
units of sixteen bits.
-/

namespace CrownClash.Ts

open Lib

/-- The motif of a map and its colours by name. -/
structure BattlefieldVisualTheme where
  motif : String
  colors : List (String × ℚ)
  deriving DecidableEq, Repr

/-- A map as the client reads it; the mode may be missing. -/
structure RawBattlefield extends MapDraft where
  mode : Option String
  visual : BattlefieldVisualTheme
  deriving DecidableEq, Repr

def normalizeBattlefieldMode (value : Option String) : Except MapFlaw MatchMode :=
  match value with
  | none => .ok .oneVOne
  | some text =>
    if text = "1v1" then .ok .oneVOne
    else if text = "2v2" then .ok .twoVTwo
    else .error (.invalidMode text)

def roadKey (idA idB : String) : String :=
  if utf16Lt idA idB then idA ++ "<->" ++ idB else idB ++ "<->" ++ idA

def checkColor (entry : String × ℚ) : Except MapFlaw Unit :=
  if ¬ entry.2.isInt ∨ entry.2 < 0 ∨ entry.2 > 0xffffff then .error (.visualColor entry.1)
  else .ok ()

def checkTerritoryIds (territories : List Territory) : Except MapFlaw (List String) :=
  checkNew Territory.id (fun _ => .ok ()) (fun t => .duplicateTerritory t.id) [] territories

def validateBattlefieldDefinition (definition : RawBattlefield) : Except MapFlaw Unit := do
  let mode ← normalizeBattlefieldMode definition.mode
  if definition.visual.motif ≠ definition.id then .error .visualMotif
  else do
    checkEach checkColor definition.visual.colors
    let _ ← checkTerritoryIds definition.territories
    checkMap utf16Lt roadKey mode definition.toMapDraft

/-- The texts of the refusals, over the way a number is written. -/
def MapFlaw.message (number : ℚ → String) (battlefieldId : String) : MapFlaw → String
  | .invalidMode text => "Invalid battlefield mode: " ++ text
  | .visualMotif => "Battlefield \"" ++ battlefieldId ++ "\" must use matching visual motif"
  | .visualColor key =>
    "Battlefield \"" ++ battlefieldId ++ "\" has invalid visual color \"" ++ key ++ "\""
  | .duplicateTerritory id =>
    "Duplicate territory ID \"" ++ id ++ "\" in battlefield \"" ++ battlefieldId ++ "\""
  | .playerBase =>
    "Battlefield \"" ++ battlefieldId ++ "\" must have exactly one player base (id=\"p_base\")"
  | .enemyBase =>
    "Battlefield \"" ++ battlefieldId ++ "\" must have exactly one enemy base (id=\"e_base\")"
  | .teamASpawns =>
    "Battlefield \"" ++ battlefieldId
      ++ "\" must have exactly two Team A starting fortresses (ids \"a_base_w\" and \"a_base_e\")"
  | .teamBSpawns =>
    "Battlefield \"" ++ battlefieldId
      ++ "\" must have exactly two Team B starting fortresses (ids \"b_base_w\" and \"b_base_e\")"
  | .spawnFortress id =>
    "Starting fortress \"" ++ id ++ "\" in battlefield \"" ++ battlefieldId
      ++ "\" must be a tier-3 fortress"
  | .noNeutral =>
    "Battlefield \"" ++ battlefieldId ++ "\" must have at least one neutral territory"
  | .roadEndpoint id =>
    "Road endpoint \"" ++ id ++ "\" does not exist in battlefield \"" ++ battlefieldId ++ "\""
  | .selfRoad road =>
    "Self-road [" ++ road.1 ++ ", " ++ road.2 ++ "] in battlefield \"" ++ battlefieldId ++ "\""
  | .duplicateRoad key =>
    "Duplicate road \"" ++ key ++ "\" in battlefield \"" ++ battlefieldId ++ "\""
  | .outOfBounds t =>
    "Territory \"" ++ t.id ++ "\" at (" ++ number t.x ++ ", " ++ number t.y ++ ", r="
      ++ number t.radius ++ ") exceeds safe battlefield bounds in \"" ++ battlefieldId ++ "\""
  | .basesNotSymmetric => "Bases are not symmetric in battlefield \"" ++ battlefieldId ++ "\""
  | .noCounterpart t =>
    "Territory \"" ++ t.id ++ "\" at (" ++ number t.x ++ ", " ++ number t.y
      ++ ") has no symmetric counterpart at (" ++ number (400 - t.x) ++ ", "
      ++ number (720 - t.y) ++ ") in \"" ++ battlefieldId ++ "\""
  | .manyCounterparts t count =>
    "Territory \"" ++ t.id ++ "\" at (" ++ number t.x ++ ", " ++ number t.y ++ ") has "
      ++ toString count ++ " territories at its counterpart coordinate (" ++ number (400 - t.x)
      ++ ", " ++ number (720 - t.y) ++ "); exactly one symmetric counterpart is required in \""
      ++ battlefieldId ++ "\""
  | .counterpartOwner t =>
    let what :=
      match t.owner with
      | .player => "player base \"" ++ t.id ++ "\" is not enemy owned"
      | .enemy => "enemy base \"" ++ t.id ++ "\" is not player owned"
      | .neutral => "neutral \"" ++ t.id ++ "\" is not neutral owned"
    "Symmetric counterpart for " ++ what ++ " in \"" ++ battlefieldId ++ "\""
  | .counterpartAttributes t other =>
    "Territory \"" ++ t.id ++ "\" does not have matching attributes with counterpart \""
      ++ other.id ++ "\" in \"" ++ battlefieldId ++ "\""
  | .roadOntoItself road =>
    "Road [" ++ road.1 ++ ", " ++ road.2 ++ "] maps to itself under mirroring in \""
      ++ battlefieldId ++ "\""
  | .noMirroredRoad road a b =>
    "Road [" ++ road.1 ++ ", " ++ road.2 ++ "] has no symmetric counterpart [" ++ a ++ ", " ++ b
      ++ "] in \"" ++ battlefieldId ++ "\""
  -- The client lets an empty id through to the checks that follow.
  | .emptyId | .emptyTerritoryId => ""

theorem roadKey_comm (a b : String) : roadKey a b = roadKey b a := by
  unfold roadKey utf16Lt
  rcases lt_trichotomy (utf16 a) (utf16 b) with h | h | h
  · rw [if_pos (decide_eq_true h), if_neg (by simpa using h.le)]
  · rw [utf16_injective h]
  · rw [if_neg (by simpa using h.le), if_pos (decide_eq_true h)]

/-- **What the client accepts has passed the checks.** -/
theorem mapChecked_of_accepted {definition : RawBattlefield}
    (h : validateBattlefieldDefinition definition = .ok ()) :
    MapChecked roadKey definition.toMapDraft := by
  unfold validateBattlefieldDefinition at h
  obtain ⟨mode, -, h⟩ := check_then.mp h
  split at h
  · cases h
  obtain ⟨u, -, h⟩ := check_then.mp h
  obtain ⟨seen, hids, hmap⟩ := check_then.mp h
  obtain ⟨-, -, hnodup, -⟩ := checkNew_ok hids
  exact mapChecked_of_checkMap hnodup hmap

end CrownClash.Ts
