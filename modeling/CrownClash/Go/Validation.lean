import CrownClash.MapRules
import Mathlib.Data.String.Basic

/-!
# Server: `validateBattlefieldDefinition`

`domain.go` refuses to start on a map that fails a check.  Texts are compared byte
by byte, which is the order of their characters.
-/

namespace CrownClash.Go

open Lib

/-- `battlefieldDefinitionJSON`, of what the checks read. -/
structure BattlefieldDefinitionJSON extends MapDraft where
  mode : String
  deriving DecidableEq, Repr

def roadKey (idA idB : String) : String :=
  if idA > idB then idB ++ "<->" ++ idA else idA ++ "<->" ++ idB

def checkTerritoryIds (territories : List Territory) : Except MapFlaw (List String) :=
  checkNew Territory.id (fun t => if t.id = "" then .error .emptyTerritoryId else .ok ())
    (fun t => .duplicateTerritory t.id) [] territories

def validateBattlefieldDefinition (b : BattlefieldDefinitionJSON) : Except MapFlaw Unit :=
  if b.id = "" then .error .emptyId
  else do
    let _ ← checkTerritoryIds b.territories
    if b.mode = "1v1" then checkMap (fun x y => x < y) roadKey .oneVOne b.toMapDraft
    else if b.mode = "2v2" then checkMap (fun x y => x < y) roadKey .twoVTwo b.toMapDraft
    else .error (.invalidMode b.mode)

/-- The texts of the refusals, over the number verb `%g` and the quoting verb `%q`. -/
def MapFlaw.message (g : ℚ → String) (q : String → String) : MapFlaw → String
  | .emptyId => "battlefield id must not be empty"
  | .emptyTerritoryId => "territory with empty id"
  | .invalidMode text => "invalid battlefield mode " ++ q text
  | .duplicateTerritory id => "duplicate territory ID " ++ q id
  | .playerBase => "must have exactly one player base (id=\"p_base\")"
  | .enemyBase => "must have exactly one enemy base (id=\"e_base\")"
  | .teamASpawns =>
    "must have exactly two Team A starting fortresses (ids \"a_base_w\" and \"a_base_e\")"
  | .teamBSpawns =>
    "must have exactly two Team B starting fortresses (ids \"b_base_w\" and \"b_base_e\")"
  | .spawnFortress id => "starting fortress " ++ q id ++ " must be a tier-3 fortress"
  | .noNeutral => "must have at least one neutral territory"
  | .roadEndpoint id => "road endpoint " ++ q id ++ " does not exist"
  | .selfRoad road => "self-road [" ++ road.1 ++ ", " ++ road.2 ++ "]"
  | .duplicateRoad key => "duplicate road " ++ q key
  | .outOfBounds t =>
    "territory " ++ q t.id ++ " at (" ++ g t.x ++ ", " ++ g t.y ++ ", r=" ++ g t.radius
      ++ ") exceeds safe battlefield bounds"
  | .basesNotSymmetric => "bases are not symmetric"
  | .noCounterpart t =>
    "territory " ++ q t.id ++ " at (" ++ g t.x ++ ", " ++ g t.y
      ++ ") has no symmetric counterpart"
  | .manyCounterparts t count =>
    "territory " ++ q t.id ++ " at (" ++ g t.x ++ ", " ++ g t.y ++ ") has " ++ toString count
      ++ " territories at its counterpart coordinate; exactly one symmetric counterpart is required"
  | .counterpartOwner t =>
    match t.owner with
    | .player => "symmetric counterpart for player base " ++ q t.id ++ " is not enemy owned"
    | .enemy => "symmetric counterpart for enemy base " ++ q t.id ++ " is not player owned"
    | .neutral => "symmetric counterpart for neutral " ++ q t.id ++ " is not neutral owned"
  | .counterpartAttributes t other =>
    "territory " ++ q t.id ++ " does not have matching attributes with counterpart " ++ q other.id
  | .roadOntoItself road =>
    "road [" ++ road.1 ++ ", " ++ road.2 ++ "] maps to itself under mirroring"
  | .noMirroredRoad road a b =>
    "road [" ++ road.1 ++ ", " ++ road.2 ++ "] has no symmetric counterpart [" ++ a ++ ", " ++ b
      ++ "]"
  -- The server has no visual theme to check.
  | .visualMotif | .visualColor _ => ""

theorem roadKey_comm (a b : String) : roadKey a b = roadKey b a := by
  unfold roadKey
  rcases lt_trichotomy a b with h | h | h
  · rw [if_neg (lt_asymm h), if_pos h]
  · rw [h]
  · rw [if_pos h, if_neg (lt_asymm h)]

/-- **What the server accepts has passed the checks.** -/
theorem mapChecked_of_accepted {b : BattlefieldDefinitionJSON}
    (h : validateBattlefieldDefinition b = .ok ()) : MapChecked roadKey b.toMapDraft := by
  unfold validateBattlefieldDefinition at h
  split at h
  · cases h
  obtain ⟨seen, hids, hmap⟩ := check_then.mp h
  obtain ⟨-, -, hnodup, -⟩ := checkNew_ok hids
  split at hmap
  · exact mapChecked_of_checkMap hnodup hmap
  split at hmap
  · exact mapChecked_of_checkMap hnodup hmap
  · cases hmap

end CrownClash.Go
