import CrownClash.Battlefields
import CrownClash.Go.Validation
import CrownClash.Ts.Validation

/-!
# Accepted maps are fair, but for the texts of their roads

The half turn of an accepted map permutes its towers and exchanges the sides,
always.  Its roads it permutes exactly if the texts that stand for roads tell
them apart: the validators look for the turned road under a text made of two ids
and a sign between them, and an id may hold that sign.

`twistedMap` is accepted by both engines although its one road has no turned
road: the road from `a` to `b<->c` and its image, from `a<->b` to `c`, have one
text.  The shipped maps have no such ids, and they are fair (`shippedMaps_fair`).
-/

namespace CrownClash.Parity

open Lib

/-- **Accepted maps are fair exactly if their road keys tell.**  For either engine and every
definition it accepts: the half turn permutes the towers, and it permutes the roads as well
if and only if no turned road has the text of a road between other towers. -/
theorem acceptedMaps_fair (b : Go.BattlefieldDefinitionJSON) (d : Ts.RawBattlefield) :
    (Go.validateBattlefieldDefinition b = .ok () →
      TowersFair b.toMapDraft ∧ (MapFair b.toMapDraft ↔ KeysTell Go.roadKey b.toMapDraft)) ∧
    (Ts.validateBattlefieldDefinition d = .ok () →
      TowersFair d.toMapDraft ∧ (MapFair d.toMapDraft ↔ KeysTell Ts.roadKey d.toMapDraft)) := by
  constructor
  · intro h
    have hchecked := Go.mapChecked_of_accepted h
    exact ⟨hchecked.towersFair, hchecked.fair_iff Go.roadKey_comm⟩
  · intro h
    have hchecked := Ts.mapChecked_of_accepted h
    exact ⟨hchecked.towersFair, hchecked.fair_iff Ts.roadKey_comm⟩

/-- A shipped map as it is read from the file. -/
def draftOf (b : BattlefieldDefinition) : MapDraft := ⟨b.id, b.territories, b.roads⟩

def goDraft (b : BattlefieldDefinition) : Go.BattlefieldDefinitionJSON :=
  { draftOf b with
    mode := match b.mode with
      | .oneVOne => "1v1"
      | .twoVTwo => "2v2" }

def tsDraft (b : BattlefieldDefinition) : Ts.RawBattlefield :=
  { draftOf b with
    mode := some (match b.mode with
      | .oneVOne => "1v1"
      | .twoVTwo => "2v2")
    visual := ⟨b.id, []⟩ }

theorem acceptedMaps_fair_crownCross :
    MapFair (draftOf crownCross) ∧ TowersFair (draftOf crownCross) :=
  ⟨((acceptedMaps_fair (goDraft crownCross) (tsDraft crownCross)).1
      (by decide +kernel)).2.mpr (by decide +kernel),
    ((acceptedMaps_fair (goDraft crownCross) (tsDraft crownCross)).2 (by decide +kernel)).1⟩

/-- The two bases, four towers and one road. -/
def twistedMap : MapDraft where
  id := "crown_cross"
  territories :=
    [⟨"p_base", "Player Fortress", 200, 610, 36, .player, 20, 65, 1.2, 3, .fortress⟩,
     ⟨"e_base", "Enemy Citadel", 200, 110, 36, .enemy, 20, 65, 1.2, 3, .fortress⟩,
     ⟨"a", "West Tower", 100, 300, 20, .neutral, 8, 40, 0.9, 1, .barracks⟩,
     ⟨"a<->b", "East Tower", 300, 420, 20, .neutral, 8, 40, 0.9, 1, .barracks⟩,
     ⟨"b<->c", "North Tower", 100, 200, 20, .neutral, 8, 40, 0.9, 1, .barracks⟩,
     ⟨"c", "South Tower", 300, 520, 20, .neutral, 8, 40, 0.9, 1, .barracks⟩]
  roads := [("a", "b<->c")]

/-- **An accepted map that is not fair**, on the server and on the client. -/
theorem acceptedMaps_unfair :
    Go.validateBattlefieldDefinition ⟨twistedMap, "1v1"⟩ = .ok () ∧
      Ts.validateBattlefieldDefinition ⟨twistedMap, some "1v1", ⟨"crown_cross", []⟩⟩ = .ok () ∧
      ¬ MapFair twistedMap := by
  have hgo : Go.validateBattlefieldDefinition ⟨twistedMap, "1v1"⟩ = .ok () := by decide +kernel
  refine ⟨hgo, by decide +kernel, ?_⟩
  rw [(Go.mapChecked_of_accepted hgo).fair_iff Go.roadKey_comm]
  decide +kernel

/-- **Both engines accept the shipped maps.** -/
theorem shippedMaps_accepted : ∀ b ∈ battlefields,
    Go.validateBattlefieldDefinition (goDraft b) = .ok () ∧
      Ts.validateBattlefieldDefinition (tsDraft b) = .ok () := by
  decide +kernel

theorem shippedMaps_tell : ∀ b ∈ battlefields, KeysTell Go.roadKey (draftOf b) := by
  decide +kernel

/-- The shipped maps are fair. -/
theorem shippedMaps_fair : ∀ b ∈ battlefields, MapFair (draftOf b) := by
  intro b hb
  have hchecked := Go.mapChecked_of_accepted (shippedMaps_accepted b hb).1
  exact (hchecked.fair_iff Go.roadKey_comm).mpr (shippedMaps_tell b hb)

end CrownClash.Parity
