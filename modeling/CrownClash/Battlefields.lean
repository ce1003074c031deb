import CrownClash.Types

/-!
# The shipped battlefields

One data file serves both engines: the server embeds it, the client imports it.
A definition is its mode, the territories in file order and the roads between
them.  The two checks of `validateBattlefieldDefinition` that the engines later
rely on, distinct territory ids and roads that join two different territories
of the map, are fields, so no malformed map can be written down.

The file order of the territories is the order in which the server walks a map
and in which the client inserts the keys of its record.
-/

namespace CrownClash

open Lib

structure BattlefieldDefinition where
  id : String
  mode : MatchMode
  territories : List Territory
  roads : List (String × String)
  nodup_ids : (territories.map Territory.id).Nodup
  roads_valid : ∀ road ∈ roads, road.1 ∈ territories.map Territory.id ∧
    road.2 ∈ territories.map Territory.id ∧ road.1 ≠ road.2

/-- The territory ids of a map in file order. -/
def BattlefieldDefinition.order (b : BattlefieldDefinition) : List String :=
  b.territories.map Territory.id

/-- The territories of a map by id, in file order. -/
def BattlefieldDefinition.templates (b : BattlefieldDefinition) : Record String Territory where
  entries := b.territories.map fun t => (t.id, t)
  nodup := by
    rw [List.map_map]
    exact b.nodup_ids

def crownCross : BattlefieldDefinition where
  id := "crown_cross"
  mode := .oneVOne
  territories :=
    [⟨"p_base", "Player Fortress", 200, 610, 36, .player, 20, 65, 1.2, 3, .fortress⟩,
     ⟨"e_base", "Enemy Citadel", 200, 110, 36, .enemy, 20, 65, 1.2, 3, .fortress⟩,
     ⟨"n_bot_left", "Southwest Barracks", 85, 485, 27, .neutral, 8, 40, 0.9, 1, .barracks⟩,
     ⟨"n_bot_right", "Southeast Stable", 315, 485, 27, .neutral, 8, 40, 0.9, 1, .stable⟩,
     ⟨"n_center", "Crown Keep", 200, 360, 32, .neutral, 14, 55, 1.1, 2, .fortress⟩,
     ⟨"n_mid_left", "West Barracks", 75, 360, 26, .neutral, 10, 40, 0.85, 1, .barracks⟩,
     ⟨"n_mid_right", "East Barracks", 325, 360, 26, .neutral, 10, 40, 0.85, 1, .barracks⟩,
     ⟨"n_top_left", "Northwest Stable", 85, 235, 27, .neutral, 8, 40, 0.9, 1, .stable⟩,
     ⟨"n_top_right", "Northeast Barracks", 315, 235, 27, .neutral, 8, 40, 0.9, 1, .barracks⟩]
  roads :=
    [("p_base", "n_bot_left"), ("p_base", "n_center"), ("p_base", "n_bot_right"),
     ("n_bot_left", "n_mid_left"), ("n_bot_right", "n_mid_right"), ("n_mid_left", "n_center"),
     ("n_mid_right", "n_center"), ("n_mid_left", "n_top_left"), ("n_mid_right", "n_top_right"),
     ("n_center", "e_base"), ("n_top_left", "e_base"), ("n_top_right", "e_base"),
     ("n_bot_left", "n_center"), ("n_bot_right", "n_center"), ("n_top_left", "n_center"),
     ("n_top_right", "n_center")]
  nodup_ids := by decide
  roads_valid := by decide

def twinPasses : BattlefieldDefinition where
  id := "twin_passes"
  mode := .oneVOne
  territories :=
    [⟨"p_base", "Player Fortress", 200, 610, 36, .player, 20, 65, 1.2, 3, .fortress⟩,
     ⟨"e_base", "Enemy Citadel", 200, 110, 36, .enemy, 20, 65, 1.2, 3, .fortress⟩,
     ⟨"n_west_gate_s", "Southwest Gate", 100, 490, 27, .neutral, 8, 40, 0.9, 1, .stable⟩,
     ⟨"n_west_pass", "West Pass", 90, 360, 28, .neutral, 14, 45, 1.0, 2, .barracks⟩,
     ⟨"n_west_gate_n", "Northwest Gate", 100, 230, 27, .neutral, 8, 40, 0.9, 1, .stable⟩,
     ⟨"n_east_gate_s", "Southeast Gate", 300, 490, 27, .neutral, 8, 40, 0.9, 1, .stable⟩,
     ⟨"n_east_pass", "East Pass", 310, 360, 28, .neutral, 14, 45, 1.0, 2, .barracks⟩,
     ⟨"n_east_gate_n", "Northeast Gate", 300, 230, 27, .neutral, 8, 40, 0.9, 1, .stable⟩]
  roads :=
    [("p_base", "n_west_gate_s"), ("p_base", "n_east_gate_s"), ("n_west_gate_s", "n_west_pass"),
     ("n_east_gate_s", "n_east_pass"), ("n_west_pass", "n_east_pass"),
     ("n_west_pass", "n_west_gate_n"), ("n_east_pass", "n_east_gate_n"),
     ("n_west_gate_n", "e_base"), ("n_east_gate_n", "e_base")]
  nodup_ids := by decide
  roads_valid := by decide

def royalRing : BattlefieldDefinition where
  id := "royal_ring"
  mode := .oneVOne
  territories :=
    [⟨"p_base", "Player Fortress", 200, 610, 36, .player, 20, 65, 1.2, 3, .fortress⟩,
     ⟨"e_base", "Enemy Citadel", 200, 110, 36, .enemy, 20, 65, 1.2, 3, .fortress⟩,
     ⟨"n_ring_sw", "Southwest Bastion", 125, 505, 26, .neutral, 9, 40, 0.9, 1, .barracks⟩,
     ⟨"n_ring_se", "Southeast Bastion", 275, 505, 26, .neutral, 9, 40, 0.9, 1, .barracks⟩,
     ⟨"n_ring_w_s", "West Lower Outpost", 65, 415, 26, .neutral, 8, 40, 0.85, 1, .stable⟩,
     ⟨"n_ring_e_s", "East Lower Outpost", 335, 415, 26, .neutral, 8, 40, 0.85, 1, .stable⟩,
     ⟨"n_ring_w_n", "West Upper Outpost", 65, 305, 26, .neutral, 8, 40, 0.85, 1, .stable⟩,
     ⟨"n_ring_e_n", "East Upper Outpost", 335, 305, 26, .neutral, 8, 40, 0.85, 1, .stable⟩,
     ⟨"n_ring_nw", "Northwest Bastion", 125, 215, 26, .neutral, 9, 40, 0.9, 1, .barracks⟩,
     ⟨"n_ring_ne", "Northeast Bastion", 275, 215, 26, .neutral, 9, 40, 0.9, 1, .barracks⟩]
  roads :=
    [("p_base", "n_ring_sw"), ("p_base", "n_ring_se"), ("n_ring_sw", "n_ring_se"),
     ("n_ring_sw", "n_ring_w_s"), ("n_ring_se", "n_ring_e_s"), ("n_ring_w_s", "n_ring_w_n"),
     ("n_ring_e_s", "n_ring_e_n"), ("n_ring_w_n", "n_ring_nw"), ("n_ring_e_n", "n_ring_ne"),
     ("n_ring_nw", "n_ring_ne"), ("n_ring_nw", "e_base"), ("n_ring_ne", "e_base"),
     ("n_ring_w_s", "n_ring_e_n"), ("n_ring_e_s", "n_ring_w_n")]
  nodup_ids := by decide
  roads_valid := by decide

def quadCitadel : BattlefieldDefinition where
  id := "quad_citadel"
  mode := .twoVTwo
  territories :=
    [⟨"a_base_w", "West Bastion", 90, 590, 36, .player, 20, 65, 1.2, 3, .fortress⟩,
     ⟨"a_base_e", "East Bastion", 310, 590, 36, .player, 20, 65, 1.2, 3, .fortress⟩,
     ⟨"b_base_w", "North Citadel West", 90, 130, 36, .enemy, 20, 65, 1.2, 3, .fortress⟩,
     ⟨"b_base_e", "North Citadel East", 310, 130, 36, .enemy, 20, 65, 1.2, 3, .fortress⟩,
     ⟨"a_gate_w", "South Gate West", 115, 470, 27, .neutral, 8, 40, 0.9, 1, .barracks⟩,
     ⟨"a_gate_e", "South Gate East", 285, 470, 27, .neutral, 8, 40, 0.9, 1, .stable⟩,
     ⟨"b_gate_w", "North Gate East", 285, 250, 27, .neutral, 8, 40, 0.9, 1, .barracks⟩,
     ⟨"b_gate_e", "North Gate West", 115, 250, 27, .neutral, 8, 40, 0.9, 1, .stable⟩,
     ⟨"n_corner_sw", "Southwest Spur", 60, 540, 26, .neutral, 8, 40, 0.9, 1, .stable⟩,
     ⟨"n_corner_se", "Southeast Spur", 340, 540, 26, .neutral, 8, 40, 0.9, 1, .barracks⟩,
     ⟨"n_corner_nw", "Northwest Spur", 60, 180, 26, .neutral, 8, 40, 0.9, 1, .barracks⟩,
     ⟨"n_corner_ne", "Northeast Spur", 340, 180, 26, .neutral, 8, 40, 0.9, 1, .stable⟩,
     ⟨"n_center", "Quad Keep", 200, 360, 34, .neutral, 16, 55, 1.15, 2, .fortress⟩]
  roads :=
    [("a_base_w", "a_base_e"), ("a_base_w", "a_gate_w"), ("a_base_e", "a_gate_e"),
     ("a_gate_w", "n_center"), ("a_gate_e", "n_center"), ("a_base_w", "n_corner_sw"),
     ("a_base_e", "n_corner_se"), ("n_corner_sw", "a_gate_w"), ("n_corner_se", "a_gate_e"),
     ("n_corner_sw", "n_corner_se"), ("b_base_w", "b_base_e"), ("b_base_e", "b_gate_w"),
     ("b_base_w", "b_gate_e"), ("b_gate_w", "n_center"), ("b_gate_e", "n_center"),
     ("b_base_e", "n_corner_ne"), ("b_base_w", "n_corner_nw"), ("n_corner_ne", "b_gate_w"),
     ("n_corner_nw", "b_gate_e"), ("n_corner_ne", "n_corner_nw")]
  nodup_ids := by decide
  roads_valid := by decide

/-- The data file, in order. -/
def battlefields : List BattlefieldDefinition := [crownCross, twinPasses, royalRing, quadCitadel]

theorem quadCitadel_mem : quadCitadel ∈ battlefields :=
  List.mem_cons_of_mem _ (List.mem_cons_of_mem _ (List.mem_cons_of_mem _ List.mem_cons_self))

/-- The definition of an id, and `crown_cross` for an id that names no map. -/
def battlefieldOf (id : String) : BattlefieldDefinition :=
  (battlefields.find? fun b => b.id = id).getD crownCross

theorem battlefieldOf_mem (id : String) : battlefieldOf id ∈ battlefields := by
  unfold battlefieldOf
  cases h : battlefields.find? fun b => b.id = id with
  | none => exact List.mem_cons_self
  | some b => exact List.mem_of_find?_eq_some h

/-- The state is played on a shipped map. -/
def KnownMap (state : GameState) : Prop := ∃ b ∈ battlefields, b.id = state.battlefieldId

end CrownClash
