import CrownClash.Lib.Checks
import CrownClash.Lib.Sorting
import CrownClash.Types
import Mathlib.Algebra.Order.Group.Abs
import Mathlib.Algebra.Order.Ring.Rat
import Mathlib.Data.Set.Function
import Mathlib.Data.Sym.Sym2
import Mathlib.Tactic.Ring

/-!
# What makes a map valid

Both engines refuse a map that is not symmetric under the half turn about the
middle of the field.  They run the same checks in the same order and differ in
the checks before these, in how they compare texts, and in the words of a
refusal.  Here are the checks, over an order of texts and a key of roads; each
engine has its own validator, which applies them to its own.

`TowersFair` and `RoadsFair` are what the checks are for: the half turn permutes
the towers and the roads.  The towers are always as they should be.  The roads
are compared by a text, and `fair_iff` says when that is good enough: exactly if
no turned road has the text of a road between other towers (`KeysTell`).
-/

namespace CrownClash

open Lib

/-- A map before it is checked. -/
structure MapDraft where
  id : String
  territories : List Territory
  roads : List (String × String)
  deriving DecidableEq, Repr

/-- Why a map is refused, with what the refusal names. -/
inductive MapFlaw
  | emptyId
  | emptyTerritoryId
  | invalidMode (text : String)
  | visualMotif
  | visualColor (key : String)
  | duplicateTerritory (id : String)
  | playerBase
  | enemyBase
  | teamASpawns
  | teamBSpawns
  | spawnFortress (id : String)
  | noNeutral
  | roadEndpoint (id : String)
  | selfRoad (road : String × String)
  | duplicateRoad (key : String)
  | outOfBounds (t : Territory)
  | basesNotSymmetric
  | noCounterpart (t : Territory)
  | manyCounterparts (t : Territory) (count : ℕ)
  | counterpartOwner (t : Territory)
  | counterpartAttributes (t other : Territory)
  | roadOntoItself (road : String × String)
  | noMirroredRoad (road : String × String) (a b : String)
  deriving DecidableEq, Repr

/-! ### The checks -/

/-- `other` stands where the half turn takes `t`, up to the tolerance. -/
def isCounterpart (t other : Territory) : Bool :=
  |other.x - (400 - t.x)| < 1 / 10 ^ 4 ∧ |other.y - (720 - t.y)| < 1 / 10 ^ 4

/-- The first counterpart and the number of them. -/
def counterpartOf (territories : List Territory) (t : Territory) : Option Territory × ℕ :=
  let found := territories.filter (isCounterpart t)
  (found.head?, found.length)

def ownedBy (territories : List Territory) (owner : Team) : List Territory :=
  territories.filter fun t => t.owner = owner

section Checks

variable (lt : String → String → Bool) (key : String → String → String)

/-- The owned starting territories of either mode. -/
def checkSpawns (mode : MatchMode) (territories : List Territory) : Except MapFlaw Unit :=
  let playerBases := ownedBy territories .player
  let enemyBases := ownedBy territories .enemy
  match mode with
  | .oneVOne =>
    if playerBases.map Territory.id ≠ ["p_base"] then .error .playerBase
    else if enemyBases.map Territory.id ≠ ["e_base"] then .error .enemyBase
    else .ok ()
  | .twoVTwo =>
    if sortBy lt (playerBases.map Territory.id) ≠ ["a_base_e", "a_base_w"] then
      .error .teamASpawns
    else if sortBy lt (enemyBases.map Territory.id) ≠ ["b_base_e", "b_base_w"] then
      .error .teamBSpawns
    else
      checkEach (fun spawn =>
        if spawn.tier ≠ 3 ∨ spawn.type ≠ .fortress then .error (.spawnFortress spawn.id)
        else .ok ()) (playerBases ++ enemyBases)

def checkNeutral (territories : List Territory) : Except MapFlaw Unit :=
  if (ownedBy territories .neutral).length < 1 then .error .noNeutral else .ok ()

/-- The ends of a road are two territories of the map. -/
def checkRoad (territories : List Territory) (road : String × String) : Except MapFlaw Unit :=
  if road.1 ∉ territories.map Territory.id then .error (.roadEndpoint road.1)
  else if road.2 ∉ territories.map Territory.id then .error (.roadEndpoint road.2)
  else if road.1 = road.2 then .error (.selfRoad road)
  else .ok ()

/-- All roads, no two with one key; the answer is the keys. -/
def checkRoads (territories : List Territory) (roads : List (String × String)) :
    Except MapFlaw (List String) :=
  checkNew (fun road => key road.1 road.2) (checkRoad territories)
    (fun road => .duplicateRoad (key road.1 road.2)) [] roads

def checkBounds (t : Territory) : Except MapFlaw Unit :=
  if t.x - t.radius < 15 ∨ t.x + t.radius > 385 ∨ t.y - t.radius < 70 ∨ t.y + t.radius > 650 then
    .error (.outOfBounds t)
  else .ok ()

/-- The two bases of a duel stand opposite each other. -/
def checkAxis (mode : MatchMode) (territories : List Territory) : Except MapFlaw Unit :=
  match mode, (ownedBy territories .player).head?, (ownedBy territories .enemy).head? with
  | .oneVOne, some pBase, some eBase =>
    if pBase.x ≠ eBase.x ∨ pBase.y + eBase.y ≠ 720 then .error .basesNotSymmetric else .ok ()
  | _, _, _ => .ok ()

def checkCounterpart (territories : List Territory) (t : Territory) : Except MapFlaw Unit :=
  match counterpartOf territories t with
  | (none, _) => .error (.noCounterpart t)
  | (some other, count) =>
    if count > 1 then .error (.manyCounterparts t count)
    else if t.owner = .player ∧ other.owner ≠ .enemy then .error (.counterpartOwner t)
    else if t.owner = .enemy ∧ other.owner ≠ .player then .error (.counterpartOwner t)
    else if t.owner = .neutral ∧ other.owner ≠ .neutral then .error (.counterpartOwner t)
    else if t.tier ≠ other.tier ∨ t.type ≠ other.type ∨ t.units ≠ other.units ∨
        t.maxUnits ≠ other.maxUnits ∨ t.productionRate ≠ other.productionRate ∨
        t.radius ≠ other.radius then .error (.counterpartAttributes t other)
    else .ok ()

/-- The turned road has the key of a road.  The earlier checks see to it that both ends
and both counterparts are found. -/
def checkMirroredRoad (mode : MatchMode) (territories : List Territory) (seen : List String)
    (road : String × String) : Except MapFlaw Unit :=
  match territories.find? (fun t => t.id = road.1), territories.find? (fun t => t.id = road.2) with
  | some a, some b =>
    match (counterpartOf territories a).1, (counterpartOf territories b).1 with
    | some rotA, some rotB =>
      if mode = .twoVTwo ∧ key rotA.id rotB.id = key road.1 road.2 then
        .error (.roadOntoItself road)
      else if key rotA.id rotB.id ∉ seen then .error (.noMirroredRoad road rotA.id rotB.id)
      else .ok ()
    | _, _ => .ok ()
  | _, _ => .ok ()

/-- The checks from the starting territories on. -/
def checkMap (mode : MatchMode) (d : MapDraft) : Except MapFlaw Unit := do
  checkSpawns lt mode d.territories
  checkNeutral d.territories
  let seen ← checkRoads key d.territories d.roads
  checkEach checkBounds d.territories
  checkAxis mode d.territories
  checkEach (checkCounterpart d.territories) d.territories
  checkEach (checkMirroredRoad key mode d.territories seen) d.roads

end Checks

/-! ### Fair maps -/

/-- The counterpart of a territory. -/
def rotated (territories : List Territory) (t : Territory) : Territory :=
  (counterpartOf territories t).1.getD t

/-- **The half turn permutes the towers** and exchanges the two sides. -/
structure TowersFair (d : MapDraft) : Prop where
  counterpart : ∀ t ∈ d.territories, ∀ other ∈ d.territories,
    isCounterpart t other = true ↔ other = rotated d.territories t
  bijective : Set.BijOn (rotated d.territories) {t | t ∈ d.territories} {t | t ∈ d.territories}
  involutive : ∀ t ∈ d.territories, rotated d.territories (rotated d.territories t) = t
  player : ∀ t ∈ d.territories, t.owner = .player → (rotated d.territories t).owner = .enemy
  enemy : ∀ t ∈ d.territories, t.owner = .enemy → (rotated d.territories t).owner = .player
  neutral : ∀ t ∈ d.territories, t.owner = .neutral → (rotated d.territories t).owner = .neutral
  type : ∀ t ∈ d.territories, (rotated d.territories t).type = t.type
  tier : ∀ t ∈ d.territories, (rotated d.territories t).tier = t.tier
  units : ∀ t ∈ d.territories, (rotated d.territories t).units = t.units
  capacity : ∀ t ∈ d.territories, (rotated d.territories t).maxUnits = t.maxUnits
  production : ∀ t ∈ d.territories, (rotated d.territories t).productionRate = t.productionRate
  radius : ∀ t ∈ d.territories, (rotated d.territories t).radius = t.radius

/-- The undirected roads, as pairs of towers. -/
def roadSet (d : MapDraft) : Set (Sym2 Territory) :=
  {e | ∃ a ∈ d.territories, ∃ b ∈ d.territories, (a.id, b.id) ∈ d.roads ∧ e = s(a, b)}

/-- **The half turn permutes the roads.** -/
def RoadsFair (d : MapDraft) : Prop :=
  Set.image (Sym2.map (rotated d.territories)) (roadSet d) = roadSet d

structure MapFair (d : MapDraft) : Prop where
  towers : TowersFair d
  roads : RoadsFair d

/-- No turned road has the key of a road between other towers. -/
def KeysTell (key : String → String → String) (d : MapDraft) : Prop :=
  ∀ road ∈ d.roads,
    ∀ a ∈ d.territories, a.id = road.1 → ∀ b ∈ d.territories, b.id = road.2 →
    ∀ a' ∈ d.territories, isCounterpart a a' = true →
    ∀ b' ∈ d.territories, isCounterpart b b' = true →
    ∀ other ∈ d.roads, key a'.id b'.id = key other.1 other.2 →
      s(a'.id, b'.id) = s(other.1, other.2)

instance (key : String → String → String) (d : MapDraft) : Decidable (KeysTell key d) :=
  inferInstanceAs (Decidable (∀ road ∈ d.roads,
    ∀ a ∈ d.territories, a.id = road.1 → ∀ b ∈ d.territories, b.id = road.2 →
    ∀ a' ∈ d.territories, isCounterpart a a' = true →
    ∀ b' ∈ d.territories, isCounterpart b b' = true →
    ∀ other ∈ d.roads, key a'.id b'.id = key other.1 other.2 →
      s(a'.id, b'.id) = s(other.1, other.2)))

/-! ### What the checks establish -/

/-- What an accepted map has passed, of what matters for its symmetry. -/
structure MapChecked (key : String → String → String) (d : MapDraft) : Prop where
  ids : (d.territories.map Territory.id).Nodup
  roads : ∀ road ∈ d.roads, checkRoad d.territories road = .ok ()
  keys : (d.roads.map fun road => key road.1 road.2).Nodup
  counterparts : ∀ t ∈ d.territories, checkCounterpart d.territories t = .ok ()
  mirrored : ∃ mode, ∃ seen : List String,
    (∀ k, k ∈ seen ↔ k ∈ d.roads.map fun road => key road.1 road.2) ∧
      ∀ road ∈ d.roads, checkMirroredRoad key mode d.territories seen road = .ok ()

theorem mapChecked_of_checkMap {lt : String → String → Bool} {key : String → String → String}
    {mode : MatchMode} {d : MapDraft} (hids : (d.territories.map Territory.id).Nodup)
    (h : checkMap lt key mode d = .ok ()) : MapChecked key d := by
  unfold checkMap at h
  simp only [check_then] at h
  obtain ⟨_, _, _, _, seen, hseen, _, _, _, _, u, hcounterparts, hmirrored⟩ := h
  obtain ⟨hroads, -, hkeys, hmem⟩ := checkNew_ok hseen
  refine ⟨hids, hroads, hkeys, checkEach_ok.mp hcounterparts, mode, seen, fun k => ?_,
    checkEach_ok.mp hmirrored⟩
  rw [hmem]
  exact ⟨fun hk => hk.resolve_left List.not_mem_nil, Or.inr⟩

/-- Standing opposite is mutual. -/
theorem isCounterpart_comm (t other : Territory) : isCounterpart t other = isCounterpart other t := by
  have hx : other.x - (400 - t.x) = t.x - (400 - other.x) := by ring
  have hy : other.y - (720 - t.y) = t.y - (720 - other.y) := by ring
  unfold isCounterpart
  rw [hx, hy]

/-- What is said of a territory and its only counterpart. -/
structure Opposite (t other : Territory) : Prop where
  player : t.owner = .player → other.owner = .enemy
  enemy : t.owner = .enemy → other.owner = .player
  neutral : t.owner = .neutral → other.owner = .neutral
  type : other.type = t.type
  tier : other.tier = t.tier
  units : other.units = t.units
  capacity : other.maxUnits = t.maxUnits
  production : other.productionRate = t.productionRate
  radius : other.radius = t.radius

theorem checkCounterpart_ok {territories : List Territory} {t : Territory}
    (h : checkCounterpart territories t = .ok ()) :
    territories.filter (isCounterpart t) = [rotated territories t] ∧
      Opposite t (rotated territories t) := by
  unfold checkCounterpart at h
  cases hf : territories.filter (isCounterpart t) with
  | nil =>
    have hnone : counterpartOf territories t = (none, 0) := by
      unfold counterpartOf
      rw [hf]
      rfl
    rw [hnone] at h
    cases h
  | cons other rest =>
    have hsome : counterpartOf territories t = (some other, rest.length + 1) := by
      unfold counterpartOf
      rw [hf]
      rfl
    have hrot : rotated territories t = other := by
      unfold rotated
      rw [hsome]
      rfl
    rw [hsome] at h
    dsimp only at h
    rw [hrot]
    split at h
    · cases h
    next hcount =>
    split at h
    · cases h
    next hp =>
    split at h
    · cases h
    next he =>
    split at h
    · cases h
    next hn =>
    split at h
    · cases h
    next ha =>
    have hrest : rest = [] := List.length_eq_zero_iff.mp (by omega)
    simp only [not_or, not_not] at ha
    obtain ⟨h1, h2, h3, h4, h5, h6⟩ := ha
    refine ⟨by rw [hrest], ?_⟩
    exact
      { player := fun ho => not_not.mp fun hc => hp ⟨ho, hc⟩
        enemy := fun ho => not_not.mp fun hc => he ⟨ho, hc⟩
        neutral := fun ho => not_not.mp fun hc => hn ⟨ho, hc⟩
        type := h2.symm
        tier := h1.symm
        units := h3.symm
        capacity := h4.symm
        production := h5.symm
        radius := h6.symm }

section Checked

variable {key : String → String → String} {d : MapDraft}

theorem MapChecked.isCounterpart_iff (h : MapChecked key d) {t other : Territory}
    (ht : t ∈ d.territories) (ho : other ∈ d.territories) :
    isCounterpart t other = true ↔ other = rotated d.territories t := by
  obtain ⟨hone, -⟩ := checkCounterpart_ok (h.counterparts t ht)
  rw [← List.mem_singleton (a := other), ← hone, List.mem_filter]
  exact ⟨fun hc => ⟨ho, hc⟩, And.right⟩

theorem MapChecked.rotated_mem (h : MapChecked key d) {t : Territory} (ht : t ∈ d.territories) :
    rotated d.territories t ∈ d.territories := by
  obtain ⟨hone, -⟩ := checkCounterpart_ok (h.counterparts t ht)
  have hmem : rotated d.territories t ∈ d.territories.filter (isCounterpart t) := by
    rw [hone]
    exact List.mem_singleton_self _
  exact List.mem_of_mem_filter hmem

/-- **Turning twice is turning back**: standing opposite is mutual, and each has one opposite. -/
theorem MapChecked.rotated_rotated (h : MapChecked key d) {t : Territory}
    (ht : t ∈ d.territories) : rotated d.territories (rotated d.territories t) = t := by
  have hr := h.rotated_mem ht
  have hc : isCounterpart t (rotated d.territories t) = true :=
    (h.isCounterpart_iff ht hr).mpr rfl
  rw [isCounterpart_comm] at hc
  exact ((h.isCounterpart_iff hr ht).mp hc).symm

theorem MapChecked.towersFair (h : MapChecked key d) : TowersFair d := by
  have hopposite : ∀ t ∈ d.territories, Opposite t (rotated d.territories t) :=
    fun t ht => (checkCounterpart_ok (h.counterparts t ht)).2
  exact
    { counterpart := fun t ht other ho => h.isCounterpart_iff ht ho
      bijective := by
        refine ⟨fun t ht => h.rotated_mem ht, fun t ht u hu he => ?_, fun t ht => ?_⟩
        · rw [← h.rotated_rotated ht, he, h.rotated_rotated hu]
        · exact ⟨rotated d.territories t, h.rotated_mem ht, h.rotated_rotated ht⟩
      involutive := fun t ht => h.rotated_rotated ht
      player := fun t ht => (hopposite t ht).player
      enemy := fun t ht => (hopposite t ht).enemy
      neutral := fun t ht => (hopposite t ht).neutral
      type := fun t ht => (hopposite t ht).type
      tier := fun t ht => (hopposite t ht).tier
      units := fun t ht => (hopposite t ht).units
      capacity := fun t ht => (hopposite t ht).capacity
      production := fun t ht => (hopposite t ht).production
      radius := fun t ht => (hopposite t ht).radius }

/-- A territory is found under its id. -/
theorem MapChecked.find? (h : MapChecked key d) {t : Territory} (ht : t ∈ d.territories) :
    d.territories.find? (fun u => u.id = t.id) = some t := by
  cases hf : d.territories.find? (fun u => u.id = t.id) with
  | none =>
    have hno := List.find?_eq_none.mp hf t ht
    exact absurd (decide_eq_true rfl) hno
  | some u =>
    have hid : u.id = t.id := by
      have hu := List.find?_some hf
      exact of_decide_eq_true hu
    have hmem := List.mem_of_find?_eq_some hf
    rw [List.inj_on_of_nodup_map h.ids hmem ht hid]

/-- The turned road has the key of a road. -/
theorem MapChecked.mirrored_key (h : MapChecked key d) {a b : Territory} (ha : a ∈ d.territories)
    (hb : b ∈ d.territories) (hroad : (a.id, b.id) ∈ d.roads) :
    ∃ other ∈ d.roads, key other.1 other.2
      = key (rotated d.territories a).id (rotated d.territories b).id := by
  obtain ⟨mode, seen, hseen, hmirrored⟩ := h.mirrored
  have hsome : ∀ t ∈ d.territories,
      (counterpartOf d.territories t).1 = some (rotated d.territories t) := by
    intro t ht
    obtain ⟨hone, -⟩ := checkCounterpart_ok (h.counterparts t ht)
    unfold counterpartOf
    rw [hone]
    rfl
  have hcheck := hmirrored _ hroad
  unfold checkMirroredRoad at hcheck
  rw [h.find? ha, h.find? hb] at hcheck
  dsimp only at hcheck
  rw [hsome a ha, hsome b hb] at hcheck
  dsimp only at hcheck
  split at hcheck
  · cases hcheck
  split at hcheck
  · cases hcheck
  next hk =>
  exact List.mem_map.mp ((hseen _).mp (not_not.mp hk))

/-- Two towers whose ids are the ends of a road are joined by it. -/
theorem mem_roadSet_of_ends {a b : Territory} (ha : a ∈ d.territories) (hb : b ∈ d.territories)
    {road : String × String} (hr : road ∈ d.roads) (he : s(a.id, b.id) = s(road.1, road.2)) :
    s(a, b) ∈ roadSet d := by
  obtain ⟨u, v⟩ := road
  rcases Sym2.eq_iff.mp he with ⟨hu, hv⟩ | ⟨hv, hu⟩
  · exact ⟨a, ha, b, hb, by rw [hu, hv]; exact hr, rfl⟩
  · exact ⟨b, hb, a, ha, by rw [hu, hv]; exact hr, Sym2.eq_swap⟩

/-- **When the texts are good enough.**  The roads of an accepted map are turned into its roads
exactly if no turned road has the key of a road between other towers. -/
theorem MapChecked.roadsFair_iff (h : MapChecked key d) (hcomm : ∀ a b, key a b = key b a) :
    RoadsFair d ↔ KeysTell key d := by
  constructor
  · intro hfair road hr a ha hida b hb hidb a' ha' hca b' hb' hcb other ho hkey
    have hroad : s(a, b) ∈ roadSet d :=
      mem_roadSet_of_ends ha hb hr (by rw [hida, hidb])
    have hturned : s(a', b') ∈ roadSet d := by
      rw [(h.isCounterpart_iff ha ha').mp hca, (h.isCounterpart_iff hb hb').mp hcb, ← hfair]
      exact ⟨s(a, b), hroad, Sym2.map_mk _ _ _⟩
    obtain ⟨u, hu, v, hv, huv, he⟩ := hturned
    have hids : s(a'.id, b'.id) = s(u.id, v.id) := by
      have hmap := congrArg (Sym2.map Territory.id) he
      rw [Sym2.map_mk, Sym2.map_mk] at hmap
      exact hmap
    have hsame : key u.id v.id = key other.1 other.2 := by
      rw [← hkey]
      rcases Sym2.eq_iff.mp hids with ⟨h1, h2⟩ | ⟨h1, h2⟩
      · rw [h1, h2]
      · rw [h1, h2, hcomm]
    have hroads : ((u.id, v.id) : String × String) = other :=
      List.inj_on_of_nodup_map h.keys huv ho hsame
    rw [hids, ← hroads]
  · intro htell
    have himage : ∀ e ∈ roadSet d, Sym2.map (rotated d.territories) e ∈ roadSet d := by
      rintro e ⟨a, ha, b, hb, hroad, rfl⟩
      obtain ⟨other, ho, hkey⟩ := h.mirrored_key ha hb hroad
      have hra := h.rotated_mem ha
      have hrb := h.rotated_mem hb
      have hends := htell _ hroad a ha rfl b hb rfl _ hra ((h.isCounterpart_iff ha hra).mpr rfl)
        _ hrb ((h.isCounterpart_iff hb hrb).mpr rfl) other ho hkey.symm
      rw [Sym2.map_mk]
      exact mem_roadSet_of_ends hra hrb ho hends
    refine Set.Subset.antisymm ?_ ?_
    · rintro e ⟨e', he', rfl⟩
      exact himage e' he'
    · rintro e he
      obtain ⟨a, ha, b, hb, hroad, rfl⟩ := he
      refine ⟨_, himage _ ⟨a, ha, b, hb, hroad, rfl⟩, ?_⟩
      rw [Sym2.map_mk, Sym2.map_mk, h.rotated_rotated ha, h.rotated_rotated hb]

theorem MapChecked.fair_iff (h : MapChecked key d) (hcomm : ∀ a b, key a b = key b a) :
    MapFair d ↔ KeysTell key d := by
  rw [← h.roadsFair_iff hcomm]
  exact ⟨MapFair.roads, fun hr => ⟨h.towersFair, hr⟩⟩

end Checked

end CrownClash
