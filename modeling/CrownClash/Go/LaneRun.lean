import CrownClash.Go.BotRun
import CrownClash.Go.Lanes

/-!
# Server: what a lane battle keeps

`LanesOk` says that the battle is well formed, that every tower has a tier, and
that every lane joins two different towers of the map.  Opening, cutting, the
step and the plan of the bot keep it.

A lane step writes towers in two places, where a soldier arrives and where one
leaves.  `moveSoldiers_map` and `emitLanes_map` say what both leave alone, as an
equation between records: whatever is read off a tower and does not depend on
its garrison (and, for arrivals, on its owner) is the same after the loop.
-/

namespace CrownClash.Go

open Lib

/-- A lane joins two different towers of the map. -/
structure LaneEndsOk (state : GameState) (l : Lane) : Prop where
  source : l.sourceId ∈ state.territories.keys
  target : l.targetId ∈ state.territories.keys
  ne : l.sourceId ≠ l.targetId

structure LanesOk (state : GameState) (lanes : LaneState) : Prop where
  ok : BattleOk state
  tiers : AllTowers (fun _ t => 0 < t.tier) state
  ends : ∀ l ∈ lanes.lanes, LaneEndsOk state l

theorem LaneEndsOk.congr {s s' : GameState} {l l' : Lane} (h : LaneEndsOk s l)
    (hk : s'.territories.keys = s.territories.keys) (hs : l'.sourceId = l.sourceId)
    (ht : l'.targetId = l.targetId) : LaneEndsOk s' l' where
  source := by rw [hk, hs]; exact h.source
  target := by rw [hk, ht]; exact h.target
  ne := by rw [hs, ht]; exact h.ne

/-! ### Opening and cutting -/

theorem cutLane_lanes (lanes : LaneState) (owner : Team) (sourceId targetId : String) :
    (cutLane lanes owner sourceId targetId).1.lanes
      = lanes.lanes.filter fun l => !l.connects owner sourceId targetId := by
  unfold cutLane
  dsimp only
  split
  · next h => exact (List.filter_eq_self.mpr (List.length_filter_eq_length_iff.mp h)).symm
  · rfl

theorem LanesOk.cut {state : GameState} {lanes : LaneState} (h : LanesOk state lanes)
    (owner : Team) (sourceId targetId : String) :
    LanesOk state (cutLane lanes owner sourceId targetId).1 := by
  refine { h with ends := ?_ }
  intro l hl
  rw [cutLane_lanes] at hl
  exact h.ends l (List.mem_of_mem_filter hl)

section Opening

variable [MathLib]

/-- A route joins two different towers of the map. -/
theorem findDispatchRoute_ends {state : GameState} {sourceId targetId : String} {owner : Team}
    {route : List String} (h : findDispatchRoute state sourceId targetId owner = some route) :
    sourceId ∈ state.territories.keys ∧ targetId ∈ state.territories.keys ∧
      sourceId ≠ targetId := by
  unfold findDispatchRoute at h
  cases hs : state.territories.get? sourceId with
  | none => rw [hs] at h; cases h
  | some source =>
    cases ht : state.territories.get? targetId with
    | none => rw [hs, ht] at h; cases h
    | some target =>
      rw [hs, ht] at h
      dsimp only at h
      split at h
      · cases h
      · next hc =>
        exact ⟨Record.mem_keys_of_get? hs, Record.mem_keys_of_get? ht, fun he => hc (Or.inl he)⟩

/-- **What opening a lane can do**: nothing, or one lane more at the end, which no lane of the
side joined before and for which the tower still had room. -/
theorem openLane_spec (state : GameState) (lanes : LaneState) (owner : Team)
    (sourceId targetId : String) :
    openLane state lanes owner sourceId targetId = lanes ∨
      (∀ l ∈ lanes.lanes, ¬ (l.owner = owner ∧ l.sourceId = sourceId ∧ l.targetId = targetId)) ∧
      countLanes lanes.lanes owner sourceId < maxLanes state sourceId ∧
      ∃ route, findDispatchRoute state sourceId targetId owner = some route ∧
        openLane state lanes owner sourceId targetId
          = { lanes with
              lanes := lanes.lanes ++ [⟨"lane_" ++ toString lanes.nextLaneId, owner, sourceId,
                targetId, route, 0⟩]
              nextLaneId := lanes.nextLaneId + 1 } := by
  unfold openLane
  split
  · exact Or.inl rfl
  next hany =>
  split
  · exact Or.inl rfl
  next hcount =>
  cases hr : findDispatchRoute state sourceId targetId owner with
  | none => exact Or.inl rfl
  | some route =>
    refine Or.inr ⟨fun l hl hsame => hany ?_, not_le.mp hcount, route, rfl, rfl⟩
    exact List.any_eq_true.mpr ⟨l, hl, Lane.connects_iff.mpr hsame⟩

theorem openLane_cases (state : GameState) (lanes : LaneState) (owner : Team)
    (sourceId targetId : String) :
    openLane state lanes owner sourceId targetId = lanes ∨
      ∃ route, findDispatchRoute state sourceId targetId owner = some route ∧
        openLane state lanes owner sourceId targetId
          = { lanes with
              lanes := lanes.lanes ++ [⟨"lane_" ++ toString lanes.nextLaneId, owner, sourceId,
                targetId, route, 0⟩]
              nextLaneId := lanes.nextLaneId + 1 } := by
  rcases openLane_spec state lanes owner sourceId targetId with he | ⟨-, -, hr⟩
  · exact Or.inl he
  · exact Or.inr hr

theorem LanesOk.open {state : GameState} {lanes : LaneState} (h : LanesOk state lanes)
    (owner : Team) (sourceId targetId : String) :
    LanesOk state (openLane state lanes owner sourceId targetId) := by
  rcases openLane_cases state lanes owner sourceId targetId with he | ⟨route, hr, he⟩
  · rw [he]
    exact h
  · rw [he]
    refine { h with ends := ?_ }
    intro l hl
    rcases List.mem_append.mp hl with hl | hl
    · exact h.ends l hl
    · rw [List.mem_singleton] at hl
      subst hl
      obtain ⟨hs, ht, hne⟩ := findDispatchRoute_ends hr
      exact ⟨hs, ht, hne⟩

theorem LanesOk.planEnemy {state : GameState} {lanes : LaneState} (h : LanesOk state lanes) :
    LanesOk state (planEnemy state lanes) := by
  unfold Go.planEnemy
  dsimp only
  refine foldl_preserves (P := LanesOk state) (fun lanes o _ hl => hl.open .enemy _ _) ?_
  exact foldl_preserves (P := LanesOk state) (fun lanes o _ hl => hl.cut .enemy _ _) h

end Opening

/-! ### The two loops of a step -/

/-- Everything about a tower but its garrison. -/
def standing (t : Territory) : Territory := { t with units := 0 }

/-- Everything about a tower but its garrison and its owner. -/
def ground (t : Territory) : Territory := { t with units := 0, owner := .neutral }

/-- Towers that stand as before are on the ground they were. -/
theorem ground_of_standing (r : Record String Territory) :
    (r.map fun _ => ground) = (r.map fun _ => standing).map fun _ => ground := by
  refine Record.ext ?_
  change List.map _ _ = List.map _ (List.map _ _)
  rw [List.map_map]
  rfl

theorem meetTower_ground (soldier : Soldier) (t : Territory) :
    ground (meetTower soldier t) = ground t := by
  unfold meetTower
  split
  · rfl
  · split <;> rfl

/-- A tower is written back with what is read off it unchanged. -/
theorem map_set_same {β : Type} {r : Record String Territory} {id : String} {t t' : Territory}
    (f : Territory → β) (ht : r.get? id = some t) (hf : f t' = f t) :
    (r.set id t').map (fun _ => f) = r.map fun _ => f := by
  rw [Record.map_set, hf]
  refine Record.set_of_get? ?_
  rw [Record.get?_map, ht, Option.map_some]

theorem keys_of_map_eq {β : Type} {f : Territory → β} {r r' : Record String Territory}
    (h : (r'.map fun _ => f) = r.map fun _ => f) : r'.keys = r.keys := by
  rw [← Record.keys_map (fun _ => f) r', h, Record.keys_map]

/-- What holds of a tower's ground holds after the step. -/
theorem allTowers_of_ground {Q : String → Territory → Prop} {s s' : GameState}
    (hg : (s'.territories.map fun _ => ground)
      = s.territories.map fun _ => ground)
    (hq : ∀ id t t', ground t' = ground t → Q id t → Q id t') (h : AllTowers Q s) :
    AllTowers Q s' := by
  intro id t' ht'
  have hget : (s'.territories.get? id).map ground = (s.territories.get? id).map ground := by
    rw [← Record.get?_map (fun _ => ground), hg, Record.get?_map]
  rw [ht', Option.map_some] at hget
  obtain ⟨t, ht, hte⟩ := Option.map_eq_some_iff.mp hget.symm
  exact hq id t t' hte.symm (h id t ht)

theorem ground_id {t t' : Territory} (h : ground t' = ground t) : t'.id = t.id := by
  have hid := congrArg Territory.id h
  exact hid

theorem ground_tier {t t' : Territory} (h : ground t' = ground t) : t'.tier = t.tier := by
  have htier := congrArg Territory.tier h
  exact htier

theorem towerRule_tier : TowerRule fun _ t => 0 < t.tier where
  combat _ _ _ _ _ _ h := h
  production _ t a m d h := by
    have ht : (generateUnits t a m d).1.tier = t.tier := by
      unfold generateUnits
      split
      · rfl
      · dsimp only
        split <;> rfl
    rw [ht]
    exact h

theorem moveSoldier_ground (delta : ℚ) (m : LaneMarch) (soldier : Soldier) :
    ((moveSoldier delta m soldier).territories.map fun _ => ground)
      = m.territories.map fun _ => ground := by
  unfold moveSoldier
  dsimp only
  split
  · rfl
  · cases ht : m.territories.get? soldier.targetId with
    | none => rfl
    | some t => exact map_set_same _ ht (meetTower_ground soldier t)

/-- **Arrivals change owners and garrisons only.** -/
theorem moveSoldiers_ground (state : GameState) (lanes : LaneState) (delta : ℚ) :
    ((moveSoldiers state lanes delta).territories.map fun _ => ground)
      = state.territories.map fun _ => ground :=
  foldl_preserves (P := fun m : LaneMarch => (m.territories.map fun _ => ground)
      = state.territories.map fun _ => ground)
    (fun m s _ h => (moveSoldier_ground delta m s).trans h) rfl

theorem emitOnce_standing (lane : Lane) (total : ℚ) (w : LaneWait) :
    standing (emitOnce lane total w).source = standing w.source := by
  unfold emitOnce
  dsimp only
  split <;> rfl

theorem emitLoop_standing (lane : Lane) (total : ℚ) (w : LaneWait) :
    standing (emitLoop lane total w).source = standing w.source :=
  whileLoop_preserves (P := fun v : LaneWait => standing v.source = standing w.source)
    (fun v _ h => (emitOnce_standing lane total v).trans h) _ rfl

section Step

variable [MathLib]

/-- The lane whose round it is keeps its ends; the rest of the list is as before. -/
theorem emitLane_cases (state : GameState) (delta : ℚ) (e : LaneEmit) (lane : Lane) :
    emitLane state delta e lane = e ∨
      ∃ wait, (emitLane state delta e lane).nextLanes
        = e.nextLanes ++ [{ lane with nextEmitIn := wait }] := by
  unfold emitLane
  dsimp only
  split
  · exact Or.inl rfl
  · exact Or.inr ⟨_, rfl⟩

theorem emitLane_standing (state : GameState) (delta : ℚ) {e : LaneEmit} {lane : Lane}
    (h : lane.sourceId ∈ e.territories.keys) :
    ((emitLane state delta e lane).territories.map fun _ => standing)
      = e.territories.map fun _ => standing := by
  obtain ⟨t, ht⟩ := Record.exists_get?_of_mem_keys h
  unfold emitLane
  dsimp only
  split
  · rfl
  · refine map_set_same _ ht ?_
    rw [emitLoop_standing, Record.getD, ht, Option.getD_some]

/-- **Emission changes garrisons only.** -/
theorem emitLanes_standing (state : GameState) {m : LaneMarch} {lanes : LaneState} (delta : ℚ)
    (h : ∀ l ∈ lanes.lanes, l.sourceId ∈ m.territories.keys) :
    ((emitLanes state m lanes delta).territories.map fun _ => standing)
      = m.territories.map fun _ => standing := by
  refine foldl_preserves (P := fun e : LaneEmit => (e.territories.map fun _ => standing)
      = m.territories.map fun _ => standing) ?_ rfl
  intro e l hl he
  have hk : l.sourceId ∈ e.territories.keys := by
    rw [keys_of_map_eq he]
    exact h l hl
  exact (emitLane_standing state delta hk).trans he

theorem emitLanes_nextLanes (state : GameState) (m : LaneMarch) (lanes : LaneState) (delta : ℚ) :
    ∀ l ∈ (emitLanes state m lanes delta).nextLanes,
      ∃ l' ∈ lanes.lanes, l = { l' with nextEmitIn := l.nextEmitIn } := by
  refine foldl_preserves (P := fun e : LaneEmit => ∀ l ∈ e.nextLanes,
      ∃ l' ∈ lanes.lanes, l = { l' with nextEmitIn := l.nextEmitIn }) ?_
    (fun l hl => absurd hl List.not_mem_nil)
  intro e lane hlane h
  rcases emitLane_cases state delta e lane with he | ⟨wait, he⟩
  · rw [he]
    exact h
  · rw [he]
    intro l hl
    rcases List.mem_append.mp hl with hl | hl
    · exact h l hl
    · rw [List.mem_singleton] at hl
      subst hl
      exact ⟨lane, hlane, rfl⟩

/-- A step of the lanes changes owners and garrisons only. -/
theorem stepLanes_ground {state : GameState} {lanes : LaneState} (accumulators : Accumulators)
    (delta : ℚ) (h : ∀ l ∈ lanes.lanes, l.sourceId ∈ state.territories.keys) :
    ((stepLanes state accumulators lanes delta).state.territories.map fun _ => ground)
      = state.territories.map fun _ => ground := by
  have hm := moveSoldiers_ground state lanes delta
  have he := emitLanes_standing state (m := moveSoldiers state lanes delta) delta
    (fun l hl => by rw [keys_of_map_eq hm]; exact h l hl)
  rw [← hm, ground_of_standing, ground_of_standing (moveSoldiers state lanes delta).territories,
    ← he]
  rfl

/-- **The lanes' half of a step keeps the battle well formed.** -/
theorem LanesOk.stepLanes {state : GameState} {lanes : LaneState} (h : LanesOk state lanes)
    (accumulators : Accumulators) (delta : ℚ) :
    LanesOk (stepLanes state accumulators lanes delta).state
      (stepLanes state accumulators lanes delta).lanes := by
  have hg := stepLanes_ground accumulators delta fun l hl => (h.ends l hl).source
  have hk := keys_of_map_eq hg
  exact
    { ok :=
        { known := h.ok.known
          keys := hk.trans h.ok.keys
          ids := allTowers_of_ground hg (fun id t t' hgr ht => (ground_id hgr).trans ht) h.ok.ids
          ready := h.ok.ready
          elapsed := h.ok.elapsed
          armies := h.ok.armies }
      tiers := allTowers_of_ground hg (fun id t t' hgr ht => (ground_tier hgr).symm ▸ ht) h.tiers
      ends := by
        intro l hl
        obtain ⟨l', hl', he⟩ := emitLanes_nextLanes state (moveSoldiers state lanes delta) lanes
          delta l hl
        rw [he]
        exact (h.ends l' hl').congr hk rfl rfl }

theorem stepSimulation_keys {state : GameState} (h : BattleOk state)
    (accumulators : Accumulators) {delta : ℚ} (hδ : 0 ≤ delta) :
    (stepSimulation state accumulators delta).1.territories.keys = state.territories.keys := by
  by_cases hp : state.status = .playing
  · have hok : BattleOk (stepSimulation state accumulators delta).1 := stepSimulation_ok h hδ
    have hk := hok.keys
    rw [(stepSimulation_clock h hp accumulators hδ).1, ← h.keys] at hk
    exact hk
  · unfold stepSimulation
    rw [if_pos hp]

/-- The base step keeps the lanes well formed beside it. -/
theorem LanesOk.base {state : GameState} {lanes : LaneState} (h : LanesOk state lanes)
    (accumulators : Accumulators) {delta : ℚ} (hδ : 0 ≤ delta) :
    LanesOk (stepSimulation state accumulators delta).1 lanes where
  ok := stepSimulation_ok h.ok hδ
  tiers := towerRule_tier.stepSimulation accumulators h.ok hδ h.tiers
  ends l hl := (h.ends l hl).congr (stepSimulation_keys h.ok accumulators hδ) rfl rfl

theorem stepLaneSimulation_keys {state : GameState} {lanes : LaneState} (h : LanesOk state lanes)
    (accumulators : Accumulators) {delta : ℚ} (hδ : 0 ≤ delta) :
    (stepLaneSimulation state accumulators lanes delta).state.territories.keys
      = state.territories.keys := by
  have hb := h.base accumulators hδ
  have hk := stepSimulation_keys h.ok accumulators hδ
  unfold stepLaneSimulation
  dsimp only
  split
  · exact hk
  · exact (keys_of_map_eq (stepLanes_ground _ delta fun l hl => (hb.ends l hl).source)).trans hk

/-- **A lane step keeps the battle well formed.** -/
theorem LanesOk.step {state : GameState} {lanes : LaneState} (h : LanesOk state lanes)
    (accumulators : Accumulators) {delta : ℚ} (hδ : 0 ≤ delta) :
    LanesOk (stepLaneSimulation state accumulators lanes delta).state
      (stepLaneSimulation state accumulators lanes delta).lanes := by
  unfold stepLaneSimulation
  dsimp only
  split
  · exact h.base accumulators hδ
  · exact (h.base accumulators hδ).stepLanes _ delta

end Step

/-! ### The start -/

theorem templates_tier : ∀ b ∈ battlefields, ∀ t ∈ b.territories, 0 < t.tier := by decide

theorem createTerritory_tier (player enemy : PlayerUpgradeModifiers) (t : Territory) :
    (createTerritory player enemy t).tier = t.tier := by
  unfold createTerritory
  split
  · rfl
  · split <;> rfl

/-- **A lane battle on a shipped map starts well**, with any modifiers. -/
theorem laneStart_ok {level : LaneLevel} {b : BattlefieldDefinition} (hb : b ∈ battlefields)
    (hmode : b.mode = .oneVOne) (hl : level.battlefieldId = b.id) :
    LanesOk (laneStart level) emptyLaneState := by
  obtain ⟨hid, -, -, hpb, heb, h1, h2⟩ := tacticalSupports_mem b hb hmode
  rw [← hl] at hid hpb heb h1 h2
  have hkeys := keys_createTerritoriesForBattlefield levelPlayerModifiers level.enemy
    level.battlefieldId
  have hopen := fun (Q : String → Territory → Prop) => applyTacticalOpening_all (Q := Q)
    { createInitialGameStateForBattlefield levelPlayerModifiers level.enemy
        level.battlefieldId with
      battlefieldId := level.battlefieldId
      territories := createTerritoriesForBattlefield levelPlayerModifiers level.enemy
        level.battlefieldId
      gameplayRulesVersion := laneRulesVersion }
    levelPlayerModifiers level.enemy
    (hkeys ▸ hpb) (hkeys ▸ heb) (hkeys ▸ h1) (hkeys ▸ h2)
  have hstart : laneStart level = applyTacticalOpening
      { createInitialGameStateForBattlefield levelPlayerModifiers level.enemy
          level.battlefieldId with
        battlefieldId := level.battlefieldId
        territories := createTerritoriesForBattlefield levelPlayerModifiers level.enemy
          level.battlefieldId
        gameplayRulesVersion := laneRulesVersion } levelPlayerModifiers level.enemy := by
    unfold laneStart createInitialGameStateForBattlefield
    rw [if_pos hid]
  rw [hstart]
  have hi := hopen (fun id t => t.id = id) (fun _ _ h => h) (fun _ _ _ _ h => h)
    (createTerritories_all fun t _ => createTerritory_id _ _ t)
  have ht := hopen (fun _ t => 0 < t.tier) (fun _ _ h => h) (fun _ _ _ _ h => h)
    (createTerritories_all fun t hm => by
      rw [createTerritory_tier]
      exact templates_tier _ (battlefieldOf_mem level.battlefieldId) t hm)
  exact
    { ok := ⟨⟨b, hb, hl.symm⟩, hi.1.trans hkeys, hi.2, fun _ => rfl, le_refl _,
        fun _ h => absurd h List.not_mem_nil⟩
      tiers := ht.2
      ends := fun _ h => absurd h List.not_mem_nil }

end CrownClash.Go
