import CrownClash.Go.Simulation
import CrownClash.Lib.Fold

/-!
# Server: what every battle state keeps

`BattleOk` collects what the rest of the development relies on and what no step
ever breaks: the map is a shipped one and holds exactly its territories, each
under its own id; the clock is not negative; the recovery clock is empty under
the rules that have none; every army belongs to a side.

`SameFrame` is the frame condition of the army loop: an arrival changes the
territories, the recovery clock and the statistics and nothing else.
`TowerRule` is the rule for what is said of every tower by itself: when combat
and production keep it for one tower, a step keeps it for all of them.
-/

namespace CrownClash.Go

open Lib

/-- An army belongs to a side, and one that carries a route carries a positive
speed multiplier. -/
structure ArmyOk (army : MarchingArmy) : Prop where
  owned : army.owner ≠ .neutral
  routed : army.routeIds ≠ [] → 0 < army.routeSpeedMultiplier

/-- Every tower of the map, under its key, has the property. -/
def AllTowers (Q : String → Territory → Prop) (state : GameState) : Prop :=
  ∀ id t, state.territories.get? id = some t → Q id t

structure BattleOk (state : GameState) : Prop where
  known : KnownMap state
  keys : state.territories.keys = territoryOrderForBattlefield state.battlefieldId
  ids : AllTowers (fun id t => t.id = id) state
  ready : hasCaptureRecovery state.gameplayRulesVersion = false →
    state.productionReadyAtMs = .empty
  elapsed : 0 ≤ state.elapsedTimeSeconds
  armies : ∀ a ∈ state.armies, ArmyOk a

/-- The towers read off the record are the towers along the file order. -/
theorem values_eq_map {state : GameState}
    (hk : state.territories.keys = territoryOrderForBattlefield state.battlefieldId) :
    state.territories.values
      = (territoryOrderForBattlefield state.battlefieldId).map state.territory := by
  rw [Record.values_eq_filterMap, hk, ← List.filterMap_eq_map]
  refine List.filterMap_congr fun id hid => ?_
  rw [← hk] at hid
  obtain ⟨t, ht⟩ := Record.exists_get?_of_mem_keys hid
  rw [ht, Function.comp_apply, GameState.territory, Record.getD, ht, Option.getD_some]

/-- The towers of a side are the same read off the record or along the file order. -/
theorem filter_values {state : GameState} (team : Team)
    (hk : state.territories.keys = territoryOrderForBattlefield state.battlefieldId) :
    (state.territories.values.filter fun t => t.owner = team) = territoriesOf state team := by
  rw [territoriesOf, values_eq_map hk]

/-- The fields that no arrival touches. -/
structure SameFrame (s s' : GameState) : Prop where
  battlefieldId : s'.battlefieldId = s.battlefieldId
  armies : s'.armies = s.armies
  status : s'.status = s.status
  elapsed : s'.elapsedTimeSeconds = s.elapsedTimeSeconds
  timeLimit : s'.timeLimitSeconds = s.timeLimitSeconds
  version : s'.gameplayRulesVersion = s.gameplayRulesVersion
  shielded : s'.shieldedUntilMs = s.shieldedUntilMs
  playerAbility : s'.playerAbilityUsed = s.playerAbilityUsed
  enemyAbility : s'.enemyAbilityUsed = s.enemyAbilityUsed
  keys : s'.territories.keys = s.territories.keys

theorem SameFrame.refl (s : GameState) : SameFrame s s :=
  ⟨rfl, rfl, rfl, rfl, rfl, rfl, rfl, rfl, rfl, rfl⟩

theorem SameFrame.trans {s s' s'' : GameState} (h : SameFrame s s') (g : SameFrame s' s'') :
    SameFrame s s'' :=
  ⟨g.battlefieldId.trans h.battlefieldId, g.armies.trans h.armies, g.status.trans h.status,
    g.elapsed.trans h.elapsed, g.timeLimit.trans h.timeLimit, g.version.trans h.version,
    g.shielded.trans h.shielded, g.playerAbility.trans h.playerAbility,
    g.enemyAbility.trans h.enemyAbility, g.keys.trans h.keys⟩

/-! ### One tower -/

theorem generateUnits_id (t : Territory) (accumulator multiplier delta : ℚ) :
    (generateUnits t accumulator multiplier delta).1.id = t.id := by
  unfold generateUnits
  dsimp only
  split
  · rfl
  · split <;> rfl

/-- Production never changes who holds a tower. -/
theorem generateUnits_owner (t : Territory) (accumulator multiplier delta : ℚ) :
    (generateUnits t accumulator multiplier delta).1.owner = t.owner := by
  unfold generateUnits
  dsimp only
  split
  · rfl
  · split <;> rfl

/-- Production only adds units. -/
theorem le_generateUnits_units (t : Territory) (accumulator multiplier delta : ℚ) :
    t.units ≤ (generateUnits t accumulator multiplier delta).1.units := by
  unfold generateUnits
  dsimp only
  split
  · exact le_refl _
  · split
    · next h => exact le_add_of_nonneg_right (le_min h.le (le_max_left _ _))
    · exact le_refl _

/-- A tower after an arrival. -/
def afterCombat (target : Territory) (incoming : ℤ) (attacker : Team) (bonus : ℚ) : Territory :=
  { target with
    owner := (resolveArrivalWithBonus target incoming attacker bonus).newOwner
    units := (resolveArrivalWithBonus target incoming attacker bonus).remaining }

theorem territoryDefenseMultiplier_pos (type : TerritoryType) :
    0 < territoryDefenseMultiplier type := by
  cases type <;> norm_num [territoryDefenseMultiplier, fortressDefenseMultiplier]

/-- Combat leaves no negative garrison. -/
theorem remaining_nonneg {target : Territory} {bonus : ℚ} (incoming : ℤ) (attacker : Team)
    (hb : 0 < bonus) (h : 0 ≤ target.units) :
    0 ≤ (resolveArrivalWithBonus target incoming attacker bonus).remaining := by
  unfold resolveArrivalWithBonus
  by_cases h0 : incoming ≤ 0
  · rw [if_pos h0]
    exact h
  rw [if_neg h0]
  by_cases ho : attacker = target.owner
  · rw [if_pos ho]
    exact add_nonneg h (le_of_not_ge h0)
  rw [if_neg ho]
  dsimp only
  split
  · next hgt => exact sub_nonneg.mpr (le_of_lt hgt)
  · next hgt =>
    have hdef : 0 ≤ territoryDefenseStrengthWithBonus target bonus - incoming :=
      sub_nonneg.mpr (not_lt.mp hgt)
    have hm := mul_pos (territoryDefenseMultiplier_pos target.type) hb
    exact Int.ceil_nonneg (div_nonneg (Int.cast_nonneg hdef) hm.le)

theorem defenseBonus_pos (state : GameState) (target : Territory) :
    0 < defenseBonus state target := by
  unfold defenseBonus
  split <;> norm_num [abilityShieldDefenseMultiplier]

/-- A property of one tower that combat and production keep. -/
structure TowerRule (Q : String → Territory → Prop) : Prop where
  combat : ∀ id t incoming attacker bonus, 0 < bonus → Q id t →
    Q id (afterCombat t incoming attacker bonus)
  production : ∀ id t accumulator multiplier delta, Q id t →
    Q id (generateUnits t accumulator multiplier delta).1

theorem towerRule_id : TowerRule fun id t => t.id = id where
  combat _ _ _ _ _ _ h := h
  production _ t a m d h := (generateUnits_id t a m d).trans h

/-- No garrison is negative. -/
def UnitsOk (state : GameState) : Prop := AllTowers (fun _ t => 0 ≤ t.units) state

theorem towerRule_units : TowerRule fun _ t => 0 ≤ t.units where
  combat _ _ incoming attacker _ hb h := remaining_nonneg incoming attacker hb h
  production _ t a m d h := h.trans (le_generateUnits_units t a m d)

theorem TowerRule.arriveArmy {Q : String → Territory → Prop} (hq : TowerRule Q)
    {p : GameState × Accumulators} (army : MarchingArmy) (h : AllTowers Q p.1) :
    AllTowers Q (arriveArmy p army).1 := by
  intro id t
  unfold Go.arriveArmy
  cases hg : p.1.territories.get? army.targetId with
  | none => exact h id t
  | some target =>
    have hset : (p.1.territories.set army.targetId
        (afterCombat target army.units army.owner (defenseBonus p.1 target))).get? id = some t →
          Q id t := by
      intro hs
      rw [Record.get?_set] at hs
      split at hs
      · next he =>
        cases hs
        rw [he]
        exact hq.combat _ _ _ _ _ (defenseBonus_pos _ _) (h _ _ hg)
      · exact h id t hs
    dsimp only
    split <;> exact hset

/-! ### Arrivals -/

theorem arriveArmy_frame (p : GameState × Accumulators) (army : MarchingArmy) :
    SameFrame p.1 (arriveArmy p army).1 := by
  unfold arriveArmy
  cases h : p.1.territories.get? army.targetId with
  | none => exact SameFrame.refl _
  | some target =>
    have hk : ∀ t : Territory, (p.1.territories.set army.targetId t).keys
        = p.1.territories.keys := fun t => Record.keys_set_of_mem t (Record.mem_keys_of_get? h)
    dsimp only
    split <;> exact ⟨rfl, rfl, rfl, rfl, rfl, rfl, rfl, rfl, rfl, hk _⟩

theorem arriveArmy_ready {p : GameState × Accumulators} (army : MarchingArmy)
    (hv : hasCaptureRecovery p.1.gameplayRulesVersion = false) :
    (arriveArmy p army).1.productionReadyAtMs = p.1.productionReadyAtMs := by
  unfold arriveArmy
  cases p.1.territories.get? army.targetId with
  | none => rfl
  | some target =>
    dsimp only
    split
    · rw [hv]
      rfl
    · rfl

theorem startStep_ok {state : GameState} {delta : ℚ} (h : BattleOk state) (hδ : 0 ≤ delta) :
    BattleOk (startStep state delta) := by
  refine { h with elapsed := ?_ }
  change 0 ≤ nextElapsed state delta
  have hs : 0 ≤ state.elapsedTimeSeconds + delta := add_nonneg h.elapsed hδ
  unfold nextElapsed
  dsimp only
  split
  · have hm : 0 ≤ (state.elapsedTimeSeconds + delta) * 10 ^ 9 := by positivity
    rw [roundHalfAway_of_nonneg hm]
    exact div_nonneg (Int.cast_nonneg (roundHalfUp_nonneg hm)) (by norm_num)
  · exact hs

/-! ### The army loop -/

section Moving

variable [MathLib]

theorem setArmyLeg_armyOk {army : MarchingArmy} (h : ArmyOk army) (source target : Territory)
    (leg : ℕ) : ArmyOk (setArmyLeg army source target leg) := ⟨h.owned, h.routed⟩

theorem advanceLegs_armyOk (territories : Record String Territory) :
    ∀ (rest : List String) (army : MarchingArmy) (delta : ℚ), ArmyOk army →
      ArmyOk (advanceLegs territories rest army delta).1 := by
  intro rest
  induction rest with
  | nil =>
    intro army delta h
    unfold advanceLegs
    dsimp only
    split <;> exact ⟨h.owned, h.routed⟩
  | cons nextId rest ih =>
    intro army delta h
    unfold advanceLegs
    dsimp only
    split
    · exact ⟨h.owned, h.routed⟩
    · cases territories.get? army.targetId with
      | none => exact ⟨h.owned, h.routed⟩
      | some waypoint =>
        dsimp only
        split
        · exact ⟨h.owned, h.routed⟩
        · exact ih _ _ (setArmyLeg_armyOk h _ _ _)

theorem advanceArmy_armyOk (state : GameState) (delta : ℚ) {army : MarchingArmy}
    (h : ArmyOk army) : ArmyOk (advanceArmy state delta army).1 := by
  unfold advanceArmy advanceRoutedArmy
  split
  · have hr := advanceLegs_armyOk state.territories (army.routeIds.drop (army.routeLeg + 2))
      army delta h
    dsimp only
    generalize (if (advanceLegs state.territories (army.routeIds.drop (army.routeLeg + 2)) army
      delta).2 = true then 1 else _ : ℚ) = nextProgress
    split <;> exact ⟨hr.owned, hr.routed⟩
  · dsimp only
    split <;> exact ⟨h.owned, h.routed⟩

/-- What the loop over the armies keeps. -/
structure MarchingOk (start : GameState) (m : Marching) : Prop where
  frame : SameFrame start m.state
  ready : hasCaptureRecovery start.gameplayRulesVersion = false →
    m.state.productionReadyAtMs = .empty
  armies : ∀ a ∈ m.remaining, ArmyOk a

theorem moveArmy_ok {start : GameState} {m : Marching} (delta : ℚ) {army : MarchingArmy}
    (h : MarchingOk start m) (ha : ArmyOk army) : MarchingOk start (moveArmy delta m army) := by
  have hr := advanceArmy_armyOk m.state delta ha
  unfold moveArmy
  dsimp only
  split
  · exact
      { frame := h.frame.trans (arriveArmy_frame (m.state, m.accumulators) _)
        ready := by
          intro hv
          rw [arriveArmy_ready _ (by rw [h.frame.version]; exact hv)]
          exact h.ready hv
        armies := h.armies }
  · refine { h with armies := ?_ }
    intro a hm
    rcases List.mem_append.mp hm with hm | hm
    · exact h.armies a hm
    · rw [List.mem_singleton.mp hm]
      exact hr

theorem moveArmies_ok {state : GameState} (accumulators : Accumulators) (delta : ℚ)
    (h : BattleOk state) : MarchingOk state (moveArmies state accumulators delta) := by
  refine foldl_preserves (fun m a ha hm => moveArmy_ok delta hm (h.armies a ha)) ?_
  exact ⟨SameFrame.refl _, h.ready, fun a ha => absurd ha List.not_mem_nil⟩

theorem TowerRule.moveArmies {Q : String → Territory → Prop} (hq : TowerRule Q)
    {state : GameState} (accumulators : Accumulators) (delta : ℚ) (h : AllTowers Q state) :
    AllTowers Q (moveArmies state accumulators delta).close := by
  refine foldl_preserves (P := fun m : Marching => AllTowers Q m.state) ?_ h
  intro m army _ hm
  unfold moveArmy
  dsimp only
  split
  · exact hq.arriveArmy _ hm
  · exact hm

end Moving

/-! ### Production -/

/-- What a tower becomes in the production tick of a state. -/
def generated (state : GameState) (accumulators : Accumulators) (delta : ℚ) (id : String)
    (t : Territory) : Territory :=
  (generateUnits t (accumulators.getD id 0) (productionMultiplier state id) delta).1

/-- The territories of the production loop, without the accumulators. -/
theorem foldl_generateAt_fst (state : GameState) (accumulators : Accumulators) (delta : ℚ) :
    ∀ (ids : List String) (p : Record String Territory × Accumulators),
      (ids.foldl (generateAt state accumulators delta) p).1
        = ids.foldl (Record.modify (generated state accumulators delta)) p.1 := by
  intro ids
  induction ids with
  | nil => intro p; rfl
  | cons id ids ih =>
    intro p
    rw [List.foldl_cons, ih, List.foldl_cons]
    congr 1
    unfold generateAt Record.modify generated
    cases p.1.get? id <;> rfl

/-- **Production works on every tower at once.** -/
theorem tickGeneration_territories {state : GameState} (accumulators : Accumulators) (delta : ℚ)
    (h : state.territories.keys = territoryOrderForBattlefield state.battlefieldId) :
    (tickGeneration state accumulators delta).1.territories
      = state.territories.map (generated state accumulators delta) := by
  unfold tickGeneration
  dsimp only
  rw [foldl_generateAt_fst, ← h, Record.foldl_modify_keys]

/-- The accumulators of the production loop. -/
theorem foldl_generateAt_snd (state : GameState) (accumulators : Accumulators) (delta : ℚ) :
    ∀ (ids : List String) (p : Record String Territory × Accumulators), ids.Nodup →
      (∀ id ∈ ids, p.1.get? id = some (state.territory id)) →
        (ids.foldl (generateAt state accumulators delta) p).2
          = ids.foldl (fun a id => a.set id (generateUnits (state.territory id)
              (accumulators.getD id 0) (productionMultiplier state id) delta).2) p.2 := by
  intro ids
  induction ids with
  | nil => intro p _ _; rfl
  | cons id ids ih =>
    intro p hn hg
    obtain ⟨hid, hn⟩ := List.nodup_cons.mp hn
    have hstep : generateAt state accumulators delta p id
        = (p.1.set id (generateUnits (state.territory id) (accumulators.getD id 0)
            (productionMultiplier state id) delta).1,
          p.2.set id (generateUnits (state.territory id) (accumulators.getD id 0)
            (productionMultiplier state id) delta).2) := by
      rw [generateAt, hg id List.mem_cons_self]
    rw [List.foldl_cons, List.foldl_cons, hstep, ih _ hn]
    intro k hk
    have hne : k ≠ id := fun he => hid (he ▸ hk)
    rw [Record.get?_set_ne hne]
    exact hg k (List.mem_cons_of_mem _ hk)

/-- What production leaves over at one tower. -/
theorem tickGeneration_accumulator {state : GameState} (accumulators : Accumulators) (delta : ℚ)
    (hk : state.territories.keys = territoryOrderForBattlefield state.battlefieldId) {id : String}
    (hid : id ∈ state.territories.keys) :
    (tickGeneration state accumulators delta).2.getD id 0
      = (generateUnits (state.territory id) (accumulators.getD id 0) (productionMultiplier state id)
        delta).2 := by
  unfold tickGeneration
  dsimp only
  rw [← hk, foldl_generateAt_snd _ _ _ _ _ state.territories.nodup_keys, Record.getD_foldl_set,
    if_pos hid]
  intro k hm
  obtain ⟨t, ht⟩ := Record.exists_get?_of_mem_keys hm
  rw [GameState.territory, Record.getD, ht, Option.getD_some]

theorem TowerRule.tickGeneration {Q : String → Territory → Prop} (hq : TowerRule Q)
    {state : GameState} (accumulators : Accumulators) (delta : ℚ)
    (hk : state.territories.keys = territoryOrderForBattlefield state.battlefieldId)
    (h : AllTowers Q state) : AllTowers Q (tickGeneration state accumulators delta).1 := by
  intro id t
  rw [tickGeneration_territories accumulators delta hk, Record.get?_map]
  intro hg
  obtain ⟨u, hu, rfl⟩ := Option.map_eq_some_iff.mp hg
  exact hq.production _ _ _ _ _ (h id u hu)

theorem tickGeneration_ok {state : GameState} (accumulators : Accumulators) (delta : ℚ)
    (h : BattleOk state) : BattleOk (tickGeneration state accumulators delta).1 := by
  refine { h with keys := ?_, ids := towerRule_id.tickGeneration accumulators delta h.keys h.ids }
  rw [tickGeneration_territories accumulators delta h.keys, Record.keys_map]
  exact h.keys

/-! ### The clock of a step -/

theorem pvpSimulationTick_pos : 0 < pvpSimulationTick := by norm_num [pvpSimulationTick]

theorem nextStatus_playing {state : GameState} (h : nextStatus state = .playing) :
    state.elapsedTimeSeconds < state.timeLimitSeconds := by
  unfold nextStatus at h
  split at h
  · cases h
  split at h
  · cases h
  split at h
  · unfold timeLimitStatus at h
    dsimp only at h
    split at h
    · cases h
    · split at h <;> cases h
  · next hc => exact not_le.mp hc

/-- On a grid of nanoseconds the clock moves by one step exactly. -/
theorem nextElapsed_grid {state : GameState} {delta : ℚ} {k n : ℤ} (hk : 0 ≤ k) (hδ : 0 ≤ delta)
    (hn : delta * 10 ^ 9 = n) (hv : hasCaptureRecovery state.gameplayRulesVersion = true)
    (he : state.elapsedTimeSeconds = k * delta) :
    nextElapsed state delta = ((k + 1 : ℤ) : ℚ) * delta := by
  have hgrid : (((k + 1 : ℤ) : ℚ) * delta) * (10 ^ 9 : ℕ) = (((k + 1) * n : ℤ) : ℚ) := by
    rw [Int.cast_mul, ← hn]
    push_cast
    ring
  have hsum : state.elapsedTimeSeconds + delta = ((k + 1 : ℤ) : ℚ) * delta := by
    rw [he]
    push_cast
    ring
  have hnn : (0 : ℚ) ≤ ((k + 1 : ℤ) : ℚ) * delta :=
    mul_nonneg (by exact_mod_cast (by omega : (0 : ℤ) ≤ k + 1)) hδ
  unfold nextElapsed
  dsimp only
  rw [if_pos hv, hsum, roundHalfAway_of_nonneg (mul_nonneg hnn (by norm_num))]
  have hr := roundHalfUp_div_of_grid (d := 10 ^ 9) (by norm_num) hgrid
  push_cast at hr ⊢
  exact hr

/-- On the tick grid the clock moves by one tick exactly. -/
theorem nextElapsed_tick {state : GameState} {k : ℤ} (hk : 0 ≤ k)
    (hv : hasCaptureRecovery state.gameplayRulesVersion = true)
    (he : state.elapsedTimeSeconds = k * pvpSimulationTick) :
    nextElapsed state pvpSimulationTick = ((k + 1 : ℤ) : ℚ) * pvpSimulationTick :=
  nextElapsed_grid (n := 20000000) hk pvpSimulationTick_pos.le
    (by norm_num [pvpSimulationTick]) hv he

variable [MathLib]

/-- The state after the army loop is well formed again. -/
theorem moveArmies_close_ok {start : GameState} (accumulators : Accumulators) (delta : ℚ)
    (hs : BattleOk start) : BattleOk (moveArmies start accumulators delta).close := by
  have h := moveArmies_ok accumulators delta hs
  exact
    { known := by
        obtain ⟨b, hb, he⟩ := hs.known
        exact ⟨b, hb, he.trans h.frame.battlefieldId.symm⟩
      keys := by
        change (moveArmies start accumulators delta).state.territories.keys
          = territoryOrderForBattlefield (moveArmies start accumulators delta).state.battlefieldId
        rw [h.frame.keys, hs.keys, h.frame.battlefieldId]
      ids := towerRule_id.moveArmies accumulators delta hs.ids
      ready := fun hv => h.ready (by rw [← h.frame.version]; exact hv)
      elapsed := by
        change 0 ≤ (moveArmies start accumulators delta).state.elapsedTimeSeconds
        rw [h.frame.elapsed]
        exact hs.elapsed
      armies := h.armies }

/-- **A step keeps the battle well formed.** -/
theorem stepSimulation_ok {state : GameState} {accumulators : Accumulators} {delta : ℚ}
    (h : BattleOk state) (hδ : 0 ≤ delta) :
    BattleOk (stepSimulation state accumulators delta).1 := by
  unfold stepSimulation
  split
  · exact h
  · have hm := moveArmies_close_ok accumulators delta (startStep_ok h hδ)
    have hg := tickGeneration_ok
      (moveArmies (startStep state delta) accumulators delta).accumulators delta hm
    exact { hg with }

/-- **What is true of every tower by itself stays true.** -/
theorem TowerRule.stepSimulation {Q : String → Territory → Prop} (hq : TowerRule Q)
    {state : GameState} (accumulators : Accumulators) {delta : ℚ} (hok : BattleOk state)
    (hδ : 0 ≤ delta) (h : AllTowers Q state) :
    AllTowers Q (stepSimulation state accumulators delta).1 := by
  unfold Go.stepSimulation
  split
  · exact h
  · have hm := moveArmies_close_ok accumulators delta (startStep_ok hok hδ)
    have hs : AllTowers Q (startStep state delta) := h
    exact hq.tickGeneration _ delta hm.keys (hq.moveArmies accumulators delta hs)

/-- The parts of the state that a step keeps, and its clock. -/
theorem stepSimulation_clock {state : GameState} (h : BattleOk state)
    (hp : state.status = .playing) (accumulators : Accumulators) {delta : ℚ} (hδ : 0 ≤ delta) :
    (stepSimulation state accumulators delta).1.battlefieldId = state.battlefieldId ∧
      (stepSimulation state accumulators delta).1.gameplayRulesVersion
        = state.gameplayRulesVersion ∧
      (stepSimulation state accumulators delta).1.timeLimitSeconds = state.timeLimitSeconds ∧
      (stepSimulation state accumulators delta).1.elapsedTimeSeconds = nextElapsed state delta ∧
      ((stepSimulation state accumulators delta).1.status = .playing →
        nextElapsed state delta < state.timeLimitSeconds) := by
  have hf := (moveArmies_ok accumulators delta (startStep_ok h hδ)).frame
  unfold stepSimulation
  rw [if_neg (not_not.mpr hp)]
  refine ⟨hf.battlefieldId, hf.version, hf.timeLimit, hf.elapsed, fun hn => ?_⟩
  have hlt := nextStatus_playing hn
  change (moveArmies (startStep state delta) accumulators delta).state.elapsedTimeSeconds
    < (moveArmies (startStep state delta) accumulators delta).state.timeLimitSeconds at hlt
  rw [hf.elapsed, hf.timeLimit] at hlt
  exact hlt

/-! ### Dispatch -/

/-- **What a dispatch can do.**  It is refused, or it takes the units it sends
out of the source, puts one army of the owner at the end of the list and counts
the units. -/
theorem dispatchArmyWithRatio_ok_cases {state state' : GameState} {sourceId targetId : String}
    {owner : Team} {multiplier : ℚ} {id : String} {ratio : ℚ}
    (ho : owner ≠ .neutral)
    (h : dispatchArmyWithRatio state sourceId targetId owner multiplier id ratio = .ok state') :
    ∃ source army, state.territories.get? sourceId = some source ∧
      source.owner = owner ∧ sourceId ≠ targetId ∧
      (∃ target, state.territories.get? targetId = some target) ∧
      0 < calculateDispatchUnitsWithRatio source.units ratio ∧
      ArmyOk army ∧ army.owner = owner ∧ army.sourceId = sourceId ∧ army.id = id ∧
      army.units = calculateDispatchUnitsWithRatio source.units ratio ∧
      state' =
        { state with
          territories := state.territories.set sourceId
            { source with
              units := source.units - calculateDispatchUnitsWithRatio source.units ratio }
          armies := state.armies ++ [army]
          stats := addUnitsDispatched state.stats owner
            (calculateDispatchUnitsWithRatio source.units ratio) } := by
  unfold dispatchArmyWithRatio at h
  cases hs : state.territories.get? sourceId with
  | none => simp [hs] at h
  | some source =>
    cases ht : state.territories.get? targetId with
    | none => simp [hs, ht] at h
    | some target =>
      simp only [hs, ht] at h
      split at h
      · cases h
      · next hne =>
        rw [not_or, not_not] at hne
        split at h
        · cases h
        · next route _ =>
          split at h
          · cases h
          · next hu =>
            have hm : 0 < (if multiplier > 0 then multiplier else 1)
                * territoryArmySpeedMultiplier source.type := by
              refine mul_pos ?_ ?_
              · split
                · assumption
                · exact one_pos
              · cases source.type <;> norm_num [territoryArmySpeedMultiplier,
                  stableArmySpeedMultiplier]
            cases h
            refine ⟨source, _, rfl, hne.2, hne.1, ⟨target, rfl⟩, not_le.mp hu, ?_, ?_, ?_, ?_,
              ?_, rfl⟩
            · split
              · exact ⟨ho, fun _ => hm⟩
              · exact ⟨ho, fun hr => absurd rfl hr⟩
            all_goals split <;> rfl

theorem dispatchArmyWithRatio_battleOk {state state' : GameState} {sourceId targetId : String}
    {owner : Team} {multiplier : ℚ} {id : String} {ratio : ℚ} (hok : BattleOk state)
    (ho : owner ≠ .neutral)
    (h : dispatchArmyWithRatio state sourceId targetId owner multiplier id ratio = .ok state') :
    BattleOk state' := by
  obtain ⟨source, army, hs, -, -, -, -, hr, -, -, -, -, rfl⟩ :=
    dispatchArmyWithRatio_ok_cases ho h
  refine { hok with keys := ?_, ids := ?_, armies := ?_ }
  · exact (Record.keys_set_of_mem _ (Record.mem_keys_of_get? hs)).trans hok.keys
  · intro id' t ht
    change (state.territories.set sourceId _).get? id' = some t at ht
    rw [Record.get?_set] at ht
    split at ht
    · next he =>
      cases ht
      rw [he]
      exact hok.ids sourceId source hs
    · exact hok.ids id' t ht
  · intro a ha
    rcases List.mem_append.mp ha with ha | ha
    · exact hok.armies a ha
    · rw [List.mem_singleton.mp ha]
      exact hr

omit [MathLib] in
theorem calculateDispatchUnits_le {units : ℤ} :
    0 < calculateDispatchUnits units → calculateDispatchUnits units ≤ units := by
  unfold calculateDispatchUnits calculateDispatchUnitsWithRatio
  split
  · intro h
    exact absurd h (lt_irrefl 0)
  · next hu =>
    intro _
    have h1 : (1 : ℤ) ≤ units := by omega
    have hq : (0 : ℚ) ≤ (units : ℚ) := by exact_mod_cast (by omega : (0 : ℤ) ≤ units)
    refine max_le h1 ?_
    rw [Int.floor_le_iff]
    norm_num
    linarith

theorem dispatchArmy_unitsOk {state state' : GameState} {sourceId targetId : String}
    {owner : Team} {multiplier : ℚ} {id : String} (hok : UnitsOk state) (ho : owner ≠ .neutral)
    (h : dispatchArmy state sourceId targetId owner multiplier id = .ok state') :
    UnitsOk state' := by
  obtain ⟨source, army, hs, -, -, -, hu, -, -, -, -, -, rfl⟩ := dispatchArmyWithRatio_ok_cases ho h
  intro id' t ht
  change (state.territories.set sourceId _).get? id' = some t at ht
  rw [Record.get?_set] at ht
  split at ht
  · cases ht
    exact sub_nonneg.mpr (calculateDispatchUnits_le hu)
  · exact hok id' t ht

end CrownClash.Go
