import CrownClash.Go.Live2v2Start
import CrownClash.Go.Upgrades
import CrownClash.Lib.Carry

/-!
# Server: a 2v2 battle in which nobody moves

Without an army on the road a step of the battle is production alone.  The four
bases fill, the neutral towers stay as they are, and no tower changes hands; so
nothing but the clock can end the battle, and at the clock the two sides hold two
full bases each.  `IdleBattle` is what holds after `k` steps of `delta` seconds,
for any `delta` on the grid of nanoseconds: the handler and the replay engine step
the same battle with different ticks, and both come to the same draw.
-/

namespace CrownClash.Go

open Lib

/-! ### A tower fills -/

/-- A tower that is full, or holds at least `v` units with the fraction that is
left over. -/
structure Filling (t : Territory) (accumulator v : ℚ) : Prop where
  units : 0 ≤ t.units
  cap : t.units ≤ t.maxUnits
  nonneg : 0 ≤ accumulator
  fraction : accumulator < 1
  full : t.units = t.maxUnits ∨ v ≤ t.units + accumulator

/-- **Production fills a tower.** -/
theorem generateUnits_filling {t : Territory} {accumulator v multiplier delta gain : ℚ}
    (ho : t.owner ≠ .neutral) (hr : 0 < t.productionRate) (h : Filling t accumulator v)
    (hgain : 0 ≤ gain)
    (hinc : gain + productionAccumulatorEpsilon
      ≤ t.productionRate * territoryProductionMultiplier t.type * multiplier * delta) :
    Filling (generateUnits t accumulator multiplier delta).1
      (generateUnits t accumulator multiplier delta).2 (v + gain) := by
  have hunits := h.units
  have hcap := h.cap
  by_cases hfull : t.units ≥ t.maxUnits
  · have heq : t.units = t.maxUnits := le_antisymm hcap hfull
    unfold generateUnits
    rw [if_pos (Or.inr (Or.inr hfull))]
    exact ⟨hunits, hcap, le_refl _, one_pos, Or.inl heq⟩
  have hopen : ¬ (t.owner = .neutral ∨ t.productionRate ≤ 0 ∨ t.units ≥ t.maxUnits) := by
    rintro (hn | hz | hu)
    · exact ho hn
    · exact absurd hr (not_lt.mpr hz)
    · exact hfull hu
  have hv : v ≤ t.units + accumulator := by
    rcases h.full with hf | hv
    · exact absurd hf.ge hfull
    · exact hv
  unfold generateUnits
  rw [if_neg hopen]
  dsimp only
  generalize t.productionRate * territoryProductionMultiplier t.type * multiplier * delta = inc
    at hinc ⊢
  have hε : (0 : ℚ) < productionAccumulatorEpsilon := by norm_num [productionAccumulatorEpsilon]
  have hraw : 0 ≤ accumulator + inc := by
    have := h.nonneg
    linarith
  have hlow := (abs_lt.mp (abs_snap_sub_lt hε (roundHalfAway (accumulator + inc))
    (accumulator + inc))).1
  have hpos : 0 ≤ snap productionAccumulatorEpsilon (roundHalfAway (accumulator + inc))
      (accumulator + inc) := by
    refine snap_nonneg ?_ hraw
    rw [roundHalfAway_of_nonneg hraw]
    exact roundHalfUp_nonneg hraw
  generalize snap productionAccumulatorEpsilon (roundHalfAway (accumulator + inc))
    (accumulator + inc) = current at hlow hpos ⊢
  have hfloor := Int.floor_le current
  have hceil := Int.lt_floor_add_one current
  split
  · next hwhole =>
    have hroom : max 0 (t.maxUnits - t.units) = t.maxUnits - t.units := by omega
    rw [hroom]
    refine ⟨?_, ?_, by linarith, by linarith, ?_⟩
    · show 0 ≤ t.units + min ⌊current⌋ (t.maxUnits - t.units)
      omega
    · show t.units + min ⌊current⌋ (t.maxUnits - t.units) ≤ t.maxUnits
      omega
    · show t.units + min ⌊current⌋ (t.maxUnits - t.units) = t.maxUnits ∨ _ ≤
        ((t.units + min ⌊current⌋ (t.maxUnits - t.units) : ℤ) : ℚ) + (current - ⌊current⌋)
      by_cases hle : ⌊current⌋ ≤ t.maxUnits - t.units
      · refine Or.inr ?_
        rw [min_eq_left hle]
        push_cast
        linarith
      · exact Or.inl (by omega)
  · next hwhole =>
    have hzero : ⌊current⌋ = 0 := by
      have := Int.floor_nonneg.mpr hpos
      omega
    rw [hzero] at hceil
    refine ⟨hunits, hcap, hpos, by push_cast at hceil; linarith, Or.inr ?_⟩
    linarith

/-! ### The battle of four -/

/-- The towers that the two sides hold at the start. -/
def basesOf : Team → List String
  | .player => ["a_base_w", "a_base_e"]
  | .enemy => ["b_base_w", "b_base_e"]
  | .neutral => []

def fourBases : List String := basesOf .player ++ basesOf .enemy

/-- A base after `v` seconds without a battle: it gains more than a unit a second. -/
structure BaseOk (t : Territory) (accumulator v : ℚ) : Prop where
  filling : Filling t accumulator v
  maxUnits : t.maxUnits = 65
  rate : 6 / 5 ≤ t.productionRate
  type : t.type = .fortress

/-- The statistics of a battle in which nobody has moved. -/
def idleStats (seconds : ℚ) : MatchStats :=
  { MatchStats.zero with matchDurationSeconds := seconds }

/-- **A 2v2 battle of `k` steps in which nobody has moved.** -/
structure IdleBattle (delta : ℚ) (k : ℕ) (state : GameState) (accumulators : Accumulators) :
    Prop where
  ok : BattleOk state
  map : state.battlefieldId = live2v2BattlefieldId
  armies : state.armies = []
  version : state.gameplayRulesVersion = currentGameplayRulesVersion
  timeLimit : state.timeLimitSeconds = pvpTimeLimitSeconds
  elapsed : state.elapsedTimeSeconds = k * delta
  recovered : state.productionReadyAtMs = .empty
  stats : state.stats = idleStats (k * delta)
  owners : ∀ id, (state.territory id).owner = (quadCitadel.templates.getD id Territory.zero).owner
  bases : ∀ id ∈ fourBases, BaseOk (state.territory id) (accumulators.getD id 0) (k * delta)

/-- A step on the grid of nanoseconds, and not shorter than a hundredth of a second. -/
structure GridStep (delta : ℚ) : Prop where
  long : 1 / 100 ≤ delta
  grid : ∃ n : ℤ, delta * 10 ^ 9 = n

theorem GridStep.pos {delta : ℚ} (h : GridStep delta) : 0 < delta :=
  lt_of_lt_of_le (by norm_num) h.long

theorem fourBases_owner : ∀ id ∈ fourBases,
    (quadCitadel.templates.getD id Territory.zero).owner ≠ .neutral := by
  decide

theorem fourBases_keys : ∀ id ∈ fourBases,
    id ∈ territoryOrderForBattlefield live2v2BattlefieldId := by
  decide

/-- A second of production is worth more than a unit, whatever the snap takes. -/
theorem BaseOk.gain {t : Territory} {accumulator v delta : ℚ} (h : BaseOk t accumulator v)
    (hδ : GridStep delta) : delta + productionAccumulatorEpsilon
      ≤ t.productionRate * territoryProductionMultiplier t.type * 1 * delta := by
  have hlong := hδ.long
  have hrate : 6 / 5 * delta ≤ t.productionRate * delta :=
    mul_le_mul_of_nonneg_right h.rate hδ.pos.le
  have htype : territoryProductionMultiplier t.type = 1 := by
    rw [h.type]
    rfl
  rw [htype, mul_one, mul_one]
  unfold productionAccumulatorEpsilon
  linarith

/-- **A base fills.** -/
theorem BaseOk.generate {t : Territory} {accumulator v delta : ℚ} (h : BaseOk t accumulator v)
    (hδ : GridStep delta) (ho : t.owner ≠ .neutral) :
    BaseOk (generateUnits t accumulator 1 delta).1 (generateUnits t accumulator 1 delta).2
      (v + delta) := by
  have hrate : 0 < t.productionRate := lt_of_lt_of_le (by norm_num) h.rate
  have hsame : (generateUnits t accumulator 1 delta).1.maxUnits = t.maxUnits ∧
      (generateUnits t accumulator 1 delta).1.productionRate = t.productionRate ∧
      (generateUnits t accumulator 1 delta).1.type = t.type := by
    unfold generateUnits
    dsimp only
    split
    · exact ⟨rfl, rfl, rfl⟩
    · split
      · exact ⟨rfl, rfl, rfl⟩
      · exact ⟨rfl, rfl, rfl⟩
  exact
    { filling := generateUnits_filling ho hrate h.filling hδ.pos.le (h.gain hδ)
      maxUnits := hsame.1.trans h.maxUnits
      rate := by
        rw [hsame.2.1]
        exact h.rate
      type := hsame.2.2.trans h.type }

theorem BaseOk.full {t : Territory} {accumulator v : ℚ} (h : BaseOk t accumulator v)
    (hv : pvpTimeLimitSeconds ≤ v) : t.units = 65 := by
  rcases h.filling.full with hf | hlow
  · exact hf.trans h.maxUnits
  · have hcap : t.units ≤ 65 := h.maxUnits ▸ h.filling.cap
    have hcast : (t.units : ℚ) ≤ 65 := by exact_mod_cast hcap
    have hfraction := h.filling.fraction
    unfold pvpTimeLimitSeconds at hv
    linarith

theorem territoriesOf_bases {state : GameState} (hmap : state.battlefieldId = live2v2BattlefieldId)
    (howners : ∀ id, (state.territory id).owner
      = (quadCitadel.templates.getD id Territory.zero).owner) {team : Team} (ht : team ≠ .neutral) :
    territoriesOf state team = (basesOf team).map state.territory := by
  have hbases : ((territoryOrderForBattlefield live2v2BattlefieldId).filter fun id =>
      decide ((quadCitadel.templates.getD id Territory.zero).owner = team)) = basesOf team := by
    cases team with
    | player => decide
    | enemy => decide
    | neutral => exact absurd rfl ht
  unfold territoriesOf
  rw [hmap, List.filter_map, ← hbases]
  refine congrArg (List.map state.territory) (List.filter_congr fun id _ => ?_)
  exact congrArg (fun owner => decide (owner = team)) (howners id)

theorem nextStatus_idle {state : GameState} (hmap : state.battlefieldId = live2v2BattlefieldId)
    (howners : ∀ id, (state.territory id).owner
      = (quadCitadel.templates.getD id Territory.zero).owner)
    (hfull : state.timeLimitSeconds ≤ state.elapsedTimeSeconds →
      ∀ id ∈ fourBases, (state.territory id).units = 65) :
    nextStatus state
      = if state.timeLimitSeconds ≤ state.elapsedTimeSeconds then .draw else .playing := by
  have hplayer : territoriesOf state .player = (basesOf .player).map state.territory :=
    territoriesOf_bases hmap howners (by decide)
  have henemy : territoriesOf state .enemy = (basesOf .enemy).map state.territory :=
    territoriesOf_bases hmap howners (by decide)
  have hp : territoriesOf state .player ≠ [] := by
    rw [hplayer]
    exact List.cons_ne_nil _ _
  have he : territoriesOf state .enemy ≠ [] := by
    rw [henemy]
    exact List.cons_ne_nil _ _
  unfold nextStatus
  rw [if_neg fun h => he h.1, if_neg fun h => hp h.1]
  by_cases hend : state.timeLimitSeconds ≤ state.elapsedTimeSeconds
  · have hunits : ∀ team, team ≠ .neutral → (territoriesOf state team).length = 2 ∧
        unitsOf (territoriesOf state team) = 130 := by
      intro team ht
      rw [territoriesOf_bases hmap howners ht]
      have hall := hfull hend
      unfold unitsOf
      cases team with
      | player =>
        have hw := hall "a_base_w" (by decide)
        have he := hall "a_base_e" (by decide)
        simp [basesOf, hw, he]
      | enemy =>
        have hw := hall "b_base_w" (by decide)
        have he := hall "b_base_e" (by decide)
        simp [basesOf, hw, he]
      | neutral => exact absurd rfl ht
    obtain ⟨hpl, hpu⟩ := hunits .player (by decide)
    obtain ⟨hel, heu⟩ := hunits .enemy (by decide)
    rw [if_pos hend, if_pos hend]
    unfold timeLimitStatus
    dsimp only
    rw [hpl, hpu, hel, heu]
    rfl
  · rw [if_neg hend, if_neg hend]

theorem productionMultiplier_unrecovered {state : GameState}
    (hready : state.productionReadyAtMs = .empty) (he : 0 ≤ state.elapsedTimeSeconds) (id : String) :
    productionMultiplier state id = 1 := by
  have hms : (0 : ℚ) ≤ roundHalfAway (state.elapsedTimeSeconds * 1000) := by
    have hnn : 0 ≤ state.elapsedTimeSeconds * 1000 := mul_nonneg he (by norm_num)
    rw [roundHalfAway_of_nonneg hnn]
    exact_mod_cast roundHalfUp_nonneg hnn
  unfold productionMultiplier
  split
  · unfold captureProductionMultiplier
    rw [hready, Record.getD_empty]
    dsimp only
    have hzero : max 0 (((0 : ℤ) : ℚ) - roundHalfAway (state.elapsedTimeSeconds * 1000)) = 0 := by
      rw [Int.cast_zero, zero_sub]
      exact max_eq_left (neg_nonpos.mpr hms)
    rw [hzero, zero_div, min_eq_right zero_le_one, mul_zero, sub_zero]
  · rfl

section Step

variable [MathLib]

/-- Without an army a step is production and the verdict. -/
theorem stepSimulation_idle {state : GameState} (hs : state.status = .playing)
    (ha : state.armies = []) (accumulators : Accumulators) (delta : ℚ) :
    stepSimulation state accumulators delta =
      ({ (tickGeneration (startStep state delta) accumulators delta).1 with
          status := nextStatus (tickGeneration (startStep state delta) accumulators delta).1 },
        (tickGeneration (startStep state delta) accumulators delta).2) := by
  have hmarch : moveArmies (startStep state delta) accumulators delta
      = ⟨startStep state delta, accumulators, []⟩ := by
    unfold moveArmies
    change state.armies.foldl (moveArmy delta) _ = _
    rw [ha]
    rfl
  have hclose : (⟨startStep state delta, accumulators, []⟩ : Marching).close
      = startStep state delta := by
    unfold Marching.close startStep
    dsimp only
    rw [← ha]
  unfold stepSimulation finishStep
  rw [if_neg (not_not.mpr hs), hmarch, hclose]

/-- **A step of a battle in which nobody moves.** -/
theorem IdleBattle.step {delta : ℚ} {k : ℕ} {state : GameState} {accumulators : Accumulators}
    (h : IdleBattle delta k state accumulators) (hδ : GridStep delta)
    (hs : state.status = .playing) :
    IdleBattle delta (k + 1) (stepSimulation state accumulators delta).1
        (stepSimulation state accumulators delta).2 ∧
      (stepSimulation state accumulators delta).1.status
        = if pvpTimeLimitSeconds ≤ ((k + 1 : ℕ) : ℚ) * delta then .draw else .playing := by
  have hok : BattleOk (stepSimulation state accumulators delta).1 := stepSimulation_ok h.ok hδ.pos.le
  have hclock : nextElapsed state delta = ((k + 1 : ℕ) : ℚ) * delta := by
    obtain ⟨n, hn⟩ := hδ.grid
    have hgrid := nextElapsed_grid (k := k) (by omega) hδ.pos.le hn (by rw [h.version]; decide)
      (by rw [h.elapsed]; norm_cast)
    rw [hgrid]
    push_cast
    ring
  rw [stepSimulation_idle hs h.armies] at hok ⊢
  have hkeys : (startStep state delta).territories.keys
      = territoryOrderForBattlefield (startStep state delta).battlefieldId := h.ok.keys
  have helapsed : 0 ≤ (startStep state delta).elapsedTimeSeconds := by
    show 0 ≤ nextElapsed state delta
    rw [hclock]
    exact mul_nonneg (Nat.cast_nonneg _) hδ.pos.le
  have hget : ∀ id, (tickGeneration (startStep state delta) accumulators delta).1.territories.get? id
      = (state.territories.get? id).map
        (generated (startStep state delta) accumulators delta id) := by
    intro id
    rw [tickGeneration_territories accumulators delta hkeys, Record.get?_map]
    rfl
  have howners : ∀ id,
      ((tickGeneration (startStep state delta) accumulators delta).1.territory id).owner
        = (quadCitadel.templates.getD id Territory.zero).owner := by
    intro id
    rw [← h.owners id, GameState.territory, GameState.territory, Record.getD, Record.getD, hget]
    cases state.territories.get? id with
    | none => rfl
    | some t => exact generateUnits_owner _ _ _ _
  have hbases : ∀ id ∈ fourBases,
      BaseOk ((tickGeneration (startStep state delta) accumulators delta).1.territory id)
        ((tickGeneration (startStep state delta) accumulators delta).2.getD id 0)
        (((k + 1 : ℕ) : ℚ) * delta) := by
    intro id hid
    have hmem : id ∈ state.territories.keys := by
      rw [h.ok.keys, h.map]
      exact fourBases_keys id hid
    obtain ⟨t, ht⟩ := Record.exists_get?_of_mem_keys hmem
    have htower : state.territory id = t := by
      rw [GameState.territory, Record.getD, ht, Option.getD_some]
    have hbase := h.bases id hid
    rw [htower] at hbase
    have hneutral : t.owner ≠ .neutral := by
      rw [← htower, h.owners id]
      exact fourBases_owner id hid
    have hfull : productionMultiplier (startStep state delta) id = 1 :=
      @productionMultiplier_unrecovered (startStep state delta) h.recovered helapsed id
    have hstart : (startStep state delta).territory id = t := htower
    rw [tickGeneration_accumulator accumulators delta hkeys hmem, hstart, hfull,
      GameState.territory, Record.getD, hget, ht, Option.map_some, Option.getD_some]
    unfold generated
    rw [hfull]
    have hsum : ((k + 1 : ℕ) : ℚ) * delta = k * delta + delta := by
      push_cast
      ring
    rw [hsum]
    exact hbase.generate hδ hneutral
  have hlimit : (tickGeneration (startStep state delta) accumulators delta).1.timeLimitSeconds
      = pvpTimeLimitSeconds := h.timeLimit
  have htime : (tickGeneration (startStep state delta) accumulators delta).1.elapsedTimeSeconds
      = ((k + 1 : ℕ) : ℚ) * delta := hclock
  have hfull : (tickGeneration (startStep state delta) accumulators delta).1.timeLimitSeconds
      ≤ (tickGeneration (startStep state delta) accumulators delta).1.elapsedTimeSeconds →
        ∀ id ∈ fourBases,
          ((tickGeneration (startStep state delta) accumulators delta).1.territory id).units = 65 := by
    rw [hlimit, htime]
    exact fun hend id hid => (hbases id hid).full hend
  have hmap : (tickGeneration (startStep state delta) accumulators delta).1.battlefieldId
      = live2v2BattlefieldId := h.map
  have hstatus := nextStatus_idle hmap howners hfull
  rw [hlimit, htime] at hstatus
  refine ⟨?_, hstatus⟩
  exact
    { ok := hok
      map := h.map
      armies := h.armies
      version := h.version
      timeLimit := h.timeLimit
      elapsed := hclock
      recovered := h.recovered
      stats := by
        show { state.stats with matchDurationSeconds := nextElapsed state delta } = _
        rw [h.stats, hclock]
        rfl
      owners := howners
      bases := hbases }

end Step

/-! ### The start -/

/-- Modifiers with which a base starts neither over its limit nor slower than the map. -/
structure BaseModifiers (modifiers : PlayerUpgradeModifiers) : Prop where
  nonneg : 0 ≤ modifiers.startingUnits
  cap : modifiers.startingUnits ≤ 65
  rate : 1 ≤ modifiers.productionRateMultiplier

/-- **The modifiers of every career are of that kind.** -/
theorem upgradeModifiers_base (career : PlayerCareer) : BaseModifiers (upgradeModifiers career) := by
  have hunits := (upgradeModifiers_ok career).units
  have hg : upgradeLevel career .startingGarrison ≤ 20 := min_le_left _ _
  obtain ⟨hrate, hquick⟩ := levelProductionRate_ge _ (upgradeLevel_mem career .production)
  refine ⟨hunits, ?_, ?_⟩
  · unfold upgradeModifiers
    dsimp only
    split
    · dsimp only
      omega
    · split
      · dsimp only
        omega
      · dsimp only
        omega
  · unfold upgradeModifiers
    dsimp only
    split
    · exact hquick
    · split
      · exact hrate
      · exact hrate

/-- The options of a replay that starts as a match of four does. -/
structure FourStart (o : TwoVTwoSimulationOptions) : Prop where
  territories : o.territories = quadCitadel.templates
  spawns : o.spawnAssignments = live2v2SpawnAssignments
  timeLimit : o.timeLimitSeconds = pvpTimeLimitSeconds
  map : o.battlefieldId = live2v2BattlefieldId
  version : o.gameplayRulesVersion = 0 ∨ o.gameplayRulesVersion = currentGameplayRulesVersion
  modifiers : ∀ slot : Slot, BaseModifiers (o.modifiersBySlot slot.val)

theorem applySpawn_getD (modifiersBySlot : ℤ → PlayerUpgradeModifiers)
    (territories : Record String Territory) (assignment : TwoVTwoSpawnAssignment) (id : String) :
    (applySpawn modifiersBySlot territories assignment).getD id Territory.zero =
      if id = assignment.territoryId then
        { territories.getD id Territory.zero with
          units := (modifiersBySlot assignment.slot).startingUnits
          productionRate := (territories.getD id Territory.zero).productionRate
            * (modifiersBySlot assignment.slot).productionRateMultiplier }
      else territories.getD id Territory.zero := by
  unfold applySpawn
  dsimp only
  rw [Record.getD_set]
  by_cases h : id = assignment.territoryId
  · rw [if_pos h, if_pos h, h]
  · rw [if_neg h, if_neg h]

theorem spawned_base {modifiersBySlot : ℤ → PlayerUpgradeModifiers}
    (h : ∀ slot : Slot, BaseModifiers (modifiersBySlot slot.val)) :
    ∀ id ∈ fourBases, BaseOk
      ((live2v2SpawnAssignments.foldl (applySpawn modifiersBySlot) quadCitadel.templates).getD id
        Territory.zero) 0 0 := by
  have hbase : ∀ (t : Territory) (m : PlayerUpgradeModifiers), BaseModifiers m → t.maxUnits = 65 →
      t.productionRate = 1.2 → t.type = .fortress →
        BaseOk { t with
          units := m.startingUnits
          productionRate := t.productionRate * m.productionRateMultiplier } 0 0 := by
    intro t m hm hmax hrate htype
    refine ⟨⟨hm.nonneg, hmax.symm ▸ hm.cap, le_refl _, one_pos, Or.inr ?_⟩, hmax, ?_, htype⟩
    · show (0 : ℚ) ≤ m.startingUnits + 0
      rw [add_zero]
      exact_mod_cast hm.nonneg
    · show 6 / 5 ≤ t.productionRate * m.productionRateMultiplier
      have hone := hm.rate
      rw [hrate]
      linarith
  have hspawns : live2v2SpawnAssignments =
      [⟨0, "a_base_w"⟩, ⟨1, "a_base_e"⟩, ⟨2, "b_base_e"⟩, ⟨3, "b_base_w"⟩] := rfl
  rw [hspawns]
  intro id hid
  simp only [List.foldl_cons, List.foldl_nil, applySpawn_getD]
  simp only [fourBases, basesOf, List.cons_append, List.nil_append, List.mem_cons,
    List.not_mem_nil, or_false] at hid
  rcases hid with rfl | rfl | rfl | rfl
  · exact hbase (quadCitadel.templates.getD "a_base_w" Territory.zero) _ (h 0) rfl rfl rfl
  · exact hbase (quadCitadel.templates.getD "a_base_e" Territory.zero) _ (h 1) rfl rfl rfl
  · exact hbase (quadCitadel.templates.getD "b_base_w" Territory.zero) _ (h 3) rfl rfl rfl
  · exact hbase (quadCitadel.templates.getD "b_base_e" Territory.zero) _ (h 2) rfl rfl rfl

/-- **A match of four starts with nobody on the road.** -/
theorem initialState2v2_idle {o : TwoVTwoSimulationOptions} (h : FourStart o) :
    ∃ state, initialState2v2 o = .ok state ∧ state.status = .playing ∧
      ∀ delta, IdleBattle delta 0 state .empty := by
  have hset : ∃ state, initialState2v2 o = .ok state ∧ state.status = .playing ∧
      state.battlefieldId = live2v2BattlefieldId ∧ state.armies = [] ∧
      state.gameplayRulesVersion = currentGameplayRulesVersion ∧
      state.timeLimitSeconds = pvpTimeLimitSeconds ∧ state.elapsedTimeSeconds = 0 ∧
      state.productionReadyAtMs = .empty ∧ state.stats = .zero ∧
      state.territories
        = live2v2SpawnAssignments.foldl (applySpawn o.modifiersBySlot) quadCitadel.templates := by
    have hlimit : ¬ pvpTimeLimitSeconds ≤ 0 := by norm_num [pvpTimeLimitSeconds]
    unfold initialState2v2 createInitial2v2GameState
    rw [h.territories, h.spawns, h.timeLimit, h.map, live2v2Spawns_ok, if_neg hlimit]
    rcases h.version with hv | hv
    · rw [hv]
      exact ⟨_, rfl, rfl, rfl, rfl, rfl, rfl, rfl, rfl, rfl, rfl⟩
    · rw [hv]
      exact ⟨_, rfl, rfl, rfl, rfl, rfl, rfl, rfl, rfl, rfl, rfl⟩
  obtain ⟨state, hstate, hstatus, hmap, harmies, hversion, hlimit, helapsed, hready, hstats,
    hterritories⟩ := hset
  refine ⟨state, hstate, hstatus, fun delta => ?_⟩
  exact
    { ok := (initialState2v2_ok quadCitadel_mem h.territories h.map hstate).1
      map := hmap
      armies := harmies
      version := hversion
      timeLimit := hlimit
      elapsed := by rw [helapsed, Nat.cast_zero, zero_mul]
      recovered := hready
      stats := by rw [hstats, Nat.cast_zero, zero_mul]; rfl
      owners := fun id => by
        unfold GameState.territory
        rw [hterritories]
        exact foldl_preserves
          (P := fun T : Record String Territory => (T.getD id Territory.zero).owner
            = (quadCitadel.templates.getD id Territory.zero).owner)
          (fun T a _ hT => (applySpawn_owner o.modifiersBySlot T a id).trans hT) rfl
      bases := fun id hid => by
        unfold GameState.territory
        rw [hterritories, Nat.cast_zero, zero_mul]
        exact spawned_base h.modifiers id hid }

/-! ### The replay of an empty log -/

theorem gridStep_tick : GridStep pvpSimulationTick where
  long := by norm_num [pvpSimulationTick]
  grid := ⟨20000000, by norm_num [pvpSimulationTick]⟩

section Replay

variable [MathLib]

/-- A replay in which nobody has moved, after `k` ticks. -/
structure IdleReplay (r : Replay2v2) (k : ℕ) : Prop where
  bound : k ≤ 4500
  tick : r.currentTick = k
  battle : IdleBattle pvpSimulationTick k r.state r.accumulators
  status : r.state.status = if pvpTimeLimitSeconds ≤ k * pvpSimulationTick then .draw else .playing

theorem IdleReplay.next {r : Replay2v2} {k : ℕ} (h : IdleReplay r k)
    (hc : (r.playing && r.currentTick < 4500) = true) : IdleReplay r.tick (k + 1) := by
  rw [Bool.and_eq_true, decide_eq_true_iff] at hc
  have hplaying : r.state.status = .playing := of_decide_eq_true hc.1
  have hlt := hc.2
  rw [h.tick] at hlt
  obtain ⟨hnext, hstatus⟩ := h.battle.step gridStep_tick hplaying
  exact
    { bound := by omega
      tick := by
        show r.currentTick + 1 = ((k + 1 : ℕ) : ℤ)
        rw [h.tick]
        push_cast
        rfl
      battle := hnext
      status := hstatus }

/-- The clock loop of such a replay comes to the end of the match. -/
theorem stepUntil_idle {r : Replay2v2} (h : IdleReplay r 0) :
    IdleReplay (stepUntil 4500 r) 4500 := by
  have hkept : ∃ k, IdleReplay (stepUntil 4500 r) k := by
    refine whileLoop_preserves (P := fun r => ∃ k, IdleReplay r k) ?_ _ ⟨0, h⟩
    rintro r hc ⟨k, hk⟩
    exact ⟨k + 1, hk.next hc⟩
  obtain ⟨k, hk⟩ := hkept
  have hexit : ((stepUntil 4500 r).playing && (stepUntil 4500 r).currentTick < 4500) = false := by
    unfold stepUntil
    refine whileLoop_exit (P := fun _ => True)
      (c := fun r => r.playing && decide (r.currentTick < 4500)) (f := Replay2v2.tick)
      (m := fun r : Replay2v2 => (4500 - r.currentTick).toNat)
      (fun _ _ _ => trivial) (fun r hc _ => ?_) _ trivial (le_refl _)
    rw [Bool.and_eq_true, decide_eq_true_iff] at hc
    have hlt := hc.2
    show (4500 - (r.currentTick + 1)).toNat < (4500 - r.currentTick).toNat
    omega
  have hbound := hk.bound
  have hlast : k = 4500 := by
    by_contra hne
    have hlt : k < 4500 := by omega
    have hcast : (k : ℚ) + 1 ≤ 4500 := by exact_mod_cast hlt
    have hclock : ¬ pvpTimeLimitSeconds ≤ k * pvpSimulationTick := by
      norm_num [pvpTimeLimitSeconds, pvpSimulationTick]
      linarith
    have hplaying := hk.status
    rw [if_neg hclock] at hplaying
    rw [Replay2v2.playing, hplaying, hk.tick, decide_eq_true rfl, Bool.true_and,
      decide_eq_false_iff_not] at hexit
    omega
  rw [hlast] at hk
  exact hk

/-- **The replay of a match in which nobody has moved is a draw at the clock.** -/
theorem simulate2v2Battle_idle {o : TwoVTwoSimulationOptions} (h : FourStart o)
    (hactions : o.actions = []) :
    ∃ result, simulate2v2Battle o = .ok result ∧ result.finalState.status = .draw ∧
      result.finalState.stats = idleStats pvpTimeLimitSeconds := by
  obtain ⟨state, hstate, hstatus, hidle⟩ := initialState2v2_idle h
  have hmax : maximumTick state = 4500 := by
    unfold maximumTick
    rw [(hidle 0).timeLimit]
    decide +kernel
  have hstart : IdleReplay ⟨state, .empty, 0, 0⟩ 0 :=
    { bound := by omega
      tick := rfl
      battle := hidle pvpSimulationTick
      status := by
        rw [Nat.cast_zero, zero_mul, if_neg (by norm_num [pvpTimeLimitSeconds])]
        exact hstatus }
  have hend := stepUntil_idle hstart
  have htime : ((4500 : ℕ) : ℚ) * pvpSimulationTick = pvpTimeLimitSeconds := by
    norm_num [pvpTimeLimitSeconds, pvpSimulationTick]
  have hdraw := hend.status
  rw [htime, if_pos (le_refl _)] at hdraw
  have hover : (stepUntil 4500 ⟨state, .empty, 0, 0⟩).playing = false := by
    rw [Replay2v2.playing, hdraw]
    rfl
  have hfinish : finish2v2 4500 ⟨state, .empty, 0, 0⟩ = stepUntil 4500 ⟨state, .empty, 0, 0⟩ := by
    unfold finish2v2
    dsimp only
    rw [if_neg (by rw [hover]; exact Bool.false_ne_true)]
  refine ⟨⟨[], (stepUntil 4500 ⟨state, .empty, 0, 0⟩).state,
    (stepUntil 4500 ⟨state, .empty, 0, 0⟩).actionsProcessed⟩, ?_, hdraw, ?_⟩
  · unfold simulate2v2Battle
    rw [hactions, hstate]
    show Except.ok (⟨[], (finish2v2 (maximumTick state) _).state,
      (finish2v2 (maximumTick state) _).actionsProcessed⟩ : TwoVTwoSimulationResult) = _
    rw [hmax, hfinish]
  · show (stepUntil 4500 ⟨state, .empty, 0, 0⟩).state.stats = _
    rw [hend.battle.stats, htime]

end Replay

end CrownClash.Go
