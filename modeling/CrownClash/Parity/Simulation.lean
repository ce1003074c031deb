import CrownClash.Go.Conservation
import CrownClash.Go.Combat
import CrownClash.Parity.Domain

/-!
# The two engines agree on a step and on a dispatch

`stepSimulation_eq` is the step lemma every replay parity rests on: from one
well-formed state and accumulators that read the same, both engines reach the
same state and accumulators that read the same.  The accumulators are compared
by their reads on the map only, because the client keeps the keys of the record
it was given while the server starts a new map each tick.

The army loops are run in lockstep (`MarchEq`), army by army.
-/

namespace CrownClash.Parity

open Lib

/-- Two accumulator maps that read the same on the towers of a map. -/
def AccEq (ids : List String) (a b : Accumulators) : Prop := ∀ id ∈ ids, a.getD id 0 = b.getD id 0

theorem AccEq.set {ids : List String} {a b : Accumulators} (h : AccEq ids a b) (k : String)
    (v : ℚ) : AccEq ids (a.set k v) (b.set k v) := by
  intro id hid
  rw [Record.getD_set, Record.getD_set]
  split
  · rfl
  · exact h id hid

/-! ### Armies on the road -/

theorem armyDestination_eq {state : GameState} {army : MarchingArmy} (h : army.owner ≠ .neutral) :
    Ts.armyDestination army state = Go.armyDestination army state := by
  unfold Ts.armyDestination Go.armyDestination
  have hp : (fun id => decide ((state.territories.get? id).map Territory.owner ≠ some army.owner))
      = fun id => decide ((state.territory id).owner ≠ army.owner) := by
    funext id
    unfold GameState.territory Record.getD
    cases state.territories.get? id with
    | none => simp [Territory.zero, h.symm]
    | some t => simp
  rw [hp] <;> rfl

section Roads

variable [MathLib]

theorem setArmyLeg_eq {army : MarchingArmy} (h : 0 < army.routeSpeedMultiplier)
    (source target : Territory) (leg : ℕ) :
    Ts.setArmyLeg army source target leg = Go.setArmyLeg army source target leg := by
  unfold Ts.setArmyLeg Go.setArmyLeg Ts.tacticalMinLegSeconds Go.baseArmyTravelSpeed
  rw [if_neg h.ne']

theorem advanceLegs_eq (territories : Record String Territory) :
    ∀ (rest : List String) (army : MarchingArmy) (delta : ℚ),
      (rest ≠ [] → 0 < army.routeSpeedMultiplier) →
        Ts.advanceLegs territories rest army delta = Go.advanceLegs territories rest army delta := by
  intro rest
  induction rest with
  | nil => intro army delta _; rfl
  | cons nextId rest ih =>
    intro army delta h
    have hm := h (List.cons_ne_nil _ _)
    unfold Ts.advanceLegs Go.advanceLegs
    dsimp only
    cases territories.get? army.targetId with
    | none => rfl
    | some waypoint =>
      dsimp only
      have hleg := ih
        (Go.setArmyLeg army waypoint (territories.getD nextId Territory.zero) (army.routeLeg + 1))
        ((army.progress + army.speed * delta - 1) / army.speed) fun _ => hm
      rw [setArmyLeg_eq hm, hleg]

theorem advanceArmy_eq (state : GameState) (delta : ℚ) {army : MarchingArmy}
    (h : Go.ArmyOk army) :
    Ts.advanceArmy state.gameplayRulesVersion state.territories delta army
      = Go.advanceArmy state delta army := by
  unfold Ts.advanceArmy Go.advanceArmy Ts.advanceRoutedArmy Go.advanceRoutedArmy
  rw [usesTacticalRules_eq, advanceLegs_eq]
  intro hne
  refine h.routed ?_
  intro hr
  rw [hr, List.drop_nil] at hne
  exact hne rfl

theorem remainingLegSeconds_eq (state : GameState) (destination : String) {army : MarchingArmy} :
    ∀ (legs : List String) (i : ℕ), (legs ≠ [] → 0 < army.routeSpeedMultiplier) →
      Ts.remainingLegSeconds army state destination i legs
        = Go.remainingLegSeconds army state destination i legs := by
  intro legs
  induction legs with
  | nil => intro i _; rfl
  | cons id legs ih =>
    intro i h
    have hm := h (List.cons_ne_nil _ _)
    cases legs with
    | nil => rfl
    | cons next legs =>
      rw [Ts.remainingLegSeconds, Go.remainingLegSeconds, setArmyLeg_eq hm,
        ih (i + 1) fun _ => hm]

theorem armyArrivalSeconds_eq (state : GameState) {army : MarchingArmy} (h : Go.ArmyOk army) :
    Ts.armyArrivalSeconds army state = Go.armyArrivalSeconds army state := by
  unfold Ts.armyArrivalSeconds Go.armyArrivalSeconds
  rw [armyDestination_eq h.owned, remainingLegSeconds_eq]
  intro hne
  refine h.routed ?_
  intro hr
  rw [hr, List.drop_nil] at hne
  exact hne rfl

end Roads

/-! ### Production -/

theorem getCaptureProductionMultiplier_eq {elapsed : ℚ} (h : 0 ≤ elapsed) (readyAtMs : ℤ) :
    Ts.getCaptureProductionMultiplier elapsed readyAtMs
      = Go.captureProductionMultiplier elapsed readyAtMs := by
  unfold Ts.getCaptureProductionMultiplier Go.captureProductionMultiplier
    Ts.captureInitialProductionMultiplier
  rw [roundHalfAway_of_nonneg (mul_nonneg h (by norm_num))]
  norm_num [Ts.captureRecoveryMs, Go.captureRecoveryMs]

theorem generateUnits_eq (t : Territory) (accumulator multiplier delta : ℚ) :
    ((Ts.generateUnits t accumulator multiplier delta).territory,
        (Ts.generateUnits t accumulator multiplier delta).accumulator)
      = Go.generateUnits t accumulator multiplier delta := by
  unfold Ts.generateUnits Go.generateUnits Ts.accumulatorSnapEpsilon
    Go.productionAccumulatorEpsilon
  by_cases h1 : t.owner = .neutral ∨ t.productionRate ≤ 0
  · have h1' : t.owner = .neutral ∨ t.productionRate ≤ 0 ∨ t.units ≥ t.maxUnits := by
      rcases h1 with h | h
      · exact Or.inl h
      · exact Or.inr (Or.inl h)
    rw [if_pos h1, if_pos h1']
  · by_cases h2 : t.units ≥ t.maxUnits
    · rw [if_neg h1, if_pos h2, if_pos (Or.inr (Or.inr h2))]
    · have h3 : ¬ (t.owner = .neutral ∨ t.productionRate ≤ 0 ∨ t.units ≥ t.maxUnits) := by
        rintro (h | h | h)
        · exact h1 (Or.inl h)
        · exact h1 (Or.inr h)
        · exact h2 h
      have hε : (1 / 10 ^ 9 : ℚ) ≤ 1 / 2 := by norm_num
      have hs := snap_eq_snap hε (accumulator +
        t.productionRate * Go.territoryProductionMultiplier t.type * multiplier * delta)
      rw [if_neg h1, if_neg h2, if_neg h3, getTerritoryProductionMultiplier_eq]
      dsimp only
      rw [hs]
      split <;> rfl

/-- The fraction the server's production tick leaves at a tower. -/
def leftOver (state : GameState) (accumulators : Accumulators) (delta : ℚ) (id : String) : ℚ :=
  (Go.generateUnits (state.territory id) (accumulators.getD id 0)
    (Go.productionMultiplier state id) delta).2

theorem tickGeneration_getD {state : GameState} (accumulators : Accumulators) (delta : ℚ)
    (hk : state.territories.keys = Go.territoryOrderForBattlefield state.battlefieldId)
    {id : String} (hid : id ∈ state.territories.keys) :
    (Go.tickGeneration state accumulators delta).2.getD id 0
      = leftOver state accumulators delta id :=
  Go.tickGeneration_accumulator accumulators delta hk hid

/-- The client's multiplier for a tower. -/
def tsMultiplier (productionMultipliers : Option (Record String ℚ)) (id : String) : ℚ :=
  match productionMultipliers with
  | some multipliers => multipliers.getD id 1
  | none => 1

/-- What the client's production tick does to one tower. -/
def tsGenerated (multipliers : Option (Record String ℚ)) (accumulators : Accumulators)
    (delta : ℚ) (id : String) (t : Territory) : Ts.Generated :=
  Ts.generateUnits t (accumulators.getD id 0) (tsMultiplier multipliers id) delta

theorem foldl_generateEntry (multipliers : Option (Record String ℚ)) (delta : ℚ) :
    ∀ (l : List (String × Territory)) (g : Ts.GenerationUpdateResult), (l.map Prod.fst).Nodup →
      (l.foldl (Ts.generateEntry multipliers delta) g).territories
          = l.foldl (fun r e => r.set e.1
              (tsGenerated multipliers g.accumulators delta e.1 e.2).territory) g.territories ∧
        (l.foldl (Ts.generateEntry multipliers delta) g).accumulators
          = l.foldl (fun r e => r.set e.1
              (tsGenerated multipliers g.accumulators delta e.1 e.2).accumulator)
            g.accumulators := by
  intro l
  induction l with
  | nil => intro g _; exact ⟨rfl, rfl⟩
  | cons e l ih =>
    intro g hn
    obtain ⟨he, hn⟩ := List.nodup_cons.mp hn
    obtain ⟨ht, ha⟩ := ih (Ts.generateEntry multipliers delta g e) hn
    -- The entries behind read their accumulators where this round did not write.
    have hsame : ∀ e' ∈ l, tsGenerated multipliers
        (Ts.generateEntry multipliers delta g e).accumulators delta e'.1 e'.2
          = tsGenerated multipliers g.accumulators delta e'.1 e'.2 := by
      intro e' hm
      have hne : e'.1 ≠ e.1 := fun hh => he (hh ▸ List.mem_map_of_mem hm)
      have hg : (Ts.generateEntry multipliers delta g e).accumulators.getD e'.1 0
          = g.accumulators.getD e'.1 0 := by
        change (g.accumulators.set e.1 _).getD e'.1 0 = _
        rw [Record.getD_set, if_neg hne]
      rw [tsGenerated, hg, tsGenerated]
    rw [List.foldl_cons, List.foldl_cons, List.foldl_cons, ht, ha]
    constructor
    · exact List.foldl_ext _ _ _ fun r e' hm => by rw [hsame e' hm]
    · exact List.foldl_ext _ _ _ fun r e' hm => by rw [hsame e' hm]

theorem tickUnitGeneration_territories (territories : Record String Territory)
    (accumulators : Accumulators) (delta : ℚ) (multipliers : Option (Record String ℚ)) :
    (Ts.tickUnitGeneration territories accumulators delta multipliers).territories
      = territories.map fun id t =>
          (tsGenerated multipliers accumulators delta id t).territory := by
  unfold Ts.tickUnitGeneration
  rw [(foldl_generateEntry multipliers delta _ _ territories.nodup).1]
  exact Record.foldl_set_empty
    (fun id t => (tsGenerated multipliers accumulators delta id t).territory) territories

theorem tickUnitGeneration_getD (territories : Record String Territory)
    (accumulators : Accumulators) (delta : ℚ) (multipliers : Option (Record String ℚ))
    {id : String} (hid : id ∈ territories.keys) :
    (Ts.tickUnitGeneration territories accumulators delta multipliers).accumulators.getD id 0
      = (tsGenerated multipliers accumulators delta id
          (territories.getD id Territory.zero)).accumulator := by
  unfold Ts.tickUnitGeneration
  rw [(foldl_generateEntry multipliers delta _ _ territories.nodup).2]
  have hkeys : territories.entries.foldl (fun r e => r.set e.1
      (tsGenerated multipliers accumulators delta e.1 e.2).accumulator) accumulators
        = territories.keys.foldl (fun r k => r.set k (tsGenerated multipliers accumulators delta k
            (territories.getD k Territory.zero)).accumulator) accumulators := by
    rw [Record.keys, List.foldl_map]
    refine List.foldl_ext _ _ _ fun r e hm => ?_
    have hg : territories.get? e.1 = some e.2 := Record.get?_eq_some_iff.mpr hm
    rw [Record.getD, hg, Option.getD_some]
  dsimp only
  rw [hkeys, Record.getD_foldl_set, if_pos hid]

/-- **Both engines produce the same.** -/
theorem tickGeneration_eq {state : GameState} {a b : Accumulators} (delta : ℚ)
    {multipliers : Option (Record String ℚ)} (hk : state.territories.keys
      = Go.territoryOrderForBattlefield state.battlefieldId)
    (hacc : AccEq state.territories.keys a b)
    (hm : ∀ id, tsMultiplier multipliers id = Go.productionMultiplier state id) :
    (Ts.tickUnitGeneration state.territories a delta multipliers).territories
        = (Go.tickGeneration state b delta).1.territories ∧
      AccEq state.territories.keys
        (Ts.tickUnitGeneration state.territories a delta multipliers).accumulators
        (Go.tickGeneration state b delta).2 := by
  have hgen : ∀ id ∈ state.territories.keys, ∀ t,
      ((tsGenerated multipliers a delta id t).territory,
          (tsGenerated multipliers a delta id t).accumulator)
        = Go.generateUnits t (b.getD id 0) (Go.productionMultiplier state id) delta := by
    intro id hid t
    unfold tsGenerated
    rw [generateUnits_eq, hm id, hacc id hid]
  constructor
  · rw [tickUnitGeneration_territories, Go.tickGeneration_territories _ _ hk]
    refine Record.ext_get? (by rw [Record.keys_map, Record.keys_map]) fun id hid => ?_
    rw [Record.keys_map] at hid
    rw [Record.get?_map, Record.get?_map]
    cases state.territories.get? id with
    | none => rfl
    | some t => exact congrArg some (congrArg Prod.fst (hgen id hid t))
  · intro id hid
    rw [tickUnitGeneration_getD _ _ _ _ hid, tickGeneration_getD _ _ hk hid]
    exact congrArg Prod.snd (hgen id hid _)

/-! ### The army loop in lockstep -/

/-- The client's army loop and the server's have done the same so far. -/
structure MarchEq (start : GameState) (m : Ts.Marching) (g : Go.Marching) : Prop where
  state : g.state =
    { start with
      territories := m.territories
      productionReadyAtMs := m.readyTimes.getD .empty
      stats := m.stats }
  ready : m.readyTimes.isSome = Go.hasCaptureRecovery start.gameplayRulesVersion
  acc : AccEq start.territories.keys m.generationAccumulators g.accumulators
  remaining : m.remainingArmies = g.remaining

/-- The client's clock of a step is the server's. -/
structure ClockEq (c : Ts.StepClock) (start : GameState) : Prop where
  version : c.currentState.gameplayRulesVersion = start.gameplayRulesVersion
  shielded : c.currentState.shieldedUntilMs = start.shieldedUntilMs
  nowMs : c.nowMs = Go.matchMs start

theorem addCapture_eq (stats : MatchStats) (team : Team) :
    Ts.addCapture stats team = Go.addCapture stats team := by
  cases team <;> rfl

theorem arriveArmy_eq {start : GameState} {c : Ts.StepClock} {m : Ts.Marching} {g : Go.Marching}
    (hc : ClockEq c start) (h : MarchEq start m g) (army : MarchingArmy) :
    MarchEq start (Ts.arriveArmy c m army)
      { g with
        state := (Go.arriveArmy (g.state, g.accumulators) army).1
        accumulators := (Go.arriveArmy (g.state, g.accumulators) army).2 } := by
  obtain ⟨territories, readyTimes, generationAccumulators, stats, remainingArmies, resolved⟩ := m
  obtain ⟨state, accumulators, remaining⟩ := g
  obtain ⟨hs, hr, ha, hrem⟩ := h
  dsimp only at hs hr ha hrem
  subst hs
  unfold Ts.arriveArmy Go.arriveArmy
  dsimp only
  cases territories.get? army.targetId with
  | none => exact ⟨rfl, hr, ha, hrem⟩
  | some target =>
    have hbonus : (if c.currentState.shieldedUntilMs.getD target.id 0 > c.nowMs then
        Ts.shieldDefenseMultiplier else 1) = Go.defenseBonus
          { start with
            territories := territories
            productionReadyAtMs := readyTimes.getD .empty
            stats := stats } target := by
      rw [hc.shielded, hc.nowMs]
      rfl
    dsimp only
    rw [hbonus, newOwner_resolveArrival, remainingUnits_resolveArrival,
      captured_resolveArrival]
    split
    · cases readyTimes with
      | none =>
        rw [← hr]
        exact ⟨by rw [addCapture_eq]; rfl, hr, ha, hrem⟩
      | some ready =>
        rw [← hr]
        refine ⟨?_, hr, ha.set _ _, hrem⟩
        rw [addCapture_eq, hc.nowMs]
        rfl
    · exact ⟨rfl, hr, ha, hrem⟩

theorem moveArmy_eq [MathLib] {start : GameState} {c : Ts.StepClock} {m : Ts.Marching}
    {g : Go.Marching} (delta : ℚ) (hc : ClockEq c start) (h : MarchEq start m g)
    {army : MarchingArmy} (hr : Go.ArmyOk army) :
    MarchEq start (Ts.moveArmy c delta m army) (Go.moveArmy delta g army) := by
  have hadv : Ts.advanceArmy c.currentState.gameplayRulesVersion m.territories delta army
      = Go.advanceArmy g.state delta army := by
    rw [← advanceArmy_eq g.state delta hr, hc.version, h.state]
  unfold Ts.moveArmy Go.moveArmy
  rw [hadv]
  dsimp only
  split
  · exact arriveArmy_eq hc h _
  · exact { h with remaining := by rw [h.remaining] }

/-! ### The step -/

/-- **Both engines end a match at the same moment with the same verdict.** -/
theorem nextStatus_eq {state : GameState} (hk : state.territories.keys
      = Go.territoryOrderForBattlefield state.battlefieldId) :
    Ts.nextStatus state.territories state.armies state.elapsedTimeSeconds state.timeLimitSeconds
      = Go.nextStatus state := by
  unfold Ts.nextStatus Go.nextStatus Go.timeLimitStatus
  rw [Go.filter_values .player hk, Go.filter_values .enemy hk]
  simp only [List.length_eq_zero_iff]
  have hany : ∀ team, Ts.hasArmy state.armies team = Go.hasArmy state.armies team := fun _ => rfl
  rw [hany, hany]
  generalize Go.territoriesOf state .player = player
  generalize Go.territoriesOf state .enemy = enemy
  have hsum : ∀ ts : List Territory, (ts.map Territory.units).sum = Go.unitsOf ts := fun _ => rfl
  rw [hsum, hsum]
  split
  · rfl
  · split
    · rfl
    · split
      · rcases lt_trichotomy player.length enemy.length with hl | hl | hl
        · simp [hl, hl.not_gt, hl.ne]
        · rcases lt_trichotomy (Go.unitsOf player) (Go.unitsOf enemy) with hu | hu | hu
          · simp [hl, hu, hu.not_gt]
          · simp [hl, hu]
          · simp [hl, hu]
        · simp [hl]
      · rfl

theorem stepClock_eq {state : GameState} {delta : ℚ} (h : Go.BattleOk state) (hδ : 0 ≤ delta) :
    (Ts.stepClock state delta).newElapsed = Go.nextElapsed state delta ∧
      ClockEq (Ts.stepClock state delta) (Go.startStep state delta) := by
  have hs : 0 ≤ state.elapsedTimeSeconds + delta := add_nonneg h.elapsed hδ
  have hn : (Ts.stepClock state delta).newElapsed = Go.nextElapsed state delta := by
    unfold Ts.stepClock Go.nextElapsed
    dsimp only
    rw [hasCaptureRecovery_eq, roundHalfAway_of_nonneg (by positivity)]
  refine ⟨hn, rfl, rfl, ?_⟩
  change roundHalfUp ((Ts.stepClock state delta).newElapsed * 1000) = _
  have hm : 0 ≤ Go.nextElapsed state delta * 1000 :=
    mul_nonneg (Go.startStep_ok h hδ).elapsed (by norm_num)
  rw [hn, ← roundHalfAway_of_nonneg hm]
  rfl

/-- The client's production multipliers are the server's, where an absent key
counts as a recovery that is over. -/
theorem productionMultiplier_eq (state : GameState) (readyTimes : Option (Record String ℤ))
    (he : 0 ≤ state.elapsedTimeSeconds)
    (hr : readyTimes.isSome = Go.hasCaptureRecovery state.gameplayRulesVersion)
    (hs : state.productionReadyAtMs = readyTimes.getD .empty) (id : String) :
    tsMultiplier (readyTimes.map fun ready => ready.map fun _ readyAtMs =>
        Ts.getCaptureProductionMultiplier state.elapsedTimeSeconds readyAtMs) id
      = Go.productionMultiplier state id := by
  unfold Go.productionMultiplier
  rw [← hr, hs]
  cases readyTimes with
  | none => rfl
  | some ready =>
    change ((ready.map _).get? id).getD 1 = Go.captureProductionMultiplier _ _
    rw [Record.get?_map, Option.getD_some, Record.getD]
    cases ready.get? id with
    | some readyAtMs => exact getCaptureProductionMultiplier_eq he readyAtMs
    | none =>
      have hn : 0 ≤ roundHalfAway (state.elapsedTimeSeconds * 1000) := by
        rw [roundHalfAway_of_nonneg (by positivity)]
        exact roundHalfUp_nonneg (by positivity)
      have hmax : max 0 (((0 : ℤ) : ℚ) - roundHalfAway (state.elapsedTimeSeconds * 1000)) = 0 :=
        max_eq_left (by rw [Int.cast_zero, zero_sub, neg_nonpos]; exact Int.cast_nonneg hn)
      rw [Option.map_none, Option.getD_none, Option.getD_none, Go.captureProductionMultiplier,
        hmax]
      norm_num

/-- **Both engines close a step the same way.** -/
theorem finishStep_eq (start : GameState) {c : Ts.StepClock} {m : Ts.Marching} {g : Go.Marching}
    {delta : ℚ} (hg : Go.MarchingOk start g) (hok : Go.BattleOk g.close)
    (h : MarchEq start m g) (hn : c.newElapsed = start.elapsedTimeSeconds)
    (hc : { c.currentState with
        elapsedTimeSeconds := c.newElapsed
        stats := { c.currentState.stats with matchDurationSeconds := c.newElapsed } } = start) :
    (Ts.finishStep c m delta).state = (Go.finishStep g delta).1 ∧
      AccEq start.territories.keys (Ts.finishStep c m delta).accumulators
        (Go.finishStep g delta).2 := by
  have hkeys : g.close.territories.keys = start.territories.keys := hg.frame.keys
  have hterr : g.close.territories = m.territories := by
    change g.state.territories = _
    rw [h.state]
  have hacc : AccEq g.close.territories.keys m.generationAccumulators g.accumulators := by
    rw [hkeys]
    exact h.acc
  have hmul := productionMultiplier_eq g.close m.readyTimes hok.elapsed
    (by rw [h.ready, ← hg.frame.version]; rfl)
    (by change g.state.productionReadyAtMs = _; rw [h.state])
  have helapsed : g.close.elapsedTimeSeconds = c.newElapsed := by
    rw [hn]
    exact hg.frame.elapsed
  rw [helapsed] at hmul
  obtain ⟨ht, ha⟩ := tickGeneration_eq delta hok.keys hacc hmul
  refine ⟨?_, ?_⟩
  · have hp := (Go.tickGeneration_ok g.accumulators delta hok).keys
    have hst := nextStatus_eq hp
    rw [hterr] at ht
    rw [← ht] at hst
    obtain ⟨state, accumulators, remaining⟩ := g
    obtain ⟨hs, hr, ha', hrem⟩ := h
    dsimp only at hs hrem
    subst hs
    subst hrem
    subst hc
    exact GameState.ext rfl ht rfl hst rfl rfl rfl rfl rfl rfl rfl rfl
  · rw [hterr] at ha
    rw [← hkeys, hterr]
    exact ha

variable [MathLib]

/-- **Both army loops do the same.** -/
theorem moveArmies_eq {state : GameState} {a b : Accumulators} {delta : ℚ}
    (h : Go.BattleOk state) (hδ : 0 ≤ delta) (hacc : AccEq state.territories.keys a b) :
    MarchEq (Go.startStep state delta)
      (state.armies.foldl (Ts.moveArmy (Ts.stepClock state delta) delta)
        (Ts.marchStart (Ts.stepClock state delta) a))
      (Go.moveArmies (Go.startStep state delta) b delta) := by
  obtain ⟨hn, hc⟩ := stepClock_eq h hδ
  refine foldl_lockstep (fun m g army ham hm => moveArmy_eq delta hc hm (h.armies army ham)) ?_
  unfold Ts.marchStart
  have hcur : (Ts.stepClock state delta).currentState = state := rfl
  rw [hcur, hasCaptureRecovery_eq, hn]
  cases hr : Go.hasCaptureRecovery state.gameplayRulesVersion with
  | true => exact ⟨rfl, hr.symm, hacc, rfl⟩
  | false =>
    refine ⟨?_, hr.symm, hacc, rfl⟩
    have he := h.ready hr
    unfold Go.startStep
    dsimp only
    rw [he]
    rfl

/-- **One step, twice.**  From a well-formed state and accumulators that read
the same, both engines make the same step. -/
theorem stepSimulation_eq {state : GameState} {a b : Accumulators} {delta : ℚ}
    (h : Go.BattleOk state) (hδ : 0 ≤ delta) (hacc : AccEq state.territories.keys a b) :
    (Ts.stepSimulation state a delta).state = (Go.stepSimulation state b delta).1 ∧
      AccEq state.territories.keys (Ts.stepSimulation state a delta).accumulators
        (Go.stepSimulation state b delta).2 := by
  by_cases hp : state.status ≠ .playing
  · rw [Ts.stepSimulation, Go.stepSimulation, if_pos hp, if_pos hp]
    exact ⟨rfl, hacc⟩
  · have hstart := Go.startStep_ok h hδ
    have hn := (stepClock_eq h hδ).1
    rw [Ts.stepSimulation, Go.stepSimulation, if_neg hp, if_neg hp]
    refine finishStep_eq (Go.startStep state delta) (Go.moveArmies_ok b delta hstart)
      (Go.moveArmies_close_ok b delta hstart) (moveArmies_eq h hδ hacc) hn ?_
    rw [hn]
    rfl

/-- The step of the client makes no more units than the production of the server. -/
theorem step_units {state : GameState} {a b : Accumulators} {delta : ℚ} (h : Go.BattleOk state)
    (hm : Go.Manned state) (hδ : 0 ≤ delta) (hacc : AccEq state.territories.keys a b)
    (team : Team) :
    Go.sideUnits (Ts.stepSimulation state a delta).state team
      ≤ Go.sideUnits state team + Go.stepProduced state b delta team := by
  rw [(stepSimulation_eq h hδ hacc).1]
  exact Go.step_units hm b delta team

/-! ### Attacks that come one after the other -/

omit [MathLib] in
/-- The tower after an arrival, as the client has it. -/
theorem afterCombat_ts (t : Territory) (incoming : ℤ) (attacker : Team) (bonus : ℚ) :
    ({ t with
      owner := (Ts.resolveArrival t incoming attacker bonus).newOwner
      units := (Ts.resolveArrival t incoming attacker bonus).remainingUnits } : Territory)
      = Go.afterCombat t incoming attacker bonus := by
  rw [newOwner_resolveArrival, remainingUnits_resolveArrival]
  rfl

omit [MathLib] in
/-- **Splitting an attack never helps**, in either engine, whatever the tower, its
garrison and its shield.  `AtLeast` says that the second tower is no worse for the
attacker than the first: one arrival of all units is no worse than two arrivals, or any
number of them; a repelled attack leaves no more defenders than there were; and one more
unit is no worse. -/
theorem splitting_never_helps {target : Territory} {attacker : Team}
    (ho : target.owner ≠ attacker) {bonus : ℚ} (hb : 1 ≤ bonus) :
    (∀ (t : Territory) (incoming : ℤ), ({ t with
      owner := (Ts.resolveArrival t incoming attacker bonus).newOwner
      units := (Ts.resolveArrival t incoming attacker bonus).remainingUnits } : Territory)
      = Go.afterCombat t incoming attacker bonus) ∧
    (∀ a b : ℤ, 0 < a → 0 < b → Go.AtLeast attacker
      (Go.afterCombat (Go.afterCombat target a attacker bonus) b attacker bonus)
      (Go.afterCombat target (a + b) attacker bonus)) ∧
    (∀ arrivals : List ℤ, (∀ a ∈ arrivals, 0 < a) → Go.AtLeast attacker
      (Go.attacks attacker bonus target arrivals)
      (Go.afterCombat target arrivals.sum attacker bonus)) ∧
    (∀ a : ℤ, 0 < a → (Go.afterCombat target a attacker bonus).owner ≠ attacker →
      (Go.afterCombat target a attacker bonus).units ≤ target.units) ∧
    ∀ a : ℤ, 0 ≤ a → Go.AtLeast attacker (Go.afterCombat target a attacker bonus)
      (Go.afterCombat target (a + 1) attacker bonus) := by
  have hpos : 0 < bonus := one_pos.trans_le hb
  refine ⟨fun t incoming => afterCombat_ts t incoming attacker bonus, ?_, ?_, ?_, ?_⟩
  · exact fun a b ha hb' => Go.attack_attack hpos ho ha hb'
  · exact fun arrivals harrivals => Go.attacks_sum hpos arrivals ho harrivals
  · exact fun a ha hn => Go.afterCombat_units_le hpos ha ho hn
  · exact fun a ha => Go.attack_succ hpos ho ha

omit [MathLib] in
/-- Seven and six units on a shielded fortress, and thirteen. -/
theorem splitting_never_helps_fortress : Go.AtLeast .player
    (Go.attacks .player 2 ⟨"f", "F", 0, 0, 30, .enemy, 5, 65, 1, 3, .fortress⟩ [7, 6])
    (Go.afterCombat ⟨"f", "F", 0, 0, 30, .enemy, 5, 65, 1, 3, .fortress⟩ 13 .player 2) :=
  (splitting_never_helps (by decide) one_le_two).2.2.1 [7, 6] (by decide)

end CrownClash.Parity
