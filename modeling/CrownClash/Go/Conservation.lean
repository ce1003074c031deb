import CrownClash.Go.BattleRun

/-!
# Server: where the units of a side are

A unit of a side stands in one of its towers or marches in one of its armies.
`sideUnits` counts both.  A dispatch moves units from one place to the other, an
arrival moves them back or loses them in combat, and only `tickGeneration` makes
new ones: `produced` counts these, tower by tower.  So over a step the units of a
side grow by at most what was produced for it (`step_units`), and no garrison is
ever negative and no army ever empty (`Manned`).
-/

namespace CrownClash.Go

open Lib

/-- The units a tower holds for a side. -/
def towerUnits (team : Team) (t : Territory) : ℤ := if t.owner = team then t.units else 0

/-- The units an army carries for a side. -/
def armyUnits (team : Team) (a : MarchingArmy) : ℤ := if a.owner = team then a.units else 0

def garrisonUnits (state : GameState) (team : Team) : ℤ :=
  (state.territories.values.map (towerUnits team)).sum

def marchingUnits (armies : List MarchingArmy) (team : Team) : ℤ :=
  (armies.map (armyUnits team)).sum

/-- All units of a side, in its towers and in its armies. -/
def sideUnits (state : GameState) (team : Team) : ℤ :=
  garrisonUnits state team + marchingUnits state.armies team

/-- The units that `tickGeneration` makes for a side. -/
def produced (state : GameState) (accumulators : Accumulators) (delta : ℚ) (team : Team) : ℤ :=
  (state.territories.entries.map fun e =>
    if e.2.owner = team then (generated state accumulators delta e.1 e.2).units - e.2.units
    else 0).sum

/-- No garrison is negative and every army has somebody in it. -/
structure Manned (state : GameState) : Prop where
  keys : state.territories.keys = territoryOrderForBattlefield state.battlefieldId
  garrisons : UnitsOk state
  armies : ∀ a ∈ state.armies, 1 ≤ a.units

/-! ### One arrival -/

/-- Those who beat an attack back are no more than they were. -/
theorem remainingDefenders_le {t : Territory} {incoming : ℤ} {bonus : ℚ} (hb : 0 < bonus)
    (hi : 1 ≤ incoming) :
    remainingDefenders t.type (territoryDefenseStrengthWithBonus t bonus - incoming) bonus
      ≤ t.units := by
  have hm : 0 < territoryDefenseMultiplier t.type * bonus :=
    mul_pos (territoryDefenseMultiplier_pos t.type) hb
  unfold remainingDefenders territoryDefenseStrengthWithBonus
  generalize territoryDefenseMultiplier t.type * bonus = m at hm
  have hceil : (⌈(t.units : ℚ) * m⌉ : ℚ) < t.units * m + 1 := Int.ceil_lt_add_one _
  have hone : (1 : ℚ) ≤ incoming := by exact_mod_cast hi
  rw [Int.ceil_le, div_le_iff₀ hm]
  push_cast
  linarith

theorem defenseStrength_nonneg {t : Territory} {bonus : ℚ} (hb : 0 < bonus) (h : 0 ≤ t.units) :
    0 ≤ territoryDefenseStrengthWithBonus t bonus := by
  have hm : 0 < territoryDefenseMultiplier t.type * bonus :=
    mul_pos (territoryDefenseMultiplier_pos t.type) hb
  have hu : (0 : ℚ) ≤ t.units := by exact_mod_cast h
  exact Int.ceil_nonneg (mul_nonneg hu hm.le)

/-- **An arrival makes no units.**  A side has after it at most what it had in the tower
and in the army. -/
theorem towerUnits_afterCombat {t : Territory} {incoming : ℤ} (attacker : Team) {bonus : ℚ}
    (hb : 0 < bonus) (hi : 1 ≤ incoming) (h : 0 ≤ t.units) (team : Team) :
    towerUnits team (afterCombat t incoming attacker bonus)
      ≤ towerUnits team t + if attacker = team then incoming else 0 := by
  have hd := defenseStrength_nonneg (t := t) hb h
  have hr := remainingDefenders_le (t := t) hb hi
  unfold towerUnits afterCombat resolveArrivalWithBonus
  rw [if_neg (by omega : ¬ incoming ≤ 0)]
  by_cases hs : attacker = t.owner
  · rw [if_pos hs]
    dsimp only
    rw [hs]
    split <;> omega
  rw [if_neg hs]
  dsimp only
  by_cases hw : incoming > territoryDefenseStrengthWithBonus t bonus
  · rw [if_pos hw]
    dsimp only
    by_cases ha : attacker = team
    · rw [if_pos ha, if_pos ha, if_neg (fun ho => hs (ha.trans ho.symm))]
      omega
    · rw [if_neg ha, if_neg ha]
      split <;> omega
  · rw [if_neg hw]
    dsimp only
    split <;> split <;> omega

theorem arriveArmy_units {p : GameState × Accumulators} {army : MarchingArmy} (hu : UnitsOk p.1)
    (ha : 1 ≤ army.units) (team : Team) :
    garrisonUnits (arriveArmy p army).1 team
      ≤ garrisonUnits p.1 team + armyUnits team army := by
  have hpos : 0 ≤ armyUnits team army := by
    unfold armyUnits
    split <;> omega
  unfold arriveArmy
  cases hg : p.1.territories.get? army.targetId with
  | none =>
    dsimp only
    omega
  | some target =>
    have hset := Record.sum_values_set (towerUnits team)
      (afterCombat target army.units army.owner (defenseBonus p.1 target)) hg
    have hc := towerUnits_afterCombat army.owner (defenseBonus_pos p.1 target) ha
      (hu _ _ hg) team
    have hle : ((p.1.territories.set army.targetId (afterCombat target army.units army.owner
        (defenseBonus p.1 target))).values.map (towerUnits team)).sum
          ≤ garrisonUnits p.1 team + armyUnits team army := by
      rw [hset]
      unfold garrisonUnits armyUnits
      omega
    dsimp only
    split <;> exact hle

/-! ### The army loop -/

section Moving

variable [MathLib]

/-- The units of a side in the middle of the army loop, those of the armies that still
wait apart. -/
def Marching.units (m : Marching) (team : Team) : ℤ :=
  garrisonUnits m.state team + marchingUnits m.remaining team

omit [MathLib] in
theorem marchingUnits_concat (armies : List MarchingArmy) (a : MarchingArmy) (team : Team) :
    marchingUnits (armies ++ [a]) team = marchingUnits armies team + armyUnits team a := by
  unfold marchingUnits
  rw [List.map_append, List.sum_append, List.map_singleton, List.sum_singleton]

theorem moveArmy_units {delta : ℚ} {m : Marching} {army : MarchingArmy} (hu : UnitsOk m.state)
    (ha : 1 ≤ army.units) (team : Team) :
    (moveArmy delta m army).units team ≤ m.units team + armyUnits team army := by
  have hf := advanceArmy_force m.state delta army
  have hau : armyUnits team (advanceArmy m.state delta army).1 = armyUnits team army := by
    unfold armyUnits
    rw [hf.owner, hf.units]
  unfold moveArmy Marching.units
  dsimp only
  split
  · have h := arriveArmy_units (p := (m.state, m.accumulators)) hu
      (by rw [hf.units]; exact ha : 1 ≤ (advanceArmy m.state delta army).1.units) team
    rw [hau] at h
    dsimp only at h ⊢
    omega
  · dsimp only
    rw [marchingUnits_concat, hau]
    omega

theorem moveArmy_manned {delta : ℚ} {m : Marching} {army : MarchingArmy} (ha : 1 ≤ army.units)
    (h : UnitsOk m.state ∧ ∀ a ∈ m.remaining, 1 ≤ a.units) :
    UnitsOk (moveArmy delta m army).state ∧
      ∀ a ∈ (moveArmy delta m army).remaining, 1 ≤ a.units := by
  have hf := advanceArmy_force m.state delta army
  unfold moveArmy
  dsimp only
  split
  · exact ⟨towerRule_units.arriveArmy _ h.1, h.2⟩
  · refine ⟨h.1, fun a hm => ?_⟩
    rcases List.mem_append.mp hm with hm | hm
    · exact h.2 a hm
    · rw [List.mem_singleton.mp hm, hf.units]
      exact ha

theorem foldl_moveArmy_units (delta : ℚ) (team : Team) : ∀ (armies : List MarchingArmy)
    (m : Marching), (∀ a ∈ armies, 1 ≤ a.units) →
      (UnitsOk m.state ∧ ∀ a ∈ m.remaining, 1 ≤ a.units) →
      (armies.foldl (moveArmy delta) m).units team ≤ m.units team + marchingUnits armies team := by
  intro armies
  induction armies with
  | nil =>
    intro m _ _
    exact le_of_eq (add_zero _).symm
  | cons a armies ih =>
    intro m ha hm
    have h1 := @moveArmy_units _ delta _ _ hm.1 (ha a List.mem_cons_self) team
    have h2 := ih (moveArmy delta m a) (fun b hb => ha b (List.mem_cons_of_mem a hb))
      (moveArmy_manned (ha a List.mem_cons_self) hm)
    have h3 : marchingUnits (a :: armies) team = armyUnits team a + marchingUnits armies team :=
      List.sum_cons
    rw [List.foldl_cons]
    omega

/-- **Marching and fighting makes no units.** -/
theorem moveArmies_units {state : GameState} (h : Manned state) (accumulators : Accumulators)
    (delta : ℚ) (team : Team) :
    sideUnits (moveArmies state accumulators delta).close team ≤ sideUnits state team := by
  have hf := foldl_moveArmy_units delta team state.armies ⟨state, accumulators, []⟩ h.armies
    ⟨h.garrisons, fun a ha => absurd ha List.not_mem_nil⟩
  have hstart : (⟨state, accumulators, []⟩ : Marching).units team = garrisonUnits state team :=
    add_zero _
  rw [hstart] at hf
  exact hf

theorem moveArmies_manned {state : GameState} (h : Manned state) (accumulators : Accumulators)
    (delta : ℚ) : Manned (moveArmies state accumulators delta).close := by
  have hm : UnitsOk (moveArmies state accumulators delta).state ∧
      ∀ a ∈ (moveArmies state accumulators delta).remaining, 1 ≤ a.units :=
    foldl_preserves (P := fun m : Marching => UnitsOk m.state ∧ ∀ a ∈ m.remaining, 1 ≤ a.units)
      (fun m a ha hm => moveArmy_manned (h.armies a ha) hm)
      ⟨h.garrisons, fun a ha => absurd ha List.not_mem_nil⟩
  have hf : SameFrame state (moveArmies state accumulators delta).state := by
    refine foldl_preserves (P := fun m : Marching => SameFrame state m.state) ?_
      (SameFrame.refl state)
    intro m a _ hm
    unfold moveArmy
    dsimp only
    split
    · exact hm.trans (arriveArmy_frame (m.state, m.accumulators) _)
    · exact hm
  refine ⟨?_, hm.1, hm.2⟩
  change (moveArmies state accumulators delta).state.territories.keys
    = territoryOrderForBattlefield (moveArmies state accumulators delta).state.battlefieldId
  rw [hf.keys, hf.battlefieldId, h.keys]

end Moving


/-! ### Production and the step -/

/-- Only production makes units, and it makes what `produced` counts. -/
theorem tickGeneration_units {state : GameState}
    (hk : state.territories.keys = territoryOrderForBattlefield state.battlefieldId)
    (accumulators : Accumulators) (delta : ℚ) (team : Team) :
    sideUnits (tickGeneration state accumulators delta).1 team
      = sideUnits state team + produced state accumulators delta team := by
  have hg : garrisonUnits (tickGeneration state accumulators delta).1 team
      = garrisonUnits state team + produced state accumulators delta team := by
    unfold garrisonUnits produced
    rw [tickGeneration_territories accumulators delta hk, Record.values_map, Record.values,
      List.map_map, List.map_map, ← List.sum_map_add]
    refine congrArg List.sum (List.map_congr_left fun e _ => ?_)
    change towerUnits team (generated state accumulators delta e.1 e.2) = towerUnits team e.2 + _
    unfold towerUnits
    rw [show (generated state accumulators delta e.1 e.2).owner = e.2.owner
      from generateUnits_owner _ _ _ _]
    split
    · rw [add_sub_cancel]
    · rfl
  unfold sideUnits
  rw [hg, show (tickGeneration state accumulators delta).1.armies = state.armies from rfl]
  omega

theorem tickGeneration_manned {state : GameState} (h : Manned state) (accumulators : Accumulators)
    (delta : ℚ) : Manned (tickGeneration state accumulators delta).1 := by
  refine ⟨?_, towerRule_units.tickGeneration accumulators delta h.keys h.garrisons, h.armies⟩
  rw [tickGeneration_territories accumulators delta h.keys, Record.keys_map]
  exact h.keys

section Step

variable [MathLib]

/-- The units that a step produces for a side; a battle that is over produces none. -/
def stepProduced (state : GameState) (accumulators : Accumulators) (delta : ℚ) (team : Team) : ℤ :=
  if state.status ≠ .playing then 0
  else
    let m := moveArmies (startStep state delta) accumulators delta
    produced m.close m.accumulators delta team

omit [MathLib] in
theorem Manned.start {state : GameState} (h : Manned state) (delta : ℚ) :
    Manned (startStep state delta) := ⟨h.keys, h.garrisons, h.armies⟩

/-- **Over a step the units of a side grow by at most what was produced for it.** -/
theorem step_units {state : GameState} (h : Manned state) (accumulators : Accumulators)
    (delta : ℚ) (team : Team) :
    sideUnits (stepSimulation state accumulators delta).1 team
      ≤ sideUnits state team + stepProduced state accumulators delta team := by
  unfold stepSimulation stepProduced
  split
  · exact le_of_eq (add_zero _).symm
  · have hm := moveArmies_units (h.start delta) accumulators delta team
    have hk := (moveArmies_manned (h.start delta) accumulators delta).keys
    have hg := tickGeneration_units hk (moveArmies (startStep state delta) accumulators
      delta).accumulators delta team
    calc sideUnits (finishStep (moveArmies (startStep state delta) accumulators delta) delta).1 team
        = sideUnits (tickGeneration (moveArmies (startStep state delta) accumulators delta).close
            (moveArmies (startStep state delta) accumulators delta).accumulators delta).1 team := rfl
      _ = _ := hg
      _ ≤ _ := Int.add_le_add_right hm _

theorem Manned.step {state : GameState} (h : Manned state) (accumulators : Accumulators)
    (delta : ℚ) : Manned (stepSimulation state accumulators delta).1 := by
  unfold stepSimulation
  split
  · exact h
  · have hg := tickGeneration_manned (moveArmies_manned (h.start delta) accumulators delta)
      (moveArmies (startStep state delta) accumulators delta).accumulators delta
    exact ⟨hg.keys, hg.garrisons, hg.armies⟩

/-! ### Dispatch -/

omit [MathLib] in
/-- Half of a garrison is at least one unit and leaves at least one behind. -/
theorem calculateDispatchUnits_bounds {units : ℤ} (h : 0 < calculateDispatchUnits units) :
    1 ≤ calculateDispatchUnits units ∧ 1 ≤ units - calculateDispatchUnits units := by
  refine ⟨h, ?_⟩
  unfold calculateDispatchUnits calculateDispatchUnitsWithRatio at h ⊢
  split at h
  · exact absurd h (lt_irrefl 0)
  · next hu =>
    rw [if_neg hu]
    have hfloor : ⌊(units : ℚ) * 0.5⌋ ≤ units - 1 := by
      have htwo : (2 : ℚ) ≤ units := by exact_mod_cast (by omega : (2 : ℤ) ≤ units)
      rw [Int.floor_le_iff]
      push_cast
      linarith
    omega

/-- What a dispatch moves: the units of one new army leave the tower they stood in, and at
least one unit stays behind. -/
structure Sends (state state' : GameState) (sourceId : String) (owner : Team) (source : Territory)
    (army : MarchingArmy) : Prop where
  from_tower : state.territories.get? sourceId = some source
  own_tower : source.owner = owner
  own_army : army.owner = owner
  somebody : 1 ≤ army.units
  stays : 1 ≤ source.units - army.units
  towers : state'.territories
    = state.territories.set sourceId { source with units := source.units - army.units }
  marching : state'.armies = state.armies ++ [army]
  map : state'.battlefieldId = state.battlefieldId

theorem dispatchArmy_sends {state state' : GameState} {sourceId targetId : String} {owner : Team}
    {multiplier : ℚ} {id : String} (ho : owner ≠ .neutral)
    (h : dispatchArmy state sourceId targetId owner multiplier id = .ok state') :
    ∃ source army, Sends state state' sourceId owner source army := by
  obtain ⟨source, army, hs, hso, -, -, hu, -, hao, -, -, hau, rfl⟩ :=
    dispatchArmyWithRatio_ok_cases ho h
  have hb := calculateDispatchUnits_bounds hu
  rw [show calculateDispatchUnits source.units = army.units from hau.symm] at hb
  refine ⟨source, army, hs, hso, hao, hb.1, hb.2, ?_, rfl, rfl⟩
  rw [hau]

omit [MathLib] in
/-- A dispatch moves units and makes none. -/
theorem Sends.units {state state' : GameState} {sourceId : String} {owner : Team}
    {source : Territory} {army : MarchingArmy} (h : Sends state state' sourceId owner source army)
    (team : Team) : sideUnits state' team = sideUnits state team := by
  have hset := Record.sum_values_set (towerUnits team)
    { source with units := source.units - army.units } h.from_tower
  have ht : towerUnits team { source with units := source.units - army.units }
      = towerUnits team source - armyUnits team army := by
    unfold towerUnits armyUnits
    dsimp only
    rw [h.own_army, h.own_tower]
    split <;> omega
  unfold sideUnits garrisonUnits
  rw [h.towers, h.marching, hset, ht, marchingUnits_concat]
  omega

omit [MathLib] in
theorem Manned.dispatch {state state' : GameState} {sourceId : String} {owner : Team}
    {source : Territory} {army : MarchingArmy} (hm : Manned state)
    (h : Sends state state' sourceId owner source army) : Manned state' := by
  refine ⟨?_, ?_, ?_⟩
  · rw [h.towers, h.map, Record.keys_set_of_mem _ (Record.mem_keys_of_get? h.from_tower)]
    exact hm.keys
  · intro id t ht
    rw [h.towers, Record.get?_set] at ht
    split at ht
    · cases ht
      change 0 ≤ source.units - army.units
      have := h.stays
      omega
    · exact hm.garrisons id t ht
  · intro a ha
    rw [h.marching] at ha
    rcases List.mem_append.mp ha with ha | ha
    · exact hm.armies a ha
    · rw [List.mem_singleton.mp ha]
      exact h.somebody

/-! ### Runs -/

theorem Manned.moves {p p' : GameState × Accumulators} (h : Manned p.1) (hm : BattleMoves p p') :
    Manned p'.1 := by
  refine hm.preserves (P := fun p => Manned p.1) ?_ h
  intro p p' hmove hp
  cases hmove with
  | step delta => exact hp.step p.2 delta
  | dispatch ho hd =>
    obtain ⟨source, army, hs⟩ := dispatchArmy_sends ho hd
    exact hp.dispatch hs
  | stop status => exact ⟨hp.keys, hp.garrisons, hp.armies⟩

omit [MathLib] in
theorem battlefields_units : ∀ b ∈ battlefields, ∀ t ∈ b.territories, 0 ≤ t.units := by
  decide

omit [MathLib] in
/-- A new battle between sides whose garrisons are not negative is a valid start. -/
theorem newBattle_manned {player enemy : PlayerUpgradeModifiers} (hp : 0 ≤ player.startingUnits)
    (he : 0 ≤ enemy.startingUnits) (battlefieldId : String) (version : ℤ) :
    Manned (newBattle player enemy battlefieldId version) := by
  refine ⟨newBattle_keys player enemy battlefieldId version, ?_,
    fun a ha => absurd ha List.not_mem_nil⟩
  intro id t ht
  obtain ⟨u, hu, he'⟩ := List.mem_map.mp (Record.get?_eq_some_iff.mp ht)
  cases he'
  have h0 := battlefields_units _ (battlefieldOf_mem _) u hu
  unfold createTerritory
  split
  · exact hp
  · split
    · exact he
    · exact h0

/-- **No units out of nothing.**  In every state that a battle without abilities reaches
from a valid start, no garrison is negative and no army is empty; a dispatch leaves a
unit behind and moves exactly the units of its army; arrivals give no side units; and a
step gives a side at most what is produced for it. -/
theorem units_conserved {start p : GameState × Accumulators} (hstart : Manned start.1)
    (hrun : BattleMoves start p) :
    (∀ id t, p.1.territories.get? id = some t → 0 ≤ t.units) ∧
      (∀ a ∈ p.1.armies, 1 ≤ a.units) ∧
      (∀ sourceId targetId owner multiplier id state', owner ≠ .neutral →
        dispatchArmy p.1 sourceId targetId owner multiplier id = .ok state' →
        (∃ source army, Sends p.1 state' sourceId owner source army) ∧
          ∀ team, sideUnits state' team = sideUnits p.1 team) ∧
      ∀ delta team,
        sideUnits (moveArmies (startStep p.1 delta) p.2 delta).close team ≤ sideUnits p.1 team ∧
          sideUnits (stepSimulation p.1 p.2 delta).1 team
            ≤ sideUnits p.1 team + stepProduced p.1 p.2 delta team := by
  have hm := hstart.moves hrun
  refine ⟨hm.garrisons, hm.armies, ?_, fun delta team => ⟨?_, step_units hm p.2 delta team⟩⟩
  · intro sourceId targetId owner multiplier id state' ho hd
    obtain ⟨source, army, hs⟩ := dispatchArmy_sends ho hd
    exact ⟨⟨source, army, hs⟩, hs.units⟩
  · exact moveArmies_units (hm.start delta) p.2 delta team

/-- Two sides of twenty units each. -/
def evenBattle : GameState := newBattle defaultModifiers defaultModifiers "crown_cross" 2

/-- The player sends half of the base to the nearest tower. -/
def firstArmy : GameState :=
  (@dispatchArmy decimalHypot evenBattle "p_base" "n_bot_left" .player 1 "army").toOption.getD
    evenBattle

/-- A second later it is about to arrive. -/
def firstMarch : GameState × Accumulators :=
  let p := @stepSimulation decimalHypot firstArmy .empty 0.5
  @stepSimulation decimalHypot p.1 p.2 0.5

omit [MathLib] in
theorem firstMarch_moves : @BattleMoves decimalHypot (evenBattle, .empty) firstMarch := by
  have hsent : @dispatchArmy decimalHypot evenBattle "p_base" "n_bot_left" .player 1 "army"
      = .ok firstArmy := by
    have hsome : (@dispatchArmy decimalHypot evenBattle "p_base" "n_bot_left" .player 1
        "army").toOption.isSome = true := by decide +kernel
    unfold firstArmy
    cases h : @dispatchArmy decimalHypot evenBattle "p_base" "n_bot_left" .player 1 "army" with
    | error e =>
      rw [h] at hsome
      cases hsome
    | ok state => rfl
  have hdispatch := @BattleMove.dispatch decimalHypot (evenBattle, .empty) _ _ _ _ _ _
    (by decide) hsent
  exact ((Relation.ReflTransGen.single hdispatch).tail
    (@BattleMove.step decimalHypot (firstArmy, .empty) 0.5)).tail (@BattleMove.step decimalHypot _ 0.5)

omit [MathLib] in
/-- In the next step the army of ten takes the tower from eight. -/
theorem units_conserved_first :
    (firstMarch.1.armies.map MarchingArmy.units = [10] ∧
      (@stepSimulation decimalHypot firstMarch.1 firstMarch.2 0.5).1.armies = []) ∧
      sideUnits (@stepSimulation decimalHypot firstMarch.1 firstMarch.2 0.5).1 .player
        ≤ sideUnits firstMarch.1 .player
          + @stepProduced decimalHypot firstMarch.1 firstMarch.2 0.5 .player :=
  ⟨by decide +kernel, ((@units_conserved decimalHypot (evenBattle, .empty) firstMarch
    (newBattle_manned (by decide) (by decide) "crown_cross" 2) firstMarch_moves).2.2.2
      0.5 .player).2⟩

end Step

end CrownClash.Go
