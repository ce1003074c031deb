import CrownClash.Go.BattleRun
import CrownClash.Go.LiveSeats
import Mathlib.Logic.Function.Basic

/-!
# Server: the two perspectives of a battle

A live match keeps one state, seen from the first player's side, and shows the
second player the same battle with the sides exchanged: `stateForRole` for the
role of the enemy.  Here that exchange is `swapSides`, and this file shows that
the rules cannot tell a battle from the exchanged one: every step and every
dispatch commutes with it.

There is one place where the code looks at the sides in an order of its own.
`nextStatus` asks first whether the enemy is out of the battle and then whether
the player is, so a battle in which nobody holds anything would be a victory from
either side.  No battle gets there: a tower that is held once is held by somebody
forever (`Contested`).
-/

namespace CrownClash.Go

open Lib

/-- The other side. -/
def otherTeam (team : Team) : Team := mapTeamForRole team .enemy

/-- A battle with the sides exchanged, as the second player is shown it. -/
def swapSides (state : GameState) : GameState := stateForRole state .enemy

def swapTower (t : Territory) : Territory := { t with owner := otherTeam t.owner }

def swapArmy (a : MarchingArmy) : MarchingArmy := { a with owner := otherTeam a.owner }

/-! ### The exchange of two sides -/

@[simp] theorem otherTeam_player : otherTeam .player = .enemy := rfl

@[simp] theorem otherTeam_enemy : otherTeam .enemy = .player := rfl

@[simp] theorem otherTeam_otherTeam (team : Team) : otherTeam (otherTeam team) = team := by
  cases team <;> rfl

@[simp] theorem otherTeam_inj {a b : Team} : otherTeam a = otherTeam b ↔ a = b := by
  cases a <;> cases b <;> decide

@[simp] theorem otherTeam_eq_neutral {team : Team} : otherTeam team = .neutral ↔ team = .neutral := by
  cases team <;> decide

theorem swapTower_involutive : Function.Involutive swapTower := by
  intro t
  simp [swapTower]

theorem swapArmy_involutive : Function.Involutive swapArmy := by
  intro a
  simp [swapArmy]

def swapStatus (status : MatchStatus) : MatchStatus := statusForRole status .enemy

theorem swapStatus_involutive : Function.Involutive swapStatus := by
  intro status
  cases status <;> rfl

def swapStats (stats : MatchStats) : MatchStats := statsForRole stats .enemy

theorem map_swapTower_twice (r : Record String Territory) :
    (r.map fun _ => swapTower).map (fun _ => swapTower) = r := by
  apply Record.ext
  change (r.entries.map _).map _ = r.entries
  rw [List.map_map, List.map_congr_left (g := id), List.map_id]
  intro e _
  exact Prod.ext rfl (swapTower_involutive e.2)

/-- **The exchange undoes itself.** -/
theorem swapSides_involutive : Function.Involutive swapSides := by
  intro state
  apply GameState.ext
  case territories => exact map_swapTower_twice state.territories
  case armies =>
    change (state.armies.map swapArmy).map swapArmy = state.armies
    rw [List.map_map, swapArmy_involutive.comp_self, List.map_id]
  case status => exact swapStatus_involutive state.status
  all_goals rfl


/-! ### What both sides see alike -/

section Lookups

variable (state : GameState)

theorem swapSides_get? (id : String) :
    (swapSides state).territories.get? id = (state.territories.get? id).map swapTower :=
  Record.get?_map _ _ _

theorem getD_map_swapTower (r : Record String Territory) (id : String) :
    (r.map fun _ => swapTower).getD id Territory.zero = swapTower (r.getD id Territory.zero) := by
  unfold Record.getD
  rw [Record.get?_map]
  cases r.get? id <;> rfl

theorem swapSides_territory (id : String) :
    (swapSides state).territory id = swapTower (state.territory id) :=
  getD_map_swapTower state.territories id

end Lookups

/-! ### Roads -/

section Roads

variable [MathLib]

theorem legCost_swap (source target : Territory) :
    legCost (swapTower source) (swapTower target) = legCost source target := rfl

theorem friendlyPushes_swap (state : GameState) (owner : Team) (best : Record String RouteEntry)
    (next : QueueEntry) :
    friendlyPushes (swapSides state) (otherTeam owner) best next
      = friendlyPushes state owner best next := by
  refine List.filterMap_congr fun id _ => ?_
  rw [swapSides_get?, swapSides_territory]
  cases state.territories.get? id with
  | none => rfl
  | some t =>
    rw [Option.map_some]
    simp only [swapTower, ne_eq, otherTeam_inj]
    rfl

theorem friendlyPathsLoop_swap (state : GameState) (owner : Team) :
    ∀ (fuel : ℕ) (queue : List QueueEntry) (best : Record String RouteEntry),
      friendlyPathsLoop (swapSides state) (otherTeam owner) fuel queue best
        = friendlyPathsLoop state owner fuel queue best := by
  intro fuel
  induction fuel with
  | zero => intro queue best; rfl
  | succ fuel ih =>
    intro queue best
    rw [friendlyPathsLoop, friendlyPathsLoop]
    cases sortBy queueBefore queue with
    | nil => rfl
    | cons next rest => simp only [ih, friendlyPushes_swap]

theorem friendlyPaths_swap (state : GameState) (sourceId : String) (owner : Team) :
    friendlyPaths (swapSides state) sourceId (otherTeam owner)
      = friendlyPaths state sourceId owner :=
  friendlyPathsLoop_swap state owner _ _ _

theorem considerEntry_swap (state : GameState) (reachable : Record String RouteEntry)
    (target : Territory) (targetId : String) :
    considerEntry (swapSides state) reachable (swapTower target) targetId
      = considerEntry state reachable target targetId := by
  funext chosen entryId
  unfold considerEntry
  rw [swapSides_territory, legCost_swap]

/-- The roads a side may take are those the other side may take in the exchanged
battle. -/
theorem findDispatchRoute_swap (state : GameState) (sourceId targetId : String) (owner : Team) :
    findDispatchRoute (swapSides state) sourceId targetId (otherTeam owner)
      = findDispatchRoute state sourceId targetId owner := by
  unfold findDispatchRoute
  rw [swapSides_get?, swapSides_get?]
  cases state.territories.get? sourceId with
  | none => rfl
  | some source =>
    cases state.territories.get? targetId with
    | none => rfl
    | some target =>
      have hs : ((swapTower source).owner ≠ otherTeam owner) = (source.owner ≠ owner) :=
        propext (not_congr otherTeam_inj)
      have ht : ((swapTower target).owner ≠ otherTeam owner) = (target.owner ≠ owner) :=
        propext (not_congr otherTeam_inj)
      simp only [Option.map_some, hs, ht, friendlyPaths_swap, considerEntry_swap]
      rfl

end Roads


/-! ### Dispatch -/

section Dispatch

variable [MathLib]

omit [MathLib] in
theorem addUnitsDispatched_swap (stats : MatchStats) {owner : Team} (ho : owner ≠ .neutral)
    (units : ℤ) :
    addUnitsDispatched (swapStats stats) (otherTeam owner) units
      = swapStats (addUnitsDispatched stats owner units) := by
  cases owner with
  | player => rfl
  | enemy => rfl
  | neutral => exact absurd rfl ho

omit [MathLib] in
/-- The garrison that stays behind. -/
theorem set_source_swap (state : GameState) (sourceId : String) (source : Territory) (units : ℤ) :
    (swapSides state).territories.set sourceId { swapTower source with units := units }
      = (state.territories.set sourceId { source with units := units }).map fun _ => swapTower :=
  (Record.map_set (fun _ => swapTower) state.territories sourceId
    { source with units := units }).symm

theorem setArmyLeg_swap (army : MarchingArmy) (source target : Territory) (leg : ℕ) :
    setArmyLeg (swapArmy army) (swapTower source) (swapTower target) leg
      = swapArmy (setArmyLeg army source target leg) := rfl

/-- **A dispatch commutes with the exchange of the sides.** -/
theorem dispatchArmyWithRatio_swap (state : GameState) (sourceId targetId : String) {owner : Team}
    (ho : owner ≠ .neutral) (multiplier : ℚ) (id : String) (ratio : ℚ) :
    dispatchArmyWithRatio (swapSides state) sourceId targetId (otherTeam owner) multiplier id ratio
      = (dispatchArmyWithRatio state sourceId targetId owner multiplier id ratio).map swapSides := by
  unfold dispatchArmyWithRatio
  rw [swapSides_get?, swapSides_get?, findDispatchRoute_swap]
  cases state.territories.get? sourceId with
  | none => rfl
  | some source =>
    cases state.territories.get? targetId with
    | none => rfl
    | some target =>
      have hs : ((swapTower source).owner ≠ otherTeam owner) = (source.owner ≠ owner) :=
        propext (not_congr otherTeam_inj)
      have hu : (swapTower source).units = source.units := rfl
      simp only [Option.map_some, hs, hu]
      by_cases hr : sourceId = targetId ∨ source.owner ≠ owner
      · rw [if_pos hr, if_pos hr]
        rfl
      rw [if_neg hr, if_neg hr]
      cases findDispatchRoute state sourceId targetId owner with
      | none => rfl
      | some route =>
        dsimp only
        by_cases hn : calculateDispatchUnitsWithRatio source.units ratio ≤ 0
        · rw [if_pos hn, if_pos hn]
          rfl
        rw [if_neg hn, if_neg hn]
        rw [set_source_swap, getD_map_swapTower]
        refine congrArg Except.ok (GameState.ext rfl rfl ?_ rfl rfl rfl ?_ rfl rfl rfl rfl rfl)
        · change state.armies.map swapArmy ++ [_] = (state.armies ++ [_]).map swapArmy
          rw [List.map_append, List.map_singleton]
          congr 2
          change ite (usesTacticalRules state.gameplayRulesVersion = true) _ _ = _
          split <;> rfl
        · exact addUnitsDispatched_swap state.stats ho _

end Dispatch


/-! ### Arrivals -/

theorem resolveArrivalWithBonus_swap (target : Territory) (incoming : ℤ) (attacker : Team)
    (bonus : ℚ) :
    resolveArrivalWithBonus (swapTower target) incoming (otherTeam attacker) bonus
      = { resolveArrivalWithBonus target incoming attacker bonus with
          newOwner := otherTeam (resolveArrivalWithBonus target incoming attacker bonus).newOwner } := by
  have ho : (otherTeam attacker = (swapTower target).owner) ↔ (attacker = target.owner) :=
    otherTeam_inj
  have hd : territoryDefenseStrengthWithBonus (swapTower target) bonus
      = territoryDefenseStrengthWithBonus target bonus := rfl
  unfold resolveArrivalWithBonus
  by_cases h0 : incoming ≤ 0
  · rw [if_pos h0, if_pos h0]
    rfl
  rw [if_neg h0, if_neg h0]
  by_cases hs : attacker = target.owner
  · rw [if_pos hs, if_pos (ho.mpr hs)]
    rfl
  rw [if_neg hs, if_neg (fun h => hs (ho.mp h)), hd]
  dsimp only
  by_cases hw : incoming > territoryDefenseStrengthWithBonus target bonus
  · rw [if_pos hw, if_pos hw]
  · rw [if_neg hw, if_neg hw]
    rfl

theorem addCapture_swap (stats : MatchStats) (team : Team) :
    addCapture (swapStats stats) (otherTeam team) = swapStats (addCapture stats team) := by
  cases team <;> rfl

/-- A pair of a state and its accumulators, seen from the other side. -/
def swapPair (p : GameState × Accumulators) : GameState × Accumulators := (swapSides p.1, p.2)

theorem arriveArmy_swap (p : GameState × Accumulators) (army : MarchingArmy) :
    arriveArmy (swapPair p) (swapArmy army) = swapPair (arriveArmy p army) := by
  unfold arriveArmy
  rw [show (swapPair p).1 = swapSides p.1 from rfl, swapSides_get?,
    show (swapArmy army).targetId = army.targetId from rfl]
  cases p.1.territories.get? army.targetId with
  | none => rfl
  | some target =>
    have hset := Record.map_set (fun _ => swapTower) p.1.territories army.targetId
      (afterCombat target army.units army.owner (defenseBonus p.1 target))
    have hb : defenseBonus (swapSides p.1) (swapTower target) = defenseBonus p.1 target := rfl
    have hc := resolveArrivalWithBonus_swap target army.units army.owner (defenseBonus p.1 target)
    rw [Option.map_some]
    dsimp only
    rw [hb, show (swapArmy army).units = army.units from rfl,
      show (swapArmy army).owner = otherTeam army.owner from rfl, hc]
    dsimp only
    split
    · refine Prod.ext (GameState.ext rfl hset.symm rfl rfl rfl rfl ?_ rfl rfl rfl rfl rfl) rfl
      exact addCapture_swap p.1.stats _
    · exact Prod.ext (GameState.ext rfl hset.symm rfl rfl rfl rfl rfl rfl rfl rfl rfl rfl) rfl

/-! ### The army loop -/

section Moving

variable [MathLib]

theorem advanceLegs_swap (territories : Record String Territory) :
    ∀ (rest : List String) (army : MarchingArmy) (delta : ℚ),
      advanceLegs (territories.map fun _ => swapTower) rest (swapArmy army) delta
        = ((swapArmy (advanceLegs territories rest army delta).1),
          (advanceLegs territories rest army delta).2) := by
  intro rest
  induction rest with
  | nil =>
    intro army delta
    unfold advanceLegs
    by_cases hp : army.progress + army.speed * delta < 1
    · simp only [hp, show (swapArmy army).progress + (swapArmy army).speed * delta
        = army.progress + army.speed * delta from rfl, if_true]
      rfl
    · simp only [hp, show (swapArmy army).progress + (swapArmy army).speed * delta
        = army.progress + army.speed * delta from rfl, if_false]
      rfl
  | cons nextId rest ih =>
    intro army delta
    unfold advanceLegs
    by_cases hp : army.progress + army.speed * delta < 1
    · simp only [hp, show (swapArmy army).progress + (swapArmy army).speed * delta
        = army.progress + army.speed * delta from rfl, if_true]
      rfl
    simp only [hp, show (swapArmy army).progress + (swapArmy army).speed * delta
      = army.progress + army.speed * delta from rfl, if_false]
    rw [show (swapArmy army).targetId = army.targetId from rfl, Record.get?_map]
    cases territories.get? army.targetId with
    | none => rfl
    | some waypoint =>
      have ho : (swapTower waypoint).owner ≠ (swapArmy army).owner ↔ waypoint.owner ≠ army.owner :=
        not_congr otherTeam_inj
      rw [Option.map_some]
      dsimp only
      by_cases hw : waypoint.owner ≠ army.owner
      · rw [if_pos hw, if_pos (ho.mpr hw)]
        rfl
      · rw [if_neg hw, if_neg (fun h => hw (ho.mp h)), getD_map_swapTower, setArmyLeg_swap]
        exact ih _ _

theorem advanceArmy_swap (state : GameState) (delta : ℚ) (army : MarchingArmy) :
    advanceArmy (swapSides state) delta (swapArmy army)
      = (swapArmy (advanceArmy state delta army).1, (advanceArmy state delta army).2) := by
  have hr : advanceRoutedArmy (swapArmy army) (swapSides state).territories delta
      = (swapArmy (advanceRoutedArmy army state.territories delta).1,
        (advanceRoutedArmy army state.territories delta).2) :=
    advanceLegs_swap state.territories _ army delta
  unfold advanceArmy
  rw [show (swapSides state).gameplayRulesVersion = state.gameplayRulesVersion from rfl, hr]
  dsimp only
  split
  · generalize advanceRoutedArmy army state.territories delta = r
    rw [show (swapArmy r.1).progress = r.1.progress from rfl]
    by_cases hp : (if r.2 = true then (1 : ℚ) else r.1.progress) ≥ 1
    · rw [if_pos hp, if_pos hp]
    · rw [if_neg hp, if_neg hp]
      rfl
  · rw [show (swapArmy army).progress + (swapArmy army).speed * delta
      = army.progress + army.speed * delta from rfl]
    by_cases hp : army.progress + army.speed * delta ≥ 1
    · rw [if_pos hp, if_pos hp]
    · rw [if_neg hp, if_neg hp]
      rfl

/-- The army loop, seen from the other side. -/
def Marching.swap (m : Marching) : Marching where
  state := swapSides m.state
  accumulators := m.accumulators
  remaining := m.remaining.map swapArmy

theorem moveArmy_swap (delta : ℚ) (m : Marching) (army : MarchingArmy) :
    moveArmy delta m.swap (swapArmy army) = (moveArmy delta m army).swap := by
  unfold moveArmy
  rw [show m.swap.state = swapSides m.state from rfl, advanceArmy_swap]
  dsimp only
  split
  · have ha := arriveArmy_swap (m.state, m.accumulators) (advanceArmy m.state delta army).1
    rw [show (swapSides m.state, m.swap.accumulators) = swapPair (m.state, m.accumulators)
      from rfl, ha]
    rfl
  · change (⟨_, _, m.remaining.map swapArmy ++ [_]⟩ : Marching) = ⟨_, _, _⟩
    rw [List.map_append]
    rfl

theorem foldl_moveArmy_swap (delta : ℚ) : ∀ (armies : List MarchingArmy) (m : Marching),
    (armies.map swapArmy).foldl (moveArmy delta) m.swap
      = (armies.foldl (moveArmy delta) m).swap := by
  intro armies
  induction armies with
  | nil => intro m; rfl
  | cons a armies ih =>
    intro m
    rw [List.map_cons, List.foldl_cons, List.foldl_cons, moveArmy_swap, ih]

theorem moveArmies_swap (state : GameState) (accumulators : Accumulators) (delta : ℚ) :
    moveArmies (swapSides state) accumulators delta = (moveArmies state accumulators delta).swap :=
  foldl_moveArmy_swap delta state.armies ⟨state, accumulators, []⟩

end Moving

/-! ### Production -/

theorem generateUnits_swap (t : Territory) (accumulator multiplier delta : ℚ) :
    generateUnits (swapTower t) accumulator multiplier delta
      = (swapTower (generateUnits t accumulator multiplier delta).1,
        (generateUnits t accumulator multiplier delta).2) := by
  have ho : (swapTower t).owner = .neutral ∨ (swapTower t).productionRate ≤ 0 ∨
      (swapTower t).units ≥ (swapTower t).maxUnits ↔
        t.owner = .neutral ∨ t.productionRate ≤ 0 ∨ t.units ≥ t.maxUnits :=
    or_congr otherTeam_eq_neutral Iff.rfl
  unfold generateUnits
  by_cases h : t.owner = .neutral ∨ t.productionRate ≤ 0 ∨ t.units ≥ t.maxUnits
  · rw [if_pos h, if_pos (ho.mpr h)]
  rw [if_neg h, if_neg (fun g => h (ho.mp g))]
  dsimp only
  rw [show (swapTower t).productionRate * territoryProductionMultiplier (swapTower t).type
    = t.productionRate * territoryProductionMultiplier t.type from rfl]
  generalize snap productionAccumulatorEpsilon (roundHalfAway (accumulator + t.productionRate *
    territoryProductionMultiplier t.type * multiplier * delta)) (accumulator + t.productionRate *
    territoryProductionMultiplier t.type * multiplier * delta) = current
  by_cases hw : ⌊current⌋ > 0
  · rw [if_pos hw, if_pos hw]
    rfl
  · rw [if_neg hw, if_neg hw]

theorem generateAt_swap (state : GameState) (accumulators : Accumulators) (delta : ℚ)
    (p : Record String Territory × Accumulators) (id : String) :
    generateAt (swapSides state) accumulators delta (p.1.map fun _ => swapTower, p.2) id
      = ((generateAt state accumulators delta p id).1.map fun _ => swapTower,
        (generateAt state accumulators delta p id).2) := by
  unfold generateAt
  dsimp only
  rw [Record.get?_map]
  cases p.1.get? id with
  | none => rfl
  | some t =>
    rw [Option.map_some]
    dsimp only
    rw [show productionMultiplier (swapSides state) id = productionMultiplier state id from rfl,
      generateUnits_swap, Record.map_set]

theorem tickGeneration_swap (state : GameState) (accumulators : Accumulators) (delta : ℚ) :
    tickGeneration (swapSides state) accumulators delta
      = swapPair (tickGeneration state accumulators delta) := by
  have hf : ∀ (ids : List String) (p : Record String Territory × Accumulators),
      ids.foldl (generateAt (swapSides state) accumulators delta)
          (p.1.map fun _ => swapTower, p.2)
        = ((ids.foldl (generateAt state accumulators delta) p).1.map fun _ => swapTower,
          (ids.foldl (generateAt state accumulators delta) p).2) := by
    intro ids
    induction ids with
    | nil => intro p; rfl
    | cons id ids ih =>
      intro p
      rw [List.foldl_cons, List.foldl_cons, generateAt_swap, ih]
  have h := hf (territoryOrderForBattlefield state.battlefieldId)
    (state.territories, (Record.empty : Accumulators))
  unfold tickGeneration
  dsimp only
  rw [show (swapSides state).battlefieldId = state.battlefieldId from rfl,
    show ((swapSides state).territories, (Record.empty : Accumulators))
      = ((state.territories.map fun _ => swapTower), (Record.empty : Accumulators)) from rfl, h]
  rfl


/-! ### The end of the match -/

theorem territoriesOf_swap (state : GameState) (team : Team) :
    territoriesOf (swapSides state) (otherTeam team) = (territoriesOf state team).map swapTower := by
  have hg : (swapSides state).territory = swapTower ∘ state.territory :=
    funext (swapSides_territory state)
  unfold territoriesOf
  rw [show (swapSides state).battlefieldId = state.battlefieldId from rfl, hg, ← List.map_map,
    List.filter_map]
  refine congrArg (List.map swapTower) (List.filter_congr fun t _ => ?_)
  exact decide_eq_decide.mpr otherTeam_inj

theorem unitsOf_map_swapTower (ts : List Territory) : unitsOf (ts.map swapTower) = unitsOf ts := by
  unfold unitsOf
  rw [List.map_map]
  rfl

theorem hasArmy_swap (armies : List MarchingArmy) (team : Team) :
    hasArmy (armies.map swapArmy) (otherTeam team) = hasArmy armies team := by
  unfold hasArmy
  rw [List.any_map]
  congr 1
  funext a
  exact decide_eq_decide.mpr otherTeam_inj

/-- The towers and units of the sides change places at the time limit. -/
theorem timeLimitStatus_swap (state : GameState) :
    timeLimitStatus (swapSides state) = swapStatus (timeLimitStatus state) := by
  have hp := territoriesOf_swap state .player
  have he := territoriesOf_swap state .enemy
  rw [otherTeam_player] at hp
  rw [otherTeam_enemy] at he
  unfold timeLimitStatus
  dsimp only
  rw [hp, he, List.length_map, List.length_map, unitsOf_map_swapTower, unitsOf_map_swapTower]
  generalize (territoriesOf state .player).length = p
  generalize (territoriesOf state .enemy).length = e
  generalize unitsOf (territoriesOf state .player) = pu
  generalize unitsOf (territoriesOf state .enemy) = eu
  by_cases hw : p > e ∨ (p = e ∧ pu > eu)
  · rw [if_pos hw, if_neg (by omega), if_pos (by omega)]
    rfl
  by_cases hl : e > p ∨ (p = e ∧ eu > pu)
  · rw [if_neg hw, if_pos hl, if_pos (by omega)]
    rfl
  · rw [if_neg hw, if_neg hl, if_neg (by omega), if_neg (by omega)]
    rfl

/-- A side is out of a battle when it holds no tower and has no army. -/
abbrev Out (state : GameState) (team : Team) : Prop :=
  territoriesOf state team = [] ∧ hasArmy state.armies team = false

theorem out_swap (state : GameState) (team : Team) :
    Out (swapSides state) (otherTeam team) ↔ Out state team := by
  have ha : hasArmy (swapSides state).armies (otherTeam team) = hasArmy state.armies team :=
    hasArmy_swap state.armies team
  rw [Out, Out, territoriesOf_swap, List.map_eq_nil_iff, ha]

/-- The verdict changes sides, unless both sides are out. -/
theorem nextStatus_swap {state : GameState} (h : ¬ (Out state .player ∧ Out state .enemy)) :
    nextStatus (swapSides state) = swapStatus (nextStatus state) := by
  have hp := out_swap state .player
  have he := out_swap state .enemy
  rw [otherTeam_player] at hp
  rw [otherTeam_enemy] at he
  unfold nextStatus
  by_cases hE : Out state .enemy
  · have hP : ¬ Out state .player := fun hP => h ⟨hP, hE⟩
    rw [if_pos hE, if_neg (fun g => hP (hp.mp g)), if_pos (he.mpr hE)]
    rfl
  rw [if_neg hE]
  by_cases hP : Out state .player
  · rw [if_pos hP, if_pos (hp.mpr hP)]
    rfl
  rw [if_neg hP, if_neg (fun g => hP (hp.mp g)), if_neg (fun g => hE (he.mp g)),
    timeLimitStatus_swap]
  change ite (state.elapsedTimeSeconds ≥ state.timeLimitSeconds) _ _ = _
  split <;> rfl

/-! ### A battle that somebody is in -/

/-- The map is laid out along its file order, every army belongs to a side, and some
tower is held by a side. -/
structure Contested (state : GameState) : Prop where
  keys : state.territories.keys = territoryOrderForBattlefield state.battlefieldId
  armies : ∀ a ∈ state.armies, a.owner ≠ .neutral
  held : ∃ id t, state.territories.get? id = some t ∧ t.owner ≠ .neutral

theorem Contested.not_out {state : GameState} (h : Contested state) :
    ¬ (Out state .player ∧ Out state .enemy) := by
  rintro ⟨⟨hp, -⟩, he, -⟩
  obtain ⟨id, t, ht, ho⟩ := h.held
  have hm : ∀ team, t.owner = team → t ∈ territoriesOf state team := by
    intro team hteam
    refine List.mem_filter.mpr ⟨List.mem_map.mpr ⟨id, ?_, ?_⟩, decide_eq_true hteam⟩
    · rw [← h.keys]
      exact Record.mem_keys_of_get? ht
    · rw [GameState.territory, Record.getD, ht, Option.getD_some]
  cases hteam : t.owner with
  | player =>
    have := hm _ hteam
    rw [hp] at this
    exact absurd this List.not_mem_nil
  | enemy =>
    have := hm _ hteam
    rw [he] at this
    exact absurd this List.not_mem_nil
  | neutral => exact ho hteam

theorem Contested.arrive {p : GameState × Accumulators} {army : MarchingArmy}
    (ha : army.owner ≠ .neutral) (h : Contested p.1) : Contested (arriveArmy p army).1 := by
  have hf := arriveArmy_frame p army
  refine ⟨by rw [hf.keys, hf.battlefieldId, h.keys], by rw [hf.armies]; exact h.armies, ?_⟩
  obtain ⟨id, t, ht, ho⟩ := h.held
  exact ⟨id, Held.arrive ha ⟨t, ht, ho⟩⟩

theorem Contested.generated {state : GameState} (accumulators : Accumulators) (delta : ℚ)
    (h : Contested state) : Contested (tickGeneration state accumulators delta).1 := by
  refine ⟨?_, h.armies, ?_⟩
  · rw [tickGeneration_territories accumulators delta h.keys, Record.keys_map]
    exact h.keys
  · obtain ⟨id, t, hg, ho⟩ := h.held
    exact ⟨id, Held.generated accumulators delta h.keys ⟨t, hg, ho⟩⟩

section Moving

variable [MathLib]

theorem Contested.moveArmy {delta : ℚ} {m : Marching} {army : MarchingArmy}
    (ha : army.owner ≠ .neutral) (h : Contested m.state ∧ ∀ a ∈ m.remaining, a.owner ≠ .neutral) :
    Contested (moveArmy delta m army).state ∧
      ∀ a ∈ (Go.moveArmy delta m army).remaining, a.owner ≠ .neutral := by
  have ho : (advanceArmy m.state delta army).1.owner ≠ .neutral := by
    rw [(advanceArmy_force m.state delta army).owner]
    exact ha
  unfold Go.moveArmy
  dsimp only
  split
  · exact ⟨h.1.arrive ho, h.2⟩
  · refine ⟨h.1, fun a hm => ?_⟩
    rcases List.mem_append.mp hm with hm | hm
    · exact h.2 a hm
    · rw [List.mem_singleton.mp hm]
      exact ho

theorem Contested.moveArmies {state : GameState} (accumulators : Accumulators) (delta : ℚ)
    (h : Contested state) : Contested (moveArmies state accumulators delta).close := by
  have hm : Contested (Go.moveArmies state accumulators delta).state ∧
      ∀ a ∈ (Go.moveArmies state accumulators delta).remaining, a.owner ≠ .neutral :=
    foldl_preserves (P := fun m : Marching => Contested m.state ∧
      ∀ a ∈ m.remaining, a.owner ≠ .neutral)
      (fun m a ha hm => Contested.moveArmy (h.armies a ha) hm)
      ⟨h, fun a ha => absurd ha List.not_mem_nil⟩
  exact ⟨hm.1.keys, hm.2, hm.1.held⟩

/-! ### One step -/

/-- **A step commutes with the exchange of the sides.** -/
theorem stepSimulation_swap {state : GameState} (h : Contested state) (accumulators : Accumulators)
    (delta : ℚ) :
    stepSimulation (swapSides state) accumulators delta
      = swapPair (stepSimulation state accumulators delta) := by
  have hs : (swapSides state).status = .playing ↔ state.status = .playing := by
    change statusForRole state.status .enemy = .playing ↔ _
    cases state.status <;> decide
  unfold stepSimulation
  by_cases hp : state.status = .playing
  · rw [if_neg (not_not.mpr hp), if_neg (not_not.mpr (hs.mpr hp))]
    have hstart : startStep (swapSides state) delta = swapSides (startStep state delta) := rfl
    rw [hstart, moveArmies_swap]
    have hc : Contested (startStep state delta) := ⟨h.keys, h.armies, h.held⟩
    have hn := ((hc.moveArmies accumulators delta).generated
      (Go.moveArmies (startStep state delta) accumulators delta).accumulators delta).not_out
    generalize Go.moveArmies (startStep state delta) accumulators delta = m at hn
    have hclose : m.swap.close = swapSides m.close := rfl
    unfold finishStep
    rw [hclose, show m.swap.accumulators = m.accumulators from rfl, tickGeneration_swap]
    dsimp only
    refine Prod.ext (GameState.ext rfl rfl rfl ?_ rfl rfl rfl rfl rfl rfl rfl rfl) rfl
    exact nextStatus_swap hn
  · rw [if_pos hp, if_pos (fun g => hp (hs.mp g))]
    rfl

theorem Contested.step {state : GameState} (h : Contested state) (accumulators : Accumulators)
    (delta : ℚ) : Contested (stepSimulation state accumulators delta).1 := by
  unfold stepSimulation
  split
  · exact h
  · have hc : Contested (startStep state delta) := ⟨h.keys, h.armies, h.held⟩
    have hn := (hc.moveArmies accumulators delta).generated
      (Go.moveArmies (startStep state delta) accumulators delta).accumulators delta
    exact ⟨hn.keys, hn.armies, hn.held⟩

theorem Contested.dispatch {state state' : GameState} {sourceId targetId : String} {owner : Team}
    {multiplier : ℚ} {id : String} (h : Contested state) (ho : owner ≠ .neutral)
    (hd : dispatchArmy state sourceId targetId owner multiplier id = .ok state') :
    Contested state' := by
  obtain ⟨source, army, hs, hso, -, -, -, -, hao, -, -, -, rfl⟩ :=
    dispatchArmyWithRatio_ok_cases ho hd
  refine ⟨?_, ?_, sourceId, _, (Record.get?_set _ _ _ _).trans (if_pos rfl), ?_⟩
  · exact (Record.keys_set_of_mem _ (Record.mem_keys_of_get? hs)).trans h.keys
  · intro a ha
    rcases List.mem_append.mp ha with ha | ha
    · exact h.armies a ha
    · rw [List.mem_singleton.mp ha, hao]
      exact ho
  · change source.owner ≠ .neutral
    rw [hso]
    exact ho

end Moving


/-! ### The battles of a match -/

theorem battlefields_held : ∀ b ∈ battlefields, ∃ t ∈ b.territories, t.owner = .player := by
  decide

theorem createTerritory_owner (player enemy : PlayerUpgradeModifiers) (t : Territory) :
    (createTerritory player enemy t).owner = t.owner := by
  unfold createTerritory
  split
  · rfl
  · split <;> rfl

theorem newBattle_contested (player enemy : PlayerUpgradeModifiers) (battlefieldId : String)
    (version : ℤ) : Contested (newBattle player enemy battlefieldId version) := by
  let known := if isBattlefieldId battlefieldId then battlefieldId else "crown_cross"
  refine ⟨newBattle_keys player enemy battlefieldId version,
    fun a ha => absurd ha List.not_mem_nil, ?_⟩
  · obtain ⟨t, ht, ho⟩ := battlefields_held _ (battlefieldOf_mem known)
    refine ⟨t.id, createTerritory player enemy t, ?_, ?_⟩
    · exact Record.get?_eq_some_iff.mpr (List.mem_map_of_mem ht)
    · rw [createTerritory_owner, ho]
      decide

variable [MathLib]

/-- A state that some battle reaches, with its accumulators. -/
def Reached (p : GameState × Accumulators) : Prop :=
  ∃ player enemy battlefieldId version accumulators,
    BattleMoves (newBattle player enemy battlefieldId version, accumulators) p

theorem Reached.contested {p : GameState × Accumulators} (h : Reached p) : Contested p.1 := by
  obtain ⟨player, enemy, battlefieldId, version, accumulators, hm⟩ := h
  refine hm.preserves (P := fun p => Contested p.1) ?_ (newBattle_contested _ _ _ _)
  intro p p' hmove hp
  cases hmove with
  | step delta => exact hp.step p.2 delta
  | dispatch ho hd => exact hp.dispatch ho hd
  | stop status => exact ⟨hp.keys, hp.armies, hp.held⟩

theorem reached_start (player enemy : PlayerUpgradeModifiers) (battlefieldId : String)
    (accumulators : Accumulators) :
    Reached (createInitialGameStateForBattlefield player enemy battlefieldId, accumulators) :=
  ⟨player, enemy, battlefieldId, currentGameplayRulesVersion, accumulators,
    Relation.ReflTransGen.refl⟩

theorem Reached.move {p p' : GameState × Accumulators} (h : Reached p) (hm : BattleMove p p') :
    Reached p' := by
  obtain ⟨player, enemy, battlefieldId, version, accumulators, hs⟩ := h
  exact ⟨player, enemy, battlefieldId, version, accumulators, hs.tail hm⟩

/-- The modifiers of a side. -/
def sideModifiers (player enemy : PlayerUpgradeModifiers) (team : Team) : PlayerUpgradeModifiers :=
  if team = .player then player else enemy

omit [MathLib] in
theorem sideModifiers_swap (player enemy : PlayerUpgradeModifiers) {role : Team}
    (hr : role ≠ .neutral) :
    sideModifiers enemy player (otherTeam role) = sideModifiers player enemy role := by
  cases role with
  | player => rfl
  | enemy => rfl
  | neutral => exact absurd rfl hr

/-- A run of a battle is a run of the exchanged battle: what one side can do, the other
side can do in its place. -/
theorem BattleMoves.swap {p p' : GameState × Accumulators} (hp : Reached p)
    (hm : BattleMoves p p') : BattleMoves (swapPair p) (swapPair p') := by
  induction hm with
  | refl => exact Relation.ReflTransGen.refl
  | @tail q q' hrun hmove ih =>
    refine ih.tail ?_
    have hq : Reached q := by
      obtain ⟨player, enemy, battlefieldId, version, accumulators, hs⟩ := hp
      exact ⟨player, enemy, battlefieldId, version, accumulators, hs.trans hrun⟩
    cases hmove with
    | step delta =>
      rw [← stepSimulation_swap hq.contested]
      exact BattleMove.step (swapPair q) delta
    | @dispatch state sourceId targetId owner multiplier id ho hd =>
      have hs : dispatchArmy (swapSides q.1) sourceId targetId (otherTeam owner) multiplier id
          = .ok (swapSides state) := by
        have hd' : dispatchArmyWithRatio q.1 sourceId targetId owner multiplier id 0.5
          = .ok state := hd
        rw [dispatchArmy, dispatchArmyWithRatio_swap _ _ _ ho, hd']
        rfl
      exact BattleMove.dispatch (mt otherTeam_eq_neutral.mp ho) hs
    | stop status =>
      exact BattleMove.stop (swapPair q) (swapStatus status)

/-! ### The battle of a live room -/

/-- The battle of a match is one that can be reached, and everyone who sits there plays
for a side. -/
structure FairMatch (s : LiveMatchState) : Prop where
  battle : Reached (s.state, s.accumulators)
  roles : ∀ seat player, s.players seat = some player → player.role ≠ .neutral

theorem FairMatch.send {s : LiveMatchState} (h : FairMatch s)
    (messages : List (Presence × LiveServerMessage)) : FairMatch (s.send messages) :=
  ⟨h.battle, h.roles⟩

theorem FairMatch.init (equalPower : Bool) (params : LiveMatchParams) (newLiveJoinCode : String)
    (battlefieldId : String) :
    FairMatch (liveMatchInit equalPower params newLiveJoinCode battlefieldId) where
  battle := reached_start _ _ _ _
  roles _ _ h := nomatch h

theorem FairMatch.seat {s : LiveMatchState} (h : FairMatch s) (a : Arrival)
    (career : PlayerCareer) : FairMatch (s.seat a career) := by
  refine ⟨h.battle, fun seat player hp => ?_⟩
  change Function.update s.players s.nextSeat _ seat = some player at hp
  rw [Function.update_apply] at hp
  split at hp
  · cases hp
    change roleOfSeat s.nextSeat ≠ .neutral
    unfold roleOfSeat
    split <;> decide
  · exact h.roles seat player hp

theorem FairMatch.joinOne {s : LiveMatchState} (h : FairMatch s) (a : Arrival) :
    FairMatch (s.joinOne a) := by
  unfold LiveMatchState.joinOne
  split
  · exact h
  · split
    · exact h
    · exact h.seat a _

theorem FairMatch.join {s : LiveMatchState} (h : FairMatch s) (arrivals : List Arrival)
    (now : ℤ) : FairMatch (matchJoin s arrivals now) := by
  have hj : FairMatch (arrivals.foldl LiveMatchState.joinOne s) :=
    foldl_preserves (fun s a _ hs => hs.joinOne a) h
  unfold matchJoin LiveMatchState.startIfFull
  split
  · exact ⟨reached_start _ _ _ _, hj.roles⟩
  · exact hj

theorem FairMatch.clear {s : LiveMatchState} (h : FairMatch s) (seat : Seat)
    {t : LiveMatchState} (hb : Reached (t.state, t.accumulators))
    (ht : t.players = Function.update s.players seat none) : FairMatch t := by
  refine ⟨hb, fun k player hp => ?_⟩
  rw [ht, Function.update_apply] at hp
  split at hp
  · cases hp
  · exact h.roles k player hp

theorem FairMatch.leaveAll (settled : String → Bool) : ∀ (presences : List Presence)
    {s : LiveMatchState}, FairMatch s → FairMatch (s.leaveAll settled presences).1 := by
  intro presences
  induction presences with
  | nil => intro s h; exact h
  | cons presence rest ih =>
    intro s h
    unfold LiveMatchState.leaveAll
    cases s.presenceById presence.userId with
    | none => exact ih h
    | some seat =>
      dsimp only
      split
      · exact h.clear seat (h.battle.move (BattleMove.stop _ _)) rfl
      · exact ih (h.clear seat h.battle rfl)

theorem FairMatch.leave {s : LiveMatchState} (h : FairMatch s) (presences : List Presence)
    (settled : String → Bool) : FairMatch (matchLeave s presences settled) := by
  have hl := FairMatch.leaveAll settled presences h
  unfold matchLeave
  dsimp only
  split
  · exact h
  · split
    · exact hl
    · split
      · exact ⟨hl.battle, hl.roles⟩
      · exact hl

theorem FairMatch.handle {s : LiveMatchState} (h : FairMatch s) (message : LiveMessage) :
    FairMatch (s.handle message) := by
  unfold LiveMatchState.handle
  cases message.payload with
  | none => exact h.send _
  | some payload =>
    dsimp only
    split
    · exact h.send _
    cases hp : s.playerOf message.sender.userId with
    | none => exact h.send _
    | some r =>
      obtain ⟨seat, player⟩ := r
      have hplayer : s.players seat = some player := by
        unfold LiveMatchState.playerOf at hp
        obtain ⟨seat', -, hm⟩ := Option.bind_eq_some_iff.mp hp
        obtain ⟨player', hs, he⟩ := Option.map_eq_some_iff.mp hm
        cases he
        exact hs
      dsimp only
      split
      · exact h.send _
      cases ho : s.order player payload with
      | error e => exact h.send _
      | ok state =>
        have hrole := h.roles seat player hplayer
        refine ⟨h.battle.move (BattleMove.dispatch hrole ho), fun k p hk => ?_⟩
        change Function.update s.players seat _ k = some p at hk
        rw [Function.update_apply] at hk
        split at hk
        · cases hk
          exact hrole
        · exact h.roles k p hk

theorem FairMatch.closeIfOver {s : LiveMatchState} (h : FairMatch s) (now : ℤ)
    (settled : String → Bool) : FairMatch (s.closeIfOver now settled) := by
  unfold LiveMatchState.closeIfOver
  split
  · exact ⟨h.battle, h.roles⟩
  · split
    · exact ⟨h.battle.move (BattleMove.stop _ .draw), h.roles⟩
    · exact h

theorem FairMatch.loop {s : LiveMatchState} (h : FairMatch s) (messages : List LiveMessage)
    (now : ℤ) (settled : String → Bool) : FairMatch (matchLoop s messages now settled) := by
  unfold matchLoop
  split
  · exact h
  split
  · exact foldl_preserves (fun s message _ hs => hs.send _) h
  · have hm : FairMatch (messages.foldl LiveMatchState.handle s) :=
      foldl_preserves (fun s message _ hs => hs.handle message) h
    have hsim : FairMatch (messages.foldl LiveMatchState.handle s).simulate := by
      unfold LiveMatchState.simulate
      split
      · exact ⟨hm.battle.move (BattleMove.step _ _), hm.roles⟩
      · exact hm
    exact FairMatch.closeIfOver (hsim.send _) now settled

/-- **The battle of a live room is one that can be reached**, whatever its players and
the runtime do. -/
theorem room_reached (equalPower : Bool) (params : LiveMatchParams) (newLiveJoinCode : String)
    (battlefieldId : String) (events : List RoomEvent) :
    Reached
      ((events.foldl Room.step
        (Room.start equalPower params newLiveJoinCode battlefieldId)).live.state,
      (events.foldl Room.step
        (Room.start equalPower params newLiveJoinCode battlefieldId)).live.accumulators) := by
  have h : FairMatch (events.foldl Room.step
      (Room.start equalPower params newLiveJoinCode battlefieldId)).live := by
    refine foldl_preserves (P := fun r : Room => FairMatch r.live) ?_ (FairMatch.init _ _ _ _)
    intro r e _ hr
    cases e with
    | attempt presence code =>
      unfold Room.step
      dsimp only
      split <;> exact hr
    | join arrivals now =>
      unfold Room.step
      dsimp only
      split
      · exact hr.join arrivals now
      · exact hr
    | leave presences settled => exact hr.leave presences settled
    | loop messages now settled => exact hr.loop messages now settled
  exact h.battle

/-- **Neither side is favoured by the rules.**  The exchange of the sides is its own
inverse, and in every battle that can be reached a step of any length and a dispatch
by either side do the same before and after the exchange. -/
theorem perspectives_agree :
    Function.Involutive swapSides ∧
      ∀ p : GameState × Accumulators, Reached p →
        (∀ delta, stepSimulation (swapSides p.1) p.2 delta
          = (swapSides (stepSimulation p.1 p.2 delta).1, (stepSimulation p.1 p.2 delta).2)) ∧
        ∀ (player enemy : PlayerUpgradeModifiers) (sourceId targetId : String) (role : Team)
          (id : String) (ratio : ℚ), role ≠ .neutral →
          dispatchArmyWithRatio (swapSides p.1) sourceId targetId (otherTeam role)
              (sideModifiers enemy player (otherTeam role)).armySpeedMultiplier id ratio
            = (dispatchArmyWithRatio p.1 sourceId targetId role
              (sideModifiers player enemy role).armySpeedMultiplier id ratio).map swapSides := by
  refine ⟨swapSides_involutive, fun p hp => ⟨fun delta => ?_, ?_⟩⟩
  · exact stepSimulation_swap hp.contested p.2 delta
  · intro player enemy sourceId targetId role id ratio hr
    rw [sideModifiers_swap player enemy hr]
    exact dispatchArmyWithRatio_swap p.1 sourceId targetId hr _ id ratio

omit [MathLib] in
/-- A battle that has just begun, with a stronger side on the far end. -/
def unevenBattle : GameState := newBattle defaultModifiers ⟨30, 1.5, 2⟩ "crown_cross" 2

omit [MathLib] in
/-- Its first step and the first dispatch of the enemy, from either side. -/
theorem perspectives_agree_first :
    (@dispatchArmyWithRatio decimalHypot unevenBattle "e_base" "n_center" .enemy 2 "army"
        0.5).toOption.isSome = true ∧
      @stepSimulation decimalHypot (swapSides unevenBattle) .empty 0.05
        = (swapSides (@stepSimulation decimalHypot unevenBattle .empty 0.05).1,
          (@stepSimulation decimalHypot unevenBattle .empty 0.05).2) ∧
      @dispatchArmyWithRatio decimalHypot (swapSides unevenBattle) "e_base" "n_center" .player 2
          "army" 0.5
        = (@dispatchArmyWithRatio decimalHypot unevenBattle "e_base" "n_center" .enemy 2 "army"
          0.5).map swapSides := by
  have hr : @Reached decimalHypot (unevenBattle, .empty) :=
    ⟨_, _, _, _, _, Relation.ReflTransGen.refl⟩
  have h := (@perspectives_agree decimalHypot).2 (unevenBattle, .empty) hr
  refine ⟨by decide +kernel, h.1 0.05, ?_⟩
  exact h.2 defaultModifiers ⟨30, 1.5, 2⟩ "e_base" "n_center" .enemy "army" 0.5 (by decide)

end CrownClash.Go
