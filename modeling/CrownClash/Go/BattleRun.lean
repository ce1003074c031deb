import CrownClash.Go.Invariant
import CrownClash.Lib.Run

/-!
# Server: the run of a battle

A battle without abilities goes on in two ways: a side sends an army, or the
clock moves and `stepSimulation` runs.  Besides, the match that plays it may end
it from outside, when a player leaves or the match takes too long; then only the
status changes.  `BattleMove` is one such step, on the state and the accumulators
that `stepSimulation` takes and gives, and `Reached` is what runs of them reach.
-/

namespace CrownClash.Go

open Lib

/-- A new battle, under any rules. -/
def newBattle (player enemy : PlayerUpgradeModifiers) (battlefieldId : String) (version : ℤ) :
    GameState :=
  { createInitialGameStateForBattlefield player enemy battlefieldId with
    gameplayRulesVersion := version }

theorem newBattle_keys (player enemy : PlayerUpgradeModifiers) (battlefieldId : String)
    (version : ℤ) :
    (newBattle player enemy battlefieldId version).territories.keys
      = territoryOrderForBattlefield (newBattle player enemy battlefieldId version).battlefieldId := by
  let known := if isBattlefieldId battlefieldId then battlefieldId else "crown_cross"
  change ((battlefieldOf known).territories.map _).map Prod.fst = _
  rw [List.map_map]
  rfl

variable [MathLib]

/-- One step of a battle. -/
inductive BattleMove : GameState × Accumulators → GameState × Accumulators → Prop
  | step (p : GameState × Accumulators) (delta : ℚ) :
    BattleMove p (stepSimulation p.1 p.2 delta)
  | dispatch {p : GameState × Accumulators} {state : GameState} {sourceId targetId : String}
    {owner : Team} {multiplier : ℚ} {id : String} (ho : owner ≠ .neutral)
    (h : dispatchArmy p.1 sourceId targetId owner multiplier id = .ok state) :
    BattleMove p (state, p.2)
  | stop (p : GameState × Accumulators) (status : MatchStatus) :
    BattleMove p ({ p.1 with status := status }, p.2)

/-- What the moves of a battle lead to. -/
def BattleMoves : GameState × Accumulators → GameState × Accumulators → Prop :=
  Relation.ReflTransGen BattleMove

/-- What every move keeps, every run keeps. -/
theorem BattleMoves.preserves {P : GameState × Accumulators → Prop}
    (hstep : ∀ p p', BattleMove p p' → P p → P p') {p p' : GameState × Accumulators}
    (hm : BattleMoves p p') (h : P p) : P p' := by
  induction hm with
  | refl => exact h
  | tail _ hmove ih => exact hstep _ _ hmove ih


/-! ### What the road does not change -/

/-- The road changes where an army is, not whose it is nor how large. -/
structure SameForce (a b : MarchingArmy) : Prop where
  owner : b.owner = a.owner
  units : b.units = a.units

theorem advanceLegs_force (territories : Record String Territory) :
    ∀ (rest : List String) (army : MarchingArmy) (delta : ℚ),
      SameForce army (advanceLegs territories rest army delta).1 := by
  intro rest
  induction rest with
  | nil =>
    intro army delta
    unfold advanceLegs
    dsimp only
    split <;> exact ⟨rfl, rfl⟩
  | cons nextId rest ih =>
    intro army delta
    unfold advanceLegs
    dsimp only
    split
    · exact ⟨rfl, rfl⟩
    · cases territories.get? army.targetId with
      | none => exact ⟨rfl, rfl⟩
      | some waypoint =>
        dsimp only
        split
        · exact ⟨rfl, rfl⟩
        · have h := ih (setArmyLeg army waypoint (territories.getD nextId Territory.zero)
            (army.routeLeg + 1)) ((army.progress + army.speed * delta - 1) / army.speed)
          exact ⟨h.owner, h.units⟩

theorem advanceArmy_force (state : GameState) (delta : ℚ) (army : MarchingArmy) :
    SameForce army (advanceArmy state delta army).1 := by
  have h := advanceLegs_force state.territories (army.routeIds.drop (army.routeLeg + 2)) army delta
  unfold advanceArmy advanceRoutedArmy
  split
  · generalize advanceLegs state.territories (army.routeIds.drop (army.routeLeg + 2)) army delta = r
      at h
    dsimp only
    generalize (if r.2 = true then (1 : ℚ) else r.1.progress) = nextProgress
    split <;> exact ⟨h.owner, h.units⟩
  · dsimp only
    split <;> exact ⟨rfl, rfl⟩

/-! ### What a side holds -/

/-- A tower that a side holds. -/
def Held (id : String) (state : GameState) : Prop :=
  ∃ t, state.territories.get? id = some t ∧ t.owner ≠ .neutral

omit [MathLib] in
/-- Combat leaves a held tower held, when the army that fights belongs to a side. -/
theorem afterCombat_owner_ne {target : Territory} (incoming : ℤ) {attacker : Team} (bonus : ℚ)
    (ha : attacker ≠ .neutral) (ht : target.owner ≠ .neutral) :
    (afterCombat target incoming attacker bonus).owner ≠ .neutral := by
  change (resolveArrivalWithBonus target incoming attacker bonus).newOwner ≠ .neutral
  unfold resolveArrivalWithBonus
  split
  · exact ht
  · split
    · exact ht
    · dsimp only
      split
      · exact ha
      · exact ht

omit [MathLib] in
theorem Held.arrive {id : String} {p : GameState × Accumulators} {army : MarchingArmy}
    (ha : army.owner ≠ .neutral) (h : Held id p.1) : Held id (arriveArmy p army).1 := by
  obtain ⟨t, ht, ho⟩ := h
  unfold arriveArmy
  cases hg : p.1.territories.get? army.targetId with
  | none => exact ⟨t, ht, ho⟩
  | some target =>
    have hset : ∃ t', (p.1.territories.set army.targetId (afterCombat target army.units
        army.owner (defenseBonus p.1 target))).get? id = some t' ∧ t'.owner ≠ .neutral := by
      by_cases he : id = army.targetId
      · rw [← he, ht] at hg
        cases hg
        exact ⟨afterCombat t army.units army.owner (defenseBonus p.1 t),
          (Record.get?_set _ _ _ _).trans (if_pos he), afterCombat_owner_ne _ _ ha ho⟩
      · refine ⟨t, ?_, ho⟩
        rw [Record.get?_set, if_neg he]
        exact ht
    dsimp only
    split <;> exact hset

omit [MathLib] in
theorem Held.generated {id : String} {state : GameState} (accumulators : Accumulators)
    (delta : ℚ) (hk : state.territories.keys = territoryOrderForBattlefield state.battlefieldId)
    (h : Held id state) : Held id (tickGeneration state accumulators delta).1 := by
  obtain ⟨t, hg, ho⟩ := h
  refine ⟨Go.generated state accumulators delta id t, ?_, ?_⟩
  · rw [tickGeneration_territories accumulators delta hk, Record.get?_map, hg, Option.map_some]
  · rw [show (Go.generated state accumulators delta id t).owner = t.owner
      from generateUnits_owner _ _ _ _]
    exact ho

/-- What is held stays held along the army loop, and the armies stay with their sides. -/
theorem Held.moveArmies {id : String} {state : GameState} (accumulators : Accumulators)
    (delta : ℚ) (harmies : ∀ a ∈ state.armies, a.owner ≠ .neutral) (h : Held id state) :
    Held id (moveArmies state accumulators delta).close := by
  refine foldl_preserves (P := fun m : Marching => Held id m.state) ?_ h
  intro m army hmem hm
  have ho : (advanceArmy m.state delta army).1.owner ≠ .neutral := by
    rw [(advanceArmy_force m.state delta army).owner]
    exact harmies army hmem
  unfold moveArmy
  dsimp only
  split
  · exact hm.arrive ho
  · exact hm

/-- **A held tower stays held in a step.** -/
theorem Held.step {id : String} {state : GameState} (accumulators : Accumulators) {delta : ℚ}
    (hδ : 0 ≤ delta) (hok : BattleOk state) (h : Held id state) :
    Held id (stepSimulation state accumulators delta).1 := by
  unfold stepSimulation
  split
  · exact h
  · have hstart : Held id (startStep state delta) := h
    have harmies : ∀ a ∈ (startStep state delta).armies, a.owner ≠ .neutral :=
      fun a ha => (hok.armies a ha).owned
    have hclose := moveArmies_close_ok accumulators delta (startStep_ok hok hδ)
    exact (hstart.moveArmies accumulators delta harmies).generated
      (Go.moveArmies (startStep state delta) accumulators delta).accumulators delta hclose.keys

end CrownClash.Go
