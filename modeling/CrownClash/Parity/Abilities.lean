import CrownClash.Parity.TacticalAi
import CrownClash.Ts.Abilities
import CrownClash.Ts.Pvp
import CrownClash.Go.BotBattle
import Mathlib.Data.String.Basic

/-!
# The two engines agree on dispatches and abilities

A dispatch and an ability either leave the state as it is or give a next state.
The engines name their failures differently, so both are compared as options of
the next state: `dispatchArmy_eq` for a dispatch between two towers,
`dispatchFromState_eq` for one between two names, `applyTeamAbility_eq` for an
ability and `chooseBotAbility_eq` for the bot's choice of one.

A name that every JavaScript object inherits reads as a truthy value on the
client and as nothing on the server.  Neither engine dispatches from it or to it
here, because the client looks the route up in the state again.
-/

namespace CrownClash.Parity

open Lib

variable [MathLib]

/-! ### Dispatch -/

/-- The state after a client dispatch, put together the way both callers do. -/
def dispatched (state : GameState) (sourceId : String) (owner : Team) (d : Ts.Dispatched) :
    GameState :=
  { state with
    territories := state.territories.set sourceId d.sourceTerritory
    armies := state.armies ++ [d.army]
    stats := Go.addUnitsDispatched state.stats owner d.army.units }

/-- The server reads the first waypoint after it has taken the units out of the
source.  Only its id and its place matter, and these the source keeps. -/
theorem setArmyLeg_after_source {state : GameState} {sourceId : String} {source : Territory}
    (hs : state.territories.get? sourceId = some source) (units : ℤ) (army : MarchingArmy)
    (next : String) (leg : ℕ) :
    Go.setArmyLeg army { source with units := units }
        ((state.territories.set sourceId { source with units := units }).getD next
          Territory.zero) leg
      = Go.setArmyLeg army source (state.territory next) leg := by
  rw [Record.getD_set]
  split
  · next he =>
    rw [he, GameState.territory, Record.getD, hs]
    rfl
  · rfl

/-- **Both engines dispatch alike** between two towers of the map. -/
theorem dispatchArmy_eq {state : GameState} (h : Go.BattleOk state) {sourceId targetId : String}
    {source target : Territory} (hs : state.territories.get? sourceId = some source)
    (ht : state.territories.get? targetId = some target) (owner : Team) (ratio : ℚ)
    (armyId : String) (multiplier : ℚ) :
    (Ts.dispatchArmy source target owner ratio armyId multiplier (some state)).toOption.map
        (dispatched state sourceId owner)
      = (Go.dispatchArmyWithRatio state sourceId targetId owner multiplier armyId
          ratio).toOption := by
  obtain rfl : source.id = sourceId := h.ids sourceId source hs
  obtain rfl : target.id = targetId := h.ids targetId target ht
  unfold Ts.dispatchArmy Go.dispatchArmyWithRatio
  simp only [hs, ht]
  by_cases hne : source.id = target.id
  · rw [if_pos hne, if_pos (Or.inl hne)]
    rfl
  by_cases ho : source.owner ≠ owner
  · rw [if_neg hne, if_pos ho, if_pos (Or.inr ho)]
    rfl
  rw [if_neg hne, if_neg ho, if_neg (not_or.mpr ⟨hne, ho⟩), findDispatchRoute_eq h.known]
  cases Go.findDispatchRoute state source.id target.id owner with
  | none => rfl
  | some route =>
    have hunits : Ts.calculateDispatchUnits source.units ratio
        = Go.calculateDispatchUnitsWithRatio source.units ratio := rfl
    dsimp only
    rw [hunits]
    generalize Go.calculateDispatchUnitsWithRatio source.units ratio = units
    by_cases hu : units ≤ 0
    · rw [if_pos hu, if_pos hu]
      rfl
    rw [if_neg hu, if_neg hu]
    have hsafe : 0 < (if multiplier > 0 then multiplier else 1) := by
      split
      · assumption
      · exact one_pos
    generalize (if multiplier > 0 then multiplier else 1) = safe at hsafe ⊢
    have hspeed : 0 < safe * Go.territoryArmySpeedMultiplier source.type :=
      mul_pos hsafe (by cases source.type <;> norm_num [Go.territoryArmySpeedMultiplier,
        Go.stableArmySpeedMultiplier])
    rw [usesTacticalRules_eq, getTerritoryArmySpeedMultiplier_eq]
    by_cases hv : Go.usesTacticalRules state.gameplayRulesVersion = true
    · rw [if_pos hv, if_pos hv, setArmyLeg_eq hspeed, setArmyLeg_after_source hs]
      rfl
    · rw [if_neg hv, if_neg hv]
      rfl

omit [MathLib] in
theorem lookup_of_some {α : Type} {r : Record String α} {key : String} {v : α}
    (h : r.get? key = some v) : Ts.lookup r key = .own v := by
  rw [Ts.lookup, h]

omit [MathLib] in
theorem lookup_of_none {α : Type} {r : Record String α} {key : String} (h : r.get? key = none) :
    Ts.lookup r key = .inherited ∨ Ts.lookup r key = .missing := by
  rw [Ts.lookup, h]
  by_cases hp : key ∈ Ts.objectPrototypeKeys
  · exact Or.inl (if_pos hp)
  · exact Or.inr (if_neg hp)

/-- **Both engines dispatch alike** between two names, known or not. -/
theorem dispatchFromState_eq {state : GameState} (h : Go.BattleOk state) {owner : Team}
    (ho : owner ≠ .neutral) (sourceId targetId : String) (multiplier : ℚ) (armyId : String) :
    (Ts.dispatchFromState state sourceId targetId owner multiplier armyId).toOption
      = (Go.dispatchArmy state sourceId targetId owner multiplier armyId).toOption := by
  unfold Ts.dispatchFromState Go.dispatchArmy
  cases hs : state.territories.get? sourceId with
  | none =>
    have hgo : Go.dispatchArmyWithRatio state sourceId targetId owner multiplier armyId 0.5
        = .error .invalidSource := by
      unfold Go.dispatchArmyWithRatio
      rw [hs]
    rw [hgo]
    rcases lookup_of_none hs with hl | hl
    · rw [hl]
      cases Ts.lookup state.territories targetId <;> rfl
    · rw [hl]
      rfl
  | some source =>
    rw [lookup_of_some hs]
    cases ht : state.territories.get? targetId with
    | none =>
      have hgo : Go.dispatchArmyWithRatio state sourceId targetId owner multiplier armyId 0.5
          = .error .invalidTarget := by
        unfold Go.dispatchArmyWithRatio
        rw [hs, ht]
      rw [hgo]
      rcases lookup_of_none ht with hl | hl
      · rw [hl]
        rfl
      · rw [hl]
        rfl
    | some target =>
      rw [lookup_of_some ht, ← dispatchArmy_eq h hs ht owner 0.5 armyId multiplier]
      dsimp only
      cases Ts.dispatchArmy source target owner 0.5 armyId multiplier (some state) with
      | error e => rfl
      | ok d =>
        cases owner with
        | neutral => exact absurd rfl ho
        | player => rfl
        | enemy => rfl

/-! ### Abilities -/

omit [MathLib] in
theorem commanderAbility_eq (c : CommanderId) : Ts.commanderAbility c = Go.commanderAbility c := by
  cases c <;> rfl

omit [MathLib] in
theorem hasCommanderAbilities_eq (version : ℤ) :
    Ts.hasCommanderAbilities version = Go.hasCommanderAbilities version := rfl

omit [MathLib] in
theorem withUsedFlag_eq (state : GameState) (team : Team) :
    Ts.withUsedFlag state team = Go.markAbilityUsed state team := rfl

/-- The state after a charge: the army leaves with its units multiplied, and the
multiplied units are the ones that count. -/
def charged (state : GameState) (sourceId : String) (team : Team) (d : Ts.Dispatched) :
    GameState :=
  { state with
    territories := state.territories.set sourceId d.sourceTerritory
    armies := state.armies ++
      [{ d.army with units := ⌊(d.army.units : ℚ) * Ts.chargeUnitMultiplier⌋ }]
    stats := Ts.addUnitsDispatched state.stats team
      ⌊(d.army.units : ℚ) * Ts.chargeUnitMultiplier⌋ }

omit [MathLib] in
/-- The server counts the units of the dispatch first and then the difference. -/
theorem boostLastArmy_dispatched (state : GameState) (sourceId : String) (team : Team)
    (d : Ts.Dispatched) :
    Go.boostLastArmy (dispatched state sourceId team d) team = charged state sourceId team d := by
  unfold Go.boostLastArmy dispatched charged Ts.chargeUnitMultiplier Go.abilityChargeUnitMultiplier
  simp only [List.getLast?_concat, List.dropLast_concat]
  congr 1
  unfold Go.addUnitsDispatched Ts.addUnitsDispatched
  by_cases ht : team = .player
  · simp only [if_pos ht]
    congr 1
    omega
  · simp only [if_neg ht]
    congr 1
    omega

/-- **Both engines apply an ability alike.** -/
theorem applyTeamAbility_eq {state : GameState} (h : Go.BattleOk state) (team : Team)
    (commander : Option CommanderId) (sourceId targetId : String) (multiplier : ℚ)
    (armyId : String) :
    Ts.applyTeamAbility state team commander sourceId targetId multiplier armyId
      = Go.applyTeamAbility state team commander sourceId targetId multiplier armyId := by
  unfold Ts.applyTeamAbility Go.applyTeamAbility
  rw [hasCommanderAbilities_eq]
  have hused : Ts.abilityUsed state team = Go.abilityUsed state team := rfl
  have hunlock : Ts.unlockSeconds = Go.abilityUnlockSeconds := rfl
  rw [hused, hunlock]
  cases commander with
  | none => simp only [ite_self]
  | some commander =>
    dsimp only
    by_cases hready : Go.hasCommanderAbilities state.gameplayRulesVersion = false ∨
        state.status ≠ .playing
    · rw [if_pos hready, if_pos (hready.imp_right Or.inl)]
    by_cases hu : Go.abilityUsed state team = true
    · rw [if_neg hready, if_pos (Or.inl hu), if_pos (Or.inr (Or.inr hu))]
    have hboth : ¬ (Go.hasCommanderAbilities state.gameplayRulesVersion = false ∨
        state.status ≠ .playing ∨ Go.abilityUsed state team = true) := by
      rintro (h1 | h1 | h1)
      · exact hready (Or.inl h1)
      · exact hready (Or.inr h1)
      · exact hu h1
    rw [if_neg hready, if_neg hboth]
    by_cases ht : state.elapsedTimeSeconds + 1 / 10 ^ 9 < Go.abilityUnlockSeconds
    · rw [if_pos (Or.inr ht), if_pos ht]
    rw [if_neg (not_or.mpr ⟨hu, ht⟩), if_neg ht]
    cases hs : state.territories.get? sourceId with
    | none =>
      rcases lookup_of_none hs with hl | hl
      · rw [hl]
      · rw [hl]
    | some source =>
      rw [lookup_of_some hs]
      dsimp only
      by_cases ho : source.owner ≠ team
      · rw [if_pos ho, if_pos ho]
      rw [if_neg ho, if_neg ho, commanderAbility_eq]
      cases Go.commanderAbility commander with
      | royalShield =>
        have hnow : roundHalfUp (state.elapsedTimeSeconds * 1000) = Go.matchMs state :=
          (roundHalfAway_of_nonneg (mul_nonneg h.elapsed (by norm_num))).symm
        dsimp only
        rw [hnow]
        rfl
      | supplyDrop => rfl
      | vanguardCharge =>
        dsimp only
        cases htg : state.territories.get? targetId with
        | none =>
          have hgo : ∀ m : ℚ, Go.dispatchArmyWithRatio state sourceId targetId team m armyId 0.5
              = .error .invalidTarget := by
            intro m
            unfold Go.dispatchArmyWithRatio
            rw [hs, htg]
          rw [hgo, ite_self]
          rcases lookup_of_none htg with hl | hl
          · rw [hl]
          · rw [hl]
        | some target =>
          rw [lookup_of_some htg]
          dsimp only
          by_cases hne : targetId = sourceId
          · rw [if_pos hne, if_pos hne]
          rw [if_neg hne, if_neg hne]
          have hd := dispatchArmy_eq h hs htg team 0.5 armyId
            (multiplier * Ts.chargeSpeedMultiplier)
          have hcharge : Ts.chargeSpeedMultiplier = Go.abilityChargeSpeedMultiplier := rfl
          rw [← hcharge]
          cases hts : Ts.dispatchArmy source target team 0.5 armyId
              (multiplier * Ts.chargeSpeedMultiplier) (some state) with
          | error e =>
            rw [hts] at hd
            cases hgo : Go.dispatchArmyWithRatio state sourceId targetId team
                (multiplier * Ts.chargeSpeedMultiplier) armyId 0.5 with
            | error e' => rfl
            | ok s => rw [hgo] at hd; cases hd
          | ok d =>
            rw [hts] at hd
            cases hgo : Go.dispatchArmyWithRatio state sourceId targetId team
                (multiplier * Ts.chargeSpeedMultiplier) armyId 0.5 with
            | error e' => rw [hgo] at hd; cases hd
            | ok s =>
              rw [hgo] at hd
              cases Option.some.inj hd
              dsimp only
              rw [boostLastArmy_dispatched, withUsedFlag_eq]
              rfl

theorem applyPlayerAbility_eq {state : GameState} (h : Go.BattleOk state)
    (commander : Option CommanderId) (sourceId targetId : String) (multiplier : ℚ)
    (armyId : String) :
    Ts.applyPlayerAbility state commander sourceId targetId multiplier armyId
      = Go.applyPlayerAbility state commander sourceId targetId multiplier armyId :=
  applyTeamAbility_eq h .player commander sourceId targetId multiplier armyId

/-! ### The bot's choice -/

/-- A client choice in the server's words. -/
def choiceOf (c : Ts.BotAbilityChoice) : Go.BotAbilityChoice :=
  ⟨c.sourceId, c.targetId, c.moves.map moveOf⟩

def threatOf (t : Ts.ThreatenedTower) : Go.ThreatenedTower := ⟨t.tower, t.firstEta, t.horizon⟩

theorem threatenedTower_eq {state : GameState} (h : Go.BattleOk state) (team : Team)
    {id : String} (hid : (state.territory id).id = id) :
    (if (state.territory id).owner = team then
      (Ts.threatenedTower state team (state.territory id)).map threatOf else none)
      = Go.threatenedTower state team id := by
  unfold Ts.threatenedTower Go.threatenedTower
  dsimp only
  by_cases ho : (state.territory id).owner = team
  · rw [if_pos ho, if_neg (not_not.mpr ho), hid]
    have hlist := hostileIncoming_eq h id team
    have hf := head?_eta hlist
    have hl := getLast?_eta hlist
    cases hts : (Ts.hostileIncoming state id team).head? with
    | none =>
      cases hgo : (Go.hostileAt state id team).head? with
      | none => rfl
      | some first => rw [hts, hgo] at hf; cases hf
    | some first =>
      cases hgo : (Go.hostileAt state id team).head? with
      | none => rw [hts, hgo] at hf; cases hf
      | some first' =>
        rw [hts, hgo] at hf
        have hfe : first.eta = first'.eta := Option.some.inj hf
        cases htl : (Ts.hostileIncoming state id team).getLast? with
        | none =>
          cases hgl : (Go.hostileAt state id team).getLast? with
          | none => rfl
          | some last => rw [htl, hgl] at hl; cases hl
        | some last =>
          cases hgl : (Go.hostileAt state id team).getLast? with
          | none => rw [htl, hgl] at hl; cases hl
          | some last' =>
            rw [htl, hgl] at hl
            have hle : last.eta = last'.eta := Option.some.inj hl
            dsimp only
            rw [tacticalForecast_one h, hle, hfe]
            split <;> rfl
  · rw [if_neg ho, if_pos ho]

theorem threatenedTowers_eq {state : GameState} (h : Go.BattleOk state) (team : Team) :
    (Ts.threatenedTowers state team).map threatOf = Go.threatenedTowers state team := by
  have hsort : sortBy (fun a b : Territory => decide (a.id < b.id))
      (state.territories.values.filter fun t => t.owner = team)
        = (Ts.sortedTowers state).filter fun t => t.owner = team :=
    (filter_sortBy (weakOrder_lt.pullback Territory.id) _ _).symm
  unfold Ts.threatenedTowers Go.threatenedTowers
  rw [hsort, sortedTowers_eq h, List.filterMap_filter, List.filterMap_map, List.map_filterMap]
  refine List.filterMap_congr fun id hid => ?_
  rw [← threatenedTower_eq h team (territory_id h hid), Function.comp_apply]
  by_cases ho : (state.territory id).owner = team
  · rw [if_pos ho, if_pos (decide_eq_true ho)]
  · rw [if_neg ho, if_neg (by simpa using ho)]
    rfl

theorem savedTowers_eq {state : GameState} (h : Go.BattleOk state) (team : Team) :
    (Ts.savedTowers state team).map threatOf = Go.savedTowers state team := by
  unfold Ts.savedTowers Go.savedTowers
  dsimp only
  rw [← threatenedTowers_eq h, List.filter_map, ← sortBy_map]
  congr 2
  · funext a b
    have hu : (b.tower.units - a.tower.units ≠ 0) ↔ (a.tower.units ≠ b.tower.units) := by omega
    have hl : (b.tower.units - a.tower.units < 0) ↔ (a.tower.units > b.tower.units) := by omega
    simp only [hu, hl]
    rfl
  · refine List.filter_congr fun t _ => ?_
    have hs : Ts.shieldDurationMs = Go.abilityShieldDurationMs := rfl
    have hb : Ts.shieldDefenseMultiplier = Go.abilityShieldDefenseMultiplier := rfl
    have hmin : min t.horizon ((Go.abilityShieldDurationMs : ℚ) / 1000 - 1)
        = if (Go.abilityShieldDurationMs : ℚ) / 1000 - 1 < t.horizon then
            (Go.abilityShieldDurationMs : ℚ) / 1000 - 1 else t.horizon := by
      rw [min_comm, min_def_lt]
    rw [tacticalForecast_eq h, hs, hb, hmin]
    congr 1
    rw [← decide_not]
    exact decide_eq_decide.mpr not_lt.symm

theorem rescuedTowers_eq {state : GameState} (h : Go.BattleOk state) (team : Team) :
    (Ts.rescuedTowers state team).map threatOf = Go.rescuedTowers state team := by
  unfold Ts.rescuedTowers Go.rescuedTowers
  rw [← threatenedTowers_eq h, List.filter_map, ← sortBy_map]
  congr 2
  · funext a b
    have hu : (a.firstEta - b.firstEta ≠ 0) ↔ (a.firstEta ≠ b.firstEta) := sub_ne_zero
    have hl : (a.firstEta - b.firstEta < 0) ↔ (a.firstEta < b.firstEta) := sub_neg
    simp only [hu, hl]
    rfl
  · refine List.filter_congr fun t _ => ?_
    have hs : Ts.supplyUnits = Go.abilitySupplyUnits := rfl
    rw [tacticalForecast_one h, hs]
    rfl

/-- **The bot chooses the same ability in both engines.** -/
theorem chooseBotAbility_eq {state : GameState} (h : Go.BattleOk state) (team : Team)
    (commander : Option CommanderId) (moves : List Ts.AiMove) :
    (Ts.chooseBotAbility state team commander moves).map choiceOf
      = Go.chooseBotAbility state team commander (moves.map moveOf) := by
  unfold Ts.chooseBotAbility Go.chooseBotAbility
  cases commander with
  | none => rfl
  | some commander =>
    dsimp only
    rw [hasCommanderAbilities_eq]
    have hused : Ts.abilityUsed state team = Go.abilityUsed state team := rfl
    have hunlock : Ts.unlockSeconds = Go.abilityUnlockSeconds := rfl
    rw [hused, hunlock]
    by_cases hready : Go.hasCommanderAbilities state.gameplayRulesVersion = false ∨
        state.status ≠ .playing
    · rw [if_pos hready, if_pos hready]
      rfl
    by_cases hu : Go.abilityUsed state team = true ∨
        state.elapsedTimeSeconds + 1 / 10 ^ 9 < Go.abilityUnlockSeconds
    · rw [if_neg hready, if_neg hready, if_pos hu, if_pos hu]
      rfl
    rw [if_neg hready, if_neg hready, if_neg hu, if_neg hu, commanderAbility_eq]
    cases Go.commanderAbility commander with
    | vanguardCharge => cases moves <;> rfl
    | royalShield =>
      dsimp only
      rw [← savedTowers_eq h]
      cases Ts.savedTowers state team <;> rfl
    | supplyDrop =>
      dsimp only
      rw [← rescuedTowers_eq h]
      cases Ts.rescuedTowers state team with
      | cons t ts => rfl
      | nil => cases moves <;> rfl

end CrownClash.Parity
