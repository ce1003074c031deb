import CrownClash.Go.Abilities
import CrownClash.Go.Invariant
import CrownClash.Go.Routes

/-!
# Server: the moves of the bot are legal

The bot decides on all its moves in one state and then sends them one after the
other.  A refused dispatch would be dropped, so that it matters whether the
later moves are still legal when their turn comes.  They are: the moves leave
from different towers (`evaluateTacticalMoves_ok`), a dispatch and an ability
change nothing of the map but garrisons (`SameMap`), routes do not depend on
garrisons (`findDispatchRouteBy_congr`), and no garrison shrinks but that of the
source.
-/

namespace CrownClash.Go

open Lib

/-! ### Maps that differ in garrisons only -/

structure SameMap (s s' : GameState) : Prop where
  battlefieldId : s'.battlefieldId = s.battlefieldId
  version : s'.gameplayRulesVersion = s.gameplayRulesVersion
  site : ∀ id, (s'.territories.get? id).map Territory.site
    = (s.territories.get? id).map Territory.site

theorem SameMap.sites {s s' : GameState} (h : SameMap s s') : SameSites s s' := ⟨h.site⟩

/-- A tower that is written back with another garrison. -/
theorem sameMap_set {s : GameState} {id : String} {t : Territory}
    (ht : s.territories.get? id = some t) (units : ℤ) (s' : GameState)
    (hb : s'.battlefieldId = s.battlefieldId)
    (hv : s'.gameplayRulesVersion = s.gameplayRulesVersion)
    (he : s'.territories = s.territories.set id { t with units := units }) : SameMap s s' := by
  refine ⟨hb, hv, fun id' => ?_⟩
  rw [he, Record.get?_set]
  split
  · next h =>
    rw [h, ht]
    rfl
  · rfl

variable [MathLib]

/-- **Routes do not depend on garrisons.** -/
theorem SameMap.findDispatchRoute {s s' : GameState} (h : SameMap s s')
    (sourceId targetId : String) (owner : Team) :
    findDispatchRoute s' sourceId targetId owner = findDispatchRoute s sourceId targetId owner := by
  rw [findDispatchRoute_on, findDispatchRoute_on, h.battlefieldId]
  exact findDispatchRouteBy_congr (fun _ => rfl) rfl h.sites h.version sourceId targetId owner

/-! ### Legal moves -/

/-- A dispatch that will not be refused. -/
structure MoveOk (state : GameState) (team : Team) (move : TacticalMove) : Prop where
  source : ∃ s, state.territories.get? move.fromId = some s ∧ s.owner = team ∧ 2 ≤ s.units
  target : ∃ t, state.territories.get? move.toId = some t
  ne : move.fromId ≠ move.toId
  route : ∃ route, findDispatchRoute state move.fromId move.toId team = some route

/-- Moves that can all be sent, in their order. -/
structure MovesOk (state : GameState) (team : Team) (moves : List TacticalMove) : Prop where
  distinct : (moves.map TacticalMove.fromId).Nodup
  legal : ∀ move ∈ moves, MoveOk state team move

/-- A legal move stays legal while its source keeps its garrison. -/
theorem MoveOk.mono {s s' : GameState} {team : Team} {move : TacticalMove}
    (h : MoveOk s team move) (hm : SameMap s s')
    (hu : (s.territory move.fromId).units ≤ (s'.territory move.fromId).units) :
    MoveOk s' team move := by
  obtain ⟨source, hs, ho, hunits⟩ := h.source
  obtain ⟨target, ht⟩ := h.target
  obtain ⟨route, hr⟩ := h.route
  obtain ⟨source', hs', he⟩ := hm.sites.get? hs
  obtain ⟨target', ht', -⟩ := hm.sites.get? ht
  refine ⟨⟨source', hs', ?_, ?_⟩, ⟨target', ht'⟩, h.ne, route, ?_⟩
  · exact (congrArg (fun p => p.2.1) he).trans ho
  · unfold GameState.territory Record.getD at hu
    rw [hs, hs'] at hu
    exact hunits.trans hu
  · rw [hm.findDispatchRoute, hr]

/-- **A legal move is not refused.** -/
theorem MoveOk.dispatch {state : GameState} {team : Team} {move : TacticalMove}
    (h : MoveOk state team move) (multiplier : ℚ) (id : String) :
    ∃ state', dispatchArmy state move.fromId move.toId team multiplier id = .ok state' := by
  obtain ⟨source, hs, ho, hunits⟩ := h.source
  obtain ⟨target, ht⟩ := h.target
  obtain ⟨route, hr⟩ := h.route
  have hpos : ¬ calculateDispatchUnitsWithRatio source.units 0.5 ≤ 0 := by
    unfold calculateDispatchUnitsWithRatio
    rw [if_neg (by omega)]
    exact not_le.mpr (lt_of_lt_of_le one_pos (le_max_left _ _))
  have hne : ¬ (move.fromId = move.toId ∨ source.owner ≠ team) :=
    not_or.mpr ⟨h.ne, not_not.mpr ho⟩
  unfold dispatchArmy dispatchArmyWithRatio
  simp only [hs, ht]
  rw [if_neg hne, hr]
  dsimp only
  rw [if_neg hpos]
  exact ⟨_, rfl⟩

/-- A dispatch changes the garrison of its source and nothing else of the map. -/
theorem dispatchArmy_sameMap {state state' : GameState} {sourceId targetId : String}
    {owner : Team} {multiplier : ℚ} {id : String} {ratio : ℚ} (ho : owner ≠ .neutral)
    (h : dispatchArmyWithRatio state sourceId targetId owner multiplier id ratio = .ok state') :
    SameMap state state' ∧
      ∀ id' ≠ sourceId, state'.territory id' = state.territory id' := by
  obtain ⟨source, army, hs, -, -, -, -, -, -, -, -, -, rfl⟩ := dispatchArmyWithRatio_ok_cases ho h
  refine ⟨sameMap_set hs _ _ rfl rfl rfl, fun id' hne => ?_⟩
  change (state.territories.set sourceId _).getD id' Territory.zero = _
  rw [Record.getD_set, if_neg hne]
  rfl

/-- The rest of the moves after the first is sent. -/
theorem MovesOk.tail {s s' : GameState} {team : Team} {move : TacticalMove}
    {moves : List TacticalMove} (h : MovesOk s team (move :: moves)) (hm : SameMap s s')
    (hu : ∀ id ≠ move.fromId, (s.territory id).units ≤ (s'.territory id).units) :
    MovesOk s' team moves := by
  have hd := List.nodup_cons.mp h.distinct
  refine ⟨hd.2, fun mv hmv => (h.legal mv (List.mem_cons_of_mem _ hmv)).mono hm (hu _ ?_)⟩
  intro he
  exact hd.1 (he ▸ List.mem_map_of_mem hmv)

theorem MovesOk.mono {s s' : GameState} {team : Team} {moves : List TacticalMove}
    (h : MovesOk s team moves) (hm : SameMap s s')
    (hu : ∀ id, (s.territory id).units ≤ (s'.territory id).units) : MovesOk s' team moves :=
  ⟨h.distinct, fun mv hmv => (h.legal mv hmv).mono hm (hu _)⟩

/-! ### Abilities -/

/-- **What an ability can do.**  It raises a shield, it adds a few units to a
tower, or it sends an army that is made stronger. -/
theorem applyTeamAbility_cases {state state' : GameState} {team : Team}
    {commander : Option CommanderId} {sourceId targetId : String} {multiplier : ℚ} {armyId : String}
    (h : applyTeamAbility state team commander sourceId targetId multiplier armyId = some state') :
    ∃ source, state.territories.get? sourceId = some source ∧ source.owner = team ∧
      ((∃ untilMs, state' = markAbilityUsed
          { state with shieldedUntilMs := state.shieldedUntilMs.set sourceId untilMs } team) ∨
        state' = markAbilityUsed
          { state with
            territories := state.territories.set sourceId
              { source with units := source.units + abilitySupplyUnits } } team ∨
        commander.map commanderAbility = some .vanguardCharge ∧
          ∃ sent, dispatchArmyWithRatio state sourceId targetId team
            (multiplier * abilityChargeSpeedMultiplier) armyId 0.5 = .ok sent ∧
          state' = markAbilityUsed (boostLastArmy sent team) team) := by
  unfold applyTeamAbility at h
  split at h
  · cases h
  split at h
  · cases h
  cases commander with
  | none => cases h
  | some commander =>
    dsimp only at h
    cases hs : state.territories.get? sourceId with
    | none => rw [hs] at h; cases h
    | some source =>
      rw [hs] at h
      dsimp only at h
      by_cases ho : source.owner ≠ team
      · rw [if_pos ho] at h
        cases h
      rw [if_neg ho] at h
      refine ⟨source, rfl, not_not.mp ho, ?_⟩
      cases hc : commanderAbility commander with
      | royalShield =>
        rw [hc] at h
        dsimp only at h
        split at h
        · cases h
        · exact Or.inl ⟨_, (Option.some.inj h).symm⟩
      | supplyDrop =>
        rw [hc] at h
        dsimp only at h
        split at h
        · cases h
        · exact Or.inr (Or.inl (Option.some.inj h).symm)
      | vanguardCharge =>
        rw [hc] at h
        dsimp only at h
        split at h
        · cases h
        · split at h
          · cases h
          · next sent hd =>
            exact Or.inr (Or.inr ⟨congrArg some hc, sent, hd, (Option.some.inj h).symm⟩)

/-- What a dispatch and an ability leave as it is. -/
structure SameClock (s s' : GameState) : Prop where
  battlefieldId : s'.battlefieldId = s.battlefieldId
  version : s'.gameplayRulesVersion = s.gameplayRulesVersion
  timeLimit : s'.timeLimitSeconds = s.timeLimitSeconds
  status : s'.status = s.status
  elapsed : s'.elapsedTimeSeconds = s.elapsedTimeSeconds

theorem dispatchArmy_sameClock {state state' : GameState} {sourceId targetId : String}
    {owner : Team} {multiplier : ℚ} {id : String} {ratio : ℚ} (ho : owner ≠ .neutral)
    (h : dispatchArmyWithRatio state sourceId targetId owner multiplier id ratio = .ok state') :
    SameClock state state' := by
  obtain ⟨source, army, -, -, -, -, -, -, -, -, -, -, rfl⟩ := dispatchArmyWithRatio_ok_cases ho h
  exact ⟨rfl, rfl, rfl, rfl, rfl⟩

omit [MathLib] in
/-- The charge changes the armies and the statistics, and no army's owner or road. -/
theorem boostLastArmy_eq (state : GameState) (team : Team) :
    ∃ armies stats, boostLastArmy state team = { state with armies := armies, stats := stats } ∧
      ((∀ a ∈ state.armies, ArmyOk a) → ∀ a ∈ armies, ArmyOk a) := by
  unfold boostLastArmy
  cases hl : state.armies.getLast? with
  | none => exact ⟨state.armies, state.stats, rfl, fun h => h⟩
  | some last =>
    refine ⟨_, _, rfl, fun h a ha => ?_⟩
    rcases List.mem_append.mp ha with ha | ha
    · exact h a (List.mem_of_mem_dropLast ha)
    · rw [List.mem_singleton.mp ha]
      have hok := h last (List.mem_of_getLast? hl)
      exact ⟨hok.owned, hok.routed⟩

omit [MathLib] in
theorem markAbilityUsed_eq (state : GameState) (team : Team) :
    ∃ p e, markAbilityUsed state team =
      { state with playerAbilityUsed := p, enemyAbilityUsed := e } := by
  unfold markAbilityUsed
  split
  · exact ⟨true, state.enemyAbilityUsed, rfl⟩
  · exact ⟨state.playerAbilityUsed, true, rfl⟩

/-- **An ability keeps the battle well formed.**  It changes garrisons only, and
only a charge makes one smaller, that of its source. -/
theorem applyTeamAbility_keeps {state state' : GameState} {team : Team} (hteam : team ≠ .neutral)
    {commander : Option CommanderId} {sourceId targetId : String} {multiplier : ℚ} {armyId : String}
    (h : applyTeamAbility state team commander sourceId targetId multiplier armyId = some state')
    (hok : BattleOk state) :
    BattleOk state' ∧ SameClock state state' ∧ SameMap state state' ∧
      ∀ id, (id = sourceId → commander.map commanderAbility ≠ some .vanguardCharge) →
        (state.territory id).units ≤ (state'.territory id).units := by
  obtain ⟨source, hs, -, ⟨untilMs, rfl⟩ | rfl | ⟨hcharge, sent, hd, rfl⟩⟩ :=
    applyTeamAbility_cases h
  · obtain ⟨p, e, he⟩ := markAbilityUsed_eq
      { state with shieldedUntilMs := state.shieldedUntilMs.set sourceId untilMs } team
    rw [he]
    exact ⟨⟨hok.known, hok.keys, hok.ids, hok.ready, hok.elapsed, hok.armies⟩,
      ⟨rfl, rfl, rfl, rfl, rfl⟩, ⟨rfl, rfl, fun _ => rfl⟩, fun _ _ => le_refl _⟩
  · obtain ⟨p, e, he⟩ := markAbilityUsed_eq
      { state with
        territories := state.territories.set sourceId
          { source with units := source.units + abilitySupplyUnits } } team
    rw [he]
    have hmap : SameMap state
        { state with
          territories := state.territories.set sourceId
            { source with units := source.units + abilitySupplyUnits } } :=
      sameMap_set hs _ _ rfl rfl rfl
    refine ⟨⟨hok.known, ?_, ?_, hok.ready, hok.elapsed, hok.armies⟩, ⟨rfl, rfl, rfl, rfl, rfl⟩,
      ⟨rfl, rfl, hmap.site⟩, ?_⟩
    · exact (Record.keys_set_of_mem _ (Record.mem_keys_of_get? hs)).trans hok.keys
    · intro id t ht
      change (state.territories.set sourceId _).get? id = some t at ht
      rw [Record.get?_set] at ht
      split at ht
      · next hid =>
        cases ht
        rw [hid]
        exact hok.ids sourceId source hs
      · exact hok.ids id t ht
    · intro id _
      change _ ≤ ((state.territories.set sourceId _).getD id Territory.zero).units
      rw [Record.getD_set]
      split
      · next hid =>
        rw [hid, GameState.territory, Record.getD, hs, Option.getD_some]
        exact le_add_of_nonneg_right (by decide)
      · exact le_refl _
  · obtain ⟨armies, stats, hb, harmies⟩ := boostLastArmy_eq sent team
    have hok' := dispatchArmyWithRatio_battleOk hok hteam hd
    have hc' := dispatchArmy_sameClock hteam hd
    obtain ⟨hm', ht'⟩ := dispatchArmy_sameMap hteam hd
    obtain ⟨p, e, he⟩ := markAbilityUsed_eq (boostLastArmy sent team) team
    rw [he, hb]
    exact ⟨⟨hok'.known, hok'.keys, hok'.ids, hok'.ready, hok'.elapsed, harmies hok'.armies⟩,
      ⟨hc'.battlefieldId, hc'.version, hc'.timeLimit, hc'.status, hc'.elapsed⟩,
      ⟨hm'.battlefieldId, hm'.version, hm'.site⟩,
      fun id hne => (congrArg _ (ht' id fun he => hne he hcharge)).ge⟩

/-- No garrison becomes negative by it. -/
theorem applyTeamAbility_unitsOk {state state' : GameState} {team : Team} (hteam : team ≠ .neutral)
    {commander : Option CommanderId} {sourceId targetId : String} {multiplier : ℚ} {armyId : String}
    (h : applyTeamAbility state team commander sourceId targetId multiplier armyId = some state')
    (hunits : UnitsOk state) : UnitsOk state' := by
  obtain ⟨source, hs, -, ⟨untilMs, rfl⟩ | rfl | ⟨-, sent, hd, rfl⟩⟩ := applyTeamAbility_cases h
  · obtain ⟨p, e, he⟩ := markAbilityUsed_eq
      { state with shieldedUntilMs := state.shieldedUntilMs.set sourceId untilMs } team
    rw [he]
    exact hunits
  · obtain ⟨p, e, he⟩ := markAbilityUsed_eq
      { state with
        territories := state.territories.set sourceId
          { source with units := source.units + abilitySupplyUnits } } team
    rw [he]
    intro id t ht
    change (state.territories.set sourceId _).get? id = some t at ht
    rw [Record.get?_set] at ht
    split at ht
    · cases ht
      have h0 := hunits sourceId source hs
      exact add_nonneg h0 (by decide)
    · exact hunits id t ht
  · obtain ⟨armies, stats, hb, -⟩ := boostLastArmy_eq sent team
    obtain ⟨p, e, he⟩ := markAbilityUsed_eq (boostLastArmy sent team) team
    have hsent : UnitsOk sent := dispatchArmy_unitsOk hunits hteam hd
    rw [he, hb]
    exact hsent

/-- Both of it. -/
theorem applyTeamAbility_ok {state state' : GameState} {team : Team} (hteam : team ≠ .neutral)
    {commander : Option CommanderId} {sourceId targetId : String} {multiplier : ℚ} {armyId : String}
    (h : applyTeamAbility state team commander sourceId targetId multiplier armyId = some state')
    (hok : BattleOk state) (hunits : UnitsOk state) :
    BattleOk state' ∧ UnitsOk state' ∧ SameClock state state' ∧ SameMap state state' ∧
      ∀ id, (id = sourceId → commander.map commanderAbility ≠ some .vanguardCharge) →
        (state.territory id).units ≤ (state'.territory id).units := by
  obtain ⟨hok', hclock, hmap, hle⟩ := applyTeamAbility_keeps hteam h hok
  exact ⟨hok', applyTeamAbility_unitsOk hteam h hunits, hclock, hmap, hle⟩

/-- What the bot's choice leaves to dispatch: all the moves, or all but the first
when the charge takes its place. -/
theorem chooseBotAbility_cases {state : GameState} {team : Team} {commander : Option CommanderId}
    {moves : List TacticalMove} {choice : BotAbilityChoice}
    (h : chooseBotAbility state team commander moves = some choice) :
    (commander.map commanderAbility ≠ some .vanguardCharge ∧ choice.moves = moves) ∨
      ∃ move, moves = move :: choice.moves ∧ choice.sourceId = move.fromId := by
  unfold chooseBotAbility at h
  cases commander with
  | none => cases h
  | some commander =>
    dsimp only at h
    split at h
    · cases h
    split at h
    · cases h
    have hmap : (some commander).map commanderAbility = some (commanderAbility commander) := rfl
    rw [hmap]
    cases hc : commanderAbility commander with
    | vanguardCharge =>
      rw [hc] at h
      cases moves with
      | nil => cases h
      | cons move rest =>
        cases h
        exact Or.inr ⟨move, rfl, rfl⟩
    | royalShield =>
      rw [hc] at h
      dsimp only at h
      split at h
      · cases h
      · cases h
        exact Or.inl ⟨by decide, rfl⟩
    | supplyDrop =>
      rw [hc] at h
      dsimp only at h
      split at h
      · cases h
        exact Or.inl ⟨by decide, rfl⟩
      · cases h
        exact Or.inl ⟨by decide, rfl⟩
      · cases h

/-- **The moves left after the ability are legal.** -/
theorem MovesOk.afterAbility {state state' : GameState} {team : Team} (hteam : team ≠ .neutral)
    {commander : Option CommanderId} {moves : List TacticalMove} {choice : BotAbilityChoice}
    {multiplier : ℚ} {armyId : String} (h : MovesOk state team moves)
    (hc : chooseBotAbility state team commander moves = some choice)
    (ha : applyTeamAbility state team commander choice.sourceId choice.targetId multiplier armyId
      = some state') (hok : BattleOk state) : MovesOk state' team choice.moves := by
  obtain ⟨-, -, hmap, hle⟩ := applyTeamAbility_keeps hteam ha hok
  rcases chooseBotAbility_cases hc with ⟨hcharge, hmoves⟩ | ⟨move, hmoves, hsrc⟩
  · rw [hmoves]
    exact h.mono hmap fun id => hle id fun _ => hcharge
  · rw [hmoves] at h
    exact h.tail hmap fun id hne => hle id fun he => absurd (he.trans hsrc) hne

/-! ### The tactical policy -/

theorem tacticalCandidates_distinct {state : GameState} (hids : AllTowers (fun id t => t.id = id)
    state) (target : Territory) (team : Team) (multiplier : ℚ) :
    ((tacticalCandidates state target team multiplier).map fun c => c.source.id).Nodup := by
  have hperm : ((tacticalCandidates state target team multiplier).map fun c => c.source.id).Perm
      (((sortedIds state).filterMap (tacticalCandidate state target team multiplier)).map
        fun c => c.source.id) := (perm_sortBy _ _).map _
  have hsub : ∀ ids : List String, (∀ id ∈ ids, (state.territory id).id = id) →
      List.Sublist ((ids.filterMap (tacticalCandidate state target team multiplier)).map
        fun c => c.source.id) ids := by
    intro ids
    induction ids with
    | nil => intro _; exact List.Sublist.refl _
    | cons id ids ih =>
      intro hid
      have hrest := ih fun i hi => hid i (List.mem_cons_of_mem _ hi)
      rw [List.filterMap_cons]
      cases hc : tacticalCandidate state target team multiplier id with
      | none => exact hrest.cons id
      | some c =>
        have hs : c.source.id = id := by
          rw [(tacticalCandidate_some hc).1]
          exact hid id List.mem_cons_self
        dsimp only
        rw [List.map_cons, hs]
        exact hrest.cons_cons id
  have hkeys : (sortedIds state).Nodup :=
    (perm_sortBy _ _).nodup_iff.mpr state.territories.nodup
  refine hperm.nodup_iff.mpr ((hsub _ fun id hid => ?_).nodup hkeys)
  obtain ⟨t, ht⟩ := Record.exists_get?_of_mem_keys (mem_sortBy.mp hid)
  rw [GameState.territory, Record.getD, ht, Option.getD_some]
  exact hids id t ht

/-- Some of the candidates for a tower, all sent to it. -/
theorem movesOk_of_sublist {state : GameState} (hids : AllTowers (fun id t => t.id = id) state)
    {team : Team} {multiplier : ℚ} {targetId : String} (htid : targetId ∈ state.territories.keys)
    {cs : List TacticalCandidate}
    (h : cs.Sublist (tacticalCandidates state (state.territory targetId) team multiplier)) :
    MovesOk state team (cs.map fun c => ⟨c.source.id, targetId⟩) := by
  obtain ⟨target, ht⟩ := Record.exists_get?_of_mem_keys htid
  have hterr : state.territory targetId = target := by
    rw [GameState.territory, Record.getD, ht, Option.getD_some]
  have htgt : target.id = targetId := hids targetId target ht
  rw [hterr] at h
  refine ⟨?_, fun mv hmv => ?_⟩
  · rw [List.map_map]
    exact (h.map fun c => c.source.id).nodup (tacticalCandidates_distinct hids _ team multiplier)
  · obtain ⟨c, hc, rfl⟩ := List.mem_map.mp hmv
    obtain ⟨id, hid, hcand⟩ := List.mem_filterMap.mp (mem_sortBy.mp (h.subset hc))
    obtain ⟨hsrc, ho, hu, hne, route, hr, -, -⟩ := tacticalCandidate_some hcand
    obtain ⟨s, hs⟩ := Record.exists_get?_of_mem_keys (mem_sortBy.mp hid)
    have hss : state.territory id = s := by
      rw [GameState.territory, Record.getD, hs, Option.getD_some]
    have hsid : s.id = id := hids id s hs
    rw [hsrc, hss] at ho hu hne hr
    rw [hsid, htgt] at hne hr
    rw [hsrc, hss, hsid]
    exact ⟨⟨s, hs, ho, by omega⟩, ⟨target, ht⟩, hne, route, hr⟩

theorem rescueLoop_some {state : GameState} {t : Territory} {id : String} {team : Team}
    {horizon : ℚ} : ∀ {cs : List TacticalCandidate} {units : ℤ} {moves result : List TacticalMove},
      rescueLoop state t id team horizon cs units moves = some result →
        ∃ k, result = moves ++ (cs.take k).map fun c => ⟨c.source.id, id⟩ := by
  intro cs
  induction cs with
  | nil => intro units moves result h; cases h
  | cons c cs ih =>
    intro units moves result h
    unfold rescueLoop at h
    dsimp only at h
    split at h
    · cases h
      exact ⟨1, rfl⟩
    · obtain ⟨k, hk⟩ := ih h
      refine ⟨k + 1, ?_⟩
      rw [hk, List.append_assoc]
      rfl

omit [MathLib] in
theorem captureLoop_some {t : Territory} {id : String} {team : Team} :
    ∀ {cs : List TacticalCandidate} {projected : Territory} {moves : List TacticalMove}
      {result : ℤ × List TacticalMove}, captureLoop t id team cs projected moves = some result →
        ∃ k, result.2 = moves ++ (cs.take k).map fun c => ⟨c.source.id, id⟩ := by
  intro cs
  induction cs with
  | nil => intro projected moves result h; cases h
  | cons c cs ih =>
    intro projected moves result h
    unfold captureLoop at h
    dsimp only at h
    split at h
    · cases h
      exact ⟨1, rfl⟩
    · obtain ⟨k, hk⟩ := ih h
      refine ⟨k + 1, ?_⟩
      rw [hk, List.append_assoc]
      rfl

theorem rescueMoves_ok {state : GameState} (hids : AllTowers (fun id t => t.id = id) state)
    {team : Team} {multiplier : ℚ} {id : String} (hid : id ∈ state.territories.keys)
    {moves : List TacticalMove} (h : rescueMoves state team multiplier id = some moves) :
    MovesOk state team moves := by
  unfold rescueMoves at h
  dsimp only at h
  split at h
  · cases h
  · split at h
    · split at h
      · cases h
      · obtain ⟨k, rfl⟩ := rescueLoop_some h
        exact movesOk_of_sublist hids hid
          ((List.take_sublist _ _).trans List.filter_sublist)
    · cases h

theorem captureMoves_ok {state : GameState} (hids : AllTowers (fun id t => t.id = id) state)
    {team : Team} {multiplier : ℚ} {id : String} (hid : id ∈ state.territories.keys)
    {attack : ℤ × List TacticalMove} (h : captureMoves state team multiplier id = some attack) :
    MovesOk state team attack.2 := by
  unfold captureMoves at h
  dsimp only at h
  split at h
  · cases h
  · split at h
    · cases h
    · split at h
      · cases h
      · obtain ⟨k, hk⟩ := captureLoop_some h
        rw [hk]
        exact movesOk_of_sublist hids hid (List.take_sublist _ _)

theorem supplyMove_ok {state : GameState} (hids : AllTowers (fun id t => t.id = id) state)
    {team : Team} {multiplier : ℚ} {id : String} (hid : id ∈ state.territories.keys)
    {moves : List TacticalMove} (h : supplyMove state team multiplier id = some moves) :
    MovesOk state team moves := by
  unfold supplyMove at h
  dsimp only at h
  split at h
  · cases h
  · split at h
    · cases h
    · obtain ⟨c, hc, rfl⟩ := Option.map_eq_some_iff.mp h
      have hsub : [c].Sublist _ := List.singleton_sublist.mpr (List.mem_of_find?_eq_some hc)
      exact movesOk_of_sublist hids hid hsub

/-- **The tactical policy plays legal moves** from different towers. -/
theorem evaluateTacticalMoves_ok {state : GameState}
    (hids : AllTowers (fun id t => t.id = id) state) (team : Team) (multiplier : ℚ) :
    MovesOk state team (evaluateTacticalMoves state team multiplier) := by
  have hnone : MovesOk state team [] := ⟨List.nodup_nil, fun _ h => absurd h List.not_mem_nil⟩
  have hkey : ∀ id ∈ sortedIds state, id ∈ state.territories.keys := fun id h => mem_sortBy.mp h
  unfold evaluateTacticalMoves
  split
  · exact hnone
  dsimp only
  split
  · next moves h =>
    obtain ⟨id, hid, hm⟩ := List.exists_of_findSome?_eq_some h
    exact rescueMoves_ok hids (hkey id hid) hm
  have hbest : ∀ best : ℤ × List TacticalMove,
      (sortedIds state).foldl (fun best id =>
        keepBest best (captureMoves state team multiplier id)) none = some best →
          MovesOk state team best.2 := by
    refine foldl_preserves (P := fun b : Option (ℤ × List TacticalMove) =>
      ∀ best, b = some best → MovesOk state team best.2) ?_ (fun _ h => by cases h)
    intro b id hid ih best h
    unfold keepBest at h
    split at h
    · exact ih best h
    · next hc => cases h; exact captureMoves_ok hids (hkey id hid) hc
    · next hc =>
      split at h
      · cases h; exact captureMoves_ok hids (hkey id hid) hc
      · exact ih best h
  split
  · next heq => exact hbest _ heq
  · cases hs : (sortedIds state).findSome? (supplyMove state team multiplier) with
    | none => exact hnone
    | some moves =>
      obtain ⟨id, hid, hm⟩ := List.exists_of_findSome?_eq_some hs
      exact supplyMove_ok hids (hkey id hid) hm

end CrownClash.Go
