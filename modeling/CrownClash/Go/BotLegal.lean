import CrownClash.Go.BattleRun
import CrownClash.Go.BotRun
import Mathlib.Logic.Relation

/-!
# Server: the bot never plays an illegal move

`BotPlay` is what a battle against the bot can be: it starts on a shipped map, the
clock moves, and both sides send armies and spend abilities as they like.  In every
state of it the bot's choice of an ability is one that is applied, and the moves of
its policy go out one after the other (`CanSend`): the state in which a move is sent
is not the one in which it was chosen.
-/

namespace CrownClash.Go

open Lib

variable [MathLib]

/-- What can happen in a battle: the clock moves by one of its steps, and while the match
runs a side sends an army or spends its ability. -/
inductive BotTurn (steps : ℚ → Prop) : GameState × Accumulators → GameState × Accumulators → Prop
  | step (p : GameState × Accumulators) {delta : ℚ} (hδ : steps delta) :
    BotTurn steps p (stepSimulation p.1 p.2 delta)
  | dispatch {p : GameState × Accumulators} {state : GameState} {sourceId targetId : String}
    {owner : Team} {multiplier : ℚ} {id : String} (ho : owner ≠ .neutral)
    (hplaying : p.1.status = .playing)
    (hd : dispatchArmy p.1 sourceId targetId owner multiplier id = .ok state) :
    BotTurn steps p (state, p.2)
  | ability {p : GameState × Accumulators} {state : GameState} {team : Team}
    {commander : Option CommanderId} {sourceId targetId : String} {multiplier : ℚ} {id : String}
    (hteam : team ≠ .neutral)
    (ha : applyTeamAbility p.1 team commander sourceId targetId multiplier id = some state) :
    BotTurn steps p (state, p.2)

/-- What the turns of a battle lead to. -/
abbrev BotTurns (steps : ℚ → Prop) :
    GameState × Accumulators → GameState × Accumulators → Prop :=
  Relation.ReflTransGen (BotTurn steps)

/-- The states of the battles of a match. -/
def BotPlay (steps : ℚ → Prop) (m : BotMatch) (p : GameState × Accumulators) : Prop :=
  ∃ r, initialReplay m = .ok r ∧ BotTurns steps (r.state, r.accumulators) p

/-- What every turn keeps, the whole battle keeps. -/
theorem BotTurns.preserves {steps : ℚ → Prop} {P : GameState × Accumulators → Prop}
    (hstep : ∀ p p', BotTurn steps p p' → P p → P p') {p p' : GameState × Accumulators}
    (h : BotTurns steps p p') (hp : P p) : P p' := by
  induction h with
  | refl => exact hp
  | tail _ hturn ih => exact hstep _ _ hturn ih

theorem BotTurn.ok {steps : ℚ → Prop} (hsteps : ∀ delta, steps delta → 0 ≤ delta)
    {p p' : GameState × Accumulators} (h : BotTurn steps p p') (hp : BattleOk p.1 ∧ UnitsOk p.1) :
    BattleOk p'.1 ∧ UnitsOk p'.1 := by
  cases h with
  | @step delta hδ =>
    exact ⟨stepSimulation_ok hp.1 (hsteps delta hδ),
      towerRule_units.stepSimulation p.2 hp.1 (hsteps delta hδ) hp.2⟩
  | dispatch ho _ hd =>
    exact ⟨dispatchArmyWithRatio_battleOk hp.1 ho hd, dispatchArmy_unitsOk hp.2 ho hd⟩
  | ability hteam ha =>
    obtain ⟨hok, hu, -⟩ := applyTeamAbility_ok hteam ha hp.1 hp.2
    exact ⟨hok, hu⟩

theorem BotPlay.ok {steps : ℚ → Prop} (hsteps : ∀ delta, steps delta → 0 ≤ delta) {m : BotMatch}
    {b : BattlefieldDefinition} (hb : b ∈ battlefields) (hmode : b.mode = .oneVOne)
    (hm : m.battlefieldId = b.id) (hp : ModifiersOk m.player) (he : ModifiersOk m.enemy)
    {p : GameState × Accumulators} (h : BotPlay steps m p) : BattleOk p.1 ∧ UnitsOk p.1 := by
  obtain ⟨r, hr, hturns⟩ := h
  obtain ⟨r', hr', hok⟩ := initialReplay_ok hb hmode hm hp he
  rw [hr] at hr'
  cases hr'
  exact hturns.preserves (fun _ _ hturn => hturn.ok hsteps) ⟨hok.ok, hok.units⟩

/-! ### Sending moves one after the other -/

/-- A move that leaves from an own tower, along a legal route, with at least one unit. -/
structure LegalMove (state : GameState) (team : Team) (move : TacticalMove) : Prop where
  source : ∃ s, state.territories.get? move.fromId = some s ∧ s.owner = team ∧
    1 ≤ calculateDispatchUnits s.units
  route : ∃ route, findDispatchRoute state move.fromId move.toId team = some route ∧
    (usesTacticalRules state.gameplayRulesVersion = true →
      OpenPath (battlefieldRoads state.battlefieldId) state team move.fromId move.toId route) ∧
    (usesTacticalRules state.gameplayRulesVersion = false → route = [move.fromId, move.toId])

/-- The moves are legal one after the other, each in the state that the ones before it
leave, and none of them is refused, whatever the armies are called. -/
inductive CanSend (team : Team) (multiplier : ℚ) : GameState → List TacticalMove → Prop
  | nil (state : GameState) : CanSend team multiplier state []
  | cons {state : GameState} {move : TacticalMove} {moves : List TacticalMove}
    (hlegal : LegalMove state team move) (sent : String → GameState)
    (hsent : ∀ id, dispatchArmy state move.fromId move.toId team multiplier id = .ok (sent id))
    (hrest : ∀ id, CanSend team multiplier (sent id) moves) :
    CanSend team multiplier state (move :: moves)

theorem MoveOk.legal {state : GameState} {team : Team} {move : TacticalMove}
    (h : MoveOk state team move) : LegalMove state team move := by
  obtain ⟨source, hs, ho, hunits⟩ := h.source
  obtain ⟨target, ht⟩ := h.target
  obtain ⟨route, hr⟩ := h.route
  constructor
  · refine ⟨source, hs, ho, ?_⟩
    unfold calculateDispatchUnits calculateDispatchUnitsWithRatio
    rw [if_neg (by omega)]
    exact le_max_left _ _
  · refine ⟨route, hr, fun hrules => ?_, fun hrules => ?_⟩
    · rw [findDispatchRoute_on] at hr
      exact ((findDispatchRouteOn_correct _ hrules ⟨source, hs, ho⟩ ht h.ne).route route hr).1
    · unfold findDispatchRoute at hr
      simp only [hs, ht] at hr
      rw [if_neg (not_or.mpr ⟨h.ne, not_not.mpr ho⟩), if_pos hrules] at hr
      exact (Option.some.inj hr).symm

/-- **Legal moves from different towers go out one after the other.** -/
theorem MovesOk.canSend {team : Team} (hteam : team ≠ .neutral) (multiplier : ℚ) :
    ∀ {moves : List TacticalMove} {state : GameState}, MovesOk state team moves →
      CanSend team multiplier state moves := by
  intro moves
  induction moves with
  | nil => intro state _; exact CanSend.nil state
  | cons move moves ih =>
    intro state h
    have hmove := h.legal move List.mem_cons_self
    choose sent hsent using fun id => hmove.dispatch multiplier id
    refine CanSend.cons hmove.legal sent hsent fun id => ih ?_
    obtain ⟨hmap, hother⟩ := dispatchArmy_sameMap hteam (hsent id)
    exact h.tail hmap fun id' hne => (congrArg Territory.units (hother id' hne)).ge

/-! ### The ability -/

omit [MathLib] in
theorem territory_of_mem {state : GameState} (h : BattleOk state) {id : String}
    (hid : id ∈ sortedIds state) :
    (state.territory id).id = id ∧ state.territories.get? id = some (state.territory id) := by
  obtain ⟨t, ht⟩ := Record.exists_get?_of_mem_keys (mem_sortBy.mp hid)
  have hterr : state.territory id = t := by
    rw [GameState.territory, Record.getD, ht, Option.getD_some]
  rw [hterr]
  exact ⟨h.ids id t ht, ht⟩

theorem threatened_owned {state : GameState} (h : BattleOk state) {team : Team}
    {t : ThreatenedTower} (ht : t ∈ threatenedTowers state team) :
    Owned state team t.tower.id := by
  obtain ⟨id, hid, hthreat⟩ := List.mem_filterMap.mp ht
  obtain ⟨hkey, hget⟩ := territory_of_mem h hid
  unfold threatenedTower at hthreat
  dsimp only at hthreat
  split at hthreat
  · cases hthreat
  · next ho =>
    have htower : t.tower = state.territory id := by
      split at hthreat
      · split at hthreat
        · cases hthreat
        · cases hthreat
          rfl
      · cases hthreat
    rw [htower, hkey]
    exact ⟨_, hget, not_not.mp ho⟩

/-- What a chosen ability is: the shield or the supplies for an own tower, or the charge
in the place of the first move. -/
theorem chooseBotAbility_some {state : GameState} (h : BattleOk state) {team : Team}
    {commander : Option CommanderId} {moves : List TacticalMove} (hmoves : MovesOk state team moves)
    {choice : BotAbilityChoice}
    (hc : chooseBotAbility state team commander moves = some choice) :
    ∃ c, commander = some c ∧
      ¬ (hasCommanderAbilities state.gameplayRulesVersion = false ∨ state.status ≠ .playing ∨
        abilityUsed state team = true) ∧
      ¬ state.elapsedTimeSeconds + 1 / 10 ^ 9 < abilityUnlockSeconds ∧
      ((commanderAbility c = .vanguardCharge ∧
          MoveOk state team ⟨choice.sourceId, choice.targetId⟩) ∨
        commanderAbility c ≠ .vanguardCharge ∧ choice.targetId = choice.sourceId ∧
          Owned state team choice.sourceId) := by
  unfold chooseBotAbility at hc
  cases commander with
  | none => cases hc
  | some c =>
    dsimp only at hc
    split at hc
    · cases hc
    next hready =>
    split at hc
    · cases hc
    next hunused =>
    obtain ⟨hrules, hplaying⟩ := not_or.mp hready
    obtain ⟨hused, htime⟩ := not_or.mp hunused
    refine ⟨c, rfl, not_or.mpr ⟨hrules, not_or.mpr ⟨hplaying, hused⟩⟩, htime, ?_⟩
    have hfirst : ∀ move ∈ moves, Owned state team move.fromId := by
      intro move hmove
      obtain ⟨s, hs, ho, -⟩ := (hmoves.legal move hmove).source
      exact ⟨s, hs, ho⟩
    cases hability : commanderAbility c with
    | vanguardCharge =>
      rw [hability] at hc
      cases moves with
      | nil => cases hc
      | cons move rest =>
        cases hc
        exact Or.inl ⟨rfl, hmoves.legal move List.mem_cons_self⟩
    | royalShield =>
      rw [hability] at hc
      dsimp only at hc
      cases hsaved : savedTowers state team with
      | nil =>
        rw [hsaved] at hc
        cases hc
      | cons t rest =>
        rw [hsaved] at hc
        cases hc
        have ht : t ∈ savedTowers state team := hsaved ▸ List.mem_cons_self
        exact Or.inr ⟨by decide, rfl,
          threatened_owned h (List.mem_of_mem_filter (mem_sortBy.mp ht))⟩
    | supplyDrop =>
      rw [hability] at hc
      dsimp only at hc
      cases hrescued : rescuedTowers state team with
      | nil =>
        rw [hrescued] at hc
        cases moves with
        | nil => cases hc
        | cons move rest =>
          cases hc
          exact Or.inr ⟨by decide, rfl, hfirst move List.mem_cons_self⟩
      | cons t rest =>
        rw [hrescued] at hc
        cases hc
        have ht : t ∈ rescuedTowers state team := hrescued ▸ List.mem_cons_self
        exact Or.inr ⟨by decide, rfl,
          threatened_owned h (List.mem_of_mem_filter (mem_sortBy.mp ht))⟩

/-- **The bot's choice of an ability is applied.** -/
theorem chooseBotAbility_applies {state : GameState} (h : BattleOk state) {team : Team}
    {commander : Option CommanderId} {moves : List TacticalMove} (hmoves : MovesOk state team moves)
    {choice : BotAbilityChoice}
    (hc : chooseBotAbility state team commander moves = some choice) (multiplier : ℚ)
    (armyId : String) :
    ∃ state', applyTeamAbility state team commander choice.sourceId choice.targetId multiplier
      armyId = some state' := by
  obtain ⟨c, rfl, hready, htime, hcase⟩ := chooseBotAbility_some h hmoves hc
  unfold applyTeamAbility
  rw [if_neg hready, if_neg htime]
  dsimp only
  rcases hcase with ⟨hability, hmove⟩ | ⟨hability, htarget, s, hs, ho⟩
  · obtain ⟨s, hs, ho, -⟩ := hmove.source
    obtain ⟨sent, hsent⟩ := hmove.dispatch (multiplier * abilityChargeSpeedMultiplier) armyId
    unfold dispatchArmy at hsent
    dsimp only at hs hsent
    rw [hs, hability]
    dsimp only
    rw [if_neg (not_not.mpr ho), if_neg hmove.ne.symm, hsent]
    exact ⟨_, rfl⟩
  · rw [hs]
    dsimp only
    rw [if_neg (not_not.mpr ho)]
    cases hkind : commanderAbility c with
    | vanguardCharge => exact absurd hkind hability
    | royalShield =>
      dsimp only
      rw [if_neg (not_not.mpr htarget)]
      exact ⟨_, rfl⟩
    | supplyDrop =>
      dsimp only
      rw [if_neg (not_not.mpr htarget)]
      exact ⟨_, rfl⟩

/-- **The tactical bot never plays an illegal move**: its moves go out one after the
other, and if it chooses an ability, the ability is applied and the moves that are left
go out after it. -/
theorem evaluateTacticalMoves_legal {state : GameState} (h : BattleOk state)
    (_ : UnitsOk state) {team : Team} (hteam : team ≠ .neutral)
    (commander : Option CommanderId) (multiplier : ℚ) :
    CanSend team multiplier state (evaluateTacticalMoves state team multiplier) ∧
    ∀ choice, chooseBotAbility state team commander (evaluateTacticalMoves state team multiplier)
        = some choice → ∀ armyId, ∃ state',
      applyTeamAbility state team commander choice.sourceId choice.targetId multiplier armyId
        = some state' ∧ CanSend team multiplier state' choice.moves := by
  have hmoves := evaluateTacticalMoves_ok h.ids team multiplier
  refine ⟨hmoves.canSend hteam multiplier, fun choice hc armyId => ?_⟩
  obtain ⟨state', ha⟩ := chooseBotAbility_applies h hmoves hc multiplier armyId
  exact ⟨state', ha, (hmoves.afterAbility hteam hc ha h).canSend hteam multiplier⟩

/-- **The older bot never plays an illegal move.** -/
theorem evaluateAIMove_legal {state : GameState} (h : BattleOk state)
    (hrules : usesTacticalRules state.gameplayRulesVersion = false) (multiplier : ℚ)
    {move : String × String} (hm : evaluateAIMove state = some move) :
    CanSend .enemy multiplier state [⟨move.1, move.2⟩] := by
  have hmoves : MovesOk state .enemy [⟨move.1, move.2⟩] := by
    refine ⟨List.nodup_singleton _, fun mv hmv => ?_⟩
    rw [List.mem_singleton.mp hmv]
    exact evaluateAIMove_ok h hrules hm
  exact hmoves.canSend enemy_ne_neutral multiplier

end CrownClash.Go
