import CrownClash.Go.BotDecided
import CrownClash.Parity.Abilities

/-!
# The two engines agree on a match against the bot

The two replays are run in lockstep: `Twin` says that they hold the same state,
clock and counters, and accumulators that read the same.  Every operation of the
replay keeps `Twin` (`stepTo_twin`, `executeAiAction_twin`, `aiUntil_twin`,
`playActions_twin`), and so the replays end alike.

Two places need more than the lockstep.  The client throws when a dispatch of
its own bot is refused, where the server drops it; the bot's moves are legal, so
nothing is ever refused.  And the client steps once more at the end if the match
still runs; at the time limit it never does (`stepTo_limit`).
-/

namespace CrownClash.Parity

open Lib

/-- What the client replays a match with. -/
def optionsOf (m : Go.BotMatch) : Ts.PvpSimulationOptions where
  playerModifiers := m.player
  enemyModifiers := m.enemy
  battlefieldId := m.battlefieldId
  gameplayRulesVersion := m.rulesVersion
  botDifficulty := m.difficulty
  commanderId := m.commander

structure Twin (m : Go.BotMatch) (t : Ts.Replay) (g : Go.BotReplay) : Prop where
  ok : Go.ReplayOk m g
  state : t.state = g.state
  accumulators : AccEq (Go.territoryOrderForBattlefield m.battlefieldId) t.accumulators
    g.accumulators
  currentTime : t.currentTime = g.currentTime
  currentTick : t.currentTick = g.currentTick
  nextAiTick : t.nextAiTick = g.nextAITick
  aiActionIndex : t.aiActionIndex = g.aiActionIndex
  actionIndex : t.actionIndex = g.actionsProcessed

theorem currentRules_eq (version : ℤ) :
    Ts.currentRules version = Go.hasCaptureRecovery version := by
  rw [Bool.eq_iff_iff]
  simp only [Ts.currentRules, Ts.usesTacticalRules, Go.hasCaptureRecovery, Bool.or_eq_true,
    Bool.and_eq_true, beq_iff_eq, decide_eq_true_eq]
  omega

theorem getBotAiTickSeconds_eq (d : BotDifficulty) :
    Ts.getBotAiTickSeconds d = Go.botAiTickSeconds d := by
  cases d <;> rfl

theorem botCommander_eq (d : BotDifficulty) : Ts.botCommander d = Go.botCommanderId d := by
  cases d <;> rfl

theorem clockEpsilon_eq (m : Go.BotMatch) :
    Ts.clockEpsilon (optionsOf m) = Go.clockEpsilon m := by
  unfold Ts.clockEpsilon Go.clockEpsilon optionsOf
  rw [currentRules_eq]

theorem Twin.playing {m : Go.BotMatch} {t : Ts.Replay} {g : Go.BotReplay} (h : Twin m t g) :
    t.playing = g.playing := by
  rw [Ts.Replay.playing, Go.BotReplay.playing, h.state]

theorem Twin.keys {m : Go.BotMatch} {t : Ts.Replay} {g : Go.BotReplay} (h : Twin m t g) :
    g.state.territories.keys = Go.territoryOrderForBattlefield m.battlefieldId := by
  rw [h.ok.ok.keys, h.ok.battlefieldId]

/-! ### The policy of the older rules -/

section Policy

variable [MathLib]

/-- A best move of the client in the server's words. -/
def bestOf (b : ℚ × Ts.AiMove) : ℚ × String × String := (b.1, b.2.fromId, b.2.toId)

theorem scoreAiDispatch_eq (source target : Territory) :
    Ts.scoreAiDispatch source target .enemy
      = Go.aiScore source target (Go.calculateDispatchUnits source.units) := by
  have hunits : Ts.calculateDispatchUnits source.units 0.5
      = Go.calculateDispatchUnits source.units := rfl
  have hdef : Ts.getTerritoryDefenseStrength target 1 = Go.territoryDefenseStrength target :=
    getTerritoryDefenseStrength_eq target 1
  unfold Ts.scoreAiDispatch Go.aiScore
  dsimp only
  rw [hunits, hdef]
  cases target.owner with
  | player => rfl
  | enemy => rfl
  | neutral => rfl

theorem considerTarget_eq (state : GameState) (source : Territory) (best : Ts.BestMove)
    (id : String) :
    (if (state.territory id).id ≠ source.id then
      Ts.considerTarget .enemy source best (state.territory id) else best).map bestOf
      = Go.considerTarget state source (best.map bestOf) id := by
  unfold Go.considerTarget Ts.considerTarget
  dsimp only
  by_cases hne : (state.territory id).id = source.id
  · rw [if_pos hne, if_neg (not_not.mpr hne)]
  rw [if_neg hne, if_pos hne, scoreAiDispatch_eq]
  cases best with
  | none => rfl
  | some b =>
    dsimp only [Option.map_some]
    by_cases hs : Go.aiScore source (state.territory id)
        (Go.calculateDispatchUnits source.units) > b.1
    · rw [if_pos hs, if_pos (show _ > (bestOf b).1 from hs)]
      rfl
    · rw [if_neg hs, if_neg (show ¬ _ > (bestOf b).1 from hs)]
      rfl

theorem considerSource_eq {state : GameState} (h : Go.BattleOk state) (best : Ts.BestMove)
    (id : String) :
    (if (state.territory id).owner = .enemy ∧ (state.territory id).units ≥ 8 then
      Ts.considerSource state.territories.values .enemy best (state.territory id)
        else best).map bestOf
      = Go.considerSource state (best.map bestOf) id := by
  unfold Go.considerSource Ts.considerSource
  dsimp only
  by_cases hready : (state.territory id).owner = .enemy ∧ (state.territory id).units ≥ 8
  · have hn : ¬ ((state.territory id).owner ≠ .enemy ∨ (state.territory id).units < 8) :=
      not_or.mpr ⟨not_not.mpr hready.1, not_lt.mpr hready.2⟩
    have hunits : Ts.calculateDispatchUnits (state.territory id).units 0.5
        = Go.calculateDispatchUnits (state.territory id).units := rfl
    rw [if_pos hready, if_neg hn, hunits]
    by_cases hu : Go.calculateDispatchUnits (state.territory id).units ≤ 0
    · rw [if_pos hu, if_pos hu]
    rw [if_neg hu, if_neg hu, Go.values_eq_map h.keys, List.foldl_filter, List.foldl_map]
    refine foldl_lockstep (R := fun (s : Ts.BestMove) (t : Go.BestMove) => s.map bestOf = t)
      ?_ rfl
    intro s t targetId _ hst
    rw [← hst, ← considerTarget_eq]
    simp only [decide_eq_true_eq]
  · have hn : (state.territory id).owner ≠ .enemy ∨ (state.territory id).units < 8 := by
      by_contra hc
      rw [not_or, not_not, not_lt] at hc
      exact hready hc
    rw [if_neg hready, if_pos hn]

/-- **Both engines play the same move** by the older policy. -/
theorem evaluateAiMove_eq {state : GameState} (h : Go.BattleOk state) :
    (Ts.evaluateAiMove state.territories .enemy 8).map (fun m => (m.fromId, m.toId))
      = Go.evaluateAIMove state := by
  have hfold : (((state.territories.values.filter fun t => t.owner = .enemy).filter
      fun t => t.units ≥ 8).foldl (Ts.considerSource state.territories.values .enemy) none).map
        bestOf
      = (Go.territoryOrderForBattlefield state.battlefieldId).foldl (Go.considerSource state)
          none := by
    rw [List.filter_filter, List.foldl_filter]
    nth_rewrite 2 [Go.values_eq_map h.keys]
    rw [List.foldl_map]
    refine foldl_lockstep (R := fun (s : Ts.BestMove) (t : Go.BestMove) => s.map bestOf = t)
      ?_ rfl
    intro s t id _ hst
    rw [← hst, ← considerSource_eq h]
    simp only [Bool.and_eq_true, decide_eq_true_eq, and_comm]
  unfold Ts.evaluateAiMove Go.evaluateAIMove
  rw [← hfold]
  dsimp only
  generalize (((state.territories.values.filter fun t => t.owner = .enemy).filter
    fun t => t.units ≥ 8).foldl (Ts.considerSource state.territories.values .enemy) none) = best
  cases best with
  | none => rfl
  | some b =>
    dsimp only [Option.map_some, bestOf]
    have he : Ts.aiScoreEpsilon = Go.aiScoreEpsilon := rfl
    rw [he]
    split <;> rfl

end Policy

/-! ### The clock -/

section Replay

variable [MathLib]

/-- **One step keeps the replays together.** -/
theorem Twin.step {m : Go.BotMatch} {t : Ts.Replay} {g : Go.BotReplay} (h : Twin m t g)
    {delta : ℚ} (hδ : 0 ≤ delta) :
    (t.step delta).state = (g.step delta).state ∧
      AccEq (Go.territoryOrderForBattlefield m.battlefieldId) (t.step delta).accumulators
        (g.step delta).accumulators := by
  have hs := stepSimulation_eq h.ok.ok hδ (a := t.accumulators) (b := g.accumulators)
    (h.keys ▸ h.accumulators)
  unfold Ts.Replay.step Go.BotReplay.step
  dsimp only
  rw [h.state, ← h.keys]
  exact hs

theorem Twin.tick {m : Go.BotMatch} {t : Ts.Replay} {g : Go.BotReplay} (h : Twin m t g) :
    Twin m { t.step Ts.pvpSimulationTickSeconds with currentTick := t.currentTick + 1 }
      { g.step Go.pvpSimulationTick with currentTick := g.currentTick + 1 } := by
  obtain ⟨hs, ha⟩ := h.step Go.pvpSimulationTick_pos.le
  exact
    { ok := h.ok.tick
      state := hs
      accumulators := ha
      currentTime := h.currentTime
      currentTick := congrArg (· + 1) h.currentTick
      nextAiTick := h.nextAiTick
      aiActionIndex := h.aiActionIndex
      actionIndex := h.actionIndex }

theorem Twin.stepTime {m : Go.BotMatch} {t : Ts.Replay} {g : Go.BotReplay} (h : Twin m t g)
    (hv : Go.hasCaptureRecovery m.rulesVersion = false) {delta time time' : ℚ} (hδ : 0 ≤ delta)
    (ht : time = time') :
    Twin m { t.step delta with currentTime := time } { g.step delta with currentTime := time' } := by
  obtain ⟨hs, ha⟩ := h.step hδ
  exact
    { ok := (h.ok.step hδ hv).congr rfl rfl
      state := hs
      accumulators := ha
      currentTime := ht
      currentTick := h.currentTick
      nextAiTick := h.nextAiTick
      aiActionIndex := h.aiActionIndex
      actionIndex := h.actionIndex }

/-- A step that is taken only when some time is left. -/
theorem Twin.stepIf {m : Go.BotMatch} {t : Ts.Replay} {g : Go.BotReplay} (h : Twin m t g)
    (hv : Go.hasCaptureRecovery m.rulesVersion = false) {delta delta' : ℚ} (hd : delta = delta') :
    Twin m (if t.playing && delta > 0 then t.step delta else t)
      (if g.playing && delta' > 0 then g.step delta' else g) := by
  rw [h.playing, hd]
  by_cases hc : (g.playing && delta' > 0) = true
  · rw [if_pos hc, if_pos hc]
    exact h.stepTime hv (of_decide_eq_true (Bool.and_eq_true_iff.mp hc).2).le h.currentTime
  · rw [if_neg hc, if_neg hc]
    exact h

/-- **Both clocks stop together.** -/
theorem stepTo_twin {m : Go.BotMatch} {t : Ts.Replay} {g : Go.BotReplay} (h : Twin m t g)
    {timestamp timestamp' : ℚ} (hts : timestamp = timestamp') :
    Twin m (Ts.stepTo (optionsOf m) timestamp t) (Go.stepTo m timestamp' g) := by
  subst hts
  unfold Ts.stepTo Go.stepTo
  have hrules : Ts.currentRules (optionsOf m).gameplayRulesVersion
      = Go.hasCaptureRecovery m.rulesVersion := currentRules_eq m.rulesVersion
  rw [hrules]
  by_cases hv : Go.hasCaptureRecovery m.rulesVersion = true
  · rw [if_pos hv, if_pos hv]
    unfold Ts.stepToTick Go.stepToTick
    dsimp only
    rw [h.currentTick]
    have hloop := whileLoop_lockstep (R := Twin m)
      (c := fun r : Ts.Replay => r.playing &&
        r.currentTick < ⌊timestamp / Ts.pvpSimulationTickSeconds + 1 / 10 ^ 9⌋)
      (f := fun r => { r.step Ts.pvpSimulationTickSeconds with currentTick := r.currentTick + 1 })
      (d := fun r : Go.BotReplay => r.playing &&
        r.currentTick < ⌊timestamp / Go.pvpSimulationTick + 1 / 10 ^ 9⌋)
      (g := fun r => { r.step Go.pvpSimulationTick with currentTick := r.currentTick + 1 })
      (fun t g hr => by rw [hr.playing, hr.currentTick]; rfl) (fun t g _ hr => hr.tick)
      (⌊timestamp / Go.pvpSimulationTick + 1 / 10 ^ 9⌋ - g.currentTick).toNat h
    exact
      { ok := hloop.ok.congr rfl rfl
        state := hloop.state
        accumulators := hloop.accumulators
        currentTime := by
          change (_ : ℚ) * Ts.pvpSimulationTickSeconds = _ * Go.pvpSimulationTick
          exact congrArg (fun k : ℤ => (k : ℚ) * Go.pvpSimulationTick) hloop.currentTick
        currentTick := hloop.currentTick
        nextAiTick := hloop.nextAiTick
        aiActionIndex := hloop.aiActionIndex
        actionIndex := hloop.actionIndex }
  · rw [if_neg hv, if_neg hv]
    have hv' := Bool.eq_false_iff.mpr hv
    unfold Ts.stepToTime Go.stepToTime
    dsimp only
    rw [h.currentTime]
    have hloop := whileLoop_lockstep (R := Twin m)
      (c := fun r : Ts.Replay => r.playing &&
        r.currentTime + Ts.pvpSimulationTickSeconds ≤ timestamp + 1 / 10 ^ 9)
      (f := fun r => { r.step Ts.pvpSimulationTickSeconds with
        currentTime := r.currentTime + Ts.pvpSimulationTickSeconds })
      (d := fun r : Go.BotReplay => r.playing &&
        r.currentTime + Go.pvpSimulationTick ≤ timestamp + 1 / 10 ^ 9)
      (g := fun r => { r.step Go.pvpSimulationTick with
        currentTime := r.currentTime + Go.pvpSimulationTick })
      (fun t g hr => by rw [hr.playing, hr.currentTime]; rfl)
      (fun t g _ hr => hr.stepTime hv' Go.pvpSimulationTick_pos.le
        (congrArg (· + Go.pvpSimulationTick) hr.currentTime))
      ⌊(timestamp + 1 / 10 ^ 9 - g.currentTime) / Go.pvpSimulationTick⌋.toNat h
    have h1 := hloop.stepIf hv' (congrArg (timestamp - ·) hloop.currentTime)
    have h2 := h1.stepIf hv' (congrArg (fun s : GameState => timestamp - s.elapsedTimeSeconds)
      h1.state)
    exact
      { ok := h2.ok.congr rfl rfl
        state := h2.state
        accumulators := h2.accumulators
        currentTime := rfl
        currentTick := h2.currentTick
        nextAiTick := h2.nextAiTick
        aiActionIndex := h2.aiActionIndex
        actionIndex := h2.actionIndex }

/-! ### The bot -/

/-- A dispatch of the bot that is not refused. -/
theorem botDispatch_twin {m : Go.BotMatch} {t : Ts.Replay} {g : Go.BotReplay} (h : Twin m t g)
    (move : Ts.AiMove) (hm : Go.MoveOk g.state .enemy (moveOf move)) :
    ∃ t', Ts.botDispatch (optionsOf m) t move = .ok t' ∧
      Twin m t' (Go.dispatchMove m g (moveOf move)) ∧
        Go.dispatchArmy g.state move.fromId move.toId .enemy m.enemy.armySpeedMultiplier
          (Go.aiArmyId g.aiActionIndex) = .ok (Go.dispatchMove m g (moveOf move)).state := by
  obtain ⟨state, hd⟩ := hm.dispatch m.enemy.armySpeedMultiplier (Go.aiArmyId g.aiActionIndex)
  have hgo : Go.dispatchMove m g (moveOf move)
      = { g with state := state, aiActionIndex := g.aiActionIndex + 1 } := by
    unfold Go.dispatchMove
    rw [hd]
  have hts := dispatchFromState_eq h.ok.ok Go.enemy_ne_neutral move.fromId move.toId
    m.enemy.armySpeedMultiplier (Go.aiArmyId g.aiActionIndex)
  have hd' : Go.dispatchArmy g.state move.fromId move.toId .enemy m.enemy.armySpeedMultiplier
      (Go.aiArmyId g.aiActionIndex) = .ok state := hd
  rw [hd'] at hts
  cases hf : Ts.dispatchFromState g.state move.fromId move.toId .enemy
      m.enemy.armySpeedMultiplier (Go.aiArmyId g.aiActionIndex) with
  | error e => rw [hf] at hts; cases hts
  | ok s =>
    rw [hf] at hts
    cases Option.some.inj hts
    refine ⟨{ t with state := state, aiActionIndex := t.aiActionIndex + 1 }, ?_, ?_, ?_⟩
    · unfold Ts.botDispatch
      have he : Ts.aiArmyId t.aiActionIndex = Go.aiArmyId g.aiActionIndex := by
        rw [h.aiActionIndex]
        rfl
      have ho : (optionsOf m).enemyModifiers = m.enemy := rfl
      rw [h.state, he, ho, hf]
    · rw [hgo]
      exact
        { ok := h.ok.dispatched Go.enemy_ne_neutral hd rfl
          state := rfl
          accumulators := h.accumulators
          currentTime := h.currentTime
          currentTick := h.currentTick
          nextAiTick := h.nextAiTick
          aiActionIndex := congrArg (· + 1) h.aiActionIndex
          actionIndex := h.actionIndex }
    · rw [hgo]
      exact hd

/-- **Nothing the bot dispatches is refused.** -/
theorem foldlM_botDispatch_twin {m : Go.BotMatch} : ∀ {moves : List Ts.AiMove} {t : Ts.Replay}
    {g : Go.BotReplay}, Twin m t g → Go.MovesOk g.state .enemy (moves.map moveOf) →
      ∃ t', moves.foldlM (Ts.botDispatch (optionsOf m)) t = .ok t' ∧
        Twin m t' ((moves.map moveOf).foldl (Go.dispatchMove m) g) := by
  intro moves
  induction moves with
  | nil => intro t g h _; exact ⟨t, rfl, h⟩
  | cons move moves ih =>
    intro t g h hm
    rw [List.map_cons] at hm
    obtain ⟨t1, he, h1, hd⟩ := botDispatch_twin h move (hm.legal _ List.mem_cons_self)
    obtain ⟨hmap, hrest⟩ := Go.dispatchArmy_sameMap Go.enemy_ne_neutral hd
    have htail := hm.tail hmap fun id hne => (congrArg Territory.units (hrest id hne)).ge
    obtain ⟨t', hok, h'⟩ := ih h1 htail
    refine ⟨t', ?_, h'⟩
    rw [List.foldlM_cons, he]
    exact hok

/-- The bot's ability leaves both replays together and the moves legal. -/
theorem spendAbility_twin {m : Go.BotMatch} {t : Ts.Replay} {g : Go.BotReplay} (h : Twin m t g)
    {moves : List Ts.AiMove} (hm : Go.MovesOk g.state .enemy (moves.map moveOf)) :
    Twin m (Ts.spendAbility (optionsOf m) t moves).1
        (Go.spendAbility m g (moves.map moveOf)).1 ∧
      (Ts.spendAbility (optionsOf m) t moves).2.map moveOf
        = (Go.spendAbility m g (moves.map moveOf)).2 ∧
      Go.MovesOk (Go.spendAbility m g (moves.map moveOf)).1.state .enemy
        (Go.spendAbility m g (moves.map moveOf)).2 := by
  unfold Ts.spendAbility Go.spendAbility
  have hd : (optionsOf m).botDifficulty = m.difficulty := rfl
  have ho : (optionsOf m).enemyModifiers = m.enemy := rfl
  have he : Ts.aiArmyId t.aiActionIndex = Go.aiArmyId g.aiActionIndex := by
    rw [h.aiActionIndex]
    rfl
  rw [hd, ho, he, h.state, botCommander_eq]
  dsimp only
  rw [← chooseBotAbility_eq h.ok.ok]
  cases hc : Ts.chooseBotAbility g.state .enemy (Go.botCommanderId m.difficulty) moves with
  | none => exact ⟨h, rfl, hm⟩
  | some choice =>
    dsimp only [Option.map_some]
    rw [applyTeamAbility_eq h.ok.ok]
    have hsrc : (choiceOf choice).sourceId = choice.sourceId := rfl
    have htgt : (choiceOf choice).targetId = choice.targetId := rfl
    rw [hsrc, htgt]
    cases ha : Go.applyTeamAbility g.state .enemy (Go.botCommanderId m.difficulty)
        choice.sourceId choice.targetId m.enemy.armySpeedMultiplier
          (Go.aiArmyId g.aiActionIndex) with
    | none => exact ⟨h, rfl, hm⟩
    | some state =>
      obtain ⟨hok, hu, hclock, -, -⟩ :=
        Go.applyTeamAbility_ok Go.enemy_ne_neutral ha h.ok.ok h.ok.units
      have hgo : Go.chooseBotAbility g.state .enemy (Go.botCommanderId m.difficulty)
          (moves.map moveOf) = some (choiceOf choice) := by
        rw [← chooseBotAbility_eq h.ok.ok, hc]
        rfl
      refine ⟨?_, rfl, hm.afterAbility Go.enemy_ne_neutral hgo ha h.ok.ok⟩
      exact
        { ok := h.ok.act hok hu hclock rfl
          state := rfl
          accumulators := h.accumulators
          currentTime := h.currentTime
          currentTick := h.currentTick
          nextAiTick := h.nextAiTick
          aiActionIndex := congrArg (· + 1) h.aiActionIndex
          actionIndex := h.actionIndex }

/-- **Both bots act alike**, and the client's never throws. -/
theorem executeAiAction_twin {m : Go.BotMatch} {t : Ts.Replay} {g : Go.BotReplay}
    (h : Twin m t g) (he : Go.ModifiersOk m.enemy) :
    ∃ t', Ts.executeAiAction (optionsOf m) t = .ok t' ∧ Twin m t' (Go.executeAI m g) := by
  unfold Ts.executeAiAction Go.executeAI
  rw [h.playing, h.state, usesTacticalRules_eq]
  by_cases hp : (!g.playing) = true
  · rw [if_pos hp, if_pos hp]
    exact ⟨t, rfl, h⟩
  rw [if_neg hp, if_neg hp]
  by_cases hv : Go.usesTacticalRules g.state.gameplayRulesVersion = true
  · rw [if_pos hv, if_pos hv]
    have hmoves := evaluateTacticalMoves_eq h.ok.ok h.ok.units hv Go.enemy_ne_neutral he.speed
    have hlegal := Go.evaluateTacticalMoves_ok h.ok.ok.ids .enemy m.enemy.armySpeedMultiplier
    have ho : (optionsOf m).enemyModifiers = m.enemy := rfl
    dsimp only
    rw [ho, ← hmoves]
    rw [← hmoves] at hlegal
    obtain ⟨h1, h2, h3⟩ := spendAbility_twin h hlegal
    rw [← h2] at h3 ⊢
    exact foldlM_botDispatch_twin h1 h3
  · rw [if_neg hv, if_neg hv, ← evaluateAiMove_eq h.ok.ok]
    cases hm : Ts.evaluateAiMove g.state.territories .enemy 8 with
    | none => exact ⟨t, rfl, h⟩
    | some move =>
      have hgo : Go.evaluateAIMove g.state = some (move.fromId, move.toId) := by
        rw [← evaluateAiMove_eq h.ok.ok, hm]
        rfl
      have hlegal := Go.evaluateAIMove_ok h.ok.ok (Bool.eq_false_iff.mpr hv) hgo
      obtain ⟨t', hok, h', -⟩ := botDispatch_twin h move hlegal
      exact ⟨t', hok, h'⟩

/-- **Both bots act up to the same time.** -/
theorem aiUntil_twin {m : Go.BotMatch} {t : Ts.Replay} {g : Go.BotReplay} (h : Twin m t g)
    (he : Go.ModifiersOk m.enemy) (timestamp : ℚ) :
    ∃ t', Ts.aiUntil (optionsOf m) timestamp t = .ok t' ∧
      Twin m t' (Go.aiUntil m timestamp g) := by
  unfold Ts.aiUntil Go.aiUntil
  have hd : (optionsOf m).botDifficulty = m.difficulty := rfl
  rw [hd, h.nextAiTick, getBotAiTickSeconds_eq, clockEpsilon_eq]
  refine whileLoop_lockstep
    (R := fun (e : Except String Ts.Replay) (g : Go.BotReplay) => ∃ t, e = .ok t ∧ Twin m t g)
    ?_ ?_ _ ⟨t, rfl, h⟩
  · rintro e g ⟨t, rfl, h⟩
    change (t.playing && decide (t.nextAiTick ≤ timestamp + Ts.clockEpsilon (optionsOf m))) = _
    rw [h.playing, h.nextAiTick, clockEpsilon_eq]
  · rintro e g - ⟨t, rfl, h⟩
    obtain ⟨t', hok, h'⟩ := executeAiAction_twin (stepTo_twin h h.nextAiTick) he
    refine ⟨{ t' with nextAiTick := t.nextAiTick + Ts.getBotAiTickSeconds m.difficulty }, ?_, ?_⟩
    · unfold Ts.aiRound
      dsimp only
      rw [hok]
      rfl
    · exact
        { ok := h'.ok.congr rfl rfl
          state := h'.state
          accumulators := h'.accumulators
          currentTime := h'.currentTime
          currentTick := h'.currentTick
          nextAiTick := by
            change t.nextAiTick + _ = g.nextAITick + _
            rw [h.nextAiTick, getBotAiTickSeconds_eq]
          aiActionIndex := h'.aiActionIndex
          actionIndex := h'.actionIndex }

/-! ### The recorded actions -/

theorem playAction_twin {m : Go.BotMatch} {t : Ts.Replay} {g : Go.BotReplay} (h : Twin m t g)
    (action : PvpAction) :
    Twin m (Ts.playAction (optionsOf m) t action) (Go.playAction m g action) := by
  unfold Ts.playAction Go.playAction
  have hc : (optionsOf m).commanderId = m.commander := rfl
  have ho : (optionsOf m).playerModifiers = m.player := rfl
  have hid : Ts.playerArmyId action.sequence = Go.playerArmyId action.sequence := rfl
  dsimp only
  rw [hc, ho, hid, h.state]
  by_cases hk : action.kind = .ability
  · rw [if_pos hk, if_pos hk, applyPlayerAbility_eq h.ok.ok]
    cases ha : Go.applyPlayerAbility g.state m.commander action.sourceId action.targetId
        m.player.armySpeedMultiplier (Go.playerArmyId action.sequence) with
    | none => exact h
    | some state =>
      obtain ⟨hok, hu, hclock, -, -⟩ :=
        Go.applyTeamAbility_ok Go.player_ne_neutral ha h.ok.ok h.ok.units
      exact
        { ok := h.ok.act hok hu hclock rfl
          state := rfl
          accumulators := h.accumulators
          currentTime := h.currentTime
          currentTick := h.currentTick
          nextAiTick := h.nextAiTick
          aiActionIndex := h.aiActionIndex
          actionIndex := congrArg (· + 1) h.actionIndex }
  · rw [if_neg hk, if_neg hk]
    have hd := dispatchFromState_eq h.ok.ok Go.player_ne_neutral action.sourceId action.targetId
      m.player.armySpeedMultiplier (Go.playerArmyId action.sequence)
    cases hts : Ts.dispatchFromState g.state action.sourceId action.targetId .player
        m.player.armySpeedMultiplier (Go.playerArmyId action.sequence) with
    | error e =>
      cases hgo : Go.dispatchArmy g.state action.sourceId action.targetId .player
          m.player.armySpeedMultiplier (Go.playerArmyId action.sequence) with
      | error e' => exact h
      | ok s => rw [hts, hgo] at hd; cases hd
    | ok s =>
      cases hgo : Go.dispatchArmy g.state action.sourceId action.targetId .player
          m.player.armySpeedMultiplier (Go.playerArmyId action.sequence) with
      | error e' => rw [hts, hgo] at hd; cases hd
      | ok s' =>
        rw [hts, hgo] at hd
        cases Option.some.inj hd
        exact
          { ok := h.ok.dispatched Go.player_ne_neutral hgo rfl
            state := rfl
            accumulators := h.accumulators
            currentTime := h.currentTime
            currentTick := h.currentTick
            nextAiTick := h.nextAiTick
            aiActionIndex := h.aiActionIndex
            actionIndex := congrArg (· + 1) h.actionIndex }

/-- **Both engines play the recorded actions alike**, legal or not. -/
theorem playActions_twin {m : Go.BotMatch} (he : Go.ModifiersOk m.enemy) :
    ∀ (actions : List PvpAction) {t : Ts.Replay} {g : Go.BotReplay}, Twin m t g →
      ∃ t', Ts.playActions (optionsOf m) actions t = .ok t' ∧
        Twin m t' (Go.playActions m actions g) := by
  intro actions
  induction actions with
  | nil => intro t g h; exact ⟨t, rfl, h⟩
  | cons action actions ih =>
    intro t g h
    obtain ⟨t1, ht1, h1⟩ := aiUntil_twin h he action.atSeconds
    unfold Ts.playActions Go.playActions
    rw [ht1]
    dsimp only [bind, Except.bind]
    rw [h1.playing]
    by_cases hp : (!(Go.aiUntil m action.atSeconds g).playing) = true
    · rw [if_pos hp, if_pos hp]
      exact ⟨t1, rfl, h1⟩
    rw [if_neg hp, if_neg hp]
    have h2 := stepTo_twin h1 (rfl : action.atSeconds = action.atSeconds)
    rw [h2.playing]
    by_cases hp2 : (!(Go.stepTo m action.atSeconds
        (Go.aiUntil m action.atSeconds g)).playing) = true
    · rw [if_pos hp2, if_pos hp2]
      exact ⟨_, rfl, h2⟩
    · rw [if_neg hp2, if_neg hp2]
      exact ih (playAction_twin h2 action)

end Replay

/-! ### The start -/

theorem modify_eq_set {α : Type} {r : Record String α} {k : String} {v : α}
    (f : String → α → α) (h : r.get? k = some v) : r.modify f k = r.set k (f k v) := by
  rw [Record.modify, h]

/-- A change of the client's opening is the server's, where the tower exists. -/
theorem modify_eq_updateTerritory {state : GameState} {id : String}
    (f : String → Territory → Territory) (f' : Territory → Territory) (hf : ∀ t, f id t = f' t)
    (hid : id ∈ state.territories.keys) :
    state.territories.modify f id = (Go.updateTerritory state id f').territories := by
  obtain ⟨t, ht⟩ := Record.exists_get?_of_mem_keys hid
  have hterr : state.territory id = t := by
    rw [GameState.territory, Record.getD, ht, Option.getD_some]
  rw [modify_eq_set f ht, hf]
  change _ = state.territories.set id (f' (state.territory id))
  rw [hterr]

theorem tacticalSupports_eq : ∀ b ∈ battlefields, b.mode = .oneVOne →
    Ts.tacticalSupports b.id = [(Go.tacticalSupports b.id).1, (Go.tacticalSupports b.id).2] ∧
      Ts.normalizeBattlefieldId b.id = b.id := by
  decide

theorem tacticalOpening_eq (state : GameState) (player enemy : PlayerUpgradeModifiers)
    (hs : Ts.tacticalSupports state.battlefieldId
      = [(Go.tacticalSupports state.battlefieldId).1, (Go.tacticalSupports state.battlefieldId).2])
    (hp : "p_base" ∈ state.territories.keys) (he : "e_base" ∈ state.territories.keys)
    (h1 : (Go.tacticalSupports state.battlefieldId).1 ∈ state.territories.keys)
    (h2 : (Go.tacticalSupports state.battlefieldId).2 ∈ state.territories.keys) :
    Ts.tacticalOpening player enemy state.battlefieldId state.territories
      = (Go.applyTacticalOpening state player enemy).territories := by
  have k1 := Go.updateTerritory_keys state Go.addBaseBonus hp
  have k2 := (Go.updateTerritory_keys (Go.updateTerritory state "p_base" Go.addBaseBonus)
    Go.addBaseBonus (k1 ▸ he)).trans k1
  have k3 := (Go.updateTerritory_keys
    (Go.updateTerritory (Go.updateTerritory state "p_base" Go.addBaseBonus) "e_base"
      Go.addBaseBonus) (Go.makeSupport .player player) (k2 ▸ h1)).trans k2
  unfold Ts.tacticalOpening Go.applyTacticalOpening
  dsimp only
  rw [hs]
  change ((((state.territories.modify (Ts.addUnits Ts.tacticalBaseBonus) "p_base").modify
    (Ts.addUnits Ts.tacticalBaseBonus) "e_base").modify (Ts.makeSupport player enemy 0) _).modify
      (Ts.makeSupport player enemy 1) _) = _
  rw [modify_eq_updateTerritory _ Go.addBaseBonus (fun _ => rfl) hp,
    modify_eq_updateTerritory _ Go.addBaseBonus (fun _ => rfl) (k1 ▸ he),
    modify_eq_updateTerritory _ (Go.makeSupport .player player) (fun _ => rfl) (k2 ▸ h1),
    modify_eq_updateTerritory _ (Go.makeSupport .enemy enemy) (fun _ => rfl) (k3 ▸ h2)]

theorem validateGameplayRulesVersion_eq (version : ℤ) :
    Ts.validateGameplayRulesVersion version
      = if Go.supportedGameplayRules version = true then some version else none := by
  have hiff : (version ≠ 1 ∧ version ≠ 2 ∧ version ≠ 3 ∧ version ≠ 4)
      ↔ ¬ Go.supportedGameplayRules version = true := by
    simp only [Go.supportedGameplayRules, Go.hasCaptureRecovery, Bool.or_eq_true,
      Bool.and_eq_true, beq_iff_eq, decide_eq_true_eq]
    omega
  unfold Ts.validateGameplayRulesVersion
  by_cases h : Go.supportedGameplayRules version = true
  · rw [if_pos h, if_neg (fun hc => hiff.mp hc h)]
  · rw [if_neg h, if_pos (hiff.mpr h)]

theorem validateActions_eq : ∀ (actions : List PvpAction) (index : ℕ) (previousTime : ℚ),
    Ts.validateActionsFrom index previousTime actions
      = Go.validateActions index previousTime actions := by
  intro actions
  induction actions with
  | nil => intro index previousTime; rfl
  | cons action actions ih =>
    intro index previousTime
    rw [Ts.validateActionsFrom, Go.validateActions, ih]
    rfl

/-- **Both replays start together.** -/
theorem createInitialGameState_twin {m : Go.BotMatch} {b : BattlefieldDefinition}
    (hb : b ∈ battlefields) (hmode : b.mode = .oneVOne) (hm : m.battlefieldId = b.id)
    (hv : Go.supportedGameplayRules m.rulesVersion = true) (hp : Go.ModifiersOk m.player)
    (he : Go.ModifiersOk m.enemy) :
    ∃ state g, Ts.createInitialGameState Ts.pvpTimeLimitSeconds m.rulesVersion m.player m.enemy
        m.battlefieldId = .ok state ∧ Go.initialReplay m = .ok g ∧
      Twin m ⟨state, .empty, 0, 0, Ts.getBotAiTickSeconds m.difficulty, 0, 0⟩ g := by
  obtain ⟨g, hg, hok⟩ := Go.initialReplay_ok hb hmode hm hp he
  obtain ⟨hid, hquad, -, hpb, heb, h1, h2⟩ := Go.tacticalSupports_mem b hb hmode
  obtain ⟨hsup, hnorm⟩ := tacticalSupports_eq b hb hmode
  have hkeys := Go.keys_createTerritoriesForBattlefield m.player m.enemy m.battlefieldId
  rw [← hm] at hid hsup hnorm hpb heb h1 h2 hquad
  have hstart : ∀ state, state = g.state → g = ⟨g.state, .empty, 0, 0,
      Go.botAiTickSeconds m.difficulty, 0, 0⟩ →
        Twin m ⟨state, .empty, 0, 0, Ts.getBotAiTickSeconds m.difficulty, 0, 0⟩ g := by
    intro state hs hg'
    rw [hg'] at hok ⊢
    exact ⟨hok, hs, fun _ _ => rfl, rfl, rfl, getBotAiTickSeconds_eq _, rfl, rfl⟩
  unfold Ts.createInitialGameState
  dsimp only
  rw [hnorm, validateGameplayRulesVersion_eq, if_pos hv]
  dsimp only
  rw [usesTacticalRules_eq, createDefaultTerritories_eq]
  have hstarted := hg
  unfold Go.initialReplay Go.createInitialGameStateForBattlefield at hg
  dsimp only at hg
  rw [if_pos hid] at hg
  have hq : (m.battlefieldId == "quad_citadel") = false := beq_eq_false_iff_ne.mpr hquad
  rw [hq, Bool.and_false, if_neg Bool.false_ne_true]
  by_cases ht : Go.usesTacticalRules m.rulesVersion = true
  · rw [if_pos ht] at hg ⊢
    rw [if_neg hquad] at hg
    refine ⟨_, g, rfl, hstarted, ?_⟩
    cases hg
    refine hstart _ ?_ rfl
    have hopen := tacticalOpening_eq
      { Go.createInitialGameStateForBattlefield m.player m.enemy m.battlefieldId with
        battlefieldId := m.battlefieldId
        territories := Go.createTerritoriesForBattlefield m.player m.enemy m.battlefieldId
        gameplayRulesVersion := m.rulesVersion }
      m.player m.enemy
      hsup (hkeys ▸ hpb) (hkeys ▸ heb) (hkeys ▸ h1) (hkeys ▸ h2)
    refine GameState.ext rfl ?_ rfl rfl rfl rfl rfl rfl rfl rfl rfl rfl
    exact hopen
  · rw [if_neg ht] at hg ⊢
    refine ⟨_, g, rfl, hstarted, ?_⟩
    cases hg
    exact hstart _ rfl rfl

/-! ### The whole replay -/

section Whole

variable [MathLib]

/-- **The client's replay ends like the server's**, and its last step does nothing. -/
theorem finishBattle_twin {m : Go.BotMatch} {t : Ts.Replay} {g : Go.BotReplay} (h : Twin m t g)
    (he : Go.ModifiersOk m.enemy) (actions : List PvpAction) :
    ∃ t1 t2, Ts.playActions (optionsOf m) actions t = .ok t1 ∧
      Ts.aiUntil (optionsOf m) Ts.pvpTimeLimitSeconds t1 = .ok t2 ∧
      Twin m (Ts.finalStep (optionsOf m) t2) (Go.finishBattle m actions g) := by
  obtain ⟨t1, h1, ht1⟩ := playActions_twin he actions h
  obtain ⟨t2, h2, ht2⟩ := aiUntil_twin ht1 he Ts.pvpTimeLimitSeconds
  refine ⟨t1, t2, h1, h2, ?_⟩
  have hlim : Ts.pvpTimeLimitSeconds = Go.pvpTimeLimitSeconds := rfl
  unfold Ts.finalStep Go.finishBattle
  rw [ht2.playing]
  dsimp only
  by_cases hp : (Go.aiUntil m Go.pvpTimeLimitSeconds (Go.playActions m actions g)).playing = true
  · have hs := stepTo_twin ht2 hlim
    have hend : (Ts.stepTo (optionsOf m) Ts.pvpTimeLimitSeconds t2).playing = false := by
      rw [hs.playing]
      exact Go.stepTo_limit ht2.ok
    rw [hlim] at hend hs ⊢
    rw [if_pos hp, if_pos hp, hend, if_neg Bool.false_ne_true]
    exact hs
  · rw [hlim, if_neg hp, if_neg hp]
    exact ht2

/-- The client and the server both refuse the actions, or both end alike. -/
theorem simulatePvpBattle_agrees {m : Go.BotMatch} {b : BattlefieldDefinition}
    (hb : b ∈ battlefields) (hmode : b.mode = .oneVOne) (hm : m.battlefieldId = b.id)
    (hp : Go.ModifiersOk m.player) (he : Go.ModifiersOk m.enemy) (actions : List PvpAction) :
    (Ts.simulatePvpBattle actions (optionsOf m)).toOption
      = (Go.simulateBotBattleWithCommander actions m).toOption := by
  have hver : (optionsOf m).gameplayRulesVersion = m.rulesVersion := rfl
  have hpl : (optionsOf m).playerModifiers = m.player := rfl
  have hen : (optionsOf m).enemyModifiers = m.enemy := rfl
  have hbf : (optionsOf m).battlefieldId = m.battlefieldId := rfl
  have hdf : (optionsOf m).botDifficulty = m.difficulty := rfl
  unfold Ts.simulatePvpBattle Go.simulateBotBattleWithCommander Ts.validateActions
  rw [validateActions_eq, hver, hpl, hen, hbf, hdf]
  have hmax : Ts.maxPvpActions = Go.maxPvpActions := rfl
  rw [hmax]
  by_cases hv : Go.supportedGameplayRules m.rulesVersion = true
  · have hv' : ¬ Go.supportedGameplayRules m.rulesVersion = false := by
      rw [hv]
      exact Bool.noConfusion
    rw [if_neg hv']
    by_cases hl : actions.length > Go.maxPvpActions
    · rw [if_pos hl, if_pos hl]
      rfl
    rw [if_neg hl, if_neg hl]
    cases Go.validateActions 0 0 actions with
    | error e => rfl
    | ok u =>
      obtain ⟨state, g, hs, hg, htwin⟩ := createInitialGameState_twin hb hmode hm hv hp he
      obtain ⟨t1, t2, h1, h2, hend⟩ := finishBattle_twin htwin he actions
      rw [hs, hg]
      dsimp only [bind, Except.bind, pure, Except.pure]
      rw [h1]
      dsimp only
      rw [h2]
      dsimp only [Except.toOption]
      have hsum : Ts.battleSummary (Ts.finalStep (optionsOf m) t2)
          = Go.battleSummary (Go.finishBattle m actions g) := by
        unfold Ts.battleSummary Go.battleSummary
        rw [hend.state, hend.actionIndex]
      rw [hsum, hend.state]
  · have hv' : Go.supportedGameplayRules m.rulesVersion = false := Bool.eq_false_iff.mpr hv
    rw [if_pos hv']
    unfold Ts.createInitialGameState
    rw [validateGameplayRulesVersion_eq, if_neg hv]
    split <;> [rfl; skip]
    cases Go.validateActions 0 0 actions <;> rfl

/-- **The two battle engines agree.**  On every shipped map for one against one,
with any modifiers a match is issued with, any rules version, difficulty and
commander, and any list of recorded actions, the client and the server both
refuse the actions or both end with the same state and the same summary. -/
theorem simulatePvpBattle_eq {m : Go.BotMatch} {b : BattlefieldDefinition}
    (hb : b ∈ battlefields) (hmode : b.mode = .oneVOne) (hm : m.battlefieldId = b.id)
    (hp : Go.ModifiersOk m.player) (he : Go.ModifiersOk m.enemy) (actions : List PvpAction) :
    (Ts.simulatePvpBattle actions (optionsOf m)).toOption
      = (Go.simulateBotBattleWithCommander actions m).toOption :=
  simulatePvpBattle_agrees hb hmode hm hp he actions

/-- **Every replayed battle is decided.**  Under the rules two to four a replay that is
accepted ends in victory, defeat or draw, in both engines, so that the summary relabels
nothing; the clock has not passed the time limit, and a draw is declared at the limit
with as many towers and as many units on both sides.  No step changes a decided state.
The replay is a battle whose clock moves by ticks, and in every state that such a battle
reaches the clock has not passed the limit, a draw is one at the limit, and a tower that
a side held before is held by a side. -/
theorem replay_decided {m : Go.BotMatch} {b : BattlefieldDefinition}
    (hb : b ∈ battlefields) (hmode : b.mode = .oneVOne) (hm : m.battlefieldId = b.id)
    (hp : Go.ModifiersOk m.player) (he : Go.ModifiersOk m.enemy)
    (hlow : 2 ≤ m.rulesVersion) (hhigh : m.rulesVersion ≤ 4) {actions : List PvpAction}
    {s : GameState} {summary : PvpBattleSummary}
    (h : Go.simulateBotBattleWithCommander actions m = .ok (s, summary)) :
    (Ts.simulatePvpBattle actions (optionsOf m)).toOption = some (s, summary) ∧
    s.status ≠ .playing ∧ summary.status = s.status ∧
    s.timeLimitSeconds = 90 ∧ s.elapsedTimeSeconds ≤ s.timeLimitSeconds ∧
    (s.status = .draw → s.elapsedTimeSeconds = s.timeLimitSeconds ∧ Go.EvenSides s) ∧
    (∀ (state : GameState), state.status ≠ .playing → ∀ accumulators delta,
      Go.stepSimulation state accumulators delta = (state, accumulators) ∧
      (Ts.stepSimulation state accumulators delta).state = state) ∧
    (∃ accumulators, Go.BotPlay (fun delta => delta = Go.pvpSimulationTick) m (s, accumulators)) ∧
    (∀ q, Go.BotPlay (fun delta => delta = Go.pvpSimulationTick) m q →
      q.1.elapsedTimeSeconds ≤ q.1.timeLimitSeconds ∧
      (q.1.status = .draw → q.1.elapsedTimeSeconds = q.1.timeLimitSeconds ∧ Go.EvenSides q.1) ∧
      ∀ q', Go.TickTurns q q' → ∀ id, Go.Held id q.1 → Go.Held id q'.1) := by
  have hv : Go.hasCaptureRecovery m.rulesVersion = true := by
    unfold Go.hasCaptureRecovery
    rw [Bool.and_eq_true, decide_eq_true_eq, decide_eq_true_eq]
    exact ⟨hlow, hhigh⟩
  obtain ⟨r, hr, hs, hsummary⟩ := Go.simulateBotBattle_some h
  obtain ⟨r', hr', hok⟩ := Go.initialReplay_ok hb hmode hm hp he
  rw [hr] at hr'
  cases hr'
  obtain ⟨hplays, hdecided⟩ := Go.finishBattle_plays hv actions hok
  have hreach : ∀ q, Go.BotPlay (fun delta => delta = Go.pvpSimulationTick) m q → Go.Timed q.1 := by
    rintro q ⟨r', hr', hturns⟩
    rw [hr] at hr'
    cases hr'
    exact Go.Timed.turns hturns (Go.initialReplay_timed hv hr hok) ⟨hok.ok, hok.units⟩
  have hplay : Go.BotPlay (fun delta => delta = Go.pvpSimulationTick) m
      (s, (Go.finishBattle m actions r).accumulators) := by
    rw [hs]
    exact ⟨r, hr, hplays⟩
  have hend := hreach _ hplay
  have hstatus : s.status ≠ .playing := by
    rw [hs]
    exact fun hplaying => Bool.eq_false_iff.mp hdecided (Go.playing_iff.mpr hplaying)
  refine ⟨?_, hstatus, ?_, hend.limit, hend.in_time, hend.verdict, ?_, ⟨_, hplay⟩, ?_⟩
  · rw [simulatePvpBattle_agrees hb hmode hm hp he actions, h]
    rfl
  · rw [hsummary]
    unfold Go.battleSummary
    rw [← hs]
    exact if_neg hstatus
  · intro state hstate accumulators delta
    unfold Go.stepSimulation Ts.stepSimulation
    rw [if_pos hstate, if_pos hstate]
    exact ⟨rfl, rfl⟩
  · intro q hq
    have htimed := hreach q hq
    refine ⟨htimed.in_time, htimed.verdict, fun q' hturns id hheld => ?_⟩
    exact hheld.turns Go.tick_nonneg hturns (hq.ok Go.tick_nonneg hb hmode hm hp he)

end Whole

/-- A charge and an ordinary dispatch against the hard bot. -/
def sampleMatch : Go.BotMatch where
  player := ⟨20, 1, 1⟩
  enemy := ⟨20, 1, 1⟩
  battlefieldId := "crown_cross"
  rulesVersion := 4
  difficulty := .hard
  commander := some .vanguard

def sampleActions : List PvpAction :=
  [⟨0, 1, "p_base", "n_bot_left", .dispatch⟩, ⟨1, 16, "p_base", "n_bot_left", .ability⟩]

theorem simulatePvpBattle_eq_sample :
    (@Ts.simulatePvpBattle decimalHypot sampleActions (optionsOf sampleMatch)).toOption
      = (@Go.simulateBotBattleWithCommander decimalHypot sampleActions sampleMatch).toOption :=
  @simulatePvpBattle_eq decimalHypot sampleMatch crownCross List.mem_cons_self rfl rfl
    Go.modifiersOk_default Go.modifiersOk_default sampleActions

/-- The sample replay is decided. -/
theorem replay_decided_sample : ∃ s summary,
    @Go.simulateBotBattleWithCommander decimalHypot sampleActions sampleMatch = .ok (s, summary) ∧
      s.status ≠ .playing := by
  obtain ⟨r, hr, -⟩ := Go.initialReplay_ok (m := sampleMatch) (b := crownCross)
    List.mem_cons_self rfl rfl Go.modifiersOk_default Go.modifiersOk_default
  have hrun : @Go.simulateBotBattleWithCommander decimalHypot sampleActions sampleMatch
      = .ok ((@Go.finishBattle decimalHypot sampleMatch sampleActions r).state,
        Go.battleSummary (@Go.finishBattle decimalHypot sampleMatch sampleActions r)) := by
    have hval : Go.validateActions 0 0 sampleActions = .ok () := by decide +kernel
    unfold Go.simulateBotBattleWithCommander
    rw [if_neg (by decide), if_neg (by decide), hval, hr]
    rfl
  exact ⟨_, _, hrun, (@replay_decided decimalHypot sampleMatch crownCross List.mem_cons_self rfl
    rfl Go.modifiersOk_default Go.modifiersOk_default (by decide) (by decide) sampleActions _ _
    hrun).2.1⟩

/-! ### The bot plays by the rules -/

/-- **The bot never plays an illegal move**, in any state of a battle on a shipped map for
one against one, under any rules version and with any commander.  Under the tactical
rules the moves of its policy go out one after the other, each from an own tower along a
legal route with at least one unit; an ability that it chooses is applied, and the moves
that are left go out after it.  Under the older rules its move goes out.  The client
evaluates, chooses, applies and dispatches alike. -/
theorem bot_never_illegal [MathLib] {m : Go.BotMatch} {b : BattlefieldDefinition}
    (hb : b ∈ battlefields) (hmode : b.mode = .oneVOne) (hm : m.battlefieldId = b.id)
    (hp : Go.ModifiersOk m.player) (he : Go.ModifiersOk m.enemy)
    {p : GameState × Accumulators} (h : Go.BotPlay (fun delta => 0 ≤ delta) m p)
    (commander : Option CommanderId) :
    (Go.usesTacticalRules p.1.gameplayRulesVersion = true →
      Go.CanSend .enemy m.enemy.armySpeedMultiplier p.1
        (Go.evaluateTacticalMoves p.1 .enemy m.enemy.armySpeedMultiplier) ∧
      (∀ choice, Go.chooseBotAbility p.1 .enemy commander
          (Go.evaluateTacticalMoves p.1 .enemy m.enemy.armySpeedMultiplier) = some choice →
        ∀ armyId, ∃ state', Go.applyTeamAbility p.1 .enemy commander choice.sourceId
            choice.targetId m.enemy.armySpeedMultiplier armyId = some state' ∧
          Go.CanSend .enemy m.enemy.armySpeedMultiplier state' choice.moves) ∧
      (Ts.evaluateTacticalMoves p.1 .enemy m.enemy.armySpeedMultiplier).map moveOf
        = Go.evaluateTacticalMoves p.1 .enemy m.enemy.armySpeedMultiplier) ∧
    (Go.usesTacticalRules p.1.gameplayRulesVersion = false →
      (∀ move, Go.evaluateAIMove p.1 = some move →
        Go.CanSend .enemy m.enemy.armySpeedMultiplier p.1 [⟨move.1, move.2⟩]) ∧
      (Ts.evaluateAiMove p.1.territories .enemy 8).map (fun mv => (mv.fromId, mv.toId))
        = Go.evaluateAIMove p.1) ∧
    (∀ moves, (Ts.chooseBotAbility p.1 .enemy commander moves).map choiceOf
      = Go.chooseBotAbility p.1 .enemy commander (moves.map moveOf)) ∧
    (∀ sourceId targetId multiplier armyId,
      Ts.applyTeamAbility p.1 .enemy commander sourceId targetId multiplier armyId
        = Go.applyTeamAbility p.1 .enemy commander sourceId targetId multiplier armyId) ∧
    ∀ (move : Go.TacticalMove) (source target : Territory),
      p.1.territories.get? move.fromId = some source →
      p.1.territories.get? move.toId = some target → ∀ armyId multiplier,
        (Ts.dispatchArmy source target .enemy 0.5 armyId multiplier (some p.1)).toOption.map
            (dispatched p.1 move.fromId .enemy)
          = (Go.dispatchArmy p.1 move.fromId move.toId .enemy multiplier armyId).toOption := by
  obtain ⟨hok, hunits⟩ := h.ok (fun _ hδ => hδ) hb hmode hm hp he
  refine ⟨fun hrules => ?_, fun hrules => ?_, ?_, ?_, ?_⟩
  · obtain ⟨hmoves, habilities⟩ := Go.evaluateTacticalMoves_legal hok hunits Go.enemy_ne_neutral
      commander m.enemy.armySpeedMultiplier
    exact ⟨hmoves, habilities,
      evaluateTacticalMoves_eq hok hunits hrules Go.enemy_ne_neutral he.speed⟩
  · exact ⟨fun move hmove => Go.evaluateAIMove_legal hok hrules _ hmove, evaluateAiMove_eq hok⟩
  · exact fun moves => chooseBotAbility_eq hok .enemy commander moves
  · exact fun sourceId targetId multiplier armyId =>
      applyTeamAbility_eq hok .enemy commander sourceId targetId multiplier armyId
  · exact fun move source target hs ht armyId multiplier =>
      dispatchArmy_eq hok hs ht .enemy 0.5 armyId multiplier

/-- The hard bot at the start of the sample match. -/
theorem bot_never_illegal_sample : ∃ p,
    @Go.BotPlay decimalHypot (fun delta => 0 ≤ delta) sampleMatch p ∧
    @Go.CanSend decimalHypot .enemy 1 p.1
      (@Go.evaluateTacticalMoves decimalHypot p.1 .enemy 1) := by
  obtain ⟨r, hr, hok⟩ := Go.initialReplay_ok (m := sampleMatch) (b := crownCross)
    List.mem_cons_self rfl rfl Go.modifiersOk_default Go.modifiersOk_default
  have hstart : @Go.BotPlay decimalHypot (fun delta => 0 ≤ delta) sampleMatch
      (r.state, r.accumulators) := ⟨r, hr, Relation.ReflTransGen.refl⟩
  refine ⟨_, hstart, ?_⟩
  exact ((@bot_never_illegal decimalHypot sampleMatch crownCross List.mem_cons_self rfl rfl
    Go.modifiersOk_default Go.modifiersOk_default _ hstart none).1
      (by rw [hok.version]; decide)).1

end CrownClash.Parity
