import CrownClash.Go.BotLegal

/-!
# Server: a replayed battle is decided

Under the rules that count ticks a replay is a battle whose clock moves by whole ticks
(`finishBattle_plays`).  `Timed` is what such battles keep: the clock is a number of
ticks, it never passes the time limit, it has not reached it while the match runs, and a
draw was declared at the limit with both sides even.  So the replay, which runs until the
limit, ends decided.
-/

namespace CrownClash.Go

open Lib

/-- Both sides have as many towers and as many units in them. -/
structure EvenSides (state : GameState) : Prop where
  towers : (territoriesOf state .player).length = (territoriesOf state .enemy).length
  units : unitsOf (territoriesOf state .player) = unitsOf (territoriesOf state .enemy)

/-- A draw is declared at the time limit, with both sides even. -/
theorem nextStatus_draw {state : GameState} (h : nextStatus state = .draw) :
    state.timeLimitSeconds ≤ state.elapsedTimeSeconds ∧ EvenSides state := by
  unfold nextStatus at h
  split at h
  · cases h
  split at h
  · cases h
  split at h
  · next htime =>
    refine ⟨htime, ?_⟩
    unfold timeLimitStatus at h
    dsimp only at h
    split at h
    · cases h
    · next hp =>
      split at h
      · cases h
      · next he =>
        obtain ⟨hp1, hp2⟩ := not_or.mp hp
        obtain ⟨he1, he2⟩ := not_or.mp he
        have htowers : (territoriesOf state .player).length
            = (territoriesOf state .enemy).length := by omega
        have hp3 := mt (fun hu => ⟨htowers, hu⟩) hp2
        have he3 := mt (fun hu => ⟨htowers, hu⟩) he2
        exact ⟨htowers, by omega⟩
  · cases h

/-- What a battle whose clock counts ticks keeps. -/
structure Timed (state : GameState) : Prop where
  version : hasCaptureRecovery state.gameplayRulesVersion = true
  limit : state.timeLimitSeconds = pvpTimeLimitSeconds
  grid : ∃ k : ℤ, 0 ≤ k ∧ state.elapsedTimeSeconds = k * pvpSimulationTick
  in_time : state.elapsedTimeSeconds ≤ state.timeLimitSeconds
  running : state.status = .playing → state.elapsedTimeSeconds < state.timeLimitSeconds
  verdict : state.status = .draw → state.elapsedTimeSeconds = state.timeLimitSeconds ∧ EvenSides state

/-- What moves neither the clock nor the status of a running match. -/
theorem Timed.sameClock {s s' : GameState} (h : Timed s) (hplaying : s.status = .playing)
    (hc : SameClock s s') : Timed s' where
  version := by
    rw [hc.version]
    exact h.version
  limit := hc.timeLimit.trans h.limit
  grid := by
    rw [hc.elapsed]
    exact h.grid
  in_time := by
    rw [hc.elapsed, hc.timeLimit]
    exact h.in_time
  running _ := by
    rw [hc.elapsed, hc.timeLimit]
    exact h.running hplaying
  verdict hdraw := by
    rw [hc.status, hplaying] at hdraw
    cases hdraw

/-- Below the limit the next tick is not above it. -/
theorem tick_le_limit {k : ℤ} (h : (k : ℚ) * pvpSimulationTick < pvpTimeLimitSeconds) :
    ((k + 1 : ℤ) : ℚ) * pvpSimulationTick ≤ pvpTimeLimitSeconds := by
  have hlt : (k : ℚ) < 4500 := by
    unfold pvpSimulationTick pvpTimeLimitSeconds at h
    linarith
  have hle : k + 1 ≤ 4500 := by
    have : k < 4500 := by exact_mod_cast hlt
    omega
  have hcast : ((k + 1 : ℤ) : ℚ) ≤ 4500 := by exact_mod_cast hle
  unfold pvpSimulationTick pvpTimeLimitSeconds
  linarith

variable [MathLib]

/-- **A tick keeps the clock in time**, and it declares a draw only at the limit. -/
theorem Timed.tick {state : GameState} (h : Timed state) (hok : BattleOk state)
    (accumulators : Accumulators) :
    Timed (stepSimulation state accumulators pvpSimulationTick).1 := by
  by_cases hp : state.status = .playing
  · obtain ⟨-, hver, hlim, he, hrun⟩ :=
      stepSimulation_clock hok hp accumulators pvpSimulationTick_pos.le
    obtain ⟨k, hk, hgrid⟩ := h.grid
    have helapsed : (stepSimulation state accumulators pvpSimulationTick).1.elapsedTimeSeconds
        = ((k + 1 : ℤ) : ℚ) * pvpSimulationTick := he.trans (nextElapsed_tick hk h.version hgrid)
    have hlt := h.running hp
    rw [hgrid, h.limit] at hlt
    have hin : (stepSimulation state accumulators pvpSimulationTick).1.elapsedTimeSeconds
        ≤ (stepSimulation state accumulators pvpSimulationTick).1.timeLimitSeconds := by
      rw [helapsed, hlim, h.limit]
      exact tick_le_limit hlt
    refine ⟨by rw [hver]; exact h.version, hlim.trans h.limit, ⟨k + 1, by omega, helapsed⟩, hin,
      ?_, ?_⟩
    · intro hplaying
      rw [he, hlim]
      exact hrun hplaying
    · intro hdraw
      unfold stepSimulation at hdraw hin ⊢
      rw [if_neg (not_not.mpr hp)] at hdraw hin ⊢
      obtain ⟨hlate, heven⟩ := nextStatus_draw hdraw
      exact ⟨le_antisymm hin hlate, heven.towers, heven.units⟩
  · unfold stepSimulation
    rw [if_pos hp]
    exact h

theorem applyTeamAbility_playing {state state' : GameState} {team : Team}
    {commander : Option CommanderId} {sourceId targetId : String} {multiplier : ℚ}
    {armyId : String}
    (h : applyTeamAbility state team commander sourceId targetId multiplier armyId = some state') :
    state.status = .playing := by
  unfold applyTeamAbility at h
  split at h
  · cases h
  · next hready =>
    exact not_not.mp (not_or.mp (not_or.mp hready).2).1

/-- A turn of a battle whose clock counts ticks. -/
abbrev TickTurn := BotTurn fun delta => delta = pvpSimulationTick

abbrev TickTurns := BotTurns fun delta => delta = pvpSimulationTick

omit [MathLib] in
theorem tick_nonneg : ∀ delta, delta = pvpSimulationTick → 0 ≤ delta := by
  rintro _ rfl
  exact pvpSimulationTick_pos.le

theorem Timed.turn {p p' : GameState × Accumulators} (hturn : TickTurn p p')
    (h : Timed p.1) (hok : BattleOk p.1 ∧ UnitsOk p.1) : Timed p'.1 := by
  cases hturn with
  | step hδ =>
    cases hδ
    exact h.tick hok.1 p.2
  | dispatch ho hplaying hd => exact h.sameClock hplaying (dispatchArmy_sameClock ho hd)
  | ability hteam ha =>
    obtain ⟨-, -, hc, -, -⟩ := applyTeamAbility_ok hteam ha hok.1 hok.2
    exact h.sameClock (applyTeamAbility_playing ha) hc

theorem Timed.turns {p p' : GameState × Accumulators} (hturns : TickTurns p p')
    (h : Timed p.1) (hok : BattleOk p.1 ∧ UnitsOk p.1) : Timed p'.1 := by
  have hboth : Timed p'.1 ∧ BattleOk p'.1 ∧ UnitsOk p'.1 := by
    refine hturns.preserves (P := fun q => Timed q.1 ∧ BattleOk q.1 ∧ UnitsOk q.1) ?_ ⟨h, hok⟩
    intro q q' hturn hq
    exact ⟨Timed.turn hturn hq.1 hq.2, hturn.ok tick_nonneg hq.2⟩
  exact hboth.1

/-! ### What was held stays held -/

omit [MathLib] in
theorem Held.sameMap {id : String} {s s' : GameState} (h : Held id s) (hm : SameMap s s') :
    Held id s' := by
  obtain ⟨t, ht, ho⟩ := h
  obtain ⟨t', ht', he⟩ := hm.sites.get? ht
  refine ⟨t', ht', ?_⟩
  rw [show t'.owner = t.owner from congrArg (fun q => q.2.1) he]
  exact ho

/-- **No turn makes a tower neutral again.** -/
theorem Held.turn {steps : ℚ → Prop} (hsteps : ∀ delta, steps delta → 0 ≤ delta) {id : String}
    {p p' : GameState × Accumulators} (hturn : BotTurn steps p p') (h : Held id p.1)
    (hok : BattleOk p.1 ∧ UnitsOk p.1) : Held id p'.1 := by
  cases hturn with
  | @step delta hδ => exact h.step p.2 (hsteps delta hδ) hok.1
  | dispatch ho _ hd => exact h.sameMap (dispatchArmy_sameMap ho hd).1
  | ability hteam ha =>
    obtain ⟨-, -, -, hmap, -⟩ := applyTeamAbility_ok hteam ha hok.1 hok.2
    exact h.sameMap hmap

theorem Held.turns {steps : ℚ → Prop} (hsteps : ∀ delta, steps delta → 0 ≤ delta) {id : String}
    {p p' : GameState × Accumulators} (hturns : BotTurns steps p p') (h : Held id p.1)
    (hok : BattleOk p.1 ∧ UnitsOk p.1) : Held id p'.1 := by
  have hboth : Held id p'.1 ∧ BattleOk p'.1 ∧ UnitsOk p'.1 := by
    refine hturns.preserves (P := fun q => Held id q.1 ∧ BattleOk q.1 ∧ UnitsOk q.1) ?_ ⟨h, hok⟩
    intro q q' hturn hq
    exact ⟨Held.turn hsteps hturn hq.1 hq.2, hturn.ok hsteps hq.2⟩
  exact hboth.1

/-! ### A replay is a battle -/

/-- The state and the accumulators of a replay. -/
def BotReplay.battle (r : BotReplay) : GameState × Accumulators := (r.state, r.accumulators)

/-- The second replay is the first one some turns on. -/
def Plays (r r' : BotReplay) : Prop := TickTurns r.battle r'.battle

section Plays

variable {m : BotMatch}

theorem Plays.refl (r : BotReplay) : Plays r r := Relation.ReflTransGen.refl

theorem Plays.trans {r r' r'' : BotReplay} (h : Plays r r') (g : Plays r' r'') : Plays r r'' :=
  Relation.ReflTransGen.trans h g

theorem stepTo_plays (hv : hasCaptureRecovery m.rulesVersion = true) (timestamp : ℚ)
    (r : BotReplay) : Plays r (stepTo m timestamp r) := by
  unfold stepTo
  rw [if_pos hv, stepToTick_eq]
  refine whileLoop_preserves (P := fun s => Plays r s) ?_ _ (Plays.refl r)
  intro s _ hs
  exact hs.tail (BotTurn.step s.battle rfl)

theorem dispatchMove_plays {r : BotReplay} (hp : r.playing = true) (move : TacticalMove) :
    Plays r (dispatchMove m r move) ∧ (dispatchMove m r move).playing = true := by
  unfold dispatchMove
  cases hd : dispatchArmy r.state move.fromId move.toId .enemy m.enemy.armySpeedMultiplier
      (aiArmyId r.aiActionIndex) with
  | error e => exact ⟨Plays.refl r, hp⟩
  | ok state =>
    have hc := dispatchArmy_sameClock enemy_ne_neutral hd
    refine ⟨Relation.ReflTransGen.single
      (BotTurn.dispatch (p := r.battle) enemy_ne_neutral (playing_iff.mp hp) hd), ?_⟩
    exact playing_iff.mpr (hc.status.trans (playing_iff.mp hp))

theorem spendAbility_plays {r : BotReplay} (h : ReplayOk m r) (hp : r.playing = true)
    (moves : List TacticalMove) :
    Plays r (spendAbility m r moves).1 ∧ (spendAbility m r moves).1.playing = true := by
  unfold spendAbility
  dsimp only
  split
  · exact ⟨Plays.refl r, hp⟩
  · split
    · exact ⟨Plays.refl r, hp⟩
    · next ha =>
      obtain ⟨-, -, hc, -, -⟩ := applyTeamAbility_ok enemy_ne_neutral ha h.ok h.units
      refine ⟨Relation.ReflTransGen.single
        (BotTurn.ability (p := r.battle) enemy_ne_neutral ha), ?_⟩
      exact playing_iff.mpr (hc.status.trans (playing_iff.mp hp))

theorem executeAI_plays {r : BotReplay} (h : ReplayOk m r) : Plays r (executeAI m r) := by
  unfold executeAI
  split
  · exact Plays.refl r
  · next hn =>
    have hp : r.playing = true := by
      rw [Bool.not_eq_true', Bool.not_eq_false] at hn
      exact hn
    split
    · have hspent := spendAbility_plays h hp
        (evaluateTacticalMoves r.state .enemy m.enemy.armySpeedMultiplier)
      have hsent : Plays r ((spendAbility m r
          (evaluateTacticalMoves r.state .enemy m.enemy.armySpeedMultiplier)).2.foldl
            (dispatchMove m) (spendAbility m r
              (evaluateTacticalMoves r.state .enemy m.enemy.armySpeedMultiplier)).1) ∧ _ :=
        foldl_preserves (P := fun s => Plays r s ∧ s.playing = true)
          (fun s move _ hs => ⟨hs.1.trans (dispatchMove_plays hs.2 move).1,
            (dispatchMove_plays hs.2 move).2⟩) hspent
      exact hsent.1
    · split
      · exact Plays.refl r
      · exact (dispatchMove_plays hp _).1

theorem aiUntil_plays (hv : hasCaptureRecovery m.rulesVersion = true) {r : BotReplay}
    (h : ReplayOk m r) (timestamp : ℚ) : Plays r (aiUntil m timestamp r) := by
  have hboth : Plays r (aiUntil m timestamp r) ∧ ReplayOk m (aiUntil m timestamp r) := by
    refine whileLoop_preserves (P := fun s => Plays r s ∧ ReplayOk m s) ?_ _ ⟨Plays.refl r, h⟩
    intro s _ hs
    have hstep := hs.2.stepTo s.nextAITick
    exact ⟨(hs.1.trans (stepTo_plays hv s.nextAITick s)).trans (executeAI_plays hstep),
      hstep.executeAI.congr rfl rfl⟩
  exact hboth.1

theorem playAction_plays {r : BotReplay} (hp : r.playing = true) (action : PvpAction) :
    Plays r (playAction m r action) := by
  unfold playAction
  dsimp only
  split
  · split
    · exact Plays.refl r
    · next ha =>
      exact Relation.ReflTransGen.single (BotTurn.ability (p := r.battle) player_ne_neutral ha)
  · split
    · exact Plays.refl r
    · next hd =>
      exact Relation.ReflTransGen.single
        (BotTurn.dispatch (p := r.battle) player_ne_neutral (playing_iff.mp hp) hd)

theorem playActions_plays (hv : hasCaptureRecovery m.rulesVersion = true) :
    ∀ (actions : List PvpAction) {r : BotReplay}, ReplayOk m r →
      Plays r (playActions m actions r) ∧ ReplayOk m (playActions m actions r) := by
  intro actions
  induction actions with
  | nil => intro r h; exact ⟨Plays.refl r, h⟩
  | cons action actions ih =>
    intro r h
    have hai := aiUntil_plays hv h action.atSeconds
    have hok := h.aiUntil action.atSeconds
    unfold playActions
    dsimp only
    split
    · exact ⟨hai, hok⟩
    have hstep := hai.trans (stepTo_plays hv action.atSeconds (aiUntil m action.atSeconds r))
    have hok' := hok.stepTo action.atSeconds
    split
    · exact ⟨hstep, hok'⟩
    · next hn =>
      rw [Bool.not_eq_true', Bool.not_eq_false] at hn
      obtain ⟨hrest, hend⟩ := ih (hok'.playAction action)
      exact ⟨(hstep.trans (playAction_plays hn action)).trans hrest, hend⟩

/-- **A replay is a battle whose clock counts ticks.** -/
theorem finishBattle_plays (hv : hasCaptureRecovery m.rulesVersion = true)
    (actions : List PvpAction) {r : BotReplay} (h : ReplayOk m r) :
    Plays r (finishBattle m actions r) ∧ (finishBattle m actions r).playing = false := by
  obtain ⟨hplays, hok⟩ := playActions_plays hv actions h
  have hai := hplays.trans (aiUntil_plays hv hok pvpTimeLimitSeconds)
  have hok' := hok.aiUntil pvpTimeLimitSeconds
  unfold finishBattle
  dsimp only
  split
  · exact ⟨hai.trans (stepTo_plays hv pvpTimeLimitSeconds _), stepTo_limit hok'⟩
  · next hn => exact ⟨hai, Bool.eq_false_iff.mpr hn⟩

end Plays

/-! ### The start -/

omit [MathLib] in
theorem initialReplay_playing {m : BotMatch} {r : BotReplay} (h : initialReplay m = .ok r) :
    r.playing = true ∧ r.currentTick = 0 := by
  unfold initialReplay at h
  dsimp only at h
  split at h
  · split at h
    · cases h
    · cases h
      exact ⟨rfl, rfl⟩
  · cases h
    exact ⟨rfl, rfl⟩

omit [MathLib] in
theorem initialReplay_timed {m : BotMatch} (hv : hasCaptureRecovery m.rulesVersion = true)
    {r : BotReplay} (h : initialReplay m = .ok r) (hok : ReplayOk m r) : Timed r.state := by
  obtain ⟨hp, htick⟩ := initialReplay_playing h
  have helapsed := hok.ticks hv hp
  have hrun := hok.running hp
  rw [← hok.limit] at hrun
  refine ⟨by rw [hok.version]; exact hv, hok.limit, ⟨r.currentTick, hok.tick_nonneg, helapsed⟩,
    hrun.le, fun _ => hrun, fun hdraw => ?_⟩
  rw [playing_iff.mp hp] at hdraw
  cases hdraw

/-! ### The whole replay -/

/-- A replay that is accepted is run to its end. -/
theorem simulateBotBattle_some {actions : List PvpAction} {m : BotMatch} {s : GameState}
    {summary : PvpBattleSummary}
    (h : simulateBotBattleWithCommander actions m = .ok (s, summary)) :
    ∃ r, initialReplay m = .ok r ∧ s = (finishBattle m actions r).state ∧
      summary = battleSummary (finishBattle m actions r) := by
  unfold simulateBotBattleWithCommander at h
  by_cases hs : supportedGameplayRules m.rulesVersion = false
  · rw [if_pos hs] at h
    cases h
  by_cases hl : actions.length > maxPvpActions
  · rw [if_neg hs, if_pos hl] at h
    cases h
  rw [if_neg hs, if_neg hl] at h
  cases hval : validateActions 0 0 actions with
  | error e =>
    rw [hval] at h
    cases h
  | ok u =>
    cases hr : initialReplay m with
    | error e =>
      rw [hval, hr] at h
      cases h
    | ok r =>
      rw [hval, hr] at h
      cases h
      exact ⟨r, rfl, rfl, rfl⟩

end CrownClash.Go
