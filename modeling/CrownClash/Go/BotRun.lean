import CrownClash.Go.BotBattle
import CrownClash.Go.BotMoves
import CrownClash.Go.Upgrades

/-!
# Server: what holds along a bot replay

`ReplayOk` is the invariant of the replay: the battle is well formed, no garrison
is negative, the match is the one that was issued, and the match clock is the
tick counter of the replay for the rules that count ticks.  Every operation of
the replay keeps it.  With it the last call of the clock ends the match
(`stepTo_limit`).
-/

namespace CrownClash.Go

open Lib

theorem botAiTickSeconds_pos (d : BotDifficulty) : 0 < botAiTickSeconds d := by
  cases d <;> norm_num [botAiTickSeconds]

theorem enemy_ne_neutral : Team.enemy ≠ Team.neutral := by decide

theorem player_ne_neutral : Team.player ≠ Team.neutral := by decide

structure ReplayOk (m : BotMatch) (r : BotReplay) : Prop where
  ok : BattleOk r.state
  units : UnitsOk r.state
  battlefieldId : r.state.battlefieldId = m.battlefieldId
  version : r.state.gameplayRulesVersion = m.rulesVersion
  limit : r.state.timeLimitSeconds = pvpTimeLimitSeconds
  running : r.playing = true → r.state.elapsedTimeSeconds < pvpTimeLimitSeconds
  tick_nonneg : 0 ≤ r.currentTick
  ticks : hasCaptureRecovery m.rulesVersion = true → r.playing = true →
    r.state.elapsedTimeSeconds = r.currentTick * pvpSimulationTick

/-- The invariant is about the state and, while the match runs, about its tick. -/
theorem ReplayOk.restate {m : BotMatch} {r r' : BotReplay} (h : ReplayOk m r)
    (hs : r'.state = r.state) (h0 : 0 ≤ r'.currentTick)
    (ht : r.playing = true → r'.currentTick = r.currentTick) : ReplayOk m r' where
  ok := hs ▸ h.ok
  units := hs ▸ h.units
  battlefieldId := hs ▸ h.battlefieldId
  version := hs ▸ h.version
  limit := hs ▸ h.limit
  running hp := by
    rw [BotReplay.playing, hs] at hp
    rw [hs]
    exact h.running hp
  tick_nonneg := h0
  ticks hv hp := by
    rw [BotReplay.playing, hs] at hp
    rw [hs, ht hp]
    exact h.ticks hv hp

theorem ReplayOk.congr {m : BotMatch} {r r' : BotReplay} (h : ReplayOk m r)
    (hs : r'.state = r.state) (ht : r'.currentTick = r.currentTick) : ReplayOk m r' :=
  h.restate hs (ht ▸ h.tick_nonneg) fun _ => ht

theorem playing_iff {r : BotReplay} : r.playing = true ↔ r.state.status = .playing := by
  rw [BotReplay.playing, decide_eq_true_iff]

section Step

variable [MathLib]

/-- One step of a replay whose rules do not count ticks. -/
theorem ReplayOk.step {m : BotMatch} {r : BotReplay} (h : ReplayOk m r) {delta : ℚ}
    (hδ : 0 ≤ delta) (hv : hasCaptureRecovery m.rulesVersion = false) :
    ReplayOk m (r.step delta) := by
  by_cases hp : r.state.status = .playing
  · obtain ⟨hb, hver, hl, he, hn⟩ := stepSimulation_clock h.ok hp r.accumulators hδ
    exact
      { ok := stepSimulation_ok h.ok hδ
        units := towerRule_units.stepSimulation r.accumulators h.ok hδ h.units
        battlefieldId := hb.trans h.battlefieldId
        version := hver.trans h.version
        limit := hl.trans h.limit
        running := by
          intro hp'
          change (stepSimulation r.state r.accumulators delta).1.elapsedTimeSeconds < _
          rw [he, ← h.limit]
          exact hn (playing_iff.mp hp')
        tick_nonneg := h.tick_nonneg
        ticks := fun hv' => by rw [hv] at hv'; cases hv' }
  · refine h.congr ?_ rfl
    change (stepSimulation r.state r.accumulators delta).1 = r.state
    unfold stepSimulation
    rw [if_pos hp]

/-- One step of a replay whose rules count ticks. -/
theorem ReplayOk.tick {m : BotMatch} {r : BotReplay} (h : ReplayOk m r) :
    ReplayOk m { r.step pvpSimulationTick with currentTick := r.currentTick + 1 } := by
  have hδ := pvpSimulationTick_pos.le
  have hnn := h.tick_nonneg
  by_cases hp : r.state.status = .playing
  · obtain ⟨hb, hver, hl, he, hn⟩ := stepSimulation_clock h.ok hp r.accumulators hδ
    exact
      { ok := stepSimulation_ok h.ok hδ
        units := towerRule_units.stepSimulation r.accumulators h.ok hδ h.units
        battlefieldId := hb.trans h.battlefieldId
        version := hver.trans h.version
        limit := hl.trans h.limit
        running := by
          intro hp'
          change (stepSimulation r.state r.accumulators pvpSimulationTick).1.elapsedTimeSeconds < _
          rw [he, ← h.limit]
          exact hn (playing_iff.mp hp')
        tick_nonneg := by
          change 0 ≤ r.currentTick + 1
          omega
        ticks := by
          intro hv _
          change (stepSimulation r.state r.accumulators pvpSimulationTick).1.elapsedTimeSeconds = _
          rw [he]
          exact nextElapsed_tick hnn (by rw [h.version]; exact hv) (h.ticks hv (playing_iff.mpr hp)) }
  · refine h.restate ?_ (by change 0 ≤ r.currentTick + 1; omega)
      fun hp' => absurd (playing_iff.mp hp') hp
    change (stepSimulation r.state r.accumulators pvpSimulationTick).1 = r.state
    unfold stepSimulation
    rw [if_pos hp]

/-! ### The clock of the replay -/

/-- The clock loop of the rules that count ticks. -/
def tickLoop (targetTick : ℤ) (r : BotReplay) : BotReplay :=
  whileLoop (fun r => r.playing && r.currentTick < targetTick)
    (fun r => { r.step pvpSimulationTick with currentTick := r.currentTick + 1 })
    (targetTick - r.currentTick).toNat r

theorem tickLoop_exit (targetTick : ℤ) (r : BotReplay) :
    (tickLoop targetTick r).playing = true → targetTick ≤ (tickLoop targetTick r).currentTick := by
  have h := whileLoop_exit (P := fun _ : BotReplay => True)
    (c := fun r : BotReplay => r.playing && r.currentTick < targetTick)
    (f := fun r => { r.step pvpSimulationTick with currentTick := r.currentTick + 1 })
    (m := fun r => (targetTick - r.currentTick).toNat) (fun _ _ _ => trivial) ?_
    (targetTick - r.currentTick).toNat (s := r) trivial (le_refl _)
  · intro hp
    rw [Bool.and_eq_false_iff] at h
    rcases h with h | h
    · exact absurd hp (Bool.eq_false_iff.mp h)
    · exact not_lt.mp (of_decide_eq_false h)
  · intro s hc _
    have hlt := of_decide_eq_true (Bool.and_eq_true_iff.mp hc).2
    change (targetTick - (s.currentTick + 1)).toNat < (targetTick - s.currentTick).toNat
    omega

/-- The clock loop of the first rules. -/
def timeLoop (timestamp : ℚ) (r : BotReplay) : BotReplay :=
  whileLoop (fun r => r.playing && r.currentTime + pvpSimulationTick ≤ timestamp + 1 / 10 ^ 9)
    (fun r => { r.step pvpSimulationTick with currentTime := r.currentTime + pvpSimulationTick })
    ⌊(timestamp + 1 / 10 ^ 9 - r.currentTime) / pvpSimulationTick⌋.toNat r

theorem ReplayOk.tickLoop {m : BotMatch} {r : BotReplay} (h : ReplayOk m r) (targetTick : ℤ) :
    ReplayOk m (tickLoop targetTick r) :=
  whileLoop_preserves (fun _ _ hs => hs.tick) _ h

theorem ReplayOk.timeLoop {m : BotMatch} {r : BotReplay} (h : ReplayOk m r)
    (hv : hasCaptureRecovery m.rulesVersion = false) (timestamp : ℚ) :
    ReplayOk m (timeLoop timestamp r) :=
  whileLoop_preserves
    (fun _ _ hs => (hs.step pvpSimulationTick_pos.le hv).congr rfl rfl) _ h

/-- What the clock of the first rules does after its loop. -/
def catchUp (timestamp : ℚ) (r : BotReplay) : BotReplay :=
  let remainder := timestamp - r.currentTime
  let r := if r.playing && remainder > 0 then r.step remainder else r
  let clockCorrection := timestamp - r.state.elapsedTimeSeconds
  let r := if r.playing && clockCorrection > 0 then r.step clockCorrection else r
  { r with currentTime := timestamp }

theorem stepToTime_eq (timestamp : ℚ) (r : BotReplay) :
    stepToTime timestamp r = catchUp timestamp (timeLoop timestamp r) := rfl

theorem stepToTick_eq (timestamp : ℚ) (r : BotReplay) :
    stepToTick timestamp r =
      { tickLoop ⌊timestamp / pvpSimulationTick + 1 / 10 ^ 9⌋ r with
        currentTime := (tickLoop ⌊timestamp / pvpSimulationTick + 1 / 10 ^ 9⌋ r).currentTick
          * pvpSimulationTick } := rfl

/-- A step that is taken only when some time is left. -/
theorem ReplayOk.stepIf {m : BotMatch} {r : BotReplay} (h : ReplayOk m r)
    (hv : hasCaptureRecovery m.rulesVersion = false) (delta : ℚ) :
    ReplayOk m (if r.playing && delta > 0 then r.step delta else r) := by
  split
  · next hc => exact h.step (of_decide_eq_true (Bool.and_eq_true_iff.mp hc).2).le hv
  · exact h

theorem ReplayOk.stepTo {m : BotMatch} {r : BotReplay} (h : ReplayOk m r) (timestamp : ℚ) :
    ReplayOk m (stepTo m timestamp r) := by
  unfold Go.stepTo
  by_cases hv : hasCaptureRecovery m.rulesVersion = true
  · rw [if_pos hv, stepToTick_eq]
    exact (h.tickLoop _).congr rfl rfl
  · rw [if_neg hv, stepToTime_eq]
    have hv' := Bool.eq_false_iff.mpr hv
    have h1 := (h.timeLoop hv' timestamp).stepIf hv'
      (timestamp - (Go.timeLoop timestamp r).currentTime)
    exact (h1.stepIf hv' _).congr rfl rfl

/-- **The clock at the time limit ends the match.** -/
theorem stepTo_limit {m : BotMatch} {r : BotReplay} (h : ReplayOk m r) :
    (stepTo m pvpTimeLimitSeconds r).playing = false := by
  rw [← Bool.not_eq_true]
  intro hp
  have hok := h.stepTo pvpTimeLimitSeconds
  have hlt := hok.running hp
  by_cases hv : hasCaptureRecovery m.rulesVersion = true
  · have he := hok.ticks hv hp
    unfold stepTo at hp he hlt
    rw [if_pos hv, stepToTick_eq] at hp he hlt
    have hexit := tickLoop_exit _ r hp
    have htarget : ⌊pvpTimeLimitSeconds / pvpSimulationTick + 1 / 10 ^ 9⌋ = 4500 := by
      rw [Int.floor_eq_iff]
      norm_num [pvpTimeLimitSeconds, pvpSimulationTick]
    rw [htarget] at hexit he hlt
    dsimp only at he hlt
    rw [he] at hlt
    have hq : (4500 : ℚ) ≤ ((tickLoop 4500 r).currentTick : ℚ) := by exact_mod_cast hexit
    norm_num [pvpTimeLimitSeconds, pvpSimulationTick] at hlt
    linarith
  · have hv' := Bool.eq_false_iff.mpr hv
    have hloop := h.timeLoop hv' pvpTimeLimitSeconds
    unfold stepTo at hp hlt
    rw [if_neg hv, stepToTime_eq] at hp hlt
    have hmid := hloop.stepIf hv' (pvpTimeLimitSeconds
      - (timeLoop pvpTimeLimitSeconds r).currentTime)
    unfold catchUp at hp hlt
    dsimp only at hp hlt
    generalize (if (timeLoop pvpTimeLimitSeconds r).playing
      && (pvpTimeLimitSeconds - (timeLoop pvpTimeLimitSeconds r).currentTime > 0)
      then _ else _ : BotReplay) = s at hp hlt hmid
    by_cases hc : (s.playing && pvpTimeLimitSeconds - s.state.elapsedTimeSeconds > 0) = true
    · rw [if_pos hc] at hp hlt
      obtain ⟨hsp, hpos⟩ := Bool.and_eq_true_iff.mp hc
      obtain ⟨-, -, -, he, -⟩ := stepSimulation_clock hmid.ok (playing_iff.mp hsp)
        s.accumulators (of_decide_eq_true hpos).le
      change (stepSimulation s.state s.accumulators _).1.elapsedTimeSeconds < _ at hlt
      rw [he, nextElapsed, hmid.version, if_neg hv, add_sub_cancel] at hlt
      exact lt_irrefl _ hlt
    · rw [if_neg hc] at hp hlt
      have hsp : s.playing = true := hp
      rw [hsp, Bool.true_and, decide_eq_true_iff, not_lt] at hc
      exact absurd hlt (not_lt.mpr (by linarith))

/-! ### Dispatches and abilities -/

omit [MathLib] in
/-- A dispatch or an ability between two steps. -/
theorem ReplayOk.act {m : BotMatch} {r r' : BotReplay} (h : ReplayOk m r) (hok : BattleOk r'.state)
    (hunits : UnitsOk r'.state) (hc : SameClock r.state r'.state)
    (ht : r'.currentTick = r.currentTick) : ReplayOk m r' where
  ok := hok
  units := hunits
  battlefieldId := hc.battlefieldId.trans h.battlefieldId
  version := hc.version.trans h.version
  limit := hc.timeLimit.trans h.limit
  running hp := by
    rw [hc.elapsed]
    exact h.running (playing_iff.mpr (hc.status ▸ playing_iff.mp hp))
  tick_nonneg := ht ▸ h.tick_nonneg
  ticks hv hp := by
    rw [hc.elapsed, ht]
    exact h.ticks hv (playing_iff.mpr (hc.status ▸ playing_iff.mp hp))

theorem ReplayOk.dispatched {m : BotMatch} {r r' : BotReplay} (h : ReplayOk m r)
    {sourceId targetId : String} {owner : Team} (ho : owner ≠ .neutral) {multiplier : ℚ}
    {id : String}
    (hd : dispatchArmy r.state sourceId targetId owner multiplier id = .ok r'.state)
    (ht : r'.currentTick = r.currentTick) : ReplayOk m r' :=
  h.act (dispatchArmyWithRatio_battleOk h.ok ho hd) (dispatchArmy_unitsOk h.units ho hd)
    (dispatchArmy_sameClock ho hd) ht

theorem ReplayOk.dispatchMove {m : BotMatch} {r : BotReplay} (h : ReplayOk m r)
    (move : TacticalMove) : ReplayOk m (dispatchMove m r move) := by
  unfold Go.dispatchMove
  cases hd : dispatchArmy r.state move.fromId move.toId .enemy m.enemy.armySpeedMultiplier
      (aiArmyId r.aiActionIndex) with
  | error e => exact h.congr rfl rfl
  | ok state => exact h.dispatched enemy_ne_neutral hd rfl

theorem ReplayOk.spendAbility {m : BotMatch} {r : BotReplay} (h : ReplayOk m r)
    (moves : List TacticalMove) : ReplayOk m (spendAbility m r moves).1 := by
  unfold Go.spendAbility
  dsimp only
  split
  · exact h
  · split
    · exact h
    · next ha =>
      obtain ⟨hok, hu, hc, -, -⟩ := applyTeamAbility_ok enemy_ne_neutral ha h.ok h.units
      exact h.act hok hu hc rfl

theorem ReplayOk.executeAI {m : BotMatch} {r : BotReplay} (h : ReplayOk m r) :
    ReplayOk m (executeAI m r) := by
  unfold Go.executeAI
  split
  · exact h
  · split
    · exact foldl_preserves (fun s e _ hs => hs.dispatchMove e) (h.spendAbility _)
    · split
      · exact h
      · exact h.dispatchMove _

/-- The loop that lets the bot act. -/
theorem ReplayOk.aiUntil {m : BotMatch} {r : BotReplay} (h : ReplayOk m r) (timestamp : ℚ) :
    ReplayOk m (aiUntil m timestamp r) :=
  whileLoop_preserves
    (fun s _ hs => ((hs.stepTo s.nextAITick).executeAI).congr rfl rfl) _ h

theorem ReplayOk.playAction {m : BotMatch} {r : BotReplay} (h : ReplayOk m r)
    (action : PvpAction) : ReplayOk m (playAction m r action) := by
  unfold Go.playAction
  dsimp only
  split
  · split
    · exact h
    · next ha =>
      obtain ⟨hok, hu, hc, -, -⟩ := applyTeamAbility_ok player_ne_neutral ha h.ok h.units
      exact h.act hok hu hc rfl
  · split
    · exact h
    · next hd => exact h.dispatched player_ne_neutral hd rfl

/-! ### The policy of the older rules -/

/-- A best move that can be sent. -/
def BestOk (state : GameState) (best : BestMove) : Prop :=
  ∀ score move, best = some (score, move) → MoveOk state .enemy ⟨move.1, move.2⟩

/-- **The older policy plays legal moves.** -/
theorem evaluateAIMove_ok {state : GameState} (h : BattleOk state)
    (hv : usesTacticalRules state.gameplayRulesVersion = false) {move : String × String}
    (hm : evaluateAIMove state = some move) : MoveOk state .enemy ⟨move.1, move.2⟩ := by
  have hget : ∀ id ∈ territoryOrderForBattlefield state.battlefieldId,
      state.territories.get? id = some (state.territory id) ∧ (state.territory id).id = id := by
    intro id hid
    rw [← h.keys] at hid
    obtain ⟨t, ht⟩ := Record.exists_get?_of_mem_keys hid
    have hterr : state.territory id = t := by
      rw [GameState.territory, Record.getD, ht, Option.getD_some]
    rw [hterr]
    exact ⟨ht, h.ids id t ht⟩
  have htarget : ∀ sourceId ∈ territoryOrderForBattlefield state.battlefieldId,
      (state.territory sourceId).owner = .enemy → 8 ≤ (state.territory sourceId).units →
        ∀ best, BestOk state best →
          ∀ targetId ∈ territoryOrderForBattlefield state.battlefieldId,
            BestOk state (considerTarget state (state.territory sourceId) best targetId) := by
    intro sourceId hs ho hu best hb targetId ht
    obtain ⟨hsg, hsid⟩ := hget sourceId hs
    obtain ⟨htg, htid⟩ := hget targetId ht
    have hmove : (state.territory targetId).id ≠ (state.territory sourceId).id →
        MoveOk state .enemy ⟨(state.territory sourceId).id, (state.territory targetId).id⟩ := by
      intro hne
      rw [hsid, htid] at hne ⊢
      refine ⟨⟨_, hsg, ho, by omega⟩, ⟨_, htg⟩, hne.symm, [sourceId, targetId], ?_⟩
      unfold findDispatchRoute
      simp only [hsg, htg]
      rw [if_neg (not_or.mpr ⟨hne.symm, not_not.mpr ho⟩), if_pos hv]
    unfold considerTarget
    dsimp only
    split
    · exact hb
    · next hne =>
      split
      · intro score move he
        cases he
        exact hmove hne
      · split
        · intro score move he
          cases he
          exact hmove hne
        · exact hb
  have hbest : BestOk state
      ((territoryOrderForBattlefield state.battlefieldId).foldl (considerSource state) none) := by
    refine foldl_preserves (P := BestOk state) ?_ (fun _ _ he => by cases he)
    intro best sourceId hs hb
    unfold considerSource
    dsimp only
    split
    · exact hb
    · next hc =>
      rw [not_or, not_not, not_lt] at hc
      split
      · exact hb
      · exact foldl_preserves (P := BestOk state)
          (fun b targetId ht hb' => htarget sourceId hs hc.1 hc.2 b hb' targetId ht) hb
  unfold evaluateAIMove at hm
  split at hm
  · cases hm
  · next score mv heq =>
    split at hm
    · cases hm
      exact hbest score move heq
    · cases hm

end Step

/-! ### The start -/

theorem keys_createTerritoriesForBattlefield (player enemy : PlayerUpgradeModifiers)
    (battlefieldId : String) :
    (createTerritoriesForBattlefield player enemy battlefieldId).keys
      = territoryOrderForBattlefield battlefieldId := by
  unfold createTerritoriesForBattlefield Record.keys territoryOrderForBattlefield
    BattlefieldDefinition.order
  rw [List.map_map]
  rfl

/-- What the templates of the shipped maps are like. -/
theorem templates_ok : ∀ b ∈ battlefields, ∀ t ∈ b.territories, 0 ≤ t.units := by decide

theorem tacticalSupports_mem : ∀ b ∈ battlefields, b.mode = .oneVOne →
    isBattlefieldId b.id = true ∧ b.id ≠ "quad_citadel" ∧
      (battlefieldOf b.id).id = b.id ∧
      "p_base" ∈ territoryOrderForBattlefield b.id ∧
      "e_base" ∈ territoryOrderForBattlefield b.id ∧
      (tacticalSupports b.id).1 ∈ territoryOrderForBattlefield b.id ∧
      (tacticalSupports b.id).2 ∈ territoryOrderForBattlefield b.id := by
  decide

/-- A change of one tower that the opening makes. -/
theorem updateTerritory_keys (state : GameState) {id : String} (f : Territory → Territory)
    (hid : id ∈ state.territories.keys) :
    (updateTerritory state id f).territories.keys = state.territories.keys :=
  Record.keys_set_of_mem _ hid

theorem updateTerritory_all {Q : String → Territory → Prop} {state : GameState} {id : String}
    {f : Territory → Territory} (hid : id ∈ state.territories.keys)
    (hf : ∀ t, Q id t → Q id (f t)) (h : AllTowers Q state) :
    AllTowers Q (updateTerritory state id f) := by
  obtain ⟨t, ht⟩ := Record.exists_get?_of_mem_keys hid
  have hterr : state.territory id = t := by
    rw [GameState.territory, Record.getD, ht, Option.getD_some]
  intro id' t' ht'
  change (state.territories.set id _).get? id' = some t' at ht'
  rw [Record.get?_set] at ht'
  split at ht'
  · next he =>
    cases ht'
    rw [he, hterr]
    exact hf t (h id t ht)
  · exact h id' t' ht'

/-- The tactical opening of a map that has the four towers it touches. -/
theorem applyTacticalOpening_all {Q : String → Territory → Prop} (state : GameState)
    (player enemy : PlayerUpgradeModifiers)
    (hp : "p_base" ∈ state.territories.keys) (he : "e_base" ∈ state.territories.keys)
    (h1 : (tacticalSupports state.battlefieldId).1 ∈ state.territories.keys)
    (h2 : (tacticalSupports state.battlefieldId).2 ∈ state.territories.keys)
    (hbonus : ∀ id t, Q id t → Q id (addBaseBonus t))
    (hsupport : ∀ id t owner modifiers, Q id t → Q id (makeSupport owner modifiers t))
    (h : AllTowers Q state) :
    (applyTacticalOpening state player enemy).territories.keys = state.territories.keys ∧
      AllTowers Q (applyTacticalOpening state player enemy) := by
  unfold applyTacticalOpening
  dsimp only
  have k1 := updateTerritory_keys state addBaseBonus hp
  have k2 := (updateTerritory_keys (updateTerritory state "p_base" addBaseBonus)
    addBaseBonus (k1 ▸ he)).trans k1
  have k3 := (updateTerritory_keys
    (updateTerritory (updateTerritory state "p_base" addBaseBonus) "e_base" addBaseBonus)
    (makeSupport .player player) (k2 ▸ h1)).trans k2
  refine ⟨(updateTerritory_keys _ _ (k3 ▸ h2)).trans k3, ?_⟩
  refine updateTerritory_all (k3 ▸ h2) (fun t => hsupport _ t _ _) ?_
  refine updateTerritory_all (k2 ▸ h1) (fun t => hsupport _ t _ _) ?_
  refine updateTerritory_all (k1 ▸ he) (fun t => hbonus _ t) ?_
  exact updateTerritory_all hp (fun t => hbonus _ t) h

/-- A tower of a new map. -/
theorem createTerritories_all {Q : String → Territory → Prop} {player enemy : PlayerUpgradeModifiers}
    {battlefieldId : String}
    (h : ∀ t ∈ (battlefieldOf battlefieldId).territories,
      Q t.id (createTerritory player enemy t)) :
    ∀ id t, (createTerritoriesForBattlefield player enemy battlefieldId).get? id = some t →
      Q id t := by
  intro id t ht
  obtain ⟨u, hu, he⟩ := List.mem_map.mp (Record.get?_eq_some_iff.mp ht)
  cases he
  exact h u hu

theorem createTerritory_units {player enemy : PlayerUpgradeModifiers} (hp : ModifiersOk player)
    (he : ModifiersOk enemy) {t : Territory} (ht : 0 ≤ t.units) :
    0 ≤ (createTerritory player enemy t).units := by
  unfold createTerritory
  split
  · exact hp.units
  · split
    · exact he.units
    · exact ht

/-- **A replay on a shipped map starts well.** -/
theorem initialReplay_ok {m : BotMatch} {b : BattlefieldDefinition} (hb : b ∈ battlefields)
    (hmode : b.mode = .oneVOne) (hm : m.battlefieldId = b.id) (hp : ModifiersOk m.player)
    (he : ModifiersOk m.enemy) : ∃ r, initialReplay m = .ok r ∧ ReplayOk m r := by
  obtain ⟨hid, hquad, hof, hpb, heb, h1, h2⟩ := tacticalSupports_mem b hb hmode
  have hknown : ∃ b' ∈ battlefields, b'.id = m.battlefieldId := ⟨b, hb, hm.symm⟩
  have hstate : createInitialGameStateForBattlefield m.player m.enemy m.battlefieldId
      = { createInitialGameStateForBattlefield m.player m.enemy m.battlefieldId with
          battlefieldId := m.battlefieldId
          territories := createTerritoriesForBattlefield m.player m.enemy m.battlefieldId } := by
    unfold createInitialGameStateForBattlefield
    rw [hm, if_pos hid]
  have hkeys := keys_createTerritoriesForBattlefield m.player m.enemy m.battlefieldId
  have hids : ∀ id t, (createTerritoriesForBattlefield m.player m.enemy m.battlefieldId).get? id
      = some t → t.id = id :=
    createTerritories_all fun t _ => createTerritory_id m.player m.enemy t
  have hunits : ∀ id t, (createTerritoriesForBattlefield m.player m.enemy m.battlefieldId).get? id
      = some t → 0 ≤ t.units :=
    createTerritories_all fun t ht => createTerritory_units hp he
      (templates_ok _ (battlefieldOf_mem m.battlefieldId) t ht)
  unfold initialReplay
  dsimp only
  rw [hstate]
  by_cases hv : usesTacticalRules m.rulesVersion = true
  · rw [if_pos hv, if_neg (by rw [hm]; exact hquad)]
    refine ⟨_, rfl, ?_⟩
    have hopen := fun (Q : String → Territory → Prop) => applyTacticalOpening_all (Q := Q)
      { createInitialGameStateForBattlefield m.player m.enemy m.battlefieldId with
        battlefieldId := m.battlefieldId
        territories := createTerritoriesForBattlefield m.player m.enemy m.battlefieldId
        gameplayRulesVersion := m.rulesVersion }
      m.player m.enemy
      (by rw [hkeys, hm]; exact hpb) (by rw [hkeys, hm]; exact heb)
      (by rw [hkeys, hm]; exact h1) (by rw [hkeys, hm]; exact h2)
    have hi := hopen (fun id t => t.id = id) (fun _ _ h => h) (fun _ _ _ _ h => h) hids
    have hu := hopen (fun _ t => 0 ≤ t.units) (fun _ t h => add_nonneg h (by decide))
      (fun _ _ _ _ _ => (by decide : (0 : ℤ) ≤ 14)) hunits
    exact
      { ok := ⟨hknown, hi.1.trans hkeys, hi.2, fun _ => rfl, le_refl _,
          fun _ h => absurd h List.not_mem_nil⟩
        units := hu.2
        battlefieldId := rfl
        version := rfl
        limit := rfl
        running := fun _ => by
          change (0 : ℚ) < pvpTimeLimitSeconds
          norm_num [pvpTimeLimitSeconds]
        tick_nonneg := le_refl _
        ticks := fun _ _ => by
          change (0 : ℚ) = ((0 : ℤ) : ℚ) * pvpSimulationTick
          norm_num }
  · rw [if_neg hv]
    exact ⟨_, rfl,
      { ok := ⟨hknown, hkeys, hids, fun _ => rfl, le_refl _, fun _ h => absurd h List.not_mem_nil⟩
        units := hunits
        battlefieldId := rfl
        version := rfl
        limit := rfl
        running := fun _ => by
          change (0 : ℚ) < pvpTimeLimitSeconds
          norm_num [pvpTimeLimitSeconds]
        tick_nonneg := le_refl _
        ticks := fun _ _ => by
          change (0 : ℚ) = ((0 : ℤ) : ℚ) * pvpSimulationTick
          norm_num }⟩

end CrownClash.Go
