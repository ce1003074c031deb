import CrownClash.Parity.SceneRecord

/-!
# A match against the bot and its record

At any moment of a match the scene stands some ticks after the replay of its record, and no
tower is selected twice (`SceneOk`): every input of the player keeps this (`SceneOk.input`),
and so the replay of the whole record ends where the scene does (`battle_reproduced`).
-/

namespace CrownClash.Parity

open Lib

variable [MathLib] {o : Ts.PvpSimulationOptions} (armyIdGenerator : ℕ → String)

/-! ### The orders of the player -/

omit [MathLib] in
theorem withMultiDispatch_start (state : GameState) :
    Ts.withMultiDispatch state ⟨[], [], .empty, 0⟩ .player = state := by
  unfold Ts.withMultiDispatch
  dsimp only
  rw [List.append_nil, add_zero]
  rfl

/-- **The cap of the scene counts the armies**: the preview has an order for every army that
leaves. -/
theorem length_previewedOrders {scene : Ts.BotScene}
    (hids : Go.AllTowers (fun id t => t.id = id) scene.gameState) (target : Territory) :
    ∀ (sourceIds : List String) (result : Ts.MultiDispatchResult),
      ((sourceIds.filterMap scene.gameState.territories.get?).foldl
          (sendNext armyIdGenerator o scene target) result).armies.length
        = result.armies.length + (sourceIds.flatMap (Ts.previewedOrders
            (Ts.getBattlefield scene.gameState.battlefieldId).roads scene.gameState (some target)
            .player o.playerModifiers.armySpeedMultiplier 1)).length := by
  intro sourceIds
  induction sourceIds with
  | nil => intro result; rfl
  | cons id sourceIds ih =>
    intro result
    rw [List.filterMap_cons, List.flatMap_cons, List.length_append]
    cases hs : scene.gameState.territories.get? id with
    | none =>
      have hnone : Ts.previewedOrders (Ts.getBattlefield scene.gameState.battlefieldId).roads
          scene.gameState (some target) .player o.playerModifiers.armySpeedMultiplier 1 id = [] := by
        unfold Ts.previewedOrders
        rw [hs]
      dsimp only
      rw [hnone, List.length_nil, zero_add]
      exact ih result
    | some source =>
      have hid := hids id source hs
      have hsent : (sendNext armyIdGenerator o scene target result source).armies.length
          = result.armies.length + (Ts.previewedOrders
            (Ts.getBattlefield scene.gameState.battlefieldId).roads scene.gameState (some target)
            .player o.playerModifiers.armySpeedMultiplier 1 id).length := by
        unfold sendNext Ts.dispatchNextArmy Ts.previewedOrders
        rw [hs]
        dsimp only
        rw [dispatchArmyOn_id _ source target .player (1 / 2)
          (armyIdGenerator (scene.generatedArmyIds + result.armies.length)),
          show (1 / 2 : ℚ) = 0.5 by norm_num]
        by_cases hsame : source.id = target.id
        · rw [if_pos hsame]
          unfold Ts.dispatchArmyOn
          rw [if_pos hsame]
          rfl
        · rw [if_neg hsame]
          cases Ts.dispatchArmyOn (Ts.getBattlefield scene.gameState.battlefieldId).roads source
              target .player 0.5 (armyIdGenerator (scene.generatedArmyIds + result.armies.length))
                o.playerModifiers.armySpeedMultiplier scene.gameState with
          | error e => rfl
          | ok d =>
            dsimp only
            rw [List.length_append]
            rfl
      dsimp only
      rw [List.foldl_cons, ih, hsent, add_assoc]

/-- What holds of a scene at any time: it follows the replay of its record, and no tower is
selected twice. -/
structure SceneOk (o : Ts.PvpSimulationOptions) (start : Ts.Replay) (scene : Ts.BotScene) :
    Prop where
  logged : Logged o start scene.matchActions (sceneBattle scene)
  selected : scene.selectedSourceIds.Nodup

/-- What a running scene knows of its battle. -/
theorem Logged.running {start : Ts.Replay} {scene : Ts.BotScene}
    (h : Logged o start scene.matchActions (sceneBattle scene))
    (hp : scene.gameState.status = .playing) :
    Go.BattleOk scene.gameState ∧
      Ts.atSeconds scene.gameState = scene.gameState.elapsedTimeSeconds := by
  obtain ⟨r, k, n, hlog⟩ := h
  have hticked := hlog.ticked hp
  have htime := atSeconds_ticked hticked
  exact ⟨battleOk_named hticked.ok, htime⟩

/-- **A drag**, to a target that is not among its sources and within the cap. -/
theorem sendDrag_logged {start : Ts.Replay} {scene : Ts.BotScene}
    (h : Logged o start scene.matchActions (sceneBattle scene))
    (hp : scene.gameState.status = .playing) {sourceIds : List String} {targetId : String}
    (hdistinct : sourceIds.Nodup) (hother : targetId ∉ sourceIds) {target : Territory}
    (ht : scene.gameState.territories.get? targetId = some target)
    (hroom : scene.matchActions.length + (Ts.previewOrderOn
      (Ts.getBattlefield scene.gameState.battlefieldId).roads scene.gameState sourceIds targetId
        .player o.playerModifiers.armySpeedMultiplier 1).orders.length ≤ Ts.maxPvpActions) :
    Logged o start
      (scene.sendDrag o armyIdGenerator (sourceIds.filterMap scene.gameState.territories.get?)
        target).matchActions
      (sceneBattle (scene.sendDrag o armyIdGenerator
        (sourceIds.filterMap scene.gameState.territories.get?) target)) := by
  obtain ⟨hok, htime⟩ := h.running hp
  have htid := hok.ids targetId target ht
  have hfrom : ∀ s ∈ sourceIds.filterMap scene.gameState.territories.get?,
      s.id ∈ sourceIds ∧ scene.gameState.territories.get? s.id = some s := by
    intro s hs
    obtain ⟨id, hid, hget⟩ := List.mem_filterMap.mp hs
    have hsid := hok.ids id s hget
    rw [hsid]
    exact ⟨hid, hget⟩
  have hmap : ((sourceIds.filterMap scene.gameState.territories.get?).map Territory.id).Sublist
      sourceIds := by
    have hsub : ∀ ids : List String,
        ((ids.filterMap scene.gameState.territories.get?).map Territory.id).Sublist ids := by
      intro ids
      induction ids with
      | nil => exact List.Sublist.refl _
      | cons id ids ih =>
        rw [List.filterMap_cons]
        cases hget : scene.gameState.territories.get? id with
        | none => exact ih.cons id
        | some s =>
          dsimp only
          rw [List.map_cons, hok.ids id s hget]
          exact ih.cons_cons id
    exact hsub sourceIds
  have hstart : Sending scene (sourceIds.filterMap scene.gameState.territories.get?) target
      ⟨[], [], .empty, 0⟩ := by
    refine ⟨⟨fun id => ?_⟩, fun s hs => ⟨List.not_mem_nil, (hfrom s hs).2, ?_⟩, ⟨?_, ?_⟩,
      hmap.nodup hdistinct, fun hc => ?_⟩
    · rw [withMultiDispatch_start]
    · rw [withMultiDispatch_start]
      exact (hfrom s hs).2
    · rw [htid]
      exact ht
    · rw [withMultiDispatch_start, htid]
      exact ht
    · rw [htid] at hc
      exact hother (hmap.subset hc)
  have hbattle : sentBattle scene ⟨[], [], .empty, 0⟩ = sceneBattle scene := by
    unfold sentBattle sceneBattle
    rw [withMultiDispatch_start]
  have hcap : scene.matchActions.length
      + ((sourceIds.filterMap scene.gameState.territories.get?).foldl
          (sendNext armyIdGenerator o scene target) ⟨[], [], .empty, 0⟩).armies.length
        ≤ Ts.maxPvpActions := by
    rw [length_previewedOrders armyIdGenerator hok.ids, List.length_nil, zero_add]
    unfold Ts.previewOrderOn at hroom
    dsimp only at hroom
    rw [ht] at hroom
    exact hroom
  have hall := Sending.all (o := o) armyIdGenerator hp htime hstart hcap
    (by rw [hbattle]; exact h)
  unfold Ts.BotScene.sendDrag
  dsimp only
  split
  · exact h
  · exact hall

omit [MathLib] in
theorem abilityCommanderId_of_ne (h : Ts.abilityCommanderId o ≠ none) :
    Ts.abilityCommanderId o = o.commanderId := by
  unfold Ts.abilityCommanderId at h ⊢
  split
  · rfl
  · next hrules =>
    rw [if_neg hrules] at h
    exact absurd rfl h

/-- **An ability of the player.** -/
theorem tryUseAbility_ok {start : Ts.Replay} {scene : Ts.BotScene} (h : SceneOk o start scene)
    (hp : scene.gameState.status = .playing) (sourceId targetId : String) :
    SceneOk o start (scene.tryUseAbility o sourceId targetId) := by
  unfold Ts.BotScene.tryUseAbility
  split
  · exact h
  next hready =>
  obtain ⟨hcommander, hroom⟩ := not_or.mp hready
  cases ha : Ts.applyPlayerAbility scene.gameState (Ts.abilityCommanderId o) sourceId targetId
      o.playerModifiers.armySpeedMultiplier (Ts.playerAbilityId scene.matchActions.length) with
  | none => exact h
  | some state =>
    dsimp only
    obtain ⟨hok, htime⟩ := h.logged.running hp
    have hgo := ha
    unfold Ts.applyPlayerAbility at hgo
    rw [applyTeamAbility_eq hok] at hgo
    obtain ⟨-, hclock, -, -⟩ := Go.applyTeamAbility_keeps Go.player_ne_neutral hgo hok
    have hnow : Ts.atSeconds state = scene.gameState.elapsedTimeSeconds := by
      rw [← htime]
      unfold Ts.atSeconds
      rw [hclock.elapsed]
    have hlegal : playOn o (sceneBattle scene).state ⟨scene.matchActions.length, Ts.atSeconds state,
        sourceId, targetId, .ability⟩ = some (Ts.unnamed state) := by
      have hname : Ts.applyPlayerAbility (Ts.unnamed scene.gameState) o.commanderId sourceId targetId
          o.playerModifiers.armySpeedMultiplier ""
            = (Ts.applyPlayerAbility scene.gameState o.commanderId sourceId targetId
                o.playerModifiers.armySpeedMultiplier
                  (Ts.playerAbilityId scene.matchActions.length)).map Ts.unnamed :=
        applyTeamAbility_unnamed scene.gameState .player o.commanderId sourceId targetId _ _
      unfold playOn sceneBattle
      dsimp only
      rw [if_pos rfl, hname, ← abilityCommanderId_of_ne hcommander, ha]
      rfl
    exact ⟨h.logged.act hp rfl (Or.inr rfl) hnow (not_le.mp hroom) hlegal, h.selected⟩


theorem releaseDrag_logged {start : Ts.Replay} {scene : Ts.BotScene} (h : SceneOk o start scene)
    (hp : scene.gameState.status = .playing) {sourceIds : List String}
    (hdistinct : sourceIds.Nodup) (targetId : String) :
    SceneOk o start (scene.releaseDrag o armyIdGenerator sourceIds targetId) := by
  unfold Ts.BotScene.releaseDrag
  split
  · exact h
  next hother =>
  dsimp only
  cases ht : scene.gameState.territories.get? targetId with
  | none => exact h
  | some target =>
    have hdrag := fun hroom => sendDrag_logged armyIdGenerator h.logged hp hdistinct hother ht hroom
    generalize sourceIds.filterMap scene.gameState.territories.get? = sources at hdrag
    cases sources with
    | nil => exact h
    | cons source sources =>
      dsimp only
      split
      · exact tryUseAbility_ok h hp _ _
      split
      · exact h
      next hroom =>
      refine ⟨hdrag (not_lt.mp hroom), ?_⟩
      unfold Ts.BotScene.sendDrag
      dsimp only
      split
      · exact h.selected
      · exact h.selected

/-! ### The selection -/

/-- Linking a tower changes the selection and nothing else, and selects no tower twice. -/
theorem linkFriendlySource_ok {start : Ts.Replay} {scene : Ts.BotScene}
    (h : SceneOk o start scene) (territory : Option Territory) :
    SceneOk o start (scene.linkFriendlySource territory) := by
  unfold Ts.BotScene.linkFriendlySource
  cases territory with
  | none => exact h
  | some territory =>
    dsimp only
    split
    · exact h
    · next hnew =>
      have hout : territory.id ∉ scene.selectedSourceIds := fun hc =>
        hnew (Or.inr (Or.inr (Or.inr hc)))
      refine ⟨h.logged, ?_⟩
      show (scene.selectedSourceIds ++ [territory.id]).Nodup
      refine List.nodup_append.mpr ⟨h.selected, List.nodup_singleton _, fun a ha b hb hab => ?_⟩
      rw [hab, List.mem_singleton.mp hb] at ha
      exact hout ha

theorem pointerMove_ok {start : Ts.Replay} {scene : Ts.BotScene} (h : SceneOk o start scene)
    (crossed : List String) (hovered : Option String) :
    SceneOk o start (scene.pointerMove crossed hovered) := by
  unfold Ts.BotScene.pointerMove
  split
  · exact h
  dsimp only
  generalize hovered.bind scene.gameState.territories.get? = hoveredTerritory
  have hlink : ∀ (s : Ts.BotScene) (t : Territory), SceneOk o start s →
      SceneOk o start (s.linkFriendlySource (some t)) :=
    fun s t hs => linkFriendlySource_ok hs (some t)
  have hlinked : ∀ towers : List Territory, SceneOk o start
      (towers.foldl (fun scene t => scene.linkFriendlySource (some t)) scene) :=
    fun towers => foldl_preserves (fun s t _ hs => hlink s t hs) h
  have hfirst := hlinked ((crossed.filterMap scene.gameState.territories.get?).filter fun t =>
    some t.id ≠ hoveredTerritory.map Territory.id)
  generalize List.foldl _ scene _ = linked at hfirst
  have hleft : SceneOk o start (linked.leaveFriendly hoveredTerritory) := by
    unfold Ts.BotScene.leaveFriendly
    cases linked.lastHoveredFriendlyId with
    | none => exact hfirst
    | some id =>
      dsimp only
      split
      · exact hfirst
      · have hok := linkFriendlySource_ok hfirst (linked.gameState.territories.get? id)
        exact ⟨hok.logged, hok.selected⟩
  unfold Ts.BotScene.hover
  cases hoveredTerritory with
  | none => exact ⟨hleft.logged, hleft.selected⟩
  | some territory =>
    dsimp only
    split
    · exact ⟨hleft.logged, hleft.selected⟩
    · exact ⟨hleft.logged, hleft.selected⟩

theorem startDrag_ok {start : Ts.Replay} {scene : Ts.BotScene} (h : SceneOk o start scene)
    (territoryId : String) : SceneOk o start (scene.startDragFromTerritory territoryId) := by
  unfold Ts.BotScene.startDragFromTerritory
  split
  · exact h
  · split
    · exact h
    · split
      · exact ⟨h.logged, List.nodup_singleton _⟩
      · exact h

theorem setAbilityTargeting_ok {start : Ts.Replay} {scene : Ts.BotScene}
    (h : SceneOk o start scene) (on : Bool) : SceneOk o start (scene.setAbilityTargeting on) := by
  unfold Ts.BotScene.setAbilityTargeting
  split
  · exact ⟨h.logged, List.nodup_nil⟩
  · exact ⟨h.logged, h.selected⟩

/-- **A tick.** -/
theorem tick_ok {start : Ts.Replay} {scene : Ts.BotScene} (h : SceneOk o start scene)
    (hp : scene.gameState.status = .playing) :
    SceneOk o start (scene.tick o armyIdGenerator) := by
  obtain ⟨hok, -⟩ := h.logged.running hp
  obtain ⟨hbattle, hsame⟩ := scene_tick (o := o) armyIdGenerator hok
  obtain ⟨r, k, n, hlog⟩ := h.logged
  refine ⟨⟨r, k, n + 1, ?_⟩, ?_⟩
  · rw [hbattle, hsame.matchActions]
    exact hlog.tick
  · rw [hsame.selectedSourceIds]
    exact h.selected

theorem stepBotMatch_ok {start : Ts.Replay} {scene : Ts.BotScene} (h : SceneOk o start scene)
    (deltaSeconds : ℚ) : SceneOk o start (scene.stepBotMatch o armyIdGenerator deltaSeconds) := by
  unfold Ts.BotScene.stepBotMatch
  split
  · exact h
  dsimp only
  generalize Ts.consumeSimulationTicks _ _ = budget
  have htick : ∀ s : Ts.BotScene, decide (s.gameState.status = .playing) = true →
      SceneOk o start s → SceneOk o start (s.tick o armyIdGenerator) :=
    fun _ hc hs => tick_ok armyIdGenerator hs (of_decide_eq_true hc)
  have hbegun : SceneOk o start { scene with botStepRemainder := budget.remainderSeconds } :=
    ⟨h.logged, h.selected⟩
  have hticked := whileLoop_preserves htick (min budget.ticks 20).toNat hbegun
  split
  · exact ⟨hticked.logged, hticked.selected⟩
  · exact hticked

/-- **Whatever happens in a running scene, it goes on following the replay of its record.** -/
theorem SceneOk.input {start : Ts.Replay} {scene : Ts.BotScene} (h : SceneOk o start scene)
    (hp : scene.gameState.status = .playing) (i : Ts.BotScene.Input) :
    SceneOk o start (scene.input o armyIdGenerator i) := by
  cases i with
  | update delta paused =>
    show SceneOk o start (scene.update o armyIdGenerator delta paused)
    unfold Ts.BotScene.update
    split
    · exact h
    · exact stepBotMatch_ok armyIdGenerator h _
  | pointerDownOn territoryId =>
    show SceneOk o start (scene.pointerDownOn o territoryId)
    unfold Ts.BotScene.pointerDownOn
    split
    · exact tryUseAbility_ok h hp _ _
    · exact startDrag_ok h _
  | pointerDown territoryId =>
    show SceneOk o start (scene.pointerDown o territoryId)
    unfold Ts.BotScene.pointerDown
    split
    · exact h
    split
    · cases territoryId with
      | none => exact setAbilityTargeting_ok h false
      | some id => exact tryUseAbility_ok h hp _ _
    · cases territoryId with
      | none => exact h
      | some id => exact startDrag_ok h id
  | pointerMove crossed hovered => exact pointerMove_ok h crossed hovered
  | pointerUp =>
    show SceneOk o start (scene.handlePointerRelease o armyIdGenerator)
    unfold Ts.BotScene.handlePointerRelease
    split
    · exact h
    · have hcancelled : SceneOk o start scene.cancelDragSelection := ⟨h.logged, List.nodup_nil⟩
      split
      · exact hcancelled
      · exact releaseDrag_logged armyIdGenerator hcancelled hp h.selected _
  | menu => exact ⟨h.logged, List.nodup_nil⟩
  | abilityButton on =>
    show SceneOk o start (if Ts.abilityCommanderId o = none then scene
      else scene.setAbilityTargeting on)
    split
    · exact h
    · exact setAbilityTargeting_ok h on


/-! ### The beginning -/

section Beginning

omit [MathLib]

/-- The opening moves garrisons and owners, and no tower. -/
theorem tacticalOpening_towers (player enemy : PlayerUpgradeModifiers) (battlefieldId : String)
    (territories : Record String Territory)
    (hids : ∀ id t, territories.get? id = some t → t.id = id) :
    (Ts.tacticalOpening player enemy battlefieldId territories).keys = territories.keys ∧
      ∀ id t, (Ts.tacticalOpening player enemy battlefieldId territories).get? id = some t →
        t.id = id := by
  have hmodify : ∀ (f : String → Territory → Territory), (∀ id t, (f id t).id = t.id) →
      ∀ (r : Record String Territory) (k : String), r.keys = territories.keys ∧
        (∀ id t, r.get? id = some t → t.id = id) → (r.modify f k).keys = territories.keys ∧
          ∀ id t, (r.modify f k).get? id = some t → t.id = id := by
    intro f hf r k h
    refine ⟨(Record.keys_modify f r k).trans h.1, fun id t ht => ?_⟩
    rw [Record.get?_modify] at ht
    split at ht
    · obtain ⟨u, hu, rfl⟩ := Option.map_eq_some_iff.mp ht
      exact (hf id u).trans (h.2 id u hu)
    · exact h.2 id t ht
  unfold Ts.tacticalOpening
  refine foldl_preserves (P := fun r : Record String Territory => r.keys = territories.keys ∧
    ∀ id t, r.get? id = some t → t.id = id) (fun r e _ hr => ?_) ?_
  · exact hmodify (Ts.makeSupport player enemy e.2) (fun _ _ => rfl) r e.1 hr
  · have hbonus := hmodify (Ts.addUnits Ts.tacticalBaseBonus) (fun _ _ => rfl)
    exact hbonus _ "e_base" (hbonus _ "p_base" ⟨rfl, hids⟩)

/-- **Every match begins well**, on whatever map it is and whatever the modifiers are. -/
theorem createInitialGameState_ticked {o : Ts.PvpSimulationOptions} {state : GameState}
    (h : Ts.createInitialGameState Ts.pvpTimeLimitSeconds o.gameplayRulesVersion o.playerModifiers
      o.enemyModifiers o.battlefieldId = .ok state) : Ticked o 0 state := by
  have hknown : ∃ b ∈ battlefields, b.id = Ts.normalizeBattlefieldId o.battlefieldId := by
    unfold Ts.normalizeBattlefieldId
    split
    · next hany =>
      obtain ⟨b, hb, he⟩ := List.any_eq_true.mp hany
      exact ⟨b, hb, of_decide_eq_true he⟩
    · decide
  have hcreated := createDefaultTerritories_eq o.playerModifiers o.enemyModifiers
    (Ts.normalizeBattlefieldId o.battlefieldId)
  have hkeys := Go.keys_createTerritoriesForBattlefield o.playerModifiers o.enemyModifiers
    (Ts.normalizeBattlefieldId o.battlefieldId)
  have hids : ∀ id t, (Go.createTerritoriesForBattlefield o.playerModifiers o.enemyModifiers
      (Ts.normalizeBattlefieldId o.battlefieldId)).get? id = some t → t.id = id :=
    Go.createTerritories_all fun t _ => Go.createTerritory_id o.playerModifiers o.enemyModifiers t
  have hstart : ∀ territories : Record String Territory, territories.keys
      = Go.territoryOrderForBattlefield (Ts.normalizeBattlefieldId o.battlefieldId) →
        (∀ id t, territories.get? id = some t → t.id = id) →
          Ticked o 0
            { battlefieldId := Ts.normalizeBattlefieldId o.battlefieldId
              territories := territories
              armies := []
              status := .playing
              elapsedTimeSeconds := 0
              timeLimitSeconds := Ts.pvpTimeLimitSeconds
              stats := .zero
              gameplayRulesVersion := o.gameplayRulesVersion
              productionReadyAtMs := .empty
              shieldedUntilMs := .empty
              playerAbilityUsed := false
              enemyAbilityUsed := false } := by
    intro territories hk hi
    exact ⟨⟨hknown, hk, hi, fun _ => rfl, le_refl _, fun _ ha => absurd ha List.not_mem_nil⟩,
      rfl, rfl, rfl, by rw [Nat.cast_zero, zero_mul], by norm_num⟩
  unfold Ts.createInitialGameState Ts.validateGameplayRulesVersion at h
  dsimp only at h
  by_cases hv : o.gameplayRulesVersion ≠ 1 ∧ o.gameplayRulesVersion ≠ 2 ∧
      o.gameplayRulesVersion ≠ 3 ∧ o.gameplayRulesVersion ≠ 4
  · rw [if_pos hv] at h
    cases h
  rw [if_neg hv] at h
  dsimp only at h
  split at h
  · cases h
  cases h
  rw [hcreated]
  by_cases hrules : Ts.usesTacticalRules o.gameplayRulesVersion = true
  · rw [if_pos hrules]
    obtain ⟨hk, hi⟩ := tacticalOpening_towers o.playerModifiers o.enemyModifiers
      (Ts.normalizeBattlefieldId o.battlefieldId) _ hids
    exact hstart _ (hk.trans hkeys) hi
  · rw [if_neg hrules]
    exact hstart _ hkeys hids

end Beginning

/-- The replay of a record before its first action. -/
def startReplay (o : Ts.PvpSimulationOptions) (state : GameState) : Ts.Replay :=
  ⟨state, .empty, 0, 0, Ts.getBotAiTickSeconds o.botDifficulty, 0, 0⟩

/-- **The new scene** follows the replay of the empty record. -/
theorem create_ok {scene : Ts.BotScene} (h : Ts.BotScene.create o = .ok scene) :
    ∃ state, Ts.createInitialGameState Ts.pvpTimeLimitSeconds o.gameplayRulesVersion
        o.playerModifiers o.enemyModifiers o.battlefieldId = .ok state ∧
      SceneOk o (startReplay o state) scene := by
  unfold Ts.BotScene.create at h
  cases hs : Ts.createInitialGameState Ts.pvpTimeLimitSeconds o.gameplayRulesVersion
      o.playerModifiers o.enemyModifiers o.battlefieldId with
  | error e =>
    rw [hs] at h
    cases h
  | ok state =>
    rw [hs] at h
    cases h
    have hticked := createInitialGameState_ticked hs
    have hpoised : Poised o 0 (startReplay o state) := by
      refine ⟨⟨hticked, fun _ => ?_, fun _ => rfl⟩, aiTicks o.botDifficulty,
        aiTicks_pos o.botDifficulty, getBotAiTickSeconds_ticks o.botDifficulty⟩
      show (0 : ℚ) = _
      rw [Nat.cast_zero, zero_mul]
    exact ⟨state, rfl, ⟨startReplay o state, 0, 0, Nat.zero_le _, rfl,
      fun _ ha => absurd ha List.not_mem_nil, rfl, hpoised, rfl, rfl⟩, List.nodup_nil⟩

theorem plays_ok {scene : Ts.BotScene} (h : Ts.BotScene.Plays o armyIdGenerator scene) :
    ∃ state, Ts.createInitialGameState Ts.pvpTimeLimitSeconds o.gameplayRulesVersion
        o.playerModifiers o.enemyModifiers o.battlefieldId = .ok state ∧
      SceneOk o (startReplay o state) scene := by
  induction h with
  | create h => exact create_ok h
  | input h hp i ih =>
    obtain ⟨state, hs, hok⟩ := ih
    exact ⟨state, hs, hok.input armyIdGenerator hp i⟩

/-! ### The end -/

/-- Two battles that were run from the same one until they were over are the same. -/
theorem Battle.ticks_unique {b : Battle} {m n : ℕ}
    (hm : ((Battle.tick o)^[m] b).state.status ≠ .playing)
    (hn : ((Battle.tick o)^[n] b).state.status ≠ .playing) :
    (Battle.tick o)^[m] b = (Battle.tick o)^[n] b := by
  have hlate : ∀ {i j : ℕ}, i ≤ j → ((Battle.tick o)^[i] b).state.status ≠ .playing →
      (Battle.tick o)^[j] b = (Battle.tick o)^[i] b := by
    intro i j hij hi
    obtain ⟨d, rfl⟩ := Nat.exists_eq_add_of_le hij
    rw [Nat.add_comm, Function.iterate_add_apply]
    exact Battle.ticks_over o hi d
  rcases le_total m n with h | h
  · exact (hlate h hm).symm
  · exact hlate h hn

/-- What the replay of a record ends with. -/
structure ReplayedAs (scene : Ts.BotScene) (final : GameState) (summary : PvpBattleSummary) :
    Prop where
  /-- All of the state but the names of the armies. -/
  state : Ts.unnamed final = Ts.unnamed scene.gameState
  status : summary.status = scene.gameState.status
  stats : summary.stats = scene.gameState.stats
  duration : summary.durationSeconds = ⌊scene.gameState.elapsedTimeSeconds⌋
  /-- No action of the record was left out. -/
  processed : summary.actionsProcessed = scene.matchActions.length

/-- **The replay of a whole record ends where its battle does.** -/
theorem LoggedAt.reproduced {state : GameState} {scene : Ts.BotScene} {r : Ts.Replay} {k n : ℕ}
    (hs : Ts.createInitialGameState Ts.pvpTimeLimitSeconds o.gameplayRulesVersion
      o.playerModifiers o.enemyModifiers o.battlefieldId = .ok state)
    (h : LoggedAt o (startReplay o state) r k n scene.matchActions (sceneBattle scene))
    (hover : scene.gameState.status ≠ .playing) :
    ∃ final summary, Ts.simulatePvpBattle scene.matchActions o = .ok (final, summary) ∧
      ReplayedAs scene final summary := by
  obtain ⟨m, hm⟩ := Nat.exists_eq_add_of_le h.poised.state.early.le
  have hlimit : ((k + m : ℕ) : ℚ) * Ts.pvpSimulationTickSeconds = Ts.pvpTimeLimitSeconds := by
    rw [← hm]
    norm_num [Ts.pvpSimulationTickSeconds, Ts.pvpTimeLimitSeconds]
  obtain ⟨r', hai, hreached⟩ := replay_reaches m h.poised
  rw [hlimit] at hai hreached
  generalize hlast : Ts.stepTo o Ts.pvpTimeLimitSeconds r' = last at hreached
  -- At the time limit no battle is running.
  have hended : last.playing = false := by
    by_contra hp
    have hlate := (hreached.poised (Bool.not_eq_false _ ▸ hp)).1.state.early
    omega
  have hstatus : ((Battle.tick o)^[m] (replayBattle r)).state.status ≠ .playing := by
    rw [← hreached.state]
    intro hc
    have hplaying : last.playing = true := decide_eq_true hc
    rw [hended] at hplaying
    cases hplaying
  have hlive : ((Battle.tick o)^[n] (replayBattle r)).state.status ≠ .playing := by
    rw [← h.battle]
    exact hover
  have hstate : Ts.unnamed last.state = Ts.unnamed scene.gameState := by
    rw [hreached.state, Battle.ticks_unique hstatus hlive, ← h.battle]
    rfl
  have hfinal : Ts.finalStep o r' = last ∨ (Ts.finalStep o r').state = last.state ∧
      (Ts.finalStep o r').actionIndex = last.actionIndex := by
    unfold Ts.finalStep
    by_cases hp : r'.playing = true
    · rw [if_pos hp]
      dsimp only
      rw [hlast, hended, if_neg Bool.false_ne_true]
      exact Or.inl rfl
    · rw [if_neg hp]
      obtain ⟨hsame, hindex⟩ := stepTo_over (o := o) Ts.pvpTimeLimitSeconds
        (Bool.eq_false_iff.mpr hp)
      rw [hlast] at hsame hindex
      exact Or.inr ⟨hsame.symm, hindex.symm⟩
  have hfinal' : (Ts.finalStep o r').state = last.state ∧
      (Ts.finalStep o r').actionIndex = last.actionIndex :=
    hfinal.elim (fun he => by rw [he]; exact ⟨rfl, rfl⟩) id
  refine ⟨(Ts.finalStep o r').state, Ts.battleSummary (Ts.finalStep o r'), ?_, ?_⟩
  · have hvalid : Ts.validateActions scene.matchActions = .ok () := by
      unfold Ts.validateActions
      rw [if_neg (not_lt.mpr h.short)]
      exact h.valid
    unfold Ts.simulatePvpBattle
    rw [hvalid, hs]
    change (Ts.playActions o scene.matchActions (startReplay o state) >>= fun r =>
      Ts.aiUntil o Ts.pvpTimeLimitSeconds r >>= fun r =>
        pure ((Ts.finalStep o r).state, Ts.battleSummary (Ts.finalStep o r))) = _
    rw [h.replays]
    change (Ts.aiUntil o Ts.pvpTimeLimitSeconds r >>= fun r =>
      pure ((Ts.finalStep o r).state, Ts.battleSummary (Ts.finalStep o r))) = _
    rw [hai]
    rfl
  · rw [hfinal'.1]
    unfold Ts.battleSummary
    rw [hfinal'.1, hfinal'.2]
    have hstatus' := congrArg GameState.status hstate
    have hstats := congrArg GameState.stats hstate
    have helapsed := congrArg GameState.elapsedTimeSeconds hstate
    refine ⟨hstate, ?_, hstats, ?_, ?_⟩
    · show (if last.state.status = .playing then .draw else last.state.status) = _
      rw [show last.state.status = scene.gameState.status from hstatus', if_neg hover]
    · show ⌊last.state.elapsedTimeSeconds⌋ = ⌊scene.gameState.elapsedTimeSeconds⌋
      rw [show last.state.elapsedTimeSeconds = scene.gameState.elapsedTimeSeconds from helapsed]
    · exact hreached.actionIndex.trans h.processed

/-- **A battle against the bot is reproduced by its record.**  However the frames fell,
whatever was dragged where and whenever an ability was spent: when the battle is over, the
replay of the recorded actions accepts them all and ends in the same state, up to the names
of the armies. -/
theorem battle_reproduced {scene : Ts.BotScene} (h : Ts.BotScene.Plays o armyIdGenerator scene)
    (hover : scene.gameState.status ≠ .playing) :
    ∃ final summary, Ts.simulatePvpBattle scene.matchActions o = .ok (final, summary) ∧
      ReplayedAs scene final summary := by
  obtain ⟨state, hs, hok⟩ := plays_ok armyIdGenerator h
  obtain ⟨r, k, n, hlog⟩ := hok.logged
  exact hlog.reproduced hs hover


/-- The inputs of a scene, as long as its battle is playing. -/
def playInputs (o : Ts.PvpSimulationOptions) (inputs : List Ts.BotScene.Input)
    (scene : Ts.BotScene) : Ts.BotScene :=
  inputs.foldl (fun scene i =>
    if scene.gameState.status = .playing then scene.input o armyIdGenerator i else scene) scene

theorem plays_inputs (inputs : List Ts.BotScene.Input) {scene : Ts.BotScene}
    (h : Ts.BotScene.Plays o armyIdGenerator scene) :
    Ts.BotScene.Plays o armyIdGenerator (playInputs armyIdGenerator o inputs scene) := by
  refine foldl_preserves (fun s i _ hs => ?_) h
  split
  · next hp => exact hs.input hp i
  · exact hs

/-- A strong side against a weak one. -/
def conquestOptions : Ts.PvpSimulationOptions where
  playerModifiers := ⟨60, 1, 40⟩
  enemyModifiers := ⟨4, 1, 1⟩
  battlefieldId := "crown_cross"
  gameplayRulesVersion := 2
  botDifficulty := .easy
  commanderId := none

/-- One drag from base to base, and the frames until it arrives. -/
def conquestInputs : List Ts.BotScene.Input :=
  [.update 40 false, .pointerDownOn "p_base", .pointerMove [] (some "e_base"), .pointerUp,
    .update 250 false, .update 300 false, .update 250 true, .update 250 false, .update 200 false,
    .update 250 false]

/-- What the scene is in the end. -/
def conquestScene : Option Ts.BotScene :=
  (Ts.BotScene.create conquestOptions).toOption.map
    (@playInputs decimalHypot (fun n => "army_" ++ toString n) conquestOptions conquestInputs)


omit [MathLib] in
/-- The match is over, and its record ends like it. -/
theorem battle_reproduced_conquest : ∃ scene ∈ conquestScene, ∃ final summary,
    @Ts.simulatePvpBattle decimalHypot scene.matchActions conquestOptions = .ok (final, summary) ∧
      ReplayedAs scene final summary := by
  have hend : conquestScene.map (fun scene => scene.gameState.status) = some .victory := by
    decide +kernel
  unfold conquestScene at hend ⊢
  cases hc : Ts.BotScene.create conquestOptions with
  | error e =>
    rw [hc] at hend
    cases hend
  | ok scene =>
    rw [hc] at hend
    have hplays := @plays_inputs decimalHypot conquestOptions (fun n => "army_" ++ toString n)
      conquestInputs scene (@Ts.BotScene.Plays.create decimalHypot _ _ _ hc)
    have hstatus := Option.some.inj hend
    refine ⟨_, rfl, @battle_reproduced decimalHypot conquestOptions _ _ hplays fun hp => ?_⟩
    dsimp only at hstatus
    rw [hp] at hstatus
    cases hstatus

end CrownClash.Parity
