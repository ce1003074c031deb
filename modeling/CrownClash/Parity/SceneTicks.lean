import CrownClash.Parity.OrderPreview
import CrownClash.Parity.TickedReplay
import CrownClash.Ts.BotScene

/-!
# A tick of a match against the bot

A scene counts its own ticks and runs the bot after one of them.  Under its names the
battle of the scene (`sceneBattle`) moves as one that has no names: a turn of the bot is
the turn of the replay (`executeAiTurn_moved`), and a tick is a tick (`scene_tick`).
-/

namespace CrownClash.Parity

open Lib

/-- The battle of a scene. -/
def sceneBattle (scene : Ts.BotScene) : Battle :=
  ⟨Ts.unnamed scene.gameState, scene.accumulators, scene.aiNextTick⟩

/-- The scene after something the bot did. -/
structure Moved (scene : Ts.BotScene) (state : GameState) (scene' : Ts.BotScene) : Prop where
  state : Ts.unnamed scene'.gameState = state
  rest : scene' = { scene with
    gameState := scene'.gameState
    generatedArmyIds := scene'.generatedArmyIds }

theorem Moved.trans {a b c : Ts.BotScene} {s t : GameState} (h : Moved a s b) (h' : Moved b t c) :
    Moved a t c := by
  refine ⟨h'.state, ?_⟩
  have hrest := h'.rest
  rw [h.rest] at hrest
  exact hrest

/-- Ticks leave the record and the selection alone. -/
structure Untouched (scene scene' : Ts.BotScene) : Prop where
  matchActions : scene'.matchActions = scene.matchActions
  selectedSourceIds : scene'.selectedSourceIds = scene.selectedSourceIds

theorem battleOk_named {state : GameState} (h : Go.BattleOk (Ts.unnamed state)) :
    Go.BattleOk state := by
  refine ⟨h.known, h.keys, h.ids, h.ready, h.elapsed, fun a ha => ?_⟩
  have harmy := h.armies _ (List.mem_map_of_mem ha)
  exact ⟨harmy.owned, harmy.routed⟩

variable [MathLib] {o : Ts.PvpSimulationOptions} (armyIdGenerator : ℕ → String)

/-! ### The turn of the bot -/

/-- A dispatch between two towers of the map. -/
theorem dispatchFromState_of_towers {state : GameState} {sourceId targetId : String}
    {source target : Territory} (hs : state.territories.get? sourceId = some source)
    (ht : state.territories.get? targetId = some target) (owner : Team) (multiplier : ℚ)
    (armyId : String) :
    Ts.dispatchFromState state sourceId targetId owner multiplier armyId
      = match Ts.dispatchArmy source target owner 0.5 armyId multiplier (some state) with
        | .error _ => .error "invalid_dispatch"
        | .ok d =>
          .ok { state with
            territories := state.territories.set sourceId d.sourceTerritory
            armies := state.armies ++ [d.army]
            stats := { state.stats with
              playerUnitsDispatched :=
                if owner = .player then state.stats.playerUnitsDispatched + d.army.units
                else state.stats.playerUnitsDispatched
              enemyUnitsDispatched :=
                if owner = .enemy then state.stats.enemyUnitsDispatched + d.army.units
                else state.stats.enemyUnitsDispatched } } := by
  unfold Ts.dispatchFromState
  rw [lookup_of_some hs, lookup_of_some ht] <;> rfl

/-- There is no dispatch from or to a tower that is not on the map. -/
theorem dispatchFromState_of_none {state : GameState} (sourceId targetId : String)
    (h : state.territories.get? sourceId = none ∨ state.territories.get? targetId = none)
    (owner : Team) (multiplier : ℚ) (armyId : String) :
    ∃ e, Ts.dispatchFromState state sourceId targetId owner multiplier armyId = .error e := by
  unfold Ts.dispatchFromState
  rcases h with h | h
  · rcases lookup_of_none h with hl | hl
    · rw [hl]
      cases Ts.lookup state.territories targetId with
      | own target => exact ⟨_, rfl⟩
      | inherited => exact ⟨_, rfl⟩
      | missing => exact ⟨_, rfl⟩
    · rw [hl]
      exact ⟨_, rfl⟩
  · cases Ts.lookup state.territories sourceId with
    | missing => exact ⟨_, rfl⟩
    | own source => rcases lookup_of_none h with hl | hl <;> rw [hl] <;> exact ⟨_, rfl⟩
    | inherited => rcases lookup_of_none h with hl | hl <;> rw [hl] <;> exact ⟨_, rfl⟩

theorem dispatchAiMove_moved (scene : Ts.BotScene) (move : Ts.AiMove) :
    Moved scene (sendMove o (Ts.unnamed scene.gameState) move)
      (scene.dispatchAiMove o armyIdGenerator move) := by
  unfold sendMove
  rw [dispatchFromState_unnamed _ _ _ _ _ (armyIdGenerator scene.generatedArmyIds)]
  unfold Ts.BotScene.dispatchAiMove
  cases hs : scene.gameState.territories.get? move.fromId with
  | none =>
    obtain ⟨e, he⟩ := dispatchFromState_of_none move.fromId move.toId (Or.inl hs) .enemy
      o.enemyModifiers.armySpeedMultiplier (armyIdGenerator scene.generatedArmyIds)
    rw [he]
    exact ⟨rfl, rfl⟩
  | some source =>
    cases ht : scene.gameState.territories.get? move.toId with
    | none =>
      obtain ⟨e, he⟩ := dispatchFromState_of_none move.fromId move.toId (Or.inr ht) .enemy
        o.enemyModifiers.armySpeedMultiplier (armyIdGenerator scene.generatedArmyIds)
      rw [he]
      exact ⟨rfl, rfl⟩
    | some target =>
      rw [dispatchFromState_of_towers hs ht]
      dsimp only
      cases Ts.dispatchArmy source target .enemy 0.5 (armyIdGenerator scene.generatedArmyIds)
          o.enemyModifiers.armySpeedMultiplier (some scene.gameState) with
      | error e => exact ⟨rfl, rfl⟩
      | ok d => exact ⟨rfl, rfl⟩

/-- Without tactical rules there is always a way, and the state is not read. -/
theorem dispatchArmy_stateless {state : GameState} {source target : Territory}
    (hs : state.territories.get? source.id = some source)
    (ht : state.territories.get? target.id = some target)
    (hv : Ts.usesTacticalRules state.gameplayRulesVersion = false) (owner : Team) (ratio : ℚ)
    (armyId : String) (multiplier : ℚ) :
    Ts.dispatchArmy source target owner ratio armyId multiplier (some state)
      = Ts.dispatchArmy source target owner ratio armyId multiplier none := by
  unfold Ts.dispatchArmy
  by_cases hsame : source.id = target.id
  · rw [if_pos hsame, if_pos hsame]
  rw [if_neg hsame, if_neg hsame]
  by_cases howner : source.owner ≠ owner
  · rw [if_pos howner, if_pos howner]
  rw [if_neg howner, if_neg howner]
  have hroute : Ts.findDispatchRoute state source.id target.id owner
      = some [source.id, target.id] := by
    rw [Ts.findDispatchRoute_on]
    unfold Ts.findDispatchRouteOn
    rw [hs, ht]
    dsimp only
    rw [if_neg (not_or.mpr ⟨hsame, howner⟩), hv, Bool.not_false, if_pos rfl]
  dsimp only
  rw [hroute, hv]
  rfl

theorem dispatchOldAiMove_moved {scene : Ts.BotScene}
    (hids : Go.AllTowers (fun id t => t.id = id) scene.gameState)
    (hv : Ts.usesTacticalRules scene.gameState.gameplayRulesVersion = false) (move : Ts.AiMove) :
    Moved scene (sendMove o (Ts.unnamed scene.gameState) move)
      (scene.dispatchOldAiMove o armyIdGenerator move) := by
  have hsame : scene.dispatchOldAiMove o armyIdGenerator move
      = scene.dispatchAiMove o armyIdGenerator move := by
    unfold Ts.BotScene.dispatchOldAiMove Ts.BotScene.dispatchAiMove
    cases hs : scene.gameState.territories.get? move.fromId with
    | none => rfl
    | some source =>
      cases ht : scene.gameState.territories.get? move.toId with
      | none => rfl
      | some target =>
        have hsid := hids _ _ hs
        have htid := hids _ _ ht
        dsimp only
        rw [dispatchArmy_stateless (hsid ▸ hs) (htid ▸ ht) hv, hsid]
  rw [hsame]
  exact dispatchAiMove_moved armyIdGenerator scene move

theorem foldl_dispatchAiMove_moved : ∀ (moves : List Ts.AiMove) (scene : Ts.BotScene),
    Moved scene (moves.foldl (sendMove o) (Ts.unnamed scene.gameState))
      (moves.foldl (fun scene move => scene.dispatchAiMove o armyIdGenerator move) scene) := by
  intro moves
  induction moves with
  | nil => intro scene; exact ⟨rfl, rfl⟩
  | cons move moves ih =>
    intro scene
    have hfirst := dispatchAiMove_moved (o := o) armyIdGenerator scene move
    have hrest := ih (scene.dispatchAiMove o armyIdGenerator move)
    rw [hfirst.state] at hrest
    rw [List.foldl_cons, List.foldl_cons]
    exact hfirst.trans hrest

theorem spendAiAbility_moved (scene : Ts.BotScene) (moves : List Ts.AiMove) :
    Moved scene (spendChoice o (Ts.unnamed scene.gameState) moves).1
        (scene.spendAiAbility o moves).1 ∧
      (scene.spendAiAbility o moves).2 = (spendChoice o (Ts.unnamed scene.gameState) moves).2 := by
  have hchoose : Ts.chooseBotAbility (Ts.unnamed scene.gameState) .enemy
      (Ts.botCommander o.botDifficulty) moves
        = Ts.chooseBotAbility scene.gameState .enemy (Ts.botCommander o.botDifficulty) moves :=
    Ts.chooseBotAbility_rename scene.gameState .enemy _ moves
  unfold Ts.BotScene.spendAiAbility spendChoice
  rw [hchoose]
  cases Ts.chooseBotAbility scene.gameState .enemy (Ts.botCommander o.botDifficulty) moves with
  | none => exact ⟨⟨rfl, rfl⟩, rfl⟩
  | some choice =>
    dsimp only
    rw [applyTeamAbility_unnamed _ _ _ _ _ _ (Ts.enemyAbilityId scene.gameState.armies.length)]
    cases Ts.applyTeamAbility scene.gameState .enemy (Ts.botCommander o.botDifficulty)
        choice.sourceId choice.targetId o.enemyModifiers.armySpeedMultiplier
          (Ts.enemyAbilityId scene.gameState.armies.length) with
    | none => exact ⟨⟨rfl, rfl⟩, rfl⟩
    | some state => exact ⟨⟨rfl, rfl⟩, rfl⟩

/-- **The bot of the scene takes the turn of the battle.** -/
theorem executeAiTurn_moved {scene : Ts.BotScene}
    (hids : Go.AllTowers (fun id t => t.id = id) scene.gameState) :
    Moved scene (botTurn o (Ts.unnamed scene.gameState))
      (scene.executeAiTurn o armyIdGenerator) := by
  unfold botTurn Ts.BotScene.executeAiTurn
  have hversion : (Ts.unnamed scene.gameState).gameplayRulesVersion
      = scene.gameState.gameplayRulesVersion := rfl
  have hterr : (Ts.unnamed scene.gameState).territories = scene.gameState.territories := rfl
  rw [hversion, hterr]
  by_cases hv : Ts.usesTacticalRules scene.gameState.gameplayRulesVersion = true
  · rw [if_pos hv, if_pos hv]
    have hmoves : Ts.evaluateTacticalMoves (Ts.unnamed scene.gameState) .enemy
        o.enemyModifiers.armySpeedMultiplier
          = Ts.evaluateTacticalMoves scene.gameState .enemy o.enemyModifiers.armySpeedMultiplier :=
      Ts.evaluateTacticalMoves_rename scene.gameState .enemy _
    rw [hmoves]
    dsimp only
    obtain ⟨hspent, hleft⟩ := spendAiAbility_moved (o := o) scene
      (Ts.evaluateTacticalMoves scene.gameState .enemy o.enemyModifiers.armySpeedMultiplier)
    have hsent := foldl_dispatchAiMove_moved (o := o) armyIdGenerator
      (scene.spendAiAbility o (Ts.evaluateTacticalMoves scene.gameState .enemy
        o.enemyModifiers.armySpeedMultiplier)).2
      (scene.spendAiAbility o (Ts.evaluateTacticalMoves scene.gameState .enemy
        o.enemyModifiers.armySpeedMultiplier)).1
    rw [hspent.state] at hsent
    rw [← hleft]
    exact hspent.trans hsent
  · rw [if_neg hv, if_neg hv]
    cases Ts.evaluateAiMove scene.gameState.territories .enemy 8 with
    | none => exact ⟨rfl, rfl⟩
    | some move =>
      exact dispatchOldAiMove_moved armyIdGenerator hids (Bool.eq_false_iff.mpr hv) move

/-! ### The ticks -/

/-- **A tick of the scene is a tick of the battle.** -/
theorem scene_tick {scene : Ts.BotScene} (h : Go.BattleOk scene.gameState) :
    sceneBattle (scene.tick o armyIdGenerator) = (sceneBattle scene).tick o ∧
      Untouched scene (scene.tick o armyIdGenerator) := by
  have hstep : Ts.stepSimulation (Ts.unnamed scene.gameState) scene.accumulators
      Ts.pvpSimulationTickSeconds = Ts.renameStep (fun _ => "")
        (Ts.stepSimulation scene.gameState scene.accumulators Ts.pvpSimulationTickSeconds) :=
    Ts.stepSimulation_rename scene.gameState scene.accumulators Ts.pvpSimulationTickSeconds
  have hδ : (0 : ℚ) ≤ Ts.pvpSimulationTickSeconds := Ts.pvpSimulationTickSeconds_pos.le
  have hok : Go.BattleOk (Ts.stepSimulation scene.gameState scene.accumulators
      Ts.pvpSimulationTickSeconds).state := by
    rw [(stepSimulation_eq h hδ (a := scene.accumulators) (b := scene.accumulators)
      fun _ _ => rfl).1]
    exact Go.stepSimulation_ok h hδ
  have hbattle : (sceneBattle scene).step = ⟨Ts.unnamed (Ts.stepSimulation scene.gameState
      scene.accumulators Ts.pvpSimulationTickSeconds).state, (Ts.stepSimulation scene.gameState
        scene.accumulators Ts.pvpSimulationTickSeconds).accumulators, scene.aiNextTick⟩ := by
    unfold Battle.step sceneBattle
    dsimp only
    rw [hstep]
    rfl
  unfold Battle.tick Battle.bot Ts.BotScene.tick
  rw [hbattle]
  dsimp only
  generalize Ts.stepSimulation scene.gameState scene.accumulators Ts.pvpSimulationTickSeconds
    = result at hok
  by_cases hdue : result.state.status = .playing ∧
      result.state.elapsedTimeSeconds ≥ scene.aiNextTick - 1 / 10 ^ 9
  · rw [if_pos hdue]
    have hdue' : (Ts.unnamed result.state).status = .playing ∧
        (Ts.unnamed result.state).elapsedTimeSeconds ≥ scene.aiNextTick - 1 / 10 ^ 9 := hdue
    rw [if_pos hdue']
    generalize hacting : ({ scene with
      gameState := result.state
      accumulators := result.accumulators
      aiNextTick := scene.aiNextTick + Ts.getBotAiTickSeconds o.botDifficulty } : Ts.BotScene)
        = acting
    have hids : Go.AllTowers (fun id t => t.id = id) acting.gameState := by
      rw [← hacting]
      exact hok.ids
    have hmoved := executeAiTurn_moved (o := o) armyIdGenerator hids
    rw [hmoved.rest]
    refine ⟨?_, ?_⟩
    · unfold sceneBattle
      dsimp only
      rw [hmoved.state, ← hacting]
    · rw [← hacting]
      exact ⟨rfl, rfl⟩
  · rw [if_neg hdue]
    have hdue' : ¬ ((Ts.unnamed result.state).status = .playing ∧
        (Ts.unnamed result.state).elapsedTimeSeconds ≥ scene.aiNextTick - 1 / 10 ^ 9) := hdue
    rw [if_neg hdue']
    exact ⟨rfl, ⟨rfl, rfl⟩⟩

end CrownClash.Parity
