import CrownClash.Parity.BotScene
import Mathlib.Tactic.LinearCombination

/-!
# The clock of a match against the bot

A scene keeps its own time: a frame hands out whole ticks and carries the rest on.  As
long as the battle is playing, what its clock shows and the rest together are the time of
its frames, each cut to a quarter of a second (`scene_clock`).  Nothing else moves the
clock, neither a pause nor anything the player does; so a battle whose frames make up the
time limit is over.
-/

namespace CrownClash.Parity

open Lib

/-- The time that a frame counts for. -/
def frameSeconds : Ts.BotScene.Input → Option ℚ
  | .update delta false => if delta ≤ 0 then none else some (min (delta / 1000) 0.25)
  | _ => none

def frames (inputs : List Ts.BotScene.Input) : List ℚ := inputs.filterMap frameSeconds

/-- The clock of a scene is one that was given its frames.  While the battle is playing, the
ticks of the battle and the rest that is carried on are those of the clock; the tick that
ends it may be one of several in its frame. -/
structure OnTime (c : Ts.FrameClock) (scene : Ts.BotScene) : Prop where
  ok : c.Ok
  past : scene.gameState.elapsedTimeSeconds ≤ c.ticks * Ts.pvpSimulationTickSeconds
  exact : scene.gameState.status = .playing →
    scene.gameState.elapsedTimeSeconds = c.ticks * Ts.pvpSimulationTickSeconds ∧
      scene.botStepRemainder = c.remainder

/-- What moves neither. -/
structure SameTime (scene scene' : Ts.BotScene) : Prop where
  elapsed : scene'.gameState.elapsedTimeSeconds = scene.gameState.elapsedTimeSeconds
  remainder : scene'.botStepRemainder = scene.botStepRemainder

theorem SameTime.refl (scene : Ts.BotScene) : SameTime scene scene := ⟨rfl, rfl⟩

theorem SameTime.trans {a b c : Ts.BotScene} (h : SameTime a b) (g : SameTime b c) :
    SameTime a c :=
  ⟨g.elapsed.trans h.elapsed, g.remainder.trans h.remainder⟩

/-- What moves neither keeps the clock of a running battle. -/
theorem OnTime.same {c : Ts.FrameClock} {scene scene' : Ts.BotScene} (h : OnTime c scene)
    (hp : scene.gameState.status = .playing) (hs : SameTime scene scene') : OnTime c scene' := by
  obtain ⟨helapsed, hremainder⟩ := h.exact hp
  refine ⟨h.ok, ?_, fun _ => ⟨hs.elapsed.trans helapsed, hs.remainder.trans hremainder⟩⟩
  rw [hs.elapsed]
  exact h.past

/-! ### The player moves no clock -/

theorem startDrag_sameTime (scene : Ts.BotScene) (territoryId : String) :
    SameTime scene (scene.startDragFromTerritory territoryId) := by
  unfold Ts.BotScene.startDragFromTerritory
  split
  · exact .refl scene
  · split
    · exact .refl scene
    · split
      · exact ⟨rfl, rfl⟩
      · exact .refl scene

theorem linkFriendlySource_sameTime (scene : Ts.BotScene) (territory : Option Territory) :
    SameTime scene (scene.linkFriendlySource territory) := by
  unfold Ts.BotScene.linkFriendlySource
  cases territory with
  | none => exact .refl scene
  | some territory =>
    dsimp only
    split
    · exact .refl scene
    · exact ⟨rfl, rfl⟩

theorem leaveFriendly_sameTime (scene : Ts.BotScene) (hovered : Option Territory) :
    SameTime scene (scene.leaveFriendly hovered) := by
  unfold Ts.BotScene.leaveFriendly
  cases scene.lastHoveredFriendlyId with
  | none => exact .refl scene
  | some id =>
    dsimp only
    split
    · exact .refl scene
    · have hlink := linkFriendlySource_sameTime scene (scene.gameState.territories.get? id)
      exact ⟨hlink.elapsed, hlink.remainder⟩

theorem hover_sameTime (scene : Ts.BotScene) (hovered : Option Territory) :
    SameTime scene (scene.hover hovered) := by
  cases hovered with
  | none => exact ⟨rfl, rfl⟩
  | some territory =>
    unfold Ts.BotScene.hover
    dsimp only
    split
    · exact ⟨rfl, rfl⟩
    · exact ⟨rfl, rfl⟩

theorem pointerMove_sameTime (scene : Ts.BotScene) (crossed : List String)
    (hovered : Option String) : SameTime scene (scene.pointerMove crossed hovered) := by
  unfold Ts.BotScene.pointerMove
  split
  · exact .refl scene
  dsimp only
  have hlinked : ∀ towers : List Territory, SameTime scene
      (towers.foldl (fun scene t => scene.linkFriendlySource (some t)) scene) :=
    fun towers => foldl_preserves
      (fun s t _ hs => hs.trans (linkFriendlySource_sameTime s (some t))) (.refl scene)
  exact ((hlinked _).trans (leaveFriendly_sameTime _ _)).trans (hover_sameTime _ _)

theorem setAbilityTargeting_sameTime (scene : Ts.BotScene) (on : Bool) :
    SameTime scene (scene.setAbilityTargeting on) := by
  unfold Ts.BotScene.setAbilityTargeting
  split
  · exact ⟨rfl, rfl⟩
  · exact ⟨rfl, rfl⟩

variable [MathLib] {o : Ts.PvpSimulationOptions} (armyIdGenerator : ℕ → String)

theorem sendDrag_sameTime (scene : Ts.BotScene) (sources : List Territory) (target : Territory) :
    SameTime scene (scene.sendDrag o armyIdGenerator sources target) := by
  unfold Ts.BotScene.sendDrag
  dsimp only
  split
  · exact .refl scene
  · exact ⟨rfl, rfl⟩

theorem tryUseAbility_sameTime {scene : Ts.BotScene} (hok : Go.BattleOk scene.gameState)
    (sourceId targetId : String) :
    SameTime scene (scene.tryUseAbility o sourceId targetId) := by
  unfold Ts.BotScene.tryUseAbility
  split
  · exact .refl scene
  cases ha : Ts.applyPlayerAbility scene.gameState (Ts.abilityCommanderId o) sourceId targetId
      o.playerModifiers.armySpeedMultiplier (Ts.playerAbilityId scene.matchActions.length) with
  | none => exact .refl scene
  | some state =>
    unfold Ts.applyPlayerAbility at ha
    rw [applyTeamAbility_eq hok] at ha
    obtain ⟨-, hclock, -, -⟩ := Go.applyTeamAbility_keeps Go.player_ne_neutral ha hok
    exact ⟨hclock.elapsed, rfl⟩

theorem releaseDrag_sameTime (scene : Ts.BotScene) (hok : Go.BattleOk scene.gameState)
    (sourceIds : List String) (targetId : String) :
    SameTime scene (scene.releaseDrag o armyIdGenerator sourceIds targetId) := by
  unfold Ts.BotScene.releaseDrag
  split
  · exact .refl scene
  dsimp only
  split
  · split
    · exact tryUseAbility_sameTime hok _ _
    · split
      · exact .refl scene
      · exact sendDrag_sameTime armyIdGenerator scene _ _
  · exact .refl scene

theorem handlePointerRelease_sameTime {scene : Ts.BotScene} (hok : Go.BattleOk scene.gameState) :
    SameTime scene (scene.handlePointerRelease o armyIdGenerator) := by
  unfold Ts.BotScene.handlePointerRelease
  have hcancelled : SameTime scene scene.cancelDragSelection := ⟨rfl, rfl⟩
  split
  · exact .refl scene
  · split
    · exact hcancelled
    · exact hcancelled.trans
        (releaseDrag_sameTime armyIdGenerator scene.cancelDragSelection hok _ _)

/-- **Nothing that counts for no time moves the clock.** -/
theorem input_sameTime {scene : Ts.BotScene} (hok : Go.BattleOk scene.gameState)
    {i : Ts.BotScene.Input} (hi : frameSeconds i = none) :
    SameTime scene (scene.input o armyIdGenerator i) := by
  cases i with
  | update delta paused =>
    show SameTime scene (scene.update o armyIdGenerator delta paused)
    unfold Ts.BotScene.update
    split
    · exact .refl scene
    · next hrun =>
      obtain ⟨hdelta, hrest⟩ := not_or.mp hrun
      obtain ⟨-, hpaused⟩ := not_or.mp hrest
      rw [Bool.not_eq_true] at hpaused
      rw [hpaused] at hi
      change (if delta ≤ 0 then none else some (min (delta / 1000) 0.25)) = none at hi
      rw [if_neg hdelta] at hi
      cases hi
  | pointerDownOn territoryId =>
    show SameTime scene (scene.pointerDownOn o territoryId)
    unfold Ts.BotScene.pointerDownOn
    split
    · exact tryUseAbility_sameTime hok _ _
    · exact startDrag_sameTime scene territoryId
  | pointerDown territoryId =>
    show SameTime scene (scene.pointerDown o territoryId)
    unfold Ts.BotScene.pointerDown
    split
    · exact .refl scene
    · split
      · cases territoryId with
        | none => exact setAbilityTargeting_sameTime scene false
        | some id => exact tryUseAbility_sameTime hok id id
      · cases territoryId with
        | none => exact .refl scene
        | some id => exact startDrag_sameTime scene id
  | pointerMove crossed hovered => exact pointerMove_sameTime scene crossed hovered
  | pointerUp => exact handlePointerRelease_sameTime armyIdGenerator hok
  | menu => exact ⟨rfl, rfl⟩
  | abilityButton on =>
    show SameTime scene (if Ts.abilityCommanderId o = none then scene
      else scene.setAbilityTargeting on)
    split
    · exact .refl scene
    · exact setAbilityTargeting_sameTime scene on


/-! ### A frame -/

theorem clientStep_ok {state : GameState} (hok : Go.BattleOk state)
    (accumulators : Accumulators) :
    Go.BattleOk (Ts.stepSimulation state accumulators Ts.pvpSimulationTickSeconds).state := by
  have hδ : (0 : ℚ) ≤ Ts.pvpSimulationTickSeconds := Ts.pvpSimulationTickSeconds_pos.le
  rw [(stepSimulation_eq hok hδ (a := accumulators) (b := accumulators) fun _ _ => rfl).1]
  exact Go.stepSimulation_ok hok hδ

/-- A turn of the bot moves no clock. -/
theorem botTurn_sameClock {state : GameState} (hok : Go.BattleOk state)
    (hp : state.status = .playing) : Go.SameClock state (botTurn o (Ts.unnamed state)) := by
  obtain ⟨r', -, hturn, hacted⟩ := executeAiAction_turn (o := o)
    (r := ⟨state, .empty, 0, 0, 0, 0, 0⟩) hok (decide_eq_true hp)
  rw [← hturn]
  exact ⟨hacted.clock.battlefieldId, hacted.clock.version, hacted.clock.timeLimit,
    hacted.clock.status, hacted.clock.elapsed⟩

/-- **A tick of a running battle** moves the clock by its length, also the one that ends it. -/
theorem tick_elapsed {start : Ts.Replay} {scene : Ts.BotScene} (h : SceneOk o start scene)
    (hp : scene.gameState.status = .playing) :
    (scene.tick o armyIdGenerator).gameState.elapsedTimeSeconds
      = scene.gameState.elapsedTimeSeconds + Ts.pvpSimulationTickSeconds := by
  obtain ⟨r, k, n, hlog⟩ := h.logged
  have hticked : Ticked o (k + n) (sceneBattle scene).state := hlog.ticked hp
  have hnamed : Ticked o (k + n) scene.gameState :=
    ⟨battleOk_named hticked.ok, hp, hticked.version, hticked.limit, hticked.elapsed, hticked.early⟩
  have hstep := hnamed.elapsed_step scene.accumulators
  have hok := clientStep_ok hnamed.ok scene.accumulators
  have hbattle : (sceneBattle scene).step = _ :=
    (replayBattle_step ⟨scene.gameState, scene.accumulators, 0, 0, scene.aiNextTick, 0, 0⟩).symm
  have hbot : ((sceneBattle scene).tick o).state.elapsedTimeSeconds
      = ((k + n + 1 : ℕ) : ℚ) * Ts.pvpSimulationTickSeconds := by
    unfold Battle.tick Battle.bot
    rw [hbattle]
    split
    · next hdue =>
      have hturn := (botTurn_sameClock (o := o) hok hdue.1).elapsed
      exact hturn.trans hstep
    · exact hstep
  have hbefore : scene.gameState.elapsedTimeSeconds
      = ((k + n : ℕ) : ℚ) * Ts.pvpSimulationTickSeconds := hticked.elapsed
  rw [← (scene_tick (o := o) armyIdGenerator (h.logged.running hp).1).1] at hbot
  have hafter : (scene.tick o armyIdGenerator).gameState.elapsedTimeSeconds = _ := hbot
  rw [hafter, hbefore]
  push_cast
  ring

theorem tick_remainder {scene : Ts.BotScene} (hok : Go.BattleOk scene.gameState) :
    (scene.tick o armyIdGenerator).botStepRemainder = scene.botStepRemainder := by
  have hstepped := (clientStep_ok hok scene.accumulators).ids
  unfold Ts.BotScene.tick
  dsimp only
  generalize hacting : { scene with
    gameState := (Ts.stepSimulation scene.gameState scene.accumulators
      Ts.pvpSimulationTickSeconds).state
    accumulators := (Ts.stepSimulation scene.gameState scene.accumulators
      Ts.pvpSimulationTickSeconds).accumulators
    aiNextTick := scene.aiNextTick + Ts.getBotAiTickSeconds o.botDifficulty } = acting
  have hids : Go.AllTowers (fun id t => t.id = id) acting.gameState := by
    rw [← hacting]
    exact hstepped
  split
  · rw [(executeAiTurn_moved (o := o) armyIdGenerator hids).rest, ← hacting]
  · rfl

/-- **The ticks of a frame**: all of them are made if the battle is playing after them. -/
theorem ticks_elapsed {start : Ts.Replay} : ∀ (n : ℕ) {scene : Ts.BotScene},
    SceneOk o start scene → ∀ {scene' : Ts.BotScene},
      whileLoop (fun s => s.gameState.status = .playing) (Ts.BotScene.tick o armyIdGenerator) n
        scene = scene' →
      scene'.gameState.elapsedTimeSeconds
          ≤ scene.gameState.elapsedTimeSeconds + n * Ts.pvpSimulationTickSeconds ∧
        (scene'.gameState.status = .playing →
          scene'.gameState.elapsedTimeSeconds
              = scene.gameState.elapsedTimeSeconds + n * Ts.pvpSimulationTickSeconds ∧
            scene'.botStepRemainder = scene.botStepRemainder) := by
  have hτ := Ts.pvpSimulationTickSeconds_pos
  intro n
  induction n with
  | zero =>
    intro scene _ scene' hloop
    cases hloop
    rw [Nat.cast_zero, zero_mul, add_zero]
    exact ⟨le_refl _, fun _ => ⟨rfl, rfl⟩⟩
  | succ n ih =>
    intro scene h scene' hloop
    unfold whileLoop at hloop
    by_cases hp : scene.gameState.status = .playing
    · rw [if_pos (decide_eq_true hp)] at hloop
      obtain ⟨hle, heq⟩ := ih (tick_ok armyIdGenerator h hp) hloop
      rw [tick_elapsed armyIdGenerator h hp] at hle heq
      rw [tick_remainder armyIdGenerator (h.logged.running hp).1] at heq
      push_cast
      refine ⟨by linarith, fun hp' => ⟨?_, (heq hp').2⟩⟩
      rw [(heq hp').1]
      ring
    · rw [if_neg (by rw [decide_eq_true_iff]; exact hp)] at hloop
      cases hloop
      refine ⟨?_, fun hp' => absurd hp' hp⟩
      have hpos : (0 : ℚ) ≤ ((n + 1 : ℕ) : ℚ) * Ts.pvpSimulationTickSeconds := by positivity
      linarith

omit [MathLib] in
/-- A frame of a quarter of a second never has too many ticks for one call. -/
theorem ticks_le {remainder delta : ℚ} (hlow : 0 ≤ remainder)
    (hhigh : remainder < Ts.pvpSimulationTickSeconds) (hd : delta ≤ 0.25) :
    (Ts.consumeSimulationTicks remainder delta).ticks ≤ 20 := by
  have hτ := Ts.pvpSimulationTickSeconds_pos
  have hdelta : max 0 delta ≤ 0.25 := max_le (by norm_num) hd
  have hlt : (max 0 remainder + max 0 delta + Ts.clockTolerance) / Ts.pvpSimulationTickSeconds
      < ((21 : ℤ) : ℚ) := by
    have hsize : (21 : ℚ) * Ts.pvpSimulationTickSeconds = 0.42 := by
      norm_num [Ts.pvpSimulationTickSeconds]
    have hpart : Ts.pvpSimulationTickSeconds = 0.02 := rfl
    have htolerance : Ts.clockTolerance ≤ 0.01 := by norm_num [Ts.clockTolerance]
    rw [div_lt_iff₀ hτ, max_eq_right hlow]
    push_cast
    rw [hsize]
    rw [hpart] at hhigh
    linarith
  have hfloor := Int.floor_lt.mpr hlt
  unfold Ts.consumeSimulationTicks
  dsimp only
  omega

omit [MathLib] in
theorem ticks_nonneg (remainder delta : ℚ) :
    0 ≤ (Ts.consumeSimulationTicks remainder delta).ticks := by
  have hτ := Ts.pvpSimulationTickSeconds_pos
  refine Int.floor_nonneg.mpr (div_nonneg ?_ hτ.le)
  have htolerance : (0 : ℚ) ≤ Ts.clockTolerance := by norm_num [Ts.clockTolerance]
  linarith [le_max_left (0 : ℚ) remainder, le_max_left (0 : ℚ) delta]

omit [MathLib] in
/-- A clock that gets a frame more does not go back. -/
theorem frame_ticks_le (c : Ts.FrameClock) (delta : ℚ) : c.ticks ≤ (c.frame delta).ticks :=
  le_add_of_nonneg_right (ticks_nonneg c.remainder delta)

/-- **A frame of the scene is a frame of its clock.** -/
theorem stepBotMatch_onTime {start : Ts.Replay} {scene : Ts.BotScene} {c : Ts.FrameClock}
    (h : SceneOk o start scene) (hc : OnTime c scene) (hp : scene.gameState.status = .playing)
    {delta : ℚ} (hd : 0 < delta) :
    OnTime (c.frame (min delta 0.25)) (scene.stepBotMatch o armyIdGenerator delta) := by
  obtain ⟨hlow, hhigh⟩ := hc.ok
  obtain ⟨hclock, hrest⟩ := hc.exact hp
  have hrem : ¬ scene.botStepRemainder < 0 := by
    rw [hrest]
    exact not_lt.mpr hlow
  have hticks := ticks_le hlow hhigh (min_le_right delta 0.25)
  have hframe := (Ts.FrameClock.frame_spec hlow
    (le_min hd.le (by norm_num : (0 : ℚ) ≤ 0.25))).1
  unfold Ts.BotScene.stepBotMatch
  rw [if_neg (not_le.mpr hd)]
  dsimp only
  rw [if_neg hrem, hrest]
  unfold Ts.FrameClock.frame at hframe ⊢
  have hpos := ticks_nonneg c.remainder (min delta 0.25)
  generalize Ts.consumeSimulationTicks c.remainder (min delta 0.25) = budget
    at hticks hframe hpos ⊢
  rw [min_eq_left hticks, if_neg (lt_irrefl _)]
  have hbegun : SceneOk o start { scene with botStepRemainder := budget.remainderSeconds } :=
    ⟨h.logged, h.selected⟩
  obtain ⟨hle, heq⟩ := ticks_elapsed armyIdGenerator budget.ticks.toNat hbegun rfl
  have hcast : ((budget.ticks.toNat : ℕ) : ℚ) = budget.ticks := by
    exact_mod_cast Int.toNat_of_nonneg hpos
  have hsum : scene.gameState.elapsedTimeSeconds
      + (budget.ticks.toNat : ℕ) * Ts.pvpSimulationTickSeconds
        = ((c.ticks + budget.ticks : ℤ) : ℚ) * Ts.pvpSimulationTickSeconds := by
    rw [hclock, hcast]
    push_cast
    ring
  refine ⟨hframe, hle.trans hsum.le, fun hp' => ⟨(heq hp').1.trans hsum, (heq hp').2⟩⟩

/-- **Any input** of a running battle. -/
theorem input_onTime {start : Ts.Replay} {scene : Ts.BotScene} {c : Ts.FrameClock}
    (h : SceneOk o start scene) (hc : OnTime c scene) (hp : scene.gameState.status = .playing)
    (i : Ts.BotScene.Input) :
    OnTime ((frameSeconds i).toList.foldl Ts.FrameClock.frame c)
      (scene.input o armyIdGenerator i) := by
  cases hi : frameSeconds i with
  | none =>
    obtain ⟨hok, -⟩ := h.logged.running hp
    exact hc.same hp (input_sameTime armyIdGenerator hok hi)
  | some seconds =>
    cases i with
    | update delta paused =>
      cases paused with
      | true => cases hi
      | false =>
        change (if delta ≤ 0 then none else some (min (delta / 1000) 0.25)) = some seconds at hi
        by_cases hd : delta ≤ 0
        · rw [if_pos hd] at hi
          cases hi
        rw [if_neg hd] at hi
        have hrun : ¬ (delta ≤ 0 ∨ scene.gameState.status ≠ .playing ∨ false = true) := by
          rintro (hc | hc | hc)
          · exact hd hc
          · exact hc hp
          · cases hc
        have hinput : scene.input o armyIdGenerator (.update delta false)
            = scene.stepBotMatch o armyIdGenerator (delta / 1000) := if_neg hrun
        rw [hinput, ← Option.some.inj hi]
        exact stepBotMatch_onTime armyIdGenerator h hc hp
          (div_pos (not_le.mp hd) (by norm_num))
    | pointerDownOn territoryId => cases hi
    | pointerDown territoryId => cases hi
    | pointerMove crossed hovered => cases hi
    | pointerUp => cases hi
    | menu => cases hi
    | abilityButton on => cases hi

/-! ### A match -/

theorem playInputs_ok {start : Ts.Replay} (inputs : List Ts.BotScene.Input) {scene : Ts.BotScene}
    (h : SceneOk o start scene) : SceneOk o start (playInputs armyIdGenerator o inputs scene) := by
  refine foldl_preserves (P := fun s => SceneOk o start s) (fun s i _ hs => ?_) h
  split
  · next hp => exact hs.input armyIdGenerator hp i
  · exact hs

omit [MathLib] in
theorem frames_nonneg (inputs : List Ts.BotScene.Input) : ∀ d ∈ frames inputs, 0 ≤ d := by
  intro d hd
  obtain ⟨i, -, hi⟩ := List.mem_filterMap.mp hd
  cases i with
  | update delta paused =>
    cases paused with
    | true => cases hi
    | false =>
      change (if delta ≤ 0 then none else some (min (delta / 1000) 0.25)) = some d at hi
      split at hi
      · cases hi
      · next hpos =>
        rw [← Option.some.inj hi]
        exact le_min (div_nonneg (not_le.mp hpos).le (by norm_num)) (by norm_num)
  | pointerDownOn territoryId => cases hi
  | pointerDown territoryId => cases hi
  | pointerMove crossed hovered => cases hi
  | pointerUp => cases hi
  | menu => cases hi
  | abilityButton on => cases hi

omit [MathLib] in
/-- A clock that goes on after its battle is over. -/
theorem OnTime.later {c : Ts.FrameClock} {scene : Ts.BotScene} (h : OnTime c scene)
    (hover : scene.gameState.status ≠ .playing) {deltas : List ℚ} (hd : ∀ d ∈ deltas, 0 ≤ d) :
    OnTime (deltas.foldl Ts.FrameClock.frame c) scene := by
  refine foldl_preserves (P := fun c => OnTime c scene) (fun c d hmem hc => ?_) h
  have hτ := Ts.pvpSimulationTickSeconds_pos
  have hticks : (c.ticks : ℚ) ≤ (c.frame d).ticks := by exact_mod_cast frame_ticks_le c d
  exact ⟨(Ts.FrameClock.frame_spec hc.ok.1 (hd d hmem)).1,
    hc.past.trans (mul_le_mul_of_nonneg_right hticks hτ.le), fun hp => absurd hp hover⟩

/-- **The inputs of a match** keep its clock. -/
theorem playInputs_onTime {start : Ts.Replay} : ∀ (inputs : List Ts.BotScene.Input)
    {scene : Ts.BotScene} {c : Ts.FrameClock}, SceneOk o start scene → OnTime c scene →
      OnTime ((frames inputs).foldl Ts.FrameClock.frame c)
        (playInputs armyIdGenerator o inputs scene) := by
  intro inputs
  induction inputs with
  | nil => intro scene c _ hc; exact hc
  | cons i inputs ih =>
    intro scene c h hc
    by_cases hp : scene.gameState.status = .playing
    · have hframes : frames (i :: inputs) = (frameSeconds i).toList ++ frames inputs := by
        unfold frames
        rw [List.filterMap_cons]
        cases frameSeconds i <;> rfl
      have hplay : playInputs armyIdGenerator o (i :: inputs) scene
          = playInputs armyIdGenerator o inputs (scene.input o armyIdGenerator i) := by
        unfold playInputs
        rw [List.foldl_cons, if_pos hp]
      rw [hframes, hplay, List.foldl_append]
      exact ih (h.input armyIdGenerator hp i) (input_onTime armyIdGenerator h hc hp i)
    · have hover : playInputs armyIdGenerator o (i :: inputs) scene = scene := by
        refine foldl_preserves (P := fun s => s = scene) (fun s j _ hs => ?_) rfl
        rw [hs, if_neg hp]
      rw [hover]
      exact hc.later hp (frames_nonneg _)

/-- The clock of a match from its beginning. -/
theorem plays_onTime {scene : Ts.BotScene} (h : Ts.BotScene.create o = .ok scene)
    (inputs : List Ts.BotScene.Input) :
    OnTime ((frames inputs).foldl Ts.FrameClock.frame .start)
      (playInputs armyIdGenerator o inputs scene) := by
  obtain ⟨state, hs, hok⟩ := create_ok h
  refine playInputs_onTime armyIdGenerator inputs hok ?_
  unfold Ts.BotScene.create at h
  rw [hs] at h
  cases h
  have hzero : state.elapsedTimeSeconds
      = ((Ts.FrameClock.start.ticks : ℤ) : ℚ) * Ts.pvpSimulationTickSeconds := by
    rw [(createInitialGameState_ticked hs).elapsed]
    exact congrArg (· * Ts.pvpSimulationTickSeconds) Nat.cast_zero
  exact ⟨⟨le_refl 0, Ts.pvpSimulationTickSeconds_pos⟩, hzero.le, fun _ => ⟨hzero, rfl⟩⟩

omit [MathLib] in
/-- What a clock shows after frames. -/
theorem frames_time (inputs : List Ts.BotScene.Input) :
    (frames inputs).sum ≤ ((frames inputs).foldl Ts.FrameClock.frame .start).time ∧
      ((frames inputs).foldl Ts.FrameClock.frame .start).time
        ≤ (frames inputs).sum + (frames inputs).length * Ts.clockTolerance := by
  have hspec := Ts.FrameClock.frames_spec (c := .start) (le_refl 0) (frames_nonneg inputs)
  have hzero : Ts.FrameClock.start.time = 0 := by
    unfold Ts.FrameClock.time Ts.FrameClock.start
    rw [Int.cast_zero, zero_mul, add_zero]
  rw [hzero, zero_add] at hspec
  exact hspec

/-- A battle that is playing is behind its frames by less than a tick. -/
theorem frames_behind {scene : Ts.BotScene} (h : Ts.BotScene.create o = .ok scene)
    (inputs : List Ts.BotScene.Input)
    (hp : (playInputs armyIdGenerator o inputs scene).gameState.status = .playing) :
    (frames inputs).sum
      < (playInputs armyIdGenerator o inputs scene).gameState.elapsedTimeSeconds
        + Ts.pvpSimulationTickSeconds := by
  have hon := plays_onTime armyIdGenerator h inputs
  obtain ⟨hlow, -⟩ := frames_time inputs
  unfold Ts.FrameClock.time at hlow
  rw [(hon.exact hp).1]
  linarith [hon.ok.2]

/-- **A battle is over when its frames make up the time limit.** -/
theorem scene_over {scene : Ts.BotScene} (h : Ts.BotScene.create o = .ok scene)
    {inputs : List Ts.BotScene.Input} (hlimit : Ts.pvpTimeLimitSeconds ≤ (frames inputs).sum) :
    (playInputs armyIdGenerator o inputs scene).gameState.status ≠ .playing := by
  intro hp
  obtain ⟨state, hs, hok⟩ := create_ok h
  obtain ⟨r, k, n, hlog⟩ := (playInputs_ok armyIdGenerator inputs hok).logged
  have hticked := hlog.ticked hp
  have helapsed : (playInputs armyIdGenerator o inputs scene).gameState.elapsedTimeSeconds
      = (k + n : ℕ) * Ts.pvpSimulationTickSeconds := hticked.elapsed
  -- The last tick before the limit leaves room for the part of a tick that is carried on.
  have hearly : ((k + n : ℕ) : ℚ) + 1 ≤ 4500 := by exact_mod_cast hticked.early
  have hlast := frames_behind armyIdGenerator h inputs hp
  have hτ : Ts.pvpSimulationTickSeconds = 1 / 50 := by norm_num [Ts.pvpSimulationTickSeconds]
  rw [helapsed, hτ] at hlast
  unfold Ts.pvpTimeLimitSeconds at hlimit
  linarith

/-- **The clock of a match keeps the time of its frames**, in exact arithmetic.  Whatever the player does and
however often the game is paused, the clock of the battle never runs ahead of the time of the
frames that were not paused, each cut to a quarter of a second, by more than a billionth of a
second for each of them; and as long as the battle is playing it is behind that time by less
than a tick.  So the battle is over when its frames make up the time limit. -/
theorem scene_clock {scene : Ts.BotScene} (h : Ts.BotScene.create o = .ok scene)
    (inputs : List Ts.BotScene.Input) :
    (playInputs armyIdGenerator o inputs scene).gameState.elapsedTimeSeconds
        ≤ (frames inputs).sum + (frames inputs).length * Ts.clockTolerance ∧
      ((playInputs armyIdGenerator o inputs scene).gameState.status = .playing →
        (frames inputs).sum
          < (playInputs armyIdGenerator o inputs scene).gameState.elapsedTimeSeconds
            + Ts.pvpSimulationTickSeconds) ∧
      (Ts.pvpTimeLimitSeconds ≤ (frames inputs).sum →
        (playInputs armyIdGenerator o inputs scene).gameState.status ≠ .playing) := by
  have hon := plays_onTime armyIdGenerator h inputs
  obtain ⟨-, hhigh⟩ := frames_time inputs
  unfold Ts.FrameClock.time at hhigh
  exact ⟨by linarith [hon.past, hon.ok.1], frames_behind armyIdGenerator h inputs,
    scene_over armyIdGenerator h⟩

/-- A minute and a half of frames, four a second. -/
def longWait : List Ts.BotScene.Input := List.replicate 360 (.update 250 false)

omit [MathLib] in
theorem frames_longWait : (frames longWait).sum = Ts.pvpTimeLimitSeconds := by
  have hframe : frameSeconds (.update 250 false) = some 0.25 := by
    show (if (250 : ℚ) ≤ 0 then none else some (min ((250 : ℚ) / 1000) 0.25)) = some 0.25
    norm_num
  have hframes : frames longWait = List.replicate 360 0.25 := by
    unfold frames longWait
    rw [List.filterMap_replicate, hframe]
  rw [hframes, List.sum_replicate]
  norm_num [Ts.pvpTimeLimitSeconds]

omit [MathLib] in
theorem scene_clock_idle : ∃ scene, Ts.BotScene.create conquestOptions = .ok scene ∧
    (@playInputs decimalHypot (fun n => "army_" ++ toString n) conquestOptions longWait
      scene).gameState.status ≠ .playing := by
  cases hc : Ts.BotScene.create conquestOptions with
  | error e =>
    have hmade : (Ts.BotScene.create conquestOptions).toOption.isSome = true := by decide +kernel
    rw [hc] at hmade
    cases hmade
  | ok scene =>
    exact ⟨scene, rfl, (@scene_clock decimalHypot conquestOptions (fun n => "army_" ++ toString n)
      scene hc longWait).2.2 frames_longWait.ge⟩

end CrownClash.Parity
