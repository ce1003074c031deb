import CrownClash.Parity.SceneTicks

/-!
# The record of a match against the bot

An order of the player comes between two frames and goes into the record with the time of
the last tick.  A battle that stands some ticks after the replay of its record (`Logged`)
still does after a tick and after an order that is recorded (`Logged.act`).

The armies of one drag leave together in the scene and one after the other in the replay.
The towers of a drag are all different and none of them is the target, so an army that has
left is seen by none of the others (`Sending.all`).
-/

namespace CrownClash.Parity

open Lib

variable [MathLib] {o : Ts.PvpSimulationOptions} (armyIdGenerator : ℕ → String)

/-! ### The record -/

/-- The clock of a battle that a replay goes through. -/
theorem battle_ticked {k : ℕ} {r : Ts.Replay} (h : Poised o k r) (n : ℕ)
    (hp : ((Battle.tick o)^[n] (replayBattle r)).state.status = .playing) :
    Ticked o (k + n) ((Battle.tick o)^[n] (replayBattle r)).state := by
  obtain ⟨r', -, hreached⟩ := replay_reaches n h
  rw [← hreached.state] at hp ⊢
  have hplaying : (Ts.stepTo o ((k + n : ℕ) * Ts.pvpSimulationTickSeconds) r').playing = true :=
    decide_eq_true hp
  exact (hreached.poised hplaying).1.state.unnamed

/-- A battle that stands `n` ticks after the replay of a record, whose last order was not
after tick `k`. -/
structure LoggedAt (o : Ts.PvpSimulationOptions) (start r : Ts.Replay) (k n : ℕ)
    (actions : List PvpAction) (b : Battle) : Prop where
  short : actions.length ≤ Ts.maxPvpActions
  valid : Ts.validateActionsFrom 0 0 actions = .ok ()
  past : ∀ action ∈ actions, action.atSeconds ≤ k * Ts.pvpSimulationTickSeconds
  replays : Ts.playActions o actions start = .ok r
  poised : Poised o k r
  processed : r.actionIndex = actions.length
  battle : b = (Battle.tick o)^[n] (replayBattle r)

/-- A battle that follows the replay of a record. -/
def Logged (o : Ts.PvpSimulationOptions) (start : Ts.Replay) (actions : List PvpAction)
    (b : Battle) : Prop := ∃ r k n, LoggedAt o start r k n actions b

/-- What an action makes of a battle without names, when it is legal. -/
def playOn (o : Ts.PvpSimulationOptions) (state : GameState) (action : PvpAction) :
    Option GameState :=
  if action.kind = .ability then
    Ts.applyPlayerAbility state o.commanderId action.sourceId action.targetId
      o.playerModifiers.armySpeedMultiplier ""
  else
    (Ts.dispatchFromState state action.sourceId action.targetId .player
      o.playerModifiers.armySpeedMultiplier "").toOption

theorem LoggedAt.ticked {start r : Ts.Replay} {k n : ℕ} {actions : List PvpAction} {b : Battle}
    (h : LoggedAt o start r k n actions b) (hp : b.state.status = .playing) :
    Ticked o (k + n) b.state := by
  rw [h.battle] at hp ⊢
  exact battle_ticked h.poised n hp

theorem LoggedAt.tick {start r : Ts.Replay} {k n : ℕ} {actions : List PvpAction} {b : Battle}
    (h : LoggedAt o start r k n actions b) : LoggedAt o start r k (n + 1) actions (b.tick o) := by
  refine { h with battle := ?_ }
  rw [h.battle, ← Function.iterate_succ_apply' (Battle.tick o)]

omit [MathLib] in
theorem validateActionsFrom_snoc {action : PvpAction} :
    ∀ {actions : List PvpAction} {index : ℕ} {previous : ℚ},
      Ts.validateActionsFrom index previous actions = .ok () →
        previous ≤ action.atSeconds → (∀ a ∈ actions, a.atSeconds ≤ action.atSeconds) →
          action.sequence = index + actions.length →
            (action.kind = .dispatch ∨ action.kind = .ability) → 0 ≤ action.atSeconds →
              action.atSeconds ≤ Ts.pvpTimeLimitSeconds →
                Ts.validateActionsFrom index previous (actions ++ [action]) = .ok () := by
  intro actions
  induction actions with
  | nil =>
    intro index previous _ hprevious _ hsequence hkind hlow hhigh
    have hseq : action.sequence = index := by
      rw [hsequence, List.length_nil, Nat.cast_zero, add_zero]
    have hk : ¬ (action.kind ≠ .dispatch ∧ action.kind ≠ .ability) :=
      fun hc => hkind.elim hc.1 hc.2
    have ht : ¬ (action.atSeconds < 0 ∨ action.atSeconds > Ts.pvpTimeLimitSeconds ∨
        action.atSeconds < previous) := by
      rintro (hc | hc | hc)
      · linarith
      · linarith
      · linarith
    rw [List.nil_append, Ts.validateActionsFrom, if_neg (not_not.mpr hseq), if_neg hk, if_neg ht]
    rfl
  | cons a actions ih =>
    intro index previous h _ hpast hsequence hkind hlow hhigh
    rw [Ts.validateActionsFrom] at h
    rw [List.cons_append, Ts.validateActionsFrom]
    split at h
    · cases h
    next hs =>
    rw [if_neg hs]
    split at h
    · cases h
    next hk =>
    rw [if_neg hk]
    split at h
    · cases h
    next ht =>
    rw [if_neg ht]
    refine ih h (hpast a List.mem_cons_self) (fun b hb => hpast b (List.mem_cons_of_mem a hb)) ?_
      hkind hlow hhigh
    rw [hsequence, List.length_cons]
    push_cast
    ring

/-- **A record is replayed action by action**, as long as the battle is running. -/
theorem playActions_snoc {action : PvpAction} : ∀ {actions : List PvpAction} {start r : Ts.Replay},
    Ts.playActions o actions start = .ok r → r.playing = true →
      Ts.playActions o (actions ++ [action]) start = Ts.playActions o [action] r := by
  intro actions
  induction actions with
  | nil =>
    intro start r h _
    cases h
    rfl
  | cons a actions ih =>
    intro start r h hp
    rw [List.cons_append, Ts.playActions]
    rw [Ts.playActions] at h
    cases ha : Ts.aiUntil o a.atSeconds start with
    | error e =>
      rw [ha] at h
      cases h
    | ok r1 =>
      rw [ha] at h
      change (if (!r1.playing) = true then .ok r1 else
        if (!(Ts.stepTo o a.atSeconds r1).playing) = true then .ok (Ts.stepTo o a.atSeconds r1)
        else Ts.playActions o actions (Ts.playAction o (Ts.stepTo o a.atSeconds r1) a)) = .ok r at h
      change (if (!r1.playing) = true then .ok r1 else
        if (!(Ts.stepTo o a.atSeconds r1).playing) = true then .ok (Ts.stepTo o a.atSeconds r1)
        else Ts.playActions o (actions ++ [action])
          (Ts.playAction o (Ts.stepTo o a.atSeconds r1) a)) = _
      split at h
      · next hover =>
        cases h
        rw [hp] at hover
        cases hover
      next hplaying =>
      rw [if_neg hplaying]
      split at h
      · next hover =>
        cases h
        rw [hp] at hover
        cases hover
      next hplaying' =>
      rw [if_neg hplaying']
      exact ih h hp


/-- **A legal action of the replay is one of the battle**, and no clock moves. -/
theorem playAction_legal {k : ℕ} {r : Ts.Replay} (h : Poised o k r) {action : PvpAction}
    {state : GameState} (hlegal : playOn o (Ts.unnamed r.state) action = some state) :
    Poised o k (Ts.playAction o r action) ∧
      (Ts.playAction o r action).actionIndex = r.actionIndex + 1 ∧
        replayBattle (Ts.playAction o r action) = ⟨state, r.accumulators, r.nextAiTick⟩ := by
  have hgoes : ∀ state', Go.BattleOk state' → Go.SameClock r.state state' →
      Ts.unnamed state' = state →
        Poised o k { r with state := state', actionIndex := r.actionIndex + 1 } ∧
          replayBattle { r with state := state', actionIndex := r.actionIndex + 1 }
            = ⟨state, r.accumulators, r.nextAiTick⟩ := by
    intro state' hok hclock hname
    refine ⟨⟨⟨h.state.sameClock hok hclock, h.time, h.tick⟩, h.ai⟩, ?_⟩
    unfold replayBattle
    dsimp only
    rw [hname]
  unfold playOn at hlegal
  unfold Ts.playAction
  dsimp only
  by_cases hkind : action.kind = .ability
  · rw [if_pos hkind] at hlegal ⊢
    have hname : Ts.applyPlayerAbility (Ts.unnamed r.state) o.commanderId action.sourceId
        action.targetId o.playerModifiers.armySpeedMultiplier ""
          = (Ts.applyPlayerAbility r.state o.commanderId action.sourceId action.targetId
              o.playerModifiers.armySpeedMultiplier (Ts.playerArmyId action.sequence)).map
                Ts.unnamed :=
      applyTeamAbility_unnamed r.state .player o.commanderId action.sourceId action.targetId _ _
    rw [hname] at hlegal
    obtain ⟨state', hstate, hstate'⟩ := Option.map_eq_some_iff.mp hlegal
    rw [hstate]
    dsimp only
    have hgo := hstate
    unfold Ts.applyPlayerAbility at hgo
    rw [applyTeamAbility_eq h.state.ok] at hgo
    obtain ⟨hok, hclock, -, -⟩ := Go.applyTeamAbility_keeps Go.player_ne_neutral hgo h.state.ok
    obtain ⟨hpoised, hbattle⟩ := hgoes state' hok hclock hstate'
    exact ⟨hpoised, rfl, hbattle⟩
  · rw [if_neg hkind] at hlegal ⊢
    rw [dispatchFromState_unnamed _ _ _ _ _ (Ts.playerArmyId action.sequence)] at hlegal
    have hgo := dispatchFromState_eq h.state.ok Go.player_ne_neutral action.sourceId
      action.targetId o.playerModifiers.armySpeedMultiplier (Ts.playerArmyId action.sequence)
    cases hd : Ts.dispatchFromState r.state action.sourceId action.targetId .player
        o.playerModifiers.armySpeedMultiplier (Ts.playerArmyId action.sequence) with
    | error e =>
      rw [hd] at hlegal
      cases hlegal
    | ok state' =>
      rw [hd] at hlegal hgo
      dsimp only
      cases hsent : Go.dispatchArmy r.state action.sourceId action.targetId .player
          o.playerModifiers.armySpeedMultiplier (Ts.playerArmyId action.sequence) with
      | error e =>
        rw [hsent] at hgo
        cases hgo
      | ok state'' =>
        rw [hsent] at hgo
        cases Option.some.inj hgo
        obtain ⟨hpoised, hbattle⟩ := hgoes state'
          (Go.dispatchArmyWithRatio_battleOk h.state.ok Go.player_ne_neutral hsent)
          (Go.dispatchArmy_sameClock Go.player_ne_neutral hsent) (Option.some.inj hlegal)
        exact ⟨hpoised, rfl, hbattle⟩

/-- **An order goes into the record.**  A running battle that follows the replay of a record
takes a legal action, and then follows the replay of the record with it. -/
theorem Logged.act {start : Ts.Replay} {actions : List PvpAction} {b : Battle}
    (h : Logged o start actions b) (hp : b.state.status = .playing) {action : PvpAction}
    (hsequence : action.sequence = actions.length)
    (hkind : action.kind = .dispatch ∨ action.kind = .ability)
    (htime : action.atSeconds = b.state.elapsedTimeSeconds)
    (hroom : actions.length < Ts.maxPvpActions) {state : GameState}
    (hlegal : playOn o b.state action = some state) :
    Logged o start (actions ++ [action]) ⟨state, b.accumulators, b.aiNextTick⟩ := by
  obtain ⟨r, k, n, hlog⟩ := h
  have hticked := hlog.ticked hp
  have hnow : action.atSeconds = (k + n : ℕ) * Ts.pvpSimulationTickSeconds :=
    htime.trans hticked.elapsed
  have hτ := Ts.pvpSimulationTickSeconds_pos
  obtain ⟨r1, hai, hreached⟩ := replay_reaches n hlog.poised
  have hstate := hreached.state
  rw [← hlog.battle] at hstate
  have hplaying : (Ts.stepTo o ((k + n : ℕ) * Ts.pvpSimulationTickSeconds) r1).playing = true := by
    refine decide_eq_true ?_
    have hstatus := congrArg GameState.status hstate
    exact hstatus.trans hp
  obtain ⟨hpoised, hbattle⟩ := hreached.poised hplaying
  rw [← hlog.battle] at hbattle
  have hlegal' := hlegal
  rw [← hstate] at hlegal'
  obtain ⟨hpoised', hindex, hbattle'⟩ := playAction_legal hpoised hlegal'
  have hr1 : r1.playing = true := by
    by_contra hover
    have hover' := (stepTo_over (o := o) ((k + n : ℕ) * Ts.pvpSimulationTickSeconds)
      (Bool.eq_false_iff.mpr hover)).1
    unfold Ts.Replay.playing at hplaying hover
    rw [hover'] at hplaying
    exact hover hplaying
  have hpast : ∀ a ∈ actions, a.atSeconds ≤ action.atSeconds := by
    intro a ha
    rw [hnow]
    refine (hlog.past a ha).trans (mul_le_mul_of_nonneg_right ?_ hτ.le)
    exact_mod_cast Nat.le_add_right k n
  have hlow : 0 ≤ action.atSeconds := by
    rw [hnow]
    positivity
  have hhigh : action.atSeconds ≤ Ts.pvpTimeLimitSeconds := by
    rw [hnow]
    have hearly : ((k + n : ℕ) : ℚ) ≤ 4500 := by exact_mod_cast hticked.early.le
    unfold Ts.pvpTimeLimitSeconds Ts.pvpSimulationTickSeconds
    linarith
  refine ⟨Ts.playAction o (Ts.stepTo o ((k + n : ℕ) * Ts.pvpSimulationTickSeconds) r1) action,
    k + n, 0, ?_, ?_, ?_, ?_, hpoised', ?_, ?_⟩
  · rw [List.length_append, List.length_singleton]
    exact hroom
  · refine validateActionsFrom_snoc hlog.valid hlow hpast ?_ hkind hlow hhigh
    rw [hsequence, Nat.cast_zero, zero_add]
  · intro a ha
    rw [← hnow]
    rcases List.mem_append.mp ha with ha | ha
    · exact hpast a ha
    · rw [List.mem_singleton.mp ha]
  · rw [playActions_snoc hlog.replays hlog.poised.playing, Ts.playActions, hnow, hai]
    change (if (!r1.playing) = true then Except.ok r1 else
      if (!(Ts.stepTo o ((k + n : ℕ) * Ts.pvpSimulationTickSeconds) r1).playing) = true then
        .ok (Ts.stepTo o ((k + n : ℕ) * Ts.pvpSimulationTickSeconds) r1)
      else Ts.playActions o [] (Ts.playAction o
        (Ts.stepTo o ((k + n : ℕ) * Ts.pvpSimulationTickSeconds) r1) action)) = _
    rw [hr1, hplaying, Bool.not_true, if_neg Bool.false_ne_true, if_neg Bool.false_ne_true]
    rfl
  · rw [hindex, hreached.actionIndex, hlog.processed, List.length_append, List.length_singleton]
  · rw [Function.iterate_zero_apply, hbattle', ← hbattle]
    rfl


/-! ### A drag -/

/-- What the record and the map see of a dispatch. -/
structure Goes (source : Territory) (targetId : String) (d : Ts.Dispatched) : Prop where
  sourceId : d.army.sourceId = source.id
  destination : Ts.recordedDestination d.army = targetId
  source : ∃ units, d.sourceTerritory = { source with units := units }

theorem dispatchArmyOn_goes {roads : List (String × String)} {state : GameState}
    {source target : Territory} {owner : Team} {ratio multiplier : ℚ} {armyId : String}
    {d : Ts.Dispatched} (hs : state.territories.get? source.id = some source)
    (ht : state.territories.get? target.id = some target)
    (h : Ts.dispatchArmyOn roads source target owner ratio armyId multiplier state = .ok d) :
    Goes source target.id d := by
  unfold Ts.dispatchArmyOn at h
  split at h
  · cases h
  next hne =>
  split at h
  · cases h
  next ho =>
  cases hroute : Ts.findDispatchRouteOn roads state source.id target.id owner with
  | none =>
    rw [hroute] at h
    cases h
  | some route =>
    rw [hroute] at h
    dsimp only at h
    split at h
    · cases h
    cases h
    refine ⟨?_, ?_, _, rfl⟩
    · split
      · rfl
      · rfl
    · split
      · next hrules =>
        have hsource : Go.Owned state owner source.id := ⟨source, hs, not_not.mp ho⟩
        obtain ⟨hopen, -⟩ :=
          (findDispatchRouteOn_correct roads hrules hsource ht hne).route route hroute
        show route.getLastD _ = target.id
        rw [List.getLastD_eq_getLast?, hopen.path.last, Option.getD_some]
      · rfl

/-- **A dispatch sees the sites of the towers alone**, besides its own source and target. -/
theorem dispatchArmyOn_congr {roads : List (String × String)} {s s' : GameState}
    (h : Go.SameSites s s') (hversion : s'.gameplayRulesVersion = s.gameplayRulesVersion)
    (source target : Territory) (owner : Team) (ratio : ℚ) (armyId : String) (multiplier : ℚ) :
    Ts.dispatchArmyOn roads source target owner ratio armyId multiplier s'
      = Ts.dispatchArmyOn roads source target owner ratio armyId multiplier s := by
  unfold Ts.dispatchArmyOn
  rw [findDispatchRouteOn_by, findDispatchRouteOn_by, hversion,
    Go.findDispatchRouteBy_congr (fun _ => rfl) rfl h hversion]
  split
  · rfl
  split
  · rfl
  cases Go.findDispatchRouteBy utf16Lt roads s source.id target.id owner with
  | none => rfl
  | some route =>
    have hleg : ∀ army : MarchingArmy,
        Ts.setArmyLeg army source (s'.territory (route.getD 1 "")) 0
          = Ts.setArmyLeg army source (s.territory (route.getD 1 "")) 0 := by
      intro army
      have hsite := h.territory (route.getD 1 "")
      have hid : (s'.territory (route.getD 1 "")).id = (s.territory (route.getD 1 "")).id :=
        congrArg Prod.fst hsite
      have hx : (s'.territory (route.getD 1 "")).x = (s.territory (route.getD 1 "")).x :=
        congrArg (fun p => p.2.2.1) hsite
      have hy : (s'.territory (route.getD 1 "")).y = (s.territory (route.getD 1 "")).y :=
        congrArg (fun p => p.2.2.2) hsite
      unfold Ts.setArmyLeg
      rw [hid, hx, hy]
    dsimp only
    rw [hleg]

/-- The record after the armies of a drag. -/
def recorded (scene : Ts.BotScene) (armies : List MarchingArmy) : List PvpAction :=
  (scene.recordDispatchActions armies).matchActions

/-- The action that records an army. -/
def actionOf (sequence : ℕ) (atSeconds : ℚ) (army : MarchingArmy) : PvpAction where
  sequence := sequence
  atSeconds := atSeconds
  sourceId := army.sourceId
  targetId := Ts.recordedDestination army
  kind := .dispatch

omit [MathLib] in
theorem recorded_snoc (scene : Ts.BotScene) (armies : List MarchingArmy) (army : MarchingArmy) :
    recorded scene (armies ++ [army]) =
      if (recorded scene armies).length ≥ Ts.maxPvpActions then recorded scene armies
      else recorded scene armies ++
        [actionOf (recorded scene armies).length (Ts.atSeconds scene.gameState) army] := by
  unfold recorded Ts.BotScene.recordDispatchActions
  dsimp only
  rw [List.foldl_append]
  rfl

omit [MathLib] in
theorem length_recorded_le (scene : Ts.BotScene) (armies : List MarchingArmy) :
    (recorded scene armies).length ≤ scene.matchActions.length + armies.length := by
  induction armies using List.reverseRecOn with
  | nil => exact le_refl _
  | append_singleton armies army ih =>
    rw [recorded_snoc, List.length_append, List.length_singleton]
    split
    · omega
    · rw [List.length_append, List.length_singleton]
      omega

omit [MathLib] in
/-- The time that is recorded is the time of the battle: a tick is a whole number of
milliseconds. -/
theorem atSeconds_ticked {k : ℕ} {state : GameState} (h : Ticked o k state) :
    Ts.atSeconds state = state.elapsedTimeSeconds := by
  have hms : state.elapsedTimeSeconds * 1000 = ((20 * k : ℤ) : ℚ) := by
    rw [h.elapsed]
    unfold Ts.pvpSimulationTickSeconds
    push_cast
    ring
  unfold Ts.atSeconds
  rw [hms, roundHalfUp_intCast, ← hms]
  ring


/-- The battle once some armies of a drag have left. -/
def sentBattle (scene : Ts.BotScene) (result : Ts.MultiDispatchResult) : Battle :=
  ⟨Ts.unnamed (Ts.withMultiDispatch scene.gameState result .player), scene.accumulators,
    scene.aiNextTick⟩

/-- A drag on its way: `sources` are the towers whose turn is still to come. -/
structure Sending (scene : Ts.BotScene) (sources : List Territory) (target : Territory)
    (result : Ts.MultiDispatchResult) : Prop where
  sites : Go.SameSites scene.gameState (Ts.withMultiDispatch scene.gameState result .player)
  waiting : ∀ source ∈ sources, source.id ∉ result.updatedSources.keys ∧
    scene.gameState.territories.get? source.id = some source ∧
    (Ts.withMultiDispatch scene.gameState result .player).territories.get? source.id = some source
  goal : scene.gameState.territories.get? target.id = some target ∧
    (Ts.withMultiDispatch scene.gameState result .player).territories.get? target.id = some target
  distinct : (sources.map Territory.id).Nodup
  other : target.id ∉ sources.map Territory.id

omit [MathLib] in
theorem withMultiDispatch_next (state : GameState) {result : Ts.MultiDispatchResult}
    {source : Territory} (h : source.id ∉ result.updatedSources.keys) (d : Ts.Dispatched) :
    Ts.withMultiDispatch state
        { successes := result.successes ++ [d]
          armies := result.armies ++ [d.army]
          updatedSources := result.updatedSources.set source.id d.sourceTerritory
          totalUnitsDispatched := result.totalUnitsDispatched + d.army.units } .player
      = { Ts.withMultiDispatch state result .player with
          territories := (Ts.withMultiDispatch state result .player).territories.set source.id
            d.sourceTerritory
          armies := (Ts.withMultiDispatch state result .player).armies ++ [d.army]
          stats :=
            { (Ts.withMultiDispatch state result .player).stats with
              playerUnitsDispatched :=
                (Ts.withMultiDispatch state result .player).stats.playerUnitsDispatched
                  + d.army.units } } := by
  unfold Ts.withMultiDispatch
  dsimp only
  rw [Record.entries_set_of_notMem _ h, List.foldl_append, List.append_assoc, add_assoc]
  rfl

/-- **One army of a drag**, which leaves in the scene from the state of the release, leaves in
the replay from the state that the armies before it have left behind. -/
theorem Sending.army {scene : Ts.BotScene} {source : Territory} {sources : List Territory}
    {target : Territory} {result : Ts.MultiDispatchResult}
    (h : Sending scene (source :: sources) target result) {armyId : String} {d : Ts.Dispatched}
    (hd : Ts.dispatchArmyOn (Ts.getBattlefield scene.gameState.battlefieldId).roads source target
      .player 0.5 armyId o.playerModifiers.armySpeedMultiplier scene.gameState = .ok d)
    (sequence : ℕ) (atSeconds : ℚ) :
    playOn o (sentBattle scene result).state (actionOf sequence atSeconds d.army)
      = some (sentBattle scene
          { successes := result.successes ++ [d]
            armies := result.armies ++ [d.army]
            updatedSources := result.updatedSources.set source.id d.sourceTerritory
            totalUnitsDispatched := result.totalUnitsDispatched + d.army.units }).state := by
  obtain ⟨hnew, hs, hs'⟩ := h.waiting source List.mem_cons_self
  obtain ⟨ht, ht'⟩ := h.goal
  have hgoes := dispatchArmyOn_goes hs ht hd
  have hsent : Ts.dispatchArmy source target .player 0.5 armyId
      o.playerModifiers.armySpeedMultiplier
        (some (Ts.withMultiDispatch scene.gameState result .player)) = .ok d := by
    rw [Ts.dispatchArmy_on]
    exact (dispatchArmyOn_congr h.sites rfl source target .player 0.5 armyId _).trans hd
  unfold playOn actionOf
  dsimp only
  rw [if_neg (by decide : ¬ PvpActionKind.dispatch = PvpActionKind.ability), hgoes.sourceId,
    hgoes.destination]
  unfold sentBattle
  dsimp only
  rw [dispatchFromState_unnamed _ _ _ _ _ armyId, dispatchFromState_of_towers hs' ht', hsent,
    withMultiDispatch_next _ hnew]
  rfl

omit [MathLib] in
/-- The towers that are still to come do not see the army that has left. -/
theorem Sending.tail {scene : Ts.BotScene} {source : Territory} {sources : List Territory}
    {target : Territory} {result : Ts.MultiDispatchResult}
    (h : Sending scene (source :: sources) target result) {d : Ts.Dispatched}
    (hd : ∃ units, d.sourceTerritory = { source with units := units }) :
    Sending scene sources target
      { successes := result.successes ++ [d]
        armies := result.armies ++ [d.army]
        updatedSources := result.updatedSources.set source.id d.sourceTerritory
        totalUnitsDispatched := result.totalUnitsDispatched + d.army.units } := by
  obtain ⟨hnew, -, hs'⟩ := h.waiting source List.mem_cons_self
  have hdistinct := h.distinct
  rw [List.map_cons] at hdistinct
  obtain ⟨hfirst, hrest⟩ := List.nodup_cons.mp hdistinct
  have hother := h.other
  rw [List.map_cons, List.mem_cons, not_or] at hother
  refine ⟨⟨fun id => ?_⟩, fun t ht => ?_, ⟨h.goal.1, ?_⟩, hrest, hother.2⟩
  · rw [withMultiDispatch_next _ hnew, ← h.sites.site id]
    show (((Ts.withMultiDispatch scene.gameState result .player).territories.set source.id
      d.sourceTerritory).get? id).map Go.Territory.site = _
    rw [Record.get?_set]
    split
    · next he =>
      obtain ⟨units, hunits⟩ := hd
      rw [he, hs', hunits]
      rfl
    · rfl
  · obtain ⟨hout, hbefore, hnow⟩ := h.waiting t (List.mem_cons_of_mem source ht)
    have hne : t.id ≠ source.id := by
      intro he
      rw [← he] at hfirst
      exact hfirst (List.mem_map_of_mem ht)
    refine ⟨fun hc => ?_, hbefore, ?_⟩
    · rcases Record.mem_keys_set.mp hc with hc | hc
      · exact hne hc
      · exact hout hc
    · rw [withMultiDispatch_next _ hnew]
      show ((Ts.withMultiDispatch scene.gameState result .player).territories.set source.id
        d.sourceTerritory).get? t.id = _
      rw [Record.get?_set_ne hne]
      exact hnow
  · rw [withMultiDispatch_next _ hnew]
    show ((Ts.withMultiDispatch scene.gameState result .player).territories.set source.id
      d.sourceTerritory).get? target.id = _
    rw [Record.get?_set_ne hother.1]
    exact h.goal.2

omit [MathLib] in
theorem Sending.skip {scene : Ts.BotScene} {source : Territory} {sources : List Territory}
    {target : Territory} {result : Ts.MultiDispatchResult}
    (h : Sending scene (source :: sources) target result) :
    Sending scene sources target result := by
  have hdistinct := h.distinct
  have hother := h.other
  rw [List.map_cons] at hdistinct hother
  exact ⟨h.sites, fun t ht => h.waiting t (List.mem_cons_of_mem source ht), h.goal,
    (List.nodup_cons.mp hdistinct).2, fun hc => hother (List.mem_cons_of_mem _ hc)⟩

/-- The loop of a drag, as the scene runs it. -/
abbrev sendNext (o : Ts.PvpSimulationOptions) (scene : Ts.BotScene) (target : Territory) :
    Ts.MultiDispatchResult → Territory → Ts.MultiDispatchResult :=
  Ts.dispatchNextArmy (Ts.getBattlefield scene.gameState.battlefieldId).roads target .player 0.5
    o.playerModifiers.armySpeedMultiplier
    (fun sent => armyIdGenerator (scene.generatedArmyIds + sent)) scene.gameState

theorem sendNext_error {scene : Ts.BotScene} {source target : Territory}
    {result : Ts.MultiDispatchResult} {e : String} (hne : source.id ≠ target.id)
    (hd : Ts.dispatchArmyOn (Ts.getBattlefield scene.gameState.battlefieldId).roads source target
      .player 0.5 (armyIdGenerator (scene.generatedArmyIds + result.armies.length))
        o.playerModifiers.armySpeedMultiplier scene.gameState = .error e) :
    sendNext armyIdGenerator o scene target result source = result := by
  unfold sendNext Ts.dispatchNextArmy
  rw [if_neg hne, hd]

theorem sendNext_ok {scene : Ts.BotScene} {source target : Territory}
    {result : Ts.MultiDispatchResult} {d : Ts.Dispatched} (hne : source.id ≠ target.id)
    (hd : Ts.dispatchArmyOn (Ts.getBattlefield scene.gameState.battlefieldId).roads source target
      .player 0.5 (armyIdGenerator (scene.generatedArmyIds + result.armies.length))
        o.playerModifiers.armySpeedMultiplier scene.gameState = .ok d) :
    sendNext armyIdGenerator o scene target result source
      = { successes := result.successes ++ [d]
          armies := result.armies ++ [d.army]
          updatedSources := result.updatedSources.set source.id d.sourceTerritory
          totalUnitsDispatched := result.totalUnitsDispatched + d.army.units } := by
  unfold sendNext Ts.dispatchNextArmy
  rw [if_neg hne, hd]

theorem length_sendNext (scene : Ts.BotScene) (target : Territory) :
    ∀ (sources : List Territory) (result : Ts.MultiDispatchResult), result.armies.length
      ≤ (sources.foldl (sendNext armyIdGenerator o scene target) result).armies.length := by
  intro sources
  induction sources with
  | nil => intro result; exact le_refl _
  | cons source sources ih =>
    intro result
    rw [List.foldl_cons]
    refine le_trans ?_ (ih _)
    unfold sendNext Ts.dispatchNextArmy
    split
    · exact le_refl _
    · split
      · exact le_refl _
      · rw [List.length_append]
        exact Nat.le_add_right _ _

/-- **The armies of a drag are recorded one by one.** -/
theorem Sending.all {start : Ts.Replay} {scene : Ts.BotScene} {target : Territory}
    (hp : scene.gameState.status = .playing)
    (htime : Ts.atSeconds scene.gameState = scene.gameState.elapsedTimeSeconds) :
    ∀ {sources : List Territory} {result : Ts.MultiDispatchResult},
      Sending scene sources target result →
        scene.matchActions.length
          + (sources.foldl (sendNext armyIdGenerator o scene target) result).armies.length
            ≤ Ts.maxPvpActions →
          Logged o start (recorded scene result.armies) (sentBattle scene result) →
            Logged o start (recorded scene
                (sources.foldl (sendNext armyIdGenerator o scene target) result).armies)
              (sentBattle scene
                (sources.foldl (sendNext armyIdGenerator o scene target) result)) := by
  intro sources
  induction sources with
  | nil => intro result _ _ hlog; exact hlog
  | cons source sources ih =>
    intro result h hroom hlog
    rw [List.foldl_cons] at hroom ⊢
    have hother := h.other
    rw [List.map_cons, List.mem_cons, not_or] at hother
    cases hd : Ts.dispatchArmyOn (Ts.getBattlefield scene.gameState.battlefieldId).roads source
        target .player 0.5 (armyIdGenerator (scene.generatedArmyIds + result.armies.length))
          o.playerModifiers.armySpeedMultiplier scene.gameState with
    | error e =>
      rw [sendNext_error armyIdGenerator (Ne.symm hother.1) hd] at hroom ⊢
      exact ih h.skip hroom hlog
    | ok d =>
      rw [sendNext_ok armyIdGenerator (Ne.symm hother.1) hd] at hroom ⊢
      have hgoes := dispatchArmyOn_goes (h.waiting source List.mem_cons_self).2.1 h.goal.1 hd
      refine ih (h.tail hgoes.source) hroom ?_
      have hmore := length_sendNext (o := o) armyIdGenerator scene target sources
        { successes := result.successes ++ [d]
          armies := result.armies ++ [d.army]
          updatedSources := result.updatedSources.set source.id d.sourceTerritory
          totalUnitsDispatched := result.totalUnitsDispatched + d.army.units }
      have hshort : (recorded scene result.armies).length < Ts.maxPvpActions := by
        have hle := length_recorded_le scene result.armies
        rw [List.length_append, List.length_singleton] at hmore
        omega
      rw [recorded_snoc, if_neg (not_le.mpr hshort)]
      exact hlog.act hp rfl (Or.inl rfl) htime hshort (h.army hd _ _)

end CrownClash.Parity
