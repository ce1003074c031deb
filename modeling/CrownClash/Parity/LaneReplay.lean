import CrownClash.Parity.Lanes

/-!
# The two replays of a lane battle

The engines in lockstep: `LaneTwin` holds at the start, every tick and every
recorded order keep it, and so two replays of a log that both engines accept end
alike (`playLaneActions_twin`).

What is left is the check of the log.  `InOrder` is the part that both engines
check alike, and the towers are the part they do not.
-/

namespace CrownClash.Parity

open Lib

variable [MathLib]

/-! ### The engine -/

structure LaneTwin (t : Ts.LaneRun) (g : Go.LaneRun) : Prop where
  ok : Go.LanesOk g.state g.engine.lanes
  difficulty : t.engine.difficulty = g.engine.difficulty
  lanes : t.engine.lanes = g.engine.lanes
  nextBot : t.engine.nextBotSeconds = g.engine.nextBotSecs
  state : t.state = g.state
  accumulators : AccEq g.state.territories.keys t.accumulators g.accumulators
  tick : t.tick = g.tick
  processed : t.processed = g.processed

omit [MathLib] in
theorem laneBotTickSeconds_eq (d : BotDifficulty) :
    Ts.laneBotTickSeconds d = Go.laneBotTickSeconds d := by
  cases d <;> rfl

omit [MathLib] in
theorem laneBotStartSeconds_eq (d : BotDifficulty) :
    Ts.laneBotStartSeconds d = Go.laneBotStartSeconds d := by
  cases d <;> rfl

/-- **Both bots carry out their plan alike.** -/
theorem plan_eq {state : GameState} {e : Ts.LaneEngine} (h : Go.LanesOk state e.lanes) :
    (e.plan state .enemy).lanes = Go.planEnemy state e.lanes := by
  obtain ⟨hopens, hcuts⟩ := planLanes_eq h .enemy
  unfold Ts.LaneEngine.plan Go.planEnemy
  dsimp only
  rw [hopens, hcuts]
  have hcut := foldl_lockstep (l := (Go.planLanes state e.lanes .enemy).cuts)
    (R := fun a b => a = b ∧ Go.LanesOk state b)
    (f := fun lanes (o : LaneOrder) => Ts.cutLane lanes .enemy o.source o.target)
    (g := fun lanes (o : LaneOrder) => (Go.cutLane lanes .enemy o.source o.target).1)
    (fun a b o _ hab => ⟨by rw [hab.1, cutLane_eq], hab.2.cut .enemy _ _⟩)
    (⟨rfl, h⟩ : e.lanes = e.lanes ∧ Go.LanesOk state e.lanes)
  exact (foldl_lockstep (R := fun a b => a = b ∧ Go.LanesOk state b)
    (f := fun lanes (o : LaneOrder) => Ts.openLane state lanes .enemy o.source o.target)
    (g := fun lanes (o : LaneOrder) => Go.openLane state lanes .enemy o.source o.target)
    (fun a b o _ hab => ⟨by rw [hab.1, openLane_eq hab.2], hab.2.open .enemy _ _⟩) hcut).1

/-- **A tick keeps the engines together.** -/
theorem LaneTwin.step {t : Ts.LaneRun} {g : Go.LaneRun} (h : LaneTwin t g) {delta : ℚ}
    (hδ : 0 ≤ delta) : LaneTwin (Ts.LaneEngine.step t delta) (Go.LaneEngine.step g delta) := by
  have hstep := stepLaneSimulation_eq h.ok hδ h.accumulators
  have hok := h.ok.step g.accumulators hδ
  have hk : (Go.stepLaneSimulation g.state g.accumulators g.engine.lanes delta).state.territories.keys
      = g.state.territories.keys := Go.stepLaneSimulation_keys h.ok g.accumulators hδ
  unfold Ts.LaneEngine.step Go.LaneEngine.step
  dsimp only
  rw [h.lanes, h.state]
  obtain ⟨hs, hl, ha⟩ := hstep
  rw [← hk] at ha
  rw [hs, h.nextBot, hl]
  have heps : Go.laneEpsilon = 1 / 10 ^ 9 := rfl
  rw [heps]
  by_cases hc : (Go.stepLaneSimulation g.state g.accumulators g.engine.lanes delta).state.status
      = .playing ∧ (Go.stepLaneSimulation g.state g.accumulators g.engine.lanes
        delta).state.elapsedTimeSeconds ≥ g.engine.nextBotSecs - 1 / 10 ^ 9
  · rw [if_pos hc, if_pos hc]
    exact
      { ok := hok.planEnemy
        difficulty := h.difficulty
        lanes := plan_eq hok
        nextBot := by
          dsimp only [Ts.LaneEngine.plan]
          rw [h.difficulty, laneBotTickSeconds_eq]
        state := rfl
        accumulators := ha
        tick := h.tick
        processed := h.processed }
  · rw [if_neg hc, if_neg hc]
    exact ⟨hok, h.difficulty, rfl, rfl, rfl, ha, h.tick, h.processed⟩

omit [MathLib] in
theorem LaneTwin.playing {t : Ts.LaneRun} {g : Go.LaneRun} (h : LaneTwin t g) :
    t.playing = g.playing := by
  rw [Ts.LaneRun.playing, Go.LaneRun.playing, h.state]

/-- **Both clocks stop together.** -/
theorem stepLaneToTick_twin {t : Ts.LaneRun} {g : Go.LaneRun} (h : LaneTwin t g) (target : ℕ) :
    LaneTwin (Ts.stepLaneToTick target t) (Go.stepLaneToTick target g) := by
  unfold Ts.stepLaneToTick Go.stepLaneToTick
  rw [h.tick]
  refine whileLoop_lockstep (R := LaneTwin) (fun t g hr => by rw [hr.playing, hr.tick]) ?_ _ h
  intro t g _ hr
  have hs := hr.step Go.pvpSimulationTick_pos.le
  exact { hs with tick := congrArg (· + 1) hr.tick }

/-- An order of the player, legal or not. -/
theorem applyLaneAction_twin {t : Ts.LaneRun} {g : Go.LaneRun} (h : LaneTwin t g)
    (a : LaneAction) : LaneTwin (Ts.applyLaneAction t a) (Go.applyLaneAction g a) := by
  unfold Ts.applyLaneAction Go.applyLaneAction
  dsimp only
  by_cases hk : a.kind = .lane
  · rw [if_pos hk, if_pos hk, h.state]
    unfold Ts.LaneEngine.openFrom Go.LaneEngine.openFrom Ts.lookup
    cases hs : g.state.territories.get? a.sourceId with
    | none =>
      dsimp only
      by_cases hi : a.sourceId ∈ Ts.objectPrototypeKeys
      · rw [if_pos hi]
        exact { h with state := rfl }
      · rw [if_neg hi]
        exact { h with state := rfl }
    | some source =>
      dsimp only
      split
      · exact { h with state := rfl }
      · rw [h.lanes, openLane_eq h.ok]
        exact
          { ok := h.ok.open .player _ _
            difficulty := h.difficulty
            lanes := rfl
            nextBot := h.nextBot
            state := rfl
            accumulators := h.accumulators
            tick := h.tick
            processed := by rw [h.processed] }
  · rw [if_neg hk, if_neg hk]
    unfold Ts.LaneEngine.cut Go.LaneEngine.cut
    dsimp only
    rw [h.lanes, cutLane_eq]
    have hremoved : decide ((Go.cutLane g.engine.lanes .player a.sourceId a.targetId).1.lanes.length
        ≠ g.engine.lanes.lanes.length)
          = (Go.cutLane g.engine.lanes .player a.sourceId a.targetId).2 := by
      unfold Go.cutLane
      dsimp only
      split
      · exact decide_eq_false fun hn => hn rfl
      · next hn => exact decide_eq_true hn
    exact
      { ok := h.ok.cut .player _ _
        difficulty := h.difficulty
        lanes := rfl
        nextBot := h.nextBot
        state := h.state
        accumulators := h.accumulators
        tick := h.tick
        processed := by
          rw [h.processed]
          exact congrArg (fun b : Bool => if b then g.processed + 1 else g.processed) hremoved }

/-- **Both replays play the same log alike.** -/
theorem playLaneActions_twin : ∀ (actions : List LaneAction) {t : Ts.LaneRun} {g : Go.LaneRun},
    LaneTwin t g → LaneTwin (Ts.playLaneActions actions t) (Go.playLaneActions actions g) := by
  intro actions
  induction actions with
  | nil => intro t g h; exact h
  | cons a actions ih =>
    intro t g h
    have hs := stepLaneToTick_twin h ⌊a.atSeconds / Go.pvpSimulationTick + 1 / 10 ^ 9⌋.toNat
    have htick : Ts.pvpSimulationTickSeconds = Go.pvpSimulationTick := rfl
    unfold Ts.playLaneActions Go.playLaneActions
    dsimp only
    rw [htick, hs.playing]
    split
    · exact hs
    · exact ih (applyLaneAction_twin hs a)

omit [MathLib] in
/-- **Both replays start together.** -/
theorem laneStart_eq {level : LaneLevel} {b : BattlefieldDefinition} (hb : b ∈ battlefields)
    (hmode : b.mode = .oneVOne) (hl : level.battlefieldId = b.id) :
    Ts.createInitialGameState Ts.pvpTimeLimitSeconds Ts.levelRulesVersion Ts.levelPlayerModifiers
      level.enemy level.battlefieldId = .ok (Go.laneStart level) := by
  obtain ⟨hid, hquad, -, hpb, heb, h1, h2⟩ := Go.tacticalSupports_mem b hb hmode
  obtain ⟨hsup, hnorm⟩ := tacticalSupports_eq b hb hmode
  rw [← hl] at hid hsup hnorm hpb heb h1 h2 hquad
  have hkeys := Go.keys_createTerritoriesForBattlefield Go.levelPlayerModifiers level.enemy
    level.battlefieldId
  have hq : (level.battlefieldId == "quad_citadel") = false := beq_eq_false_iff_ne.mpr hquad
  have hv : Ts.validateGameplayRulesVersion Ts.levelRulesVersion = some 3 := rfl
  unfold Ts.createInitialGameState
  dsimp only
  rw [hnorm, hv]
  dsimp only
  rw [createDefaultTerritories_eq, hq, Bool.and_false, if_neg Bool.false_ne_true]
  have hopen := tacticalOpening_eq
    { Go.createInitialGameStateForBattlefield Go.levelPlayerModifiers level.enemy
        level.battlefieldId with
      battlefieldId := level.battlefieldId
      territories := Go.createTerritoriesForBattlefield Go.levelPlayerModifiers level.enemy
        level.battlefieldId
      gameplayRulesVersion := Go.laneRulesVersion }
    Go.levelPlayerModifiers level.enemy
    hsup (hkeys ▸ hpb) (hkeys ▸ heb) (hkeys ▸ h1) (hkeys ▸ h2)
  unfold Go.laneStart Go.createInitialGameStateForBattlefield
  rw [if_pos hid]
  refine congrArg Except.ok (GameState.ext rfl ?_ rfl rfl rfl rfl rfl rfl rfl rfl rfl rfl)
  exact hopen

/-! ### The check of the log -/

omit [MathLib] in
/-- What both engines ask of an order besides its towers: its number, a known
kind, and a time within the match that does not go back. -/
structure OrderOk (index : ℕ) (previous : ℚ) (a : LaneAction) : Prop where
  sequence : a.sequence = index
  kind : a.kind = .lane ∨ a.kind = .cut
  nonneg : 0 ≤ a.atSeconds
  limit : a.atSeconds ≤ Go.pvpTimeLimitSeconds
  time : previous ≤ a.atSeconds

omit [MathLib] in
def InOrder : ℕ → ℚ → List LaneAction → Prop
  | _, _, [] => True
  | index, previous, a :: actions =>
    OrderOk index previous a ∧ InOrder (index + 1) a.atSeconds actions

omit [MathLib] in
theorem orderOk_iff (index : ℕ) (previous : ℚ) (a : LaneAction) :
    (¬ a.sequence ≠ index ∧ ¬ (a.kind ≠ .lane ∧ a.kind ≠ .cut) ∧
        ¬ (a.atSeconds < 0 ∨ a.atSeconds > Go.pvpTimeLimitSeconds ∨ a.atSeconds < previous))
      ↔ OrderOk index previous a := by
  rw [not_not, not_and_or, not_not, not_not, not_or, not_or, not_lt, not_lt, not_lt]
  exact ⟨fun ⟨h1, h2, h3, h4, h5⟩ => ⟨h1, h2, h3, h4, h5⟩,
    fun ⟨h1, h2, h3, h4, h5⟩ => ⟨h1, h2, h3, h4, h5⟩⟩

omit [MathLib] in
theorem ite_error_iff {ε : Type} {c : Prop} [Decidable c] {e : ε} {x : Except ε Unit} :
    (if c then .error e else x) = .ok () ↔ ¬ c ∧ x = .ok () := by
  by_cases hc : c
  · rw [if_pos hc]
    exact ⟨fun h => (by cases h), fun h => absurd hc h.1⟩
  · rw [if_neg hc]
    exact ⟨fun h => ⟨hc, h⟩, And.right⟩

omit [MathLib] in
/-- A log passes on the server when it is in order and names towers only. -/
theorem checkLaneActions_iff (territories : Record String Territory) :
    ∀ (actions : List LaneAction) (index : ℕ) (previous : ℚ),
      Go.checkLaneActions territories index previous actions = .ok () ↔
        InOrder index previous actions ∧ ∀ a ∈ actions,
          a.sourceId ∈ territories.keys ∧ a.targetId ∈ territories.keys := by
  have hkey : ∀ id, ¬ (territories.get? id).isNone = true ↔ id ∈ territories.keys := by
    intro id
    rw [Option.isNone_iff_eq_none, Record.get?_eq_none_iff, not_not]
  intro actions
  induction actions with
  | nil =>
    intro index previous
    exact ⟨fun _ => ⟨trivial, fun a h => absurd h List.not_mem_nil⟩, fun _ => rfl⟩
  | cons a actions ih =>
    intro index previous
    rw [Go.checkLaneActions, InOrder, ite_error_iff, ite_error_iff, ite_error_iff, ite_error_iff,
      ite_error_iff, hkey, hkey, ih, List.forall_mem_cons, ← orderOk_iff]
    tauto

omit [MathLib] in
theorem lookup_ne_missing {territories : Record String Territory} {id : String} :
    ¬ Ts.lookup territories id = .missing
      ↔ id ∈ territories.keys ∨ id ∈ Ts.objectPrototypeKeys := by
  unfold Ts.lookup
  cases hg : territories.get? id with
  | some t => exact ⟨fun _ => Or.inl (Record.mem_keys_of_get? hg), fun _ he => by cases he⟩
  | none =>
    have hn := Record.get?_eq_none_iff.mp hg
    dsimp only
    split
    · next hi => exact ⟨fun _ => Or.inr hi, fun _ he => by cases he⟩
    · next hi => exact ⟨fun h => absurd rfl h, fun h => absurd h (not_or.mpr ⟨hn, hi⟩)⟩

omit [MathLib] in
/-- A log passes on the client when it is in order and every name reads as something. -/
theorem validateLaneActions_iff (territories : Record String Territory) :
    ∀ (actions : List LaneAction) (index : ℕ) (previous : ℚ),
      Ts.validateLaneActions territories index previous actions = .ok () ↔
        InOrder index previous actions ∧ ∀ a ∈ actions,
          (a.sourceId ∈ territories.keys ∨ a.sourceId ∈ Ts.objectPrototypeKeys) ∧
            (a.targetId ∈ territories.keys ∨ a.targetId ∈ Ts.objectPrototypeKeys) := by
  have hlimit : Ts.pvpTimeLimitSeconds = Go.pvpTimeLimitSeconds := rfl
  intro actions
  induction actions with
  | nil =>
    intro index previous
    exact ⟨fun _ => ⟨trivial, fun a h => absurd h List.not_mem_nil⟩, fun _ => rfl⟩
  | cons a actions ih =>
    intro index previous
    have hnames : ¬ (Ts.lookup territories a.sourceId = .missing ∨
          Ts.lookup territories a.targetId = .missing)
        ↔ (a.sourceId ∈ territories.keys ∨ a.sourceId ∈ Ts.objectPrototypeKeys) ∧
          (a.targetId ∈ territories.keys ∨ a.targetId ∈ Ts.objectPrototypeKeys) := by
      rw [not_or, lookup_ne_missing, lookup_ne_missing]
    rw [Ts.validateLaneActions, InOrder, ite_error_iff, ite_error_iff, ite_error_iff,
      ite_error_iff, ih, List.forall_mem_cons, ← orderOk_iff, hnames, hlimit]
    tauto

/-! ### The whole replay -/

omit [MathLib] in
/-- What a finished replay is compared by. -/
structure LaneOutcome where
  state : GameState
  lanes : LaneState
  tick : ℕ
  summary : LaneBattleSummary

omit [MathLib] in
def clientOutcome (r : Ts.LaneRun) : LaneOutcome :=
  ⟨r.state, r.engine.lanes, r.tick, Ts.laneSummary r⟩

omit [MathLib] in
def serverOutcome (r : Go.LaneRun) : LaneOutcome :=
  ⟨r.state, r.engine.lanes, r.tick, Go.laneSummary r⟩

omit [MathLib] in
/-- Every name in the log is a tower of the map. -/
def NamesTowers (level : LaneLevel) (actions : List LaneAction) : Prop :=
  ∀ a ∈ actions, a.sourceId ∈ Go.territoryOrderForBattlefield level.battlefieldId ∧
    a.targetId ∈ Go.territoryOrderForBattlefield level.battlefieldId

omit [MathLib] in
/-- The names the client reads as something: towers and members every object inherits. -/
def NamesSomething (level : LaneLevel) (actions : List LaneAction) : Prop :=
  ∀ a ∈ actions,
    (a.sourceId ∈ Go.territoryOrderForBattlefield level.battlefieldId ∨
      a.sourceId ∈ Ts.objectPrototypeKeys) ∧
    (a.targetId ∈ Go.territoryOrderForBattlefield level.battlefieldId ∨
      a.targetId ∈ Ts.objectPrototypeKeys)

omit [MathLib] in
/-- The defect: a log that is short and in order, names nothing but towers and
members that every object inherits, and does name such a member. -/
def NamesInherited (level : LaneLevel) (actions : List LaneAction) : Prop :=
  actions.length ≤ Go.maxPvpActions ∧ InOrder 0 0 actions ∧ NamesSomething level actions ∧
    ¬ NamesTowers level actions

section Whole

variable {level : LaneLevel} {b : BattlefieldDefinition}

omit [MathLib] in
theorem laneStart_keys (hb : b ∈ battlefields) (hmode : b.mode = .oneVOne)
    (hl : level.battlefieldId = b.id) :
    (Go.laneStart level).territories.keys
      = Go.territoryOrderForBattlefield level.battlefieldId := by
  obtain ⟨hid, -, -, -⟩ := Go.tacticalSupports_mem b hb hmode
  rw [(Go.laneStart_ok hb hmode hl).ok.keys]
  unfold Go.laneStart Go.createInitialGameStateForBattlefield
  rw [if_pos (by rw [hl]; exact hid)]
  rfl

/-- The server replays a log that is short, in order and names towers, and no other. -/
theorem laneReplay_server (hb : b ∈ battlefields) (hmode : b.mode = .oneVOne)
    (hl : level.battlefieldId = b.id) (actions : List LaneAction) :
    (actions.length ≤ Go.maxPvpActions ∧ InOrder 0 0 actions ∧ NamesTowers level actions →
      Go.laneReplay level actions = .ok (Go.stepLaneToTick Go.laneLastTick
        (Go.playLaneActions actions
          ⟨Go.newLaneEngine level.botDifficulty, Go.laneStart level, .empty, 0, 0⟩))) ∧
    (¬ (actions.length ≤ Go.maxPvpActions ∧ InOrder 0 0 actions ∧ NamesTowers level actions) →
      (Go.laneReplay level actions).toOption = none) := by
  have hcheck := checkLaneActions_iff (Go.laneStart level).territories actions 0 0
  rw [laneStart_keys hb hmode hl] at hcheck
  unfold Go.laneReplay
  dsimp only
  by_cases hlen : actions.length > Go.maxPvpActions
  · rw [if_pos hlen]
    exact ⟨fun h => absurd h.1 (not_le.mpr hlen), fun _ => rfl⟩
  rw [if_neg hlen]
  cases hc : Go.checkLaneActions (Go.laneStart level).territories 0 0 actions with
  | ok u => exact ⟨fun _ => rfl, fun h => absurd ⟨not_lt.mp hlen, hcheck.mp hc⟩ h⟩
  | error e =>
    refine ⟨fun h => ?_, fun _ => rfl⟩
    rw [hcheck.mpr h.2] at hc
    cases hc

/-- The client replays a log that is short, in order and names what reads as
something, and no other. -/
theorem laneReplay_client (hb : b ∈ battlefields) (hmode : b.mode = .oneVOne)
    (hl : level.battlefieldId = b.id) (actions : List LaneAction) :
    (actions.length ≤ Go.maxPvpActions ∧ InOrder 0 0 actions ∧ NamesSomething level actions →
      Ts.laneReplay level actions = .ok (Ts.stepLaneToTick Ts.laneLastTick
        (Ts.playLaneActions actions
          ⟨Ts.newLaneEngine level.botDifficulty, Go.laneStart level, .empty, 0, 0⟩))) ∧
    (¬ (actions.length ≤ Go.maxPvpActions ∧ InOrder 0 0 actions ∧
        NamesSomething level actions) →
      (Ts.laneReplay level actions).toOption = none) := by
  have hcheck := validateLaneActions_iff (Go.laneStart level).territories actions 0 0
  rw [laneStart_keys hb hmode hl] at hcheck
  have hmax : Ts.maxPvpActions = Go.maxPvpActions := rfl
  unfold Ts.laneReplay Ts.validate
  rw [laneStart_eq hb hmode hl, hmax]
  dsimp only [Except.mapError, bind, Except.bind]
  by_cases hlen : actions.length > Go.maxPvpActions
  · rw [if_pos hlen]
    exact ⟨fun h => absurd h.1 (not_le.mpr hlen), fun _ => rfl⟩
  rw [if_neg hlen]
  cases hc : Ts.validateLaneActions (Go.laneStart level).territories 0 0 actions with
  | ok u => exact ⟨fun _ => rfl, fun h => absurd ⟨not_lt.mp hlen, hcheck.mp hc⟩ h⟩
  | error e =>
    refine ⟨fun h => ?_, fun _ => rfl⟩
    rw [hcheck.mpr h.2] at hc
    cases hc

omit [MathLib] in
theorem laneTwin_start (hb : b ∈ battlefields) (hmode : b.mode = .oneVOne)
    (hl : level.battlefieldId = b.id) :
    LaneTwin ⟨Ts.newLaneEngine level.botDifficulty, Go.laneStart level, .empty, 0, 0⟩
      ⟨Go.newLaneEngine level.botDifficulty, Go.laneStart level, .empty, 0, 0⟩ where
  ok := Go.laneStart_ok hb hmode hl
  difficulty := rfl
  lanes := rfl
  nextBot := laneBotStartSeconds_eq level.botDifficulty
  state := rfl
  accumulators _ _ := rfl
  tick := rfl
  processed := rfl

omit [MathLib] in
theorem LaneTwin.outcome {t : Ts.LaneRun} {g : Go.LaneRun} (h : LaneTwin t g) :
    clientOutcome t = serverOutcome g := by
  unfold clientOutcome serverOutcome Ts.laneSummary Go.laneSummary
  rw [h.state, h.lanes, h.tick, h.processed]

/-- **The two lane engines agree exactly where no inherited name is read as a
tower.**  On every shipped map for one against one, against every bot with any
modifiers, and for every list of recorded orders, both replays refuse the list
or both end with the same match, lanes, soldiers, tick and summary, if and only
if the list is not one whose only fault is to name a member of every object. -/
theorem simulateLaneBattle_eq (hb : b ∈ battlefields) (hmode : b.mode = .oneVOne)
    (hl : level.battlefieldId = b.id) (actions : List LaneAction) :
    (Ts.laneReplay level actions).toOption.map clientOutcome
        = (Go.laneReplay level actions).toOption.map serverOutcome
      ↔ ¬ NamesInherited level actions := by
  obtain ⟨hserver, hserver'⟩ := laneReplay_server hb hmode hl actions
  obtain ⟨hclient, hclient'⟩ := laneReplay_client hb hmode hl actions
  by_cases hg : actions.length ≤ Go.maxPvpActions ∧ InOrder 0 0 actions ∧
      NamesTowers level actions
  · have ht : NamesSomething level actions := fun a ha =>
      ⟨Or.inl (hg.2.2 a ha).1, Or.inl (hg.2.2 a ha).2⟩
    rw [hserver hg, hclient ⟨hg.1, hg.2.1, ht⟩]
    have htwin := stepLaneToTick_twin
      (playLaneActions_twin actions (laneTwin_start hb hmode hl)) Go.laneLastTick
    have hlast : Ts.laneLastTick = Go.laneLastTick := rfl
    rw [hlast]
    exact ⟨fun _ h => h.2.2.2 hg.2.2, fun _ => congrArg some htwin.outcome⟩
  rw [hserver' hg]
  by_cases ht : actions.length ≤ Go.maxPvpActions ∧ InOrder 0 0 actions ∧
      NamesSomething level actions
  · rw [hclient ht]
    refine ⟨fun h => (by cases h), fun h => absurd ⟨ht.1, ht.2.1, ht.2.2, fun hn => ?_⟩ h⟩
    exact hg ⟨ht.1, ht.2.1, hn⟩
  · rw [hclient' ht]
    exact ⟨fun _ h => ht ⟨h.1, h.2.1, h.2.2.1⟩, fun _ => rfl⟩

end Whole

/-- The first level of the nine. -/
def sampleLevel : LaneLevel := ⟨1, "crown_cross", .easy, Go.laneEnemyModifiers .easy⟩

def sampleOrders : List LaneAction :=
  [⟨0, 1, .lane, "p_base", "n_bot_left"⟩, ⟨1, 9, .cut, "p_base", "n_bot_left"⟩]

omit [MathLib] in
theorem simulateLaneBattle_eq_sample :
    (@Ts.laneReplay decimalHypot sampleLevel sampleOrders).toOption.map clientOutcome
        = (@Go.laneReplay decimalHypot sampleLevel sampleOrders).toOption.map serverOutcome
      ↔ ¬ NamesInherited sampleLevel sampleOrders :=
  @simulateLaneBattle_eq decimalHypot sampleLevel crownCross List.mem_cons_self rfl rfl
    sampleOrders

/-- One order, onto a tower named like a member of every object. -/
def inheritedOrder : List LaneAction := [⟨0, 1, .lane, "p_base", "constructor"⟩]

omit [MathLib] in
/-- The client replays the order and the server refuses it. -/
theorem simulateLaneBattle_constructor :
    (@Ts.simulateLaneBattle decimalHypot sampleLevel inheritedOrder).toOption.isSome = true ∧
      (@Go.replayLaneBattle decimalHypot sampleLevel inheritedOrder).toOption.isSome = false := by
  decide +kernel

end CrownClash.Parity
