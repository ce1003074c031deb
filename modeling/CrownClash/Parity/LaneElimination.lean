import CrownClash.Lib.Run
import CrownClash.Parity.Lanes

/-!
# When a side is beaten in a lane battle

A lane battle is judged twice in one step.  The base simulation goes first; it
knows towers and armies, and there are no armies in a lane battle, so it ends
the match as soon as a side has no tower.  The lanes' own verdict, which also
counts the soldiers on the road, is only reached when the base step did not end
the match.

So a side that lost its last tower keeps playing through the step in which it
lost it, while its soldiers march, and is declared beaten by the base simulation
of the next step.  `EliminationOk` is what the lanes' verdict stands for, and
`laneStep_iff` says which steps keep it: those that do not begin with such a
side.  A run has it throughout exactly if all its steps are of this kind, on the
server (`elimination_go`) and on the client, whose runs are the same
(`LaneBattleTwin`).
-/

namespace CrownClash

open Lib

/-- The elimination rule, read off a state and its lanes. -/
structure EliminationOk (state : GameState) (lanes : LaneState) : Prop where
  victory : state.status = .victory → state.elapsedTimeSeconds < state.timeLimitSeconds →
    Go.towersOf state.territories .enemy = 0 ∧ Go.inFlight lanes.soldiers .enemy = 0
  defeat : state.status = .defeat → state.elapsedTimeSeconds < state.timeLimitSeconds →
    Go.towersOf state.territories .player = 0 ∧ Go.inFlight lanes.soldiers .player = 0

/-- A step that does not begin with a side that owns no tower but has soldiers on
the road, unless the match is over or reaches its time limit.  The player is only
looked at while the enemy owns a tower: the base simulation asks for the enemy
first. -/
def FairStep (state : GameState) (lanes : LaneState) : LaneEvent → Prop
  | .step delta =>
    state.status = .playing → Go.nextElapsed state delta < state.timeLimitSeconds →
      (Go.towersOf state.territories .enemy = 0 → Go.inFlight lanes.soldiers .enemy = 0) ∧
      (Go.towersOf state.territories .player = 0 → Go.towersOf state.territories .enemy ≠ 0 →
        Go.inFlight lanes.soldiers .player = 0)
  | _ => True

/-- A battle that may begin: a well-formed state that is being played, with no
armies and no lanes. -/
structure LaneStartOk (state : GameState) : Prop where
  ok : Go.LanesOk state emptyLaneState
  playing : state.status = .playing
  armies : state.armies = []

namespace Go

section Machine

variable [MathLib]

/-- One order or one step. -/
def LaneBattle.after (b : LaneBattle) : LaneEvent → LaneBattle
  | .openLane owner sourceId targetId =>
    { b with lanes := Go.openLane b.state b.lanes owner sourceId targetId }
  | .cutLane owner sourceId targetId =>
    { b with lanes := (Go.cutLane b.lanes owner sourceId targetId).1 }
  | .step delta => stepLaneSimulation b.state b.accumulators b.lanes delta

end Machine

/-- What every state of a run keeps. -/
structure LaneBattleOk (b : LaneBattle) : Prop where
  ok : LanesOk b.state b.lanes
  armies : b.state.armies = []

variable [MathLib]

theorem openLane_soldiers (state : GameState) (lanes : LaneState) (owner : Team)
    (sourceId targetId : String) :
    (Go.openLane state lanes owner sourceId targetId).soldiers = lanes.soldiers := by
  rcases openLane_cases state lanes owner sourceId targetId with he | ⟨route, _, he⟩
  · rw [he]
  · rw [he]

omit [MathLib] in
theorem cutLane_soldiers (lanes : LaneState) (owner : Team) (sourceId targetId : String) :
    (Go.cutLane lanes owner sourceId targetId).1.soldiers = lanes.soldiers := by
  unfold Go.cutLane
  dsimp only
  split <;> rfl

/-! ### The base step of a lane battle -/

/-- With no armies the loop over them does nothing. -/
theorem moveArmies_nil {state : GameState} (h : state.armies = []) (accumulators : Accumulators)
    (delta : ℚ) : moveArmies state accumulators delta = ⟨state, accumulators, []⟩ := by
  unfold moveArmies
  rw [h]
  rfl

omit [MathLib] in
theorem towersOf_eq_zero {state : GameState} (team : Team)
    (hk : state.territories.keys = territoryOrderForBattlefield state.battlefieldId) :
    towersOf state.territories team = 0 ↔ territoriesOf state team = [] := by
  rw [towersOf, filter_values team hk, List.length_eq_zero_iff]

omit [MathLib] in
/-- Production changes no owner. -/
theorem towersOf_generated (territories : Record String Territory) (state : GameState)
    (accumulators : Accumulators) (delta : ℚ) (team : Team) :
    towersOf (territories.map (generated state accumulators delta)) team
      = towersOf territories team := by
  unfold towersOf
  rw [Record.values_map, Record.values, ← List.countP_eq_length_filter,
    ← List.countP_eq_length_filter, List.countP_map, List.countP_map]
  refine List.countP_congr fun e _ => ?_
  rw [Function.comp_apply, Function.comp_apply, generated, generateUnits_owner]

/-- Without armies a step is production and the verdict. -/
theorem stepSimulation_noArmies {b : LaneBattle} (h : LaneBattleOk b)
    (hp : b.state.status = .playing) (delta : ℚ) :
    stepSimulation b.state b.accumulators delta
      = finishStep ⟨startStep b.state delta, b.accumulators, []⟩ delta := by
  have hstart : (startStep b.state delta).armies = [] := h.armies
  unfold stepSimulation
  rw [if_neg (not_not.mpr hp), moveArmies_nil hstart]

/-- **The base step of a lane battle**: the clock moves, no tower changes hands,
and the verdict looks at the towers alone. -/
theorem stepSimulation_lanes {b : LaneBattle} (h : LaneBattleOk b)
    (hp : b.state.status = .playing) {delta : ℚ} (hδ : 0 ≤ delta) :
    (stepSimulation b.state b.accumulators delta).1.armies = [] ∧
      (∀ team, towersOf (stepSimulation b.state b.accumulators delta).1.territories team
        = towersOf b.state.territories team) ∧
      (nextElapsed b.state delta < b.state.timeLimitSeconds →
        (stepSimulation b.state b.accumulators delta).1.status
          = if towersOf b.state.territories .enemy = 0 then .victory
            else if towersOf b.state.territories .player = 0 then .defeat else .playing) := by
  have hkeys : (startStep b.state delta).territories.keys
      = territoryOrderForBattlefield (startStep b.state delta).battlefieldId := h.ok.ok.keys
  have hstep := stepSimulation_noArmies h hp delta
  have hclose : (⟨startStep b.state delta, b.accumulators, []⟩ : Marching).close.territories.keys
      = territoryOrderForBattlefield (startStep b.state delta).battlefieldId := hkeys
  have hterr := tickGeneration_territories b.accumulators delta hclose
  have htowers : ∀ team, towersOf (stepSimulation b.state b.accumulators delta).1.territories team
      = towersOf b.state.territories team := by
    intro team
    rw [hstep]
    change towersOf (tickGeneration _ b.accumulators delta).1.territories team = _
    rw [hterr, towersOf_generated]
    rfl
  refine ⟨by rw [hstep]; rfl, htowers, fun hlt => ?_⟩
  have hok : BattleOk (stepSimulation b.state b.accumulators delta).1 :=
    stepSimulation_ok h.ok.ok hδ
  have hk := hok.keys
  have htime := (stepSimulation_clock h.ok.ok hp b.accumulators hδ).2.2
  have hstatus : (stepSimulation b.state b.accumulators delta).1.status
      = nextStatus (stepSimulation b.state b.accumulators delta).1 := by
    rw [hstep]
    rfl
  have harmies : ∀ team, hasArmy (stepSimulation b.state b.accumulators delta).1.armies team
      = false := by
    intro team
    rw [hstep]
    rfl
  rw [hstatus]
  unfold nextStatus
  simp only [harmies, and_true, ← towersOf_eq_zero _ hk, htowers]
  rw [htime.1, htime.2.1, if_neg (not_le.mpr hlt)]

/-! ### One event -/

theorem LaneBattleOk.after {b : LaneBattle} (h : LaneBattleOk b) {e : LaneEvent}
    (he : e.Forward) : LaneBattleOk (b.after e) := by
  cases e with
  | openLane owner sourceId targetId => exact ⟨h.ok.open owner sourceId targetId, h.armies⟩
  | cutLane owner sourceId targetId => exact ⟨h.ok.cut owner sourceId targetId, h.armies⟩
  | step delta =>
    have hδ : 0 ≤ delta := he
    refine ⟨h.ok.step b.accumulators hδ, ?_⟩
    have harmies : (stepSimulation b.state b.accumulators delta).1.armies = [] := by
      by_cases hp : b.state.status = .playing
      · exact (stepSimulation_lanes h hp hδ).1
      · unfold stepSimulation
        rw [if_pos hp]
        exact h.armies
    unfold LaneBattle.after stepLaneSimulation
    dsimp only
    split
    · exact harmies
    · exact harmies

/-- The lanes' verdict is the elimination rule. -/
theorem stepLanes_elimination {state : GameState} (hp : state.status = .playing)
    (accumulators : Accumulators) (lanes : LaneState) (delta : ℚ) :
    EliminationOk (stepLanes state accumulators lanes delta).state
      (stepLanes state accumulators lanes delta).lanes := by
  have hverdict : ∀ (r : Record String Territory) (soldiers : List Soldier),
      (laneStatus r soldiers state.status = .victory →
        towersOf r .enemy = 0 ∧ inFlight soldiers .enemy = 0) ∧
      (laneStatus r soldiers state.status = .defeat →
        towersOf r .player = 0 ∧ inFlight soldiers .player = 0) := by
    intro r soldiers
    unfold laneStatus
    rw [hp]
    split
    · next hv => exact ⟨fun _ => hv, fun hd => (by cases hd)⟩
    · split
      · next hd => exact ⟨fun hv => (by cases hv), fun _ => hd⟩
      · exact ⟨fun hv => (by cases hv), fun hd => (by cases hd)⟩
  exact ⟨fun hv _ => (hverdict _ _).1 hv, fun hd _ => (hverdict _ _).2 hd⟩

/-- **One event keeps the elimination rule exactly if it is a fair step.** -/
theorem laneStep_iff {b : LaneBattle} (h : LaneBattleOk b) {e : LaneEvent} (he : e.Forward)
    (hb : EliminationOk b.state b.lanes) :
    EliminationOk (b.after e).state (b.after e).lanes ↔ FairStep b.state b.lanes e := by
  cases e with
  | openLane owner sourceId targetId =>
    refine ⟨fun _ => trivial, fun _ => ?_⟩
    unfold LaneBattle.after
    exact ⟨by dsimp only; rw [openLane_soldiers]; exact hb.victory,
      by dsimp only; rw [openLane_soldiers]; exact hb.defeat⟩
  | cutLane owner sourceId targetId =>
    refine ⟨fun _ => trivial, fun _ => ?_⟩
    unfold LaneBattle.after
    exact ⟨by dsimp only; rw [cutLane_soldiers]; exact hb.victory,
      by dsimp only; rw [cutLane_soldiers]; exact hb.defeat⟩
  | step delta =>
    have hδ : 0 ≤ delta := he
    unfold LaneBattle.after FairStep stepLaneSimulation
    dsimp only
    by_cases hp : b.state.status = .playing
    swap
    · have hsame : stepSimulation b.state b.accumulators delta = (b.state, b.accumulators) := by
        unfold stepSimulation
        rw [if_pos hp]
      rw [hsame, if_pos hp]
      exact ⟨fun _ hc => absurd hc hp, fun _ => hb⟩
    obtain ⟨-, htowers, hstatus⟩ := stepSimulation_lanes h hp hδ
    obtain ⟨-, -, hlimit, helapsed, hrun⟩ := stepSimulation_clock h.ok.ok hp b.accumulators hδ
    by_cases hn : (stepSimulation b.state b.accumulators delta).1.status = .playing
    · rw [if_neg (not_not.mpr hn)]
      refine ⟨fun _ _ hlt => ?_, fun _ => stepLanes_elimination hn _ _ _⟩
      rw [hstatus hlt] at hn
      split at hn
      · cases hn
      · next henemy =>
        split at hn
        · cases hn
        · next hplayer =>
          exact ⟨fun hz => absurd hz henemy, fun hz => absurd hz hplayer⟩
    rw [if_pos hn]
    constructor
    · intro hok _ hlt
      have hlt' : (stepSimulation b.state b.accumulators delta).1.elapsedTimeSeconds
          < (stepSimulation b.state b.accumulators delta).1.timeLimitSeconds := by
        rw [helapsed, hlimit]
        exact hlt
      refine ⟨fun hz => (hok.victory ?_ hlt').2, fun hz hnz => (hok.defeat ?_ hlt').2⟩
      · rw [hstatus hlt, if_pos hz]
      · rw [hstatus hlt, if_neg hnz, if_pos hz]
    · intro hfair
      refine ⟨fun hv hlt => ?_, fun hd hlt => ?_⟩
      · rw [helapsed, hlimit] at hlt
        rw [hstatus hlt] at hv
        dsimp only
        rw [htowers]
        split at hv
        · next hz => exact ⟨hz, (hfair hp hlt).1 hz⟩
        · split at hv <;> cases hv
      · rw [helapsed, hlimit] at hlt
        rw [hstatus hlt] at hd
        dsimp only
        rw [htowers]
        split at hd
        · cases hd
        · next hnz =>
          split at hd
          · next hz => exact ⟨hz, (hfair hp hlt).2 hz hnz⟩
          · cases hd

/-- The battle before its first event. -/
def LaneBattle.begin (state : GameState) : LaneBattle := ⟨state, .empty, emptyLaneState⟩

theorem elimination_go {state : GameState} (h : LaneStartOk state) {events : List LaneEvent}
    (he : ∀ e ∈ events, e.Forward) :
    Always LaneBattle.after (fun b => EliminationOk b.state b.lanes) (.begin state) events
      ↔ EachStep LaneBattle.after (fun b => FairStep b.state b.lanes) (.begin state) events := by
  refine always_iff_eachStep (I := LaneBattleOk) (E := LaneEvent.Forward)
    (fun b e hE hb _ _ => hb.after hE) (fun b e hE hb hP => laneStep_iff hb hE hP) he
    ⟨h.ok, h.armies⟩ ?_
  have hp : state.status = .playing := h.playing
  refine ⟨fun hv _ => ?_, fun hd _ => ?_⟩
  · change state.status = .victory at hv
    rw [hp] at hv
    cases hv
  · change state.status = .defeat at hd
    rw [hp] at hd
    cases hd

omit [MathLib] in
/-- A level on a shipped map is a battle that may begin. -/
theorem laneStart_startOk {level : LaneLevel} {b : BattlefieldDefinition} (hb : b ∈ battlefields)
    (hmode : b.mode = .oneVOne) (hl : level.battlefieldId = b.id) :
    LaneStartOk (laneStart level) :=
  ⟨laneStart_ok hb hmode hl, rfl, rfl⟩

end Go

/-! ### The client's runs -/

namespace Ts

variable [MathLib]

/-- One order or one step. -/
def LaneStepResult.after (b : LaneStepResult) : LaneEvent → LaneStepResult
  | .openLane owner sourceId targetId =>
    { b with lanes := Ts.openLane b.state b.lanes owner sourceId targetId }
  | .cutLane owner sourceId targetId =>
    { b with lanes := Ts.cutLane b.lanes owner sourceId targetId }
  | .step delta => stepLaneSimulation b.state b.accumulators b.lanes delta

omit [MathLib] in
/-- The battle before its first event. -/
def LaneStepResult.begin (state : GameState) : LaneStepResult := ⟨state, .empty, emptyLaneState⟩

end Ts

namespace Parity

variable [MathLib]

structure LaneBattleTwin (t : Ts.LaneStepResult) (g : Go.LaneBattle) : Prop where
  ok : Go.LaneBattleOk g
  state : t.state = g.state
  lanes : t.lanes = g.lanes
  accumulators : AccEq g.state.territories.keys t.accumulators g.accumulators

theorem LaneBattleTwin.after {t : Ts.LaneStepResult} {g : Go.LaneBattle}
    (h : LaneBattleTwin t g) {e : LaneEvent} (he : e.Forward) :
    LaneBattleTwin (t.after e) (g.after e) := by
  have hok := h.ok.after he
  cases e with
  | openLane owner sourceId targetId =>
    exact ⟨hok, h.state,
      by
        unfold Ts.LaneStepResult.after Go.LaneBattle.after
        dsimp only
        rw [h.state, h.lanes, openLane_eq h.ok.ok],
      h.accumulators⟩
  | cutLane owner sourceId targetId =>
    exact ⟨hok, h.state,
      by
        unfold Ts.LaneStepResult.after Go.LaneBattle.after
        dsimp only
        rw [h.lanes, cutLane_eq],
      h.accumulators⟩
  | step delta =>
    have hδ : 0 ≤ delta := he
    obtain ⟨hs, hl, ha⟩ := stepLaneSimulation_eq h.ok.ok hδ h.accumulators
    rw [← Go.stepLaneSimulation_keys h.ok.ok g.accumulators hδ] at ha
    unfold Ts.LaneStepResult.after Go.LaneBattle.after at *
    dsimp only at *
    rw [h.state, h.lanes]
    exact ⟨hok, hs, hl, ha⟩

/-- **When a side is beaten.**  In every run of a lane battle, by any orders of
both sides and any steps of the clock, the elimination rule holds in every state
if and only if no step before the time limit begins with a side that owns no
tower but has soldiers on the road; so on the server, and so on the client. -/
theorem laneElimination {state : GameState} (h : LaneStartOk state) {events : List LaneEvent}
    (he : ∀ e ∈ events, e.Forward) :
    (Always Go.LaneBattle.after (fun b => EliminationOk b.state b.lanes) (.begin state) events
        ↔ EachStep Go.LaneBattle.after (fun b => FairStep b.state b.lanes) (.begin state)
          events) ∧
      (Always Ts.LaneStepResult.after (fun b => EliminationOk b.state b.lanes) (.begin state)
          events
        ↔ EachStep Ts.LaneStepResult.after (fun b => FairStep b.state b.lanes) (.begin state)
          events) := by
  have hgo := Go.elimination_go h he
  refine ⟨hgo, ?_⟩
  have hstart : LaneBattleTwin (.begin state) (.begin state) :=
    ⟨⟨h.ok, h.armies⟩, rfl, rfl, fun _ _ => rfl⟩
  have hafter : ∀ (t : Ts.LaneStepResult) (g : Go.LaneBattle) (e : LaneEvent), e.Forward →
      LaneBattleTwin t g → LaneBattleTwin (t.after e) (g.after e) :=
    fun t g e hE ht => ht.after hE
  have helim : ∀ (t : Ts.LaneStepResult) (g : Go.LaneBattle), LaneBattleTwin t g →
      (EliminationOk t.state t.lanes ↔ EliminationOk g.state g.lanes) :=
    fun t g ht => by rw [ht.state, ht.lanes]
  have hfair : ∀ (t : Ts.LaneStepResult) (g : Go.LaneBattle) (e : LaneEvent),
      LaneBattleTwin t g → (FairStep t.state t.lanes e ↔ FairStep g.state g.lanes e) :=
    fun t g e ht => by rw [ht.state, ht.lanes]
  have halways : Always Ts.LaneStepResult.after (fun b => EliminationOk b.state b.lanes)
        (.begin state) events
      ↔ Always Go.LaneBattle.after (fun b => EliminationOk b.state b.lanes) (.begin state)
        events :=
    always_lockstep hafter helim he hstart
  have heach : EachStep Ts.LaneStepResult.after (fun b => FairStep b.state b.lanes)
        (.begin state) events
      ↔ EachStep Go.LaneBattle.after (fun b => FairStep b.state b.lanes) (.begin state)
        events :=
    eachStep_lockstep hafter hfair he hstart
  exact halways.trans (hgo.trans heach.symm)

/-- Both sides rush the keep, and the player goes on to both towers of the enemy.
The clock steps by the time between two soldiers. -/
def rushTheKeep : List LaneEvent :=
  [.openLane .player "p_base" "n_center", .openLane .player "n_bot_left" "n_center",
   .openLane .enemy "e_base" "n_center", .openLane .enemy "n_top_right" "n_center"]
  ++ List.replicate 24 (.step Go.laneEmitSeconds)
  ++ [.openLane .player "n_center" "e_base", .openLane .player "n_center" "n_top_right"]
  ++ List.replicate 11 (.step Go.laneEmitSeconds)

/-- The easy level on the first map. -/
def rushLevel : LaneLevel := ⟨1, "crown_cross", .easy, Go.laneEnemyModifiers .easy⟩

omit [MathLib] in
theorem rushTheKeep_forward : ∀ e ∈ rushTheKeep, e.Forward := by
  have hemit : 0 ≤ Go.laneEmitSeconds := by norm_num [Go.laneEmitSeconds]
  intro e he
  simp only [rushTheKeep, List.mem_append, List.mem_cons, List.not_mem_nil, or_false,
    List.mem_replicate] at he
  rcases he with ((((rfl | rfl | rfl | rfl) | ⟨-, rfl⟩) | rfl | rfl) | ⟨-, rfl⟩)
  · trivial
  · trivial
  · trivial
  · trivial
  · exact hemit
  · trivial
  · trivial
  · exact hemit

omit [MathLib] in
theorem laneElimination_rush :
    (Always (@Go.LaneBattle.after decimalHypot) (fun b => EliminationOk b.state b.lanes)
        (.begin (Go.laneStart rushLevel)) rushTheKeep
      ↔ EachStep (@Go.LaneBattle.after decimalHypot) (fun b => FairStep b.state b.lanes)
        (.begin (Go.laneStart rushLevel)) rushTheKeep) ∧
    (Always (@Ts.LaneStepResult.after decimalHypot) (fun b => EliminationOk b.state b.lanes)
        (.begin (Go.laneStart rushLevel)) rushTheKeep
      ↔ EachStep (@Ts.LaneStepResult.after decimalHypot) (fun b => FairStep b.state b.lanes)
        (.begin (Go.laneStart rushLevel)) rushTheKeep) :=
  @laneElimination decimalHypot (Go.laneStart rushLevel)
    (Go.laneStart_startOk (b := crownCross) List.mem_cons_self rfl rfl) rushTheKeep
    rushTheKeep_forward

omit [MathLib] in
/-- How the rush ends: a victory after seven seconds, with two soldiers of the enemy
still on the road. -/
theorem rushTheKeep_end :
    let b := rushTheKeep.foldl (@Go.LaneBattle.after decimalHypot)
      (.begin (Go.laneStart rushLevel))
    b.state.status = .victory ∧ b.state.elapsedTimeSeconds < b.state.timeLimitSeconds ∧
      Go.inFlight b.lanes.soldiers .enemy = 2 := by
  decide +kernel

omit [MathLib] in
/-- **The elimination rule fails.** -/
theorem laneElimination_fails :
    ¬ EliminationOk
      (rushTheKeep.foldl (@Go.LaneBattle.after decimalHypot)
        (.begin (Go.laneStart rushLevel))).state
      (rushTheKeep.foldl (@Go.LaneBattle.after decimalHypot)
        (.begin (Go.laneStart rushLevel))).lanes := by
  intro h
  obtain ⟨hv, hlt, htwo⟩ := rushTheKeep_end
  have hzero := (h.victory hv hlt).2
  rw [htwo] at hzero
  cases hzero

end Parity

end CrownClash
