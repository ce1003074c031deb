import CrownClash.Parity.LaneReplay
import CrownClash.Ts.LaneScene
import CrownClash.Lib.Run

/-!
# A lane battle and its record

The scene plays a lane battle live and records the player's orders; the replay
plays the record.  `Mirrors` says that the replay, stopped at the tick where the
scene is, stands where the scene stands.  Every input keeps it: a tick because the
replay takes the same tick, a recorded order because its time, rounded to
milliseconds, names the tick where it was given, and an order that is not recorded
because it changed nothing.

So the record always leads to the battle it was taken from.  Whether it is accepted
is another matter: a swipe asks for room for one order and may record several.
-/

namespace CrownClash.Parity

open Lib Ts

/-! ### What one tick of the engine does -/

section Engine

variable [MathLib]

/-- **A tick keeps the battle well formed and moves its clock.** -/
theorem laneStep_clock {state : GameState} {lanes : LaneState} (h : Go.LanesOk state lanes)
    (hp : state.status = .playing) (accumulators : Accumulators) {delta : ℚ} (hδ : 0 ≤ delta) :
    (Go.stepLaneSimulation state accumulators lanes delta).state.gameplayRulesVersion
        = state.gameplayRulesVersion ∧
      (Go.stepLaneSimulation state accumulators lanes delta).state.timeLimitSeconds
        = state.timeLimitSeconds ∧
      (Go.stepLaneSimulation state accumulators lanes delta).state.elapsedTimeSeconds
        = Go.nextElapsed state delta ∧
      ((Go.stepLaneSimulation state accumulators lanes delta).state.status = .playing →
        Go.nextElapsed state delta < state.timeLimitSeconds) := by
  obtain ⟨-, hversion, hlimit, helapsed, hnext⟩ :=
    Go.stepSimulation_clock h.ok hp accumulators hδ
  unfold Go.stepLaneSimulation
  dsimp only
  by_cases hs : (Go.stepSimulation state accumulators delta).1.status = .playing
  · rw [if_neg (not_not.mpr hs)]
    exact ⟨hversion, hlimit, helapsed, fun _ => hnext hs⟩
  · rw [if_pos hs]
    exact ⟨hversion, hlimit, helapsed, hnext⟩

/-- What a tick of the client's engine does to the battle is what the server's does. -/
theorem engineStep_state {r : LaneRun} (h : Go.LanesOk r.state r.engine.lanes) {delta : ℚ}
    (hδ : 0 ≤ delta) :
    (LaneEngine.step r delta).state
      = (Go.stepLaneSimulation r.state r.accumulators r.engine.lanes delta).state :=
  (stepLaneSimulation_eq h hδ (fun _ _ => rfl)).1

theorem engineStep_ok {r : LaneRun} (h : Go.LanesOk r.state r.engine.lanes) {delta : ℚ}
    (hδ : 0 ≤ delta) :
    Go.LanesOk (LaneEngine.step r delta).state (LaneEngine.step r delta).engine.lanes := by
  have htwin : LaneTwin r
      ⟨⟨r.engine.difficulty, r.engine.lanes, r.engine.nextBotSeconds⟩, r.state, r.accumulators,
        r.tick, r.processed⟩ := ⟨h, rfl, rfl, rfl, rfl, fun _ _ => rfl, rfl, rfl⟩
  have hstep := htwin.step hδ
  have hok := hstep.ok
  rw [← hstep.state, ← hstep.lanes] at hok
  exact hok

/-- **What an order onto a tower can do**: nothing, or it runs a lane between two towers. -/
theorem openFrom_cases {e : LaneEngine} {state : GameState} (h : Go.LanesOk state e.lanes)
    (sourceId targetId : String) :
    (e.openFrom state sourceId targetId = (e, false)) ∨
      ((e.openFrom state sourceId targetId).2 = true ∧
        Go.LanesOk state (e.openFrom state sourceId targetId).1.lanes ∧
        sourceId ∈ state.territories.keys ∧ targetId ∈ state.territories.keys) := by
  unfold LaneEngine.openFrom
  cases lookup state.territories sourceId with
  | missing => exact Or.inl rfl
  | inherited => exact Or.inl rfl
  | own source =>
    dsimp only
    split
    · exact Or.inl rfl
    have hok := h.open .player sourceId targetId
    rw [openLane_eq h]
    cases hany : (Go.openLane state e.lanes .player sourceId targetId).lanes.any
        fun l => l.connects .player sourceId targetId with
    | true =>
      obtain ⟨l, hl, hc⟩ := List.any_eq_true.mp hany
      have hends := hok.ends l hl
      obtain ⟨-, hsource, htarget⟩ := Lane.connects_iff.mp hc
      exact Or.inr ⟨rfl, hok, hsource ▸ hends.source, htarget ▸ hends.target⟩
    | false =>
      left
      rcases Go.openLane_cases state e.lanes .player sourceId targetId with he | ⟨route, -, he⟩
      · rw [he]
      · rw [he, List.any_append] at hany
        have hnew := (Bool.or_eq_false_iff.mp hany).2
        rw [List.any_cons, List.any_nil, Bool.or_false] at hnew
        exact absurd (Lane.connects_iff.mpr ⟨rfl, rfl, rfl⟩) (Bool.eq_false_iff.mp hnew)

end Engine

/-! ### The replay on its way -/

section Replay

variable [MathLib]

/-- The replay of a record, with the last order carried out. -/
def replayed (level : LaneLevel) (actions : List LaneAction) : LaneRun :=
  playLaneActions actions
    ⟨newLaneEngine level.botDifficulty, Go.laneStart level, .empty, 0, 0⟩

omit [MathLib] in
def orderTick (action : LaneAction) : ℕ :=
  ⌊action.atSeconds / pvpSimulationTickSeconds + 1 / 10 ^ 9⌋.toNat

/-- One tick of the replay. -/
def replayTick (r : LaneRun) : LaneRun :=
  { LaneEngine.step r pvpSimulationTickSeconds with tick := r.tick + 1 }

theorem replayTick_tick (r : LaneRun) (_ : r.playing = true) :
    (replayTick r).tick = r.tick + 1 := rfl

theorem playLaneActions_over {action : LaneAction} {actions : List LaneAction} {r : LaneRun}
    (h : (stepLaneToTick (orderTick action) r).playing = false) :
    playLaneActions (action :: actions) r = stepLaneToTick (orderTick action) r := by
  rw [playLaneActions]
  change (if !(stepLaneToTick (orderTick action) r).playing then
    stepLaneToTick (orderTick action) r else _) = _
  rw [h]
  rfl

theorem playLaneActions_next {action : LaneAction} {actions : List LaneAction} {r : LaneRun}
    (h : (stepLaneToTick (orderTick action) r).playing = true) :
    playLaneActions (action :: actions) r
      = playLaneActions actions (applyLaneAction (stepLaneToTick (orderTick action) r) action) := by
  rw [playLaneActions]
  change (if !(stepLaneToTick (orderTick action) r).playing then
    stepLaneToTick (orderTick action) r
    else playLaneActions actions
      (applyLaneAction (stepLaneToTick (orderTick action) r) action)) = _
  rw [h]
  rfl

/-- **One order more is carried out where the replay stands then.** -/
theorem playLaneActions_concat (action : LaneAction) :
    ∀ (actions : List LaneAction) (r : LaneRun),
      playLaneActions (actions ++ [action]) r =
        if (stepLaneToTick (orderTick action) (playLaneActions actions r)).playing then
          applyLaneAction (stepLaneToTick (orderTick action) (playLaneActions actions r)) action
        else stepLaneToTick (orderTick action) (playLaneActions actions r) := by
  intro actions
  induction actions with
  | nil =>
    intro r
    rw [List.nil_append]
    cases hp : (stepLaneToTick (orderTick action) r).playing with
    | true =>
      rw [playLaneActions_next hp]
      exact (if_pos hp).symm
    | false =>
      rw [playLaneActions_over hp]
      exact (if_neg (Bool.eq_false_iff.mp hp)).symm
  | cons a actions ih =>
    intro r
    rw [List.cons_append]
    cases hp : (stepLaneToTick (orderTick a) r).playing with
    | true =>
      rw [playLaneActions_next hp, playLaneActions_next hp]
      exact ih _
    | false =>
      -- the match is over before the first order, and nothing moves any more
      have hstay : stepLaneToTick (orderTick action) (stepLaneToTick (orderTick a) r)
          = stepLaneToTick (orderTick a) r := countTo_of_not hp _
      rw [playLaneActions_over hp, playLaneActions_over hp, hstay, hp]
      rfl

end Replay

/-! ### Recorded orders -/

/-- An order at the end of a record, given when the others had been given. -/
theorem inOrder_concat {action : LaneAction} (hkind : action.kind = .lane ∨ action.kind = .cut)
    (hnonneg : 0 ≤ action.atSeconds) (hlimit : action.atSeconds ≤ Go.pvpTimeLimitSeconds) :
    ∀ {actions : List LaneAction} {index : ℕ} {previous : ℚ}, InOrder index previous actions →
      previous ≤ action.atSeconds → (∀ a ∈ actions, a.atSeconds ≤ action.atSeconds) →
      action.sequence = index + actions.length → InOrder index previous (actions ++ [action]) := by
  intro actions
  induction actions with
  | nil =>
    intro index previous _ hprevious _ hsequence
    exact ⟨⟨hsequence, hkind, hnonneg, hlimit, hprevious⟩, trivial⟩
  | cons a actions ih =>
    intro index previous h _ hlast hsequence
    refine ⟨h.1, ih h.2 (hlast a List.mem_cons_self)
      (fun b hb => hlast b (List.mem_cons_of_mem a hb)) ?_⟩
    rw [hsequence, List.length_cons]
    push_cast
    ring

/-- The time of a tick, rounded to milliseconds, is the time of the tick. -/
theorem roundMillis_tick (n : ℕ) :
    (roundHalfUp ((n : ℚ) * Go.pvpSimulationTick * 1000) : ℚ) / 1000
      = (n : ℚ) * Go.pvpSimulationTick := by
  have hgrid : (n : ℚ) * Go.pvpSimulationTick * (1000 : ℕ) = ((20 * n : ℤ) : ℚ) := by
    norm_num [Go.pvpSimulationTick]
    ring
  have hround := roundHalfUp_div_of_grid (d := 1000) (by norm_num) hgrid
  push_cast at hround
  exact hround

/-- An order recorded at a tick is replayed at that tick. -/
theorem orderTick_eq {action : LaneAction} {n : ℕ}
    (h : action.atSeconds = (n : ℚ) * Go.pvpSimulationTick) : orderTick action = n := by
  have hfloor : ⌊(n : ℚ) + 1 / 10 ^ 9⌋ = (n : ℤ) := by
    rw [Int.floor_eq_iff]
    constructor
    · push_cast
      linarith [show (0 : ℚ) ≤ 1 / 10 ^ 9 by norm_num]
    · push_cast
      linarith [show (1 : ℚ) / 10 ^ 9 < 1 by norm_num]
  have htick : pvpSimulationTickSeconds = Go.pvpSimulationTick := rfl
  unfold orderTick
  rw [h, htick, mul_div_assoc, div_self Go.pvpSimulationTick_pos.ne', mul_one, hfloor]
  rfl

/-! ### The record mirrors the scene -/

section Scene

variable [MathLib] {level : LaneLevel} {scene : LaneScene} {n : ℕ}

/-- The replay of the record as far as the scene's tick. -/
def reached (level : LaneLevel) (scene : LaneScene) (n : ℕ) : LaneRun :=
  stepLaneToTick n (replayed level scene.laneActions)

/-- **The record mirrors the scene** after `n` ticks. -/
structure Mirrors (level : LaneLevel) (scene : LaneScene) (n : ℕ) : Prop where
  ok : Go.LanesOk scene.gameState scene.laneRuntime.lanes
  keys : scene.gameState.territories.keys = Go.territoryOrderForBattlefield level.battlefieldId
  version : scene.gameState.gameplayRulesVersion = Go.laneRulesVersion
  limit : scene.gameState.timeLimitSeconds = Go.pvpTimeLimitSeconds
  elapsed : scene.gameState.elapsedTimeSeconds = (n : ℚ) * Go.pvpSimulationTick
  bound : n ≤ 4500
  running : scene.gameState.status = .playing → n < 4500
  before : (replayed level scene.laneActions).tick ≤ n
  state : (reached level scene n).state = scene.gameState
  accumulators : (reached level scene n).accumulators = scene.accumulators
  engine : scene.gameState.status = .playing → (reached level scene n).engine = scene.laneRuntime
  inOrder : InOrder 0 0 scene.laneActions
  past : ∀ a ∈ scene.laneActions, a.atSeconds ≤ scene.gameState.elapsedTimeSeconds
  towers : NamesTowers level scene.laneActions

theorem Mirrors.playing (h : Mirrors level scene n) :
    (reached level scene n).playing = true ↔ scene.gameState.status = .playing := by
  rw [LaneRun.playing, h.state, decide_eq_true_iff]

/-- **A tick keeps the mirror**: the replay takes the same one. -/
theorem Mirrors.tick (h : Mirrors level scene n) (hp : scene.gameState.status = .playing) :
    Mirrors level scene.tick (n + 1) := by
  have hδ := Go.pvpSimulationTick_pos.le
  have hnext : reached level scene (n + 1) = replayTick (reached level scene n) := by
    have hsucc : reached level scene (n + 1)
        = if (reached level scene n).playing then replayTick (reached level scene n)
          else reached level scene n := countTo_succ replayTick_tick h.before
    rw [hsucc, if_pos (h.playing.mpr hp)]
  have hreached : reached level scene n
      = ⟨scene.laneRuntime, scene.gameState, scene.accumulators, (reached level scene n).tick,
        (reached level scene n).processed⟩ := by
    rw [← h.engine hp, ← h.state, ← h.accumulators]
  have htick : scene.tick = { scene with
      laneRuntime := (reached level scene (n + 1)).engine
      gameState := (reached level scene (n + 1)).state
      accumulators := (reached level scene (n + 1)).accumulators } := by
    rw [hnext, hreached]
    unfold LaneScene.tick
    rw [if_pos hp]
    rfl
  have hok : Go.LanesOk (reached level scene n).state (reached level scene n).engine.lanes := by
    rw [h.state, h.engine hp]
    exact h.ok
  have hstate : (reached level scene (n + 1)).state
      = (Go.stepLaneSimulation scene.gameState scene.accumulators scene.laneRuntime.lanes
        Go.pvpSimulationTick).state := by
    rw [hnext, ← h.state, ← h.accumulators, ← h.engine hp]
    exact engineStep_state hok hδ
  obtain ⟨hversion, hlimit, helapsed, hrunning⟩ := laneStep_clock h.ok hp scene.accumulators hδ
  have hclock : Go.nextElapsed scene.gameState Go.pvpSimulationTick
      = ((n + 1 : ℕ) : ℚ) * Go.pvpSimulationTick := by
    have hgrid := Go.nextElapsed_tick (k := (n : ℤ)) (Int.natCast_nonneg n)
      (by rw [h.version]; rfl) (by rw [h.elapsed]; push_cast; rfl)
    rw [hgrid]
    push_cast
    rfl
  have hlater : scene.gameState.elapsedTimeSeconds ≤ ((n + 1 : ℕ) : ℚ) * Go.pvpSimulationTick := by
    rw [h.elapsed]
    push_cast
    linarith
  have hlt := h.running hp
  rw [htick]
  exact
    { ok := by
        show Go.LanesOk (reached level scene (n + 1)).state _
        rw [hnext]
        exact engineStep_ok hok hδ
      keys := by
        show (reached level scene (n + 1)).state.territories.keys = _
        rw [hstate, Go.stepLaneSimulation_keys h.ok _ hδ, h.keys]
      version := by
        show (reached level scene (n + 1)).state.gameplayRulesVersion = _
        rw [hstate, hversion, h.version]
      limit := by
        show (reached level scene (n + 1)).state.timeLimitSeconds = _
        rw [hstate, hlimit, h.limit]
      elapsed := by
        show (reached level scene (n + 1)).state.elapsedTimeSeconds = _
        rw [hstate, helapsed, hclock]
      bound := hlt
      running := by
        intro hp'
        have hbelow : Go.nextElapsed scene.gameState Go.pvpSimulationTick
            < scene.gameState.timeLimitSeconds := by
          refine hrunning ?_
          rw [← hstate]
          exact hp'
        rw [hclock, h.limit] at hbelow
        have hcast : ((n + 1 : ℕ) : ℚ) < (4500 : ℕ) := by
          norm_num [Go.pvpSimulationTick, Go.pvpTimeLimitSeconds] at hbelow ⊢
          linarith
        exact_mod_cast hcast
      before := Nat.le_succ_of_le h.before
      state := rfl
      accumulators := rfl
      engine := fun _ => rfl
      inOrder := h.inOrder
      past := by
        intro a ha
        show a.atSeconds ≤ (reached level scene (n + 1)).state.elapsedTimeSeconds
        rw [hstate, helapsed, hclock]
        exact le_trans (h.past a ha) hlater
      towers := h.towers }

/-- The order the scene writes down. -/
def orderOf (scene : LaneScene) (kind : LaneActionKind) (sourceId targetId : String) :
    LaneAction :=
  ⟨scene.laneActions.length,
    (roundHalfUp (scene.gameState.elapsedTimeSeconds * 1000) : ℚ) / 1000, kind, sourceId, targetId⟩

theorem Mirrors.orderTime (h : Mirrors level scene n) (kind : LaneActionKind)
    (sourceId targetId : String) :
    (orderOf scene kind sourceId targetId).atSeconds = (n : ℚ) * Go.pvpSimulationTick := by
  show (roundHalfUp (scene.gameState.elapsedTimeSeconds * 1000) : ℚ) / 1000 = _
  rw [h.elapsed]
  exact roundMillis_tick n

/-- With one order more the replay carries it out where it stood. -/
theorem Mirrors.replayed_concat (h : Mirrors level scene n) (kind : LaneActionKind)
    (sourceId targetId : String) :
    replayed level (scene.laneActions ++ [orderOf scene kind sourceId targetId]) =
      if (reached level scene n).playing then
        applyLaneAction (reached level scene n) (orderOf scene kind sourceId targetId)
      else reached level scene n := by
  have hconcat := playLaneActions_concat (orderOf scene kind sourceId targetId) scene.laneActions
    ⟨newLaneEngine level.botDifficulty, Go.laneStart level, .empty, 0, 0⟩
  rw [orderTick_eq (h.orderTime kind sourceId targetId)] at hconcat
  exact hconcat

/-- Where the replay of the record stands once an order was recorded. -/
theorem Mirrors.reached_record (h : Mirrors level scene n) (kind : LaneActionKind)
    (sourceId targetId : String) (e : LaneEngine) :
    reached level
        (LaneScene.recordLaneAction { scene with laneRuntime := e } kind sourceId targetId) n
      = if (reached level scene n).playing then
          applyLaneAction (reached level scene n) (orderOf scene kind sourceId targetId)
        else reached level scene n := by
  show stepLaneToTick n
    (replayed level (scene.laneActions ++ [orderOf scene kind sourceId targetId])) = _
  rw [h.replayed_concat kind sourceId targetId]
  cases hp : (reached level scene n).playing with
  | true =>
    have htick : (reached level scene n).tick = n := count_countTo replayTick_tick h.before hp
    rw [if_pos rfl]
    exact countTo_of_le (Nat.le_of_eq htick.symm)
  | false =>
    rw [if_neg Bool.false_ne_true]
    exact countTo_of_not hp n

/-- The order is one of the record, after all the others. -/
theorem Mirrors.inOrder_record (h : Mirrors level scene n) {kind : LaneActionKind}
    (hkind : kind = .lane ∨ kind = .cut) (sourceId targetId : String) :
    InOrder 0 0 (scene.laneActions ++ [orderOf scene kind sourceId targetId]) := by
  have htime := h.orderTime kind sourceId targetId
  have hnonneg : (0 : ℚ) ≤ (n : ℚ) * Go.pvpSimulationTick :=
    mul_nonneg (Nat.cast_nonneg n) Go.pvpSimulationTick_pos.le
  have hlimit : (n : ℚ) * Go.pvpSimulationTick ≤ Go.pvpTimeLimitSeconds := by
    have hbound : (n : ℚ) ≤ 4500 := by exact_mod_cast h.bound
    norm_num [Go.pvpSimulationTick, Go.pvpTimeLimitSeconds]
    linarith
  have hpast : ∀ a ∈ scene.laneActions,
      a.atSeconds ≤ (orderOf scene kind sourceId targetId).atSeconds := by
    intro a ha
    rw [htime, ← h.elapsed]
    exact h.past a ha
  have htimes : 0 ≤ (orderOf scene kind sourceId targetId).atSeconds ∧
      (orderOf scene kind sourceId targetId).atSeconds ≤ Go.pvpTimeLimitSeconds := by
    rw [htime]
    exact ⟨hnonneg, hlimit⟩
  have hkind' : (orderOf scene kind sourceId targetId).kind = .lane ∨
      (orderOf scene kind sourceId targetId).kind = .cut := hkind
  refine inOrder_concat hkind' htimes.1 htimes.2 h.inOrder htimes.1 hpast ?_
  show (scene.laneActions.length : ℤ) = _
  push_cast
  ring

/-- **A recorded order keeps the mirror**: the replay gives the same order at the
same tick. -/
theorem Mirrors.record (h : Mirrors level scene n) {kind : LaneActionKind}
    {sourceId targetId : String} {e : LaneEngine}
    (hkind : kind = .lane ∨ kind = .cut)
    (he : e = if kind = .lane then
        (scene.laneRuntime.openFrom scene.gameState sourceId targetId).1
      else (scene.laneRuntime.cut sourceId targetId).1)
    (hok : Go.LanesOk scene.gameState e.lanes)
    (hsource : sourceId ∈ scene.gameState.territories.keys)
    (htarget : targetId ∈ scene.gameState.territories.keys) :
    Mirrors level
      (LaneScene.recordLaneAction { scene with laneRuntime := e } kind sourceId targetId) n := by
  have hstays := h.reached_record kind sourceId targetId e
  have happly : (applyLaneAction (reached level scene n)
      (orderOf scene kind sourceId targetId)).state = scene.gameState ∧
      (applyLaneAction (reached level scene n)
        (orderOf scene kind sourceId targetId)).accumulators = scene.accumulators :=
    ⟨h.state, h.accumulators⟩
  exact
    { ok := hok
      keys := h.keys
      version := h.version
      limit := h.limit
      elapsed := h.elapsed
      bound := h.bound
      running := h.running
      before := by
        show (replayed level
          (scene.laneActions ++ [orderOf scene kind sourceId targetId])).tick ≤ n
        have hle : (reached level scene n).tick ≤ n := countTo_le replayTick_tick h.before
        rw [h.replayed_concat kind sourceId targetId]
        split
        · exact hle
        · exact hle
      state := by
        rw [hstays]
        split
        · exact happly.1
        · exact h.state
      accumulators := by
        rw [hstays]
        split
        · exact happly.2
        · exact h.accumulators
      engine := by
        intro hp
        rw [hstays, if_pos (h.playing.mpr hp)]
        show (if kind = .lane then
            (reached level scene n).engine.openFrom (reached level scene n).state sourceId targetId
          else (reached level scene n).engine.cut sourceId targetId).1 = e
        rw [h.engine hp, h.state, he]
        split <;> rfl
      inOrder := h.inOrder_record hkind sourceId targetId
      past := by
        intro a ha
        rcases List.mem_append.mp ha with ha | ha
        · exact h.past a ha
        · rw [List.mem_singleton.mp ha]
          show (orderOf scene kind sourceId targetId).atSeconds ≤ scene.gameState.elapsedTimeSeconds
          rw [h.orderTime kind sourceId targetId, h.elapsed]
      towers := by
        intro a ha
        rcases List.mem_append.mp ha with ha | ha
        · exact h.towers a ha
        · rw [List.mem_singleton.mp ha, ← h.keys]
          exact ⟨hsource, htarget⟩ }

/-! ### Drags and swipes -/

/-- One tower of a drag, carried out and recorded before the next. -/
theorem Mirrors.openOne (h : Mirrors level scene n) (sourceId targetId : String) :
    (scene.laneRuntime.openFrom scene.gameState sourceId targetId).2 = true ∧
        Mirrors level (LaneScene.recordLaneAction
          { scene with
            laneRuntime := (scene.laneRuntime.openFrom scene.gameState sourceId targetId).1 }
          .lane sourceId targetId) n ∨
      scene.laneRuntime.openFrom scene.gameState sourceId targetId = (scene.laneRuntime, false) := by
  rcases openFrom_cases h.ok sourceId targetId with hno | ⟨hyes, hok, hsource, htarget⟩
  · exact Or.inr hno
  · exact Or.inl ⟨hyes, h.record (Or.inl rfl) (if_pos rfl).symm hok hsource htarget⟩

omit [MathLib] in
/-- The scene once a drag has been carried out and its orders written down. -/
def written (scene : LaneScene) (e : LaneEngine) (opened : List String) (targetId : String) :
    LaneScene :=
  opened.foldl (fun scene id => scene.recordLaneAction .lane id targetId)
    { scene with laneRuntime := e }

omit [MathLib] in
/-- Writing an order down looks at the battle and the record only. -/
theorem written_engine (e e' : LaneEngine) (opened : List String) (targetId : String) :
    ∀ scene : LaneScene,
      { written scene e opened targetId with laneRuntime := e' }
          = written scene e' opened targetId ∧
        (written scene e opened targetId).laneRuntime = e ∧
        (written scene e opened targetId).gameState = scene.gameState := by
  induction opened with
  | nil => intro scene; exact ⟨rfl, rfl, rfl⟩
  | cons id opened ih =>
    intro scene
    exact ih (scene.recordLaneAction .lane id targetId)

omit [MathLib] in
theorem written_concat (scene : LaneScene) (e e' : LaneEngine) (opened : List String)
    (id targetId : String) :
    written scene e' (opened ++ [id]) targetId
      = LaneScene.recordLaneAction { written scene e opened targetId with laneRuntime := e' }
          .lane id targetId := by
  rw [(written_engine e e' opened targetId scene).1]
  unfold written
  rw [List.foldl_append, List.foldl_cons, List.foldl_nil]

/-- **A drag keeps the mirror.**  Its orders are carried out first and recorded
afterwards, which is the same as one after the other. -/
theorem Mirrors.openLanes (h : Mirrors level scene n) (sourceIds : List String)
    (targetId : String) : Mirrors level (scene.openLanes sourceIds targetId) n := by
  unfold LaneScene.openLanes
  split
  · exact h
  show Mirrors level (written scene
    (scene.laneRuntime.openFor scene.gameState sourceIds targetId).engine
    (scene.laneRuntime.openFor scene.gameState sourceIds targetId).opened targetId) n
  refine foldl_preserves (P := fun r : OpenedLanes =>
    Mirrors level (written scene r.engine r.opened targetId) n) (fun r id _ hr => ?_) h
  obtain ⟨-, hengine, hstate⟩ := written_engine r.engine r.engine r.opened targetId scene
  have hone := hr.openOne id targetId
  rw [hengine, hstate] at hone
  unfold LaneEngine.openOne
  rcases hone with ⟨hyes, hone⟩ | hno
  · rw [if_pos hyes]
    dsimp only
    rw [written_concat scene r.engine]
    dsimp only
    rw [hstate]
    exact hone
  · rw [hno, if_neg Bool.false_ne_true]
    exact hr

/-- **A swipe keeps the mirror.**  It is its cuts, one after the other. -/
theorem Mirrors.swipeCutLanes (h : Mirrors level scene n) (start finish : Point) :
    Mirrors level (scene.swipeCutLanes start finish) n := by
  unfold LaneScene.swipeCutLanes
  by_cases hroom : scene.laneActions.length < maxPvpActions
  swap
  · rw [if_neg hroom]
    exact h
  rw [if_pos hroom]
  clear hroom
  have hends : ∀ lane ∈ lanesCrossedBySegment scene.gameState scene.laneRuntime.lanes .player
      start finish, Go.LaneEndsOk scene.gameState lane := fun lane hl =>
    h.ok.ends lane (List.mem_of_mem_filter hl)
  dsimp only [LaneEngine.cutBySwipe]
  generalize lanesCrossedBySegment scene.gameState scene.laneRuntime.lanes .player start finish
    = crossed at hends ⊢
  induction crossed generalizing scene with
  | nil => exact h
  | cons lane crossed ih =>
    have hlane := hends lane List.mem_cons_self
    have hok : Go.LanesOk scene.gameState
        (scene.laneRuntime.cut lane.sourceId lane.targetId).1.lanes := by
      show Go.LanesOk scene.gameState
        (cutLane scene.laneRuntime.lanes .player lane.sourceId lane.targetId)
      rw [cutLane_eq]
      exact h.ok.cut .player lane.sourceId lane.targetId
    have hcut := h.record (Or.inr rfl) (if_neg (fun hk => nomatch hk)).symm hok hlane.source
      hlane.target
    exact ih hcut fun l hl => hends l (List.mem_cons_of_mem lane hl)

/-! ### The whole battle -/

theorem Mirrors.input (h : Mirrors level scene n) (i : LaneScene.Input) :
    ∃ m, Mirrors level (scene.input i) m := by
  cases i with
  | tick =>
    by_cases hp : scene.gameState.status = .playing
    · exact ⟨n + 1, h.tick hp⟩
    · have hstay : scene.input .tick = scene := if_neg hp
      rw [hstay]
      exact ⟨n, h⟩
  | drag sourceIds targetId => exact ⟨n, h.openLanes sourceIds targetId⟩
  | swipe start finish => exact ⟨n, h.swipeCutLanes start finish⟩

theorem Mirrors.inputs (h : Mirrors level scene n) (inputs : List LaneScene.Input) :
    ∃ m, Mirrors level (inputs.foldl LaneScene.input scene) m :=
  foldl_preserves (P := fun scene => ∃ m, Mirrors level scene m)
    (fun _ i _ ⟨_, hm⟩ => hm.input i) ⟨n, h⟩

/-- The tick of a scene, read off its clock. -/
theorem Mirrors.clock (h : Mirrors level scene n) :
    ⌊scene.gameState.elapsedTimeSeconds / Go.pvpSimulationTick⌋.toNat = n := by
  rw [h.elapsed, mul_div_assoc, div_self Go.pvpSimulationTick_pos.ne', mul_one, Int.floor_natCast,
    Int.toNat_natCast]

omit [MathLib] in
theorem laneLastTick_eq : laneLastTick = 4505 := by decide +kernel

/-- **The battle ends**, by its time limit at the latest. -/
theorem Mirrors.playOut (h : Mirrors level scene n) :
    ∃ m, Mirrors level scene.playOut m ∧ scene.playOut.gameState.status ≠ .playing := by
  have hstep : ∀ s : LaneScene, decide (s.gameState.status = .playing) = true →
      (∃ m, Mirrors level s m) → ∃ m, Mirrors level s.tick m := by
    rintro s hp ⟨m, hm⟩
    exact ⟨m + 1, hm.tick (of_decide_eq_true hp)⟩
  have hexit := whileLoop_exit (P := fun s : LaneScene => ∃ m, Mirrors level s m)
    (m := fun s : LaneScene => 4500 - ⌊s.gameState.elapsedTimeSeconds / Go.pvpSimulationTick⌋.toNat)
    hstep (fun s hp ⟨k, hk⟩ => by
      have hlt := hk.running (of_decide_eq_true hp)
      rw [(hk.tick (of_decide_eq_true hp)).clock, hk.clock]
      omega)
    laneLastTick ⟨n, h⟩ (by
      rw [laneLastTick_eq]
      omega)
  obtain ⟨m, hm⟩ := whileLoop_preserves hstep laneLastTick ⟨n, h⟩
  exact ⟨m, hm, of_decide_eq_false hexit⟩

/-- The replay of a battle that is over ends where the battle ended. -/
theorem Mirrors.over (h : Mirrors level scene n) (hover : scene.gameState.status ≠ .playing) :
    (stepLaneToTick laneLastTick (replayed level scene.laneActions)).state
      = scene.gameState := by
  have hp : (reached level scene n).playing = false :=
    Bool.eq_false_iff.mpr fun hp => hover (h.playing.mp hp)
  have hlast : n ≤ laneLastTick := by
    have := h.bound
    rw [laneLastTick_eq]
    omega
  have hreach : stepLaneToTick laneLastTick (reached level scene n)
      = stepLaneToTick laneLastTick (replayed level scene.laneActions) :=
    countTo_countTo replayTick_tick hlast h.before
  have hstop : stepLaneToTick laneLastTick (reached level scene n) = reached level scene n :=
    countTo_of_not hp _
  rw [← hreach, hstop, h.state]

omit [MathLib] in
/-- A level of the list is played on a shipped map. -/
theorem laneLevels_maps : ∀ level ∈ laneLevels,
    ∃ b ∈ battlefields, b.mode = .oneVOne ∧ level.battlefieldId = b.id := by decide +kernel

omit [MathLib] in
/-- The state of the scene at its start. -/
def laneScene (level : LaneLevel) : LaneScene :=
  ⟨newLaneEngine level.botDifficulty, Go.laneStart level, .empty, []⟩

omit [MathLib] in
theorem laneScene_eq {level : LaneLevel} (hlevel : level ∈ laneLevels) :
    LaneScene.start level = .ok (laneScene level) := by
  obtain ⟨b, hb, hmode, hl⟩ := laneLevels_maps level hlevel
  unfold LaneScene.start
  rw [laneStart_eq hb hmode hl]
  rfl

theorem mirrors_start {level : LaneLevel} (hlevel : level ∈ laneLevels) :
    Mirrors level (laneScene level) 0 := by
  obtain ⟨b, hb, hmode, hl⟩ := laneLevels_maps level hlevel
  exact
    { ok := Go.laneStart_ok hb hmode hl
      keys := laneStart_keys hb hmode hl
      version := rfl
      limit := rfl
      elapsed := by
        rw [Nat.cast_zero, zero_mul]
        rfl
      bound := Nat.zero_le _
      running := fun _ => Nat.zero_lt_succ _
      before := le_refl _
      state := rfl
      accumulators := rfl
      engine := fun _ => rfl
      inOrder := trivial
      past := fun _ ha => absurd ha List.not_mem_nil
      towers := fun _ ha => absurd ha List.not_mem_nil }

/-! ### Room for the record -/

omit [MathLib] in
theorem length_recorded {ε : Type} (record : LaneScene → ε → LaneScene)
    (hrecord : ∀ scene e, (record scene e).laneActions.length = scene.laneActions.length + 1) :
    ∀ (l : List ε) (scene : LaneScene),
      (l.foldl record scene).laneActions.length = scene.laneActions.length + l.length := by
  intro l
  induction l with
  | nil => intro scene; rfl
  | cons e l ih =>
    intro scene
    rw [List.foldl_cons, ih, hrecord, List.length_cons]
    omega

omit [MathLib] in
theorem length_recordLaneAction (scene : LaneScene) (kind : LaneActionKind)
    (sourceId targetId : String) :
    (scene.recordLaneAction kind sourceId targetId).laneActions.length
      = scene.laneActions.length + 1 := List.length_append

/-- A drag opens at most one lane from each of its towers. -/
theorem length_opened (e : LaneEngine) (state : GameState) (sourceIds : List String)
    (targetId : String) :
    (e.openFor state sourceIds targetId).opened.length ≤ sourceIds.length := by
  have hrun : ∀ (ids : List String) (r : OpenedLanes),
      (ids.foldl (LaneEngine.openOne state targetId) r).opened.length
        ≤ r.opened.length + ids.length := by
    intro ids
    induction ids with
    | nil => intro r; exact le_refl _
    | cons id ids ih =>
      intro r
      have hone : (LaneEngine.openOne state targetId r id).opened.length
          ≤ r.opened.length + 1 := by
        unfold LaneEngine.openOne
        split
        · exact Nat.le_of_eq List.length_append
        · exact Nat.le_succ _
      have := ih (LaneEngine.openOne state targetId r id)
      rw [List.foldl_cons, List.length_cons]
      omega
  have := hrun sourceIds ⟨e, [], []⟩
  rw [List.length_nil] at this
  unfold LaneEngine.openFor
  omega

omit [MathLib] in
/-- A swipe that the record has room for: while the record is not full, it crosses
no more of the player's lanes than there is room for. -/
def SwipeFits (scene : LaneScene) : LaneScene.Input → Prop
  | .tick => True
  | .drag _ _ => True
  | .swipe start finish => scene.laneActions.length < maxPvpActions →
      scene.laneActions.length + (lanesCrossedBySegment scene.gameState scene.laneRuntime.lanes
        .player start finish).length ≤ maxPvpActions

omit [MathLib] in
theorem length_swipe (scene : LaneScene) (start finish : Point) :
    (scene.swipeCutLanes start finish).laneActions.length =
      if scene.laneActions.length < maxPvpActions then
        scene.laneActions.length + (lanesCrossedBySegment scene.gameState scene.laneRuntime.lanes
          .player start finish).length
      else scene.laneActions.length := by
  unfold LaneScene.swipeCutLanes
  split
  · exact length_recorded _ (fun s lane => length_recordLaneAction s _ _ _) _ _
  · rfl

theorem length_drag (scene : LaneScene) (sourceIds : List String) (targetId : String) :
    scene.laneActions.length ≤ (scene.openLanes sourceIds targetId).laneActions.length ∧
      (scene.laneActions.length ≤ maxPvpActions →
        (scene.openLanes sourceIds targetId).laneActions.length ≤ maxPvpActions) := by
  unfold LaneScene.openLanes
  split
  · exact ⟨le_refl _, id⟩
  · next hroom =>
    have hopened := length_opened scene.laneRuntime scene.gameState sourceIds targetId
    have hlength := length_recorded
      (fun scene id => scene.recordLaneAction .lane id targetId)
      (fun s id => length_recordLaneAction s _ _ _)
      (scene.laneRuntime.openFor scene.gameState sourceIds targetId).opened
      { scene with
        laneRuntime := (scene.laneRuntime.openFor scene.gameState sourceIds targetId).engine }
    dsimp only at hlength ⊢
    rw [hlength]
    omega

/-- **The record stays within its limit exactly as long as every swipe fits.** -/
theorem record_fits (inputs : List LaneScene.Input) {scene : LaneScene}
    (hstart : scene.laneActions.length ≤ maxPvpActions) :
    (inputs.foldl LaneScene.input scene).laneActions.length ≤ maxPvpActions
      ↔ EachStep LaneScene.input SwipeFits scene inputs := by
  have hgrows : ∀ (s : LaneScene) (i : LaneScene.Input),
      s.laneActions.length ≤ (s.input i).laneActions.length := by
    intro s i
    cases i with
    | tick =>
      show s.laneActions.length ≤ s.tick.laneActions.length
      unfold LaneScene.tick
      split <;> exact le_refl _
    | drag sourceIds targetId => exact (length_drag s sourceIds targetId).1
    | swipe start finish =>
      show s.laneActions.length ≤ (s.swipeCutLanes start finish).laneActions.length
      rw [length_swipe]
      split <;> omega
  have hstep : ∀ (s : LaneScene) (i : LaneScene.Input), s.laneActions.length ≤ maxPvpActions →
      ((s.input i).laneActions.length ≤ maxPvpActions ↔ SwipeFits s i) := by
    intro s i hs
    cases i with
    | tick =>
      have htick : s.tick.laneActions = s.laneActions := by
        unfold LaneScene.tick
        split <;> rfl
      show s.tick.laneActions.length ≤ maxPvpActions ↔ True
      rw [htick]
      exact iff_true_intro hs
    | drag sourceIds targetId => exact iff_true_intro ((length_drag s sourceIds targetId).2 hs)
    | swipe start finish =>
      show (s.swipeCutLanes start finish).laneActions.length ≤ maxPvpActions
        ↔ (s.laneActions.length < maxPvpActions → _)
      rw [length_swipe]
      split
      · next hroom => exact ⟨fun h _ => h, fun h => h hroom⟩
      · next hfull => exact iff_of_true hs fun hroom => absurd hroom hfull
  rw [← always_iff_last (P := fun s : LaneScene => s.laneActions.length ≤ maxPvpActions)
    (fun s i h => le_trans (hgrows s i) h)]
  exact always_iff_eachStep (I := fun _ => True) (E := fun _ => True)
    (fun _ _ _ _ _ _ => trivial) (fun s i _ _ hs => hstep s i hs) (fun _ _ => trivial) trivial
    hstart

/-! ### The record is accepted and leads to the battle -/

/-- What the record of a scene is for: the battle ends when the player does nothing
more, both replays accept the record, and both end where the battle ends. -/
def Reproduced (level : LaneLevel) (scene : LaneScene) : Prop :=
  scene.playOut.gameState.status ≠ .playing ∧
    (∃ summary, simulateLaneBattle level scene.laneActions
        = .ok (scene.playOut.gameState, summary) ∧
      summary.status = scene.playOut.gameState.status) ∧
    ∃ summary, Go.replayLaneBattle level scene.laneActions
        = .ok (scene.playOut.gameState, summary)

/-- Playing on records nothing. -/
theorem playOut_laneActions (scene : LaneScene) :
    scene.playOut.laneActions = scene.laneActions :=
  whileLoop_preserves (P := fun s : LaneScene => s.laneActions = scene.laneActions)
    (fun s _ h => by
      rw [← h]
      unfold LaneScene.tick
      split <;> rfl) _ rfl

/-- A record that mirrors its scene is good exactly when it is short enough. -/
theorem Mirrors.reproduced (hlevel : level ∈ laneLevels) (h : Mirrors level scene n) :
    Reproduced level scene ↔ scene.laneActions.length ≤ maxPvpActions := by
  obtain ⟨b, hb, hmode, hl⟩ := laneLevels_maps level hlevel
  obtain ⟨hclient, hclient'⟩ := laneReplay_client hb hmode hl scene.laneActions
  have hserver := (laneReplay_server hb hmode hl scene.laneActions).1
  obtain ⟨m, hm, hover⟩ := h.playOut
  have hend := hm.over hover
  rw [playOut_laneActions] at hend
  have hsomething : NamesSomething level scene.laneActions := fun a ha =>
    ⟨Or.inl (h.towers a ha).1, Or.inl (h.towers a ha).2⟩
  constructor
  · rintro ⟨-, ⟨summary, hok, -⟩, -⟩
    by_contra hlong
    have hnone := hclient' fun hc => hlong hc.1
    unfold simulateLaneBattle at hok
    cases hr : laneReplay level scene.laneActions with
    | error e =>
      rw [hr] at hok
      cases hok
    | ok r =>
      rw [hr] at hnone
      cases hnone
  · intro hshort
    refine ⟨hover, ?_, ?_⟩
    · have hrun := hclient ⟨hshort, h.inOrder, hsomething⟩
      refine ⟨laneSummary (stepLaneToTick laneLastTick (replayed level scene.laneActions)), ?_, ?_⟩
      · rw [← hend]
        unfold simulateLaneBattle
        rw [hrun]
        rfl
      · show (if _ = MatchStatus.playing then _ else _) = _
        rw [hend, if_neg hover]
    · have htwin := stepLaneToTick_twin
        (playLaneActions_twin scene.laneActions (laneTwin_start hb hmode hl)) Go.laneLastTick
      refine ⟨Go.laneSummary (Go.stepLaneToTick Go.laneLastTick
        (Go.playLaneActions scene.laneActions
          ⟨Go.newLaneEngine level.botDifficulty, Go.laneStart level, .empty, 0, 0⟩)), ?_⟩
      have hstate : (Go.stepLaneToTick Go.laneLastTick (Go.playLaneActions scene.laneActions
          ⟨Go.newLaneEngine level.botDifficulty, Go.laneStart level, .empty, 0, 0⟩)).state
          = scene.playOut.gameState := htwin.state.symm.trans hend
      rw [← hstate]
      unfold Go.replayLaneBattle
      rw [hserver ⟨hshort, h.inOrder, h.towers⟩]
      rfl

/-- **A lane battle is reproduced by its record exactly when every swipe fits.**
For every level, and for every sequence of ticks, drags and swipes from the start
of the battle, both replays accept the record and end as the battle ends, if and
only if no swipe crosses more lanes than a record that is not full has room for. -/
theorem laneRecord_reproduced {level : LaneLevel} (hlevel : level ∈ laneLevels) :
    ∃ scene, LaneScene.start level = .ok scene ∧ ∀ inputs : List LaneScene.Input,
      (Reproduced level (inputs.foldl LaneScene.input scene)
        ↔ EachStep LaneScene.input SwipeFits scene inputs) := by
  refine ⟨laneScene level, laneScene_eq hlevel, fun inputs => ?_⟩
  obtain ⟨m, hm⟩ := (mirrors_start hlevel).inputs inputs
  rw [hm.reproduced hlevel]
  exact record_fits inputs (Nat.zero_le _)

omit [MathLib] in
/-- The first level is one of the nine. -/
theorem laneRecord_reproduced_sample :
    ∃ scene, LaneScene.start sampleLevel = .ok scene ∧ ∀ inputs : List LaneScene.Input,
      (@Reproduced decimalHypot sampleLevel (inputs.foldl (@LaneScene.input decimalHypot) scene)
        ↔ EachStep (@LaneScene.input decimalHypot) SwipeFits scene inputs) :=
  @laneRecord_reproduced decimalHypot sampleLevel (by decide +kernel)

/-- A drag from the base given over and over, one onto another tower, and a swipe
across both lanes. -/
def fullRecord : List LaneScene.Input :=
  List.replicate 118 (.drag ["p_base"] "n_bot_left") ++
    [.drag ["p_base"] "n_bot_right", .swipe ⟨100, 560⟩ ⟨300, 560⟩]

omit [MathLib] in
theorem length_fullRecord :
    (fullRecord.foldl (@LaneScene.input decimalHypot)
      (laneScene sampleLevel)).laneActions.length = 121 := by decide +kernel

omit [MathLib] in
/-- The swipe is carried out with room for one order and records two, and neither
replay accepts the record. -/
theorem laneRecord_refused :
    ∃ scene, LaneScene.start sampleLevel = .ok scene ∧
      ¬ @Reproduced decimalHypot sampleLevel
        (fullRecord.foldl (@LaneScene.input decimalHypot) scene) := by
  have hlevel : sampleLevel ∈ laneLevels := by decide +kernel
  refine ⟨laneScene sampleLevel, laneScene_eq hlevel, fun h => ?_⟩
  obtain ⟨m, hm⟩ := @Mirrors.inputs decimalHypot _ _ _ (@mirrors_start decimalHypot _ hlevel)
    fullRecord
  have hshort := (@Mirrors.reproduced decimalHypot _ _ _ hlevel hm).mp h
  rw [length_fullRecord] at hshort
  exact absurd hshort (by decide)

end Scene

end CrownClash.Parity
