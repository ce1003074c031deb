import CrownClash.Parity.BotTurns
import CrownClash.Ts.Clock
import Mathlib.Logic.Function.Iterate

/-!
# A replay goes through the battle tick by tick

A replay jumps: to the next turn of the bot, or to the next action.  `Battle` is what it
jumps over, the battle without names and one tick after the other, where the bot acts
after a tick when its time has come.  A replay that stands at a tick (`AtTick`) and goes
on to a later one stands where the battle is after as many ticks (`replay_reaches`),
under the rules that count ticks and under the first ones, whose clock adds up seconds.
-/

namespace CrownClash.Parity

open Lib

/-- A battle without names, with the time of the next turn of the bot. -/
structure Battle where
  state : GameState
  accumulators : Accumulators
  aiNextTick : ℚ

/-- How many ticks lie between two turns of the bot. -/
def aiTicks : BotDifficulty → ℕ
  | .easy => 180
  | .normal => 90
  | .hard => 45

theorem getBotAiTickSeconds_ticks (difficulty : BotDifficulty) :
    Ts.getBotAiTickSeconds difficulty = aiTicks difficulty * Ts.pvpSimulationTickSeconds := by
  cases difficulty <;> norm_num [Ts.getBotAiTickSeconds, aiTicks, Ts.pvpSimulationTickSeconds]

theorem aiTicks_pos (difficulty : BotDifficulty) : 0 < aiTicks difficulty := by
  cases difficulty <;> decide

/-- What the clock of a battle says after `k` ticks, while it is played. -/
structure Ticked (o : Ts.PvpSimulationOptions) (k : ℕ) (state : GameState) : Prop where
  ok : Go.BattleOk state
  playing : state.status = .playing
  version : state.gameplayRulesVersion = o.gameplayRulesVersion
  limit : state.timeLimitSeconds = Ts.pvpTimeLimitSeconds
  elapsed : state.elapsedTimeSeconds = k * Ts.pvpSimulationTickSeconds
  early : k < 4500

/-- Times on the grid of the ticks compare as their ticks do, up to a billionth. -/
theorem tick_le_iff {k n : ℕ} :
    (k : ℚ) * Ts.pvpSimulationTickSeconds ≤ n * Ts.pvpSimulationTickSeconds + 1 / 10 ^ 9 ↔
      k ≤ n := by
  have hτ : Ts.pvpSimulationTickSeconds = 1 / 50 := by
    norm_num [Ts.pvpSimulationTickSeconds]
  rw [hτ]
  constructor
  · intro h
    by_contra hlt
    have hle : ((n + 1 : ℕ) : ℚ) ≤ k := by
      exact_mod_cast Nat.lt_of_not_le hlt
    push_cast at hle
    norm_num at h
    linarith
  · intro h
    have hle : (n : ℚ) ≥ k := by exact_mod_cast h
    norm_num
    linarith

theorem Ticked.unnamed {o : Ts.PvpSimulationOptions} {k : ℕ} {state : GameState}
    (h : Ticked o k state) : Ticked o k (Ts.unnamed state) :=
  ⟨battleOk_unnamed h.ok, h.playing, h.version, h.limit, h.elapsed, h.early⟩

/-- What moves no clock and keeps the battle well formed. -/
theorem Ticked.sameClock {o : Ts.PvpSimulationOptions} {k : ℕ} {s s' : GameState}
    (h : Ticked o k s) (hok : Go.BattleOk s') (hc : Go.SameClock s s') : Ticked o k s' :=
  ⟨hok, hc.status.trans h.playing, hc.version.trans h.version, hc.timeLimit.trans h.limit,
    hc.elapsed.trans h.elapsed, h.early⟩

variable [MathLib]

/-- **A tick moves the clock**, also the one that ends the battle. -/
theorem Ticked.elapsed_step {o : Ts.PvpSimulationOptions} {k : ℕ} {state : GameState}
    (h : Ticked o k state) (accumulators : Accumulators) :
    (Ts.stepSimulation state accumulators Ts.pvpSimulationTickSeconds).state.elapsedTimeSeconds
      = ((k + 1 : ℕ) : ℚ) * Ts.pvpSimulationTickSeconds := by
  have hδ : (0 : ℚ) ≤ Ts.pvpSimulationTickSeconds := Go.pvpSimulationTick_pos.le
  rw [(stepSimulation_eq h.ok hδ (a := accumulators) (b := accumulators) fun _ _ => rfl).1]
  obtain ⟨-, -, -, helapsed, -⟩ := Go.stepSimulation_clock h.ok h.playing accumulators hδ
  refine helapsed.trans ?_
  by_cases hv : Go.hasCaptureRecovery state.gameplayRulesVersion = true
  · have hgrid := Go.nextElapsed_tick (k := k) (Int.natCast_nonneg k) hv
      (by rw [h.elapsed]; rfl)
    refine hgrid.trans ?_
    push_cast
    rfl
  · unfold Go.nextElapsed
    rw [if_neg hv, h.elapsed]
    push_cast
    ring

/-- **A tick**, unless it ends the battle. -/
theorem Ticked.step {o : Ts.PvpSimulationOptions} {k : ℕ} {state : GameState}
    (h : Ticked o k state) (accumulators : Accumulators)
    (hp : (Ts.stepSimulation state accumulators Ts.pvpSimulationTickSeconds).state.status
      = .playing) :
    Ticked o (k + 1)
      (Ts.stepSimulation state accumulators Ts.pvpSimulationTickSeconds).state := by
  have hδ : (0 : ℚ) ≤ Ts.pvpSimulationTickSeconds := Go.pvpSimulationTick_pos.le
  have hstep := (stepSimulation_eq h.ok hδ (a := accumulators) (b := accumulators)
    fun _ _ => rfl).1
  have hclock := h.elapsed_step accumulators
  rw [hstep] at hp hclock ⊢
  obtain ⟨-, hversion, hlimit, helapsed, hrunning⟩ :=
    Go.stepSimulation_clock h.ok h.playing accumulators hδ
  have hnext := helapsed.symm.trans hclock
  have hlt := hrunning hp
  rw [hnext, h.limit] at hlt
  refine ⟨Go.stepSimulation_ok h.ok hδ, hp, hversion.trans h.version, hlimit.trans h.limit,
    helapsed.trans hnext, ?_⟩
  unfold Ts.pvpSimulationTickSeconds Ts.pvpTimeLimitSeconds at hlt
  have hq : ((k + 1 : ℕ) : ℚ) < 4500 := by linarith
  exact_mod_cast hq


/-! ### The battle -/

namespace Battle

def step (b : Battle) : Battle :=
  let r := Ts.stepSimulation b.state b.accumulators Ts.pvpSimulationTickSeconds
  ⟨r.state, r.accumulators, b.aiNextTick⟩

/-- The bot, if its time has come. -/
def bot (o : Ts.PvpSimulationOptions) (b : Battle) : Battle :=
  if b.state.status = .playing ∧ b.state.elapsedTimeSeconds ≥ b.aiNextTick - 1 / 10 ^ 9 then
    ⟨botTurn o b.state, b.accumulators, b.aiNextTick + Ts.getBotAiTickSeconds o.botDifficulty⟩
  else b

def tick (o : Ts.PvpSimulationOptions) (b : Battle) : Battle := b.step.bot o

theorem step_over {b : Battle} (h : b.state.status ≠ .playing) : b.step = b := by
  unfold step Ts.stepSimulation
  rw [if_pos h]

theorem bot_over (o : Ts.PvpSimulationOptions) {b : Battle} (h : b.state.status ≠ .playing) :
    b.bot o = b := if_neg fun hc => h hc.1

theorem tick_over (o : Ts.PvpSimulationOptions) {b : Battle} (h : b.state.status ≠ .playing) :
    b.tick o = b := by
  unfold tick
  rw [step_over h, bot_over o h]

/-- **A battle that is over stays as it is.** -/
theorem ticks_over (o : Ts.PvpSimulationOptions) {b : Battle} (h : b.state.status ≠ .playing)
    (n : ℕ) : (tick o)^[n] b = b := by
  induction n with
  | zero => rfl
  | succ n ih => rw [Function.iterate_succ_apply, tick_over o h, ih]

theorem steps_over {b : Battle} (h : b.state.status ≠ .playing) (n : ℕ) : step^[n] b = b := by
  induction n with
  | zero => rfl
  | succ n ih => rw [Function.iterate_succ_apply, step_over h, ih]

theorem steps_aiNextTick (b : Battle) (n : ℕ) : (step^[n] b).aiNextTick = b.aiNextTick := by
  induction n with
  | zero => rfl
  | succ n ih =>
    rw [Function.iterate_succ_apply']
    exact ih

/-- The clock of a battle in which the bot does not act. -/
theorem steps_ticked {o : Ts.PvpSimulationOptions} {k : ℕ} {b : Battle} (h : Ticked o k b.state)
    (n : ℕ) (hp : (step^[n] b).state.status = .playing) :
    Ticked o (k + n) (step^[n] b).state := by
  induction n with
  | zero => exact h
  | succ n ih =>
    rw [Function.iterate_succ_apply'] at hp ⊢
    by_cases hbefore : (step^[n] b).state.status = .playing
    · exact (ih hbefore).step _ hp
    · rw [step_over hbefore] at hp
      exact absurd hp hbefore

/-- **Before the time of the bot has come a tick is a step.** -/
theorem ticks_eq_steps {o : Ts.PvpSimulationOptions} {k a : ℕ} {b : Battle}
    (h : Ticked o k b.state) (ha : b.aiNextTick = a * Ts.pvpSimulationTickSeconds) :
    ∀ {n : ℕ}, k + n < a → (tick o)^[n] b = step^[n] b := by
  intro n
  induction n with
  | zero => intro _; rfl
  | succ n ih =>
    intro hlt
    rw [Function.iterate_succ_apply', ih (by omega)]
    show bot o (step (step^[n] b)) = _
    rw [← Function.iterate_succ_apply' step]
    refine if_neg fun hdue => ?_
    have hclock := (steps_ticked h (n + 1) hdue.1).elapsed
    have hlate := hdue.2
    rw [hclock, steps_aiNextTick, ha] at hlate
    have hle : (a : ℚ) * Ts.pvpSimulationTickSeconds
        ≤ ((k + (n + 1) : ℕ) : ℚ) * Ts.pvpSimulationTickSeconds + 1 / 10 ^ 9 := by linarith
    have hnat := tick_le_iff.mp hle
    omega

/-- The tick at which the time of the bot comes. -/
theorem ticks_eq_bot {o : Ts.PvpSimulationOptions} {k a n : ℕ} {b : Battle}
    (h : Ticked o k b.state) (ha : b.aiNextTick = a * Ts.pvpSimulationTickSeconds)
    (hn : k + n = a) (hpos : 0 < n) : (tick o)^[n] b = bot o (step^[n] b) := by
  obtain ⟨i, rfl⟩ := Nat.exists_eq_succ_of_ne_zero hpos.ne'
  rw [Function.iterate_succ_apply', ticks_eq_steps h ha (by omega), Function.iterate_succ_apply']
  rfl

end Battle

/-! ### The replay -/

/-- What a replay goes through. -/
def replayBattle (r : Ts.Replay) : Battle := ⟨Ts.unnamed r.state, r.accumulators, r.nextAiTick⟩

omit [MathLib] in
theorem replayBattle_playing {r : Ts.Replay} :
    (replayBattle r).state.status = .playing ↔ r.playing = true := by
  unfold Ts.Replay.playing
  rw [decide_eq_true_iff]
  exact Iff.rfl

theorem replayBattle_step (r : Ts.Replay) :
    replayBattle (r.step Ts.pvpSimulationTickSeconds) = (replayBattle r).step := by
  have hstep : Ts.stepSimulation (Ts.unnamed r.state) r.accumulators Ts.pvpSimulationTickSeconds
      = Ts.renameStep (fun _ => "")
          (Ts.stepSimulation r.state r.accumulators Ts.pvpSimulationTickSeconds) :=
    Ts.stepSimulation_rename r.state r.accumulators Ts.pvpSimulationTickSeconds
  unfold Battle.step replayBattle
  dsimp only
  rw [hstep]
  rfl

/-- A replay of a running battle after `k` ticks. -/
structure AtTick (o : Ts.PvpSimulationOptions) (k : ℕ) (r : Ts.Replay) : Prop where
  state : Ticked o k r.state
  time : Ts.currentRules o.gameplayRulesVersion = false →
    r.currentTime = k * Ts.pvpSimulationTickSeconds
  tick : Ts.currentRules o.gameplayRulesVersion = true → r.currentTick = k

omit [MathLib] in
theorem AtTick.playing {o : Ts.PvpSimulationOptions} {k : ℕ} {r : Ts.Replay} (h : AtTick o k r) :
    r.playing = true := decide_eq_true h.state.playing

/-- Where a replay is after `n` steps of the clock. -/
structure Stepped (o : Ts.PvpSimulationOptions) (k n : ℕ) (r r' : Ts.Replay) : Prop where
  battle : replayBattle r' = Battle.step^[n] (replayBattle r)
  actionIndex : r'.actionIndex = r.actionIndex
  ticked : r'.playing = true → AtTick o (k + n) r'

/-- **The loop of a clock takes its steps.**  `f` is a step with whatever the rules
count, and the loop stops at the tick `n` or when the battle is over. -/
theorem clockLoop_stepped {o : Ts.PvpSimulationOptions} {c : Ts.Replay → Bool}
    {f : Ts.Replay → Ts.Replay} {n : ℕ} (hover : ∀ r, r.playing = false → c r = false)
    (hcond : ∀ k r, AtTick o k r → (c r = true ↔ k < n))
    (hbattle : ∀ r, replayBattle (f r) = (replayBattle r).step)
    (hindex : ∀ r, (f r).actionIndex = r.actionIndex)
    (hbody : ∀ k r, AtTick o k r → (f r).playing = true → AtTick o (k + 1) (f r)) :
    ∀ (m : ℕ) {k : ℕ} {r : Ts.Replay}, AtTick o k r → k + m = n →
      Stepped o k m r (whileLoop c f m r) := by
  intro m
  induction m with
  | zero => intro k r h _; exact ⟨rfl, rfl, fun _ => h⟩
  | succ m ih =>
    intro k r h hn
    unfold whileLoop
    rw [if_pos ((hcond k r h).mpr (by omega))]
    by_cases hp : (f r).playing = true
    · have hrest := ih (hbody k r h hp) (by omega)
      have hk : k + 1 + m = k + (m + 1) := by omega
      refine ⟨?_, hrest.actionIndex.trans (hindex r), ?_⟩
      · rw [hrest.battle, hbattle, ← Function.iterate_succ_apply]
      · rw [← hk]
        exact hrest.ticked
    · rw [whileLoop_of_not f (hover _ (Bool.eq_false_iff.mpr hp))]
      refine ⟨?_, hindex r, fun h => absurd h hp⟩
      rw [Function.iterate_succ_apply, ← hbattle,
        Battle.steps_over fun hc => hp (replayBattle_playing.mp hc)]

/-- A round of the clock that counts ticks. -/
theorem AtTick.tickRound {o : Ts.PvpSimulationOptions} {k : ℕ} {r : Ts.Replay}
    (hv : Ts.currentRules o.gameplayRulesVersion = true) (h : AtTick o k r)
    (hp : (r.step Ts.pvpSimulationTickSeconds).playing = true) :
    AtTick o (k + 1)
      { r.step Ts.pvpSimulationTickSeconds with currentTick := r.currentTick + 1 } := by
  refine ⟨h.state.step r.accumulators (of_decide_eq_true hp), fun hv' => ?_, fun _ => ?_⟩
  · rw [hv] at hv'
    cases hv'
  · show r.currentTick + 1 = _
    rw [h.tick hv]
    push_cast
    rfl

/-- A round of the clock that adds up seconds. -/
theorem AtTick.timeRound {o : Ts.PvpSimulationOptions} {k : ℕ} {r : Ts.Replay}
    (hv : Ts.currentRules o.gameplayRulesVersion = false) (h : AtTick o k r)
    (hp : (r.step Ts.pvpSimulationTickSeconds).playing = true) :
    AtTick o (k + 1)
      { r.step Ts.pvpSimulationTickSeconds with
        currentTime := r.currentTime + Ts.pvpSimulationTickSeconds } := by
  refine ⟨h.state.step r.accumulators (of_decide_eq_true hp), fun _ => ?_, fun hv' => ?_⟩
  · show r.currentTime + Ts.pvpSimulationTickSeconds = _
    rw [h.time hv]
    push_cast
    ring
  · rw [hv] at hv'
    cases hv'

omit [MathLib] in
/-- A time on the grid is a whole number of ticks, also with a billionth more. -/
theorem floor_ticks (n : ℕ) :
    ⌊(n * Ts.pvpSimulationTickSeconds) / Ts.pvpSimulationTickSeconds + 1 / 10 ^ 9⌋ = (n : ℤ) := by
  rw [mul_div_cancel_right₀ _ Ts.pvpSimulationTickSeconds_pos.ne', Int.floor_eq_iff]
  constructor
  · push_cast
    norm_num
  · push_cast
    norm_num

theorem stepToTick_stepped {o : Ts.PvpSimulationOptions} {k m : ℕ} {r : Ts.Replay}
    (hv : Ts.currentRules o.gameplayRulesVersion = true) (h : AtTick o k r) :
    Stepped o k m r (Ts.stepToTick ((k + m : ℕ) * Ts.pvpSimulationTickSeconds) r) := by
  have hfuel : (((k + m : ℕ) : ℤ) - r.currentTick).toNat = m := by
    rw [h.tick hv]
    omega
  have hcond : ∀ j s, AtTick o j s →
      ((s.playing && decide (s.currentTick < ((k + m : ℕ) : ℤ))) = true ↔ j < k + m) := by
    intro j s hs
    rw [hs.playing, Bool.true_and, decide_eq_true_iff, hs.tick hv]
    exact Int.ofNat_lt
  have hloop := clockLoop_stepped (o := o) (n := k + m)
    (fun s hs => by rw [hs, Bool.false_and]) hcond
    (f := fun s => { s.step Ts.pvpSimulationTickSeconds with currentTick := s.currentTick + 1 })
    (fun s => replayBattle_step s) (fun _ => rfl) (fun j s hs hp => hs.tickRound hv hp) m h rfl
  unfold Ts.stepToTick
  dsimp only
  rw [floor_ticks, hfuel]
  refine ⟨hloop.battle, hloop.actionIndex, fun hp => ?_⟩
  have hat := hloop.ticked hp
  refine ⟨hat.state, fun hv' => ?_, hat.tick⟩
  rw [hv] at hv'
  cases hv'

theorem stepToTime_stepped {o : Ts.PvpSimulationOptions} {k m : ℕ} {r : Ts.Replay}
    (hv : Ts.currentRules o.gameplayRulesVersion = false) (h : AtTick o k r) :
    Stepped o k m r (Ts.stepToTime ((k + m : ℕ) * Ts.pvpSimulationTickSeconds) r) := by
  have hτ : Ts.pvpSimulationTickSeconds = 1 / 50 := by norm_num [Ts.pvpSimulationTickSeconds]
  have hfuel : ⌊((k + m : ℕ) * Ts.pvpSimulationTickSeconds + 1 / 10 ^ 9 - r.currentTime)
      / Ts.pvpSimulationTickSeconds⌋.toNat = m := by
    have hfloor : ⌊((k + m : ℕ) * Ts.pvpSimulationTickSeconds + 1 / 10 ^ 9 - r.currentTime)
        / Ts.pvpSimulationTickSeconds⌋ = (m : ℤ) := by
      rw [h.time hv, hτ, Int.floor_eq_iff]
      push_cast
      constructor
      · norm_num
        linarith
      · norm_num
        linarith
    rw [hfloor]
    exact Int.toNat_natCast m
  have hcond : ∀ j s, AtTick o j s →
      ((s.playing && decide (s.currentTime + Ts.pvpSimulationTickSeconds
        ≤ (k + m : ℕ) * Ts.pvpSimulationTickSeconds + 1 / 10 ^ 9)) = true ↔ j < k + m) := by
    intro j s hs
    have hnext : s.currentTime + Ts.pvpSimulationTickSeconds
        = (j + 1 : ℕ) * Ts.pvpSimulationTickSeconds := by
      rw [hs.time hv]
      push_cast
      ring
    rw [hs.playing, Bool.true_and, decide_eq_true_iff, hnext, tick_le_iff]
    exact Nat.succ_le_iff
  have hloop := clockLoop_stepped (o := o) (n := k + m)
    (fun s hs => by rw [hs, Bool.false_and]) hcond
    (f := fun s => { s.step Ts.pvpSimulationTickSeconds with
      currentTime := s.currentTime + Ts.pvpSimulationTickSeconds })
    (fun s => replayBattle_step s) (fun _ => rfl) (fun j s hs hp => hs.timeRound hv hp) m h rfl
  unfold Ts.stepToTime
  dsimp only
  rw [hfuel]
  generalize whileLoop _ _ m r = s at hloop
  -- No time is left: the rest of the clock does nothing.
  have hrest : (if (s.playing && decide ((k + m : ℕ) * Ts.pvpSimulationTickSeconds
      - s.currentTime > 0)) = true then
        s.step ((k + m : ℕ) * Ts.pvpSimulationTickSeconds - s.currentTime) else s) = s := by
    refine if_neg fun hc => ?_
    obtain ⟨hp, hpos⟩ := Bool.and_eq_true_iff.mp hc
    have hlt := of_decide_eq_true hpos
    rw [(hloop.ticked hp).time hv, sub_self] at hlt
    exact lt_irrefl _ hlt
  have hclock : (if (s.playing && decide ((k + m : ℕ) * Ts.pvpSimulationTickSeconds
      - s.state.elapsedTimeSeconds > 0)) = true then
        s.step ((k + m : ℕ) * Ts.pvpSimulationTickSeconds - s.state.elapsedTimeSeconds)
      else s) = s := by
    refine if_neg fun hc => ?_
    obtain ⟨hp, hpos⟩ := Bool.and_eq_true_iff.mp hc
    have hlt := of_decide_eq_true hpos
    rw [(hloop.ticked hp).state.elapsed, sub_self] at hlt
    exact lt_irrefl _ hlt
  rw [hrest, hclock]
  refine ⟨hloop.battle, hloop.actionIndex, fun hp => ?_⟩
  have hat := hloop.ticked hp
  exact ⟨hat.state, fun _ => rfl, hat.tick⟩

/-- **The clock of the replay**, under all rules. -/
theorem stepTo_stepped {o : Ts.PvpSimulationOptions} {k : ℕ} {r : Ts.Replay} (h : AtTick o k r)
    (m : ℕ) : Stepped o k m r (Ts.stepTo o ((k + m : ℕ) * Ts.pvpSimulationTickSeconds) r) := by
  unfold Ts.stepTo
  by_cases hv : Ts.currentRules o.gameplayRulesVersion = true
  · rw [if_pos hv]
    exact stepToTick_stepped hv h
  · rw [if_neg hv]
    exact stepToTime_stepped (Bool.eq_false_iff.mpr hv) h


/-! ### The turns of the bot -/

section Turns

variable {o : Ts.PvpSimulationOptions}

/-- A loop whose condition fails does nothing. -/
theorem aiUntil_of_not {timestamp : ℚ} {r : Ts.Replay} (h : Ts.aiDue o timestamp (.ok r) = false) :
    Ts.aiUntil o timestamp r = .ok r := by
  unfold Ts.aiUntil
  exact whileLoop_of_not _ h _

/-- One round, and then the rest. -/
theorem aiUntil_of_due {timestamp : ℚ} {r r' : Ts.Replay}
    (h : Ts.aiDue o timestamp (.ok r) = true) (hround : Ts.aiRound o (.ok r) = .ok r')
    (hnext : r'.nextAiTick = r.nextAiTick + Ts.getBotAiTickSeconds o.botDifficulty) :
    Ts.aiUntil o timestamp r = Ts.aiUntil o timestamp r' := by
  have hδ : 0 < Ts.getBotAiTickSeconds o.botDifficulty := by
    rw [getBotAiTickSeconds_eq]
    exact Go.botAiTickSeconds_pos o.botDifficulty
  have hle : r.nextAiTick ≤ timestamp + Ts.clockEpsilon o :=
    of_decide_eq_true (Bool.and_eq_true_iff.mp h).2
  have hnn : 0 ≤ ⌊(timestamp + Ts.clockEpsilon o - r.nextAiTick)
      / Ts.getBotAiTickSeconds o.botDifficulty⌋ :=
    Int.floor_nonneg.mpr (div_nonneg (by linarith) hδ.le)
  have hone : (timestamp + Ts.clockEpsilon o - r'.nextAiTick)
      / Ts.getBotAiTickSeconds o.botDifficulty
        = (timestamp + Ts.clockEpsilon o - r.nextAiTick)
            / Ts.getBotAiTickSeconds o.botDifficulty - 1 := by
    rw [hnext]
    field_simp
    ring
  have hfuel : (⌊(timestamp + Ts.clockEpsilon o - r.nextAiTick)
      / Ts.getBotAiTickSeconds o.botDifficulty⌋ + 1).toNat
        = (⌊(timestamp + Ts.clockEpsilon o - r'.nextAiTick)
            / Ts.getBotAiTickSeconds o.botDifficulty⌋ + 1).toNat + 1 := by
    rw [hone, Int.floor_sub_one]
    omega
  unfold Ts.aiUntil
  rw [hfuel, whileLoop, if_pos h, hround]

omit [MathLib] in
/-- The bot is due at a time on the grid exactly if its own tick is not later. -/
theorem aiDue_iff {n a : ℕ} {r : Ts.Replay} (hp : r.playing = true)
    (ha : r.nextAiTick = a * Ts.pvpSimulationTickSeconds) :
    Ts.aiDue o (n * Ts.pvpSimulationTickSeconds) (.ok r) = true ↔ a ≤ n := by
  unfold Ts.aiDue
  dsimp only
  rw [hp, Bool.true_and, decide_eq_true_iff, ha]
  unfold Ts.clockEpsilon
  split
  · exact tick_le_iff
  · rw [add_zero]
    constructor
    · intro h
      exact tick_le_iff.mp (by linarith [h, show (0 : ℚ) ≤ 1 / 10 ^ 9 by norm_num])
    · intro h
      have hq : (a : ℚ) ≤ n := by exact_mod_cast h
      exact mul_le_mul_of_nonneg_right hq Ts.pvpSimulationTickSeconds_pos.le

/-- A replay of a running battle after `k` ticks, with the bot's turn still to come. -/
structure Poised (o : Ts.PvpSimulationOptions) (k : ℕ) (r : Ts.Replay) : Prop extends
    AtTick o k r where
  ai : ∃ a : ℕ, k < a ∧ r.nextAiTick = a * Ts.pvpSimulationTickSeconds

/-- What a replay has reached `n` ticks on. -/
structure Reached (o : Ts.PvpSimulationOptions) (k n : ℕ) (r r' : Ts.Replay) : Prop where
  state : Ts.unnamed r'.state = ((Battle.tick o)^[n] (replayBattle r)).state
  actionIndex : r'.actionIndex = r.actionIndex
  poised : r'.playing = true →
    Poised o (k + n) r' ∧ replayBattle r' = (Battle.tick o)^[n] (replayBattle r)

/-- When the match is over the clock stands still. -/
theorem stepTo_over (timestamp : ℚ) {r : Ts.Replay} (hp : r.playing = false) :
    (Ts.stepTo o timestamp r).state = r.state ∧
      (Ts.stepTo o timestamp r).actionIndex = r.actionIndex := by
  unfold Ts.stepTo
  split
  · unfold Ts.stepToTick
    dsimp only
    rw [whileLoop_of_not _ (by rw [hp, Bool.false_and])]
    exact ⟨rfl, rfl⟩
  · unfold Ts.stepToTime
    dsimp only
    rw [whileLoop_of_not _ (by rw [hp, Bool.false_and])]
    rw [hp, Bool.false_and, if_neg Bool.false_ne_true, hp, Bool.false_and,
      if_neg Bool.false_ne_true]
    exact ⟨rfl, rfl⟩

/-- **A turn of the bot in a replay is one in the battle.** -/
theorem AtTick.turn {a : ℕ} {r : Ts.Replay} (h : AtTick o a r)
    (ha : r.nextAiTick = a * Ts.pvpSimulationTickSeconds) :
    ∃ r', Ts.executeAiAction o r = .ok r' ∧ r'.actionIndex = r.actionIndex ∧
      Poised o a
        { r' with nextAiTick := r.nextAiTick + Ts.getBotAiTickSeconds o.botDifficulty } ∧
      replayBattle
          { r' with nextAiTick := r.nextAiTick + Ts.getBotAiTickSeconds o.botDifficulty }
        = Battle.bot o (replayBattle r) := by
  obtain ⟨r', he, hname, hacted⟩ := executeAiAction_turn (o := o) h.state.ok h.playing
  have htime : r'.currentTime = r.currentTime :=
    (congrArg Ts.Replay.currentTime hacted.rest).trans rfl
  have htick : r'.currentTick = r.currentTick :=
    (congrArg Ts.Replay.currentTick hacted.rest).trans rfl
  have hacc : r'.accumulators = r.accumulators :=
    (congrArg Ts.Replay.accumulators hacted.rest).trans rfl
  refine ⟨r', he, (congrArg Ts.Replay.actionIndex hacted.rest).trans rfl, ?_, ?_⟩
  · refine ⟨⟨h.state.sameClock hacted.ok hacted.clock, fun hv => htime.trans (h.time hv),
      fun hv => htick.trans (h.tick hv)⟩, a + aiTicks o.botDifficulty, ?_, ?_⟩
    · have := aiTicks_pos o.botDifficulty
      omega
    · show r.nextAiTick + Ts.getBotAiTickSeconds o.botDifficulty = _
      rw [ha, getBotAiTickSeconds_ticks]
      push_cast
      ring
  · have hdue : (replayBattle r).state.status = .playing ∧
        (replayBattle r).state.elapsedTimeSeconds ≥ (replayBattle r).aiNextTick - 1 / 10 ^ 9 := by
      refine ⟨h.state.playing, ?_⟩
      have helapsed : (replayBattle r).state.elapsedTimeSeconds
          = a * Ts.pvpSimulationTickSeconds := h.state.elapsed
      have hnext : (replayBattle r).aiNextTick = a * Ts.pvpSimulationTickSeconds := ha
      rw [helapsed, hnext]
      have hsmall : (0 : ℚ) ≤ 1 / 10 ^ 9 := by norm_num
      linarith
    unfold Battle.bot
    rw [if_pos hdue]
    unfold replayBattle
    dsimp only
    rw [hname, hacc]

/-- The same when the match is over. -/
theorem executeAiAction_over {r : Ts.Replay} (hp : r.playing = false) :
    Ts.executeAiAction o r = .ok r := by
  unfold Ts.executeAiAction
  rw [hp]
  rfl

/-- **A replay goes through the battle.**  From a tick to a later one it never throws, and
it stands where the battle is after the ticks between them. -/
theorem replay_reaches : ∀ (n : ℕ) {k : ℕ} {r : Ts.Replay}, Poised o k r →
    ∃ r', Ts.aiUntil o ((k + n : ℕ) * Ts.pvpSimulationTickSeconds) r = .ok r' ∧
      Reached o k n r (Ts.stepTo o ((k + n : ℕ) * Ts.pvpSimulationTickSeconds) r') := by
  intro n
  induction n using Nat.strong_induction_on with
  | _ n ih =>
    intro k r h
    obtain ⟨a, hka, ha⟩ := h.ai
    have hticked := h.state.unnamed
    by_cases hdue : a ≤ k + n
    · -- The bot acts at `a`, and the replay goes on from there.
      obtain ⟨i, rfl⟩ := Nat.exists_eq_add_of_lt hka
      have hi : k + i + 1 = k + (i + 1) := by omega
      rw [hi] at ha hdue
      have hstep := stepTo_stepped h.toAtTick (i + 1)
      rw [← ha] at hstep
      have hbattle : (Battle.tick o)^[i + 1] (replayBattle r)
          = Battle.bot o (replayBattle (Ts.stepTo o r.nextAiTick r)) := by
        rw [hstep.battle]
        exact Battle.ticks_eq_bot hticked ha rfl (Nat.succ_pos i)
      have hd := (aiDue_iff (o := o) h.playing ha).mpr hdue
      obtain ⟨j, hj⟩ := Nat.exists_eq_add_of_le hdue
      have hn : n = j + (i + 1) := by omega
      have hnext : (Ts.stepTo o r.nextAiTick r).nextAiTick = r.nextAiTick := by
        have hs := congrArg Battle.aiNextTick hstep.battle
        rw [Battle.steps_aiNextTick] at hs
        exact hs
      have hticks : (Battle.tick o)^[n] (replayBattle r) = (Battle.tick o)^[j]
          (Battle.bot o (replayBattle (Ts.stepTo o r.nextAiTick r))) := by
        rw [hn, Function.iterate_add_apply, hbattle]
      by_cases hp : (Ts.stepTo o r.nextAiTick r).playing = true
      · obtain ⟨r2, he, hindex, hpoised, hbot⟩ :=
          (hstep.ticked hp).turn (hnext.trans ha)
        rw [hnext] at hpoised hbot
        have hround : Ts.aiRound o (.ok r) = .ok
            { r2 with nextAiTick := r.nextAiTick + Ts.getBotAiTickSeconds o.botDifficulty } := by
          unfold Ts.aiRound
          dsimp only
          rw [he]
        obtain ⟨r', hok, hreached⟩ := ih j (by omega) hpoised
        rw [← hbot] at hticks
        rw [hj, aiUntil_of_due (hj ▸ hd) hround rfl]
        refine ⟨r', hok, ?_, ?_, ?_⟩
        · rw [hticks]
          exact hreached.state
        · exact hreached.actionIndex.trans (hindex.trans hstep.actionIndex)
        · rw [hticks, hj]
          exact hreached.poised
      · have hp' := Bool.eq_false_iff.mpr hp
        have hover : (replayBattle (Ts.stepTo o r.nextAiTick r)).state.status ≠ .playing :=
          fun hc => hp (replayBattle_playing.mp hc)
        have hround : Ts.aiRound o (.ok r) = .ok
            { Ts.stepTo o r.nextAiTick r with
              nextAiTick := r.nextAiTick + Ts.getBotAiTickSeconds o.botDifficulty } := by
          unfold Ts.aiRound
          dsimp only
          rw [executeAiAction_over hp']
        have hstop : Ts.aiDue o ((k + n : ℕ) * Ts.pvpSimulationTickSeconds) (.ok
            { Ts.stepTo o r.nextAiTick r with
              nextAiTick := r.nextAiTick + Ts.getBotAiTickSeconds o.botDifficulty }) = false :=
          Bool.and_eq_false_iff.mpr (Or.inl hp')
        rw [aiUntil_of_due hd hround rfl, aiUntil_of_not hstop]
        rw [Battle.bot_over o hover, Battle.ticks_over o hover] at hticks
        refine ⟨_, rfl, ?_⟩
        generalize hlast : ({ Ts.stepTo o r.nextAiTick r with
          nextAiTick := r.nextAiTick + Ts.getBotAiTickSeconds o.botDifficulty } : Ts.Replay) = last
        have hstate : last.state = (Ts.stepTo o r.nextAiTick r).state := by rw [← hlast]
        have hindex : last.actionIndex = r.actionIndex := by
          rw [← hlast]
          exact hstep.actionIndex
        have hplay : last.playing = false := by
          rw [← hlast]
          exact hp'
        obtain ⟨hs, hi⟩ := stepTo_over (o := o) ((k + n : ℕ) * Ts.pvpSimulationTickSeconds) hplay
        refine ⟨?_, hi.trans hindex, fun hc => ?_⟩
        · rw [hs, hstate, hticks]
          rfl
        · unfold Ts.Replay.playing at hc hplay
          rw [hs, hplay] at hc
          cases hc
    · rw [aiUntil_of_not (Bool.eq_false_iff.mpr fun hc => hdue ((aiDue_iff h.playing ha).mp hc))]
      have hstep := stepTo_stepped h.toAtTick n
      have hbattle : replayBattle (Ts.stepTo o ((k + n : ℕ) * Ts.pvpSimulationTickSeconds) r)
          = (Battle.tick o)^[n] (replayBattle r) := by
        rw [hstep.battle, Battle.ticks_eq_steps hticked ha (by omega)]
      refine ⟨r, rfl, congrArg Battle.state hbattle, hstep.actionIndex, fun hp => ⟨⟨hstep.ticked hp,
        a, by omega, ?_⟩, hbattle⟩⟩
      have hnext := congrArg Battle.aiNextTick hstep.battle
      rw [Battle.steps_aiNextTick] at hnext
      exact hnext.trans ha

end Turns

end CrownClash.Parity
