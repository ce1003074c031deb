import CrownClash.Parity.SceneClock
import CrownClash.Ts.Launch

/-!
# A battle over several sessions

An attack may be left and taken up again, from the last save or, when another battle has
taken the slot, from the beginning.  What is saved is a scene that follows the replay of its
record, so the scene that takes it up does too; and its clock has seen only a part of the
frames of all sessions.  So a battle that was interrupted any number of times is reproduced
by its record like one that was not (`session_reproduced`).
-/

namespace CrownClash.Parity

open Lib
open Ts (BattleSession BattleSlot SavedBattle readBattle)

/-! ### Time -/

/-- The time that an event counts for. -/
def eventFrame : BattleSession.Event → Option ℚ
  | .input i => frameSeconds i
  | _ => none

/-- The frames of all sessions. -/
def sessionFrames (events : List BattleSession.Event) : List ℚ := events.filterMap eventFrame

/-- What a clock may show that was given frames. -/
def clockBound (deltas : List ℚ) : ℚ := deltas.sum + deltas.length * Ts.clockTolerance

theorem clockBound_nil : clockBound [] = 0 := by simp [clockBound]

theorem clockBound_append (a b : List ℚ) : clockBound (a ++ b) = clockBound a + clockBound b := by
  unfold clockBound
  rw [List.sum_append, List.length_append]
  push_cast
  ring

theorem clockBound_nonneg {deltas : List ℚ} (h : ∀ d ∈ deltas, 0 ≤ d) : 0 ≤ clockBound deltas := by
  have hτ : (0 : ℚ) ≤ Ts.clockTolerance := by norm_num [Ts.clockTolerance]
  exact add_nonneg (List.sum_nonneg h) (mul_nonneg (Nat.cast_nonneg _) hτ)

theorem frameSeconds_nonneg (i : Ts.BotScene.Input) : ∀ d ∈ (frameSeconds i).toList, 0 ≤ d := by
  intro d hd
  refine frames_nonneg [i] d ?_
  cases hi : frameSeconds i with
  | none =>
    rw [hi] at hd
    cases hd
  | some e =>
    rw [hi] at hd
    exact List.mem_filterMap.mpr ⟨i, List.mem_cons_self, hi.trans (congrArg some
      (List.mem_singleton.mp hd).symm)⟩

theorem sessionFrames_cons (e : BattleSession.Event) (events : List BattleSession.Event) :
    sessionFrames (e :: events) = (eventFrame e).toList ++ sessionFrames events := by
  unfold sessionFrames
  rw [List.filterMap_cons]
  cases eventFrame e <;> rfl

theorem eventFrame_nonneg (e : BattleSession.Event) : 0 ≤ clockBound (eventFrame e).toList := by
  cases e with
  | input i => exact clockBound_nonneg (frameSeconds_nonneg i)
  | save => exact clockBound_nil.ge
  | reopen => exact clockBound_nil.ge
  | overwrite slot => exact clockBound_nil.ge

variable [MathLib] {o : Ts.PvpSimulationOptions}

/-! ### A scene and its clock -/

/-- A scene that follows the replay of its record, with a clock that shows no more than
`bound`. -/
structure KeepsTime (o : Ts.PvpSimulationOptions) (start : Ts.Replay) (bound : ℚ)
    (scene : Ts.BotScene) : Prop where
  ok : SceneOk o start scene
  clock : ∃ c, OnTime c scene ∧ c.time ≤ bound

variable {start : Ts.Replay} {bound : ℚ}

theorem KeepsTime.mono {scene : Ts.BotScene} (h : KeepsTime o start bound scene) {later : ℚ}
    (hle : bound ≤ later) : KeepsTime o start later scene := by
  obtain ⟨c, hc, hbound⟩ := h.clock
  exact ⟨h.ok, c, hc, hbound.trans hle⟩

/-- The battle of a scene decides. -/
theorem KeepsTime.of_battle {scene scene' : Ts.BotScene} (h : KeepsTime o start bound scene)
    (hbattle : sceneBattle scene' = sceneBattle scene)
    (hstate : scene'.gameState = scene.gameState)
    (hactions : scene'.matchActions = scene.matchActions)
    (hremainder : scene'.botStepRemainder = scene.botStepRemainder)
    (hselected : scene'.selectedSourceIds.Nodup) : KeepsTime o start bound scene' := by
  obtain ⟨c, hc, hbound⟩ := h.clock
  refine ⟨⟨?_, hselected⟩, c, ⟨hc.ok, ?_, fun hp => ?_⟩, hbound⟩
  · rw [hactions, hbattle]
    exact h.ok.logged
  · rw [hstate]
    exact hc.past
  · rw [hstate] at hp ⊢
    rw [hremainder]
    exact hc.exact hp

/-- A new scene has not been given a frame. -/
theorem keepsTime_create {fresh : Ts.BotScene} (h : Ts.BotScene.create o = .ok fresh) :
    ∃ state, Ts.createInitialGameState Ts.pvpTimeLimitSeconds o.gameplayRulesVersion
        o.playerModifiers o.enemyModifiers o.battlefieldId = .ok state ∧
      KeepsTime o (startReplay o state) 0 fresh := by
  obtain ⟨state, hs, hok⟩ := create_ok h
  refine ⟨state, hs, hok, .start, plays_onTime (fun _ => "") h [], ?_⟩
  show Ts.FrameClock.start.time ≤ 0
  simp [Ts.FrameClock.time, Ts.FrameClock.start]

/-- **An input** takes the time of its frame. -/
theorem KeepsTime.input {scene : Ts.BotScene} (h : KeepsTime o start bound scene)
    (armyIdGenerator : ℕ → String) (hp : scene.gameState.status = .playing)
    (i : Ts.BotScene.Input) :
    KeepsTime o start (bound + clockBound (frameSeconds i).toList)
      (scene.input o armyIdGenerator i) := by
  obtain ⟨c, hc, hbound⟩ := h.clock
  refine ⟨h.ok.input armyIdGenerator hp i, _, input_onTime armyIdGenerator h.ok hc hp i, ?_⟩
  have hframes := (Ts.FrameClock.frames_spec hc.ok.1 (frameSeconds_nonneg i)).2
  unfold clockBound
  linarith

/-- **A save is taken up where it was made.** -/
theorem KeepsTime.resume {scene : Ts.BotScene} (h : KeepsTime o start bound scene)
    {fresh : Ts.BotScene} (hfresh : fresh.selectedSourceIds.Nodup) :
    KeepsTime o start bound (fresh.resume scene.saved) :=
  h.of_battle rfl rfl rfl rfl hfresh

/-! ### Sessions -/

/-- What holds between two events: the scene that is open keeps time, and so would the one
that took up the save. -/
structure SessionOk (o : Ts.PvpSimulationOptions) (start : Ts.Replay) (matchId : String)
    (fresh : Ts.BotScene) (bound : ℚ) (s : BattleSession) : Prop where
  scene : KeepsTime o start bound s.scene
  saved : ∀ battle, readBattle s.slot matchId = some battle →
    KeepsTime o start bound (fresh.resume battle)

variable {matchId : String} {fresh : Ts.BotScene}

theorem SessionOk.mono {s : BattleSession} (h : SessionOk o start matchId fresh bound s)
    {later : ℚ} (hle : bound ≤ later) : SessionOk o start matchId fresh later s :=
  ⟨h.scene.mono hle, fun battle hread => (h.saved battle hread).mono hle⟩

theorem saveRealmBattle_ok {s : BattleSession} (h : SessionOk o start matchId fresh bound s)
    (hfresh : KeepsTime o start 0 fresh) :
    ∀ battle, readBattle (Ts.saveRealmBattle matchId s.scene s.slot) matchId = some battle →
      KeepsTime o start bound (fresh.resume battle) := by
  intro battle hread
  unfold Ts.saveRealmBattle at hread
  split at hread
  · have hbattle : s.scene.saved = battle := by
      simpa [readBattle] using hread
    rw [← hbattle]
    exact h.scene.resume hfresh.ok.selected
  · exact h.saved battle hread

/-- **A scene that is opened again** takes up the save, or begins again. -/
theorem openBattle_ok {s : BattleSession} (h : SessionOk o start matchId fresh bound s)
    (hfresh : KeepsTime o start 0 fresh) (hbound : 0 ≤ bound) :
    KeepsTime o start bound (Ts.openBattle o matchId s.slot fresh) := by
  unfold Ts.openBattle
  cases hread : readBattle s.slot matchId with
  | none => exact hfresh.mono hbound
  | some saved =>
    dsimp only
    split
    · exact h.saved saved hread
    · exact hfresh.mono hbound

/-- **One event.** -/
theorem SessionOk.step {s : BattleSession} (h : SessionOk o start matchId fresh bound s)
    (armyIdGenerator : ℕ → String) (hfresh : KeepsTime o start 0 fresh) (hbound : 0 ≤ bound)
    (e : BattleSession.Event) :
    SessionOk o start matchId fresh (bound + clockBound (eventFrame e).toList)
      (s.step o armyIdGenerator matchId fresh e) := by
  have hlater : bound ≤ bound + clockBound (eventFrame e).toList :=
    le_add_of_nonneg_right (eventFrame_nonneg e)
  cases e with
  | input i =>
    unfold BattleSession.step
    dsimp only
    split
    · next hp =>
      exact ⟨h.scene.input armyIdGenerator hp i,
        fun battle hread => (h.saved battle hread).mono hlater⟩
    · exact h.mono hlater
  | save =>
    exact ⟨h.scene.mono hlater,
      fun battle hread => (saveRealmBattle_ok h hfresh battle hread).mono hlater⟩
  | reopen =>
    have hopened := openBattle_ok h hfresh hbound
    have hscene : KeepsTime o start bound
        { Ts.openBattle o matchId s.slot fresh with
          generatedArmyIds := s.scene.generatedArmyIds } :=
      hopened.of_battle rfl rfl rfl rfl hopened.ok.selected
    exact ⟨hscene.mono hlater, fun battle hread => (h.saved battle hread).mono hlater⟩
  | overwrite slot =>
    unfold BattleSession.step
    dsimp only
    split
    · exact h.mono hlater
    · next hfree =>
      refine ⟨h.scene.mono hlater, fun battle hread => ?_⟩
      rw [hread] at hfree
      exact absurd rfl hfree

/-- **Any events.** -/
theorem SessionOk.play (armyIdGenerator : ℕ → String) (hfresh : KeepsTime o start 0 fresh) :
    ∀ (events : List BattleSession.Event) {bound : ℚ} {s : BattleSession}, 0 ≤ bound →
      SessionOk o start matchId fresh bound s →
      SessionOk o start matchId fresh (bound + clockBound (sessionFrames events))
        (s.play o armyIdGenerator matchId fresh events) := by
  intro events
  induction events with
  | nil =>
    intro bound s _ h
    show SessionOk o start matchId fresh (bound + clockBound []) s
    rw [clockBound_nil, add_zero]
    exact h
  | cons e events ih =>
    intro bound s hbound h
    have hstep := h.step armyIdGenerator hfresh hbound e
    have hplay := ih (add_nonneg hbound (eventFrame_nonneg e)) hstep
    rw [sessionFrames_cons, clockBound_append, ← add_assoc]
    exact hplay

/-- The sessions of a battle from its launch. -/
theorem sessions_ok {fresh : Ts.BotScene} (h : Ts.BotScene.create o = .ok fresh)
    (armyIdGenerator : ℕ → String) {slot : BattleSlot} (hslot : readBattle slot matchId = none)
    (events : List BattleSession.Event) :
    ∃ state, Ts.createInitialGameState Ts.pvpTimeLimitSeconds o.gameplayRulesVersion
        o.playerModifiers o.enemyModifiers o.battlefieldId = .ok state ∧
      SessionOk o (startReplay o state) matchId fresh (clockBound (sessionFrames events))
        (BattleSession.play o armyIdGenerator matchId fresh ⟨fresh, slot⟩ events) := by
  obtain ⟨state, hs, hfresh⟩ := keepsTime_create h
  refine ⟨state, hs, ?_⟩
  have hbegun : SessionOk o (startReplay o state) matchId fresh 0 ⟨fresh, slot⟩ := by
    refine ⟨hfresh, fun battle hread => ?_⟩
    rw [show readBattle slot matchId = some battle from hread] at hslot
    cases hslot
  have hplay := SessionOk.play armyIdGenerator hfresh events (le_refl 0) hbegun
  rw [zero_add] at hplay
  exact hplay

theorem KeepsTime.elapsed_le {scene : Ts.BotScene} (h : KeepsTime o start bound scene) :
    scene.gameState.elapsedTimeSeconds ≤ bound := by
  obtain ⟨c, hc, hbound⟩ := h.clock
  have htime : c.ticks * Ts.pvpSimulationTickSeconds ≤ c.time := by
    unfold Ts.FrameClock.time
    linarith [hc.ok.1]
  exact hc.past.trans (htime.trans hbound)

/-- **A battle over any number of sessions.**  It may be saved at any moment, left with or
without a save and taken up again, and other battles may take its slot in between.  Its record
is acceptable at any moment; its clock has not passed the time of all frames that were played;
and when it is over, the replay of the record accepts every action and ends in the same state,
up to the names of the armies. -/
theorem session_reproduced {fresh : Ts.BotScene} (h : Ts.BotScene.create o = .ok fresh)
    (armyIdGenerator : ℕ → String) {slot : BattleSlot} (hslot : readBattle slot matchId = none)
    (events : List BattleSession.Event) {s : BattleSession}
    (hs : BattleSession.play o armyIdGenerator matchId fresh ⟨fresh, slot⟩ events = s) :
    Ts.validateActions s.scene.matchActions = .ok () ∧
      s.scene.gameState.elapsedTimeSeconds ≤ clockBound (sessionFrames events) ∧
      (s.scene.gameState.status ≠ .playing →
        ∃ final summary, Ts.simulatePvpBattle s.scene.matchActions o = .ok (final, summary) ∧
          ReplayedAs s.scene final summary) := by
  obtain ⟨state, hstate, hok⟩ := sessions_ok h armyIdGenerator hslot events
  rw [hs] at hok
  obtain ⟨r, k, n, hlog⟩ := hok.scene.ok.logged
  refine ⟨?_, hok.scene.elapsed_le, fun hover => hlog.reproduced hstate hover⟩
  unfold Ts.validateActions
  rw [if_neg (not_lt.mpr hlog.short)]
  exact hlog.valid


/-- The conquest, left after the drag and taken up again. -/
def interruptedConquest : List BattleSession.Event :=
  (conquestInputs.take 4).map .input ++ [.save, .reopen, .save] ++
    (conquestInputs.drop 4).map .input

/-- What the sessions end with. -/
def interruptedSession : Option BattleSession :=
  (Ts.BotScene.create conquestOptions).toOption.map fun fresh =>
    @BattleSession.play decimalHypot conquestOptions (fun n => "army_" ++ toString n) "realm_1"
      fresh ⟨fresh, none⟩ interruptedConquest

omit [MathLib] in
/-- The conquest succeeds over two sessions, and its record ends like it. -/
theorem session_reproduced_conquest : ∃ s ∈ interruptedSession, ∃ final summary,
    @Ts.simulatePvpBattle decimalHypot s.scene.matchActions conquestOptions
        = .ok (final, summary) ∧
      ReplayedAs s.scene final summary := by
  have hend : interruptedSession.map (fun s => s.scene.gameState.status) = some .victory := by
    decide +kernel
  unfold interruptedSession at hend ⊢
  cases hc : Ts.BotScene.create conquestOptions with
  | error e =>
    rw [hc] at hend
    cases hend
  | ok fresh =>
    rw [hc] at hend
    dsimp only [Except.toOption, Option.map_some] at hend ⊢
    generalize hs : @BattleSession.play decimalHypot conquestOptions
      (fun n => "army_" ++ toString n) "realm_1" fresh ⟨fresh, none⟩ interruptedConquest = s
      at hend ⊢
    have hstatus : s.scene.gameState.status = .victory := Option.some.inj hend
    refine ⟨s, rfl, (@session_reproduced decimalHypot conquestOptions "realm_1" fresh hc
      (fun n => "army_" ++ toString n) none rfl interruptedConquest s hs).2.2 fun hp => ?_⟩
    rw [hp] at hstatus
    cases hstatus

end CrownClash.Parity
