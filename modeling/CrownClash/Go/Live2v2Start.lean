import CrownClash.Go.Live2v2Log

/-!
# Server: how a 2v2 match starts

A match waits, counts down and then plays.  The countdown ends early when all
four ready flags are set, and otherwise at its deadline if all four slots are
taken.  A ready flag is set by a message and is never taken back: it outlives the
session that set it, so that a countdown can end early with a slot nobody is
connected to.  `enters_bound_iff` says that this is the only way a match starts
without its four players, and `match_start` says it of whole runs.
-/

namespace CrownClash.Go

open Lib Live2v2MatchState

/-! ### The first tick -/

theorem territoriesOf_generated (state : GameState) (accumulators : Accumulators) (delta : ℚ)
    (id : String) (team : Team)
    (hk : state.territories.keys = territoryOrderForBattlefield state.battlefieldId)
    (hid : id ∈ territoryOrderForBattlefield state.battlefieldId)
    (ho : (state.territory id).owner = team) :
    territoriesOf (tickGeneration state accumulators delta).1 team ≠ [] := by
  have hkeys : id ∈ state.territories.keys := by rwa [hk]
  obtain ⟨t, ht⟩ := Record.exists_get?_of_mem_keys hkeys
  have howner : t.owner = team := by
    rw [← ho, GameState.territory, Record.getD, ht, Option.getD_some]
  have hafter : (tickGeneration state accumulators delta).1.territory id
      = generated state accumulators delta id t := by
    rw [GameState.territory, Record.getD, tickGeneration_territories accumulators delta hk,
      Record.get?_map, ht, Option.map_some, Option.getD_some]
  refine List.ne_nil_of_mem (a := generated state accumulators delta id t) ?_
  unfold territoriesOf
  rw [List.mem_filter]
  refine ⟨List.mem_map.mpr ⟨id, hid, hafter⟩, decide_eq_true ?_⟩
  unfold generated
  rw [generateUnits_owner, howner]

/-- **A battle with towers on both sides and no army goes on after a step** that
does not reach the time limit. -/
theorem firstStep_playing [MathLib] {state : GameState} (hs : state.status = .playing)
    (ha : state.armies = [])
    (hk : state.territories.keys = territoryOrderForBattlefield state.battlefieldId)
    {player enemy : String} (hp : player ∈ territoryOrderForBattlefield state.battlefieldId)
    (he : enemy ∈ territoryOrderForBattlefield state.battlefieldId)
    (hpo : (state.territory player).owner = .player) (heo : (state.territory enemy).owner = .enemy)
    (accumulators : Accumulators) {delta : ℚ}
    (hclock : nextElapsed state delta < state.timeLimitSeconds) :
    (stepSimulation state accumulators delta).1.status = .playing := by
  have hmarch : moveArmies (startStep state delta) accumulators delta
      = ⟨startStep state delta, accumulators, []⟩ := by
    unfold moveArmies
    change state.armies.foldl (moveArmy delta) _ = _
    rw [ha]
    rfl
  have hside : ∀ id team, id ∈ territoryOrderForBattlefield state.battlefieldId →
      (state.territory id).owner = team → territoriesOf (tickGeneration
        { startStep state delta with armies := [] } accumulators delta).1 team ≠ [] := by
    intro id team hid ho
    refine territoriesOf_generated { startStep state delta with armies := [] } accumulators delta
      id team ?_ ?_ ?_
    · exact hk
    · exact hid
    · exact ho
  unfold stepSimulation
  rw [if_neg (not_not.mpr hs), hmarch]
  unfold finishStep
  dsimp only
  unfold nextStatus
  rw [if_neg fun h => hside enemy .enemy he heo h.1, if_neg fun h => hside player .player hp hpo h.1]
  exact if_neg (not_le.mpr hclock)

/-! ### The battle at the start -/

theorem applySpawn_owner (modifiersBySlot : ℤ → PlayerUpgradeModifiers)
    (territories : Record String Territory) (assignment : TwoVTwoSpawnAssignment) (id : String) :
    ((applySpawn modifiersBySlot territories assignment).getD id Territory.zero).owner
      = (territories.getD id Territory.zero).owner := by
  unfold applySpawn
  dsimp only
  rw [Record.getD_set]
  split
  · next h => rw [h]
  · rfl

theorem live2v2Spawns_ok :
    checkSpawns quadCitadel.templates [] [] live2v2SpawnAssignments = .ok () := by
  decide

/-- What the battle of a match is before its first tick. -/
structure BattleStart (state : GameState) : Prop where
  ok : BattleOk state
  status : state.status = .playing
  armies : state.armies = []
  map : state.battlefieldId = live2v2BattlefieldId
  elapsed : state.elapsedTimeSeconds = 0
  timeLimit : state.timeLimitSeconds = pvpTimeLimitSeconds
  version : state.gameplayRulesVersion = currentGameplayRulesVersion
  owners : ∀ id, (state.territory id).owner
    = (quadCitadel.templates.getD id Territory.zero).owner

/-- **The battle of a match can always be set up.** -/
theorem createInitial2v2State_start {s : Live2v2MatchState}
    (h : s.battlefieldId = live2v2BattlefieldId) :
    ∃ initialState, s.createInitial2v2State = some initialState ∧ BattleStart initialState := by
  have hfind : (battlefields.find? fun b => b.id = live2v2BattlefieldId) = some quadCitadel := rfl
  have hset : ∃ initialState, s.createInitial2v2State = some initialState ∧
      initialState.status = .playing ∧ initialState.armies = [] ∧
      initialState.battlefieldId = live2v2BattlefieldId ∧
      initialState.elapsedTimeSeconds = 0 ∧
      initialState.timeLimitSeconds = (if pvpTimeLimitSeconds ≤ 0 then pvpTimeLimitSeconds
        else pvpTimeLimitSeconds) ∧
      initialState.gameplayRulesVersion = currentGameplayRulesVersion ∧
      initialState.territories
        = live2v2SpawnAssignments.foldl (applySpawn s.modifiersBySlot) quadCitadel.templates := by
    unfold createInitial2v2State
    rw [h, hfind]
    dsimp only
    unfold createInitial2v2GameState
    rw [live2v2Spawns_ok]
    exact ⟨_, rfl, rfl, rfl, rfl, rfl, rfl, rfl, rfl⟩
  obtain ⟨state, hstate, hstatus, harmies, hmap, helapsed, hlimit, hversion, hterritories⟩ := hset
  refine ⟨state, hstate,
    { ok := (createInitial2v2State_ok h hstate).1
      status := hstatus
      armies := harmies
      map := hmap
      elapsed := helapsed
      timeLimit := hlimit.trans (ite_self _)
      version := hversion
      owners := fun id => ?_ }⟩
  unfold GameState.territory
  rw [hterritories]
  exact foldl_preserves
    (P := fun T : Record String Territory => (T.getD id Territory.zero).owner
      = (quadCitadel.templates.getD id Territory.zero).owner)
    (fun T a _ hT => (applySpawn_owner s.modifiersBySlot T a id).trans hT) rfl

theorem BattleStart.clock {state : GameState} (h : BattleStart state) :
    nextElapsed state (1 / live2v2TickRate) < state.timeLimitSeconds := by
  unfold nextElapsed
  rw [h.elapsed, h.version, h.timeLimit]
  decide +kernel

theorem BattleStart.firstTick [MathLib] {state : GameState} (h : BattleStart state)
    (accumulators : Accumulators) :
    (stepSimulation state accumulators (1 / live2v2TickRate)).1.status = .playing := by
  have hp : "a_base_w" ∈ territoryOrderForBattlefield state.battlefieldId := by
    rw [h.map]
    decide
  have he : "b_base_w" ∈ territoryOrderForBattlefield state.battlefieldId := by
    rw [h.map]
    decide
  refine firstStep_playing h.status h.armies h.ok.keys hp he ?_ ?_ accumulators h.clock
  · rw [h.owners]
    decide
  · rw [h.owners]
    decide

/-! ### What the loop does to the phase -/

section Phases

variable [MathLib]

/-- Before the battle a message leaves the phase or cancels the match. -/
theorem handleMessage_waits {s : Live2v2MatchState}
    (h : s.phase = .waiting ∨ s.phase = .countdown) (message : Live2v2Message) (serverSeq : ℤ)
    (answers : Answers) :
    (s.handleMessage message serverSeq answers).phase = s.phase ∨
      (s.handleMessage message serverSeq answers).phase = .cancelled := by
  unfold handleMessage
  split
  · exact Or.inl rfl
  split
  · exact Or.inl rfl
  split
  · exact Or.inl (congrArg Lobby.phase (handleDispatch_lobby s message _ _ serverSeq))
  split
  · unfold handleReady
    split
    · exact Or.inl rfl
    · exact Or.inl rfl
  split
  · unfold handleSurrender
    rcases h with h | h
    · rw [h]
      exact Or.inr rfl
    · rw [h]
      exact Or.inr rfl
  split
  · exact Or.inl (congrArg Lobby.phase (handleRematchVote_lobby s message _ answers))
  · exact Or.inl rfl

omit [MathLib] in
theorem lobbyMove_over {e : Live2v2Event} {l l' : Lobby} (hm : LobbyMove e l l')
    {phase : Live2v2Phase} (hover : phase = .finished ∨ phase = .cancelled)
    (h : l.phase = phase) : l'.phase = phase := by
  cases hm with
  | adopt slot presence hjoin huser => exact h
  | vacate slot presence now hleave hholds => exact h
  | expire tick now messages answers hloop hphase hexpire => exact hexpire.phase.trans h
  | surrender slot message horder hholds hphase hconnected => exact h
  | ready slot message horder hholds hphase => exact h
  | countdown hphase hjoined =>
    rw [← h, hphase] at hover
    rcases hover with hover | hover <;> cases hover
  | start tick now messages answers hloop hphase hready =>
    rw [← h, hphase] at hover
    rcases hover with hover | hover <;> cases hover
  | cancel hphase =>
    rw [← h] at hover
    rcases hphase with hp | hp | ⟨hp, -⟩
    all_goals
      rw [hp] at hover
      rcases hover with hover | hover <;> cases hover
  | finish tick now messages answers hloop hphase =>
    rw [← h, hphase] at hover
    rcases hover with hover | hover <;> cases hover

theorem step_over {r : Live2v2Run} {phase : Live2v2Phase}
    (hover : phase = .finished ∨ phase = .cancelled) (h : r.live.phase = phase)
    (e : Live2v2Event) : (r.step e).live.phase = phase :=
  step_keepsLobby (P := fun l => l.phase = phase) (fun _ _ _ hm => lobbyMove_over hm hover) e h

theorem handleMessage_cancelled {s : Live2v2MatchState} (h : s.phase = .cancelled)
    (message : Live2v2Message) (serverSeq : ℤ) (answers : Answers) :
    (s.handleMessage message serverSeq answers).phase = .cancelled := by
  have hmove : LobbyMoves (.loop 0 0 [message] answers) s.lobby
      (s.handleMessage message serverSeq answers).lobby :=
    handleMessage_lobby _ List.mem_cons_self
  exact lobbyMoves_preserve (P := fun l => l.phase = .cancelled)
    (fun _ _ hm hl => lobbyMove_over hm (Or.inr rfl) hl) hmove h

theorem handleMessages_waits {s : Live2v2MatchState}
    (h : s.phase = .waiting ∨ s.phase = .countdown) (messages : List Live2v2Message)
    (answers : Answers) :
    (s.handleMessages messages answers).phase = s.phase ∨
      (s.handleMessages messages answers).phase = .cancelled := by
  refine foldl_preserves
    (P := fun t : Live2v2MatchState => t.phase = s.phase ∨ t.phase = .cancelled)
    (fun t m _ ht => ?_) (Or.inl rfl)
  rcases ht with ht | ht
  · rw [← ht]
    exact handleMessage_waits (ht ▸ h) m.1 _ answers
  · exact Or.inr (handleMessage_cancelled ht m.1 _ answers)

/-- **The first tick of a match.**  The match plays on, and its seats are those of
the countdown. -/
theorem startMatch_playTick {s : Live2v2MatchState} (h : s.battlefieldId = live2v2BattlefieldId)
    (now : ℤ) (answers : Answers) :
    (s.startMatch now).phase = .playing ∧
      ((s.startMatch now).playTick now answers).lobby = { s.lobby with phase := .playing } := by
  obtain ⟨initialState, hset, hstart⟩ := createInitial2v2State_start h
  unfold startMatch
  rw [hset]
  refine ⟨rfl, ?_⟩
  dsimp only
  generalize hstarted : ({ s with
    state := initialState
    phase := .playing
    deadlineAt := now + live2v2MaxMatchTime * second }).broadcastMatchStarted = started
  have hstate : started.state = initialState := by rw [← hstarted]; rfl
  have hdeadline : started.deadlineAt = now + live2v2MaxMatchTime * second := by
    rw [← hstarted]
    rfl
  have hlobby : started.lobby = { s.lobby with phase := .playing } := by rw [← hstarted]; rfl
  have hstatus : started.simulate.state.status = .playing := by
    change (stepSimulation started.state started.accumulators _).1.status = .playing
    rw [hstate]
    exact hstart.firstTick started.accumulators
  have hlate : ¬ now > started.simulate.deadlineAt := by
    change ¬ now > started.deadlineAt
    rw [hdeadline]
    unfold live2v2MaxMatchTime second
    omega
  have hplaying : started.state.status = .playing := by rw [hstate, hstart.status]
  have htick : started.playTick now answers = started.simulate.broadcastStates := by
    unfold playTick
    rw [if_pos hplaying]
    dsimp only
    change (if started.simulate.state.status ≠ .playing then _
      else if now > started.simulate.deadlineAt then _ else _) = _
    rw [if_neg (not_not.mpr hstatus), if_neg hlate]
  rw [htick, ← hlobby]
  rfl

/-- **What the end of a call does to a countdown.** -/
theorem afterMessages_countdown {s : Live2v2MatchState}
    (h : s.battlefieldId = live2v2BattlefieldId) (hc : s.phase = .countdown) (tick now : ℤ)
    (answers : Answers) :
    (s.afterMessages tick now answers).1.lobby =
      if s.allSlotsReady = true ∨ (tick ≥ s.countdownEnds ∧ s.allSlotsJoined = true) then
        { s.lobby with phase := .playing }
      else if tick ≥ s.countdownEnds then { s.lobby with phase := .cancelled }
      else s.lobby := by
  obtain ⟨hphase, hplay⟩ := startMatch_playTick h now answers
  unfold afterMessages
  rw [if_neg (by rw [hc]; decide)]
  unfold advancePhase
  rw [hc]
  dsimp only
  by_cases hready : s.allSlotsReady = true
  · rw [if_pos hready, if_pos (Or.inl hready), if_pos hphase]
    exact hplay
  rw [if_neg hready]
  by_cases htick : tick ≥ s.countdownEnds
  · rw [if_pos htick, if_pos htick]
    by_cases hjoined : s.allSlotsJoined = true
    · rw [if_pos hjoined, if_pos (Or.inr ⟨htick, hjoined⟩), if_pos hphase]
      exact hplay
    · rw [if_neg hjoined, if_neg (not_or.mpr ⟨hready, fun hj => hjoined hj.2⟩)]
      rfl
  · rw [if_neg htick, if_neg htick, if_neg (not_or.mpr ⟨hready, fun hj => htick hj.1⟩)]
    rw [if_neg (by rw [hc]; decide)]

theorem afterMessages_waiting {s : Live2v2MatchState} (hw : s.phase = .waiting) (tick now : ℤ)
    (answers : Answers) :
    (s.afterMessages tick now answers).1.phase = .waiting ∨
      (s.afterMessages tick now answers).1.phase = .countdown ∨
      (s.afterMessages tick now answers).1.phase = .cancelled := by
  unfold afterMessages
  rw [if_neg (by rw [hw]; decide)]
  unfold advancePhase
  rw [hw]
  dsimp only
  split
  · exact Or.inr (Or.inl rfl)
  split
  · exact Or.inr (Or.inr rfl)
  · rw [if_neg (by rw [hw]; decide)]
    exact Or.inl hw

end Phases

/-! ### Entering the battle -/

section Enters

variable [MathLib]

/-- The call takes the match into the battle. -/
def Enters (r : Live2v2Run) (e : Live2v2Event) : Prop :=
  r.live.phase ≠ .playing ∧ (r.step e).live.phase = .playing

/-- The call takes the match out of the lobby, and not into the battle. -/
def Leaves (r : Live2v2Run) (e : Live2v2Event) : Prop :=
  (r.live.phase = .waiting ∨ r.live.phase = .countdown) ∧
    (r.step e).live.phase ≠ .waiting ∧ (r.step e).live.phase ≠ .countdown ∧
    (r.step e).live.phase ≠ .playing

omit [MathLib] in
/-- Every slot is bound to a connected session of its user. -/
def Bound (s : Live2v2MatchState) : Prop :=
  ∀ slot, ∃ p, (s.slots slot).presence = some p ∧ p.userId = (s.slots slot).userId ∧
    (s.slots slot).connected = true

/-- The match enters the battle from the countdown only, with four bound slots. -/
def EntersBound (r : Live2v2Run) (e : Live2v2Event) : Prop :=
  Enters r e → r.live.phase = .countdown ∧ Bound (r.step e).live

/-- A match of the lobby once a call of the loop has read its messages. -/
def messagesRead (s : Live2v2MatchState) (tick : ℕ) (messages : List Live2v2Message)
    (answers : Answers) : Live2v2MatchState :=
  { s with tick := tick }.handleMessages messages answers

/-- No call of the loop finds, once its messages are read, a countdown with all
four ready flags set and a slot without a session. -/
def NoStaleReady (r : Live2v2Run) : Live2v2Event → Prop
  | .loop tick _ messages answers =>
    r.running = true → r.live.phase = .countdown →
      (messagesRead r.live tick messages answers).phase = .countdown →
        (messagesRead r.live tick messages answers).allSlotsReady = true →
          (messagesRead r.live tick messages answers).allSlotsJoined = true
  | _ => True

theorem matchLoop_waits {s : Live2v2MatchState} (h : s.phase = .waiting ∨ s.phase = .countdown)
    (tick : ℕ) (now : ℤ) (messages : List Live2v2Message) (answers : Answers) :
    s.matchLoop tick now messages answers
      = (messagesRead s tick messages answers).afterMessages tick now answers := by
  unfold Live2v2MatchState.matchLoop messagesRead
  dsimp only
  rcases h with h | h
  · rw [h]
    rfl
  · rw [h]
    rfl

theorem messagesRead_phase {s : Live2v2MatchState} (h : s.phase = .waiting ∨ s.phase = .countdown)
    (tick : ℕ) (messages : List Live2v2Message) (answers : Answers) :
    (messagesRead s tick messages answers).phase = s.phase ∨
      (messagesRead s tick messages answers).phase = .cancelled :=
  handleMessages_waits (s := { s with tick := tick }) h messages answers

theorem afterMessages_cancelled {s : Live2v2MatchState} (h : s.phase = .cancelled) (tick now : ℤ)
    (answers : Answers) : (s.afterMessages tick now answers).1 = s := by
  unfold afterMessages
  rw [if_neg (by rw [h]; decide)]
  unfold advancePhase
  rw [h]
  dsimp only
  rw [if_neg (by rw [h]; decide)]

theorem matchLoop_waits_cases {s : Live2v2MatchState} (hplay : PlayOk s)
    (h : s.phase = .waiting ∨ s.phase = .countdown) (tick : ℕ) (now : ℤ)
    (messages : List Live2v2Message) (answers : Answers) :
    (s.matchLoop tick now messages answers).1.phase ≠ .playing ∧
        (s.matchLoop tick now messages answers).1.phase ≠ .finished ∧
        ¬ ((messagesRead s tick messages answers).phase = .countdown ∧
          (messagesRead s tick messages answers).allSlotsReady = true) ∨
      s.phase = .countdown ∧ (messagesRead s tick messages answers).phase = .countdown ∧
        ((messagesRead s tick messages answers).allSlotsReady = true ∨
          (messagesRead s tick messages answers).allSlotsJoined = true) ∧
        (s.matchLoop tick now messages answers).1.lobby
          = { (messagesRead s tick messages answers).lobby with phase := .playing } := by
  have hread := messagesRead_phase h tick messages answers
  have hmap : (messagesRead s tick messages answers).battlefieldId = live2v2BattlefieldId :=
    (changes_preserve (fun _ _ hc hs => PlayOk.change hc hs)
      ((changes_tick s tick).trans (handleMessages_changes _ messages answers)) hplay).map
  rw [matchLoop_waits h]
  generalize messagesRead s tick messages answers = t at *
  rcases hread with hread | hread
  · rcases h with hw | hc
    · refine Or.inl ?_
      rw [hw] at hread
      have hphase := afterMessages_waiting hread tick now answers
      rw [hread]
      refine ⟨?_, ?_, fun h => nomatch h.1⟩
      all_goals
        intro hp
        rw [hp] at hphase
        rcases hphase with hphase | hphase | hphase <;> cases hphase
    · rw [hc] at hread
      have hlobby := afterMessages_countdown hmap hread tick now answers
      by_cases hstart : t.allSlotsReady = true ∨ ((tick : ℤ) ≥ t.countdownEnds ∧
          t.allSlotsJoined = true)
      · rw [if_pos hstart] at hlobby
        exact Or.inr ⟨hc, hread, hstart.imp_right And.right, hlobby⟩
      · rw [if_neg hstart] at hlobby
        have hphase := congrArg Lobby.phase hlobby
        refine Or.inl ⟨?_, ?_, fun h => hstart (Or.inl h.2)⟩
        all_goals
          intro hp
          change (t.afterMessages tick now answers).1.phase = _ at hphase
          rw [hp] at hphase
          split at hphase
          · cases hphase
          · change _ = t.phase at hphase
            rw [hread] at hphase
            cases hphase
  · rw [afterMessages_cancelled hread, hread]
    refine Or.inl ⟨(fun h => nomatch h), (fun h => nomatch h), fun h => nomatch h.1⟩

theorem enters_loop {r : Live2v2Run} {e : Live2v2Event} (hplay : PlayOk r.live)
    (h : Enters r e) :
    ∃ tick now messages answers, e = .loop tick now messages answers ∧ r.running = true ∧
      r.live.phase = .countdown ∧
      (messagesRead r.live tick messages answers).phase = .countdown ∧
      ((messagesRead r.live tick messages answers).allSlotsReady = true ∨
        (messagesRead r.live tick messages answers).allSlotsJoined = true) ∧
      (r.step e).live.lobby
        = { (messagesRead r.live tick messages answers).lobby with phase := .playing } := by
  obtain ⟨hbefore, hafter⟩ := h
  have hother : (∀ tick now messages answers, e ≠ .loop tick now messages answers) →
      (r.step e).live.phase ≠ .playing := by
    intro hne
    refine lobbyMoves_preserve (P := fun l => l.phase ≠ .playing) (fun l l' hm hl => ?_)
      (step_lobby r e) hbefore
    cases hm with
    | adopt slot presence hjoin huser => exact hl
    | vacate slot presence now hleave hholds => exact hl
    | expire tick now messages answers hloop hphase hexpire => exact absurd hphase hl
    | surrender slot message horder hholds hphase hconnected => exact absurd hphase hl
    | ready slot message horder hholds hphase => exact hl
    | countdown hphase hjoined => exact fun h => nomatch h
    | start tick now messages answers hloop hphase hready => exact absurd hloop (hne _ _ _ _)
    | cancel hphase => exact fun h => nomatch h
    | finish tick now messages answers hloop hphase => exact fun h => nomatch h
  cases e with
  | attempt presence => exact absurd hafter (hother fun _ _ _ _ h => nomatch h)
  | join arrivals tick => exact absurd hafter (hother fun _ _ _ _ h => nomatch h)
  | leave presences now => exact absurd hafter (hother fun _ _ _ _ h => nomatch h)
  | terminate => exact absurd hafter (hother fun _ _ _ _ h => nomatch h)
  | loop tick now messages answers =>
    refine ⟨tick, now, messages, answers, rfl, ?_⟩
    have hr : r.running = true := by
      by_contra hr
      rw [Bool.not_eq_true] at hr
      unfold Live2v2Run.step at hafter
      rw [hr] at hafter
      exact hbefore hafter
    have hover : ∀ phase, phase = .finished ∨ phase = .cancelled → r.live.phase ≠ phase := by
      intro phase ho hp
      rw [step_over ho hp] at hafter
      rw [hafter] at ho
      rcases ho with ho | ho <;> cases ho
    have hwaits : r.live.phase = .waiting ∨ r.live.phase = .countdown := by
      cases hp : r.live.phase with
      | waiting => exact Or.inl rfl
      | countdown => exact Or.inr rfl
      | playing => exact absurd hp hbefore
      | finished => exact absurd hp (hover _ (Or.inl rfl))
      | cancelled => exact absurd hp (hover _ (Or.inr rfl))
    rw [step_loop hr] at hafter ⊢
    rcases matchLoop_waits_cases hplay hwaits tick now messages answers with
      ⟨hne, -, -⟩ | ⟨hc, hread, hstart, hlobby⟩
    · exact absurd hafter hne
    · exact ⟨hr, hc, hread, hstart, hlobby⟩

/-- **A match enters the battle with four bound slots exactly if no stale ready
flag starts it.** -/
theorem enters_bound_iff {r : Live2v2Run} (hplay : PlayOk r.live) (hlobby : LobbyOk r.live.lobby)
    (e : Live2v2Event) : EntersBound r e ↔ NoStaleReady r e := by
  have hafter : LobbyOk (r.step e).live.lobby :=
    step_keepsLobby (fun _ _ _ => LobbyOk.move) e hlobby
  constructor
  · intro h
    cases e with
    | attempt presence => trivial
    | join arrivals tick => trivial
    | leave presences now => trivial
    | terminate => trivial
    | loop tick now messages answers =>
      intro hr hc hread hready
      rcases matchLoop_waits_cases hplay (Or.inr hc) tick now messages answers with
        ⟨-, -, hno⟩ | ⟨-, -, -, hl⟩
      · exact absurd ⟨hread, hready⟩ hno
      · rw [← step_loop hr] at hl
        have henters : Enters r (.loop tick now messages answers) := by
          refine ⟨by rw [hc]; decide, ?_⟩
          exact congrArg Lobby.phase hl
        obtain ⟨-, hbound⟩ := h henters
        rw [allSlotsJoined_iff]
        intro slot
        obtain ⟨p, hp, -⟩ := hbound slot
        have hseat : (r.step (.loop tick now messages answers)).live.lobby.seats slot
            = (messagesRead r.live tick messages answers).lobby.seats slot := by rw [hl]
        rw [← hseat]
        exact Option.isSome_iff_exists.mpr ⟨p, hp⟩
  · intro h henters
    obtain ⟨tick, now, messages, answers, rfl, hr, hc, hread, hstart, hl⟩ :=
      enters_loop hplay henters
    refine ⟨hc, fun slot => ?_⟩
    have hjoined : (messagesRead r.live tick messages answers).allSlotsJoined = true := by
      rcases hstart with hready | hjoined
      · exact h hr hc hread hready
      · exact hjoined
    have hsome := allSlotsJoined_iff.mp hjoined slot
    have hseat : (r.step (.loop tick now messages answers)).live.lobby.seats slot
        = (messagesRead r.live tick messages answers).lobby.seats slot := by rw [hl]
    rw [← hseat] at hsome
    obtain ⟨p, hp⟩ := Option.isSome_iff_exists.mp hsome
    refine ⟨p, hp, hafter.seated slot p hp, ?_⟩
    exact (hafter.connected slot).trans hsome

/-! ### What never settles -/

omit [MathLib] in
/-- Nothing of the match was settled, and no result was sent. -/
structure Unsettled (s : Live2v2MatchState) : Prop where
  settled : s.settled = false
  sent : ∀ m ∈ s.sent, ∀ matchId winner participants, m.2 ≠ .matchResult matchId winner participants

theorem unsettled_change {s s' : Live2v2MatchState} (hc : Change s s')
    (h : s.phase ≠ .finished → Unsettled s) : s'.phase ≠ .finished → Unsettled s' := by
  cases hc with
  | keep hk =>
    intro hp
    rw [hk.phase] at hp
    exact ⟨hk.settled.trans (h hp).settled, by rw [hk.sent]; exact (h hp).sent⟩
  | send messages hm =>
    intro hp
    refine ⟨(h hp).settled, fun m hmem => ?_⟩
    rcases List.mem_append.mp hmem with hmem | hmem
    · exact (h hp).sent m hmem
    · intro matchId winner participants he
      have hmay := hm m hmem
      rw [he] at hmay
      cases hmay with
      | result settlements hf => exact hp hf
  | countdown hw => exact fun _ => { h (by rw [hw]; decide) with }
  | cancel hn => exact fun _ => { h hn with }
  | start hcount hs => exact fun _ => { h (by rw [hcount]; decide) with }
  | accept message slot payload serverSeq hp hseq hlog ho =>
    have hold := h (by rw [hp]; decide)
    refine fun _ => ⟨hold.settled, fun m hmem => ?_⟩
    rcases List.mem_append.mp hmem with hmem | hmem
    · exact hold.sent m hmem
    · rw [List.mem_singleton.mp hmem]
      exact fun _ _ _ he => nomatch he
  | decide status hp hs hd => exact fun hf => { h hf with }
  | finish hp hs => exact fun hf => absurd rfl hf
  | settle hf => exact fun hn => absurd hf hn

theorem unsettled_move {s s' : Live2v2MatchState} (hm : Move s s')
    (h : s.phase ≠ .finished → Unsettled s) : s'.phase ≠ .finished → Unsettled s' := by
  cases hm with
  | change hc => exact unsettled_change hc h
  | simulate hp hs => exact fun hf => { h hf with }

/-! ### Every run -/

/-- **How a match starts**, along a run: it enters the battle at most once, from
the countdown and with four bound slots, and a match that leaves the lobby in any
other way is cancelled for good and settles nothing. -/
structure MatchStart (start : Live2v2Run) (events : List Live2v2Event) : Prop where
  bound : EachStep Live2v2Run.step EntersBound start events
  once : AtMostOnce Live2v2Run.step Enters start events
  cancelled : ∀ before e after, before ++ e :: after = events →
    Leaves (before.foldl Live2v2Run.step start) e →
      Always Live2v2Run.step (fun r => r.live.phase = .cancelled ∧ Unsettled r.live)
        ((before.foldl Live2v2Run.step start).step e) after

theorem step_begun {r : Live2v2Run} (h : r.live.phase ≠ .waiting ∧ r.live.phase ≠ .countdown)
    (e : Live2v2Event) :
    (r.step e).live.phase ≠ .waiting ∧ (r.step e).live.phase ≠ .countdown := by
  refine step_keepsLobby (P := fun l => l.phase ≠ .waiting ∧ l.phase ≠ .countdown)
    (fun e l l' hm hl => ?_) e h
  cases hm with
  | adopt slot presence hjoin huser => exact hl
  | vacate slot presence now hleave hholds => exact hl
  | expire tick now messages answers hloop hphase hexpire => rwa [hexpire.phase]
  | surrender slot message horder hholds hphase hconnected => exact hl
  | ready slot message horder hholds hphase => exact hl
  | countdown hphase hjoined => exact absurd hphase hl.1
  | start tick now messages answers hloop hphase hready => exact absurd hphase hl.2
  | cancel hphase => exact ⟨(fun h => nomatch h), fun h => nomatch h⟩
  | finish tick now messages answers hloop hphase => exact ⟨(fun h => nomatch h), fun h => nomatch h⟩

/-- A match that has entered the battle does not enter it again. -/
theorem enters_once {start : Live2v2Run} {events : List Live2v2Event} :
    AtMostOnce Live2v2Run.step Enters start events := by
  refine atMostOnce_of_preserves (N := fun r => r.live.phase ≠ .waiting ∧ r.live.phase ≠ .countdown)
    (fun r e h => ?_) (fun r e h => ?_) fun r e h henters => ?_
  · rw [h.2]
    decide
  · exact step_begun h e
  · have hphase : r.live.phase = .finished ∨ r.live.phase = .cancelled := by
      cases hp : r.live.phase with
      | waiting => exact absurd hp h.1
      | countdown => exact absurd hp h.2
      | playing => exact absurd hp henters.1
      | finished => exact Or.inl rfl
      | cancelled => exact Or.inr rfl
    have hstays := step_over hphase rfl e
    exact henters.1 (hstays.symm.trans henters.2)

/-- A match that leaves the lobby, and not into the battle, is cancelled. -/
theorem leaves_cancelled {r : Live2v2Run} (hplay : PlayOk r.live) {e : Live2v2Event}
    (h : Leaves r e) : (r.step e).live.phase = .cancelled := by
  obtain ⟨hwaits, hw, hc, hp⟩ := h
  have hunfinished : (r.step e).live.phase ≠ .finished := by
    have hother : (∀ tick now messages answers, e ≠ .loop tick now messages answers) →
        (r.step e).live.phase ≠ .finished := by
      intro hne
      refine lobbyMoves_preserve (P := fun l => l.phase ≠ .finished) (fun l l' hm hl => ?_)
        (step_lobby r e) (by rcases hwaits with hp | hp <;> (change r.live.phase ≠ _; rw [hp]; decide))
      cases hm with
      | adopt slot presence hjoin huser => exact hl
      | vacate slot presence now hleave hholds => exact hl
      | expire tick now messages answers hloop hphase hexpire => rwa [hexpire.phase]
      | surrender slot message horder hholds hphase hconnected => exact hl
      | ready slot message horder hholds hphase => exact hl
      | countdown hphase hjoined => exact fun h => nomatch h
      | start tick now messages answers hloop hphase hready => exact fun h => nomatch h
      | cancel hphase => exact fun h => nomatch h
      | finish tick now messages answers hloop hphase => exact absurd hloop (hne _ _ _ _)
    cases e with
    | attempt presence => exact hother fun _ _ _ _ h => nomatch h
    | join arrivals tick => exact hother fun _ _ _ _ h => nomatch h
    | leave presences now => exact hother fun _ _ _ _ h => nomatch h
    | terminate => exact hother fun _ _ _ _ h => nomatch h
    | loop tick now messages answers =>
      cases hr : r.running with
      | false =>
        unfold Live2v2Run.step
        rw [hr]
        rcases hwaits with hp | hp <;> (change r.live.phase ≠ _; rw [hp]; decide)
      | true =>
        rw [step_loop hr]
        rcases matchLoop_waits_cases hplay hwaits tick now messages answers with
          ⟨-, hf, -⟩ | ⟨-, -, -, hl⟩
        · exact hf
        · have hphase : (r.live.matchLoop tick now messages answers).1.phase = .playing :=
            congrArg Lobby.phase hl
          rw [hphase]
          decide
  cases hphase : (r.step e).live.phase with
  | waiting => exact absurd hphase hw
  | countdown => exact absurd hphase hc
  | playing => exact absurd hphase hp
  | finished => exact absurd hphase hunfinished
  | cancelled => rfl

/-- **The start of a 2v2 match.**  In every run a match starts as it should if and
only if no call of the loop meets a countdown whose four ready flags are set while
a slot has no session. -/
theorem match_start {enable2v2 equalPower : Bool} {params : Live2v2Params}
    {lookup : String → SeatLookup} {randomHex : Option String} {startedAt : ℤ}
    {s : Live2v2MatchState}
    (h : live2v2MatchInit enable2v2 equalPower params lookup randomHex startedAt = some s)
    (events : List Live2v2Event) :
    MatchStart (.start s) events ↔ EachStep Live2v2Run.step NoStaleReady (.start s) events := by
  have hnew := live2v2MatchInit_new h
  have hkeeps : ∀ (r : Live2v2Run) (e : Live2v2Event), PlayOk r.live ∧ LobbyOk r.live.lobby →
      PlayOk (r.step e).live ∧ LobbyOk (r.step e).live.lobby := by
    intro r e hr
    exact ⟨step_preserves (fun _ _ hm hs => PlayOk.move hm hs) e hr.1,
      step_keepsLobby (fun _ _ _ => LobbyOk.move) e hr.2⟩
  have hstart : PlayOk s ∧ LobbyOk s.lobby := ⟨hnew.playOk, hnew.lobbyOk⟩
  rw [← eachStep_congr (I := fun r : Live2v2Run => PlayOk r.live ∧ LobbyOk r.live.lobby) hkeeps
    (fun r e hr => enters_bound_iff hr.1 hr.2 e) hstart]
  refine ⟨fun hm => hm.bound, fun hbound => ⟨hbound, enters_once, ?_⟩⟩
  rintro before e after - hleaves
  have hreached := foldl_preserves (l := before)
    (P := fun r : Live2v2Run => PlayOk r.live ∧ (r.live.phase ≠ .finished → Unsettled r.live))
    (fun r e _ hr => ⟨step_preserves (fun _ _ hm hs => PlayOk.move hm hs) e hr.1,
      step_preserves (fun _ _ hm hs => unsettled_move hm hs) e hr.2⟩)
    (s := Live2v2Run.start s) ⟨hnew.playOk, fun _ => ⟨hnew.settled, fun m hm => by
      change m ∈ s.sent at hm
      rw [hnew.sent] at hm
      exact absurd hm List.not_mem_nil⟩⟩
  have hcancelled := leaves_cancelled hreached.1 hleaves
  have hunsettled := step_preserves (fun _ _ hm hs => unsettled_move hm hs) e hreached.2
  have hall : Always Live2v2Run.step (fun r => r.live.phase = .cancelled ∧
      (r.live.phase ≠ .finished → Unsettled r.live))
      ((before.foldl Live2v2Run.step (.start s)).step e) after :=
    always_of_preserves (E := fun _ => True)
      (fun r e _ hr => ⟨step_over (Or.inr rfl) hr.1 e,
        step_preserves (fun _ _ hm hs => unsettled_move hm hs) e hr.2⟩)
      (fun _ _ => trivial) ⟨hcancelled, hunsettled⟩
  intro path hpath
  obtain ⟨hc, hu⟩ := hall path hpath
  exact ⟨hc, hu (by rw [hc]; decide)⟩

end Enters

/-! ### A start without one of the four -/

/-- Anna is ready and leaves; the other three are ready after her. -/
def annaLeaves : List Live2v2Event :=
  [.attempt (guest "anna"), .attempt (guest "bert"), .attempt (guest "carl"),
   .attempt (guest "dora"),
   .join [(guest "anna", none), (guest "bert", none), (guest "carl", none),
     (guest "dora", none)] 0,
   .loop 1 0 [readyOf "anna"] settlingAnswers,
   .leave [guest "anna"] 0]

/-- The call that reads the other three. -/
def startsWithout : Live2v2Event :=
  .loop 2 0 [readyOf "bert", readyOf "carl", readyOf "dora"] settlingAnswers

theorem match_start_four :
    @MatchStart decimalHypot (.start fourMatch) fourReady ↔
      EachStep (@Live2v2Run.step decimalHypot) (@NoStaleReady decimalHypot) (.start fourMatch)
        fourReady :=
  @match_start decimalHypot _ _ _ _ _ _ _ fourMatch_init fourReady

theorem annaLeaves_start :
    let r := annaLeaves.foldl (@Live2v2Run.step decimalHypot) (.start fourMatch)
    (r.live.phase = .countdown ∧ (@Live2v2Run.step decimalHypot r startsWithout).live.phase
        = .playing) ∧
      ((@Live2v2Run.step decimalHypot r startsWithout).live.slots 0).presence = none := by
  decide +kernel

/-- **A match starts without one of its four players.** -/
theorem match_start_without :
    ¬ @MatchStart decimalHypot (.start fourMatch) (annaLeaves ++ [startsWithout]) := by
  intro h
  obtain ⟨⟨hc, hp⟩, hnone⟩ := annaLeaves_start
  have hlast := @EachStep.last _ _ _ _ _ _ _ (@MatchStart.bound decimalHypot _ _ h)
  obtain ⟨-, hbound⟩ := hlast ⟨by rw [hc]; decide, hp⟩
  obtain ⟨p, hsome, -⟩ := hbound 0
  rw [hnone] at hsome
  cases hsome

end CrownClash.Go
