import CrownClash.Go.IdleBattle
import CrownClash.Go.Live2v2Captures
import CrownClash.Go.Live2v2Rematch

/-!
# Server: the replay of a finished 2v2 match

The record that a finished match leaves is meant to be replayed, and three things
stand in the way.  An accepted dispatch is logged at the tick of the loop, which
counts twentieths of a second from the creation of the match, and replayed at that
tick of the battle, which counts fiftieths from its start.  A surrender and a
reconnect window that runs out end a match and are not logged.  And the deadline
of the wall clock ends a match as a draw while its replay goes on.

A call that meets none of the three is a `QuietCall`: it accepts no dispatch, leaves
each team a player and comes in time.  `quiet_match_replayed` says that a run of such
calls ends as its record says.
-/

namespace CrownClash.Go

open Lib Live2v2MatchState

/-! ### The record -/

/-- What a stored record asks the replay engine to do. -/
def Live2v2Replay.options (replay : Live2v2Replay) : TwoVTwoSimulationOptions where
  territories := (battlefieldOf replay.battlefieldId).templates
  spawnAssignments := replay.players.map fun p => ⟨p.slot.val, live2v2StartBase p.slot⟩
  modifiersBySlot slot :=
    match replay.players.find? fun p => (p.slot.val : ℤ) = slot with
    | some p => p.modifiers
    | none => defaultModifiers
  timeLimitSeconds := replay.timeLimitSeconds
  battlefieldId := replay.battlefieldId
  actions := replay.actions
  gameplayRulesVersion := replay.gameplayRulesVersion

/-- The replay engine accepts the log of a record and ends as the record says. -/
def Reproduced [MathLib] (replay : Live2v2Replay) : Prop :=
  ∃ result, simulate2v2Battle replay.options = .ok result ∧
    winnerTeamId result.finalState.status = replay.winnerTeamId ∧
    (result.finalState.stats, statsForRole result.finalState.stats .enemy) = replay.perTeam

theorem replayPayload_start {s : Live2v2MatchState} (hmap : s.battlefieldId = live2v2BattlefieldId)
    (hlimit : s.state.timeLimitSeconds = pvpTimeLimitSeconds)
    (hversion : s.state.gameplayRulesVersion = currentGameplayRulesVersion) :
    FourStart s.replayPayload.options where
  territories := by
    show (battlefieldOf s.battlefieldId).templates = _
    rw [hmap]
    rfl
  spawns := rfl
  timeLimit := hlimit
  map := hmap
  version := Or.inr hversion
  modifiers slot := by
    have hslot : s.replayPayload.options.modifiersBySlot slot.val
        = upgradeModifiers (s.slots slot).career := by
      match slot with
      | 0 => rfl
      | 1 => rfl
      | 2 => rfl
      | 3 => rfl
    rw [hslot]
    exact upgradeModifiers_base _

/-- **A draw at the clock in which nobody has moved is reproduced.** -/
theorem reproduced_idle [MathLib] {s : Live2v2MatchState}
    (hmap : s.battlefieldId = live2v2BattlefieldId)
    (hlimit : s.state.timeLimitSeconds = pvpTimeLimitSeconds)
    (hversion : s.state.gameplayRulesVersion = currentGameplayRulesVersion)
    (hlog : s.actionLog = []) (hstatus : s.state.status = .draw)
    (hstats : s.state.stats = idleStats pvpTimeLimitSeconds) : Reproduced s.replayPayload := by
  obtain ⟨result, hresult, hdraw, hsame⟩ :=
    simulate2v2Battle_idle (replayPayload_start hmap hlimit hversion) hlog
  refine ⟨result, hresult, ?_, ?_⟩
  · show winnerTeamId result.finalState.status = winnerTeamId s.state.status
    rw [hdraw, hstatus]
  · show _ = (s.state.stats, statsForRole s.state.stats .enemy)
    rw [hsame, hstats]

/-! ### A call without an event -/

/-- Each team has a slot that can still play. -/
def BothTeamsPlay (s : Live2v2MatchState) : Prop := ∀ team, s.teamDead team = false

/-- The match after a surrender of the slot. -/
def Live2v2MatchState.surrenderSlot (s : Live2v2MatchState) (slot : Slot) : Live2v2MatchState :=
  s.setSlot slot
    { s.slots slot with
      surrendered := true
      connected := false
      presence := none }

/-- The match as a call of the loop at `tick` finds it. -/
def Live2v2MatchState.atTick (s : Live2v2MatchState) (tick : ℕ) : Live2v2MatchState :=
  { s with tick := tick }

/-- The match once the reconnect windows that are over at `now` are closed. -/
def Live2v2MatchState.expired (s : Live2v2MatchState) (tick : ℕ) (now : ℤ) : Live2v2MatchState :=
  { s with
    tick := tick
    slots := fun slot => expireSlot now (s.slots slot) }

theorem checkTeamForfeit_bothTeamsPlay {s : Live2v2MatchState} (h : BothTeamsPlay s) (answers : Answers) :
    s.checkTeamForfeit answers = s := by
  unfold checkTeamForfeit
  rw [h .a, h .b]
  rfl

section Calls

variable [MathLib]

/-- A message that is neither an accepted dispatch nor a surrender that leaves a team
without a player. -/
structure QuietMessage (s : Live2v2MatchState) (message : Live2v2Message) (serverSeq : ℤ) : Prop where
  dispatch : ∀ slot payload state, s.senderSlot message = some slot →
    readPayload message = some payload → payload.type = "dispatch" →
      ¬ Accepts s slot payload serverSeq state
  surrender : ∀ slot payload, s.senderSlot message = some slot →
    readPayload message = some payload → payload.type = "surrender" →
      (s.slots slot).connected = true → BothTeamsPlay (s.surrenderSlot slot)

/-- A call during the battle that accepts no dispatch, leaves each team a player and comes
before the deadline, or else with its step decides the battle. -/
structure QuietCall (r : Live2v2Run) (tick : ℕ) (now : ℤ) (messages : List Live2v2Message)
    (answers : Answers) : Prop where
  teams : BothTeamsPlay (r.live.expired tick now)
  messages : ∀ k s m serverSeq, Reads r (.loop tick now messages answers) k s m serverSeq answers →
    QuietMessage s m serverSeq
  inTime : now ≤ r.live.deadlineAt ∨
    (stepSimulation r.live.state r.live.accumulators liveDelta).1.status ≠ .playing

/-- A call that is quiet if it comes during the battle. -/
def Quiet (r : Live2v2Run) : Live2v2Event → Prop
  | .loop tick now messages answers =>
    r.running = true → r.live.phase = .playing → QuietCall r tick now messages answers
  | _ => True

/-! ### What such a call leaves alone -/

omit [MathLib] in
/-- The battle, its log and its deadline stay. -/
structure BattleStays (s s' : Live2v2MatchState) : Prop where
  phase : s'.phase = s.phase
  state : s'.state = s.state
  accumulators : s'.accumulators = s.accumulators
  actionLog : s'.actionLog = s.actionLog
  deadlineAt : s'.deadlineAt = s.deadlineAt
  settled : s'.settled = s.settled
  battlefieldId : s'.battlefieldId = s.battlefieldId

omit [MathLib] in
theorem BattleStays.refl (s : Live2v2MatchState) : BattleStays s s :=
  ⟨rfl, rfl, rfl, rfl, rfl, rfl, rfl⟩

omit [MathLib] in
theorem BattleStays.trans {s s' s'' : Live2v2MatchState} (h : BattleStays s s')
    (g : BattleStays s' s'') : BattleStays s s'' where
  phase := g.phase.trans h.phase
  state := g.state.trans h.state
  accumulators := g.accumulators.trans h.accumulators
  actionLog := g.actionLog.trans h.actionLog
  deadlineAt := g.deadlineAt.trans h.deadlineAt
  settled := g.settled.trans h.settled
  battlefieldId := g.battlefieldId.trans h.battlefieldId

/-- **A quiet message leaves the battle alone.** -/
theorem handleMessage_quiet {s : Live2v2MatchState} {message : Live2v2Message} {serverSeq : ℤ}
    (hp : s.phase = .playing) (h : QuietMessage s message serverSeq) (answers : Answers) :
    BattleStays s (s.handleMessage message serverSeq answers) := by
  have hreject : ∀ code, BattleStays s (s.rejectCommand message code) :=
    fun _ => ⟨rfl, rfl, rfl, rfl, rfl, rfl, rfl⟩
  unfold handleMessage
  cases hs : s.senderSlot message with
  | none => exact hreject _
  | some slot =>
    dsimp only
    cases hr : readPayload message with
    | none => exact hreject _
    | some payload =>
      dsimp only
      split
      · next ht =>
        rcases handleDispatch_cases s message payload slot serverSeq with
          ⟨code, hcode⟩ | ⟨state, haccepts, -⟩
        · rw [hcode]
          exact hreject code
        · exact absurd haccepts (h.dispatch slot payload state hs hr ht)
      split
      · unfold handleReady
        rw [if_pos ⟨by rw [hp]; decide, by rw [hp]; decide⟩]
        exact hreject _
      split
      · next ht =>
        unfold handleSurrender
        rw [hp]
        dsimp only
        split
        · exact hreject _
        · next hc =>
          rw [Bool.not_eq_true', Bool.not_eq_false] at hc
          have hplay := h.surrender slot payload hs hr ht hc
          have hsame := checkTeamForfeit_bothTeamsPlay hplay answers
          unfold surrenderSlot at hsame
          rw [hsame]
          exact ⟨rfl, rfl, rfl, rfl, rfl, rfl, rfl⟩
      split
      · unfold handleRematchVote
        rw [if_pos (Or.inl (by rw [hp]; decide))]
        exact hreject _
      · exact hreject _

theorem readFirst_quiet {t : Live2v2MatchState} {messages : List Live2v2Message}
    {answers : Answers} (hp : t.phase = .playing)
    (h : ∀ k m, messages[k]? = some m →
      QuietMessage (readFirst t messages answers k) m (t.serverSeq + k + 1)) :
    ∀ k, k ≤ messages.length → BattleStays t (readFirst t messages answers k) := by
  intro k
  induction k with
  | zero =>
    intro _
    exact .refl t
  | succ k ih =>
    intro hk
    have hold := ih (by omega)
    have hm : messages[k]? = some messages[k] := List.getElem?_eq_getElem (by omega)
    rw [readFirst_succ hm]
    exact hold.trans (handleMessage_quiet (hold.phase.trans hp) (h k _ hm) answers)

theorem handleMessages_quiet {t : Live2v2MatchState} {messages : List Live2v2Message}
    {answers : Answers} (hp : t.phase = .playing)
    (h : ∀ k m, messages[k]? = some m →
      QuietMessage (readFirst t messages answers k) m (t.serverSeq + k + 1)) :
    BattleStays t (t.handleMessages messages answers) := by
  have hall := readFirst_quiet hp h messages.length (le_refl _)
  have hread : t.handleMessages messages answers = { readFirst t messages answers messages.length with
      serverSeq := t.serverSeq + messages.length } := by
    unfold handleMessages readFirst
    rw [List.take_of_length_le (by rw [List.length_zipIdx])]
  rw [hread]
  exact hall.trans ⟨rfl, rfl, rfl, rfl, rfl, rfl, rfl⟩

end Calls


/-! ### The match up to a call -/

section Runs

variable [MathLib]

omit [MathLib] in
theorem gridStep_live : GridStep liveDelta where
  long := by norm_num [liveDelta, live2v2TickRate]
  grid := ⟨50000000, by norm_num [liveDelta, live2v2TickRate]⟩

/-- **A match in which nobody has moved.** -/
inductive IdleMatch (s : Live2v2MatchState) : Prop
  | before (hp : s.phase = .waiting ∨ s.phase = .countdown) (hlog : s.actionLog = [])
    (hacc : s.accumulators = .empty)
  | battle (hp : s.phase = .playing) (hlog : s.actionLog = []) (k : ℕ)
    (hidle : IdleBattle liveDelta k s.state s.accumulators)
    (hclock : k * liveDelta < pvpTimeLimitSeconds) (hstatus : s.state.status = .playing)
  | finished (hp : s.phase = .finished) (hr : Reproduced s.replayPayload)
  | cancelled (hp : s.phase = .cancelled)

omit [MathLib] in
theorem finishMatch_record {s : Live2v2MatchState} (h : s.settled = false) (answers : Answers) :
    (s.finishMatch answers).phase = .finished ∧
      (s.finishMatch answers).replayPayload = s.replayPayload := by
  unfold finishMatch
  rw [if_neg (by rw [h]; exact Bool.false_ne_true)]
  dsimp only
  split
  · exact ⟨rfl, rfl⟩
  · exact ⟨rfl, rfl⟩

/-- **A tick of a battle in which nobody has moved** leaves it so, or finishes it as its
replay ends. -/
theorem playTick_idle {s : Live2v2MatchState} (hp : s.phase = .playing) (hset : s.settled = false)
    (hmap : s.battlefieldId = live2v2BattlefieldId) (hlog : s.actionLog = []) {k : ℕ}
    (hidle : IdleBattle liveDelta k s.state s.accumulators)
    (hclock : k * liveDelta < pvpTimeLimitSeconds) (hs : s.state.status = .playing) {now : ℤ}
    (htime : now ≤ s.deadlineAt ∨
      (stepSimulation s.state s.accumulators liveDelta).1.status ≠ .playing) (answers : Answers) :
    IdleMatch (s.playTick now answers) := by
  obtain ⟨hnext, hstatus⟩ := hidle.step gridStep_live hs
  have htick : s.playTick now answers =
      if (stepSimulation s.state s.accumulators liveDelta).1.status ≠ .playing then
        s.simulate.broadcastStates.finishMatch answers
      else if now > s.deadlineAt then s.simulate.broadcastStates.endAs .draw answers
      else s.simulate.broadcastStates := by
    unfold playTick
    rw [if_pos hs]
    rfl
  by_cases hend : pvpTimeLimitSeconds ≤ ((k + 1 : ℕ) : ℚ) * liveDelta
  · rw [if_pos hend] at hstatus
    have hlast : ((k + 1 : ℕ) : ℚ) * liveDelta = pvpTimeLimitSeconds := by
      have hlt : (k : ℚ) < 1800 := by
        norm_num [liveDelta, live2v2TickRate, pvpTimeLimitSeconds] at hclock
        linarith
      have hle : ((k + 1 : ℕ) : ℚ) ≤ 1800 := by
        have hnat : k < 1800 := by exact_mod_cast hlt
        exact_mod_cast hnat
      refine le_antisymm ?_ hend
      norm_num [liveDelta, live2v2TickRate, pvpTimeLimitSeconds]
      push_cast at hle
      linarith
    have hopen : s.simulate.broadcastStates.settled = false := hset
    obtain ⟨hphase, hrecord⟩ := finishMatch_record hopen answers
    rw [htick, if_pos (by rw [hstatus]; decide)]
    refine .finished hphase ?_
    rw [hrecord]
    refine reproduced_idle (s := s.simulate.broadcastStates) hmap hnext.timeLimit hnext.version hlog
      hstatus ?_
    rw [← hlast]
    exact hnext.stats
  · rw [if_neg hend] at hstatus
    have hin : ¬ now > s.deadlineAt := by
      rcases htime with hle | hover
      · exact not_lt.mpr hle
      · exact absurd hstatus hover
    rw [htick, if_neg (not_not.mpr hstatus), if_neg hin]
    exact .battle (s := s.simulate.broadcastStates) hp hlog (k + 1) hnext (not_le.mp hend) hstatus

theorem startMatch_idle {s : Live2v2MatchState} (hset : s.settled = false)
    (hmap : s.battlefieldId = live2v2BattlefieldId) (hlog : s.actionLog = [])
    (hacc : s.accumulators = .empty) (now : ℤ) (answers : Answers) :
    (s.startMatch now).phase = .playing ∧ IdleMatch ((s.startMatch now).playTick now answers) := by
  have hstart : FourStart (setupOf s) :=
    { territories := rfl
      spawns := rfl
      timeLimit := rfl
      map := rfl
      version := Or.inl rfl
      modifiers := fun slot => upgradeModifiers_base _ }
  obtain ⟨state, hstate, hstatus, hidle⟩ := initialState2v2_idle hstart
  have hset2 : s.createInitial2v2State = some state := by
    rw [createInitial2v2State_eq hmap, hstate]
    rfl
  unfold startMatch
  rw [hset2]
  refine ⟨rfl, ?_⟩
  refine playTick_idle (s := ({ s with
    state := state
    phase := .playing
    deadlineAt := now + live2v2MaxMatchTime * second }).broadcastMatchStarted) rfl hset hmap hlog
    (k := 0) ?_ ?_ hstatus (Or.inl ?_) answers
  · show IdleBattle liveDelta 0 state s.accumulators
    rw [hacc]
    exact hidle liveDelta
  · rw [Nat.cast_zero, zero_mul]
    norm_num [pvpTimeLimitSeconds]
  · show now ≤ now + live2v2MaxMatchTime * second
    unfold live2v2MaxMatchTime second
    omega

theorem changes_accumulators {s s' : Live2v2MatchState} (h : Changes s s') :
    s'.accumulators = s.accumulators := by
  refine changes_preserve (P := fun t => t.accumulators = s.accumulators) (fun t t' hc ht => ?_) h
    rfl
  cases hc with
  | keep hk => exact hk.accumulators.trans ht
  | send messages hm => exact ht
  | countdown hw => exact ht
  | cancel hn => exact ht
  | start hc hi => exact ht
  | accept message slot payload serverSeq hp hseq hroom ho => exact ht
  | decide status hp hs hd => exact ht
  | finish hp hs => exact ht
  | settle hf => exact ht

/-- The end of a call before the battle. -/
theorem afterMessages_idle {s : Live2v2MatchState} (hset : s.settled = false)
    (hmap : s.battlefieldId = live2v2BattlefieldId)
    (hp : s.phase = .waiting ∨ s.phase = .countdown) (hlog : s.actionLog = [])
    (hacc : s.accumulators = .empty) (tick now : ℤ) (answers : Answers) :
    IdleMatch (s.afterMessages tick now answers).1 := by
  have hstart := startMatch_idle hset hmap hlog hacc now answers
  have hcancel : s.cancelMatch.phase = .cancelled := rfl
  unfold afterMessages
  rcases hp with hp | hp
  · rw [if_neg (by rw [hp]; decide)]
    unfold advancePhase
    rw [hp]
    dsimp only
    split
    · exact .before (Or.inr rfl) hlog hacc
    split
    · exact .cancelled rfl
    · rw [if_neg (by rw [hp]; decide)]
      exact .before (Or.inl hp) hlog hacc
  · rw [if_neg (by rw [hp]; decide)]
    unfold advancePhase
    rw [hp]
    dsimp only
    split
    · rw [if_pos hstart.1]
      exact hstart.2
    split
    · split
      · rw [if_pos hstart.1]
        exact hstart.2
      · exact .cancelled rfl
    · rw [if_neg (by rw [hp]; decide)]
      exact .before (Or.inr hp) hlog hacc

theorem handleMessages_noLog {s : Live2v2MatchState}
    (hp : s.phase = .waiting ∨ s.phase = .countdown) (hlog : s.actionLog = [])
    (messages : List Live2v2Message) (answers : Answers) :
    (s.handleMessages messages answers).actionLog = [] := by
  have hall := foldl_preserves (l := messages.zipIdx)
    (f := fun t m => t.handleMessage m.1 (s.serverSeq + m.2 + 1) answers)
    (P := fun t : Live2v2MatchState =>
      ((t.phase = .waiting ∨ t.phase = .countdown) ∨ t.phase = .cancelled) ∧ t.actionLog = [])
    (fun t m _ ht => ?_) ⟨Or.inl hp, hlog⟩
  · exact hall.2
  obtain ⟨hphase, hempty⟩ := ht
  refine ⟨?_, ?_⟩
  · rcases hphase with hw | hc
    · rcases handleMessage_waits hw m.1 (s.serverSeq + m.2 + 1) answers with hsame | hc
      · rw [hsame]
        exact Or.inl hw
      · exact Or.inr hc
    · exact Or.inr (handleMessage_cancelled hc m.1 _ answers)
  · rcases handleMessage_log t m.1 (s.serverSeq + m.2 + 1) answers with
      hsame | ⟨slot, payload, state, -, -, -, haccepts, -⟩
    · exact (congrArg LogView.actions hsame).trans hempty
    · rw [haccepts.phase] at hphase
      rcases hphase with (hw | hw) | hw
      · cases hw
      · cases hw
      · cases hw

omit [MathLib] in
theorem matchJoin_phase (s : Live2v2MatchState) (arrivals : List (Presence × Option String))
    (tick : ℤ) : (s.matchJoin arrivals tick).phase = s.phase ∨
      (s.phase = .waiting ∧ (s.matchJoin arrivals tick).phase = .countdown) := by
  have hall : (arrivals.foldl (fun t a => t.joinOne a.1 a.2) s).phase = s.phase :=
    foldl_preserves (P := fun t : Live2v2MatchState => t.phase = s.phase)
      (fun t a _ ht => (joinOne_battle t a.1 a.2).1.trans ht) rfl
  unfold Live2v2MatchState.matchJoin
  dsimp only
  split
  · next hw =>
    rw [Bool.and_eq_true] at hw
    exact Or.inr ⟨hall.symm.trans (of_decide_eq_true hw.1), rfl⟩
  · exact Or.inl hall

/-- Joins and leaves keep a match in which nobody has moved. -/
theorem IdleMatch.seats {s s' : Live2v2MatchState} (h : IdleMatch s) (hf : s.phase ≠ .finished)
    (hphase : s'.phase = s.phase ∨ (s.phase = .waiting ∧ s'.phase = .countdown))
    (hstate : s'.state = s.state) (hlog : s'.logView = s.logView) (hc : Changes s s') :
    IdleMatch s' := by
  have hlog' : s'.actionLog = s.actionLog := congrArg LogView.actions hlog
  have hacc := changes_accumulators hc
  cases h with
  | before hp h0 ha =>
    refine .before ?_ (hlog'.trans h0) (hacc.trans ha)
    rcases hphase with hsame | ⟨-, hcount⟩
    · rw [hsame]
      exact hp
    · exact Or.inr hcount
  | battle hp h0 k hidle hclock hs =>
    have hsame : s'.phase = .playing := by
      rcases hphase with hsame | ⟨hw, -⟩
      · exact hsame.trans hp
      · rw [hp] at hw
        cases hw
    refine .battle hsame (hlog'.trans h0) k ?_ hclock (by rw [hstate]; exact hs)
    rw [hstate, hacc]
    exact hidle
  | finished hp hr => exact absurd hp hf
  | cancelled hp =>
    rcases hphase with hsame | ⟨hw, -⟩
    · exact .cancelled (hsame.trans hp)
    · rw [hp] at hw
      cases hw

/-- A call of the loop before the battle. -/
theorem idleMatch_lobby {s : Live2v2MatchState} (hp : s.phase = .waiting ∨ s.phase = .countdown)
    (hlog : s.actionLog = []) (hacc : s.accumulators = .empty) (hunsettled : Unsettled s)
    (hok : PlayOk s) (tick : ℕ) (now : ℤ) (messages : List Live2v2Message) (answers : Answers) :
    IdleMatch (s.matchLoop tick now messages answers).1 := by
  have hne : ∀ {phase : Live2v2Phase}, phase ≠ .waiting → phase ≠ .countdown → s.phase ≠ phase := by
    intro phase hw hc he
    rw [he] at hp
    exact hp.elim hw hc
  have hloop : s.matchLoop tick now messages answers
      = ((s.atTick tick).handleMessages messages answers).afterMessages tick now answers := by
    have hopen : ¬ (s.phase = .cancelled ∨ (s.phase = .finished ∧ s.settled = false)) := by
      rintro (hc | ⟨hc, -⟩)
      · exact hne (by decide) (by decide) hc
      · exact hne (by decide) (by decide) hc
    have hfrom : messagesFrom s tick now answers = some (s.atTick tick) := by
      unfold messagesFrom
      exact (if_neg hopen).trans (if_neg (hne (by decide) (by decide)))
    have hread := matchLoop_messages s tick now messages answers
    rw [hfrom] at hread
    exact hread.2
  have hread := (changes_tick s tick).trans
    (handleMessages_changes (s.atTick tick) messages answers)
  have hwaits := handleMessages_waits (s := s.atTick tick) hp messages answers
  have hempty := handleMessages_noLog (s := s.atTick tick) hp hlog messages answers
  have hopen := changes_preserve (fun _ _ hc => unsettled_change hc) hread fun _ => hunsettled
  have hplace := (changes_preserve (fun _ _ hc hs => PlayOk.change hc hs) hread hok).map
  have hsame := changes_accumulators hread
  rw [hloop]
  generalize (s.atTick tick).handleMessages messages answers = t at *
  rcases hwaits with hkept | hcancelled
  · have hphase : t.phase = .waiting ∨ t.phase = .countdown := by
      rw [hkept]
      exact hp
    have hrunning : t.phase ≠ .finished := by
      rcases hphase with hw | hw
      · rw [hw]
        decide
      · rw [hw]
        decide
    exact afterMessages_idle (hopen hrunning).settled hplace hphase hempty (hsame.trans hacc) tick
      now answers
  · refine .cancelled ?_
    unfold afterMessages
    rw [if_neg (by rw [hcancelled]; decide),
      advancePhase_begun ⟨by rw [hcancelled]; decide, by rw [hcancelled]; decide⟩]
    dsimp only
    rw [if_neg (by rw [hcancelled]; decide)]
    exact hcancelled

/-- A quiet call during the battle reads its messages, and the battle is where it was. -/
theorem QuietCall.reads {r : Live2v2Run} {tick : ℕ} {now : ℤ} {messages : List Live2v2Message}
    {answers : Answers} (hcall : QuietCall r tick now messages answers) (hr : r.running = true)
    (hp : r.live.phase = .playing) :
    r.live.matchLoop tick now messages answers
        = ((r.live.expired tick now).handleMessages messages answers).afterMessages tick now
          answers ∧
      BattleStays (r.live.expired tick now)
        ((r.live.expired tick now).handleMessages messages answers) := by
  have hgrace : (r.live.atTick tick).enforceReconnectGrace now answers
      = r.live.expired tick now := checkTeamForfeit_bothTeamsPlay hcall.teams answers
  have hexpired : (r.live.expired tick now).phase = .playing := hp
  have hopen : ¬ (r.live.phase = .cancelled ∨
      (r.live.phase = .finished ∧ r.live.settled = false)) := by
    rw [hp]
    rintro (hc | ⟨hc, -⟩)
    · cases hc
    · cases hc
  have hfrom : messagesFrom r.live tick now answers = some (r.live.expired tick now) := by
    show (if r.live.phase = .cancelled ∨ (r.live.phase = .finished ∧ r.live.settled = false)
      then none
      else if r.live.phase = .playing then
        if ((r.live.atTick tick).enforceReconnectGrace now answers).phase = .playing then
          some ((r.live.atTick tick).enforceReconnectGrace now answers)
        else none
      else some (r.live.atTick tick)) = _
    rw [if_neg hopen, if_pos hp, hgrace, if_pos hexpired]
  have hread := matchLoop_messages r.live tick now messages answers
  rw [hfrom] at hread
  exact ⟨hread.2, handleMessages_quiet hp fun k m hm => hcall.messages k _ m _ (.intro hr hfrom hm)⟩

/-- A quiet call of the loop keeps it. -/
theorem IdleMatch.loop {r : Live2v2Run} (h : IdleMatch r.live) (hr : r.running = true)
    (hplaying : Playing r.live) (hok : PlayOk r.live) (hf : r.live.phase ≠ .finished) {tick : ℕ}
    {now : ℤ} {messages : List Live2v2Message} {answers : Answers}
    (hq : r.live.phase = .playing → QuietCall r tick now messages answers) :
    IdleMatch (r.live.matchLoop tick now messages answers).1 := by
  have hunsettled := hplaying.unsettled hf
  cases h with
  | before hp hlog hacc => exact idleMatch_lobby hp hlog hacc hunsettled hok tick now messages answers
  | battle hp hlog k hidle hclock hs =>
    obtain ⟨hloop, hstays⟩ := (hq hp).reads hr hp
    rw [hloop]
    generalize (r.live.expired tick now).handleMessages messages answers = t at hstays ⊢
    have hphase : t.phase = .playing := hstays.phase.trans hp
    have hstate : t.state = r.live.state := hstays.state
    have hacc : t.accumulators = r.live.accumulators := hstays.accumulators
    have hdeadline : t.deadlineAt = r.live.deadlineAt := hstays.deadlineAt
    unfold afterMessages
    rw [if_neg (by rw [hphase]; decide),
      advancePhase_begun ⟨by rw [hphase]; decide, by rw [hphase]; decide⟩]
    dsimp only
    rw [if_pos hphase]
    refine playTick_idle hphase (hstays.settled.trans hunsettled.settled)
      (hstays.battlefieldId.trans hok.map) (hstays.actionLog.trans hlog) (k := k) ?_ hclock ?_ ?_
      answers
    · rw [hstate, hacc]
      exact hidle
    · rw [hstate]
      exact hs
    · rw [hstate, hacc, hdeadline]
      exact (hq hp).inTime
  | finished hp hrep => exact absurd hp hf
  | cancelled hp =>
    refine .cancelled ?_
    unfold Live2v2MatchState.matchLoop
    dsimp only
    rw [if_pos hp]
    exact hp

/-- **A quiet call keeps a match in which nobody has moved.** -/
theorem IdleMatch.step {r : Live2v2Run} (h : IdleMatch r.live) (hplaying : Playing r.live)
    (hok : PlayOk r.live) {e : Live2v2Event} (hq : Quiet r e) : IdleMatch (r.step e).live := by
  by_cases hf : r.live.phase = .finished
  · have hrecord : (r.step e).live.replayPayload = r.live.replayPayload :=
      congrArg Settle2v2Request.replayPayload (finished_request hf e)
    have hrep : Reproduced r.live.replayPayload := by
      cases h with
      | before hp hlog hacc =>
        rw [hf] at hp
        rcases hp with hp | hp
        · cases hp
        · cases hp
      | battle hp hlog k hidle hclock hs =>
        rw [hf] at hp
        cases hp
      | finished hp hrep => exact hrep
      | cancelled hp =>
        rw [hf] at hp
        cases hp
    refine .finished (step_over (Or.inl rfl) hf e) ?_
    rw [hrecord]
    exact hrep
  by_cases hr : r.running = true
  swap
  · unfold Live2v2Run.step
    rw [if_pos (by rw [Bool.not_eq_true', ← Bool.not_eq_true]; exact hr)]
    exact h
  unfold Live2v2Run.step
  rw [if_neg (by rw [hr]; exact Bool.false_ne_true)]
  cases e with
  | attempt presence =>
    dsimp only
    split
    · exact h
    · exact h
  | join arrivals tick =>
    dsimp only
    split
    · exact h.seats hf (matchJoin_phase r.live arrivals tick)
        (matchJoin_battle r.live arrivals tick).2 (matchJoin_logView r.live arrivals tick)
        (matchJoin_changes r.live arrivals tick)
    · exact h
  | leave presences now =>
    have hbattle := matchLeave_battle r.live presences now
    exact h.seats hf (Or.inl hbattle.1) hbattle.2 (matchLeave_logView r.live presences now)
      (matchLeave_changes now presences r.live)
  | loop tick now messages answers => exact h.loop hr hplaying hok hf fun hp => hq hr hp
  | terminate =>
    dsimp only
    unfold matchTerminate
    split
    · exact .cancelled rfl
    · exact h

/-- **A run of quiet calls ends as its record says.**  As long as no dispatch is accepted, no
team is left without a player and every call of the battle comes in time, a match that has
finished is reproduced by the record it was settled with. -/
theorem quiet_match_replayed {enable2v2 equalPower : Bool} {params : Live2v2Params}
    {lookup : String → SeatLookup} {randomHex : Option String} {startedAt : ℤ}
    {s : Live2v2MatchState}
    (h : live2v2MatchInit enable2v2 equalPower params lookup randomHex startedAt = some s)
    {events : List Live2v2Event} (hquiet : EachStep Live2v2Run.step Quiet (.start s) events) :
    Always Live2v2Run.step
      (fun r => r.live.phase = .finished → Reproduced r.live.settleRequest.replayPayload)
      (.start s) events := by
  have hall : ∀ (events : List Live2v2Event) (r : Live2v2Run), IdleMatch r.live → Playing r.live →
      PlayOk r.live → EachStep Live2v2Run.step Quiet r events →
        Always Live2v2Run.step
          (fun r => r.live.phase = .finished → Reproduced r.live.settleRequest.replayPayload)
          r events := by
    intro events
    have hhere : ∀ r : Live2v2Run, IdleMatch r.live → r.live.phase = .finished →
        Reproduced r.live.settleRequest.replayPayload := by
      intro r hidle hf
      cases hidle with
      | before hp hlog hacc =>
        rw [hf] at hp
        rcases hp with hp | hp
        · cases hp
        · cases hp
      | battle hp hlog k hidle hclock hs =>
        rw [hf] at hp
        cases hp
      | finished hp hrep => exact hrep
      | cancelled hp =>
        rw [hf] at hp
        cases hp
    induction events with
    | nil =>
      intro r hidle _ _ _
      exact always_nil.mpr (hhere r hidle)
    | cons e events ih =>
      intro r hidle hplaying hok hq
      obtain ⟨hfirst, hrest⟩ := eachStep_cons.mp hq
      exact always_cons.mpr ⟨hhere r hidle, ih _ (hidle.step hplaying hok hfirst)
        (hplaying.step e) (step_preserves (fun _ _ hm hs => PlayOk.move hm hs) e hok) hrest⟩
  have hnew := live2v2MatchInit_new h
  refine hall events (.start s) (.before (Or.inl hnew.phase) hnew.actionLog hnew.accumulators)
    ⟨fun _ => ⟨hnew.settled, fun m hm => ?_⟩, fun hp => ?_⟩ hnew.playOk hquiet
  · change m ∈ s.sent at hm
    rw [hnew.sent] at hm
    exact absurd hm List.not_mem_nil
  · change s.phase = .playing at hp
    rw [hnew.phase] at hp
    cases hp

end Runs


/-- The four begin, and a tick goes by. -/
def quietStart : List Live2v2Event := fourReady ++ [.loop 2 0 [] settlingAnswers]

theorem quietStart_quiet :
    EachStep (@Live2v2Run.step decimalHypot) (@Quiet decimalHypot) (.start fourMatch) quietStart := by
  refine eachStep_cons.mpr ⟨trivial, eachStep_cons.mpr ⟨trivial, eachStep_cons.mpr ⟨trivial,
    eachStep_cons.mpr ⟨trivial, eachStep_cons.mpr ⟨trivial, eachStep_cons.mpr ⟨fun _ hp => ?_,
      eachStep_cons.mpr ⟨fun _ _ => ?_, eachStep_nil⟩⟩⟩⟩⟩⟩⟩
  · exact absurd hp (by decide +kernel)
  · refine @QuietCall.mk decimalHypot _ _ _ _ _ (fun team => ?_)
      (fun k s m serverSeq hread => ?_) (Or.inl (by decide +kernel))
    · cases team with
      | a => decide +kernel
      | b => decide +kernel
    · cases hread with
      | intro hr hfrom hm => cases hm

theorem quiet_match_replayed_four :
    Always (@Live2v2Run.step decimalHypot) (fun r => r.live.phase = .finished →
      @Reproduced decimalHypot r.live.settleRequest.replayPayload) (.start fourMatch) quietStart :=
  @quiet_match_replayed decimalHypot _ _ _ _ _ _ _ fourMatch_init quietStart quietStart_quiet

/-! ### A match that its record does not reproduce -/

/-- The four begin, and the two of team A give up. -/
def giveUp : List Live2v2Event :=
  fourReady ++ [.loop 2 0 [surrenderOf "anna", surrenderOf "dora"] settlingAnswers]

def givenUp : Live2v2Run := giveUp.foldl (@Live2v2Run.step decimalHypot) (.start fourMatch)

theorem givenUp_ends : givenUp.live.phase = .finished ∧ givenUp.live.state.status = .defeat ∧
    givenUp.live.actionLog = [] ∧ givenUp.live.battlefieldId = live2v2BattlefieldId ∧
    givenUp.live.state.timeLimitSeconds = pvpTimeLimitSeconds ∧
    givenUp.live.state.gameplayRulesVersion = currentGameplayRulesVersion := by
  decide +kernel

/-- Team B has won the match, and its replay is a draw. -/
theorem finished_not_replayed :
    live2v2MatchInit true false fourUsers freshLookup none 0 = some fourMatch ∧
      givenUp.live.phase = .finished ∧
      ¬ @Reproduced decimalHypot givenUp.live.settleRequest.replayPayload := by
  obtain ⟨hphase, hstatus, hlog, hmap, hlimit, hversion⟩ := givenUp_ends
  refine ⟨fourMatch_init, hphase, ?_⟩
  rintro ⟨result, hresult, hwinner, -⟩
  obtain ⟨result', hresult', hdraw, -⟩ :=
    @simulate2v2Battle_idle decimalHypot _ (replayPayload_start hmap hlimit hversion) hlog
  have hsame : result = result' := Except.ok.inj (hresult.symm.trans hresult')
  have hlost : givenUp.live.settleRequest.replayPayload.winnerTeamId = some .b := by
    show winnerTeamId givenUp.live.state.status = some .b
    rw [hstatus]
    rfl
  rw [hsame, hdraw, hlost] at hwinner
  cases hwinner

end CrownClash.Go
