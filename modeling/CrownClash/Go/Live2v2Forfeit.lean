import CrownClash.Go.Live2v2Start

/-!
# Server: when a team forfeits a 2v2 match

A team has lost its match when each of its two slots has surrendered or stayed
away longer than the reconnect window.  The window is kept as a time in the slot:
a leave writes it, a join wipes it out, and the scan at the head of every call
compares it with the clock.  `GraceExpired` says what that time stands for, an
absence of the slot's user without a break, and `Heard` that the marks of a slot
are always earned.  `playing_ends` then says how a battle can end, and
`forfeit_rule` puts both together for every run.
-/

namespace CrownClash.Go

open Lib Live2v2MatchState

variable [MathLib]

/-! ### What the marks stand for -/

/-- The session in a slot left at `since`, and nobody has been in the slot after that. -/
def AbsentSince (start : Live2v2Run) (slot : Slot) (since : ℤ) (events : List Live2v2Event) :
    Prop :=
  ∃ before presences after, before ++ .leave presences since :: after = events ∧
    ((before.foldl Live2v2Run.step start).live.slots slot).presence.isSome = true ∧
    Always Live2v2Run.step (fun r => (r.live.slots slot).presence = none)
      ((before ++ [.leave presences since]).foldl Live2v2Run.step start) after

/-- Some call of the loop found the slot empty for longer than the reconnect window. -/
def GraceExpired (start : Live2v2Run) (slot : Slot) (events : List Live2v2Event) : Prop :=
  ∃ before tick now messages answers after since,
    before ++ .loop tick now messages answers :: after = events ∧
    AbsentSince start slot since before ∧ live2v2ReconnectGraceSeconds * second < now - since

/-- Some call of the loop read a surrender of the slot's user. -/
def HasSurrendered (start : Live2v2Run) (slot : Slot) (events : List Live2v2Event) : Prop :=
  ∃ before tick now messages answers after,
    before ++ .loop tick now messages answers :: after = events ∧
    ∃ message ∈ messages, message.sender.userId = (start.live.slots slot).userId ∧
      ∃ payload, readPayload message = some payload ∧ payload.type = "surrender"

theorem GraceExpired.later {start : Live2v2Run} {slot : Slot} {events : List Live2v2Event}
    (h : GraceExpired start slot events) (e : Live2v2Event) :
    GraceExpired start slot (events ++ [e]) := by
  obtain ⟨before, tick, now, messages, answers, after, since, rfl, habsent, hgrace⟩ := h
  exact ⟨before, tick, now, messages, answers, after ++ [e], since, (List.append_assoc before (_ :: after) [e]).symm,
    habsent, hgrace⟩

omit [MathLib] in
theorem HasSurrendered.later {start : Live2v2Run} {slot : Slot} {events : List Live2v2Event}
    (h : HasSurrendered start slot events) (e : Live2v2Event) :
    HasSurrendered start slot (events ++ [e]) := by
  obtain ⟨before, tick, now, messages, answers, after, rfl, hmessage⟩ := h
  exact ⟨before, tick, now, messages, answers, after ++ [e], (List.append_assoc before (_ :: after) [e]).symm, hmessage⟩

/-- An absence goes on while nobody takes the slot. -/
theorem AbsentSince.later {start : Live2v2Run} {slot : Slot} {since : ℤ}
    {events : List Live2v2Event} (h : AbsentSince start slot since events) (e : Live2v2Event)
    (he : (((events.foldl Live2v2Run.step start).step e).live.slots slot).presence = none) :
    AbsentSince start slot since (events ++ [e]) := by
  obtain ⟨before, presences, after, rfl, hsome, haway⟩ := h
  refine ⟨before, presences, after ++ [e], (List.append_assoc before (_ :: after) [e]).symm, hsome, haway.snoc ?_⟩
  rw [← List.foldl_append, List.append_assoc]
  exact he

/-- **The marks of a match are earned.** -/
structure Heard (start : Live2v2Run) (events : List Live2v2Event) (r : Live2v2Run) : Prop where
  lobby : LobbyOk r.live.lobby
  userId : ∀ slot, (r.live.slots slot).userId = (start.live.slots slot).userId
  absent : ∀ slot since, (r.live.slots slot).disconnectedAt = some since →
    AbsentSince start slot since events
  abandoned : ∀ slot, (r.live.slots slot).abandoned = true → GraceExpired start slot events
  surrendered : ∀ slot, (r.live.slots slot).surrendered = true → HasSurrendered start slot events

/-- What a call has done to a seat so far: only a join fills it, only a leave
starts an absence, and a mark is old or earned in this call. -/
structure SeatSoFar (e : Live2v2Event) (a b : SlotSeat) : Prop where
  presence : b.presence.isSome = true → a.presence.isSome = true ∨ ∃ arrivals tick,
    e = .join arrivals tick
  absent : ∀ since, b.disconnectedAt = some since → a.disconnectedAt = some since ∨
    (a.presence.isSome = true ∧ ∃ presences, e = .leave presences since)
  abandoned : b.abandoned = true → a.abandoned = true ∨
    ∃ tick now messages answers since, e = .loop tick now messages answers ∧
      a.disconnectedAt = some since ∧ live2v2ReconnectGraceSeconds * second < now - since
  surrendered : b.surrendered = true → a.surrendered = true ∨
    ∃ message, Orders e message "surrender" ∧ message.sender.userId = a.userId

/-- What a call has done to the lobby so far. -/
structure SoFar (e : Live2v2Event) (l0 l : Lobby) : Prop where
  lobby : LobbyOk l
  userId : ∀ slot, (l.seats slot).userId = (l0.seats slot).userId
  seats : ∀ slot, SeatSoFar e (l0.seats slot) (l.seats slot)

omit [MathLib] in
theorem SeatSoFar.refl (e : Live2v2Event) (a : SlotSeat) : SeatSoFar e a a :=
  ⟨Or.inl, fun _ => Or.inl, Or.inl, Or.inl⟩

omit [MathLib] in
/-- One seat has changed. -/
theorem SoFar.setSeat {e : Live2v2Event} {l0 l l' : Lobby} (h : SoFar e l0 l) (hl : LobbyOk l')
    {slot : Slot} {seat : SlotSeat} (hs : l'.seats = Function.update l.seats slot seat)
    (hu : seat.userId = (l.seats slot).userId) (hseat : SeatSoFar e (l0.seats slot) seat) :
    SoFar e l0 l' := by
  refine ⟨hl, fun k => ?_, fun k => ?_⟩
  all_goals rw [hs]
  all_goals by_cases hk : k = slot
  · rw [hk, Function.update_self, hu]
    exact h.userId slot
  · rw [Function.update_of_ne hk]
    exact h.userId k
  · rw [hk, Function.update_self]
    exact hseat
  · rw [Function.update_of_ne hk]
    exact h.seats k

omit [MathLib] in
/-- Where the seats stay. -/
theorem SoFar.phase {e : Live2v2Event} {l0 l : Lobby} (h : SoFar e l0 l) {phase : Live2v2Phase}
    (hl : LobbyOk { l with phase := phase }) : SoFar e l0 { l with phase := phase } :=
  ⟨hl, h.userId, h.seats⟩

omit [MathLib] in
theorem SoFar.move {e : Live2v2Event} {l0 l l' : Lobby} (hm : LobbyMove e l l')
    (h : SoFar e l0 l) : SoFar e l0 l' := by
  have hl' := h.lobby.move hm
  cases hm with
  | adopt slot presence hjoin huser =>
    obtain ⟨arrivals, tick, he, -⟩ := hjoin
    have hseat := h.seats slot
    exact h.setSeat hl' rfl rfl
      { hseat with
        presence := fun _ => Or.inr ⟨arrivals, tick, he⟩
        absent := fun since hs => nomatch hs }
  | vacate slot presence now hleave hholds =>
    obtain ⟨presences, he, -⟩ := hleave
    obtain ⟨-, active, hactive, -⟩ := hholds
    have hseat := h.seats slot
    refine h.setSeat hl' rfl rfl
      { hseat with
        presence := fun hs => nomatch hs
        absent := fun since hs => ?_ }
    cases hs
    refine Or.inr ⟨?_, presences, he⟩
    rcases hseat.presence (Option.isSome_iff_exists.mpr ⟨active, hactive⟩) with
      hp | ⟨arrivals, tick, hj⟩
    · exact hp
    · rw [he] at hj
      cases hj
  | expire tick now messages answers hloop hphase hexpire =>
    refine ⟨hl', fun slot => ?_, fun slot => ?_⟩
    all_goals rcases hexpire.seats slot with hs | ⟨-, ⟨-, since, hsince, hgrace⟩, hs⟩
    all_goals rw [hs]
    · exact h.userId slot
    · exact h.userId slot
    · exact h.seats slot
    · have hseat := h.seats slot
      refine { hseat with abandoned := fun _ => Or.inr ?_ }
      rcases hseat.absent since hsince with hold | ⟨-, presences, hleave⟩
      · exact ⟨tick, now, messages, answers, since, hloop, hold, hgrace⟩
      · rw [hloop] at hleave
        cases hleave
  | surrender slot message horder hholds hphase hconnected =>
    have hseat := h.seats slot
    refine h.setSeat hl' rfl rfl
      { hseat with
        presence := fun hs => nomatch hs
        surrendered := fun _ => Or.inr ⟨message, horder, ?_⟩ }
    rw [← h.userId slot]
    exact (h.lobby.bound _ slot hholds.1).symm
  | ready slot message horder hholds hphase =>
    have hseat := h.seats slot
    exact h.setSeat hl' rfl rfl { hseat with }
  | countdown hphase hjoined => exact h.phase hl'
  | start tick now messages answers hloop hphase hready => exact h.phase hl'
  | cancel hphase => exact h.phase hl'
  | finish tick now messages answers hloop hphase => exact h.phase hl'

/-- **A call earns the marks it sets.** -/
theorem Heard.step {start : Live2v2Run} {events : List Live2v2Event}
    (h : Heard start events (events.foldl Live2v2Run.step start)) (e : Live2v2Event) :
    Heard start (events ++ [e]) ((events.foldl Live2v2Run.step start).step e) := by
  have hfold : ((events ++ [e]).foldl Live2v2Run.step start)
      = (events.foldl Live2v2Run.step start).step e := by
    rw [List.foldl_append]
    rfl
  have hsofar := lobbyMoves_preserve (P := SoFar e (events.foldl Live2v2Run.step start).live.lobby)
    (fun _ _ => SoFar.move) (step_lobby _ e) ⟨h.lobby, fun _ => rfl, fun slot => .refl e _⟩
  generalize hr : events.foldl Live2v2Run.step start = r at *
  refine
    { lobby := hsofar.lobby
      userId := fun slot => (hsofar.userId slot).trans (h.userId slot)
      absent := fun slot since hs => ?_
      abandoned := fun slot ha => ?_
      surrendered := fun slot hs => ?_ }
  · have hnone : (((r.step e).live.slots slot).presence) = none :=
      hsofar.lobby.missing slot since hs
    rcases (hsofar.seats slot).absent since hs with hold | ⟨hsome, presences, rfl⟩
    · refine (h.absent slot since hold).later e ?_
      rw [hr]
      exact hnone
    · refine ⟨events, presences, [], rfl, ?_, always_nil.mpr ?_⟩
      · rw [hr]
        exact hsome
      · rw [hfold]
        exact hnone
  · rcases (hsofar.seats slot).abandoned ha with
      hold | ⟨tick, now, messages, answers, since, rfl, hsince, hgrace⟩
    · exact (h.abandoned slot hold).later e
    · exact ⟨events, tick, now, messages, answers, [], since, rfl, h.absent slot since hsince,
        hgrace⟩
  · rcases (hsofar.seats slot).surrendered hs with
      hold | ⟨message, ⟨tick, now, messages, answers, rfl, hmem, hpayload⟩, huser⟩
    · exact (h.surrendered slot hold).later e
    · exact ⟨events, tick, now, messages, answers, [], rfl, message, hmem,
        huser.trans (h.userId slot), hpayload⟩

/-! ### How a battle ends -/

omit [MathLib] in
/-- A match that is finished was not settled before. -/
theorem finishMatch_finished {s : Live2v2MatchState} (h : s.settled = false) (answers : Answers) :
    (s.finishMatch answers).phase = .finished ∧ (s.finishMatch answers).state = s.state ∧
      (s.finishMatch answers).slots = s.slots := by
  unfold finishMatch
  rw [if_neg (by rw [h]; exact Bool.false_ne_true)]
  dsimp only
  split
  · exact ⟨rfl, rfl, rfl⟩
  · exact ⟨rfl, rfl, rfl⟩

omit [MathLib] in
/-- The match is lost by a team that has nobody left. -/
def ForfeitEnd (s : Live2v2MatchState) : Prop :=
  (s.teamDead .a = true ∧ s.state.status = .defeat) ∨
    (s.teamDead .b = true ∧ s.state.status = .victory)

omit [MathLib] in
/-- The battle goes on, or a team has forfeited it. -/
def OnOrForfeited (s : Live2v2MatchState) : Prop :=
  (s.phase = .playing ∧ s.state.status = .playing) ∨ (s.phase = .finished ∧ ForfeitEnd s)

omit [MathLib] in
theorem teamDead_iff {s : Live2v2MatchState} {team : TeamId} :
    s.teamDead team = true ↔ ∀ slot : Slot, teamIdForSlot slot.val = team →
      (s.slots slot).abandoned = true ∨ (s.slots slot).surrendered = true := by
  unfold teamDead
  rw [List.all_eq_true]
  constructor
  · intro h slot ht
    have hslot := h slot (Slot.mem_all slot)
    rw [Bool.or_eq_true, Bool.or_eq_true, decide_eq_true ht] at hslot
    rcases hslot with (hslot | hslot) | hslot
    · cases hslot
    · exact Or.inl hslot
    · exact Or.inr hslot
  · intro h slot _
    by_cases ht : teamIdForSlot slot.val = team
    · rw [Bool.or_eq_true, Bool.or_eq_true]
      rcases h slot ht with hs | hs
      · exact Or.inl (Or.inr hs)
      · exact Or.inr hs
    · rw [decide_eq_false ht]
      rfl

omit [MathLib] in
theorem checkTeamForfeit_ends {s : Live2v2MatchState} (hp : s.phase = .playing)
    (hs : s.state.status = .playing) (hset : s.settled = false) (answers : Answers) :
    OnOrForfeited (s.checkTeamForfeit answers) := by
  have hend : ∀ status, (s.endAs status answers).phase = .finished ∧
      (s.endAs status answers).state = { s.state with status := status } ∧
      (s.endAs status answers).slots = s.slots :=
    fun status => finishMatch_finished (s := { s with state := { s.state with status := status } })
      hset answers
  have hdead : ∀ status team, s.teamDead team = true →
      (s.endAs status answers).teamDead team = true := by
    intro status team h
    unfold teamDead
    rw [(hend status).2.2]
    exact h
  unfold checkTeamForfeit
  split
  · next h =>
    rw [Bool.and_eq_true] at h
    exact Or.inr ⟨(hend .defeat).1, Or.inl ⟨hdead _ _ h.1, by rw [(hend .defeat).2.1]⟩⟩
  split
  · next h =>
    rw [Bool.and_eq_true] at h
    exact Or.inr ⟨(hend .victory).1, Or.inr ⟨hdead _ _ h.1, by rw [(hend .victory).2.1]⟩⟩
  · exact Or.inl ⟨hp, hs⟩

/-- The battle of a finished match stands still. -/
theorem finished_changes {s s' : Live2v2MatchState} (hc : Changes s s')
    (h : s.phase = .finished) : s'.phase = .finished ∧ s'.state = s.state := by
  refine changes_preserve (P := fun t => t.phase = .finished ∧ t.state = s.state)
    (fun t t' hc ht => ?_) hc ⟨h, rfl⟩
  obtain ⟨hp, hs⟩ := ht
  cases hc with
  | keep hk => exact ⟨hk.phase.trans hp, hk.state.trans hs⟩
  | send messages hm => exact ⟨hp, hs⟩
  | countdown hw => rw [hw] at hp; cases hp
  | cancel hn => exact absurd hp hn
  | start hcount hi => rw [hcount] at hp; cases hp
  | accept message slot payload serverSeq hplay hseq hlog ho => rw [hplay] at hp; cases hp
  | decide status hplay hstatus hd => rw [hplay] at hp; cases hp
  | finish hplay hstatus => rw [hplay] at hp; cases hp
  | settle hf => exact ⟨hp, hs⟩

/-- A forfeited match stays forfeited. -/
theorem forfeited_changes {e : Live2v2Event} {s s' : Live2v2MatchState} (hc : Changes s s')
    (hm : LobbyMoves e s.lobby s'.lobby) (hp : s.phase = .finished) (h : ForfeitEnd s) :
    s'.phase = .finished ∧ ForfeitEnd s' := by
  obtain ⟨hp', hs'⟩ := finished_changes hc hp
  have hmarks := marksStay_moves hm
  have hdead : ∀ team, s.teamDead team = true → s'.teamDead team = true := by
    intro team hd
    rw [teamDead_iff] at hd ⊢
    intro slot ht
    exact (hd slot ht).imp (hmarks.abandoned slot) (hmarks.surrendered slot)
  refine ⟨hp', ?_⟩
  unfold ForfeitEnd
  rw [hs']
  exact h.imp (And.imp_left (hdead .a)) (And.imp_left (hdead .b))

/-- A message ends the battle by a forfeit or not at all. -/
theorem handleMessage_ends {s : Live2v2MatchState}
    (hset : s.phase ≠ .finished → s.settled = false) (h : OnOrForfeited s)
    (message : Live2v2Message) (serverSeq : ℤ) (answers : Answers) :
    OnOrForfeited (s.handleMessage message serverSeq answers) := by
  rcases h with ⟨hp, hs⟩ | ⟨hp, hf⟩
  · have hopen : s.settled = false := hset (by rw [hp]; decide)
    have hsame : OnOrForfeited s := Or.inl ⟨hp, hs⟩
    unfold handleMessage
    split
    · exact hsame
    next slot _ =>
    split
    · exact hsame
    next payload _ =>
    split
    · rcases handleDispatch_cases s message payload slot serverSeq with
        ⟨code, hcode⟩ | ⟨state, ha, haccept⟩
      · rw [hcode]
        exact hsame
      · rw [haccept]
        obtain ⟨source, army, -, -, -, -, -, -, -, -, -, -, hstate⟩ :=
          dispatchArmyWithRatio_ok_cases (simulationOwnerForSlot_ne_neutral slot.val) ha.order
        refine Or.inl ⟨hp, ?_⟩
        change state.status = .playing
        rw [hstate]
        exact hs
    split
    · unfold handleReady
      rw [if_pos ⟨by rw [hp]; decide, by rw [hp]; decide⟩]
      exact hsame
    split
    · unfold handleSurrender
      rw [hp]
      dsimp only
      split
      · exact hsame
      · exact checkTeamForfeit_ends (s := s.setSlot slot
          { s.slots slot with
            surrendered := true
            connected := false
            presence := none }) hp hs hopen answers
    split
    · unfold handleRematchVote
      rw [if_pos (Or.inl (by rw [hp]; decide))]
      exact hsame
    · exact hsame
  · have hm : LobbyMoves (.loop 0 0 [message] answers) s.lobby
        (s.handleMessage message serverSeq answers).lobby :=
      handleMessage_lobby _ List.mem_cons_self
    exact Or.inr (forfeited_changes (handleMessage_changes s message serverSeq answers) hm hp hf)

/-- The messages of a call end the battle by a forfeit or not at all. -/
theorem handleMessages_ends {s : Live2v2MatchState}
    (hset : s.phase ≠ .finished → Unsettled s) (h : OnOrForfeited s)
    (messages : List Live2v2Message) (answers : Answers) :
    OnOrForfeited (s.handleMessages messages answers) := by
  have hall := foldl_preserves (l := messages.zipIdx)
    (f := fun t m => t.handleMessage m.1 (s.serverSeq + m.2 + 1) answers)
    (P := fun t : Live2v2MatchState => (t.phase ≠ .finished → Unsettled t) ∧ OnOrForfeited t)
    (fun t m _ ht => ⟨changes_preserve (fun _ _ hc => unsettled_change hc)
        (handleMessage_changes t m.1 _ answers) ht.1,
      handleMessage_ends (fun hp => (ht.1 hp).settled) ht.2 m.1 _ answers⟩) ⟨hset, h⟩
  exact hall.2

/-- The battle still plays once a call has read its messages, and the step of the
call decides it. -/
def EndsBySimulation (s : Live2v2MatchState) (tick : ℕ) (now : ℤ) (messages : List Live2v2Message)
    (answers : Answers) : Prop :=
  ∃ t, messagesFrom s tick now answers = some t ∧
    (t.handleMessages messages answers).phase = .playing ∧
    (t.handleMessages messages answers).state.status = .playing ∧
    (t.handleMessages messages answers).simulate.state.status ≠ .playing

/-- The battle still plays once a call has read its messages, and the call comes
after the deadline of the match. -/
def EndsByDeadline (s : Live2v2MatchState) (tick : ℕ) (now : ℤ) (messages : List Live2v2Message)
    (answers : Answers) : Prop :=
  ∃ t, messagesFrom s tick now answers = some t ∧
    (t.handleMessages messages answers).phase = .playing ∧
    (t.handleMessages messages answers).state.status = .playing ∧
    (t.handleMessages messages answers).deadlineAt < now

/-- **How a call of the loop leaves a running match**: the battle goes on, or it
is over by its own result, by the deadline or by a forfeit. -/
theorem playing_ends {s : Live2v2MatchState} (hset : s.phase ≠ .finished → Unsettled s)
    (hp : s.phase = .playing) (hs : s.state.status = .playing) (tick : ℕ) (now : ℤ)
    (messages : List Live2v2Message) (answers : Answers) :
    (s.matchLoop tick now messages answers).1.phase = .playing ∨
      ((s.matchLoop tick now messages answers).1.phase = .finished ∧
        (EndsBySimulation s tick now messages answers ∨
          EndsByDeadline s tick now messages answers ∨
          ForfeitEnd (s.matchLoop tick now messages answers).1)) := by
  have hopen : s.settled = false := (hset (by rw [hp]; decide)).settled
  have hgrace : OnOrForfeited ({ s with tick := tick }.enforceReconnectGrace now answers) :=
    checkTeamForfeit_ends (s := { s with
      tick := tick
      slots := fun slot => expireSlot now (s.slots slot) }) hp hs hopen answers
  have hgset : ({ s with tick := tick }.enforceReconnectGrace now answers).phase ≠ .finished →
      Unsettled ({ s with tick := tick }.enforceReconnectGrace now answers) :=
    changes_preserve (fun _ _ hc => unsettled_change hc)
      ((changes_tick s tick).trans
        (enforceReconnectGrace_changes { s with tick := tick } now answers hp)) hset
  have hfrom : messagesFrom s tick now answers
      = if ({ s with tick := tick }.enforceReconnectGrace now answers).phase = .playing then
          some ({ s with tick := tick }.enforceReconnectGrace now answers)
        else none := by
    unfold messagesFrom
    dsimp only
    rw [hp]
    rfl
  have hloop : s.matchLoop tick now messages answers
      = if ({ s with tick := tick }.enforceReconnectGrace now answers).phase ≠ .playing then
          ({ s with tick := tick }.enforceReconnectGrace now answers, true)
        else (({ s with tick := tick }.enforceReconnectGrace now answers).handleMessages messages
          answers).afterMessages tick now answers := by
    unfold Live2v2MatchState.matchLoop
    dsimp only
    rw [hp]
    rfl
  unfold EndsBySimulation EndsByDeadline
  rw [hloop, hfrom]
  generalize { s with tick := tick }.enforceReconnectGrace now answers = graced at *
  rcases hgrace with ⟨hgp, hgs⟩ | ⟨hgp, hgf⟩
  · rw [if_neg (not_not.mpr hgp), if_pos hgp]
    have hread := handleMessages_ends hgset (Or.inl ⟨hgp, hgs⟩) messages answers
    have hrset : (graced.handleMessages messages answers).phase ≠ .finished →
        Unsettled (graced.handleMessages messages answers) :=
      changes_preserve (fun _ _ hc => unsettled_change hc)
        (handleMessages_changes graced messages answers) hgset
    have hone : ∀ {Q : Live2v2MatchState → Prop}, Q graced → ∃ t, some graced = some t ∧ Q t :=
      fun hq => ⟨graced, rfl, hq⟩
    generalize hu : graced.handleMessages messages answers = u at *
    unfold afterMessages
    rcases hread with ⟨hup, hus⟩ | ⟨hup, huf⟩
    · rw [if_neg (by rw [hup]; decide), advancePhase_begun ⟨by rw [hup]; decide, by rw [hup]; decide⟩]
      dsimp only
      rw [if_pos hup]
      unfold playTick
      rw [if_pos hus]
      dsimp only
      have hsimset : u.simulate.broadcastStates.settled = false :=
        (hrset (by rw [hup]; decide)).settled
      split
      · next hdone =>
        refine Or.inr ⟨(finishMatch_finished hsimset answers).1, Or.inl ⟨graced, rfl, ?_⟩⟩
        rw [hu]
        exact ⟨hup, hus, hdone⟩
      split
      · next hlate =>
        refine Or.inr ⟨?_, Or.inr (Or.inl ⟨graced, rfl, ?_⟩)⟩
        · exact (finishMatch_finished (s := { u.simulate.broadcastStates with
            state := { u.simulate.broadcastStates.state with status := .draw } }) hsimset answers).1
        · rw [hu]
          exact ⟨hup, hus, hlate⟩
      · exact Or.inl hup
    · rw [if_pos hup]
      refine Or.inr ⟨?_, Or.inr (Or.inr ?_)⟩
      · split
        · dsimp only
          split
          · exact hup
          · exact hup
        · exact hup
      · split
        · dsimp only
          split
          · exact huf
          · exact huf
        · exact huf
  · rw [if_pos (by rw [hgp]; decide)]
    exact Or.inr ⟨hgp, Or.inr (Or.inr hgf)⟩

/-! ### The request -/

omit [MathLib] in
/-- What the request of a match is made of. -/
structure SameRequest (s s' : Live2v2MatchState) : Prop where
  slots : ∀ slot, SameSlot (s.slots slot) (s'.slots slot)
  abandoned : ∀ slot, (s'.slots slot).abandoned = (s.slots slot).abandoned
  surrendered : ∀ slot, (s'.slots slot).surrendered = (s.slots slot).surrendered
  matchId : s'.matchId = s.matchId
  battlefieldId : s'.battlefieldId = s.battlefieldId
  state : s'.state = s.state
  actionLog : s'.actionLog = s.actionLog

omit [MathLib] in
theorem SameRequest.eq {s s' : Live2v2MatchState} (h : SameRequest s s') :
    s'.settleRequest = s.settleRequest := by
  have houtcome : s'.participantOutcome = s.participantOutcome := by
    funext slot
    unfold participantOutcome
    rw [(h.slots slot).userId, (h.slots slot).teamId, h.abandoned, h.surrendered, h.state]
  have hplayers : ∀ slot, upgradeModifiers (s'.slots slot).career
      = upgradeModifiers (s.slots slot).career := fun slot => by rw [(h.slots slot).career]
  have hreplay : s'.replayPayload = s.replayPayload := by
    unfold replayPayload
    rw [h.state, h.battlefieldId, h.actionLog]
    congr 1
    refine List.map_congr_left fun slot _ => ?_
    rw [(h.slots slot).userId, (h.slots slot).teamId, hplayers]
  unfold settleRequest
  rw [h.matchId, h.battlefieldId, houtcome, hreplay]

omit [MathLib] in
/-- The marks of a finished match stay as they are. -/
theorem lobbyMove_marks {e : Live2v2Event} {l l' : Lobby} (hm : LobbyMove e l l')
    (h : l.phase = .finished) (slot : Slot) :
    (l'.seats slot).abandoned = (l.seats slot).abandoned ∧
      (l'.seats slot).surrendered = (l.seats slot).surrendered := by
  have hset : ∀ {k : Slot} {seat : SlotSeat}, seat.abandoned = (l.seats k).abandoned →
      seat.surrendered = (l.seats k).surrendered →
        (Function.update l.seats k seat slot).abandoned = (l.seats slot).abandoned ∧
          (Function.update l.seats k seat slot).surrendered = (l.seats slot).surrendered := by
    intro k seat ha hs
    by_cases hk : slot = k
    · rw [hk, Function.update_self]
      exact ⟨ha, hs⟩
    · rw [Function.update_of_ne hk]
      exact ⟨rfl, rfl⟩
  cases hm with
  | adopt k presence hjoin huser => exact hset rfl rfl
  | vacate k presence now hleave hholds => exact hset rfl rfl
  | expire tick now messages answers hloop hphase hexpire => rw [hphase] at h; cases h
  | surrender k message horder hholds hphase hconnected => rw [hphase] at h; cases h
  | ready k message horder hholds hphase => exact hset rfl rfl
  | countdown hphase hjoined => exact ⟨rfl, rfl⟩
  | start tick now messages answers hloop hphase hready => exact ⟨rfl, rfl⟩
  | cancel hphase => exact ⟨rfl, rfl⟩
  | finish tick now messages answers hloop hphase => exact ⟨rfl, rfl⟩

/-- A finished match keeps its request and its counts, whatever a call does to it. -/
theorem finished_moves {e : Live2v2Event} {s s' : Live2v2MatchState} (hm : Moves s s')
    (hl : LobbyMoves e s.lobby s'.lobby) (h : s.phase = .finished) :
    s'.phase = .finished ∧ s'.settleRequest = s.settleRequest ∧ s'.stats = s.stats := by
  have hmarks := lobbyMoves_preserve (P := fun l => l.phase = .finished ∧
      ∀ slot, (l.seats slot).abandoned = (s.lobby.seats slot).abandoned ∧
        (l.seats slot).surrendered = (s.lobby.seats slot).surrendered)
    (fun l l' hm hl => ⟨lobbyMove_over hm (Or.inl rfl) hl.1, fun slot =>
      ⟨((lobbyMove_marks hm hl.1 slot).1).trans (hl.2 slot).1,
        ((lobbyMove_marks hm hl.1 slot).2).trans (hl.2 slot).2⟩⟩)
    hl ⟨h, fun _ => ⟨rfl, rfl⟩⟩
  have hrest := moves_preserve (P := fun t => t.phase = .finished ∧
      (∀ slot, SameSlot (s.slots slot) (t.slots slot)) ∧ t.matchId = s.matchId ∧
      t.battlefieldId = s.battlefieldId ∧ t.state = s.state ∧
      t.actionLog = s.actionLog ∧ t.stats = s.stats)
    (fun t t' hm ht => by
      obtain ⟨hp, hslots, hid, hmap, hstate, hlog, hstats⟩ := ht
      cases hm with
      | simulate hplay hstatus => rw [hplay] at hp; cases hp
      | change hc =>
        cases hc with
        | keep hk =>
          refine ⟨hk.phase.trans hp, fun slot => ?_, hk.matchId.trans hid,
            hk.battlefieldId.trans hmap, hk.state.trans hstate, hk.actionLog.trans hlog,
            hk.stats.trans hstats⟩
          have hold := hslots slot
          have hnew := hk.slots slot
          exact ⟨hnew.userId.trans hold.userId, hnew.teamId.trans hold.teamId,
            hnew.career.trans hold.career, hnew.nextSeq.trans hold.nextSeq⟩
        | send messages hm => exact ⟨hp, hslots, hid, hmap, hstate, hlog, hstats⟩
        | countdown hw => rw [hw] at hp; cases hp
        | cancel hn => exact absurd hp hn
        | start hcount hi => rw [hcount] at hp; cases hp
        | accept message slot payload serverSeq hplay hseq hroom ho => rw [hplay] at hp; cases hp
        | decide status hplay hstatus hd => rw [hplay] at hp; cases hp
        | finish hplay hstatus => rw [hplay] at hp; cases hp
        | settle hf => exact ⟨hp, hslots, hid, hmap, hstate, hlog, hstats⟩)
    hm ⟨h, fun slot => .refl _, rfl, rfl, rfl, rfl, rfl⟩
  refine ⟨hrest.1, SameRequest.eq ?_, hrest.2.2.2.2.2.2⟩
  exact
    { slots := hrest.2.1
      abandoned := fun slot => (hmarks.2 slot).1
      surrendered := fun slot => (hmarks.2 slot).2
      matchId := hrest.2.2.1
      battlefieldId := hrest.2.2.2.1
      state := hrest.2.2.2.2.1
      actionLog := hrest.2.2.2.2.2.1 }

/-- **The request of a finished match does not change any more.** -/
theorem finished_request {r : Live2v2Run} (h : r.live.phase = .finished) (e : Live2v2Event) :
    (r.step e).live.settleRequest = r.live.settleRequest :=
  (finished_moves (step_moves r e) (step_lobby r e) h).2.1

omit [MathLib] in
/-- Where a team has forfeited, a participant of the other team who has stayed has
won and everybody else has lost. -/
theorem ForfeitEnd.outcomes {s : Live2v2MatchState} (hok : LobbyOk s.lobby) (h : ForfeitEnd s) :
    ∃ loser, s.teamDead loser = true ∧ ∀ p ∈ s.settleRequest.participants, p.status =
      if p.teamId ≠ loser ∧ (s.slots p.slot).abandoned = false ∧
        (s.slots p.slot).surrendered = false then .victory else .defeat := by
  have hteam : ∀ slot, (s.slots slot).teamId = teamIdForSlot slot.val := hok.team
  have hall : ∀ loser status, s.teamDead loser = true → s.state.status = status →
      (∀ team, team ≠ loser → statusForRole status (roleForTeamId team) = .victory) →
        ∀ p ∈ s.settleRequest.participants, p.status =
          if p.teamId ≠ loser ∧ (s.slots p.slot).abandoned = false ∧
            (s.slots p.slot).surrendered = false then .victory else .defeat := by
    intro loser status hdead hstatus hwins p hp
    obtain ⟨slot, -, rfl⟩ := List.mem_map.mp hp
    unfold participantOutcome
    dsimp only
    cases ha : (s.slots slot).abandoned with
    | true => rw [Bool.true_or, if_pos rfl, if_neg fun h => nomatch h.2.1]
    | false =>
      cases hs : (s.slots slot).surrendered with
      | true => rw [Bool.false_or, if_pos rfl, if_neg fun h => nomatch h.2.2]
      | false =>
        have hother : (s.slots slot).teamId ≠ loser := by
          intro ht
          rw [hteam] at ht
          rcases teamDead_iff.mp hdead slot ht with hg | hg
          · rw [ha] at hg
            cases hg
          · rw [hs] at hg
            cases hg
        rw [Bool.false_or, if_neg Bool.false_ne_true, if_pos ⟨hother, rfl, rfl⟩, hstatus]
        exact hwins _ hother
  rcases h with ⟨hdead, hstatus⟩ | ⟨hdead, hstatus⟩
  · refine ⟨.a, hdead, hall .a .defeat hdead hstatus fun team ht => ?_⟩
    cases team with
    | a => exact absurd rfl ht
    | b => rfl
  · refine ⟨.b, hdead, hall .b .victory hdead hstatus fun team ht => ?_⟩
    cases team with
    | a => rfl
    | b => exact absurd rfl ht

/-! ### Every run -/

omit [MathLib] in
/-- A match that plays is not decided yet. -/
structure Playing (s : Live2v2MatchState) : Prop where
  unsettled : s.phase ≠ .finished → Unsettled s
  status : s.phase = .playing → s.state.status = .playing

omit [MathLib] in
theorem joinOne_battle (s : Live2v2MatchState) (presence : Presence) (displayName : Option String) :
    (s.joinOne presence displayName).phase = s.phase ∧
      (s.joinOne presence displayName).state = s.state := by
  unfold joinOne
  cases s.presenceByUser presence.userId with
  | some slot =>
    dsimp only
    split
    · unfold resyncRejoinedSlot
      split
      · exact ⟨rfl, rfl⟩
      · exact ⟨rfl, rfl⟩
    · exact ⟨rfl, rfl⟩
  | none =>
    dsimp only
    split
    · exact ⟨rfl, rfl⟩
    · exact ⟨rfl, rfl⟩

omit [MathLib] in
theorem matchJoin_battle (s : Live2v2MatchState) (arrivals : List (Presence × Option String))
    (tick : ℤ) : ((s.matchJoin arrivals tick).phase = .playing → s.phase = .playing) ∧
      (s.matchJoin arrivals tick).state = s.state := by
  have hall := foldl_preserves (l := arrivals) (f := fun t a => t.joinOne a.1 a.2)
    (P := fun t : Live2v2MatchState => t.phase = s.phase ∧ t.state = s.state)
    (fun t a _ ht => ⟨(joinOne_battle t a.1 a.2).1.trans ht.1,
      (joinOne_battle t a.1 a.2).2.trans ht.2⟩) ⟨rfl, rfl⟩
  unfold Live2v2MatchState.matchJoin
  dsimp only
  split
  · exact ⟨(fun h => nomatch h), hall.2⟩
  · exact ⟨fun h => hall.1 ▸ h, hall.2⟩

omit [MathLib] in
theorem matchLeave_battle (s : Live2v2MatchState) (presences : List Presence) (now : ℤ) :
    (s.matchLeave presences now).phase = s.phase ∧ (s.matchLeave presences now).state = s.state := by
  have hone : ∀ (t : Live2v2MatchState) (p : Presence),
      (leaveOne now t p).phase = t.phase ∧ (leaveOne now t p).state = t.state := by
    intro t p
    unfold leaveOne
    split
    · exact ⟨rfl, rfl⟩
    split
    · exact ⟨rfl, rfl⟩
    split
    · exact ⟨rfl, rfl⟩
    · exact ⟨rfl, rfl⟩
  unfold Live2v2MatchState.matchLeave
  split
  · exact ⟨rfl, rfl⟩
  · exact foldl_preserves (P := fun t : Live2v2MatchState => t.phase = s.phase ∧ t.state = s.state)
      (fun t p _ ht => ⟨(hone t p).1.trans ht.1, (hone t p).2.trans ht.2⟩) ⟨rfl, rfl⟩

/-- A match that still plays after its tick is not decided. -/
theorem playTick_status {s : Live2v2MatchState} (hset : s.settled = false) (now : ℤ)
    (answers : Answers) (h : (s.playTick now answers).phase = .playing) :
    (s.playTick now answers).state.status = .playing := by
  have hopen : s.stepped.broadcastStates.settled = false := by
    unfold stepped
    split
    · exact hset
    · exact hset
  change (if s.stepped.broadcastStates.state.status ≠ .playing then
      s.stepped.broadcastStates.finishMatch answers
    else if now > s.stepped.broadcastStates.deadlineAt then
      s.stepped.broadcastStates.endAs .draw answers
    else s.stepped.broadcastStates).phase = .playing at h
  change (if s.stepped.broadcastStates.state.status ≠ .playing then
      s.stepped.broadcastStates.finishMatch answers
    else if now > s.stepped.broadcastStates.deadlineAt then
      s.stepped.broadcastStates.endAs .draw answers
    else s.stepped.broadcastStates).state.status = .playing
  by_cases hdone : s.stepped.broadcastStates.state.status ≠ .playing
  · rw [if_pos hdone, (finishMatch_finished hopen answers).1] at h
    cases h
  rw [if_neg hdone] at h ⊢
  by_cases hlate : now > s.stepped.broadcastStates.deadlineAt
  · have hend := (finishMatch_finished (s := { s.stepped.broadcastStates with
      state := { s.stepped.broadcastStates.state with status := .draw } }) hopen answers).1
    rw [if_pos hlate] at h
    unfold endAs at h
    rw [hend] at h
    cases h
  · rw [if_neg hlate]
    exact not_not.mp hdone

theorem afterMessages_status {s : Live2v2MatchState} (hset : s.phase ≠ .finished → Unsettled s)
    (tick now : ℤ) (answers : Answers)
    (h : (s.afterMessages tick now answers).1.phase = .playing) :
    (s.afterMessages tick now answers).1.state.status = .playing := by
  unfold afterMessages at h ⊢
  by_cases hf : s.phase = .finished
  · rw [if_pos hf] at h
    split at h
    · dsimp only at h
      split at h
      · rw [hf] at h
        cases h
      · change s.phase = .playing at h
        rw [hf] at h
        cases h
    · rw [hf] at h
      cases h
  · rw [if_neg hf] at h ⊢
    have hadvanced : (s.advancePhase tick now).phase ≠ .finished →
        Unsettled (s.advancePhase tick now) :=
      changes_preserve (fun _ _ hc => unsettled_change hc) (advancePhase_changes s tick now) hset
    dsimp only at h ⊢
    by_cases hp : (s.advancePhase tick now).phase = .playing
    · rw [if_pos hp] at h ⊢
      exact playTick_status (hadvanced (by rw [hp]; decide)).settled now answers h
    · rw [if_neg hp] at h
      exact absurd h hp

theorem matchLoop_status {s : Live2v2MatchState} (hset : s.phase ≠ .finished → Unsettled s)
    (tick : ℕ) (now : ℤ) (messages : List Live2v2Message) (answers : Answers)
    (h : (s.matchLoop tick now messages answers).1.phase = .playing) :
    (s.matchLoop tick now messages answers).1.state.status = .playing := by
  have hread : ∀ t, Changes s t → ((t.handleMessages messages answers).afterMessages tick now
      answers).1.phase = .playing → ((t.handleMessages messages answers).afterMessages tick now
        answers).1.state.status = .playing := by
    intro t ht hp
    exact afterMessages_status (changes_preserve (fun _ _ hc => unsettled_change hc)
      (ht.trans (handleMessages_changes t messages answers)) hset) tick now answers hp
  unfold Live2v2MatchState.matchLoop at h ⊢
  dsimp only at h ⊢
  by_cases hc : s.phase = .cancelled
  · rw [if_pos hc, hc] at h
    cases h
  rw [if_neg hc] at h ⊢
  by_cases hf : (decide (s.phase = .finished) && !s.settled) = true
  · rw [if_pos hf] at h
    rw [Bool.and_eq_true] at hf
    have hfin : s.phase = .finished := of_decide_eq_true hf.1
    dsimp only at h
    split at h
    · have hl := congrArg Lobby.phase (finishMatch_lobby { s with tick := (tick : ℤ) } answers)
      change (Live2v2MatchState.finishMatch _ answers).phase = _ at hl
      rw [h] at hl
      split at hl
      · change _ = s.phase at hl
        rw [hfin] at hl
        cases hl
      · cases hl
    · change s.phase = .playing at h
      rw [hfin] at h
      cases h
  rw [if_neg hf] at h ⊢
  by_cases hp : s.phase = .playing
  · rw [if_pos hp] at h ⊢
    by_cases hg : ({ s with tick := (tick : ℤ) }.enforceReconnectGrace now answers).phase
        ≠ .playing
    · rw [if_pos hg] at h
      exact absurd h hg
    · rw [if_neg hg] at h ⊢
      exact hread _ ((changes_tick s tick).trans
        (enforceReconnectGrace_changes { s with tick := tick } now answers hp)) h
  · rw [if_neg hp] at h ⊢
    exact hread _ (changes_tick s tick) h

theorem Playing.step {r : Live2v2Run} (h : Playing r.live) (e : Live2v2Event) :
    Playing (r.step e).live := by
  refine ⟨step_preserves (fun _ _ hm hs => unsettled_move hm hs) e h.unsettled, ?_⟩
  unfold Live2v2Run.step
  split
  · exact h.status
  cases e with
  | attempt presence =>
    dsimp only
    split
    · exact h.status
    · exact h.status
  | join arrivals tick =>
    dsimp only
    split
    · intro hp
      obtain ⟨hphase, hstate⟩ := matchJoin_battle r.live arrivals tick
      rw [hstate]
      exact h.status (hphase hp)
    · exact h.status
  | leave presences now =>
    intro hp
    obtain ⟨hphase, hstate⟩ := matchLeave_battle r.live presences now
    rw [hstate]
    exact h.status (hphase ▸ hp)
  | loop tick now messages answers => exact matchLoop_status h.unsettled tick now messages answers
  | terminate =>
    dsimp only
    unfold matchTerminate
    split
    · exact fun hp => nomatch hp
    · exact h.status

/-- A call that is no call of the loop leaves a running match alone or shuts it down. -/
theorem playing_other {r : Live2v2Run} (h : r.live.phase = .playing) {e : Live2v2Event}
    (he : ∀ tick now messages answers, e ≠ .loop tick now messages answers) :
    (r.step e).live.phase = .playing ∨
      (e = .terminate ∧ (r.step e).live.phase = .cancelled) := by
  refine lobbyMoves_preserve (P := fun l => l.phase = .playing ∨
    (e = .terminate ∧ l.phase = .cancelled)) (fun l l' hm hl => ?_) (step_lobby r e) (Or.inl h)
  cases hm with
  | adopt slot presence hjoin huser => exact hl
  | vacate slot presence now hleave hholds => exact hl
  | expire tick now messages answers hloop hphase hexpire => exact absurd hloop (he _ _ _ _)
  | surrender slot message horder hholds hphase hconnected => exact hl
  | ready slot message horder hholds hphase => exact hl
  | countdown hphase hjoined => rw [hphase] at hl; rcases hl with hl | ⟨-, hl⟩ <;> cases hl
  | start tick now messages answers hloop hphase hready => exact absurd hloop (he _ _ _ _)
  | cancel hphase =>
    rcases hphase with hp | hp | ⟨-, rfl⟩
    · rw [hp] at hl; rcases hl with hl | ⟨-, hl⟩ <;> cases hl
    · rw [hp] at hl; rcases hl with hl | ⟨-, hl⟩ <;> cases hl
    · exact Or.inr ⟨rfl, rfl⟩
  | finish tick now messages answers hloop hphase => exact absurd hloop (he _ _ _ _)

/-- **A forfeit.**  Everybody of the losing team has surrendered or was away longer
than the reconnect window; whoever of the other team has neither surrendered nor
is abandoned is settled with a victory, everybody else with a defeat; and that
request does not change while the match is kept. -/
def Forfeited (start : Live2v2Run) (events : List Live2v2Event) (ended : Live2v2Run)
    (after : List Live2v2Event) : Prop :=
  ∃ loser,
    (∀ slot : Slot, teamIdForSlot slot.val = loser →
      HasSurrendered start slot events ∨ GraceExpired start slot events) ∧
    (∀ p ∈ ended.live.settleRequest.participants, p.status =
      if p.teamId ≠ loser ∧ (ended.live.slots p.slot).abandoned = false ∧
        (ended.live.slots p.slot).surrendered = false then .victory else .defeat) ∧
    Always Live2v2Run.step (fun r => r.live.settleRequest = ended.live.settleRequest) ended after

/-- How a call leaves a running match: it plays on, the server shuts it down, or it
is over by the result of the battle, by the deadline or by a forfeit. -/
def EndsRight (start : Live2v2Run) (before : List Live2v2Event) (e : Live2v2Event)
    (after : List Live2v2Event) : Prop :=
  let r := before.foldl Live2v2Run.step start
  r.running = true → r.live.phase = .playing →
    (r.step e).live.phase = .playing ∨
    (e = .terminate ∧ (r.step e).live.phase = .cancelled) ∨
    ∃ tick now messages answers, e = .loop tick now messages answers ∧
      (r.step e).live.phase = .finished ∧
      (EndsBySimulation r.live tick now messages answers ∨
        EndsByDeadline r.live tick now messages answers ∨
        Forfeited start (before ++ [e]) (r.step e) after)

/-- **The forfeit rule of a 2v2 match.**  In every run a running match ends by its
own result, by the deadline or by a forfeit of a team of which each slot has
surrendered or was away longer than the reconnect window, unless the server shuts
it down; and a slot is only ever abandoned for an absence that long and without a
break. -/
theorem forfeit_rule {enable2v2 equalPower : Bool} {params : Live2v2Params}
    {lookup : String → SeatLookup} {randomHex : Option String} {startedAt : ℤ}
    {s : Live2v2MatchState}
    (h : live2v2MatchInit enable2v2 equalPower params lookup randomHex startedAt = some s)
    (events : List Live2v2Event) :
    (∀ before e after, before ++ e :: after = events → EndsRight (.start s) before e after) ∧
      ∀ before, before <+: events → ∀ slot,
        ((before.foldl Live2v2Run.step (.start s)).live.slots slot).abandoned = true →
          GraceExpired (.start s) slot before := by
  have hnew := live2v2MatchInit_new h
  have hslot : ∀ slot, (s.slots slot).disconnectedAt = none ∧ (s.slots slot).abandoned = false ∧
      (s.slots slot).surrendered = false := by
    intro slot
    obtain ⟨userId, career, hs⟩ := hnew.slots slot
    rw [hs]
    exact ⟨rfl, rfl, rfl⟩
  have hheard : ∀ events, Heard (.start s) events (events.foldl Live2v2Run.step (.start s)) := by
    refine history ⟨hnew.lobbyOk, fun _ => rfl, fun slot since hs => ?_, fun slot ha => ?_,
      fun slot hs => ?_⟩ fun before e hb => hb.step e
    · have hno := (hslot slot).1.symm.trans hs
      cases hno
    · have hno := (hslot slot).2.1.symm.trans ha
      cases hno
    · have hno := (hslot slot).2.2.symm.trans hs
      cases hno
  have hplaying : ∀ events : List Live2v2Event,
      Playing (events.foldl Live2v2Run.step (.start s)).live := by
    intro events
    refine foldl_preserves (P := fun r : Live2v2Run => Playing r.live)
      (fun r e _ hr => hr.step e) ⟨fun _ => ⟨hnew.settled, fun m hm => ?_⟩, fun hp => ?_⟩
    · change m ∈ s.sent at hm
      rw [hnew.sent] at hm
      exact absurd hm List.not_mem_nil
    · change s.phase = .playing at hp
      rw [hnew.phase] at hp
      cases hp
  refine ⟨?_, fun before _ slot => (hheard before).abandoned slot⟩
  rintro before e after - hr hp
  have hafter := (hheard before).step e
  have hplay := hplaying before
  generalize hrun : before.foldl Live2v2Run.step (.start s) = r at *
  by_cases he : ∃ tick now messages answers, e = .loop tick now messages answers
  · obtain ⟨tick, now, messages, answers, rfl⟩ := he
    have hends := playing_ends hplay.unsettled hp (hplay.status hp) tick now messages answers
    rw [← step_loop hr] at hends
    rcases hends with hgoes | ⟨hfin, hsim | hdeadline | hforfeit⟩
    · exact Or.inl hgoes
    · exact Or.inr (Or.inr ⟨tick, now, messages, answers, rfl, hfin, Or.inl hsim⟩)
    · exact Or.inr (Or.inr ⟨tick, now, messages, answers, rfl, hfin, Or.inr (Or.inl hdeadline)⟩)
    · refine Or.inr (Or.inr ⟨tick, now, messages, answers, rfl, hfin, Or.inr (Or.inr ?_)⟩)
      obtain ⟨loser, hdead, houtcomes⟩ := hforfeit.outcomes hafter.lobby
      refine ⟨loser, fun slot ht => ?_, houtcomes, ?_⟩
      · rcases teamDead_iff.mp hdead slot ht with ha | hs
        · exact Or.inr (hafter.abandoned slot ha)
        · exact Or.inl (hafter.surrendered slot hs)
      · have hkept : Always Live2v2Run.step (fun q => q.live.phase = .finished ∧
            q.live.settleRequest
              = (r.step (.loop tick now messages answers)).live.settleRequest)
            (r.step (.loop tick now messages answers)) after :=
          always_of_preserves (E := fun _ => True)
            (fun q e _ hq => ⟨step_over (Or.inl rfl) hq.1 e,
              (finished_request hq.1 e).trans hq.2⟩)
            (fun _ _ => trivial) ⟨hfin, rfl⟩
        exact fun path hpath => (hkept path hpath).2
  · rcases playing_other hp (fun tick now messages answers hl =>
      he ⟨tick, now, messages, answers, hl⟩) with hgoes | hcancel
    · exact Or.inl hgoes
    · exact Or.inr (Or.inl hcancel)

omit [MathLib] in
/-- The team of which one was away and one gives up loses. -/
theorem forfeit_rule_four :
    let lost := teamLost.foldl (@Live2v2Run.step decimalHypot) (.start fourMatch)
    (lost.live.phase = .finished ∧ lost.live.state.status = .defeat ∧
      (lost.live.slots 0).abandoned = true) ∧
      (∀ before e after, before ++ e :: after = teamLost →
        @EndsRight decimalHypot (.start fourMatch) before e after) ∧
      ∀ before, before <+: teamLost → ∀ slot,
        ((before.foldl (@Live2v2Run.step decimalHypot) (.start fourMatch)).live.slots slot).abandoned
          = true → @GraceExpired decimalHypot (.start fourMatch) slot before :=
  ⟨by decide +kernel, @forfeit_rule decimalHypot _ _ _ _ _ _ _ fourMatch_init teamLost⟩

end CrownClash.Go
