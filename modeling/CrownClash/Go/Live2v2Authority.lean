import CrownClash.Go.Live2v2Log

/-!
# Server: who may act for a slot

An action enters the log of a match only through `handleMessage_log`: its sender
is the session that sits in the slot, the slot has not given up, and the battle
takes the dispatch, so that the source is a territory of the slot's team and the
army is the team's.  Whether the sender sits in the slot is decided by the seats
(`LobbyOk`), which joins, leaves and takeovers rewrite in between.
-/

namespace CrownClash.Go

open Lib Live2v2MatchState

/-- The dispatch of a slot that a message orders is its user's to order, and it
leads the battle of `t` to `state`. -/
structure Authorised (t : Live2v2MatchState) (message : Live2v2Message) (slot : Slot)
    (payload : Live2v2ClientMessage) (state : GameState) : Prop where
  /-- The sender is the user the slot was matched to. -/
  user : message.sender.userId = (t.slots slot).userId
  /-- The sender's session is the one that is bound to the slot. -/
  session : ∃ active, (t.slots slot).presence = some active ∧
    active.userId = (t.slots slot).userId ∧ active.sessionId = message.sender.sessionId
  standing : (t.slots slot).abandoned = false ∧ (t.slots slot).surrendered = false
  team : (t.slots slot).teamId = teamIdForSlot slot.val
  /-- The army leaves a territory of the team and belongs to the team. -/
  army : ∃ source army, t.state.territories.get? payload.sourceId = some source ∧
    source.owner = roleForTeamId (t.slots slot).teamId ∧
    state.armies = t.state.armies ++ [army] ∧
    army.owner = roleForTeamId (t.slots slot).teamId ∧ army.sourceId = payload.sourceId

/-- What one message does: nothing to the log, or one authorised action more. -/
def Handled (message : Live2v2Message) (t t' : Live2v2MatchState) : Prop :=
  t'.actionLog = t.actionLog ∨
    ∃ slot payload serverSeq, readPayload message = some payload ∧
      t'.actionLog = t.actionLog ++ [t.actionOf slot payload serverSeq] ∧
      Authorised t message slot payload t'.state

/-- The actions of a slot. -/
def actionsOf (actions : List CanonicalTwoVTwoAction) (slot : Slot) :
    List CanonicalTwoVTwoAction :=
  actions.filter fun a => a.slot = (slot.val : ℤ)

/-- Who has surrendered or is abandoned stays so and acts no more. -/
structure StaysOut (t t' : Live2v2MatchState) : Prop where
  abandoned : ∀ slot, (t.slots slot).abandoned = true → (t'.slots slot).abandoned = true
  surrendered : ∀ slot, (t.slots slot).surrendered = true → (t'.slots slot).surrendered = true
  actions : ∀ slot, (t.slots slot).abandoned = true ∨ (t.slots slot).surrendered = true →
    actionsOf t'.actionLog slot = actionsOf t.actionLog slot

theorem StaysOut.trans {t t' t'' : Live2v2MatchState} (h : StaysOut t t') (g : StaysOut t' t'') :
    StaysOut t t'' where
  abandoned slot ha := g.abandoned slot (h.abandoned slot ha)
  surrendered slot hs := g.surrendered slot (h.surrendered slot hs)
  actions slot hg := by
    have hout := hg.imp (h.abandoned slot) (h.surrendered slot)
    exact (g.actions slot hout).trans (h.actions slot hg)

theorem staysOut_of_log {t t' : Live2v2MatchState} (hm : MarksStay t.lobby t'.lobby)
    (hlog : t'.actionLog = t.actionLog) : StaysOut t t' :=
  ⟨hm.abandoned, hm.surrendered, fun _ _ => by rw [hlog]⟩

theorem roleForTeamId_slot (slot : Slot) :
    roleForTeamId (teamIdForSlot slot.val) = simulationOwnerForSlot slot.val := by
  revert slot
  decide

section Messages

variable [MathLib]

/-- **An accepted dispatch was its sender's to order.** -/
theorem Accepts.authorised {t : Live2v2MatchState} (hok : LobbyOk t.lobby)
    {message : Live2v2Message} {slot : Slot} {payload : Live2v2ClientMessage} {serverSeq : ℤ}
    {state : GameState} (hs : t.senderSlot message = some slot)
    (ha : Accepts t slot payload serverSeq state) : Authorised t message slot payload state := by
  obtain ⟨hbound, active, hactive, hsession⟩ := senderSlot_holds hs
  have hteam : (t.slots slot).teamId = teamIdForSlot slot.val := hok.team slot
  have hrole : roleForTeamId (t.slots slot).teamId = simulationOwnerForSlot slot.val := by
    rw [hteam, roleForTeamId_slot]
  obtain ⟨source, army, hsource, howner, -, -, -, -, harmy, hfrom, -, -, hstate⟩ :=
    dispatchArmyWithRatio_ok_cases (simulationOwnerForSlot_ne_neutral slot.val) ha.order
  refine
    { user := (hok.bound _ slot hbound).symm
      session := ⟨active, hactive, hok.seated slot active hactive, hsession⟩
      standing := ⟨ha.abandoned, ha.surrendered⟩
      team := hteam
      army := ⟨source, army, hsource, howner.trans hrole.symm, ?_, harmy.trans hrole.symm, hfrom⟩ }
  rw [hstate]

theorem handleMessage_handled {t : Live2v2MatchState} (hok : LobbyOk t.lobby)
    (message : Live2v2Message) (serverSeq : ℤ) (answers : Answers) :
    Handled message t (t.handleMessage message serverSeq answers) := by
  rcases handleMessage_log t message serverSeq answers with
    hsame | ⟨slot, payload, state, hs, hr, -, ha, haccept⟩
  · exact Or.inl (congrArg LogView.actions hsame)
  · rw [haccept]
    exact Or.inr ⟨slot, payload, serverSeq, hr, rfl, ha.authorised hok hs⟩

/-- A slot that is out gets no action from a message. -/
theorem handleMessage_staysOut (t : Live2v2MatchState) (message : Live2v2Message) (serverSeq : ℤ)
    (answers : Answers) : StaysOut t (t.handleMessage message serverSeq answers) := by
  have hmoves : LobbyMoves (.loop 0 0 [message] answers) t.lobby
      (t.handleMessage message serverSeq answers).lobby :=
    handleMessage_lobby serverSeq List.mem_cons_self
  have hmarks := marksStay_moves hmoves
  rcases handleMessage_log t message serverSeq answers with
    hsame | ⟨slot, payload, state, -, -, -, ha, haccept⟩
  · exact staysOut_of_log hmarks (congrArg LogView.actions hsame)
  · refine ⟨hmarks.abandoned, hmarks.surrendered, fun k hk => ?_⟩
    have hlog : (t.handleMessage message serverSeq answers).actionLog
        = t.actionLog ++ [t.actionOf slot payload serverSeq] := by
      rw [haccept]
      rfl
    have hne : ¬ ((slot.val : ℤ) = k.val) := by
      intro he
      have hslot : slot = k := Fin.ext (by omega)
      rw [← hslot, ha.abandoned, ha.surrendered] at hk
      rcases hk with hk | hk <;> cases hk
    unfold actionsOf
    rw [hlog, List.filter_append, List.filter_singleton]
    change List.filter _ t.actionLog ++ (bif decide ((slot.val : ℤ) = k.val) then _ else _) = _
    rw [decide_eq_false hne, cond_false, List.append_nil]

/-! ### A call -/

/-- **What a call adds to the log.**  Only a call of the loop adds anything, and
each message it reads adds nothing or one authorised action. -/
def Authority (r : Live2v2Run) (e : Live2v2Event) : Prop :=
  match e with
  | .loop tick now messages answers =>
    r.running = true →
      match messagesFrom r.live tick now answers with
      | none => (r.step e).live.actionLog = r.live.actionLog
      | some t =>
        t.actionLog = r.live.actionLog ∧
        EachStep (fun s m => s.handleMessage m.1 (t.serverSeq + m.2 + 1) answers)
          (fun s m => Handled m.1 s (s.handleMessage m.1 (t.serverSeq + m.2 + 1) answers)) t
          messages.zipIdx ∧
        (r.step e).live.actionLog = (t.handleMessages messages answers).actionLog
  | _ => (r.step e).live.actionLog = r.live.actionLog

theorem step_actionLog (r : Live2v2Run) {e : Live2v2Event} (h : loopTicks [e] = []) :
    (r.step e).live.actionLog = r.live.actionLog := by
  unfold Live2v2Run.step
  split
  · rfl
  cases e with
  | attempt presence =>
    dsimp only
    split
    · rfl
    · rfl
  | join arrivals tick =>
    dsimp only
    split
    · exact congrArg LogView.actions (matchJoin_logView r.live arrivals tick)
    · rfl
  | leave presences now => exact congrArg LogView.actions (matchLeave_logView r.live presences now)
  | loop tick now messages answers => cases h
  | terminate =>
    dsimp only
    unfold matchTerminate
    split
    · rfl
    · rfl

theorem step_authority {r : Live2v2Run} (h : LobbyOk r.live.lobby) (e : Live2v2Event) :
    Authority r e := by
  cases e with
  | attempt presence => exact step_actionLog r rfl
  | join arrivals tick => exact step_actionLog r rfl
  | leave presences now => exact step_actionLog r rfl
  | terminate => exact step_actionLog r rfl
  | loop tick now messages answers =>
    intro hr
    have hloop := matchLoop_messages r.live tick now messages answers
    rw [step_loop hr]
    cases hm : messagesFrom r.live tick now answers with
    | none =>
      rw [hm] at hloop
      exact congrArg LogView.actions hloop
    | some t =>
      rw [hm] at hloop
      have hfrom : LobbyMoves (.loop tick now messages answers) r.live.lobby t.lobby :=
        messagesFrom_lobby hm
      refine ⟨congrArg LogView.actions hloop.1, ?_, ?_⟩
      · refine eachStep_of_preserves (I := fun s => LobbyOk s.lobby) (fun s m hs => ?_)
          (fun s m hs => handleMessage_handled hs m.1 _ answers)
          (lobbyMoves_preserve (fun _ _ => LobbyOk.move) hfrom h)
        have hmove : LobbyMoves (.loop 0 0 [m.1] answers) s.lobby
            (s.handleMessage m.1 (t.serverSeq + m.2 + 1) answers).lobby :=
          handleMessage_lobby _ List.mem_cons_self
        exact lobbyMoves_preserve (fun _ _ => LobbyOk.move) hmove hs
      · rw [hloop.2]
        exact congrArg LogView.actions (afterMessages_logView _ tick now answers)

theorem step_staysOut (r : Live2v2Run) (e : Live2v2Event) :
    StaysOut r.live (r.step e).live := by
  have hmarks := marksStay_moves (step_lobby r e)
  cases e with
  | attempt presence => exact staysOut_of_log hmarks (step_actionLog r rfl)
  | join arrivals tick => exact staysOut_of_log hmarks (step_actionLog r rfl)
  | leave presences now => exact staysOut_of_log hmarks (step_actionLog r rfl)
  | terminate => exact staysOut_of_log hmarks (step_actionLog r rfl)
  | loop tick now messages answers =>
    cases hr : r.running with
    | false =>
      have hstay : r.step (.loop tick now messages answers) = r := by
        unfold Live2v2Run.step
        rw [hr]
        rfl
      rw [hstay]
      exact staysOut_of_log (.refl _) rfl
    | true =>
      have hloop := matchLoop_messages r.live tick now messages answers
      rw [step_loop hr] at hmarks ⊢
      cases hm : messagesFrom r.live tick now answers with
      | none =>
        rw [hm] at hloop
        exact staysOut_of_log hmarks (congrArg LogView.actions hloop)
      | some t =>
        rw [hm] at hloop
        have hfrom : LobbyMoves (.loop tick now messages answers) r.live.lobby t.lobby :=
          messagesFrom_lobby hm
        have hbefore : StaysOut r.live t :=
          staysOut_of_log (marksStay_moves hfrom) (congrArg LogView.actions hloop.1)
        have hfold : StaysOut t (messages.zipIdx.foldl
            (fun s m => s.handleMessage m.1 (t.serverSeq + m.2 + 1) answers) t) :=
          foldl_preserves (P := fun s => StaysOut t s)
            (fun s m _ hs => hs.trans (handleMessage_staysOut s m.1 _ answers))
            (staysOut_of_log (.refl _) rfl)
        have hread : StaysOut t (t.handleMessages messages answers) :=
          ⟨hfold.abandoned, hfold.surrendered, hfold.actions⟩
        have hafter : StaysOut (t.handleMessages messages answers)
            ((t.handleMessages messages answers).afterMessages tick now answers).1 := by
          have hmoves : LobbyMoves (.loop tick now messages answers)
              (t.handleMessages messages answers).lobby
              ((t.handleMessages messages answers).afterMessages tick now answers).1.lobby :=
            afterMessages_lobby _
          exact staysOut_of_log (marksStay_moves hmoves)
            (congrArg LogView.actions (afterMessages_logView _ tick now answers))
        rw [hloop.2]
        exact (hbefore.trans hread).trans hafter

/-- **Authority over the slots of a 2v2 match.**  Whatever the order of the
calls, an action is only ever added by a message of the session that is bound to
its slot, the army it creates is the team's and leaves a territory of the team,
and a slot that surrendered or was abandoned stays so and acts no more. -/
theorem slot_authority {enable2v2 equalPower : Bool} {params : Live2v2Params}
    {lookup : String → SeatLookup} {randomHex : Option String} {startedAt : ℤ}
    {s : Live2v2MatchState}
    (h : live2v2MatchInit enable2v2 equalPower params lookup randomHex startedAt = some s)
    (events : List Live2v2Event) :
    EachStep Live2v2Run.step Authority (.start s) events ∧
      ∀ before after, before ++ after = events →
        StaysOut (before.foldl Live2v2Run.step (.start s)).live
          (events.foldl Live2v2Run.step (.start s)).live := by
  constructor
  · exact eachStep_of_preserves (I := fun r : Live2v2Run => LobbyOk r.live.lobby)
      (fun r e hr => step_keepsLobby (fun _ _ _ => LobbyOk.move) e hr)
      (fun r e hr => step_authority hr e) (live2v2MatchInit_new h).lobbyOk
  · rintro before after rfl
    rw [List.foldl_append]
    exact foldl_preserves (P := fun r : Live2v2Run =>
        StaysOut (before.foldl Live2v2Run.step (.start s)).live r.live)
      (fun r e _ hr => hr.trans (step_staysOut r e)) (staysOut_of_log (.refl _) rfl)

end Messages

/-- Of the two who lose, one has sent an army, one has surrendered. -/
theorem slot_authority_four :
    let lost := teamLost.foldl (@Live2v2Run.step decimalHypot) (.start fourMatch)
    (lost.live.actionLog.length = 1 ∧ (lost.live.slots 0).abandoned = true ∧
      (lost.live.slots 1).surrendered = true) ∧
      EachStep (@Live2v2Run.step decimalHypot) (@Authority decimalHypot) (.start fourMatch)
        teamLost ∧
      ∀ before after, before ++ after = teamLost →
        StaysOut (before.foldl (@Live2v2Run.step decimalHypot) (.start fourMatch)).live lost.live :=
  ⟨by decide +kernel, @slot_authority decimalHypot _ _ _ _ _ _ _ fourMatch_init teamLost⟩

end CrownClash.Go
