import CrownClash.Go.Live2v2Lobby

/-!
# Server: the log of a 2v2 match

An accepted dispatch is the only thing that is ever appended to the log
(`handleMessage_log`), and it is appended under the checks of `handleDispatch`.
The replay engine reads the log under checks of its own: it sorts it by tick,
server sequence, slot and client sequence and refuses a gap in the client
sequences of a slot, a server sequence seen twice and a log over the cap.
`LogOk` is what the handler keeps, and `LogOk.canonical` says that such a log
passes the other checks as it stands.
-/

namespace CrownClash.Go

open Lib Live2v2MatchState

/-- The log of a match with the counters it is kept by. -/
structure LogView where
  actions : List CanonicalTwoVTwoAction
  nextSeq : Slot → ℤ
  serverSeq : ℤ
  tick : ℤ

def Live2v2MatchState.logView (s : Live2v2MatchState) : LogView where
  actions := s.actionLog
  nextSeq slot := (s.slots slot).nextSeq
  serverSeq := s.serverSeq
  tick := s.tick

/-! ### What leaves the log alone -/

theorem logView_setSlot (s : Live2v2MatchState) (slot : Slot) {slotState : Live2v2SlotState}
    (h : slotState.nextSeq = (s.slots slot).nextSeq) :
    (s.setSlot slot slotState).logView = s.logView := by
  unfold Live2v2MatchState.logView setSlot
  dsimp only
  congr 1
  funext k
  by_cases hk : k = slot
  · subst hk
    rw [Function.update_self]
    exact h
  · rw [Function.update_of_ne hk]

theorem joinOne_logView (s : Live2v2MatchState) (presence : Presence)
    (displayName : Option String) : (s.joinOne presence displayName).logView = s.logView := by
  have hadopt : ∀ (t : Live2v2MatchState) (slot : Slot),
      (t.adoptPresence slot presence).logView = t.logView :=
    fun t slot => logView_setSlot t slot rfl
  unfold joinOne
  cases s.presenceByUser presence.userId with
  | some slot =>
    dsimp only
    split
    · unfold resyncRejoinedSlot
      cases ((s.adoptPresence slot presence).slots slot).presence with
      | none => exact hadopt s slot
      | some p => exact hadopt s slot
    · exact hadopt s slot
  | none =>
    cases s.emptySlotForUser presence.userId with
    | none => rfl
    | some slot =>
      have hname : (s.setSlot slot
          { s.slots slot with displayName := displayName.getD presence.username }).logView
          = s.logView := logView_setSlot s slot rfl
      exact (hadopt _ slot).trans hname

theorem matchJoin_logView (s : Live2v2MatchState) (arrivals : List (Presence × Option String))
    (tick : ℤ) : (s.matchJoin arrivals tick).logView = s.logView := by
  have hall : (arrivals.foldl (fun s a => s.joinOne a.1 a.2) s).logView = s.logView :=
    foldl_preserves (P := fun t => t.logView = s.logView)
      (fun t a _ ht => (joinOne_logView t a.1 a.2).trans ht) rfl
  unfold Live2v2MatchState.matchJoin
  dsimp only
  split
  · exact hall
  · exact hall

theorem matchLeave_logView (s : Live2v2MatchState) (presences : List Presence) (now : ℤ) :
    (s.matchLeave presences now).logView = s.logView := by
  have hone : ∀ (t : Live2v2MatchState) (p : Presence), (leaveOne now t p).logView = t.logView := by
    intro t p
    unfold leaveOne
    split
    · rfl
    split
    · rfl
    split
    · rfl
    · exact logView_setSlot t _ rfl
  unfold Live2v2MatchState.matchLeave
  split
  · rfl
  · exact foldl_preserves (P := fun t => t.logView = s.logView)
      (fun t p _ ht => (hone t p).trans ht) rfl

theorem finishMatch_logView (s : Live2v2MatchState) (answers : Answers) :
    (s.finishMatch answers).logView = s.logView := by
  unfold finishMatch
  split
  · rfl
  · dsimp only
    cases answers.settle { s with phase := .finished }.settleRequest with
    | none => rfl
    | some settlements => rfl

theorem endAs_logView (s : Live2v2MatchState) (status : MatchStatus) (answers : Answers) :
    (s.endAs status answers).logView = s.logView :=
  finishMatch_logView { s with state := { s.state with status := status } } answers

theorem checkTeamForfeit_logView (s : Live2v2MatchState) (answers : Answers) :
    (s.checkTeamForfeit answers).logView = s.logView := by
  unfold checkTeamForfeit
  split
  · exact endAs_logView s .defeat answers
  · split
    · exact endAs_logView s .victory answers
    · rfl

theorem enforceReconnectGrace_logView (s : Live2v2MatchState) (now : ℤ) (answers : Answers) :
    (s.enforceReconnectGrace now answers).logView = s.logView := by
  refine (checkTeamForfeit_logView _ answers).trans ?_
  unfold Live2v2MatchState.logView
  dsimp only
  congr 1
  funext slot
  exact (expireSlot_same now (s.slots slot)).nextSeq

theorem startMatch_logView (s : Live2v2MatchState) (now : ℤ) :
    (s.startMatch now).logView = s.logView := by
  unfold startMatch
  cases s.createInitial2v2State with
  | none => rfl
  | some initialState => rfl

theorem advancePhase_logView (s : Live2v2MatchState) (tick now : ℤ) :
    (s.advancePhase tick now).logView = s.logView := by
  unfold advancePhase
  split
  · split
    · rfl
    · split
      · rfl
      · rfl
  · split
    · exact startMatch_logView s now
    · split
      · split
        · exact startMatch_logView s now
        · rfl
      · rfl
  · rfl

theorem handleSurrender_logView (s : Live2v2MatchState) (message : Live2v2Message) (slot : Slot)
    (answers : Answers) : (s.handleSurrender message slot answers).logView = s.logView := by
  unfold handleSurrender
  split
  · rfl
  · rfl
  · split
    · rfl
    · exact (checkTeamForfeit_logView _ answers).trans (logView_setSlot s slot rfl)
  · rfl

theorem handleRematchVote_logView (s : Live2v2MatchState) (message : Live2v2Message) (slot : Slot)
    (answers : Answers) : (s.handleRematchVote message slot answers).logView = s.logView := by
  unfold handleRematchVote
  split
  · rfl
  split
  · rfl
  split
  · rfl
  split
  · rfl
  dsimp only
  split
  · unfold startRematch
    cases answers.matchCreate with
    | none => rfl
    | some matchId => rfl
  · rfl

/-- What an accepted dispatch does to the log. -/
theorem acceptDispatch_logView (s : Live2v2MatchState) (message : Live2v2Message) (slot : Slot)
    (payload : Live2v2ClientMessage) (serverSeq : ℤ) (state : GameState) :
    (s.acceptDispatch message slot payload serverSeq state).logView =
      { s.logView with
        actions := s.actionLog ++ [s.actionOf slot payload serverSeq]
        nextSeq := Function.update s.logView.nextSeq slot ((s.slots slot).nextSeq + 1) } := by
  unfold acceptDispatch Live2v2MatchState.logView
  dsimp only
  congr 1
  funext k
  by_cases hk : k = slot
  · subst hk
    rw [Function.update_self, Function.update_self]
  · rw [Function.update_of_ne hk, Function.update_of_ne hk]

section Loop

variable [MathLib]

theorem playTick_logView (s : Live2v2MatchState) (now : ℤ) (answers : Answers) :
    (s.playTick now answers).logView = s.logView := by
  have hstepped : s.stepped.broadcastStates.logView = s.logView := by
    unfold stepped
    split <;> rfl
  rw [← hstepped]
  change (if s.stepped.broadcastStates.state.status ≠ .playing then
      s.stepped.broadcastStates.finishMatch answers
    else if now > s.stepped.broadcastStates.deadlineAt then
      s.stepped.broadcastStates.endAs .draw answers
    else s.stepped.broadcastStates).logView = _
  split
  · exact finishMatch_logView _ answers
  split
  · exact endAs_logView _ .draw answers
  · rfl

theorem afterMessages_logView (s : Live2v2MatchState) (tick now : ℤ) (answers : Answers) :
    (s.afterMessages tick now answers).1.logView = s.logView := by
  unfold afterMessages
  split
  · split
    · dsimp only
      split
      · rfl
      · rfl
    · rfl
  · dsimp only
    split
    · exact (playTick_logView _ now answers).trans (advancePhase_logView s tick now)
    · exact advancePhase_logView s tick now

end Loop

/-! ### What is appended -/

/-- The checks a dispatch passes before it is accepted, and the battle it leads to. -/
structure Accepts [MathLib] (s : Live2v2MatchState) (slot : Slot) (payload : Live2v2ClientMessage)
    (serverSeq : ℤ) (state : GameState) : Prop where
  phase : s.phase = .playing
  abandoned : (s.slots slot).abandoned = false
  surrendered : (s.slots slot).surrendered = false
  connected : (s.slots slot).connected = true
  sequence : (s.slots slot).nextSeq = payload.sequence
  room : s.actionLog.length < live2v2MaxActionsPerMatch
  source : ∃ t, s.state.territories.get? payload.sourceId = some t
  target : ∃ t, s.state.territories.get? payload.targetId = some t
  order : s.order slot payload serverSeq = .ok state

section Messages

variable [MathLib]

theorem handleDispatch_cases (s : Live2v2MatchState) (message : Live2v2Message)
    (payload : Live2v2ClientMessage) (slot : Slot) (serverSeq : ℤ) :
    (∃ code, s.handleDispatch message payload slot serverSeq = s.rejectCommand message code) ∨
      ∃ state, Accepts s slot payload serverSeq state ∧
        s.handleDispatch message payload slot serverSeq
          = s.acceptDispatch message slot payload serverSeq state := by
  unfold handleDispatch
  split
  · exact Or.inl ⟨_, rfl⟩
  next hphase =>
  split
  · exact Or.inl ⟨_, rfl⟩
  next hopen =>
  split
  · exact Or.inl ⟨_, rfl⟩
  next hseq =>
  split
  · exact Or.inl ⟨_, rfl⟩
  next hroom =>
  split
  · exact Or.inl ⟨_, rfl⟩
  next hsource =>
  split
  · exact Or.inl ⟨_, rfl⟩
  next htarget =>
  split
  · exact Or.inl ⟨_, rfl⟩
  · exact Or.inl ⟨_, rfl⟩
  · exact Or.inl ⟨_, rfl⟩
  · next state ho =>
    simp only [Bool.or_eq_true, not_or, Bool.not_eq_true, Bool.not_eq_false'] at hopen
    rw [Bool.not_eq_true, Option.isNone_eq_false_iff, Option.isSome_iff_exists] at hsource htarget
    exact Or.inr ⟨state, ⟨not_not.mp hphase, hopen.1.1, hopen.1.2, hopen.2, not_not.mp hseq,
      not_le.mp hroom, hsource, htarget, ho⟩, rfl⟩

/-- **A message leaves the log alone, or it is a dispatch that passes every check
and is appended.** -/
theorem handleMessage_log (s : Live2v2MatchState) (message : Live2v2Message) (serverSeq : ℤ)
    (answers : Answers) :
    (s.handleMessage message serverSeq answers).logView = s.logView ∨
      ∃ slot payload state, s.senderSlot message = some slot ∧
        readPayload message = some payload ∧ payload.type = "dispatch" ∧
        Accepts s slot payload serverSeq state ∧
        s.handleMessage message serverSeq answers
          = s.acceptDispatch message slot payload serverSeq state := by
  unfold handleMessage
  cases hs : s.senderSlot message with
  | none => exact Or.inl rfl
  | some slot =>
    dsimp only
    cases hr : readPayload message with
    | none => exact Or.inl rfl
    | some payload =>
      dsimp only
      split
      · next ht =>
        rcases handleDispatch_cases s message payload slot serverSeq with
          ⟨code, hcode⟩ | ⟨state, haccepts, haccept⟩
        · rw [hcode]
          exact Or.inl rfl
        · exact Or.inr ⟨slot, payload, state, rfl, rfl, ht, haccepts, haccept⟩
      refine Or.inl ?_
      split
      · unfold handleReady
        split
        · rfl
        · exact logView_setSlot s slot rfl
      split
      · exact handleSurrender_logView s message slot answers
      split
      · exact handleRematchVote_logView s message slot answers
      · rfl

end Messages

/-! ### A call of the loop -/

section Calls

/-- The state in which a call of the loop begins to read its messages, if it does. -/
def messagesFrom (s : Live2v2MatchState) (tick : ℕ) (now : ℤ) (answers : Answers) :
    Option Live2v2MatchState :=
  let s := { s with tick := tick }
  if s.phase = .cancelled ∨ (s.phase = .finished ∧ s.settled = false) then none
  else if s.phase = .playing then
    let graced := s.enforceReconnectGrace now answers
    if graced.phase = .playing then some graced else none
  else some s

variable [MathLib]

/-- A call of the loop reads its messages, or leaves the log alone. -/
theorem matchLoop_messages (s : Live2v2MatchState) (tick : ℕ) (now : ℤ)
    (messages : List Live2v2Message) (answers : Answers) :
    match messagesFrom s tick now answers with
    | none =>
      (s.matchLoop tick now messages answers).1.logView = { s.logView with tick := tick }
    | some t =>
      t.logView = { s.logView with tick := tick } ∧
        s.matchLoop tick now messages answers
          = (t.handleMessages messages answers).afterMessages tick now answers := by
  have htick : { s with tick := (tick : ℤ) }.logView = { s.logView with tick := tick } := rfl
  unfold messagesFrom Live2v2MatchState.matchLoop
  dsimp only
  by_cases hc : s.phase = .cancelled
  · rw [if_pos (Or.inl hc), if_pos hc]
    exact htick
  by_cases hf : s.phase = .finished ∧ s.settled = false
  · rw [if_pos (Or.inr hf), if_neg hc, if_pos (by rw [hf.1, hf.2]; rfl)]
    dsimp only
    split
    · exact finishMatch_logView _ answers
    · exact htick
  have hn : ¬ (decide (s.phase = .finished) && !s.settled) = true := by
    rw [Bool.and_eq_true, Bool.not_eq_true', decide_eq_true_iff]
    exact hf
  rw [if_neg (not_or.mpr ⟨hc, hf⟩), if_neg hc, if_neg hn]
  by_cases hp : s.phase = .playing
  · rw [if_pos hp, if_pos hp]
    have hgrace := enforceReconnectGrace_logView { s with tick := (tick : ℤ) } now answers
    by_cases hg : ({ s with tick := (tick : ℤ) }.enforceReconnectGrace now answers).phase = .playing
    · rw [if_pos hg, if_neg (not_not.mpr hg)]
      exact ⟨hgrace, rfl⟩
    · rw [if_neg hg, if_pos hg]
      exact hgrace
  · rw [if_neg hp, if_neg hp]
    exact ⟨htick, rfl⟩

/-- Up to its messages a call only moves the clock and the grace windows. -/
theorem messagesFrom_changes {s t : Live2v2MatchState} {tick : ℕ} {now : ℤ} {answers : Answers}
    (h : messagesFrom s tick now answers = some t) : Changes s t := by
  unfold messagesFrom at h
  dsimp only at h
  split at h
  · cases h
  split at h
  · next hp =>
    split at h
    · cases h
      exact (changes_tick s tick).trans
        (enforceReconnectGrace_changes { s with tick := tick } now answers hp)
    · cases h
  · cases h
    exact changes_tick s tick

omit [MathLib] in
theorem messagesFrom_lobby {s t : Live2v2MatchState} {tick : ℕ} {now : ℤ} {answers : Answers}
    {messages : List Live2v2Message} (h : messagesFrom s tick now answers = some t) :
    LobbyMoves (.loop tick now messages answers) s.lobby t.lobby := by
  unfold messagesFrom at h
  dsimp only at h
  split at h
  · cases h
  split at h
  · next hp =>
    split at h
    · cases h
      exact enforceReconnectGrace_lobby (s := { s with tick := tick }) hp
    · cases h
  · cases h
    exact .refl

end Calls

/-! ### The log a match keeps -/

/-- An entry that the replay engine takes for well formed, appended by `serverSeq`
and at the latest at `tick`. -/
structure EntryOk (serverSeq tick : ℤ) (a : CanonicalTwoVTwoAction) : Prop where
  schemaVersion : a.schemaVersion = matchSchemaVersion2
  tick : 0 ≤ a.tick ∧ a.tick ≤ tick
  serverSeq : 0 ≤ a.serverSeq ∧ a.serverSeq ≤ serverSeq
  slot : ∃ slot : Slot, a.slot = slot.val
  sourceId : a.sourceId ≠ ""
  targetId : a.targetId ≠ ""

/-- The client sequences of a slot along the log. -/
def clientSeqs (actions : List CanonicalTwoVTwoAction) (slot : Slot) : List ℤ :=
  (actions.filter fun a => a.slot = (slot.val : ℤ)).map CanonicalTwoVTwoAction.clientSeq

/-- The first `n` sequence numbers. -/
def firstSeqs (n : ℕ) : List ℤ := (List.range n).map Int.ofNat

/-- **What the handler keeps of its log.** -/
structure LogOk (v : LogView) : Prop where
  room : v.actions.length ≤ live2v2MaxActionsPerMatch
  ordered : v.actions.Pairwise fun a b => a.tick ≤ b.tick ∧ a.serverSeq < b.serverSeq
  entries : ∀ a ∈ v.actions, EntryOk v.serverSeq v.tick a
  counted : ∀ slot, ∃ n : ℕ, v.nextSeq slot = n ∧ clientSeqs v.actions slot = firstSeqs n
  checked : checkActions .start v.actions = .ok ()
  counters : ∀ slot : Slot,
    (v.actions.foldl LogCheck.add .start).nextClientSequence slot.val = v.nextSeq slot
  seen : ∀ n ∈ (v.actions.foldl LogCheck.add .start).seenServerSequences, n ≤ v.serverSeq
  serverSeq : 0 ≤ v.serverSeq
  tick : 0 ≤ v.tick

/-- The check of a longer log. -/
theorem checkActions_append : ∀ {actions rest : List CanonicalTwoVTwoAction} {c : LogCheck},
    checkActions c actions = .ok () →
      checkActions c (actions ++ rest) = checkActions (actions.foldl LogCheck.add c) rest := by
  intro actions
  induction actions with
  | nil => intro rest c _; rfl
  | cons a actions ih =>
    intro rest c h
    unfold checkActions at h
    cases hc : checkAction c a with
    | error e =>
      rw [hc] at h
      cases h
    | ok u =>
      rw [hc] at h
      have hrest : checkActions (c.add a) (actions ++ rest) = _ := ih h
      rw [List.cons_append, List.foldl_cons, ← hrest]
      change (checkAction c a >>= fun _ => checkActions (c.add a) (actions ++ rest)) = _
      rw [hc]
      rfl

theorem firstSeqs_succ (n : ℕ) : firstSeqs (n + 1) = firstSeqs n ++ [(n : ℤ)] := by
  unfold firstSeqs
  rw [List.range_succ, List.map_append]
  rfl

theorem clientSeqs_append (actions : List CanonicalTwoVTwoAction) (a : CanonicalTwoVTwoAction)
    (slot : Slot) : clientSeqs (actions ++ [a]) slot
      = clientSeqs actions slot ++ if a.slot = (slot.val : ℤ) then [a.clientSeq] else [] := by
  unfold clientSeqs
  rw [List.filter_append, List.map_append, List.filter_singleton]
  by_cases h : a.slot = slot.val
  · rw [if_pos h, decide_eq_true h]
    rfl
  · rw [if_neg h, decide_eq_false h]
    rfl

/-- A later number and a later tick. -/
theorem LogOk.later {v : LogView} (h : LogOk v) {serverSeq tick : ℤ}
    (hseq : v.serverSeq ≤ serverSeq) (htick : v.tick ≤ tick) :
    LogOk { v with serverSeq := serverSeq, tick := tick } where
  room := h.room
  ordered := h.ordered
  entries a ha :=
    { h.entries a ha with
      tick := ⟨(h.entries a ha).tick.1, (h.entries a ha).tick.2.trans htick⟩
      serverSeq := ⟨(h.entries a ha).serverSeq.1, (h.entries a ha).serverSeq.2.trans hseq⟩ }
  counted := h.counted
  checked := h.checked
  counters := h.counters
  seen n hn := (h.seen n hn).trans hseq
  serverSeq := h.serverSeq.trans hseq
  tick := h.tick.trans htick

/-- The log after one more entry, numbered `serverSeq`. -/
def LogView.append (v : LogView) (slot : Slot) (a : CanonicalTwoVTwoAction) : LogView where
  actions := v.actions ++ [a]
  nextSeq := Function.update v.nextSeq slot (v.nextSeq slot + 1)
  serverSeq := a.serverSeq
  tick := v.tick

/-- **An accepted dispatch keeps the log in order.** -/
theorem LogOk.append {v : LogView} (h : LogOk v) {slot : Slot} {a : CanonicalTwoVTwoAction}
    (hroom : v.actions.length < live2v2MaxActionsPerMatch) (hslot : a.slot = slot.val)
    (htick : a.tick = v.tick) (hnew : v.serverSeq < a.serverSeq)
    (hclient : a.clientSeq = v.nextSeq slot) (hschema : a.schemaVersion = matchSchemaVersion2)
    (hsource : a.sourceId ≠ "") (htarget : a.targetId ≠ "") : LogOk (v.append slot a) := by
  have hseq : 0 ≤ a.serverSeq := h.serverSeq.trans hnew.le
  have hentry : EntryOk a.serverSeq v.tick a :=
    ⟨hschema, ⟨htick ▸ h.tick, htick.le⟩, ⟨hseq, le_refl _⟩, ⟨slot, hslot⟩, hsource, htarget⟩
  have hold := h.later hnew.le (le_refl v.tick)
  have hfold : (v.actions ++ [a]).foldl LogCheck.add .start
      = (v.actions.foldl LogCheck.add .start).add a := by
    rw [List.foldl_append]
    rfl
  have hcheck : checkAction (v.actions.foldl LogCheck.add .start) a = .ok () := by
    have hfresh : a.serverSeq ∉ (v.actions.foldl LogCheck.add .start).seenServerSequences :=
      fun hs => absurd (h.seen _ hs) (not_le.mpr hnew)
    have hnext := h.counters slot
    have hbound := slot.isLt
    unfold checkAction twoVTwoSlotCount
    rw [if_neg (not_not.mpr hschema), if_neg (by rw [htick]; exact not_lt.mpr h.tick),
      if_neg (not_or.mpr ⟨not_lt.mpr hseq, hfresh⟩), hslot, if_neg (by omega), hnext,
      if_neg (not_not.mpr hclient), if_neg hsource, if_neg htarget]
  refine
    { room := ?_
      ordered := ?_
      entries := ?_
      counted := ?_
      checked := ?_
      counters := ?_
      seen := ?_
      serverSeq := hseq
      tick := h.tick }
  · change (v.actions ++ [a]).length ≤ live2v2MaxActionsPerMatch
    rw [List.length_append, List.length_singleton]
    exact hroom
  · refine List.pairwise_append.mpr ⟨h.ordered, List.pairwise_singleton _ _, fun b hb c hc => ?_⟩
    rw [List.mem_singleton.mp hc, htick]
    exact ⟨(h.entries b hb).tick.2, (h.entries b hb).serverSeq.2.trans_lt hnew⟩
  · intro b hb
    rcases List.mem_append.mp hb with hb | hb
    · exact hold.entries b hb
    · rw [List.mem_singleton.mp hb]
      exact hentry
  · intro k
    obtain ⟨n, hn, hs⟩ := h.counted k
    change ∃ m : ℕ, Function.update v.nextSeq slot (v.nextSeq slot + 1) k = m ∧
      clientSeqs (v.actions ++ [a]) k = firstSeqs m
    rw [clientSeqs_append, hs, hslot]
    by_cases hk : k = slot
    · subst hk
      refine ⟨n + 1, ?_, ?_⟩
      · rw [Function.update_self, hn]
        rfl
      · rw [if_pos rfl, hclient, hn, firstSeqs_succ]
    · refine ⟨n, ?_, ?_⟩
      · rw [Function.update_of_ne hk, hn]
      · have hne : ¬ (slot.val : ℤ) = k.val := fun he => hk (Fin.ext (by omega))
        rw [if_neg hne, List.append_nil]
  · change checkActions .start (v.actions ++ [a]) = .ok ()
    rw [checkActions_append h.checked]
    unfold checkActions
    rw [hcheck]
    rfl
  · intro k
    change ((v.actions ++ [a]).foldl LogCheck.add .start).nextClientSequence k.val
      = Function.update v.nextSeq slot (v.nextSeq slot + 1) k
    rw [hfold]
    change (if (k.val : ℤ) = a.slot then
        (v.actions.foldl LogCheck.add .start).nextClientSequence k.val + 1
      else (v.actions.foldl LogCheck.add .start).nextClientSequence k.val) = _
    rw [hslot]
    by_cases hk : k = slot
    · subst hk
      rw [if_pos rfl, Function.update_self, h.counters]
    · have hne : ¬ (k.val : ℤ) = slot.val := fun he => hk (Fin.ext (by omega))
      rw [if_neg hne, Function.update_of_ne hk, h.counters]
  · intro n hn
    change n ∈ ((v.actions ++ [a]).foldl LogCheck.add .start).seenServerSequences at hn
    rw [hfold] at hn
    rcases List.mem_cons.mp hn with rfl | hn
    · exact le_refl _
    · exact (h.seen n hn).trans hnew.le

/-- **Such a log is canonical as it stands.** -/
theorem LogOk.canonical {v : LogView} (h : LogOk v) :
    canonicalizeActions v.actions twoVTwoDefaultMaxActions = .ok v.actions := by
  have hsorted : sortBy canonicalBefore v.actions = v.actions := by
    refine sortBy_of_pairwise (h.ordered.imp fun {a b} hab => ?_)
    unfold canonicalBefore
    rcases eq_or_ne b.tick a.tick with ht | ht
    · rw [if_neg (not_not.mpr ht), if_pos (ne_of_gt hab.2)]
      exact decide_eq_false (not_lt.mpr hab.2.le)
    · rw [if_pos ht]
      exact decide_eq_false (not_lt.mpr hab.1)
  have hroom : ¬ v.actions.length > twoVTwoDefaultMaxActions := not_lt.mpr h.room
  unfold canonicalizeActions
  dsimp only
  rw [if_neg hroom, hsorted]
  change (checkActions .start v.actions >>= fun _ => pure v.actions) = _
  rw [h.checked]
  rfl

/-! ### Every run -/

theorem towers_named : ∀ b ∈ battlefields, "" ∉ territoryOrderForBattlefield b.id := by
  decide

/-- Every tower of a battle has a name. -/
theorem BattleOk.named {state : GameState} (h : BattleOk state) {id : String} {t : Territory}
    (ht : state.territories.get? id = some t) : id ≠ "" := by
  obtain ⟨b, hb, hmap⟩ := h.known
  rintro rfl
  refine towers_named b hb ?_
  rw [hmap, ← h.keys]
  exact Record.mem_keys_of_get? ht

/-- The ticks at which the runtime calls the loop. -/
def loopTicks : List Live2v2Event → List ℕ
  | [] => []
  | .loop tick _ _ _ :: events => tick :: loopTicks events
  | _ :: events => loopTicks events

theorem loopTicks_cons (e : Live2v2Event) (events : List Live2v2Event) :
    loopTicks (e :: events) = loopTicks [e] ++ loopTicks events := by
  cases e <;> rfl

/-- What the log of a match is in every state: the replay engine accepts it and
returns it unchanged, its server sequences rise, its ticks do not fall, each slot
counts its own dispatches from 0, and the cap holds. -/
structure LogReplayable (actions : List CanonicalTwoVTwoAction) : Prop where
  canonical : canonicalizeActions actions twoVTwoDefaultMaxActions = .ok actions
  serverSeqs : actions.Pairwise fun a b => a.serverSeq < b.serverSeq
  ticks : actions.Pairwise fun a b => a.tick ≤ b.tick
  clientSeqs : ∀ slot, ∃ n, clientSeqs actions slot = firstSeqs n
  room : actions.length ≤ live2v2MaxActionsPerMatch

theorem LogOk.replayable {v : LogView} (h : LogOk v) : LogReplayable v.actions where
  canonical := h.canonical
  serverSeqs := h.ordered.imp And.right
  ticks := h.ordered.imp And.left
  clientSeqs slot := (h.counted slot).imp fun _ hn => hn.2
  room := h.room

/-- The log of a new match. -/
theorem NewMatch.logOk {s : Live2v2MatchState} (h : NewMatch s) : LogOk s.logView := by
  have hactions : s.logView.actions = [] := h.actionLog
  have hnext : ∀ slot, s.logView.nextSeq slot = 0 := by
    intro slot
    obtain ⟨userId, career, hslot⟩ := h.slots slot
    change (s.slots slot).nextSeq = 0
    rw [hslot]
    rfl
  exact
    { room := by rw [hactions]; exact Nat.zero_le _
      ordered := by rw [hactions]; exact List.Pairwise.nil
      entries := by rw [hactions]; exact fun a ha => absurd ha List.not_mem_nil
      counted := fun slot => ⟨0, hnext slot, by rw [hactions]; rfl⟩
      checked := by rw [hactions]; rfl
      counters := fun slot => by rw [hactions, hnext]; rfl
      seen := by rw [hactions]; exact fun n hn => absurd hn List.not_mem_nil
      serverSeq := h.serverSeq.ge
      tick := h.tick.ge }

section Runs

variable [MathLib]

/-- A message numbered after the log keeps it. -/
theorem handleMessage_logOk {s : Live2v2MatchState} (hplay : PlayOk s) {n serverSeq : ℤ}
    (h : LogOk { s.logView with serverSeq := n }) (hn : n < serverSeq) (message : Live2v2Message)
    (answers : Answers) :
    LogOk { (s.handleMessage message serverSeq answers).logView with serverSeq := serverSeq } := by
  rcases handleMessage_log s message serverSeq answers with
    hsame | ⟨slot, payload, state, -, -, -, ha, haccept⟩
  · rw [hsame]
    exact h.later hn.le (le_refl s.tick)
  · rw [haccept, acceptDispatch_logView]
    obtain ⟨source, hsource⟩ := ha.source
    obtain ⟨target, htarget⟩ := ha.target
    have hbattle := hplay.battle ha.phase
    have happend : LogOk (LogView.append { s.logView with serverSeq := n } slot
        (s.actionOf slot payload serverSeq)) :=
      h.append ha.room rfl rfl hn ha.sequence.symm rfl (hbattle.named hsource)
        (hbattle.named htarget)
    exact happend

/-- The messages of a call keep it. -/
theorem handleMessages_logOk (messages : List Live2v2Message) (answers : Answers)
    {s : Live2v2MatchState} (hplay : PlayOk s) (h : LogOk s.logView) :
    LogOk (s.handleMessages messages answers).logView := by
  have hall : ∀ (messages : List Live2v2Message) (k : ℕ) (t : Live2v2MatchState), PlayOk t →
      LogOk { t.logView with serverSeq := s.serverSeq + k } →
        LogOk { ((messages.zipIdx k).foldl
            (fun t m => t.handleMessage m.1 (s.serverSeq + m.2 + 1) answers) t).logView with
          serverSeq := s.serverSeq + (k + messages.length : ℕ) } := by
    intro messages
    induction messages with
    | nil => intro k t _ ht; exact ht
    | cons message messages ih =>
      intro k t hpt ht
      rw [List.zipIdx_cons, List.foldl_cons, List.length_cons]
      have hnext := handleMessage_logOk hpt ht (Int.lt_succ _) message answers
      have hplayed : PlayOk (t.handleMessage message (s.serverSeq + k + 1) answers) :=
        changes_preserve (fun _ _ hc hs => PlayOk.change hc hs)
          (handleMessage_changes t message _ answers) hpt
      have hcast : s.serverSeq + (k : ℤ) + 1 = s.serverSeq + ((k + 1 : ℕ) : ℤ) := by
        push_cast
        ring
      rw [hcast] at hnext hplayed ⊢
      have hrest := ih (k + 1) _ hplayed hnext
      have hlen : k + 1 + messages.length = k + (messages.length + 1) := by omega
      rw [hlen] at hrest
      exact hrest
  have hstart : LogOk { s.logView with serverSeq := s.serverSeq + (0 : ℕ) } := by
    rw [Nat.cast_zero, add_zero]
    exact h
  have hend := hall messages 0 s hplay hstart
  rw [Nat.zero_add] at hend
  exact hend

/-- The tick of a match does not move while it reads its messages. -/
theorem handleMessages_tick (s : Live2v2MatchState) (messages : List Live2v2Message)
    (answers : Answers) : (s.handleMessages messages answers).tick = s.tick := by
  refine foldl_preserves (P := fun t : Live2v2MatchState => t.logView.tick = s.tick)
    (fun t m _ ht => ?_) rfl
  rcases handleMessage_log t m.1 (s.serverSeq + m.2 + 1) answers with
    hsame | ⟨slot, payload, state, -, -, -, -, haccept⟩
  · rw [hsame]
    exact ht
  · rw [haccept, acceptDispatch_logView]
    exact ht

/-- A call that comes no earlier than the one before keeps the log in order, and
the clock stays behind the calls to come. -/
theorem step_logOk {r : Live2v2Run} (hplay : PlayOk r.live) (h : LogOk r.live.logView)
    (e : Live2v2Event) (htick : ∀ tick ∈ loopTicks [e], r.live.tick ≤ tick) :
    LogOk (r.step e).live.logView ∧
      ((r.step e).live.tick = r.live.tick ∨ ∃ tick ∈ loopTicks [e], (r.step e).live.tick = tick) := by
  unfold Live2v2Run.step
  split
  · exact ⟨h, Or.inl rfl⟩
  cases e with
  | attempt presence =>
    dsimp only
    split
    · exact ⟨h, Or.inl rfl⟩
    · exact ⟨h, Or.inl rfl⟩
  | join arrivals tick =>
    dsimp only
    split
    · have hsame := matchJoin_logView r.live arrivals tick
      exact ⟨hsame ▸ h, Or.inl (congrArg LogView.tick hsame)⟩
    · exact ⟨h, Or.inl rfl⟩
  | leave presences now =>
    have hsame := matchLeave_logView r.live presences now
    exact ⟨hsame ▸ h, Or.inl (congrArg LogView.tick hsame)⟩
  | loop tick now messages answers =>
    have hlater : LogOk { r.live.logView with tick := tick } :=
      h.later (le_refl _) (htick tick List.mem_cons_self)
    have hloop := matchLoop_messages r.live tick now messages answers
    dsimp only
    cases hm : messagesFrom r.live tick now answers with
    | none =>
      rw [hm] at hloop
      exact ⟨hloop ▸ hlater, Or.inr ⟨tick, List.mem_cons_self, congrArg LogView.tick hloop⟩⟩
    | some t =>
      rw [hm] at hloop
      have hplayed : PlayOk t :=
        changes_preserve (fun _ _ hc hs => PlayOk.change hc hs) (messagesFrom_changes hm) hplay
      have hread := handleMessages_logOk messages answers hplayed (hloop.1 ▸ hlater)
      have hafter := afterMessages_logView (t.handleMessages messages answers) tick now answers
      rw [hloop.2]
      refine ⟨hafter ▸ hread, Or.inr ⟨tick, List.mem_cons_self, ?_⟩⟩
      have htick := congrArg LogView.tick hloop.1
      exact (congrArg LogView.tick hafter).trans ((handleMessages_tick t messages answers).trans htick)
  | terminate =>
    dsimp only
    unfold matchTerminate
    split
    · exact ⟨h, Or.inl rfl⟩
    · exact ⟨h, Or.inl rfl⟩

/-- **The log of a match can always be replayed.**  The runtime calls the loop at
ticks that do not go back. -/
theorem log_replayable {enable2v2 equalPower : Bool} {params : Live2v2Params}
    {lookup : String → SeatLookup} {randomHex : Option String} {startedAt : ℤ}
    {s : Live2v2MatchState}
    (h : live2v2MatchInit enable2v2 equalPower params lookup randomHex startedAt = some s)
    {events : List Live2v2Event} (hticks : (loopTicks events).Pairwise (· ≤ ·)) :
    Always Live2v2Run.step (fun r => LogReplayable r.live.actionLog) (.start s) events := by
  have hall : ∀ (events : List Live2v2Event) (r : Live2v2Run), PlayOk r.live →
      LogOk r.live.logView → (loopTicks events).Pairwise (· ≤ ·) →
        (∀ tick ∈ loopTicks events, r.live.tick ≤ tick) →
          Always Live2v2Run.step (fun r => LogReplayable r.live.actionLog) r events := by
    intro events
    induction events with
    | nil => intro r _ hlog _ _; exact always_nil.mpr hlog.replayable
    | cons e events ih =>
      intro r hplay hlog hpair hle
      rw [loopTicks_cons] at hpair hle
      obtain ⟨-, hrest, hfirst⟩ := List.pairwise_append.mp hpair
      obtain ⟨hnext, hclock⟩ := step_logOk hplay hlog e fun tick ht =>
        hle tick (List.mem_append_left _ ht)
      refine always_cons.mpr ⟨hlog.replayable, ih _
        (step_preserves (fun _ _ hm hs => PlayOk.move hm hs) e hplay) hnext hrest fun tick ht => ?_⟩
      rcases hclock with hc | ⟨first, hmem, hc⟩
      · rw [hc]
        exact hle tick (List.mem_append_right _ ht)
      · rw [hc]
        exact_mod_cast hfirst first hmem tick ht
  have hnew := live2v2MatchInit_new h
  refine hall events (.start s) hnew.playOk hnew.logOk hticks ?_
  intro tick _
  change s.tick ≤ tick
  rw [hnew.tick]
  exact Int.natCast_nonneg tick

end Runs

theorem log_replayable_four :
    (teamLost.foldl (@Live2v2Run.step decimalHypot) (.start fourMatch)).live.actionLog.length = 1 ∧
      Always (@Live2v2Run.step decimalHypot) (fun r => LogReplayable r.live.actionLog)
        (.start fourMatch) teamLost :=
  ⟨by decide +kernel,
    @log_replayable decimalHypot _ _ _ _ _ _ _ fourMatch_init teamLost (by decide)⟩

end CrownClash.Go
