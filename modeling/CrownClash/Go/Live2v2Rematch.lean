import CrownClash.Go.Live2v2Settle

/-!
# Server: the rematch of a 2v2 match

A match that is settled collects the votes of its four slots while it is kept, and
asks the runtime for a new match when the fourth comes in.  The votes and the mark
of the rematch are the `Ballot` of a match: nothing but a vote ever touches it, and
a mark stays.

`settlement_retries` puts the ballot next to the attempts to settle, for every run
of the handler.
-/

namespace CrownClash.Go

open Lib Live2v2MatchState
open Store (MatchSettlement)

/-- Who has voted for a rematch, and whether there is one. -/
structure Ballot where
  votes : Slot → Bool
  made : Bool

def Live2v2MatchState.ballot (s : Live2v2MatchState) : Ballot := ⟨s.rematchVotes, s.rematchMade⟩

theorem live2v2MatchInit_ballot {enable2v2 equalPower : Bool} {params : Live2v2Params}
    {lookup : String → SeatLookup} {randomHex : Option String} {startedAt : ℤ}
    {s : Live2v2MatchState}
    (h : live2v2MatchInit enable2v2 equalPower params lookup randomHex startedAt = some s) :
    s.ballot = ⟨fun _ => false, false⟩ := by
  unfold live2v2MatchInit at h
  dsimp only at h
  split at h
  · cases h
  simp only [Option.bind_eq_bind, Option.bind_eq_some_iff, Option.pure_def] at h
  obtain ⟨entries, -, draft, -, order, -, first, -, second, -, third, -, fourth, -, hs⟩ := h
  cases hs
  rfl

/-! ### What leaves the ballot alone -/

theorem matchJoin_ballot (s : Live2v2MatchState) (arrivals : List (Presence × Option String))
    (tick : ℤ) : (s.matchJoin arrivals tick).ballot = s.ballot := by
  have hone : ∀ (t : Live2v2MatchState) (presence : Presence) (displayName : Option String),
      (t.joinOne presence displayName).ballot = t.ballot := by
    intro t presence displayName
    unfold joinOne
    cases t.presenceByUser presence.userId with
    | some slot =>
      dsimp only
      split
      · unfold resyncRejoinedSlot
        cases ((t.adoptPresence slot presence).slots slot).presence with
        | none => rfl
        | some p => rfl
      · rfl
    | none =>
      cases t.emptySlotForUser presence.userId with
      | none => rfl
      | some slot => rfl
  have hall : (arrivals.foldl (fun s a => s.joinOne a.1 a.2) s).ballot = s.ballot :=
    foldl_preserves (P := fun t => t.ballot = s.ballot) (fun t a _ ht => (hone t a.1 a.2).trans ht)
      rfl
  unfold Live2v2MatchState.matchJoin
  dsimp only
  split
  · exact hall
  · exact hall

theorem matchLeave_ballot (s : Live2v2MatchState) (presences : List Presence) (now : ℤ) :
    (s.matchLeave presences now).ballot = s.ballot := by
  have hone : ∀ (t : Live2v2MatchState) (p : Presence), (leaveOne now t p).ballot = t.ballot := by
    intro t p
    unfold leaveOne
    split
    · rfl
    split
    · rfl
    split
    · rfl
    · rfl
  unfold Live2v2MatchState.matchLeave
  split
  · rfl
  · exact foldl_preserves (P := fun t => t.ballot = s.ballot) (fun t p _ ht => (hone t p).trans ht)
      rfl

theorem finishMatch_ballot (s : Live2v2MatchState) (answers : Answers) :
    (s.finishMatch answers).ballot = s.ballot := by
  unfold finishMatch
  split
  · rfl
  · dsimp only
    cases answers.settle { s with phase := .finished }.settleRequest with
    | none => rfl
    | some settlements => rfl

theorem endAs_ballot (s : Live2v2MatchState) (status : MatchStatus) (answers : Answers) :
    (s.endAs status answers).ballot = s.ballot :=
  finishMatch_ballot { s with state := { s.state with status := status } } answers

theorem checkTeamForfeit_ballot (s : Live2v2MatchState) (answers : Answers) :
    (s.checkTeamForfeit answers).ballot = s.ballot := by
  unfold checkTeamForfeit
  split
  · exact endAs_ballot s .defeat answers
  · split
    · exact endAs_ballot s .victory answers
    · rfl

theorem advancePhase_ballot (s : Live2v2MatchState) (tick now : ℤ) :
    (s.advancePhase tick now).ballot = s.ballot := by
  have hstart : (s.startMatch now).ballot = s.ballot := by
    unfold startMatch
    cases s.createInitial2v2State with
    | none => rfl
    | some initialState => rfl
  unfold advancePhase
  split
  · split
    · rfl
    · split
      · rfl
      · rfl
  · split
    · exact hstart
    · split
      · split
        · exact hstart
        · rfl
      · rfl
  · rfl

theorem messagesFrom_ballot {s t : Live2v2MatchState} {tick : ℕ} {now : ℤ} {answers : Answers}
    (h : messagesFrom s tick now answers = some t) : t.ballot = s.ballot := by
  unfold messagesFrom at h
  dsimp only at h
  split at h
  · cases h
  split at h
  · split at h
    · cases h
      exact checkTeamForfeit_ballot _ answers
    · cases h
  · cases h
    rfl

section Loop

variable [MathLib]

theorem afterMessages_ballot (s : Live2v2MatchState) (tick now : ℤ) (answers : Answers) :
    (s.afterMessages tick now answers).1.ballot = s.ballot := by
  have hplay : ∀ t : Live2v2MatchState, (t.playTick now answers).ballot = t.ballot := by
    intro t
    have hstepped : t.stepped.broadcastStates.ballot = t.ballot := by
      unfold stepped
      split <;> rfl
    rw [← hstepped]
    show (if t.stepped.broadcastStates.state.status ≠ .playing then
        t.stepped.broadcastStates.finishMatch answers
      else if now > t.stepped.broadcastStates.deadlineAt then
        t.stepped.broadcastStates.endAs .draw answers
      else t.stepped.broadcastStates).ballot = _
    split
    · exact finishMatch_ballot _ answers
    split
    · exact endAs_ballot _ .draw answers
    · rfl
  unfold afterMessages
  split
  · split
    · dsimp only
      split
      · rfl
      · rfl
    · rfl
  · dsimp only
    split
    · exact (hplay _).trans (advancePhase_ballot s tick now)
    · exact advancePhase_ballot s tick now

/-! ### A vote -/

omit [MathLib] in
/-- The vote of a slot. -/
def Live2v2MatchState.vote (s : Live2v2MatchState) (slot : Slot) : Live2v2MatchState :=
  { s with rematchVotes := Function.update s.rematchVotes slot true }

omit [MathLib] in
/-- A vote is refused, or it is counted in a settled match that has no rematch yet. -/
theorem handleRematchVote_cases (s : Live2v2MatchState) (message : Live2v2Message) (slot : Slot) :
    (∃ code, ∀ answers, s.handleRematchVote message slot answers = s.rejectCommand message code) ∨
      (s.phase = .finished ∧ s.settled = true ∧ s.rematchMade = false ∧
        ∀ answers, s.handleRematchVote message slot answers
          = if Slot.all.all (s.vote slot).rematchVotes then (s.vote slot).startRematch answers
            else s.vote slot) := by
  unfold handleRematchVote
  by_cases hstate : s.phase ≠ .finished ∨ s.settled = false ∨ s.rematchMade
  · exact Or.inl ⟨.invalidPayload, fun answers => if_pos hstate⟩
  by_cases hlate : s.tick ≥ s.rematchEnds
  · exact Or.inl ⟨.invalidPayload, fun answers => (if_neg hstate).trans (if_pos hlate)⟩
  by_cases haway : (!(s.slots slot).connected) = true
  · exact Or.inl ⟨.slotDisconnected, fun answers =>
      (if_neg hstate).trans ((if_neg hlate).trans (if_pos haway))⟩
  by_cases htwice : s.rematchVotes slot = true
  · exact Or.inl ⟨.invalidPayload, fun answers =>
      (if_neg hstate).trans ((if_neg hlate).trans ((if_neg haway).trans (if_pos htwice)))⟩
  · refine Or.inr ?_
    have hcounts := hstate
    rw [not_or, not_or, not_not, Bool.not_eq_false, Bool.not_eq_true] at hcounts
    refine ⟨hcounts.1, hcounts.2.1, hcounts.2.2, fun answers => ?_⟩
    rw [if_neg hstate, if_neg hlate, if_neg haway, if_neg htwice]
    rfl

omit [MathLib] in
/-- The message is a vote of the slot, and it comes while votes are counted. -/
structure Votes (s : Live2v2MatchState) (message : Live2v2Message) (slot : Slot) : Prop where
  phase : s.phase = .finished
  settled : s.settled = true
  holder : s.senderSlot message = some slot
  payload : ∃ payload, readPayload message = some payload ∧ payload.type = "rematch_vote"

/-- A message leaves the ballot alone, whatever the runtime answers, or it is a
vote that counts. -/
theorem handleMessage_ballot (s : Live2v2MatchState) (message : Live2v2Message) (serverSeq : ℤ) :
    ((∀ answers, (s.handleMessage message serverSeq answers).ballot = s.ballot) ∧
      ∀ settle matchCreate other, s.handleMessage message serverSeq ⟨settle, other⟩
        = s.handleMessage message serverSeq ⟨settle, matchCreate⟩) ∨
      ∃ slot, Votes s message slot ∧ s.rematchMade = false ∧
        ∀ answers, s.handleMessage message serverSeq answers
          = if Slot.all.all (s.vote slot).rematchVotes then (s.vote slot).startRematch answers
            else s.vote slot := by
  unfold handleMessage
  cases hs : s.senderSlot message with
  | none => exact Or.inl ⟨fun _ => rfl, fun _ _ _ => rfl⟩
  | some slot =>
    cases hr : readPayload message with
    | none => exact Or.inl ⟨fun _ => rfl, fun _ _ _ => rfl⟩
    | some payload =>
      dsimp only
      split
      · refine Or.inl ⟨fun _ => ?_, fun _ _ _ => rfl⟩
        rcases handleDispatch_cases s message payload slot serverSeq with
          ⟨code, hreject⟩ | ⟨state, -, haccept⟩
        · rw [hreject]
          rfl
        · rw [haccept]
          rfl
      split
      · refine Or.inl ⟨fun _ => ?_, fun _ _ _ => rfl⟩
        unfold handleReady
        split
        · rfl
        · rfl
      split
      · refine Or.inl ⟨fun answers => ?_, fun _ _ _ => ?_⟩
        · unfold handleSurrender
          split
          · rfl
          · rfl
          · split
            · rfl
            · exact checkTeamForfeit_ballot _ answers
          · rfl
        · unfold handleSurrender checkTeamForfeit endAs finishMatch
          rfl
      split
      · next htype =>
        rcases handleRematchVote_cases s message slot with
          ⟨code, hreject⟩ | ⟨hphase, hsettled, hmade, hcounts⟩
        · refine Or.inl ⟨fun answers => ?_, fun _ _ _ => ?_⟩
          · rw [hreject]
            rfl
          · rw [hreject, hreject]
        · exact Or.inr ⟨slot, ⟨hphase, hsettled, hs, payload, hr, htype⟩, hmade, hcounts⟩
      · exact Or.inl ⟨fun _ => rfl, fun _ _ _ => rfl⟩

omit [MathLib] in
/-- Once all four have voted, the answer of the runtime decides. -/
theorem startRematch_ballot (s : Live2v2MatchState) (answers : Answers) :
    (s.startRematch answers).ballot
      = ⟨s.rematchVotes, s.rematchMade || answers.matchCreate.isSome⟩ := by
  unfold startRematch
  cases answers.matchCreate with
  | none =>
    show (⟨s.rematchVotes, s.rematchMade⟩ : Ballot) = ⟨s.rematchVotes, s.rematchMade || false⟩
    rw [Bool.or_false]
  | some matchId =>
    show (⟨s.rematchVotes, true⟩ : Ballot) = ⟨s.rematchVotes, s.rematchMade || true⟩
    rw [Bool.or_true]

/-- A vote is only ever cast by the slot's own session. -/
theorem handleMessage_votes {s : Live2v2MatchState} {message : Live2v2Message} {serverSeq : ℤ}
    {answers : Answers} {slot : Slot}
    (h : (s.handleMessage message serverSeq answers).rematchVotes slot = true) :
    s.rematchVotes slot = true ∨ Votes s message slot := by
  rcases handleMessage_ballot s message serverSeq with ⟨hkept, -⟩ | ⟨voter, hvotes, -, hcounts⟩
  · have hsame : (s.handleMessage message serverSeq answers).rematchVotes = s.rematchVotes :=
      congrArg Ballot.votes (hkept answers)
    rw [hsame] at h
    exact Or.inl h
  · have hvoted : (s.handleMessage message serverSeq answers).rematchVotes
        = Function.update s.rematchVotes voter true := by
      rw [hcounts]
      split
      · exact congrArg Ballot.votes (startRematch_ballot (s.vote voter) answers)
      · rfl
    rw [hvoted] at h
    by_cases hslot : slot = voter
    · exact Or.inr (hslot ▸ hvotes)
    · rw [Function.update_of_ne hslot] at h
      exact Or.inl h

theorem handleMessage_made {s : Live2v2MatchState} (h : s.rematchMade = true)
    (message : Live2v2Message) (serverSeq : ℤ) (answers : Answers) :
    (s.handleMessage message serverSeq answers).rematchMade = true := by
  rcases handleMessage_ballot s message serverSeq with ⟨hkept, -⟩ | ⟨voter, -, hmade, -⟩
  · exact (congrArg Ballot.made (hkept answers)).trans h
  · rw [hmade] at h
    cases h

/-- **A message asks for a rematch** as its handling shows: with another answer of
the runtime it would have ended elsewhere. -/
def AsksRematch (s : Live2v2MatchState) (message : Live2v2Message) (serverSeq : ℤ)
    (answers : Answers) : Prop :=
  AsksFor (fun create : Unit → Option { id : String // id ≠ "" } =>
    s.handleMessage message serverSeq ⟨answers.settle, create ()⟩) (fun _ => answers.matchCreate) ()

/-- A rematch is asked for once all four slots have voted, and before there is one. -/
theorem AsksRematch.voted {s : Live2v2MatchState} {message : Live2v2Message} {serverSeq : ℤ}
    {answers : Answers} (h : AsksRematch s message serverSeq answers) :
    s.rematchMade = false ∧
      (∀ slot, (s.handleMessage message serverSeq answers).rematchVotes slot = true) ∧
      (s.handleMessage message serverSeq answers).rematchMade = answers.matchCreate.isSome := by
  rcases handleMessage_ballot s message serverSeq with ⟨-, hsame⟩ | ⟨voter, -, hmade, hcounts⟩
  · exact absurd h (not_asksFor_of_const fun ask other => hsame answers.settle (ask ()) (other ()))
  · by_cases hall : Slot.all.all (s.vote voter).rematchVotes = true
    · have hballot : (s.handleMessage message serverSeq answers).ballot
          = ⟨(s.vote voter).rematchVotes, s.rematchMade || answers.matchCreate.isSome⟩ := by
        rw [hcounts, if_pos hall]
        exact startRematch_ballot (s.vote voter) answers
      refine ⟨hmade, fun slot => ?_, ?_⟩
      · have hvotes : (s.handleMessage message serverSeq answers).rematchVotes
            = (s.vote voter).rematchVotes := congrArg Ballot.votes hballot
        rw [hvotes]
        exact List.all_eq_true.mp hall slot (Slot.mem_all slot)
      · refine (congrArg Ballot.made hballot).trans ?_
        rw [hmade]
        exact Bool.false_or _
    · refine absurd h (not_asksFor_of_const fun ask other => ?_)
      rw [hcounts, hcounts, if_neg hall, if_neg hall]

/-! ### The messages of a call, one by one -/

/-- The match once it has read the first `k` messages of a call. -/
def readFirst (t : Live2v2MatchState) (messages : List Live2v2Message) (answers : Answers)
    (k : ℕ) : Live2v2MatchState :=
  (messages.zipIdx.take k).foldl
    (fun u m => u.handleMessage m.1 (t.serverSeq + m.2 + 1) answers) t

theorem readFirst_succ {t : Live2v2MatchState} {messages : List Live2v2Message}
    {answers : Answers} {k : ℕ} {m : Live2v2Message} (h : messages[k]? = some m) :
    readFirst t messages answers (k + 1)
      = (readFirst t messages answers k).handleMessage m (t.serverSeq + k + 1) answers := by
  have hk : messages.zipIdx[k]? = some (m, k) := by
    rw [List.getElem?_zipIdx, h]
    simp
  unfold readFirst
  rw [List.take_add_one, hk, List.foldl_append]
  rfl

theorem readFirst_ballot (t : Live2v2MatchState) (messages : List Live2v2Message)
    (answers : Answers) :
    (t.handleMessages messages answers).ballot
      = (readFirst t messages answers messages.length).ballot := by
  unfold readFirst handleMessages
  rw [List.take_of_length_le (by rw [List.length_zipIdx])]
  rfl

/-- A call of the loop reads its message number `k` in the state `s`. -/
inductive Reads (r : Live2v2Run) :
    Live2v2Event → ℕ → Live2v2MatchState → Live2v2Message → ℤ → Answers → Prop
  | intro {tick : ℕ} {now : ℤ} {messages : List Live2v2Message} {answers : Answers}
    {t : Live2v2MatchState} {k : ℕ} {m : Live2v2Message} (hr : r.running = true)
    (hfrom : messagesFrom r.live tick now answers = some t) (hm : messages[k]? = some m) :
    Reads r (.loop tick now messages answers) k (readFirst t messages answers k) m
      (t.serverSeq + k + 1) answers

/-- The slot votes for a rematch with message number `k` of a call. -/
def VotesAt (r : Live2v2Run) (e : Live2v2Event) (k : ℕ) (slot : Slot) : Prop :=
  ∃ s m serverSeq answers, Reads r e k s m serverSeq answers ∧ Votes s m slot

/-- Message number `k` of a call asks the runtime for a rematch and gets it. -/
def CreatesRematch (r : Live2v2Run) (e : Live2v2Event) (k : ℕ) : Prop :=
  ∃ s m serverSeq answers, Reads r e k s m serverSeq answers ∧
    AsksRematch s m serverSeq answers ∧ answers.matchCreate.isSome = true

/-- The votes a call has read are those of before and those of its messages. -/
theorem readFirst_votes {r : Live2v2Run} {tick : ℕ} {now : ℤ} {messages : List Live2v2Message}
    {answers : Answers} {t : Live2v2MatchState} (hr : r.running = true)
    (hfrom : messagesFrom r.live tick now answers = some t) {slot : Slot} :
    ∀ k, k ≤ messages.length → (readFirst t messages answers k).rematchVotes slot = true →
      r.live.rematchVotes slot = true ∨
        ∃ j < k, VotesAt r (.loop tick now messages answers) j slot := by
  intro k
  induction k with
  | zero =>
    intro _ hv
    have hstart : t.rematchVotes = r.live.rematchVotes :=
      congrArg Ballot.votes (messagesFrom_ballot hfrom)
    rw [← hstart]
    exact Or.inl hv
  | succ k ih =>
    intro hk hv
    have hm : messages[k]? = some messages[k] := List.getElem?_eq_getElem (by omega)
    rw [readFirst_succ hm] at hv
    rcases handleMessage_votes hv with hbefore | hvotes
    · rcases ih (by omega) hbefore with hold | ⟨j, hj, hvoted⟩
      · exact Or.inl hold
      · exact Or.inr ⟨j, by omega, hvoted⟩
    · exact Or.inr ⟨k, by omega, _, _, _, _, .intro hr hfrom hm, hvotes⟩

theorem readFirst_made {t : Live2v2MatchState} {messages : List Live2v2Message}
    {answers : Answers} {j k : ℕ} (hjk : j ≤ k) (hk : k ≤ messages.length)
    (h : (readFirst t messages answers j).rematchMade = true) :
    (readFirst t messages answers k).rematchMade = true := by
  induction k, hjk using Nat.le_induction with
  | base => exact h
  | succ k hjk ih =>
    have hm : messages[k]? = some messages[k] := List.getElem?_eq_getElem (by omega)
    rw [readFirst_succ hm]
    exact handleMessage_made (ih (by omega)) _ _ _

theorem matchLoop_ballot {s : Live2v2MatchState} {tick : ℕ} {now : ℤ}
    {messages : List Live2v2Message} {answers : Answers}
    (h : messagesFrom s tick now answers = none) :
    (s.matchLoop tick now messages answers).1.ballot = s.ballot := by
  have hgrace : ({ s with tick := (tick : ℤ) }.enforceReconnectGrace now answers).ballot
      = s.ballot := checkTeamForfeit_ballot _ answers
  unfold messagesFrom at h
  dsimp only at h
  unfold Live2v2MatchState.matchLoop
  dsimp only
  by_cases hc : s.phase = .cancelled
  · rw [if_pos hc]
    rfl
  by_cases hf : s.phase = .finished ∧ s.settled = false
  · rw [if_neg hc, if_pos (by rw [hf.1, hf.2]; rfl)]
    dsimp only
    split
    · exact finishMatch_ballot _ answers
    · rfl
  have hn : ¬ (decide (s.phase = .finished) && !s.settled) = true := by
    rw [Bool.and_eq_true, Bool.not_eq_true', decide_eq_true_iff]
    exact hf
  rw [if_neg (not_or.mpr ⟨hc, hf⟩)] at h
  rw [if_neg hc, if_neg hn]
  split at h
  · next hp =>
    split at h
    · cases h
    · next hg =>
      rw [if_pos hp, if_pos hg]
      exact hgrace
  · cases h

/-- **What a call does to the ballot**: nothing, or what its messages do. -/
theorem step_ballot (r : Live2v2Run) (e : Live2v2Event) :
    (r.step e).live.ballot = r.live.ballot ∨
      ∃ tick now messages answers t, e = .loop tick now messages answers ∧ r.running = true ∧
        messagesFrom r.live tick now answers = some t ∧
        (r.step e).live.ballot = (readFirst t messages answers messages.length).ballot := by
  cases hr : r.running with
  | false =>
    refine Or.inl ?_
    unfold Live2v2Run.step
    rw [hr]
    rfl
  | true =>
    cases e with
    | attempt presence =>
      refine Or.inl ?_
      unfold Live2v2Run.step
      rw [hr]
      rw [if_neg (by decide)]
      dsimp only
      cases r.live.matchJoinAttempt presence with
      | error e => rfl
      | ok _ => rfl
    | join arrivals tick =>
      refine Or.inl ?_
      unfold Live2v2Run.step
      rw [hr]
      show (if _ then _ else r).live.ballot = r.live.ballot
      split
      · exact matchJoin_ballot r.live arrivals tick
      · rfl
    | leave presences now =>
      refine Or.inl ?_
      unfold Live2v2Run.step
      rw [hr]
      exact matchLeave_ballot r.live presences now
    | loop tick now messages answers =>
      have hloop := matchLoop_messages r.live tick now messages answers
      rw [step_loop hr]
      cases hm : messagesFrom r.live tick now answers with
      | none => exact Or.inl (matchLoop_ballot hm)
      | some t =>
        rw [hm] at hloop
        refine Or.inr ⟨tick, now, messages, answers, t, rfl, rfl, hm, ?_⟩
        rw [hloop.2]
        exact (afterMessages_ballot _ tick now answers).trans (readFirst_ballot t messages answers)
    | terminate =>
      refine Or.inl ?_
      unfold Live2v2Run.step
      rw [hr]
      show r.live.matchTerminate.ballot = r.live.ballot
      unfold matchTerminate
      split
      · rfl
      · rfl

theorem step_votes {r : Live2v2Run} {e : Live2v2Event} {slot : Slot}
    (h : (r.step e).live.rematchVotes slot = true) :
    r.live.rematchVotes slot = true ∨ ∃ k, VotesAt r e k slot := by
  rcases step_ballot r e with hsame | ⟨tick, now, messages, answers, t, rfl, hr, hfrom, hread⟩
  · have hvotes : (r.step e).live.rematchVotes = r.live.rematchVotes :=
      congrArg Ballot.votes hsame
    rw [hvotes] at h
    exact Or.inl h
  · have hvotes : (r.step (.loop tick now messages answers)).live.rematchVotes
        = (readFirst t messages answers messages.length).rematchVotes := congrArg Ballot.votes hread
    rw [hvotes] at h
    rcases readFirst_votes hr hfrom _ le_rfl h with hold | ⟨k, -, hvoted⟩
    · exact Or.inl hold
    · exact Or.inr ⟨k, hvoted⟩

theorem step_made {r : Live2v2Run} (h : r.live.rematchMade = true) (e : Live2v2Event) :
    (r.step e).live.rematchMade = true := by
  rcases step_ballot r e with hsame | ⟨tick, now, messages, answers, t, rfl, hr, hfrom, hread⟩
  · exact (congrArg Ballot.made hsame).trans h
  · have hstart : (readFirst t messages answers 0).rematchMade = true :=
      (congrArg Ballot.made (messagesFrom_ballot hfrom)).trans h
    exact (congrArg Ballot.made hread).trans (readFirst_made (Nat.zero_le _) le_rfl hstart)

/-- Before a rematch is created there is none, and after the call there is. -/
theorem CreatesRematch.made {r : Live2v2Run} {e : Live2v2Event} {k : ℕ}
    (h : CreatesRematch r e k) : r.live.rematchMade = false ∧ (r.step e).live.rematchMade = true := by
  obtain ⟨s, m, serverSeq, answers, hreads, hasks, hcreated⟩ := h
  cases hreads with
  | @intro tick now messages answers t k m hr hfrom hm =>
    obtain ⟨hnot, -, hmade⟩ := hasks.voted
    have hk : k < messages.length := (List.getElem?_eq_some_iff.mp hm).1
    rw [← readFirst_succ hm, hcreated] at hmade
    constructor
    · rw [Bool.eq_false_iff]
      intro hbefore
      have hstart : (readFirst t messages answers 0).rematchMade = true :=
        (congrArg Ballot.made (messagesFrom_ballot hfrom)).trans hbefore
      rw [readFirst_made (Nat.zero_le k) hk.le hstart] at hnot
      cases hnot
    · have hend := readFirst_made (Nat.succ_le_of_lt hk) le_rfl hmade
      have hballot := readFirst_ballot t messages answers
      have hloop := matchLoop_messages r.live tick now messages answers
      rw [hfrom] at hloop
      rw [step_loop hr, hloop.2]
      exact (congrArg Ballot.made ((afterMessages_ballot _ tick now answers).trans hballot)).trans
        hend

/-- One call creates one rematch. -/
theorem CreatesRematch.unique {r : Live2v2Run} {e : Live2v2Event} {j k : ℕ}
    (hj : CreatesRematch r e j) (hk : CreatesRematch r e k) : ¬ j < k := by
  intro hjk
  obtain ⟨s, m, serverSeq, answers, hreads, hasks, hcreated⟩ := hj
  obtain ⟨s', m', serverSeq', answers', hreads', hasks', -⟩ := hk
  cases hreads with
  | @intro tick now messages answers t j m hr hfrom hm =>
    cases hreads' with
    | @intro _ _ _ _ t' k m' _ hfrom' hm' =>
      rw [hfrom] at hfrom'
      cases hfrom'
      have hmade := hasks.voted.2.2
      rw [← readFirst_succ hm, hcreated] at hmade
      have hlt : k < messages.length := (List.getElem?_eq_some_iff.mp hm').1
      have hthere := readFirst_made (Nat.succ_le_of_lt hjk) hlt.le hmade
      rw [hasks'.voted.1] at hthere
      cases hthere

/-! ### Every run -/

/-- The slot has voted for a rematch by the time the call after `before` has read
its message number `k`. -/
def HasVoted (start : Live2v2Run) (before : List Live2v2Event) (e : Live2v2Event) (k : ℕ)
    (slot : Slot) : Prop :=
  (∃ earlier d j, earlier ++ [d] <+: before ∧
    VotesAt (earlier.foldl Live2v2Run.step start) d j slot) ∨
  ∃ j ≤ k, VotesAt (before.foldl Live2v2Run.step start) e j slot

omit [MathLib] in
/-- **The result of a match**: the winner, what each slot is settled with, the
statistics and the replay. -/
structure SameResult (s s' : Live2v2MatchState) : Prop where
  winner : winnerTeamId s'.state.status = winnerTeamId s.state.status
  outcomes : ∀ slot, s'.participantOutcome slot = s.participantOutcome slot
  stats : s'.stats = s.stats
  replay : s'.replayPayload = s.replayPayload

/-- **What the handler does about the end of a match**, along a run: the result
stands, all attempts to settle carry one request, the last is the first that
succeeds, there is one rematch at most and four slots have voted for it, and where
a match is cancelled there is no attempt at all. -/
structure SettlementRetries (start : Live2v2Run) (events : List Live2v2Event) : Prop where
  result : EachStep Live2v2Run.step (fun r e => r.live.phase = .finished →
    (r.step e).live.phase = .finished ∧ SameResult r.live (r.step e).live) start events
  request : ∃ q, EachStep Live2v2Run.step (fun r e => ∀ p answer, Attempts r e p answer → p = q)
    start events
  success : ∀ before e after, before ++ e :: after = events →
    (∃ q settlements, Attempts (before.foldl Live2v2Run.step start) e q (some settlements)) →
      EachStep Live2v2Run.step (fun r e => ∀ q answer, ¬ Attempts r e q answer)
        ((before.foldl Live2v2Run.step start).step e) after
  rematch : ∀ before e k before' e' k', before ++ [e] <+: events → before' ++ [e'] <+: events →
    CreatesRematch (before.foldl Live2v2Run.step start) e k →
      CreatesRematch (before'.foldl Live2v2Run.step start) e' k' → before = before' ∧ k = k'
  votes : ∀ before e k, before ++ [e] <+: events →
    CreatesRematch (before.foldl Live2v2Run.step start) e k →
      ∀ slot, HasVoted start before e k slot
  cancelled : (∃ before, before <+: events ∧
      (before.foldl Live2v2Run.step start).live.phase = .cancelled) →
    EachStep Live2v2Run.step (fun r e => ∀ q answer, ¬ Attempts r e q answer) start events

theorem step_result {r : Live2v2Run} (h : r.live.phase = .finished) (e : Live2v2Event) :
    (r.step e).live.phase = .finished ∧ SameResult r.live (r.step e).live := by
  obtain ⟨hphase, hrequest, hstats⟩ := finished_moves (step_moves r e) (step_lobby r e) h
  have hreplay : (r.step e).live.replayPayload = r.live.replayPayload :=
    congrArg Settle2v2Request.replayPayload hrequest
  refine ⟨hphase, congrArg Live2v2Replay.winnerTeamId hreplay, fun slot => ?_, hstats, hreplay⟩
  have hall : Slot.all.map (r.step e).live.participantOutcome
      = Slot.all.map r.live.participantOutcome :=
    congrArg Settle2v2Request.participants hrequest
  exact List.map_inj_left.mp hall slot (Slot.mem_all slot)

theorem eachStep_request {r : Live2v2Run} (h : r.live.phase = .finished)
    (events : List Live2v2Event) :
    EachStep Live2v2Run.step
      (fun q e => ∀ p answer, Attempts q e p answer → p = r.live.settleRequest) r events := by
  refine eachStep_of_preserves (I := fun q => q.live.phase = .finished ∧
    q.live.settleRequest = r.live.settleRequest) (fun q e hq => ?_) (fun q e hq p answer ha => ?_)
    ⟨h, rfl⟩
  · exact ⟨step_over (Or.inl rfl) hq.1 e, (finished_request hq.1 e).trans hq.2⟩
  · rw [← ha.attempted.request, finished_request hq.1 e, hq.2]

/-- All attempts of a run carry one request. -/
theorem one_request (events : List Live2v2Event) : ∀ r : Live2v2Run, ∃ q,
    EachStep Live2v2Run.step (fun r e => ∀ p answer, Attempts r e p answer → p = q) r events := by
  induction events with
  | nil => intro r; exact ⟨r.live.settleRequest, eachStep_nil⟩
  | cons e events ih =>
    intro r
    by_cases ha : ∃ p answer, Attempts r e p answer
    · obtain ⟨p, answer, ha⟩ := ha
      have hover := ha.attempted
      refine ⟨p, eachStep_cons.mpr ⟨fun p' answer' ha' => ?_, ?_⟩⟩
      · rw [← ha'.attempted.request, hover.request]
      · have hrest := eachStep_request hover.phase events
        rw [hover.request] at hrest
        exact hrest
    · obtain ⟨q, hq⟩ := ih (r.step e)
      exact ⟨q, eachStep_cons.mpr ⟨fun p answer hp => absurd ⟨p, answer, hp⟩ ha, hq⟩⟩

theorem cancelled_attempts {start : Live2v2Run} {before path : List Live2v2Event}
    (h : (before.foldl Live2v2Run.step start).live.phase = .cancelled) {e : Live2v2Event}
    (hpath : path ++ [e] <+: before ∨ before <+: path) (q : Settle2v2Request)
    (answer : Option (Slot → MatchSettlement)) :
    ¬ Attempts (path.foldl Live2v2Run.step start) e q answer := by
  intro ha
  have hover := ha.attempted.phase
  have hstays : ∀ (events : List Live2v2Event) {r : Live2v2Run} {phase : Live2v2Phase},
      phase = .finished ∨ phase = .cancelled → r.live.phase = phase →
        (events.foldl Live2v2Run.step r).live.phase = phase := by
    intro events r phase hphase hr
    exact foldl_preserves (P := fun r : Live2v2Run => r.live.phase = phase)
      (fun r e _ hr => step_over hphase hr e) hr
  rcases hpath with ⟨rest, rfl⟩ | ⟨rest, rfl⟩
  · rw [List.foldl_append, List.foldl_append, List.foldl_cons, List.foldl_nil,
      hstays rest (Or.inl rfl) hover] at h
    cases h
  · rw [List.foldl_append] at hover
    rw [step_over (Or.inr rfl) (hstays rest (Or.inr rfl) h) e] at hover
    cases hover

theorem votes_cast {start : Live2v2Run} (hstart : ∀ slot, start.live.rematchVotes slot = false)
    {slot : Slot} (events : List Live2v2Event) :
    (events.foldl Live2v2Run.step start).live.rematchVotes slot = true →
      ∃ earlier d j, earlier ++ [d] <+: events ∧
        VotesAt (earlier.foldl Live2v2Run.step start) d j slot := by
  refine @history _ _ Live2v2Run.step
    (fun events r => r.live.rematchVotes slot = true → ∃ earlier d j,
      earlier ++ [d] <+: events ∧ VotesAt (earlier.foldl Live2v2Run.step start) d j slot) start
    (fun hv => ?_) (fun before e ih hv => ?_) events
  · rw [hstart slot] at hv
    cases hv
  · rcases step_votes hv with hold | ⟨k, hvoted⟩
    · obtain ⟨earlier, d, j, hbefore, hvoted⟩ := ih hold
      exact ⟨earlier, d, j, hbefore.trans (List.prefix_append _ _), hvoted⟩
    · exact ⟨before, e, k, List.prefix_refl _, hvoted⟩

/-- A rematch is created once the fourth vote is in. -/
theorem CreatesRematch.hasVoted {start : Live2v2Run}
    (hstart : ∀ slot, start.live.rematchVotes slot = false) {before : List Live2v2Event}
    {e : Live2v2Event} {k : ℕ}
    (h : CreatesRematch (before.foldl Live2v2Run.step start) e k) (slot : Slot) :
    HasVoted start before e k slot := by
  obtain ⟨s, m, serverSeq, answers, hreads, hasks, -⟩ := h
  have hvotes := hasks.voted.2.1 slot
  cases hreads with
  | @intro tick now messages answers t k m hr hfrom hm =>
    have hk : k < messages.length := (List.getElem?_eq_some_iff.mp hm).1
    rw [← readFirst_succ hm] at hvotes
    rcases readFirst_votes hr hfrom (k + 1) hk hvotes with hold | ⟨j, hj, hvoted⟩
    · exact Or.inl (votes_cast hstart before hold)
    · exact Or.inr ⟨j, by omega, hvoted⟩

/-- Once there is a rematch, no call creates another. -/
theorem not_created_after {start : Live2v2Run} {before before' : List Live2v2Event}
    {e e' : Live2v2Event} {k k' : ℕ} (hb : before ++ [e] <+: before')
    (h : CreatesRematch (before.foldl Live2v2Run.step start) e k) :
    ¬ CreatesRematch (before'.foldl Live2v2Run.step start) e' k' := by
  intro h'
  obtain ⟨rest, rfl⟩ := hb
  have hmade : ((before ++ [e] ++ rest).foldl Live2v2Run.step start).live.rematchMade = true := by
    rw [List.foldl_append, List.foldl_append]
    exact foldl_preserves (P := fun r : Live2v2Run => r.live.rematchMade = true)
      (fun r e _ hr => step_made hr e) h.made.2
  rw [h'.made.1] at hmade
  cases hmade

/-- **Settling a 2v2 match, whatever happens after its end.**  In every run of the
handler the result of a finished match stands, all attempts to settle carry the same
request and stop with the first that succeeds, a rematch is created at most once and
only when all four slots have voted, and a cancelled match is never settled. -/
theorem settlement_retries {enable2v2 equalPower : Bool} {params : Live2v2Params}
    {lookup : String → SeatLookup} {randomHex : Option String} {startedAt : ℤ}
    {s : Live2v2MatchState}
    (h : live2v2MatchInit enable2v2 equalPower params lookup randomHex startedAt = some s)
    (events : List Live2v2Event) : SettlementRetries (.start s) events where
  result := fun _ e _ hf => step_result hf e
  request := one_request events (.start s)
  success := by
    rintro before e after - ⟨q, settlements, ha⟩
    exact eachStep_of_preserves (I := fun r => r.live.settled = true)
      (fun r e hr => step_preserves (fun _ _ hm => settled_move hm) e hr)
      (fun r e hr q answer => not_attempts_of_settled hr e q answer) ha.attempted.settled
  rematch := by
    intro before e k before' e' k' hb hb' hc hc'
    rcases snoc_prefix_cases hb hb' with ⟨rfl, rfl⟩ | hlater | hlater
    · have hle := hc.unique hc'
      have hge := hc'.unique hc
      exact ⟨rfl, by omega⟩
    · exact absurd hc' (not_created_after hlater hc)
    · exact absurd hc (not_created_after hlater hc')
  votes := by
    intro before e k _ hc slot
    have hnone : s.rematchVotes = fun _ => false :=
      congrArg Ballot.votes (live2v2MatchInit_ballot h)
    exact hc.hasVoted (fun slot => congrFun hnone slot) slot
  cancelled := by
    rintro ⟨before, hb, hcancelled⟩ path e hpath q answer
    rcases List.prefix_or_prefix_of_prefix hpath hb with hlater | hlater
    · exact cancelled_attempts hcancelled (Or.inl hlater) q answer
    · rcases List.prefix_concat_iff.mp hlater with rfl | hlater
      · exact cancelled_attempts hcancelled (Or.inl (List.prefix_refl _)) q answer
      · exact cancelled_attempts hcancelled (Or.inr hlater) q answer

def voteOf (userId : String) : Live2v2Message := messageOf userId "rematch_vote" 0 "" ""

/-- The time of the four runs out, the store fails at first, and then they vote. -/
def playedAgain : List Live2v2Event :=
  fourReady ++
    [.loop 2 (121 * second) [] ⟨fun _ => none, none⟩,
     .loop 3 (121 * second) [] settlingAnswers,
     .loop 22 (122 * second) [] settlingAnswers,
     .loop 23 (122 * second) [voteOf "anna", voteOf "bert", voteOf "carl", voteOf "dora"]
      { settlingAnswers with matchCreate := some ⟨"next", by decide⟩ }]

omit [MathLib] in
theorem settlement_retries_four :
    let again := playedAgain.foldl (@Live2v2Run.step decimalHypot) (.start fourMatch)
    (again.live.phase = .finished ∧ again.live.settled = true ∧ again.live.rematchMade = true) ∧
      @SettlementRetries decimalHypot (.start fourMatch) playedAgain :=
  ⟨by decide +kernel, @settlement_retries decimalHypot _ _ _ _ _ _ _ fourMatch_init playedAgain⟩

end Loop

end CrownClash.Go
