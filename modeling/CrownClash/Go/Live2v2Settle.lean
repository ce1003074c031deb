import CrownClash.Go.Live2v2Forfeit
import CrownClash.Lib.Oracle

/-!
# Server: the settlement of a 2v2 match

A match that is over asks the store to settle it, at once and, while the store
fails, again every few seconds.  In between the match goes on reading messages,
and the request is built anew for every attempt.

An attempt is what the result of a call shows of it: with another answer of the
store to that request the call would have ended elsewhere.  `matchLoop_asks` says
that a call makes one attempt at most and what state it leaves; from there on
`finished_request` holds the request still.
-/

namespace CrownClash.Go

open Lib Live2v2MatchState
open Store (MatchSettlement)

/-- What the store answers to a request. -/
abbrev SettleAnswers : Type := Settle2v2Request → Option (Slot → MatchSettlement)

/-- An attempt leaves the match finished, with the request it carried, and settled
exactly if the store agreed. -/
structure Attempted (q : Settle2v2Request) (answer : Option (Slot → MatchSettlement))
    (s : Live2v2MatchState) : Prop where
  phase : s.phase = .finished
  request : s.settleRequest = q
  settled : s.settled = answer.isSome

variable (matchCreate : Option { id : String // id ≠ "" })

/-! ### The end of a match asks once -/

variable {matchCreate} in
theorem finishMatch_attempted {s : Live2v2MatchState} (h : s.settled = false)
    (settle : SettleAnswers) :
    Attempted s.settleRequest (settle s.settleRequest) (s.finishMatch ⟨settle, matchCreate⟩) := by
  unfold finishMatch
  rw [if_neg (by rw [h]; exact Bool.false_ne_true)]
  have hq : ({ s with phase := .finished } : Live2v2MatchState).settleRequest
      = s.settleRequest := rfl
  dsimp only
  rw [hq]
  cases settle s.settleRequest with
  | none => exact ⟨rfl, rfl, h⟩
  | some settlements => exact ⟨rfl, rfl, rfl⟩

theorem finishMatch_asks (s : Live2v2MatchState) :
    AsksOnce Attempted fun settle : SettleAnswers => s.finishMatch ⟨settle, matchCreate⟩ := by
  cases hs : s.settled with
  | true =>
    refine .never fun ask other => ?_
    unfold finishMatch
    rw [if_pos hs, if_pos hs]
  | false =>
    refine .once s.settleRequest (fun ask other hq => ?_) (finishMatch_attempted hs)
    unfold finishMatch
    rw [if_neg (by rw [hs]; exact Bool.false_ne_true),
      if_neg (by rw [hs]; exact Bool.false_ne_true)]
    have hrequest : ({ s with phase := .finished } : Live2v2MatchState).settleRequest
        = s.settleRequest := rfl
    dsimp only
    rw [hrequest, hq]

open Classical in

theorem checkTeamForfeit_asks (s : Live2v2MatchState) :
    AsksOnce Attempted fun settle : SettleAnswers => s.checkTeamForfeit ⟨settle, matchCreate⟩ := by
  unfold checkTeamForfeit
  apply AsksOnce.ite
  · intro _
    exact finishMatch_asks matchCreate { s with state := { s.state with status := .defeat } }
  · intro _
    apply AsksOnce.ite
    · intro _
      exact finishMatch_asks matchCreate { s with state := { s.state with status := .victory } }
    · intro _
      exact .never fun _ _ => rfl

theorem handleSurrender_asks (s : Live2v2MatchState) (message : Live2v2Message) (slot : Slot) :
    AsksOnce Attempted fun settle : SettleAnswers =>
      s.handleSurrender message slot ⟨settle, matchCreate⟩ := by
  unfold handleSurrender
  cases s.phase with
  | waiting => exact .never fun _ _ => rfl
  | countdown => exact .never fun _ _ => rfl
  | playing =>
    dsimp only
    apply AsksOnce.ite
    · intro _
      exact .never fun _ _ => rfl
    · intro _
      exact checkTeamForfeit_asks matchCreate _
  | finished => exact .never fun _ _ => rfl
  | cancelled => exact .never fun _ _ => rfl

section Loop

variable [MathLib]

theorem handleMessage_asks (s : Live2v2MatchState) (message : Live2v2Message) (serverSeq : ℤ) :
    AsksOnce Attempted fun settle : SettleAnswers =>
      s.handleMessage message serverSeq ⟨settle, matchCreate⟩ := by
  unfold handleMessage
  cases s.senderSlot message with
  | none => exact .never fun _ _ => rfl
  | some slot =>
    cases readPayload message with
    | none => exact .never fun _ _ => rfl
    | some payload =>
      dsimp only
      apply AsksOnce.ite
      · intro _
        exact .never fun _ _ => rfl
      intro _
      apply AsksOnce.ite
      · intro _
        exact .never fun _ _ => rfl
      intro _
      apply AsksOnce.ite
      · intro _
        exact handleSurrender_asks matchCreate s message slot
      intro _
      apply AsksOnce.ite
      · intro _
        exact .never fun _ _ => rfl
      · intro _
        exact .never fun _ _ => rfl

/-! ### A finished match reads on -/

variable {matchCreate} in
/-- A finished match does not ask while it reads a message. -/
theorem handleMessage_finished_asks {s : Live2v2MatchState} (h : s.phase = .finished)
    (message : Live2v2Message) (serverSeq : ℤ) (ask other : SettleAnswers) :
    s.handleMessage message serverSeq ⟨other, matchCreate⟩
      = s.handleMessage message serverSeq ⟨ask, matchCreate⟩ := by
  have hsurrender : ∀ slot, s.handleSurrender message slot ⟨other, matchCreate⟩
      = s.handleSurrender message slot ⟨ask, matchCreate⟩ := by
    intro slot
    unfold handleSurrender
    rw [h]
  unfold handleMessage
  cases s.senderSlot message with
  | none => rfl
  | some slot =>
    cases readPayload message with
    | none => rfl
    | some payload =>
      dsimp only
      rw [hsurrender slot]
      rfl

omit [MathLib] in
theorem handleRematchVote_settled (s : Live2v2MatchState) (message : Live2v2Message) (slot : Slot)
    (answers : Answers) : (s.handleRematchVote message slot answers).settled = s.settled := by
  unfold handleRematchVote
  split
  · rfl
  split
  · rfl
  split
  · rfl
  split
  · rfl
  dsimp only
  split
  · unfold startRematch
    cases answers.matchCreate with
    | none => rfl
    | some matchId => rfl
  · rfl

/-- A finished match settles nothing while it reads a message. -/
theorem handleMessage_finished_settled {s : Live2v2MatchState} (h : s.phase = .finished)
    (message : Live2v2Message) (serverSeq : ℤ) (answers : Answers) :
    (s.handleMessage message serverSeq answers).settled = s.settled := by
  unfold handleMessage
  cases s.senderSlot message with
  | none => rfl
  | some slot =>
    cases readPayload message with
    | none => rfl
    | some payload =>
      dsimp only
      split
      · unfold handleDispatch
        rw [if_pos (by rw [h]; decide)]
        rfl
      split
      · unfold handleReady
        split
        · rfl
        · rfl
      split
      · unfold handleSurrender
        rw [h]
        rfl
      split
      · exact handleRematchVote_settled s message slot answers
      · rfl

variable {matchCreate} in
/-- An attempt survives the messages read after it. -/
theorem handleMessage_attempted {q : Settle2v2Request}
    {answer : Option (Slot → MatchSettlement)} {s : Live2v2MatchState} (h : Attempted q answer s)
    (message : Live2v2Message) (serverSeq : ℤ) (answers : Answers) :
    Attempted q answer (s.handleMessage message serverSeq answers) := by
  have hlobby : LobbyMoves (.loop 0 0 [message] answers) s.lobby
      (s.handleMessage message serverSeq answers).lobby :=
    handleMessage_lobby serverSeq List.mem_cons_self
  have hkept := finished_moves (moves_of_changes (handleMessage_changes s message serverSeq answers))
    hlobby h.phase
  exact ⟨hkept.1, hkept.2.1.trans h.request,
    (handleMessage_finished_settled h.phase message serverSeq answers).trans h.settled⟩

/-- **The messages of a call make one attempt at most.** -/
theorem handleMessages_asks (s : Live2v2MatchState) (messages : List Live2v2Message) :
    AsksOnce Attempted fun settle : SettleAnswers =>
      s.handleMessages messages ⟨settle, matchCreate⟩ := by
  have hall : ∀ (numbered : List (Live2v2Message × ℕ)) (t : Live2v2MatchState),
      AsksOnce Attempted fun settle : SettleAnswers => numbered.foldl
        (fun t m => t.handleMessage m.1 (s.serverSeq + m.2 + 1) ⟨settle, matchCreate⟩) t := by
    intro numbered
    induction numbered with
    | nil => intro t; exact .never fun _ _ => rfl
    | cons m numbered ih =>
      intro t
      have hrest : ∀ (q : Settle2v2Request) (answer : Option (Slot → MatchSettlement))
          (t : Live2v2MatchState), Attempted q answer t →
          (∀ ask other : SettleAnswers,
            numbered.foldl (fun t m =>
              t.handleMessage m.1 (s.serverSeq + m.2 + 1) ⟨other, matchCreate⟩) t
            = numbered.foldl (fun t m =>
              t.handleMessage m.1 (s.serverSeq + m.2 + 1) ⟨ask, matchCreate⟩) t) ∧
          ∀ ask : SettleAnswers, Attempted q answer (numbered.foldl (fun t m =>
            t.handleMessage m.1 (s.serverSeq + m.2 + 1) ⟨ask, matchCreate⟩) t) := by
        intro q answer t ht
        constructor
        · intro ask other
          have hstep : ∀ t u : Live2v2MatchState, ∀ m ∈ numbered, t = u ∧ Attempted q answer u →
              t.handleMessage m.1 (s.serverSeq + m.2 + 1) ⟨other, matchCreate⟩
                = u.handleMessage m.1 (s.serverSeq + m.2 + 1) ⟨ask, matchCreate⟩ ∧
              Attempted q answer
                (u.handleMessage m.1 (s.serverSeq + m.2 + 1) ⟨ask, matchCreate⟩) := by
            rintro t u m - ⟨rfl, hu⟩
            exact ⟨handleMessage_finished_asks hu.phase m.1 _ ask other,
              handleMessage_attempted hu m.1 _ _⟩
          exact (foldl_lockstep hstep ⟨rfl, ht⟩).1
        · intro ask
          exact foldl_preserves (P := fun t => Attempted q answer t)
            (fun t m _ ht => handleMessage_attempted ht m.1 (s.serverSeq + m.2 + 1) _) ht
      exact AsksOnce.comp (handleMessage_asks matchCreate t m.1 (s.serverSeq + m.2 + 1))
        (fun ask => ih _) hrest
  refine AsksOnce.comp
    (g := fun t (_ : SettleAnswers) => { t with serverSeq := s.serverSeq + messages.length })
    (hall messages.zipIdx s) (fun ask => .never fun _ _ => rfl) fun q answer t ht => ?_
  exact ⟨fun _ _ => rfl, fun _ => ⟨ht.phase, ht.request, ht.settled⟩⟩

/-! ### The loop -/

theorem playTick_asks (s : Live2v2MatchState) (now : ℤ) :
    AsksOnce Attempted fun settle : SettleAnswers => s.playTick now ⟨settle, matchCreate⟩ := by
  unfold playTick
  dsimp only
  apply AsksOnce.ite
  · intro _
    exact finishMatch_asks matchCreate _
  intro _
  apply AsksOnce.ite
  · intro _
    exact finishMatch_asks matchCreate { s.stepped.broadcastStates with
      state := { s.stepped.broadcastStates.state with status := .draw } }
  · intro _
    exact .never fun _ _ => rfl

/-- The same for a call, which answers whether the match goes on. -/
def AttemptedCall (q : Settle2v2Request) (answer : Option (Slot → MatchSettlement))
    (p : Live2v2MatchState × Bool) : Prop :=
  Attempted q answer p.1

variable {matchCreate} in
theorem afterMessages_over {s : Live2v2MatchState} (h : s.phase = .finished) (tick now : ℤ)
    (ask other : SettleAnswers) : s.afterMessages tick now ⟨other, matchCreate⟩
      = s.afterMessages tick now ⟨ask, matchCreate⟩ := by
  unfold afterMessages
  rw [if_pos h, if_pos h]

theorem afterMessages_attempted {q : Settle2v2Request}
    {answer : Option (Slot → MatchSettlement)} {s : Live2v2MatchState} (h : Attempted q answer s)
    (tick now : ℤ) (answers : Answers) :
    AttemptedCall q answer (s.afterMessages tick now answers) := by
  unfold afterMessages
  rw [if_pos h.phase]
  split
  · show Attempted q answer (if s.rematchMade then s else s.send _ (.matchClosed s.matchId))
    split
    · exact h
    · exact ⟨h.phase, h.request, h.settled⟩
  · exact h

theorem afterMessages_asks (s : Live2v2MatchState) (tick now : ℤ) :
    AsksOnce AttemptedCall fun settle : SettleAnswers =>
      s.afterMessages tick now ⟨settle, matchCreate⟩ := by
  have hplay : AsksOnce Attempted fun settle : SettleAnswers =>
      if (s.advancePhase tick now).phase = .playing then
        (s.advancePhase tick now).playTick now ⟨settle, matchCreate⟩
      else s.advancePhase tick now := by
    apply AsksOnce.ite
    · intro _
      exact playTick_asks matchCreate _ now
    · intro _
      exact .never fun _ _ => rfl
  unfold afterMessages
  apply AsksOnce.ite
  · intro _
    exact .never fun _ _ => rfl
  · intro _
    exact AsksOnce.comp (g := fun t (_ : SettleAnswers) => (t, true)) hplay
      (fun ask => .never fun _ _ => rfl) fun q answer t ht => ⟨fun _ _ => rfl, fun _ => ht⟩

/-- The messages of a call and what comes after them make one attempt at most. -/
theorem readMessages_asks (s : Live2v2MatchState) (tick now : ℤ)
    (messages : List Live2v2Message) :
    AsksOnce AttemptedCall fun settle : SettleAnswers =>
      (s.handleMessages messages ⟨settle, matchCreate⟩).afterMessages tick now
        ⟨settle, matchCreate⟩ := by
  refine AsksOnce.comp
    (g := fun t (settle : SettleAnswers) => t.afterMessages tick now ⟨settle, matchCreate⟩)
    (handleMessages_asks matchCreate s messages)
    (fun ask => afterMessages_asks matchCreate _ tick now) fun q answer t ht => ?_
  exact ⟨afterMessages_over ht.phase tick now, fun _ => afterMessages_attempted ht tick now _⟩

/-- **A call of the loop makes one attempt at most**, and an attempt leaves the
match finished, with the request it carried. -/
theorem matchLoop_asks (s : Live2v2MatchState) (tick : ℕ) (now : ℤ)
    (messages : List Live2v2Message) :
    AsksOnce AttemptedCall fun settle : SettleAnswers =>
      s.matchLoop tick now messages ⟨settle, matchCreate⟩ := by
  unfold Live2v2MatchState.matchLoop
  apply AsksOnce.ite
  · intro _
    exact .never fun _ _ => rfl
  intro _
  apply AsksOnce.ite
  · intro _
    have hretry : AsksOnce Attempted fun settle : SettleAnswers =>
        if (tick : ℤ) ≥ s.settlementRetryAt then
          { s with tick := tick }.finishMatch ⟨settle, matchCreate⟩
        else { s with tick := tick } := by
      apply AsksOnce.ite
      · intro _
        exact finishMatch_asks matchCreate _
      · intro _
        exact .never fun _ _ => rfl
    exact AsksOnce.comp (g := fun t (_ : SettleAnswers) => (t, true)) hretry
      (fun ask => .never fun _ _ => rfl) fun q answer t ht => ⟨fun _ _ => rfl, fun _ => ht⟩
  intro _
  apply AsksOnce.ite
  · intro _
    have hgrace := checkTeamForfeit_asks matchCreate
      { s with
        tick := tick
        slots := fun slot => expireSlot now (s.slots slot) }
    refine AsksOnce.comp
      (g := fun t (settle : SettleAnswers) => if t.phase ≠ .playing then (t, true)
        else (t.handleMessages messages ⟨settle, matchCreate⟩).afterMessages tick now
          ⟨settle, matchCreate⟩)
      hgrace (fun ask => ?_) fun q answer t ht => ?_
    · apply AsksOnce.ite
      · intro _
        exact .never fun _ _ => rfl
      · intro _
        exact readMessages_asks matchCreate _ tick now messages
    · have hover : t.phase ≠ .playing := by rw [ht.phase]; decide
      constructor
      · intro ask other
        rw [if_pos hover, if_pos hover]
      · intro ask
        rw [if_pos hover]
        exact ht
  · intro _
    exact readMessages_asks matchCreate _ tick now messages

omit matchCreate in
/-- A settled match stays settled. -/
theorem settled_move {s s' : Live2v2MatchState} (hm : Move s s') (h : s.settled = true) :
    s'.settled = true := by
  cases hm with
  | simulate hplay hstatus => exact h
  | change hc =>
    cases hc with
    | keep hk => exact hk.settled.trans h
    | send messages hm => exact h
    | countdown hw => exact h
    | cancel hn => exact h
    | start hcount hi => exact h
    | accept message slot payload serverSeq hplay hseq hroom ho => exact h
    | decide status hplay hstatus hd => exact h
    | finish hplay hstatus => exact h
    | settle hf => rfl

variable {matchCreate} in
/-- A match that is settled asks nothing any more. -/
theorem matchLoop_settled {s : Live2v2MatchState} (h : s.settled = true) (tick : ℕ) (now : ℤ)
    (messages : List Live2v2Message) (ask other : SettleAnswers) :
    s.matchLoop tick now messages ⟨other, matchCreate⟩
      = s.matchLoop tick now messages ⟨ask, matchCreate⟩ := by
  cases matchLoop_asks matchCreate s tick now messages with
  | never hnever => exact hnever ask other
  | once q hreads hend =>
    -- a store that refuses would leave the match unsettled
    have hrefused := (hend fun _ => none).settled
    have hstays := moves_preserve (fun _ _ hm => settled_move hm)
      (matchLoop_moves s tick now messages ⟨fun _ => none, matchCreate⟩) h
    rw [hrefused] at hstays
    cases hstays

end Loop

/-! ### Runs -/

section Runs

omit matchCreate

variable [MathLib]

/-- **An attempt of a call**: the request the call asks the store to settle, and
what the store answers. -/
def Attempts (r : Live2v2Run) (e : Live2v2Event) (q : Settle2v2Request)
    (answer : Option (Slot → MatchSettlement)) : Prop :=
  ∃ tick now messages answers, e = .loop tick now messages answers ∧
    AsksFor (fun settle : SettleAnswers =>
      r.step (.loop tick now messages ⟨settle, answers.matchCreate⟩)) answers.settle q ∧
    answer = answers.settle q

/-- An attempt of a call is one of its loop. -/
theorem Attempts.loop {r : Live2v2Run} {e : Live2v2Event} {q : Settle2v2Request}
    {answer : Option (Slot → MatchSettlement)} (h : Attempts r e q answer) :
    r.running = true ∧ ∃ tick now messages answers, e = .loop tick now messages answers ∧
      AsksFor (fun settle : SettleAnswers =>
        r.live.matchLoop tick now messages ⟨settle, answers.matchCreate⟩) answers.settle q ∧
      answer = answers.settle q := by
  obtain ⟨tick, now, messages, answers, he, hask, hanswer⟩ := h
  cases hr : r.running with
  | false =>
    refine absurd hask (not_asksFor_of_const fun ask other => ?_)
    unfold Live2v2Run.step
    rw [hr]
    rfl
  | true =>
    refine ⟨rfl, tick, now, messages, answers, he, ?_, hanswer⟩
    let next : Live2v2MatchState × Bool → Live2v2Run := fun p =>
      { r with
        live := p.1
        running := p.2 }
    have hstep : (fun settle : SettleAnswers =>
        r.step (.loop tick now messages ⟨settle, answers.matchCreate⟩))
        = fun settle =>
          next (r.live.matchLoop tick now messages ⟨settle, answers.matchCreate⟩) := by
      funext settle
      unfold Live2v2Run.step
      rw [hr]
      rfl
    rw [hstep] at hask
    exact AsksFor.of_comp (g := next) hask

/-- **What an attempt leaves behind.** -/
theorem Attempts.attempted {r : Live2v2Run} {e : Live2v2Event} {q : Settle2v2Request}
    {answer : Option (Slot → MatchSettlement)} (h : Attempts r e q answer) :
    Attempted q answer (r.step e).live := by
  obtain ⟨hr, tick, now, messages, answers, rfl, hask, rfl⟩ := h.loop
  rw [step_loop hr]
  exact (matchLoop_asks answers.matchCreate r.live tick now messages).end_of_asksFor hask

/-- A settled match makes no attempt. -/
theorem not_attempts_of_settled {r : Live2v2Run} (h : r.live.settled = true) (e : Live2v2Event)
    (q : Settle2v2Request) (answer : Option (Slot → MatchSettlement)) :
    ¬ Attempts r e q answer := by
  intro ha
  obtain ⟨-, tick, now, messages, answers, -, hask, -⟩ := ha.loop
  exact not_asksFor_of_const (fun ask other => matchLoop_settled h tick now messages ask other) hask

end Runs

end CrownClash.Go
