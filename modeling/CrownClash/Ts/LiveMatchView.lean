import CrownClash.Ts.LiveMatchClient

/-!
# Client: how far a session is

What the server says moves a 2v2 session from waiting for its match to playing it, and
from there to its end.  Losing the connection and getting it back does not: seen from
here (`view`) sockets, timers, attempts and the player's orders change nothing.
-/

namespace CrownClash.Ts

open Lib LiveMatchClient

inductive Stage
  | waiting
  | playing
  | finished
  | cancelled
  | expired
  deriving DecidableEq, Repr

/-- A session that reconnects, or has failed to, is still in its match. -/
def TwoVTwoSessionPhase.stage : TwoVTwoSessionPhase → Stage
  | .connecting => .waiting
  | .active => .playing
  | .reconnecting => .playing
  | .reconnectFailed => .playing
  | .finished => .finished
  | .cancelled => .cancelled
  | .expired => .expired

structure SessionView where
  canonicalMatchId : Option String
  stage : Stage
  deriving DecidableEq, Repr

def TwoVTwoSession.view (session : TwoVTwoSession) : SessionView :=
  ⟨session.canonicalMatchId, session.phase.stage⟩

structure ClientView where
  v2 : Option ℕ
  lastSettledMatchId : Option String
  sessions : ℕ → SessionView

def LiveMatchClient.view (c : LiveMatchClient) : ClientView :=
  ⟨c.v2, c.lastSettledMatchId, fun i => (c.sessions i).view⟩

/-! ### What cannot be seen -/

theorem view_setSession (c : LiveMatchClient) (i : ℕ) (session : TwoVTwoSession) :
    (c.setSession i session).view =
      { c.view with sessions := Function.update c.view.sessions i session.view } := by
  change ClientView.mk _ _ _ = ClientView.mk _ _ _
  congr 1
  funext k
  change (Function.update c.sessions i session k).view =
    Function.update (fun k => (c.sessions k).view) i session.view k
  by_cases hk : k = i
  · rw [hk, Function.update_self, Function.update_self]
  · rw [Function.update_of_ne hk, Function.update_of_ne hk]

/-- A session changes in what cannot be seen. -/
theorem view_setSession_same {c : LiveMatchClient} {i : ℕ} {session : TwoVTwoSession}
    (h : session.view = (c.sessions i).view) : (c.setSession i session).view = c.view := by
  rw [view_setSession, h]
  change { c.view with sessions := Function.update c.view.sessions i (c.view.sessions i) } = _
  rw [Function.update_eq_self]

@[simp] theorem view_setSocket (c : LiveMatchClient) (j : ℕ) (socket : ClientSocket) :
    (c.setSocket j socket).view = c.view := rfl

@[simp] theorem view_setTimeout (c : LiveMatchClient) (callback : TimerCallback) :
    (c.setTimeout callback).view = c.view := rfl

@[simp] theorem view_clearTimeout (c : LiveMatchClient) (id : Option ℕ) :
    (c.clearTimeout id).view = c.view := by
  cases id <;> rfl

@[simp] theorem view_dropSocket (c : LiveMatchClient) (j : ℕ) :
    (c.dropSocket j).view = c.view := rfl

/-- Views that agree agree on each session. -/
theorem view_session {c c' : LiveMatchClient} (h : c'.view = c.view) (i : ℕ) :
    (c'.sessions i).view = (c.sessions i).view :=
  congrFun (congrArg ClientView.sessions h) i

@[simp] theorem view_schedule (c : LiveMatchClient) :
    c.scheduleTwoVTwoReconnectAttempt.view = c.view := by
  unfold scheduleTwoVTwoReconnectAttempt
  split
  · rfl
  split
  · exact view_setSession_same rfl
  · rfl

@[simp] theorem view_begin (c : LiveMatchClient) : c.beginTwoVTwoReconnect.view = c.view := by
  unfold beginTwoVTwoReconnect
  split
  · rfl
  next i hi =>
  split
  · rfl
  next hgo =>
  rw [not_or, not_not] at hgo
  rw [view_schedule]
  refine view_setSession_same ?_
  change SessionView.mk _ _ = SessionView.mk _ (c.sessions i).phase.stage
  rw [hgo.1]
  rfl

@[simp] theorem view_teardown (c : LiveMatchClient) :
    c.teardownTwoVTwoReconnectTimers.view = c.view := by
  unfold teardownTwoVTwoReconnectTimers
  split
  · rfl
  next i hi =>
  split
  · rfl
  next reconnect hr =>
  refine (view_setSession_same ?_).trans ?_
  · exact (view_session (by simp) i).symm
  · simp

@[simp] theorem view_finish (c : LiveMatchClient) : c.finishTwoVTwoReconnect.view = c.view := by
  unfold finishTwoVTwoReconnect
  split
  · rfl
  next i hi =>
  split
  · rfl
  next hp =>
  rw [not_not] at hp
  refine (view_setSession_same ?_).trans (view_teardown c)
  rw [view_session (view_teardown c)]
  change SessionView.mk _ _ = SessionView.mk _ (c.sessions i).phase.stage
  rw [hp]
  rfl

@[simp] theorem view_scheduleNext (c : LiveMatchClient) :
    c.scheduleNextTwoVTwoReconnectAttempt.view = c.view := by
  unfold scheduleNextTwoVTwoReconnectAttempt
  split
  · rfl
  split
  · rw [view_schedule]
    exact view_setSession_same rfl
  · rfl

@[simp] theorem view_attempt (c : LiveMatchClient) :
    c.attemptTwoVTwoReconnect.view = c.view := by
  unfold attemptTwoVTwoReconnect
  split
  · rfl
  split
  · split
    · exact view_finish c
    · rfl
  · rfl

@[simp] theorem view_attemptFailed (c : LiveMatchClient) (i : ℕ) (code : String) :
    (c.attemptFailed i code).view = c.view := by
  unfold attemptFailed
  split
  · rfl
  split
  · exact view_finish c
  · exact view_scheduleNext c

@[simp] theorem view_attempts (c : LiveMatchClient) (attempts : List Attempt) :
    { c with attempts := attempts }.view = c.view := rfl

/-- A session moves to another socket. -/
theorem view_adopt (c : LiveMatchClient) (i fresh : ℕ) (attempts : List Attempt) :
    { (c.setSession i { c.sessions i with socket := fresh }).bindSocketHandlers fresh with
      attempts := attempts }.view = c.view := by
  have hsession : (c.setSession i { c.sessions i with socket := fresh }).view = c.view :=
    view_setSession_same rfl
  exact hsession

theorem view_onTransport (c : LiveMatchClient) (k : ℕ) (result : Except String Unit) :
    (c.onTransport k result).view = c.view := by
  unfold onTransport
  split
  next i hi =>
    dsimp only
    split
    · simp
    · split
      · rfl
      · exact view_adopt _ i _ _
  · rfl

theorem view_onJoined (c : LiveMatchClient) (k : ℕ) (result : Except String Unit) :
    (c.onJoined k result).view = c.view := by
  unfold onJoined
  split
  next i fresh hk =>
    dsimp only
    split
    · simp
    · split
      · simp
      · exact view_setSession_same rfl
  · rfl

theorem view_onTimer (c : LiveMatchClient) (id : ℕ) : (c.onTimer id).view = c.view := by
  unfold onTimer
  split
  · rfl
  next callback hcallback =>
  cases callback with
  | attempt => simp
  | deadline => simp
  | resync i fresh =>
    dsimp only
    unfold onResyncTimeout
    split
    · simp
    split
    · simp
    · simp

theorem view_sendDispatch (c : LiveMatchClient) (sourceId targetId : String) :
    (c.sendDispatch sourceId targetId).view = c.view := by
  unfold sendDispatch
  split
  · dsimp only
    split
    · rfl
    · exact view_setSession_same rfl
  · split
    · rfl
    · rfl

/-- What happens to the client while it stays in its match, data of the server apart. -/
def LiveMatchClient.ClientEvent.isOwn : ClientEvent → Bool
  | .data .. => false
  | .close => false
  | _ => true

/-- **Nothing but the server moves a session.** -/
theorem view_step (c : LiveMatchClient) {e : ClientEvent} (h : e.isOwn = true) :
    (c.step e).view = c.view := by
  cases e with
  | data j opCode payload => cases h
  | close => cases h
  | lost j =>
    change (c.onLost j).view = c.view
    unfold onLost
    split
    · split
      · rfl
      · exact view_begin _
    · rfl
  | timer id => exact view_onTimer c id
  | transport k result => exact view_onTransport c k result
  | joined k result => exact view_onJoined c k result
  | dispatch sourceId targetId => exact view_sendDispatch c sourceId targetId
  | sendFailed i =>
    change (if c.v2 = some i then c.beginTwoVTwoReconnect else c).view = c.view
    split
    · exact view_begin c
    · rfl

/-! ### What the server says -/

/-- A match starts for a session that waits; a session in its match only resyncs. -/
def SessionView.started (session : SessionView) (matchId : String) : SessionView :=
  if session.stage = .waiting then ⟨some matchId, .playing⟩ else session

/-- The result of the match of the session ends it, unless it is settled already. -/
def ClientView.ended (c : ClientView) (i : ℕ) (matchId : String) (stage : Stage) : ClientView :=
  if (c.sessions i).canonicalMatchId ≠ some matchId ∨ c.lastSettledMatchId = some matchId then c
  else
    { c with
      lastSettledMatchId := some matchId
      sessions := Function.update c.sessions i ⟨some matchId, stage⟩ }

theorem view_matchStarted (c : LiveMatchClient) (i : ℕ) (payload : TwoVTwoMatchStartedPayload) :
    (c.handleTwoVTwoMatchStarted i payload).view =
      { c.view with
        sessions := Function.update c.view.sessions i
          ((c.view.sessions i).started payload.matchId) } := by
  have hsame : ∀ {c' : LiveMatchClient}, c'.view = c.view → (c.sessions i).phase.stage ≠ .waiting →
      c'.view = { c.view with
        sessions := Function.update c.view.sessions i
          ((c.view.sessions i).started payload.matchId) } := by
    intro c' hc' hstage
    rw [hc']
    have hkeep : (c.view.sessions i).started payload.matchId = c.view.sessions i := if_neg hstage
    rw [hkeep, Function.update_eq_self]
  unfold handleTwoVTwoMatchStarted
  dsimp only
  split
  next hp =>
    have hstage : (c.sessions i).phase.stage ≠ .waiting := by
      rw [hp]
      decide
    split
    · exact hsame rfl hstage
    next hresync =>
      refine hsame ((view_setSession_same ?_).trans (view_teardown c)) hstage
      rw [view_session (view_teardown c)]
      rw [Bool.not_eq_true', Bool.not_eq_false] at hresync
      have hid := (of_decide_eq_true hresync).1
      change SessionView.mk (some payload.matchId) .playing =
        SessionView.mk (c.sessions i).canonicalMatchId (c.sessions i).phase.stage
      rw [hp, hid]
      rfl
  next hp =>
    rw [view_setSession]
    have hstart : (c.view.sessions i).started payload.matchId =
        ⟨some payload.matchId, .playing⟩ := by
      refine if_pos ?_
      change (c.sessions i).phase.stage = _
      rw [hp]
      rfl
    rw [hstart]
    rfl
  next hr hc =>
    refine hsame rfl fun hstage => ?_
    cases hp : (c.sessions i).phase with
    | connecting => exact hc hp
    | _ =>
      rw [hp] at hstage
      cases hstage

/-- **What a message does to the session of the client**, while its match is not over. -/
theorem view_applyMessage {c : LiveMatchClient} {i : ℕ} (h : (c.sessions i).phase ≠ .finished)
    (message : TwoVTwoServerMessage) :
    (c.applyTwoVTwoMessage i message).view =
      match message with
      | .matchStarted payload =>
        { c.view with
          sessions := Function.update c.view.sessions i
            ((c.view.sessions i).started payload.matchId) }
      | .matchResult payload =>
        c.view.ended i payload.matchId (if payload.cancelled then .cancelled else .finished)
      | _ => c.view := by
  unfold applyTwoVTwoMessage
  cases message with
  | matchStarted payload => exact view_matchStarted c i payload
  | state tick state =>
    dsimp only
    split
    · rfl
    · exact view_setSession_same rfl
  | commandAccepted sequence slot =>
    dsimp only
    split
    · rfl
    · exact view_setSession_same rfl
  | commandRejected sequence code => exact view_setSession_same rfl
  | matchResult payload =>
    dsimp only
    unfold ClientView.ended
    by_cases hid : (c.sessions i).canonicalMatchId ≠ some payload.matchId
    · rw [if_pos hid]
      exact (if_pos (Or.inl hid)).symm
    by_cases hsettled : c.lastSettledMatchId = some payload.matchId
    · rw [if_neg hid, if_pos hsettled]
      exact (if_pos (Or.inr hsettled)).symm
    · rw [if_neg hid, if_neg hsettled, view_setSession]
      refine Eq.trans ?_ (if_neg (not_or.mpr ⟨hid, hsettled⟩)).symm
      rw [not_not] at hid
      unfold TwoVTwoSession.view
      dsimp only
      rw [hid]
      cases payload.cancelled <;> rfl
  | rematchStarted matchId => exact congrArg LiveMatchClient.view (if_pos h)
  | matchClosed matchId => exact congrArg LiveMatchClient.view (if_pos (Or.inl h))
  | error code => rfl

end CrownClash.Ts
