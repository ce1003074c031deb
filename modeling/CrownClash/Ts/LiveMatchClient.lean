import CrownClash.Ts.Pvp2v2Wire
import Mathlib.Logic.Function.Basic

/-!
# Client: the live match client

`LiveMatchClient.ts`, from the moment its match was found: the sequence numbers it
gives to the orders of its player, what it makes of the messages of the server, and
the reconnect of a 2v2 session, whose steps wait for a timer, for a new socket and
for the answer to a join.  Between any two of them everything else may happen.

A session is an object that waiting steps hold on to while the client may have moved
on to another, so sessions have numbers, and so do sockets, timers and attempts.  The
listeners of the client are not modelled, nor is its queue.
-/

namespace CrownClash.Ts

open Lib

inductive TwoVTwoSessionPhase
  | connecting
  | active
  | reconnecting
  | reconnectFailed
  | finished
  | cancelled
  | expired
  deriving DecidableEq, Repr

/-- The reconnect record of a session: its timers by their numbers. -/
structure Reconnect where
  attempts : ℕ
  attemptTimer : Option ℕ
  resyncTimer : Option ℕ
  deadlineTimer : Option ℕ

structure TwoVTwoSession where
  phase : TwoVTwoSessionPhase
  rawMatchId : String
  canonicalMatchId : Option String
  slot : Option ℤ
  teamId : Option TeamId
  roster : Option (List TwoVTwoRosterEntry)
  nextSequence : ℤ
  lastAppliedTick : ℤ
  acceptedSequences : List ℤ
  pendingSequences : List ℤ
  socket : ℕ
  reconnect : Option Reconnect

/-- A session that has just been opened. -/
def TwoVTwoSession.opened (rawMatchId : String) (socket : ℕ) : TwoVTwoSession where
  phase := .connecting
  rawMatchId := rawMatchId
  canonicalMatchId := none
  slot := none
  teamId := none
  roster := none
  nextSequence := 0
  lastAppliedTick := -1
  acceptedSequences := []
  pendingSequences := []
  socket := socket
  reconnect := none

/-- `handlers` is the epoch in which the handlers of a socket were bound. -/
structure ClientSocket where
  connected : Bool
  handlers : Option ℕ

inductive TimerCallback
  | attempt
  | resync (session socket : ℕ)
  | deadline

/-- What an attempt to reconnect waits for. -/
inductive Attempt
  | transport (session : ℕ)
  | join (session socket : ℕ)
  | ended

/-- An order as it is sent; the second protocol puts its version in front. -/
structure DispatchMessage where
  schemaVersion : Option ℤ
  sequence : ℤ
  sourceId : String
  targetId : String
  deriving DecidableEq, Repr

structure LiveMatchClient where
  sockets : ℕ → ClientSocket
  socketCount : ℕ
  socketEpoch : ℕ
  sessions : ℕ → TwoVTwoSession
  sessionCount : ℕ
  v2 : Option ℕ
  matchId : Option String
  nextSequence : ℤ
  lastSettledMatchId : Option String
  intentionallyClosed : Bool
  /-- Is there a transport that opens sockets for a reconnect? -/
  reconnectTransport : Bool
  timers : List (ℕ × TimerCallback)
  timerCount : ℕ
  attempts : List Attempt
  sent : List DispatchMessage

namespace LiveMatchClient

/-! ### Sessions, sockets and timers -/

def setSession (c : LiveMatchClient) (i : ℕ) (session : TwoVTwoSession) : LiveMatchClient :=
  { c with sessions := Function.update c.sessions i session }

def setSocket (c : LiveMatchClient) (j : ℕ) (socket : ClientSocket) : LiveMatchClient :=
  { c with sockets := Function.update c.sockets j socket }

/-- Binding handlers to a socket makes those bound before inert. -/
def bindSocketHandlers (c : LiveMatchClient) (j : ℕ) : LiveMatchClient :=
  { c with socketEpoch := c.socketEpoch + 1 }.setSocket j
    { c.sockets j with handlers := some (c.socketEpoch + 1) }

def detachSocketHandlers (c : LiveMatchClient) (j : ℕ) : LiveMatchClient :=
  c.setSocket j { c.sockets j with handlers := none }

/-- The client closes a socket itself; its disconnect handler is not called. -/
def disconnect (c : LiveMatchClient) (j : ℕ) : LiveMatchClient :=
  c.setSocket j { c.sockets j with connected := false }

/-- Does a socket deliver to the client? -/
def hears (c : LiveMatchClient) (j : ℕ) : Bool :=
  (c.sockets j).connected && (c.sockets j).handlers == some c.socketEpoch

/-- A new timer has the number `c.timerCount`. -/
def setTimeout (c : LiveMatchClient) (callback : TimerCallback) : LiveMatchClient :=
  { c with
    timers := c.timers ++ [(c.timerCount, callback)]
    timerCount := c.timerCount + 1 }

def clearTimeout (c : LiveMatchClient) : Option ℕ → LiveMatchClient
  | none => c
  | some id => { c with timers := c.timers.filter fun t => t.1 ≠ id }

/-- Is a session the one of the client, and in a phase? -/
def isIn (c : LiveMatchClient) (i : ℕ) (phase : TwoVTwoSessionPhase) : Bool :=
  c.v2 = some i ∧ (c.sessions i).phase = phase

/-! ### Reconnecting -/

def scheduleTwoVTwoReconnectAttempt (c : LiveMatchClient) : LiveMatchClient :=
  match c.v2 with
  | none => c
  | some i =>
    match (c.sessions i).phase, (c.sessions i).reconnect with
    | .reconnecting, some reconnect =>
      (c.setTimeout .attempt).setSession i
        { c.sessions i with reconnect := some { reconnect with attemptTimer := some c.timerCount } }
    | _, _ => c

def beginTwoVTwoReconnect (c : LiveMatchClient) : LiveMatchClient :=
  match c.v2 with
  | none => c
  | some i =>
    if (c.sessions i).phase ≠ .active ∨ c.intentionallyClosed then c
    else
      ((c.setTimeout .deadline).setSession i
        { c.sessions i with
          phase := .reconnecting
          reconnect := some ⟨0, none, none, some c.timerCount⟩ }).scheduleTwoVTwoReconnectAttempt

def teardownTwoVTwoReconnectTimers (c : LiveMatchClient) : LiveMatchClient :=
  match c.v2 with
  | none => c
  | some i =>
    match (c.sessions i).reconnect with
    | none => c
    | some reconnect =>
      (((c.clearTimeout reconnect.attemptTimer).clearTimeout reconnect.resyncTimer).clearTimeout
        reconnect.deadlineTimer).setSession i
          { c.sessions i with reconnect := some ⟨reconnect.attempts, none, none, none⟩ }

def finishTwoVTwoReconnect (c : LiveMatchClient) : LiveMatchClient :=
  match c.v2 with
  | none => c
  | some i =>
    if (c.sessions i).phase ≠ .reconnecting then c
    else
      c.teardownTwoVTwoReconnectTimers.setSession i
        { c.sessions i with
          reconnect := none
          phase := .reconnectFailed }

def scheduleNextTwoVTwoReconnectAttempt (c : LiveMatchClient) : LiveMatchClient :=
  match c.v2 with
  | none => c
  | some i =>
    match (c.sessions i).phase, (c.sessions i).reconnect with
    | .reconnecting, some reconnect =>
      (c.setSession i
        { c.sessions i with
          reconnect := some { reconnect with attempts := reconnect.attempts + 1 } })
        |>.scheduleTwoVTwoReconnectAttempt
    | _, _ => c

/-- The first part of an attempt, up to the wait for a new socket. -/
def attemptTwoVTwoReconnect (c : LiveMatchClient) : LiveMatchClient :=
  match c.v2 with
  | none => c
  | some i =>
    match (c.sessions i).phase, (c.sessions i).reconnect with
    | .reconnecting, some _ =>
      if !c.reconnectTransport then c.finishTwoVTwoReconnect
      else { c with attempts := c.attempts ++ [.transport i] }
    | _, _ => c

/-- Refusals of a join that no retry can help. -/
def terminalRejoinCodes : List String :=
  ["live_match_finished", "live_match_not_authorized", "live_match_full", "not_in_match",
   "match_join_failed", "slot_not_reconnectable"]

/-- The `catch` of an attempt, after its fresh socket is closed. -/
def attemptFailed (c : LiveMatchClient) (i : ℕ) (code : String) : LiveMatchClient :=
  if !c.isIn i .reconnecting then c
  else if code ∈ terminalRejoinCodes then c.finishTwoVTwoReconnect
  else c.scheduleNextTwoVTwoReconnectAttempt

def dropSocket (c : LiveMatchClient) (j : ℕ) : LiveMatchClient :=
  (c.detachSocketHandlers j).disconnect j

/-- The transport has opened a socket, whose number is `c.socketCount`. -/
def openSocket (c : LiveMatchClient) : LiveMatchClient :=
  { c with
    sockets := Function.update c.sockets c.socketCount ⟨true, none⟩
    socketCount := c.socketCount + 1 }

/-- An attempt goes on with the answer of the transport: it adopts the fresh socket and
joins the match on it. -/
def onTransport (c : LiveMatchClient) (k : ℕ) (result : Except String Unit) : LiveMatchClient :=
  match c.attempts[k]? with
  | some (.transport i) =>
    let c := { c with attempts := c.attempts.set k .ended }
    match result with
    | .error code => c.attemptFailed i code
    | .ok _ =>
      let fresh := c.socketCount
      let c := c.openSocket
      if !c.isIn i .reconnecting || c.intentionallyClosed then c.dropSocket fresh
      else
        let c := c.detachSocketHandlers (c.sessions i).socket
        let c := c.setSession i { c.sessions i with socket := fresh }
        { c.bindSocketHandlers fresh with attempts := c.attempts.set k (.join i fresh) }
  | _ => c

/-- An attempt goes on with the answer to its join.  The timer for the resync is kept in
the reconnect record of the session; where that is null, the assignment throws. -/
def onJoined (c : LiveMatchClient) (k : ℕ) (result : Except String Unit) : LiveMatchClient :=
  match c.attempts[k]? with
  | some (.join i fresh) =>
    let c := { c with attempts := c.attempts.set k .ended }
    match result with
    | .error code => (c.dropSocket fresh).attemptFailed i code
    | .ok _ =>
      match (c.sessions i).reconnect with
      | none => ((c.setTimeout (.resync i fresh)).dropSocket fresh).attemptFailed i "TypeError"
      | some reconnect =>
        (c.setTimeout (.resync i fresh)).setSession i
          { c.sessions i with
            reconnect := some { reconnect with resyncTimer := some c.timerCount } }
  | _ => c

/-- No resync came in time. -/
def onResyncTimeout (c : LiveMatchClient) (i fresh : ℕ) : LiveMatchClient :=
  if !c.isIn i .reconnecting then c
  else if (c.sessions i).socket = fresh then
    (c.dropSocket fresh).scheduleNextTwoVTwoReconnectAttempt
  else c.scheduleNextTwoVTwoReconnectAttempt

/-- A timer fires. -/
def onTimer (c : LiveMatchClient) (id : ℕ) : LiveMatchClient :=
  match c.timers.lookup id with
  | none => c
  | some callback =>
    let c := c.clearTimeout (some id)
    match callback with
    | .attempt => c.attemptTwoVTwoReconnect
    | .resync i fresh => c.onResyncTimeout i fresh
    | .deadline => c.finishTwoVTwoReconnect

/-! ### Messages of the server -/

def adoptTwoVTwoSession (session : TwoVTwoSession) (payload : TwoVTwoMatchStartedPayload) :
    TwoVTwoSession :=
  { session with
    canonicalMatchId := some payload.matchId
    slot := some payload.slot
    teamId := some payload.teamId
    roster := some payload.players
    nextSequence := payload.nextSequence
    lastAppliedTick := -1
    pendingSequences := [] }

/-- A resync cannot move the player to another match, slot or team. -/
def isResyncOf (session : TwoVTwoSession) (payload : TwoVTwoMatchStartedPayload) : Bool :=
  session.canonicalMatchId = some payload.matchId ∧ session.slot = some payload.slot ∧
    session.teamId = some payload.teamId

def handleTwoVTwoMatchStarted (c : LiveMatchClient) (i : ℕ)
    (payload : TwoVTwoMatchStartedPayload) : LiveMatchClient :=
  let session := c.sessions i
  match session.phase with
  | .reconnecting =>
    if !isResyncOf session payload then c
    else
      c.teardownTwoVTwoReconnectTimers.setSession i
        { adoptTwoVTwoSession session payload with
          reconnect := none
          phase := .active }
  | .connecting =>
    c.setSession i { adoptTwoVTwoSession session payload with phase := .active }
  | _ => c

/-- The rematch is a new session on the same socket. -/
def beginTwoVTwoRematch (c : LiveMatchClient) (rawMatchId : String) : LiveMatchClient :=
  match c.v2 with
  | none => c
  | some i =>
    if (c.sessions i).phase = .reconnectFailed then c
    else
      { c.setSession c.sessionCount (.opened rawMatchId (c.sessions i).socket) with
        sessionCount := c.sessionCount + 1
        v2 := some c.sessionCount }

def expectedOpcode : TwoVTwoServerMessage → ℤ
  | .matchStarted _ => 2
  | .state _ _ => 3
  | .commandAccepted _ _ => 5
  | .commandRejected _ _ => 6
  | .matchResult _ => 7
  | .rematchStarted _ => 2
  | .matchClosed _ => 9
  | .error _ => 8

/-- A message that passed the validator, for the session of the client. -/
def applyTwoVTwoMessage (c : LiveMatchClient) (i : ℕ) (message : TwoVTwoServerMessage) :
    LiveMatchClient :=
  let session := c.sessions i
  match message with
  | .matchStarted payload => c.handleTwoVTwoMatchStarted i payload
  | .state tick _ =>
    if tick ≤ session.lastAppliedTick then c
    else c.setSession i { session with lastAppliedTick := tick }
  | .commandAccepted sequence slot =>
    if session.slot ≠ some slot ∨ sequence ∉ session.pendingSequences then c
    else
      c.setSession i
        { session with
          pendingSequences := session.pendingSequences.filter fun n => n ≠ sequence
          acceptedSequences := session.acceptedSequences ++ [sequence] }
  | .commandRejected sequence _ =>
    c.setSession i
      { session with
        pendingSequences := session.pendingSequences.filter fun n => n ≠ sequence }
  | .matchResult payload =>
    if session.canonicalMatchId ≠ some payload.matchId then c
    else if c.lastSettledMatchId = some payload.matchId then c
    else
      { c with lastSettledMatchId := some payload.matchId }.setSession i
        { session with phase := if payload.cancelled then .cancelled else .finished }
  | .rematchStarted matchId =>
    if session.phase ≠ .finished then c else c.beginTwoVTwoRematch matchId
  | .matchClosed matchId =>
    if session.phase ≠ .finished ∨ session.canonicalMatchId ≠ some matchId then c
    else c.setSession i { session with phase := .expired }
  | .error _ => c

def handleTwoVTwoPayload (c : LiveMatchClient) (opCode : ℤ) (envelope : Json) : LiveMatchClient :=
  match parseTwoVTwoServerMessage envelope with
  | none => c
  | some message =>
    if opCode ≠ expectedOpcode message then c
    else
      match c.v2 with
      | none => c
      | some i => c.applyTwoVTwoMessage i message

/-- The first protocol only has to remember which match is settled. -/
def handleMatchData (c : LiveMatchClient) (opCode : ℤ) (payload : Json) : LiveMatchClient :=
  if (payload.get? "schemaVersion").bind Json.safeInteger? = some 2 then
    c.handleTwoVTwoPayload opCode payload
  else if c.v2.isSome then c
  else if opCode = 7 then
    match text? ((payload.get? "result").bind fun result => result.get? "matchId") with
    | none => c
    | some matchId => { c with lastSettledMatchId := some matchId }
  else c

/-! ### The player -/

/-- An order of the player gets the next number, whatever becomes of it.  Without a
match it is refused. -/
def sendDispatch (c : LiveMatchClient) (sourceId targetId : String) : LiveMatchClient :=
  match c.v2 with
  | some i =>
    let session := c.sessions i
    let message : DispatchMessage := ⟨some 2, session.nextSequence, sourceId, targetId⟩
    if session.phase ≠ .active then c
    else
      { c with sent := c.sent ++ [message] }.setSession i
        { session with
          nextSequence := session.nextSequence + 1
          pendingSequences := session.pendingSequences ++ [session.nextSequence] }
  | none =>
    if c.matchId.isNone then c
    else
      { c with
        sent := c.sent ++ [⟨none, c.nextSequence, sourceId, targetId⟩]
        nextSequence := c.nextSequence + 1 }

/-- The first socket of the client and that of its session. -/
def detachCurrentSocketHandlers (c : LiveMatchClient) : LiveMatchClient :=
  let detached := { c with socketEpoch := c.socketEpoch + 1 }.detachSocketHandlers 0
  match c.v2 with
  | none => detached
  | some i => detached.detachSocketHandlers (c.sessions i).socket

def close (c : LiveMatchClient) : LiveMatchClient :=
  { { c with
      intentionallyClosed := true }.teardownTwoVTwoReconnectTimers.detachCurrentSocketHandlers with
    matchId := none
    v2 := none }

/-! ### Runs -/

inductive ClientEvent
  /-- Data arrives on a socket. -/
  | data (socket : ℕ) (opCode : ℤ) (payload : Json)
  /-- A socket loses its connection. -/
  | lost (socket : ℕ)
  | timer (id : ℕ)
  | transport (attempt : ℕ) (result : Except String Unit)
  | joined (attempt : ℕ) (result : Except String Unit)
  | dispatch (sourceId targetId : String)
  /-- What a session has sent could not be delivered. -/
  | sendFailed (session : ℕ)
  | close

def onLost (c : LiveMatchClient) (j : ℕ) : LiveMatchClient :=
  if c.hears j then
    if c.intentionallyClosed then c.disconnect j else (c.disconnect j).beginTwoVTwoReconnect
  else c.disconnect j

def step (c : LiveMatchClient) : ClientEvent → LiveMatchClient
  | .data j opCode payload => if c.hears j then c.handleMatchData opCode payload else c
  | .lost j => c.onLost j
  | .timer id => c.onTimer id
  | .transport k result => c.onTransport k result
  | .joined k result => c.onJoined k result
  | .dispatch sourceId targetId => c.sendDispatch sourceId targetId
  | .sendFailed i => if c.v2 = some i then c.beginTwoVTwoReconnect else c
  | .close => c.close

/-- A client whose 2v2 match was found: it joins on its first socket. -/
def matched (rawMatchId : String) (lastSettledMatchId : Option String)
    (reconnectTransport : Bool) : LiveMatchClient where
  sockets j := ⟨j = 0, if j = 0 then some 1 else none⟩
  socketCount := 1
  socketEpoch := 1
  sessions _ := .opened rawMatchId 0
  sessionCount := 1
  v2 := some 0
  matchId := none
  nextSequence := 0
  lastSettledMatchId := lastSettledMatchId
  intentionallyClosed := false
  reconnectTransport := reconnectTransport
  timers := []
  timerCount := 0
  attempts := []
  sent := []

end LiveMatchClient

end CrownClash.Ts
