import CrownClash.Lib.Json
import CrownClash.Ts.Pvp2v2

/-!
# Client: the validator of the 2v2 messages

The wire part of `pvp2v2.ts`.  What comes in is a value of any form, and it is
refused, which is `none`, unless it is one of the messages of the second protocol.
The states, the statistics and the settlements are handed on as they came, after a
look at a few of their fields.
-/

namespace CrownClash.Ts

open Lib

/-! ### Messages -/

structure TwoVTwoRosterEntry where
  slot : ℤ
  teamId : TeamId
  userId : String
  displayName : String
  deriving DecidableEq, Repr

structure TwoVTwoMatchStartedPayload where
  matchId : String
  slot : ℤ
  teamId : TeamId
  nextSequence : ℤ
  players : List TwoVTwoRosterEntry
  state : Json

structure TwoVTwoParticipantResult where
  slot : ℤ
  teamId : TeamId
  userId : String
  status : MatchStatus
  stats : Option Json
  abandoned : Option Bool
  settlement : Option Json

structure TwoVTwoMatchResultPayload where
  matchId : String
  winnerTeamId : Option TeamId
  /-- The outcome, which is `'cancelled'` or undefined. -/
  cancelled : Bool
  participants : Option (List TwoVTwoParticipantResult)

inductive TwoVTwoServerMessage
  | matchStarted (payload : TwoVTwoMatchStartedPayload)
  | state (tick : ℤ) (state : Json)
  | commandAccepted (sequence slot : ℤ)
  | commandRejected (sequence : ℤ) (code : String)
  | matchResult (payload : TwoVTwoMatchResultPayload)
  | rematchStarted (matchId : String)
  | matchClosed (matchId : String)
  | error (code : String)

/-! ### Orders -/

def createTwoVTwoDispatchMessage (sequence : ℤ) (sourceId targetId : String) : String :=
  "\x7b\"schemaVersion\":2,\"type\":\"dispatch\",\"sequence\":" ++ toString sequence ++
    ",\"sourceId\":" ++ Json.quote sourceId ++ ",\"targetId\":" ++ Json.quote targetId ++ "\x7d"

/-! ### Fields -/

def isGameState (value : Json) : Bool :=
  value.isObj && ((value.get? "status").bind Json.str?).isSome &&
    (value.get? "territories").any Json.isObj && ((value.get? "armies").bind Json.arr?).isSome

/-- A safe integer from zero on, `isFiniteInt`. -/
def finiteInt? (value : Option Json) : Option ℤ :=
  (value.bind Json.safeInteger?).filter fun n => 0 ≤ n

/-- A text that is not empty. -/
def text? (value : Option Json) : Option String :=
  (value.bind Json.str?).filter fun s => s ≠ ""

def parseMatchStats (value : Option Json) : Option Json :=
  value.filter fun v => v.isObj && (v.get? "matchDurationSeconds").any Json.isNum

def parseSettlement (value : Option Json) : Option Json :=
  value.filter fun v => v.isObj && ((v.get? "matchId").bind Json.str?).isSome

def parseSlot (value : Option Json) : Option ℤ :=
  (finiteInt? value).filter fun n => n ∈ twoVTwoSlots

def teamIdText : TeamId → String
  | .a => "a"
  | .b => "b"

/-- Is the value the team of a slot? -/
def isTeamOfSlot (value : Option Json) (slot : ℤ) : Bool :=
  value.bind Json.str? = some (teamIdText (teamIdForSlot slot))

def isText (value : Option Json) (s : String) : Bool := value.bind Json.str? = some s

/-! ### Rosters and participants -/

/-- The loop over the players, with the slots it has seen. -/
def parseRosterFrom (seen : List ℤ) : List Json → Option (List TwoVTwoRosterEntry)
  | [] => some []
  | entry :: rest => do
    let slot ← parseSlot (entry.get? "slot")
    if slot ∈ seen then none
    let userId ← text? (entry.get? "userId")
    let displayName ← (entry.get? "displayName").bind Json.str?
    if !isTeamOfSlot (entry.get? "teamId") slot then none
    let roster ← parseRosterFrom (slot :: seen) rest
    some (⟨slot, teamIdForSlot slot, userId, displayName⟩ :: roster)

def parseRoster (value : Option Json) : Option (List TwoVTwoRosterEntry) := do
  let entries ← value.bind Json.arr?
  if entries.length ≠ twoVTwoSlots.length then none
  parseRosterFrom [] entries

def participantStatus? (value : Option Json) : Option MatchStatus :=
  if isText value "victory" then some .victory
  else if isText value "defeat" then some .defeat
  else if isText value "draw" then some .draw
  else none

/-- The loop over the participants, with the slots and users it has seen. -/
def parseParticipantsFrom (seenSlots : List ℤ) (seenUsers : List String) :
    List Json → Option (List TwoVTwoParticipantResult)
  | [] => some []
  | entry :: rest => do
    let slot ← parseSlot (entry.get? "slot")
    if !isTeamOfSlot (entry.get? "teamId") slot then none
    let userId ← text? (entry.get? "userId")
    if slot ∈ seenSlots ∨ userId ∈ seenUsers then none
    let status ← participantStatus? (entry.get? "status")
    let participants ← parseParticipantsFrom (slot :: seenSlots) (userId :: seenUsers) rest
    some ({ slot := slot
            teamId := teamIdForSlot slot
            userId := userId
            status := status
            stats := parseMatchStats (entry.get? "stats")
            abandoned := (entry.get? "abandoned").bind Json.bool?
            settlement := parseSettlement (entry.get? "settlement") } :: participants)

/-- The winner of a result: undefined, or one of the two teams. -/
def parseWinner : Option Json → Option (Option TeamId)
  | none => some none
  | some value =>
    if isText (some value) "a" then some (some .a)
    else if isText (some value) "b" then some (some .b)
    else none

def parseMatchResult (result : Json) : Option TwoVTwoMatchResultPayload := do
  let matchId ← text? (result.get? "matchId")
  if !isText (result.get? "mode") "2v2" then none
  if isText (result.get? "outcome") "cancelled" then some ⟨matchId, none, true, none⟩
  else do
    let entries ← (result.get? "participants").bind Json.arr?
    if entries.length ≠ twoVTwoSlots.length then none
    let participants ← parseParticipantsFrom [] [] entries
    let winnerTeamId ← parseWinner (result.get? "winnerTeamId")
    some ⟨matchId, winnerTeamId, false, some participants⟩

def parseMatchStarted (raw : Json) : Option TwoVTwoMatchStartedPayload := do
  let matchId ← text? (raw.get? "matchId")
  if !isText (raw.get? "mode") "2v2" then none
  let slot ← parseSlot (raw.get? "slot")
  if !isTeamOfSlot (raw.get? "teamId") slot then none
  let nextSequence ← finiteInt? (raw.get? "nextSequence")
  let players ← parseRoster (raw.get? "players")
  let state ← (raw.get? "state").filter isGameState
  some ⟨matchId, slot, teamIdForSlot slot, nextSequence, players, state⟩

/-- A message of the second protocol, or none. -/
def parseTwoVTwoServerMessage (raw : Json) : Option TwoVTwoServerMessage := do
  if (raw.get? "schemaVersion").bind Json.safeInteger? ≠ some matchSchemaVersion2 then none
  let type ← (raw.get? "type").bind Json.str?
  if type = "match_started" then (parseMatchStarted raw).map .matchStarted
  else if type = "state" then do
    let tick ← finiteInt? (raw.get? "tick")
    let state ← (raw.get? "state").filter isGameState
    some (.state tick state)
  else if type = "command_accepted" then do
    let sequence ← finiteInt? (raw.get? "sequence")
    let slot ← parseSlot (raw.get? "slot")
    some (.commandAccepted sequence slot)
  else if type = "command_rejected" then do
    let sequence ← finiteInt? (raw.get? "sequence")
    let code ← text? (raw.get? "code")
    some (.commandRejected sequence code)
  else if type = "match_result" then do
    let result ← (raw.get? "result").filter Json.isObj
    (parseMatchResult result).map .matchResult
  else if type = "rematch_started" then (text? (raw.get? "matchId")).map .rematchStarted
  else if type = "match_closed" then (text? (raw.get? "matchId")).map .matchClosed
  else if type = "error" then (text? (raw.get? "code")).map .error
  else none

end CrownClash.Ts
