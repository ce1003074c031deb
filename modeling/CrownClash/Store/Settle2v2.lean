import CrownClash.Lib.Run
import CrownClash.Lib.Sorting
import CrownClash.Go.Simulate2v2
import CrownClash.Store.Accounts

/-!
# Store: the settlement of a 2v2 match

`SettleMatch2v2` pays the four participants of a match in one transaction and
writes one row for each of them and the replay.  Calls run concurrently: a call
looks for stored settlements, waits for the locks of its four careers, looks
again and then commits, and any statement of it may fail.  This module is one call;
`Settle2v2Run` is any number of them.
-/

namespace CrownClash.Store

open Lib
open Go (PlayerCareer teamIdForSlot)

def live2v2MaxPlayers : ℤ := 4

structure TwoVTwoParticipantOutcome where
  slot : ℤ
  userId : String
  teamId : TeamId
  status : MatchStatus
  stats : MatchStats
  abandoned : Bool
  deriving DecidableEq, Repr

/-- The replay is kept as it comes. -/
structure Settle2v2Request where
  matchId : String
  battlefieldId : String
  replayPayload : String
  participants : Fin 4 → TwoVTwoParticipantOutcome

inductive Settle2v2Error
  | invalidMatchId
  | invalidBattlefieldId
  | replayPayloadRequired
  | invalidParticipants
  | invalidStatus
  | playerNotFound (userId : String)
  | partial2v2Settlement (count : ℕ) (matchId : String)
  /-- A statement of the transaction fails. -/
  | database
  deriving DecidableEq, Repr

structure MatchSettlementMultiRow where
  matchId : String
  userId : String
  slot : ℤ
  teamId : TeamId
  status : MatchStatus
  settlement : MatchSettlement
  deriving DecidableEq, Repr

structure MatchReplayRow where
  matchId : String
  battlefieldId : String
  payload : String
  deriving DecidableEq, Repr

structure MatchTables extends Accounts where
  matchSettlementsMulti : List MatchSettlementMultiRow
  matchReplays : List MatchReplayRow

/-! ### One call -/

/-- The loop over the participants; what it returns are the slots it has seen. -/
def checkParticipants (users : List String) (slots : List ℤ) :
    List TwoVTwoParticipantOutcome → Except Settle2v2Error (List ℤ)
  | [] => .ok slots
  | participant :: rest =>
    if participant.userId = "" ∨ participant.userId ∈ users then .error .invalidParticipants
    else if participant.slot < 0 ∨ participant.slot ≥ live2v2MaxPlayers ∨
        participant.slot ∈ slots then
      .error .invalidParticipants
    else if participant.teamId ≠ teamIdForSlot participant.slot then .error .invalidParticipants
    else if participant.status = .playing then .error .invalidStatus
    else checkParticipants (participant.userId :: users) (participant.slot :: slots) rest

def validateSettle2v2Request (request : Settle2v2Request) : Except Settle2v2Error Unit :=
  if request.matchId = "" ∨ request.matchId.utf8ByteSize > 128 then .error .invalidMatchId
  else if request.battlefieldId = "" then .error .invalidBattlefieldId
  else if request.replayPayload = "" then .error .replayPayloadRequired
  else
    match checkParticipants [] [] (List.ofFn request.participants) with
    | .error e => .error e
    | .ok slots =>
      if (slots.length : ℤ) ≠ live2v2MaxPlayers then .error .invalidParticipants else .ok ()

/-- The stored settlements of a match in the order of the slots, `none` when there
are none. -/
def findStored2v2Settlements (db : MatchTables) (matchId : String) :
    Except Settle2v2Error (Option (List MatchSettlement)) :=
  let rows := sortBy (fun a b => a.slot < b.slot)
    (db.matchSettlementsMulti.filter fun row => row.matchId = matchId)
  let settlements := rows.map MatchSettlementMultiRow.settlement
  if settlements.length = 0 then .ok none
  else if (settlements.length : ℤ) ≠ live2v2MaxPlayers then
    .error (.partial2v2Settlement settlements.length matchId)
  else .ok (some settlements)

def Settle2v2Request.userIds (request : Settle2v2Request) : List String :=
  List.ofFn fun k => (request.participants k).userId

/-- The careers of the four, by user id; `userIds` come sorted. -/
def getCareersForUpdate (db : Accounts) (userIds : List String) :
    Except Settle2v2Error (String → PlayerCareer) :=
  match userIds.find? fun userId => (db.players userId).isNone with
  | some userId => .error (.playerNotFound userId)
  | none => .ok fun userId => (db.career? userId).getD Accounts.noCareer

def ledgerId2v2 (matchId userId : String) (currency : Currency) (timestamp : ℤ) : String :=
  matchId ++ "_" ++ userId ++ "_" ++ currency.text ++ "_" ++ toString timestamp

/-- An abandoned slot is settled as a defeat without captures. -/
def TwoVTwoParticipantOutcome.settledStatus (participant : TwoVTwoParticipantOutcome) :
    MatchStatus :=
  if participant.abandoned then .defeat else participant.status

def TwoVTwoParticipantOutcome.settledStats (participant : TwoVTwoParticipantOutcome) :
    MatchStats :=
  if participant.abandoned then
    { MatchStats.zero with matchDurationSeconds := participant.stats.matchDurationSeconds }
  else participant.stats

/-- The settlement of one participant, its ledger entries under ids of its own. -/
def settleParticipant (matchId : String) (participant : TwoVTwoParticipantOutcome)
    (career : PlayerCareer) (now : ℤ) : MatchSettlement :=
  let settlement := settleMatchWithPolicy career participant.settledStatus
    participant.settledStats matchId now casualPolicy
  { settlement with
    ledgerEntries := settlement.ledgerEntries.map fun entry =>
      { entry with id := ledgerId2v2 matchId participant.userId entry.currency entry.timestamp } }

def multiRow (matchId : String) (participant : TwoVTwoParticipantOutcome)
    (settlement : MatchSettlement) : MatchSettlementMultiRow where
  matchId := matchId
  userId := participant.userId
  slot := participant.slot
  teamId := participant.teamId
  status := participant.settledStatus
  settlement := settlement

/-- The primary key of a settlement row. -/
def MatchSettlementMultiRow.key (row : MatchSettlementMultiRow) : String × String :=
  (row.matchId, row.userId)

/-- The statements for one participant. -/
def persistParticipant (db : MatchTables) (matchId : String)
    (participant : TwoVTwoParticipantOutcome) (settlement : MatchSettlement) (dayKey : String) :
    MatchTables :=
  { db with
    toAccounts := ((db.toAccounts.persistCareer settlement.newCareer).insertLedgerEntries
      settlement.ledgerEntries).advanceDailyProgress participant.userId participant.settledStatus
        participant.settledStats.territoriesCapturedByPlayer dayKey
    matchSettlementsMulti := insertNew MatchSettlementMultiRow.key db.matchSettlementsMulti
      (multiRow matchId participant settlement) }

def insertReplay (db : MatchTables) (request : Settle2v2Request) : MatchTables :=
  { db with
    matchReplays := insertNew MatchReplayRow.matchId db.matchReplays
      ⟨request.matchId, request.battlefieldId, request.replayPayload⟩ }

/-- The clock is read for each participant anew. -/
structure Clock where
  nowMillis : Fin 4 → ℤ
  dayKey : Fin 4 → String

/-- The settlements of a call, in the order of the participants. -/
def settlements2v2 (request : Settle2v2Request) (careers : String → PlayerCareer) (clock : Clock)
    (k : Fin 4) : MatchSettlement :=
  settleParticipant request.matchId (request.participants k)
    (careers (request.participants k).userId) (clock.nowMillis k)

/-- What a call writes once its careers are locked and no settlement is stored. -/
def persist2v2 (db : MatchTables) (request : Settle2v2Request) (careers : String → PlayerCareer)
    (clock : Clock) : MatchTables :=
  insertReplay
    ((List.finRange 4).foldl
      (fun db k => persistParticipant db request.matchId (request.participants k)
        (settlements2v2 request careers clock k) (clock.dayKey k)) db)
    request

end CrownClash.Store
