import CrownClash.Go.Live
import CrownClash.Lib.Transactions
import CrownClash.Store.Careers

/-!
# Store: rewards that are claimed concurrently

Every call that pays a reward locks the career of its player, the settlement of a 2v2
match those of its four, and looks for what is stored under its id before it does and
after.  What it inserts has unique keys: an id that somebody else has stored by then, or a
reward that is stored already, make the insert fail, or do nothing.

Ids are of a kind.  Bot matches, practices, realm tickets and live matches share the table
of settlements; attacks, whose ids the clients choose, and 2v2 matches have tables of their
own, which nobody compares with it.

`RewardCall` are these calls, as sessions of `Lib.Transactions`.  `commit_alone` says that
a call that nobody disturbs is the operation of `Store.Ledger`.
-/

namespace CrownClash.Store

open Lib
open Go (PlayerCareer)

/-! ### The calls -/

inductive RewardCall
  | daily (userId : String) (rewardType : DailyRewardType) (claimId : String) (env : Env)
  | league (userId rankId claimId : String) (env : Env)
  | level (userId : String) (levelId : ℤ) (claimId : String) (actions : List PvpAction) (env : Env)
  | weekly (userId : String) (week slot : ℤ) (claimId : String) (actions : List PvpAction)
      (env : Env)
  | lane (userId : String) (levelId : ℤ) (claimId : String) (actions : List LaneAction) (env : Env)
  /-- The match that is over, by the time it was started at. -/
  | live (userId : String) (status : MatchStatus) (stats : MatchStats) (startedAt : ℤ) (env : Env)
  | bot (userId matchId : String) (actions : List PvpAction) (env : Env)
  | realm (userId id : String) (actions : List PvpAction) (env : Env)
  | abandon (userId id : String) (env : Env)
  /-- The attacker chooses the id. -/
  | attack (attackerId defenderId attackId : String) (actions : List PvpAction) (env : Env)
  | match2v2 (request : Settle2v2Request) (clock : Clock)

inductive Reply
  | daily (result : ClaimResult (String × DailyRewardType))
  | league (result : ClaimResult String)
  | level (result : LevelClaimResult)
  | weekly (result : ClaimResult (ℤ × ℤ))
  | lane (result : ClaimResult ℤ)
  | settlement (settlement : MatchSettlement)
  | realm (result : Option RealmResult)
  | attack (result : PvpAttackResult)
  | match2v2 (settlements : List MatchSettlement)

/-- The players whose careers a call locks. -/
def RewardCall.users : RewardCall → List String
  | .daily userId _ _ _ => [userId]
  | .league userId _ _ _ => [userId]
  | .level userId _ _ _ _ => [userId]
  | .weekly userId _ _ _ _ _ => [userId]
  | .lane userId _ _ _ _ => [userId]
  | .live userId _ _ _ _ => [userId]
  | .bot userId _ _ _ => [userId]
  | .realm userId _ _ _ => [userId]
  | .abandon userId _ _ => [userId]
  | .attack attackerId _ _ _ _ => [attackerId]
  | .match2v2 request _ => request.userIds

/-- The operation that a call asks for. -/
def RewardCall.op : RewardCall → StoreOp
  | .daily userId rewardType claimId env => .claimDailyReward userId rewardType claimId env
  | .league userId rankId claimId env => .claimLeagueReward userId rankId claimId env
  | .level userId levelId claimId actions env =>
    .completeLevelVerified userId levelId claimId actions env
  | .weekly userId week slot claimId actions env =>
    .completeWeeklyVerified userId week slot claimId actions env
  | .lane userId levelId claimId actions env =>
    .completeLaneVerified userId levelId claimId actions env
  | .live userId status stats startedAt env =>
    .settleMatch userId status stats (Go.livePlayerMatchId startedAt userId) env
  | .bot userId matchId actions env => .settleMatchVerified userId matchId actions env
  | .realm userId id actions env => .settleRealmAttack userId id actions env
  | .abandon userId id env => .abandonRealmAttack userId id env
  | .attack attackerId defenderId attackId actions env =>
    .settlePvpAttack attackerId defenderId attackId actions env
  | .match2v2 request clock => .settleMatch2v2 request clock

/-- What may be paid only once. -/
inductive RewardKey
  | daily (userId dayKey : String) (rewardType : DailyRewardType)
  | league (userId rankId : String)
  | level (userId : String) (levelId : ℤ)
  | weekly (userId : String) (week slot : ℤ)
  | lane (userId : String) (levelId : ℤ)
  | ofMatch (matchId : String)
  | ofAttack (attackId : String)
  /-- The part of one of the four. -/
  | ofMatch2v2 (matchId userId : String)
  deriving DecidableEq

/-- What a call pays, if it does. -/
def RewardCall.keys : RewardCall → List RewardKey
  | .daily userId rewardType _ env => [.daily userId env.dayKey rewardType]
  | .league userId rankId _ _ => [.league userId rankId]
  | .level userId levelId _ _ _ => [.level userId levelId]
  | .weekly userId week slot _ _ _ => [.weekly userId week slot]
  | .lane userId levelId _ _ _ => [.lane userId levelId]
  | .live userId _ _ startedAt _ => [.ofMatch (Go.livePlayerMatchId startedAt userId)]
  | .bot _ matchId _ _ => [.ofMatch matchId]
  | .realm _ id _ _ => [.ofMatch id]
  | .abandon _ id _ => [.ofMatch id]
  | .attack _ _ attackId _ _ => [.ofAttack attackId]
  | .match2v2 request _ => request.userIds.map (.ofMatch2v2 request.matchId)

/-- A reward that is stored as paid. -/
def Database.recorded (db : Database) : RewardKey → Bool
  | .daily userId dayKey rewardType => claimed db.dailyRewardClaims userId (dayKey, rewardType)
  | .league userId rankId => claimed db.leagueRewardClaims userId rankId
  | .level userId levelId => claimed db.levelRewardClaims userId levelId
  | .weekly userId week slot => claimed db.weeklyChallengeClaims userId (week, slot)
  | .lane userId levelId => claimed db.laneRewardClaims userId levelId
  | .ofMatch matchId => Holds MatchSettlementRow.matchId db.matchSettlements matchId
  | .ofAttack attackId => Holds PvpAttackResult.attackId db.pvpAttacks attackId
  | .ofMatch2v2 matchId userId =>
    Holds MatchSettlementMultiRow.key db.matchSettlementsMulti (matchId, userId)

/-- Something is stored under the id of the call. -/
def RewardCall.IdStored (db : Database) : RewardCall → Prop
  | .daily _ _ claimId _ => Holds ClaimRow.claimId db.dailyRewardClaims claimId
  | .league _ _ claimId _ => Holds ClaimRow.claimId db.leagueRewardClaims claimId
  | .level _ _ claimId _ _ => Holds ClaimRow.claimId db.levelRewardClaims claimId
  | .weekly _ _ _ claimId _ _ => Holds ClaimRow.claimId db.weeklyChallengeClaims claimId
  | .lane _ _ claimId _ _ => Holds ClaimRow.claimId db.laneRewardClaims claimId
  | .live userId _ _ startedAt _ =>
    Holds MatchSettlementRow.matchId db.matchSettlements (Go.livePlayerMatchId startedAt userId)
  | .bot _ matchId _ _ => Holds MatchSettlementRow.matchId db.matchSettlements matchId
  | .realm _ id _ _ => Holds MatchSettlementRow.matchId db.matchSettlements id
  | .abandon _ id _ => Holds MatchSettlementRow.matchId db.matchSettlements id
  | .attack _ _ attackId _ _ => Holds PvpAttackResult.attackId db.pvpAttacks attackId
  | .match2v2 request _ =>
    Holds MatchSettlementMultiRow.matchId db.matchSettlementsMulti request.matchId

/-! ### The first look -/

section Looks

variable {κ ρ : Type} [DecidableEq κ]

def lookClaim (rows : List (ClaimRow κ ρ)) (ownership mismatch : StoreError) (userId : String)
    (subject : κ) (claimId : String) (replay : ρ → ρ) : Option (Except StoreError ρ) :=
  match findStoredClaim rows ownership mismatch userId subject claimId with
  | .error e => some (.error e)
  | .ok none => none
  | .ok (some existing) => some (.ok (replay existing))

def replayed (result : ClaimResult κ) : ClaimResult κ := { result with replayed := true }

/-- A battle that has to be won, before the store is looked at. -/
def lookBattle {σ : Type} (summary : Except StoreError σ) (status : σ → MatchStatus) (lost : ρ)
    (look : Option (Except StoreError ρ)) : Option (Except StoreError ρ) :=
  match summary with
  | .error e => some (.error e)
  | .ok summary => if status summary ≠ .victory then some (.ok lost) else look

end Looks

section Calls

variable [MathLib]

def lookLevel (db : Database) (userId : String) (levelId : ℤ) (claimId : String)
    (actions : List PvpAction) : Option (Except StoreError LevelClaimResult) :=
  match levelDefById levelId with
  | none => some (.error .levelInvalid)
  | some level =>
    lookBattle (replayLevel level actions) PvpBattleSummary.status
      ⟨unpaid claimId "not_victory" false levelId Accounts.noCareer, 0⟩
      (lookClaim db.levelRewardClaims .levelClaimOwnership .levelClaimMismatch userId levelId
        claimId fun existing => { existing with replayed := true })

def lookWeekly (db : Database) (userId : String) (week slot : ℤ) (claimId : String)
    (actions : List PvpAction) (env : Env) : Option (Except StoreError (ClaimResult (ℤ × ℤ))) :=
  match weeklyDef week slot with
  | none => some (.error .weeklyInvalid)
  | some level =>
    if week ≠ weeklyWeekIndex env.nowMillis then
      some (.ok (unpaid claimId "week_over" false (week, slot) Accounts.noCareer))
    else
      lookBattle (replayLevel level actions) PvpBattleSummary.status
        (unpaid claimId "not_victory" false (week, slot) Accounts.noCareer)
        (lookClaim db.weeklyChallengeClaims .levelClaimOwnership .levelClaimMismatch userId
          (week, slot) claimId replayed)

def lookLane (db : Database) (userId : String) (levelId : ℤ) (claimId : String)
    (actions : List LaneAction) : Option (Except StoreError (ClaimResult ℤ)) :=
  match laneLevelDefById levelId with
  | none => some (.error .laneInvalidLevel)
  | some level =>
    lookBattle (replayLane level actions) LaneBattleSummary.status
      (unpaid claimId "not_victory" false levelId Accounts.noCareer)
      (lookClaim db.laneRewardClaims .levelClaimOwnership .levelClaimMismatch userId levelId
        claimId replayed)

/-- A practice match of the pilot is not looked at before the lock. -/
def lookBot (db : Database) (userId matchId : String) (env : Env) :
    Option (Except StoreError MatchSettlement) :=
  if isPilotPractice matchId then none
  else if env.pilotEnabled then some (.error .legacySettlementDisabled)
  else
    match db.findStoredSettlement matchId with
    | some existing =>
      if existing.newCareer.playerId ≠ userId then some (.error .botMatchOwnership)
      else some (.ok existing)
    | none =>
      match db.botMatch? matchId with
      | none => some (.error .botMatchNotFound)
      | some row => if row.playerId ≠ userId then some (.error .botMatchOwnership) else none

def lookAttack (db : Database) (attackerId defenderId attackId : String) (env : Env) :
    Option (Except StoreError PvpAttackResult) :=
  if env.pilotEnabled then some (.error .legacySettlementDisabled)
  else
    match db.pvpAttacks.find? fun row => row.attackId = attackId with
    | some existing =>
      if existing.attackerId ≠ attackerId then some (.error .pvpAttackOwnership)
      else some (.ok existing)
    | none => if attackerId = defenderId then some (.error .pvpSelfAttack) else none

def look2v2 (db : Database) (request : Settle2v2Request) :
    Option (Except StoreError (List MatchSettlement)) :=
  match validateSettle2v2Request request with
  | .error e => some (.error (.settle2v2 e))
  | .ok _ =>
    match findStored2v2Settlements db.toMatchTables request.matchId with
    | .error e => some (.error (.settle2v2 e))
    | .ok (some stored) => some (.ok stored)
    | .ok none => none

/-- What a call answers before it waits for its locks, if it does. -/
def RewardCall.look (db : Database) : RewardCall → Option (Except StoreError Reply)
  | .daily userId rewardType claimId env =>
    (lookClaim db.dailyRewardClaims .dailyClaimOwnership .dailyClaimMismatch userId
      (env.dayKey, rewardType) claimId replayed).map (Except.map .daily)
  | .league userId rankId claimId _ =>
    (lookClaim db.leagueRewardClaims .leagueClaimOwnership .leagueClaimMismatch userId rankId
      claimId replayed).map (Except.map .league)
  | .level userId levelId claimId actions _ =>
    (lookLevel db userId levelId claimId actions).map (Except.map .level)
  | .weekly userId week slot claimId actions env =>
    (lookWeekly db userId week slot claimId actions env).map (Except.map .weekly)
  | .lane userId levelId claimId actions _ =>
    (lookLane db userId levelId claimId actions).map (Except.map .lane)
  | .live userId _ _ startedAt _ =>
    (db.findStoredSettlement (Go.livePlayerMatchId startedAt userId)).map fun existing =>
      .ok (.settlement existing)
  | .bot userId matchId _ env => (lookBot db userId matchId env).map (Except.map .settlement)
  | .realm _ _ _ _ => none
  | .abandon _ _ _ => none
  | .attack attackerId defenderId attackId _ env =>
    (lookAttack db attackerId defenderId attackId env).map (Except.map .attack)
  | .match2v2 request _ => (look2v2 db request).map (Except.map .match2v2)

end Calls

/-! ### Deciding and committing -/

/-- What a call comes to: its decision under the locks, what refuses the insert when it
pays, and what it writes. -/
structure Attempt where
  ρ : Type
  π : Type
  decision : Except StoreError (Decision ρ π)
  refusal : Option (Except StoreError ρ)
  record : ρ → Database → Database
  write : ρ → π → Database → Database
  reply : ρ → Reply

def Attempt.pays (attempt : Attempt) : Bool :=
  match attempt.decision, attempt.refusal with
  | .ok (.pay _ _), none => true
  | _, _ => false

def Attempt.commit (attempt : Attempt) (db : Database) : Except StoreError Reply × Database :=
  match attempt.decision with
  | .error e => (.error e, db)
  | .ok (.answer r) => (.ok (attempt.reply r), db)
  | .ok (.record r) => (.ok (attempt.reply r), attempt.record r db)
  | .ok (.pay r payment) =>
    match attempt.refusal with
    | some answer => (answer.map attempt.reply, db)
    | none => (.ok (attempt.reply r), attempt.write r payment db)

section Refusals

variable {κ ρ : Type} [DecidableEq κ]

/-- Both the id and the reward of a claim are unique. -/
def refuseClaim (rows : List (ClaimRow κ ρ)) (userId : String) (subject : κ) (claimId : String) :
    Option (Except StoreError ρ) :=
  if Holds ClaimRow.claimId rows claimId ∨ claimed rows userId subject then some (.error .database)
  else none

/-- A league claim whose id is taken is looked up instead. -/
def refuseLeague (db : Database) (userId rankId claimId : String) :
    Option (Except StoreError (ClaimResult String)) :=
  if Holds ClaimRow.claimId db.leagueRewardClaims claimId then
    match findStoredClaim db.leagueRewardClaims .leagueClaimOwnership .leagueClaimMismatch userId
        rankId claimId with
    | .error e => some (.error e)
    | .ok none => some (.error .database)
    | .ok (some existing) => some (.ok (replayed existing))
  else if claimed db.leagueRewardClaims userId rankId then some (.error .database)
  else none

/-- The id of a settlement is unique. -/
def refuseSettlement (db : Database) (matchId : String) : Option (Except StoreError ρ) :=
  if Holds MatchSettlementRow.matchId db.matchSettlements matchId then some (.error .database)
  else none

/-- The id of an attack is unique. -/
def refuseAttack (db : Database) (attackId : String) : Option (Except StoreError ρ) :=
  if Holds PvpAttackResult.attackId db.pvpAttacks attackId then some (.error .database) else none

end Refusals

/-- The settlement of a 2v2 match, whose careers are locked before the second look. -/
def decide2v2Locked (db : Database) (request : Settle2v2Request) (clock : Clock) :
    Except StoreError (Decision (List MatchSettlement) (String → PlayerCareer)) :=
  match validateSettle2v2Request request with
  | .error e => .error (.settle2v2 e)
  | .ok _ =>
    match getCareersForUpdate db.toAccounts (sortBy (fun a b => a < b) request.userIds) with
    | .error e => .error (.settle2v2 e)
    | .ok careers =>
      match findStored2v2Settlements db.toMatchTables request.matchId with
      | .error e => .error (.settle2v2 e)
      | .ok (some stored) => .ok (.answer stored)
      | .ok none =>
        .ok (.pay ((List.finRange 4).map (settlements2v2 request careers clock)) careers)

def Database.storeDailyClaim (userId : String) (rewardType : DailyRewardType) (claimId : String)
    (env : Env) (result : ClaimResult (String × DailyRewardType)) (db : Database) : Database :=
  { db with
    dailyProgress := Function.update db.dailyProgress userId
      (Function.update (db.dailyProgress userId) env.dayKey
        (some (applyClaimToDailyRow (db.dailyRow userId env.dayKey) rewardType)))
    dailyRewardClaims :=
      db.dailyRewardClaims ++ [⟨claimId, userId, (env.dayKey, rewardType), result⟩] }

def Database.reachLevel (userId : String) (result : LevelClaimResult) (db : Database) : Database :=
  { db with toAccounts := db.setLevelsCompleted userId result.levelsCompleted }

section Calls

variable [MathLib]

/-- What a call comes to that has read `seen` under its locks and commits to `db`. -/
def RewardCall.attempt (seen db : Database) : RewardCall → Attempt
  | .daily userId rewardType claimId env =>
    { ρ := ClaimResult (String × DailyRewardType)
      π := Payment
      decision := decideDaily seen userId rewardType claimId env
      refusal := refuseClaim db.dailyRewardClaims userId (env.dayKey, rewardType) claimId
      record := fun _ db => db
      write := fun result payment db =>
        (db.pay payment).storeDailyClaim userId rewardType claimId env result
      reply := .daily }
  | .league userId rankId claimId env =>
    { ρ := ClaimResult String
      π := Payment
      decision := decideLeague seen userId rankId claimId env
      refusal := refuseLeague db userId rankId claimId
      record := fun _ db => db
      write := fun result payment db =>
        { db.pay payment with
          leagueRewardClaims := db.leagueRewardClaims ++ [⟨claimId, userId, rankId, result⟩] }
      reply := .league }
  | .level userId levelId claimId actions env =>
    { ρ := LevelClaimResult
      π := Payment
      decision := decideLevel seen userId levelId claimId actions env
      refusal := refuseClaim db.levelRewardClaims userId levelId claimId
      record := Database.reachLevel userId
      write := fun result payment db =>
        { Database.reachLevel userId result (db.pay payment) with
          levelRewardClaims := db.levelRewardClaims ++ [⟨claimId, userId, levelId, result⟩] }
      reply := .level }
  | .weekly userId week slot claimId actions env =>
    { ρ := ClaimResult (ℤ × ℤ)
      π := Payment
      decision := decideWeekly seen userId week slot claimId actions env
      refusal := refuseClaim db.weeklyChallengeClaims userId (week, slot) claimId
      record := fun _ db => db
      write := fun result payment db =>
        { db.pay payment with
          weeklyChallengeClaims :=
            db.weeklyChallengeClaims ++ [⟨claimId, userId, (week, slot), result⟩] }
      reply := .weekly }
  | .lane userId levelId claimId actions env =>
    { ρ := ClaimResult ℤ
      π := Payment
      decision := decideLane seen userId levelId claimId actions env
      refusal := refuseClaim db.laneRewardClaims userId levelId claimId
      record := fun _ db => db
      write := fun result payment db =>
        { db.pay payment with
          laneRewardClaims := db.laneRewardClaims ++ [⟨claimId, userId, levelId, result⟩] }
      reply := .lane }
  | .live userId status stats startedAt env =>
    { ρ := MatchSettlement
      π := Payment
      decision := decideMatch seen userId status stats (Go.livePlayerMatchId startedAt userId) env
      refusal := none
      record := fun _ db => db
      write := fun settlement payment db =>
        ((db.pay payment).storeSettlement userId settlement).advanceDaily userId settlement env
      reply := .settlement }
  | .bot userId matchId actions env =>
    { ρ := MatchSettlement
      π := Payment
      decision := decideVerified seen userId matchId actions env
      refusal := if isPilotPractice matchId then refuseSettlement db matchId else none
      record := fun _ db => db
      write := fun settlement payment db =>
        (((db.pay payment).storeSettlement userId settlement).closeBotMatch matchId).advanceDaily
          userId settlement env
      reply := .settlement }
  | .realm userId id actions env =>
    { ρ := RealmResult
      π := Payment
      decision := decideRealm seen userId id actions env
      refusal := refuseSettlement db id
      record := fun _ db => db
      write := fun result payment db =>
        let db := (db.pay payment).closeRealmTicket userId result .settled
        if result.rewarded then db.advanceDaily userId result.settlement env else db
      reply := fun result => .realm (some result) }
  | .abandon userId id env =>
    { ρ := Option RealmResult
      π := Payment
      decision := decideAbandon seen userId id env
      refusal := refuseSettlement db id
      record := fun _ db => db
      write := fun result payment db =>
        match result with
        | none => db.pay payment
        | some result => (db.pay payment).closeRealmTicket userId result .abandoned
      reply := .realm }
  | .attack attackerId defenderId attackId actions env =>
    { ρ := PvpAttackResult
      π := Payment
      decision := decidePvpAttack seen attackerId defenderId attackId actions env
      refusal := refuseAttack db attackId
      record := fun _ db => db
      write := fun result payment db =>
        { db.pay payment with pvpAttacks := db.pvpAttacks ++ [result] }.advanceDaily attackerId
          result.settlement env
      reply := .attack }
  | .match2v2 request clock =>
    { ρ := List MatchSettlement
      π := String → PlayerCareer
      decision := decide2v2Locked seen request clock
      refusal := none
      record := fun _ db => db
      write := fun _ careers db =>
        { db with toMatchTables := persist2v2 db.toMatchTables request careers clock }
      reply := .match2v2 }

end Calls

/-! ### The store and its sessions -/

/-- Rows that are issued under an id of their own kind, unless the id is taken. -/
def Database.insertBotMatch (db : Database) (row : BotMatchRow) : Database :=
  { db with botMatches := insertNew BotMatchRow.matchId db.botMatches row }

def Database.insertRealmTicket (db : Database) (row : RealmTicketRow) : Database :=
  { db with realmTickets := insertNew RealmTicketRow.id db.realmTickets row }

/-- What else happens to the store. -/
inductive StoreEvent
  | run (op : CareerOp)
  | createBotMatch (suffix : String) (row : BotMatchRow)
  | createPilotPractice (suffix : String) (row : BotMatchRow)
  | startRealmAttack (suffix : String) (row : RealmTicketRow)
  /-- Defences and coin orders are written. -/
  | publish (pvpDefenses : String → Option PlayerUpgradeModifiers) (coinOrders : List CoinOrderRow)

/-- Operations that are no reward calls. -/
def CareerOp.background : CareerOp → Bool
  | .store (.purchaseUpgrade _ _ _ _) _ => true
  | .store (.fulfillCoinOrder _ _) _ => true
  | .store (.recordCoinRefund _ _ _ _) _ => true
  | .store _ _ => false
  | _ => true

/-- The careers that an operation locks, as far as it writes them. -/
def CareerOp.users [MathLib] (db : Database) : CareerOp → List String
  | .store op _ => (op.payments db).map fun p => p.career.playerId
  | .getOrCreateCareer _ => []
  | .completeTutorial userId => [userId]
  | .selectCommander userId _ => [userId]
  | .completeLevel userId _ => [userId]
  | .ensureSeedBots => []

section Calls

variable [MathLib]

def Database.apply (db : Database) : StoreEvent → Database
  | .run op => if op.background then db.runCareer op else db
  | .createBotMatch suffix row =>
    db.insertBotMatch { row with matchId := "bot_" ++ suffix, settled := false, pilot := none }
  | .createPilotPractice suffix row =>
    db.insertBotMatch { row with matchId := "practice_" ++ suffix, settled := false }
  | .startRealmAttack suffix row =>
    db.insertRealmTicket
      { row with
        id := "realm_" ++ suffix
        document := { row.document with matchId := "realm_" ++ suffix }
        state := .active
        rewarded := false
        result := none
        settledAt := none }
  | .publish pvpDefenses coinOrders =>
    { db with pvpDefenses := pvpDefenses, coinOrders := coinOrders }

def StoreEvent.users (db : Database) : StoreEvent → List String
  | .run op => op.users db
  | _ => []

/-- The store as its sessions see it: every call locks the careers of its players. -/
def rewards : Transactions Database String RewardCall (Except StoreError Reply) StoreEvent where
  keys := RewardCall.users
  look := RewardCall.look
  commit seen db call := (call.attempt seen db).commit db
  failed := .error .database
  other := Database.apply
  locks := fun db event => event.users db

abbrev Rewards := Sessions Database String RewardCall (Except StoreError Reply)

end Calls

end CrownClash.Store
