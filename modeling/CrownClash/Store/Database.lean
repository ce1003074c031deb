import CrownClash.Go.BotBattle
import CrownClash.Go.Lanes
import CrownClash.Store.Settle2v2

/-!
# Store: the database

The other tables that pay a player: settlements, purchases, reward claims, attacks,
realm tickets and coin orders.  An operation runs in one transaction.  It first
checks what is stored and decides (`Decision`): it answers, or it pays, which
writes a career and its ledger entries (`Database.pay`) next to the row that keeps
the result.
-/

namespace CrownClash.Store

open Lib
open Go (PlayerCareer UpgradeType)

inductive StoreError
  | playerNotFound
  | botMatchNotFound
  | botMatchOwnership
  | legacySettlementDisabled
  | pvpSelfAttack
  | pvpAttackOwnership
  | pvpDefenseNotFound
  | upgradePurchaseOwnership
  | upgradePurchaseMismatch
  | dailyClaimOwnership
  | dailyClaimMismatch
  | leagueClaimOwnership
  | leagueClaimMismatch
  | levelClaimOwnership
  | levelClaimMismatch
  | levelInvalid
  | weeklyInvalid
  | laneInvalidLevel
  | replay (text : String)
  | laneReplay (code : LaneReplayErrorCode)
  | realmTicketNotFound
  | realmTicketOwnership
  | realmTicketClosed
  | realmTicketExpired
  | realmDispatchRequired
  | realmSettlementTooEarly
  | coinPaymentMismatch
  | coinTransactionMismatch
  | coinInvoiceNotReady
  | coinBalanceLimit
  | refundEvidenceRequired
  | refundReferenceMismatch
  | refundOrderNotFulfilled
  | settle2v2 (e : Settle2v2Error)
  /-- A statement fails, such as an insert that a unique constraint refuses. -/
  | database
  deriving DecidableEq, Repr

/-! ### The tables -/

structure MatchSettlementRow where
  matchId : String
  playerId : String
  settlement : MatchSettlement
  deriving DecidableEq, Repr

/-- What a practice match of the pilot was issued with. -/
structure PilotPractice where
  rewardTreasuryLevel : ℤ
  createdAt : ℤ
  expiresAt : ℤ
  modifiers : PlayerUpgradeModifiers
  battlefieldId : String
  gameplayRulesVersion : ℤ
  botDifficulty : BotDifficulty
  deriving DecidableEq, Repr

structure BotMatchRow where
  matchId : String
  playerId : String
  battlefieldId : String
  gameplayRulesVersion : ℤ
  botDifficulty : BotDifficulty
  commander : Option CommanderId
  settled : Bool
  pilot : Option PilotPractice
  deriving DecidableEq, Repr

structure UpgradePurchaseResult where
  success : Bool
  reason : String
  cost : Option ℤ
  previousCareer : PlayerCareer
  newCareer : PlayerCareer
  ledgerEntry : Option EconomyLedgerEntry
  deriving DecidableEq, Repr

structure UpgradePurchaseRow where
  purchaseId : String
  playerId : String
  upgradeType : UpgradeType
  result : UpgradePurchaseResult
  deriving DecidableEq, Repr

structure PvpAttackResult where
  attackId : String
  attackerId : String
  defenderId : String
  isRevenge : Bool
  summary : PvpBattleSummary
  settlement : MatchSettlement
  deriving DecidableEq, Repr

/-- The outcome of a reward claim; `subject` is what the reward is for. -/
structure ClaimResult (κ : Type) where
  claimId : String
  success : Bool
  reason : String
  subject : κ
  reward : ℤ
  replayed : Bool
  newCareer : PlayerCareer
  ledgerEntry : Option EconomyLedgerEntry
  deriving DecidableEq, Repr

structure LevelClaimResult extends ClaimResult ℤ where
  levelsCompleted : ℤ
  deriving DecidableEq, Repr

/-- A stored claim with its result. -/
structure ClaimRow (κ ρ : Type) where
  claimId : String
  playerId : String
  subject : κ
  result : ρ
  deriving DecidableEq, Repr

inductive DailyRewardType
  | playMatches
  | winMatch
  | captureTerritories
  | crownChest
  deriving DecidableEq, Repr

inductive RealmSource
  | ranked
  | friend
  | revenge
  deriving DecidableEq, Repr

structure RealmTicket where
  rewardTreasuryLevel : ℤ
  matchId : String
  source : RealmSource
  battlefieldId : String
  gameplayRulesVersion : ℤ
  defenderId : String
  playerModifiers : PlayerUpgradeModifiers
  enemyModifiers : PlayerUpgradeModifiers
  createdAt : ℤ
  expiresAt : ℤ
  rewardEligible : Bool
  deriving DecidableEq, Repr

structure RealmResult where
  ticket : RealmTicket
  settlement : MatchSettlement
  rewarded : Bool
  deriving DecidableEq, Repr

inductive RealmTicketState
  | active
  | settled
  | abandoned
  deriving DecidableEq, Repr

structure RealmTicketRow where
  id : String
  playerId : String
  defenderId : String
  source : RealmSource
  document : RealmTicket
  state : RealmTicketState
  rewarded : Bool
  result : Option RealmResult
  settledAt : Option ℤ
  deriving DecidableEq, Repr

structure CoinProduct where
  id : String
  coins : ℤ
  amountRials : ℤ
  deriving DecidableEq, Repr

inductive CoinOrderState
  | created
  | pending
  | fulfilled
  | refunded
  deriving DecidableEq, Repr

structure CoinOrderRow where
  id : String
  playerId : String
  externalId : String
  product : CoinProduct
  state : CoinOrderState
  transactionId : Option String
  refundReference : Option String
  deriving DecidableEq, Repr

/-- The tables that tickets, defences and orders are issued in.  The operations that
issue them pay nobody. -/
structure IssuedTables where
  botMatches : List BotMatchRow
  pvpDefenses : String → Option PlayerUpgradeModifiers
  realmTickets : List RealmTicketRow
  coinOrders : List CoinOrderRow

structure Database extends MatchTables, IssuedTables where
  matchSettlements : List MatchSettlementRow
  upgradePurchases : List UpgradePurchaseRow
  pvpAttacks : List PvpAttackResult
  /-- For a day and a reward of it. -/
  dailyRewardClaims :
    List (ClaimRow (String × DailyRewardType) (ClaimResult (String × DailyRewardType)))
  leagueRewardClaims : List (ClaimRow String (ClaimResult String))
  levelRewardClaims : List (ClaimRow ℤ LevelClaimResult)
  /-- For a week and a slot of it. -/
  weeklyChallengeClaims : List (ClaimRow (ℤ × ℤ) (ClaimResult (ℤ × ℤ)))
  laneRewardClaims : List (ClaimRow ℤ (ClaimResult ℤ))

/-- What an operation reads from outside: the clock, the day of the players and the
week, and whether the server runs the pilot. -/
structure Env where
  nowMillis : ℤ
  dayKey : String
  dayStart : ℤ
  dayEnd : ℤ
  pilotEnabled : Bool

/-! ### Paying -/

/-- The career a player is left with and the ledger entries that go with it. -/
structure Payment where
  career : PlayerCareer
  entries : List EconomyLedgerEntry
  deriving DecidableEq, Repr

/-- What the checks of an operation come to: it answers and rolls back, it commits
without paying, or it pays `π`, for most operations one payment. -/
inductive Decision (ρ : Type) (π : Type := Payment)
  | answer (r : ρ)
  | record (r : ρ)
  | pay (r : ρ) (payment : π)

def Decision.payment? {ρ : Type} : Decision ρ → Option Payment
  | .pay _ payment => some payment
  | _ => none

def Accounts.pay (db : Accounts) (payment : Payment) : Accounts :=
  (db.persistCareer payment.career).insertLedgerEntries payment.entries

def Database.pay (db : Database) (payment : Payment) : Database :=
  { db with toAccounts := db.toAccounts.pay payment }

/-- What is returned and what is stored; `record` and `write` are the writes besides
the payment. -/
def Decision.commit {ρ : Type} (decision : Decision ρ) (db : Database)
    (record write : ρ → Database → Database) : ρ × Database :=
  match decision with
  | .answer r => (r, db)
  | .record r => (r, record r db)
  | .pay r payment => (r, write r (db.pay payment))

/-- The career of a player, locked for an update. -/
def Database.getCareerForUpdate (db : Database) (userId : String) :
    Except StoreError PlayerCareer :=
  match db.career? userId with
  | some career => .ok career
  | none => .error .playerNotFound

/-- The same for realm and coin operations, whose query fails when there is no row. -/
def Database.realmCareerForUpdate (db : Database) (userId : String) :
    Except StoreError PlayerCareer :=
  match db.career? userId with
  | some career => .ok career
  | none => .error .database

def Database.findStoredSettlement (db : Database) (matchId : String) : Option MatchSettlement :=
  (db.matchSettlements.find? fun row => row.matchId = matchId).map MatchSettlementRow.settlement

end CrownClash.Store
