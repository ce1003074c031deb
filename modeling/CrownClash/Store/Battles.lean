import CrownClash.Store.Claims

/-!
# Store: settlements of battles and coin orders

The operations that pay for a battle, against the bot, live, against a published
defence or on a realm ticket, and those that credit and take back coins that were
bought.  Status and statistics of a battle come out of the replay.
-/

namespace CrownClash.Store

open Lib
open Go (PlayerCareer upgradeModifiers defaultModifiers)

def settlementPayment (settlement : MatchSettlement) : Payment :=
  ⟨settlement.newCareer, settlement.ledgerEntries⟩

/-- The settlement row, unless the match has one. -/
def Database.storeSettlement (db : Database) (userId : String) (settlement : MatchSettlement) :
    Database :=
  { db with
    matchSettlements := insertNew MatchSettlementRow.matchId db.matchSettlements
      ⟨settlement.matchId, userId, settlement⟩ }

def Database.advanceDaily (db : Database) (userId : String) (settlement : MatchSettlement)
    (env : Env) : Database :=
  { db with
    toAccounts := db.toAccounts.advanceDailyProgress userId settlement.status
      settlement.stats.territoriesCapturedByPlayer env.dayKey }

/-! ### Live matches -/

def decideMatch (db : Database) (userId : String) (status : MatchStatus) (stats : MatchStats)
    (matchId : String) (env : Env) : Except StoreError (Decision MatchSettlement) :=
  match db.findStoredSettlement matchId with
  | some existing => .ok (.answer existing)
  | none => do
    let career ← db.getCareerForUpdate userId
    let settlement := settleMatch career status stats matchId env.nowMillis
    return .pay settlement (settlementPayment settlement)

def Database.settleMatch (db : Database) (userId : String) (status : MatchStatus)
    (stats : MatchStats) (matchId : String) (env : Env) :
    Except StoreError (MatchSettlement × Database) :=
  (decideMatch db userId status stats matchId env).map fun decision =>
    decision.commit db (fun _ db => db) fun settlement db =>
      (db.storeSettlement userId settlement).advanceDaily userId settlement env

/-! ### Bot matches -/

def isPilotPractice (matchId : String) : Bool := "practice_".isPrefixOf matchId

def Database.botMatch? (db : Database) (matchId : String) : Option BotMatchRow :=
  db.botMatches.find? fun row => row.matchId = matchId

def Database.closeBotMatch (db : Database) (matchId : String) : Database :=
  { db with
    botMatches := db.botMatches.map fun row =>
      if row.matchId = matchId then { row with settled := true } else row }

section Replays

variable [MathLib]

/-- A replay with the texts of its errors passed on. -/
def replayBattle (actions : List PvpAction) (battle : Go.BotMatch) :
    Except StoreError (GameState × PvpBattleSummary) :=
  match Go.simulateBotBattleWithCommander actions battle with
  | .error text => .error (.replay text)
  | .ok p => .ok p

/-- A practice match of the pilot pays the casual reward with the treasury it was
issued with, and leaves streaks alone. -/
def pilotSettlement (career : PlayerCareer) (pilot : PilotPractice) (summary : PvpBattleSummary)
    (matchId : String) (now : ℤ) : MatchSettlement :=
  let s := settleMatchWithPolicy { career with treasuryLevel := pilot.rewardTreasuryLevel }
    summary.status summary.stats matchId now casualPolicy
  { s with
    previousCareer := career
    newCareer :=
      { s.newCareer with
        treasuryLevel := career.treasuryLevel
        currentStreak := career.currentStreak
        bestStreak := career.bestStreak } }

def decidePilot (db : Database) (userId matchId : String) (actions : List PvpAction) (env : Env) :
    Except StoreError (Decision MatchSettlement) := do
  let career ← db.realmCareerForUpdate userId
  match db.botMatch? matchId with
  | none => throw .database
  | some row =>
    if row.playerId ≠ userId then throw .botMatchOwnership
    match db.findStoredSettlement matchId with
    | some existing => return .answer existing
    | none =>
      match row.pilot with
      | none => throw .database
      | some pilot =>
        if row.settled ∨ pilot.expiresAt ≤ env.nowMillis then throw .realmTicketExpired
        if actions = [] then throw .realmDispatchRequired
        let (final, summary) ← replayBattle actions
          { player := pilot.modifiers
            enemy := defaultModifiers
            battlefieldId := pilot.battlefieldId
            rulesVersion := pilot.gameplayRulesVersion
            difficulty := pilot.botDifficulty
            commander := none }
        if summary.actionsProcessed = 0 then throw .realmDispatchRequired
        if env.nowMillis - pilot.createdAt < ⌈final.elapsedTimeSeconds * 1000⌉ then
          throw .realmSettlementTooEarly
        let settlement := pilotSettlement career pilot summary matchId env.nowMillis
        return .pay settlement (settlementPayment settlement)

def decideVerified (db : Database) (userId matchId : String) (actions : List PvpAction)
    (env : Env) : Except StoreError (Decision MatchSettlement) := do
  if isPilotPractice matchId then decidePilot db userId matchId actions env
  else if env.pilotEnabled then throw .legacySettlementDisabled
  else
    match db.findStoredSettlement matchId with
    | some existing =>
      if existing.newCareer.playerId ≠ userId then throw .botMatchOwnership
      return .answer existing
    | none =>
      match db.botMatch? matchId with
      | none => throw .botMatchNotFound
      | some row =>
        if row.playerId ≠ userId then throw .botMatchOwnership
        let career ← db.getCareerForUpdate userId
        let (_, summary) ← replayBattle actions
          { player := upgradeModifiers career
            enemy := defaultModifiers
            battlefieldId := row.battlefieldId
            rulesVersion := row.gameplayRulesVersion
            difficulty := row.botDifficulty
            commander := row.commander }
        let settlement := settleMatch career summary.status summary.stats matchId env.nowMillis
        return .pay settlement (settlementPayment settlement)

def Database.settleMatchVerified (db : Database) (userId matchId : String)
    (actions : List PvpAction) (env : Env) : Except StoreError (MatchSettlement × Database) :=
  (decideVerified db userId matchId actions env).map fun decision =>
    decision.commit db (fun _ db => db) fun settlement db =>
      ((db.storeSettlement userId settlement).closeBotMatch matchId).advanceDaily userId
        settlement env

/-! ### Attacks on a published defence -/

def currentGameplayRulesVersion : ℤ := 2

def decidePvpAttack (db : Database) (attackerId defenderId attackId : String)
    (actions : List PvpAction) (env : Env) : Except StoreError (Decision PvpAttackResult) := do
  if env.pilotEnabled then throw .legacySettlementDisabled
  match db.pvpAttacks.find? fun row => row.attackId = attackId with
  | some existing =>
    if existing.attackerId ≠ attackerId then throw .pvpAttackOwnership
    return .answer existing
  | none =>
    if attackerId = defenderId then throw .pvpSelfAttack
    let career ← db.getCareerForUpdate attackerId
    match db.pvpDefenses defenderId with
    | none => throw .pvpDefenseNotFound
    | some modifiers =>
      let isRevenge := db.pvpAttacks.any fun row =>
        row.attackerId = defenderId ∧ row.defenderId = attackerId
      let (_, summary) ← replayBattle actions
        { player := upgradeModifiers career
          enemy := modifiers
          battlefieldId := "crown_cross"
          rulesVersion := currentGameplayRulesVersion
          difficulty := .normal
          commander := none }
      let settlement := settleMatch career summary.status summary.stats attackId env.nowMillis
      return .pay ⟨attackId, attackerId, defenderId, isRevenge, summary, settlement⟩
        (settlementPayment settlement)

def Database.settlePvpAttack (db : Database) (attackerId defenderId attackId : String)
    (actions : List PvpAction) (env : Env) : Except StoreError (PvpAttackResult × Database) :=
  (decidePvpAttack db attackerId defenderId attackId actions env).map fun decision =>
    decision.commit db (fun _ db => db) fun result db =>
      { db with pvpAttacks := db.pvpAttacks ++ [result] }.advanceDaily attackerId
        result.settlement env

end Replays

/-! ### Realm tickets -/

/-- The settlement of a realm battle.  Only a ranked one that is eligible moves
trophies and streaks; another eligible one pays 20 coins. -/
def realmSettlement (career : PlayerCareer) (status : MatchStatus) (stats : MatchStats)
    (id : String) (now : ℤ) (source : RealmSource) (eligible : Bool) : MatchSettlement :=
  let policy := if source = .ranked ∧ eligible then rankedPolicy else casualPolicy
  let base := if source = .ranked then career else { career with currentStreak := 0 }
  let s := settleMatchWithPolicy base status stats id now policy
  let newCareer :=
    if source = .ranked then s.newCareer
    else
      { s.newCareer with
        currentStreak := career.currentStreak
        bestStreak := career.bestStreak }
  let coins := if !eligible then 0 else if source = .ranked then s.breakdown.totalCoins else 20
  let breakdown :=
    if !eligible then MatchRewardBreakdown.zero
    else if source = .ranked then s.breakdown
    else { MatchRewardBreakdown.zero with baseCoins := 20, totalCoins := 20 }
  let newCareer :=
    if eligible then newCareer
    else
      { newCareer with
        trophies := career.trophies
        currentStreak := career.currentStreak
        bestStreak := career.bestStreak }
  let newCareer := { newCareer with coins := career.coins + coins }
  let coinEntry : EconomyLedgerEntry :=
    ⟨id ++ "_coins", career.playerId, .coins, coins, "realm_reward", "battle_settlement",
      career.coins, newCareer.coins, now⟩
  { s with
    breakdown := breakdown
    previousCareer := career
    newCareer := newCareer
    rankPromoted := if eligible then s.rankPromoted else false
    ledgerEntries := (if 0 < coins then [coinEntry] else []) ++
      if source = .ranked ∧ eligible then
        s.ledgerEntries.filter fun e => e.currency = .trophies
      else [] }

def Database.realmTicket? (db : Database) (userId id : String) :
    Except StoreError RealmTicketRow :=
  match db.realmTickets.find? fun row => row.id = id with
  | none => .error .realmTicketNotFound
  | some row => if row.playerId ≠ userId then .error .realmTicketOwnership else .ok row

/-- A rewarded ticket of the day. -/
def RealmTicketRow.rewardedOn (row : RealmTicketRow) (userId : String) (env : Env) : Bool :=
  row.playerId = userId ∧ row.rewarded ∧
    row.settledAt.any fun t => env.dayStart ≤ t ∧ t < env.dayEnd

def Database.realmEligibility (db : Database) (userId defenderId : String) (source : RealmSource)
    (env : Env) : Bool :=
  if 0 < db.realmTickets.countP fun row =>
      row.rewardedOn userId env && row.defenderId = defenderId then false
  else if source ≠ .ranked ∧ 3 ≤ db.realmTickets.countP fun row =>
      row.rewardedOn userId env && row.source ≠ .ranked then false
  else true

/-- The ticket takes its result, and the settlement its row. -/
def Database.closeRealmTicket (db : Database) (userId : String) (result : RealmResult)
    (state : RealmTicketState) : Database :=
  { db with
    matchSettlements :=
      db.matchSettlements ++ [⟨result.settlement.matchId, userId, result.settlement⟩]
    realmTickets := db.realmTickets.map fun row =>
      if row.id = result.settlement.matchId then
        { row with
          state := state
          result := some result
          rewarded := result.rewarded
          settledAt := some result.settlement.newCareer.lastMatchTimestamp }
      else row }

/-- The reward of a ticket is that of the treasury it was issued with. -/
def ticketSettlement (career : PlayerCareer) (ticket : RealmTicket) (summary : PvpBattleSummary)
    (id : String) (now : ℤ) (eligible : Bool) : MatchSettlement :=
  let s := realmSettlement { career with treasuryLevel := ticket.rewardTreasuryLevel }
    summary.status summary.stats id now ticket.source eligible
  { s with
    previousCareer := career
    newCareer := { s.newCareer with treasuryLevel := career.treasuryLevel } }

section Realm

variable [MathLib]

def decideRealm (db : Database) (userId id : String) (actions : List PvpAction) (env : Env) :
    Except StoreError (Decision RealmResult) := do
  let career ← db.realmCareerForUpdate userId
  let row ← db.realmTicket? userId id
  match row.result with
  | some existing => return .answer existing
  | none =>
    let ticket := row.document
    if row.state ≠ .active then throw .realmTicketClosed
    if ticket.expiresAt ≤ env.nowMillis then throw .realmTicketExpired
    if actions = [] then throw .realmDispatchRequired
    let (final, summary) ← replayBattle actions
      { player := ticket.playerModifiers
        enemy := ticket.enemyModifiers
        battlefieldId := ticket.battlefieldId
        rulesVersion := ticket.gameplayRulesVersion
        difficulty := .normal
        commander := none }
    if summary.actionsProcessed = 0 then throw .realmDispatchRequired
    if env.nowMillis - ticket.createdAt < ⌈final.elapsedTimeSeconds * 1000⌉ then
      throw .realmSettlementTooEarly
    if (db.findStoredSettlement id).isSome then throw .database
    let eligible := db.realmEligibility userId ticket.defenderId ticket.source env &&
      ticket.rewardEligible
    let settlement := ticketSettlement career ticket summary id env.nowMillis eligible
    return .pay ⟨ticket, settlement, eligible⟩ (settlementPayment settlement)

def Database.settleRealmAttack (db : Database) (userId id : String) (actions : List PvpAction)
    (env : Env) : Except StoreError (RealmResult × Database) :=
  (decideRealm db userId id actions env).map fun decision =>
    decision.commit db (fun _ db => db) fun result db =>
      let db := db.closeRealmTicket userId result .settled
      if result.rewarded then db.advanceDaily userId result.settlement env else db

end Realm

/-- Giving up costs trophies on a ranked ticket and pays nothing. -/
def abandonSettlement (career : PlayerCareer) (ticket : RealmTicket) (now : ℤ) :
    MatchSettlement :=
  let s := realmSettlement career .defeat MatchStats.zero ticket.matchId now ticket.source false
  let newCareer :=
    { s.newCareer with
      matchesPlayed := career.matchesPlayed
      matchesWon := career.matchesWon }
  if ticket.source ≠ .ranked then { s with newCareer := newCareer }
  else
    let delta := -min 12 career.trophies
    let newCareer := { newCareer with trophies := career.trophies + delta }
    let entry : EconomyLedgerEntry :=
      ⟨ticket.matchId ++ "_trophies", career.playerId, .trophies, delta, "realm_abandoned",
        "battle_settlement", career.trophies, newCareer.trophies, now⟩
    { s with
      newCareer := newCareer
      newRank := getRankTier newCareer.trophies
      breakdown := { s.breakdown with trophyDelta := delta }
      ledgerEntries := if delta ≠ 0 then s.ledgerEntries ++ [entry] else s.ledgerEntries }

/-- The ticket is given up when it is active; there is no answer. -/
def decideAbandon (db : Database) (userId id : String) (env : Env) :
    Except StoreError (Decision (Option RealmResult)) := do
  let career ← db.realmCareerForUpdate userId
  let row ← db.realmTicket? userId id
  if row.state ≠ .active then return .answer none
  if (db.findStoredSettlement row.document.matchId).isSome then throw .database
  let settlement := abandonSettlement career row.document env.nowMillis
  return .pay (some ⟨row.document, settlement, false⟩) (settlementPayment settlement)

def Database.abandonRealmAttack (db : Database) (userId id : String) (env : Env) :
    Except StoreError (Option RealmResult × Database) :=
  (decideAbandon db userId id env).map fun decision =>
    decision.commit db (fun _ db => db) fun result db =>
      match result with
      | none => db
      | some result => db.closeRealmTicket userId result .abandoned

/-! ### Coin orders -/

structure VerifiedCoinPayment where
  orderId : String
  transactionId : String
  externalId : String
  amountRials : ℤ
  currency : String

def validCoinPayment (order : CoinOrderRow) (payment : VerifiedCoinPayment) : Bool :=
  payment.orderId = order.id ∧ payment.transactionId ≠ "" ∧
    payment.transactionId.utf8ByteSize ≤ 256 ∧ payment.externalId = order.externalId ∧
    payment.amountRials = order.product.amountRials ∧ payment.currency = "IRR"

def Database.coinOrder? (db : Database) (id : String) : Except StoreError CoinOrderRow :=
  match db.coinOrders.find? fun row => row.id = id with
  | none => .error .database
  | some row => .ok row

def Database.setCoinOrder (db : Database) (order : CoinOrderRow) : Database :=
  { db with
    coinOrders := db.coinOrders.map fun row => if row.id = order.id then order else row }

def maxCoins : ℤ := 2147483647

def decideFulfill (db : Database) (payment : VerifiedCoinPayment) (env : Env) :
    Except StoreError (Decision CoinOrderRow) := do
  let order ← db.coinOrder? payment.orderId
  let career ← db.realmCareerForUpdate order.playerId
  if !validCoinPayment order payment then throw .coinPaymentMismatch
  if order.state = .fulfilled ∨ order.state = .refunded then
    if order.transactionId.getD "" ≠ payment.transactionId then throw .coinTransactionMismatch
    return .answer order
  if order.transactionId ≠ some payment.transactionId then throw .coinTransactionMismatch
  if order.state ≠ .pending then throw .coinInvoiceNotReady
  if career.coins > maxCoins - order.product.coins then throw .coinBalanceLimit
  let entry := rewardEntry ("coin_order_" ++ order.id) career order.product.coins "coin_purchase"
    order.id env.nowMillis
  return .pay { order with state := .fulfilled } ⟨rewarded career order.product.coins, [entry]⟩

def Database.fulfillCoinOrder (db : Database) (payment : VerifiedCoinPayment) (env : Env) :
    Except StoreError (CoinOrderRow × Database) :=
  (decideFulfill db payment env).map fun decision =>
    decision.commit db (fun _ db => db) fun order db => db.setCoinOrder order

/-- Spent coins are not taken back below zero. -/
def decideRefund (db : Database) (id reference note : String) (env : Env) :
    Except StoreError (Decision CoinOrderRow) := do
  if reference = "" ∨ note = "" then throw .refundEvidenceRequired
  let order ← db.coinOrder? id
  let career ← db.realmCareerForUpdate order.playerId
  if order.state = .refunded then
    if order.refundReference ≠ some reference then throw .refundReferenceMismatch
    return .answer order
  if order.state ≠ .fulfilled then throw .refundOrderNotFulfilled
  if db.coinOrders.any fun row => row.refundReference = some reference then throw .database
  let amount := min career.coins order.product.coins
  let entry := rewardEntry ("coin_refund_" ++ id) career (-amount) "coin_refund" id env.nowMillis
  return .pay { order with state := .refunded, refundReference := some reference }
    ⟨rewarded career (-amount), [entry]⟩

def Database.recordCoinRefund (db : Database) (id reference note : String) (env : Env) :
    Except StoreError (CoinOrderRow × Database) :=
  (decideRefund db id reference note env).map fun decision =>
    decision.commit db (fun _ db => db) fun order db => db.setCoinOrder order

end CrownClash.Store
