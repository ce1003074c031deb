import CrownClash.Store.Database

/-!
# Store: purchases and reward claims

The operations that a player calls with an id of its own choice: an upgrade
purchase and the claims of daily, league, level, weekly and lane rewards.  The id
makes a retry idempotent, and the ledger entry of the payment is filed under it:
as it is for a purchase, with a word in front for a claim.
-/

namespace CrownClash.Store

open Lib
open Go (PlayerCareer UpgradeType upgradeLevel defaultModifiers)

/-! ### Upgrades -/

def upgradeCosts : List ℤ :=
  [50, 100, 175, 275, 400, 500, 625, 775, 950, 1150,
   1375, 1625, 1900, 2200, 2525, 2875, 3250, 3650, 4100, 4600]

def upgradeText : UpgradeType → String
  | .startingGarrison => "starting_garrison"
  | .production => "production"
  | .armySpeed => "army_speed"
  | .treasury => "treasury"

def setUpgradeLevel (career : PlayerCareer) (upgrade : UpgradeType) (level : ℤ) : PlayerCareer :=
  match upgrade with
  | .startingGarrison => { career with startingGarrisonLevel := level }
  | .production => { career with productionLevel := level }
  | .armySpeed => { career with armySpeedLevel := level }
  | .treasury => { career with treasuryLevel := level }

def purchaseUpgrade (career : PlayerCareer) (upgrade : UpgradeType) (purchaseId : String)
    (timestamp : ℤ) : UpgradePurchaseResult :=
  let level := upgradeLevel career upgrade
  match upgradeCosts[level.toNat]? with
  | none => ⟨false, "max_level", none, career, career, none⟩
  | some cost =>
    if career.coins < cost then ⟨false, "insufficient_coins", some cost, career, career, none⟩
    else
      let newCareer :=
        setUpgradeLevel { career with coins := career.coins - cost } upgrade (level + 1)
      let entry : EconomyLedgerEntry :=
        ⟨purchaseId, career.playerId, .coins, -cost, "upgrade_" ++ upgradeText upgrade,
          "upgrade_purchase", career.coins, newCareer.coins, timestamp⟩
      ⟨true, "", some cost, career, newCareer, some entry⟩

def findStoredUpgradePurchase (db : Database) (userId : String) (upgrade : UpgradeType)
    (purchaseId : String) : Except StoreError (Option UpgradePurchaseResult) :=
  match db.upgradePurchases.find? fun row => row.purchaseId = purchaseId with
  | none => .ok none
  | some row =>
    if row.playerId ≠ userId then .error .upgradePurchaseOwnership
    else if row.upgradeType ≠ upgrade then .error .upgradePurchaseMismatch
    else .ok (some row.result)

/-- The checks of a purchase.  The look under the lock finds what the first one
found, since no other transaction comes in between. -/
def decidePurchase (db : Database) (userId : String) (upgrade : UpgradeType)
    (purchaseId : String) (now : ℤ) : Except StoreError (Decision UpgradePurchaseResult) := do
  match ← findStoredUpgradePurchase db userId upgrade purchaseId with
  | some existing => return .answer existing
  | none =>
    let career ← db.getCareerForUpdate userId
    let result := purchaseUpgrade career upgrade purchaseId now
    if !result.success then return .answer result
    return .pay result ⟨result.newCareer, result.ledgerEntry.toList⟩

def Database.purchaseUpgrade (db : Database) (userId : String) (upgrade : UpgradeType)
    (purchaseId : String) (now : ℤ) : Except StoreError (UpgradePurchaseResult × Database) :=
  (decidePurchase db userId upgrade purchaseId now).map fun decision =>
    decision.commit db (fun _ db => db) fun result db =>
      { db with
        upgradePurchases := db.upgradePurchases ++ [⟨purchaseId, userId, upgrade, result⟩] }

/-! ### Reward claims -/

section Claims

variable {κ ρ : Type} [DecidableEq κ]

/-- A stored claim under the id of this one; it has to be of the same player and for
the same reward. -/
def findStoredClaim (rows : List (ClaimRow κ ρ)) (ownership mismatch : StoreError)
    (userId : String) (subject : κ) (claimId : String) : Except StoreError (Option ρ) :=
  match rows.find? fun row => row.claimId = claimId with
  | none => .ok none
  | some row =>
    if row.playerId ≠ userId then .error ownership
    else if row.subject ≠ subject then .error mismatch
    else .ok (some row.result)

/-- Is the reward paid already, under whatever id? -/
def claimed (rows : List (ClaimRow κ ρ)) (userId : String) (subject : κ) : Bool :=
  rows.any fun row => row.playerId = userId ∧ row.subject = subject

/-- A career with a reward on top. -/
def rewarded (career : PlayerCareer) (reward : ℤ) : PlayerCareer :=
  { career with coins := career.coins + reward }

def rewardEntry (id : String) (career : PlayerCareer) (reward : ℤ) (reason source : String)
    (now : ℤ) : EconomyLedgerEntry :=
  ⟨id, career.playerId, .coins, reward, reason, source, career.coins, career.coins + reward, now⟩

/-- A reward that is paid: the result that is returned and stored, and the payment. -/
def payReward (claimId : String) (subject : κ) (career : PlayerCareer) (reward : ℤ)
    (entry : EconomyLedgerEntry) : ClaimResult κ × Payment :=
  (⟨claimId, true, "", subject, reward, false, rewarded career reward, some entry⟩,
    ⟨rewarded career reward, [entry]⟩)

/-- A claim that is not paid. -/
def unpaid (claimId reason : String) (success : Bool) (subject : κ) (career : PlayerCareer) :
    ClaimResult κ := ⟨claimId, success, reason, subject, 0, false, career, none⟩

end Claims

/-! ### Daily rewards -/

def rewardForDailyType : DailyRewardType → ℤ
  | .playMatches => 30
  | .winMatch => 40
  | .captureTerritories => 50
  | .crownChest => 75

def dailyText : DailyRewardType → String
  | .playMatches => "play_matches"
  | .winMatch => "win_match"
  | .captureTerritories => "capture_territories"
  | .crownChest => "crown_chest"

/-- `none` when the reward can be claimed, else why not. -/
def dailyRewardAvailable (row : DailyProgressRow) : DailyRewardType → Option String
  | .playMatches =>
    if row.playMatchesClaimed then some "already_claimed"
    else if row.matchesPlayed < 2 then some "not_complete"
    else none
  | .winMatch =>
    if row.winMatchClaimed then some "already_claimed"
    else if row.matchesWon < 1 then some "not_complete"
    else none
  | .captureTerritories =>
    if row.captureTerritoriesClaimed then some "already_claimed"
    else if row.territoriesCaptured < 10 then some "not_complete"
    else none
  | .crownChest =>
    if row.crownChestClaimed then some "already_claimed"
    else if !row.playMatchesClaimed || !row.winMatchClaimed || !row.captureTerritoriesClaimed then
      some "chest_locked"
    else none

def applyClaimToDailyRow (row : DailyProgressRow) : DailyRewardType → DailyProgressRow
  | .playMatches => { row with playMatchesClaimed := true }
  | .winMatch => { row with winMatchClaimed := true }
  | .captureTerritories => { row with captureTerritoriesClaimed := true }
  | .crownChest => { row with crownChestClaimed := true }

/-- The progress of the day, which begins at nothing. -/
def Accounts.dailyRow (db : Accounts) (userId dayKey : String) : DailyProgressRow :=
  (db.dailyProgress userId dayKey).getD ⟨0, 0, 0, false, false, false, false⟩

def decideDaily (db : Database) (userId : String) (rewardType : DailyRewardType)
    (claimId : String) (env : Env) :
    Except StoreError (Decision (ClaimResult (String × DailyRewardType))) := do
  let subject := (env.dayKey, rewardType)
  match ← findStoredClaim db.dailyRewardClaims .dailyClaimOwnership .dailyClaimMismatch userId
      subject claimId with
  | some existing => return .answer { existing with replayed := true }
  | none =>
    let career ← db.getCareerForUpdate userId
    match dailyRewardAvailable (db.dailyRow userId env.dayKey) rewardType with
    | some reason => return .answer (unpaid claimId reason false subject career)
    | none =>
      if claimed db.dailyRewardClaims userId subject then throw .database
      let paid := payReward claimId subject career (rewardForDailyType rewardType)
        (rewardEntry ("daily_" ++ claimId) career (rewardForDailyType rewardType)
          ("daily_" ++ dailyText rewardType) "daily_reward" env.nowMillis)
      return .pay paid.1 paid.2

def Database.claimDailyReward (db : Database) (userId : String) (rewardType : DailyRewardType)
    (claimId : String) (env : Env) :
    Except StoreError (ClaimResult (String × DailyRewardType) × Database) :=
  (decideDaily db userId rewardType claimId env).map fun decision =>
    decision.commit db (fun _ db => db) fun result db =>
      { db with
        dailyProgress := Function.update db.dailyProgress userId
          (Function.update (db.dailyProgress userId) env.dayKey
            (some (applyClaimToDailyRow (db.dailyRow userId env.dayKey) rewardType)))
        dailyRewardClaims :=
          db.dailyRewardClaims ++ [⟨claimId, userId, (env.dayKey, rewardType), result⟩] }

/-! ### League rewards -/

/-- The reward of a rank; a text that is no rank has none. -/
def leagueRewards (rankId : String) : ℤ :=
  if rankId = "soldier" then 75
  else if rankId = "knight" then 150
  else if rankId = "commander" then 250
  else if rankId = "warlord" then 400
  else if rankId = "crown_lord" then 700
  else 0

/-- The trophies of a rank, when there is such a rank. -/
def minTrophiesForRank (rankId : String) : Option ℤ :=
  (rankTiers.find? fun tier => tier.id = rankId).map RankTierInfo.minTrophies

def decideLeague (db : Database) (userId rankId claimId : String) (env : Env) :
    Except StoreError (Decision (ClaimResult String)) := do
  match ← findStoredClaim db.leagueRewardClaims .leagueClaimOwnership .leagueClaimMismatch userId
      rankId claimId with
  | some existing => return .answer { existing with replayed := true }
  | none =>
    let career ← db.getCareerForUpdate userId
    let reward := leagueRewards rankId
    if reward ≤ 0 then return .answer (unpaid claimId "invalid_rank" false rankId career)
    if claimed db.leagueRewardClaims userId rankId then
      return .answer (unpaid claimId "already_claimed" false rankId career)
    if (minTrophiesForRank rankId).all (career.trophies < ·) then
      return .answer (unpaid claimId "not_unlocked" false rankId career)
    let paid := payReward claimId rankId career reward
      (rewardEntry ("league_" ++ claimId) career reward ("league_" ++ rankId) "league_reward"
        env.nowMillis)
    return .pay paid.1 paid.2

def Database.claimLeagueReward (db : Database) (userId rankId claimId : String) (env : Env) :
    Except StoreError (ClaimResult String × Database) :=
  (decideLeague db userId rankId claimId env).map fun decision =>
    decision.commit db (fun _ db => db) fun result db =>
      { db with
        leagueRewardClaims := db.leagueRewardClaims ++ [⟨claimId, userId, rankId, result⟩] }

/-! ### Level rewards -/

structure LevelDef where
  id : ℤ
  battlefield : String
  difficulty : BotDifficulty
  enemy : PlayerUpgradeModifiers
  coinReward : ℤ

def levelCount : ℤ := 10

def levelEnemy (units : ℤ) (production : ℚ) : PlayerUpgradeModifiers := ⟨units, production, 1⟩

def levelDefs : List LevelDef :=
  [⟨1, "crown_cross", .easy, levelEnemy 16 0.9, 25⟩,
   ⟨2, "crown_cross", .easy, levelEnemy 18 1, 25⟩,
   ⟨3, "twin_passes", .easy, levelEnemy 18 1, 25⟩,
   ⟨4, "royal_ring", .easy, levelEnemy 20 1, 25⟩,
   ⟨5, "crown_cross", .normal, levelEnemy 18 0.95, 40⟩,
   ⟨6, "twin_passes", .normal, levelEnemy 20 1, 40⟩,
   ⟨7, "royal_ring", .normal, levelEnemy 20 1, 40⟩,
   ⟨8, "crown_cross", .hard, levelEnemy 20 1, 60⟩,
   ⟨9, "twin_passes", .hard, levelEnemy 22 1.05, 60⟩,
   ⟨10, "royal_ring", .hard, levelEnemy 22 1.05, 60⟩]

def levelDefById (id : ℤ) : Option LevelDef := levelDefs.find? fun level => level.id = id

/-- Levels are completed in order. -/
def levelsCompletedAfter (completed level : ℤ) : ℤ :=
  if level < 1 ∨ level > levelCount ∨ level > completed + 1 then completed
  else if level > completed then level
  else completed

/-- The battle of a level, which the player begins without upgrades. -/
def LevelDef.battle (level : LevelDef) : Go.BotMatch where
  player := Go.levelPlayerModifiers
  enemy := level.enemy
  battlefieldId := level.battlefield
  rulesVersion := Go.levelRulesVersion
  difficulty := level.difficulty
  commander := none

def Accounts.levelsCompleted (db : Accounts) (userId : String) : ℤ :=
  (db.players userId).elim 0 PlayerRow.levelsCompleted

def Accounts.setLevelsCompleted (db : Accounts) (userId : String) (completed : ℤ) : Accounts :=
  { db with
    players := Function.update db.players userId
      ((db.players userId).map fun row => { row with levelsCompleted := completed }) }

section Replays

variable [MathLib]

def replayLevel (level : LevelDef) (actions : List PvpAction) :
    Except StoreError PvpBattleSummary :=
  match Go.simulateBotBattleWithCommander actions level.battle with
  | .error text => .error (.replay text)
  | .ok p => .ok p.2

def decideLevel (db : Database) (userId : String) (levelId : ℤ) (claimId : String)
    (actions : List PvpAction) (env : Env) : Except StoreError (Decision LevelClaimResult) := do
  match levelDefById levelId with
  | none => throw .levelInvalid
  | some level =>
    let summary ← replayLevel level actions
    if summary.status ≠ .victory then
      return .answer ⟨unpaid claimId "not_victory" false levelId Accounts.noCareer, 0⟩
    match ← findStoredClaim db.levelRewardClaims .levelClaimOwnership .levelClaimMismatch userId
        levelId claimId with
    | some existing => return .answer { existing with replayed := true }
    | none =>
      let career ← db.getCareerForUpdate userId
      let completed := db.levelsCompleted userId
      if levelId > completed + 1 then
        return .answer ⟨unpaid claimId "level_locked" false levelId career, completed⟩
      let next := levelsCompletedAfter completed levelId
      if claimed db.levelRewardClaims userId levelId then
        return .record ⟨unpaid claimId "already_claimed" true levelId career, next⟩
      let paid := payReward claimId levelId career level.coinReward
        (rewardEntry ("level_" ++ claimId) career level.coinReward
          ("level_" ++ toString levelId ++ "_first_clear") "level_reward" env.nowMillis)
      return .pay ⟨paid.1, next⟩ paid.2

def Database.completeLevelVerified (db : Database) (userId : String) (levelId : ℤ)
    (claimId : String) (actions : List PvpAction) (env : Env) :
    Except StoreError (LevelClaimResult × Database) :=
  (decideLevel db userId levelId claimId actions env).map fun decision =>
    decision.commit db
      (fun result db =>
        { db with toAccounts := db.setLevelsCompleted userId result.levelsCompleted })
      fun result db =>
        { db with
          toAccounts := db.setLevelsCompleted userId result.levelsCompleted
          levelRewardClaims := db.levelRewardClaims ++ [⟨claimId, userId, levelId, result⟩] }

/-! ### Weekly challenges -/

def weeklySeconds : ℤ := 7 * 24 * 60 * 60

def weeklyEpochOffset : ℤ := 2 * 24 * 60 * 60

def weeklyWeekIndex (nowMillis : ℤ) : ℤ :=
  let seconds := nowMillis / 1000 - weeklyEpochOffset
  if seconds < 0 then 0 else seconds / weeklySeconds

def weeklyBattlefields : List String := ["crown_cross", "twin_passes", "royal_ring"]

/-- The battle of a slot in a week: the slot sets the enemy and the reward, the week
the battlefield. -/
def weeklyDef (week slot : ℤ) : Option LevelDef :=
  let battlefield := weeklyBattlefields.getD ((week + slot - 1) % 3).toNat ""
  if week < 0 then none
  else if slot = 1 then some ⟨1, battlefield, .normal, levelEnemy 20 1, 50⟩
  else if slot = 2 then some ⟨2, battlefield, .hard, levelEnemy 20 0.95, 80⟩
  else if slot = 3 then some ⟨3, battlefield, .hard, levelEnemy 22 1.05, 120⟩
  else none

def decideWeekly (db : Database) (userId : String) (week slot : ℤ) (claimId : String)
    (actions : List PvpAction) (env : Env) :
    Except StoreError (Decision (ClaimResult (ℤ × ℤ))) := do
  match weeklyDef week slot with
  | none => throw .weeklyInvalid
  | some level =>
    if week ≠ weeklyWeekIndex env.nowMillis then
      return .answer (unpaid claimId "week_over" false (week, slot) Accounts.noCareer)
    let summary ← replayLevel level actions
    if summary.status ≠ .victory then
      return .answer (unpaid claimId "not_victory" false (week, slot) Accounts.noCareer)
    match ← findStoredClaim db.weeklyChallengeClaims .levelClaimOwnership .levelClaimMismatch
        userId (week, slot) claimId with
    | some existing => return .answer { existing with replayed := true }
    | none =>
      let career ← db.getCareerForUpdate userId
      if claimed db.weeklyChallengeClaims userId (week, slot) then
        return .record (unpaid claimId "already_claimed" true (week, slot) career)
      let paid := payReward claimId (week, slot) career level.coinReward
        (rewardEntry ("weekly_" ++ claimId) career level.coinReward
          ("weekly_w" ++ toString week ++ "_slot_" ++ toString slot) "weekly_challenge"
          env.nowMillis)
      return .pay paid.1 paid.2

def Database.completeWeeklyVerified (db : Database) (userId : String) (week slot : ℤ)
    (claimId : String) (actions : List PvpAction) (env : Env) :
    Except StoreError (ClaimResult (ℤ × ℤ) × Database) :=
  (decideWeekly db userId week slot claimId actions env).map fun decision =>
    decision.commit db (fun _ db => db) fun result db =>
      { db with
        weeklyChallengeClaims :=
          db.weeklyChallengeClaims ++ [⟨claimId, userId, (week, slot), result⟩] }

/-! ### Lane battles -/

def laneRewardByDifficulty : BotDifficulty → ℤ
  | .easy => 15
  | .normal => 25
  | .hard => 40

def laneLevelDefById (id : ℤ) : Option LaneLevel :=
  Go.laneLevelDefs.find? fun level => (level.id : ℤ) = id

def replayLane (level : LaneLevel) (actions : List LaneAction) : Except StoreError LaneBattleSummary :=
  match Go.replayLaneBattle level actions with
  | .error code => .error (.laneReplay code)
  | .ok p => .ok p.2

def decideLane (db : Database) (userId : String) (levelId : ℤ) (claimId : String)
    (actions : List LaneAction) (env : Env) : Except StoreError (Decision (ClaimResult ℤ)) := do
  match laneLevelDefById levelId with
  | none => throw .laneInvalidLevel
  | some level =>
    let summary ← replayLane level actions
    if summary.status ≠ .victory then
      return .answer (unpaid claimId "not_victory" false levelId Accounts.noCareer)
    match ← findStoredClaim db.laneRewardClaims .levelClaimOwnership .levelClaimMismatch userId
        levelId claimId with
    | some existing => return .answer { existing with replayed := true }
    | none =>
      let career ← db.getCareerForUpdate userId
      if claimed db.laneRewardClaims userId levelId then
        return .record (unpaid claimId "already_claimed" true levelId career)
      let reward := laneRewardByDifficulty level.botDifficulty
      let paid := payReward claimId levelId career reward
        (rewardEntry ("lane_" ++ claimId) career reward
          ("lane_" ++ toString levelId ++ "_first_clear") "lane_reward" env.nowMillis)
      return .pay paid.1 paid.2

def Database.completeLaneVerified (db : Database) (userId : String) (levelId : ℤ)
    (claimId : String) (actions : List LaneAction) (env : Env) :
    Except StoreError (ClaimResult ℤ × Database) :=
  (decideLane db userId levelId claimId actions env).map fun decision =>
    decision.commit db (fun _ db => db) fun result db =>
      { db with laneRewardClaims := db.laneRewardClaims ++ [⟨claimId, userId, levelId, result⟩] }

end Replays

end CrownClash.Store
