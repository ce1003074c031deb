import CrownClash.Store.Claims

/-!
# Client: the economy it predicts with

`progression.ts`, `upgrades.ts` and the table of `commanders.ts` of the game core:
what a match is worth, what an upgrade costs and what the levels and the commander
of a career give, reckoned in doubles.  The client keeps its career in the records
that the server sends, so these are the records of the store.

A level comes in as any number and leaves `normalizeUpgradeLevel` as a level there
is; a commander comes in as any value and leaves `getCommander` as one of three.
-/

namespace CrownClash.Ts

open Lib
open Go (PlayerCareer UpgradeType)
open Store (RankTierInfo MatchRewardBreakdown EconomyLedgerEntry MatchSettlement upgradeText)

/-! ### Commanders -/

structure CommanderDefinition where
  id : String
  unlockKingdomLevel : ℤ
  startingUnitsDelta : ℤ
  productionMultiplier : Float
  armySpeedMultiplier : Float
  deriving DecidableEq, Repr

def defaultCommanderId : String := "crown_guard"

def crownGuard : CommanderDefinition := ⟨"crown_guard", 0, 0, 1, 1⟩

def commanders : List CommanderDefinition :=
  [crownGuard, ⟨"quartermaster", 10, 0, 1.15, 0.9⟩, ⟨"vanguard", 25, -3, 1, 1.15⟩]

def normalizeCommanderId (value : String) : String :=
  if commanders.any fun commander => commander.id = value then value else defaultCommanderId

def getCommander (id : String) : CommanderDefinition :=
  (commanders.find? fun commander => commander.id = normalizeCommanderId id).getD crownGuard

/-! ### Upgrades -/

structure UpgradeDefinition where
  maxLevel : ℤ
  costs : List ℤ

def upgradeCosts : List ℤ :=
  [50, 100, 175, 275, 400, 500, 625, 775, 950, 1150,
   1375, 1625, 1900, 2200, 2525, 2875, 3250, 3650, 4100, 4600]

def upgradeDefinitions : UpgradeType → UpgradeDefinition
  | .startingGarrison => ⟨20, upgradeCosts⟩
  | .production => ⟨20, upgradeCosts⟩
  | .armySpeed => ⟨20, upgradeCosts⟩
  | .treasury => ⟨20, upgradeCosts⟩

/-- On an integer; anything else the script function can be given reads as zero. -/
def normalizeUpgradeLevel (value : ℤ) (type : UpgradeType) : ℤ :=
  min (upgradeDefinitions type).maxLevel (max 0 value)

def getUpgradeLevel (career : PlayerCareer) : UpgradeType → ℤ
  | .startingGarrison => normalizeUpgradeLevel career.startingGarrisonLevel .startingGarrison
  | .production => normalizeUpgradeLevel career.productionLevel .production
  | .treasury => normalizeUpgradeLevel career.treasuryLevel .treasury
  | .armySpeed => normalizeUpgradeLevel career.armySpeedLevel .armySpeed

def getNextUpgradeCost (career : PlayerCareer) (type : UpgradeType) : Option ℤ :=
  (upgradeDefinitions type).costs[(getUpgradeLevel career type).toNat]?

/-- `Math.round` sends a tie up. -/
def roundMultiplier (value : Float) : Float := toThousandths roundHalfUp value

def getStartingUnits (level : ℤ) : ℤ := 20 + min level 5 * 3 + max (level - 5) 0

def getProductionRateMultiplier (level : ℤ) : Float :=
  roundMultiplier (1 + Float.ofInt (min level 5) * 0.08 + Float.ofInt (max (level - 5) 0) * 0.02)

def getArmySpeedMultiplier (level : ℤ) : Float :=
  roundMultiplier (1 + Float.ofInt (min level 5) * 0.06 + Float.ofInt (max (level - 5) 0) * 0.015)

def getPlayerUpgradeModifiers (career : PlayerCareer) : PlayerUpgradeModifiers :=
  let garrisonLevel := getUpgradeLevel career .startingGarrison
  let productionLevel := getUpgradeLevel career .production
  let armySpeedLevel := getUpgradeLevel career .armySpeed
  let commander := getCommander career.selectedCommanderId
  { startingUnits := max 1 (getStartingUnits garrisonLevel + commander.startingUnitsDelta)
    productionRateMultiplier := exactValue (roundMultiplier
      (getProductionRateMultiplier productionLevel * commander.productionMultiplier))
    armySpeedMultiplier := exactValue (roundMultiplier
      (getArmySpeedMultiplier armySpeedLevel * commander.armySpeedMultiplier)) }

def getTreasuryCoinBonusRate (level : ℤ) : Float :=
  let safeLevel := normalizeUpgradeLevel level .treasury
  Float.ofInt (min safeLevel 5) * 0.05 + Float.ofInt (max (safeLevel - 5) 0) * 0.02

/-- The two sides of the union the script returns; `newCareer` of a failure is the
career it was given. -/
inductive UpgradePurchaseResult
  | success (cost : ℤ) (previousCareer newCareer : PlayerCareer) (ledgerEntry : EconomyLedgerEntry)
  | failure (reason : String) (cost : Option ℤ) (previousCareer newCareer : PlayerCareer)
  deriving DecidableEq, Repr

/-- The result as the record that the server fills in. -/
def UpgradePurchaseResult.wire : UpgradePurchaseResult → Store.UpgradePurchaseResult
  | .success cost previousCareer newCareer ledgerEntry =>
    ⟨true, "", some cost, previousCareer, newCareer, some ledgerEntry⟩
  | .failure reason cost previousCareer newCareer =>
    ⟨false, reason, cost, previousCareer, newCareer, none⟩

def purchaseUpgrade (career : PlayerCareer) (type : UpgradeType) (purchaseId : String)
    (timestamp : ℤ) : UpgradePurchaseResult :=
  let level := getUpgradeLevel career type
  match getNextUpgradeCost career type with
  | none => .failure "max_level" none career career
  | some cost =>
    if career.coins < cost then .failure "insufficient_coins" (some cost) career career
    else
      let newCareer : PlayerCareer :=
        { career with
          coins := career.coins - cost
          startingGarrisonLevel :=
            if type = .startingGarrison then level + 1 else career.startingGarrisonLevel
          productionLevel := if type = .production then level + 1 else career.productionLevel
          armySpeedLevel := if type = .armySpeed then level + 1 else career.armySpeedLevel
          treasuryLevel := if type = .treasury then level + 1 else career.treasuryLevel }
      .success cost career newCareer
        { id := purchaseId
          player := career.playerId
          currency := .coins
          amount := -cost
          reason := "upgrade_" ++ upgradeText type
          source := "upgrade_purchase"
          previousBalance := career.coins
          resultingBalance := newCareer.coins
          timestamp := timestamp }

/-! ### Matches -/

def rankTiers : List RankTierInfo :=
  [⟨"recruit", "Recruit", "🛡️", 0, 99, 0x94a3b8⟩,
   ⟨"soldier", "Soldier", "⚔️", 100, 249, 0x38bdf8⟩,
   ⟨"knight", "Knight", "🎖️", 250, 499, 0x818cf8⟩,
   ⟨"commander", "Commander", "👑", 500, 899, 0xf59e0b⟩,
   ⟨"warlord", "Warlord", "🔱", 900, 1399, 0xec4899⟩,
   ⟨"crown_lord", "Crown Lord", "💎", 1400, 99999, 0xa855f7⟩]

/-- The loop over the tiers from the highest one down. -/
def getRankTier (trophies : ℤ) : RankTierInfo :=
  let safeTrophies := max 0 trophies
  (rankTiers.reverse.find? fun tier => safeTrophies ≥ tier.minTrophies).getD
    ⟨"recruit", "Recruit", "🛡️", 0, 99, 0x94a3b8⟩

def applyTreasuryBonus (treasuryLevel baseCoins speedBonus dominationBonus streakBonus
    trophyDelta : ℤ) : MatchRewardBreakdown :=
  let preTreasuryCoinReward := baseCoins + speedBonus + dominationBonus + streakBonus
  let treasuryBonus :=
    ⌊exactValue (Float.ofInt preTreasuryCoinReward * getTreasuryCoinBonusRate treasuryLevel)⌋
  { baseCoins := baseCoins
    speedBonus := speedBonus
    dominationBonus := dominationBonus
    streakBonus := streakBonus
    treasuryBonus := treasuryBonus
    totalCoins := preTreasuryCoinReward + treasuryBonus
    trophyDelta := trophyDelta }

def calculateMatchRewards (status : MatchStatus) (stats : MatchStats) (currentStreak : ℤ)
    (treasuryLevel : ℤ) : MatchRewardBreakdown :=
  if status = .victory then
    let speedBonus :=
      if stats.matchDurationSeconds > 0 ∧ stats.matchDurationSeconds ≤ 40 then 15
      else if stats.matchDurationSeconds ≤ 60 then 10
      else 0
    let dominationBonus := if stats.territoriesCapturedByPlayer ≥ 5 then 15 else 0
    let newStreak := currentStreak + 1
    let streakBonus := min 25 (max 0 ((newStreak - 1) * 5))
    applyTreasuryBonus treasuryLevel 40 speedBonus dominationBonus streakBonus 30
  else if status = .defeat then applyTreasuryBonus treasuryLevel 10 0 0 0 (-12)
  else applyTreasuryBonus treasuryLevel 20 0 0 0 5

/-- The settlement the client expects of a match. -/
def settleMatch (career : PlayerCareer) (status : MatchStatus) (stats : MatchStats)
    (matchId : String) (timestamp : ℤ) : MatchSettlement :=
  let previousRank := getRankTier career.trophies
  let breakdown := calculateMatchRewards status stats career.currentStreak career.treasuryLevel
  let isWin : Bool := status = .victory
  let matchesWon := if isWin then career.matchesWon + 1 else career.matchesWon
  let currentStreak := if isWin then career.currentStreak + 1 else 0
  let newTrophies := max 0 (career.trophies + breakdown.trophyDelta)
  let actualTrophyDelta := newTrophies - career.trophies
  let newCoins := career.coins + breakdown.totalCoins
  let newCareer : PlayerCareer :=
    { career with
      coins := newCoins
      trophies := newTrophies
      matchesPlayed := career.matchesPlayed + 1
      matchesWon := matchesWon
      currentStreak := currentStreak
      bestStreak := max career.bestStreak currentStreak
      lastMatchTimestamp := timestamp }
  let newRank := getRankTier newCareer.trophies
  let coinEntry : EconomyLedgerEntry :=
    { id := matchId ++ "_coins_" ++ toString timestamp
      player := career.playerId
      currency := .coins
      amount := breakdown.totalCoins
      reason := if isWin then "match_victory"
        else if status = .draw then "match_draw" else "match_consolation"
      source := "battle_settlement"
      previousBalance := career.coins
      resultingBalance := newCoins
      timestamp := timestamp }
  let trophyEntry : EconomyLedgerEntry :=
    { id := matchId ++ "_trophies_" ++ toString timestamp
      player := career.playerId
      currency := .trophies
      amount := actualTrophyDelta
      reason := if isWin then "rank_victory"
        else if status = .draw then "rank_draw" else "rank_defeat"
      source := "battle_settlement"
      previousBalance := career.trophies
      resultingBalance := newTrophies
      timestamp := timestamp }
  { matchId := matchId
    status := status
    breakdown := breakdown
    stats := stats
    previousCareer := career
    newCareer := newCareer
    previousRank := previousRank
    newRank := newRank
    rankPromoted := newRank.minTrophies > previousRank.minTrophies
    ledgerEntries := if actualTrophyDelta ≠ 0 then [coinEntry] ++ [trophyEntry] else [coinEntry] }

end CrownClash.Ts
