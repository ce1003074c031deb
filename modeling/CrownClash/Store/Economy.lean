import CrownClash.Go.Upgrades

/-!
# Store: what a match is worth

The pure economy rules of `domain.go`: the ranks, the rewards of a match and the
settlement that the store writes, with its ledger entries.  The bonus of the treasury
is the floor of a product of doubles.  A reward policy governs trophies only: the
casual one leaves them as they are (`settleMatchWithPolicy_casual`).
-/

namespace CrownClash.Store

open Lib
open Go (PlayerCareer UpgradeType upgradeLevel)

structure RankTierInfo where
  id : String
  name : String
  badge : String
  minTrophies : ℤ
  maxTrophies : ℤ
  color : ℤ
  deriving DecidableEq, Repr

def rankTiers : List RankTierInfo :=
  [⟨"recruit", "Recruit", "🛡️", 0, 99, 0x94a3b8⟩,
   ⟨"soldier", "Soldier", "⚔️", 100, 249, 0x38bdf8⟩,
   ⟨"knight", "Knight", "🎖️", 250, 499, 0x818cf8⟩,
   ⟨"commander", "Commander", "👑", 500, 899, 0xf59e0b⟩,
   ⟨"warlord", "Warlord", "🔱", 900, 1399, 0xec4899⟩,
   ⟨"crown_lord", "Crown Lord", "💎", 1400, 99999, 0xa855f7⟩]

/-- The highest tier that the trophies reach. -/
def getRankTier (trophies : ℤ) : RankTierInfo :=
  (rankTiers.reverse.find? fun tier => max 0 trophies ≥ tier.minTrophies).getD
    ⟨"recruit", "Recruit", "🛡️", 0, 99, 0x94a3b8⟩

inductive Currency
  | coins
  | trophies
  deriving DecidableEq, Repr

def Currency.text : Currency → String
  | .coins => "coins"
  | .trophies => "trophies"

structure EconomyLedgerEntry where
  id : String
  player : String
  currency : Currency
  amount : ℤ
  reason : String
  source : String
  previousBalance : ℤ
  resultingBalance : ℤ
  timestamp : ℤ
  deriving DecidableEq, Repr

structure MatchRewardBreakdown where
  baseCoins : ℤ
  speedBonus : ℤ
  dominationBonus : ℤ
  streakBonus : ℤ
  treasuryBonus : ℤ
  totalCoins : ℤ
  trophyDelta : ℤ
  deriving DecidableEq, Repr

def MatchRewardBreakdown.zero : MatchRewardBreakdown := ⟨0, 0, 0, 0, 0, 0, 0⟩

structure MatchSettlement where
  matchId : String
  status : MatchStatus
  breakdown : MatchRewardBreakdown
  stats : MatchStats
  previousCareer : PlayerCareer
  newCareer : PlayerCareer
  previousRank : RankTierInfo
  newRank : RankTierInfo
  rankPromoted : Bool
  ledgerEntries : List EconomyLedgerEntry
  deriving DecidableEq, Repr

def treasuryCoinBonusRate (level : ℤ) : Float :=
  let level := min 20 (max 0 level)
  Float.ofInt (min level 5) * 0.05 + Float.ofInt (max (level - 5) 0) * 0.02

/-- The parts of a reward with the bonus of the treasury on top. -/
def withTreasury (treasuryLevel baseCoins speedBonus dominationBonus streakBonus trophyDelta : ℤ) :
    MatchRewardBreakdown :=
  let preTreasury := baseCoins + speedBonus + dominationBonus + streakBonus
  let bonus := ⌊exactValue (Float.ofInt preTreasury * treasuryCoinBonusRate treasuryLevel)⌋
  ⟨baseCoins, speedBonus, dominationBonus, streakBonus, bonus, preTreasury + bonus, trophyDelta⟩

def calculateMatchRewards (status : MatchStatus) (stats : MatchStats) (currentStreak : ℤ)
    (treasuryLevel : ℤ) : MatchRewardBreakdown :=
  match status with
  | .victory =>
    let speedBonus :=
      if 0 < stats.matchDurationSeconds ∧ stats.matchDurationSeconds ≤ 40 then 15
      else if stats.matchDurationSeconds ≤ 60 then 10
      else 0
    let dominationBonus := if 5 ≤ stats.territoriesCapturedByPlayer then 15 else 0
    let streakBonus := min 25 (max 0 ((currentStreak + 1 - 1) * 5))
    withTreasury treasuryLevel 40 speedBonus dominationBonus streakBonus 30
  | .defeat => withTreasury treasuryLevel 10 0 0 0 (-12)
  | _ => withTreasury treasuryLevel 20 0 0 0 5

structure RewardPolicy where
  rankedTrophies : Bool
  deriving DecidableEq, Repr

def rankedPolicy : RewardPolicy := ⟨true⟩

def casualPolicy : RewardPolicy := ⟨false⟩

def matchReason : MatchStatus → String
  | .victory => "match_victory"
  | .draw => "match_draw"
  | _ => "match_consolation"

def trophyReason : MatchStatus → String
  | .victory => "rank_victory"
  | .draw => "rank_draw"
  | _ => "rank_defeat"

/-- The settlement of one match for one career. -/
def settleMatchWithPolicy (career : PlayerCareer) (status : MatchStatus) (stats : MatchStats)
    (matchId : String) (timestamp : ℤ) (policy : RewardPolicy) : MatchSettlement :=
  let rewards := calculateMatchRewards status stats career.currentStreak career.treasuryLevel
  let breakdown := if policy.rankedTrophies then rewards else { rewards with trophyDelta := 0 }
  let isWin : Bool := status = .victory
  let currentStreak := if isWin then career.currentStreak + 1 else 0
  let newTrophies := max 0 (career.trophies + breakdown.trophyDelta)
  let actualTrophyDelta := newTrophies - career.trophies
  let newCareer : PlayerCareer :=
    { career with
      coins := career.coins + breakdown.totalCoins
      trophies := newTrophies
      matchesPlayed := career.matchesPlayed + 1
      matchesWon := if isWin then career.matchesWon + 1 else career.matchesWon
      currentStreak := currentStreak
      bestStreak := max career.bestStreak currentStreak
      lastMatchTimestamp := timestamp }
  let coinEntry : EconomyLedgerEntry :=
    { id := matchId ++ "_coins_" ++ toString timestamp
      player := career.playerId
      currency := .coins
      amount := breakdown.totalCoins
      reason := matchReason status
      source := "battle_settlement"
      previousBalance := career.coins
      resultingBalance := newCareer.coins
      timestamp := timestamp }
  let trophyEntry : EconomyLedgerEntry :=
    { id := matchId ++ "_trophies_" ++ toString timestamp
      player := career.playerId
      currency := .trophies
      amount := actualTrophyDelta
      reason := trophyReason status
      source := "battle_settlement"
      previousBalance := career.trophies
      resultingBalance := newCareer.trophies
      timestamp := timestamp }
  { matchId := matchId
    status := status
    breakdown := breakdown
    stats := stats
    previousCareer := career
    newCareer := newCareer
    previousRank := getRankTier career.trophies
    newRank := getRankTier newCareer.trophies
    rankPromoted := (getRankTier newCareer.trophies).minTrophies >
      (getRankTier career.trophies).minTrophies
    ledgerEntries := if actualTrophyDelta ≠ 0 then [coinEntry, trophyEntry] else [coinEntry] }

def settleMatch (career : PlayerCareer) (status : MatchStatus) (stats : MatchStats)
    (matchId : String) (timestamp : ℤ) : MatchSettlement :=
  settleMatchWithPolicy career status stats matchId timestamp rankedPolicy

/-- **The casual policy leaves trophies alone**, as long as there are none to be
cut off below zero. -/
theorem settleMatchWithPolicy_casual (career : PlayerCareer) (status : MatchStatus)
    (stats : MatchStats) (matchId : String) (timestamp : ℤ) :
    (settleMatchWithPolicy career status stats matchId timestamp casualPolicy).newCareer.trophies =
      max 0 career.trophies := by
  change max 0 (career.trophies + 0) = max 0 career.trophies
  rw [add_zero]

end CrownClash.Store
