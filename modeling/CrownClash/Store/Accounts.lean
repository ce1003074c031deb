import CrownClash.Lib.Table
import CrownClash.Store.Economy

/-!
# Store: the players, their ledger and their daily progress

The three tables that every reward touches, and the helpers of `store.go` that
touch them.  A career is written back column by column; what is no column of the
update stays as it is.  The ledger is unique by id, and an entry whose id is
taken is dropped without a word.
-/

namespace CrownClash.Store

open Lib
open Go (PlayerCareer)

structure PlayerRow where
  coins : ℤ
  gems : ℤ
  trophies : ℤ
  startingGarrisonLevel : ℤ
  productionLevel : ℤ
  armySpeedLevel : ℤ
  treasuryLevel : ℤ
  selectedCommander : String
  matchesPlayed : ℤ
  matchesWon : ℤ
  currentStreak : ℤ
  bestStreak : ℤ
  lastMatchTimestamp : ℤ
  tutorialCompleted : Bool
  levelsCompleted : ℤ
  deriving DecidableEq, Repr

structure DailyProgressRow where
  matchesPlayed : ℤ
  matchesWon : ℤ
  territoriesCaptured : ℤ
  playMatchesClaimed : Bool
  winMatchClaimed : Bool
  captureTerritoriesClaimed : Bool
  crownChestClaimed : Bool
  deriving DecidableEq, Repr

/-- `dailyProgress` is keyed by the player and the day. -/
structure Accounts where
  players : String → Option PlayerRow
  ledger : List EconomyLedgerEntry
  dailyProgress : String → String → Option DailyProgressRow

def careerFromRow (id : String) (row : PlayerRow) : PlayerCareer where
  playerId := id
  coins := row.coins
  gems := row.gems
  trophies := row.trophies
  startingGarrisonLevel := row.startingGarrisonLevel
  productionLevel := row.productionLevel
  armySpeedLevel := row.armySpeedLevel
  treasuryLevel := row.treasuryLevel
  selectedCommanderId := row.selectedCommander
  matchesPlayed := row.matchesPlayed
  matchesWon := row.matchesWon
  currentStreak := row.currentStreak
  bestStreak := row.bestStreak
  lastMatchTimestamp := row.lastMatchTimestamp
  tutorialCompleted := row.tutorialCompleted

/-- The columns that a career is written to. -/
def PlayerRow.persist (row : PlayerRow) (career : PlayerCareer) : PlayerRow :=
  { row with
    coins := career.coins
    gems := career.gems
    trophies := career.trophies
    startingGarrisonLevel := career.startingGarrisonLevel
    productionLevel := career.productionLevel
    armySpeedLevel := career.armySpeedLevel
    treasuryLevel := career.treasuryLevel
    matchesPlayed := career.matchesPlayed
    matchesWon := career.matchesWon
    currentStreak := career.currentStreak
    bestStreak := career.bestStreak
    lastMatchTimestamp := career.lastMatchTimestamp }

namespace Accounts

/-- The career of a player who is stored.  Reading it for an update locks the row. -/
def career? (db : Accounts) (userId : String) : Option PlayerCareer :=
  (db.players userId).map (careerFromRow userId)

/-- What a map of careers gives for a user it does not know. -/
def noCareer : PlayerCareer := ⟨"", 0, 0, 0, 0, 0, 0, 0, "", 0, 0, 0, 0, 0, false⟩

def persistCareer (db : Accounts) (career : PlayerCareer) : Accounts :=
  { db with
    players := Function.update db.players career.playerId
      ((db.players career.playerId).map fun row => row.persist career) }

def insertLedgerEntries (db : Accounts) (entries : List EconomyLedgerEntry) : Accounts :=
  { db with ledger := insertAll EconomyLedgerEntry.id db.ledger entries }

/-- `captures` is what the statistics of the match say. -/
def advanceDailyProgress (db : Accounts) (userId : String) (status : MatchStatus)
    (captures : ℤ) (dayKey : String) : Accounts :=
  let wins := if status = .victory then 1 else 0
  let captures := min (max 0 captures) 10
  let row : DailyProgressRow :=
    match db.dailyProgress userId dayKey with
    | none => ⟨1, wins, captures, false, false, false, false⟩
    | some row =>
      { row with
        matchesPlayed := min (row.matchesPlayed + 1) 2
        matchesWon := min (row.matchesWon + wins) 1
        territoriesCaptured := min (row.territoriesCaptured + captures) 10 }
  { db with
    dailyProgress := Function.update db.dailyProgress userId
      (Function.update (db.dailyProgress userId) dayKey (some row)) }

@[simp] theorem insertLedgerEntries_players (db : Accounts) (entries : List EconomyLedgerEntry) :
    (db.insertLedgerEntries entries).players = db.players := rfl

theorem persistCareer_players_of_ne (db : Accounts) {career : PlayerCareer} {u : String}
    (h : u ≠ career.playerId) : (db.persistCareer career).players u = db.players u :=
  Function.update_of_ne h _ _

/-- What is read back of a career that was written. -/
theorem career?_persistCareer {db : Accounts} {row : PlayerRow} {career : PlayerCareer}
    (h : db.players career.playerId = some row)
    (hc : career.selectedCommanderId = row.selectedCommander)
    (ht : career.tutorialCompleted = row.tutorialCompleted) :
    (db.persistCareer career).career? career.playerId = some career := by
  unfold career? persistCareer
  dsimp only
  rw [Function.update_self, h]
  cases career
  cases hc
  cases ht
  rfl

end Accounts

end CrownClash.Store
