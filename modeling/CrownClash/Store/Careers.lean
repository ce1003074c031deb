import CrownClash.Store.Ledger

/-!
# Store: what every career satisfies

A player begins with the default career, or is one of the seeded opponents, and from
then on a career is written by payments only (`PayForm`).  `CareerOk` is what all of
these ways keep: no coins and no trophies below zero, upgrades within their levels, no
more wins than matches and no streak above the best one.

The count of completed levels is next to the career.  It goes up one by one, with the
completion of the next level, and a level is paid for when the count has reached it.
-/

namespace CrownClash.Store

open Lib
open Go (PlayerCareer UpgradeType upgradeLevel)

/-! ### Rows that no payment writes -/

/-- The row of a new player; the columns that the insert leaves out have their defaults. -/
def createDefaultCareer : PlayerRow where
  coins := 100
  gems := 10
  trophies := 0
  startingGarrisonLevel := 0
  productionLevel := 0
  armySpeedLevel := 0
  treasuryLevel := 0
  selectedCommander := "crown_guard"
  matchesPlayed := 0
  matchesWon := 0
  currentStreak := 0
  bestStreak := 0
  lastMatchTimestamp := 0
  tutorialCompleted := false
  levelsCompleted := 0

/-- A player row, unless the player has one. -/
def Accounts.insertPlayer (db : Accounts) (userId : String) (row : PlayerRow) : Accounts :=
  match db.players userId with
  | some _ => db
  | none => { db with players := Function.update db.players userId (some row) }

def Accounts.updatePlayer (db : Accounts) (userId : String) (f : PlayerRow → PlayerRow) :
    Accounts :=
  { db with players := Function.update db.players userId ((db.players userId).map f) }

def Accounts.getOrCreateCareer (db : Accounts) (userId : String) : Accounts :=
  db.insertPlayer userId createDefaultCareer

def Accounts.completeTutorial (db : Accounts) (userId : String) : Accounts :=
  (db.getOrCreateCareer userId).updatePlayer userId fun row =>
    { row with tutorialCompleted := true }

def commanderUnlockLevel (commanderId : String) : Option ℤ :=
  if commanderId = "crown_guard" then some 0
  else if commanderId = "quartermaster" then some 10
  else if commanderId = "vanguard" then some 25
  else none

def kingdomLevel (career : PlayerCareer) : ℤ :=
  upgradeLevel career .startingGarrison + upgradeLevel career .production +
    upgradeLevel career .armySpeed + upgradeLevel career .treasury

def Accounts.selectCommander (db : Accounts) (userId commanderId : String) : Accounts :=
  match commanderUnlockLevel commanderId, db.career? userId with
  | some unlock, some career =>
    if kingdomLevel career < unlock then db
    else db.updatePlayer userId fun row => { row with selectedCommander := commanderId }
  | _, _ => db

/-- A level that an old client reports without proof, which pays nothing. -/
def Accounts.completeLevel (db : Accounts) (userId : String) (level : ℤ) : Accounts :=
  if level < 1 ∨ level > levelCount then db
  else
    let db := db.getOrCreateCareer userId
    let next := levelsCompletedAfter (db.levelsCompleted userId) level
    if next ≠ db.levelsCompleted userId then db.setLevelsCompleted userId next else db

structure SeedBot where
  id : String
  trophies : ℤ

def seedBotRoster : List SeedBot :=
  [⟨"seedbot_01", 12⟩, ⟨"seedbot_02", 28⟩, ⟨"seedbot_03", 40⟩, ⟨"seedbot_04", 58⟩,
   ⟨"seedbot_05", 74⟩, ⟨"seedbot_06", 92⟩, ⟨"seedbot_07", 110⟩, ⟨"seedbot_08", 128⟩,
   ⟨"seedbot_09", 150⟩, ⟨"seedbot_10", 168⟩, ⟨"seedbot_11", 190⟩, ⟨"seedbot_12", 212⟩,
   ⟨"seedbot_13", 236⟩, ⟨"seedbot_14", 262⟩, ⟨"seedbot_15", 290⟩, ⟨"seedbot_16", 318⟩,
   ⟨"seedbot_17", 348⟩, ⟨"seedbot_18", 380⟩, ⟨"seedbot_19", 414⟩, ⟨"seedbot_20", 450⟩,
   ⟨"seedbot_21", 490⟩, ⟨"seedbot_22", 532⟩, ⟨"seedbot_23", 576⟩, ⟨"seedbot_24", 624⟩,
   ⟨"seedbot_25", 676⟩, ⟨"seedbot_26", 730⟩, ⟨"seedbot_27", 788⟩, ⟨"seedbot_28", 850⟩,
   ⟨"seedbot_29", 914⟩, ⟨"seedbot_30", 982⟩, ⟨"seedbot_31", 1050⟩, ⟨"seedbot_32", 1124⟩,
   ⟨"seedbot_33", 1200⟩, ⟨"seedbot_34", 1290⟩]

/-- The commander that a player of the kingdom level could own, in turn. -/
def seedBotCommander (index : ℕ) (kingdomLevel : ℤ) : String :=
  let unlocked := "crown_guard" :: ["quartermaster", "vanguard"].filter fun id =>
    (commanderUnlockLevel id).getD 0 ≤ kingdomLevel
  unlocked.getD (index % unlocked.length) ""

/-- Upgrades as a player of that rank would have them. -/
def seedBotRow (index : ℕ) (bot : SeedBot) : PlayerRow :=
  let base := bot.trophies / 80
  let wobble : ℤ := (index * 7 % 3 : ℕ) - 1
  let clamp (level : ℤ) : ℤ := min 20 (max 0 level)
  let kingdom := clamp (base + wobble) + clamp (base - wobble) + clamp base + clamp (base - 1)
  { createDefaultCareer with
    coins := 0
    gems := 0
    trophies := bot.trophies
    startingGarrisonLevel := clamp (base + wobble)
    productionLevel := clamp (base - wobble)
    armySpeedLevel := clamp base
    treasuryLevel := clamp (base - 1)
    selectedCommander := seedBotCommander index kingdom
    tutorialCompleted := true }

def Accounts.ensureSeedBots (db : Accounts) : Accounts :=
  seedBotRoster.zipIdx.foldl (fun db p => db.insertPlayer p.1.id (seedBotRow p.2 p.1)) db

/-! ### The operations -/

/-- The coins that are sold. -/
def pilotCoinProducts : List CoinProduct := [⟨"starter", 750, 190000⟩, ⟨"refill", 1500, 490000⟩]

/-- Orders are issued for a product of the catalogue. -/
def StoreOp.FromCatalogue : StoreOp → Prop
  | .issue tables => ∀ order ∈ tables.coinOrders, order.product ∈ pilotCoinProducts
  | _ => True

/-- Everything that is done to careers. -/
inductive CareerOp
  | store (op : StoreOp) (h : op.FromCatalogue)
  | getOrCreateCareer (userId : String)
  | completeTutorial (userId : String)
  | selectCommander (userId commanderId : String)
  | completeLevel (userId : String) (level : ℤ)
  | ensureSeedBots

def Database.runCareer [MathLib] (db : Database) : CareerOp → Database
  | .store op _ => db.run op
  | .getOrCreateCareer userId => { db with toAccounts := db.toAccounts.getOrCreateCareer userId }
  | .completeTutorial userId => { db with toAccounts := db.toAccounts.completeTutorial userId }
  | .selectCommander userId commanderId =>
    { db with toAccounts := db.toAccounts.selectCommander userId commanderId }
  | .completeLevel userId level =>
    { db with toAccounts := db.toAccounts.completeLevel userId level }
  | .ensureSeedBots => { db with toAccounts := db.toAccounts.ensureSeedBots }

/-- The tables as they are created. -/
def emptyStore : Database where
  players _ := none
  ledger := []
  dailyProgress _ _ := none
  matchSettlementsMulti := []
  matchReplays := []
  botMatches := []
  pvpDefenses _ := none
  realmTickets := []
  coinOrders := []
  matchSettlements := []
  upgradePurchases := []
  pvpAttacks := []
  dailyRewardClaims := []
  leagueRewardClaims := []
  levelRewardClaims := []
  weeklyChallengeClaims := []
  laneRewardClaims := []

/-! ### What a career satisfies -/

def storedLevels (career : PlayerCareer) : List ℤ :=
  [career.startingGarrisonLevel, career.productionLevel, career.armySpeedLevel,
    career.treasuryLevel]

/-- A level that there are costs up to. -/
def LevelOk (level : ℤ) : Prop := 0 ≤ level ∧ level ≤ upgradeCosts.length

structure CareerOk (career : PlayerCareer) : Prop where
  coins : 0 ≤ career.coins
  trophies : 0 ≤ career.trophies
  levels : ∀ level ∈ storedLevels career, LevelOk level
  won : career.matchesWon ≤ career.matchesPlayed
  streak : career.currentStreak ≤ career.bestStreak

/-- Every career that is stored is `CareerOk`. -/
def CareersOk (db : Accounts) : Prop :=
  ∀ u career, db.career? u = some career → CareerOk career

/-! ### Each way to pay keeps it -/

/-- What a match does to a career: it takes no coins, is won only if it is played, leaves
the upgrades alone, and no trophies below zero or streak above the best one come of it. -/
structure Played (career new : PlayerCareer) : Prop where
  coins : career.coins ≤ new.coins
  trophies : 0 ≤ career.trophies → 0 ≤ new.trophies
  levels : storedLevels new = storedLevels career
  won : new.matchesWon - career.matchesWon ≤ new.matchesPlayed - career.matchesPlayed
  streak : career.currentStreak ≤ career.bestStreak → new.currentStreak ≤ new.bestStreak

theorem Played.ok {career new : PlayerCareer} (hplayed : Played career new)
    (h : CareerOk career) : CareerOk new where
  coins := h.coins.trans hplayed.coins
  trophies := hplayed.trophies h.trophies
  levels := hplayed.levels ▸ h.levels
  won := by
    have hold := h.won
    have hnew := hplayed.won
    omega
  streak := hplayed.streak h.streak

/-- The treasury that a reward is reckoned with does not matter when it is put back. -/
theorem Played.withTreasury {career new : PlayerCareer} {level : ℤ}
    (h : Played { career with treasuryLevel := level } new) :
    Played career { new with treasuryLevel := career.treasuryLevel } where
  coins := h.coins
  trophies := h.trophies
  levels := by
    have hlevels := h.levels
    simp only [storedLevels, List.cons.injEq] at hlevels
    simp only [storedLevels, hlevels.1, hlevels.2.1, hlevels.2.2.1]
  won := h.won
  streak := h.streak

theorem settle_coins (career : PlayerCareer) (status : MatchStatus) (stats : MatchStats)
    (matchId : String) (now : ℤ) (policy : RewardPolicy) :
    career.coins <
      (settleMatchWithPolicy career status stats matchId now policy).newCareer.coins := by
  have htotal := calculateMatchRewards_totalCoins status stats career.currentStreak
    career.treasuryLevel
  have hnew : (settleMatchWithPolicy career status stats matchId now policy).newCareer.coins =
      career.coins + (calculateMatchRewards status stats career.currentStreak
        career.treasuryLevel).totalCoins := by
    obtain ⟨rankedTrophies⟩ := policy
    cases rankedTrophies <;> rfl
  omega

theorem settle_won (career : PlayerCareer) (status : MatchStatus) (stats : MatchStats)
    (matchId : String) (now : ℤ) (policy : RewardPolicy) :
    let new := (settleMatchWithPolicy career status stats matchId now policy).newCareer
    new.matchesWon - career.matchesWon ≤ new.matchesPlayed - career.matchesPlayed := by
  intro new
  have hplayed : new.matchesPlayed = career.matchesPlayed + 1 := rfl
  have hwon : new.matchesWon ≤ career.matchesWon + 1 := by
    cases status with
    | victory => exact le_refl (career.matchesWon + 1)
    | playing => exact Int.le.intro 1 rfl
    | defeat => exact Int.le.intro 1 rfl
    | draw => exact Int.le.intro 1 rfl
  omega

theorem settle_played (career : PlayerCareer) (status : MatchStatus) (stats : MatchStats)
    (matchId : String) (now : ℤ) (policy : RewardPolicy) :
    Played career (settleMatchWithPolicy career status stats matchId now policy).newCareer where
  coins := (settle_coins career status stats matchId now policy).le
  trophies _ := le_max_left _ _
  levels := rfl
  won := settle_won career status stats matchId now policy
  streak _ := le_max_right _ _

theorem pilotSettlement_played (career : PlayerCareer) (pilot : PilotPractice)
    (summary : PvpBattleSummary) (matchId : String) (now : ℤ) :
    Played career (pilotSettlement career pilot summary matchId now).newCareer := by
  have hmatch := settle_played { career with treasuryLevel := pilot.rewardTreasuryLevel }
    summary.status summary.stats matchId now casualPolicy
  exact ⟨hmatch.coins, hmatch.trophies, rfl, hmatch.won, fun h => h⟩

/-- A realm settlement that is not ranked and eligible leaves trophies or streaks alone. -/
theorem realmSettlement_played (career : PlayerCareer) (status : MatchStatus)
    (stats : MatchStats) (id : String) (now : ℤ) (source : RealmSource) (eligible : Bool) :
    Played career (realmSettlement career status stats id now source eligible).newCareer where
  coins := by
    have hpaid := realmCoins_nonneg career status stats source eligible
    rw [realmSettlement_coins]
    omega
  trophies h := by
    cases eligible with
    | true => cases source <;> exact le_max_left _ _
    | false => cases source <;> exact h
  levels := by cases eligible <;> cases source <;> rfl
  won := by
    have hmatch := settle_won career status stats id now rankedPolicy
    cases eligible <;> cases source <;> exact hmatch
  streak h := by
    cases eligible with
    | true =>
      cases source with
      | ranked => exact le_max_right _ _
      | friend => exact h
      | revenge => exact h
    | false => cases source <;> exact h

theorem ticketSettlement_played (career : PlayerCareer) (ticket : RealmTicket)
    (summary : PvpBattleSummary) (id : String) (now : ℤ) (eligible : Bool) :
    Played career (ticketSettlement career ticket summary id now eligible).newCareer :=
  (realmSettlement_played _ summary.status summary.stats id now ticket.source
    eligible).withTreasury

/-- Giving up loses no more trophies than there are, and counts no match. -/
theorem abandonSettlement_played (career : PlayerCareer) (ticket : RealmTicket) (now : ℤ) :
    Played career (abandonSettlement career ticket now).newCareer := by
  have hmatch := realmSettlement_played career .defeat MatchStats.zero ticket.matchId now
    ticket.source false
  unfold abandonSettlement
  dsimp only
  split
  · exact ⟨hmatch.coins, hmatch.trophies, hmatch.levels, by dsimp only; omega, hmatch.streak⟩
  · refine ⟨hmatch.coins, fun h => ?_, hmatch.levels, by dsimp only; omega, hmatch.streak⟩
    show 0 ≤ career.trophies + -min 12 career.trophies
    omega

theorem purchaseUpgrade_ok {career : PlayerCareer} (h : CareerOk career) {upgrade : UpgradeType}
    {purchaseId : String} {now : ℤ}
    (hs : (purchaseUpgrade career upgrade purchaseId now).success = true) :
    CareerOk (purchaseUpgrade career upgrade purchaseId now).newCareer := by
  unfold purchaseUpgrade at hs ⊢
  dsimp only at hs ⊢
  split at hs
  · cases hs
  next cost hcost =>
  split at hs
  · cases hs
  next hafford =>
  rw [if_neg hafford]
  have hnonneg := Go.upgradeLevel_nonneg career upgrade
  obtain ⟨hlength, -⟩ := List.getElem?_eq_some_iff.mp hcost
  have hlevel : LevelOk (upgradeLevel career upgrade + 1) := ⟨by omega, by omega⟩
  have hcoins : 0 ≤ career.coins - cost := by omega
  have hold := h.levels
  simp only [storedLevels, List.forall_mem_cons, List.not_mem_nil, false_imp_iff, imp_true_iff,
    and_true] at hold
  obtain ⟨hgarrison, hproduction, hspeed, htreasury⟩ := hold
  cases upgrade <;>
    refine ⟨hcoins, h.trophies, ?_, h.won, h.streak⟩ <;>
      simp only [storedLevels, setUpgradeLevel, List.forall_mem_cons, List.not_mem_nil,
        false_imp_iff, imp_true_iff, and_true]
  · exact ⟨hlevel, hproduction, hspeed, htreasury⟩
  · exact ⟨hgarrison, hlevel, hspeed, htreasury⟩
  · exact ⟨hgarrison, hproduction, hlevel, htreasury⟩
  · exact ⟨hgarrison, hproduction, hspeed, hlevel⟩

/-- Coins on top, or taken back as far as there are any. -/
theorem rewarded_ok {career : PlayerCareer} (h : CareerOk career) {amount : ℤ}
    (hamount : -career.coins ≤ amount) : CareerOk (rewarded career amount) where
  coins := by
    show 0 ≤ career.coins + amount
    omega
  trophies := h.trophies
  levels := h.levels
  won := h.won
  streak := h.streak

/-- Orders are for coins, not for debts. -/
def OrdersOk (db : Database) : Prop := ∀ order ∈ db.coinOrders, 0 ≤ order.product.coins

/-- **Whatever an operation pays, the career it leaves is `CareerOk`.** -/
theorem PayForm.career_ok {db : Database} {p : Payment} (h : PayForm db p)
    (hcareers : CareersOk db.toAccounts) (horders : OrdersOk db) : CareerOk p.career := by
  cases h with
  | settle h status stats matchId now policy =>
    exact (settle_played _ status stats matchId now policy).ok (hcareers _ _ h)
  | participant h matchId participant now =>
    exact (settle_played _ _ _ matchId now casualPolicy).ok (hcareers _ _ h)
  | pilot h => exact (pilotSettlement_played _ _ _ _ _).ok (hcareers _ _ h)
  | ticket h => exact (ticketSettlement_played _ _ _ _ _ _).ok (hcareers _ _ h)
  | abandon h => exact (abandonSettlement_played _ _ _).ok (hcareers _ _ h)
  | purchase h hs => exact purchaseUpgrade_ok (hcareers _ _ h) hs
  | reward h hamount =>
    have hok := hcareers _ _ h
    have hcoins := hok.coins
    exact rewarded_ok hok (by omega)
  | credit h horder =>
    have hok := hcareers _ _ h
    have hcoins := hok.coins
    have hproduct := horders _ horder
    exact rewarded_ok hok (by omega)
  | refund h order =>
    have hok := hcareers _ _ h
    exact rewarded_ok hok (by omega)

/-! ### What the writes keep -/

theorem CareersOk.pay {db : Accounts} {p : Payment} (h : CareersOk db) (hp : CareerOk p.career) :
    CareersOk (db.pay p) := by
  intro u career hcareer
  obtain ⟨row, hrow, rfl⟩ := Option.map_eq_some_iff.mp hcareer
  by_cases hu : u = p.career.playerId
  · rw [hu] at hrow
    have hupdated : (db.pay p).players p.career.playerId =
        (db.players p.career.playerId).map fun row => row.persist p.career :=
      Function.update_self _ _ _
    rw [hupdated] at hrow
    obtain ⟨old, -, rfl⟩ := Option.map_eq_some_iff.mp hrow
    exact ⟨hp.coins, hp.trophies, hp.levels, hp.won, hp.streak⟩
  · have hsame : (db.pay p).players u = db.players u := db.persistCareer_players_of_ne hu
    rw [hsame] at hrow
    exact h u _ (Option.map_eq_some_iff.mpr ⟨row, hrow, rfl⟩)

theorem CareersOk.pays : ∀ {ps : List Payment} {db : Accounts}, CareersOk db →
    (∀ p ∈ ps, CareerOk p.career) → CareersOk (ps.foldl Accounts.pay db) := by
  intro ps
  induction ps with
  | nil => intro db h _; exact h
  | cons p ps ih =>
    intro db h hps
    exact ih (h.pay (hps p List.mem_cons_self)) fun q hq => hps q (List.mem_cons_of_mem p hq)

/-- The row of a player who has none yet. -/
theorem CareersOk.insertPlayer {db : Accounts} (h : CareersOk db) {userId : String}
    {row : PlayerRow} (hrow : CareerOk (careerFromRow userId row)) :
    CareersOk (db.insertPlayer userId row) := by
  unfold Accounts.insertPlayer
  split
  · exact h
  · intro u career hcareer
    obtain ⟨stored, hstored, rfl⟩ := Option.map_eq_some_iff.mp hcareer
    dsimp only at hstored
    by_cases hu : u = userId
    · rw [hu, Function.update_self] at hstored
      cases hstored
      exact hu ▸ hrow
    · rw [Function.update_of_ne hu] at hstored
      exact h u _ (Option.map_eq_some_iff.mpr ⟨stored, hstored, rfl⟩)

/-- An update of other columns. -/
theorem CareersOk.updatePlayer {db : Accounts} (h : CareersOk db) (userId : String)
    {f : PlayerRow → PlayerRow}
    (hf : ∀ row, CareerOk (careerFromRow userId row) → CareerOk (careerFromRow userId (f row))) :
    CareersOk (db.updatePlayer userId f) := by
  intro u career hcareer
  obtain ⟨stored, hstored, rfl⟩ := Option.map_eq_some_iff.mp hcareer
  unfold Accounts.updatePlayer at hstored
  dsimp only at hstored
  by_cases hu : u = userId
  · rw [hu, Function.update_self] at hstored
    obtain ⟨old, hold, rfl⟩ := Option.map_eq_some_iff.mp hstored
    rw [hu]
    exact hf old (h userId _ (Option.map_eq_some_iff.mpr ⟨old, hold, rfl⟩))
  · rw [Function.update_of_ne hu] at hstored
    exact h u _ (Option.map_eq_some_iff.mpr ⟨stored, hstored, rfl⟩)

theorem createDefaultCareer_ok (userId : String) :
    CareerOk (careerFromRow userId createDefaultCareer) where
  coins := show (0 : ℤ) ≤ 100 by decide
  trophies := le_refl 0
  levels := by
    show ∀ level ∈ [0, 0, 0, 0], LevelOk level
    intro level hlevel
    have hzero : level = 0 := by simpa using hlevel
    rw [hzero]
    exact ⟨by decide, by decide⟩
  won := le_refl 0
  streak := le_refl 0

theorem seedBotRow_ok {userId : String} (index : ℕ) {bot : SeedBot} (h : 0 ≤ bot.trophies) :
    CareerOk (careerFromRow userId (seedBotRow index bot)) where
  coins := le_refl 0
  trophies := h
  levels := by
    have hclamp : ∀ level : ℤ, LevelOk (min 20 (max 0 level)) := by
      intro level
      refine ⟨le_min (by decide) (le_max_left 0 level), min_le_left 20 _⟩
    simp only [storedLevels, careerFromRow, seedBotRow, List.forall_mem_cons, List.not_mem_nil,
      false_imp_iff, imp_true_iff, and_true]
    exact ⟨hclamp _, hclamp _, hclamp _, hclamp _⟩
  won := le_refl 0
  streak := le_refl 0

theorem seedBotRoster_trophies : ∀ bot ∈ seedBotRoster, 0 ≤ bot.trophies := by decide

theorem CareersOk.ensureSeedBots {db : Accounts} (h : CareersOk db) :
    CareersOk db.ensureSeedBots := by
  refine foldl_preserves (fun db p hp hdb => ?_) h
  exact hdb.insertPlayer
    (seedBotRow_ok p.2 (seedBotRoster_trophies p.1 (List.fst_mem_of_mem_zipIdx hp)))

/-! ### The count of completed levels -/

theorem levelsCompletedAfter_cases (completed level : ℤ) :
    levelsCompletedAfter completed level = completed ∨
      levelsCompletedAfter completed level = completed + 1 ∧ level = completed + 1 := by
  unfold levelsCompletedAfter
  split
  · exact Or.inl rfl
  · split
    · exact Or.inr ⟨by omega, by omega⟩
    · exact Or.inl rfl

/-- A level that is within reach is not above the count after it is completed. -/
theorem le_levelsCompletedAfter {completed level : ℤ} (hlow : 1 ≤ level)
    (hhigh : level ≤ levelCount) (hnext : level ≤ completed + 1) :
    level ≤ levelsCompletedAfter completed level := by
  unfold levelsCompletedAfter
  rw [if_neg (by omega)]
  split
  · exact le_refl level
  · omega

theorem levelDefById_range {id : ℤ} {level : LevelDef} (h : levelDefById id = some level) :
    1 ≤ id ∧ id ≤ levelCount := by
  have hrange : ∀ level ∈ levelDefs, 1 ≤ level.id ∧ level.id ≤ levelCount := by decide
  have hid : level.id = id := by simpa using List.find?_some h
  rw [← hid]
  exact hrange level (List.mem_of_find?_eq_some h)

theorem levelsCompleted_setLevelsCompleted (db : Accounts) {userId : String} {row : PlayerRow}
    (h : db.players userId = some row) (completed : ℤ) (u : String) :
    (db.setLevelsCompleted userId completed).levelsCompleted u =
      if u = userId then completed else db.levelsCompleted u := by
  unfold Accounts.levelsCompleted Accounts.setLevelsCompleted
  dsimp only
  by_cases hu : u = userId
  · rw [if_pos hu, hu, Function.update_self, h]
    rfl
  · rw [if_neg hu, Function.update_of_ne hu]

/-- A career is written without the count. -/
theorem levelsCompleted_pay (db : Accounts) (p : Payment) (u : String) :
    (db.pay p).levelsCompleted u = db.levelsCompleted u := by
  unfold Accounts.levelsCompleted
  by_cases hu : u = p.career.playerId
  · have hupdated : (db.pay p).players p.career.playerId =
        (db.players p.career.playerId).map fun row => row.persist p.career :=
      Function.update_self _ _ _
    rw [hu, hupdated]
    cases db.players p.career.playerId <;> rfl
  · have hsame : (db.pay p).players u = db.players u := db.persistCareer_players_of_ne hu
    rw [hsame]

theorem levelsCompleted_pays (u : String) : ∀ (ps : List Payment) (db : Accounts),
    (ps.foldl Accounts.pay db).levelsCompleted u = db.levelsCompleted u := by
  intro ps
  induction ps with
  | nil => intro db; rfl
  | cons p ps ih => intro db; exact (ih (db.pay p)).trans (levelsCompleted_pay db p u)

theorem levelsCompleted_insertPlayer (db : Accounts) (userId : String) {row : PlayerRow}
    (h : row.levelsCompleted = 0) (u : String) :
    (db.insertPlayer userId row).levelsCompleted u = db.levelsCompleted u := by
  unfold Accounts.insertPlayer
  split
  · rfl
  next hnone =>
    unfold Accounts.levelsCompleted
    dsimp only
    by_cases hu : u = userId
    · rw [hu, Function.update_self, hnone]
      exact h
    · rw [Function.update_of_ne hu]

theorem levelsCompleted_updatePlayer (db : Accounts) (userId : String) {f : PlayerRow → PlayerRow}
    (hf : ∀ row, (f row).levelsCompleted = row.levelsCompleted) (u : String) :
    (db.updatePlayer userId f).levelsCompleted u = db.levelsCompleted u := by
  unfold Accounts.levelsCompleted Accounts.updatePlayer
  dsimp only
  by_cases hu : u = userId
  · rw [hu, Function.update_self]
    cases db.players userId with
    | none => rfl
    | some row => exact hf row
  · rw [Function.update_of_ne hu]

theorem levelsCompleted_ensureSeedBots (db : Accounts) (u : String) :
    db.ensureSeedBots.levelsCompleted u = db.levelsCompleted u := by
  have hinsert : ∀ (a : Accounts), ∀ p ∈ seedBotRoster.zipIdx,
      a.levelsCompleted u = db.levelsCompleted u →
        (a.insertPlayer p.1.id (seedBotRow p.2 p.1)).levelsCompleted u = db.levelsCompleted u :=
    fun a p _ ha => (levelsCompleted_insertPlayer a p.1.id rfl u).trans ha
  exact foldl_preserves hinsert rfl

/-! ### Completing a level -/

/-- The level that an operation completes, and for whom. -/
def StoreOp.level? : StoreOp → Option (String × ℤ)
  | .completeLevelVerified userId levelId _ _ _ => some (userId, levelId)
  | _ => none

def CareerOp.level? : CareerOp → Option (String × ℤ)
  | .store op _ => op.level?
  | .completeLevel userId level => some (userId, level)
  | _ => none

/-- What an operation pays. -/
def CareerOp.payments [MathLib] (db : Database) : CareerOp → List Payment
  | .store op _ => op.payments db
  | _ => []

/-- A decision that writes is about a level within reach, and counts it. -/
theorem decideLevel_next [MathLib] {db : Database} {userId : String} {levelId : ℤ}
    {claimId : String} {actions : List PvpAction} {env : Env} {d : Decision LevelClaimResult}
    {r : LevelClaimResult} (h : decideLevel db userId levelId claimId actions env = .ok d)
    (hd : d = .record r ∨ ∃ p, d = .pay r p) :
    (∃ row, db.players userId = some row) ∧ 1 ≤ levelId ∧ levelId ≤ levelCount ∧
      levelId ≤ db.levelsCompleted userId + 1 ∧
      r.levelsCompleted = levelsCompletedAfter (db.levelsCompleted userId) levelId := by
  simp only [decideLevel, bind, Except.bind, pure, Except.pure, throw, throwThe,
    MonadExceptOf.throw] at h
  split at h
  · cases h
  next level hlevel =>
  obtain ⟨hlow, hhigh⟩ := levelDefById_range hlevel
  split at h
  · cases h
  split at h
  · cases h
    rcases hd with hd | ⟨p, hd⟩ <;> cases hd
  split at h
  · cases h
  split at h
  · cases h
    rcases hd with hd | ⟨p, hd⟩ <;> cases hd
  split at h
  · cases h
  next career hcareer =>
  obtain ⟨row, hrow, -⟩ := Option.map_eq_some_iff.mp (getCareerForUpdate_ok hcareer)
  split at h
  · cases h
    rcases hd with hd | ⟨p, hd⟩ <;> cases hd
  next hnext =>
  split at h
  · cases h
    rcases hd with hd | ⟨p, hd⟩ <;> cases hd
    exact ⟨⟨row, hrow⟩, hlow, hhigh, by omega, rfl⟩
  · cases h
    rcases hd with hd | ⟨p, hd⟩ <;> cases hd
    exact ⟨⟨row, hrow⟩, hlow, hhigh, by omega, rfl⟩

/-! ### Orders that are written back -/

/-- An order that is written back is for what an order was for. -/
theorem OrdersOk.setCoinOrder {db : Database} (h : OrdersOk db) {order : CoinOrderRow}
    (horder : 0 ≤ order.product.coins) : OrdersOk (db.setCoinOrder order) := by
  intro row hrow
  obtain ⟨old, hold, rfl⟩ := List.mem_map.mp hrow
  split
  · exact horder
  · exact h old hold

theorem decideFulfill_order {db : Database} {payment : VerifiedCoinPayment} {env : Env}
    {r : CoinOrderRow} {p : Payment} (h : decideFulfill db payment env = .ok (.pay r p)) :
    ∃ order ∈ db.coinOrders, r.product = order.product := by
  obtain ⟨order, career, horder, -, -, -, -, rfl, -⟩ := decideFulfill_pays h
  exact ⟨order, coinOrder_mem horder, rfl⟩

theorem decideRefund_order {db : Database} {id reference note : String} {env : Env}
    {r : CoinOrderRow} {p : Payment} (h : decideRefund db id reference note env = .ok (.pay r p)) :
    ∃ order ∈ db.coinOrders, r.product = order.product := by
  obtain ⟨order, career, horder, -, -, rfl, -⟩ := decideRefund_pays h
  exact ⟨order, coinOrder_mem horder, rfl⟩

/-! ### One operation -/

section Ops

variable [MathLib]

/-- An operation that completes no level leaves the counts and the paid levels alone. -/
theorem run_levels {db : Database} {op : StoreOp} (h : op.level? = none) :
    (∀ u, (db.run op).levelsCompleted u = db.levelsCompleted u) ∧
      (db.run op).levelRewardClaims = db.levelRewardClaims := by
  constructor
  · intro u
    have hrun := @run_eq _ _ (fun a => a.levelsCompleted u) (fun hplayers _ => by
      unfold Accounts.levelsCompleted
      rw [hplayers]) db op fun userId levelId claimId actions env hop => by
        rw [hop] at h
        cases h
    exact hrun.trans (levelsCompleted_pays u _ _)
  · cases op with
    | completeLevelVerified userId levelId claimId actions env => cases h
    | settleMatch2v2 request clock =>
      simp only [Database.run, Database.settleMatch2v2]
      split <;> rfl
    | settleRealmAttack userId id actions env =>
      refine committed_frame (F := Database.levelRewardClaims) (fun _ _ => rfl) (fun _ _ => rfl)
        fun result db => ?_
      dsimp only
      split <;> rfl
    | abandonRealmAttack userId id env =>
      refine committed_frame (F := Database.levelRewardClaims) (fun _ _ => rfl) (fun _ _ => rfl)
        fun result db => ?_
      cases result <;> rfl
    | issue tables => rfl
    | _ =>
      exact committed_frame (F := Database.levelRewardClaims) (fun _ _ => rfl) (fun _ _ => rfl)
        fun _ _ => rfl

/-- What a verified completion does to the counts and the paid levels. -/
theorem completeLevelVerified_cases {db : Database} {userId : String} {levelId : ℤ}
    {claimId : String} {actions : List PvpAction} {env : Env} :
    let op := StoreOp.completeLevelVerified userId levelId claimId actions env
    (op.payments db = [] ∧ (∀ u, (db.run op).levelsCompleted u = db.levelsCompleted u) ∧
      (db.run op).levelRewardClaims = db.levelRewardClaims) ∨
    ((∃ row, db.players userId = some row) ∧ 1 ≤ levelId ∧ levelId ≤ levelCount ∧
      levelId ≤ db.levelsCompleted userId + 1 ∧
      (∀ u, (db.run op).levelsCompleted u =
        if u = userId then levelsCompletedAfter (db.levelsCompleted userId) levelId
        else db.levelsCompleted u) ∧
      ∀ row ∈ (db.run op).levelRewardClaims,
        row ∈ db.levelRewardClaims ∨ row.playerId = userId ∧ row.subject = levelId) := by
  intro op
  cases h : decideLevel db userId levelId claimId actions env with
  | error e =>
    have hrun : db.run op = db := by
      simp only [op, Database.run, Database.completeLevelVerified, h, Except.map, committed]
    have hpays : op.payments db = [] := by
      simp only [op, StoreOp.payments, h, paid]
    rw [hrun]
    exact Or.inl ⟨hpays, fun u => rfl, rfl⟩
  | ok d =>
    simp only [op, StoreOp.payments, paid, h, Database.run, Database.completeLevelVerified,
      Except.map, committed]
    cases d with
    | answer r => exact Or.inl ⟨rfl, fun u => rfl, rfl⟩
    | record r =>
      obtain ⟨⟨row, hrow⟩, hlow, hhigh, hnext, hcount⟩ := decideLevel_next h (Or.inl rfl)
      refine Or.inr ⟨⟨row, hrow⟩, hlow, hhigh, hnext, fun u => ?_, fun row hmem => Or.inl hmem⟩
      show (db.toAccounts.setLevelsCompleted userId r.levelsCompleted).levelsCompleted u = _
      rw [levelsCompleted_setLevelsCompleted _ hrow, hcount]
    | pay r p =>
      obtain ⟨⟨row, hrow⟩, hlow, hhigh, hnext, hcount⟩ := decideLevel_next h (Or.inr ⟨p, rfl⟩)
      refine Or.inr ⟨⟨row, hrow⟩, hlow, hhigh, hnext, fun u => ?_, fun row hmem => ?_⟩
      · obtain ⟨paidRow, hpaid⟩ : ∃ paidRow, (db.toAccounts.pay p).players userId =
            some paidRow := by
          by_cases hu : userId = p.career.playerId
          · refine ⟨row.persist p.career, ?_⟩
            rw [hu] at hrow ⊢
            show Function.update db.players p.career.playerId _ p.career.playerId = _
            rw [Function.update_self, hrow]
            rfl
          · exact ⟨row, (db.toAccounts.persistCareer_players_of_ne hu).trans hrow⟩
        show ((db.toAccounts.pay p).setLevelsCompleted userId r.levelsCompleted).levelsCompleted u
          = _
        rw [levelsCompleted_setLevelsCompleted _ hpaid, hcount, levelsCompleted_pay]
      · rcases List.mem_append.mp hmem with hmem | hmem
        · exact Or.inl hmem
        · rw [List.mem_singleton.mp hmem]
          exact Or.inr ⟨rfl, rfl⟩

theorem OrdersOk.run {db : Database} (h : OrdersOk db) {op : StoreOp} (hop : op.FromCatalogue) :
    OrdersOk (db.run op) := by
  cases op with
  | issue tables =>
    have hproducts : ∀ product ∈ pilotCoinProducts, 0 ≤ product.coins := by decide
    exact fun order horder => hproducts _ (hop order horder)
  | fulfillCoinOrder payment env =>
    refine committed_inv h (fun _ _ => h) fun r p hpay => ?_
    obtain ⟨order, horder, hproduct⟩ := decideFulfill_order hpay
    exact OrdersOk.setCoinOrder h (hproduct ▸ h order horder)
  | recordCoinRefund id reference note env =>
    refine committed_inv h (fun _ _ => h) fun r p hpay => ?_
    obtain ⟨order, horder, hproduct⟩ := decideRefund_order hpay
    exact OrdersOk.setCoinOrder h (hproduct ▸ h order horder)
  | settleMatch2v2 request clock =>
    simp only [Database.run, Database.settleMatch2v2]
    split <;> exact h
  | settleRealmAttack userId id actions env =>
    refine committed_inv h (fun _ _ => h) fun r p _ => ?_
    dsimp only
    split <;> exact h
  | abandonRealmAttack userId id env =>
    refine committed_inv h (fun _ _ => h) fun r p _ => ?_
    cases r <;> exact h
  | _ => exact committed_inv h (fun _ _ => h) fun _ _ _ => h

end Ops

/-! ### Every run -/

/-- What the store keeps: orders are for coins, and no level is paid that is above the
count of its player. -/
structure StoreOk (db : Database) : Prop where
  careers : CareersOk db.toAccounts
  orders : OrdersOk db
  levels : ∀ row ∈ db.levelRewardClaims, row.subject ≤ db.levelsCompleted row.playerId

theorem emptyStore_ok : StoreOk emptyStore where
  careers _ _ h := nomatch h
  orders _ h := (List.not_mem_nil h).elim
  levels _ h := (List.not_mem_nil h).elim

/-- The counts stay, but for the next level of the player who completes it, and a level
is paid only if the count has reached it then. -/
def LevelsInOrder [MathLib] (db : Database) (op : CareerOp) : Prop :=
  (∀ u, (db.runCareer op).levelsCompleted u = db.levelsCompleted u ∨
    (db.runCareer op).levelsCompleted u = db.levelsCompleted u + 1 ∧
      op.level? = some (u, db.levelsCompleted u + 1)) ∧
  ∀ u level, op.level? = some (u, level) → op.payments db ≠ [] →
    level ≤ (db.runCareer op).levelsCompleted u

section Runs

variable [MathLib]

/-- One step of a count: it stays, or the next level is completed. -/
theorem run_count (db : Database) (op : StoreOp) (u : String) :
    (db.run op).levelsCompleted u = db.levelsCompleted u ∨
      (db.run op).levelsCompleted u = db.levelsCompleted u + 1 ∧
        op.level? = some (u, db.levelsCompleted u + 1) := by
  cases op with
  | completeLevelVerified userId levelId claimId actions env =>
    rcases @completeLevelVerified_cases _ db userId levelId claimId actions env with
      ⟨-, hcount, -⟩ | ⟨-, -, -, -, hcount, -⟩
    · exact Or.inl (hcount u)
    · rw [hcount u]
      by_cases hu : u = userId
      · rw [if_pos hu, hu]
        rcases levelsCompletedAfter_cases (db.levelsCompleted userId) levelId with
          hsame | ⟨hnext, hlevel⟩
        · exact Or.inl hsame
        · refine Or.inr ⟨hnext, ?_⟩
          show some (userId, levelId) = _
          rw [← hlevel]
      · rw [if_neg hu]
        exact Or.inl rfl
  | _ => exact Or.inl ((run_levels rfl).1 u)

theorem run_paidLevel {db : Database} {op : StoreOp} {u : String} {level : ℤ}
    (hlevel : op.level? = some (u, level)) (hpays : op.payments db ≠ []) :
    level ≤ (db.run op).levelsCompleted u := by
  cases op with
  | completeLevelVerified userId levelId claimId actions env =>
    cases hlevel
    rcases @completeLevelVerified_cases _ db u level claimId actions env with
      ⟨hnone, -, -⟩ | ⟨-, hlow, hhigh, hnext, hcount, -⟩
    · exact absurd hnone hpays
    · rw [hcount u, if_pos rfl]
      exact le_levelsCompletedAfter hlow hhigh hnext
  | _ => cases hlevel

theorem run_paidRows {db : Database} {op : StoreOp} :
    ∀ row ∈ (db.run op).levelRewardClaims, row ∈ db.levelRewardClaims ∨
      row.subject ≤ (db.run op).levelsCompleted row.playerId := by
  intro row hrow
  cases op with
  | completeLevelVerified userId levelId claimId actions env =>
    rcases @completeLevelVerified_cases _ db userId levelId claimId actions env with
      ⟨-, -, hrows⟩ | ⟨-, hlow, hhigh, hnext, hcount, hrows⟩
    · rw [hrows] at hrow
      exact Or.inl hrow
    · rcases hrows row hrow with hold | ⟨hplayer, hsubject⟩
      · exact Or.inl hold
      · rw [hplayer, hsubject, hcount userId, if_pos rfl]
        exact Or.inr (le_levelsCompletedAfter hlow hhigh hnext)
  | _ =>
    rw [(run_levels rfl).2] at hrow
    exact Or.inl hrow

theorem CareersOk.run {db : Database} (h : CareersOk db.toAccounts) (horders : OrdersOk db)
    (op : StoreOp) : CareersOk (db.run op).toAccounts := by
  have hpays : CareersOk ((op.payments db).foldl Accounts.pay db.toAccounts) :=
    h.pays fun p hp => ((payments_form db op).1 p hp).career_ok h horders
  intro u career hcareer
  have hrun := @run_eq _ _ (fun a => a.career? u) (fun hplayers _ => by
    unfold Accounts.career?
    rw [hplayers]) db op fun userId levelId claimId actions env _ a completed => by
      unfold Accounts.career? Accounts.setLevelsCompleted
      dsimp only
      by_cases hu : u = userId
      · rw [hu, Function.update_self]
        cases a.players userId <;> rfl
      · rw [Function.update_of_ne hu]
  exact hpays u career (hrun.symm.trans hcareer)

omit [MathLib] in
/-- The count of a player who reports a level. -/
theorem completeLevel_count (db : Accounts) (userId : String) (level : ℤ) (u : String) :
    (db.completeLevel userId level).levelsCompleted u = db.levelsCompleted u ∨
      (db.completeLevel userId level).levelsCompleted u = db.levelsCompleted u + 1 ∧
        some (userId, level) = some (u, db.levelsCompleted u + 1) := by
  have hcreate : (db.getOrCreateCareer userId).levelsCompleted u = db.levelsCompleted u :=
    levelsCompleted_insertPlayer db userId rfl u
  unfold Accounts.completeLevel
  dsimp only
  split
  · exact Or.inl rfl
  split
  next hnext =>
    obtain ⟨row, hrow⟩ : ∃ row, (db.getOrCreateCareer userId).players userId = some row := by
      unfold Accounts.getOrCreateCareer Accounts.insertPlayer
      split
      next row hrow => exact ⟨row, hrow⟩
      · exact ⟨createDefaultCareer, Function.update_self _ _ _⟩
    rw [levelsCompleted_setLevelsCompleted _ hrow]
    by_cases hu : u = userId
    · rw [if_pos hu, ← hu]
      rw [← hu] at hnext hcreate
      rw [hcreate] at hnext ⊢
      rcases levelsCompletedAfter_cases (db.levelsCompleted u) level with
        hsame | ⟨hone, hlevel⟩
      · exact absurd hsame hnext
      · exact Or.inr ⟨hone, by rw [hlevel]⟩
    · rw [if_neg hu]
      exact Or.inl hcreate
  · exact Or.inl hcreate

theorem runCareer_inOrder (db : Database) (op : CareerOp) : LevelsInOrder db op := by
  cases op with
  | store op hop => exact ⟨run_count db op, fun u level hlevel hpays => run_paidLevel hlevel hpays⟩
  | getOrCreateCareer userId =>
    exact ⟨fun u => Or.inl (levelsCompleted_insertPlayer db.toAccounts userId rfl u),
      fun u level _ h => absurd rfl h⟩
  | completeTutorial userId =>
    refine ⟨fun u => Or.inl ?_, fun u level _ h => absurd rfl h⟩
    show (Accounts.updatePlayer _ _ _).levelsCompleted u = _
    refine (levelsCompleted_updatePlayer _ userId ?_ u).trans
      (levelsCompleted_insertPlayer db.toAccounts userId rfl u)
    exact fun _ => rfl
  | selectCommander userId commanderId =>
    refine ⟨fun u => Or.inl ?_, fun u level _ h => absurd rfl h⟩
    show (Accounts.selectCommander _ _ _).levelsCompleted u = _
    unfold Accounts.selectCommander
    split
    · split
      · rfl
      · refine levelsCompleted_updatePlayer db.toAccounts userId ?_ u
        exact fun _ => rfl
    · rfl
  | completeLevel userId level =>
    exact ⟨completeLevel_count db.toAccounts userId level, fun u level _ h => absurd rfl h⟩
  | ensureSeedBots =>
    exact ⟨fun u => Or.inl (levelsCompleted_ensureSeedBots db.toAccounts u),
      fun u level _ h => absurd rfl h⟩

omit [MathLib] in
theorem CareersOk.setLevelsCompleted {db : Accounts} (h : CareersOk db) (userId : String)
    (completed : ℤ) : CareersOk (db.setLevelsCompleted userId completed) :=
  h.updatePlayer userId fun _ hrow => hrow

theorem CareersOk.runCareer {db : Database} (h : CareersOk db.toAccounts) (horders : OrdersOk db)
    (op : CareerOp) : CareersOk (db.runCareer op).toAccounts := by
  have hcreate : ∀ userId, CareersOk (db.toAccounts.getOrCreateCareer userId) :=
    fun userId => h.insertPlayer (createDefaultCareer_ok userId)
  cases op with
  | store op hop => exact CareersOk.run h horders op
  | getOrCreateCareer userId => exact hcreate userId
  | completeTutorial userId =>
    exact (hcreate userId).updatePlayer userId fun row hrow =>
      ⟨hrow.coins, hrow.trophies, hrow.levels, hrow.won, hrow.streak⟩
  | selectCommander userId commanderId =>
    show CareersOk (db.toAccounts.selectCommander userId commanderId)
    unfold Accounts.selectCommander
    split
    · split
      · exact h
      · exact h.updatePlayer userId fun row hrow =>
          ⟨hrow.coins, hrow.trophies, hrow.levels, hrow.won, hrow.streak⟩
    · exact h
  | completeLevel userId level =>
    show CareersOk (db.toAccounts.completeLevel userId level)
    unfold Accounts.completeLevel
    dsimp only
    split
    · exact h
    split
    · exact (hcreate userId).setLevelsCompleted userId _
    · exact hcreate userId
  | ensureSeedBots => exact h.ensureSeedBots

/-- A count never falls. -/
theorem LevelsInOrder.le {db : Database} {op : CareerOp} (h : LevelsInOrder db op) (u : String) :
    db.levelsCompleted u ≤ (db.runCareer op).levelsCompleted u := by
  rcases h.1 u with hsame | ⟨hnext, -⟩
  · rw [hsame]
  · rw [hnext]
    omega

theorem StoreOk.runCareer {db : Database} (h : StoreOk db) (op : CareerOp) :
    StoreOk (db.runCareer op) where
  careers := CareersOk.runCareer h.careers h.orders op
  orders := by
    cases op with
    | store op hop => exact OrdersOk.run h.orders hop
    | _ => exact h.orders
  levels row hrow := by
    have hgrows := (runCareer_inOrder db op).le row.playerId
    cases op with
    | store op hop =>
      rcases run_paidRows row hrow with hold | hreached
      · exact (h.levels row hold).trans hgrows
      · exact hreached
    | _ => exact (h.levels row hrow).trans hgrows

/-- **Every career stays in order.**  In every run of operations, whatever their players,
every stored career has no coins and no trophies below zero, upgrades within their levels,
no more wins than matches and no streak above its best; the count of completed levels goes
up one by one, and no level is paid for that is above the count. -/
theorem careers_in_order (ops : List CareerOp) :
    Always Database.runCareer
      (fun db => CareersOk db.toAccounts ∧
        ∀ row ∈ db.levelRewardClaims, row.subject ≤ db.levelsCompleted row.playerId)
      emptyStore ops ∧
    EachStep Database.runCareer LevelsInOrder emptyStore ops := by
  constructor
  · have hok : Always Database.runCareer StoreOk emptyStore ops :=
      always_of_preserves (fun _ op _ h => h.runCareer op) (fun _ _ => trivial) emptyStore_ok
    exact fun before hb => ⟨(hok before hb).careers, (hok before hb).levels⟩
  · exact fun before op _ => runCareer_inOrder _ op

end Runs

end CrownClash.Store
