import CrownClash.Go.Live
import CrownClash.Ts.Progression

/-!
# Both sides: one economy

The client predicts what the store will write.  Prices, levels and modifiers are
the same on both sides for every career (`purchaseUpgrade_eq`,
`upgradeModifiers_eq`), and so is the settlement of a ranked match
(`settleMatch_eq`).

The client knows one reward rule only, the ranked one.  The store settles casual
matches with a policy that keeps the coins and the streak and moves no trophies,
so there the two settlements differ, and in the trophies only
(`settleMatch_casual`).
-/

namespace CrownClash.Parity

open Lib
open Go (PlayerCareer UpgradeType)
open Store (MatchSettlement MatchRewardBreakdown RewardPolicy)

/-! ### Levels and modifiers -/

theorem normalizeUpgradeLevel_eq (value : ℤ) (type : UpgradeType) :
    Ts.normalizeUpgradeLevel value type = min 20 (max 0 value) := by
  cases type <;> rfl

theorem getUpgradeLevel_eq (career : PlayerCareer) (type : UpgradeType) :
    Ts.getUpgradeLevel career type = Go.upgradeLevel career type := by
  cases type <;> rfl

theorem getTreasuryCoinBonusRate_eq (level : ℤ) :
    Ts.getTreasuryCoinBonusRate level = Store.treasuryCoinBonusRate level := rfl

/-- A product that is not negative is rounded alike. -/
theorem roundMultiplier_eq {value : Float} (h : 0 ≤ exactValue (value * 1000)) :
    Ts.roundMultiplier value = Go.roundMultiplier value := (toThousandths_away h).symm

/-- What is rounded for a production level: the level's own rate, that rate again for a
commander who leaves it alone, and the quartermaster's. -/
theorem productionProducts_nonneg : ∀ level ∈ Finset.Icc (0 : ℤ) 20,
    0 ≤ exactValue ((1 + Float.ofInt (min level 5) * 0.08
        + Float.ofInt (max (level - 5) 0) * 0.02) * 1000) ∧
      0 ≤ exactValue (Go.levelProductionRate level * 1.15 * 1000) := by
  decide +kernel

/-- What is rounded for a speed level, likewise. -/
theorem speedProducts_nonneg : ∀ level ∈ Finset.Icc (0 : ℤ) 20,
    0 ≤ exactValue ((1 + Float.ofInt (min level 5) * 0.06
        + Float.ofInt (max (level - 5) 0) * 0.015) * 1000) ∧
      0 ≤ exactValue (Go.levelArmySpeed level * 0.9 * 1000) ∧
      0 ≤ exactValue (Go.levelArmySpeed level * 1.15 * 1000) := by
  decide +kernel

/-- A rate that is rounded is not moved when it is rounded again.  In doubles this is no
law; it is so for the rates of all levels. -/
theorem roundMultiplier_twice : ∀ level ∈ Finset.Icc (0 : ℤ) 20,
    Ts.roundMultiplier (Go.levelProductionRate level * 1) = Go.levelProductionRate level ∧
      Ts.roundMultiplier (Go.levelArmySpeed level * 1) = Go.levelArmySpeed level := by
  decide +kernel

/-- The commander that an id names on the client. -/
theorem getCommander_cases (id : String) :
    (id = "quartermaster" ∧ Ts.getCommander id = ⟨"quartermaster", 10, 0, 1.15, 0.9⟩) ∨
      (id = "vanguard" ∧ Ts.getCommander id = ⟨"vanguard", 25, -3, 1, 1.15⟩) ∨
      (id ≠ "quartermaster" ∧ id ≠ "vanguard" ∧ Ts.getCommander id = Ts.crownGuard) := by
  by_cases hq : id = "quartermaster"
  · subst hq
    exact Or.inl ⟨rfl, rfl⟩
  by_cases hv : id = "vanguard"
  · subst hv
    exact Or.inr (Or.inl ⟨rfl, rfl⟩)
  refine Or.inr (Or.inr ⟨hq, hv, ?_⟩)
  have hn : Ts.normalizeCommanderId id = "crown_guard" := by
    unfold Ts.normalizeCommanderId
    split
    · next h =>
      obtain ⟨c, hc, he⟩ := List.any_eq_true.mp h
      have he' : c.id = id := of_decide_eq_true he
      simp only [Ts.commanders, List.mem_cons, List.not_mem_nil, or_false] at hc
      rcases hc with rfl | rfl | rfl
      · exact he'.symm
      · exact absurd he'.symm hq
      · exact absurd he'.symm hv
    · rfl
  unfold Ts.getCommander
  rw [hn]
  rfl

theorem getProductionRateMultiplier_eq {level : ℤ} (h : level ∈ Finset.Icc (0 : ℤ) 20) :
    Ts.getProductionRateMultiplier level = Go.levelProductionRate level :=
  roundMultiplier_eq (productionProducts_nonneg level h).1

theorem getArmySpeedMultiplier_eq {level : ℤ} (h : level ∈ Finset.Icc (0 : ℤ) 20) :
    Ts.getArmySpeedMultiplier level = Go.levelArmySpeed level :=
  roundMultiplier_eq (speedProducts_nonneg level h).1

/-- **The modifiers of a career are the same on both sides.** -/
theorem upgradeModifiers_eq (career : PlayerCareer) :
    Ts.getPlayerUpgradeModifiers career = Go.upgradeModifiers career := by
  have hg := Go.upgradeLevel_nonneg career .startingGarrison
  have hp := Go.upgradeLevel_mem career .production
  have hs := Go.upgradeLevel_mem career .armySpeed
  obtain ⟨-, hquick⟩ := productionProducts_nonneg _ hp
  obtain ⟨-, hslow, hfast⟩ := speedProducts_nonneg _ hs
  have hrate := (roundMultiplier_twice _ hp).1
  have hspeed := (roundMultiplier_twice _ hs).2
  unfold Ts.getPlayerUpgradeModifiers Go.upgradeModifiers
  dsimp only
  rw [getUpgradeLevel_eq, getUpgradeLevel_eq, getUpgradeLevel_eq,
    getProductionRateMultiplier_eq hp, getArmySpeedMultiplier_eq hs]
  rcases getCommander_cases career.selectedCommanderId with ⟨hid, hc⟩ | ⟨hid, hc⟩ | ⟨hq, hv, hc⟩
  · rw [hc, if_pos hid]
    dsimp only
    rw [roundMultiplier_eq hquick, roundMultiplier_eq hslow]
    congr 1
    unfold Ts.getStartingUnits
    omega
  · rw [hc, if_neg (by rw [hid]; decide), if_pos hid]
    dsimp only
    rw [hrate, roundMultiplier_eq hfast]
    congr 1
  · rw [hc, if_neg hq, if_neg hv]
    unfold Ts.crownGuard
    dsimp only
    rw [hrate, hspeed]
    congr 1
    unfold Ts.getStartingUnits
    omega

/-! ### Purchases -/

/-- **A purchase is the same on both sides**, refused for the same reason or made at the
same price with the same entry. -/
theorem purchaseUpgrade_eq (career : PlayerCareer) (type : UpgradeType) (purchaseId : String)
    (timestamp : ℤ) :
    (Ts.purchaseUpgrade career type purchaseId timestamp).wire
      = Store.purchaseUpgrade career type purchaseId timestamp := by
  have hcosts : (Ts.upgradeDefinitions type).costs = Store.upgradeCosts := by
    cases type <;> rfl
  unfold Ts.purchaseUpgrade Store.purchaseUpgrade Ts.getNextUpgradeCost
  rw [getUpgradeLevel_eq, hcosts]
  dsimp only
  cases Store.upgradeCosts[(Go.upgradeLevel career type).toNat]? with
  | none => rfl
  | some cost =>
    dsimp only
    split
    · rfl
    · cases type <;> rfl

/-! ### Matches -/

theorem calculateMatchRewards_eq (status : MatchStatus) (stats : MatchStats)
    (currentStreak treasuryLevel : ℤ) :
    Ts.calculateMatchRewards status stats currentStreak treasuryLevel
      = Store.calculateMatchRewards status stats currentStreak treasuryLevel := by
  cases status <;> rfl

theorem getRankTier_eq (trophies : ℤ) : Ts.getRankTier trophies = Store.getRankTier trophies := rfl

/-- **A ranked match is settled alike on both sides.** -/
theorem settleMatch_eq (career : PlayerCareer) (status : MatchStatus) (stats : MatchStats)
    (matchId : String) (timestamp : ℤ) :
    Ts.settleMatch career status stats matchId timestamp
      = Store.settleMatchWithPolicy career status stats matchId timestamp Store.rankedPolicy := by
  unfold Ts.settleMatch Store.settleMatchWithPolicy
  rw [calculateMatchRewards_eq, getRankTier_eq]
  cases status <;> rfl

/-- A casual match differs in the trophies and in nothing else. -/
theorem settleMatch_casual (career : PlayerCareer) (status : MatchStatus) (stats : MatchStats)
    (matchId : String) (timestamp : ℤ) :
    (Store.settleMatchWithPolicy career status stats matchId timestamp
        Store.casualPolicy).breakdown
      = { (Ts.settleMatch career status stats matchId timestamp).breakdown with trophyDelta := 0 } ∧
    (Store.settleMatchWithPolicy career status stats matchId timestamp
        Store.casualPolicy).newCareer
      = { (Ts.settleMatch career status stats matchId timestamp).newCareer with
          trophies := max 0 career.trophies } := by
  have hrewards := calculateMatchRewards_eq status stats career.currentStreak career.treasuryLevel
  have htrophies : max 0 (career.trophies + 0) = max 0 career.trophies := by rw [add_zero]
  unfold Ts.settleMatch Store.settleMatchWithPolicy
  rw [hrewards, ← htrophies]
  exact ⟨rfl, rfl⟩

/-- **The economy of the client and of the server is one economy.**  Ranked matches are
settled alike, casual ones up to the trophies that the client does not know to leave
alone; purchases are refused alike or made alike; and every career gives the same
modifiers. -/
theorem economy_agrees (career : PlayerCareer) :
    (∀ status stats matchId timestamp,
      Ts.settleMatch career status stats matchId timestamp
        = Store.settleMatchWithPolicy career status stats matchId timestamp Store.rankedPolicy) ∧
    (∀ status stats matchId timestamp,
      (Store.settleMatchWithPolicy career status stats matchId timestamp
          Store.casualPolicy).breakdown
        = { (Ts.settleMatch career status stats matchId timestamp).breakdown with
            trophyDelta := 0 } ∧
      (Store.settleMatchWithPolicy career status stats matchId timestamp
          Store.casualPolicy).newCareer
        = { (Ts.settleMatch career status stats matchId timestamp).newCareer with
            trophies := max 0 career.trophies }) ∧
    (∀ type purchaseId timestamp,
      (Ts.purchaseUpgrade career type purchaseId timestamp).wire
        = Store.purchaseUpgrade career type purchaseId timestamp) ∧
    Ts.getPlayerUpgradeModifiers career = Go.upgradeModifiers career :=
  ⟨settleMatch_eq career, settleMatch_casual career, purchaseUpgrade_eq career,
    upgradeModifiers_eq career⟩

/-- A casual victory: the client expects thirty trophies, the store writes none. -/
theorem economy_casual :
    (Ts.settleMatch (Go.freshCareer "anna") .victory .zero "match" 0).newCareer.trophies = 30 ∧
      (Store.settleMatchWithPolicy (Go.freshCareer "anna") .victory .zero "match" 0
        Store.casualPolicy).newCareer.trophies = 0 := by
  decide +kernel

end CrownClash.Parity
