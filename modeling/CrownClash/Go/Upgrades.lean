import CrownClash.Lib.Doubles
import CrownClash.Types
import Mathlib.Algebra.Order.Field.Rat
import Mathlib.Data.Int.ConditionallyCompleteOrder
import Mathlib.Data.Int.Interval
import Mathlib.Tactic.Linarith
import Mathlib.Tactic.NormNum

/-!
# Server: the career and its upgrade modifiers

The career of a player and the modifiers that its upgrade levels and its
commander give (`UpgradeModifiers` of `domain.go`).  The multipliers are reckoned
in doubles, and the battle has them as the numbers that come out.

Levels are clamped, so there are twenty-one of each kind, and what is true of every
level is checked level by level.  Whatever a stored career says, a match is issued
with modifiers that are `ModifiersOk`: no garrison starts below zero and no army
stands still.
-/

namespace CrownClash.Go

open Lib

structure PlayerCareer where
  playerId : String
  coins : ℤ
  gems : ℤ
  trophies : ℤ
  startingGarrisonLevel : ℤ
  productionLevel : ℤ
  armySpeedLevel : ℤ
  treasuryLevel : ℤ
  selectedCommanderId : String
  matchesPlayed : ℤ
  matchesWon : ℤ
  currentStreak : ℤ
  bestStreak : ℤ
  lastMatchTimestamp : ℤ
  tutorialCompleted : Bool
  deriving DecidableEq, Repr

inductive UpgradeType
  | startingGarrison
  | production
  | armySpeed
  | treasury
  deriving DecidableEq, Repr

/-- The stored level, clamped to the levels there are. -/
def upgradeLevel (career : PlayerCareer) (upgrade : UpgradeType) : ℤ :=
  let level := match upgrade with
    | .startingGarrison => career.startingGarrisonLevel
    | .production => career.productionLevel
    | .armySpeed => career.armySpeedLevel
    | .treasury => career.treasuryLevel
  min 20 (max 0 level)

def roundMultiplier (value : Float) : Float := toThousandths roundHalfAway value

/-- The production of a level, before the commander. -/
def levelProductionRate (productionLevel : ℤ) : Float :=
  roundMultiplier (1 + Float.ofInt (min productionLevel 5) * 0.08
    + Float.ofInt (max (productionLevel - 5) 0) * 0.02)

/-- The speed of a level, before the commander. -/
def levelArmySpeed (speedLevel : ℤ) : Float :=
  roundMultiplier (1 + Float.ofInt (min speedLevel 5) * 0.06
    + Float.ofInt (max (speedLevel - 5) 0) * 0.015)

def upgradeModifiers (career : PlayerCareer) : PlayerUpgradeModifiers :=
  let garrisonLevel := upgradeLevel career .startingGarrison
  let startingUnits := 20 + min garrisonLevel 5 * 3 + max (garrisonLevel - 5) 0
  let productionRate := levelProductionRate (upgradeLevel career .production)
  let armySpeed := levelArmySpeed (upgradeLevel career .armySpeed)
  if career.selectedCommanderId = "quartermaster" then
    { startingUnits := startingUnits
      productionRateMultiplier := exactValue (roundMultiplier (productionRate * 1.15))
      armySpeedMultiplier := exactValue (roundMultiplier (armySpeed * 0.9)) }
  else if career.selectedCommanderId = "vanguard" then
    { startingUnits := max 1 (startingUnits - 3)
      productionRateMultiplier := exactValue productionRate
      armySpeedMultiplier := exactValue (roundMultiplier (armySpeed * 1.15)) }
  else
    { startingUnits := startingUnits
      productionRateMultiplier := exactValue productionRate
      armySpeedMultiplier := exactValue armySpeed }

/-- Modifiers a match can be issued with. -/
structure ModifiersOk (modifiers : PlayerUpgradeModifiers) : Prop where
  units : 0 ≤ modifiers.startingUnits
  speed : 0 < modifiers.armySpeedMultiplier

theorem upgradeLevel_nonneg (career : PlayerCareer) (upgrade : UpgradeType) :
    0 ≤ upgradeLevel career upgrade := le_min (by decide) (le_max_left _ _)

/-- The levels there are. -/
theorem upgradeLevel_mem (career : PlayerCareer) (upgrade : UpgradeType) :
    upgradeLevel career upgrade ∈ Finset.Icc (0 : ℤ) 20 :=
  Finset.mem_Icc.mpr ⟨upgradeLevel_nonneg career upgrade, min_le_left _ _⟩

/-- The vanguard at level 7: 1.33 times 1.15 is half way between two thousandths, its double
is below. -/
example : roundMultiplier (levelArmySpeed 7 * 1.15) = 1.529 := by decide +kernel

/-- No level makes a base produce less, with or without the quartermaster. -/
theorem levelProductionRate_ge : ∀ level ∈ Finset.Icc (0 : ℤ) 20,
    1 ≤ exactValue (levelProductionRate level) ∧
      1 ≤ exactValue (roundMultiplier (levelProductionRate level * 1.15)) := by
  decide +kernel

/-- At every level an army marches, whoever commands it. -/
theorem levelArmySpeed_pos : ∀ level ∈ Finset.Icc (0 : ℤ) 20,
    0 < exactValue (levelArmySpeed level) ∧
      0 < exactValue (roundMultiplier (levelArmySpeed level * 0.9)) ∧
      0 < exactValue (roundMultiplier (levelArmySpeed level * 1.15)) := by
  decide +kernel

/-- **Every career gives modifiers a match can be issued with.** -/
theorem upgradeModifiers_ok (career : PlayerCareer) : ModifiersOk (upgradeModifiers career) := by
  have hg := upgradeLevel_nonneg career .startingGarrison
  obtain ⟨hplain, hslow, hfast⟩ := levelArmySpeed_pos _ (upgradeLevel_mem career .armySpeed)
  unfold upgradeModifiers
  dsimp only
  split
  · exact ⟨by dsimp only; omega, hslow⟩
  · split
    · exact ⟨le_trans (by decide) (le_max_left _ _), hfast⟩
    · exact ⟨by dsimp only; omega, hplain⟩

/-- The modifiers of a bot and of a player without upgrades. -/
theorem modifiersOk_default : ModifiersOk ⟨20, 1, 1⟩ := ⟨by decide, by norm_num⟩

end CrownClash.Go
