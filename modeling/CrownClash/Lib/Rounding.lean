import Mathlib.Algebra.Order.Round
import Mathlib.Data.Rat.Floor
import Mathlib.Tactic.Linarith
import Mathlib.Tactic.FieldSimp
import Mathlib.Tactic.Ring

/-!
# Rounding to the nearest integer

Two conventions for a tie: upwards, and away from zero.  They agree on every
number that is not negative, and on a negative one they differ only exactly
half way between two integers.  So a rule that looks at the nearest integer
only when the number is close to it, as `snap` does, cannot tell them apart
(`snap_eq_snap`).

`onGrid` is the other half: a number that is a multiple of the snapping
distance is never moved by a snap.
-/

namespace CrownClash.Lib

/-- The nearest integer, a tie going up. -/
def roundHalfUp (x : ℚ) : ℤ := ⌊x + 1 / 2⌋

/-- The nearest integer, a tie going away from zero. -/
def roundHalfAway (x : ℚ) : ℤ := if x < 0 then -⌊-x + 1 / 2⌋ else ⌊x + 1 / 2⌋

theorem roundHalfAway_of_nonneg {x : ℚ} (h : 0 ≤ x) : roundHalfAway x = roundHalfUp x := by
  rw [roundHalfAway, if_neg (not_lt.mpr h), roundHalfUp]

theorem roundHalfUp_intCast (n : ℤ) : roundHalfUp n = n := by
  rw [roundHalfUp, Int.floor_eq_iff]
  constructor <;> linarith

/-- The nearest integer is at most half away, and from above only strictly so. -/
theorem roundHalfUp_bounds (x : ℚ) :
    (roundHalfUp x : ℚ) - 1 / 2 ≤ x ∧ x < roundHalfUp x + 1 / 2 := by
  have h1 := Int.floor_le (x + 1 / 2)
  have h2 := Int.lt_floor_add_one (x + 1 / 2)
  constructor <;> (unfold roundHalfUp; linarith)

theorem roundHalfUp_eq_of_abs_lt {x : ℚ} {n : ℤ} (h : |x - n| < 1 / 2) : roundHalfUp x = n := by
  rw [abs_lt] at h
  rw [roundHalfUp, Int.floor_eq_iff]
  constructor <;> linarith [h.1, h.2]

theorem roundHalfAway_eq_of_abs_lt {x : ℚ} {n : ℤ} (h : |x - n| < 1 / 2) :
    roundHalfAway x = n := by
  rw [abs_lt] at h
  unfold roundHalfAway
  split
  · rw [neg_eq_iff_eq_neg, Int.floor_eq_iff]
    push_cast
    constructor <;> linarith [h.1, h.2]
  · rw [Int.floor_eq_iff]
    constructor <;> linarith [h.1, h.2]

theorem roundHalfUp_nonneg {x : ℚ} (h : 0 ≤ x) : 0 ≤ roundHalfUp x :=
  Int.floor_nonneg.mpr (by linarith)

theorem roundHalfUp_mono {x y : ℚ} (h : x ≤ y) : roundHalfUp x ≤ roundHalfUp y :=
  Int.floor_le_floor (by linarith)

/-- Move a number onto `near` when it is less than `ε` away from it. -/
def snap (ε : ℚ) (near : ℤ) (x : ℚ) : ℚ := if |x - near| < ε then near else x

/-- **Snapping does not see how ties are broken.** -/
theorem snap_eq_snap {ε : ℚ} (hε : ε ≤ 1 / 2) (x : ℚ) :
    snap ε (roundHalfUp x) x = snap ε (roundHalfAway x) x := by
  unfold snap
  by_cases h : |x - roundHalfUp x| < ε
  · have e := roundHalfAway_eq_of_abs_lt (lt_of_lt_of_le h hε)
    rw [e]
  · by_cases h' : |x - roundHalfAway x| < ε
    · have e := roundHalfUp_eq_of_abs_lt (lt_of_lt_of_le h' hε)
      rw [e]
    · rw [if_neg h, if_neg h']

/-- Rounding to a multiple of `1 / d` keeps what is one already. -/
theorem roundHalfUp_div_of_grid {x : ℚ} {d : ℕ} (hd : 0 < d) {k : ℤ} (hx : x * d = k) :
    (roundHalfUp (x * d) : ℚ) / d = x := by
  have hd' : (d : ℚ) ≠ 0 := Nat.cast_ne_zero.mpr hd.ne'
  rw [hx, roundHalfUp_intCast, ← hx, mul_div_assoc, div_self hd', mul_one]

/-! ### Scaling, rounded up -/

/-- Times a factor, rounded up. -/
def scaleUp (k : ℚ) (n : ℤ) : ℤ := ⌈(n : ℚ) * k⌉

/-- Divided by a factor, rounded up. -/
def scaleDown (k : ℚ) (n : ℤ) : ℤ := ⌈(n : ℚ) / k⌉

section Scaling

variable {k : ℚ}

theorem scaleDown_mono (hk : 0 < k) {m n : ℤ} (h : m ≤ n) : scaleDown k m ≤ scaleDown k n := by
  have hcast : (m : ℚ) ≤ n := by exact_mod_cast h
  exact Int.ceil_le_ceil (div_le_div_of_nonneg_right hcast hk.le)

/-- Down and up again loses nothing. -/
theorem le_scaleUp_scaleDown (hk : 0 < k) (n : ℤ) : n ≤ scaleUp k (scaleDown k n) := by
  have hdown : (n : ℚ) / k ≤ scaleDown k n := Int.le_ceil _
  have hup : (scaleDown k n : ℚ) * k ≤ scaleUp k (scaleDown k n) := Int.le_ceil _
  have hle : (n : ℚ) ≤ scaleUp k (scaleDown k n) := ((div_le_iff₀ hk).mp hdown).trans hup
  exact_mod_cast hle

/-- Up, less something, and down again gains nothing. -/
theorem scaleDown_scaleUp_sub_le (hk : 0 < k) {n a : ℤ} (ha : 0 < a) :
    scaleDown k (scaleUp k n - a) ≤ n := by
  have hup : (scaleUp k n : ℚ) < (n : ℚ) * k + 1 := Int.ceil_lt_add_one _
  have hone : (1 : ℚ) ≤ a := by exact_mod_cast ha
  refine Int.ceil_le.mpr ((div_le_iff₀ hk).mpr ?_)
  push_cast
  linarith

end Scaling

end CrownClash.Lib
