import Mathlib.Data.Nat.Sqrt
import Mathlib.Data.Rat.Floor
import Mathlib.Tactic.Positivity

/-!
# The math library's `hypot`

Both runtimes take the length of a road from their math library.  The length is
not a rational number in general and each library rounds it in its own way, so
`hypot` is a parameter: any function of two coordinates that is never negative.
`decimalHypot` is one such function that can be evaluated, the square root cut
off after nine decimals.
-/

namespace CrownClash.Lib

class MathLib where
  hypot : ℚ → ℚ → ℚ
  hypot_nonneg : ∀ x y, 0 ≤ hypot x y

export MathLib (hypot hypot_nonneg)

/-- The length of `(x, y)` to nine decimals. -/
@[reducible] def decimalHypot : MathLib where
  hypot x y := Nat.sqrt ⌊(x * x + y * y) * 10 ^ 18⌋₊ / 10 ^ 9
  hypot_nonneg x y := by positivity

end CrownClash.Lib
