import CrownClash.Lib.Rounding

/-!
# Doubles

Where a result hangs on how the code's numbers are rounded, they are `Float`: to
Lean's logic a `Float` is the 64 bits of a double, and each operation rounds its
exact result to the nearest of them.  `exactValue` reads a double as the rational
number that it is, and `toThousandths` is the rounding that both runtimes build out
of their own `round`.

The runtimes' `round` break ties in two ways.  A number that is not negative does
not show which (`toThousandths_away`).
-/

namespace CrownClash.Lib

/-- The mantissa times two to the exponent. -/
def scaled (mantissa : ℕ) (exponent : ℤ) : ℚ :=
  (mantissa * 2 ^ exponent.toNat : ℕ) / (2 ^ (-exponent).toNat : ℕ)

/-- The number that a double stands for; an infinity or no number reads as zero. -/
def exactValue (x : Float) : ℚ :=
  match x.toModel.unpack with
  | .finite .positive mantissa exponent _ => scaled mantissa exponent
  | .finite .negative mantissa exponent _ => -scaled mantissa exponent
  | _ => 0

/-- To the nearest thousandth, in doubles; `nearest` is the `round` of the runtime. -/
def toThousandths (nearest : ℚ → ℤ) (x : Float) : Float :=
  Float.ofInt (nearest (exactValue (x * 1000))) / 1000

theorem toThousandths_away {x : Float} (h : 0 ≤ exactValue (x * 1000)) :
    toThousandths roundHalfAway x = toThousandths roundHalfUp x := by
  unfold toThousandths
  rw [roundHalfAway_of_nonneg h]

end CrownClash.Lib
