import Mathlib.Algebra.Order.Field.Rat
import Mathlib.Tactic.Positivity

/-!
# Decimals as they are written

A finite `Decimal` is a sign, the digits of its coefficient and an exponent. Comparisons and
arithmetic see its value; its text also shows the exponent, so numbers that compare equal
may be written in different ways. Where only the value matters a `Decimal` is that rational.
-/

namespace Godzilla

/-- A finite `Decimal`. -/
structure Decimal where
  negative : Bool := false
  coefficient : Nat
  exponent : Int := 0
  deriving DecidableEq, Repr

namespace Decimal

/-- The number a `Decimal` stands for. -/
def value (d : Decimal) : ℚ :=
  (if d.negative then -1 else 1) * d.coefficient * 10 ^ d.exponent

/-- `Decimal("0")`. -/
def zero : Decimal := { coefficient := 0 }

@[simp] theorem value_zero : zero.value = 0 := by simp [value, zero]

/-! The range of arithmetic in the default context: 28 digits, and exponents to 999999. -/

/-- The least positive result. -/
def least : ℚ := 1 / (10 ^ 1000026 : Nat)

/-- From here on the digits of a result are rounded out of the range: it is an `Overflow`. -/
def overflow : ℚ := ((2 * 10 ^ 28 - 1) * 10 ^ 999972 : Nat) / 2

end Decimal

end Godzilla
