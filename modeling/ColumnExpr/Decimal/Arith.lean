/-
# Sums, differences and powers of ten

Adding two decimals aligns them at the larger scale and adds exactly; when that sum does
not fit, `Decimal.fit` drops fraction digits, rounding to even, and the sum fails only
when no fraction digit is left to drop. A zero operand is no work at all: the other
operand comes back as it is, scale and all, and `0 - x` is `x` with its sign turned.

Multiplying by a power of ten works the same way, and is how numbers written with an
exponent are read.

Key definitions: `Decimal.add?`, `Decimal.sub?`, `Decimal.mulPow10?`.
-/
import ColumnExpr.Decimal.Round
namespace ColumnExpr
namespace Decimal

/-- The sum of two decimals, or none when it does not fit. -/
def add? (a b : Decimal) : Option Decimal :=
  if a.mantissa = 0 then some b
  else if b.mantissa = 0 then some a
  else
    let s := Nat.max a.scale b.scale
    let x := a.signed * Int.pow 10 (s - a.scale) + b.signed * Int.pow 10 (s - b.scale)
    fit (decide (x < 0)) x.natAbs s

/-- The difference of two decimals, or none when it does not fit. -/
def sub? (a b : Decimal) : Option Decimal :=
  if a.mantissa = 0 then some (if b.mantissa = 0 then b else b.negate)
  else if b.mantissa = 0 then some a
  else add? a b.negate

/-- The product of a decimal and `10^p`, fitted like a sum; zero gives plain zero. -/
def mulPow10? (d : Decimal) (p : Nat) : Option Decimal :=
  if d.mantissa = 0 then some zero
  else fit d.negative (d.mantissa * Nat.pow 10 p) d.scale

example : ((max.add? ⟨false, 4, 1, by decide, by decide⟩).map (·.mantissa)) =
    some (2 ^ 96 - 1) := by decide
example : max.add? ⟨false, 5, 1, by decide, by decide⟩ = none := by decide

end Decimal
end ColumnExpr
