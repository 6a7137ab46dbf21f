/-
# Fitting an exact result into a decimal

An operation on decimals first computes its result exactly, as `±m / 10^s` with any `m`
and `s`. `Decimal.fit` then keeps as many fraction digits as fit: it drops the fewest
trailing digits that bring the mantissa below 2^96 and the scale to at most 28, rounding
the quotient to nearest with a tie to the even neighbour. When even dropping every
fraction digit leaves a mantissa of 2^96 or more, the result does not fit.

Key definitions: `Decimal.fit`.
-/
import ColumnExpr.Decimal.Basic
import ColumnExpr.Rounding
namespace ColumnExpr

namespace Decimal

/-- The decimal for `±m / 10^s` with the most fraction digits that fit: for the least `k`
from `s - 28` up to `s` whose rounded quotient of `m` by `10^k` is below 2^96, the mantissa
is that quotient and the scale `s - k`. -/
def fit (negative : Bool) (m s : Nat) : Option Decimal :=
  go (s - maxScale) (s + 1 - (s - maxScale))
where
  /-- Tries `k`, then the next `n - 1` larger ones. -/
  go (k : Nat) : Nat → Option Decimal
    | 0 => none
    | n + 1 =>
      let q := roundDivEven m (Nat.pow 10 k)
      if h : q < mantissaLimit ∧ s - k ≤ maxScale then some ⟨negative, q, s - k, h.1, h.2⟩
      else go (k + 1) n

example : (fit false (2 ^ 96 - 1) 0).map (·.mantissa) = some (2 ^ 96 - 1) := by decide
example : fit false (2 ^ 96) 0 = none := by decide
example : (fit false 792281625142643375935439503345 1).map (·.mantissa) =
    some 79228162514264337593543950334 := by decide

end Decimal
end ColumnExpr
