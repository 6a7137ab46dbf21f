/-
# Binary64 numbers, by exact rounding

A binary64 number is a sign, a significand and a binary exponent: `±sig · 2^exp`. Every
operation here computes its result exactly, as a ratio of natural numbers, and rounds it
once to the nearest binary64 number, a tie going to the even significand: this is what
correctly rounded conversion, addition, multiplication and division do.

Normal numbers have `2^52 ≤ sig < 2^53` and `exp ≥ -1074`; below `2^-1022` the exponent
stays at `-1074` and the significand shrinks (gradual underflow). The exponent has no upper
bound: the magnitudes formed in this library stay far below `2^1024`, where a binary64
number would overflow to infinity.

Key definitions: `Binary64`, `Binary64.ofRatio`, `Binary64.add`, `Binary64.mul`,
`Binary64.div`, `Binary64.roundHalfAway`, `Binary64.lt`.
-/
import ColumnExpr.Rounding
namespace ColumnExpr

/-- A binary64 number `±sig · 2^exp`. -/
structure Binary64 where
  negative : Bool
  sig : Nat
  exp : Int
deriving DecidableEq, Repr

namespace Binary64

/-- The exponent of the least subnormal number, `2^-1074`. -/
def minExp : Int := -1074

/-- Whether `num / den ≥ 2^k`, for `den > 0`. -/
def ratioGePow2 (num den : Nat) (k : Int) : Bool :=
  if 0 ≤ k then den * Nat.pow 2 k.toNat ≤ num else den ≤ num * Nat.pow 2 (-k).toNat

/-- The exponent of the leading binary digit of `num / den`, for positive `num` and `den`:
the greatest `k` with `2^k ≤ num / den`. -/
def floorLog2 (num den : Nat) : Int :=
  let t : Int := (Nat.log2 num : Int) - (Nat.log2 den : Int)
  if ratioGePow2 num den t then t else t - 1

/-- The binary64 number nearest to `num / den` with the given sign; of two equally near,
the one with the even significand. A zero numerator or denominator gives zero. -/
def ofRatio (negative : Bool) (num den : Nat) : Binary64 :=
  if num = 0 ∨ den = 0 then ⟨negative, 0, 0⟩
  else
    let e : Int := max (floorLog2 num den - 52) minExp
    let n := if 0 ≤ e then num else num * Nat.pow 2 (-e).toNat
    let d := if 0 ≤ e then den * Nat.pow 2 e.toNat else den
    let q := roundDivEven n d
    if q = Nat.pow 2 53 then ⟨negative, Nat.pow 2 52, e + 1⟩ else ⟨negative, q, e⟩

/-- The magnitude as a ratio of natural numbers. -/
def toRatio (x : Binary64) : Nat × Nat :=
  if 0 ≤ x.exp then (x.sig * Nat.pow 2 x.exp.toNat, 1) else (x.sig, Nat.pow 2 (-x.exp).toNat)

/-- The binary64 number nearest to a natural number. -/
def ofNat (n : Nat) : Binary64 := ofRatio false n 1

/-- The binary64 number nearest to an integer. -/
def ofInt (n : Int) : Binary64 := ofRatio (decide (n < 0)) n.natAbs 1

/-- Zero, of either sign. -/
def isZero (x : Binary64) : Bool := x.sig == 0

/-- The same magnitude with the other sign. -/
def neg (x : Binary64) : Binary64 := { x with negative := !x.negative }

/-- The value with its sign, as an integer numerator over the natural denominator. -/
def signedRatio (x : Binary64) : Int × Nat :=
  let (a, b) := x.toRatio
  (if x.negative then -(a : Int) else a, b)

/-- The rounded sum. An exact zero sum is negative only when both operands are. -/
def add (x y : Binary64) : Binary64 :=
  let (a, b) := x.signedRatio
  let (c, d) := y.signedRatio
  let s := a * d + c * b
  if s = 0 then ⟨x.negative && y.negative, 0, 0⟩
  else ofRatio (decide (s < 0)) s.natAbs (b * d)

/-- The rounded product. -/
def mul (x y : Binary64) : Binary64 :=
  let (a, b) := x.toRatio
  let (c, d) := y.toRatio
  ofRatio (x.negative != y.negative) (a * c) (b * d)

/-- The rounded quotient, for a divisor that is not zero. -/
def div (x y : Binary64) : Binary64 :=
  let (a, b) := x.toRatio
  let (c, d) := y.toRatio
  ofRatio (x.negative != y.negative) (a * d) (b * c)

/-- The nearest integer, a half going away from zero; the sign is kept. -/
def roundHalfAway (x : Binary64) : Binary64 :=
  let (a, b) := x.toRatio
  ofRatio x.negative (roundDivAway a b) 1

/-- Whether `x < y` as numbers (zeros of either sign are equal). -/
def lt (x y : Binary64) : Bool :=
  let (a, b) := x.signedRatio
  let (c, d) := y.signedRatio
  decide (a * d < c * b)

example : ofNat (2 ^ 53 + 1) = ⟨false, 2 ^ 52, 1⟩ := by decide
example : ofRatio false 1 10 = ⟨false, 7205759403792794, -56⟩ := by decide

end Binary64
end ColumnExpr
