/-
# The shortest decimal that reads back

Every positive binary64 number `x` owns an interval of reals that round to it: halfway
to its lower neighbour up to halfway to its upper one, both ends included when the
significand is even (a tie would then round to `x`). Just above a power of two the lower
neighbour is twice as close as the upper one.

`Binary64.shortest` finds the fewest significant decimal digits of a number in that
interval. For 1, 2, ... 17 digits it looks at the two neighbours of `x` on the grid of that
many digits; the first grid with a neighbour inside the interval wins, of two the nearer
to `x`, of two equally near the even one. All comparisons are exact in natural numbers.

Key definitions: `Binary64.decimalExponent`, `Binary64.shortest`.
-/
import ColumnExpr.Binary64.Basic
namespace ColumnExpr
namespace Binary64

/-- `max k 0` as a natural number. -/
def posPart (k : Int) : Nat := k.toNat

/-- `max (-k) 0` as a natural number. -/
def negPart (k : Int) : Nat := (-k).toNat

/-- Compares `d · 10^k` with `m · 2^e`. -/
def compareScaled (d : Nat) (k : Int) (m : Nat) (e : Int) : Ordering :=
  compare (d * Nat.pow 10 (posPart k) * Nat.pow 2 (negPart e))
    (m * Nat.pow 2 (posPart e) * Nat.pow 10 (negPart k))

/-- The greatest integer not above `m · 2^e / 10^k`. -/
def floorScaled (m : Nat) (e : Int) (k : Int) : Nat :=
  (m * Nat.pow 2 (posPart e) * Nat.pow 10 (negPart k)) /
    (Nat.pow 10 (posPart k) * Nat.pow 2 (negPart e))

/-- The exponent of the leading decimal digit of `m · 2^e`, for `m > 0`: the greatest `k`
with `10^k ≤ m · 2^e`. It is found near `log10 2 · (log2 m + e)`. -/
def decimalExponent (m : Nat) (e : Int) : Int :=
  let guess : Int := ((Nat.log2 m : Int) + e) * 78913 / 262144
  let atMost (k : Int) : Bool := compareScaled 1 k m e != .gt
  if atMost (guess + 1) then (if atMost (guess + 2) then guess + 2 else guess + 1)
  else if atMost guess then guess else guess - 1

/-- Drops trailing zero digits, raising the exponent. -/
def stripTrailingZeros : Nat → Nat → Int → Nat × Int
  | 0, d, k => (d, k)
  | fuel + 1, d, k =>
    if d ≠ 0 ∧ d % 10 = 0 then stripTrailingZeros fuel (d / 10) (k + 1) else (d, k)

/-- The shortest digits of a positive number: `(d, k)` with `d · 10^k` in the rounding
interval of `x`, `d` as short as possible and without trailing zeros, and, of two such
of one length, the nearer to `x`, a tie to the even one. -/
def shortest (x : Binary64) : Nat × Int :=
  let m := x.sig
  let e := x.exp - 2
  -- in units of 2^(exp-2): the number, and the ends of its rounding interval
  let v := 4 * m
  let lo := if m = Nat.pow 2 52 ∧ minExp < x.exp then 4 * m - 1 else 4 * m - 2
  let hi := 4 * m + 2
  let inclusive := m % 2 = 0
  let inside (d : Nat) (k : Int) : Bool :=
    let above := compareScaled d k lo e
    let below := compareScaled d k hi e
    (above == .gt || (inclusive && above == .eq)) && (below == .lt || (inclusive && below == .eq))
  let top := decimalExponent v e
  let attempt (n : Nat) : Option (Nat × Int) :=
    let k := top - n + 1
    let a := floorScaled v e k
    match inside a k, inside (a + 1) k with
    | false, false => none
    | true, false => some (a, k)
    | false, true => some (a + 1, k)
    | true, true =>
      match compareScaled (2 * a + 1) k (2 * v) e with
      | .gt => some (a, k)
      | .lt => some (a + 1, k)
      | .eq => some (if a % 2 = 0 then a else a + 1, k)
  let (d, k) := ((List.range 17).findSome? fun i => attempt (i + 1)).getD
    (floorScaled v e (top - 16), top - 16)
  stripTrailingZeros 20 d k

example : shortest (ofRatio false 1 10) = (1, -1) := by decide
example : shortest (ofRatio false 3 10) = (3, -1) := by decide
example : shortest (ofNat (10 ^ 20)) = (1, 20) := by decide
example : shortest (add (ofRatio false 1 10) (ofRatio false 2 10)) = (30000000000000004, -17) := by
  decide

end Binary64
end ColumnExpr
