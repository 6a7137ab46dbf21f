/-
# Decimal numbers

A decimal is a sign, a mantissa below 2^96 and a scale from 0 to 28; it stands for
`±mantissa / 10^scale`. The scale belongs to the number as written: `1.50` (mantissa 150,
scale 2) and `1.5` (mantissa 15, scale 1) are two decimals of one value. Sums keep the
larger scale, and the scale shows when a decimal is turned into a binary64 number.

Printing normalizes first: trailing zeros of the fraction go, and zero has no sign.

Key definitions: `Decimal`, `Decimal.normalize`, `Decimal.plainText`, `Decimal.toText`,
`Decimal.isInteger`, `Decimal.toInt64?`.
Key theorems: `Decimal.stripZeros_fst_le`, `Decimal.stripZeros_snd_le` (normalizing never
makes mantissa or scale larger).
-/
namespace ColumnExpr

/-- Mantissas stay below this bound: they fit in 96 bits. -/
def Decimal.mantissaLimit : Nat := Nat.pow 2 96

/-- The largest scale: at most 28 digits after the point. -/
def Decimal.maxScale : Nat := 28

/-- A decimal number `±mantissa / 10^scale`, with its bounds. -/
structure Decimal where
  negative : Bool
  mantissa : Nat
  scale : Nat
  mantissa_lt : mantissa < Decimal.mantissaLimit
  scale_le : scale ≤ Decimal.maxScale
deriving DecidableEq

namespace Decimal

/-- Zero, positive, with scale 0. -/
def zero : Decimal := ⟨false, 0, 0, by decide, by decide⟩

/-- The largest decimal, 2^96 - 1. -/
def max : Decimal := ⟨false, Nat.pow 2 96 - 1, 0, by decide, by decide⟩

/-- A decimal from its parts, when they are within bounds. -/
def mk? (negative : Bool) (mantissa scale : Nat) : Option Decimal :=
  if h : mantissa < mantissaLimit ∧ scale ≤ maxScale then
    some ⟨negative, mantissa, scale, h.1, h.2⟩
  else none

/-- A decimal is zero when its mantissa is, whatever its sign and scale. -/
def isZero (d : Decimal) : Bool := d.mantissa == 0

/-- The mantissa with the sign: the value is `signed / 10^scale`. -/
def signed (d : Decimal) : Int := if d.negative then -(d.mantissa : Int) else d.mantissa

/-- The same decimal with the other sign. -/
def negate (d : Decimal) : Decimal := { d with negative := !d.negative }

/-- Drops trailing zeros of a mantissa while the scale allows: `(m, s)` becomes the pair
with the fewest fraction digits that has the same value. -/
def stripZeros : Nat → Nat → Nat × Nat
  | m, 0 => (m, 0)
  | m, s + 1 => if m % 10 = 0 then stripZeros (m / 10) s else (m, s + 1)

theorem stripZeros_fst_le : ∀ (m s : Nat), (stripZeros m s).1 ≤ m
  | m, 0 => by simp [stripZeros]
  | m, s + 1 => by
    simp only [stripZeros]
    split
    · exact Nat.le_trans (stripZeros_fst_le (m / 10) s) (Nat.div_le_self m 10)
    · exact Nat.le_refl m

theorem stripZeros_snd_le : ∀ (m s : Nat), (stripZeros m s).2 ≤ s
  | m, 0 => by simp [stripZeros]
  | m, s + 1 => by
    simp only [stripZeros]
    split
    · exact Nat.le_succ_of_le (stripZeros_snd_le (m / 10) s)
    · exact Nat.le_refl _

/-- The decimal of the same value with no trailing zeros in its fraction; zero becomes
positive with scale 0. -/
def normalize (d : Decimal) : Decimal :=
  if d.mantissa = 0 then zero
  else
    ⟨d.negative, (stripZeros d.mantissa d.scale).1, (stripZeros d.mantissa d.scale).2,
      Nat.lt_of_le_of_lt (stripZeros_fst_le _ _) d.mantissa_lt,
      Nat.le_trans (stripZeros_snd_le _ _) d.scale_le⟩

/-- The decimal digits of a natural number, most significant first; none for zero. -/
def digitsOf (n : Nat) : List Char :=
  if n = 0 then [] else Nat.toDigits 10 n

/-- The text of a decimal as it stands: a minus sign when negative, the integer digits
(`0` when there are none), and exactly `scale` fraction digits after a point. -/
def plainText (d : Decimal) : String :=
  let ds := digitsOf d.mantissa
  let padded := List.replicate (d.scale + 1 - ds.length) '0' ++ ds
  let whole := padded.take (padded.length - d.scale)
  let frac := padded.drop (padded.length - d.scale)
  let body := if d.scale = 0 then String.ofList (if ds.isEmpty then ['0'] else ds)
    else String.ofList whole ++ "." ++ String.ofList frac
  (if d.negative then "-" else "") ++ body

/-- The text of a decimal as it is shown: normalized, then written plainly. -/
def toText (d : Decimal) : String := d.normalize.plainText

/-- A decimal is an integer when its fraction digits are all zero. -/
def isInteger (d : Decimal) : Bool := d.mantissa % Nat.pow 10 d.scale == 0

/-- The integer part, cut toward zero. -/
def truncate (d : Decimal) : Int :=
  let q : Int := (d.mantissa / Nat.pow 10 d.scale : Nat)
  if d.negative then -q else q

/-- The value as a 64-bit signed integer, when it is an integer within that range. -/
def toInt64? (d : Decimal) : Option Int :=
  let t := d.truncate
  if d.isInteger ∧ -Int.pow 2 63 ≤ t ∧ t < Int.pow 2 63 then some t else none

/-- An integer as a decimal of scale 0, when its magnitude is below 2^96. -/
def ofInt? (n : Int) : Option Decimal := mk? (decide (n < 0)) n.natAbs 0

example : (⟨false, 150, 2, by decide, by decide⟩ : Decimal).toText = "1.5" := by decide
example : (⟨true, 5, 3, by decide, by decide⟩ : Decimal).plainText = "-0.005" := by decide
example : (⟨true, 0, 3, by decide, by decide⟩ : Decimal).toText = "0" := by decide

end Decimal
end ColumnExpr
