/-
# Reading decimals from text

Plain text is an optional sign, ASCII digits with at most one point, and underscores
after a digit, which are skipped. Digits accumulate into the mantissa and those after
the point count toward the scale. Two limits cut reading short:

* a digit that would take the mantissa to 2^96 or beyond (before the point there is no
  such digit to drop, and the text is refused);
* a fraction digit after the twenty-eighth.

What does not fit must still be digits and underscores, and the value is rounded half up
by its first character. How an underscore there counts depends on the mantissa: while it is
below `wideFrom` (about 2^64 / 10) an underscore counts as the digit 0, past it underscores
are skipped and the digit after them rounds. When rounding up reaches 2^96 itself, one more
fraction digit is given up.

Text with an exponent is a plain base, then `e` or `E`, then a 32-bit unsigned exponent
with an optional sign. A negative exponent only raises the scale, which must stay at most
28, or, when a number value is built from text, is rounded back to 28 half away from zero
(the exponent itself at most 28); a positive one lowers the scale as far as it can, then
multiplies by powers of ten, first `10^19` and then the rest, each product fitted like a
sum, and the result is normalized.

A refused text says why (`Decimal.ReadError`): the first character out of place, digits
beyond 2^96 before the point, rounding past 2^96, or an exponent out of range.

Key definitions: `Decimal.readChars`, `Decimal.ReadError`, `Decimal.ofPlainChars?`,
`Decimal.ofScientificChars?`.
-/
import ColumnExpr.Decimal.Arith
namespace ColumnExpr
namespace Decimal

/-- Why a text is not a decimal. -/
inductive ReadError where
  /-- The text is empty. -/
  | empty
  /-- The text has no digit. -/
  | noDigits
  /-- An underscore comes before the first digit. -/
  | separatorFirst
  /-- A second point. -/
  | twoPoints
  /-- A character that is no digit, point, underscore or leading sign. -/
  | unknownCharacter
  /-- The digits before the point reach 2^96. -/
  | tooManyDigits
  /-- Rounding up reaches 2^96 with no fraction digit left to give up. -/
  | roundingOverflow
  /-- The exponent is no 32-bit unsigned number. -/
  | badExponent
  /-- The exponent asks for more than 28 fraction digits. -/
  | scaleTooLarge (scale : Nat)
  /-- The value is too large for a decimal. -/
  | tooLarge
deriving DecidableEq, Repr

/-- The text that tells a reader why their text is not a decimal. -/
def ReadError.message : ReadError → String
  | .empty => "Invalid decimal: empty"
  | .noDigits => "Invalid decimal: no digits found"
  | .separatorFirst => "Invalid decimal: must start lead with a number"
  | .twoPoints => "Invalid decimal: two decimal points"
  | .unknownCharacter => "Invalid decimal: unknown character"
  | .tooManyDigits => "Invalid decimal: overflow from too many digits"
  | .roundingOverflow => "Invalid decimal: overflow from mantissa after rounding"
  | .badExponent => "Failed to parse"
  | .scaleTooLarge s => "Scale exceeds the maximum precision allowed: " ++ toString s ++ " > 28"
  | .tooLarge => "Number exceeds maximum value that can be represented."

/-- The error for a character where none of its kind may stand. -/
def misplaced (c : Char) : ReadError :=
  if c == '.' then .twoPoints else if c == '_' then .separatorFirst else .unknownCharacter

/-- The decimal `±value / 10^scale`, when it is one. -/
def build (negative : Bool) (value scale : Nat) : Except ReadError Decimal :=
  match mk? negative value scale with
  | some d => .ok d
  | none => .error .tooManyDigits

/-- The value of an ASCII digit. -/
def digitValue (c : Char) : Nat := c.toNat - '0'.toNat

/-- The decimal `value / 10^scale` rounded half up by a dropped digit `d`. When rounding up
reaches 2^96, one more fraction digit is given up; with none left the value does not fit. -/
def roundWith (negative : Bool) (value scale d : Nat) : Except ReadError Decimal :=
  if d < 5 then build negative value scale
  else if value + 1 < mantissaLimit then build negative (value + 1) scale
  else if scale = 0 then .error .roundingOverflow
  else build negative ((value + 1 + 4) / 10) (scale - 1)

/-- The mantissa from which reading goes on in wide arithmetic: ten times a mantissa from
here on may pass 2^64. -/
def wideFrom : Nat := 1844674407370955161

/-- The decimal read so far, `value / 10^scale`, rounded by the character `next` that no
longer fits. It and the characters after it must all be digits or underscores; an underscore
in its place counts as the digit `0`. -/
def roundAt (negative : Bool) (value scale : Nat) (next : Char) (rest : List Char) :
    Except ReadError Decimal :=
  match (next :: rest).find? fun c => !(c.isDigit || c == '_') with
  | some c => .error (misplaced c)
  | none => roundWith negative value scale (if next.isDigit then digitValue next else 0)

/-- Reads the digits of a plain decimal after its sign, left to right: whether reading has
gone wide, whether a digit and the point were seen, and the mantissa and scale so far.

Reading goes wide once the mantissa reaches `wideFrom` with more to read. The twenty-eighth
fraction digit stops reading when more follows: before going wide the next character rounds
(an underscore as `0`), once wide underscores are skipped and the first other character
rounds. A wide digit that would take the mantissa to 2^96 rounds in its turn after the
point, and is refused before it. -/
def readPlain (negative : Bool) :
    Bool → Bool → Bool → Nat → Nat → List Char → Except ReadError Decimal
  | _, seenDigit, _, value, scale, [] =>
    if seenDigit then build negative value scale else .error .noDigits
  | wide, seenDigit, seenPoint, value, scale, c :: rest =>
    if c.isDigit then
      let next := value * 10 + digitValue c
      if mantissaLimit ≤ next then
        if seenPoint then roundAt negative value scale c rest else .error .tooManyDigits
      else
        let scale' := if seenPoint then scale + 1 else scale
        match rest with
        | [] => build negative next scale'
        | n :: more =>
          if seenPoint ∧ maxScale ≤ scale' then
            if wide then
              match (n :: more).dropWhile (· == '_') with
              | [] => build negative next scale'
              | d :: after => roundAt negative next scale' d after
            else roundAt negative next scale' n more
          else readPlain negative (wide || wideFrom ≤ next) true seenPoint next scale' rest
    else if c == '.' && !seenPoint then readPlain negative wide seenDigit true value scale rest
    else if c == '_' && seenDigit then readPlain negative wide seenDigit seenPoint value scale rest
    else .error (misplaced c)

/-- Reads a plain decimal: an optional leading sign, then digits with at most one point. -/
def readPlainChars : List Char → Except ReadError Decimal
  | [] => .error .empty
  | '-' :: rest => readPlain true false false false 0 0 rest
  | '+' :: rest => readPlain false false false false 0 0 rest
  | cs => readPlain false false false false 0 0 cs

/-- A plain decimal, when the text is one. -/
def ofPlainChars? (cs : List Char) : Option Decimal := (readPlainChars cs).toOption

/-- Reads ASCII digits as a number. -/
def digitsValue (cs : List Char) : Nat := cs.foldl (fun n c => n * 10 + digitValue c) 0

/-- Reads an unsigned 32-bit number: an optional `+`, then one or more ASCII digits. -/
def readU32 (cs : List Char) : Except ReadError Nat :=
  let ds := match cs with
    | '+' :: rest => rest
    | _ => cs
  if !ds.isEmpty && ds.all Char.isDigit && digitsValue ds < Nat.pow 2 32 then .ok (digitsValue ds)
  else .error .badExponent

/-- The same digits with another scale, when it is at most 28. -/
def withScale (d : Decimal) (s : Nat) : Except ReadError Decimal :=
  match mk? d.negative d.mantissa s with
  | some d' => .ok d'
  | none => .error (.scaleTooLarge s)

/-- Multiplies by `10^e` in steps of at most `10^19`, the first step the largest. -/
def scaleUp? (d : Decimal) (e : Nat) : Option Decimal :=
  if 19 ≤ e then
    (d.mulPow10? 19).bind fun d' => if e - 19 = 0 then some d' else d'.mulPow10? (e - 19)
  else d.mulPow10? e

/-- Splits text at its first `e` or `E`. -/
def splitExponent (cs : List Char) : List Char × Option (List Char) :=
  match cs with
  | [] => ([], none)
  | c :: rest =>
    if c == 'e' || c == 'E' then ([], some rest)
    else
      let (base, ex) := splitExponent rest
      (c :: base, ex)

/-- The decimal `±m / 10^s` for a scale `s` past 28, rounded half away from zero to 28
fraction digits. -/
def roundToMaxScale (negative : Bool) (m s : Nat) : Except ReadError Decimal :=
  let p := Nat.pow 10 (s - maxScale)
  build negative (if p ≤ 2 * (m % p) then m / p + 1 else m / p) maxScale

/-- Reads a decimal written with an exponent: a plain base, `e` or `E`, and the exponent.
A negative exponent past 28 is refused; one that takes the scale past 28 is refused too,
unless `rounding` asks to round to 28 fraction digits instead. -/
def readScientificChars (rounding : Bool) (cs : List Char) : Except ReadError Decimal :=
  match splitExponent cs with
  | (_, none) => .error .badExponent
  | (base, some ex) => do
    let d ← readPlainChars base
    match ex with
    | '-' :: digits =>
      let e ← readU32 digits
      if maxScale < e then .error (.scaleTooLarge e)
      else if rounding && maxScale < d.scale + e then
        roundToMaxScale d.negative d.mantissa (d.scale + e)
      else d.withScale (d.scale + e)
    | _ =>
      let e ← readU32 ex
      if e ≤ d.scale then d.withScale (d.scale - e)
      else if maxScale < e then .error (.scaleTooLarge e)
      else
        match d.scaleUp? e with
        | some d' => .ok (normalize d')
        | none => .error .tooLarge

/-- A decimal written with an exponent, when the text is one, without rounding. -/
def ofScientificChars? (cs : List Char) : Option Decimal :=
  (readScientificChars false cs).toOption

/-- Reads a decimal as a number value is built from text: with an exponent when the text
has an `e` or `E`, rounding a scale past 28. -/
def readChars (cs : List Char) : Except ReadError Decimal :=
  if cs.any (fun c => c == 'e' || c == 'E') then readScientificChars true cs
  else readPlainChars cs

example : (ofPlainChars? "0.00000000000000000000000000005".toList).map toText =
    some "0.0000000000000000000000000001" := by decide
example : (ofPlainChars? "79228162514264337593543950335.5".toList) = none := by decide
example : (ofScientificChars? "1.5e-28".toList) = none := by decide

end Decimal
end ColumnExpr
