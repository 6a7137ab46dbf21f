/-
# Numeric text

Text is numeric when, without its leading and trailing blanks, it is an optional sign,
then digits with an optional point and more digits, or a point and digits, then optionally
`e` or `E`, an optional sign and digits. Digits are the decimal digits of any script.

Reading numeric text gives a decimal: a leading `+` is dropped, text with an exponent is
read by `Decimal.ofScientificChars?` and other text by `Decimal.ofPlainChars?`. Numeric
text that does not give a decimal (too large, too many places, a digit of another script)
is out of range; other text is not a number at all.

Key definitions: `NumberError`, `NumberText.isNumericChars`, `NumberText.isNumeric`,
`NumberText.parse`.
-/
import ColumnExpr.Text.Blank
import ColumnExpr.Text.DecimalDigit
import ColumnExpr.Decimal.Read
namespace ColumnExpr

/-- Why text is not read as a decimal. -/
inductive NumberError where
  | notNumeric
  | outOfRange
deriving DecidableEq, Repr

/-- The message for a reading error. -/
def NumberError.message : NumberError → String
  | .notNumeric => "not a number"
  | .outOfRange => "number out of range"

namespace NumberText

/-- Drops one leading sign. -/
def dropSign : List Char → List Char
  | '+' :: r => r
  | '-' :: r => r
  | cs => cs

/-- Whether text is one or more decimal digits followed by `rest`; gives `rest`. -/
def afterDigits (cs : List Char) : Option (List Char) :=
  if (cs.takeWhile Text.isDecimalDigit).isEmpty then none
  else some (cs.dropWhile Text.isDecimalDigit)

/-- What follows the digits and point of a numeric text, if it starts like one. -/
def afterMantissa (cs : List Char) : Option (List Char) :=
  match cs with
  | '.' :: r => afterDigits r
  | _ =>
    match afterDigits cs with
    | none => none
    | some ('.' :: r) => afterDigits r
    | some r => some r

/-- Whether characters are numeric text, blanks not allowed. -/
def isNumericChars (cs : List Char) : Bool :=
  match afterMantissa (dropSign cs) with
  | none => false
  | some [] => true
  | some (e :: r) =>
    (e == 'e' || e == 'E') &&
      match afterDigits (dropSign r) with
      | some [] => true
      | _ => false

/-- Whether a text is numeric, leading and trailing blanks aside. -/
def isNumeric (s : String) : Bool := isNumericChars (Text.trimChars s.toList)

/-- Reads a text as a decimal. -/
def parse (s : String) : Except NumberError Decimal :=
  let t := Text.trimChars s.toList
  if !isNumericChars t then .error .notNumeric
  else
    let u := match t with
      | '+' :: r => r
      | _ => t
    let read := if u.any (fun c => c == 'e' || c == 'E') then Decimal.ofScientificChars? u
      else Decimal.ofPlainChars? u
    match read with
    | some d => .ok d
    | none => .error .outOfRange

example : isNumeric " -2.5e+3 " = true := by decide
example : isNumeric "5." = false := by decide
example : isNumeric ".5" = true := by decide
example : isNumeric "1e" = false := by decide

end NumberText
end ColumnExpr
