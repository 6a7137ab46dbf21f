/-
# Values

Evaluation produces values: decimal numbers, strings and booleans.

* A value is truthy when it is a non-zero number, a non-empty string or `true`.
* A value coerces to a number when it is a number, or a string whose text is numeric and
  in range; a boolean never does.
* A value is numeric when it is a number or numeric text, in range or not.
* A value is shown as its normalized decimal text, the string itself, or `true`/`false`.
* As JSON, a number that is an integer within 64 bits is a JSON integer, any other number
  the binary64 number it converts to; strings and booleans are themselves.

Key definitions: `Value`, `Value.isTruthy`, `Value.toNumber`, `Value.isNumeric`,
`Value.display`, `Value.toJson`.
-/
import ColumnExpr.NumberText
import ColumnExpr.Decimal.ToBinary64
import ColumnExpr.Json
namespace ColumnExpr

/-- A value of evaluation. -/
inductive Value where
  | number (d : Decimal)
  | string (s : String)
  | boolean (b : Bool)
deriving DecidableEq

namespace Value

/-- Non-zero numbers, non-empty strings and `true` are truthy. -/
def isTruthy : Value → Bool
  | number d => !d.isZero
  | string s => !s.isEmpty
  | boolean b => b

/-- The number a value stands for. -/
def toNumber : Value → Except NumberError Decimal
  | number d => .ok d
  | string s => NumberText.parse s
  | boolean _ => .error .notNumeric

/-- Numbers and numeric text are numeric, whether in range or not. -/
def isNumeric : Value → Bool
  | number _ => true
  | string s => NumberText.isNumeric s
  | boolean _ => false

/-- How a value is shown. -/
def display : Value → String
  | number d => d.toText
  | string s => s
  | boolean b => if b then "true" else "false"

/-- The name of a value's type. -/
def typeName : Value → String
  | number _ => "Number"
  | string _ => "String"
  | boolean _ => "Boolean"

/-- A value as JSON. -/
def toJson : Value → Json
  | number d =>
    match d.toInt64? with
    | some i => .int i
    | none => .float d.toBinary64
  | string s => .str s
  | boolean b => .bool b

end Value
end ColumnExpr
