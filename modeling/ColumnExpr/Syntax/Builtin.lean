/-
# Built-in functions

The language has three built-in functions: `add`, `subtract` and `is_num`. A name refers
to one of them exactly, case included.

Key definitions: `Builtin`, `Builtin.name`, `Builtin.lookup`.
Key theorems: `Builtin.lookup_name` (a function's name finds it).
-/
namespace ColumnExpr

/-- A built-in function. -/
inductive Builtin where
  | add
  | subtract
  | isNum
deriving DecidableEq, Repr

namespace Builtin

/-- The name a program calls a built-in function by. -/
def name : Builtin → String
  | add => "add"
  | subtract => "subtract"
  | isNum => "is_num"

/-- The built-in function of a name, if there is one. -/
def lookup (s : String) : Option Builtin :=
  if s = "add" then some add
  else if s = "subtract" then some subtract
  else if s = "is_num" then some isNum
  else none

theorem lookup_name (f : Builtin) : lookup f.name = some f := by
  cases f <;> decide

end Builtin
end ColumnExpr
