/-
# Reference pages

The tool prints an overview of the language, or the page of one built-in function. Each
page is a list of lines; printed, every line ends with a line break.

Key definitions: `Docs.overview`, `Docs.page`.
-/
import ColumnExpr.Syntax.Builtin
namespace ColumnExpr
namespace Docs

/-- The overview: the functions and the syntax, one line each. -/
def overviewLines : List String :=
  ["COLEXPR DOCUMENTATION",
    "",
    "colexpr evaluates small programs made of built-in function calls, literals,",
    "column names and if/else conditionals. Each top-level expression produces one",
    "result.",
    "",
    "FUNCTIONS",
    "",
    "  add           Sum of all parameters",
    "  subtract      First parameter minus each of the others",
    "  is_num        Whether every parameter is numeric",
    "",
    "SYNTAX",
    "",
    "  42  -1.5          Number literals",
    "  \"text\"  'text'    String literals",
    "  name              Column reference (must be listed with --columns)",
    "  f(a, b)           Function call, commas optional",
    "  if (c) \x7b a \x7d else \x7b b \x7d",
    "                    Conditional; c is truthy when it is a non-zero number,",
    "                    a non-empty string or true",
    "",
    "Run 'colexpr docs <function>' for details on one function."]

/-- The page of `add`. -/
def addLines : List String :=
  ["add(a, b, ...)",
    "",
    "  Sums every parameter, starting from 0, left to right.",
    "",
    "  Example:",
    "    add(2, 3)                 => 5",
    "    add(2, subtract(4, 2))    => 4",
    "    add(\"1.5\", 1)             => 2.5",
    "",
    "  Constraints:",
    "    - At least one parameter is required",
    "    - Every parameter must be a number or a numeric string"]

/-- The page of `subtract`. -/
def subtractLines : List String :=
  ["subtract(a, b, ...)",
    "",
    "  Starts from the first parameter and subtracts each following one.",
    "",
    "  Example:",
    "    subtract(5, 4)            => 1",
    "    subtract(10, 3, 2)        => 5",
    "    subtract(7)               => 7",
    "",
    "  Constraints:",
    "    - At least one parameter is required",
    "    - Every parameter must be a number or a numeric string"]

/-- The page of `is_num`. -/
def isNumLines : List String :=
  ["is_num(a, ...)",
    "",
    "  True when every parameter is numeric, false as soon as one is not.",
    "",
    "  Example:",
    "    is_num(5)                 => true",
    "    is_num(\"5\")               => true",
    "    is_num(\"abc\")             => false",
    "    is_num(1, \"x\")            => false",
    "    is_num()                  => true",
    "",
    "  Notes:",
    "    - Numeric strings may carry surrounding whitespace; empty strings are",
    "      not numeric",
    "    - A parameter whose own evaluation needs a number and fails, such as",
    "      is_num(add(\"x\")), counts as not numeric",
    "    - Numbers too large or too precise for arithmetic, such as \"1e30\",",
    "      are still numeric"]

/-- Lines as printed text, each ending with a line break. -/
def render (lines : List String) : String := String.join (lines.map (· ++ "\n"))

/-- The overview page. -/
def overview : String := render overviewLines

/-- The page of a built-in function. -/
def page : Builtin → String
  | .add => render addLines
  | .subtract => render subtractLines
  | .isNum => render isNumLines

end Docs
end ColumnExpr
