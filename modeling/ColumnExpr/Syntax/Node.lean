/-
# Syntax trees

A program is a list of expressions. An expression is a number literal (kept as its text;
it is read as a number only when evaluated), a string literal, a column name, a call of a
named function with its parameters, or a conditional with a condition and two branches.

Printing a tree gives back the tokens it is written with: a literal or column name is one
token; a call is the function name, `(`, its parameters' tokens and `)`; a conditional is
`if ( c ) { t } else { f }`. Parsing is the inverse of this printing.

Key definitions: `Node`, `Program`, `Node.kindName`, `Node.toTokens`, `Program.toTokens`.
-/
import ColumnExpr.Syntax.Token
namespace ColumnExpr

/-- An expression. -/
inductive Node where
  | number (text : String)
  | string (text : String)
  | column (name : String)
  | call (name : String) (params : List Node)
  | conditional (condition trueBody falseBody : Node)
deriving Repr, Inhabited

/-- A program: its expressions in order. -/
structure Program where
  body : List Node
deriving Repr, Inhabited

namespace Node

/-- The name of an expression's form. -/
def kindName : Node → String
  | number _ => "NumberLiteral"
  | string _ => "StringLiteral"
  | column _ => "ColumnName"
  | call _ _ => "CallExpression"
  | conditional _ _ _ => "IfCondition"

/-- The token of a keyword or bracket, with its lexeme. -/
def fixed (k : TokenKind) : Token := ⟨k, (k.lexeme).getD ""⟩

mutual
/-- The tokens an expression is written with. -/
def toTokens : Node → List Token
  | number s => [⟨.number, s⟩]
  | string s => [⟨.string, s⟩]
  | column n => [⟨.name, n⟩]
  | call f ps => ⟨.function, f⟩ :: fixed .openParen :: listTokens ps ++ [fixed .closeParen]
  | conditional c t f =>
    [fixed .ifKeyword, fixed .openParen] ++ toTokens c ++ [fixed .closeParen, fixed .openBlock]
      ++ toTokens t ++ [fixed .closeBlock, fixed .elseKeyword, fixed .openBlock] ++ toTokens f
      ++ [fixed .closeBlock]

/-- The tokens of expressions one after another. -/
def listTokens : List Node → List Token
  | [] => []
  | n :: ns => toTokens n ++ listTokens ns
end

end Node

/-- The tokens a program is written with. -/
def Program.toTokens (p : Program) : List Token := Node.listTokens p.body

end ColumnExpr
