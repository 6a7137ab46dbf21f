/-
# Events of a run

Lexing, parsing, evaluating and checking report what they do as events, in order: each
token lexed, each expression the parser starts at a position, each call it finishes, the
finished program, the start of evaluation and each expression evaluated. Events change no
result; a log shows those its filter lets through.

Key definitions: `Event`.
-/
import ColumnExpr.Syntax.Token
namespace ColumnExpr

/-- Something a run reports. -/
inductive Event where
  /-- A check starts, with the number of permitted columns. -/
  | check (columns : Nat) (syntaxOnly : Bool)
  /-- The lexer read a token. -/
  | lexed (token : Token)
  /-- The parser starts an expression at a token position. -/
  | walk (position : Nat) (token : Token)
  /-- The parser finished a call with its number of parameters. -/
  | parsedCall (name : String) (params : Nat)
  /-- The parser finished a program of this many expressions. -/
  | parsedProgram (statements : Nat)
  /-- Evaluation of a program of this many expressions starts. -/
  | evaluating (statements : Nat)
  /-- An expression of this form is evaluated. -/
  | eval (kind : String)
deriving DecidableEq, Repr

end ColumnExpr
