/-
# Tokens

A token is a kind and a text. Numbers, strings, names and function names carry their text
(a string token its content, escapes resolved); the keywords `if` and `else` and the four
brackets `(`, `)`, `{`, `}` have one canonical text each, their lexeme.

Each kind has a describing word used in messages (`number`, `'('`), and each token a
display: the describing word and the quoted text for numbers, names and function names,
the text in double quotes for strings, the describing word alone for the other kinds.

Key definitions: `TokenKind`, `Token`, `TokenKind.describe`, `TokenKind.lexeme`,
`TokenKind.symbol`, `Token.display`.
-/
namespace ColumnExpr

/-- The kind of a token. -/
inductive TokenKind where
  | number
  | string
  | name
  | function
  | ifKeyword
  | elseKeyword
  | openParen
  | closeParen
  | openBlock
  | closeBlock
deriving DecidableEq, Repr

/-- A token: its kind and its text. -/
structure Token where
  kind : TokenKind
  value : String
deriving DecidableEq, Repr

namespace TokenKind

/-- All kinds, in their usual order. -/
def all : List TokenKind :=
  [number, string, name, function, ifKeyword, elseKeyword, openParen, closeParen, openBlock,
    closeBlock]

/-- The word for a kind in messages. -/
def describe : TokenKind → String
  | number => "number"
  | string => "string"
  | name => "name"
  | function => "function"
  | ifKeyword => "'if'"
  | elseKeyword => "'else'"
  | openParen => "'('"
  | closeParen => "')'"
  | openBlock => "'\x7b'"
  | closeBlock => "'\x7d'"

/-- The name of a kind as the token list shows it. -/
def label : TokenKind → String
  | number => "Number"
  | string => "String"
  | name => "Name"
  | function => "FunctionCall"
  | ifKeyword => "If"
  | elseKeyword => "Else"
  | openParen => "OpenParen"
  | closeParen => "CloseParen"
  | openBlock => "OpenBlock"
  | closeBlock => "CloseBlock"

/-- The kind with a given label. -/
def ofLabel? (s : String) : Option TokenKind := all.find? fun k => k.label == s

/-- The one text of a keyword or bracket. -/
def lexeme : TokenKind → Option String
  | ifKeyword => some "if"
  | elseKeyword => some "else"
  | openParen => some "("
  | closeParen => some ")"
  | openBlock => some "\x7b"
  | closeBlock => some "\x7d"
  | _ => none

/-- A kind is fixed when its tokens all have the same text. -/
def isFixed (k : TokenKind) : Bool := k.lexeme.isSome

/-- The token of a fixed kind, with its lexeme. -/
def symbol (k : TokenKind) : Option Token := k.lexeme.map (Token.mk k)

theorem ofLabel_label (k : TokenKind) : ofLabel? k.label = some k := by
  cases k <;> decide

end TokenKind

namespace Token

/-- How a token is shown in messages. -/
def display (t : Token) : String :=
  match t.kind with
  | .number | .name | .function => t.kind.describe ++ " '" ++ t.value ++ "'"
  | .string => "string \"" ++ t.value ++ "\""
  | k => k.describe

example : display ⟨.number, "2"⟩ = "number '2'" := by decide
example : display ⟨.closeParen, "x"⟩ = "')'" := by decide

end Token
end ColumnExpr
