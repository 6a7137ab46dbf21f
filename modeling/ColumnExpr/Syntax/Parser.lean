/-
# Parsing tokens into a program

Recursive descent over the token list, with a cursor: the tokens left and the position
of the first of them. An expression starts at the cursor's token:

* a number or a string token is a literal;
* a name is a column when it is one of the permitted columns, and an error otherwise;
* a function name must be followed by `(`; then come expressions up to the first `)` at
  this level, which are its parameters;
* `if` must be followed by `(`, one expression, `)`, `{`, one expression, `}`, `else`, `{`,
  one expression and `}`;
* any other token starts no expression.

A program is expressions one after another until the tokens run out. The first error
ends parsing. A missing token is reported with the token found in its place, or with the
end of the input.

Each production returns the cursor past its tokens together with the evidence that it
moved, which is what makes the recursion terminate: the measure is the number of tokens
left, and the parameter loop may start an expression where it stands because it ranks
above expressions at equal length.

Key definitions: `ParseError`, `Parser.walk`, `Parser.params`, `Parser.program`,
`Parser.parseTraced`, `Parser.parse`.
-/
import ColumnExpr.Syntax.Node
import ColumnExpr.Event
namespace ColumnExpr

/-- Why parsing stopped. -/
inductive ParseError where
  /-- A token that starts no expression. -/
  | unrecognizedToken (kind : TokenKind)
  /-- A name that is not a permitted column. -/
  | unknownVariable (name : String)
  /-- A token of the grammar is missing; what stood there instead, if anything. -/
  | syntaxError (expected : TokenKind) (found : Option Token)
  /-- The tokens ended where an expression had to start. -/
  | unexpectedEnd
deriving DecidableEq, Repr

/-- What a syntax error reports in place of a missing token: the token standing there, or the
end of the input. -/
def ParseError.foundText : Option Token → String
  | some t => t.display
  | none => "end of input"

/-- The message for a parsing error. -/
def ParseError.message : ParseError → String
  | .unrecognizedToken k => "Unrecognized token: " ++ k.describe
  | .unknownVariable n => "Unknown variable: " ++ n
  | .syntaxError k found =>
    "Syntax error: missing " ++ k.describe ++ ", found " ++ ParseError.foundText found
  | .unexpectedEnd => "Unexpected end of input: expected an expression"

namespace Parser

/-- The tokens left to parse and the position of the first of them. -/
structure Cursor where
  rest : List Token
  pos : Nat
deriving DecidableEq, Repr

/-- A cursor with fewer tokens left than `c`. -/
abbrev Shorter (c : Cursor) := { c' : Cursor // c'.rest.length < c.rest.length }

/-- A cursor with no more tokens left than `c`. -/
abbrev Within (c : Cursor) := { c' : Cursor // c'.rest.length ≤ c.rest.length }

/-- Consumes a token of kind `k`, or reports what stands in its place. -/
def expect (k : TokenKind) (c : Cursor) : Except ParseError (Shorter c) :=
  match c with
  | ⟨[], _⟩ => .error (.syntaxError k none)
  | ⟨t :: more, pos⟩ =>
    if t.kind = k then .ok ⟨⟨more, pos + 1⟩, by simp⟩ else .error (.syntaxError k (some t))

/-- Consumes tokens of the kinds `ks`, in order. -/
def expectAll : List TokenKind → (c : Cursor) → Except ParseError (Within c)
  | [], c => .ok ⟨c, Nat.le_refl _⟩
  | k :: ks, c =>
    match expect k c with
    | .error e => .error e
    | .ok ⟨c1, h1⟩ =>
      match expectAll ks c1 with
      | .error e => .error e
      | .ok ⟨c2, h2⟩ => .ok ⟨c2, by omega⟩

mutual
/-- Parses one expression at the cursor: the events it reports, and the expression with
the cursor past it. -/
def walk (columns : List String) (c : Cursor) :
    List Event × Except ParseError (Node × Shorter c) :=
  match hc : c.rest with
  | [] => ([], .error .unexpectedEnd)
  | t :: more =>
    have hmore : more.length < c.rest.length := by simp [hc]
    let ev := Event.walk c.pos t
    let c1 : Cursor := ⟨more, c.pos + 1⟩
    match t.kind with
    | .number => ([ev], .ok (.number t.value, ⟨c1, hmore⟩))
    | .string => ([ev], .ok (.string t.value, ⟨c1, hmore⟩))
    | .name =>
      if columns.contains t.value then ([ev], .ok (.column t.value, ⟨c1, hmore⟩))
      else ([ev], .error (.unknownVariable t.value))
    | .function =>
      match expect .openParen c1 with
      | .error e => ([ev], .error e)
      | .ok ⟨c2, h2⟩ =>
        match params columns c2 with
        | (evs, .error e) => (ev :: evs, .error e)
        | (evs, .ok (ps, ⟨c3, h3⟩)) =>
          (ev :: evs ++ [Event.parsedCall t.value ps.length],
            .ok (.call t.value ps, ⟨c3, by simp only [c1] at h2; omega⟩))
    | .ifKeyword =>
      match expect .openParen c1 with
      | .error e => ([ev], .error e)
      | .ok ⟨c2, h2⟩ =>
        match walk columns c2 with
        | (e1, .error e) => (ev :: e1, .error e)
        | (e1, .ok (cond, ⟨c3, h3⟩)) =>
          match expectAll [.closeParen, .openBlock] c3 with
          | .error e => (ev :: e1, .error e)
          | .ok ⟨c4, h4⟩ =>
            match walk columns c4 with
            | (e2, .error e) => (ev :: e1 ++ e2, .error e)
            | (e2, .ok (yes, ⟨c5, h5⟩)) =>
              match expectAll [.closeBlock, .elseKeyword, .openBlock] c5 with
              | .error e => (ev :: e1 ++ e2, .error e)
              | .ok ⟨c6, h6⟩ =>
                match walk columns c6 with
                | (e3, .error e) => (ev :: e1 ++ e2 ++ e3, .error e)
                | (e3, .ok (no, ⟨c7, h7⟩)) =>
                  match expect .closeBlock c7 with
                  | .error e => (ev :: e1 ++ e2 ++ e3, .error e)
                  | .ok ⟨c8, h8⟩ =>
                    (ev :: e1 ++ e2 ++ e3,
                      .ok (.conditional cond yes no, ⟨c8, by simp only [c1] at h2; omega⟩))
    | k => ([ev], .error (.unrecognizedToken k))
termination_by (c.rest.length, 0)
decreasing_by
  all_goals (apply Prod.Lex.left; simp only [c1] at *; omega)

/-- Parses the parameters of a call up to and including its `)`. -/
def params (columns : List String) (c : Cursor) :
    List Event × Except ParseError (List Node × Shorter c) :=
  match hc : c.rest with
  | [] => ([], .error (.syntaxError .closeParen none))
  | t :: more =>
    if t.kind = .closeParen then ([], .ok ([], ⟨⟨more, c.pos + 1⟩, by simp [hc]⟩))
    else
      match walk columns c with
      | (evs, .error e) => (evs, .error e)
      | (evs, .ok (n, ⟨c1, h1⟩)) =>
        match params columns c1 with
        | (evs2, .error e) => (evs ++ evs2, .error e)
        | (evs2, .ok (ps, ⟨c2, h2⟩)) => (evs ++ evs2, .ok (n :: ps, ⟨c2, by omega⟩))
termination_by (c.rest.length, 1)
decreasing_by
  · apply Prod.Lex.right; omega
  · apply Prod.Lex.left; omega
end

/-- Parses expressions until the tokens run out. -/
def program (columns : List String) (c : Cursor) : List Event × Except ParseError (List Node) :=
  match c.rest with
  | [] => ([], .ok [])
  | _ :: _ =>
    match walk columns c with
    | (evs, .error e) => (evs, .error e)
    | (evs, .ok (n, ⟨c1, _⟩)) =>
      match program columns c1 with
      | (evs2, r) => (evs ++ evs2, r.map (n :: ·))
termination_by c.rest.length

/-- Parses a token list into a program, with the events of the run. -/
def parseTraced (tokens : List Token) (columns : List String) :
    List Event × Except ParseError Program :=
  match program columns ⟨tokens, 0⟩ with
  | (evs, .ok body) => (evs ++ [Event.parsedProgram body.length], .ok ⟨body⟩)
  | (evs, .error e) => (evs, .error e)

/-- Parses a token list into a program, names being columns when they are in `columns`. -/
def parse (tokens : List Token) (columns : List String) : Except ParseError Program :=
  (parseTraced tokens columns).2

end Parser
end ColumnExpr
