/-
# Lexing source text into tokens

The lexer walks the characters of a source text with a cursor: the characters left and
the position (counted in characters) of the first of them. Each step skips separators
(blanks and commas) and reads one token from the character it stops at:

* `(`, `)`, `{`, `}`: a bracket token;
* `"` or `'`: a string up to the same quote, where a backslash escapes `n`, `t`, `r`, a
  quote of either kind or a backslash, and any other escaped character is an error at its
  position; a missing closing quote is an error at the opening quote;
* an ASCII digit, or `-` before an ASCII digit: a number, that is the minus, ASCII digits,
  and one point with more digits when a digit follows the point;
* an ASCII letter or `_`: a word of ASCII letters, digits and `_`, which is the keyword
  `if` or `else`, a built-in function's name, or else a name;
* anything else is an error at its position.

Lexing a whole text repeats steps until the characters run out or a step fails; the
tokens read before a failure are kept beside it.

Key definitions: `LexError`, `Lexer.Cursor`, `Lexer.next`, `Lexer.run`, `Lexer.tokenize`.
Key theorems: `Lexer.scanToken_width_pos` (every token spans a character) and
`Lexer.next_rest_lt` (a step that reads a token consumes characters).
-/
import ColumnExpr.Text.Blank
import ColumnExpr.Syntax.Token
import ColumnExpr.Syntax.Builtin
namespace ColumnExpr

/-- Why lexing stopped. -/
inductive LexError where
  | unexpectedChar (c : Char) (position : Nat)
  | unterminatedString (position : Nat)
  | invalidEscape (c : Char) (position : Nat)
deriving DecidableEq, Repr

/-- The message for a lexing error. -/
def LexError.message : LexError → String
  | .unexpectedChar c p => "Unexpected character '" ++ c.toString ++ "' at position " ++ toString p
  | .unterminatedString p =>
    "Unterminated string starting at position " ++ toString p ++ ": missing closing quote"
  | .invalidEscape c p =>
    "Invalid escape sequence '\\" ++ c.toString ++ "' at position " ++ toString p

namespace Lexer

/-- Separators come between tokens: blanks and the comma. -/
def isSeparator (c : Char) : Bool := Text.isBlank c || c == ','

/-- Characters that continue a word: ASCII letters and digits, and `_`. -/
def isWordChar (c : Char) : Bool := c.isAlphanum || c == '_'

/-- The character a backslash before `c` stands for, if `c` may be escaped. -/
def unescape (c : Char) : Option Char :=
  if c = 'n' then some '\n'
  else if c = 't' then some '\t'
  else if c = 'r' then some '\r'
  else if c = '"' then some '"'
  else if c = '\'' then some '\''
  else if c = '\\' then some '\\'
  else none

/-- The characters left to lex and the position of the first of them. -/
structure Cursor where
  rest : List Char
  pos : Nat
deriving DecidableEq, Repr

/-- The cursor at the start of a text. -/
def Cursor.start (s : String) : Cursor := ⟨s.toList, 0⟩

/-- Moves past the separators at the cursor. -/
def skipSeparators (c : Cursor) : Cursor :=
  let skipped := (c.rest.takeWhile isSeparator).length
  ⟨c.rest.drop skipped, c.pos + skipped⟩

/-- The rest of a number after its first character: ASCII digits, then a point and more
digits when a digit follows the point. -/
def numberTail (cs : List Char) : List Char :=
  let ds := cs.takeWhile Char.isDigit
  match cs.dropWhile Char.isDigit with
  | '.' :: d :: more => if d.isDigit then ds ++ '.' :: (d :: more).takeWhile Char.isDigit else ds
  | _ => ds

/-- Reads the content of a string after its opening quote. `start` is the position of the
opening quote and `pos` that of the first of `cs`. Gives the content, escapes resolved,
and the number of characters read, the closing quote included. -/
def scanString (quote : Char) (start : Nat) :
    Nat → List Char → Except LexError (List Char × Nat)
  | _, [] => .error (.unterminatedString start)
  | pos, c :: rest =>
    if c = quote then .ok ([], 1)
    else if c = '\\' then
      match rest with
      | [] => .error (.unterminatedString start)
      | e :: more =>
        match unescape e with
        | some u => (scanString quote start (pos + 2) more).map fun (v, n) => (u :: v, n + 2)
        | none => .error (.invalidEscape e (pos + 1))
    else (scanString quote start (pos + 1) rest).map fun (v, n) => (c :: v, n + 1)

/-- The token of a word. -/
def wordToken (w : String) : Token :=
  if w = "if" then ⟨.ifKeyword, w⟩
  else if w = "else" then ⟨.elseKeyword, w⟩
  else if (Builtin.lookup w).isSome then ⟨.function, w⟩
  else ⟨.name, w⟩

/-- Reads the token that starts with `ch` at position `pos`, followed by `more`: the token
and its width, the number of characters it spans. -/
def scanToken (pos : Nat) (ch : Char) (more : List Char) : Except LexError (Token × Nat) :=
  if ch = '(' then .ok (⟨.openParen, "("⟩, 1)
  else if ch = ')' then .ok (⟨.closeParen, ")"⟩, 1)
  else if ch = '\x7b' then .ok (⟨.openBlock, "\x7b"⟩, 1)
  else if ch = '\x7d' then .ok (⟨.closeBlock, "\x7d"⟩, 1)
  else if ch = '"' ∨ ch = '\'' then
    (scanString ch pos (pos + 1) more).map fun (v, n) => (⟨.string, String.ofList v⟩, n + 1)
  else if ch.isDigit ∨ (ch = '-' ∧ (more.head?.map Char.isDigit).getD false) then
    let tail := numberTail more
    .ok (⟨.number, String.ofList (ch :: tail)⟩, tail.length + 1)
  else if ch.isAlpha ∨ ch = '_' then
    let tail := more.takeWhile isWordChar
    .ok (wordToken (String.ofList (ch :: tail)), tail.length + 1)
  else .error (.unexpectedChar ch pos)

/-- One step: skips separators and reads a token, giving it with the cursor after it, or
nothing at the end of the text. -/
def next (c : Cursor) : Except LexError (Option (Token × Cursor)) :=
  let s := skipSeparators c
  match s.rest with
  | [] => .ok none
  | ch :: more =>
    (scanToken s.pos ch more).map fun (t, w) => some (t, ⟨s.rest.drop w, s.pos + w⟩)

theorem map_eq_ok {α β ε : Type} {f : α → β} {e : Except ε α} {b : β}
    (h : e.map f = .ok b) :
    ∃ a, e = .ok a ∧ f a = b := by
  cases e with
  | error => simp [Except.map] at h
  | ok a => exact ⟨a, rfl, by simpa [Except.map] using h⟩

/-- Every token spans at least one character. -/
theorem scanToken_width_pos {pos : Nat} {ch : Char} {more : List Char} {t : Token} {w : Nat}
    (h : scanToken pos ch more = .ok (t, w)) : 0 < w := by
  unfold scanToken at h
  split at h
  · cases h; decide
  split at h
  · cases h; decide
  split at h
  · cases h; decide
  split at h
  · cases h; decide
  split at h
  · obtain ⟨⟨v, n⟩, _, hv⟩ := map_eq_ok h
    simp only [Prod.mk.injEq] at hv
    omega
  split at h
  · cases h; omega
  split at h
  · cases h; omega
  · cases h

/-- A step that reads a token leaves fewer characters to lex. -/
theorem next_rest_lt {c c' : Cursor} {t : Token} (h : next c = .ok (some (t, c'))) :
    c'.rest.length < c.rest.length := by
  have hskip : (skipSeparators c).rest.length ≤ c.rest.length := by
    simp [skipSeparators]
  unfold next at h
  simp only at h
  split at h
  · simp at h
  · rename_i ch more hr
    obtain ⟨⟨t', w⟩, hs, hv⟩ := map_eq_ok h
    have hw := scanToken_width_pos hs
    simp only [Option.some.injEq, Prod.mk.injEq] at hv
    rw [← hv.2]
    show ((skipSeparators c).rest.drop w).length < c.rest.length
    rw [List.length_drop, hr]
    rw [hr] at hskip
    simp only [List.length_cons] at hskip ⊢
    omega

/-- Lexes from a cursor to the end: the tokens read, and the error that stopped lexing, if
one did. -/
def run (c : Cursor) : List Token × Option LexError :=
  match h : next c with
  | .error e => ([], some e)
  | .ok none => ([], none)
  | .ok (some (t, c')) =>
    have : c'.rest.length < c.rest.length := next_rest_lt h
    let r := run c'
    (t :: r.1, r.2)
termination_by c.rest.length

/-- The tokens of a whole text, or the first lexing error. -/
def tokenize (s : String) : Except LexError (List Token) :=
  match run (Cursor.start s) with
  | (ts, none) => .ok ts
  | (_, some e) => .error e

end Lexer
end ColumnExpr
