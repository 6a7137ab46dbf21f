/-
# Styled text

The command line's help and messages are styled text: pieces of text, each with a style.
A style is written to a terminal as select graphic rendition sequences before its piece and
a reset after it; the plain style writes none. The styles used:

* literal words the user may type (commands, option names): bold;
* headings (`Usage:`, `Options:`): bold and underlined;
* the word `error:`: bold and red;
* a word that was not understood: yellow;
* a word that would be understood (in tips): green;
* in log lines, the time, the target and the `=` of fields dimmed, field names in italics,
  and the level in its color.

Written with its styles, a text carries these sequences even around an empty piece;
written without, it is the pieces' text alone. Widths for aligning columns are those of
the text alone.

Key definitions: `Text.Style`, `Text.Piece`, `Text.Styled`, `Text.Styled.render`.
-/
namespace ColumnExpr
namespace Text

/-- How a piece of text is shown: the select graphic rendition parameters written before
it, each as a sequence of its own; none for plain text. -/
structure Style where
  parameters : List Nat
deriving DecidableEq, Repr

namespace Style

/-- Plain text. -/
def plain : Style := ⟨[]⟩

/-- Words to type: bold. -/
def literal : Style := ⟨[1]⟩

/-- Headings: bold and underlined. -/
def heading : Style := ⟨[1, 4]⟩

/-- The word `error:`: bold and red. -/
def error : Style := ⟨[1, 31]⟩

/-- Words not understood: yellow. -/
def invalid : Style := ⟨[33]⟩

/-- Words that would be understood: green. -/
def valid : Style := ⟨[32]⟩

/-- Dimmed text. -/
def dimmed : Style := ⟨[2]⟩

/-- Italics. -/
def italic : Style := ⟨[3]⟩

/-- A foreground color by its parameter, `31` (red) to `37`. -/
def color (parameter : Nat) : Style := ⟨[parameter]⟩

/-- The sequences that turn a style on. -/
def codes (s : Style) : String :=
  String.join (s.parameters.map fun p => "\x1b[" ++ toString p ++ "m")

/-- The sequence that turns a style off; none for plain text. -/
def reset (s : Style) : String := if s.parameters.isEmpty then "" else "\x1b[0m"

end Style

/-- A piece of text in a style. -/
structure Piece where
  style : Style
  text : String
deriving DecidableEq, Repr

/-- Styled text: pieces in order. -/
abbrev Styled := List Piece

/-- Plain text as styled text. -/
def Styled.plain (s : String) : Styled := [⟨.plain, s⟩]

/-- Text in a style. -/
def Styled.inStyle (style : Style) (s : String) : Styled := [⟨style, s⟩]

/-- A piece as written: with its style's sequences when `colored`. -/
def Piece.render (colored : Bool) (p : Piece) : String :=
  if colored then p.style.codes ++ p.text ++ p.style.reset else p.text

/-- Styled text as written: with the styles' sequences when `colored`. -/
def Styled.render (colored : Bool) (t : Styled) : String :=
  String.join (t.map (Piece.render colored))

/-- The number of characters of the text alone. -/
def Styled.width (t : Styled) : Nat := (t.map (·.text.length)).foldr (· + ·) 0

/-- Styled texts joined by a separator. -/
def Styled.joinWith (sep : Styled) : List Styled → Styled
  | [] => []
  | [t] => t
  | t :: ts => t ++ sep ++ Styled.joinWith sep ts

example : Styled.render true (Styled.inStyle .literal "a" ++ Styled.plain " b") =
    "\x1b[1ma\x1b[0m b" := by decide
example : Styled.render false (Styled.inStyle .literal "a" ++ Styled.plain " b") = "a b" := by
  decide

end Text
end ColumnExpr
