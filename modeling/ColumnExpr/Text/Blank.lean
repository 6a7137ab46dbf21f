/-
# Blank characters

A blank is a character with the Unicode White_Space property: twenty-five code points,
six of them ASCII (tab, line feed, line tabulation, form feed, carriage return, space).
Blanks are what trimming removes from both ends of a text, and, together with the comma,
what separates tokens. The information separators U+001C to U+001F and the zero-width
space U+200B are not blanks.

Key definitions: `Text.isBlank`, `Text.trimChars`, `Text.trim`.
Key theorems: `Text.isBlank_of_isWhitespace` (core's ASCII blanks are blanks).
-/
namespace ColumnExpr
namespace Text

/-- The code points with the White_Space property, in increasing order. -/
def blankCodes : List Nat :=
  [0x09, 0x0A, 0x0B, 0x0C, 0x0D, 0x20, 0x85, 0xA0, 0x1680,
    0x2000, 0x2001, 0x2002, 0x2003, 0x2004, 0x2005, 0x2006, 0x2007, 0x2008, 0x2009, 0x200A,
    0x2028, 0x2029, 0x202F, 0x205F, 0x3000]

/-- A character is blank when its code point has the White_Space property. -/
def isBlank (c : Char) : Bool := blankCodes.contains c.toNat

/-- The characters of a text without its leading and trailing blanks. -/
def trimChars (cs : List Char) : List Char :=
  ((cs.dropWhile isBlank).reverse.dropWhile isBlank).reverse

/-- A text without its leading and trailing blanks. -/
def trim (s : String) : String := String.ofList (trimChars s.toList)

example : blankCodes.length = 25 := rfl

/-- The four blanks that core's `Char.isWhitespace` knows are blanks here too. -/
theorem isBlank_of_isWhitespace (c : Char) (h : c.isWhitespace = true) : isBlank c = true := by
  simp only [Char.isWhitespace, Bool.or_eq_true, decide_eq_true_eq] at h
  rcases h with ((h | h) | h) | h <;> subst h <;> decide

end Text
end ColumnExpr
