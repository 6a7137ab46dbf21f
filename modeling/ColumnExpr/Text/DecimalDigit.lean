/-
# Decimal digits of every script

The characters of Unicode general category Nd (decimal number), which the numeric-text
grammar accepts as digits. They come in runs of ten consecutive code points, each run
from a digit zero to a digit nine, so the table lists the zero of every run: seventy-six
runs, 760 characters. Only the ASCII run `0`..`9` has a value when text is read as a
number; a digit of another script makes text that looks numeric and cannot be read.

Key definitions: `Text.digitZeros`, `Text.isDecimalDigit`.
-/
namespace ColumnExpr
namespace Text

/-- The code point of the digit zero of each run of decimal digits, in increasing order. -/
def digitZeros : List Nat :=
  [0x30, 0x660, 0x6F0, 0x7C0, 0x966, 0x9E6, 0xA66, 0xAE6, 0xB66, 0xBE6, 0xC66, 0xCE6,
    0xD66, 0xDE6, 0xE50, 0xED0, 0xF20, 0x1040, 0x1090, 0x17E0, 0x1810, 0x1946, 0x19D0,
    0x1A80, 0x1A90, 0x1B50, 0x1BB0, 0x1C40, 0x1C50, 0xA620, 0xA8D0, 0xA900, 0xA9D0, 0xA9F0,
    0xAA50, 0xABF0, 0xFF10, 0x104A0, 0x10D30, 0x10D40, 0x11066, 0x110F0, 0x11136, 0x111D0,
    0x112F0, 0x11450, 0x114D0, 0x11650, 0x116C0, 0x116D0, 0x116DA, 0x11730, 0x118E0,
    0x11950, 0x11BF0, 0x11C50, 0x11D50, 0x11DA0, 0x11F50, 0x16130, 0x16A60, 0x16AC0,
    0x16B50, 0x16D70, 0x1CCF0, 0x1D7CE, 0x1D7D8, 0x1D7E2, 0x1D7EC, 0x1D7F6, 0x1E140,
    0x1E2F0, 0x1E4F0, 0x1E5F1, 0x1E950, 0x1FBF0]

/-- A character is a decimal digit when it lies in one of the runs of ten. -/
def isDecimalDigit (c : Char) : Bool :=
  digitZeros.any fun z => z ≤ c.toNat && c.toNat < z + 10

example : digitZeros.length = 76 := rfl

/-- Every ASCII digit is a decimal digit. -/
theorem isDecimalDigit_of_isDigit (c : Char) (h : c.isDigit = true) :
    isDecimalDigit c = true := by
  simp only [Char.isDigit, Bool.and_eq_true, decide_eq_true_eq] at h
  obtain ⟨h1, h2⟩ := h
  have a : (48 : Nat) ≤ c.toNat := h1
  have b : c.toNat ≤ 57 := h2
  simp only [isDecimalDigit, digitZeros, List.any_cons, Bool.or_eq_true, Bool.and_eq_true,
    decide_eq_true_eq]
  left
  omega

end Text
end ColumnExpr
