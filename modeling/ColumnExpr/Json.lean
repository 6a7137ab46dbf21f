/-
# JSON documents and their text

A JSON document is null, a boolean, an integer, a binary64 number, a string, an array or an
object with its fields in order. It is written in one of two layouts: compact, with no
blanks at all, and pretty, with each item of a non-empty array or object on a line of its
own, indented by two spaces per level and `": "` after a key.

Strings escape the quote, the backslash and the control characters below U+0020 (the
short forms `\b \f \n \r \t` where they exist, else `\u00XX` with lowercase hex digits);
everything else, non-ASCII included, is written as it is.

Numbers that are not integers are written with the fewest digits that read back
(`Binary64.shortest`), laid out by `Json.floatLayout`.

Key definitions: `Json`, `Json.escape`, `Json.floatText`, `Json.compact`, `Json.pretty`.
-/
import ColumnExpr.Binary64.Shortest
namespace ColumnExpr

/-- A JSON document. -/
inductive Json where
  | null
  | bool (b : Bool)
  | int (n : Int)
  | float (x : Binary64)
  | str (s : String)
  | arr (items : List Json)
  | obj (fields : List (String × Json))
deriving Inhabited

namespace Json

/-- Where binary64 text switches between positional and exponent notation. -/
structure FloatLayout where
  /-- The least exponent of the leading digit written positionally. -/
  plainFrom : Int
  /-- The first exponent of the leading digit written with an exponent again. -/
  plainBelow : Int
  /-- Whether a positive exponent has a plus sign. -/
  plusSign : Bool

/-- Numbers from `1e-5` up to but not including `1e16` are positional, and an integer keeps a
`.0`; the others have a single leading digit and an exponent that is signed either way. -/
def floatLayout : FloatLayout := ⟨-5, 16, true⟩

/-- The decimal digits of a natural number. -/
def digitChars (n : Nat) : List Char := Nat.toDigits 10 n

/-- The text of a binary64 number in the layout above. -/
def floatText (x : Binary64) : String :=
  let sign := if x.negative then "-" else ""
  if x.sig = 0 then sign ++ "0.0"
  else
    let (d, k) := x.shortest
    let ds := digitChars d
    let n := ds.length
    let lead : Int := k + n - 1
    let body :=
      if floatLayout.plainFrom ≤ lead ∧ lead < floatLayout.plainBelow then
        if 0 ≤ k then String.ofList ds ++ String.ofList (List.replicate k.toNat '0') ++ ".0"
        else if 0 ≤ lead then
          String.ofList (ds.take (lead.toNat + 1)) ++ "." ++
            String.ofList (ds.drop (lead.toNat + 1))
        else "0." ++ String.ofList (List.replicate ((-lead).toNat - 1) '0') ++ String.ofList ds
      else
        let mant := match ds with
          | [] => "0"
          | [c] => String.ofList [c]
          | c :: rest => String.ofList [c] ++ "." ++ String.ofList rest
        let expSign := if lead < 0 then "-" else if floatLayout.plusSign then "+" else ""
        mant ++ "e" ++ expSign ++ toString lead.natAbs
    sign ++ body

/-- A hexadecimal digit, lowercase. -/
def hexDigit (n : Nat) : Char :=
  if n < 10 then Char.ofNat (48 + n) else Char.ofNat (87 + n)

/-- One character of a string body, escaped. -/
def escapeChar (c : Char) : List Char :=
  if c = '"' then ['\\', '"']
  else if c = '\\' then ['\\', '\\']
  else if c = '\n' then ['\\', 'n']
  else if c = '\r' then ['\\', 'r']
  else if c = '\t' then ['\\', 't']
  else if c.toNat = 8 then ['\\', 'b']
  else if c.toNat = 12 then ['\\', 'f']
  else if c.toNat < 32 then ['\\', 'u', '0', '0', hexDigit (c.toNat / 16), hexDigit (c.toNat % 16)]
  else [c]

/-- A string as a JSON string, quotes included. -/
def escape (s : String) : String :=
  String.ofList ('"' :: (s.toList.flatMap escapeChar ++ ['"']))

mutual
/-- The text of a document with no blanks. -/
def compact : Json → String
  | null => "null"
  | bool b => if b then "true" else "false"
  | int n => toString n
  | float x => floatText x
  | str s => escape s
  | arr items => "[" ++ compactItems items ++ "]"
  | obj fields => "\x7b" ++ compactFields fields ++ "\x7d"

/-- Array items with no blanks, comma separated. -/
def compactItems : List Json → String
  | [] => ""
  | [v] => compact v
  | v :: rest => compact v ++ "," ++ compactItems rest

/-- Object fields with no blanks, comma separated. -/
def compactFields : List (String × Json) → String
  | [] => ""
  | [(k, v)] => escape k ++ ":" ++ compact v
  | (k, v) :: rest => escape k ++ ":" ++ compact v ++ "," ++ compactFields rest
end

/-- Two spaces per level. -/
def indentText (level : Nat) : String := String.ofList (List.replicate (2 * level) ' ')

mutual
/-- The text of a document at an indentation level, items on lines of their own. -/
def prettyAt (level : Nat) : Json → String
  | arr [] => "[]"
  | obj [] => "\x7b\x7d"
  | arr (v :: rest) =>
    "[\n" ++ prettyItems (level + 1) (v :: rest) ++ "\n" ++ indentText level ++ "]"
  | obj (f :: rest) =>
    "\x7b\n" ++ prettyFields (level + 1) (f :: rest) ++ "\n" ++ indentText level ++ "\x7d"
  | null => "null"
  | bool b => if b then "true" else "false"
  | int n => toString n
  | float x => floatText x
  | str s => escape s

/-- Array items, one per line at the given level. -/
def prettyItems (level : Nat) : List Json → String
  | [] => ""
  | [v] => indentText level ++ prettyAt level v
  | v :: rest => indentText level ++ prettyAt level v ++ ",\n" ++ prettyItems level rest

/-- Object fields, one per line at the given level. -/
def prettyFields (level : Nat) : List (String × Json) → String
  | [] => ""
  | [(k, v)] => indentText level ++ escape k ++ ": " ++ prettyAt level v
  | (k, v) :: rest =>
    indentText level ++ escape k ++ ": " ++ prettyAt level v ++ ",\n" ++ prettyFields level rest
end

/-- The text of a document, pretty. -/
def pretty (v : Json) : String := prettyAt 0 v

example : floatText (Binary64.ofRatio false 1 10) = "0.1" := by decide
example : floatText (Binary64.ofNat (10 ^ 20)) = "1e+20" := by decide
example : compact (arr [int 5, bool false, str "hi"]) = "[5,false,\"hi\"]" := by decide

end Json
end ColumnExpr
