/-
# Terminal escape sequences

Text meant for a terminal may hold control characters and escape sequences (colors, cursor
moves, window titles). The command line's messages are written without them: a terminal
parser reads the text, and only what it would print is kept.

The parser is the usual one for such terminals, a state machine over bytes. From its
ground state a printable ASCII character is printed, a character beyond ASCII is printed
whole, and a control is executed; `ESC` starts an escape sequence, and `ESC [` a control
sequence, `ESC ]` an operating system command, `ESC P` a device control string and
`ESC X`, `ESC ^`, `ESC _` other strings, each running to its own end. `CAN` and `SUB`
return to the ground state from anywhere, `ESC` starts over from anywhere.

Of what is executed, the ASCII blanks (tab, line feed, form feed, carriage return) are kept,
the other controls and `DEL` are dropped. The reader goes in runs (`Text.Terminal.step`):
it skips until a character is kept, then keeps what the ground state would print, without
moving the parser, until a character is not kept. A sequence a kept blank stands in thus
stays open, and what follows the run goes on with it.

Color sequences alone (`ESC [`, digits and semicolons, `m`) are what `Text.stripColorCodes`
removes.

Key definitions: `Text.Terminal.State`, `Text.Terminal.transition`, `Text.Terminal.step`,
`Text.stripEscapes`, `Text.stripColorCodes`.
-/
namespace ColumnExpr
namespace Text
namespace Terminal

/-- Where the parser is: printing, or inside some part of an escape sequence. -/
inductive State where
  | ground
  | escape
  | escapeIntermediate
  | csiEntry
  | csiParam
  | csiIntermediate
  | csiIgnore
  | dcsEntry
  | dcsParam
  | dcsIntermediate
  | dcsPassthrough
  | dcsIgnore
  | oscString
  | sosPmApcString
deriving DecidableEq, Repr

/-- What a byte does: it is printed, it is executed as a control, or neither. -/
inductive Effect where
  | print
  | execute
  | none
deriving DecidableEq, Repr

/-- Whether a byte is a C0 control other than `CAN`, `SUB` and `ESC`. -/
def isControl (b : Nat) : Bool := b ≤ 0x17 || b == 0x19 || (0x1C ≤ b && b ≤ 0x1F)

/-- Whether a byte lies in a range. -/
def within (lo hi b : Nat) : Bool := lo ≤ b && b ≤ hi

/-- The next state after a byte (none when it stays) and what the byte does. -/
def transition (s : State) (b : Nat) : Option State × Effect :=
  if b == 0x18 || b == 0x1A then (some .ground, .execute)
  else if b == 0x1B then (some .escape, .none)
  else
    match s with
    | .ground =>
      if isControl b then (none, .execute)
      else if within 0x20 0x7F b then (none, .print)
      else if within 0x80 0x8F b || within 0x91 0x9A b || b == 0x9C then (none, .execute)
      else (none, .none)
    | .escape =>
      if isControl b then (none, .execute)
      else if within 0x20 0x2F b then (some .escapeIntermediate, .none)
      else if b == 0x5B then (some .csiEntry, .none)
      else if b == 0x5D then (some .oscString, .none)
      else if b == 0x50 then (some .dcsEntry, .none)
      else if b == 0x58 || b == 0x5E || b == 0x5F then (some .sosPmApcString, .none)
      else if within 0x30 0x7E b then (some .ground, .none)
      else (none, .none)
    | .escapeIntermediate =>
      if isControl b then (none, .execute)
      else if within 0x30 0x7E b then (some .ground, .none)
      else (none, .none)
    | .csiEntry =>
      if isControl b then (none, .execute)
      else if within 0x20 0x2F b then (some .csiIntermediate, .none)
      else if within 0x30 0x3F b then (some .csiParam, .none)
      else if within 0x40 0x7E b then (some .ground, .none)
      else (none, .none)
    | .csiParam =>
      if isControl b then (none, .execute)
      else if within 0x3C 0x3F b then (some .csiIgnore, .none)
      else if within 0x20 0x2F b then (some .csiIntermediate, .none)
      else if within 0x40 0x7E b then (some .ground, .none)
      else (none, .none)
    | .csiIntermediate =>
      if isControl b then (none, .execute)
      else if within 0x30 0x3F b then (some .csiIgnore, .none)
      else if within 0x40 0x7E b then (some .ground, .none)
      else (none, .none)
    | .csiIgnore =>
      if isControl b then (none, .execute)
      else if within 0x40 0x7E b then (some .ground, .none)
      else (none, .none)
    | .dcsEntry =>
      if within 0x20 0x2F b then (some .dcsIntermediate, .none)
      else if within 0x30 0x3F b then (some .dcsParam, .none)
      else if within 0x40 0x7E b then (some .dcsPassthrough, .none)
      else (none, .none)
    | .dcsParam =>
      if within 0x3C 0x3F b then (some .dcsIgnore, .none)
      else if within 0x20 0x2F b then (some .dcsIntermediate, .none)
      else if within 0x40 0x7E b then (some .dcsPassthrough, .none)
      else (none, .none)
    | .dcsIntermediate =>
      if within 0x30 0x3F b then (some .dcsIgnore, .none)
      else if within 0x40 0x7E b then (some .dcsPassthrough, .none)
      else (none, .none)
    | .dcsPassthrough | .dcsIgnore | .sosPmApcString =>
      if b == 0x9C then (some .ground, .none) else (none, .none)
    | .oscString =>
      if b == 0x07 then (some .ground, .none) else (none, .none)

/-- Whether a byte with its effect is kept: printed (but not `DEL`), or an executed ASCII
blank. -/
def kept (b : Nat) (e : Effect) : Bool :=
  (e == .print && b != 0x7F) ||
    (e == .execute && (b == 0x09 || b == 0x0A || b == 0x0C || b == 0x0D || b == 0x20))

/-- The state after the bytes of a character that is not kept. -/
def afterBytes (s : State) (bs : List Nat) : State :=
  bs.foldl (fun st b => ((transition st b).1).getD st) s

/-- Whether the reader is in a run of kept characters or skipping. -/
inductive Mode where
  | skipping
  | printing
deriving DecidableEq, Repr

/-- Reads one character: the mode and state after it, and whether it is kept.

Skipping, an ASCII character moves the parser, and a kept one starts a run; the parser
keeps its state, so a blank kept inside a sequence leaves the sequence open. In a run, an
ASCII character is judged as from the ground state and kept without moving the parser;
one that is not kept is then read again, skipping, from the state it leads to from there
(`ESC` to an escape, `CAN` and `SUB` to the ground state) or else from the state the run
started in. A character beyond ASCII is kept whole in a run, or when skipping in the ground
state, and leaves the parser in the ground state; skipping inside a sequence its bytes only
move the parser. -/
def step (m : Mode) (s : State) (c : Char) : Mode × State × Bool :=
  if c.toNat < 128 then
    let b := c.toNat
    match m with
    | .skipping =>
      let (next, e) := transition s b
      if kept b e then (.printing, next.getD s, true) else (.skipping, next.getD s, false)
    | .printing =>
      let (next, e) := transition .ground b
      if kept b e then (.printing, s, true)
      else
        let s1 := next.getD s
        (.skipping, ((transition s1 b).1).getD s1, false)
  else
    match m with
    | .printing => (.printing, .ground, true)
    | .skipping =>
      if s == .ground then (.printing, .ground, true)
      else (.skipping, afterBytes s ((String.utf8EncodeChar c).map UInt8.toNat), false)

/-- The characters kept from a text, read from a mode and state. -/
def keptChars : Mode → State → List Char → List Char
  | _, _, [] => []
  | m, s, c :: cs =>
    let (m', s', k) := step m s c
    if k then c :: keptChars m' s' cs else keptChars m' s' cs

end Terminal

/-- A text as a terminal would print it, without its escape sequences and controls other
than the ASCII blanks. -/
def stripEscapes (s : String) : String :=
  String.ofList (Terminal.keptChars .skipping .ground s.toList)

example : stripEscapes "a\x1b[31mb" = "ab" := by decide
example : stripEscapes "x\x01y\x7fz" = "xyz" := by decide

/-- Where the search for color sequences stands: in text, after an `ESC`, or after
`ESC [` and the digits and semicolons held so far (in reverse). -/
inductive ColorScan where
  | text
  | escape
  | params (held : List Char)
deriving DecidableEq, Repr

/-- The characters of a text without its color sequences, read from a search state. -/
def dropColorCodes : ColorScan → List Char → List Char
  | .text, [] => []
  | .text, c :: r => if c == '\x1b' then dropColorCodes .escape r else c :: dropColorCodes .text r
  | .escape, [] => ['\x1b']
  | .escape, c :: r =>
    if c == '[' then dropColorCodes (.params []) r
    else if c == '\x1b' then '\x1b' :: dropColorCodes .escape r
    else '\x1b' :: c :: dropColorCodes .text r
  | .params held, [] => '\x1b' :: '[' :: held.reverse
  | .params held, c :: r =>
    if c.isDigit || c == ';' then dropColorCodes (.params (c :: held)) r
    else if c == 'm' then dropColorCodes .text r
    else if c == '\x1b' then '\x1b' :: '[' :: held.reverse ++ dropColorCodes .escape r
    else '\x1b' :: '[' :: held.reverse ++ c :: dropColorCodes .text r

/-- A text without its color sequences: `ESC [`, digits and semicolons, then `m`. Other
escapes stay. -/
def stripColorCodes (s : String) : String := String.ofList (dropColorCodes .text s.toList)

example : stripColorCodes "a\x1b[1;31mb\x1b[0m" = "ab" := by decide

end Text
end ColumnExpr
