/-
# Field value patterns

A field filter in a span selector may compare a field's value: `name=value`. A value that
reads as a boolean or a number (`true`, `false`, or a number with an optional sign, point
and exponent, or `inf`, `infinity`, `nan` in any case) is compared as that; any other value
is a regular expression over text, matched by a deterministic automaton. The expression is
refused (`Log.Pattern.Problem`)

* when it does not parse, or when it could match bytes that are no text: outside Unicode
  mode, a `.`, a negated class (`\D`, `[^a]`, `[[:^alpha:]]`), a byte `\xHH` beyond ASCII
  anywhere, a Unicode property, or a character beyond ASCII in a bracket class;
* when it parses but tests for a word boundary in Unicode mode (`\b`, `\B`, `\<`, `\>`,
  `\b{start}` and the like), which such an automaton cannot do.

What parses (`Log.Pattern.scan`):

* groups `(...)`, named groups `(?P<name>...)` and `(?<name>...)`, where a name starts with
  a letter or `_` and goes on with letters, digits, `_`, `.`, `[`, `]`, and no name comes
  twice; flag groups `(?flags)` and `(?flags:...)` with flags from `imsUuxR` and at most one
  `-`, not last; every group closed, none closed that is not open, and no look-around;
* alternation `|`, and repetition `*`, `+`, `?`, `{n}`, `{n,}`, `{n,m}` with `n ≤ m`, each
  perhaps followed by `?`; a repetition applies to what stands before it in its
  alternative, which must not be a flag group;
* bracket classes: an optional `^`, then any `-` and a first `]` as themselves, items that
  are characters, escapes, ranges with their ends in order, named classes such as
  `[:alpha:]`, nested classes, and the operators `&&`, `--`, `~~`;
* escapes: punctuation and the blank as themselves; `\d \s \w` and their negations; `\p` and
  `\P` with a one-letter general category (`C L M N P S Z` in either case) or a name in
  braces; `\x`, `\u`, `\U` with two, four or eight hexadecimal digits or a code point in
  braces; `\a \f \t \n \r \v`; and the assertions `\A \z \b \B \< \>`, `\b{start}`,
  `\b{end}`, `\b{start-half}`, `\b{end-half}`. Other letters, digits and a lone backslash
  at the end are refused.

Flags last to the end of the group they are set in. In extended mode (`x`) blanks are
skipped and `#` starts a comment up to the end of the line, also in classes and between the
digits of a count or an escape. A field value never holds a closing brace (the field ends at
the first), so a name in braces is taken as it is.

Outside Unicode mode a class is a set of bytes, and it must stay within ASCII. Every item
must then be within ASCII itself (a byte `\xHH` beyond ASCII is refused even where an
operator would take it out again), and a negated class, named class or shorthand is refused,
since its negation holds every byte beyond ASCII. Case folding and the operators keep a set
within ASCII, so they change nothing here.

Key definitions: `Log.Pattern.isLiteral`, `Log.Pattern.scan`, `Log.Pattern.problem?`,
`Log.Pattern.valueProblem?`.
-/
import ColumnExpr.Text.Blank
import ColumnExpr.Text.Alphanumeric
namespace ColumnExpr
namespace Log
namespace Pattern

/-- ASCII digits, one or more. -/
def isDigits (cs : List Char) : Bool := !cs.isEmpty && cs.all Char.isDigit

/-- The text in ASCII lower case. -/
def lower (cs : List Char) : List Char := cs.map Char.toLower

/-- A number as digits with at most one point and at least one digit, then perhaps an
exponent: `e` or `E`, an optional sign and digits. -/
def isUnsignedNumber (cs : List Char) : Bool :=
  let whole := cs.takeWhile Char.isDigit
  let afterWhole := cs.drop whole.length
  let (fraction, afterFraction) := match afterWhole with
    | '.' :: r => (r.takeWhile Char.isDigit, r.drop (r.takeWhile Char.isDigit).length)
    | r => ([], r)
  let mantissaOk := !whole.isEmpty || !fraction.isEmpty
  mantissaOk &&
    match afterFraction with
    | [] => true
    | e :: r =>
      (e == 'e' || e == 'E') &&
        match r with
        | '+' :: ds => isDigits ds
        | '-' :: ds => isDigits ds
        | ds => isDigits ds

/-- Whether a value is compared as a boolean or a number rather than as a pattern. -/
def isLiteral (cs : List Char) : Bool :=
  cs == "true".toList || cs == "false".toList ||
    let unsigned := match cs with
      | '+' :: r => r
      | '-' :: r => r
      | r => r
    isUnsignedNumber unsigned ||
      [ "inf".toList, "infinity".toList, "nan".toList ].contains (lower unsigned)

/-- Why a pattern cannot be used. -/
inductive Problem where
  /-- It does not parse, or it could match bytes that are no text. -/
  | unreadable
  /-- It tests for a word boundary in Unicode mode. -/
  | unicodeWordBoundary
deriving DecidableEq, Repr

/-- What a notice says about the problem. -/
def Problem.message : Problem → String
  | .unreadable => "error building NFA"
  | .unicodeWordBoundary =>
    "unsupported regex feature for DFAs: cannot build DFAs for regexes with Unicode word " ++
      "boundaries; switch to ASCII word boundaries, or heuristically enable Unicode word " ++
      "boundaries or use a different regex engine"

/-- The flags that change how a pattern reads: Unicode mode, on unless turned off with `u`,
and extended mode, turned on with `x`. -/
structure Flags where
  unicode : Bool
  extended : Bool
deriving DecidableEq, Repr

/-- Skips what extended mode skips: blanks, and comments from `#` to a line feed;
`inComment` says whether the text starts inside a comment. Without extended mode nothing is
skipped. -/
def skipSpace (extended : Bool) : Bool → List Char → List Char
  | _, [] => []
  | true, c :: r => if c == '\n' then skipSpace extended false r else skipSpace extended true r
  | false, c :: r =>
    if extended && Text.isBlank c then skipSpace extended false r
    else if extended && c == '#' then skipSpace extended true r
    else c :: r

/-- The text after what extended mode skips. -/
def space (extended : Bool) (cs : List Char) : List Char := skipSpace extended false cs

/-- Reads characters that satisfy `p`, skipping what extended mode skips after each one
read: `skipping` says whether a character was read, `inComment` whether the text starts
inside a comment. -/
def takeSpacedFrom (extended : Bool) (p : Char → Bool) :
    Bool → Bool → List Char → List Char × List Char
  | _, _, [] => ([], [])
  | _, true, c :: r =>
    if c == '\n' then takeSpacedFrom extended p true false r
    else takeSpacedFrom extended p true true r
  | skipping, false, c :: r =>
    if skipping && extended && Text.isBlank c then takeSpacedFrom extended p true false r
    else if skipping && extended && c == '#' then takeSpacedFrom extended p true true r
    else if p c then
      let (xs, rest) := takeSpacedFrom extended p true false r
      (c :: xs, rest)
    else ([], c :: r)

/-- Reads the characters that satisfy `p`, skipping what extended mode skips after each:
the characters read and the text after them. -/
def takeSpaced (extended : Bool) (p : Char → Bool) (cs : List Char) : List Char × List Char :=
  takeSpacedFrom extended p false false cs

/-- Whether a character is an ASCII hexadecimal digit. -/
def isHexDigit (c : Char) : Bool :=
  c.isDigit || ('a' ≤ c && c ≤ 'f') || ('A' ≤ c && c ≤ 'F')

/-- The value of a text of hexadecimal digits. -/
def hexValue (cs : List Char) : Nat :=
  cs.foldl (fun n c =>
    16 * n + if c.isDigit then c.toNat - 48 else (c.toLower.toNat - 'a'.toNat + 10)) 0

/-- The value of a text of decimal digits. -/
def decimalValue (cs : List Char) : Nat := cs.foldl (fun n d => 10 * n + (d.toNat - 48)) 0

/-- Whether a number is a character's code point. -/
def isScalar (n : Nat) : Bool := n < 0xD800 || (0xE000 ≤ n && n ≤ 0x10FFFF)

/-- What an escape stands for. -/
inductive Atom where
  /-- A character; `byte` when written `\x` with two digits, which outside Unicode mode
  stands for a byte. -/
  | literal (c : Char) (byte : Bool)
  /-- `\d`, `\s` or `\w`, by its letter, negated for `\D`, `\S`, `\W`. -/
  | shorthand (kind : Char) (negated : Bool)
  /-- A Unicode property, `\p` or `\P`. -/
  | property
  /-- An assertion; `word` for the word boundaries. -/
  | assertion (word : Bool)
deriving DecidableEq, Repr

/-- Whether a character stands for itself after a backslash: ASCII other than letters,
digits, `<` and `>`. -/
def isEscapable (c : Char) : Bool :=
  c.toNat < 128 && !c.isAlphanum && c != '<' && c != '>'

/-- The control escapes and the characters they stand for. -/
def controlEscape? (c : Char) : Option Char :=
  if c == 'a' then some '\x07'
  else if c == 'f' then some '\x0c'
  else if c == 't' then some '\t'
  else if c == 'n' then some '\n'
  else if c == 'r' then some '\r'
  else if c == 'v' then some '\x0b'
  else none

/-- Reads exactly `n` hexadecimal digits, skipping what extended mode skips after each: the
digits and the text after them. -/
def fixedHex (extended : Bool) : Nat → List Char → Option (List Char × List Char)
  | 0, cs => some ([], cs)
  | _ + 1, [] => none
  | n + 1, c :: r =>
    if isHexDigit c then
      (fixedHex extended n (space extended r)).map fun (ds, rest) => (c :: ds, rest)
    else none

/-- Reads a hexadecimal escape after its letter: `width` digits, or digits in braces. The
result is the character, whether it was written with the fixed digits, and the text after
it. -/
def hexEscape (extended : Bool) (width : Nat) (cs : List Char) :
    Option (Char × Bool × List Char) :=
  match space extended cs with
  | [] => none
  | '\x7b' :: r =>
    let (ds, rest) := takeSpaced extended (· != '\x7d') (space extended r)
    match rest with
    | _ :: after =>
      if !ds.isEmpty && ds.all isHexDigit && isScalar (hexValue ds) then
        some (Char.ofNat (hexValue ds), false, space extended after)
      else none
    | [] => none
  | r =>
    match fixedHex extended width r with
    | some (ds, rest) =>
      if isScalar (hexValue ds) then some (Char.ofNat (hexValue ds), true, rest) else none
    | none => none

/-- The one-letter general categories, in lower case. -/
def categoryLetters : List Char := ['c', 'l', 'm', 'n', 'p', 's', 'z']

/-- Reads a property class after its `p` or `P`: a letter naming a general category, or a
name in braces; the text after it. -/
def propertyEscape (extended : Bool) (cs : List Char) : Option (List Char) :=
  match space extended cs with
  | [] => none
  | '\x7b' :: r =>
    let (name, rest) := takeSpaced extended (· != '\x7d') (space extended r)
    match rest with
    | _ :: after => if name.isEmpty then none else some after
    | [] => none
  | c :: r => if categoryLetters.contains c.toLower then some (space extended r) else none

/-- Whether a character may stand in the name of a special word boundary. -/
def isBoundaryNameChar (c : Char) : Bool := c.isAlpha || c == '-'

/-- The names of the special word boundaries. -/
def boundaryNames : List String := ["start", "end", "start-half", "end-half"]

/-- Reads what may follow `\b`: a special word boundary's name in braces. A brace that
does not start such a name is left for a counted repetition; a name that does not close or
is no such name is refused. -/
def afterWordBoundary (extended : Bool) (cs : List Char) : Option (List Char) :=
  match cs with
  | '\x7b' :: r =>
    match space extended r with
    | [] => none
    | c :: more =>
      if isBoundaryNameChar c then
        match takeSpaced extended isBoundaryNameChar (c :: more) with
        | (name, '\x7d' :: after) =>
          if boundaryNames.contains (String.ofList name) then some after else none
        | _ => none
      else some cs
  | _ => some cs

/-- Reads an escape, given the text after its backslash: what it stands for and the text
after it. -/
def readEscape (extended : Bool) : List Char → Option (Atom × List Char)
  | [] => none
  | c :: r =>
    if c.isDigit then none
    else if c == 'x' || c == 'u' || c == 'U' then
      let width := if c == 'x' then 2 else if c == 'u' then 4 else 8
      (hexEscape extended width r).map fun (ch, fixed, rest) =>
        (.literal ch (c == 'x' && fixed), rest)
    else if c == 'p' || c == 'P' then (propertyEscape extended r).map fun rest => (.property, rest)
    else if "dswDSW".toList.contains c then some (.shorthand c.toLower c.isUpper, r)
    else if isEscapable c then some (.literal c false, r)
    else
      match controlEscape? c with
      | some x => some (.literal x false, r)
      | none =>
        if c == 'A' || c == 'z' then some (.assertion false, r)
        else if c == 'b' then (afterWordBoundary extended r).map fun rest => (.assertion true, rest)
        else if c == 'B' || c == '<' || c == '>' then some (.assertion true, r)
        else none

/-- Whether an escape may stand outside a class: outside Unicode mode it must not match
bytes beyond ASCII alone, nor be a Unicode property. -/
def atomAllowed (unicode : Bool) : Atom → Bool
  | .literal c byte => unicode || !byte || c.toNat < 128
  | .shorthand _ negated => unicode || !negated
  | .property => unicode
  | .assertion _ => true

/-- The names of the named classes `[:name:]`. -/
def namedClasses : List String :=
  ["alnum", "alpha", "ascii", "blank", "cntrl", "digit", "graph", "lower", "print", "punct",
    "space", "upper", "word", "xdigit"]

/-- Reads a named class `[:name:]` or `[:^name:]`, given the text after its `[`: whether it
is negated, and the text after it. -/
def namedClass? : List Char → Option (Bool × List Char)
  | ':' :: r =>
    let (negated, body) := match r with
      | '^' :: b => (true, b)
      | b => (false, b)
    let name := body.takeWhile (· != ':')
    match body.drop name.length with
    | ':' :: ']' :: after =>
      if namedClasses.contains (String.ofList name) then some (negated, after) else none
    | _ => none
  | _ => none

/-- Reads one class item: an escape, or any other character as itself. -/
def classAtom? (extended : Bool) : List Char → Option (Atom × List Char)
  | [] => none
  | '\\' :: r => readEscape extended r
  | c :: r => some (.literal c false, r)

/-- Whether an item may stand in a class: an assertion never may, and outside Unicode mode a
character must be within ASCII, a shorthand must not be negated, and a Unicode property
cannot stand. -/
def itemAllowed (unicode : Bool) : Atom → Bool
  | .literal c _ => unicode || c.toNat < 128
  | .shorthand _ negated => unicode || !negated
  | .property => unicode
  | .assertion _ => false

/-- Whether two class items may be the ends of a range: both characters, in order, and
outside Unicode mode within ASCII. -/
def rangeAllowed (unicode : Bool) : Atom → Atom → Bool
  | .literal c1 _, .literal c2 _ => c1.toNat ≤ c2.toNat && (unicode || c2.toNat < 128)
  | _, _ => false

/-- Outside Unicode mode both ends of a range are characters within ASCII, so the range is
within ASCII too. -/
theorem rangeAllowed_ascii {a b : Atom} (h : rangeAllowed false a b = true) :
    ∃ c1 x c2 y, a = .literal c1 x ∧ b = .literal c2 y ∧ c1.toNat < 128 ∧ c2.toNat < 128 := by
  cases a <;> cases b <;> simp only [rangeAllowed, Bool.false_or, Bool.and_eq_true,
    decide_eq_true_eq, reduceCtorEq] at h
  rename_i c1 x c2 y
  exact ⟨c1, x, c2, y, rfl, rfl, by omega, h.2⟩

/-- What a character after a `-` in a class is, as the class reads it to decide on a range:
in extended mode past blanks, and past a `#` and the blanks after it. -/
def peekSpace (extended : Bool) (cs : List Char) : Option Char :=
  if !extended then cs.head?
  else
    match cs.dropWhile Text.isBlank with
    | '#' :: r => (r.dropWhile Text.isBlank).head?
    | r => r.head?

/-- Reads the start of a bracket class after its `[`: whether it is negated, and the text
after the `-` and `]` that stand first as themselves. -/
def classOpen? (extended : Bool) (cs : List Char) : Option (Bool × List Char) :=
  match space extended cs with
  | [] => none
  | c :: r =>
    let (negated, body) := if c == '^' then (true, space extended r) else (false, c :: r)
    if body.isEmpty then none
    else
      let (dashes, rest) := takeSpaced extended (· == '-') body
      match rest with
      | [] => none
      | ']' :: more =>
        if dashes.isEmpty then
          match space extended more with
          | [] => none
          | after => some (negated, after)
        else some (negated, rest)
      | _ => some (negated, rest)

/-- Reads the items of a bracket class up to its `]`, given whether the class is negated:
the text after it; none when the class does not close or holds what cannot stand in it.
Outside Unicode mode every item stays within ASCII, so a negated class or named class would
hold every byte beyond ASCII and is refused; what the operators `&&`, `--` and `~~` make of
items within ASCII stays within it, so they are only read. `fuel` bounds the steps. -/
def classBody (flags : Flags) (negated : Bool) : Nat → List Char → Option (List Char)
  | 0, _ => none
  | fuel + 1, cs =>
    let ext := flags.extended
    match space ext cs with
    | [] => none
    | ']' :: r => if flags.unicode || !negated then some r else none
    | '[' :: r =>
      match namedClass? r with
      | some (namedNegated, after) =>
        if flags.unicode || !namedNegated then classBody flags negated fuel after else none
      | none =>
        match classOpen? ext r with
        | none => none
        | some (innerNegated, body) =>
          match classBody flags innerNegated fuel body with
          | some after => classBody flags negated fuel after
          | none => none
    | '&' :: '&' :: r | '-' :: '-' :: r | '~' :: '~' :: r => classBody flags negated fuel r
    | item =>
      match classAtom? ext item with
      | none => none
      | some (first, r) =>
        match space ext r with
        | [] => none
        | '-' :: r2 =>
          let next := peekSpace ext r2
          if next == some ']' || next == some '-' then
            if itemAllowed flags.unicode first then classBody flags negated fuel ('-' :: r2)
            else none
          else
            match space ext r2 with
            | [] => none
            | r3 =>
              match classAtom? ext r3 with
              | none => none
              | some (last, r4) =>
                if rangeAllowed flags.unicode first last then classBody flags negated fuel r4
                else none
        | r' => if itemAllowed flags.unicode first then classBody flags negated fuel r' else none

/-- The text after an optional `?` that makes a repetition lazy. -/
def afterLazy : List Char → List Char
  | '?' :: r => r
  | r => r

/-- Reads the digits of a count, the blanks around them skipped: the digits and the text
after them. -/
def readCount (extended : Bool) (cs : List Char) : List Char × List Char :=
  let (ds, rest) := takeSpaced extended Char.isDigit (cs.dropWhile Text.isBlank)
  (ds, rest.dropWhile Text.isBlank)

/-- The value of a count: one or more digits, below `2 ^ 32`. -/
def countValue? (ds : List Char) : Option Nat :=
  if ds.isEmpty then none
  else if decimalValue ds < Nat.pow 2 32 then some (decimalValue ds)
  else none

/-- Reads a counted repetition after its `{`: `n}`, `n,}` or `n,m}` with `n ≤ m`, then
perhaps `?`; the text after it. -/
def countedRest (extended : Bool) (cs : List Char) : Option (List Char) :=
  match space extended cs with
  | [] => none
  | body =>
    let (low, r1) := readCount extended body
    match r1 with
    | ',' :: r2 =>
      match space extended r2 with
      | [] => none
      | '\x7d' :: after => (countValue? low).map fun _ => afterLazy (space extended after)
      | r3 =>
        let (high, r4) := readCount extended r3
        match countValue? low, countValue? high, r4 with
        | some m, some n, '\x7d' :: after =>
          if m ≤ n then some (afterLazy (space extended after)) else none
        | _, _, _ => none
    | '\x7d' :: after => (countValue? low).map fun _ => afterLazy (space extended after)
    | _ => none

/-- Whether a character may start a group name. -/
def isNameStart (c : Char) : Bool := c == '_' || Text.isAlphabetic c

/-- Whether a character may stand in a group name after its first. -/
def isNameChar (c : Char) : Bool :=
  c == '_' || c == '.' || c == '[' || c == ']' || Text.isAlphanumeric c

/-- Whether a text is a group name. -/
def isGroupName : List Char → Bool
  | [] => false
  | c :: r => isNameStart c && r.all isNameChar

/-- Whether a list of flags is one: known flags, each once, at most one `-`, not last. -/
def flagsWellFormed (items : List Char) : Bool :=
  let letters := items.filter (· != '-')
  items.all (fun c => "imsUuxR-".toList.contains c) && items.count '-' ≤ 1 &&
    items.getLast? != some '-' && letters.eraseDups.length == letters.length

/-- The flags after a list of flags: a flag named before the `-` is turned on, after it off. -/
def Flags.update (f : Flags) (items : List Char) : Flags :=
  let before := items.takeWhile (· != '-')
  let after := items.drop before.length
  let state (flag : Char) (old : Bool) : Bool :=
    if before.contains flag then true else if after.contains flag then false else old
  ⟨state 'u' f.unicode, state 'x' f.extended⟩

/-- How a group opens. -/
inductive Opening where
  /-- A group, with its name if it has one and the flags inside it, then its body. -/
  | group (name : Option (List Char)) (flags : Flags) (rest : List Char)
  /-- Flags for the rest of the enclosing group, then what follows. -/
  | setFlags (flags : Flags) (rest : List Char)
deriving DecidableEq, Repr

/-- Reads how a group opens, given the flags in force and the text after its `(`. -/
def opening? (flags : Flags) (cs : List Char) : Option Opening :=
  match space flags.extended cs with
  | '?' :: '=' :: _ | '?' :: '!' :: _ | '?' :: '<' :: '=' :: _ | '?' :: '<' :: '!' :: _ => none
  | '?' :: 'P' :: '<' :: r | '?' :: '<' :: r =>
    let name := r.takeWhile (· != '>')
    match r.drop name.length with
    | _ :: after => if isGroupName name then some (.group (some name) flags after) else none
    | [] => none
  | '?' :: r =>
    let items := r.takeWhile fun c => c != ':' && c != ')'
    match r.drop items.length with
    | ':' :: after =>
      if flagsWellFormed items then some (.group none (flags.update items) after) else none
    | ')' :: after =>
      if flagsWellFormed items && !items.isEmpty then some (.setFlags (flags.update items) after)
      else none
    | _ => none
  | r => some (.group none flags r)

/-- Where the reading of a pattern stands. -/
structure Scan where
  /-- The flags in force. -/
  flags : Flags
  /-- The flags to restore as each open group closes, innermost first. -/
  saved : List Flags
  /-- The names of the named groups so far. -/
  names : List (List Char)
  /-- Whether what ends the current alternative can be repeated. -/
  operand : Bool
  /-- Whether a word boundary in Unicode mode was met. -/
  wordBoundary : Bool
deriving DecidableEq, Repr

/-- Reads the rest of a pattern: the state at its end, none when it does not parse or could
match bytes that are no text. `fuel` bounds the steps. -/
def scan : Nat → Scan → List Char → Option Scan
  | 0, _, _ => none
  | fuel + 1, st, cs =>
    match space st.flags.extended cs with
    | [] => if st.saved.isEmpty then some st else none
    | c :: r =>
      if c == '(' then
        let opened : Scan := { st with saved := st.flags :: st.saved, operand := false }
        match opening? st.flags r with
        | some (.group (some n) f rest) =>
          if st.names.contains n then none
          else scan fuel { opened with flags := f, names := n :: st.names } rest
        | some (.group none f rest) => scan fuel { opened with flags := f } rest
        | some (.setFlags f rest) => scan fuel { st with flags := f, operand := false } rest
        | none => none
      else if c == ')' then
        match st.saved with
        | [] => none
        | f :: fs => scan fuel { st with flags := f, saved := fs, operand := true } r
      else if c == '|' then scan fuel { st with operand := false } r
      else if c == '[' then
        match classOpen? st.flags.extended r with
        | none => none
        | some (negated, body) =>
          match classBody st.flags negated (body.length + 1) body with
          | some after => scan fuel { st with operand := true } after
          | none => none
      else if c == '?' || c == '*' || c == '+' then
        if st.operand then scan fuel st (afterLazy r) else none
      else if c == '\x7b' then
        if st.operand then
          match countedRest st.flags.extended r with
          | some after => scan fuel st after
          | none => none
        else none
      else if c == '\\' then
        match readEscape st.flags.extended r with
        | some (a, after) =>
          if atomAllowed st.flags.unicode a then
            let word := st.flags.unicode && a == .assertion true
            scan fuel { st with operand := true, wordBoundary := st.wordBoundary || word } after
          else none
        | none => none
      else if c == '.' && !st.flags.unicode then none
      else scan fuel { st with operand := true } r

/-- The state a pattern is read from: Unicode mode, nothing open, nothing read. -/
def Scan.initial : Scan := ⟨⟨true, false⟩, [], [], false, false⟩

/-- Why a text cannot be used as a pattern; none when it can. -/
def problem? (cs : List Char) : Option Problem :=
  match scan (cs.length + 1) Scan.initial cs with
  | none => some .unreadable
  | some st => if st.wordBoundary then some .unicodeWordBoundary else none

/-- Why a field filter's value cannot be used; none for a literal or a pattern that can. -/
def valueProblem? (cs : List Char) : Option Problem :=
  if isLiteral cs then none else problem? cs

example : problem? "a(b|c)*d".toList = none := by decide
example : problem? "(".toList = some .unreadable := by decide
example : problem? "a\\Bb".toList = some .unicodeWordBoundary := by decide

end Pattern
end Log
end ColumnExpr
