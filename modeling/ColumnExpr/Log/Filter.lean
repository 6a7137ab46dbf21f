/-
# Which log events are written

An event has a level, a target (the module it comes from, as a path such as
`colexpr::parser`) and named fields. A filter is a list of directives, written as one
text with the directives separated by commas. A directive is, without its leading and
trailing blanks,

* a level alone (`trace`, `debug`, `info`, `warn`, `error`, `off`, any case, or a number
  from `0` for off to `5` for trace, in ASCII digits with an optional `+`), which applies
  to every event; or
* a target (any text up to a `[` or `=`, starting with a letter, a digit, `-`, `:` or `_`),
  perhaps a span selector in square brackets, then optionally `=` and a level (trace when
  the level is missing or empty). A span selector may stand first, without a target.

A span selector is a span name, then optionally field filters in braces, separated by
commas; a field filter is a field name, then optionally `=` and a value (`Log.Pattern`).
The selector closes at the first `]` after its name, or right after the closing brace of
its field filters; only `=` and a level may follow it.

A directive is refused, with a notice when it comes from the environment, when it is out of
shape, when a field filter is empty or its value cannot be used, or when its level is no
level. The directive is read with its blanks trimmed, but the parts it cuts out are taken
at the same positions in the untrimmed text (`Log.Directive.read`): a directive with
leading blanks and a level after `=` has part of its target as its level.

A directive with a span name or with a field filter that compares a value only applies
inside such spans, and no event here is inside a span, so it never lets an event through.
The others apply to every event whose target starts with the directive's target and that
has every field the directive names.

Of the directives that apply to an event, the most specific decides (`Directive.compare`:
a longer target first, then more field names); a later directive replaces an earlier one
as specific as it. The event is written when its level is within the deciding directive's
level, and not at all when no directive applies.

Key definitions: `Log.Level`, `Log.Site`, `Log.Directive`, `Log.Directive.parse`,
`Log.DirectiveError`, `Log.Filter`, `Log.Filter.enables`, `Log.Filter.select`.
-/
import ColumnExpr.Text.Blank
import ColumnExpr.Text.Alphanumeric
import ColumnExpr.Log.Pattern
namespace ColumnExpr
namespace Log

/-- How much an event matters, from the most to the least. -/
inductive Level where
  | error
  | warn
  | info
  | debug
  | trace
deriving DecidableEq, Repr

/-- The rank of a level, from `1` for errors to `5` for traces. -/
def Level.rank : Level → Nat
  | .error => 1
  | .warn => 2
  | .info => 3
  | .debug => 4
  | .trace => 5

/-- The name of a level in a log line, five characters wide. -/
def Level.label : Level → String
  | .error => "ERROR"
  | .warn => " WARN"
  | .info => " INFO"
  | .debug => "DEBUG"
  | .trace => "TRACE"

/-- What a filter sees of an event: its level, its target and the names of its fields. -/
structure Site where
  level : Level
  target : String
  fields : List String
deriving DecidableEq, Repr

/-- A level word as a filter's level: `0` for off, up to `5` for trace. -/
def levelWord? (s : String) : Option Nat :=
  let w := s.toLower
  if w = "off" then some 0
  else if w = "error" then some 1
  else if w = "warn" then some 2
  else if w = "info" then some 3
  else if w = "debug" then some 4
  else if w = "trace" then some 5
  else none

/-- The value of a text of ASCII digits. -/
def digitsValue (ds : List Char) : Nat :=
  ds.foldl (fun n d => 10 * n + (d.toNat - 48)) 0

/-- A text read as a filter's level: a number from `0` to `5` (a plus sign allowed), the
empty text for errors, or a level word. -/
def levelFilter? (cs : List Char) : Option Nat :=
  let ds := match cs with
    | '+' :: ds => ds
    | ds => ds
  if !ds.isEmpty && ds.all Char.isDigit && digitsValue ds ≤ 5 then some (digitsValue ds)
  else if cs.isEmpty then some 1
  else levelWord? (String.ofList cs)

/-- Why a directive is refused. -/
inductive DirectiveError where
  /-- It is out of shape. -/
  | malformed
  /-- Its level is no level. -/
  | badLevel
  /-- A field filter's value is a pattern that cannot be used, and why. -/
  | badPattern (p : Pattern.Problem)
deriving DecidableEq, Repr

/-- What a notice says about a refused directive. -/
def DirectiveError.message : DirectiveError → String
  | .malformed => "invalid filter directive"
  | .badLevel =>
    "error parsing level filter: expected one of \"off\", \"error\", \"warn\", \"info\", " ++
      "\"debug\", \"trace\", or a number 0-5"
  | .badPattern p => "invalid field filter: " ++ p.message

/-- A field filter: the name of the field, and the value it compares when it has an `=`
(up to a second `=`, if any). -/
structure FieldFilter where
  name : List Char
  value : Option (List Char)
deriving DecidableEq, Repr

/-- Reads a field filter's text. -/
def FieldFilter.read (cs : List Char) : FieldFilter :=
  let name := cs.takeWhile (· != '=')
  match cs.drop name.length with
  | _ :: rest => ⟨name, some (rest.takeWhile (· != '='))⟩
  | [] => ⟨name, none⟩

/-- Reads a field filter, refusing an empty one and one whose value cannot be used. -/
def FieldFilter.parse (cs : List Char) : Except DirectiveError FieldFilter :=
  if cs.isEmpty then .error .malformed
  else
    let f := FieldFilter.read cs
    match f.value.bind Pattern.valueProblem? with
    | some p => .error (.badPattern p)
    | none => .ok f

/-- A level after `=`: trace when it is empty. -/
def levelAfterEquals (cs : List Char) : Except DirectiveError Nat :=
  if cs.isEmpty then .ok 5
  else
    match levelFilter? cs with
    | some v => .ok v
    | none => .error .badLevel

/-- What a directive says: a target, a span name (when it has a span selector without
braces, or a name before them), the field filters, and the level. -/
structure Reading where
  target : Option (List Char)
  span : Option (List Char)
  fields : List FieldFilter
  verbosity : Nat
deriving DecidableEq, Repr

/-- A text that is a level or a target on its own: a level applies to every event, any
other text is a target with every level. -/
def Reading.levelOrTarget (r : Reading) (cs : List Char) : Reading :=
  if cs.isEmpty then { r with target := none, verbosity := 5 }
  else
    match levelFilter? cs with
    | some v => { r with target := none, verbosity := v }
    | none => { r with target := some cs, verbosity := 5 }

/-- Where the reading of a directive stands. A stage that collects text remembers where
that text starts. -/
inductive Stage where
  /-- Before the first character. -/
  | start
  /-- In a target, or a level on its own. -/
  | targetOrLevel (start : Nat)
  /-- In a span selector's name. -/
  | span (start : Nat)
  /-- In a field filter. -/
  | field (start : Nat)
  /-- After the closing brace of the field filters. -/
  | fields
  /-- After the span selector. -/
  | afterSpan
  /-- In the level after `=`. -/
  | level (start : Nat)
  /-- After a comma that ends the directive. -/
  | complete
deriving DecidableEq, Repr

/-- Whether a character may start a target: a letter or a digit, `-`, `:` or `_`. -/
def isTargetStart (c : Char) : Bool := c == '-' || c == ':' || c == '_' || Text.isAlphanumeric c

/-- The characters of a text from position `a` up to position `b`. -/
def slice (text : List Char) (a b : Nat) : List Char := (text.drop a).take (b - a)

/-- The stage after character `c` at position `i`, and what has been read, given the
directive's text. -/
def Stage.next (text : List Char) (r : Reading) (i : Nat) (c : Char) :
    Stage → Except DirectiveError (Stage × Reading)
  | .start =>
    if c == '[' then .ok (.span (i + 1), r)
    else if isTargetStart c then .ok (.targetOrLevel i, r)
    else .error .malformed
  | .targetOrLevel a =>
    if c == '=' then .ok (.level (i + 1), { r with target := some (slice text a i) })
    else if c == '[' then .ok (.span (i + 1), { r with target := some (slice text a i) })
    else if c == ',' then .ok (.complete, r.levelOrTarget (text.drop a))
    else .ok (.targetOrLevel a, r)
  | .span a =>
    if c == ']' then .ok (.afterSpan, { r with span := some (slice text a i) })
    else if c == '\x7b' then
      let name := slice text a i
      .ok (.field (i + 1), { r with span := if name.isEmpty then none else some name })
    else .ok (.span a, r)
  | .field a =>
    if c == '\x7d' || c == ',' then
      match FieldFilter.parse (slice text a i) with
      | .ok f =>
        let stage := if c == ',' then Stage.field (i + 1) else Stage.fields
        .ok (stage, { r with fields := r.fields ++ [f] })
      | .error e => .error e
    else .ok (.field a, r)
  | .fields => if c == ']' then .ok (.afterSpan, r) else .error .malformed
  | .afterSpan => if c == '=' then .ok (.level (i + 1), r) else .error .malformed
  | .level a =>
    if c == ',' then
      match levelAfterEquals (slice text a i) with
      | .ok v => .ok (.complete, { r with verbosity := v })
      | .error e => .error e
    else .ok (.level a, r)
  | .complete => .error .malformed

/-- What has been read once the characters run out at a stage. -/
def Stage.finish (text : List Char) (r : Reading) : Stage → Except DirectiveError Reading
  | .targetOrLevel a => .ok (r.levelOrTarget (text.drop a))
  | .level a => (levelAfterEquals (text.drop a)).map fun v => { r with verbosity := v }
  | .afterSpan => .ok r
  | .complete => .ok r
  | _ => .error .malformed

/-- Reads the characters `cs`, the first of them at position `i`, from a stage. -/
def Stage.run (text : List Char) : Stage → Reading → Nat → List Char →
    Except DirectiveError Reading
  | st, r, _, [] => st.finish text r
  | st, r, i, c :: cs =>
    match st.next text r i c with
    | .ok (st', r') => Stage.run text st' r' (i + 1) cs
    | .error e => .error e

/-- Reads a directive. The stages walk the text without its leading and trailing blanks,
but the positions they note are taken in the whole text: with leading blanks, a target or
a level is cut out of the text that many characters too early. -/
def Directive.read (s : String) : Except DirectiveError Reading :=
  Stage.run s.toList .start ⟨none, none, [], 5⟩ 0 (Text.trimChars s.toList)

/-- A directive that applies to events directly: an optional target prefix, the field
names an event must have, and the filter's level for them. -/
structure Directive where
  target : Option String
  fieldNames : List String
  verbosity : Nat
deriving DecidableEq, Repr

/-- A directive as read. -/
inductive Parsed where
  /-- Not a directive, and why. -/
  | invalid (e : DirectiveError)
  /-- A directive that applies to events by their target and fields. -/
  | direct (d : Directive)
  /-- A directive about spans or field values, which applies to no event here. -/
  | scoped
deriving DecidableEq, Repr

/-- Reads one directive and sorts it: a span name or a field value makes it apply only
inside spans. -/
def Directive.parse (s : String) : Parsed :=
  match Directive.read s with
  | .error e => .invalid e
  | .ok r =>
    if r.span.isSome || r.fields.any (·.value.isSome) then .scoped
    else .direct ⟨r.target.map String.ofList, r.fields.map (String.ofList ·.name), r.verbosity⟩

example : Directive.parse "colexpr::lexer=+5" = .direct ⟨some "colexpr::lexer", [], 5⟩ := by
  decide +kernel
example : Directive.parse "[\x7bkind=(\x7d]" = .invalid (.badPattern .unreadable) := by
  decide +kernel
example : Directive.parse "colexpr[]=trace" = .scoped := by decide +kernel

/-- Compares texts in dictionary order. -/
def compareText (a b : String) : Ordering :=
  if a < b then .lt else if a = b then .eq else .gt

/-- Compares lists of texts in dictionary order. -/
def compareTexts : List String → List String → Ordering
  | [], [] => .eq
  | [], _ :: _ => .lt
  | _ :: _, [] => .gt
  | a :: as, b :: bs => (compareText a b).then (compareTexts as bs)

/-- Compares optional values, none first. -/
def compareOption {α : Type} (cmp : α → α → Ordering) : Option α → Option α → Ordering
  | none, none => .eq
  | none, some _ => .lt
  | some _, none => .gt
  | some a, some b => cmp a b

/-- Compares directives by how specific they are: no target, then shorter targets (in
bytes), then fewer field names, then the texts themselves. -/
def Directive.compare (a b : Directive) : Ordering :=
  (compareOption (fun x y => Ord.compare x y) (a.target.map String.utf8ByteSize)
      (b.target.map String.utf8ByteSize)).then
    ((Ord.compare a.fieldNames.length b.fieldNames.length).then
      ((compareOption compareText a.target b.target).then (compareTexts a.fieldNames b.fieldNames)))

/-- Whether a directive applies to an event. -/
def Directive.appliesTo (d : Directive) (e : Site) : Bool :=
  (match d.target with
    | some t => e.target.startsWith t
    | none => true) &&
  d.fieldNames.all e.fields.contains

/-- A filter: its directives in the order given. -/
structure Filter where
  directives : List Directive
deriving DecidableEq, Repr

/-- The directive that decides about an event: the most specific of those that apply, the
last given among equally specific ones. -/
def Filter.deciding (f : Filter) (e : Site) : Option Directive :=
  f.directives.foldl (fun best d =>
    if d.appliesTo e then
      match best with
      | some b => if d.compare b == .lt then some b else some d
      | none => some d
    else best) none

/-- Whether a filter lets an event through. -/
def Filter.enables (f : Filter) (e : Site) : Bool :=
  match f.deciding e with
  | some d => e.level.rank ≤ d.verbosity
  | none => false

/-- The directives of a text, the empty ones dropped. -/
def directiveTexts (s : String) : List String := (s.splitOn ",").filter (!·.isEmpty)

/-- Reads a filter, failing on any invalid directive. -/
def Filter.parseStrict (s : String) : Option Filter :=
  (directiveTexts s).foldr (fun t acc =>
    match Directive.parse t, acc with
    | .direct d, some f => some ⟨d :: f.directives⟩
    | .scoped, some f => some f
    | _, _ => none) (some ⟨[]⟩)

/-- Reads a filter, skipping invalid directives: the skipped texts with why each was
refused, and the filter. With no directive at all, errors are let through. -/
def Filter.parseLenient (s : String) : List (String × DirectiveError) × Filter :=
  let parsed := (directiveTexts s).map fun t => (t, Directive.parse t)
  let skipped := parsed.filterMap fun (t, p) => match p with
    | .invalid e => some (t, e)
    | _ => none
  let direct := parsed.filterMap fun (_, p) => match p with
    | .direct d => some d
    | _ => none
  let anyScoped := parsed.any fun (_, p) => p == .scoped
  let directives := if direct.isEmpty && !anyScoped then [⟨none, [], 1⟩] else direct
  (skipped, ⟨directives⟩)

/-- The notice for a skipped directive. -/
def skippedNotice (t : String) (e : DirectiveError) : String :=
  "ignoring " ++ "\x60" ++ t ++ "\x60" ++ ": " ++ e.message ++ "\n"

/-- The filter in force: the environment's filter text when there is one, read leniently
with a notice for each skipped directive; else the command line's, read strictly and
replaced by `warn` when invalid. -/
def Filter.select (envFilter : Option String) (commandLine : String) : List String × Filter :=
  match envFilter with
  | some s =>
    let (skipped, f) := Filter.parseLenient s
    (skipped.map fun (t, e) => skippedNotice t e, f)
  | none => ([], (Filter.parseStrict commandLine).getD ⟨[⟨none, [], 2⟩]⟩)

end Log
end ColumnExpr
