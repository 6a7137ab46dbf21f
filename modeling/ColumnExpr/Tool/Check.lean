/-
# The tool's commands: check and tokens

`check` runs a program end to end. A program whose text is only blanks is refused. The
permitted columns are trimmed, and empty ones dropped; a syntax check stops after
parsing, otherwise the values are written as a JSON array, compact or pretty. `tokens`
writes a program's tokens as a pretty JSON array of objects with the kind's label and the
token's text.

Every failure of the tool is a `ToolError`: a lexing, parsing or evaluation error wrapped
with a prefix, unreadable input, no input, or an unknown function page. An error that
wraps another names it as its cause.

Key definitions: `ToolError`, `Tool.columnSet`, `Tool.checkTraced`, `Tool.tokensTraced`,
`Tool.docs`.
-/
import ColumnExpr.Syntax.Lexer
import ColumnExpr.Syntax.Parser
import ColumnExpr.Eval
import ColumnExpr.Tool.Docs
namespace ColumnExpr

/-- Why a command of the tool failed. -/
inductive ToolError where
  | lex (e : LexError)
  | parse (e : ParseError)
  | eval (e : EvalError)
  /-- Input that could not be read, with the reason. -/
  | io (reason : String)
  | noInput
  | unknownFunction (name : String)
deriving DecidableEq

namespace ToolError

/-- The message of a tool error. -/
def message : ToolError → String
  | lex e => "Lex error: " ++ e.message
  | parse e => "Parse error: " ++ e.message
  | eval e => "Evaluation error: " ++ e.message
  | io r => "IO error: " ++ r
  | noInput => "No expression provided. Pass it as an argument or pipe it to stdin."
  | unknownFunction n =>
    "Unknown function: '" ++ n ++ "'\nRun 'colexpr docs' to see available functions."

/-- The message of the error a tool error wraps, if it wraps one. -/
def cause? : ToolError → Option String
  | lex e => some e.message
  | parse e => some e.message
  | eval e => some e.message
  | io r => some r
  | noInput => none
  | unknownFunction _ => none

/-- The reason standard input may fail to be read. -/
def invalidText : ToolError := io "stream did not contain valid UTF-8"

end ToolError

/-- What the tool is asked to check. -/
structure CheckOptions where
  expression : String
  columns : List String
  pretty : Bool := false
  syntaxOnly : Bool := false

/-- What a check gives. -/
inductive CheckResult where
  | syntaxValid
  | values (vs : List Value)

namespace Tool

/-- The permitted columns: trimmed, without empty ones, each once, in first order. -/
def columnSet (cs : List String) : List String :=
  ((cs.map Text.trim).filter (!·.isEmpty)).foldl
    (fun acc c => if acc.contains c then acc else acc ++ [c]) []

/-- Checks a program, with the events of the run. -/
def checkTraced (o : CheckOptions) : List Event × Except ToolError CheckResult :=
  if (Text.trim o.expression).isEmpty then ([], .error .noInput)
  else
    let cols := columnSet o.columns
    let start := Event.check cols.length o.syntaxOnly
    match Lexer.run (Lexer.Cursor.start o.expression) with
    | (ts, some e) => (start :: ts.map .lexed, .error (.lex e))
    | (ts, none) =>
      let lexed := start :: ts.map .lexed
      match Parser.parseTraced ts cols with
      | (pe, .error e) => (lexed ++ pe, .error (.parse e))
      | (pe, .ok prog) =>
        if o.syntaxOnly then (lexed ++ pe, .ok .syntaxValid)
        else
          match Eval.evalProgramTraced prog with
          | (ee, .error e) => (lexed ++ pe ++ ee, .error (.eval e))
          | (ee, .ok vs) => (lexed ++ pe ++ ee, .ok (.values vs))

/-- Checks a program. -/
def check (o : CheckOptions) : Except ToolError CheckResult := (checkTraced o).2

/-- The values of a check as a JSON array. -/
def valuesJson (vs : List Value) : Json := .arr (vs.map Value.toJson)

/-- The text a check prints. -/
def checkText (pretty : Bool) : CheckResult → String
  | .syntaxValid => "Syntax is valid"
  | .values vs => if pretty then (valuesJson vs).pretty else (valuesJson vs).compact

/-- Tokens as a JSON array of objects with their kind's label and their text. -/
def tokensJson (ts : List Token) : Json :=
  .arr (ts.map fun t => .obj [("kind", .str t.kind.label), ("value", .str t.value)])

/-- Lexes a program into its JSON token list, with the events of the run. -/
def tokensTraced (source : String) : List Event × Except ToolError Json :=
  match Lexer.run (Lexer.Cursor.start source) with
  | (ts, some e) => (ts.map .lexed, .error (.lex e))
  | (ts, none) => (ts.map .lexed, .ok (tokensJson ts))

/-- The overview, or the page of the function a name (blanks aside) refers to. -/
def docs : Option String → Except ToolError String
  | none => .ok Docs.overview
  | some n =>
    match Builtin.lookup (Text.trim n) with
    | some f => .ok (Docs.page f)
    | none => .error (.unknownFunction n)

end Tool
end ColumnExpr
