/-
# Log lines of events

Each event has a level, a target (the part of the tool that reports it), a message and
named fields. Its log line is a timestamp, the level five characters wide, the target and a
colon, the message, and `name=value` for each field, all separated by single spaces. Values
are written as they print, control characters included, except the kind of an evaluated
expression, which is quoted. Unless colors are turned off, the line is styled: the time and
the target dimmed, the level in its color, field names in italics (`Log.styledLine`).

Key definitions: `Log.site`, `Log.styledLine`, `Log.line`, `Log.lines`.
-/
import ColumnExpr.Event
import ColumnExpr.Log.Filter
import ColumnExpr.Text.Styled
namespace ColumnExpr
namespace Log

/-- A text in double quotes, with quotes and backslashes escaped. -/
def quoted (s : String) : String :=
  "\"" ++ String.ofList (s.toList.flatMap fun c =>
    if c == '"' || c == '\\' then ['\\', c] else [c]) ++ "\""

/-- The level of an event. -/
def level : Event → Level
  | .check .. | .parsedProgram _ | .evaluating _ => .debug
  | .lexed _ | .walk .. | .parsedCall .. | .eval _ => .trace

/-- The part of the tool that reports an event. -/
def target : Event → String
  | .check .. => "colexpr::cli::check"
  | .lexed _ => "colexpr::lexer"
  | .walk .. | .parsedCall .. | .parsedProgram _ => "colexpr::parser"
  | .evaluating _ | .eval _ => "colexpr::evaluator"

/-- The message of an event. -/
def message : Event → String
  | .check .. => "check"
  | .lexed _ => "lexed token"
  | .walk .. => "walk"
  | .parsedCall .. => "parsed call expression"
  | .parsedProgram _ => "parsed program"
  | .evaluating _ => "evaluating program"
  | .eval _ => "eval"

/-- The named fields of an event, with their printed values. -/
def fields : Event → List (String × String)
  | .check columns syntaxOnly =>
    [("columns", toString columns), ("syntax_only", toString syntaxOnly)]
  | .lexed t => [("kind", t.kind.describe), ("value", t.value)]
  | .walk position t => [("position", toString position), ("token", t.display)]
  | .parsedCall name params => [("name", name), ("params", toString params)]
  | .parsedProgram n | .evaluating n => [("statements", toString n)]
  | .eval kind => [("kind", quoted kind)]

/-- What a filter sees of an event; the message is a field too. -/
def site (e : Event) : Site :=
  ⟨level e, target e, "message" :: (fields e).map (·.1)⟩

/-- The color a level is shown in: traces purple, debugging blue, information green,
warnings yellow, errors red. -/
def Level.style : Level → Text.Style
  | .trace => .color 35
  | .debug => .color 34
  | .info => .color 32
  | .warn => .color 33
  | .error => .color 31

/-- The log line of an event as styled text, with its newline: the time and the target
with its colon dimmed, the level in its color, each field's name in italics and its `=`
dimmed. -/
def styledLine (timestamp : String) (e : Event) : Text.Styled :=
  Text.Styled.inStyle .dimmed timestamp ++ Text.Styled.plain " " ++
    Text.Styled.inStyle (level e).style (level e).label ++ Text.Styled.plain " " ++
    Text.Styled.inStyle .dimmed (target e) ++ Text.Styled.inStyle .dimmed ":" ++
    Text.Styled.plain (" " ++ message e) ++
    ((fields e).map fun (k, v) =>
      Text.Styled.plain " " ++ Text.Styled.inStyle .italic k ++
        Text.Styled.inStyle .dimmed "=" ++ Text.Styled.plain v).flatten ++
    Text.Styled.plain "\n"

/-- The log line of an event, with its newline; with its styles when `colored`. -/
def line (colored : Bool) (timestamp : String) (e : Event) : String :=
  (styledLine timestamp e).render colored

/-- The log lines of the events a filter lets through, in order; with their styles when
`colored`. -/
def lines (f : Filter) (colored : Bool) (timestamp : String) (events : List Event) : String :=
  String.join ((events.filter fun e => f.enables (site e)).map (line colored timestamp))

end Log
end ColumnExpr
