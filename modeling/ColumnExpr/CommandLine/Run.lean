/-
# A run of the tool

A run reads its command line and environment, then does what it is asked, reading the
program from its input when the command line has none (and failing for want of a program
when the input is a terminal). It ends with a status and the
texts written on the standard output and the error output:

* help and the version go to the standard output with status 0; help because nothing was
  given goes to the error output with status 2, and so do command line errors; these texts
  are styled, and where styles are not shown (`CommandLine.stylesShown`: by default, on
  an output that is no terminal) they are written as a terminal would print them
  (`Text.stripEscapes`): without their styles, and without the escape sequences and
  controls the words and variables they quote may hold, which may run into the styles' own
  sequences;
* a command that succeeds writes its result with status 0, one that fails writes its
  error and a newline on the error output with status 1;
* the log lines of the events the filter lets through come first on the error output, after
  a notice for each directive of the environment's filter that is skipped; they are styled
  unless `NO_COLOR` is set.

Key definitions: `CommandLine.Outcome`, `CommandLine.perform`, `CommandLine.readsInput`,
`CommandLine.stylesShown`, `CommandLine.run`, `CommandLine.runWith`.
-/
import ColumnExpr.CommandLine.Parse
import ColumnExpr.Log.Line
import ColumnExpr.Tool.Check
import ColumnExpr.Text.Escapes
namespace ColumnExpr
namespace CommandLine

/-- How a run ends: its status and the texts of its two outputs. -/
structure Outcome where
  status : Nat
  stdout : String
  stderr : String
deriving DecidableEq, Repr

/-- The program: the one given, else the input as text. The input is missing when it is a
terminal, which is not read. -/
def programText (expression : Option String) (input : Option ByteArray) :
    Except ToolError String :=
  match expression, input with
  | some e, _ => .ok e
  | none, none => .error .noInput
  | none, some bytes =>
    match String.fromUTF8? bytes with
    | some s => .ok s
    | none => .error ToolError.invalidText

/-- Does a command: the events reported and the text printed, or the error. -/
def perform (input : Option ByteArray) : Command → List Event × Except ToolError String
  | .check expression columns pretty syntaxOnly =>
    match programText expression input with
    | .error e => ([], .error e)
    | .ok text =>
      let (events, result) := Tool.checkTraced ⟨text, columns, pretty, syntaxOnly⟩
      (events, result.map fun r => Tool.checkText pretty r ++ "\n")
  | .tokens expression =>
    match programText expression input with
    | .error e => ([], .error e)
    | .ok text =>
      let (events, result) := Tool.tokensTraced text
      (events, result.map fun j => j.pretty ++ "\n")
  | .docs function => ([], Tool.docs function)

/-- Whether a run with this command line reads its input: a check or a token listing without
a program on the command line. -/
def readsInput (args : List String) (env : Env) : Bool :=
  match read args env with
  | .ok ⟨_, .check none ..⟩ | .ok ⟨_, .tokens none⟩ => true
  | _ => false

/-- Whether an environment variable is set and not empty. -/
def Env.nonEmpty (env : Env) (k : String) : Bool := !((env.get? k).getD "").isEmpty

/-- Whether the command line's texts are written to an output with their styles: never
when `NO_COLOR` is set and not empty; always when `CLICOLOR_FORCE` is; never when
`CLICOLOR` is `0`; otherwise when the output is a terminal and `TERM` names one other than
`dumb`, or `CLICOLOR` or `CI` is set. -/
def stylesShown (env : Env) (terminal : Bool) : Bool :=
  if env.nonEmpty "NO_COLOR" then false
  else if env.nonEmpty "CLICOLOR_FORCE" then true
  else if env.get? "CLICOLOR" == some "0" then false
  else
    let termShowsColor := match env.get? "TERM" with
      | some t => t != "dumb"
      | none => false
    terminal && (termShowsColor || (env.get? "CLICOLOR").isSome || (env.get? "CI").isSome)

/-- Whether log lines are styled: unless `NO_COLOR` is set and not empty. -/
def logStyled (env : Env) : Bool := !env.nonEmpty "NO_COLOR"

/-- A command line text as written: with its styles when they are shown, else as a terminal
would print it with its styles, which drops them and the escapes and controls in it. -/
def written (shown : Bool) (t : Text.Styled) : String :=
  if shown then t.render true else Text.stripEscapes (t.render true)

/-- Whether the standard output and the error output are terminals. -/
structure Terminals where
  stdout : Bool
  stderr : Bool
deriving DecidableEq, Repr

/-- A run with a command line, an environment and an input, writing to outputs that may be
terminals; `stamp` stands for the time at the start of each log line. -/
def run (stamp : String) (terminals : Terminals) (args : List String) (env : Env)
    (input : Option ByteArray) : Outcome :=
  let toStdout := written (stylesShown env terminals.stdout)
  let toStderr := written (stylesShown env terminals.stderr)
  match read args env with
  | .error (.help text) => ⟨0, toStdout text, ""⟩
  | .error (.version text) => ⟨0, toStdout (Text.Styled.plain text), ""⟩
  | .error (.helpOnEmpty text) => ⟨2, "", toStderr text⟩
  | .error (.error e) => ⟨2, "", toStderr e.message⟩
  | .ok inv =>
    let (notices, filter) := Log.Filter.select (env.get? "RUST_LOG") inv.logLevel
    let (events, result) := perform input inv.command
    let log := String.join notices ++ Log.lines filter (logStyled env) stamp events
    match result with
    | .ok out => ⟨0, out, log⟩
    | .error e => ⟨1, "", log ++ e.message ++ "\n"⟩

/-- A run whose outputs are not terminals, as when they are captured. -/
def runWith (stamp : String) (args : List String) (env : Env) (input : Option ByteArray) :
    Outcome :=
  run stamp ⟨false, false⟩ args env input

end CommandLine
end ColumnExpr
