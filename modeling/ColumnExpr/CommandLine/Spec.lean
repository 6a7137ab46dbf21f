/-
# The command line's grammar

The tool's command line is described as data: a top command with its options and its
subcommands, each subcommand with its options and positional arguments. An option has a
long name, perhaps a short one, and either takes a value (perhaps repeatedly, perhaps split
at a delimiter) or is a switch; the help and version switches print and stop. An option
may fall back to an environment variable, then to a default. Options marked global are
known to every subcommand too.

Key definitions: `CommandLine.OptionSpec`, `CommandLine.PositionalSpec`,
`CommandLine.CommandSpec`, `CommandLine.tool`, `CommandLine.toolVersion`.
-/
namespace ColumnExpr
namespace CommandLine

/-- What an option does. -/
inductive OptionKind where
  /-- Takes a value, written after it or attached; `repeatable` options gather values. -/
  | value (valueName : String) (repeatable : Bool) (delimiter : Option Char)
  /-- A switch, on when given, given at most once. -/
  | switch
  /-- Prints the help and stops. -/
  | help
  /-- Prints the version and stops. -/
  | version
deriving DecidableEq, Repr

/-- An option of a command. -/
structure OptionSpec where
  id : String
  long : String
  short : Option Char := none
  kind : OptionKind
  help : String
  env : Option String := none
  default : Option String := none
  global : Bool := false
deriving DecidableEq, Repr

/-- A positional argument of a command. -/
structure PositionalSpec where
  id : String
  valueName : String
  help : String
  /-- Takes every remaining word. -/
  many : Bool := false
deriving DecidableEq, Repr

/-- A command: its name, the words that call it, its description and its arguments in the
order they are known. Subcommands are listed by name and description. The arguments the
command declares itself (not the help switch, nor options it shares with every command)
form its group, which usage lines may name as a whole. -/
structure CommandSpec where
  name : String
  path : String
  about : String
  positionals : List PositionalSpec := []
  options : List OptionSpec := []
  subcommands : List (String × String) := []
  group : List String := []
deriving DecidableEq, Repr

namespace OptionSpec

/-- Whether an option takes a value. -/
def takesValue (o : OptionSpec) : Bool :=
  match o.kind with
  | .value .. => true
  | _ => false

/-- Whether an option is the help switch. -/
def isHelp (o : OptionSpec) : Bool :=
  match o.kind with
  | .help => true
  | _ => false

/-- How an option is named in messages: its long form, and its value's name. -/
def display (o : OptionSpec) : String :=
  match o.kind with
  | .value v _ _ => "--" ++ o.long ++ " <" ++ v ++ ">"
  | _ => "--" ++ o.long

end OptionSpec

/-- The program's name. -/
def toolName : String := "colexpr"

/-- The program's version. -/
def toolVersion : String := "0.1.0"

/-- The log filter option, known to every subcommand. -/
def logLevelOption : OptionSpec :=
  { id := "log_level", long := "log-level", kind := .value "LOG_LEVEL" false none,
    help := "Log filter used when RUST_LOG is not set (e.g. \"debug\", \"colexpr=trace\")",
    env := some "COLEXPR_LOG", default := some "warn", global := true }

/-- The help switch. -/
def helpOption : OptionSpec :=
  { id := "help", long := "help", short := some 'h', kind := .help, help := "Print help" }

/-- The version switch. -/
def versionOption : OptionSpec :=
  { id := "version", long := "version", short := some 'V', kind := .version,
    help := "Print version" }

/-- `check`: validate and evaluate a program. -/
def checkCommand : CommandSpec :=
  { name := "check", path := "colexpr check",
    about := "Validate and evaluate an expression program",
    positionals := [
      { id := "expression", valueName := "EXPRESSION",
        help := "The program to evaluate (reads from stdin if not provided)" }],
    options := [
      { id := "columns", long := "columns", short := some 'c',
        kind := .value "COLUMNS" true (some ','), help := "Permitted column names",
        env := some "COLEXPR_COLUMNS" },
      { id := "pretty", long := "pretty", short := some 'p', kind := .switch,
        help := "Pretty-print the output" },
      { id := "syntax_only", long := "syntax-only", kind := .switch,
        help := "Only validate syntax, don't evaluate" },
      logLevelOption, helpOption],
    group := ["expression", "columns", "pretty", "syntax_only"] }

/-- `tokens`: print a program's tokens. -/
def tokensCommand : CommandSpec :=
  { name := "tokens", path := "colexpr tokens",
    about := "Print the token stream of an expression as JSON",
    positionals := [
      { id := "expression", valueName := "EXPRESSION",
        help := "The program to tokenize (reads from stdin if not provided)" }],
    options := [logLevelOption, helpOption], group := ["expression"] }

/-- `docs`: print the reference. -/
def docsCommand : CommandSpec :=
  { name := "docs", path := "colexpr docs",
    about := "List built-in functions, or show documentation for one",
    positionals := [{ id := "function", valueName := "FUNCTION", help := "Function name" }],
    options := [logLevelOption, helpOption], group := ["function"] }

/-- `help`: print the help of the tool or of a subcommand. -/
def helpCommand : CommandSpec :=
  { name := "help", path := "colexpr help",
    about := "Print this message or the help of the given subcommand(s)",
    positionals := [
      { id := "subcommand", valueName := "COMMAND", help := "Print help for the subcommand(s)",
        many := true }] }

/-- The subcommands, in order. -/
def subcommandSpecs : List CommandSpec := [checkCommand, tokensCommand, docsCommand, helpCommand]

/-- The top command. -/
def tool : CommandSpec :=
  { name := toolName, path := toolName,
    about := "colexpr - evaluate small function-call expressions over known columns",
    options := [logLevelOption, helpOption, versionOption],
    subcommands := subcommandSpecs.map fun c => (c.name, c.about), group := ["log_level"] }

/-- Whether a command has a help switch, which its errors point to. -/
def CommandSpec.hasHelpSwitch (c : CommandSpec) : Bool := c.options.any (·.isHelp)

/-- The subcommand of a name. -/
def findSubcommand (name : String) : Option CommandSpec :=
  subcommandSpecs.find? (·.name == name)

end CommandLine
end ColumnExpr
