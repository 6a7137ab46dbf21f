/-
# Reading the command line

The words of a command line are read left to right against a command's grammar:

* a subcommand's name, unless an option waits for its value, hands the rest of the words
  to that subcommand (`help` instead prints the help of the command its words name);
* `--` makes every later word positional;
* `--name` or `--name=value` is a long option, `-abc` a cluster of short ones, where an
  option taking a value takes the rest of the cluster (after an optional `=`) or the next
  word;
* other words are values of the option waiting for one, or positional arguments.

An option waiting for its value when another option, a subcommand or the end comes has
none; a switch or a once-only option given twice is an error, and so is a word the
grammar has no place for, with tips for similar known words. Help and version switches
stop reading at once. Options not given fall back to their environment variable, then to
their default; the log filter, known everywhere, is taken from the subcommand unless only
the top command got it from the command line.

Key definitions: `CommandLine.Stop`, `CommandLine.Invocation`, `CommandLine.parseLevel`,
`CommandLine.read`.
-/
import ColumnExpr.CommandLine.Help
import ColumnExpr.CommandLine.Error
import ColumnExpr.CommandLine.Similarity
namespace ColumnExpr
namespace CommandLine

/-- Where a value comes from, in increasing rank. -/
inductive Source where
  | default
  | env
  | commandLine
deriving DecidableEq, Repr

/-- The rank of a source: the command line beats the environment, which beats defaults. -/
def Source.rank : Source → Nat
  | .default => 0
  | .env => 1
  | .commandLine => 2

/-- The values given to an argument, and where they came from. -/
structure Given where
  id : String
  values : List String
  source : Source
deriving DecidableEq, Repr

/-- How reading a command line ends before the command runs. -/
inductive Stop where
  /-- Print help on the standard output and succeed. -/
  | help (text : Text.Styled)
  /-- Print the version on the standard output and succeed. -/
  | version (text : String)
  /-- Print help on the error output and fail: nothing was given at all. -/
  | helpOnEmpty (text : Text.Styled)
  /-- Print the error on the error output and fail. -/
  | error (e : ArgError)
deriving DecidableEq, Repr

/-- Values read for an argument and not yet recorded: an option's values from the words
after it, or a positional argument's. -/
inductive Held where
  | option (o : OptionSpec) (values : List String)
  | positional (p : PositionalSpec) (values : List String)
deriving DecidableEq, Repr

/-- The id of the argument values are held for. -/
def Held.id : Held → String
  | .option o _ => o.id
  | .positional p _ => p.id

/-- The state of reading one command's words. -/
structure LevelState where
  /-- The arguments recorded, in the order first given. -/
  given : List Given := []
  /-- Values read but not yet recorded. -/
  held : Option Held := none
  /-- Whether the held option still waits for its value. -/
  waiting : Bool := false
  /-- The next positional argument to fill. -/
  position : Nat := 0
  /-- Whether `--` has been seen. -/
  trailing : Bool := false

/-- What one command's words give: its arguments, and the subcommand with its words. -/
structure Level where
  given : List Given
  subcommand : Option (String × List String)

/-- The values a word stands for as a value of an option: split at its delimiter. -/
def OptionSpec.split (o : OptionSpec) (v : String) : List String :=
  match o.kind with
  | .value _ _ (some d) => v.splitOn d.toString
  | _ => [v]

/-- Whether an option gathers the values of all its occurrences. -/
def OptionSpec.repeatable (o : OptionSpec) : Bool :=
  match o.kind with
  | .value _ r _ => r
  | _ => false

/-- Adds values to an argument already recorded. -/
def appendValues (given : List Given) (id : String) (vals : List String) : List Given :=
  given.map fun g => if g.id == id then { g with values := g.values ++ vals } else g

/-- Records held values: an option needs a value, and one that is not repeatable may be
given once. -/
def record (c : CommandSpec) (given : List Given) : Held → Except ArgError (List Given)
  | .option o [] => .error (.emptyValue o.display)
  | .option o vals =>
    if given.any (·.id == o.id) then
      if o.repeatable then .ok (appendValues given o.id vals)
      else .error (.givenTwice o.display c.usage)
    else .ok (given ++ [⟨o.id, vals, .commandLine⟩])
  | .positional p vals =>
    if given.any (·.id == p.id) then .ok (appendValues given p.id vals)
    else .ok (given ++ [⟨p.id, vals, .commandLine⟩])

/-- Records the held values, if any. -/
def LevelState.settle (c : CommandSpec) (st : LevelState) : Except Stop LevelState :=
  match st.held with
  | none => .ok st
  | some h =>
    match record c st.given h with
    | .ok g => .ok { st with given := g, held := none, waiting := false }
    | .error e => .error (.error e)

/-- Records the held values on the way to reporting another error: values that cannot be
recorded are dropped, and an option given again is dropped altogether. -/
def LevelState.settleAnyway (c : CommandSpec) (st : LevelState) : LevelState :=
  let cleared := { st with held := none, waiting := false }
  match st.held with
  | none => st
  | some h =>
    match record c st.given h with
    | .ok g => { cleared with given := g }
    | .error (.givenTwice ..) => { cleared with given := st.given.filter (·.id != h.id) }
    | .error _ => cleared

/-- What a usage line names of the arguments recorded: each of them, and the command's
group when one of its members is among them and `withGroup` asks for it. -/
def recordedNames (c : CommandSpec) (st : LevelState) (withGroup : Bool) : List Named :=
  let ids := st.given.map (·.id)
  ids.map .argument ++ (if withGroup && ids.any c.group.contains then [.group] else [])

/-- Records an option given with its value. -/
def recordNow (c : CommandSpec) (st : LevelState) (o : OptionSpec) (vals : List String) :
    Except Stop LevelState := do
  let st ← st.settle c
  LevelState.settle c { st with held := some (.option o vals) }

/-- Starts an option whose value is the next word. -/
def awaitValue (c : CommandSpec) (st : LevelState) (o : OptionSpec) : Except Stop LevelState := do
  let st ← st.settle c
  pure { st with held := some (.option o []), waiting := true }

/-- Acts on an option that takes no value. -/
def react (c : CommandSpec) (env : Env) (st : LevelState) (o : OptionSpec) :
    Except Stop LevelState := do
  let st ← st.settle c
  match o.kind with
  | .help => throw (.help (c.helpText env))
  | .version => throw (.version (toolName ++ " " ++ toolVersion ++ "\n"))
  | _ =>
    if st.given.any (·.id == o.id) then throw (.error (.givenTwice o.display c.usage))
    else pure { st with given := st.given ++ [⟨o.id, ["true"], .commandLine⟩] }

/-- The first index of a word in a list. -/
def indexOf? (w : String) : List String → Option Nat
  | [] => none
  | x :: xs => if x == w then some 0 else (indexOf? w xs).map (· + 1)

/-- A subcommand with an option like `name`, preferring the subcommand whose name comes
first among the words still to read. -/
def similarElsewhere (c : CommandSpec) (name : String) (more : List String) :
    Option (String × String) :=
  if c.subcommands.isEmpty then none
  else
    let scored := subcommandSpecs.filterMap fun s =>
      match (Similarity.similar name (s.options.map (·.long))).getLast?, indexOf? s.name more with
      | some l, some i => some (i, s.name, "--" ++ l)
      | _, _ => none
    let best := scored.foldl (fun acc x =>
      match acc with
      | some y => if x.1 < y.1 then some x else some y
      | none => some x) none
    best.map fun (_, s, f) => (s, f)

/-- The error for an unknown long option, the held values recorded as far as they can be.
The usage line names what was given and the known option suggested instead. -/
def unknownLong (c : CommandSpec) (st : LevelState) (name : String) (more : List String) :
    ArgError :=
  let st := st.settleAnyway c
  let named := recordedNames c st false
  match (Similarity.similar name (c.options.map (·.long))).getLast? with
  | some l =>
    let suggested := (c.options.filter (·.long == l)).map fun o => Named.argument o.id
    .unknownArgument ("--" ++ name) (some ("--" ++ l)) none false
      (c.usageNaming (named ++ suggested))
  | none =>
    let elsewhere := similarElsewhere c name more
    .unknownArgument ("--" ++ name) none elsewhere
      (elsewhere.isNone && !st.trailing && !c.positionals.isEmpty) (c.usageNaming named)

/-- Splits `name=value`. -/
def splitAtEquals (s : String) : String × Option String :=
  match s.toList.span (· != '=') with
  | (name, []) => (String.ofList name, none)
  | (name, _ :: value) => (String.ofList name, some (String.ofList value))

/-- Reads a long option, the `--` already removed. A value attached to a switch is an
error whose usage line names what was recorded before it and the switch, held values
not included. -/
def longArg (c : CommandSpec) (env : Env) (st : LevelState) (body : String) (more : List String) :
    Except Stop LevelState :=
  let (name, attached) := splitAtEquals body
  match c.options.find? (·.long == name) with
  | none => .error (.error (unknownLong c st name more))
  | some o =>
    if o.takesValue then
      match attached with
      | some v => recordNow c st o (o.split v)
      | none => awaitValue c st o
    else
      match attached with
      | some v =>
        .error (.error (.unexpectedValue v ("--" ++ o.long)
          (c.usageNaming (recordedNames c st true ++ [.argument o.id]))))
      | none => react c env st o

/-- Reads a cluster of short options, the `-` already removed. -/
def shortCluster (c : CommandSpec) (env : Env) (st : LevelState) : List Char →
    Except Stop LevelState
  | [] => .ok st
  | ch :: rest =>
    match c.options.find? (·.short == some ch) with
    | none =>
      .error (.error (.unknownArgument ("-" ++ ch.toString) none none
        (!st.trailing && !c.positionals.isEmpty) c.usage))
    | some o =>
      if o.takesValue then
        match rest with
        | [] => awaitValue c st o
        | '=' :: v => recordNow c st o (o.split (String.ofList v))
        | v => recordNow c st o (o.split (String.ofList v))
      else do
        let st ← react c env st o
        shortCluster c env st rest

/-- The error for a word the command has no place for. -/
def misplaced (c : CommandSpec) (st : LevelState) (a : String) : ArgError :=
  if st.trailing && c.subcommands.any (·.1 == a) then .unnecessaryDoubleDash a c.usage
  else if !c.subcommands.isEmpty then
    match Similarity.similar a (c.subcommands.map (·.1)) with
    | [] =>
      if c.positionals.isEmpty then .unrecognizedSubcommand a c.usage c.hasHelpSwitch
      else .unknownArgument a none none false c.usage
    | similar => .invalidSubcommand a similar c.usage
  else .unknownArgument a none none false c.usage

/-- Reads a word that is no option: the value of a waiting option (unless after `--`), or
a positional argument, which records what was held before it. -/
def positional (c : CommandSpec) (st : LevelState) (a : String) : Except Stop LevelState :=
  match st.held, st.waiting && !st.trailing with
  | some (.option o vals), true =>
    .ok { st with held := some (.option o (vals ++ o.split a)), waiting := false }
  | _, _ =>
    match c.positionals[st.position]? with
    | some p =>
      match st.held with
      | some (.positional q vals) =>
        if q.id == p.id && p.many then
          .ok { st with held := some (.positional q (vals ++ [a])) }
        else do
          let st ← st.settle c
          pure { st with held := some (.positional p [a]),
                         position := if p.many then st.position else st.position + 1 }
      | _ => do
        let st ← st.settle c
        pure { st with held := some (.positional p [a]),
                       position := if p.many then st.position else st.position + 1 }
    | none => .error (.error (misplaced c (st.settleAnyway c) a))

/-- The command whose help `help` prints: the top command's subcommand named by the words,
and so on down. -/
def helpTarget : CommandSpec → List String → Except ArgError CommandSpec
  | c, [] => .ok c
  | c, n :: ns =>
    if c.subcommands.any (·.1 == n) then
      match findSubcommand n with
      | some s => helpTarget s ns
      | none => .error (.unrecognizedSubcommand n c.usage c.hasHelpSwitch)
    else .error (.unrecognizedSubcommand n c.usage c.hasHelpSwitch)

/-- Reads the words of one command. -/
def parseLevel (c : CommandSpec) (env : Env) : LevelState → List String → Except Stop Level
  | st, [] => do
    let st ← st.settle c
    pure ⟨st.given, none⟩
  | st, a :: more =>
    if !st.trailing && !st.waiting && c.subcommands.any (·.1 == a) then
      if a == "help" then
        match helpTarget tool more with
        | .ok target => .error (.help (target.helpText env))
        | .error e => .error (.error e)
      else do
        let st ← st.settle c
        pure ⟨st.given, some (a, more)⟩
    else if !st.trailing && a == "--" then parseLevel c env { st with trailing := true } more
    else if !st.trailing && a.startsWith "--" then do
      let st ← longArg c env st (String.ofList (a.toList.drop 2)) more
      parseLevel c env st more
    else if !st.trailing && a.startsWith "-" && a.length > 1 then do
      let st ← shortCluster c env st (a.toList.drop 1)
      parseLevel c env st more
    else do
      let st ← positional c st a
      parseLevel c env st more

/-- Arguments not given fall back to their environment variable, then to their default. -/
def withFallbacks (c : CommandSpec) (env : Env) (given : List Given) : List Given :=
  given ++ c.options.filterMap fun o =>
    if given.any (·.id == o.id) then none
    else
      match o.env.bind env.get? with
      | some v => some ⟨o.id, o.split v, .env⟩
      | none => o.default.map fun d => ⟨o.id, [d], .default⟩

/-- The given values of an argument. -/
def valuesOf (given : List Given) (id : String) : Option Given := given.find? (·.id == id)

/-- What the tool is asked to do. -/
inductive Command where
  | check (expression : Option String) (columns : List String) (pretty syntaxOnly : Bool)
  | tokens (expression : Option String)
  | docs (function : Option String)
deriving DecidableEq, Repr

/-- A command line read: the log filter and the command. -/
structure Invocation where
  logLevel : String
  command : Command
deriving DecidableEq, Repr

/-- The log filter: the subcommand's, unless the top command's comes from a higher source. -/
def chooseLogLevel (top sub : List Given) : String :=
  let pick := match valuesOf top "log_level", valuesOf sub "log_level" with
    | some t, some s => if s.source.rank < t.source.rank then some t else some s
    | some t, none => some t
    | none, s => s
  ((pick.map (·.values)).getD []).headD ""

/-- Reads a command line in an environment. -/
def read (args : List String) (env : Env) : Except Stop Invocation := do
  let top ← parseLevel tool env {} args
  let topGiven := withFallbacks tool env top.given
  match top.subcommand with
  | none =>
    if topGiven.any (·.source != .default) then
      throw (.error (.missingSubcommand toolName (tool.subcommands.map (·.1)) tool.usage))
    else throw (.helpOnEmpty (tool.helpText env))
  | some (name, rest) =>
    let some spec := findSubcommand name
      | throw (.error (.unrecognizedSubcommand name tool.usage true))
    let sub ← parseLevel spec env {} rest
    let subGiven := withFallbacks spec env sub.given
    let logLevel := chooseLogLevel topGiven subGiven
    let first (id : String) : Option String := (valuesOf subGiven id).bind (·.values.head?)
    let flag (id : String) : Bool := (valuesOf subGiven id).isSome
    let command : Command :=
      if name == "check" then
        .check (first "expression") (((valuesOf subGiven "columns").map (·.values)).getD [])
          (flag "pretty") (flag "syntax_only")
      else if name == "tokens" then .tokens (first "expression")
      else .docs (first "function")
    pure ⟨logLevel, command⟩

end CommandLine
end ColumnExpr
