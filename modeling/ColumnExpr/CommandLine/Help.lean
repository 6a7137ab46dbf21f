/-
# Help and usage texts

A command's help is its description, its usage line, then its sections: `Commands`,
`Arguments` and `Options`, each a table whose left column is as wide as its widest entry
plus two spaces. An option's entry names its short form (or four spaces) and long form
with its value; its description is followed by the environment variable it falls back to,
with the variable's current value, and by its default.

Options are listed by rank, then by a key: the short name in lower case (marked to come
before its upper case twin), or the long name; help and version come last.

The usage line is the command's words, `[OPTIONS]` when it has options, its positional
arguments, and `<COMMAND>` when it has subcommands. A usage line naming what was given
lists those options, or the command's group as one choice, then the positional arguments,
those given in their required form.

A description that runs over several lines continues each line under the first. Commands
and option names are styled as words to type, headings as headings (`Text.Styled`).

Key definitions: `CommandLine.Env`, `CommandSpec.usage`, `CommandSpec.helpText`,
`CommandSpec.usageNaming`.
-/
import ColumnExpr.CommandLine.Spec
import ColumnExpr.Text.Styled
namespace ColumnExpr
namespace CommandLine

open Text (Styled)

/-- The environment of a run: variables and their values. -/
abbrev Env := List (String × String)

/-- The value of an environment variable, if set. -/
def Env.get? (env : Env) (k : String) : Option String := (env.find? (·.1 == k)).map (·.2)

/-- A positional argument as usage and help show it. -/
def PositionalSpec.display (p : PositionalSpec) : String :=
  "[" ++ p.valueName ++ "]" ++ (if p.many then "..." else "")

/-- A positional argument in its required form. -/
def PositionalSpec.requiredDisplay (p : PositionalSpec) : String :=
  "<" ++ p.valueName ++ ">" ++ (if p.many then "..." else "")

/-- An option as usage lines show it: its long form, styled as a word to type, and its
value's name. -/
def OptionSpec.styledDisplay (o : OptionSpec) : Styled :=
  Styled.inStyle .literal ("--" ++ o.long) ++
    match o.kind with
    | .value v _ _ => Styled.plain (" <" ++ v ++ ">")
    | _ => []

/-- A usage line: the command's words, styled as words to type, then the parts after them,
each after a blank. -/
def usageLine (path : String) (parts : List Styled) : Styled :=
  Styled.inStyle .literal path ++ (parts.map (Styled.plain " " ++ ·)).flatten

/-- The usage line of a command. -/
def CommandSpec.usage (c : CommandSpec) : Styled :=
  usageLine c.path
    ((if c.options.isEmpty then [] else [Styled.plain "[OPTIONS]"])
      ++ c.positionals.map (Styled.plain ·.display)
      ++ (if c.subcommands.isEmpty then [] else [Styled.plain "<COMMAND>"]))

/-- What a usage line for an error names: a given argument, or the command's group. -/
inductive Named where
  | argument (id : String)
  | group
deriving DecidableEq, Repr

/-- The command's group as one choice: each member as usage shows it, a positional by its
value's name. -/
def CommandSpec.groupDisplay (c : CommandSpec) : String :=
  let members := c.group.filterMap fun id =>
    match c.positionals.find? (·.id == id) with
    | some p => some p.valueName
    | none => (c.options.find? (·.id == id)).map (·.display)
  "<" ++ "|".intercalate members ++ ">"

/-- The usage line naming what was given: the options named (once each, in the order first
named), then the group if named, then every positional argument outside the group, in the
required form when named; the members of a named group are not listed on their own. With
nothing named it is the command's usage line. -/
def CommandSpec.usageNaming (c : CommandSpec) (named : List Named) : Styled :=
  if named.isEmpty then c.usage
  else
    let withGroup := named.contains .group
    let members := if withGroup then c.group else []
    let ids := (named.filterMap fun
      | .argument id => some id
      | .group => none).eraseDups.filter (!members.contains ·)
    let options := (ids.filterMap fun id => c.options.find? (·.id == id)).map (·.styledDisplay)
    let positionals := (c.positionals.filter (!members.contains ·.id)).map fun p =>
      Styled.plain (if ids.contains p.id then p.requiredDisplay else p.display)
    usageLine c.path
      (options ++ (if withGroup then [Styled.plain c.groupDisplay] else []) ++ positionals
        ++ (if c.subcommands.isEmpty then [] else [Styled.plain "<COMMAND>"]))

/-- The left column of an option's help entry. -/
def OptionSpec.helpSpec (o : OptionSpec) : Styled :=
  (match o.short with
   | some c => Styled.inStyle .literal ("-" ++ c.toString) ++ Styled.plain ", "
   | none => Styled.plain "    ") ++ o.styledDisplay

/-- The right column of an option's help entry. -/
def OptionSpec.helpText (o : OptionSpec) (env : Env) : String :=
  let envPart := match o.env with
    | some v => ["[env: " ++ v ++ "=" ++ (env.get? v).getD "" ++ "]"]
    | none => []
  let defaultPart := match o.default with
    | some d => ["[default: " ++ d ++ "]"]
    | none => []
  " ".intercalate (o.help :: envPart ++ defaultPart)

/-- The rank and key an option is listed by. -/
def OptionSpec.listKey (o : OptionSpec) : Nat × String :=
  let rank := match o.kind with
    | .help | .version => 1
    | _ => 0
  let key := match o.short with
    | some c => String.ofList [c.toLower, if c.isLower then '0' else '1']
    | none => o.long
  (rank, key)

/-- Whether one option is listed before another. -/
def OptionSpec.listedBefore (a b : OptionSpec) : Bool :=
  let (ra, ka) := a.listKey
  let (rb, kb) := b.listKey
  ra < rb || (ra == rb && decide (ka < kb))

/-- Inserts an option after every option not listed after it. -/
def insertListed (o : OptionSpec) : List OptionSpec → List OptionSpec
  | [] => [o]
  | p :: ps => if o.listedBefore p then o :: p :: ps else p :: insertListed o ps

/-- Options in the order help lists them. -/
def listedOptions (os : List OptionSpec) : List OptionSpec :=
  os.foldl (fun acc o => insertListed o acc) []

/-- A help section: a heading and a two-column table, the left column padded by the width
of its text. A right column's later lines start under its first. -/
def helpSection (title : String) (rows : List (Styled × String)) : Styled :=
  let width := rows.foldl (fun w r => max w r.1.width) 0
  let indent := String.ofList (List.replicate (width + 4) ' ')
  Styled.inStyle .heading (title ++ ":") ++ Styled.plain "\n" ++
    Styled.joinWith (Styled.plain "\n") (rows.map fun (l, r) =>
      Styled.plain "  " ++ l ++
        Styled.plain (String.ofList (List.replicate (width - l.width + 2) ' ') ++
          ("\n" ++ indent).intercalate (r.splitOn "\n")))

/-- The help text of a command, given the environment. -/
def CommandSpec.helpText (c : CommandSpec) (env : Env) : Styled :=
  let sections :=
    (if c.subcommands.isEmpty then []
      else [helpSection "Commands"
        (c.subcommands.map fun (n, about) => (Styled.inStyle .literal n, about))])
    ++ (if c.positionals.isEmpty then []
        else [helpSection "Arguments"
          (c.positionals.map fun p => (Styled.plain p.display, p.help))])
    ++ (if c.options.isEmpty then []
        else
          [helpSection "Options"
            ((listedOptions c.options).map fun o => (o.helpSpec, o.helpText env))])
  Styled.plain (c.about ++ "\n\n") ++ Styled.inStyle .heading "Usage:" ++ Styled.plain " " ++
    c.usage ++ Styled.plain "\n\n" ++ Styled.joinWith (Styled.plain "\n\n") sections ++
    Styled.plain "\n"

end CommandLine
end ColumnExpr
