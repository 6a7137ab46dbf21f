/-
# Command line errors

A command line that cannot be read stops the tool with a message on the error output:
`error: ` and what went wrong, then tips (a similar known word, how to pass a word that
looks like an option as a value), then the usage line when it helps, and last a pointer
to `--help` when the command has that switch. The message is styled text
(`Text.Styled`): `error:` as an error, the words not understood as invalid, the words that
would be understood as valid, option names and `--help` as words to type.

Key definitions: `CommandLine.ArgError`, `ArgError.message`.
-/
import ColumnExpr.Text.Styled
namespace ColumnExpr
namespace CommandLine

open Text (Styled)

/-- What is wrong with a command line. -/
inductive ArgError where
  /-- A word the command does not know; a known option like it, a subcommand with an option
  like it, and whether to suggest passing the word after `--`. -/
  | unknownArgument (arg : String) (similar : Option String) (elsewhere : Option (String × String))
      (asValueTip : Bool) (usage : Styled)
  /-- A word where a subcommand was expected, like some subcommands. -/
  | invalidSubcommand (arg : String) (similar : List String) (usage : Styled)
  /-- A word where a subcommand was expected; whether the command has a help switch to point
  to. -/
  | unrecognizedSubcommand (arg : String) (usage : Styled) (pointsToHelp : Bool)
  /-- A subcommand's name after `--`. -/
  | unnecessaryDoubleDash (subcommand : String) (usage : Styled)
  /-- An option without its value. -/
  | emptyValue (option : String)
  /-- An option given twice that may be given once. -/
  | givenTwice (option : String) (usage : Styled)
  /-- A value attached to a switch. -/
  | unexpectedValue (value option : String) (usage : Styled)
  /-- No subcommand at all. -/
  | missingSubcommand (bin : String) (subcommands : List String) (usage : Styled)
deriving DecidableEq, Repr

/-- Plain text. -/
def plain (s : String) : Styled := Styled.plain s

/-- A word in quotes, the word in a style. -/
def quoted (style : Text.Style) (s : String) : Styled :=
  plain "'" ++ Styled.inStyle style s ++ plain "'"

/-- The start of every message. -/
def errorStart : Styled := Styled.inStyle .error "error:" ++ plain " "

/-- The start of a tip. -/
def tipStart : Styled := plain "  " ++ Styled.inStyle .valid "tip:"

/-- The tips of an error: similar subcommands, a similar argument, then other tips. -/
def tipsText (subcommands : List String) (argument : Option String) (others : List Styled) :
    Styled :=
  let subPart := match subcommands with
    | [] => []
    | [s] => plain "\n\n" ++ tipStart ++ plain " a similar subcommand exists: " ++ quoted .valid s
    | ss =>
      plain "\n\n" ++ tipStart ++ plain " some similar subcommands exist: " ++
        Styled.joinWith (plain ", ") (ss.map (quoted .valid))
  let argPart := match argument with
    | none => []
    | some a =>
      plain ("\n" ++ if subPart.isEmpty then "\n" else "") ++ tipStart ++
        plain " a similar argument exists: " ++ quoted .valid a
  let suggested := !subPart.isEmpty || !argPart.isEmpty
  let otherPart := if others.isEmpty then []
    else (if suggested then [] else plain "\n") ++
      (others.map fun t => plain "\n" ++ tipStart ++ plain " " ++ t).flatten
  subPart ++ argPart ++ otherPart

/-- The usage block of an error. -/
def usageText (usage : Styled) : Styled :=
  plain "\n\n" ++ Styled.inStyle .heading "Usage:" ++ plain " " ++ usage

/-- The closing line of every error. -/
def moreInformation : Styled :=
  plain "\n\nFor more information, try '" ++ Styled.inStyle .literal "--help" ++ plain "'.\n"

/-- The message of a command line error, as printed: what was not understood in the
invalid style, what would be in the valid style, option names as words to type. -/
def ArgError.message : ArgError → Styled
  | .unknownArgument a similar elsewhere asValueTip usage =>
    let valueTip :=
      if asValueTip then
        [plain "to pass " ++ quoted .invalid a ++ plain " as a value, use " ++
          quoted .valid ("-- " ++ a)]
      else []
    let others := valueTip ++
      (match elsewhere with
        | some (sub, flag) => [quoted .valid (sub ++ " " ++ flag) ++ plain " exists"]
        | none => [])
    errorStart ++ plain "unexpected argument " ++ quoted .invalid a ++ plain " found" ++
      tipsText [] similar others ++ usageText usage ++ moreInformation
  | .invalidSubcommand a similar usage =>
    errorStart ++ plain "unrecognized subcommand " ++ quoted .invalid a ++
      tipsText similar none [] ++ usageText usage ++ moreInformation
  | .unrecognizedSubcommand a usage pointsToHelp =>
    errorStart ++ plain "unrecognized subcommand " ++ quoted .invalid a ++ usageText usage ++
      (if pointsToHelp then moreInformation else plain "\n")
  | .unnecessaryDoubleDash sub usage =>
    errorStart ++ plain "unexpected argument " ++ quoted .invalid sub ++ plain " found" ++
      tipsText [] none
        [plain "subcommand " ++ quoted .valid sub ++ plain " exists; to use it, remove the " ++
          quoted .valid "--" ++ plain " before it"] ++
      usageText usage ++ moreInformation
  | .emptyValue o =>
    errorStart ++ plain "a value is required for " ++ quoted .literal o ++
      plain " but none was supplied" ++ moreInformation
  | .givenTwice o usage =>
    errorStart ++ plain "the argument " ++ quoted .invalid o ++
      plain " cannot be used multiple times" ++ usageText usage ++ moreInformation
  | .unexpectedValue v o usage =>
    errorStart ++ plain "unexpected value " ++ quoted .invalid v ++ plain " for " ++
      quoted .literal o ++ plain " found; no more were expected" ++ usageText usage ++
      moreInformation
  | .missingSubcommand bin subs usage =>
    errorStart ++ quoted .invalid bin ++
      plain " requires a subcommand but one was not provided\n  [subcommands: " ++
      Styled.joinWith (plain ", ") (subs.map (Styled.inStyle .valid)) ++ plain "]" ++
      usageText usage ++ moreInformation

end CommandLine
end ColumnExpr
