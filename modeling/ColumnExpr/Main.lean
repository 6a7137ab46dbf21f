/-
# The command line program

The program reads its arguments, the environment variables the tool uses and, when the run
needs it, its whole input (none at all when the input is a terminal), notes which outputs
are terminals, stamps log lines with the current time, and writes the run's two texts and
exits with its status.

Key definitions: `main`.
-/
import ColumnExpr.CommandLine.Run
import ColumnExpr.Log.Clock
import Std.Time.DateTime.Timestamp
namespace ColumnExpr
namespace Console

/-- The environment variables the tool reads: its own, the log filter, and those that say
whether to show styles. -/
def toolVariables : List String :=
  ["COLEXPR_COLUMNS", "COLEXPR_LOG", "RUST_LOG", "NO_COLOR", "CLICOLOR_FORCE", "CLICOLOR",
    "TERM", "CI"]

/-- Reads a stream to its end. -/
partial def readAll (s : IO.FS.Stream) (acc : ByteArray) : IO ByteArray := do
  let chunk ← s.read 65536
  if chunk.isEmpty then return acc else readAll s (acc ++ chunk)

/-- The variables of `toolVariables` that are set, with their values. -/
def environment : IO CommandLine.Env :=
  toolVariables.filterMapM fun k => do return (← IO.getEnv k).map fun v => (k, v)

end Console
end ColumnExpr

open ColumnExpr in
/-- Runs the tool. -/
def main (args : List String) : IO UInt32 := do
  let env ← Console.environment
  let stdin ← IO.getStdin
  let input ←
    if CommandLine.readsInput args env then
      if ← stdin.isTty then pure none else some <$> Console.readAll stdin ByteArray.empty
    else pure (some ByteArray.empty)
  let now ← Std.Time.Timestamp.now
  let stamp := Log.utcStamp now.toNanosecondsSinceUnixEpoch.val
  let stdout ← IO.getStdout
  let stderr ← IO.getStderr
  let terminals : CommandLine.Terminals := ⟨← stdout.isTty, ← stderr.isTty⟩
  let outcome := CommandLine.run stamp terminals args env input
  stdout.putStr outcome.stdout
  stdout.flush
  stderr.putStr outcome.stderr
  stderr.flush
  return outcome.status.toUInt32
