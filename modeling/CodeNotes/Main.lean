import CodeNotes.Cli.Run
set_option autoImplicit false

/-!
# The `notter` command

Normative source: SPEC_FULL.md §11.4 (Command line front end).

The command runs one request against a file tree held in memory: it starts with only
the root directory, which is also the working directory, and an empty clock.  It
prints what the request wrote to standard output and standard error and exits with the
request's status.  A question the request asks is answered by one line of standard
input, read only when the question comes: the request is run again with the answer,
and what it printed before the question is not printed twice.
-/

namespace CodeNotes.Cli

/-- The session every command starts with. -/
def startSession : Session := ⟨Fs.Tree.empty, Store.Supply.start 0, [], ""⟩

end CodeNotes.Cli

/-- Runs the command line. -/
def main (args : List String) : IO UInt32 := do
  let session := CodeNotes.Cli.startSession
  let (first, _) := CodeNotes.Cli.runProgram args none session
  let outcome ← if first.awaits then do
      IO.print first.stdout
      (← IO.getStdout).flush
      let answer ← (← IO.getStdin).getLine
      let (o, _) := CodeNotes.Cli.runProgram args (some answer) session
      pure { o with stdout := (o.stdout.drop first.stdout.length).toString }
    else pure first
  IO.print outcome.stdout
  IO.eprint outcome.stderr
  pure outcome.status.toUInt32
