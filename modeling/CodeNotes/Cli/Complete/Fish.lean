import CodeNotes.Cli.Complete.Basic
set_option autoImplicit false

/-!
# Completion script for fish

The script defines three helpers: the option specification of the program's own
switches, a test that no subcommand has been typed yet, and a test that a given one
has.  Then each command gets one `complete` line per option, per switch and, when it
takes no positional argument, per subcommand, under the condition that its path has
been typed.  Only the first two levels of subcommands are described: the condition
language has no way to name a third.
-/

namespace CodeNotes.Cli.Fish

/-- Text inside single quotes: backslashes and quotes escaped, commas too when asked. -/
def escape (commas : Bool) (s : String) : String :=
  let s := (s.replace "\\" "\\\\").replace "'" "\\'"
  if commas then s.replace "," "\\," else s

/-- A description inside single quotes, on one line. -/
def escapeHelp (s : String) : String := escape false (s.replace "\n" " ")

/-- The name of a helper function of the script. -/
def helper (bin what : String) : String := "__fish_" ++ bin ++ "_" ++ what

/-- The argument specification of a switch or option of the program itself. -/
def optSpec (a : Arg) : String :=
  let short := match a.short with
    | some s => String.singleton s
    | none => ""
  let long := match a.long with
    | some l => (if a.short.isSome then "/" else "") ++ escape false l
    | none => ""
  " " ++ short ++ long ++ (if a.takesValue then "=" else "")

/-- The helper functions every script starts with. -/
def preamble (program : Interface) : String :=
  let bin := program.name
  "# Print an optspec for argparse to handle cmd's options that are independent of any subcommand.\n" ++
  "function " ++ helper bin "global_optspecs" ++ "\n" ++
  "    string join \\n" ++ String.join (program.named.map optSpec) ++ "\n" ++
  "end\n\n" ++
  "function " ++ helper bin "needs_command" ++ "\n" ++
  "    # Figure out if the current invocation already has a command.\n" ++
  "    set -l cmd (commandline -opc)\n" ++
  "    set -e cmd[1]\n" ++
  "    argparse -s (" ++ helper bin "global_optspecs" ++ ") -- $cmd 2>/dev/null\n" ++
  "    or return\n" ++
  "    if set -q argv[1]\n" ++
  "        # Also print the command, so this can be used to figure out what it is.\n" ++
  "        echo $argv[1]\n" ++
  "        return 1\n" ++
  "    end\n" ++
  "    return 0\n" ++
  "end\n\n" ++
  "function " ++ helper bin "using_subcommand" ++ "\n" ++
  "    set -l cmd (" ++ helper bin "needs_command" ++ ")\n" ++
  "    test -z \"$cmd\"\n" ++
  "    and return 1\n" ++
  "    contains -- $cmd[1] $argv\n" ++
  "end\n\n"

/-- The condition under which a command's completions apply, or `none` at the top
of a program without subcommands; a command three levels down has no condition and
is left out. -/
def condition (bin : String) (place : Place) : Option (Option String) :=
  let c := place.command
  match place.path with
  | [] => some (if c.subcommands.isEmpty then none else some (helper bin "needs_command"))
  | [a] =>
    let unseen := if c.subcommands.isEmpty then "" else "; and not __fish_seen_subcommand_from"
    some (some (helper bin "using_subcommand" ++ " " ++ a ++ unseen ++
      String.join (c.subcommandNames.map (" " ++ ·))))
  | [a, b] => some (some (helper bin "using_subcommand" ++ " " ++ a ++ "; and __fish_seen_subcommand_from " ++ b))
  | _ => none

/-- What completes the value of an option. -/
def valueCompletion (a : Arg) : String :=
  if !a.takesValue then ""
  else match a.values with
    | .choice cs =>
      " -r -f -a \"" ++ "\n".intercalate (cs.map fun ch =>
        escape true ch.name ++ "\\t'" ++ escape false (ch.help.getD "") ++ "'") ++ "\""
    | .path => " -r -F"
    | _ => " -r"

/-- The `complete` line of a switch or option. -/
def argLine (start : String) (a : Arg) : String :=
  let short := match a.short with
    | some s => " -s " ++ String.singleton s
    | none => ""
  let long := match a.long with
    | some l => " -l " ++ escape false l
    | none => ""
  let help := if a.help.isEmpty then "" else " -d '" ++ escapeHelp a.help ++ "'"
  start ++ short ++ long ++ help ++ valueCompletion a ++ "\n"

/-- The `complete` line of a subcommand. -/
def subcommandLine (start : String) (s : Interface) : String :=
  let help := match s.about with
    | some h => " -d '" ++ escapeHelp h ++ "'"
    | none => ""
  start ++ " -f -a \"" ++ s.name ++ "\"" ++ help ++ "\n"

/-- The lines of one command. -/
def placeLines (bin : String) (place : Place) : String :=
  match condition bin place with
  | none => ""
  | some cond =>
    let c := place.command
    let start := "complete -c " ++ bin ++ (match cond with | some t => " -n \"" ++ t ++ "\"" | none => "")
    let subs := if c.positionals.isEmpty then c.subcommands.map (subcommandLine start) else []
    String.join ((c.options ++ c.switches).map (argLine start)) ++ String.join subs

/-- The completion script for fish. -/
def script : String :=
  let bin := completionProgram.name
  (if completionProgram.subcommands.isEmpty then "" else preamble completionProgram) ++
    String.join (completionPlaces.map (placeLines bin))

end CodeNotes.Cli.Fish
