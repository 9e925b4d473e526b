import CodeNotes.Cli.Complete.Basic
set_option autoImplicit false

/-!
# Completion script for elvish

The script keys a map by the command path typed so far, its names joined by `;`, and
gives for each path the candidates: every short and long name of its options, then of
its switches, then its subcommands, each with its description in single quotes.  A
candidate without a description is described by its own name.
-/

namespace CodeNotes.Cli.Elvish

/-- Text inside single quotes: a quote is doubled. -/
def escape (s : String) : String := s.replace "'" "''"

/-- One candidate line. -/
def candidate (text tooltip : String) : String :=
  "\n            cand " ++ text ++ " '" ++ tooltip ++ "'"

/-- The candidates of a switch or option. -/
def argCandidates (a : Arg) : String :=
  let tip (name : String) := if a.help.isEmpty then name else escape a.help
  let shorts := match a.short with
    | some s => candidate ("-" ++ String.singleton s) (tip (String.singleton s))
    | none => ""
  let longs := match a.long with
    | some l => candidate ("--" ++ l) (tip l)
    | none => ""
  shorts ++ longs

/-- The entry of one command. -/
def entry (place : Place) : String :=
  let c := place.command
  let key := ";".intercalate (completionProgram.name :: place.path)
  let subs := c.subcommands.map fun s => candidate s.name (escape (s.about.getD s.name))
  "\n        &'" ++ key ++ "'= \x7b" ++ String.join ((c.options ++ c.switches).map argCandidates) ++
    String.join subs ++ "\n        \x7d"

/-- The completion script for elvish. -/
def script : String :=
  let bin := completionProgram.name
  "\nuse builtin;\nuse str;\n\n" ++
  "set edit:completion:arg-completer[" ++ bin ++ "] = \x7b|@words|\n" ++
  "    fn spaces \x7b|n|\n" ++
  "        builtin:repeat $n ' ' | str:join ''\n" ++
  "    \x7d\n" ++
  "    fn cand \x7b|text desc|\n" ++
  "        edit:complex-candidate $text &display=$text' '(spaces (- 14 (wcswidth $text)))$desc\n" ++
  "    \x7d\n" ++
  "    var command = '" ++ bin ++ "'\n" ++
  "    for word $words[1..-1] \x7b\n" ++
  "        if (str:has-prefix $word '-') \x7b\n" ++
  "            break\n" ++
  "        \x7d\n" ++
  "        set command = $command';'$word\n" ++
  "    \x7d\n" ++
  "    var completions = [" ++ String.join (completionPlaces.map entry) ++ "\n" ++
  "    ]\n" ++
  "    $completions[$command]\n" ++
  "\x7d\n"

end CodeNotes.Cli.Elvish
