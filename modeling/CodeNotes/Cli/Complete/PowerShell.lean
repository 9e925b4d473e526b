import CodeNotes.Cli.Complete.Basic
set_option autoImplicit false

/-!
# Completion script for PowerShell

The script registers a native completer that rebuilds the command path typed so far,
its names joined by `;`, and switches on it.  Each path lists a completion result for
every short and long name of its options, then of its switches, then for each
subcommand.  PowerShell compares names without regard to case, so the list text of an
upper-case short name carries a trailing space to keep it apart from its lower-case
twin.
-/

namespace CodeNotes.Cli.PowerShell

/-- Text inside single quotes: a quote is doubled. -/
def escape (s : String) : String := s.replace "'" "''"

/-- One completion result. -/
def result (text listText kind tooltip : String) : String :=
  "\n            [CompletionResult]::new('" ++ text ++ "', '" ++ listText ++
    "', [CompletionResultType]::" ++ kind ++ ", '" ++ tooltip ++ "')"

/-- The results of a switch or option. -/
def argResults (a : Arg) : String :=
  let tip (name : String) := if a.help.isEmpty then name else escape a.help
  let shorts := match a.short with
    | some s =>
      let name := "-" ++ String.singleton s
      result name (name ++ (if s.isUpper then " " else "")) "ParameterName" (tip (String.singleton s))
    | none => ""
  let longs := match a.long with
    | some l => result ("--" ++ l) ("--" ++ l) "ParameterName" (tip l)
    | none => ""
  shorts ++ longs

/-- The branch of one command. -/
def branch (place : Place) : String :=
  let c := place.command
  let key := ";".intercalate (completionProgram.name :: place.path)
  let subs := c.subcommands.map fun s => result s.name s.name "ParameterValue" (escape (s.about.getD s.name))
  "\n        '" ++ key ++ "' \x7b" ++ String.join ((c.options ++ c.switches).map argResults) ++
    String.join subs ++ "\n            break\n        \x7d"

/-- The completion script for PowerShell. -/
def script : String :=
  let bin := completionProgram.name
  "\nusing namespace System.Management.Automation\n" ++
  "using namespace System.Management.Automation.Language\n\n" ++
  "Register-ArgumentCompleter -Native -CommandName '" ++ bin ++ "' -ScriptBlock \x7b\n" ++
  "    param($wordToComplete, $commandAst, $cursorPosition)\n\n" ++
  "    $commandElements = $commandAst.CommandElements\n" ++
  "    $command = @(\n" ++
  "        '" ++ bin ++ "'\n" ++
  "        for ($i = 1; $i -lt $commandElements.Count; $i++) \x7b\n" ++
  "            $element = $commandElements[$i]\n" ++
  "            if ($element -isnot [StringConstantExpressionAst] -or\n" ++
  "                $element.StringConstantType -ne [StringConstantType]::BareWord -or\n" ++
  "                $element.Value.StartsWith('-') -or\n" ++
  "                $element.Value -eq $wordToComplete) \x7b\n" ++
  "                break\n" ++
  "        \x7d\n" ++
  "        $element.Value\n" ++
  "    \x7d) -join ';'\n\n" ++
  "    $completions = @(switch ($command) \x7b" ++ String.join (completionPlaces.map branch) ++ "\n" ++
  "    \x7d)\n\n" ++
  "    $completions.Where\x7b $_.CompletionText -like \"$wordToComplete*\" \x7d |\n" ++
  "        Sort-Object -Property ListItemText\n" ++
  "\x7d\n"

end CodeNotes.Cli.PowerShell
