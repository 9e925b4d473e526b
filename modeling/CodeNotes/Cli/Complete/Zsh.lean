import CodeNotes.Cli.Complete.Basic
set_option autoImplicit false

/-!
# Completion script for zsh

The script is a completion function for `_arguments`.  Each command is described by
one `_arguments` call: its options (`-s+[help]:NAME:action`, `--long=[help]:NAME:action`,
starred when they may repeat), its switches (`-s[help]`), its positional arguments
(`:name -- help:action`, with a leading `:` when optional), and, when it has
subcommands, a call to the function listing them and a state that descends into them.
The descent is a `case` on the word typed, nested as deep as the commands go.  Last
comes one listing function per command, named by its path with `__` between the names.
-/

namespace CodeNotes.Cli.Zsh

/-- A description inside single quotes and brackets. -/
def escapeHelp (s : String) : String :=
  ((((((((s.replace "\\" "\\\\").replace "'" "'\\''").replace "[" "\\[").replace "]" "\\]").replace ":" "\\:").replace
    "$" "\\$").replace "\x60" "\\\x60").replace "\n" " ")

/-- A value inside single quotes and parentheses. -/
def escapeValue (s : String) : String :=
  (((((((((s.replace "\\" "\\\\").replace "'" "'\\''").replace "[" "\\[").replace "]" "\\]").replace ":" "\\:").replace
    "$" "\\$").replace "\x60" "\\\x60").replace "(" "\\(").replace ")" "\\)").replace " " "\\ "

/-- How the value of an argument is completed: its choices, described when any choice
has a description, files for paths, and the default completion otherwise. -/
def action (a : Arg) : String :=
  match a.values with
  | .choice cs =>
    if cs.any (·.help.isSome) then
      "((" ++ "\n".intercalate (cs.map fun ch =>
        escapeValue ch.name ++ "\\:\"" ++ escapeHelp (ch.help.getD "") ++ "\"") ++ "))"
    else "(" ++ " ".intercalate (cs.map (·.name)) ++ ")"
  | .path => "_files"
  | _ => "_default"

/-- The specifications of an option. -/
def optionSpecs (a : Arg) : List String :=
  let help := escapeHelp a.help
  let many := if a.effect == .append then "*" else ""
  let value := ":" ++ a.valueName ++ ":" ++ action a
  (match a.short with
    | some s => ["'" ++ many ++ "-" ++ String.singleton s ++ "+[" ++ help ++ "]" ++ value ++ "' \\"]
    | none => []) ++
  (match a.long with
    | some l => ["'" ++ many ++ "--" ++ l ++ "=[" ++ help ++ "]" ++ value ++ "' \\"]
    | none => [])

/-- The specifications of a switch. -/
def switchSpecs (a : Arg) : List String :=
  let help := escapeHelp a.help
  let many := if a.effect == .append then "*" else ""
  (match a.short with
    | some s => ["'" ++ many ++ "-" ++ String.singleton s ++ "[" ++ help ++ "]' \\"]
    | none => []) ++
  (match a.long with
    | some l => ["'" ++ many ++ "--" ++ l ++ "[" ++ help ++ "]' \\"]
    | none => [])

/-- The specification of a positional argument. -/
def positionalSpec (hasSubcommands : Bool) (a : Arg) : String :=
  let cardinality :=
    if a.isMultiple && !hasSubcommands then "*:" else if !a.required then ":" else ""
  let help :=
    if a.help.isEmpty then ""
    else (((((" -- " ++ a.help).replace "[" "\\[").replace "]" "\\]").replace "'" "'\\''").replace ":" "\\:")
  "'" ++ cardinality ++ ":" ++ a.id ++ help ++ ":" ++ action a ++ "' \\"

/-- The name of the function listing the subcommands of a command. -/
def listerName (bin : String) (path : List String) : String :=
  "_" ++ "__".intercalate (bin :: path) ++ "_commands"

/-- The `_arguments` call of a command. -/
def arguments (bin : String) (path : List String) (c : Interface) : String :=
  let opts := c.options.flatMap optionSpecs
  let switches := c.switches.flatMap switchSpecs
  let positionals := c.positionals.map (positionalSpec !c.subcommands.isEmpty)
  let block (xs : List String) : List String := if xs.isEmpty then [] else ["\n".intercalate xs]
  let descent := if c.subcommands.isEmpty then []
    else ["\":: :" ++ listerName bin path ++ "\" \\", "\"*::: :->" ++ c.name ++ "\" \\"]
  "\n".intercalate (["_arguments \"$\x7b_arguments_options[@]\x7d\" : \\"] ++ block opts ++ block switches ++
    block positionals ++ descent ++ ["&& ret=0"])

/-- The descent into the subcommands of a command, `depth` levels at most. -/
def descent (bin : String) : Nat → List String → Interface → String
  | 0, _, _ => ""
  | depth + 1, path, c =>
    if c.subcommands.isEmpty then ""
    else
      let pos := toString (c.positionals.length + 1)
      let branches := c.subcommands.map fun s =>
        let below := descent bin depth (path ++ [s.name]) s
        "\n".intercalate (["(" ++ s.name ++ ")", arguments bin (path ++ [s.name]) s] ++
          (if below.isEmpty then [] else [below]) ++ [";;"])
      "\n    case $state in\n" ++
      "    (" ++ c.name ++ ")\n" ++
      "        words=($line[" ++ pos ++ "] \"$\x7bwords[@]\x7d\")\n" ++
      "        (( CURRENT += 1 ))\n" ++
      "        curcontext=\"$\x7bcurcontext%:*:*\x7d:" ++ "-".intercalate (bin :: path) ++ "-command-$line[" ++ pos ++ "]:\"\n" ++
      "        case $line[" ++ pos ++ "] in\n" ++
      "            " ++ "\n".intercalate branches ++ "\n" ++
      "        esac\n" ++
      "    ;;\n" ++
      "esac"

/-- The function listing the subcommands of a command. -/
def lister (bin : String) (path : List String) (c : Interface) : String :=
  let entries := c.subcommands.map fun s => "'" ++ s.name ++ ":" ++ escapeHelp (s.about.getD "") ++ "' \\"
  let listed := if entries.isEmpty then "" else "\n".intercalate ("" :: entries ++ ["    "])
  "(( $+functions[" ++ listerName bin path ++ "] )) ||\n" ++
  listerName bin path ++ "() \x7b\n" ++
  "    local commands; commands=(" ++ listed ++ ")\n" ++
  "    _describe -t commands '" ++ " ".intercalate (bin :: path) ++ " commands' commands \"$@\"\n" ++
  "\x7d"

/-- The completion script for zsh. -/
def script : String :=
  let bin := completionProgram.name
  let below := (completionPlaces.filter (!·.path.isEmpty)).map fun p => (" ".intercalate (bin :: p.path), p)
  let listers := lister bin [] completionProgram ::
    ((below.mergeSort fun a b => decide (a.1 ≤ b.1)).map fun (_, p) => lister bin p.path p.command)
  "#compdef " ++ bin ++ "\n\n" ++
  "autoload -U is-at-least\n\n" ++
  "_" ++ bin ++ "() \x7b\n" ++
  "    typeset -A opt_args\n" ++
  "    typeset -a _arguments_options\n" ++
  "    local ret=1\n\n" ++
  "    if is-at-least 5.2; then\n" ++
  "        _arguments_options=(-s -S -C)\n" ++
  "    else\n" ++
  "        _arguments_options=(-s -C)\n" ++
  "    fi\n\n" ++
  "    local context curcontext=\"$curcontext\" state line\n" ++
  "    " ++ arguments bin [] completionProgram ++ descent bin 8 [] completionProgram ++ "\n" ++
  "\x7d\n\n" ++
  "\n".intercalate listers ++ "\n\n" ++
  "if [ \"$funcstack[1]\" = \"_" ++ bin ++ "\" ]; then\n" ++
  "    _" ++ bin ++ " \"$@\"\n" ++
  "else\n" ++
  "    compdef _" ++ bin ++ " " ++ bin ++ "\n" ++
  "fi\n"

end CodeNotes.Cli.Zsh
