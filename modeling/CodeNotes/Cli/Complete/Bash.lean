import CodeNotes.Cli.Complete.Basic
set_option autoImplicit false

/-!
# Completion script for bash

Every command gets a function name: the program's name, then `__subcmd__` and the
subcommand's name for each level, dashes written `__`.  The script first walks the
words typed so far to find the command they reach, by a table from a parent's name and
a word to the child's name, sorted.  Then, by that name (the program first, the rest
sorted), it offers the command's words: short names, long names, the values its
positional arguments are limited to, and its subcommands.  After an option that takes
a value it offers the option's choices, or file names when it has none.
-/

namespace CodeNotes.Cli.Bash

/-- The function name of a command reached by a path. -/
def functionName (bin : String) (path : List String) : String :=
  String.join ((bin :: path).intersperse "__subcmd__" |>.map (·.replace "-" "__"))

/-- The words a command offers. -/
def offered (c : Interface) : String :=
  " ".intercalate (c.shortNames.map (fun s => "-" ++ String.singleton s) ++
    c.longNames.map ("--" ++ ·) ++ c.positionalChoices ++ c.subcommandNames)

/-- What is offered after an option that takes a value. -/
def valuesFor (a : Arg) : String :=
  match a.values with
  | .choice cs => "$(compgen -W \"" ++ " ".intercalate (cs.map (·.name)) ++ "\" -- \"$\x7bcur\x7d\")"
  | _ => "$(compgen -f \"$\x7bcur\x7d\")"

/-- The cases for the word before the one completed: one per name of each option. -/
def optionCases (c : Interface) : String :=
  let one (name : String) (a : Arg) : String :=
    "\n                " ++ name ++ ")" ++
    "\n                    COMPREPLY=(" ++ valuesFor a ++ ")" ++
    "\n                    return 0" ++
    "\n                    ;;"
  String.join (c.options.map fun a =>
    (match a.long with
      | some l => one ("--" ++ l) a
      | none => "") ++
    (match a.short with
      | some s => one ("-" ++ String.singleton s) a
      | none => ""))

/-- The case of one command. -/
def commandCase (name : String) (level : Nat) (c : Interface) : String :=
  name ++ ")\n" ++
  "            opts=\"" ++ offered c ++ "\"\n" ++
  "            if [[ $\x7bcur\x7d == -* || $\x7bCOMP_CWORD\x7d -eq " ++ toString level ++ " ]] ; then\n" ++
  "                COMPREPLY=( $(compgen -W \"$\x7bopts\x7d\" -- \"$\x7bcur\x7d\") )\n" ++
  "                return 0\n" ++
  "            fi\n" ++
  "            case \"$\x7bprev\x7d\" in" ++ optionCases c ++ "\n" ++
  "                *)\n" ++
  "                    COMPREPLY=()\n" ++
  "                    ;;\n" ++
  "            esac\n" ++
  "            COMPREPLY=( $(compgen -W \"$\x7bopts\x7d\" -- \"$\x7bcur\x7d\") )\n" ++
  "            return 0\n" ++
  "            ;;"

/-- The step from a parent to a child by the child's name, as the walk table has it:
the parent's function name, the word, the child's function name. -/
def steps (bin : String) : List (String × String × String) :=
  (completionPlaces.filter (!·.path.isEmpty)).map fun p =>
    (functionName bin p.path.dropLast, p.path.getLastD "", functionName bin p.path)

/-- Whether one step sorts before another: by parent, then word, then child. -/
def stepLe (a b : String × String × String) : Bool :=
  decide (a.1 < b.1) || (a.1 == b.1 && (decide (a.2.1 < b.2.1) || (a.2.1 == b.2.1 && decide (a.2.2 ≤ b.2.2))))

/-- The completion script for bash. -/
def script : String :=
  let bin := completionProgram.name
  let top := functionName bin []
  let walk := ((steps bin).mergeSort stepLe).map fun (parent, word, child) =>
    "\n            " ++ parent ++ "," ++ word ++ ")\n                cmd=\"" ++ child ++ "\"\n                ;;"
  let below := (completionPlaces.filter (!·.path.isEmpty)).map fun p =>
    (functionName bin p.path, p.path.length + 1, p.command)
  let sections := (below.mergeSort fun a b => decide (a.1 ≤ b.1)).map fun (name, level, c) =>
    "\n        " ++ commandCase name level c
  "_" ++ bin ++ "() \x7b\n" ++
  "    local i cur prev opts cmd\n" ++
  "    COMPREPLY=()\n" ++
  "    if [[ \"$\x7bBASH_VERSINFO[0]\x7d\" -ge 4 ]]; then\n" ++
  "        cur=\"$2\"\n" ++
  "    else\n" ++
  "        cur=\"$\x7bCOMP_WORDS[COMP_CWORD]\x7d\"\n" ++
  "    fi\n" ++
  "    prev=\"$3\"\n" ++
  "    cmd=\"\"\n" ++
  "    opts=\"\"\n\n" ++
  "    for i in \"$\x7bCOMP_WORDS[@]:0:COMP_CWORD\x7d\"\n" ++
  "    do\n" ++
  "        case \"$\x7bcmd\x7d,$\x7bi\x7d\" in\n" ++
  "            \",$1\")\n" ++
  "                cmd=\"" ++ top ++ "\"\n" ++
  "                ;;" ++ String.join walk ++ "\n" ++
  "            *)\n" ++
  "                ;;\n" ++
  "        esac\n" ++
  "    done\n\n" ++
  "    case \"$\x7bcmd\x7d\" in\n" ++
  "        " ++ commandCase top 1 completionProgram ++ String.join sections ++ "\n" ++
  "    esac\n" ++
  "\x7d\n\n" ++
  "if [[ \"$\x7bBASH_VERSINFO[0]\x7d\" -eq 4 && \"$\x7bBASH_VERSINFO[1]\x7d\" -ge 4 || \"$\x7bBASH_VERSINFO[0]\x7d\" -gt 4 ]]; then\n" ++
  "    complete -F _" ++ bin ++ " -o nosort -o bashdefault -o default " ++ bin ++ "\n" ++
  "else\n" ++
  "    complete -F _" ++ bin ++ " -o bashdefault -o default " ++ bin ++ "\n" ++
  "fi\n"

end CodeNotes.Cli.Bash
