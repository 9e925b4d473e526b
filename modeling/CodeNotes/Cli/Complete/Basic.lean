import CodeNotes.Cli.Program
set_option autoImplicit false

/-!
# What completion scripts are written from

Normative source: SPEC_FULL.md §11.4 (Command line front end).

Every completion script is read off the completion tree of the program
(`completionProgram`): its commands visited in order, each with the names that lead to
it, and for each command its options (named arguments that take a value), its switches
(named arguments that do not), its short and long names, and the values a positional
argument is limited to.  Options are always listed before switches, each kind in the
order it was declared.
-/

namespace CodeNotes.Cli

/-- A command of the completion tree with the subcommand names that lead to it from the
program. -/
structure Place where
  path : List String
  command : Interface

namespace Interface

/-- The named arguments that take a value. -/
def options (c : Interface) : List Arg := c.args.filter fun a => !a.isPositional && a.takesValue

/-- The named arguments that take no value. -/
def switches (c : Interface) : List Arg := c.args.filter fun a => !a.isPositional && !a.takesValue

/-- The short names of the arguments, in declaration order. -/
def shortNames (c : Interface) : List Char := c.args.filterMap (·.short)

/-- The long names of the arguments, in declaration order. -/
def longNames (c : Interface) : List String := c.args.filterMap (·.long)

/-- The values positional arguments are limited to, in order. -/
def positionalChoices (c : Interface) : List String :=
  c.positionals.flatMap fun a => a.choices.map (·.name)

/-- The names of the subcommands. -/
def subcommandNames (c : Interface) : List String := c.subcommands.map (·.name)

/-- The commands under a command, the command first and each subtree in order; `depth`
bounds the levels visited. -/
def places (depth : Nat) (path : List String) (c : Interface) : List Place :=
  match depth with
  | 0 => []
  | depth + 1 => ⟨path, c⟩ :: c.subcommands.flatMap fun s => places depth (path ++ [s.name]) s

end Interface

/-- The commands of the completion tree, the program first. -/
def completionPlaces : List Place := Interface.places 8 [] completionProgram

/-- Sorts texts by code point, which for these texts is the order of their bytes. -/
def sortTexts (xs : List String) : List String := xs.mergeSort fun a b => decide (a ≤ b)

end CodeNotes.Cli
