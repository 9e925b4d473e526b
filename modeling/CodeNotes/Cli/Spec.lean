set_option autoImplicit false

/-!
# The command-line interface as data

Normative source: SPEC_FULL.md §11.4 (Command line front end).

A command is described by its name, its one-line and long descriptions, the text shown
after its help, its arguments and its subcommands.  An argument is a switch, an option
that takes a value, or a positional value; values are free text, paths, line numbers,
or one of a fixed list of choices.

The description as written is completed before use, the way every command line of
this kind is: each command gets a help switch, the top command a version switch, every
command with subcommands a `help` subcommand, and global switches are copied into
every subcommand except the `help` ones.  Help, usage, parsing and shell completions
are all read off the completed description.
-/

namespace CodeNotes.Cli

/-- One of the fixed values an argument accepts, with what it means. -/
structure Choice where
  name : String
  help : Option String := none
  deriving DecidableEq, Repr

/-- How the values of an argument are read. -/
inductive ValueType where
  | text
  | path
  /-- A line number: an unsigned 32-bit count no smaller than `least`. -/
  | line (least : Nat)
  | choice (choices : List Choice)
  deriving DecidableEq, Repr

/-- What an argument does when it is given. -/
inductive Effect where
  /-- A switch that turns a setting on. -/
  | setTrue
  /-- One value. -/
  | set
  /-- Values collected from every use. -/
  | append
  /-- Prints help. -/
  | help
  /-- Prints the version. -/
  | version
  deriving DecidableEq, Repr

/-- One argument of a command. -/
structure Arg where
  id : String
  short : Option Char := none
  long : Option String := none
  /-- The name of the value in help, for arguments that take one. -/
  valueName : String := ""
  help : String := ""
  longHelp : Option String := none
  effect : Effect := .set
  values : ValueType := .text
  required : Bool := false
  default : Option String := none
  global : Bool := false
  /-- The place among the named arguments of its command, for help order. -/
  order : Nat := 999
  deriving DecidableEq, Repr

namespace Arg

/-- Positional arguments have neither a short nor a long name. -/
def isPositional (a : Arg) : Bool := a.short.isNone && a.long.isNone

/-- Whether the argument takes a value. -/
def takesValue (a : Arg) : Bool := a.effect == .set || a.effect == .append

/-- A positional argument that collects several values. -/
def isMultiple (a : Arg) : Bool := a.isPositional && a.effect == .append

/-- The choices an argument accepts, if it has a fixed list. -/
def choices (a : Arg) : List Choice :=
  match a.values with
  | .choice cs => cs
  | _ => []

/-- Whether some choice of the argument has a description. -/
def choicesHaveHelp (a : Arg) : Bool := a.choices.any (·.help.isSome)

/-- A name or value suffix as it is written: `<NAME>`, `[NAME]...`; `required` forces the
angle brackets of a required value. -/
def suffix (a : Arg) (required : Option Bool) : String :=
  if a.isPositional then
    let req := required.getD a.required
    let dots := if a.isMultiple then "..." else ""
    if req then "<" ++ a.valueName ++ ">" ++ dots else "[" ++ a.valueName ++ "]" ++ dots
  else if a.takesValue then " <" ++ a.valueName ++ ">"
  else ""

/-- The argument as messages name it: `--long <VALUE>`, `-s`, `<NAME>`. -/
def display (a : Arg) (required : Option Bool := none) : String :=
  match a.long, a.short with
  | some l, _ => "--" ++ l ++ a.suffix required
  | none, some s => "-" ++ String.singleton s ++ a.suffix required
  | none, none => a.suffix required

end Arg

/-- A command: what it is called, what it says about itself, and what it accepts. -/
structure Interface where
  name : String
  about : Option String := none
  longAbout : Option String := none
  afterHelp : Option String := none
  args : List Arg := []
  subcommands : List Interface := []
  /-- A subcommand must be given. -/
  subcommandRequired : Bool := false
  version : Option String := none

namespace Interface

/-- The positional arguments, in order. -/
def positionals (c : Interface) : List Arg := c.args.filter (·.isPositional)

/-- The named arguments, in order. -/
def named (c : Interface) : List Arg := c.args.filter (!·.isPositional)

/-- The argument with a long name. -/
def findLong (c : Interface) (l : String) : Option Arg := c.args.find? (·.long == some l)

/-- The argument with a short name. -/
def findShort (c : Interface) (s : Char) : Option Arg := c.args.find? (·.short == some s)

/-- The subcommand with a name. -/
def findSub (c : Interface) (n : String) : Option Interface := c.subcommands.find? (·.name == n)

/-- Whether `help` would show more with the long form: a long description, or choices
that explain themselves. -/
def hasLongHelp (c : Interface) : Bool :=
  c.longAbout.isSome || c.args.any fun a => a.longHelp.isSome || a.choicesHaveHelp

/-- The help switch of a command. -/
def helpArg (long : Bool) : Arg :=
  if long then
    { id := "help", short := some 'h', long := some "help", effect := .help,
      help := "Print help (see more with '--help')", longHelp := some "Print help (see a summary with '-h')" }
  else { id := "help", short := some 'h', long := some "help", effect := .help, help := "Print help" }

/-- The version switch of the top command. -/
def versionArg : Arg :=
  { id := "version", short := some 'V', long := some "version", effect := .version, help := "Print version" }

/-- What the `help` subcommand says about itself. -/
def helpAbout : String := "Print this message or the help of the given subcommand(s)"

/-- The `help` subcommand of a command whose subcommands are `subs`.  For reading a
command line it takes the names of the subcommands to explain; for completion it
names the same subcommands instead, down every level, and a `help` of its own. -/
def helpCommand (forCompletion : Bool) (subs : List Interface) : Interface :=
  if forCompletion then
    { name := "help", about := some helpAbout,
      subcommands := names 8 subs ++ [{ name := "help", about := some helpAbout }] }
  else
    { name := "help", about := some helpAbout,
      args := [{ id := "subcommand", valueName := "COMMAND", effect := .append,
                 help := "Print help for the subcommand(s)" }] }
where
  /-- The subcommands by name and description only, `depth` levels down. -/
  names : Nat → List Interface → List Interface
    | 0, _ => []
    | depth + 1, subs => subs.map fun s => { name := s.name, about := s.about, subcommands := names depth s.subcommands }

/-- Numbers the named arguments in the order they are declared, from `start`. -/
def numberNamed (start : Nat) (args : List Arg) : List Arg :=
  (args.foldl (fun (acc, n) a =>
    if a.isPositional then (acc ++ [a], n) else (acc ++ [{ a with order := n }], n + 1)) ([], start)).1

/-- Completes a command, for reading command lines or for completion: the named arguments numbered after the subcommands, which are
declared first, global switches copied in, a help switch, a version switch when
the command has a version, and a `help` subcommand when it has subcommands.
`depth` bounds the levels completed. -/
def complete (forCompletion : Bool) (globals : List Arg) : Nat → Interface → Interface
  | 0, c => c
  | depth + 1, c =>
    let mine := numberNamed c.subcommands.length c.args
    let own := mine ++ globals.filter fun g => !mine.any (·.id == g.id)
    let subs := c.subcommands.map (complete forCompletion (own.filter (·.global)) depth)
    let withHelp := if c.subcommands.isEmpty then subs else subs ++ [helpCommand forCompletion c.subcommands]
    { c with
      args := own ++ [helpArg { c with args := own }.hasLongHelp] ++
        (if c.version.isSome then [versionArg] else [])
      subcommands := withHelp }

end Interface

end CodeNotes.Cli
