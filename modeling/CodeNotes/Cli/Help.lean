import CodeNotes.Cli.Spec
set_option autoImplicit false

/-!
# Help and usage text

Normative source: SPEC_FULL.md §11.4 (Command line front end).

The help of a command has its description, a usage line, its subcommands, positional
arguments and options, each in a section, and the text after the help.  It comes in a
short and a long form; the long one differs only for commands that have more to say:
a long description, or choices that explain themselves.  In the long form every
argument's description stands on the lines below it, indented by ten columns, with a
blank line between arguments, and choices are listed one per line.  In the short form
descriptions stand in a column two places right of the widest name.

A usage line names the command, `[OPTIONS]` when it has options beyond help and
version, its positional arguments, and `<COMMAND>` or `[COMMAND]` for a subcommand
that must or may follow.  When a line is about some arguments in particular, it names
the required ones and those instead.
-/

namespace CodeNotes.Cli

open Interface

/-- The width text takes: its number of characters. -/
def width (s : String) : Nat := s.length

/-- A run of spaces. -/
def spaces (n : Nat) : String := String.ofList (List.replicate n ' ')

/-- Every line break followed by an indent. -/
def indentLines (indent : String) (s : String) : String := s.replace "\n" ("\n" ++ indent)

/-- Text without the whitespace at its end. -/
def trimEnd (s : String) : String := String.ofList (s.toList.reverse.dropWhile Char.isWhitespace).reverse

/-- Text without its first line when that line is blank. -/
def dropBlankFirstLine (s : String) : String :=
  match s.toList.splitOn '\n' with
  | first :: rest@(_ :: _) => if first.all Char.isWhitespace then "\n".intercalate (rest.map String.ofList) else s
  | _ => s

/-- The width of the terminal help is laid out for. -/
def termWidth : Nat := 100

namespace Interface

/-- Whether a usage line needs `[OPTIONS]`: some option other than help and version
that is not required. -/
def needsOptionsTag (c : Interface) : Bool :=
  c.named.any fun a => a.long != some "help" && a.long != some "version" && !a.required

/-- The positional part of a usage line: required ones in angle brackets, the others in
square brackets. -/
def positionalUsage (c : Interface) : List String :=
  c.positionals.map (·.suffix none)

/-- The usage line of a command reached as `bin`. -/
def usage (c : Interface) (bin : String) : String :=
  let opts := if c.needsOptionsTag then " [OPTIONS]" else ""
  let pos := String.join (c.positionalUsage.map (" " ++ ·))
  let sub := if c.subcommands.isEmpty then ""
    else if c.subcommandRequired then " <COMMAND>" else " [COMMAND]"
  bin ++ opts ++ pos ++ sub

/-- The usage line about the arguments `used`: the command, the required arguments and
those, options first, positionals in their order. -/
def usageFor (c : Interface) (bin : String) (used : List String) : String :=
  let wanted := (c.args.filter (·.required)).map (·.id) ++ used
  let opts := (wanted.filterMap fun i => c.named.find? (·.id == i)).map (·.display (some true))
  let pos := (c.positionals.filter fun a => wanted.contains a.id).map (·.display (some true))
  let parts := opts.eraseDups ++ pos
  let sub := if c.subcommandRequired then " <COMMAND>" else ""
  bin ++ String.join (parts.map (" " ++ ·)) ++ sub

end Interface

/-- How help is laid out for one command. -/
structure Layout where
  long : Bool

namespace Layout

/-- The help text of an argument in this layout. -/
def argHelp (l : Layout) (a : Arg) : String :=
  if l.long then a.longHelp.getD a.help else a.help

/-- Whether the choices of an argument are listed one per line. -/
def listsChoices (l : Layout) (a : Arg) : Bool := l.long && a.choicesHaveHelp

/-- The bracketed notes after an argument's description: its default and, unless they
are listed, its choices. -/
def notes (l : Layout) (a : Arg) : String :=
  let dflt := match a.default with
    | some d => ["[default: " ++ (if d.any Char.isWhitespace then "\"" ++ d ++ "\"" else d) ++ "]"]
    | none => []
  let chs := if a.choices.isEmpty || l.listsChoices a then []
    else ["[possible values: " ++ ", ".intercalate (a.choices.map (·.name)) ++ "]"]
  (if l.long then "\n" else " ").intercalate (dflt ++ chs)

/-- Whether an argument's description goes below its name. -/
def belowName (l : Layout) (a : Arg) (longest : Nat) : Bool :=
  l.long ||
    let taken := longest + 4
    let helpWidth := width (l.argHelp a) + width (l.notes a)
    termWidth ≥ taken && taken * 10 > termWidth * 4 && helpWidth > termWidth - taken

/-- The description of an argument or subcommand, placed at the given indent. -/
def describe (l : Layout) (a : Option Arg) (about notes : String) (below : Bool) (longest : Nat) : String :=
  let lead := if below then "\n" ++ spaces 10 else ""
  let indent := spaces (if below then 10 else longest + 4)
  let text := indentLines indent about
  let listed := match a with
    | some arg =>
      if l.listsChoices arg then
        let widest := (arg.choices.map (width ·.name)).foldl max 0
        let header := (if about.isEmpty then "" else "\n\n" ++ indent) ++ "Possible values:"
        header ++ String.join (arg.choices.map fun ch =>
          "\n" ++ indent ++ "- " ++ ch.name ++
            match ch.help with
            | some h => ": " ++ spaces (widest - width ch.name) ++ h
            | none => "")
      else ""
    | none => ""
  let tail := if notes.isEmpty then ""
    else
      let sep := if about.isEmpty && listed.isEmpty then "" else if l.long && a.isSome then "\n\n" else " "
      indentLines indent (sep ++ notes)
  lead ++ text ++ listed ++ tail

/-- The line of one argument. -/
def argLine (l : Layout) (a : Arg) (below : Bool) (longest : Nat) : String :=
  let shortPart := match a.short with
    | some s => "-" ++ String.singleton s
    | none => if a.long.isSome then "    " else ""
  let longPart := match a.long with
    | some lg => (if a.short.isSome then ", " else "") ++ "--" ++ lg
    | none => ""
  let name := shortPart ++ longPart ++ a.suffix none
  let pad := if below then 0
    else if a.isPositional then longest + 2 - width (a.display)
    else if a.long.isSome then longest + 2 - width (a.display)
    else longest + 6 - width (a.display)
  "  " ++ name ++ spaces pad ++ l.describe (some a) (l.argHelp a) (l.notes a) below longest

/-- Sort key of an option: its place, then its short name lowercased (lowercase first),
its long name, or its identity. -/
def optionKey (a : Arg) : Nat × String :=
  (a.order, match a.short, a.long with
    | some s, _ => String.singleton s.toLower ++ (if s.isLower then "0" else "1")
    | none, some lg => lg
    | none, none => "\x7b" ++ a.id)

/-- Whether one option key sorts before another. -/
def keyLe (x y : Nat × String) : Bool := x.1 < y.1 || (x.1 == y.1 && decide (x.2 ≤ y.2))

/-- The lines of a list of arguments. -/
def argLines (l : Layout) (args : List Arg) (positional : Bool) : String :=
  let longest := (args.filter fun a => a.takesValue || a.long.isSome || a.short.isNone).foldl
    (fun m a => max m (width a.display)) 2
  let sorted := if positional then args else args.mergeSort fun a b => keyLe (optionKey a) (optionKey b)
  let below := args.any fun a => l.belowName a longest
  let sep := if below && l.long then "\n\n" else "\n"
  sep.intercalate (sorted.map fun a => l.argLine a below longest)

/-- The lines of the subcommands. -/
def subcommandLines (l : Layout) (subs : List Interface) : String :=
  let longest := (subs.map (width ·.name)).foldl max 2
  "\n".intercalate (subs.map fun s =>
    "  " ++ s.name ++ spaces (longest + 2 - width s.name) ++
      l.describe none ((s.about.orElse fun _ => s.longAbout).getD "") "" false longest)

/-- The sections of subcommands, positional arguments and options. -/
def sections (l : Layout) (c : Interface) : String :=
  let parts := (if c.subcommands.isEmpty then [] else ["Commands:\n" ++ l.subcommandLines c.subcommands]) ++
    (if c.positionals.isEmpty then [] else ["Arguments:\n" ++ l.argLines c.positionals true]) ++
    (if c.named.isEmpty then [] else ["Options:\n" ++ l.argLines c.named false])
  "\n\n".intercalate parts

end Layout

/-- The help of a command reached as `bin`, short or long as asked; the long form is
used only where it differs. -/
def Interface.help (c : Interface) (bin : String) (long : Bool) : String :=
  let l : Layout := ⟨long && c.hasLongHelp⟩
  let about := if l.long then c.longAbout.orElse fun _ => c.about else c.about
  let body := (match about with | some a => a ++ "\n" | none => "") ++ "\nUsage: " ++ c.usage bin ++
    "\n\n" ++ l.sections c ++ (match c.afterHelp with | some t => "\n\n" ++ t | none => "")
  trimEnd (dropBlankFirstLine body) ++ "\n"

end CodeNotes.Cli
