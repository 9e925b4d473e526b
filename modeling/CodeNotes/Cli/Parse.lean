import CodeNotes.Cli.Help
import CodeNotes.Cli.Similar
set_option autoImplicit false

/-!
# Reading a command line

Normative source: SPEC_FULL.md §11.4 (Command line front end).

The words after the program's name are read one at a time against the command they
reach.  A subcommand's name moves reading into that subcommand.  `--` makes every later
word a positional value.  `--name` and `--name=value` are long options, `-abc` a
cluster of short ones where an option that takes a value takes the rest of the cluster
(after an optional `=`) or else the next word; any other word is the value an option is
waiting for, or the next positional value.  Help and version switches stop reading at
once with their text; so does the `help` subcommand, with the long help of the
subcommand its words name.

Values are checked as they are read: a line number is a decimal count that fits in 32
bits and is not below its least value, a choice is one of its list, and a path is not
empty.  Once the words run out an option still waiting for its value, a missing
required argument, or a missing subcommand is an error; a command that must have a
subcommand and got no words at all answers with its help instead.  Options with a
default get it when they were not given.

Every refusal is written as `error:` and a message, suggestions when a similar word
exists, the usage line where it helps, and a pointer to `--help`.
-/

namespace CodeNotes.Cli

/-- Why a command line was refused. -/
inductive ParseError where
  /-- A word that names no option, or a value with no place to go. -/
  | unexpectedArgument (word : String) (similar : Option String) (elsewhere : Option String)
      (valueTip : Bool) (usage : String)
  /-- A word in the place of a subcommand that resembles some. -/
  | invalidSubcommand (word : String) (similar : List String) (usage : String)
  /-- A word in the place of a subcommand that resembles none. -/
  | unrecognizedSubcommand (word : String) (usage : String)
  /-- A value outside an argument's choices. -/
  | invalidChoice (arg value : String) (valid : List String)
  /-- No value for an argument that needs one, with the choices it has. -/
  | emptyValue (arg : String) (valid : List String)
  /-- A value that does not read as the argument's kind of value. -/
  | invalidValue (arg value reason : String)
  /-- Required arguments that were not given. -/
  | missingRequired (args : List String) (usage : String)
  /-- A command that needs a subcommand got options only. -/
  | missingSubcommand (bin : String) (subs : List String) (usage : String)
  /-- An argument given twice that takes one use. -/
  | repeated (arg : String) (usage : String)
  /-- A value attached to a switch. -/
  | unexpectedValue (value arg : String) (usage : String)
  /-- No words at all for a command that needs a subcommand: its help. -/
  | helpInstead (text : String)
  deriving DecidableEq, Repr

namespace ParseError

/-- A suggestion line. -/
def tip (text : String) : String := "\n  tip: " ++ text

/-- Quotes the words of a list, comma-separated. -/
def quotedList (ws : List String) : String := ", ".intercalate (ws.map fun w => "'" ++ w ++ "'")

/-- The list of values a message offers. -/
def valuesList (name : String) (vs : List String) : String :=
  if vs.isEmpty then ""
  else "\n  [" ++ name ++ ": " ++ ", ".intercalate (vs.map fun v =>
    if v.any Char.isWhitespace then "\"" ++ v ++ "\"" else v) ++ "]"

/-- The text written for a refused command line. -/
def render : ParseError → String
  | .helpInstead text => text
  | e =>
    let (message, suggestions, usage) := parts e
    "error: " ++ message ++ suggestions ++
      (match usage with | some u => "\n\nUsage: " ++ u | none => "") ++
      "\n\nFor more information, try '--help'.\n"
where
  /-- The message, the suggestion lines and the usage line of an error. -/
  parts : ParseError → String × String × Option String
    | .unexpectedArgument w similar elsewhere valueTip usage =>
      let first := match similar with
        | some s => "\n" ++ tip ("a similar argument exists: '" ++ s ++ "'")
        | none => ""
      let tips := (if valueTip then [tip ("to pass '" ++ w ++ "' as a value, use '-- " ++ w ++ "'")] else []) ++
        (match elsewhere with | some e => [tip ("'" ++ e ++ "' exists")] | none => [])
      let lead := if similar.isNone && !tips.isEmpty then "\n" else ""
      ("unexpected argument '" ++ w ++ "' found", first ++ lead ++ String.join tips, some usage)
    | .invalidSubcommand w similar usage =>
      let tipText := if similar.length == 1 then "a similar subcommand exists: " else "some similar subcommands exist: "
      ("unrecognized subcommand '" ++ w ++ "'", "\n" ++ tip (tipText ++ quotedList similar), some usage)
    | .unrecognizedSubcommand w usage => ("unrecognized subcommand '" ++ w ++ "'", "", some usage)
    | .invalidChoice arg value valid =>
      let similar := match closestWord value valid with
        | some s => "\n" ++ tip ("a similar value exists: '" ++ s ++ "'")
        | none => ""
      ("invalid value '" ++ value ++ "' for '" ++ arg ++ "'" ++ valuesList "possible values" valid, similar, none)
    | .emptyValue arg valid =>
      ("a value is required for '" ++ arg ++ "' but none was supplied" ++ valuesList "possible values" valid, "", none)
    | .invalidValue arg value reason => ("invalid value '" ++ value ++ "' for '" ++ arg ++ "': " ++ reason, "", none)
    | .missingRequired args usage =>
      ("the following required arguments were not provided:" ++ String.join (args.map ("\n  " ++ ·)), "", some usage)
    | .missingSubcommand bin subs usage =>
      ("'" ++ bin ++ "' requires a subcommand but one was not provided" ++ valuesList "subcommands" subs, "", some usage)
    | .repeated arg usage => ("the argument '" ++ arg ++ "' cannot be used multiple times", "", some usage)
    | .unexpectedValue value arg usage =>
      ("unexpected value '" ++ value ++ "' for '" ++ arg ++ "' found; no more were expected", "", some usage)
    | .helpInstead text => (text, "", none)

end ParseError

/-- What a command line asks for once read. -/
structure Invocation where
  /-- The names of the commands reached, below the program. -/
  path : List String
  /-- The values given or defaulted, by argument, at every level reached. -/
  values : List (String × List String)
  deriving DecidableEq, Repr

namespace Invocation

/-- The values of an argument. -/
def get (i : Invocation) (id : String) : List String := (i.values.lookup id).getD []

/-- The one value of an argument. -/
def get? (i : Invocation) (id : String) : Option String := (i.get id).head?

/-- Whether a switch was given. -/
def flag (i : Invocation) (id : String) : Bool := i.get? id == some "true"

end Invocation

/-- Why reading stopped before a command could run. -/
inductive Halt where
  /-- Help was asked for; it goes to standard output. -/
  | help (text : String)
  /-- The version was asked for. -/
  | version (text : String)
  /-- The command line was refused. -/
  | refused (e : ParseError)
  deriving DecidableEq, Repr

/-- How an argument was written. -/
inductive Written where
  | short
  | long
  | positional
  deriving DecidableEq, Repr

/-- The largest line number. -/
def lineLimit : Nat := 4294967295

/-- The decimal value of a word as an unsigned count, or why it is none: an optional
`+`, then digits only. -/
def readCount (w : String) : Except String Nat :=
  let digits := match w.toList with
    | '+' :: rest => rest
    | cs => cs
  if w.isEmpty then .error "cannot parse integer from empty string"
  else if digits.isEmpty || !digits.all Char.isDigit then .error "invalid digit found in string"
  else
    let n := digits.foldl (fun n c => 10 * n + (c.toNat - '0'.toNat)) 0
    if n ≥ Nat.pow 2 64 then .error "number too large to fit in target type" else .ok n

/-- Checks one value of an argument. -/
def checkValue (a : Arg) (v : String) : Except ParseError String :=
  match a.values with
  | .text => .ok v
  | .path => if v.isEmpty then .error (.emptyValue a.display []) else .ok v
  | .line least =>
    match readCount v with
    | .error reason => .error (.invalidValue a.display v reason)
    | .ok n =>
      if least ≤ n && n ≤ lineLimit then .ok (toString n)
      else .error (.invalidValue a.display v
        (toString n ++ " is not in " ++ toString least ++ "..=" ++ toString lineLimit))
  | .choice cs =>
    if cs.any (·.name == v) then .ok v else .error (.invalidChoice a.display v (cs.map (·.name)))

/-- Reading one command. -/
structure Level where
  cmd : Interface
  bin : String
  /-- Values given so far, by argument, in the order first given. -/
  given : List (String × List String) := []
  /-- The next positional argument to fill. -/
  nextPositional : Nat := 0
  /-- An option waiting for its value. -/
  pending : Option Arg := none
  /-- Whether `--` has been read. -/
  trailing : Bool := false

namespace Level

/-- The arguments given so far. -/
def used (l : Level) : List String := l.given.map (·.1)

/-- The usage line errors show about what was given: the full usage when nothing was. -/
def usageNow (l : Level) (extra : List String) : String :=
  if l.used.isEmpty && extra.isEmpty then l.cmd.usage l.bin else l.cmd.usageFor l.bin (l.used ++ extra)

/-- Records values of an argument. -/
def record (l : Level) (id : String) (vs : List String) : Level :=
  if l.given.any (·.1 == id) then
    { l with given := l.given.map fun (k, old) => if k == id then (k, old ++ vs) else (k, old) }
  else { l with given := l.given ++ [(id, vs)] }

/-- Fails when an option still waits for its value. -/
def settle (l : Level) : Except Halt Level :=
  match l.pending with
  | some p => .error (.refused (.emptyValue p.display (p.choices.map (·.name))))
  | none => .ok l

/-- Applies an argument given with its values. -/
def accept (l : Level) (a : Arg) (written : Written) (vs : List String) : Except Halt Level := do
  let l ← l.settle
  match a.effect with
  | .help => throw (.help (l.cmd.help l.bin (written != .short)))
  | .version => throw (.version (l.cmd.name ++ " " ++ (l.cmd.version.getD "") ++ "\n"))
  | .setTrue =>
    if l.given.any (·.1 == a.id) then throw (.refused (.repeated a.display (l.cmd.usage l.bin)))
    pure (l.record a.id ["true"])
  | .set =>
    if l.given.any (·.1 == a.id) then throw (.refused (.repeated a.display (l.cmd.usage l.bin)))
    let checked ← (vs.mapM (checkValue a)).mapError Halt.refused
    pure (l.record a.id checked)
  | .append =>
    let checked ← (vs.mapM (checkValue a)).mapError Halt.refused
    pure (l.record a.id checked)

/-- Waits for the value of an option. -/
def await (l : Level) (a : Arg) : Except Halt Level := do
  let l ← l.settle
  pure { l with pending := some a }

/-- The refusal of a word that has no place. -/
def misplaced (l : Level) (w : String) : Halt :=
  let hasPositionals := !l.cmd.positionals.isEmpty
  let flagLike := w.startsWith "-" && w != "-"
  let valueTip := !l.trailing && hasPositionals && flagLike
  if !l.cmd.subcommands.isEmpty then
    let similar := similarWords w (l.cmd.subcommands.map (·.name))
    if !similar.isEmpty then .refused (.invalidSubcommand w similar (l.cmd.usage l.bin))
    else if !hasPositionals then .refused (.unrecognizedSubcommand w (l.cmd.usage l.bin))
    else .refused (.unexpectedArgument w none none valueTip (l.cmd.usage l.bin))
  else .refused (.unexpectedArgument w none none valueTip (l.cmd.usage l.bin))

/-- A positional value. -/
def positional (l : Level) (w : String) : Except Halt Level :=
  match l.cmd.positionals[l.nextPositional]? with
  | some a =>
    if a.isMultiple then l.accept a .positional [w]
    else do
      let l ← l.accept a .positional [w]
      pure { l with nextPositional := l.nextPositional + 1 }
  | none => .error (l.misplaced w)

/-- The refusal of an unknown long option `--name`, with a similar option of this command
or of a subcommand named later on the line. -/
def unknownLong (l : Level) (name : String) (rest : List String) : Halt :=
  let longs := l.cmd.args.filterMap (·.long)
  match closestWord name longs with
  | some s =>
    let suggested := (l.cmd.findLong s).map (·.id)
    .refused (.unexpectedArgument ("--" ++ name) (some ("--" ++ s)) none false (l.usageNow suggested.toList))
  | none =>
    let elsewhere := (l.cmd.subcommands.filterMap fun sc =>
      match closestWord name (sc.args.filterMap (·.long)), rest.idxOf? sc.name with
      | some s, some i => some (i, sc.name ++ " --" ++ s)
      | _, _ => none).foldl (fun best x =>
        match best with
        | some b => if x.1 < b.1 then some x else some b
        | none => some x) none
    let valueTip := elsewhere.isNone && !l.trailing && !l.cmd.positionals.isEmpty
    .refused (.unexpectedArgument ("--" ++ name) none (elsewhere.map (·.2)) valueTip (l.usageNow []))

/-- Reads a cluster of short options. -/
def cluster (l : Level) : List Char → Except Halt Level
  | [] => .ok l
  | c :: more =>
    match l.cmd.findShort c with
    | none =>
      let w := "-" ++ String.singleton c
      .error (.refused (.unexpectedArgument w none none (!l.trailing && !l.cmd.positionals.isEmpty)
        (l.cmd.usage l.bin)))
    | some a =>
      if !a.takesValue then do
        let l ← l.accept a .short []
        cluster l more
      else
        match more with
        | '=' :: v => l.accept a .short [String.ofList v]
        | [] => l.await a
        | v => l.accept a .short [String.ofList v]

end Level

/-- What reading one command's words came to: the words ran out, or a subcommand was
named with the words after it. -/
inductive Reached where
  | done (l : Level)
  | sub (l : Level) (sc : Interface) (rest : List String)

/-- Reads the words of one command. -/
def readWords (l : Level) : List String → Except Halt Reached
  | [] => .ok (.done l)
  | w :: rest =>
    if l.trailing then do readWords (← l.positional w) rest
    else
      match l.cmd.findSub w with
      | some sc => .ok (.sub l sc rest)
      | none =>
        if w == "--" then readWords { l with trailing := true } rest
        else if w.startsWith "--" then
          let body := (w.drop 2).toString
          let (name, value) := match body.splitOn "=" with
            | n :: v :: more => (n, some ("=".intercalate (v :: more)))
            | _ => (body, none)
          match l.cmd.findLong name with
          | none => .error (l.unknownLong name rest)
          | some a =>
            if a.takesValue then do
              let l ← match value with
                | some v => l.accept a .long [v]
                | none => l.await a
              readWords l rest
            else
              match value with
              | some v => .error (.refused (.unexpectedValue v a.display (l.cmd.usageFor l.bin (l.used ++ [a.id]))))
              | none => do readWords (← l.accept a .long []) rest
        else if w.startsWith "-" && w != "-" then do
          readWords (← l.cluster (w.toList.drop 1)) rest
        else
          match l.pending with
          | some a => do readWords (← ({ l with pending := none } : Level).accept a .long [w]) rest
          | none => do readWords (← l.positional w) rest

/-- The long help of the subcommand that the words after `help` name. -/
def helpTopic (cmd : Interface) (bin : String) : List String → Halt
  | [] => .help (cmd.help bin true)
  | w :: rest =>
    match cmd.findSub w with
    | some sc => helpTopic sc (bin ++ " " ++ sc.name) rest
    | none => .refused (.unrecognizedSubcommand w (cmd.usage bin))

/-- Finishes a command whose words ran out: no option may still wait for its value, a
command that needs a subcommand must have one (with no words at all it answers with
its help), and every required argument must be given.  Returns the values of the
options with a default that were not given. -/
def finish (l : Level) (hasSub : Bool) : Except Halt (List (String × List String)) := do
  let l ← l.settle
  let defaults ← l.cmd.args.foldlM (fun acc a =>
    match a.default with
    | some d =>
      if l.given.any (·.1 == a.id) then pure acc
      else do pure (acc ++ [(a.id, [← (checkValue a d).mapError Halt.refused])])
    | none => pure acc) []
  if !hasSub && l.cmd.subcommandRequired then
    if l.given.isEmpty then throw (.refused (.helpInstead (l.cmd.help l.bin false)))
    throw (.refused (.missingSubcommand l.cmd.name (l.cmd.subcommands.map (·.name)) (l.cmd.usage l.bin)))
  let missing := l.cmd.args.filter fun a => a.required && !l.given.any (·.1 == a.id)
  if !missing.isEmpty then
    throw (.refused (.missingRequired (missing.map (·.display (some true)))
      (l.cmd.usageFor l.bin (l.used ++ missing.map (·.id)))))
  pure defaults

/-- Reads the words of a command and of the subcommands they name, `depth` levels deep. -/
def readCommand : Nat → Interface → String → List String → Except Halt Invocation
  | 0, _, _, _ => .error (.refused (.helpInstead ""))
  | depth + 1, cmd, bin, words => do
    match ← readWords { cmd, bin } words with
    | .done l =>
      let defaults ← finish l false
      pure ⟨[], l.given ++ defaults⟩
    | .sub l sc rest =>
      if sc.name == "help" && sc.args.any (·.id == "subcommand") then throw (helpTopic cmd bin rest)
      let inner ← readCommand depth sc (bin ++ " " ++ sc.name) rest
      let defaults ← finish l true
      let here := l.given ++ defaults
      pure ⟨sc.name :: inner.path, inner.values ++ here.filter fun (k, _) => !inner.values.any (·.1 == k)⟩

/-- Reads a command line: the words after the program's name. -/
def Interface.read (cmd : Interface) (words : List String) : Except Halt Invocation :=
  readCommand 16 cmd cmd.name words

end CodeNotes.Cli
