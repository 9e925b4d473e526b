import CodeNotes.Cli.Request
import CodeNotes.Cli.Program
import CodeNotes.Cli.Output
import CodeNotes.Project.Basic
import CodeNotes.Cli.Complete.Bash
import CodeNotes.Cli.Complete.Elvish
import CodeNotes.Cli.Complete.Fish
import CodeNotes.Cli.Complete.PowerShell
import CodeNotes.Cli.Complete.Zsh
set_option autoImplicit false

/-!
# Running the program

Normative source: SPEC_FULL.md §11.4 (Command line front end) and §10.2 (errors of the
binary layer).

A run reads the command line, then carries out the request on the project holding the
working directory.  It ends with status 0 when the request was carried out or help or
the version was asked for, 2 when the command line was refused, and 1 when the request
failed.  Standard output has what the command printed; standard error has the log lines
from `info` up (from `debug` up when verbose) and, for a failure, `Error:` with its
message and the causes behind it.  A request that asks a question reads the answer from
the input; run without input, it stops at the question so that it can be run again once
the answer is known.
-/

namespace CodeNotes.Cli

open CodeNotes.Fs CodeNotes.Store CodeNotes.Reconcile

/-- Why a request failed: a message and the causes behind it, outermost first. -/
structure Failure where
  message : String
  causes : List String := []
  deriving DecidableEq, Repr

namespace Failure

/-- The failure of a project action. -/
def ofProject (e : ProjectError) : Failure := ⟨e.message, e.causes⟩

/-- The failure of a settings operation. -/
def ofConfig (e : ConfigError) : Failure := ⟨e.message, e.cause?.toList⟩

/-- A cause under `Caused by:`: numbered when there are several, continuation lines
indented to match. -/
def causeText (number : Option Nat) (text : String) : String :=
  match number with
  | some n =>
    let label := toString n
    String.ofList (List.replicate (5 - label.length) ' ') ++ label ++ ": " ++ text.replace "\n" "\n       "
  | none => "    " ++ text.replace "\n" "\n    "

/-- The failure as the program reports it. -/
def render (f : Failure) : String :=
  let causes := match f.causes with
    | [] => ""
    | [c] => "\n\nCaused by:\n" ++ causeText none c
    | cs => "\n\nCaused by:" ++ String.join ((List.range cs.length).zip cs |>.map fun (i, c) => "\n" ++ causeText (some i) c)
  "Error: " ++ f.message ++ causes ++ "\n"

end Failure

/-- Why a request stopped before its end. -/
inductive Stop where
  /-- The request failed. -/
  | failed (f : Failure)
  /-- The request asks a question and no input was given to answer it. -/
  | awaiting
  deriving DecidableEq, Repr

/-- A step of a request: an action on the session that may stop early. -/
abbrev Step := ExceptT Stop (StateM Session)

/-- Fails with a reported failure. -/
def fail {α : Type} (f : Failure) : Step α := throw (.failed f)

/-- Runs a project action, its failure reported as it is. -/
def act {α : Type} (a : Action α) : Step α := ExceptT.adapt (fun e => .failed (Failure.ofProject e)) a

/-- Runs a project action and hands its failure to the step. -/
def attempt {α : Type} (a : Action α) : Step (Except ProjectError α) := ExceptT.lift a.run

/-- Prints text for the user. -/
def say (text : String) : Step Unit := act (Action.print text)

/-- Fails with a message of the command's own. -/
def refuse {α : Type} (message : String) : Step α := fail ⟨message, []⟩

/-- Takes the result of a settings operation. -/
def settle {α : Type} : Except ConfigError α → Step α
  | .ok a => pure a
  | .error e => fail (Failure.ofConfig e)

/-- The key of a location given as file and line. -/
def keyOf (filepath : String) (line : Nat) : String := filepath ++ ":" ++ toString line

/-- Sets up a project, or says where one already is. -/
def runInit (src : String) : Step Unit := do
  match ← attempt (Project.create src) with
  | .ok p =>
    let c := p.config
    say ("Notter initialized\n  Source:  " ++ c.sourceRoot ++ "\n  Config:  " ++ c.configPath ++
      "\n  Notes:  " ++ c.dbPath ++ "\n\nRun notter scan to collect notes from your comments.\n")
  | .error (.config (.alreadyInitialized path)) => say ("Notter is already initialized.\n  State:  " ++ path ++ "\n")
  | .error e => fail (Failure.ofProject e)

/-- Scans the source tree, or one file. -/
def runScan (tags : List String) (file : Option String) : Step Unit := do
  let p ← act Project.«open»
  let tags := p.tagsFor tags
  match file with
  | none => say (reportText (← act (p.scan tags)))
  | some f =>
    let filepath := p.notePath f
    match ← act (p.scanFile tags filepath) with
    | .reconciled r => say (reportText r)
    | .purged keys =>
      say ("! " ++ filepath ++ " no longer exists, removed " ++ toString keys.length ++ " notes\n")

/-- Prints notes as a listing. -/
def printNotes (notes : List Note) (format : Format) (none : String) (count : Bool) : Step Unit :=
  match format with
  | .json => say (notesJson notes ++ "\n")
  | .text =>
    if notes.isEmpty then say none
    else say (String.join (notes.map noteLine) ++ (if count then "\n" ++ toString notes.length ++ " notes\n" else ""))

/-- Lists notes, of one file or one kind. -/
def runList (kind : Option Kind) (file : Option String) (format : Format) : Step Unit := do
  let p ← act Project.«open»
  let notes ← act (match file, kind with
    | some f, _ => p.query (·.listFile (p.notePath f))
    | none, some k => p.query (·.listKind k)
    | none, none => p.query Database.listAll)
  let notes := match kind with
    | some k => notes.filter (·.kind == k)
    | none => notes
  printNotes notes format "No notes found.\nRun notter scan to collect notes from your comments.\n" true

/-- Shows one note. -/
def runShow (file : String) (line : Nat) (format : Format) : Step Unit := do
  let p ← act Project.«open»
  let filepath := p.notePath file
  match ← attempt (p.query (·.get ⟨filepath, line⟩)) with
  | .ok n => say (match format with | .json => (noteRecord n).pretty ++ "\n" | .text => noteShown n)
  | .error (.store (.notFound _)) =>
    refuse ("No note at " ++ keyOf filepath line ++ ". Run 'notter list' to see stored notes.")
  | .error e => fail (Failure.ofProject e)

/-- Searches note text. -/
def runSearch (query : String) (format : Format) : Step Unit := do
  let p ← act Project.«open»
  let notes ← act (p.query (·.search query))
  printNotes notes format ("No notes match '" ++ query ++ "'.\n") false

/-- Adds a note by hand. -/
def runAdd (file : String) (line : Nat) (text : String) (todo : Bool) : Step Unit := do
  let p ← act Project.«open»
  let filepath := p.notePath file
  match ← attempt (p.add filepath line text todo) with
  | .ok kind => say ("Added " ++ kind.label ++ " " ++ keyOf filepath line ++ "\n")
  | .error (.store (.alreadyExists _)) =>
    refuse ("A note already exists at " ++ keyOf filepath line ++ ". Use 'notter edit' to change it.")
  | .error e => fail (Failure.ofProject e)

/-- Replaces the text of a note. -/
def runEdit (file : String) (line : Nat) (text : String) : Step Unit := do
  let p ← act Project.«open»
  let filepath := p.notePath file
  match ← attempt (p.edit ⟨filepath, line⟩ text) with
  | .ok existing => say ("Updated " ++ existing.key ++ "\n")
  | .error (.store (.notFound _)) =>
    refuse ("No note at " ++ keyOf filepath line ++ ". Use 'notter add' to create one.")
  | .error e => fail (Failure.ofProject e)

/-- Deletes a note. -/
def runDelete (file : String) (line : Nat) : Step Unit := do
  let p ← act Project.«open»
  let filepath := p.notePath file
  match ← attempt (p.delete ⟨filepath, line⟩) with
  | .ok () => say ("Deleted " ++ keyOf filepath line ++ "\n")
  | .error (.store (.notFound _)) =>
    refuse ("No note at " ++ keyOf filepath line ++ ". Run 'notter list' to see stored notes.")
  | .error e => fail (Failure.ofProject e)

/-- The file `export` writes when none is named. -/
def exportFileName : String := "todos.json"

/-- Writes the TODO notes to a file as JSON. -/
def runExport (output : Option String) : Step Unit := do
  let p ← act Project.«open»
  let todos ← act (p.query (·.listKind .todo))
  let path := output.getD exportFileName
  match (← act Action.tree).write path (notesJson todos).toUTF8 with
  | .ok t => act (Action.setTree t)
  | .error e => fail ⟨"Failed to write " ++ Text.quoted path, [e.message]⟩
  say ("Exported " ++ toString todos.length ++ " TODOs to " ++ path ++ "\n")

/-- Shows, reads or changes the settings. -/
def runConfig (action : ConfigAction) : Step Unit := do
  let c ← act Project.findConfig
  match action with
  | .show => say (configShown c)
  | .get key => say ((← settle (c.getNamed key)) ++ "\n")
  | .set key value =>
    let c ← settle (c.setNamed key value)
    act (Action.setTree (← settle (c.save (← act Action.tree))))
    say ("Set " ++ key ++ " = " ++ (← settle (c.getNamed key)) ++ "\n")

/-- The first line of an input, its line break included. -/
def firstLine (input : String) : String :=
  match input.splitOn "\n" with
  | first :: _ :: _ => first ++ "\n"
  | _ => input

/-- Whether an answer to a yes-or-no question is yes. -/
def isYes (answer : String) : Bool :=
  match (Text.trim answer).toList with
  | [c] => c == 'y' || c == 'Y'
  | _ => false

/-- Removes the state directory after asking, unless forced.  The answer is the first
line of the input; without input the request stops at the question. -/
def runDestroy (force : Bool) (stdin : Option String) : Step Unit := do
  let c ← act Project.findConfig
  let stateDir := c.stateDir
  let go ← if force then pure true
    else do
      say ("This will permanently delete " ++ stateDir ++ " and every stored note.\nContinue? [y/N] ")
      match stdin with
      | none => throw .awaiting
      | some input =>
        if isYes (firstLine input) then pure true
        else do
          say "Cancelled\n"
          pure false
  if go then
    match (← act Action.tree).removeDirAll stateDir with
    | .ok t => act (Action.setTree t)
    | .error e => fail ⟨"Failed to remove " ++ Text.quoted stateDir, [e.message]⟩
    say ("Removed " ++ stateDir ++ "\n")

/-- The completion script for a shell. -/
def completionScript : Shell → String
  | .bash => Bash.script
  | .elvish => Elvish.script
  | .fish => Fish.script
  | .powershell => PowerShell.script
  | .zsh => Zsh.script

/-- Carries out a request. -/
def Request.run (stdin : Option String) : Request → Step Unit
  | .init src => runInit src
  | .scan tags file => runScan tags file
  | .list kind file format => runList kind file format
  | .show file line format => runShow file line format
  | .search query format => runSearch query format
  | .add file line text todo => runAdd file line text todo
  | .edit file line text => runEdit file line text
  | .delete file line => runDelete file line
  | .export output => runExport output
  | .config action => runConfig action
  | .destroy force => runDestroy force stdin
  | .completions shell => say (completionScript shell)

/-- How a run ended and what it wrote.  A run that `awaits` stopped at a question and
is to be run again with an answer. -/
structure Outcome where
  status : Nat
  stdout : String
  stderr : String
  awaits : Bool := false
  deriving DecidableEq, Repr

/-- Runs the program with the words after its name and its standard input, if any. -/
def runProgram (words : List String) (stdin : Option String) (s : Session) : Outcome × Session :=
  match program.read words with
  | .error (.help text) => (⟨0, text, "", false⟩, s)
  | .error (.version text) => (⟨0, text, "", false⟩, s)
  | .error (.refused e) => (⟨2, "", e.render, false⟩, s)
  | .ok inv =>
    let least : CodeNotes.Level := if inv.verbose then .debug else .info
    let start : Session := { s with log := [], output := "" }
    let (result, s') := match inv.request? with
      | some r => ((r.run stdin).run).run start
      | none => (.ok (), start)
    let logs := String.join ((s'.log.filter (·.level.atLeast least)).map (·.render ++ "\n"))
    match result with
    | .ok () => (⟨0, s'.output, logs, false⟩, s')
    | .error (.failed f) => (⟨1, s'.output, logs ++ f.render, false⟩, s')
    | .error .awaiting => (⟨0, s'.output, logs, true⟩, s')

end CodeNotes.Cli
