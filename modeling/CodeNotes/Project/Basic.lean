import CodeNotes.Config.File
import CodeNotes.Fs.NoteFile
import CodeNotes.Discovery.Engine
import CodeNotes.Reconcile.Basic
set_option autoImplicit false

/-!
# Projects

Normative source: SPEC_FULL.md §11.4 (`init`, `scan`, the authoring commands), §4.5 and
§7 (SourceMissing), and §11.3 (purging a file, the documented response).

A project is a source root with its settings and its note database.  Work on a project
happens in a session: the file tree, the supply of note identities and clock readings,
and the log so far.  An action changes the session and may fail; what it wrote before
failing stays written, and so does what it logged.

Opening the project of a working directory finds its settings from that directory up and
opens the note database they name.  A path given for a note is read from the working
directory, its `.` and `..` resolved by the text alone, and stored relative to the source
root when it lies under it, else as the absolute path.
-/

namespace CodeNotes

open CodeNotes.Fs CodeNotes.Store CodeNotes.Discovery CodeNotes.Extract CodeNotes.Reconcile

/-- Why an action on a project failed. -/
inductive ProjectError where
  | config (e : ConfigError)
  | discovery (e : DiscoveryError)
  | store (e : StoreError)
  /-- A store failure behind a step that names what it was doing. -/
  | within (context : String) (e : StoreError)

namespace ProjectError

/-- The message of the failure. -/
def message : ProjectError → String
  | .config e => e.message
  | .discovery e => e.message
  | .store e => e.message
  | .within context _ => context

/-- The causes behind the failure, outermost first. -/
def causes : ProjectError → List String
  | .config e => e.cause?.toList
  | .discovery _ => []
  | .store e => e.causes
  | .within _ e => e.message :: e.causes

end ProjectError

/-- The state work on a project changes: the file tree, the supply of identities and
clock readings, the log, and what was printed for the user. -/
structure Session where
  tree : Tree
  supply : Supply
  log : List LogLine := []
  output : String := ""

/-- An action on a session that may fail, keeping what it did before. -/
abbrev Action := ExceptT ProjectError (StateM Session)

namespace Action

/-- Adds lines to the log. -/
def say (lines : List LogLine) : Action Unit := modify fun s => { s with log := s.log ++ lines }

/-- Prints text for the user. -/
def print (text : String) : Action Unit := modify fun s => { s with output := s.output ++ text }

/-- The file tree. -/
def tree : Action Tree := do pure (← get).tree

/-- Replaces the file tree. -/
def setTree (t : Tree) : Action Unit := modify fun s => { s with tree := t }

/-- Takes the result of a step, failing with its error wrapped. -/
def lift {ε α : Type} (wrap : ε → ProjectError) : Except ε α → Action α
  | .ok a => pure a
  | .error e => throw (wrap e)

/-- A fresh note identity and clock reading. -/
def fresh : Action (String × Time.Instant) := do
  let (x, supply) := (← get).supply.fresh
  modify fun s => { s with supply }
  pure x

/-- A clock reading. -/
def now : Action Time.Instant := do
  let (x, supply) := (← get).supply.now
  modify fun s => { s with supply }
  pure x

end Action

open CodeNotes.Action

/-- An opened project: its settings, the real path of its note database, and the
working directory. -/
structure Project where
  config : Config
  store : List String
  cwd : String

namespace Project

/-- The working directory of the session. -/
def currentDir : Action String := do pure (render (← tree).cwd)

/-- Opens the note database the settings name; `context` says what a failure meant. -/
def attach (c : Config) (context : String) : Action Project := do
  let (place, t) ← lift (fun e => .within (context ++ " " ++ Text.quoted c.dbPath) (.backend e))
    ((← tree).openDatabase c.dbPath)
  setTree t
  pure ⟨c, place, ← currentDir⟩

/-- Sets up a project for a source folder and creates its note database. -/
def create (src : String) : Action Project := do
  let (c, t, logs) ← lift .config (Config.init (← tree) src)
  setTree t
  say logs
  attach c "Failed to create notes database"

/-- The settings of the project holding the working directory. -/
def findConfig : Action Config := do
  let (found, logs) := Config.discover (← tree) (← currentDir)
  say logs
  lift .config found

/-- Opens the project holding the working directory. -/
def «open» : Action Project := do
  attach (← findConfig) "Failed to open notes database"

/-- The notes of the project. -/
def notes (p : Project) : Action Database := do pure ((← tree).databaseAt p.store)

/-- Stores the notes of the project. -/
def keep (p : Project) (db : Database) : Action Unit := do setTree ((← tree).storeDatabase p.store db)

/-- Reads the notes of the project. -/
def query {α : Type} (p : Project) (f : Database → Except StoreError α) : Action α := do
  lift .store (f (← p.notes))

/-- Changes the notes of the project. -/
def change (p : Project) (f : Database → Except StoreError Database) : Action Unit := do
  p.keep (← lift .store (f (← p.notes)))

/-- The tags given for one run, or the configured ones. -/
def tagsFor (p : Project) (overrides : List String) : List String :=
  if overrides.isEmpty then p.config.tags else overrides

/-- The stored form of a path given for a note. -/
def notePath (p : Project) (file : String) : String :=
  let absolute := Path.normalize (Path.components (Path.join p.cwd file))
  match Path.dropPrefix (Path.components p.config.sourceRoot) absolute with
  | some rest => "/".intercalate ((rest.filter (· ≠ .current)).map Path.Component.text)
  | none => Path.render absolute

/-- A discovery engine over the source root with every built-in language. -/
def engine (p : Project) : Action Engine := do
  let (e, logs) ← lift .discovery (Engine.new p.config.sourceRoot Registry.builtin p.config.discoveryOptions)
  say logs
  pure e

/-- Makes the notes in scope agree with the comments found. -/
def reconcileWith (p : Project) (found : List Comment) (scope : Option String) : Action Report := do
  let (r, logs, db, supply) ← lift .store (reconcile (← p.notes) (← get).supply found scope)
  p.keep db
  modify fun s => { s with supply }
  say logs
  pure r

/-- Discovers every comment of the source tree. -/
def discover (p : Project) (tags : List String) : Action (List Comment) := do
  let e ← p.engine
  let (found, logs) ← lift .discovery (e.discover (← tree) (TagSet.ofList tags))
  say logs
  pure found

/-- Discovers every comment of the source tree and brings the notes up to date. -/
def scan (p : Project) (tags : List String) : Action Report := do
  p.reconcileWith (← p.discover tags) none

/-- What scanning one file did. -/
inductive FileScan where
  | reconciled (r : Report)
  /-- The file was gone; the keys of the notes removed with it. -/
  | purged (keys : List String)

/-- Brings the notes of one stored file path up to date with its TODO comments; the
notes of a file that is gone are removed. -/
def scanFile (p : Project) (tags : List String) (filepath : String) : Action FileScan := do
  let e ← p.engine
  match e.discoverFile (← tree) (TagSet.ofList tags) filepath with
  | .ok (found, logs) =>
    say logs
    pure (.reconciled (← p.reconcileWith found (some filepath)))
  | .error (.sourceMissing _) =>
    let (keys, db) ← lift .store (purgeFile (← p.notes) filepath)
    p.keep db
    say [purgeLine filepath keys]
    pure (.purged keys)
  | .error err => throw (.discovery err)

/-- Adds a note by hand, a TODO when asked or when its text carries a tag, authored by the
configured identity. -/
def add (p : Project) (filepath : String) (line : Nat) (text : String) (todo : Bool) : Action Kind := do
  let kind := if todo then Kind.todo else (TagSet.ofList p.config.tags).classify text
  let d : Draft := ({ filepath, line, kind, text } : Draft).withAuthor p.config.username p.config.email
  let (id, now) ← fresh
  p.change (·.create (d.toNote id now))
  pure kind

/-- Replaces the text of a note, keeping its kind and taking the configured author. -/
def edit (p : Project) (l : Location) (text : String) : Action Note := do
  let existing ← p.query (·.get l)
  let d : Draft := ({ filepath := l.filepath, line := l.line, kind := existing.kind, text } : Draft).withAuthor
    p.config.username p.config.email
  let now ← Action.now
  p.change (·.update l d now)
  pure existing

/-- Deletes a note that exists. -/
def delete (p : Project) (l : Location) : Action Unit := do
  let _ ← p.query (·.get l)
  p.change (·.delete l)

end Project

end CodeNotes
