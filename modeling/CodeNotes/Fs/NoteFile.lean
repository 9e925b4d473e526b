import CodeNotes.Fs.Tree
import CodeNotes.Store.Statement
set_option autoImplicit false

/-!
# Note database files

Normative source: SPEC_FULL.md §10.3 (the notes database at `.notter/notes.db`) and
§11.2 (Storage backend).

A note database lives in one file of the tree.  Opening a path follows links; an empty
file or a path whose parent directory exists but that names nothing becomes a new
database, a database file is taken as it is, and any other file is not a database.  A
directory, or a path whose parent cannot be reached, cannot be opened.  Opening brings
the tables up to date, creating the ones that are missing.

The real path of an opened database is where later reads and writes go.
-/

namespace CodeNotes.Fs

open CodeNotes.Store

namespace Tree

/-- The database at a real path; a file that was emptied or removed reads as a new one. -/
def databaseAt (t : Tree) (place : List String) : Database :=
  match t.find? place with
  | some (.database db) => db
  | _ => Database.empty

/-- The tree with a database stored at a real path. -/
def storeDatabase (t : Tree) (place : List String) (db : Database) : Tree :=
  t.put place (.database db)

/-- A database without tables, as a new file holds. -/
def bare : Database := ⟨none, none⟩

/-- Connects to the database at a path, creating an empty one when nothing stands
there: its real path and its tables. -/
def connect (t : Tree) (path : String) : Except BackendError (List String × Database) :=
  match t.resolve path with
  | .ok place =>
    match t.find? place with
    | some (.database db) => .ok (place, db)
    | some (.file data) => if data.isEmpty then .ok (place, bare) else .error BackendError.notADatabase
    | _ => .error (BackendError.cannotOpen path)
  | .error .notFound =>
    match t.write path ByteArray.empty with
    | .ok t' =>
      match t'.resolve path with
      | .ok place => .ok (place, bare)
      | .error _ => .error (BackendError.cannotOpen path)
    | .error _ => .error (BackendError.cannotOpen path)
  | .error _ => .error (BackendError.cannotOpen path)

/-- Opens the database at a path and brings its tables up to date.  Returns its real
path and the tree holding it. -/
def openDatabase (t : Tree) (path : String) : Except BackendError (List String × Tree) :=
  (t.connect path).map fun (place, db) => (place, t.storeDatabase place db.migrate)

/-- Runs raw statements on the database at a path, through a connection of its own. -/
def executeAt (t : Tree) (path text : String) : Except BackendError Tree := do
  let (place, db) ← t.connect path
  pure (t.storeDatabase place (← db.execute text))

end Tree

end CodeNotes.Fs
