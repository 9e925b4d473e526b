import CodeNotes.Store.Cell
import CodeNotes.Comment.Basic
set_option autoImplicit false

/-!
# Store errors

Normative source: SPEC_FULL.md §7 (NotFound, AlreadyExists, StorageFailure) and §10.2
(storage errors).

A store operation fails because no note stands at a location, because one already
does, because the tables cannot be read or written, or because a record is corrupt.
A table failure has a cause of its own, and some causes have one more; `causes` lists
them outermost first, after the message.
-/

namespace CodeNotes.Store

open CodeNotes

/-- Why the tables could not be read or written. -/
inductive BackendError where
  /-- A cell could not be turned into the field it stands for. -/
  | conversion (index : Nat) (type : CellType) (cause : String)
  /-- An integer cell does not fit the field. -/
  | outOfRange (index : Nat) (value : Int)
  /-- A cell has the wrong storage class for the field. -/
  | invalidType (index : Nat) (column : String) (type : CellType)
  /-- The engine refused: its message, result code and the code's description. -/
  | engine (message : String) (code : Nat) (description : String)
  deriving DecidableEq, Repr

namespace BackendError

/-- The message of a table failure. -/
def message : BackendError → String
  | .conversion i t cause => s!"Conversion error from type {t.name} at index: {i}, {cause}"
  | .outOfRange i v => s!"Integer {v} out of range at index {i}"
  | .invalidType i col t => s!"Invalid column type {t.name} at index: {i}, name: {col}"
  | .engine msg _ _ => msg

/-- The causes behind a table failure, outermost first. -/
def causes : BackendError → List String
  | .conversion _ _ cause => [cause]
  | .engine _ code desc => [s!"Error code {code}: {desc}"]
  | _ => []

/-- The engine's failure to open a database file. -/
def cannotOpen (path : String) : BackendError :=
  .engine ("unable to open database file: " ++ path) 14 "Unable to open the database file"

/-- The engine's failure on a file that holds no database. -/
def notADatabase : BackendError :=
  .engine "file is not a database" 26 "File opened that is not a database file"

/-- A statement that names a table which does not exist. -/
def noSuchTable (table : String) : BackendError :=
  .engine ("no such table: " ++ table) 1 "SQL logic error"

end BackendError

/-- Why a store operation failed. -/
inductive StoreError where
  | notFound (loc : Location)
  | alreadyExists (loc : Location)
  | backend (e : BackendError)
  | corrupt (msg : String)
  deriving DecidableEq, Repr

namespace StoreError

/-- The kind of a store error, as reported by name. -/
def kindName : StoreError → String
  | .notFound _ => "NotFound"
  | .alreadyExists _ => "AlreadyExists"
  | .backend _ => "Backend"
  | .corrupt _ => "Corrupt"

/-- The message of a store error. -/
def message : StoreError → String
  | .notFound l => "Could not find a note at " ++ l.key
  | .alreadyExists l => "A note already exists at " ++ l.key
  | .backend e => "Storage backend error: " ++ e.message
  | .corrupt m => "Corrupt note record: " ++ m

/-- The causes behind a store error, outermost first. -/
def causes : StoreError → List String
  | .backend e => e.message :: e.causes
  | _ => []

end StoreError

end CodeNotes.Store
