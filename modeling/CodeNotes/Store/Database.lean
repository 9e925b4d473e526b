import CodeNotes.Store.Cell
import CodeNotes.Store.Uuid
import CodeNotes.Store.Note
import CodeNotes.Store.Error
import CodeNotes.Text.Infix
set_option autoImplicit false

/-!
# The note tables

Normative source: SPEC_FULL.md §6 (Storage Port) and §11.2 (Storage backend: two tables,
`UNIQUE(filepath, line)`, `update` keeps `id` and `created_at` and sets `updated_at` to
`max(now, previous + 1µs)`).

Notes live in two tables: `notes` holds one row per note (identity, location, kind,
author, the two times as stored text), and `note_contents` holds each note's text,
keyed by the note's identity.  At most one row of `notes` stands at a location.

Reading joins the two tables, orders the rows by path and line, and decodes each row
into a `Note`, in order, stopping at the first cell that cannot be decoded.  A note
without a content row reads with the empty text.

Writing goes through five operations: `create` refuses a taken location, `update`
moves and replaces the note at a location (its identity and creation time stay, its
update time moves strictly forward), `delete` removes the note at a location if any,
`deleteFile` removes every note of a file, and `search` finds notes whose text holds a
fragment, ignoring ASCII case.
-/

namespace CodeNotes.Store

open CodeNotes

/-- A row of the `notes` table. -/
structure NoteRow where
  id : Cell
  filepath : Cell
  line : Cell
  kind : Cell
  username : Cell
  email : Cell
  createdAt : Cell
  updatedAt : Cell
  deriving DecidableEq, Repr, Inhabited

/-- A row of the `note_contents` table. -/
structure ContentRow where
  noteId : Cell
  text : Cell
  deriving DecidableEq, Repr, Inhabited

/-- The two tables, rows in insertion order; a dropped table is absent. -/
structure Database where
  notes : Option (List NoteRow)
  contents : Option (List ContentRow)
  deriving DecidableEq, Repr, Inhabited

namespace Database

/-- The tables of a new database. -/
def empty : Database := ⟨some [], some []⟩

/-- Creates the tables that are missing, keeping the others. -/
def migrate (db : Database) : Database :=
  ⟨some (db.notes.getD []), some (db.contents.getD [])⟩

/-- The rows of `notes`, or the failure of naming a missing table. -/
def noteRows (db : Database) : Except StoreError (List NoteRow) :=
  match db.notes with
  | some rs => .ok rs
  | none => .error (.backend (.noSuchTable "notes"))

/-- The rows of `note_contents`, or the failure of naming a missing table. -/
def contentRows (db : Database) : Except StoreError (List ContentRow) :=
  match db.contents with
  | some rs => .ok rs
  | none => .error (.backend (.noSuchTable "note_contents"))

/-- The content cell joined to a note row: the first content row with its identity. -/
def contentOf (contents : List ContentRow) (r : NoteRow) : Cell :=
  match contents.find? (fun c => c.noteId.same r.id) with
  | some c => c.text
  | none => .null

/-- Reads a text cell. -/
def getText (i : Nat) (col : String) : Cell → Except BackendError String
  | .text s => .ok s
  | c => .error (.invalidType i col c.type)

/-- Reads a text cell that may be empty. -/
def getOptText (i : Nat) (col : String) : Cell → Except BackendError (Option String)
  | .text s => .ok (some s)
  | .null => .ok none
  | c => .error (.invalidType i col c.type)

/-- Reads a line number: an integer from 0 to 2^32 - 1. -/
def getLine (i : Nat) (col : String) : Cell → Except BackendError Nat
  | .int v => if 0 ≤ v && v ≤ 4294967295 then .ok v.toNat else .error (.outOfRange i v)
  | c => .error (.invalidType i col c.type)

/-- Reads a stored time. -/
def getTime (i : Nat) (s : String) : Except BackendError Time.Instant :=
  match Time.parse s with
  | .ok t => .ok t
  | .error e => .error (.conversion i .text e.message)

/-- Decodes a joined row, field by field in the order the columns are read. -/
def decodeRow (r : NoteRow) (content : Cell) : Except BackendError Note := do
  let idText ← getText 0 "id" r.id
  let kindText ← getText 3 "kind" r.kind
  let createdText ← getText 4 "created_at" r.createdAt
  let updatedText ← getText 5 "updated_at" r.updatedAt
  let id ← match readId idText with
    | .ok id => pure id
    | .error e => throw (.conversion 0 .text e)
  let filepath ← getText 1 "filepath" r.filepath
  let line ← getLine 2 "line" r.line
  let kind ← match Kind.parse? kindText with
    | some k => pure k
    | none => throw (.conversion 3 .text s!"unknown note kind '{kindText}'")
  let username ← getOptText 7 "username" r.username
  let email ← getOptText 8 "email" r.email
  let createdAt ← getTime 4 createdText
  let updatedAt ← getTime 5 updatedText
  let text ← getText 6 "COALESCE(c.text, '')" (match content with | .null => .text "" | c => c.asText)
  pure { id, filepath, line, kind, username, email, createdAt, updatedAt, text }

/-- Decodes rows in order, stopping at the first failure. -/
def decodeAll : List (NoteRow × Cell) → Except StoreError (List Note)
  | [] => .ok []
  | (r, c) :: rest =>
    match decodeRow r c with
    | .ok n => (decodeAll rest).map (n :: ·)
    | .error e => .error (.backend e)

/-- The sort order of rows: by path, then by line. -/
def rowBefore (a b : NoteRow × Cell) : Bool :=
  if a.1.filepath == b.1.filepath then a.1.line.le b.1.line else a.1.filepath.le b.1.filepath

/-- The notes whose row and content pass `keep`, ordered by path and line. -/
def query (db : Database) (keep : NoteRow → Cell → Bool) : Except StoreError (List Note) := do
  let rows ← db.noteRows
  let contents ← db.contentRows
  let joined := rows.map fun r => (r, contentOf contents r)
  decodeAll ((joined.filter fun (r, c) => keep r c).mergeSort rowBefore)

/-- Whether a row stands at a location. -/
def atLocation (l : Location) (r : NoteRow) : Bool :=
  r.filepath.same (.text l.filepath) && r.line.same (.int l.line)

/-- Every note, ordered by path and line. -/
def listAll (db : Database) : Except StoreError (List Note) := db.query fun _ _ => true

/-- The notes of one file, ordered by line. -/
def listFile (db : Database) (f : String) : Except StoreError (List Note) :=
  db.query fun r _ => r.filepath.same (.text f)

/-- The notes of one kind, ordered by path and line. -/
def listKind (db : Database) (k : Kind) : Except StoreError (List Note) :=
  db.query fun r _ => r.kind.same (.text k.label)

/-- Lowercases ASCII letters only. -/
def asciiLowerText (s : String) : List Char := s.toList.map asciiLower

/-- The notes whose text holds `fragment`, ignoring ASCII case. -/
def search (db : Database) (fragment : String) : Except StoreError (List Note) :=
  db.query fun _ c =>
    match c.asText with
    | .text t => Text.occursIn (asciiLowerText fragment) (asciiLowerText t)
    | _ => false

/-- The note at a location, if any. -/
def find? (db : Database) (l : Location) : Except StoreError (Option Note) := do
  let rows ← db.noteRows
  let contents ← db.contentRows
  match rows.find? (atLocation l) with
  | some r => match decodeRow r (contentOf contents r) with
    | .ok n => pure (some n)
    | .error e => throw (.backend e)
  | none => pure none

/-- The note at a location, or `notFound`. -/
def get (db : Database) (l : Location) : Except StoreError Note := do
  match ← db.find? l with
  | some n => pure n
  | none => throw (.notFound l)

/-- The number of rows of `notes`. -/
def count (db : Database) : Except StoreError Nat := do
  pure (← db.noteRows).length

/-- The row of a new note. -/
def rowOf (n : Note) : NoteRow :=
  { id := .text n.id, filepath := .text n.filepath, line := .int n.line, kind := .text n.kind.label,
    username := match n.username with | some u => .text u | none => .null,
    email := match n.email with | some e => .text e | none => .null,
    createdAt := .text (Time.storedText n.createdAt), updatedAt := .text (Time.storedText n.updatedAt) }

/-- The engine's refusal of a duplicate key. -/
def uniqueFailed (what : String) : StoreError :=
  .backend (.engine ("UNIQUE constraint failed: " ++ what) 2067 "A UNIQUE constraint failed")

/-- Adds a new note, unless its location is taken. -/
def create (db : Database) (n : Note) : Except StoreError Database := do
  let rows ← db.noteRows
  let contents ← db.contentRows
  if rows.any (atLocation n.location) then throw (.alreadyExists n.location)
  if rows.any (fun r => r.id.same (.text n.id)) then throw (uniqueFailed "notes.id")
  if contents.any (fun c => c.noteId.same (.text n.id)) then
    throw (uniqueFailed "note_contents.note_id")
  pure ⟨some (rows ++ [rowOf n]), some (contents ++ [⟨.text n.id, .text n.text⟩])⟩

/-- The update time after an update at `now`: strictly later than `previous`. -/
def nextUpdate (previous now : Time.Instant) : Time.Instant :=
  max now (previous + Time.nanosPerMicro)

/-- Moves and replaces the note at `l` from a draft: its identity and creation time
stay, its update time becomes `nextUpdate`. -/
def update (db : Database) (l : Location) (d : Draft) (now : Time.Instant) :
    Except StoreError Database := do
  let old ← db.get l
  let rows ← db.noteRows
  let contents ← db.contentRows
  let updatedAt := nextUpdate old.updatedAt now
  let isOld := fun (r : NoteRow) => r.id.same (.text old.id)
  if rows.any (fun r => !isOld r && atLocation d.location r) then throw (.alreadyExists d.location)
  let rows := rows.map fun r =>
    if isOld r then
      { r with filepath := .text d.filepath, line := .int d.line, kind := .text d.kind.label,
               username := match d.username with | some u => .text u | none => .null,
               email := match d.email with | some e => .text e | none => .null,
               updatedAt := .text (Time.storedText updatedAt) }
    else r
  let contents :=
    if contents.any (fun c => c.noteId.same (.text old.id)) then
      contents.map fun c => if c.noteId.same (.text old.id) then { c with text := .text d.text } else c
    else contents ++ [⟨.text old.id, .text d.text⟩]
  pure ⟨some rows, some contents⟩

/-- Removes the note at a location, if there is one. -/
def delete (db : Database) (l : Location) : Except StoreError Database := do
  let rows ← db.noteRows
  let contents ← db.contentRows
  match rows.find? (atLocation l) with
  | none => pure db
  | some r =>
    let id ← match getText 0 "id" r.id with
      | .ok s => pure s
      | .error e => throw (.backend e)
    pure ⟨some (rows.filter fun r => !r.id.same (.text id)),
      some (contents.filter fun c => !c.noteId.same (.text id))⟩

/-- Removes every note of a file. -/
def deleteFile (db : Database) (f : String) : Except StoreError Database := do
  let rows ← db.noteRows
  let contents ← db.contentRows
  let ids := (rows.filter fun r => r.filepath.same (.text f)).map (·.id)
  pure ⟨some (rows.filter fun r => !r.filepath.same (.text f)),
    some (contents.filter fun c => !ids.any (c.noteId.same ·))⟩

end Database

end CodeNotes.Store
