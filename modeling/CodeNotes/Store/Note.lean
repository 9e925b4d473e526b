import CodeNotes.Comment.Basic
import CodeNotes.Time.Instant
import CodeNotes.Text.Blank
set_option autoImplicit false

/-!
# Notes

Normative source: SPEC_FULL.md §3 (Data model: Note, Content and NoteWithContent; at
most one Note per (filepath, line), an immutable `id`).

A note is what the store keeps at a location: an identity, a kind, an optional author
(name and e-mail), the time it was created and last updated, and its text.  A *draft*
is what a caller hands in to create or replace a note's visible fields.

An author field is kept only when it has a non-blank value, trimmed.
-/

namespace CodeNotes.Store

open CodeNotes

/-- A stored note. -/
structure Note where
  id : String
  filepath : String
  line : Nat
  kind : Kind
  username : Option String
  email : Option String
  createdAt : Time.Instant
  updatedAt : Time.Instant
  text : String
  deriving DecidableEq, Repr, Inhabited

namespace Note

/-- Where the note stands. -/
def location (n : Note) : Location := ⟨n.filepath, n.line⟩

/-- The key of the note's location. -/
def key (n : Note) : String := n.location.key

/-- Whether the note was changed after it was created. -/
def modified (n : Note) : Bool := decide (n.createdAt < n.updatedAt)

/-- The one-line display `text / YYYY-MM-DD HH:MM` of the last update. -/
def display (n : Note) : String := n.text ++ " / " ++ Time.minutesText n.updatedAt

end Note

/-- The fields a caller gives for a note: location, kind, author and text. -/
structure Draft where
  filepath : String
  line : Nat
  kind : Kind
  username : Option String := none
  email : Option String := none
  text : String
  deriving DecidableEq, Repr

namespace Draft

/-- The draft of a comment: no author. -/
def ofComment (c : Comment) : Draft :=
  { filepath := c.filepath, line := c.line, kind := c.kind, text := c.text }

/-- An author field as kept: trimmed, and absent when blank. -/
def cleanField (v : Option String) : Option String :=
  match v with
  | some s => let t := Text.trim s; if t.isEmpty then none else some t
  | none => none

/-- The draft with the given author, cleaned. -/
def withAuthor (d : Draft) (username email : Option String) : Draft :=
  { d with username := cleanField username, email := cleanField email }

/-- The new note of a draft, with identity `id`, created at `now`. -/
def toNote (d : Draft) (id : String) (now : Time.Instant) : Note :=
  { id := id, filepath := d.filepath, line := d.line, kind := d.kind, username := d.username,
    email := d.email, createdAt := now, updatedAt := now, text := d.text }

/-- Where the draft stands. -/
def location (d : Draft) : Location := ⟨d.filepath, d.line⟩

end Draft

end CodeNotes.Store
