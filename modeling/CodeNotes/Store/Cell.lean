set_option autoImplicit false

/-!
# Cells of the note tables

Normative source: SPEC_FULL.md §11.2 (Storage backend).

The note tables keep dynamically typed cells, as an embedded SQL engine does: a cell
is empty (`null`), an integer, or a text.  A column's *affinity* decides what a value
written to it becomes: a text column keeps texts and writes integers as their decimal
text; an integer column turns a text that reads as an integer into that integer.

Cells are ordered the way such an engine sorts them: empty cells first, then integers
by value, then texts by code point.
-/

namespace CodeNotes.Store

/-- A value in the note tables. -/
inductive Cell where
  | null
  | int (i : Int)
  | text (s : String)
  deriving DecidableEq, Repr, Inhabited

/-- The storage class of a cell, as named in conversion errors. -/
inductive CellType where
  | null
  | integer
  | text
  deriving DecidableEq, Repr

namespace CellType

/-- The name of a storage class. -/
def name : CellType → String
  | .null => "Null"
  | .integer => "Integer"
  | .text => "Text"

end CellType

namespace Cell

/-- The storage class of a cell. -/
def type : Cell → CellType
  | .null => .null
  | .int _ => .integer
  | .text _ => .text

/-- The value of a run of decimal digits. -/
def digitsValue (ds : List Char) : Nat := ds.foldl (fun n c => 10 * n + (c.toNat - '0'.toNat)) 0

/-- Reads a decimal integer with an optional sign, as an integer column accepts it. -/
def readInt (s : String) : Option Int :=
  let (neg, ds) := match s.toList with
    | '-' :: ds => (true, ds)
    | '+' :: ds => (false, ds)
    | ds => (false, ds)
  if !ds.isEmpty && ds.all Char.isDigit then
    some (if neg then -(digitsValue ds : Int) else digitsValue ds)
  else none

/-- A value as a text column stores it. -/
def asText : Cell → Cell
  | .int i => .text (toString i)
  | c => c

/-- A value as an integer column stores it. -/
def asInteger : Cell → Cell
  | .text s => match readInt s with
    | some i => .int i
    | none => .text s
  | c => c

/-- Rank of the storage class in the sort order. -/
def rank : Cell → Nat
  | .null => 0
  | .int _ => 1
  | .text _ => 2

/-- The sort order of cells: by class, then by value. -/
def le (a b : Cell) : Bool :=
  match a, b with
  | .int x, .int y => x ≤ y
  | .text x, .text y => decide (x ≤ y)
  | _, _ => a.rank ≤ b.rank

/-- Equality as a comparison in a query sees it: an empty cell equals nothing. -/
def same (a b : Cell) : Bool :=
  match a, b with
  | .null, _ => false
  | _, .null => false
  | _, _ => a == b

/-- The text of a cell, if it holds one. -/
def text? : Cell → Option String
  | .text s => some s
  | _ => none

end Cell

end CodeNotes.Store
