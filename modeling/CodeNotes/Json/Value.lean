set_option autoImplicit false

/-!
# JSON values and their written forms

Normative source: SPEC_FULL.md §10.3 (the configuration as pretty JSON) and §11.4
(`export` writes TODO notes as JSON).

The configuration file and the machine-readable note listings are JSON.  A `Value`
keeps the members of an object in the order given, so a writer of records decides the
order: field order for the configuration, key order for note records.

Two written forms exist.  The compact one puts nothing between tokens.  The pretty one
puts every member and element on a line of its own, indented by two spaces per level,
with `": "` after a key; empty arrays and objects stay `[]` and `{}`.  Strings escape
the quote, the backslash and the control characters below U+0020 (the five with a
short form as `\b \f \n \r \t`, the others as `\u00xx`); everything else is written
as it is.
-/

namespace CodeNotes.Json

/-- A JSON value; object members keep the order given. -/
inductive Value where
  | null
  | bool (b : Bool)
  | int (n : Int)
  | str (s : String)
  | arr (items : List Value)
  | obj (fields : List (String × Value))
  deriving Repr, Inhabited

/-- A lowercase hexadecimal digit. -/
def hexDigit (n : Nat) : Char :=
  if n < 10 then Char.ofNat (48 + n) else Char.ofNat (87 + n)

/-- The escaped form of one character inside a string. -/
def escapeChar (c : Char) : List Char :=
  if c = '"' then ['\\', '"']
  else if c = '\\' then ['\\', '\\']
  else if c.toNat = 8 then ['\\', 'b']
  else if c.toNat = 12 then ['\\', 'f']
  else if c = '\n' then ['\\', 'n']
  else if c = '\r' then ['\\', 'r']
  else if c = '\t' then ['\\', 't']
  else if c.toNat < 0x20 then ['\\', 'u', '0', '0', hexDigit (c.toNat / 16), hexDigit (c.toNat % 16)]
  else [c]

/-- A string in quotes, escaped. -/
def quote (s : String) : String :=
  String.ofList ('"' :: s.toList.flatMap escapeChar ++ ['"'])

/-- The text of an integer. -/
def intText (n : Int) : String :=
  if n < 0 then "-" ++ toString n.natAbs else toString n.natAbs

mutual

/-- The compact written form. -/
def Value.compact : Value → String
  | .null => "null"
  | .bool b => if b then "true" else "false"
  | .int n => intText n
  | .str s => quote s
  | .arr items => "[" ++ ",".intercalate (compactItems items) ++ "]"
  | .obj fields => "\x7b" ++ ",".intercalate (compactFields fields) ++ "\x7d"

/-- The compact forms of array elements. -/
def compactItems : List Value → List String
  | [] => []
  | v :: vs => v.compact :: compactItems vs

/-- The compact forms of object members. -/
def compactFields : List (String × Value) → List String
  | [] => []
  | (k, v) :: rest => (quote k ++ ":" ++ v.compact) :: compactFields rest

end

/-- Two spaces per level. -/
def indentText (level : Nat) : String := String.ofList (List.replicate (2 * level) ' ')

mutual

/-- The pretty written form of a value that starts at nesting `level`. -/
def Value.prettyAt (level : Nat) : Value → String
  | .null => "null"
  | .bool b => if b then "true" else "false"
  | .int n => intText n
  | .str s => quote s
  | .arr [] => "[]"
  | .arr items =>
    "[\n" ++ ",\n".intercalate (prettyItems (level + 1) items) ++ "\n" ++ indentText level ++ "]"
  | .obj [] => "\x7b\x7d"
  | .obj fields =>
    "\x7b\n" ++ ",\n".intercalate (prettyFields (level + 1) fields) ++ "\n" ++ indentText level ++ "\x7d"

/-- Indented lines of array elements at `level`. -/
def prettyItems (level : Nat) : List Value → List String
  | [] => []
  | v :: vs => (indentText level ++ v.prettyAt level) :: prettyItems level vs

/-- Indented lines of object members at `level`. -/
def prettyFields (level : Nat) : List (String × Value) → List String
  | [] => []
  | (k, v) :: rest =>
    (indentText level ++ quote k ++ ": " ++ v.prettyAt level) :: prettyFields level rest

end

/-- The pretty written form of a whole document. -/
def Value.pretty (v : Value) : String := v.prettyAt 0

/-- A list of strings as an array. -/
def strs (xs : List String) : Value := .arr (xs.map .str)

/-- An optional string, `null` when absent. -/
def optStr : Option String → Value
  | some s => .str s
  | none => .null

end CodeNotes.Json
