import CodeNotes.Text.Quoted
import CodeNotes.Binary64.Shortest
set_option autoImplicit false

/-!
# Errors of reading JSON text

Normative source: SPEC_FULL.md §10.3 (the configuration is read from JSON) and §10.2
(configuration errors).

A reading error is a problem and the place where it was noticed.  Problems are of two
sorts: the text is not JSON (an unexpected end, a missing colon, a bad escape, …) or it
is JSON of the wrong shape for the record being read (a number where a string belongs,
a field twice, a required field missing).

A place is a line, counted from one, and a column that counts the bytes of that line
before the place.  A shape problem stands where the reader stands once it has read the
value at fault, or, for a field that is missing or repeated, the bracket or key that
shows it.
-/

namespace CodeNotes.Json

/-- Where a problem was noticed: a line from one and a byte column. -/
structure Place where
  line : Nat
  col : Nat
  deriving DecidableEq, Repr, Inhabited

/-- A value that was found where another was expected. -/
inductive Found where
  | null
  | bool (b : Bool)
  | unsigned (n : Nat)
  | signed (n : Int)
  | float (negative : Bool) (x : Binary64.Magnitude)
  | str (s : String)
  | seq
  | map
  deriving Repr, Inhabited

/-- How a found value is named in a message. -/
def Found.text : Found → String
  | .null => "null"
  | .bool b => "boolean `" ++ (if b then "true" else "false") ++ "`"
  | .unsigned n => "integer `" ++ toString n ++ "`"
  | .signed n => "integer `" ++ (if n < 0 then "-" else "") ++ toString n.natAbs ++ "`"
  | .float neg x => "floating point `" ++ Binary64.positional neg x ++ "`"
  | .str s => "string " ++ Text.quoted s
  | .seq => "sequence"
  | .map => "map"

/-- What went wrong. -/
inductive Problem where
  | eofValue
  | eofList
  | eofObject
  | eofString
  | expectedColon
  | expectedListCommaOrEnd
  | expectedObjectCommaOrEnd
  | expectedIdent
  | expectedValue
  | invalidEscape
  | invalidNumber
  | numberOutOfRange
  | controlCharacter
  | keyMustBeString
  | loneSurrogate
  | trailingComma
  | trailingCharacters
  | unexpectedEndOfHexEscape
  | invalidType (found : Found) (expected : String)
  | invalidValue (found : Found) (expected : String)
  | invalidLength (n : Nat) (expected : String)
  | missingField (name : String)
  | duplicateField (name : String)
  deriving Repr, Inhabited

/-- The wording of a problem. -/
def Problem.text : Problem → String
  | .eofValue => "EOF while parsing a value"
  | .eofList => "EOF while parsing a list"
  | .eofObject => "EOF while parsing an object"
  | .eofString => "EOF while parsing a string"
  | .expectedColon => "expected `:`"
  | .expectedListCommaOrEnd => "expected `,` or `]`"
  | .expectedObjectCommaOrEnd => "expected `,` or `\x7d`"
  | .expectedIdent => "expected ident"
  | .expectedValue => "expected value"
  | .invalidEscape => "invalid escape"
  | .invalidNumber => "invalid number"
  | .numberOutOfRange => "number out of range"
  | .controlCharacter => "control character (\\u0000-\\u001F) found while parsing a string"
  | .keyMustBeString => "key must be a string"
  | .loneSurrogate => "lone leading surrogate in hex escape"
  | .trailingComma => "trailing comma"
  | .trailingCharacters => "trailing characters"
  | .unexpectedEndOfHexEscape => "unexpected end of hex escape"
  | .invalidType found expected => "invalid type: " ++ found.text ++ ", expected " ++ expected
  | .invalidValue found expected => "invalid value: " ++ found.text ++ ", expected " ++ expected
  | .invalidLength n expected => "invalid length " ++ toString n ++ ", expected " ++ expected
  | .missingField name => "missing field `" ++ name ++ "`"
  | .duplicateField name => "duplicate field `" ++ name ++ "`"

/-- A problem and its place. -/
structure ReadError where
  problem : Problem
  place : Place
  deriving Repr, Inhabited

/-- The message: the problem, then its place. -/
def ReadError.message (e : ReadError) : String :=
  e.problem.text ++ " at line " ++ toString e.place.line ++ " column " ++ toString e.place.col

end CodeNotes.Json
