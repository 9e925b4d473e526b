import CodeNotes.Config.Basic
import CodeNotes.Json.Read
set_option autoImplicit false

/-!
# Reading the settings file

Normative source: SPEC_FULL.md §10.3 (Configuration: persisted as pretty JSON, with
defaults for missing fields).

The settings file is a JSON object with the fields of `Config`; only `source_root` is
required, the others fall back to the defaults of a new project, and unknown fields are
skipped whatever their shape.  An array of the fields in their fixed order is read as
well, shorter arrays taking defaults for the fields they leave out.

The reader checks shapes while it reads, so the first fault in reading order is the one
reported: a number that cannot be a count or a string, a field given twice, the source
root missing, or text that is not JSON at all.  An author field may be `null`.
-/

namespace CodeNotes.Config

open Json

/-- What the array form of the settings is called in a message. -/
def arrayFormName : String := "struct Config with 7 elements"

/-- Reads a string where one is required; `expected` names it in a message. -/
def stringValue (expected : String) : Reader String := do
  match ← blankThenPeek with
  | none => failAhead .eofValue
  | some '"' => string
  | some _ => wrongType expected

/-- Accepts a number read where a count is required. -/
def countOf : Number → Reader Nat
  | .unsigned n => pure n
  | .signed n => failHere (.invalidValue (.signed n) "usize")
  | .float neg x => failHere (.invalidType (.float neg x) "usize")

/-- Reads a count. -/
def countValue : Reader Nat := do
  match ← blankThenPeek with
  | none => failAhead .eofValue
  | some '-' => eat; countOf (← number false)
  | some ch =>
    if '0' ≤ ch ∧ ch ≤ '9' then countOf (← number true) else wrongType "usize"

/-- Reads an author field: `null` or a string. -/
def optionalString : Reader (Option String) := do
  match ← blankThenPeek with
  | some 'n' => eat; ident ['u', 'l', 'l']; pure none
  | _ => some <$> stringValue "a string"

/-- Finds the next element of an array, reading the comma before it; `false` at the
closing bracket, which stays unread. -/
def nextElement (first : Bool) : Reader Bool := do
  match ← blankThenPeek with
  | some ']' => pure false
  | some ',' =>
    if first then pure true
    else
      eat
      match ← blankThenPeek with
      | some ']' => failAhead .trailingComma
      | some _ => pure true
      | none => failAhead .eofValue
  | some _ => if first then pure true else failAhead .expectedListCommaOrEnd
  | none => failAhead .eofList

/-- Reads the strings of an array whose opening bracket was read; `acc` holds those read,
last first. -/
def stringElements (acc : List String) (first : Bool) : Nat → Reader (List String)
  | 0 => failHere .eofList
  | fuel + 1 => do
    if ← nextElement first then
      let s ← stringValue "a string"
      stringElements (s :: acc) false fuel
    else pure acc.reverse

/-- Reads the closing bracket of an array. -/
def closeArray : Reader Unit := do
  match ← blankThenPeek with
  | some ']' => eat
  | some ',' =>
    eat
    match ← blankThenPeek with
    | some ']' => failAhead .trailingComma
    | _ => failAhead .trailingCharacters
  | some _ => failAhead .trailingCharacters
  | none => failAhead .eofList

/-- Reads an array of strings. -/
def stringList : Reader (List String) := do
  match ← blankThenPeek with
  | none => failAhead .eofValue
  | some '[' =>
    eat
    let xs ← stringElements [] true ((← getThe Cursor).rest.length + 1)
    closeArray
    pure xs
  | some _ => wrongType "a sequence"

/-- The fields read so far from the object form. -/
structure Fields where
  sourceRoot : Option String := none
  tags : Option (List String) := none
  workers : Option Nat := none
  readChunkSize : Option Nat := none
  exclude : Option (List String) := none
  username : Option (Option String) := none
  email : Option (Option String) := none

/-- Whether a field was read already. -/
def Fields.has (f : Fields) : ConfigKey → Bool
  | .sourceRoot => f.sourceRoot.isSome
  | .tags => f.tags.isSome
  | .workers => f.workers.isSome
  | .readChunkSize => f.readChunkSize.isSome
  | .exclude => f.exclude.isSome
  | .username => f.username.isSome
  | .email => f.email.isSome

/-- Reads the value of a field into the fields read so far. -/
def Fields.readValue (f : Fields) : ConfigKey → Reader Fields
  | .sourceRoot => do return { f with sourceRoot := some (← stringValue "path string") }
  | .tags => do return { f with tags := some (← stringList) }
  | .workers => do return { f with workers := some (← countValue) }
  | .readChunkSize => do return { f with readChunkSize := some (← countValue) }
  | .exclude => do return { f with exclude := some (← stringList) }
  | .username => do return { f with username := some (← optionalString) }
  | .email => do return { f with email := some (← optionalString) }

/-- The settings the fields give, defaults standing in for those not read. -/
def Fields.settings (f : Fields) (root : String) : Config :=
  { sourceRoot := root, tags := f.tags.getD TagSet.defaultTags,
    workers := f.workers.getD defaultWorkers, readChunkSize := f.readChunkSize.getD defaultChunkSize,
    exclude := f.exclude.getD [], username := f.username.getD none, email := f.email.getD none }

/-- Reads the colon after a key. -/
def colon : Reader Unit := do
  match ← blankThenPeek with
  | some ':' => eat
  | some _ => failAhead .expectedColon
  | none => failAhead .eofObject

/-- Reads up to where the next member's key should start, past the comma before it:
`none` at the closing brace, which stays unread, else the character there. -/
def memberStart (first : Bool) : Reader (Option (Option Char)) := do
  match ← blankThenPeek with
  | some '}' => pure none
  | some ',' =>
    if first then pure (some (some ','))
    else
      eat
      return some (← blankThenPeek)
  | some b => if first then pure (some (some b)) else failAhead .expectedObjectCommaOrEnd
  | none => failAhead .eofObject

/-- Reads the members of an object whose opening brace was read, up to the closing
brace, which stays unread. -/
def members (f : Fields) (first : Bool) : Nat → Reader Fields
  | 0 => failHere .eofObject
  | fuel + 1 => do
    match ← memberStart first with
    | none => pure f
    | some (some '"') =>
      let key ← string
      match ConfigKey.parse? key with
      | some k =>
        if f.has k then
          modify Cursor.skipBlank
          failHere (.duplicateField k.name)
        else
          colon
          members (← f.readValue k) false fuel
      | none =>
        colon
        skipValue
        members f false fuel
    | some (some '}') => failAhead .trailingComma
    | some (some _) => failAhead .keyMustBeString
    | some none => failAhead .eofValue

/-- Reads the object form after its opening brace. -/
def objectForm : Reader Config := do
  let f ← members {} true ((← getThe Cursor).rest.length + 1)
  eat
  match f.sourceRoot with
  | some root => pure (f.settings root)
  | none => failHere (.missingField "source_root")

/-- Reads the next element of the array form with `read`, or gives `none` at the end. -/
def element {α : Type} (first : Bool) (read : Reader α) : Reader (Option α) := do
  if ← nextElement first then some <$> read else pure none

/-- Reads the array form after its opening bracket. -/
def arrayForm : Reader Config := do
  match ← element true (stringValue "path string") with
  | none =>
    closeArray
    failHere (.invalidLength 0 arrayFormName)
  | some root =>
    let tags ← element false stringList
    let workers ← element false countValue
    let chunk ← element false countValue
    let exclude ← element false stringList
    let username ← element false optionalString
    let email ← element false optionalString
    closeArray
    let fields : Fields := ⟨none, tags, workers, chunk, exclude, username, email⟩
    pure (fields.settings root)

/-- Reads settings in either form. -/
def value : Reader Config := do
  match ← blankThenPeek with
  | none => failAhead .eofValue
  | some '{' => eat; objectForm
  | some '[' => eat; arrayForm
  | some _ => wrongType "struct Config"

/-- Reads the text of a settings file. -/
def parse (text : String) : Except ReadError Config :=
  (do let c ← value; finish; pure c : Reader Config).run' (Cursor.start text)

end CodeNotes.Config
