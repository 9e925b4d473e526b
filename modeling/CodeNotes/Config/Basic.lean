import CodeNotes.Comment.TagSet
import CodeNotes.Path.Basic
import CodeNotes.Json.Value
set_option autoImplicit false

/-!
# Project settings

Normative source: SPEC_FULL.md §10.3 (Configuration: the fields of `Config`, their
defaults, `get` and `set` by key).

A project keeps its settings in `.notter/config.json` under its source root: the root
itself, the tags that make a comment a TODO, the number of extraction workers, how many
files are read at a time, root-relative glob patterns to leave out, and an optional
author name and mail address for notes written by hand.

Settings are read and changed as text through six keys.  Lists are written with commas
and read back by splitting at commas, trimming each piece and dropping empty ones; a
count must be a positive decimal (a leading `+` allowed) below `2 ^ 64`; an author
field is trimmed and an empty one is cleared.  The source root fixes where the settings
live, so it cannot be changed.
-/

namespace CodeNotes

/-- The name of a project's state directory. -/
def stateDirName : String := ".notter"

/-- The settings file inside the state directory. -/
def configFileName : String := "config.json"

/-- The note database inside the state directory. -/
def databaseFileName : String := "notes.db"

/-- The extraction workers of a new project. -/
def defaultWorkers : Nat := 4

/-- The files read at a time in a new project. -/
def defaultChunkSize : Nat := 16

/-- The settings of one project. -/
structure Config where
  sourceRoot : String
  tags : List String := TagSet.defaultTags
  workers : Nat := defaultWorkers
  readChunkSize : Nat := defaultChunkSize
  exclude : List String := []
  username : Option String := none
  email : Option String := none
  deriving DecidableEq, Repr, Inhabited

/-- A settings key. -/
inductive ConfigKey where
  | sourceRoot
  | tags
  | workers
  | readChunkSize
  | exclude
  | username
  | email
  deriving DecidableEq, Repr

namespace ConfigKey

/-- The keys in the order they are listed. -/
def all : List ConfigKey := [.sourceRoot, .tags, .workers, .readChunkSize, .exclude, .username, .email]

/-- The name of a key, as written in the settings file and on the command line. -/
def name : ConfigKey → String
  | .sourceRoot => "source_root"
  | .tags => "tags"
  | .workers => "workers"
  | .readChunkSize => "read_chunk_size"
  | .exclude => "exclude"
  | .username => "username"
  | .email => "email"

/-- The key of a name; names are case-sensitive. -/
def parse? (s : String) : Option ConfigKey := all.find? (·.name = s)

theorem parse?_name (k : ConfigKey) : parse? k.name = some k := by
  cases k <;> rfl

end ConfigKey

/-- The discovery settings a project derives from its configuration. -/
structure DiscoveryOptions where
  workers : Nat
  readChunkSize : Nat
  exclude : List String
  skipDirs : List String
  deriving DecidableEq, Repr

/-- The greatest count a setting can hold. -/
def countLimit : Nat := 18446744073709551615

/-- The pieces of a comma-separated list, trimmed, without empty ones. -/
def splitList (value : String) : List String :=
  ((value.toList.splitOn ',').map fun piece => Text.trim (String.ofList piece)).filter (· ≠ "")

/-- The number written by decimal digits, if all of `cs` are digits and there is one. -/
def decimalValue (cs : List Char) : Option Nat :=
  if cs ≠ [] ∧ cs.all Char.isDigit then
    some (cs.foldl (fun n c => 10 * n + (c.toNat - 48)) 0)
  else none

/-- A count: the trimmed text is decimal digits after an optional `+`, naming a number
from one up to `countLimit`. -/
def parsePositive (value : String) : Option Nat :=
  let cs := (Text.trim value).toList
  let digits := match cs with
    | '+' :: rest => rest
    | _ => cs
  match decimalValue digits with
  | some n => if 0 < n ∧ n ≤ countLimit then some n else none
  | none => none

/-- A trimmed text, or nothing when it is empty. -/
def nonEmpty (value : String) : Option String :=
  let t := Text.trim value
  if t = "" then none else some t

namespace Config

/-- The settings of a new project at `root`. -/
def new (root : String) : Config := { sourceRoot := root }

/-- The state directory: `.notter` under the source root. -/
def stateDir (c : Config) : String := Path.join c.sourceRoot stateDirName

/-- The settings file. -/
def configPath (c : Config) : String := Path.join c.stateDir configFileName

/-- The note database. -/
def dbPath (c : Config) : String := Path.join c.stateDir databaseFileName

/-- Discovery settings: the state directory is always skipped. -/
def discoveryOptions (c : Config) : DiscoveryOptions :=
  { workers := c.workers, readChunkSize := c.readChunkSize, exclude := c.exclude,
    skipDirs := [c.stateDir] }

/-- The text of a setting; lists are joined with commas, an absent author field is empty. -/
def get (c : Config) : ConfigKey → String
  | .sourceRoot => c.sourceRoot
  | .tags => ",".intercalate c.tags
  | .workers => toString c.workers
  | .readChunkSize => toString c.readChunkSize
  | .exclude => ",".intercalate c.exclude
  | .username => c.username.getD ""
  | .email => c.email.getD ""

/-- Why a setting could not be changed. -/
inductive SetError where
  | readOnly
  | invalid
  deriving DecidableEq, Repr

/-- Changes a setting from text. -/
def set (c : Config) (k : ConfigKey) (value : String) : Except SetError Config :=
  match k with
  | .sourceRoot => .error .readOnly
  | .tags =>
    match splitList value with
    | [] => .error .invalid
    | ts => .ok { c with tags := ts }
  | .workers =>
    match parsePositive value with
    | some n => .ok { c with workers := n }
    | none => .error .invalid
  | .readChunkSize =>
    match parsePositive value with
    | some n => .ok { c with readChunkSize := n }
    | none => .error .invalid
  | .exclude => .ok { c with exclude := splitList value }
  | .username => .ok { c with username := nonEmpty value }
  | .email => .ok { c with email := nonEmpty value }

/-- The settings as a JSON record, fields in their fixed order. -/
def toJson (c : Config) : Json.Value :=
  .obj [("source_root", .str c.sourceRoot), ("tags", Json.strs c.tags),
    ("workers", .int c.workers), ("read_chunk_size", .int c.readChunkSize),
    ("exclude", Json.strs c.exclude), ("username", Json.optStr c.username),
    ("email", Json.optStr c.email)]

/-- The text of the settings file. -/
def render (c : Config) : String := c.toJson.pretty

end Config

end CodeNotes
