import CodeNotes.Config.Basic
import CodeNotes.Config.Read
import CodeNotes.Json.Error
import CodeNotes.Fs.Error
import CodeNotes.Text.Quoted
set_option autoImplicit false

/-!
# Configuration errors

Normative source: SPEC_FULL.md §10.2 (Error handling: the configuration errors).

Finding, creating, reading or changing the settings fails for one of eight reasons.
Paths in messages are quoted as the program's debug form of text quotes them.
-/

namespace CodeNotes

/-- Why the settings could not be found, created, read or changed. -/
inductive ConfigError where
  | notInitialized (start : String)
  | alreadyInitialized (path : String)
  | notADirectory (path : String)
  | unknownKey (key : String)
  | readOnlyKey (key : String)
  | invalidValue (key value : String)
  | io (cause : Fs.IoError)
  | json (cause : Json.ReadError)
  deriving Repr, Inhabited

namespace ConfigError

/-- The name of the kind of error. -/
def kindName : ConfigError → String
  | .notInitialized _ => "NotInitialized"
  | .alreadyInitialized _ => "AlreadyInitialized"
  | .notADirectory _ => "NotADirectory"
  | .unknownKey _ => "UnknownKey"
  | .readOnlyKey _ => "ReadOnlyKey"
  | .invalidValue _ _ => "InvalidValue"
  | .io _ => "Io"
  | .json _ => "Json"

/-- The message of an error. -/
def message : ConfigError → String
  | .notInitialized start =>
    "No Notter project found in " ++ Text.quoted start ++
      " or any parent. Run 'notter init <SRC>' first."
  | .alreadyInitialized path => "Notter is already initialized at " ++ Text.quoted path
  | .notADirectory path => "Source folder " ++ Text.quoted path ++ " is not a directory"
  | .unknownKey key =>
    "Unknown config key '" ++ key ++ "'. Known keys: " ++
      ", ".intercalate (ConfigKey.all.map ConfigKey.name)
  | .readOnlyKey key =>
    "Config key '" ++ key ++ "' cannot be changed. Run 'notter init' in the new folder instead."
  | .invalidValue key value => "Invalid value '" ++ value ++ "' for '" ++ key ++ "'"
  | .io cause => "Config I/O error: " ++ cause.message
  | .json cause => "Config file is not valid JSON: " ++ cause.message

/-- The cause behind an error, when it wraps one. -/
def cause? : ConfigError → Option String
  | .io cause => some cause.message
  | .json cause => some cause.message
  | _ => none

end ConfigError

namespace Config

/-- Changes a setting named by text; errors carry the key and value as given. -/
def setNamed (c : Config) (key value : String) : Except ConfigError Config :=
  match ConfigKey.parse? key with
  | none => .error (.unknownKey key)
  | some k =>
    match c.set k value with
    | .ok c' => .ok c'
    | .error .readOnly => .error (.readOnlyKey key)
    | .error .invalid => .error (.invalidValue key value)

/-- The text of a setting named by text. -/
def getNamed (c : Config) (key : String) : Except ConfigError String :=
  match ConfigKey.parse? key with
  | none => .error (.unknownKey key)
  | some k => .ok (c.get k)

/-- Reads settings from the text of a settings file. -/
def ofText (text : String) : Except ConfigError Config :=
  match Config.parse text with
  | .ok c => .ok c
  | .error e => .error (.json e)

end Config

end CodeNotes
