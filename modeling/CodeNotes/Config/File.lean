import CodeNotes.Config.Error
import CodeNotes.Fs.Tree
import CodeNotes.Log
set_option autoImplicit false

/-!
# Settings files

Normative source: SPEC_FULL.md §10.3 (Configuration: setting a project up, finding it
from a directory below its root, the state directory `.notter`).

A project keeps its settings as pretty JSON in `.notter/config.json` under the source
root.  Setting a project up needs the source folder to be a directory; its real path
becomes the source root, the state directory is created with any missing parents, and
the settings are written.  A project that already has a settings file is left alone.

A project is found from a starting directory by trying the settings file under it and
under each of its parents in turn; the first one that is a file is read, and a file that
cannot be read or is not a settings document is an error rather than a reason to look
further up.
-/

namespace CodeNotes

open CodeNotes.Fs

namespace Config

/-- Reads settings from a file. -/
def load (t : Tree) (path : String) : Except ConfigError Config :=
  match t.readText path with
  | .error e => .error (.io e)
  | .ok text => Config.ofText text

/-- Writes the settings to their file. -/
def save (c : Config) (t : Tree) : Except ConfigError Tree :=
  match t.write c.configPath c.render.toUTF8 with
  | .error e => .error (.io e)
  | .ok t => .ok t

/-- Sets up a project for the source folder `src`, returning its settings, the tree with
the state directory and settings file, and the log. -/
def init (t : Tree) (src : String) : Except ConfigError (Config × Tree × List LogLine) := do
  if !t.isDir src then throw (.notADirectory src)
  let root ← match t.canonicalize src with
    | .ok r => pure r
    | .error e => throw (.io e)
  let c := Config.new root
  if t.«exists» c.configPath then throw (.alreadyInitialized c.stateDir)
  let t ← match t.createDirAll c.stateDir with
    | .ok t => pure t
    | .error e => throw (.io e)
  let t ← c.save t
  pure (c, t, [⟨.info, configSource, "Initialized Notter at " ++ Text.quoted c.stateDir⟩])

/-- A path and its parents, nearest first, as the parent of a path is taken. -/
def ancestors (start : String) : List String :=
  go (start.length + 1) start
where
  /-- The path and at most `fuel - 1` of its parents. -/
  go : Nat → String → List String
    | 0, _ => []
    | fuel + 1, p =>
      match Tree.parentText p with
      | some q => p :: go fuel q
      | none => [p]

/-- The settings file a directory would hold. -/
def fileUnder (dir : String) : String := Path.join (Path.join dir stateDirName) configFileName

/-- Finds the settings of the project holding `start`, with the log of the search. -/
def discover (t : Tree) (start : String) : Except ConfigError Config × List LogLine :=
  match (ancestors start).find? fun dir => t.isFile (fileUnder dir) with
  | none => (.error (.notInitialized start), [])
  | some dir =>
    (load t (fileUnder dir), [⟨.debug, configSource, "Using config at " ++ Text.quoted (fileUnder dir)⟩])

end Config

end CodeNotes
