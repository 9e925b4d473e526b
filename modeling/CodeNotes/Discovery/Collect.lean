import CodeNotes.Discovery.Walk
import CodeNotes.Glob.Pattern
import CodeNotes.Extract.Registry
import CodeNotes.Log
import CodeNotes.Text.Quoted
set_option autoImplicit false

/-!
# Collecting source files

Normative source: SPEC_FULL.md §4.3 (File Collector: `collect(root, extensions)`) and
§10.3 (`exclude` glob patterns; the state directory is never scanned).

A collector walks a source root and buckets its files by extension.  It leaves out a
directory equal to one of its skip directories, and any entry whose root-relative path
(the root's own is empty) matches one of its exclusion patterns, with everything below
either.  Patterns that do not parse are reported and ignored.

Only the requested extensions are kept, compared after normalising (leading dots
dropped, lowercased); every requested extension has a bucket, and each bucket lists its
paths in path order.  Entries the walk cannot reach are reported and skipped; loops are
noted at debug level.
-/

namespace CodeNotes.Discovery

open CodeNotes.Fs CodeNotes.Extract

/-- A file collector: exclusion patterns and directories never walked. -/
structure Collector where
  exclude : List Glob.Pattern
  skipDirs : List String

namespace Collector

/-- A collector that leaves nothing out. -/
def new : Collector := ⟨[], []⟩

/-- Adds exclusion patterns; those that do not parse are reported and ignored. -/
def addExcludes (c : Collector) (patterns : List String) : Collector × List LogLine :=
  patterns.foldl (fun (c, logs) p =>
    match Glob.Pattern.parse p with
    | .ok pat => ({ c with exclude := c.exclude ++ [pat] }, logs)
    | .error e =>
      (c, logs ++ [⟨.warn, collectorSource,
        "Ignoring invalid exclude pattern '" ++ p ++ "': " ++ e.message⟩])) (c, [])

/-- Adds a directory never walked. -/
def addSkipDir (c : Collector) (dir : String) : Collector := { c with skipDirs := c.skipDirs ++ [dir] }

/-- The text of a path relative to the root, as exclusion patterns see it. -/
def relativeText (root path : String) : String :=
  match Path.dropPrefix (Path.components root) (Path.components path) with
  | some rest => "/".intercalate (rest.map Path.Component.text)
  | none => path

/-- Whether an entry is left out. -/
def excludes (c : Collector) (root path : String) (kind : FileType) : Bool :=
  (kind = .dir && c.skipDirs.any (Path.same path)) ||
    (!c.exclude.isEmpty && c.exclude.any (·.matches (relativeText root path)))

/-- The report of a walk event that is not an entry. -/
def eventLog : Event → Option LogLine
  | .entry _ _ => none
  | .failure path e =>
    some ⟨.warn, collectorSource,
      "Cannot access path, skipping: IO error for operation on " ++ path ++ ": " ++ e.message⟩
  | .loop _ ancestor => some ⟨.debug, collectorSource, "Skipping symlink loop back to " ++ Text.quoted ancestor⟩

/-- Inserts a path into a list in path order, after equal ones. -/
def insertPath (p : String) : List String → List String
  | [] => [p]
  | q :: qs => if Path.le q p then q :: insertPath p qs else p :: q :: qs

/-- Buckets of files by normalised extension, one per requested extension, keys in
order, each bucket in path order. -/
def bucket (exts : List String) (files : List String) : List (String × List String) :=
  let keys := (exts.map normalizeExtension).foldr insertSorted []
  keys.map fun k =>
    (k, (files.filter fun f => (Path.extension f).map normalizeExtension == some k).foldl
      (fun acc f => insertPath f acc) [])

/-- Collects the files under `root` with one of the requested extensions. -/
def collect (c : Collector) (t : Tree) (root : String) (exts : List String) :
    List (String × List String) × List LogLine :=
  let events := walk t (c.excludes root) root
  (bucket exts (events.filterMap Event.file?), events.filterMap eventLog)

end Collector

end CodeNotes.Discovery
