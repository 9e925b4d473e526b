import CodeNotes.Discovery.Collect
import CodeNotes.Discovery.Load
import CodeNotes.Discovery.Pool
import CodeNotes.Config.Basic
set_option autoImplicit false

/-!
# Discovery

Normative source: SPEC_FULL.md §4.5 (Discovery Orchestrator: `discover(tags)` and
`discoverSingleFile(tags, filepath)`), §6 (Discovery Engine surface) and §7
(SourceMissing).

A discovery engine finds the comments of a source tree.  It collects the files of every
registered extension, reads those that are text, and extracts each file's comments
with the extractor of its extension, recording the file's root-relative path on them.
A file that cannot be read contributes nothing and is reported; an extension nobody
registered is never looked at.

Discovering one file reads the path as given when absolute, else under the source root.
A missing file is an error of its own, so that its notes can be dropped; a directory,
an unreachable path, an unregistered extension or a file that is not text give no
comments.  Only the TODO comments of the file are kept.
-/

namespace CodeNotes.Discovery

open CodeNotes.Fs CodeNotes.Extract

/-- Why a discovery call failed. -/
inductive DiscoveryError where
  | sourceMissing (filepath : String)
  | sourceRootMissing (path : String)
  | emptyRegistry
  deriving DecidableEq, Repr

namespace DiscoveryError

/-- The name of the kind of error. -/
def kindName : DiscoveryError → String
  | .sourceMissing _ => "SourceMissing"
  | .sourceRootMissing _ => "SourceRootMissing"
  | .emptyRegistry => "EmptyRegistry"

/-- The message of an error. -/
def message : DiscoveryError → String
  | .sourceMissing f => "Source file '" ++ f ++ "' no longer exists"
  | .sourceRootMissing path => "Source root " ++ Text.quoted path ++ " is not a directory"
  | .emptyRegistry => "No languages are registered"

end DiscoveryError

/-- A discovery engine over one source root. -/
structure Engine where
  sourceRoot : String
  registry : Registry
  collector : Collector
  width : Nat
  readChunkSize : Nat

namespace Engine

/-- Builds an engine; an empty registry is refused.  Exclusion patterns that do not
parse are reported. -/
def new (root : String) (registry : Registry) (options : DiscoveryOptions) :
    Except DiscoveryError (Engine × List LogLine) :=
  if registry.isEmpty then .error .emptyRegistry
  else
    let (c, logs) := Collector.new.addExcludes options.exclude
    let c := options.skipDirs.foldl Collector.addSkipDir c
    .ok (⟨root, registry, c, poolWidth options.workers, options.readChunkSize⟩, logs)

/-- The root-relative form of a path, as comments record it. -/
def relativePath (e : Engine) (path : String) : String := Path.relativeTo e.sourceRoot path

/-- The path of a file given absolute or under the source root. -/
def resolve (e : Engine) (path : String) : String :=
  if Path.isAbsolute path then path else Path.join e.sourceRoot path

/-- The files of every registered extension, by extension. -/
def collect (e : Engine) (t : Tree) : List (String × List String) × List LogLine :=
  e.collector.collect t e.sourceRoot e.registry.extensions

/-- The jobs of one extension's files, and the count of files read. -/
def jobsOf (e : Engine) (t : Tree) (ext : String) (files : List String) :
    List Job × Nat × List LogLine :=
  match e.registry.get? ext with
  | none => ([], 0, [])
  | some x =>
    if files.isEmpty then ([], 0, [])
    else
      let (loaded, logs) := readable (readAll t files e.readChunkSize)
      let note : LogLine := ⟨.debug, discoverySource,
        "Loaded " ++ toString loaded.length ++ "/" ++ toString files.length ++ " ." ++ ext ++
          " files for " ++ x.name⟩
      (loaded.map fun (p, text) => ⟨e.relativePath p, text, .extract x⟩, loaded.length,
        logs ++ [note])

/-- Discovers every comment under the source root, file by file in collection order. -/
def discover (e : Engine) (t : Tree) (tags : TagSet) :
    Except DiscoveryError (List Comment × List LogLine) :=
  if !t.isDir e.sourceRoot then .error (.sourceRootMissing e.sourceRoot)
  else
    let (buckets, walkLogs) := e.collect t
    let (jobs, count, logs) := buckets.foldl (fun (jobs, count, logs) (ext, files) =>
      let (js, n, ls) := e.jobsOf t ext files
      (jobs ++ js, count + n, logs ++ ls)) ([], 0, walkLogs)
    let finished := runLogged jobs tags
    let comments := (finished.map (·.1)).flatten
    let done : LogLine := ⟨.info, discoverySource,
      "Discovered " ++ toString comments.length ++ " comments in " ++ toString count ++
        " files under " ++ Text.quoted e.sourceRoot⟩
    .ok (comments, logs ++ finished.map (·.2) ++ [done])

/-- Discovers the TODO comments of one file. -/
def discoverFile (e : Engine) (t : Tree) (tags : TagSet) (filepath : String) :
    Except DiscoveryError (List Comment × List LogLine) :=
  let path := e.resolve filepath
  let relative := e.relativePath path
  let nothing (l : LogLine) : Except DiscoveryError (List Comment × List LogLine) := .ok ([], [l])
  match t.metadata path with
  | .error .notFound => .error (.sourceMissing relative)
  | .error err => nothing ⟨.warn, discoverySource, "Cannot access " ++ Text.quoted path ++ ": " ++ err.message⟩
  | .ok .dir | .ok .link =>
    nothing ⟨.warn, discoverySource, Text.quoted path ++ " is not a regular file, nothing to discover"⟩
  | .ok .file =>
    match e.registry.get? ((Path.extension path).getD "") with
    | none => nothing ⟨.debug, discoverySource, "No extractor for " ++ Text.quoted path ++ ", skipping"⟩
    | some x =>
      match readFile t path with
      | .error err => nothing ⟨.warn, discoverySource, "Skipping unreadable file: " ++ err.message⟩
      | .ok text =>
        let found := x.extract relative text tags
        .ok (found.filter (·.kind == .todo), [doneLine relative x found])

end Engine

end CodeNotes.Discovery
