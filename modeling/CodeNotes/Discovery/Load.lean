import CodeNotes.Fs.Tree
import CodeNotes.Log
import CodeNotes.Text.Quoted
set_option autoImplicit false

/-!
# Loading source files

Normative source: SPEC_FULL.md §4.4 (Concurrent File Loader: `readAll(filepaths)`,
chunked, one error entry per unreadable file).

Files are read as UTF-8 text.  A file that cannot be read, or whose bytes are not
UTF-8, gets an error of its own and the others go on.  Reading a list of paths takes
them a chunk at a time and gives one result per distinct path (paths are equal when
their components are), so the result does not depend on the chunk size.  The readable
ones are then taken in path order and the others reported.

Deviation, disclosed: of two equal paths in different spellings (`a/b` and `a/b/`),
`record` keeps the later spelling with its result, where a table keyed by paths keeps
the first spelling and takes the later result.  A discovery run does not meet two
spellings of one path: the walk names every entry by joining names to the root as given,
so two paths it gives for one file differ in the links taken, not in spelling.  The
library's statements about loading (`Discovery.readAll_readable`) rest on the later
spelling, whose result is always its own.
-/

namespace CodeNotes.Discovery

open CodeNotes.Fs

/-- Why one file could not be loaded. -/
inductive LoadError where
  | io (path : String) (cause : IoError)
  | decode (path : String)
  deriving DecidableEq, Repr

/-- The message of a loading error. -/
def LoadError.message : LoadError → String
  | .io path cause => "Failed to read " ++ Text.quoted path ++ ": " ++ cause.message
  | .decode path => "File " ++ Text.quoted path ++ " is not valid UTF-8"

/-- Reads one file as UTF-8 text. -/
def readFile (t : Tree) (path : String) : Except LoadError String :=
  match t.read path with
  | .error e => .error (.io path e)
  | .ok bytes =>
    match String.fromUTF8? bytes with
    | some s => .ok s
    | none => .error (.decode path)

/-- Splits a list into runs of `size` elements (the last may be shorter); `size` is at
least one. -/
def chunks {α : Type} (size : Nat) (xs : List α) : List (List α) :=
  if size = 0 then [xs]
  else if xs.isEmpty then []
  else xs.take size :: chunks size (xs.drop size)
termination_by xs.length
decreasing_by
  have : xs ≠ [] := by simpa using ‹¬xs.isEmpty = true›
  have : 0 < xs.length := List.length_pos_iff.mpr this
  simp only [List.length_drop]
  omega

/-- Records a result for a path, replacing the result of an equal path. -/
def record {β : Type} (acc : List (String × β)) (entry : String × β) : List (String × β) :=
  if acc.any (fun e => Path.same e.1 entry.1) then
    acc.map fun e => if Path.same e.1 entry.1 then entry else e
  else acc ++ [entry]

/-- Reads every path, `chunkSize` at a time (at least one): one result per distinct path,
in the order paths first appear. -/
def readAll (t : Tree) (paths : List String) (chunkSize : Nat) :
    List (String × Except LoadError String) :=
  (chunks (max chunkSize 1) paths).foldl
    (fun acc chunk => (chunk.map fun p => (p, readFile t p)).foldl record acc) []

/-- Inserts an entry into a list in path order, after entries with equal paths. -/
def insertByPath {β : Type} (e : String × β) : List (String × β) → List (String × β)
  | [] => [e]
  | f :: fs => if Path.le f.1 e.1 then f :: insertByPath e fs else e :: f :: fs

/-- The files read as text, in path order, and a report for each one that was not. -/
def readable (results : List (String × Except LoadError String)) :
    List (String × String) × List LogLine :=
  let sorted := results.foldl (fun acc e => insertByPath e acc) []
  (sorted.filterMap fun (p, r) => match r with
    | .ok text => some (p, text)
    | .error _ => none,
   sorted.filterMap fun (_, r) => match r with
    | .ok _ => none
    | .error e => some ⟨.warn, loaderSource, "Skipping unreadable file: " ++ e.message⟩)

end CodeNotes.Discovery
