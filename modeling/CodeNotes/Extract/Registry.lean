import CodeNotes.Extract.Rule
import CodeNotes.Extract.Python
import CodeNotes.Text.Quoted
set_option autoImplicit false

/-!
# The registry of extractors

Normative source: SPEC_FULL.md §4.1 (Language Rule Registry: `register(extension,
rule)`, `get(extension)`, re-registration overwrites) and §11.1 (the registered
languages).

An extractor turns the content of one file into its comments: either a language rule
of pattern sweeps, or the Python reader.  The registry maps normalised file extensions
to extractors.  An extension is normalised by dropping every leading dot and
lowercasing the rest, so `.RS`, `rs` and `..Rs` name one entry; registering an
extension again replaces its extractor.  Entries are kept sorted by extension, which
is the order of `extensions` and of the registry's description.
-/

namespace CodeNotes.Extract

open CodeNotes

/-- A way to turn a file's content into its comments. -/
inductive Extractor where
  | rule (r : LanguageRule)
  | python
  deriving DecidableEq, Repr

namespace Extractor

/-- The short name of an extractor, used in logs and descriptions. -/
def name : Extractor → String
  | .rule r => r.name
  | .python => "python"

/-- The comments of a file's content, in source order. -/
def extract : Extractor → String → String → TagSet → List Comment
  | .rule r, filepath, content, tags => r.extract filepath content tags
  | .python, filepath, content, tags => Python.extract filepath content tags

end Extractor

/-- An extension without its leading dots, lowercased. -/
def normalizeExtension (ext : String) : String :=
  Text.toLower (String.ofList (ext.toList.dropWhile (· == '.')))

/-- Extractors by normalised extension, sorted by extension, one entry per extension. -/
structure Registry where
  entries : List (String × Extractor)
  deriving DecidableEq, Repr

namespace Registry

/-- The registry without entries. -/
def empty : Registry := ⟨[]⟩

/-- Puts `(key, x)` into a list sorted by key, replacing an entry with the same key. -/
def putSorted (key : String) (x : Extractor) : List (String × Extractor) → List (String × Extractor)
  | [] => [(key, x)]
  | (k, y) :: rest =>
    if key < k then (key, x) :: (k, y) :: rest
    else if key = k then (key, x) :: rest
    else (k, y) :: putSorted key x rest

/-- Registers an extractor under an extension, replacing an earlier one. -/
def register (r : Registry) (ext : String) (x : Extractor) : Registry :=
  ⟨putSorted (normalizeExtension ext) x r.entries⟩

/-- The extractor registered for an extension. -/
def get? (r : Registry) (ext : String) : Option Extractor :=
  (r.entries.find? (·.1 == normalizeExtension ext)).map (·.2)

/-- The registered extensions, sorted. -/
def extensions (r : Registry) : List String := r.entries.map (·.1)

/-- The number of registered extensions. -/
def size (r : Registry) : Nat := r.entries.length

/-- Whether no extension is registered. -/
def isEmpty (r : Registry) : Bool := r.entries.isEmpty

/-- Each extension with the name of its extractor. -/
def names (r : Registry) : List (String × String) := r.entries.map fun (e, x) => (e, x.name)

/-- The description `{"ext": "name", ...}` of the registry. -/
def describe (r : Registry) : String :=
  "\x7b" ++ ", ".intercalate (r.names.map fun (e, n) => Text.quoted e ++ ": " ++ Text.quoted n) ++
    "\x7d"

/-- Every built-in rule under each of its extensions, then the Python reader under `py`. -/
def builtin : Registry :=
  (builtinRules.foldl (fun reg rule =>
    rule.extensions.foldl (fun reg ext => reg.register ext (.rule rule)) reg) empty).register
    "py" .python

end Registry

end CodeNotes.Extract
