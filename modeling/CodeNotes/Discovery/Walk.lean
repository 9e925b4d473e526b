import CodeNotes.Fs.Tree
set_option autoImplicit false

/-!
# Walking a source tree

Normative source: SPEC_FULL.md §4.3 (a recursive walk that skips failing subtrees) and
§10.5 (links followed, loops reported and skipped).

A walk visits the root and then, depth first, everything below it, following links.
Each entry is named by the path the walk took to it: the root as given, then the
directory's path joined with the entry's name, so an entry reached through a link keeps
the link's path and takes the kind of its target.  Directories list their entries by
name.

A filter sees every entry, the root included, before it is reported; an entry it
refuses is left out with everything below it.  A link whose target cannot be reached
becomes a failure, and a link back to a directory the walk is inside becomes a loop;
neither stops the walk.  Since every loop passes through such a link, a walk never
goes deeper than the tree has directories, which bounds its recursion.
-/

namespace CodeNotes.Discovery

open CodeNotes.Fs

/-- What a walk meets. -/
inductive Event where
  /-- An entry the filter let through, with the kind of what it leads to. -/
  | entry (path : String) (kind : FileType)
  /-- An entry that could not be reached. -/
  | failure (path : String) (cause : IoError)
  /-- A link back to the directory the walk reached at `ancestor`. -/
  | loop (path ancestor : String)
  deriving DecidableEq, Repr

/-- The files a walk reports. -/
def Event.file? : Event → Option String
  | .entry path .file => some path
  | _ => none

/-- Walks the entries of the real directory `real`, reached at `path`.  `ancestors`
holds the real and walked paths of the directories the walk is inside; `skip` is the
filter; `depth` bounds the recursion. -/
def walkDir (t : Tree) (skip : String → FileType → Bool) :
    Nat → String → List String → List (List String × String) → List Event
  | 0, _, _, _ => []
  | depth + 1, path, real, ancestors =>
    (t.children real).flatMap fun (name, node) =>
      let child := Path.join path name
      let visit (kind : FileType) (target : List String) : List Event :=
        if skip child kind then []
        else if kind = .dir then
          .entry child .dir :: walkDir t skip depth child target ((target, child) :: ancestors)
        else [.entry child kind]
      match node with
      | .link _ =>
        match t.resolve child with
        | .error e => [.failure child e]
        | .ok target =>
          match t.find? target with
          | some .dir =>
            match ancestors.find? (·.1 == target) with
            | some (_, ancestor) => [.loop child ancestor]
            | none => visit .dir target
          | some n => visit n.kind target
          | none => [.failure child .notFound]
      | n => visit n.kind (real ++ [name])

/-- Walks the tree from `root`, links followed, through the filter `skip`. -/
def walk (t : Tree) (skip : String → FileType → Bool) (root : String) : List Event :=
  match t.resolve root with
  | .error e => [.failure root e]
  | .ok real =>
    match t.find? real with
    | none => [.failure root .notFound]
    | some n =>
      if skip root n.kind then []
      else if n.kind = .dir then
        .entry root .dir :: walkDir t skip (t.nodes.length + 1) root real [(real, root)]
      else [.entry root n.kind]

end CodeNotes.Discovery
