import CodeNotes.Fs.Error
import CodeNotes.Path.Basic
import CodeNotes.Store.Database
set_option autoImplicit false

/-!
# The file tree

The program reads and writes a tree of directories, files, symbolic links and note
databases.  A `Tree` keeps every node under its real path, the list of names from the
root directory, which always exists; it also keeps the working directory against which
relative paths are read.

A path is followed one piece at a time as the operating system does: `.` and empty
pieces stay, `..` goes to the parent of the real directory reached so far, a link is
replaced by its target (an absolute target restarts at the root), and a file may only
end a path: a file followed by anything, even a trailing slash, is "not a directory".
More than forty link replacements in one path are a loop.

Text is the bytes of a file read as UTF-8; a note database reads as binary.
-/

namespace CodeNotes.Fs

open CodeNotes.Store

/-- What stands at a place of the tree. -/
inductive Node where
  | dir
  | file (data : ByteArray)
  | link (target : String)
  | database (db : Database)
  deriving Inhabited

/-- The kind of a node, as a metadata call reports it. -/
inductive FileType where
  | dir
  | file
  | link
  deriving DecidableEq, Repr

/-- The kind of a node; a database is a file. -/
def Node.kind : Node → FileType
  | .dir => .dir
  | .file _ => .file
  | .link _ => .link
  | .database _ => .file

/-- A file tree and the working directory. -/
structure Tree where
  nodes : List (List String × Node)
  cwd : List String
  deriving Inhabited

/-- How many link replacements one path may take. -/
def linkLimit : Nat := 40

/-- One piece of a path as the operating system reads it. -/
inductive Step where
  | root
  | same
  | up
  | name (s : String)
  deriving DecidableEq, Repr

/-- The step of one piece between slashes; an empty piece stays in place. -/
def stepOf (piece : List Char) : Step :=
  if piece.isEmpty || piece == ['.'] then .same
  else if piece == ['.', '.'] then .up
  else .name (String.ofList piece)

/-- The steps of a path's text. -/
def steps (path : String) : List Step :=
  match path.toList with
  | '/' :: rest => .root :: (Path.splitSlash rest).map stepOf
  | [] => []
  | cs => (Path.splitSlash cs).map stepOf

/-- The text of a real path. -/
def render (p : List String) : String := "/" ++ "/".intercalate p

namespace Tree

/-- A tree with only the root directory, working in it. -/
def empty : Tree := ⟨[], []⟩

/-- The node at a real path; the root is a directory. -/
def find? (t : Tree) (p : List String) : Option Node :=
  if p.isEmpty then some .dir else t.nodes.lookup p

/-- The steps of a path, read from the working directory when it is relative. -/
def stepsFrom (t : Tree) (path : String) : List Step :=
  if Path.isAbsolute path then steps path else .root :: t.cwd.map .name ++ steps path

/-- Follows steps from the real directory `cur`.  The last step's link is followed when
`follow` holds; `fuel` counts the link replacements left. -/
def walk (t : Tree) (follow : Bool) (fuel : Nat) (cur : List String) :
    List Step → Except IoError (List String)
  | [] => .ok cur
  | .root :: rest => walk t follow fuel [] rest
  | .same :: rest => walk t follow fuel cur rest
  | .up :: rest => walk t follow fuel cur.dropLast rest
  | .name n :: rest =>
    match t.find? (cur ++ [n]) with
    | none => .error .notFound
    | some .dir => walk t follow fuel (cur ++ [n]) rest
    | some (.link target) =>
      if rest.isEmpty && !follow then .ok (cur ++ [n])
      else
        match fuel with
        | 0 => .error .tooManyLinks
        | k + 1 => walk t follow k cur (steps target ++ rest)
    | some _ => if rest.isEmpty then .ok (cur ++ [n]) else .error .notADirectory
termination_by s => (fuel, s.length)

/-- The real path a path leads to, following every link. -/
def resolve (t : Tree) (path : String) : Except IoError (List String) :=
  t.walk true linkLimit [] (t.stepsFrom path)

/-- The real path a path leads to, the last link not followed. -/
def resolveNoFollow (t : Tree) (path : String) : Except IoError (List String) :=
  t.walk false linkLimit [] (t.stepsFrom path)

/-- The kind of what a path leads to, links followed. -/
def metadata (t : Tree) (path : String) : Except IoError FileType := do
  let p ← t.resolve path
  match t.find? p with
  | some n => pure n.kind
  | none => throw .notFound

/-- The kind of what a path names, a last link not followed. -/
def symlinkMetadata (t : Tree) (path : String) : Except IoError FileType := do
  let p ← t.resolveNoFollow path
  match t.find? p with
  | some n => pure n.kind
  | none => throw .notFound

/-- Whether a path leads to a directory. -/
def isDir (t : Tree) (path : String) : Bool :=
  match t.metadata path with
  | .ok .dir => true
  | _ => false

/-- Whether a path leads to a file. -/
def isFile (t : Tree) (path : String) : Bool :=
  match t.metadata path with
  | .ok .file => true
  | _ => false

/-- Whether a path leads anywhere. -/
def «exists» (t : Tree) (path : String) : Bool :=
  match t.metadata path with
  | .ok _ => true
  | .error _ => false

/-- The real path of what a path leads to, as text. -/
def canonicalize (t : Tree) (path : String) : Except IoError String :=
  render <$> t.resolve path

/-- The bytes a path leads to. -/
def read (t : Tree) (path : String) : Except IoError ByteArray := do
  let p ← t.resolve path
  match t.find? p with
  | some (.file data) => pure data
  | some (.database _) => pure (ByteArray.mk #[0x53, 0x51, 0x4c, 0x69, 0x74, 0x65, 0xff, 0x00])
  | some .dir => throw .isADirectory
  | _ => throw .notFound

/-- The text a path leads to. -/
def readText (t : Tree) (path : String) : Except IoError String := do
  match String.fromUTF8? (← t.read path) with
  | some s => pure s
  | none => throw .invalidText

/-- The tree with a node at a real path, replacing what stood there. -/
def put (t : Tree) (p : List String) (n : Node) : Tree :=
  if t.nodes.any (·.1 == p) then
    { t with nodes := t.nodes.map fun e => if e.1 == p then (p, n) else e }
  else { t with nodes := t.nodes ++ [(p, n)] }

/-- The tree without the node at a real path and everything under it. -/
def erase (t : Tree) (p : List String) : Tree :=
  { t with nodes := t.nodes.filter fun e => !(p.isPrefixOf e.1) }

/-- Where a new entry named by a path goes: the real parent directory and the name,
or the failure of reaching the parent. -/
def placeOf (t : Tree) (path : String) : Except IoError (Option (List String × String)) := do
  let ss := t.stepsFrom path
  match ss.reverse with
  | .name n :: before =>
    let parent ← t.walk true linkLimit [] before.reverse
    match t.find? parent with
    | some .dir => pure (some (parent, n))
    | some _ => throw .notADirectory
    | none => throw .notFound
  | _ => pure none

/-- Writes bytes to a path, creating or replacing a file; a link at the path is followed. -/
def write (t : Tree) (path : String) (data : ByteArray) : Except IoError Tree := do
  match ← t.placeOf path with
  | none =>
    let p ← t.resolve path
    match t.find? p with
    | some .dir => throw .isADirectory
    | _ => pure (t.put p (.file data))
  | some (parent, n) =>
    match t.find? (parent ++ [n]) with
    | some .dir => throw .isADirectory
    | some (.link _) =>
      match t.resolve path with
      | .ok p =>
        match t.find? p with
        | some .dir => throw .isADirectory
        | _ => pure (t.put p (.file data))
      | .error e => throw e
    | _ => pure (t.put (parent ++ [n]) (.file data))

/-- Creates one directory; anything already standing at the path is an error. -/
def createDir (t : Tree) (path : String) : Except IoError Tree := do
  match ← t.placeOf path with
  | none =>
    let _ ← t.resolve path
    throw .alreadyExists
  | some (parent, n) =>
    match t.find? (parent ++ [n]) with
    | some _ => throw .alreadyExists
    | none => pure (t.put (parent ++ [n]) .dir)

/-- The parent of a path's text, as `Path.parent` gives it. -/
def parentText (path : String) : Option String :=
  let cs := Path.components path
  match cs.reverse with
  | [] => none
  | [Path.Component.root] => none
  | _ :: before => some (Path.render before.reverse)

/-- Creates a directory and the missing ones above it.  `depth` bounds how many
parents are tried; a path has no more parents than characters. -/
def createDirAllFrom (t : Tree) : Nat → String → Except IoError Tree
  | 0, _ => .error .notFound
  | depth + 1, path =>
    if path.isEmpty then .ok t
    else
      match t.createDir path with
      | .ok t' => .ok t'
      | .error .notFound =>
        match parentText path with
        | none => .error .notFound
        | some parent =>
          match t.createDirAllFrom depth parent with
          | .error e => .error e
          | .ok t' =>
            match t'.createDir path with
            | .ok t'' => .ok t''
            | .error e => if t'.isDir path then .ok t' else .error e
      | .error e => if t.isDir path then .ok t else .error e

/-- Creates a directory and the missing ones above it. -/
def createDirAll (t : Tree) (path : String) : Except IoError Tree :=
  t.createDirAllFrom (path.length + 1) path

/-- Writes a file, creating the directories above it first. -/
def writeWithParents (t : Tree) (path : String) (data : ByteArray) : Except IoError Tree := do
  let t ← match parentText path with
    | some parent => t.createDirAll parent
    | none => pure t
  t.write path data

/-- Places a symbolic link with the given target text at a path. -/
def symlink (t : Tree) (path target : String) : Except IoError Tree := do
  match ← t.placeOf path with
  | none => throw .alreadyExists
  | some (parent, n) =>
    match t.find? (parent ++ [n]) with
    | some _ => throw .alreadyExists
    | none => pure (t.put (parent ++ [n]) (.link target))

/-- Removes what a path names (a directory with all it holds); `false` when nothing
stands there. -/
def remove (t : Tree) (path : String) : Bool × Tree :=
  match t.resolveNoFollow path with
  | .ok p => if p.isEmpty then (false, t) else (true, t.erase p)
  | .error _ => (false, t)

/-- Removes a directory with everything in it; a link at the path is removed itself,
and a file is not a directory. -/
def removeDirAll (t : Tree) (path : String) : Except IoError Tree := do
  let p ← t.resolveNoFollow path
  match t.find? p with
  | some .dir => pure (t.erase p)
  | some (.link _) => pure (t.erase p)
  | some _ => throw .notADirectory
  | none => throw .notFound

/-- The names and nodes directly inside a real directory, by name. -/
def children (t : Tree) (dir : List String) : List (String × Node) :=
  let direct := t.nodes.filterMap fun (p, n) =>
    match p.reverse with
    | name :: before => if before.reverse == dir then some (name, n) else none
    | [] => none
  direct.mergeSort fun a b => decide (a.1 ≤ b.1)

end Tree

end CodeNotes.Fs
