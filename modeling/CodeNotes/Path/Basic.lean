set_option autoImplicit false

/-!
# Paths

A path is text that reads as a list of components: a root `/` when it starts with a
slash, a leading `.` when a relative path starts with one, then the names between
slashes.  Empty names and inner `.` names are skipped and `..` names the parent, so
`a//b`, `a/./b` and `a/b/` are one path to every operation here.

Comparison, prefix stripping and the root-relative form of a path work on the
component list; `join`, the file name and the extension follow the same reading.
-/

namespace CodeNotes.Path

/-- One step of a path. -/
inductive Component where
  | root
  | current
  | parent
  | normal (name : String)
  deriving DecidableEq, Repr, Inhabited

/-- The text of a component: the root is written `/`. -/
def Component.text : Component → String
  | .root => "/"
  | .current => "."
  | .parent => ".."
  | .normal s => s

/-- Splits a character list at every slash; `n` slashes give `n + 1` pieces. -/
def splitSlash : List Char → List (List Char)
  | [] => [[]]
  | c :: cs =>
    if c = '/' then [] :: splitSlash cs
    else
      match splitSlash cs with
      | [] => [[c]]
      | p :: ps => (c :: p) :: ps

/-- The component a piece between slashes stands for; empty pieces and `.` stand for none. -/
def ofPiece (p : List Char) : Option Component :=
  if p.isEmpty || p == ['.'] then none
  else if p == ['.', '.'] then some .parent
  else some (.normal (String.ofList p))

/-- The components of the named steps of a path, with nothing in front. -/
def bodyComponents (cs : List Char) : List Component :=
  (splitSlash cs).filterMap ofPiece

/-- The components of a path given as characters. -/
def componentsOf : List Char → List Component
  | '/' :: rest => .root :: bodyComponents rest
  | ['.'] => [.current]
  | '.' :: '/' :: rest => .current :: bodyComponents rest
  | cs => bodyComponents cs

/-- The components of a path. -/
def components (p : String) : List Component := componentsOf p.toList

/-- A path is absolute when it starts at the root. -/
def isAbsolute (p : String) : Bool := p.startsWith "/"

/-- What is left of `path` after the components of `base`, when they lead it. -/
def dropPrefix : List Component → List Component → Option (List Component)
  | [], rest => some rest
  | _ :: _, [] => none
  | b :: bs, p :: ps => if b = p then dropPrefix bs ps else none

/-- Two paths are equal when their components are. -/
def same (a b : String) : Bool := components a == components b

/-- Writes components back as a path: names joined by `/`, after the root's own slash. -/
def render : List Component → String
  | .root :: rest => "/" ++ "/".intercalate (rest.map Component.text)
  | cs => "/".intercalate (cs.map Component.text)

/-- The root-relative form of a path, as it is stored in notes: the components left
after stripping `root` (the whole path when `root` does not lead it), without `.`,
joined by `/`; the root component counts as the text `/`. -/
def relativeTo (root path : String) : String :=
  let cs := components path
  let rest := (dropPrefix (components root) cs).getD cs
  "/".intercalate ((rest.filter (· ≠ .current)).map Component.text)

/-- Appends `tail` to `base`: an absolute `tail` replaces `base`, and a slash goes
between them unless `base` is empty or already ends with one. -/
def join (base tail : String) : String :=
  if isAbsolute tail then tail
  else if base.isEmpty || base.endsWith "/" then base ++ tail
  else base ++ "/" ++ tail

/-- The last component when it is a name. -/
def fileName (p : String) : Option String :=
  match (components p).getLast? with
  | some (.normal s) => some s
  | _ => none

/-- The text after the last dot of the file name; a name whose only dot leads it has none. -/
def extensionOfName (name : String) : Option String :=
  let cs := name.toList
  if name == ".." then none
  else
    match (cs.reverse.span (· ≠ '.')) with
    | (_, []) => none
    | (after, _ :: before) =>
      if before.isEmpty then none else some (String.ofList after.reverse)

/-- The extension of a path's file name. -/
def extension (p : String) : Option String := (fileName p).bind extensionOfName

/-- Removes `.` and resolves `..` by the text alone; `..` at the root or at the start of
a relative path is dropped. -/
def normalize (cs : List Component) : List Component :=
  cs.foldl (fun out c =>
    match c with
    | .current => out
    | .parent =>
      match out.getLast? with
      | some (.normal _) => out.dropLast
      | _ => out
    | c => out ++ [c]) []

/-- Paths order component by component, names by their text. -/
def Component.rank : Component → Nat
  | .root => 0
  | .current => 1
  | .parent => 2
  | .normal _ => 3

/-- Component order: the kinds in the order root, `.`, `..`, names; names by text. -/
def Component.lt (a b : Component) : Bool :=
  match a, b with
  | .normal x, .normal y => decide (x < y)
  | _, _ => a.rank < b.rank

/-- Lexicographic order on component lists. -/
def componentsLe : List Component → List Component → Bool
  | [], _ => true
  | _ :: _, [] => false
  | a :: as, b :: bs => if a = b then componentsLe as bs else a.lt b

/-- Path order, component by component. -/
def le (a b : String) : Bool := componentsLe (components a) (components b)

example : relativeTo "/srv/x" "/srv/x/a/./b.rs" = "a/b.rs" := by rfl
example : relativeTo "/srv/x" "/other/c" = "//other/c" := by rfl

end CodeNotes.Path
