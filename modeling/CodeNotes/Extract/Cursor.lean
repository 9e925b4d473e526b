set_option autoImplicit false

/-!
# Walking a parse tree with a cursor

Normative source: SPEC_FULL.md §4.2 (token-based extraction walks the parse tree and
keeps comment nodes only, in source order).

A parse tree is read with a cursor that stands on one node at a time and moves to the
node's first child, to its next sibling, or to its parent; each move either succeeds or
fails and leaves the cursor where it was.  The node the cursor was made on is the
cursor's root: it has neither siblings nor a parent that the cursor can reach.

The cursor is a parameter (`Moves`): the walk is stated for any type of cursor and its
three moves.  A `Zipper` is a place in a tree, a node with the way back up to the root,
and its moves are the documented ones; a cursor whose moves agree with the zipper's is
what `Tracks` in the proofs asks for.

`visitComments` is the walk that meets every `comment` node: at each node it records the
node when it is a comment, then goes down to the first child when there is one, and
otherwise climbs, taking the next sibling of the nearest node that has one, until
climbing fails at the root.  The walk is a loop whose end is not visible from its
shape, so it is given as a step of a machine (`Walk.step`), run for a number of steps.
-/

namespace CodeNotes.Extract.Syntax

/-- A node of a parse tree: its kind and its children in document order. -/
inductive Tree where
  | node (kind : String) (children : List Tree)
  deriving Repr, Inhabited

/-- The kind of a tree's root node. -/
def Tree.kind : Tree → String
  | .node k _ => k

/-- One level of the way from a node up to the root: the parent's kind, the node's
siblings before it (nearest first) and its siblings after it (in order). -/
structure Crumb where
  kind : String
  before : List Tree
  after : List Tree
  deriving Repr

/-- A place in a tree: the subtree at a node and the way back up, innermost level
first. -/
structure Zipper where
  focus : Tree
  crumbs : List Crumb
  deriving Repr

namespace Zipper

/-- The root of a tree, as a place. -/
def root (t : Tree) : Zipper := ⟨t, []⟩

/-- The first child of the node, when it has children. -/
def firstChild : Zipper → Option Zipper
  | ⟨.node k (c :: cs), up⟩ => some ⟨c, ⟨k, [], cs⟩ :: up⟩
  | _ => none

/-- The next sibling of the node, when it is not the root and not a last child. -/
def nextSibling : Zipper → Option Zipper
  | ⟨t, ⟨k, bs, a :: as⟩ :: up⟩ => some ⟨a, ⟨k, t :: bs, as⟩ :: up⟩
  | _ => none

/-- The parent of the node, when it is not the root. -/
def parent : Zipper → Option Zipper
  | ⟨t, ⟨k, bs, as⟩ :: up⟩ => some ⟨.node k (bs.reverseAux (t :: as)), up⟩
  | _ => none

end Zipper

/-- What the walk reads of a cursor: the kind of the node under it, and its three moves,
each `none` where the cursor cannot move. -/
structure Moves (C : Type) where
  kind : C → String
  firstChild : C → Option C
  nextSibling : C → Option C
  parent : C → Option C

/-- A zipper used as a cursor. -/
def Zipper.moves : Moves Zipper :=
  ⟨fun z => z.focus.kind, Zipper.firstChild, Zipper.nextSibling, Zipper.parent⟩

/-- Where the walk is in its loop. -/
inductive Phase where
  /-- about to look at the node under the cursor -/
  | visit
  /-- the subtree under the cursor is finished; looking for a next sibling upwards -/
  | climb
  /-- climbing failed at the cursor's root -/
  | done
  deriving DecidableEq, Repr

/-- The state of the walk: the cursor, the phase, and the cursors at the comments met so
far, newest first. -/
structure Walk (C : Type) where
  cursor : C
  phase : Phase
  found : List C

namespace Walk

variable {C : Type} (m : Moves C)

/-- One turn of the walk's loops. -/
def step (w : Walk C) : Walk C :=
  match w.phase with
  | .visit =>
    let found := if m.kind w.cursor = "comment" then w.cursor :: w.found else w.found
    match m.firstChild w.cursor with
    | some c => ⟨c, .visit, found⟩
    | none => ⟨w.cursor, .climb, found⟩
  | .climb =>
    match m.nextSibling w.cursor with
    | some c => ⟨c, .visit, w.found⟩
    | none =>
      match m.parent w.cursor with
      | some c => ⟨c, .climb, w.found⟩
      | none => ⟨w.cursor, .done, w.found⟩
  | .done => w

/-- The walk after `n` turns. -/
def run : Nat → Walk C → Walk C
  | 0, w => w
  | n + 1, w => run n (step m w)

end Walk

/-- The comment nodes a walk from the cursor `c` meets, in the order met, when it ends
within `fuel` turns. -/
def visitComments {C : Type} (m : Moves C) (fuel : Nat) (c : C) : Option (List C) :=
  let w := Walk.run m fuel ⟨c, .visit, []⟩
  match w.phase with
  | .done => some w.found.reverse
  | _ => none

end CodeNotes.Extract.Syntax
