import CodeNotes.Extract.Cursor
set_option autoImplicit false

/-!
# The cursor walk meets every comment once, in document order

Main statement:

* `Syntax.visitComments_preorder`: for any cursor whose moves do what a tree cursor is
  documented to do (`Tracks`), made on the root of a finite tree, the walk ends after
  exactly twice as many turns as the tree has nodes, and meets the comment nodes of the
  tree each once, in document order; at no turn is the cursor anywhere but on a node of
  that tree.

The walk is followed through the places of its cursor: `Tracks.run` turns any run of the
walk into a run on zippers.  There, one visit of a subtree takes two turns a node but one
and comes back to the subtree's root ready to climb (`run_placesIn`); climbing from a
finished child goes through the subtrees of the siblings after it and ends on the parent
(`run_climb`).  The two are proved together, by recursion on the tree and on the list of
siblings.  The places of a tree are distinct (`nodup_placesIn`), since each sits below
the places before it at a later sibling; every move keeps a place in its tree
(`plug_step`).
-/

namespace CodeNotes.Extract.Syntax

/-! ## Places -/

/-- The whole tree around a subtree placed at `up`. -/
def plugAt : Tree → List Crumb → Tree
  | t, [] => t
  | t, ⟨k, bs, as⟩ :: up => plugAt (.node k (bs.reverseAux (t :: as))) up

/-- The whole tree a place is in. -/
def Zipper.plug (z : Zipper) : Tree := plugAt z.focus z.crumbs

mutual
/-- The places of the nodes of `t`, standing at `up`, in document order: the root, then
the places of each child's subtree in turn. -/
def placesIn : Tree → List Crumb → List Zipper
  | .node k cs, up => ⟨.node k cs, up⟩ :: placesAmong k [] cs up

/-- The places of the subtrees of the children `cs` of a node of kind `k`, after the
children `before` (nearest first). -/
def placesAmong (k : String) : List Tree → List Tree → List Crumb → List Zipper
  | _, [], _ => []
  | before, c :: after, up =>
    placesIn c (⟨k, before, after⟩ :: up) ++ placesAmong k (c :: before) after up
end

/-- The places of the nodes of a tree, in document order. -/
def Tree.places (t : Tree) : List Zipper := placesIn t []

/-- Whether the node at a place is a comment. -/
def Zipper.isComment (z : Zipper) : Bool := z.focus.kind == "comment"

namespace Zipper

theorem plug_firstChild {z z' : Zipper} (h : z.firstChild = some z') : z'.plug = z.plug := by
  obtain ⟨t, up⟩ := z
  match t, h with
  | .node k (c :: cs), h =>
    cases h
    rfl

theorem plug_nextSibling {z z' : Zipper} (h : z.nextSibling = some z') : z'.plug = z.plug := by
  obtain ⟨t, up⟩ := z
  match up, h with
  | ⟨k, bs, a :: as⟩ :: up, h =>
    cases h
    rfl

theorem plug_parent {z z' : Zipper} (h : z.parent = some z') : z'.plug = z.plug := by
  obtain ⟨t, up⟩ := z
  match up, h with
  | ⟨k, bs, as⟩ :: up, h =>
    cases h
    rfl

end Zipper

/-! ## Following a cursor by its places -/

section Tracking

variable {C : Type}

/-- A cursor's moves do what they are documented to do, read through the place `pos` of
each cursor: the kind is that of the node at the place, and each move goes where the
zipper's goes, and fails where it fails. -/
structure Tracks (m : Moves C) (pos : C → Zipper) : Prop where
  kind : ∀ c, m.kind c = (pos c).focus.kind
  firstChild : ∀ c, (m.firstChild c).map pos = (pos c).firstChild
  nextSibling : ∀ c, (m.nextSibling c).map pos = (pos c).nextSibling
  parent : ∀ c, (m.parent c).map pos = (pos c).parent

/-- A zipper is a cursor that tracks itself. -/
theorem tracks_zipper : Tracks Zipper.moves id :=
  ⟨fun _ => rfl, fun _ => Option.map_id', fun _ => Option.map_id', fun _ => Option.map_id'⟩

/-- The walk seen through the places of its cursors. -/
def Walk.map {D : Type} (f : C → D) (w : Walk C) : Walk D := ⟨f w.cursor, w.phase, w.found.map f⟩

variable {m : Moves C} {pos : C → Zipper}

/-- One turn of the walk is one turn of the walk on places. -/
theorem Tracks.step (h : Tracks m pos) (w : Walk C) :
    (w.step m).map pos = (w.map pos).step Zipper.moves := by
  obtain ⟨c, phase, found⟩ := w
  -- read every move of the zipper at `pos c` as the cursor's move seen through `pos`
  cases phase with
  | visit =>
    simp only [Walk.step, Walk.map, Zipper.moves, ← h.kind, ← h.firstChild]
    by_cases hk : m.kind c = "comment" <;> cases m.firstChild c <;> simp [hk]
  | climb =>
    simp only [Walk.step, Walk.map, Zipper.moves, ← h.nextSibling, ← h.parent]
    cases m.nextSibling c <;> cases m.parent c <;> rfl
  | done => rfl

/-- A run of the walk is a run of the walk on places. -/
theorem Tracks.run (h : Tracks m pos) :
    ∀ (n : Nat) (w : Walk C), (Walk.run m n w).map pos = Walk.run Zipper.moves n (w.map pos)
  | 0, _ => rfl
  | n + 1, w => by
    rw [Walk.run, Walk.run, h.run n, h.step]

end Tracking

/-! ## Runs -/

theorem Walk.run_add {C : Type} (m : Moves C) :
    ∀ (a b : Nat) (w : Walk C), Walk.run m (a + b) w = Walk.run m b (Walk.run m a w)
  | 0, b, w => by rw [Nat.zero_add]; rfl
  | a + 1, b, w => by
    rw [Nat.add_right_comm, Walk.run, Walk.run, Walk.run_add m a b]

theorem Walk.run_one_add {C : Type} (m : Moves C) (n : Nat) (w : Walk C) :
    Walk.run m (1 + n) w = Walk.run m n (w.step m) := by
  rw [Walk.run_add]
  rfl

theorem Walk.run_done {C : Type} (m : Moves C) (c : C) (found : List C) :
    ∀ n : Nat, Walk.run m n ⟨c, .done, found⟩ = ⟨c, .done, found⟩
  | 0 => rfl
  | n + 1 => Walk.run_done m c found n

/-! ## The walk on places -/

/-- The comments among some places, newest first, as the walk records them. -/
def recorded (zs : List Zipper) : List Zipper := (zs.filter Zipper.isComment).reverse

theorem recorded_append (zs zs' : List Zipper) : recorded (zs ++ zs') = recorded zs' ++ recorded zs := by
  simp [recorded, List.filter_append]

theorem recorded_cons (z : Zipper) (zs : List Zipper) : recorded (z :: zs) = recorded zs ++ recorded [z] := by
  rw [← recorded_append, List.singleton_append]

theorem placesIn_ne_nil (t : Tree) (up : List Crumb) : placesIn t up ≠ [] := by
  cases t with
  | node k cs => simp [placesIn]

/-- Looking at a node records it when it is a comment and goes down to its first child. -/
theorem step_visit (k : String) (c : Tree) (cs : List Tree) (up : List Crumb) (found : List Zipper) :
    Walk.step Zipper.moves ⟨⟨.node k (c :: cs), up⟩, .visit, found⟩ =
      ⟨⟨c, ⟨k, [], cs⟩ :: up⟩, .visit, recorded [⟨.node k (c :: cs), up⟩] ++ found⟩ := by
  by_cases hk : k = "comment" <;>
    simp [Walk.step, Zipper.moves, Zipper.firstChild, recorded, Zipper.isComment, Tree.kind, hk]

/-- Looking at a leaf records it when it is a comment, and the walk climbs. -/
theorem step_visit_leaf (k : String) (up : List Crumb) (found : List Zipper) :
    Walk.step Zipper.moves ⟨⟨.node k [], up⟩, .visit, found⟩ =
      ⟨⟨.node k [], up⟩, .climb, recorded [⟨.node k [], up⟩] ++ found⟩ := by
  by_cases hk : k = "comment" <;>
    simp [Walk.step, Zipper.moves, Zipper.firstChild, recorded, Zipper.isComment, Tree.kind, hk]

mutual
/-- Visiting a subtree takes two turns a node but one, meets its comments in document
order, and ends on the subtree's root, ready to climb. -/
theorem run_placesIn : ∀ (t : Tree) (up : List Crumb) (found : List Zipper),
    Walk.run Zipper.moves (2 * (placesIn t up).length - 1) ⟨⟨t, up⟩, .visit, found⟩ =
      ⟨⟨t, up⟩, .climb, recorded (placesIn t up) ++ found⟩
  | .node k [], up, found => by
    have hlen : 2 * (placesIn (.node k []) up).length - 1 = 1 := by simp [placesIn, placesAmong]
    rw [hlen, Walk.run, Walk.run, step_visit_leaf]
    simp [placesIn, placesAmong]
  | .node k (c :: cs), up, found => by
    -- one turn down to the first child, its subtree, then the climb through its siblings
    have hc := run_placesIn c (⟨k, [], cs⟩ :: up) (recorded [⟨.node k (c :: cs), up⟩] ++ found)
    have hcl := run_climb k [] c cs up
      (recorded (placesIn c (⟨k, [], cs⟩ :: up)) ++ recorded [⟨.node k (c :: cs), up⟩] ++ found)
    have hpos := List.length_pos_iff.2 (placesIn_ne_nil c (⟨k, [], cs⟩ :: up))
    have hlen : 2 * (placesIn (.node k (c :: cs)) up).length - 1 =
        1 + (2 * (placesIn c (⟨k, [], cs⟩ :: up)).length - 1) +
          (1 + 2 * (placesAmong k [c] cs up).length) := by
      simp only [placesIn, placesAmong, List.length_cons, List.length_append]
      omega
    rw [hlen, Walk.run_add _ (1 + _), Walk.run_one_add _ (2 * (placesIn c _).length - 1), step_visit,
      hc, ← List.append_assoc, hcl]
    have hrec : recorded (placesIn (.node k (c :: cs)) up) = recorded (placesAmong k [c] cs up) ++
        recorded (placesIn c (⟨k, [], cs⟩ :: up)) ++ recorded [⟨.node k (c :: cs), up⟩] := by
      rw [placesIn, recorded_cons _ (placesAmong k [] (c :: cs) up), placesAmong, recorded_append]
    rw [hrec]
    simp only [List.append_assoc, List.reverseAux]

/-- Climbing from the finished child `c` of a node of kind `k`, with the siblings
`before` it and `after` it, visits the subtrees of the siblings after it in turn and ends
on the parent, ready to climb. -/
theorem run_climb : ∀ (k : String) (before : List Tree) (c : Tree) (after : List Tree)
    (up : List Crumb) (found : List Zipper),
    Walk.run Zipper.moves (1 + 2 * (placesAmong k (c :: before) after up).length)
        ⟨⟨c, ⟨k, before, after⟩ :: up⟩, .climb, found⟩ =
      ⟨⟨.node k (before.reverseAux (c :: after)), up⟩, .climb,
        recorded (placesAmong k (c :: before) after up) ++ found⟩
  | k, before, c, [], up, found => by
    simp [placesAmong, Walk.run, Walk.step, Zipper.moves, Zipper.nextSibling, Zipper.parent, recorded]
  | k, before, c, d :: after, up, found => by
    -- one turn to the next sibling, its subtree, then the climb from it
    have hd := run_placesIn d (⟨k, c :: before, after⟩ :: up) found
    have hcl := run_climb k (c :: before) d after up
      (recorded (placesIn d (⟨k, c :: before, after⟩ :: up)) ++ found)
    have hpos := List.length_pos_iff.2 (placesIn_ne_nil d (⟨k, c :: before, after⟩ :: up))
    have hlen : 1 + 2 * (placesAmong k (c :: before) (d :: after) up).length =
        1 + (2 * (placesIn d (⟨k, c :: before, after⟩ :: up)).length - 1) +
          (1 + 2 * (placesAmong k (d :: c :: before) after up).length) := by
      simp only [placesAmong, List.length_append]
      omega
    have hsib : Walk.step Zipper.moves ⟨⟨c, ⟨k, before, d :: after⟩ :: up⟩, .climb, found⟩ =
        ⟨⟨d, ⟨k, c :: before, after⟩ :: up⟩, .visit, found⟩ := rfl
    rw [hlen, Walk.run_add _ (1 + _), Walk.run_one_add _ (2 * (placesIn d _).length - 1), hsib, hd, hcl]
    simp only [placesAmong, recorded_append, List.append_assoc, List.reverseAux]
end

/-- From the root of a tree, the walk on places ends after twice as many turns as the
tree has nodes, having met its comments in document order. -/
theorem run_places (t : Tree) :
    Walk.run Zipper.moves (2 * t.places.length) ⟨Zipper.root t, .visit, []⟩ =
      ⟨Zipper.root t, .done, recorded t.places⟩ := by
  have hpos := List.length_pos_iff.2 (placesIn_ne_nil t [])
  have hlen : 2 * t.places.length = (2 * (placesIn t []).length - 1) + 1 := by
    rw [Tree.places]
    omega
  rw [hlen, Walk.run_add, Zipper.root, run_placesIn, List.append_nil]
  rfl

/-! ## Each place once -/

mutual
/-- The places of a subtree placed at `up` all lie below `up`. -/
theorem crumbs_of_mem_placesIn : ∀ {t : Tree} {up : List Crumb} {z : Zipper},
    z ∈ placesIn t up → ∃ ext, z.crumbs = ext ++ up
  | .node k cs, up, z, h => by
    rcases List.mem_cons.1 h with rfl | h
    · exact ⟨[], rfl⟩
    · obtain ⟨ext, b, a, hz, -⟩ := crumbs_of_mem_placesAmong h
      exact ⟨ext ++ [⟨k, b, a⟩], by simp [hz]⟩

/-- The places of the subtrees of some children lie below one of those children, after
at least the children `before`. -/
theorem crumbs_of_mem_placesAmong : ∀ {k : String} {before cs : List Tree} {up : List Crumb}
    {z : Zipper}, z ∈ placesAmong k before cs up →
      ∃ ext b a, z.crumbs = ext ++ ⟨k, b, a⟩ :: up ∧ before.length ≤ b.length
  | k, before, [], up, z, h => by simp [placesAmong] at h
  | k, before, c :: after, up, z, h => by
    rcases List.mem_append.1 h with h | h
    · obtain ⟨ext, hz⟩ := crumbs_of_mem_placesIn h
      exact ⟨ext, before, after, hz, Nat.le_refl _⟩
    · obtain ⟨ext, b, a, hz, hb⟩ := crumbs_of_mem_placesAmong h
      exact ⟨ext, b, a, hz, by simp at hb; omega⟩
end

/-- Two ways down that end on the same level over the same `up` pass that level alike. -/
theorem crumb_eq_of_append {ext ext' : List Crumb} {x y : Crumb} {up : List Crumb}
    (h : ext ++ x :: up = ext' ++ y :: up) : x = y := by
  have hlen : ext.length = ext'.length := by
    have := congrArg List.length h
    simp at this
    omega
  obtain ⟨-, hrest⟩ := List.append_inj h hlen
  exact (List.cons.inj hrest).1

mutual
theorem nodup_placesIn : ∀ (t : Tree) (up : List Crumb), (placesIn t up).Nodup
  | .node k cs, up => by
    refine List.nodup_cons.2 ⟨fun h => ?_, nodup_placesAmong k [] cs up⟩
    -- the root's own place is above every place below it
    obtain ⟨ext, b, a, hz, -⟩ := crumbs_of_mem_placesAmong h
    have := congrArg List.length hz
    simp at this
    omega

theorem nodup_placesAmong : ∀ (k : String) (before cs : List Tree) (up : List Crumb),
    (placesAmong k before cs up).Nodup
  | k, before, [], up => List.nodup_nil
  | k, before, c :: after, up => by
    refine List.nodup_append.2 ⟨nodup_placesIn c _, nodup_placesAmong k (c :: before) after up, ?_⟩
    -- a place below `c` and a place below a later sibling part at the level of `c`
    rintro z hz z' hz' rfl
    obtain ⟨ext, hz⟩ := crumbs_of_mem_placesIn hz
    obtain ⟨ext', b, a, hz', hb⟩ := crumbs_of_mem_placesAmong hz'
    have hcrumb := crumb_eq_of_append (hz.symm.trans hz')
    simp only [Crumb.mk.injEq] at hcrumb
    rw [← hcrumb.2.1, List.length_cons] at hb
    omega
end

/-! ## Staying in the tree -/

/-- No turn of the walk on places takes the cursor out of its tree. -/
theorem plug_step (w : Walk Zipper) : (w.step Zipper.moves).cursor.plug = w.cursor.plug := by
  obtain ⟨z, phase, found⟩ := w
  cases phase with
  | visit =>
    simp only [Walk.step, Zipper.moves]
    cases h : z.firstChild with
    | some z' => exact Zipper.plug_firstChild h
    | none => rfl
  | climb =>
    simp only [Walk.step, Zipper.moves]
    cases hs : z.nextSibling with
    | some z' => exact Zipper.plug_nextSibling hs
    | none =>
      cases hp : z.parent with
      | some z' => exact Zipper.plug_parent hp
      | none => rfl
  | done => rfl

theorem plug_run : ∀ (n : Nat) (w : Walk Zipper),
    (Walk.run Zipper.moves n w).cursor.plug = w.cursor.plug
  | 0, _ => rfl
  | n + 1, w => by rw [Walk.run, plug_run n, plug_step]

/-! ## The walk from a cursor -/

/-- A walk from a cursor made on the root of a tree `t`, whose moves do what they are
documented to do, ends within twice as many turns as `t` has nodes, having met each
comment node of `t` once, in document order; at no turn does the cursor leave `t`. -/
theorem visitComments_preorder {C : Type} {m : Moves C} {pos : C → Zipper} (hm : Tracks m pos)
    (t : Tree) (c : C) (hc : pos c = Zipper.root t) :
    (∀ fuel, 2 * t.places.length ≤ fuel → ∃ found, visitComments m fuel c = some found ∧
        found.map pos = t.places.filter Zipper.isComment ∧ (found.map pos).Nodup) ∧
      (∀ n, (pos (Walk.run m n ⟨c, .visit, []⟩).cursor).plug = t) := by
  -- every run of the walk is a run on places, from the root of `t`
  have hrun : ∀ n, (Walk.run m n ⟨c, .visit, []⟩).map pos =
      Walk.run Zipper.moves n ⟨Zipper.root t, .visit, []⟩ := by
    intro n
    rw [hm.run]
    simp [Walk.map, hc]
  refine ⟨fun fuel hfuel => ?_, fun n => ?_⟩
  · have hend : (Walk.run m fuel ⟨c, .visit, []⟩).map pos =
        ⟨Zipper.root t, .done, recorded t.places⟩ := by
      rw [hrun, ← Nat.add_sub_cancel' hfuel, Walk.run_add, run_places, Walk.run_done]
    have hphase : (Walk.run m fuel ⟨c, .visit, []⟩).phase = .done := congrArg Walk.phase hend
    have hfound : (Walk.run m fuel ⟨c, .visit, []⟩).found.map pos = recorded t.places :=
      congrArg Walk.found hend
    refine ⟨(Walk.run m fuel ⟨c, .visit, []⟩).found.reverse, by simp [visitComments, hphase], ?_, ?_⟩
    · rw [List.map_reverse, hfound, recorded, List.reverse_reverse]
    · rw [List.map_reverse, hfound, recorded, List.reverse_reverse]
      exact (nodup_placesIn t []).filter _
  · have hcursor := congrArg Walk.cursor (hrun n)
    simp only [Walk.map] at hcursor
    rw [hcursor, plug_run]
    rfl

example : (visitComments Zipper.moves 12
    (Zipper.root (.node "module" [.node "comment" [], .node "block" [.node "comment" []]]))).map
      List.length = some 2 := by decide

/-- The parse tree of a method whose body starts with a comment, inside a class. -/
def nestedBlocks : Tree :=
  .node "module" [.node "class_definition" [.node "class" [], .node "identifier" [], .node ":" [],
    .node "block" [.node "function_definition" [.node "def" [], .node "identifier" [],
      .node "parameters" [.node "(" [], .node "identifier" [], .node ")" []], .node ":" [],
      .node "block" [.node "comment" [], .node "return_statement" [.node "return" [],
        .node "integer" []]]]]]]

theorem visitComments_preorder_nestedBlocks :
    Tracks Zipper.moves id ∧ id (Zipper.root nestedBlocks) = Zipper.root nestedBlocks ∧
      (∀ fuel, 2 * nestedBlocks.places.length ≤ fuel → ∃ found,
          visitComments Zipper.moves fuel (Zipper.root nestedBlocks) = some found ∧
          found.map id = nestedBlocks.places.filter Zipper.isComment ∧ (found.map id).Nodup) ∧
      (∀ n, (id (Walk.run Zipper.moves n ⟨Zipper.root nestedBlocks, .visit, []⟩).cursor).plug =
        nestedBlocks) :=
  ⟨tracks_zipper, rfl, visitComments_preorder tracks_zipper nestedBlocks (Zipper.root nestedBlocks) rfl⟩

end CodeNotes.Extract.Syntax
