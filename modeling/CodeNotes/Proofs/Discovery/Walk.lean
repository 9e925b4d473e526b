import CodeNotes.Discovery.Walk
import CodeNotes.Proofs.Path.Components
import Mathlib.Data.List.Nodup
set_option autoImplicit false

/-!
# Walking a tree

A walk reports each entry of a directory under the directory's path joined with the
entry's name; a link is met as what it leads to (`childEvents`), and a directory met is
walked in turn (`visitEvents`), so a walk of a directory is the walk of each of its
entries (`walkDir_succ`).  On any tree whose nodes stand at paths of names
(`Tree.Named`), every entry reported, through links or not, is reached from the starting
path by names of the tree (`Discovery.names_of_mem_walkDir`, and
`Discovery.names_of_mem_files_walk` for the files of a walk from a directory).

On a tree without links a walk meets only nodes of the tree, each under the names of its
path joined onto the path the walk started from.  Main statements:

* `Discovery.mem_walkDir_entry`: below a directory, a walk reports exactly the nodes it
  meets within its depth bound (`Discovery.Along`: every node on the way is a directory
  the filter lets through), each under the names of its path;
* `Discovery.along_iff`: what the walk meets, said of the prefixes of the path;
* `Discovery.mem_files_walk` and `Discovery.nodup_files_walk`: from a root that leads to
  a directory, the files reported are the files met below it, each once.

`Tree.Plain` is the shape of such a tree: every node stands at one path of names inside
a directory, and none is a link.  On it each entry is met as itself
(`walkDir_succ_of_plain`), the step every induction here follows; the depth bound is
never reached, since the nodes on the way to a node are distinct nodes of the tree
(`Along.length_le`).
-/

namespace CodeNotes.Fs

/-- Every node of the tree stands at a path of names. -/
def Tree.Named (t : Tree) : Prop := ∀ e ∈ t.nodes, ∀ n ∈ e.1, (Path.Component.normal n).IsName

instance : DecidablePred Tree.Named := fun t =>
  inferInstanceAs (Decidable (∀ e ∈ t.nodes, ∀ n ∈ e.1, (Path.Component.normal n).IsName))

/-- A tree without links whose nodes each stand at one path of names, inside a
directory. -/
structure Tree.Plain (t : Tree) : Prop where
  nodup : (t.nodes.map Prod.fst).Nodup
  names : ∀ e ∈ t.nodes, ∀ n ∈ e.1, (Path.Component.normal n).IsName
  noLink : ∀ e ∈ t.nodes, e.2.kind ≠ .link
  parent : ∀ e ∈ t.nodes, e.1.dropLast = [] ∨ ∃ d ∈ t.nodes, d.1 = e.1.dropLast ∧ d.2.kind = .dir

namespace Tree

variable {t : Tree}

theorem Plain.named (ht : t.Plain) : t.Named := ht.names

theorem Plain.node_unique (ht : t.Plain) {p : List String} {n m : Node} (hn : (p, n) ∈ t.nodes)
    (hm : (p, m) ∈ t.nodes) : n = m :=
  (Prod.mk.inj (List.inj_on_of_nodup_map ht.nodup hn hm rfl)).2

/-- The entry a node makes in the directory `dir`: its name and itself, when it stands
directly inside. -/
def entryIn (dir : List String) (e : List String × Node) : Option (String × Node) :=
  match e.1.reverse with
  | name :: before => if before.reverse == dir then some (name, e.2) else none
  | [] => none

theorem children_eq (dir : List String) :
    t.children dir = (t.nodes.filterMap (entryIn dir)).mergeSort fun a b => decide (a.1 ≤ b.1) :=
  rfl

theorem entryIn_eq_some {dir : List String} {e : List String × Node} {name : String} {node : Node} :
    entryIn dir e = some (name, node) ↔ e = (dir ++ [name], node) := by
  obtain ⟨p, n⟩ := e
  unfold entryIn
  constructor
  · intro h
    split at h
    · rename_i x before hrev
      split at h
      · rename_i hdir
        simp only [Option.some.injEq, Prod.mk.injEq] at h
        obtain ⟨rfl, rfl⟩ := h
        rw [← List.reverse_reverse p, hrev, List.reverse_cons, eq_of_beq hdir]
      · cases h
    · cases h
  · intro h
    simp only [Prod.mk.injEq] at h
    obtain ⟨rfl, rfl⟩ := h
    simp

theorem mem_children {dir : List String} {name : String} {node : Node} :
    (name, node) ∈ t.children dir ↔ (dir ++ [name], node) ∈ t.nodes := by
  rw [children_eq, List.mem_mergeSort, List.mem_filterMap]
  constructor
  · rintro ⟨e, he, h⟩
    exact entryIn_eq_some.1 h ▸ he
  · exact fun h => ⟨_, h, entryIn_eq_some.2 rfl⟩

theorem Plain.nodup_children (ht : t.Plain) (dir : List String) : (t.children dir).Nodup := by
  rw [children_eq]
  refine (List.mergeSort_perm _ _).nodup_iff.2 (List.Nodup.filterMap ?_ (ht.nodup.of_map Prod.fst))
  rintro e e' ⟨name, node⟩ h h'
  rw [entryIn_eq_some.1 h, entryIn_eq_some.1 h']

/-- The entries of a directory have distinct names. -/
theorem Plain.pairwise_children (ht : t.Plain) (dir : List String) :
    (t.children dir).Pairwise fun a b => a.1 ≠ b.1 := by
  refine (ht.nodup_children dir).imp_of_mem ?_
  rintro ⟨x, n⟩ ⟨y, m⟩ hx hy hne rfl
  exact hne (by rw [ht.node_unique (mem_children.1 hx) (mem_children.1 hy)])

theorem prefix_dropLast_of_ne {l₁ l₂ : List String} (h : l₁ <+: l₂) (hne : l₁ ≠ l₂) :
    l₁ <+: l₂.dropLast := by
  obtain ⟨rest, rfl⟩ := h
  have hrest : rest ≠ [] := fun h0 => hne (by simp [h0])
  rw [List.dropLast_append_of_ne_nil hrest]
  exact List.prefix_append _ _

/-- Every node stands inside directories: the paths that lead a node's path are paths of
directories. -/
theorem Plain.exists_dir_of_prefix (ht : t.Plain) {p' : List String} (hne : p' ≠ [])
    (p : List String) {n : Node} (hp : (p, n) ∈ t.nodes) (hpre : p' <+: p) (hne' : p' ≠ p) :
    ∃ m, (p', m) ∈ t.nodes ∧ m.kind = .dir := by
  have hpre' := prefix_dropLast_of_ne hpre hne'
  rcases ht.parent _ hp with h0 | ⟨⟨d, m⟩, hd, hdp, hm⟩
  · exact absurd (List.prefix_nil.1 (h0 ▸ hpre')) hne
  · simp only at hdp hm
    subst hdp
    by_cases heq : p' = p.dropLast
    · subst heq
      exact ⟨m, hd, hm⟩
    · exact ht.exists_dir_of_prefix hne p.dropLast hd hpre' heq
termination_by p.length
decreasing_by
  have hp0 : p ≠ [] := fun h0 => hne (List.prefix_nil.1 (h0 ▸ hpre))
  simp only [List.length_dropLast]
  have := List.length_pos_iff.2 hp0
  omega

end Tree
end CodeNotes.Fs

namespace CodeNotes.Discovery

open CodeNotes.Fs

variable {t : Tree} {skip : String → FileType → Bool}

/-- What a walk reports for the entry `name` of a directory reached at `path`, met as of
kind `kind` at the real path `target`: the entry, if the filter lets it through, and below
a directory the walk of that directory. -/
def visitEvents (t : Tree) (skip : String → FileType → Bool) (depth : Nat) (path : String)
    (ancestors : List (List String × String)) (name : String) (kind : FileType)
    (target : List String) : List Event :=
  if skip (Path.join path name) kind then []
  else if kind = .dir then
    .entry (Path.join path name) .dir ::
      walkDir t skip depth (Path.join path name) target ((target, Path.join path name) :: ancestors)
  else [.entry (Path.join path name) kind]

/-- What a walk reports for one entry `e` of the real directory `real`, reached at `path`:
a link is met as what it leads to, unless that cannot be reached or is a directory the
walk is inside. -/
def childEvents (t : Tree) (skip : String → FileType → Bool) (depth : Nat) (path : String)
    (real : List String) (ancestors : List (List String × String)) (e : String × Node) :
    List Event :=
  match e.2 with
  | .link _ =>
    match t.resolve (Path.join path e.1) with
    | .error err => [.failure (Path.join path e.1) err]
    | .ok target =>
      match t.find? target with
      | some .dir =>
        match ancestors.find? (·.1 == target) with
        | some (_, ancestor) => [.loop (Path.join path e.1) ancestor]
        | none => visitEvents t skip depth path ancestors e.1 .dir target
      | some n => visitEvents t skip depth path ancestors e.1 n.kind target
      | none => [.failure (Path.join path e.1) .notFound]
  | n => visitEvents t skip depth path ancestors e.1 n.kind (real ++ [e.1])

/-- A walk goes through the entries of a directory one by one. -/
theorem walkDir_succ (depth : Nat) (path : String) (real : List String)
    (ancestors : List (List String × String)) :
    walkDir t skip (depth + 1) path real ancestors =
      (t.children real).flatMap (childEvents t skip depth path real ancestors) := by
  rw [walkDir]
  rfl

/-- Without links, each entry is met as itself. -/
theorem walkDir_succ_of_plain (ht : t.Plain) (depth : Nat) (path : String) (real : List String)
    (ancestors : List (List String × String)) :
    walkDir t skip (depth + 1) path real ancestors =
      (t.children real).flatMap fun e => visitEvents t skip depth path ancestors e.1 e.2.kind (real ++ [e.1]) := by
  rw [walkDir_succ]
  refine List.flatMap_congr fun ⟨name, node⟩ hmem => ?_
  have hlink := ht.noLink _ (Tree.mem_children.1 hmem)
  cases node with
  | link target => exact absurd rfl hlink
  | dir | file _ | database _ => rfl

theorem mem_visitEvents_entry {depth : Nat} {path : String} {ancestors : List (List String × String)}
    {name : String} {kind : FileType} {target : List String} {p : String} {k : FileType} :
    .entry p k ∈ visitEvents t skip depth path ancestors name kind target ↔
      skip (Path.join path name) kind = false ∧ ((p = Path.join path name ∧ k = kind) ∨
        (kind = .dir ∧ .entry p k ∈ walkDir t skip depth (Path.join path name) target
          ((target, Path.join path name) :: ancestors))) := by
  unfold visitEvents
  split
  · rename_i hskip
    simp [hskip]
  · rename_i hskip
    simp only [Bool.not_eq_true] at hskip
    split
    · rename_i hdir
      subst hdir
      simp [hskip]
    · rename_i hdir
      simp [hskip, hdir, eq_comm]

/-- Every entry reported for an entry of a directory is reported as the walk meets it,
under some kind and at some real path. -/
theorem mem_childEvents_entry {depth : Nat} {path : String} {real : List String}
    {ancestors : List (List String × String)} {e : String × Node} {p : String} {k : FileType}
    (h : .entry p k ∈ childEvents t skip depth path real ancestors e) :
    ∃ kind target, .entry p k ∈ visitEvents t skip depth path ancestors e.1 kind target := by
  unfold childEvents at h
  split at h
  · -- a link: reported as its target, unless it fails or loops
    split at h
    · simp at h
    · split at h
      · split at h
        · simp at h
        · exact ⟨_, _, h⟩
      · exact ⟨_, _, h⟩
      · simp at h
  · exact ⟨_, _, h⟩

/-- Below a directory, every entry a walk reports, through links or not, is reached from
the directory's path by names of the tree, one or more. -/
theorem names_of_mem_walkDir (ht : t.Named) {p : String} {k : FileType} :
    ∀ {depth : Nat} {path : String} {real : List String} {ancestors : List (List String × String)},
      .entry p k ∈ walkDir t skip depth path real ancestors →
        ∃ q, q ≠ [] ∧ (∀ n ∈ q, (Path.Component.normal n).IsName) ∧ p = q.foldl Path.join path
  | 0, _, _, _, h => by simp [walkDir] at h
  | depth + 1, path, real, ancestors, h => by
    rw [walkDir_succ, List.mem_flatMap] at h
    obtain ⟨⟨name, node⟩, hmem, hin⟩ := h
    have hname : (Path.Component.normal name).IsName :=
      ht _ (Tree.mem_children.1 hmem) name (by simp)
    obtain ⟨kind, target, hin⟩ := mem_childEvents_entry hin
    obtain ⟨-, ⟨rfl, -⟩ | ⟨-, hin⟩⟩ := mem_visitEvents_entry.1 hin
    · exact ⟨[name], by simp, by simpa using hname, rfl⟩
    · obtain ⟨q, -, hq, rfl⟩ := names_of_mem_walkDir ht hin
      exact ⟨name :: q, by simp, List.forall_mem_cons.2 ⟨hname, hq⟩, rfl⟩

/-- Every entry reported for an entry of a directory is named below that entry. -/
theorem components_of_mem_visitEvents (ht : t.Named) {depth : Nat} {path : String}
    {ancestors : List (List String × String)} {name : String} {kind : FileType}
    {target : List String} (hname : (Path.Component.normal name).IsName) {p : String} {k : FileType}
    (hp : .entry p k ∈ visitEvents t skip depth path ancestors name kind target) :
    ∃ q : List String, Path.components p = Path.components path ++ (name :: q).map .normal := by
  obtain ⟨-, ⟨rfl, -⟩ | ⟨-, hin⟩⟩ := mem_visitEvents_entry.1 hp
  · exact ⟨[], by simp [Path.components_join_name path hname]⟩
  · obtain ⟨q, -, hq, rfl⟩ := names_of_mem_walkDir ht hin
    refine ⟨q, ?_⟩
    rw [Path.components_foldl_join_names _ hq, Path.components_join_name path hname]
    simp

/-- A walk from the directory `real`, reached at `path`, meets the node at `real ++ q`
as of kind `k`: each node on the way is a directory the filter lets through, and so is
the last one, of kind `k`. -/
def Along (t : Tree) (skip : String → FileType → Bool) :
    String → List String → List String → FileType → Prop
  | _, _, [], _ => False
  | path, real, n :: q, k => ∃ node, (real ++ [n], node) ∈ t.nodes ∧
      skip (Path.join path n) node.kind = false ∧
      ((q = [] ∧ node.kind = k) ∨ (node.kind = .dir ∧ Along t skip (Path.join path n) (real ++ [n]) q k))

/-- Below a directory, a walk without links reports exactly the nodes it meets within its
depth bound, each under the names of its path joined onto the directory's. -/
theorem mem_walkDir_entry (ht : t.Plain) {p : String} {k : FileType} :
    ∀ {depth : Nat} {path : String} {real : List String} {ancestors : List (List String × String)},
      .entry p k ∈ walkDir t skip depth path real ancestors ↔
        ∃ q, q.length ≤ depth ∧ p = q.foldl Path.join path ∧ Along t skip path real q k
  | 0, path, real, ancestors => by
    simp only [walkDir, List.not_mem_nil, false_iff, not_exists, not_and, Nat.le_zero,
      List.length_eq_zero_iff]
    rintro q rfl - hal
    exact hal
  | depth + 1, path, real, ancestors => by
    rw [walkDir_succ_of_plain ht, List.mem_flatMap]
    constructor
    · rintro ⟨⟨name, node⟩, hmem, hin⟩
      have hnode := Tree.mem_children.1 hmem
      obtain ⟨hskip, ⟨rfl, rfl⟩ | ⟨hdir, hin⟩⟩ := mem_visitEvents_entry.1 hin
      · exact ⟨[name], by simp, rfl, node, hnode, hskip, .inl ⟨rfl, rfl⟩⟩
      · obtain ⟨q, hlen, rfl, hal⟩ := mem_walkDir_entry ht |>.1 hin
        exact ⟨name :: q, by simpa using hlen, rfl, node, hnode, hskip, .inr ⟨hdir, hal⟩⟩
    · rintro ⟨q, hlen, rfl, hal⟩
      cases q with
      | nil => exact hal.elim
      | cons name q =>
        obtain ⟨node, hnode, hskip, hrest⟩ := hal
        refine ⟨(name, node), Tree.mem_children.2 hnode, mem_visitEvents_entry.2 ⟨hskip, ?_⟩⟩
        rcases hrest with ⟨rfl, rfl⟩ | ⟨hdir, hal⟩
        · exact .inl ⟨rfl, rfl⟩
        · exact .inr ⟨hdir, mem_walkDir_entry ht |>.2 ⟨q, by simpa using hlen, rfl, hal⟩⟩

theorem Event.file?_eq_some_iff {e : Event} {p : String} : e.file? = some p ↔ e = .entry p .file := by
  cases e with
  | entry q k => cases k <;> simp [Event.file?]
  | failure q cause => simp [Event.file?]
  | loop q ancestor => simp [Event.file?]

theorem mem_files_iff {es : List Event} {p : String} :
    p ∈ es.filterMap Event.file? ↔ .entry p .file ∈ es := by
  simp [Event.file?_eq_some_iff]

/-- The names on the way to a node met by a walk are names of the tree's paths. -/
theorem Along.names (ht : t.Plain) :
    ∀ {q : List String} {path : String} {real : List String} {k : FileType},
      Along t skip path real q k → ∀ n ∈ q, (Path.Component.normal n).IsName
  | [], _, _, _, hal => hal.elim
  | n :: q, path, real, k, ⟨node, hnode, _, hrest⟩ => by
    intro m hm
    rcases List.mem_cons.1 hm with rfl | hm
    · exact ht.names _ hnode m (by simp)
    · rcases hrest with ⟨rfl, -⟩ | ⟨-, hal⟩
      · cases hm
      · exact hal.names ht m hm

/-- A walk without links reports every file once. -/
theorem nodup_files_walkDir (ht : t.Plain) :
    ∀ {depth : Nat} {path : String} {real : List String} {ancestors : List (List String × String)},
      ((walkDir t skip depth path real ancestors).filterMap Event.file?).Nodup
  | 0, _, _, _ => by simp [walkDir]
  | depth + 1, path, real, ancestors => by
    rw [walkDir_succ_of_plain ht, List.filterMap_flatMap, List.nodup_flatMap]
    refine ⟨fun e _ => ?_, ?_⟩
    · -- the files of one entry: itself, or those below it
      unfold visitEvents
      split
      · exact List.nodup_nil
      split
      · rw [List.filterMap_cons_none rfl]
        exact nodup_files_walkDir ht
      · exact (List.nodup_singleton _).filterMap fun _ _ _ h h' =>
          (Event.file?_eq_some_iff.1 h).trans (Event.file?_eq_some_iff.1 h').symm
    · -- entries with distinct names report files under distinct names
      refine (ht.pairwise_children real).imp_of_mem fun {a b} ha hb hne => ?_
      intro p hpa hpb
      obtain ⟨qa, hqa⟩ := components_of_mem_visitEvents ht.named
        (ht.names _ (Tree.mem_children.1 ha) a.1 (by simp)) (mem_files_iff.1 hpa)
      obtain ⟨qb, hqb⟩ := components_of_mem_visitEvents ht.named
        (ht.names _ (Tree.mem_children.1 hb) b.1 (by simp)) (mem_files_iff.1 hpb)
      rw [hqa, List.append_cancel_left_eq, List.map_cons, List.map_cons, List.cons.injEq,
        Path.Component.normal.injEq] at hqb
      exact hne hqb.1

/-- The nodes on the way to a node met by a walk are nodes of the tree. -/
theorem Along.mem_nodes :
    ∀ {q : List String} {path : String} {real : List String} {k : FileType},
      Along t skip path real q k → ∀ q', q' <+: q → q' ≠ [] → ∃ node, (real ++ q', node) ∈ t.nodes
  | [], _, _, _, hal => hal.elim
  | n :: q, path, real, k, ⟨node, hnode, _, hrest⟩ => by
    intro q' hq' hne
    rcases List.prefix_cons_iff.1 hq' with rfl | ⟨q'', rfl, hq''⟩
    · exact absurd rfl hne
    · by_cases h0 : q'' = []
      · subst h0
        exact ⟨node, hnode⟩
      · rcases hrest with ⟨rfl, -⟩ | ⟨-, hal⟩
        · exact absurd (List.prefix_nil.1 hq'') h0
        · obtain ⟨m, hm⟩ := hal.mem_nodes q'' hq'' h0
          exact ⟨m, by simpa using hm⟩

/-- A walk meets nodes no deeper than the tree has nodes. -/
theorem Along.length_le {q : List String} {path : String} {real : List String}
    {k : FileType} (hal : Along t skip path real q k) : q.length ≤ t.nodes.length := by
  -- the paths `real ++ q.take (i + 1)` are distinct paths of nodes
  let paths := (List.range q.length).map fun i => real ++ q.take (i + 1)
  have hnodup : paths.Nodup := by
    refine List.nodup_range.map_on fun i hi j hj hij => ?_
    have := congrArg List.length hij
    simp only [List.length_append, List.length_take] at this
    simp only [List.mem_range] at hi hj
    omega
  have hsub : paths ⊆ t.nodes.map Prod.fst := by
    intro x hx
    obtain ⟨i, hi, rfl⟩ := List.mem_map.1 hx
    have hi : i < q.length := List.mem_range.1 hi
    obtain ⟨node, hnode⟩ := hal.mem_nodes _ (List.take_prefix (i + 1) q)
      (by
        rw [ne_eq, List.take_eq_nil_iff]
        rintro (h | rfl)
        · omega
        · simp at hi)
    exact List.mem_map.2 ⟨_, hnode, rfl⟩
  simpa [paths] using hnodup.length_le_of_subset hsub

/-- What a walk meets, step by step: the nodes on the way, their kinds and what the filter
says of each. -/
theorem along_iff (ht : t.Plain) :
    ∀ {q : List String} {path : String} {real : List String} {k : FileType},
      Along t skip path real q k ↔ q ≠ [] ∧ (∃ n, (real ++ q, n) ∈ t.nodes ∧ n.kind = k) ∧
        ∀ q', q' <+: q → q' ≠ [] → ∃ m, (real ++ q', m) ∈ t.nodes ∧
          skip (q'.foldl Path.join path) m.kind = false ∧ (q' ≠ q → m.kind = .dir)
  | [], _, _, _ => by simp [Along]
  | n :: q, path, real, k => by
    constructor
    · rintro ⟨node, hnode, hskip, ⟨rfl, rfl⟩ | ⟨hdir, hal⟩⟩
      · refine ⟨List.cons_ne_nil _ _, ⟨node, hnode, rfl⟩, fun q' hq' hne => ?_⟩
        obtain rfl : q' = [n] := by
          rcases List.prefix_cons_iff.1 hq' with rfl | ⟨q'', rfl, hq''⟩
          · exact absurd rfl hne
          · rw [List.prefix_nil.1 hq'']
        exact ⟨node, hnode, hskip, fun h => absurd rfl h⟩
      · obtain ⟨hne, ⟨m, hm, hmk⟩, hways⟩ := (along_iff ht).1 hal
        refine ⟨List.cons_ne_nil _ _, ⟨m, by simpa using hm, hmk⟩, fun q' hq' hne' => ?_⟩
        rcases List.prefix_cons_iff.1 hq' with rfl | ⟨q'', rfl, hq''⟩
        · exact absurd rfl hne'
        by_cases h0 : q'' = []
        · subst h0
          exact ⟨node, hnode, hskip, fun _ => hdir⟩
        · obtain ⟨m', hm', hskip', hdir'⟩ := hways q'' hq'' h0
          exact ⟨m', by simpa using hm', hskip', fun h => hdir' fun h' => h (h' ▸ rfl)⟩
    · rintro ⟨-, ⟨m, hm, hmk⟩, hways⟩
      obtain ⟨node, hnode, hskip, hdir⟩ := hways [n] (List.prefix_cons_iff.2 (.inr ⟨[], rfl, List.nil_prefix⟩))
        (List.cons_ne_nil _ _)
      refine ⟨node, hnode, hskip, ?_⟩
      by_cases h0 : q = []
      · subst h0
        exact .inl ⟨rfl, ht.node_unique hnode hm ▸ hmk⟩
      · refine .inr ⟨hdir fun h => h0 (List.cons.inj h).2.symm, (along_iff ht).2 ⟨h0, ⟨m, by simpa using hm, hmk⟩, ?_⟩⟩
        intro q'' hq'' hne
        obtain ⟨m', hm', hskip', hdir'⟩ := hways (n :: q'') (List.prefix_cons_iff.2 (.inr ⟨q'', rfl, hq''⟩))
          (List.cons_ne_nil _ _)
        exact ⟨m', by simpa using hm', hskip', fun h => hdir' fun h' => h (List.cons.inj h').2⟩

/-- A walk from a root that leads to a directory reports the root, then the walk below it,
unless the filter refuses the root. -/
theorem walk_of_dir {root : String} {r : List String} (hroot : t.resolve root = .ok r)
    (hdir : (t.find? r).map Node.kind = some .dir) :
    walk t skip root = if skip root .dir then [] else
      .entry root .dir :: walkDir t skip (t.nodes.length + 1) root r [(r, root)] := by
  obtain ⟨n, hn, hk⟩ := Option.map_eq_some_iff.1 hdir
  simp only [walk, hroot, hn, hk, if_true]

/-- The files a walk from a directory reports on a tree without links: those it meets
below the root, when the filter lets the root through. -/
theorem mem_files_walk (ht : t.Plain) {root : String} {r : List String}
    (hroot : t.resolve root = .ok r) (hdir : (t.find? r).map Node.kind = some .dir) {p : String} :
    p ∈ (walk t skip root).filterMap Event.file? ↔
      skip root .dir = false ∧ ∃ q, p = q.foldl Path.join root ∧ Along t skip root r q .file := by
  rw [walk_of_dir hroot hdir]
  split
  · rename_i hskip
    simp [hskip]
  · rename_i hskip
    rw [List.filterMap_cons_none rfl, mem_files_iff, mem_walkDir_entry ht]
    simp only [hskip, true_and]
    constructor
    · rintro ⟨q, -, hp, hal⟩
      exact ⟨q, hp, hal⟩
    · rintro ⟨q, hp, hal⟩
      exact ⟨q, Nat.le_succ_of_le hal.length_le, hp, hal⟩

theorem nodup_files_walk (ht : t.Plain) {root : String} {r : List String}
    (hroot : t.resolve root = .ok r) (hdir : (t.find? r).map Node.kind = some .dir) :
    ((walk t skip root).filterMap Event.file?).Nodup := by
  rw [walk_of_dir hroot hdir]
  split
  · exact List.nodup_nil
  · rw [List.filterMap_cons_none rfl]
    exact nodup_files_walkDir ht

/-- From a root that leads to a directory, every file a walk reports, through links or
not, is reached from the root by names of the tree. -/
theorem names_of_mem_files_walk (ht : t.Named) {root : String} {r : List String}
    (hroot : t.resolve root = .ok r) (hdir : (t.find? r).map Node.kind = some .dir) {p : String}
    (hp : p ∈ (walk t skip root).filterMap Event.file?) :
    ∃ q, q ≠ [] ∧ (∀ n ∈ q, (Path.Component.normal n).IsName) ∧ p = q.foldl Path.join root := by
  rw [walk_of_dir hroot hdir] at hp
  split at hp
  · simp at hp
  · rw [List.filterMap_cons_none rfl, mem_files_iff] at hp
    exact names_of_mem_walkDir ht hp

end CodeNotes.Discovery
