import CodeNotes.Proofs.Path.Components
import CodeNotes.Proofs.Discovery.SingleFile
import CodeNotes.Project.Basic
set_option autoImplicit false

/-!
# Where a note path points

A path given for a note is joined onto the working directory and its `.` and `..` are
resolved by the text alone (`lexicalPath`); the note is stored under the names below
the source root when the root leads that path, else under the whole path.  Discovering
one file reads such a stored path back, under the root when it is relative, and records
the root-relative form of the result.

Under the root the two agree: the stored path is relative, the engine records it as it
is, and so does a full walk for the file it reaches by the same names.  Outside the root
they differ: the stored path is absolute, and the engine, which writes the root
component of a path the root does not lead as `/`, records it with a second leading
slash (`discoverFile_records_notePath`).  A scoped reconcile of such a file then keeps
none of the comments found in it (`notePath_outside_root_dropped`).
-/

namespace CodeNotes.Project

open CodeNotes.Path CodeNotes.Discovery CodeNotes.Fs

/-- The path a note path names: the file joined onto the working directory, with `.` and
`..` resolved by the text alone. -/
def lexicalPath (p : Project) (file : String) : List Component :=
  normalize (components (join p.cwd file))

theorem notePath_eq (p : Project) (file : String) :
    p.notePath file =
      match dropPrefix (components p.config.sourceRoot) (p.lexicalPath file) with
      | some rest => "/".intercalate ((rest.filter (· ≠ .current)).map Component.text)
      | none => render (p.lexicalPath file) := rfl

variable {p : Project}

theorem lexicalPath_absolute (hcwd : isAbsolute p.cwd = true) (file : String) :
    ∃ ns, p.lexicalPath file = .root :: ns ∧ ∀ n ∈ ns, n.IsName :=
  normalize_absolute (isAbsolute_join hcwd file)

/-- Under the root, a note path is the names below the root joined by slashes. -/
theorem notePath_under_root (hroot : isAbsolute p.config.sourceRoot = true)
    (hcwd : isAbsolute p.cwd = true) {file : String} {rest : List Component}
    (h : p.lexicalPath file = components p.config.sourceRoot ++ rest) :
    (∀ c ∈ rest, c.IsName) ∧ p.notePath file = "/".intercalate (rest.map Component.text) := by
  obtain ⟨ns, hns, hnames⟩ := lexicalPath_absolute hcwd file
  obtain ⟨r, hr⟩ := isAbsolute_iff.1 hroot
  -- both paths start at the root, so `rest` is a tail of the names after it
  have htail : ns = bodyComponents r ++ rest := by
    rw [hns, components_of_toList hr] at h
    exact (List.cons.inj h).2
  have hrest : ∀ c ∈ rest, c.IsName :=
    fun c hc => hnames c (htail ▸ List.mem_append_right _ hc)
  refine ⟨hrest, ?_⟩
  rw [notePath_eq, h, dropPrefix_eq_some_iff.2 rfl]
  simp only [filter_ne_current hrest]

theorem notePath_outside_root {file : String}
    (h : ¬ components p.config.sourceRoot <+: p.lexicalPath file) :
    p.notePath file = render (p.lexicalPath file) := by
  rw [notePath_eq, dropPrefix_eq_none_iff.2 h]

variable {e : Engine} (he : e.sourceRoot = p.config.sourceRoot)
include he

/-- Under the root, the engine reads a note path back to itself. -/
theorem relativePath_resolve_under_root (hroot : isAbsolute p.config.sourceRoot = true)
    (hcwd : isAbsolute p.cwd = true) {file : String}
    (hin : components p.config.sourceRoot <+: p.lexicalPath file) :
    isAbsolute (p.notePath file) = false ∧
      e.relativePath (e.resolve (p.notePath file)) = p.notePath file := by
  obtain ⟨rest, hrest⟩ := hin
  obtain ⟨hnames, hnote⟩ := notePath_under_root hroot hcwd hrest.symm
  have habs : isAbsolute (p.notePath file) = false := hnote ▸ isAbsolute_intercalate hnames
  refine ⟨habs, ?_⟩
  rw [Engine.resolve, if_neg (by simp [habs]), Engine.relativePath, he, hnote]
  exact relativeTo_join_names hroot hnames

/-- Outside the root, the engine records a note path other than `/` with a second
leading slash. -/
theorem relativePath_resolve_outside_root (hcwd : isAbsolute p.cwd = true) {file : String}
    (hout : ¬ components p.config.sourceRoot <+: p.lexicalPath file)
    (hne : p.notePath file ≠ "/") :
    e.relativePath (e.resolve (p.notePath file)) = "/" ++ p.notePath file := by
  obtain ⟨ns, hns, hnames⟩ := lexicalPath_absolute hcwd file
  have hnote : p.notePath file = render (.root :: ns) := by rw [notePath_outside_root hout, hns]
  have hns_ne : ns ≠ [] := by
    rintro rfl
    exact hne hnote
  rw [Engine.resolve, hnote, if_pos (isAbsolute_render ns), Engine.relativePath, he]
  exact relativeTo_render hnames (hns ▸ hout) hns_ne

omit he

/-- The stored path of a note and the path discovery records for the file agree exactly
under the source root.  There the stored path is relative; discovering the file by it
records every comment, and a missing-file error, under it; and it is what a full walk
records for the file it reaches by the same names.  Outside the root the stored path is
absolute, and discovery records the file with a second leading slash. -/
theorem discoverFile_records_notePath (hroot : isAbsolute p.config.sourceRoot = true)
    (hcwd : isAbsolute p.cwd = true) (e : Engine) (he : e.sourceRoot = p.config.sourceRoot)
    (t : Tree) (tags : TagSet) (file : String) :
    (isAbsolute (p.notePath file) = false ↔
      components p.config.sourceRoot <+: p.lexicalPath file) ∧
    (components p.config.sourceRoot <+: p.lexicalPath file →
      Records (e.discoverFile t tags (p.notePath file)) (p.notePath file)) ∧
    (∀ ns : List String, p.lexicalPath file = components p.config.sourceRoot ++ ns.map .normal →
      e.relativePath (ns.foldl join e.sourceRoot) = p.notePath file) ∧
    (¬ components p.config.sourceRoot <+: p.lexicalPath file → p.notePath file ≠ "/" →
      Records (e.discoverFile t tags (p.notePath file)) ("/" ++ p.notePath file)) := by
  refine ⟨⟨fun habs => ?_, fun hin => (relativePath_resolve_under_root he hroot hcwd hin).1⟩,
    fun hin => ?_, fun ns hns => ?_, fun hout hne => ?_⟩
  · -- a path the root does not lead is stored whole, from the root
    refine Classical.byContradiction fun hout => ?_
    obtain ⟨ns, hns, -⟩ := lexicalPath_absolute hcwd file
    rw [notePath_outside_root hout, hns, isAbsolute_render] at habs
    cases habs
  · exact e.discoverFile_records_of_eq t tags _
      (relativePath_resolve_under_root he hroot hcwd hin).2
  · obtain ⟨hnames, hnote⟩ := notePath_under_root hroot hcwd hns
    rw [hnote, Engine.relativePath, he, relativeTo_foldl_join _ (by simpa using hnames),
      List.map_map]
    simp [Function.comp_def, Component.text]
  · exact e.discoverFile_records_of_eq t tags _
      (relativePath_resolve_outside_root he hcwd hout hne)

/-- A project rooted at `/srv/proj`, working in its `src` directory. -/
def srvProject : Project := ⟨{ sourceRoot := "/srv/proj" }, [], "/srv/proj/src"⟩

/-- A discovery engine over `/srv/proj` with every built-in language. -/
def srvEngine : Engine := ⟨"/srv/proj", Extract.Registry.builtin, Collector.new, 1, 16⟩

theorem discoverFile_records_notePath_sibling :
    isAbsolute srvProject.config.sourceRoot = true ∧ isAbsolute srvProject.cwd = true ∧
    srvEngine.sourceRoot = srvProject.config.sourceRoot ∧
    ((isAbsolute (srvProject.notePath "../lib.rs") = false ↔
      components srvProject.config.sourceRoot <+: srvProject.lexicalPath "../lib.rs") ∧
    (components srvProject.config.sourceRoot <+: srvProject.lexicalPath "../lib.rs" →
      Records
        (srvEngine.discoverFile Tree.empty (TagSet.ofList []) (srvProject.notePath "../lib.rs"))
        (srvProject.notePath "../lib.rs")) ∧
    (∀ ns : List String,
      srvProject.lexicalPath "../lib.rs" =
        components srvProject.config.sourceRoot ++ ns.map .normal →
      srvEngine.relativePath (ns.foldl join srvEngine.sourceRoot) =
        srvProject.notePath "../lib.rs") ∧
    (¬ components srvProject.config.sourceRoot <+: srvProject.lexicalPath "../lib.rs" →
      srvProject.notePath "../lib.rs" ≠ "/" →
      Records
        (srvEngine.discoverFile Tree.empty (TagSet.ofList []) (srvProject.notePath "../lib.rs"))
        ("/" ++ srvProject.notePath "../lib.rs"))) :=
  have hroot : isAbsolute srvProject.config.sourceRoot = true := isAbsolute_iff.2 ⟨_, rfl⟩
  have hcwd : isAbsolute srvProject.cwd = true := isAbsolute_iff.2 ⟨_, rfl⟩
  ⟨hroot, hcwd, rfl, discoverFile_records_notePath hroot hcwd srvEngine rfl Tree.empty
    (TagSet.ofList []) "../lib.rs"⟩

/-- A TODO found in `/srv/outside.rs`, recorded as discovery records that file. -/
def outsideComment : Comment := ⟨"//srv/outside.rs", "// TODO fix outside", 1, .todo, false⟩

/-- A file beside the source root: its note path is absolute, discovery records it with a
second leading slash, and a reconcile scoped to the note path keeps none of the comments
found there. -/
theorem notePath_outside_root_dropped :
    srvProject.notePath "../../outside.rs" = "/srv/outside.rs" ∧
    srvEngine.relativePath (srvEngine.resolve "/srv/outside.rs") = outsideComment.filepath ∧
    Reconcile.wanted [outsideComment] (some (srvProject.notePath "../../outside.rs")) = [] := by
  have hnote : srvProject.notePath "../../outside.rs" = "/srv/outside.rs" := by
    have hjoin : components (join srvProject.cwd "../../outside.rs") =
        components srvProject.cwd ++ bodyComponents "../../outside.rs".toList :=
      components_join (isAbsolute_iff.2 ⟨_, rfl⟩) (by simp [isAbsolute])
    simp only [notePath, hjoin]
    rfl
  refine ⟨hnote, ?_, ?_⟩
  · simp [Engine.resolve, isAbsolute]
    rfl
  · rw [hnote]
    decide

end CodeNotes.Project
