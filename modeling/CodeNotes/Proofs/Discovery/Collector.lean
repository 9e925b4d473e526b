import CodeNotes.Discovery.Collect
import CodeNotes.Proofs.Discovery.Walk
import CodeNotes.Proofs.Discovery.Files
import Mathlib.Data.List.Induction
set_option autoImplicit false

/-!
# What the collector collects

A collector walks the source root and buckets the files it meets by extension.  Main
statement:

* `Discovery.Collector.collect_buckets`: on a tree without links, from a root that leads
  to a directory, a collector built from exclusion patterns and skip directories has one
  bucket for each normalised requested extension, keys in increasing order; the bucket of
  `k` lists in path order, each once, exactly the files below the root whose extension
  normalises to `k`, whose way from the root passes no skip directory (the root
  included), and none of whose leading paths a pattern that parses matches (the root's
  empty path and the file's own included).

Paths order component by component (`Path.le`), a total and transitive order
(`Path.le_total`, `Path.le_trans`), so inserting the files one by one leaves each bucket in
path order (`Collector.pairwise_foldl_insertPath`).  The walk's filter is the collector's
exclusion test (`Collector.excludes_eq_false_iff`), which sees a path joined from names
onto the root as those names (`Collector.relativeText_foldl_join`); what the walk meets
is said of the leading paths of each file in `Discovery.along_iff`.
-/

namespace CodeNotes.Path

/-! ## The order of paths -/

-- Names compare as texts; every other pair of components by kind.
theorem Component.lt_asymm {a b : Component} (h : a.lt b = true) : b.lt a = false := by
  cases a with
  | normal x =>
    cases b with
    | normal y =>
      simp only [Component.lt, decide_eq_true_eq, decide_eq_false_iff_not] at h ⊢
      exact String.lt_asymm h
    | root | current | parent => simp [Component.lt, Component.rank] at h
  | root | current | parent => cases b <;> simp [Component.lt, Component.rank] at h ⊢

theorem Component.lt_or_lt {a b : Component} (h : a ≠ b) : a.lt b = true ∨ b.lt a = true := by
  cases a with
  | normal x =>
    cases b with
    | normal y =>
      simp only [Component.lt, decide_eq_true_eq]
      exact lt_or_gt_of_ne fun hxy => h (hxy ▸ rfl)
    | root | current | parent => simp [Component.lt, Component.rank]
  | root | current | parent => cases b <;> simp_all [Component.lt, Component.rank]

theorem Component.lt_trans {a b c : Component} (hab : a.lt b = true) (hbc : b.lt c = true) :
    a.lt c = true := by
  cases a with
  | normal x =>
    cases b with
    | normal y =>
      cases c with
      | normal z =>
        simp only [Component.lt, decide_eq_true_eq] at hab hbc ⊢
        exact String.lt_trans hab hbc
      | root | current | parent => simp [Component.lt, Component.rank] at hbc
    | root | current | parent => simp [Component.lt, Component.rank] at hab
  | root | current | parent =>
    cases b <;> cases c <;> simp [Component.lt, Component.rank] at hab hbc ⊢

theorem componentsLe_total : ∀ as bs : List Component, componentsLe as bs = true ∨ componentsLe bs as = true
  | [], _ => .inl rfl
  | _ :: _, [] => .inr rfl
  | a :: as, b :: bs => by
    by_cases hab : a = b
    · subst hab
      simp only [componentsLe, if_true]
      exact componentsLe_total as bs
    · simp only [componentsLe, if_neg hab, if_neg (Ne.symm hab)]
      exact Component.lt_or_lt hab

theorem componentsLe_trans :
    ∀ {as bs cs : List Component}, componentsLe as bs = true → componentsLe bs cs = true →
      componentsLe as cs = true
  | [], _, _, _, _ => rfl
  | _ :: _, [], _, h, _ => by simp [componentsLe] at h
  | _ :: _, _ :: _, [], _, h => by simp [componentsLe] at h
  | a :: as, b :: bs, c :: cs, hab, hbc => by
    unfold componentsLe at hab hbc ⊢
    -- compare the first components: equal ones pass the comparison to the rest
    by_cases h₁ : a = b <;> by_cases h₂ : b = c
    · subst h₁ h₂
      simp only [if_true] at hab hbc ⊢
      exact componentsLe_trans hab hbc
    · subst h₁
      simpa [h₂] using hbc
    · subst h₂
      simpa [h₁] using hab
    · simp only [h₁, h₂, if_false] at hab hbc
      by_cases h₃ : a = c
      · subst h₃
        rw [Component.lt_asymm hab] at hbc
        cases hbc
      · simpa [h₃] using Component.lt_trans hab hbc

theorem le_total (a b : String) : le a b = true ∨ le b a = true := componentsLe_total _ _

theorem le_trans {a b c : String} (hab : le a b = true) (hbc : le b c = true) : le a c = true :=
  componentsLe_trans hab hbc

end CodeNotes.Path

namespace CodeNotes.Discovery

open CodeNotes.Fs CodeNotes.Extract

namespace Collector

/-! ## Buckets in path order -/

theorem perm_insertPath (p : String) : ∀ acc : List String, (insertPath p acc).Perm (p :: acc)
  | [] => .refl _
  | q :: qs => by
    unfold insertPath
    split
    · exact ((perm_insertPath p qs).cons q).trans (List.Perm.swap p q qs)
    · exact .refl _

/-- Inserting a path into a list in path order keeps it in path order. -/
theorem pairwise_insertPath (p : String) :
    ∀ {acc : List String}, acc.Pairwise (fun a b => Path.le a b = true) →
      (insertPath p acc).Pairwise fun a b => Path.le a b = true
  | [], _ => List.pairwise_singleton _ _
  | q :: qs, h => by
    rw [List.pairwise_cons] at h
    unfold insertPath
    split
    · rename_i hqp
      refine List.Pairwise.cons (fun x hx => ?_) (pairwise_insertPath p h.2)
      rcases mem_insertPath.1 hx with rfl | hx
      · exact hqp
      · exact h.1 x hx
    · rename_i hqp
      -- the path goes first: it is below `q`, hence below everything after `q`
      have hpq : Path.le p q = true := (Path.le_total q p).resolve_left hqp
      refine List.Pairwise.cons (fun x hx => ?_) (List.Pairwise.cons h.1 h.2)
      rcases List.mem_cons.1 hx with rfl | hx
      · exact hpq
      · exact Path.le_trans hpq (h.1 x hx)

theorem perm_foldl_insertPath :
    ∀ (fs acc : List String), (fs.foldl (fun acc f => insertPath f acc) acc).Perm (fs.reverse ++ acc)
  | [], acc => by simp
  | f :: fs, acc => by
    rw [List.foldl_cons, List.reverse_cons, List.append_assoc, List.singleton_append]
    exact (perm_foldl_insertPath fs _).trans ((perm_insertPath f acc).append_left _)

theorem pairwise_foldl_insertPath :
    ∀ (fs : List String) {acc : List String}, acc.Pairwise (fun a b => Path.le a b = true) →
      (fs.foldl (fun acc f => insertPath f acc) acc).Pairwise fun a b => Path.le a b = true
  | [], _, h => h
  | f :: fs, _, h => pairwise_foldl_insertPath fs (pairwise_insertPath f h)

theorem mem_bucket_iff {exts files : List String} {k : String} {fs : List String} :
    (k, fs) ∈ bucket exts files ↔ k ∈ sortDedup (exts.map normalizeExtension) ∧
      fs = (files.filter fun f => (Path.extension f).map normalizeExtension == some k).foldl
        (fun acc f => insertPath f acc) [] := by
  simp only [bucket, List.mem_map, Prod.mk.injEq, sortDedup]
  constructor
  · rintro ⟨k', hk', rfl, rfl⟩
    exact ⟨hk', rfl⟩
  · rintro ⟨hk, rfl⟩
    exact ⟨k, hk, rfl, rfl⟩

theorem keys_bucket (exts files : List String) :
    (bucket exts files).map Prod.fst = sortDedup (exts.map normalizeExtension) := by
  simp [bucket, sortDedup, Function.comp_def]

/-- A bucket lists, in path order and each once, the given files with its extension. -/
theorem bucket_files {exts files : List String} (hfiles : files.Nodup) {k : String}
    {fs : List String} (h : (k, fs) ∈ bucket exts files) :
    fs.Pairwise (fun a b => Path.le a b = true) ∧ fs.Nodup ∧
      ∀ p, p ∈ fs ↔ p ∈ files ∧ (Path.extension p).map normalizeExtension = some k := by
  obtain ⟨-, rfl⟩ := mem_bucket_iff.1 h
  have hperm := perm_foldl_insertPath
    (files.filter fun f => (Path.extension f).map normalizeExtension == some k) []
  rw [List.append_nil] at hperm
  refine ⟨pairwise_foldl_insertPath _ List.Pairwise.nil, ?_, fun p => ?_⟩
  · exact hperm.nodup_iff.2 (List.nodup_reverse.2 (hfiles.filter _))
  · rw [hperm.mem_iff, List.mem_reverse, List.mem_filter, beq_iff_eq]

/-! ## What the collector leaves out -/

/-- Adding exclusion patterns keeps those that parse, in order. -/
theorem addExcludes_fst (c : Collector) (ps : List String) :
    (c.addExcludes ps).1 =
      { c with exclude := c.exclude ++ ps.filterMap fun p => (Glob.Pattern.parse p).toOption } := by
  induction ps using List.reverseRecOn with
  | nil => simp [addExcludes]
  | append_singleton ps p ih =>
    rw [addExcludes, List.foldl_append, ← addExcludes]
    rcases hc : c.addExcludes ps with ⟨c', logs⟩
    rw [hc] at ih
    cases ih
    cases hp : Glob.Pattern.parse p <;> simp [hp, Except.toOption]

theorem foldl_addSkipDir (dirs : List String) (c : Collector) :
    dirs.foldl addSkipDir c = { c with skipDirs := c.skipDirs ++ dirs } := by
  induction dirs generalizing c with
  | nil => simp
  | cons d dirs ih => simp [ih, addSkipDir]

/-- An entry is kept when it is no skip directory and no exclusion pattern matches its
root-relative path. -/
theorem excludes_eq_false_iff {c : Collector} {root path : String} {kind : FileType} :
    c.excludes root path kind = false ↔
      (kind = .dir → ∀ s ∈ c.skipDirs, Path.same path s = false) ∧
        ∀ pat ∈ c.exclude, pat.matches (relativeText root path) = false := by
  simp only [excludes, Bool.or_eq_false_iff, Bool.and_eq_false_iff, decide_eq_false_iff_not,
    List.any_eq_false, Bool.not_eq_eq_eq_not, Bool.not_false, List.isEmpty_iff]
  constructor
  · rintro ⟨hskip, hpat⟩
    refine ⟨fun hk s hs => ?_, fun pat hpat' => ?_⟩
    · rcases hskip with hk' | hany
      · exact absurd hk hk'
      · simpa using hany s hs
    · rcases hpat with hnil | hall
      · rw [hnil] at hpat'
        cases hpat'
      · simpa using hall pat hpat'
  · rintro ⟨hskip, hpat⟩
    refine ⟨?_, .inr fun pat hp => by simp [hpat pat hp]⟩
    by_cases hk : kind = .dir
    · exact .inr fun s hs => by simp [hskip hk s hs]
    · exact .inl hk

/-- Names joined onto the root are seen by exclusion patterns as the names joined by
slashes; the root itself is the empty path. -/
theorem relativeText_foldl_join (root : String) {q : List String}
    (hq : ∀ n ∈ q, (Path.Component.normal n).IsName) :
    relativeText root (q.foldl Path.join root) = "/".intercalate q := by
  simp only [relativeText]
  rw [Path.components_foldl_join_names root hq, Path.dropPrefix_eq_some_iff.2 rfl]
  simp [Function.comp_def, Path.Component.text]

theorem collect_fst (c : Collector) (t : Tree) (root : String) (exts : List String) :
    (c.collect t root exts).1 = bucket exts ((walk t (c.excludes root) root).filterMap Event.file?) :=
  rfl

theorem toOption_parse_eq_some {x : String} {pat : Glob.Pattern} :
    (Glob.Pattern.parse x).toOption = some pat ↔ Glob.Pattern.parse x = .ok pat := by
  cases Glob.Pattern.parse x <;> simp [Except.toOption]

/-- The skip directories and the patterns that parse, of a collector built from texts. -/
theorem collector_of_lists (patterns skipDirs : List String) :
    (skipDirs.foldl addSkipDir (Collector.new.addExcludes patterns).1).skipDirs = skipDirs ∧
      ∀ pat, pat ∈ (skipDirs.foldl addSkipDir (Collector.new.addExcludes patterns).1).exclude ↔
        ∃ x ∈ patterns, Glob.Pattern.parse x = .ok pat := by
  simp [foldl_addSkipDir, addExcludes_fst, Collector.new, toOption_parse_eq_some]

variable {t : Tree} {root : String} {r : List String}

/-- The files a collector walks on a tree without links, from a root that leads to a
directory: the files below the root that no skip directory on their way holds, the root
included, and none of whose leading paths an exclusion pattern matches, the root's empty
path and the file's own included. -/
theorem mem_files_walk_excludes (ht : t.Plain) (hroot : t.resolve root = .ok r)
    (hdir : (t.find? r).map Node.kind = some .dir) (c : Collector) {p : String} :
    p ∈ (walk t (c.excludes root) root).filterMap Event.file? ↔
      ∃ q n, q ≠ [] ∧ p = q.foldl Path.join root ∧ (r ++ q, n) ∈ t.nodes ∧ n.kind = .file ∧
        (∀ q', q' <+: q → q' ≠ q → ∀ s ∈ c.skipDirs, Path.same (q'.foldl Path.join root) s = false) ∧
        ∀ q', q' <+: q → ∀ pat ∈ c.exclude, pat.matches ("/".intercalate q') = false := by
  -- the root itself is the empty path below the root
  have hrootText : relativeText root root = "/".intercalate [] :=
    relativeText_foldl_join root (q := []) (by simp)
  rw [mem_files_walk ht hroot hdir]
  constructor
  · rintro ⟨hkeep, q, rfl, hal⟩
    obtain ⟨hne, ⟨n, hn, hk⟩, hways⟩ := (along_iff ht).1 hal
    have hnames : ∀ q', q' <+: q → ∀ m ∈ q', (Path.Component.normal m).IsName :=
      fun q' hq' m hm => ht.names _ hn m (List.mem_append_right _ (hq'.subset hm))
    obtain ⟨hrootS, hrootX⟩ := excludes_eq_false_iff.1 hkeep
    refine ⟨q, n, hne, rfl, hn, hk, fun q' hq' hne' s hs => ?_, fun q' hq' pat hpat => ?_⟩
    · by_cases h0 : q' = []
      · subst h0
        exact hrootS rfl s hs
      · obtain ⟨m, -, hskip, hmdir⟩ := hways q' hq' h0
        exact (excludes_eq_false_iff.1 hskip).1 (hmdir hne') s hs
    · by_cases h0 : q' = []
      · subst h0
        exact hrootText ▸ hrootX pat hpat
      · obtain ⟨m, -, hskip, -⟩ := hways q' hq' h0
        exact relativeText_foldl_join root (hnames q' hq') ▸ (excludes_eq_false_iff.1 hskip).2 pat hpat
  · rintro ⟨q, n, hne, rfl, hn, hk, hS, hX⟩
    have hnames : ∀ q', q' <+: q → ∀ m ∈ q', (Path.Component.normal m).IsName :=
      fun q' hq' m hm => ht.names _ hn m (List.mem_append_right _ (hq'.subset hm))
    have hkeep : ∀ q', q' <+: q → ∀ kind, (kind = .dir → q' ≠ q) →
        c.excludes root (q'.foldl Path.join root) kind = false := fun q' hq' kind hkind =>
      excludes_eq_false_iff.2 ⟨fun hd => hS q' hq' (hkind hd),
        fun pat hpat => relativeText_foldl_join root (hnames q' hq') ▸ hX q' hq' pat hpat⟩
    refine ⟨hkeep [] List.nil_prefix .dir fun _ h => hne h.symm, q, rfl,
      (along_iff ht).2 ⟨hne, ⟨n, hn, hk⟩, fun q' hq' h0 => ?_⟩⟩
    by_cases hq : q' = q
    · subst hq
      exact ⟨n, hn, hkeep q' hq' n.kind fun hd => absurd (hk ▸ hd) (by decide), fun h => absurd rfl h⟩
    · -- a leading path of the file's is a directory
      obtain ⟨m, hm, hmd⟩ := ht.exists_dir_of_prefix (by simp [h0]) (r ++ q) hn
        ((List.prefix_append_right_inj r).2 hq') fun h => hq (List.append_cancel_left h)
      exact ⟨m, hm, hkeep q' hq' m.kind fun _ => hq, fun _ => hmd⟩

/-- What a collector built from exclusion patterns and skip directories collects on a tree
without links, from a root that leads to a directory.  Its buckets are keyed, in
increasing order, by exactly the normalised requested extensions.  The bucket of `k`
lists, in path order and each once, the paths `root/q` of the files below the root whose
extension normalises to `k`, such that no directory on the way from the root, the root
included, is a skip directory, and no pattern that parses matches `q` or a leading path
of it, the root's empty path included; patterns that do not parse are ignored. -/
theorem collect_buckets (ht : t.Plain) (hroot : t.resolve root = .ok r)
    (hdir : (t.find? r).map Node.kind = some .dir) (patterns skipDirs exts : List String) :
    let buckets := ((skipDirs.foldl addSkipDir (Collector.new.addExcludes patterns).1).collect
      t root exts).1
    (∀ k, k ∈ buckets.map Prod.fst ↔ ∃ e ∈ exts, normalizeExtension e = k) ∧
      (buckets.map Prod.fst).Pairwise (· < ·) ∧
      ∀ k fs, (k, fs) ∈ buckets →
        fs.Pairwise (fun a b => Path.le a b = true) ∧ fs.Nodup ∧
        ∀ p, p ∈ fs ↔ ∃ q n, q ≠ [] ∧ p = q.foldl Path.join root ∧ (r ++ q, n) ∈ t.nodes ∧
          n.kind = .file ∧ (Path.extension p).map normalizeExtension = some k ∧
          (∀ q', q' <+: q → q' ≠ q → ∀ s ∈ skipDirs, Path.same (q'.foldl Path.join root) s = false) ∧
          ∀ q', q' <+: q → ∀ x ∈ patterns, ∀ pat, Glob.Pattern.parse x = .ok pat →
            pat.matches ("/".intercalate q') = false := by
  dsimp only
  rw [collect_fst, keys_bucket]
  obtain ⟨hskip, hexcl⟩ := collector_of_lists patterns skipDirs
  refine ⟨fun k => ?_, pairwise_sortDedup _, fun k fs hkfs => ?_⟩
  · rw [TagSet.mem_sortDedup, List.mem_map]
  · obtain ⟨hsorted, hnodup, hmem⟩ := bucket_files (nodup_files_walk ht hroot hdir) hkfs
    refine ⟨hsorted, hnodup, fun p => ?_⟩
    rw [hmem, mem_files_walk_excludes ht hroot hdir, hskip]
    simp only [hexcl]
    constructor
    · rintro ⟨⟨q, n, hne, rfl, hn, hk, hS, hX⟩, hext⟩
      exact ⟨q, n, hne, rfl, hn, hk, hext, hS, fun q' hq' x hx pat hpat =>
        hX q' hq' pat ⟨x, hx, hpat⟩⟩
    · rintro ⟨q, n, hne, rfl, hn, hk, hext, hS, hX⟩
      exact ⟨⟨q, n, hne, rfl, hn, hk, hS, fun q' hq' pat ⟨x, hx, hpat⟩ => hX q' hq' x hx pat hpat⟩,
        hext⟩

/-- A small source tree: an upper-case extension, a nested file, a skipped build
directory and a text file. -/
def sampleTree : Tree :=
  ⟨[(["src"], .dir), (["src", "Main.RS"], .file ByteArray.empty), (["src", "lib"], .dir),
    (["src", "lib", "util.rs"], .file ByteArray.empty), (["src", "target"], .dir),
    (["src", "target", "gen.rs"], .file ByteArray.empty),
    (["src", "notes.txt"], .file ByteArray.empty)], []⟩

theorem collect_buckets_sample :
    sampleTree.Plain ∧ sampleTree.resolve "/src" = .ok ["src"] ∧
      (sampleTree.find? ["src"]).map Node.kind = some .dir ∧
      let buckets := ((["/src/target"].foldl addSkipDir (Collector.new.addExcludes ["*.txt", "["]).1).collect
        sampleTree "/src" ["rs", ".RS", "py"]).1
      (∀ k, k ∈ buckets.map Prod.fst ↔ ∃ e ∈ ["rs", ".RS", "py"], normalizeExtension e = k) ∧
        (buckets.map Prod.fst).Pairwise (· < ·) ∧
        ∀ k fs, (k, fs) ∈ buckets →
          fs.Pairwise (fun a b => Path.le a b = true) ∧ fs.Nodup ∧
          ∀ p, p ∈ fs ↔ ∃ q n, q ≠ [] ∧ p = q.foldl Path.join "/src" ∧ (["src"] ++ q, n) ∈ sampleTree.nodes ∧
            n.kind = .file ∧ (Path.extension p).map normalizeExtension = some k ∧
            (∀ q', q' <+: q → q' ≠ q → ∀ s ∈ ["/src/target"],
              Path.same (q'.foldl Path.join "/src") s = false) ∧
            ∀ q', q' <+: q → ∀ x ∈ ["*.txt", "["], ∀ pat, Glob.Pattern.parse x = .ok pat →
              pat.matches ("/".intercalate q') = false := by
  have hplain : sampleTree.Plain :=
    ⟨by decide +kernel, by decide +kernel, by decide +kernel, by decide +kernel⟩
  have hroot : sampleTree.resolve "/src" = .ok ["src"] := by
    simp [Tree.resolve, Tree.stepsFrom, Path.isAbsolute, steps, Tree.walk, Tree.find?, sampleTree,
      Path.splitSlash, stepOf]
  have hdir : (sampleTree.find? ["src"]).map Node.kind = some .dir := by decide +kernel
  exact ⟨hplain, hroot, hdir, collect_buckets hplain hroot hdir _ _ _⟩

end Collector

end CodeNotes.Discovery
