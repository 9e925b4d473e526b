import CodeNotes.Proofs.Discovery.Collector
import CodeNotes.Proofs.Discovery.Schedules
import CodeNotes.Proofs.Discovery.SingleFile
import CodeNotes.Proofs.Text.Settled
import CodeNotes.Proofs.Extract.Registry
set_option autoImplicit false

/-!
# Discovering one file, against discovering the tree

Discovering one file works out afresh what the whole discovery learns from its walk: the
path it reads (the path given when absolute, else joined onto the source root), the
extractor of its extension, the kind of what the path leads to and its text.  On a tree
whose nodes stand at paths of names, each agrees with its bulk counterpart for every file
the collector reaches:

* the root-relative path a file is recorded under leads back to the file itself, since
  names joined one by one are their text joined at once (`Path.foldl_join_names`), and it
  tells files apart (`Path.intercalate_names_inj`);
* looking an extension up normalises it, and normalising twice changes nothing
  (`Extract.normalizeExtension_normalizeExtension`), so the bucket's extractor is the
  file's;
* a file that reads as text is one of the files read, with that text.

Main statement: `Discovery.Engine.discoverFile_agreement`, the three promises of
`Engine.SingleFileAgreement`.  A file the collector reaches, with an extractor and read as
text, gives the TODO comments that the whole discovery records under its path, in the same
order; those are exactly what its extractor finds.  Discovering one file fails only on a
missing file, under the root-relative form of the path read.  A directory, a path that
cannot be followed, an extension without extractor and a file that is not UTF-8 give no
comments.

"Missing" is the kind of failure, not the absence of the file: a path that runs through a
file does not exist either, yet gives no comments and a warning
(`Engine.discoverFile_through_file`).
-/

namespace CodeNotes.Fs.Tree

variable {t : Tree}

/-- A metadata call reports the kind of the node the path resolves to. -/
theorem metadata_eq_ok_iff {path : String} {k : FileType} :
    t.metadata path = .ok k ↔ ∃ r n, t.resolve path = .ok r ∧ t.find? r = some n ∧ n.kind = k := by
  unfold metadata
  cases hr : t.resolve path with
  | error err => simp [bind, Except.bind]
  | ok r =>
    cases hf : t.find? r with
    | none => simp [hf, bind, Except.bind, throw, throwThe, MonadExceptOf.throw]
    | some n => simp [hf, bind, Except.bind, pure, Except.pure]

theorem exists_of_isDir {path : String} (h : t.isDir path = true) :
    ∃ r, t.resolve path = .ok r ∧ (t.find? r).map Node.kind = some .dir := by
  unfold isDir at h
  split at h
  · rename_i hmeta
    obtain ⟨r, n, hr, hn, hk⟩ := metadata_eq_ok_iff.1 hmeta
    exact ⟨r, hr, by simp [hn, hk]⟩
  · cases h

/-- A path whose bytes can be read leads to a file. -/
theorem metadata_of_read {path : String} {bytes : ByteArray} (h : t.read path = .ok bytes) :
    t.metadata path = .ok .file := by
  unfold read at h
  cases hr : t.resolve path with
  | error err => simp [hr, bind, Except.bind] at h
  | ok r =>
    cases hf : t.find? r with
    | none => simp [hr, hf, bind, Except.bind, throw, throwThe, MonadExceptOf.throw] at h
    | some n =>
      refine metadata_eq_ok_iff.2 ⟨r, n, hr, hf, ?_⟩
      -- only a file or a database gives bytes
      cases n <;> simp_all [bind, Except.bind, pure, Except.pure, throw, throwThe,
        MonadExceptOf.throw, Node.kind]

end CodeNotes.Fs.Tree

namespace CodeNotes.Discovery

open CodeNotes.Fs CodeNotes.Extract

variable {t : Tree}

theorem read_of_readFile {path text : String} (h : readFile t path = .ok text) :
    ∃ bytes, t.read path = .ok bytes ∧ String.fromUTF8? bytes = some text := by
  unfold readFile at h
  split at h
  · cases h
  · rename_i bytes hread
    split at h
    · rename_i s hs
      cases h
      exact ⟨bytes, hread, hs⟩
    · cases h

theorem readFile_of_read {path : String} {bytes : ByteArray} (h : t.read path = .ok bytes)
    (hutf : String.fromUTF8? bytes = none) : readFile t path = .error (.decode path) := by
  simp only [readFile, h, hutf]

namespace Engine

variable {e : Engine}

/-- Where the path read is a file with an extractor and reads as text, one file's
discovery gives the TODO comments the extractor finds, under the root-relative form of
the path. -/
theorem discoverFile_of_text (tags : TagSet) {p : String} {x : Extractor} {text : String}
    (hx : e.registry.get? ((Path.extension (e.resolve p)).getD "") = some x)
    (hread : readFile t (e.resolve p) = .ok text) :
    ∃ l, e.discoverFile t tags p =
      .ok ((x.extract (e.relativePath (e.resolve p)) text tags).filter (·.kind == .todo), [l]) := by
  obtain ⟨bytes, hbytes, -⟩ := read_of_readFile hread
  simp only [discoverFile, Tree.metadata_of_read hbytes, hx, hread]
  exact ⟨_, rfl⟩

/-- One file's discovery fails only on a missing file: where following the path read ends
on a missing entry, and then under the root-relative form of that path. -/
theorem discoverFile_eq_error_iff (tags : TagSet) (p : String) (err : DiscoveryError) :
    e.discoverFile t tags p = .error err ↔
      t.metadata (e.resolve p) = .error .notFound ∧
        err = .sourceMissing (e.relativePath (e.resolve p)) := by
  constructor
  · intro h
    rcases discoverFile_cases e t tags p with ⟨hmeta, hmissing⟩ | ⟨l, hok⟩ | ⟨x, text, -, -, -, hok⟩
    · rw [hmissing] at h
      exact ⟨hmeta, (Except.error.inj h).symm⟩
    · rw [hok] at h
      cases h
    · rw [hok] at h
      cases h
  · rintro ⟨hmeta, rfl⟩
    simp only [discoverFile, hmeta]

/-- One file's discovery finds nothing, and logs one line, where the path read leads to a
directory, cannot be followed for a reason other than a missing entry (a file on the way,
a link loop), names a file whose extension has no extractor, or a file that is not UTF-8. -/
theorem discoverFile_eq_nothing (tags : TagSet) {p : String}
    (h : t.metadata (e.resolve p) = .ok .dir ∨
      (∃ err, t.metadata (e.resolve p) = .error err ∧ err ≠ .notFound) ∨
      (t.metadata (e.resolve p) ≠ .error .notFound ∧
        e.registry.get? ((Path.extension (e.resolve p)).getD "") = none) ∨
      ∃ bytes, t.read (e.resolve p) = .ok bytes ∧ String.fromUTF8? bytes = none) :
    ∃ l, e.discoverFile t tags p = .ok ([], [l]) := by
  rcases discoverFile_cases e t tags p with ⟨hmeta, -⟩ | hnothing | ⟨x, text, hmeta, hx, hread, -⟩
  · -- a missing entry meets none of the conditions
    exfalso
    rcases h with h | ⟨err, h, hne⟩ | ⟨h, -⟩ | ⟨bytes, h, -⟩
    · rw [hmeta] at h
      cases h
    · rw [hmeta] at h
      exact hne (Except.error.inj h).symm
    · exact h hmeta
    · rw [Tree.metadata_of_read h] at hmeta
      cases hmeta
  · exact hnothing
  · -- a file with an extractor that reads as text meets none either
    exfalso
    rcases h with h | ⟨err, h, -⟩ | ⟨-, h⟩ | ⟨bytes, h, hutf⟩
    · rw [hmeta] at h
      cases h
    · rw [hmeta] at h
      cases h
    · rw [hx] at h
      cases h
    · rw [readFile_of_read h hutf] at hread
      cases hread

/-- The files of a bucket are files the walk from the source root reports, with the
bucket's extension. -/
theorem mem_collect {k : String} {files : List String} (hb : (k, files) ∈ (e.collect t).1)
    {f : String} (hf : f ∈ files) :
    f ∈ (walk t (e.collector.excludes e.sourceRoot) e.sourceRoot).filterMap Event.file? ∧
      (Path.extension f).map normalizeExtension = some k := by
  unfold collect at hb
  rw [Collector.collect_fst] at hb
  exact mem_bucket hb hf

/-- Every file the engine collects from a directory is reached from the source root by
names of the tree. -/
theorem names_of_mem_collect (ht : t.Named) (hroot : t.isDir e.sourceRoot = true)
    {k : String} {files : List String} (hb : (k, files) ∈ (e.collect t).1) {f : String}
    (hf : f ∈ files) :
    ∃ q, q ≠ [] ∧ (∀ n ∈ q, (Path.Component.normal n).IsName) ∧
      f = q.foldl Path.join e.sourceRoot := by
  obtain ⟨r, hr, hdir⟩ := Tree.exists_of_isDir hroot
  exact names_of_mem_files_walk ht hr hdir (mem_collect hb hf).1

/-- The root-relative path of a file reached by names leads back to the file. -/
theorem resolve_relativePath {q : List String} (hq : q ≠ [])
    (hns : ∀ n ∈ q, (Path.Component.normal n).IsName) :
    e.resolve (e.relativePath (q.foldl Path.join e.sourceRoot)) = q.foldl Path.join e.sourceRoot := by
  rw [relativePath, Path.relativeTo_foldl_join _ hns, resolve,
    if_neg (by simp [Path.isAbsolute_intercalate_names hns]), Path.foldl_join_names _ hq hns]

/-- Files reached by names are told apart by their root-relative paths. -/
theorem eq_of_relativePath_eq {q q' : List String} (hns : ∀ n ∈ q, (Path.Component.normal n).IsName)
    (hns' : ∀ n ∈ q', (Path.Component.normal n).IsName)
    (h : e.relativePath (q.foldl Path.join e.sourceRoot) = e.relativePath (q'.foldl Path.join e.sourceRoot)) :
    q = q' := by
  rw [relativePath, relativePath, Path.relativeTo_foldl_join _ hns,
    Path.relativeTo_foldl_join _ hns'] at h
  exact Path.intercalate_names_inj hns hns' h

/-- Paths reached by names from one base are equal only when the names are. -/
theorem eq_of_same_foldl_join {base : String} {q q' : List String}
    (hns : ∀ n ∈ q, (Path.Component.normal n).IsName)
    (hns' : ∀ n ∈ q', (Path.Component.normal n).IsName)
    (h : Path.same (q.foldl Path.join base) (q'.foldl Path.join base) = true) : q = q' := by
  rw [Path.same_iff, Path.components_foldl_join_names _ hns, Path.components_foldl_join_names _ hns',
    List.append_cancel_left_eq] at h
  exact (List.map_inj_right fun _ _ h => Path.Component.normal.inj h).1 h

/-- A collected file with an extractor for its extension, that reads as text, is among the
files read, with that text and that extractor. -/
theorem mem_loaded_of_collected (ht : t.Named) (hroot : t.isDir e.sourceRoot = true)
    {k : String} {files : List String} (hb : (k, files) ∈ (e.collect t).1) {f : String}
    (hf : f ∈ files) {x : Extractor} (hx : e.registry.get? ((Path.extension f).getD "") = some x)
    {text : String} (hread : readFile t f = .ok text) : (x, f, text) ∈ e.loaded t := by
  obtain ⟨s, hs, rfl⟩ := Option.map_eq_some_iff.1 (mem_collect hb hf).2
  -- the bucket's extractor is the file's
  have hxk : e.registry.get? (normalizeExtension s) = some x := by
    rw [Registry.get?_normalizeExtension]
    simpa [hs] using hx
  obtain ⟨g, hg, hsame, hcover⟩ := loaded_covers hb hxk hf
  -- the file read under an equal path is the file itself
  obtain ⟨qg, -, hqg, rfl⟩ := names_of_mem_collect ht hroot hb hg
  obtain ⟨qf, -, hqf, rfl⟩ := names_of_mem_collect ht hroot hb hf
  obtain rfl := eq_of_same_foldl_join hqg hqf hsame
  exact hcover text hread

/-- The comments of files other than the one asked for are not recorded under its path. -/
theorem filter_blocks_eq_nil (tags : TagSet) {L : List (Extractor × String × String)} {f : String}
    (h : ∀ y ∈ L, e.relativePath y.2.1 ≠ e.relativePath f) :
    ((L.map fun y => y.1.extract (e.relativePath y.2.1) y.2.2 tags).flatten.filter
      (·.filepath == e.relativePath f)) = [] := by
  rw [List.filter_eq_nil_iff]
  intro c hc
  obtain ⟨block, hblock, hc⟩ := List.mem_flatten.1 hc
  obtain ⟨y, hy, rfl⟩ := List.mem_map.1 hblock
  rw [y.1.filepath_of_mem_extract hc]
  simpa using h y hy

/-- The comments the whole discovery records under the path of a file read are those its
extractor finds in it, where no other file read has that path. -/
theorem filter_blocks {x : Extractor} {f text : String} (tags : TagSet) (hmem : (x, f, text) ∈ e.loaded t)
    (hinj : ∀ y ∈ e.loaded t, e.relativePath y.2.1 = e.relativePath f → y.2.1 = f) :
    (e.blocks t tags).flatten.filter (·.filepath == e.relativePath f) =
      x.extract (e.relativePath f) text tags := by
  have hdist := e.loaded_distinct (t := t)
  obtain ⟨A, B, hAB⟩ := List.append_of_mem hmem
  rw [hAB, List.pairwise_append, List.pairwise_cons] at hdist
  -- a file read once has its path to itself
  have hne : ∀ y, y ∈ A ∨ y ∈ B → e.relativePath y.2.1 ≠ e.relativePath f := by
    intro y hy hrel
    have hyf := hinj y (by rw [hAB]; rcases hy with hy | hy <;> simp [hy]) hrel
    rcases hy with hy | hy
    · have hsame := hdist.2.2 y hy (x, f, text) List.mem_cons_self
      rw [hyf, Path.same_refl] at hsame
      cases hsame
    · have hsame := hdist.2.1.1 y hy
      rw [hyf, Path.same_refl] at hsame
      cases hsame
  have hself : (x.extract (e.relativePath f) text tags).filter (·.filepath == e.relativePath f) =
      x.extract (e.relativePath f) text tags :=
    List.filter_eq_self.2 fun c hc => by simp [x.filepath_of_mem_extract hc]
  rw [blocks, hAB]
  simp only [List.map_append, List.map_cons, List.flatten_append, List.flatten_cons, List.filter_append]
  rw [filter_blocks_eq_nil tags fun y hy => hne y (.inl hy), hself,
    filter_blocks_eq_nil tags fun y hy => hne y (.inr hy), List.nil_append, List.append_nil]

/-- What discovering one file promises, against discovering the whole tree. -/
structure SingleFileAgreement (e : Engine) (t : Tree) (tags : TagSet) : Prop where
  /-- A file the collector reaches, with an extractor for its extension and read as text:
  the whole discovery records under its path exactly what its extractor finds, and
  discovering the file alone, by its root-relative path or by itself when that is
  absolute, gives the TODO comments among those, in the same order. -/
  collected : ∀ k files f x text, (k, files) ∈ (e.collect t).1 → f ∈ files →
    e.registry.get? ((Path.extension f).getD "") = some x → readFile t f = .ok text →
    ∃ cs logs, e.discover t tags = .ok (cs, logs) ∧
      cs.filter (·.filepath == e.relativePath f) = x.extract (e.relativePath f) text tags ∧
      ∀ p, p = e.relativePath f ∨ (p = f ∧ Path.isAbsolute f = true) →
        ∃ l, e.discoverFile t tags p =
          .ok ((cs.filter (·.filepath == e.relativePath f)).filter (·.kind == .todo), [l])
  /-- It fails only where following the path read ends on a missing entry, and then names
  the root-relative form of that path. -/
  missing : ∀ p err, e.discoverFile t tags p = .error err ↔
    t.metadata (e.resolve p) = .error .notFound ∧
      err = .sourceMissing (e.relativePath (e.resolve p))
  /-- A directory, a path that cannot be followed for another reason, an extension without
  extractor and a file that is not UTF-8 give no comments and one line of log. -/
  nothing : ∀ p, (t.metadata (e.resolve p) = .ok .dir ∨
      (∃ err, t.metadata (e.resolve p) = .error err ∧ err ≠ .notFound) ∨
      (t.metadata (e.resolve p) ≠ .error .notFound ∧
        e.registry.get? ((Path.extension (e.resolve p)).getD "") = none) ∨
      ∃ bytes, t.read (e.resolve p) = .ok bytes ∧ String.fromUTF8? bytes = none) →
    ∃ l, e.discoverFile t tags p = .ok ([], [l])

/-- Discovering one file agrees with discovering the tree, on a tree whose nodes stand at
paths of names, from a source root that is a directory. -/
theorem discoverFile_agreement (ht : t.Named) (hroot : t.isDir e.sourceRoot = true)
    (tags : TagSet) : SingleFileAgreement e t tags where
  collected := by
    intro k files f x text hb hf hx hread
    obtain ⟨logs, hdisc⟩ := e.discover_eq_ok t tags hroot
    obtain ⟨q, hq, hns, hfq⟩ := names_of_mem_collect ht hroot hb hf
    -- no other file read is recorded under the path of `f`
    have hinj : ∀ y ∈ e.loaded t, e.relativePath y.2.1 = e.relativePath f → y.2.1 = f := by
      intro y hy hrel
      obtain ⟨ext, files', hb', -, hy', -⟩ := mem_loaded hy
      obtain ⟨q', -, hns', hyq⟩ := names_of_mem_collect ht hroot hb' hy'
      rw [hyq, hfq] at hrel ⊢
      rw [eq_of_relativePath_eq hns' hns hrel]
    have hblock := filter_blocks tags (mem_loaded_of_collected ht hroot hb hf hx hread) hinj
    refine ⟨_, logs, hdisc, hblock, fun p hp => ?_⟩
    -- both paths lead to the file itself
    have hres : e.resolve p = f := by
      rcases hp with rfl | ⟨rfl, habs⟩
      · rw [hfq]
        exact resolve_relativePath hq hns
      · simp [resolve, habs]
    rw [hblock, ← hres]
    exact discoverFile_of_text tags (hres ▸ hx) (hres ▸ hread)
  missing := discoverFile_eq_error_iff tags
  nothing := fun _ h => discoverFile_eq_nothing tags h

end Engine

/-- An engine over the sample tree's `src` directory, with the built-in extractors. -/
def sampleEngine : Engine := ⟨"/src", Registry.builtin, Collector.new, 1, 16⟩

theorem discoverFile_agreement_sample :
    Collector.sampleTree.Named ∧ Collector.sampleTree.isDir sampleEngine.sourceRoot = true ∧
      Engine.SingleFileAgreement sampleEngine Collector.sampleTree (TagSet.ofList ["todo"]) := by
  have hnamed : Collector.sampleTree.Named := by decide +kernel
  have hroot : Collector.sampleTree.isDir sampleEngine.sourceRoot = true := by
    simp [sampleEngine, Tree.isDir, Tree.metadata, Tree.resolve, Tree.stepsFrom, Path.isAbsolute,
      steps, Tree.walk, Tree.find?, Collector.sampleTree, Path.splitSlash, stepOf, bind,
      Except.bind, pure, Except.pure, Node.kind]
  exact ⟨hnamed, hroot, Engine.discoverFile_agreement hnamed hroot _⟩

/-- A path that runs through a file leads nowhere, yet it is not a missing file: one
file's discovery gives no comments and a warning, not the missing-file error. -/
theorem discoverFile_through_file :
    Collector.sampleTree.exists (sampleEngine.resolve "Main.RS/x.rs") = false ∧
      ∃ l, sampleEngine.discoverFile Collector.sampleTree (TagSet.ofList ["todo"]) "Main.RS/x.rs" =
        .ok ([], [l]) := by
  have hpath : sampleEngine.resolve "Main.RS/x.rs" = "/src/Main.RS/x.rs" := by decide +kernel
  have hmeta : Collector.sampleTree.metadata "/src/Main.RS/x.rs" = .error .notADirectory := by
    simp [Tree.metadata, Tree.resolve, Tree.stepsFrom, Path.isAbsolute, steps, Tree.walk,
      Tree.find?, Collector.sampleTree, Path.splitSlash, stepOf, bind, Except.bind, List.lookup_cons]
  rw [hpath]
  refine ⟨by simp [Tree.exists, hmeta], ?_⟩
  exact Engine.discoverFile_eq_nothing _ (.inr (.inl ⟨_, hpath ▸ hmeta, by decide⟩))

end CodeNotes.Discovery
