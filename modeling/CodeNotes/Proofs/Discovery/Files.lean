import CodeNotes.Discovery.Engine
import CodeNotes.Proofs.Comment.Normalize
import Mathlib.Tactic.SplitIfs
import Mathlib.Tactic.Tauto
import Mathlib.Data.String.Basic
set_option autoImplicit false

/-!
# The files discovery reads

Discovery buckets the files of a walk by extension, one bucket per registered
extension, and reads each bucket's files as text, a chunk at a time.  Main statements,
on `Engine.loaded` (the files read, bucket by bucket, each with its extractor and text):

* `Engine.mem_loaded`: a file read comes from a bucket with an extractor, and its text
  is what reading it gives;
* `Engine.loaded_covers`: every file of such a bucket is read, under a path equal to
  its own, and is among those read where that read gives text;
* `Engine.loaded_distinct`: no two files read have equal paths.

Reading in chunks records one result per path, replacing the result of an equal path
(`Recorded`); it records what reading the paths one by one would (`readAll_eq`).
Buckets have distinct extensions (`pairwise_bucket`), and equal paths have one
extension, so no file is read in two buckets.
-/

namespace CodeNotes

/-! ## Equal paths -/

theorem Path.same_iff {a b : String} : Path.same a b = true ↔ Path.components a = Path.components b := by
  simp [Path.same]

theorem Path.same_refl (a : String) : Path.same a a = true := Path.same_iff.2 rfl

theorem Path.same_comm (a b : String) : Path.same a b = Path.same b a := by
  simp only [Path.same, Bool.beq_comm]

theorem Path.extension_eq_of_same {a b : String} (h : Path.same a b = true) :
    Path.extension a = Path.extension b := by
  simp only [Path.extension, Path.fileName, Path.same_iff.1 h]

end CodeNotes

namespace CodeNotes.Discovery

open CodeNotes.Fs CodeNotes.Extract

/-! ## Reading in chunks -/

theorem flatten_chunks {α : Type} (size : Nat) (xs : List α) : (chunks size xs).flatten = xs := by
  fun_induction chunks size xs with
  | case1 xs h => simp
  | case2 xs h hne => simp_all
  | case3 xs h hne ih => simp [ih]

/-- The results recorded for the paths `seen`: each result is its path's own, every path
seen has a result under an equal path, and no two results are under equal paths. -/
structure Recorded (t : Tree) (seen : List String) (acc : List (String × Except LoadError String)) :
    Prop where
  result : ∀ e ∈ acc, e.1 ∈ seen ∧ e.2 = readFile t e.1
  covers : ∀ p ∈ seen, ∃ e ∈ acc, Path.same e.1 p = true
  distinct : acc.Pairwise fun a b => Path.same a.1 b.1 = false

theorem Recorded.add {t : Tree} {seen : List String} {acc : List (String × Except LoadError String)}
    (h : Recorded t seen acc) (p : String) :
    Recorded t (seen ++ [p]) (record acc (p, readFile t p)) := by
  unfold record
  split
  · rename_i hany
    obtain ⟨e₀, he₀, hsame₀⟩ := List.any_eq_true.1 hany
    refine ⟨?_, ?_, ?_⟩
    · intro x hx
      obtain ⟨e, he, rfl⟩ := List.mem_map.1 hx
      split
      · exact ⟨by simp, rfl⟩
      · obtain ⟨hin, hres⟩ := h.result e he
        exact ⟨List.mem_append_left _ hin, hres⟩
    · intro q hq
      rcases List.mem_append.1 hq with hq | hq
      · obtain ⟨e, he, hsame⟩ := h.covers q hq
        by_cases hp : Path.same e.1 p = true
        · refine ⟨(p, readFile t p), List.mem_map.2 ⟨e, he, by simp [hp]⟩, ?_⟩
          rw [Path.same_iff] at hp hsame ⊢
          exact hp.symm.trans hsame
        · exact ⟨e, List.mem_map.2 ⟨e, he, by simp [hp]⟩, hsame⟩
      · rw [List.mem_singleton.1 hq]
        exact ⟨(p, readFile t p), List.mem_map.2 ⟨e₀, he₀, by simp [hsame₀]⟩, Path.same_refl p⟩
    · rw [List.pairwise_map]
      refine h.distinct.imp ?_
      intro a b hab
      simp only [Path.same, beq_iff_eq, beq_eq_false_iff_ne] at hab ⊢
      split_ifs <;> simp_all
  · rename_i hany
    refine ⟨?_, ?_, ?_⟩
    · intro x hx
      rcases List.mem_append.1 hx with hx | hx
      · obtain ⟨hin, hres⟩ := h.result x hx
        exact ⟨List.mem_append_left _ hin, hres⟩
      · rw [List.mem_singleton.1 hx]
        exact ⟨by simp, rfl⟩
    · intro q hq
      rcases List.mem_append.1 hq with hq | hq
      · obtain ⟨e, he, hsame⟩ := h.covers q hq
        exact ⟨e, List.mem_append_left _ he, hsame⟩
      · rw [List.mem_singleton.1 hq]
        exact ⟨(p, readFile t p), by simp, Path.same_refl p⟩
    · rw [List.pairwise_append]
      refine ⟨h.distinct, List.pairwise_singleton _ _, ?_⟩
      intro a ha b hb
      rw [List.mem_singleton.1 hb]
      simpa using fun h' => hany (List.any_eq_true.2 ⟨a, ha, h'⟩)

theorem Recorded.foldl {t : Tree} {seen : List String} {acc : List (String × Except LoadError String)}
    (h : Recorded t seen acc) (ps : List String) :
    Recorded t (seen ++ ps) ((ps.map fun p => (p, readFile t p)).foldl Discovery.record acc) := by
  induction ps generalizing seen acc with
  | nil => simpa using h
  | cons p ps ih =>
    have := ih (h.add p)
    simpa using this

/-- Reading in chunks records the paths as reading them one by one would. -/
theorem readAll_eq (t : Tree) (paths : List String) (chunkSize : Nat) :
    readAll t paths chunkSize = (paths.map fun p => (p, readFile t p)).foldl Discovery.record [] := by
  conv => rhs; rw [← flatten_chunks (max chunkSize 1) paths]
  rw [List.map_flatten, List.foldl_flatten, List.foldl_map, readAll]

theorem recorded_readAll (t : Tree) (paths : List String) (chunkSize : Nat) :
    Recorded t paths (readAll t paths chunkSize) := by
  rw [readAll_eq]
  have h0 : Recorded t [] [] := ⟨fun _ h => absurd h List.not_mem_nil, fun _ h => absurd h List.not_mem_nil, List.Pairwise.nil⟩
  simpa using h0.foldl paths

theorem perm_insertByPath {β : Type} (e : String × β) :
    ∀ acc : List (String × β), (insertByPath e acc).Perm (e :: acc)
  | [] => .refl _
  | f :: fs => by
    unfold insertByPath
    split
    · exact ((perm_insertByPath e fs).cons f).trans (List.Perm.swap e f fs)
    · exact .refl _

theorem perm_foldl_insertByPath {β : Type} (rs acc : List (String × β)) :
    (rs.foldl (fun acc e => insertByPath e acc) acc).Perm (acc ++ rs) := by
  induction rs generalizing acc with
  | nil => simp
  | cons e rs ih =>
    exact (ih _).trans (((perm_insertByPath e acc).append_right rs).trans List.perm_middle.symm)

theorem mem_readable {rs : List (String × Except LoadError String)} {p text : String} :
    (p, text) ∈ (readable rs).1 ↔ (p, .ok text) ∈ rs := by
  have hperm := perm_foldl_insertByPath rs []
  simp only [readable, List.mem_filterMap, List.nil_append] at hperm ⊢
  constructor
  · rintro ⟨⟨q, r⟩, hq, hr⟩
    cases r with
    | ok s =>
      simp only [Option.some.injEq, Prod.mk.injEq] at hr
      obtain ⟨rfl, rfl⟩ := hr
      exact hperm.mem_iff.1 hq
    | error e => cases hr
  · intro h
    exact ⟨(p, .ok text), hperm.mem_iff.2 h, rfl⟩

theorem readable_distinct {rs : List (String × Except LoadError String)}
    (h : rs.Pairwise fun a b => Path.same a.1 b.1 = false) :
    (readable rs).1.Pairwise fun a b => Path.same a.1 b.1 = false := by
  have hperm := perm_foldl_insertByPath rs []
  rw [List.nil_append] at hperm
  have hsorted := (hperm.pairwise_iff fun hab => by rwa [Path.same_comm]).2 h
  refine hsorted.filterMap _ ?_
  rintro ⟨p, r⟩ ⟨q, r'⟩ hpq x hx y hy
  -- reading keeps the path of each result
  cases r <;> cases r' <;> simp only [reduceCtorEq, Option.some.injEq] at hx hy
  subst hx hy
  exact hpq

/-! ## Buckets -/

theorem mem_insertPath {p q : String} {acc : List String} : p ∈ Collector.insertPath q acc ↔ p = q ∨ p ∈ acc := by
  induction acc with
  | nil => simp [Collector.insertPath]
  | cons r rs ih =>
    unfold Collector.insertPath
    split
    · rw [List.mem_cons, ih, List.mem_cons]
      tauto
    · exact List.mem_cons

theorem mem_foldl_insertPath {p : String} (fs acc : List String) :
    p ∈ fs.foldl (fun acc f => Collector.insertPath f acc) acc ↔ p ∈ acc ∨ p ∈ fs := by
  induction fs generalizing acc with
  | nil => simp
  | cons f fs ih =>
    rw [List.foldl_cons, ih, mem_insertPath, List.mem_cons]
    tauto

/-- A file of a bucket is a file walked, with the bucket's extension. -/
theorem mem_bucket {exts files : List String} {k : String} {fs : List String}
    (h : (k, fs) ∈ Collector.bucket exts files) {p : String} (hp : p ∈ fs) :
    p ∈ files ∧ (Path.extension p).map normalizeExtension = some k := by
  simp only [Collector.bucket, List.mem_map, Prod.mk.injEq] at h
  obtain ⟨k', -, rfl, rfl⟩ := h
  rw [mem_foldl_insertPath] at hp
  simpa using hp

/-- Buckets have distinct extensions. -/
theorem pairwise_bucket (exts files : List String) :
    (Collector.bucket exts files).Pairwise fun a b => a.1 ≠ b.1 := by
  simp only [Collector.bucket, List.pairwise_map]
  exact (pairwise_foldr_insertSorted _).imp ne_of_lt

namespace Engine

/-- The files of one bucket that read as text, with the extractor of the bucket's
extension; none where no extractor is registered for it. -/
def loadBucket (e : Engine) (t : Tree) (b : String × List String) : List (Extractor × String × String) :=
  match e.registry.get? b.1 with
  | none => []
  | some x => (readable (readAll t b.2 e.readChunkSize)).1.map fun f => (x, f.1, f.2)

/-- The files discovery reads, bucket by bucket, each with its extractor and its text. -/
def loaded (e : Engine) (t : Tree) : List (Extractor × String × String) :=
  (e.collect t).1.flatMap (e.loadBucket t)

variable {e : Engine} {t : Tree}

theorem mem_loadBucket {b : String × List String} {x : Extractor} {p text : String} :
    (x, p, text) ∈ e.loadBucket t b ↔
      e.registry.get? b.1 = some x ∧ (p, .ok text) ∈ readAll t b.2 e.readChunkSize := by
  unfold loadBucket
  cases hget : e.registry.get? b.1 with
  | none => simp
  | some x' =>
    simp only [List.mem_map, Prod.mk.injEq, Option.some.injEq]
    constructor
    · rintro ⟨⟨q, s⟩, hq, rfl, rfl, rfl⟩
      exact ⟨rfl, mem_readable.1 hq⟩
    · rintro ⟨rfl, h⟩
      exact ⟨(p, text), mem_readable.2 h, rfl, rfl, rfl⟩

/-- A file read comes from a bucket with an extractor, and its text is what reading it
gives. -/
theorem mem_loaded {x : Extractor} {p text : String} (h : (x, p, text) ∈ e.loaded t) :
    ∃ ext files, (ext, files) ∈ (e.collect t).1 ∧ e.registry.get? ext = some x ∧ p ∈ files ∧
      readFile t p = .ok text := by
  obtain ⟨⟨ext, files⟩, hb, hx⟩ := List.mem_flatMap.1 h
  obtain ⟨hget, hread⟩ := mem_loadBucket.1 hx
  obtain ⟨hin, hres⟩ := (recorded_readAll t files e.readChunkSize).result _ hread
  exact ⟨ext, files, hb, hget, hin, hres.symm⟩

/-- Every file of a bucket with an extractor is read, under a path equal to its own: where
that read gives text, the file is among those read. -/
theorem loaded_covers {ext : String} {files : List String} (hb : (ext, files) ∈ (e.collect t).1)
    {x : Extractor} (hx : e.registry.get? ext = some x) {p : String} (hp : p ∈ files) :
    ∃ q ∈ files, Path.same q p = true ∧
      ∀ text, readFile t q = .ok text → (x, q, text) ∈ e.loaded t := by
  have hrec := recorded_readAll t files e.readChunkSize
  obtain ⟨⟨q, r⟩, hq, hsame⟩ := hrec.covers p hp
  obtain ⟨hqin, hres⟩ := hrec.result _ hq
  refine ⟨q, hqin, hsame, fun text htext => List.mem_flatMap.2 ⟨(ext, files), hb, ?_⟩⟩
  simp only at hres
  rw [htext] at hres
  exact mem_loadBucket.2 ⟨hx, hres ▸ hq⟩

/-- No file is read twice, under the same path or an equal one. -/
theorem loaded_distinct : (e.loaded t).Pairwise fun a b => Path.same a.2.1 b.2.1 = false := by
  -- the path of a file read is a file of its bucket
  have hpath : ∀ b ∈ (e.collect t).1, ∀ y ∈ e.loadBucket t b,
      y.2.1 ∈ b.2 ∧ (Path.extension y.2.1).map normalizeExtension = some b.1 := by
    intro b hb y hy
    obtain ⟨x, p, text⟩ := y
    obtain ⟨-, hread⟩ := mem_loadBucket.1 hy
    have hin := ((recorded_readAll t b.2 e.readChunkSize).result _ hread).1
    exact ⟨hin, (mem_bucket hb hin).2⟩
  rw [loaded, List.pairwise_flatMap]
  refine ⟨?_, ?_⟩
  · -- within a bucket: reading gives one result per path
    intro b _
    unfold loadBucket
    split
    · exact List.Pairwise.nil
    · rw [List.pairwise_map]
      exact readable_distinct (recorded_readAll t b.2 e.readChunkSize).distinct
  · -- across buckets: equal paths have one extension, and buckets have distinct ones
    refine (pairwise_bucket _ _).imp_of_mem ?_
    intro b₁ b₂ hb₁ hb₂ hne y₁ hy₁ y₂ hy₂
    by_contra hsame
    have h₁ := (hpath b₁ hb₁ y₁ hy₁).2
    have h₂ := (hpath b₂ hb₂ y₂ hy₂).2
    rw [Path.extension_eq_of_same (Bool.not_eq_false _ ▸ hsame), h₂, Option.some.injEq] at h₁
    exact hne h₁.symm

end Engine

end CodeNotes.Discovery
