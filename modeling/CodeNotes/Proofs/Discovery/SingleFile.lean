import CodeNotes.Discovery.Engine
set_option autoImplicit false

/-!
# What discovering one file records

Every comment an extractor returns names the path it was handed
(`Extractor.filepath_of_mem_extract`): the pattern extractor writes it on each span's
comment, and the Python merge keeps it on every comment it starts or extends.

Discovering one file reads the path given against the source root and hands the
extractor the root-relative form of the result.  `Engine.discoverFile_cases` lists what
the call can give; from it, the comments it returns and its missing-file error all name
`relativePath (resolve path)` (`Engine.discoverFile_records`).
-/

namespace CodeNotes.Extract

/-- The comment loop writes the path it was handed on every comment it makes. -/
theorem LanguageRule.filepath_of_mem_collectComments {tags : TagSet} {filepath : String}
    {cs : List Char} : ∀ {cur : LanguageRule.Cursor} {ss : List Span} {c : Comment},
      c ∈ LanguageRule.collectComments tags filepath cs cur ss → c.filepath = filepath
  | _, [], _, h => absurd h List.not_mem_nil
  | cur, s :: rest, c, h => by
    unfold LanguageRule.collectComments at h
    split at h
    · exact filepath_of_mem_collectComments h
    · rcases List.mem_cons.1 h with rfl | h
      · rfl
      · exact filepath_of_mem_collectComments h

theorem LanguageRule.filepath_of_mem_extract (r : LanguageRule) {filepath content : String}
    {tags : TagSet} {c : Comment} (h : c ∈ r.extract filepath content tags) :
    c.filepath = filepath :=
  LanguageRule.filepath_of_mem_collectComments h

namespace Python

variable {tags : TagSet} {filepath : String}

/-- A merge step starts a comment at `filepath` or extends the newest one. -/
theorem filepath_of_mem_mergeStep {acc : List Comment} {tok : Nat × String} {c : Comment}
    (hacc : ∀ d ∈ acc, d.filepath = filepath) (h : c ∈ mergeStep tags filepath acc tok) :
    c.filepath = filepath := by
  unfold mergeStep at h
  split at h
  · rename_i prev older
    simp only at h
    split at h
    · -- the token joins `prev`, which keeps its path
      rcases List.mem_cons.1 h with rfl | h
      · exact hacc prev List.mem_cons_self
      · exact hacc c (List.mem_cons_of_mem prev h)
    · rcases List.mem_cons.1 h with rfl | h
      · rfl
      · exact hacc c h
  · rw [List.mem_singleton.1 h]

theorem filepath_of_mem_foldl_mergeStep {toks : List (Nat × String)} {acc : List Comment}
    (hacc : ∀ d ∈ acc, d.filepath = filepath) {c : Comment}
    (h : c ∈ toks.foldl (mergeStep tags filepath) acc) : c.filepath = filepath := by
  induction toks generalizing acc with
  | nil => exact hacc c h
  | cons tok toks ih => exact ih (fun d hd => filepath_of_mem_mergeStep hacc hd) h

theorem filepath_of_mem_extract {content : String} {c : Comment}
    (h : c ∈ extract filepath content tags) : c.filepath = filepath := by
  unfold extract mergeComments at h
  split at h
  · simp at h
  · exact filepath_of_mem_foldl_mergeStep (by simp) (List.mem_reverse.1 h)

end Python

/-- Every comment an extractor returns names the path it was handed. -/
theorem Extractor.filepath_of_mem_extract (x : Extractor) {filepath content : String}
    {tags : TagSet} {c : Comment} (h : c ∈ x.extract filepath content tags) :
    c.filepath = filepath := by
  cases x with
  | rule r => exact r.filepath_of_mem_extract h
  | python => exact Python.filepath_of_mem_extract h

end CodeNotes.Extract

namespace CodeNotes.Discovery

open CodeNotes.Extract CodeNotes.Fs

/-- The comments of a discovery result and its missing-file error all name `path`. -/
def Records (r : Except DiscoveryError (List Comment × List LogLine)) (path : String) : Prop :=
  (∀ found logs, r = .ok (found, logs) → ∀ c ∈ found, c.filepath = path) ∧
  (∀ f, r = .error (.sourceMissing f) → f = path)

@[simp] theorem records_ok {found : List Comment} {logs : List LogLine} {path : String} :
    Records (.ok (found, logs)) path ↔ ∀ c ∈ found, c.filepath = path := by
  constructor
  · exact fun h => h.1 found logs rfl
  · intro h
    refine ⟨fun found' logs' hok => ?_, fun f hf => nomatch hf⟩
    cases hok
    exact h

@[simp] theorem records_sourceMissing {f path : String} :
    Records (.error (.sourceMissing f)) path ↔ f = path := by
  constructor
  · exact fun h => h.2 f rfl
  · intro h
    refine ⟨fun found logs hok => (nomatch hok), fun f' hf => ?_⟩
    cases hf
    exact h

namespace Engine

variable (e : Engine) (t : Tree) (tags : TagSet) (path : String)

/-- What discovering one file can give: the missing-file error under the file's
root-relative path, no comments and one log line, or the TODO comments that the
extractor of the file's extension finds in its text, under that path. -/
theorem discoverFile_cases :
    (t.metadata (e.resolve path) = .error .notFound ∧
      e.discoverFile t tags path = .error (.sourceMissing (e.relativePath (e.resolve path)))) ∨
    (∃ l, e.discoverFile t tags path = .ok ([], [l])) ∨
    ∃ x text, t.metadata (e.resolve path) = .ok .file ∧
      e.registry.get? ((Path.extension (e.resolve path)).getD "") = some x ∧
      readFile t (e.resolve path) = .ok text ∧
      e.discoverFile t tags path =
        .ok ((x.extract (e.relativePath (e.resolve path)) text tags).filter (·.kind == .todo),
          [doneLine (e.relativePath (e.resolve path)) x
            (x.extract (e.relativePath (e.resolve path)) text tags)]) := by
  simp only [discoverFile]
  split
  · rename_i hmeta
    exact .inl ⟨hmeta, rfl⟩
  · exact .inr (.inl ⟨_, rfl⟩)
  · exact .inr (.inl ⟨_, rfl⟩)
  · exact .inr (.inl ⟨_, rfl⟩)
  · rename_i hmeta
    split
    · exact .inr (.inl ⟨_, rfl⟩)
    · rename_i x hx
      split
      · exact .inr (.inl ⟨_, rfl⟩)
      · rename_i text htext
        exact .inr (.inr ⟨x, text, hmeta, hx, htext, rfl⟩)

/-- Discovering one file records it under the root-relative form of the path read:
every comment returned, and the missing-file error, name it. -/
theorem discoverFile_records :
    Records (e.discoverFile t tags path) (e.relativePath (e.resolve path)) := by
  rcases discoverFile_cases e t tags path with ⟨-, h⟩ | ⟨l, h⟩ | ⟨x, text, -, -, -, h⟩
  · simp [h]
  · simp [h]
  · rw [h, records_ok]
    intro c hc
    exact x.filepath_of_mem_extract (List.mem_filter.1 hc).1

/-- Discovery records a file under any path equal to the root-relative form it reads. -/
theorem discoverFile_records_of_eq {recorded : String}
    (h : e.relativePath (e.resolve path) = recorded) :
    Records (e.discoverFile t tags path) recorded :=
  h ▸ e.discoverFile_records t tags path

end Engine

end CodeNotes.Discovery
