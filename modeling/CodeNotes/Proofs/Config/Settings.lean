import CodeNotes.Config.Error
import CodeNotes.Proofs.Text.Settled
set_option autoImplicit false

/-!
# Reading and changing settings

`Config.setNamed` changes one setting from text and `Config.getNamed` reads one back.
Main statement:

* `Config.setNamed_getNamed`: a change fails exactly for the source root, which is read
  only, for a name that is no key, for a tag list with no item and for a count that is not
  a positive machine-word literal; otherwise it changes the named field alone, and reading
  the key back gives the canonical text of the value.  On settings reached from a new
  project by changes, writing back what a key reads succeeds and changes nothing.

What a change stores is canonical (`Canonical`): list items are trimmed, not empty and
free of commas, counts are positive words, author fields are trimmed and not empty.  A
change keeps that (`Canonical.setNamed`), and on canonical settings writing back what a
key reads is the identity (`Canonical.setNamed_get`): a comma-joined list of such items
splits back into them (`splitList_intercalate`), and the decimal text of a positive word
parses back to it (`parsePositive_toString`).
-/

namespace CodeNotes

/-! ## Keys -/

theorem ConfigKey.parse?_eq_some_iff {s : String} {k : ConfigKey} :
    ConfigKey.parse? s = some k ↔ k.name = s := by
  constructor
  · intro h
    simpa using List.find?_some h
  · rintro rfl
    cases k <;> decide

theorem ConfigKey.parse?_eq_none_iff {s : String} :
    ConfigKey.parse? s = none ↔
      s ∉ ["source_root", "tags", "workers", "read_chunk_size", "exclude", "username", "email"] := by
  rw [ConfigKey.parse?, List.find?_eq_none]
  simp only [all, name, List.mem_cons, List.mem_nil_iff, or_false]
  constructor
  · intro h hs
    rcases hs with rfl | rfl | rfl | rfl | rfl | rfl | rfl <;> simp at h
  · intro h k hk
    rcases hk with rfl | rfl | rfl | rfl | rfl | rfl | rfl <;> grind

/-! ## Lists -/

/-- An item a list setting can hold: trimmed, not empty, without a comma. -/
def ListItem (t : String) : Prop := Text.trim t = t ∧ t ≠ "" ∧ ',' ∉ t.toList

theorem not_mem_of_mem_splitOn {a : Char} :
    ∀ {xs p : List Char}, p ∈ xs.splitOn a → a ∉ p
  | [], p, h => by
    rw [List.splitOn_nil, List.mem_singleton] at h
    subst h
    exact List.not_mem_nil
  | x :: xs, p, h => by
    rw [List.splitOn_cons_eq_if_modifyHead] at h
    split at h
    · rcases List.mem_cons.1 h with rfl | h
      · exact List.not_mem_nil
      · exact not_mem_of_mem_splitOn h
    · rename_i hx
      obtain ⟨q, qs, hq⟩ := List.exists_cons_of_ne_nil (List.splitOn_ne_nil a xs)
      rw [hq, List.modifyHead_cons] at h
      rcases List.mem_cons.1 h with rfl | h
      · intro ha
        rcases List.mem_cons.1 ha with rfl | ha
        · simp at hx
        · exact not_mem_of_mem_splitOn (hq ▸ List.mem_cons_self) ha
      · exact not_mem_of_mem_splitOn (hq ▸ List.mem_cons_of_mem q h)

/-- Every item of a split list is trimmed, not empty and free of commas. -/
theorem listItem_of_mem_splitList {value t : String} (h : t ∈ splitList value) : ListItem t := by
  simp only [splitList, List.mem_filter, List.mem_map, decide_eq_true_eq] at h
  obtain ⟨⟨piece, hpiece, rfl⟩, hne⟩ := h
  refine ⟨Text.trim_trim _, hne, fun hc => ?_⟩
  rw [Text.trim, String.toList_ofList, String.toList_ofList] at hc
  exact not_mem_of_mem_splitOn hpiece (Text.mem_of_mem_trimList hc)

/-- Items joined by commas split back into the items. -/
theorem splitList_intercalate {ts : List String} (h : ∀ t ∈ ts, ListItem t) :
    splitList (",".intercalate ts) = ts := by
  by_cases hne : ts = []
  · subst hne
    decide +kernel
  · have hsplit : (",".intercalate ts).toList.splitOn ',' = ts.map String.toList := by
      rw [String.toList_intercalate]
      exact List.splitOn_intercalate ',' (by simpa using fun t ht => (h t ht).2.2)
        (by simpa using hne)
    rw [splitList, hsplit, List.map_map, List.filter_eq_self.2]
    · conv => rhs; rw [← List.map_id ts]
      refine List.map_congr_left fun t ht => ?_
      simpa using (h t ht).1
    · intro t ht
      obtain ⟨u, hu, rfl⟩ := List.mem_map.1 ht
      simpa [(h u hu).1] using (h u hu).2.1

/-! ## Counts -/

/-- `ds` are decimal digits, at least one, that read as `n`. -/
def DigitsOf (ds : List Char) (n : Nat) : Prop :=
  ds ≠ [] ∧ (∀ c ∈ ds, c.isDigit) ∧ Nat.ofDigitChars 10 ds 0 = n

/-- A literal of a machine word: an optional `+`, then decimal digits that read as `n`,
a number below `2 ^ 64`. -/
def WordLiteral (s : List Char) (n : Nat) : Prop :=
  ∃ sign digits, s = sign ++ digits ∧ (sign = [] ∨ sign = ['+']) ∧ DigitsOf digits n ∧
    n ≤ 18446744073709551615

theorem decimalValue_eq_some_iff {ds : List Char} {n : Nat} :
    decimalValue ds = some n ↔ DigitsOf ds n := by
  unfold decimalValue DigitsOf
  split
  · rename_i h
    simp only [List.all_eq_true] at h
    rw [Option.some.injEq]
    exact ⟨fun hn => ⟨h.1, h.2, hn⟩, fun hn => hn.2.2⟩
  · rename_i h
    simp only [List.all_eq_true] at h
    simp only [reduceCtorEq, false_iff]
    exact fun ⟨hne, hdig, _⟩ => h ⟨hne, hdig⟩

theorem not_isDigit_plus : ('+').isDigit = false := by decide

/-- After a `+`, a word literal is its digits. -/
theorem wordLiteral_plus {rest : List Char} {n : Nat} :
    WordLiteral ('+' :: rest) n ↔ DigitsOf rest n ∧ n ≤ countLimit := by
  constructor
  · rintro ⟨sign, digits, hs, hsign | hsign, hdig, hmax⟩
    · subst hsign
      rw [List.nil_append] at hs
      have := hdig.2.1 '+' (hs ▸ List.mem_cons_self)
      rw [not_isDigit_plus] at this
      cases this
    · subst hsign
      rw [List.singleton_append, List.cons.injEq] at hs
      exact hs.2 ▸ ⟨hdig, hmax⟩
  · rintro ⟨hdig, hmax⟩
    exact ⟨['+'], rest, rfl, .inr rfl, hdig, hmax⟩

/-- Without a leading `+`, a word literal is all digits. -/
theorem wordLiteral_of_ne_plus {cs : List Char} {n : Nat} (h : ∀ rest, cs = '+' :: rest → False) :
    WordLiteral cs n ↔ DigitsOf cs n ∧ n ≤ countLimit := by
  constructor
  · rintro ⟨sign, digits, hs, hsign | hsign, hdig, hmax⟩
    · subst hsign
      rw [List.nil_append] at hs
      exact hs ▸ ⟨hdig, hmax⟩
    · subst hsign
      exact (h digits hs).elim
  · rintro ⟨hdig, hmax⟩
    exact ⟨[], cs, rfl, .inl rfl, hdig, hmax⟩

/-- Digits that read as `m` are accepted as a count when `m` is a positive word. -/
theorem accept_some {ds : List Char} {m n : Nat} (hm : decimalValue ds = some m) :
    (if 0 < m ∧ m ≤ countLimit then some m else none) = some n ↔
      (DigitsOf ds n ∧ n ≤ countLimit) ∧ 0 < n := by
  have hds := decimalValue_eq_some_iff.1 hm
  have hread : ∀ k, DigitsOf ds k ↔ k = m := fun k =>
    ⟨fun hk => hk.2.2.symm.trans hds.2.2, fun hk => hk ▸ hds⟩
  rw [hread]
  split
  · rename_i hbound
    rw [Option.some.injEq]
    constructor
    · rintro rfl
      exact ⟨⟨rfl, hbound.2⟩, hbound.1⟩
    · rintro ⟨⟨rfl, -⟩, -⟩
      rfl
  · rename_i hbound
    simp only [reduceCtorEq, false_iff, not_and]
    rintro ⟨rfl, hmax⟩ hpos
    exact hbound ⟨hpos, hmax⟩

theorem accept_none {ds : List Char} {n : Nat} (hm : decimalValue ds = none) :
    (none : Option Nat) = some n ↔ (DigitsOf ds n ∧ n ≤ countLimit) ∧ 0 < n := by
  simp only [reduceCtorEq, false_iff, not_and]
  rintro ⟨hds, -⟩ -
  rw [← decimalValue_eq_some_iff, hm] at hds
  cases hds

/-- A count is accepted exactly when its trimmed text is a word literal of a positive
number. -/
theorem parsePositive_eq_some_iff {value : String} {n : Nat} :
    parsePositive value = some n ↔ WordLiteral (Text.trim value).toList n ∧ 0 < n := by
  unfold parsePositive
  simp only
  generalize (Text.trim value).toList = cs
  -- split on what reading the digits gives, then on the sign in front of them
  split
  · rename_i m hm
    split at hm
    · rw [wordLiteral_plus]
      exact accept_some hm
    · rename_i hne
      rw [wordLiteral_of_ne_plus hne]
      exact accept_some hm
  · rename_i hm
    split at hm
    · rw [wordLiteral_plus]
      exact accept_none hm
    · rename_i hne
      rw [wordLiteral_of_ne_plus hne]
      exact accept_none hm

theorem isBlank_of_isDigit {c : Char} (h : c.isDigit = true) : Text.isBlank c = false := by
  simp only [Char.isDigit, Bool.and_eq_true, decide_eq_true_eq] at h
  have h₁ : 48 ≤ c.toNat := h.1
  have h₂ : c.toNat ≤ 57 := h.2
  simp only [Text.isBlank, Bool.or_eq_false_iff, Bool.and_eq_false_iff, decide_eq_false_iff_not,
    beq_eq_false_iff_ne, ne_eq]
  omega

/-- The decimal text of a positive word is accepted as that word. -/
theorem parsePositive_toString {n : Nat} (hpos : 0 < n) (hmax : n ≤ countLimit) :
    parsePositive (toString n) = some n := by
  have hdigits : ∀ c ∈ Nat.toDigits 10 n, c.isDigit :=
    fun c hc => Nat.isDigit_of_mem_toDigits (by decide) (by decide) hc
  have htrim : (Text.trim (toString n)).toList = Nat.toDigits 10 n := by
    rw [Text.trim, String.toList_ofList, Nat.toString_eq_repr, Nat.toList_repr,
      Text.trimList_of_endsSolid]
    exact ⟨fun c hc => isBlank_of_isDigit (hdigits c (List.mem_of_mem_head? hc)),
      fun c hc => isBlank_of_isDigit (hdigits c (List.mem_of_mem_getLast? hc))⟩
  rw [parsePositive_eq_some_iff, htrim]
  exact ⟨⟨[], _, rfl, .inl rfl, ⟨Nat.toDigits_ne_nil, hdigits, Nat.ofDigitChars_ten_toDigits⟩,
    hmax⟩, hpos⟩

/-! ## Author fields -/

theorem getD_nonEmpty (value : String) : (nonEmpty value).getD "" = Text.trim value := by
  dsimp only [nonEmpty]
  split <;> simp_all

theorem trimmed_of_nonEmpty {value u : String} (h : nonEmpty value = some u) :
    Text.trim u = u ∧ u ≠ "" := by
  dsimp only [nonEmpty] at h
  split at h
  · cases h
  · rename_i hne
    cases h
    exact ⟨Text.trim_trim value, hne⟩

theorem nonEmpty_of_trimmed {u : String} (h : Text.trim u = u) (hne : u ≠ "") : nonEmpty u = some u := by
  simp [nonEmpty, h, hne]

theorem nonEmpty_empty : nonEmpty "" = none := by decide +kernel

/-! ## One change -/

namespace Config

variable {c c' : Config} {key value : String}

-- Each key's case unfolds the change by `delta`: the equations of `Config.set` are costly
-- to generate and no proof needs them.
theorem setNamed_sourceRoot : c.setNamed "source_root" value = .error (.readOnlyKey "source_root") := by
  rw [setNamed, (ConfigKey.parse?_eq_some_iff (s := "source_root") (k := .sourceRoot)).2 rfl]
  rfl

theorem setNamed_tags :
    c.setNamed "tags" value =
      if splitList value = [] then .error (.invalidValue "tags" value)
      else .ok { c with tags := splitList value } := by
  rw [setNamed, (ConfigKey.parse?_eq_some_iff (s := "tags") (k := .tags)).2 rfl]
  delta Config.set
  dsimp only
  cases splitList value <;> rfl

theorem setNamed_workers :
    c.setNamed "workers" value =
      (parsePositive value).elim (.error (.invalidValue "workers" value))
        fun n => .ok { c with workers := n } := by
  rw [setNamed, (ConfigKey.parse?_eq_some_iff (s := "workers") (k := .workers)).2 rfl]
  delta Config.set
  dsimp only
  cases parsePositive value <;> rfl

theorem setNamed_readChunkSize :
    c.setNamed "read_chunk_size" value =
      (parsePositive value).elim (.error (.invalidValue "read_chunk_size" value))
        fun n => .ok { c with readChunkSize := n } := by
  rw [setNamed, (ConfigKey.parse?_eq_some_iff (s := "read_chunk_size") (k := .readChunkSize)).2 rfl]
  delta Config.set
  dsimp only
  cases parsePositive value <;> rfl

theorem setNamed_exclude : c.setNamed "exclude" value = .ok { c with exclude := splitList value } := by
  rw [setNamed, (ConfigKey.parse?_eq_some_iff (s := "exclude") (k := .exclude)).2 rfl]
  rfl

theorem setNamed_username : c.setNamed "username" value = .ok { c with username := nonEmpty value } := by
  rw [setNamed, (ConfigKey.parse?_eq_some_iff (s := "username") (k := .username)).2 rfl]
  rfl

theorem setNamed_email : c.setNamed "email" value = .ok { c with email := nonEmpty value } := by
  rw [setNamed, (ConfigKey.parse?_eq_some_iff (s := "email") (k := .email)).2 rfl]
  rfl

theorem setNamed_unknown
    (h : key ∉ ["source_root", "tags", "workers", "read_chunk_size", "exclude", "username", "email"]) :
    c.setNamed key value = .error (.unknownKey key) := by
  simp [setNamed, ConfigKey.parse?_eq_none_iff.2 h]

/-- The names of the keys. -/
theorem mem_keyNames_iff :
    key ∈ ["source_root", "tags", "workers", "read_chunk_size", "exclude", "username", "email"] ↔
      key = "source_root" ∨ key = "tags" ∨ key = "workers" ∨ key = "read_chunk_size" ∨
        key = "exclude" ∨ key = "username" ∨ key = "email" := by
  simp

/-- A change fails for the source root, for a name that is no key, for a tag list with
no item and for a count that is not a positive word literal, and for nothing else. -/
theorem setNamed_eq_error_iff {e : ConfigError} :
    c.setNamed key value = .error e ↔
      (key = "source_root" ∧ e = .readOnlyKey key) ∨
      (key ∉ ["source_root", "tags", "workers", "read_chunk_size", "exclude", "username", "email"] ∧
        e = .unknownKey key) ∨
      (key = "tags" ∧ splitList value = [] ∧ e = .invalidValue key value) ∨
      ((key = "workers" ∨ key = "read_chunk_size") ∧
        (¬ ∃ n, WordLiteral (Text.trim value).toList n ∧ 0 < n) ∧ e = .invalidValue key value) := by
  simp only [← parsePositive_eq_some_iff]
  by_cases hkey : key ∈ ["source_root", "tags", "workers", "read_chunk_size", "exclude", "username",
      "email"]
  · rcases mem_keyNames_iff.1 hkey with rfl | rfl | rfl | rfl | rfl | rfl | rfl
    · simp [setNamed_sourceRoot, eq_comm]
    · rw [setNamed_tags]
      split <;> simp_all [eq_comm]
    · rw [setNamed_workers]
      cases parsePositive value <;> simp [eq_comm]
    · rw [setNamed_readChunkSize]
      cases parsePositive value <;> simp [eq_comm]
    · simp [setNamed_exclude]
    · simp [setNamed_username]
    · simp [setNamed_email]
  · rw [setNamed_unknown hkey]
    simp only [mem_keyNames_iff, not_or] at hkey
    simp [hkey, eq_comm]

/-- A change that succeeds changes the named setting alone, to the value read from the
text. -/
theorem setNamed_eq_ok_iff :
    c.setNamed key value = .ok c' ↔
      (key = "tags" ∧ splitList value ≠ [] ∧ c' = { c with tags := splitList value }) ∨
      (∃ n, WordLiteral (Text.trim value).toList n ∧ 0 < n ∧
        ((key = "workers" ∧ c' = { c with workers := n }) ∨
          (key = "read_chunk_size" ∧ c' = { c with readChunkSize := n }))) ∨
      (key = "exclude" ∧ c' = { c with exclude := splitList value }) ∨
      (key = "username" ∧ c' = { c with username := nonEmpty value }) ∨
      (key = "email" ∧ c' = { c with email := nonEmpty value }) := by
  simp only [← and_assoc, ← parsePositive_eq_some_iff]
  by_cases hkey : key ∈ ["source_root", "tags", "workers", "read_chunk_size", "exclude", "username",
      "email"]
  · rcases mem_keyNames_iff.1 hkey with rfl | rfl | rfl | rfl | rfl | rfl | rfl
    · simp [setNamed_sourceRoot]
    · rw [setNamed_tags]
      split <;> simp_all [eq_comm]
    · rw [setNamed_workers]
      cases parsePositive value <;> simp [eq_comm]
    · rw [setNamed_readChunkSize]
      cases parsePositive value <;> simp [eq_comm]
    · simp [setNamed_exclude, eq_comm]
    · simp [setNamed_username, eq_comm]
    · simp [setNamed_email, eq_comm]
  · rw [setNamed_unknown hkey]
    simp only [mem_keyNames_iff, not_or] at hkey
    simp [hkey]

theorem getNamed_of_parse? {k : ConfigKey} (hk : ConfigKey.parse? key = some k) :
    c.getNamed key = .ok (c.get k) := by
  simp [getNamed, hk]

/-- After a change, reading the key gives the canonical text of the value: the items
joined by commas, the decimal text of the count, or the trimmed author field. -/
theorem getNamed_of_setNamed (h : c.setNamed key value = .ok c') :
    ((key = "tags" ∨ key = "exclude") ∧ c'.getNamed key = .ok (",".intercalate (splitList value))) ∨
    (∃ n, WordLiteral (Text.trim value).toList n ∧ (key = "workers" ∨ key = "read_chunk_size") ∧
      c'.getNamed key = .ok (toString n)) ∨
    ((key = "username" ∨ key = "email") ∧ c'.getNamed key = .ok (Text.trim value)) := by
  rcases setNamed_eq_ok_iff.1 h with ⟨rfl, -, rfl⟩ | ⟨n, hn, -, ⟨rfl, rfl⟩ | ⟨rfl, rfl⟩⟩ |
      ⟨rfl, rfl⟩ | ⟨rfl, rfl⟩ | ⟨rfl, rfl⟩
  · exact .inl ⟨.inl rfl, getNamed_of_parse? ((ConfigKey.parse?_eq_some_iff (s := "tags") (k := .tags)).2 rfl)⟩
  · exact .inr (.inl ⟨n, hn, .inl rfl,
      getNamed_of_parse? ((ConfigKey.parse?_eq_some_iff (s := "workers") (k := .workers)).2 rfl)⟩)
  · exact .inr (.inl ⟨n, hn, .inr rfl,
      getNamed_of_parse? ((ConfigKey.parse?_eq_some_iff (s := "read_chunk_size") (k := .readChunkSize)).2 rfl)⟩)
  · exact .inl ⟨.inr rfl, getNamed_of_parse? ((ConfigKey.parse?_eq_some_iff (s := "exclude") (k := .exclude)).2 rfl)⟩
  · refine .inr (.inr ⟨.inl rfl, ?_⟩)
    rw [getNamed_of_parse? ((ConfigKey.parse?_eq_some_iff (s := "username") (k := .username)).2 rfl), get,
      getD_nonEmpty]
  · refine .inr (.inr ⟨.inr rfl, ?_⟩)
    rw [getNamed_of_parse? ((ConfigKey.parse?_eq_some_iff (s := "email") (k := .email)).2 rfl), get, getD_nonEmpty]

/-! ## Canonical settings -/

/-- Settings as changes store them: list items trimmed, not empty and without commas, at
least one tag, counts positive words, author fields trimmed and not empty. -/
structure Canonical (c : Config) : Prop where
  tags_ne_nil : c.tags ≠ []
  tags : ∀ t ∈ c.tags, ListItem t
  exclude : ∀ t ∈ c.exclude, ListItem t
  workers : 0 < c.workers ∧ c.workers ≤ countLimit
  readChunkSize : 0 < c.readChunkSize ∧ c.readChunkSize ≤ countLimit
  username : ∀ u ∈ c.username, Text.trim u = u ∧ u ≠ ""
  email : ∀ u ∈ c.email, Text.trim u = u ∧ u ≠ ""

theorem canonical_new (root : String) : Canonical (Config.new root) where
  tags_ne_nil := List.cons_ne_nil _ _
  tags := by
    have hTODO : ListItem "TODO" := ⟨by decide +kernel, by decide, by decide⟩
    have hFIXME : ListItem "FIXME" := ⟨by decide +kernel, by decide, by decide⟩
    simpa [Config.new, TagSet.defaultTags] using And.intro hTODO hFIXME
  exclude := by simp [Config.new]
  workers := by simp [Config.new, defaultWorkers, countLimit]
  readChunkSize := by simp [Config.new, defaultChunkSize, countLimit]
  username := by simp [Config.new]
  email := by simp [Config.new]

theorem bounds_of_wordLiteral {s : List Char} {n : Nat} (h : WordLiteral s n) (hpos : 0 < n) :
    0 < n ∧ n ≤ countLimit := by
  obtain ⟨-, -, -, -, -, hmax⟩ := h
  exact ⟨hpos, hmax⟩

/-- A change keeps settings canonical. -/
theorem Canonical.setNamed (hc : Canonical c) (h : c.setNamed key value = .ok c') : Canonical c' := by
  rcases setNamed_eq_ok_iff.1 h with ⟨-, hne, rfl⟩ | ⟨n, hn, hpos, ⟨-, rfl⟩ | ⟨-, rfl⟩⟩ |
      ⟨-, rfl⟩ | ⟨-, rfl⟩ | ⟨-, rfl⟩
  · exact ⟨hne, fun t ht => listItem_of_mem_splitList ht, hc.exclude, hc.workers, hc.readChunkSize,
      hc.username, hc.email⟩
  · exact ⟨hc.tags_ne_nil, hc.tags, hc.exclude, bounds_of_wordLiteral hn hpos, hc.readChunkSize,
      hc.username, hc.email⟩
  · exact ⟨hc.tags_ne_nil, hc.tags, hc.exclude, hc.workers, bounds_of_wordLiteral hn hpos,
      hc.username, hc.email⟩
  · exact ⟨hc.tags_ne_nil, hc.tags, fun t ht => listItem_of_mem_splitList ht, hc.workers,
      hc.readChunkSize, hc.username, hc.email⟩
  -- the author fields are reduced first: matching the updated record against
  -- `nonEmpty value` directly makes Lean unfold `nonEmpty`
  · refine ⟨hc.tags_ne_nil, hc.tags, hc.exclude, hc.workers, hc.readChunkSize, ?_, hc.email⟩
    dsimp only
    exact fun u hu => trimmed_of_nonEmpty hu
  · refine ⟨hc.tags_ne_nil, hc.tags, hc.exclude, hc.workers, hc.readChunkSize, hc.username, ?_⟩
    dsimp only
    exact fun u hu => trimmed_of_nonEmpty hu

/-- A run of changes keeps settings canonical: induction on the changes. -/
theorem Canonical.foldlM_setNamed :
    ∀ (sets : List (String × String)) {c c' : Config}, Canonical c →
      sets.foldlM (fun c s => c.setNamed s.1 s.2) c = .ok c' → Canonical c'
  | [], _, _, hc, h => by
    cases h
    exact hc
  | (k, v) :: sets, c, c', hc, h => by
    rw [List.foldlM_cons] at h
    cases hs : c.setNamed k v with
    | error e =>
      rw [hs] at h
      cases h
    | ok c₁ =>
      rw [hs] at h
      exact Canonical.foldlM_setNamed sets (hc.setNamed hs) h

/-- On canonical settings, writing back what a key reads succeeds and changes nothing. -/
theorem Canonical.setNamed_get (hc : Canonical c)
    (hkey : key ∈ ["tags", "workers", "read_chunk_size", "exclude", "username", "email"]) :
    ∃ v, c.getNamed key = .ok v ∧ c.setNamed key v = .ok c := by
  simp only [List.mem_cons, List.mem_nil_iff, or_false] at hkey
  rcases hkey with rfl | rfl | rfl | rfl | rfl | rfl
  · refine ⟨_, getNamed_of_parse? ((ConfigKey.parse?_eq_some_iff (s := "tags") (k := .tags)).2 rfl), ?_⟩
    rw [setNamed_tags, get, splitList_intercalate hc.tags, if_neg hc.tags_ne_nil]
  · refine ⟨_, getNamed_of_parse? ((ConfigKey.parse?_eq_some_iff (s := "workers") (k := .workers)).2 rfl), ?_⟩
    rw [setNamed_workers, get, parsePositive_toString hc.workers.1 hc.workers.2]
    rfl
  · refine ⟨_, getNamed_of_parse? ((ConfigKey.parse?_eq_some_iff (s := "read_chunk_size") (k := .readChunkSize)).2 rfl), ?_⟩
    rw [setNamed_readChunkSize, get, parsePositive_toString hc.readChunkSize.1 hc.readChunkSize.2]
    rfl
  · refine ⟨_, getNamed_of_parse? ((ConfigKey.parse?_eq_some_iff (s := "exclude") (k := .exclude)).2 rfl), ?_⟩
    rw [setNamed_exclude, get, splitList_intercalate hc.exclude]
  · refine ⟨_, getNamed_of_parse? ((ConfigKey.parse?_eq_some_iff (s := "username") (k := .username)).2 rfl), ?_⟩
    rw [setNamed_username, get]
    cases hu : c.username with
    | none => rw [Option.getD_none, nonEmpty_empty, ← hu]
    | some u =>
      obtain ⟨htrim, hne⟩ := hc.username u hu
      rw [Option.getD_some, nonEmpty_of_trimmed htrim hne, ← hu]
  · refine ⟨_, getNamed_of_parse? ((ConfigKey.parse?_eq_some_iff (s := "email") (k := .email)).2 rfl), ?_⟩
    rw [setNamed_email, get]
    cases hu : c.email with
    | none => rw [Option.getD_none, nonEmpty_empty, ← hu]
    | some u =>
      obtain ⟨htrim, hne⟩ := hc.email u hu
      rw [Option.getD_some, nonEmpty_of_trimmed htrim hne, ← hu]

/-- Changing and reading settings by name.  For all settings, names and texts: a change
fails with `ReadOnlyKey` for the source root, with `UnknownKey` for a name that is no key,
and with `InvalidValue` for a tag list with no item or a count whose trimmed text is not a
word literal of a positive number, and for nothing else; a change that succeeds changes
the named setting alone, and reading the key back gives the items joined by commas, the
decimal text of the count, or the trimmed text.  On settings reached from a new project by
changes, writing back what any key that can change reads succeeds and changes nothing. -/
theorem setNamed_getNamed :
    (∀ (c : Config) (key value : String),
      (∀ e, c.setNamed key value = .error e ↔
        (key = "source_root" ∧ e = .readOnlyKey key) ∨
        (key ∉ ["source_root", "tags", "workers", "read_chunk_size", "exclude", "username", "email"] ∧
          e = .unknownKey key) ∨
        (key = "tags" ∧ splitList value = [] ∧ e = .invalidValue key value) ∨
        ((key = "workers" ∨ key = "read_chunk_size") ∧
          (¬ ∃ n, WordLiteral (Text.trim value).toList n ∧ 0 < n) ∧ e = .invalidValue key value)) ∧
      (∀ c', c.setNamed key value = .ok c' ↔
        (key = "tags" ∧ splitList value ≠ [] ∧ c' = { c with tags := splitList value }) ∨
        (∃ n, WordLiteral (Text.trim value).toList n ∧ 0 < n ∧
          ((key = "workers" ∧ c' = { c with workers := n }) ∨
            (key = "read_chunk_size" ∧ c' = { c with readChunkSize := n }))) ∨
        (key = "exclude" ∧ c' = { c with exclude := splitList value }) ∨
        (key = "username" ∧ c' = { c with username := nonEmpty value }) ∨
        (key = "email" ∧ c' = { c with email := nonEmpty value })) ∧
      (∀ c', c.setNamed key value = .ok c' →
        ((key = "tags" ∨ key = "exclude") ∧
          c'.getNamed key = .ok (",".intercalate (splitList value))) ∨
        (∃ n, WordLiteral (Text.trim value).toList n ∧ (key = "workers" ∨ key = "read_chunk_size") ∧
          c'.getNamed key = .ok (toString n)) ∨
        ((key = "username" ∨ key = "email") ∧ c'.getNamed key = .ok (Text.trim value)))) ∧
    ∀ (root : String) (sets : List (String × String)) (c : Config),
      sets.foldlM (fun c s => c.setNamed s.1 s.2) (Config.new root) = .ok c →
      ∀ key ∈ ["tags", "workers", "read_chunk_size", "exclude", "username", "email"],
        ∃ v, c.getNamed key = .ok v ∧ c.setNamed key v = .ok c :=
  ⟨fun _ _ _ => ⟨fun _ => setNamed_eq_error_iff, fun _ => setNamed_eq_ok_iff,
      fun _ => getNamed_of_setNamed⟩,
    fun root sets _ h _ hkey => (Canonical.foldlM_setNamed sets (canonical_new root) h).setNamed_get hkey⟩

end Config

end CodeNotes
