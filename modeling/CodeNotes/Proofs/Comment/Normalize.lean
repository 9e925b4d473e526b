import CodeNotes.Proofs.Text.Settled
import Mathlib.Data.String.Basic
import Mathlib.Data.List.Sort
set_option autoImplicit false

/-!
# Tag sets are normal forms

Building a tag set trims and lowercases every given tag, drops the blank ones, falls back
to the defaults when nothing is left, and sorts the rest without duplicates.  Main
statement:

* `TagSet.ofList_normal`: the tags are strictly increasing and none is empty; when some
  given tag is not blank they are exactly the normal forms of the given tags that are not
  blank, and otherwise they are `fixme` and `todo`; the tag set depends only on which
  tags are given, not on their order or repetition; and building a tag set from the tags
  of one gives it back.

A strictly increasing list is determined by its members (`List.Pairwise.eq_of_mem_iff`), so
sorting without duplicates depends only on the members (`sortDedup_congr`) and leaves a
strictly increasing list alone (`sortDedup_of_pairwise`).  Building a tag set twice changes
nothing because the normal form of a tag is its own normal form (`normalize_normalize`):
lowercasing a trimmed text leaves it trimmed, and lowercasing twice is lowercasing once.
-/

namespace CodeNotes

/-! ## Sorting without duplicates -/

/-- Inserting into a strictly increasing list keeps it strictly increasing. -/
theorem pairwise_insertSorted {x : String} {ys : List String} (h : ys.Pairwise (· < ·)) :
    (insertSorted x ys).Pairwise (· < ·) := by
  induction ys with
  | nil => simp [insertSorted]
  | cons y ys ih =>
    rw [List.pairwise_cons] at h
    unfold insertSorted
    split
    · rename_i hxy
      exact List.Pairwise.cons (fun z hz => (List.mem_cons.1 hz).elim (· ▸ hxy)
        fun hz => lt_trans hxy (h.1 z hz)) (List.Pairwise.cons h.1 h.2)
    · split
      · exact List.Pairwise.cons h.1 h.2
      · rename_i hxy hne
        have hyx : y < x := lt_of_le_of_ne (not_lt.1 hxy) (Ne.symm hne)
        refine List.Pairwise.cons ?_ (ih h.2)
        intro z hz
        rcases mem_insertSorted.1 hz with rfl | hz
        · exact hyx
        · exact h.1 z hz

theorem pairwise_foldr_insertSorted (xs : List String) : (xs.foldr insertSorted []).Pairwise (· < ·) := by
  induction xs with
  | nil => exact List.Pairwise.nil
  | cons x xs ih => exact pairwise_insertSorted ih

theorem pairwise_sortDedup (xs : List String) : (sortDedup xs).Pairwise (· < ·) :=
  pairwise_foldr_insertSorted xs

/-- Sorting without duplicates depends only on which texts are given. -/
theorem sortDedup_congr {xs ys : List String} (h : ∀ x, x ∈ xs ↔ x ∈ ys) :
    sortDedup xs = sortDedup ys :=
  (pairwise_sortDedup xs).eq_of_mem_iff (pairwise_sortDedup ys) fun x => by
    rw [TagSet.mem_sortDedup, TagSet.mem_sortDedup, h]

/-- A strictly increasing list is sorted already. -/
theorem sortDedup_of_pairwise {xs : List String} (h : xs.Pairwise (· < ·)) : sortDedup xs = xs :=
  (pairwise_sortDedup xs).eq_of_mem_iff h fun _ => TagSet.mem_sortDedup

namespace TagSet

theorem ext_tags {a b : TagSet} (h : a.tags = b.tags) : a = b := by
  cases a
  cases b
  cases h
  rfl

/-! ## The normal form of one tag -/

theorem lowerList_eq_nil_iff {cs : List Char} : Text.lowerList cs = [] ↔ cs = [] := by
  cases cs with
  | nil => exact iff_of_true rfl rfl
  | cons c cs =>
    rw [Text.lowerList, Text.lowerFrom_cons, List.append_eq_nil_iff]
    exact iff_of_false (fun h => lowerAt_ne_nil _ _ _ h.1) (List.cons_ne_nil _ _)

/-- A tag is blank exactly when its normal form is empty. -/
theorem normalize_eq_empty_iff (t : String) : normalize t = "" ↔ Text.trim t = "" := by
  rw [← String.toList_inj, toList_normalize, String.toList_empty, lowerList_eq_nil_iff,
    String.toList_eq_nil_iff]

/-- The normal form of a tag is its own normal form. -/
theorem normalize_normalize (t : String) : normalize (normalize t) = normalize t := by
  have htrim : Text.trim (normalize t) = normalize t := by
    simp only [normalize, Text.trim, Text.toLower, String.toList_ofList,
      Text.trimList_lowerList_trimList]
  show Text.toLower (Text.trim (normalize t)) = normalize t
  rw [htrim]
  exact Text.toLower_toLower _

/-- The default tags, lowercased, sorted. -/
theorem sortDedup_defaults : sortDedup (defaultTags.map Text.toLower) = ["fixme", "todo"] := by
  decide +kernel

theorem normalize_defaults : normalize "fixme" = "fixme" ∧ normalize "todo" = "todo" := by
  decide +kernel

/-! ## The tags of a tag set -/

variable {L : List String}

theorem mem_filter_normalize {x : String} :
    x ∈ (L.map normalize).filter (fun t => t ≠ "") ↔ ∃ t ∈ L, Text.trim t ≠ "" ∧ x = normalize t := by
  simp only [List.mem_filter, List.mem_map, decide_eq_true_eq]
  constructor
  · rintro ⟨⟨t, ht, rfl⟩, hne⟩
    exact ⟨t, ht, fun h => hne ((normalize_eq_empty_iff t).2 h), rfl⟩
  · rintro ⟨t, ht, hne, rfl⟩
    exact ⟨⟨t, ht, rfl⟩, fun h => hne ((normalize_eq_empty_iff t).1 h)⟩

/-- With a tag that is not blank, the tags are the normal forms that are not empty, sorted
without duplicates. -/
theorem tags_ofList (h : ∃ t ∈ L, Text.trim t ≠ "") :
    (ofList L).tags = sortDedup ((L.map normalize).filter fun t => t ≠ "") := by
  obtain ⟨t, ht, hne⟩ := h
  have hfolded : ((L.map normalize).filter fun s => s ≠ "") ≠ [] :=
    List.ne_nil_of_mem (mem_filter_normalize.2 ⟨t, ht, hne, rfl⟩)
  simp only [ofList, hfolded, if_false]

/-- With a tag that is not blank, the tags are the normal forms of those that are not. -/
theorem mem_tags_ofList (h : ∃ t ∈ L, Text.trim t ≠ "") {x : String} :
    x ∈ (ofList L).tags ↔ ∃ t ∈ L, Text.trim t ≠ "" ∧ x = normalize t := by
  rw [tags_ofList h, mem_sortDedup, mem_filter_normalize]

/-- With no tag that is not blank, the defaults stand in. -/
theorem tags_ofList_of_blank (h : ∀ t ∈ L, Text.trim t = "") : (ofList L).tags = ["fixme", "todo"] := by
  have hfolded : ((L.map normalize).filter fun s => s ≠ "") = [] :=
    List.eq_nil_iff_forall_not_mem.2 fun x hx => by
      obtain ⟨t, ht, hne, -⟩ := mem_filter_normalize.1 hx
      exact hne (h t ht)
  simp only [ofList, hfolded, if_true]
  exact sortDedup_defaults

theorem pairwise_tags_ofList (L : List String) : (ofList L).tags.Pairwise (· < ·) :=
  pairwise_sortDedup _

theorem tags_ofList_ne_nil (L : List String) : (ofList L).tags ≠ [] := by
  by_cases h : ∃ t ∈ L, Text.trim t ≠ ""
  · obtain ⟨t, ht, hne⟩ := h
    exact List.ne_nil_of_mem ((mem_tags_ofList ⟨t, ht, hne⟩).2 ⟨t, ht, hne, rfl⟩)
  · rw [tags_ofList_of_blank (by simpa using h)]
    exact List.cons_ne_nil _ _

/-- Every tag is in normal form and not empty. -/
theorem normal_of_mem_tags {x : String} (hx : x ∈ (ofList L).tags) : normalize x = x ∧ x ≠ "" := by
  by_cases h : ∃ t ∈ L, Text.trim t ≠ ""
  · obtain ⟨t, -, hne, rfl⟩ := (mem_tags_ofList h).1 hx
    exact ⟨normalize_normalize t, fun he => hne ((normalize_eq_empty_iff t).1 he)⟩
  · rw [tags_ofList_of_blank (by simpa using h)] at hx
    simp only [List.mem_cons, List.mem_nil_iff, or_false] at hx
    rcases hx with rfl | rfl
    · exact ⟨normalize_defaults.1, by decide⟩
    · exact ⟨normalize_defaults.2, by decide⟩

/-- The tag set depends only on which tags are given: the normal forms left are the same
texts, and sorting without duplicates sees only which texts it is given. -/
theorem ofList_congr {L' : List String} (h : ∀ t, t ∈ L' ↔ t ∈ L) : ofList L' = ofList L := by
  apply ext_tags
  by_cases hL : ∃ t ∈ L, Text.trim t ≠ ""
  · have hL' : ∃ t ∈ L', Text.trim t ≠ "" := by simpa only [h] using hL
    rw [tags_ofList hL', tags_ofList hL]
    exact sortDedup_congr fun x => by simp only [mem_filter_normalize, h]
  · have hL' : ∀ t ∈ L', Text.trim t = "" := fun t ht => by
      by_contra hne
      exact hL ⟨t, (h t).1 ht, hne⟩
    rw [tags_ofList_of_blank hL', tags_ofList_of_blank (by simpa using hL)]

/-- Building a tag set from the tags of one gives it back: every tag is its own normal
form and not blank, so the normal forms of the tags are the tags. -/
theorem ofList_ofList_tags (L : List String) : ofList (ofList L).tags = ofList L := by
  apply ext_tags
  have hnormal : ∀ x ∈ (ofList L).tags, normalize x = x ∧ Text.trim x ≠ "" := fun x hx => by
    obtain ⟨hfix, hne⟩ := normal_of_mem_tags hx
    exact ⟨hfix, fun h => hne (hfix ▸ (normalize_eq_empty_iff x).2 h)⟩
  obtain ⟨x, hx⟩ := List.exists_mem_of_ne_nil _ (tags_ofList_ne_nil L)
  have hsome : ∃ t ∈ (ofList L).tags, Text.trim t ≠ "" := ⟨x, hx, (hnormal x hx).2⟩
  -- the tags are their own normal forms, none of them empty
  have hfolded : (((ofList L).tags.map normalize).filter fun t => t ≠ "") = (ofList L).tags := by
    have hmap : (ofList L).tags.map normalize = (ofList L).tags :=
      (List.map_congr_left fun y hy => (hnormal y hy).1).trans (List.map_id _)
    rw [hmap, List.filter_eq_self]
    intro y hy
    simpa using (normal_of_mem_tags hy).2
  rw [tags_ofList hsome, hfolded]
  exact sortDedup_of_pairwise (pairwise_tags_ofList L)

/-- Building a tag set normalises the given tags.  The tags are strictly increasing and
none is empty.  When some given tag is not blank, the tags are exactly the given tags that
are not blank, each trimmed and then lowercased; when none is, they are `fixme` and `todo`.
The tag set depends only on which tags are given, so reordering or repeating them changes
nothing, and building a tag set from its own tags gives it back. -/
theorem ofList_normal (L : List String) :
    (ofList L).tags.Pairwise (· < ·) ∧ (∀ x ∈ (ofList L).tags, x ≠ "") ∧
      ((∃ t ∈ L, Text.trim t ≠ "") →
        ∀ x, x ∈ (ofList L).tags ↔ ∃ t ∈ L, Text.trim t ≠ "" ∧ x = Text.toLower (Text.trim t)) ∧
      ((∀ t ∈ L, Text.trim t = "") → (ofList L).tags = ["fixme", "todo"]) ∧
      (∀ L' : List String, (∀ t, t ∈ L' ↔ t ∈ L) → ofList L' = ofList L) ∧
      ofList (ofList L).tags = ofList L :=
  ⟨pairwise_tags_ofList L, fun _ hx => (normal_of_mem_tags hx).2, fun h _ => mem_tags_ofList h,
    tags_ofList_of_blank, fun _ => ofList_congr, ofList_ofList_tags L⟩

example : (ofList ["TODO", " todo ", "Fixme", "  "]).tags = ["fixme", "todo"] := by decide +kernel

end TagSet

end CodeNotes
