import CodeNotes.Extract.Registry
import CodeNotes.Proofs.Text.Settled
import Mathlib.Data.String.Basic
import Mathlib.Data.Finset.Card
set_option autoImplicit false

/-!
# Registering extractors

A registry is built by registering extractors one extension at a time.  Main statement:

* `Extract.Registry.registerAll_last_wins`: after any sequence of registrations from the
  empty registry, looking an extension up gives the extractor of the last registration
  whose extension normalises alike, or none; the extensions are the normalised ones
  registered, strictly increasing; their number is the number of distinct normalised
  extensions; the registry is empty exactly when nothing was registered; its description
  lists each extension with the name of the extractor looked up for it, in that order; and
  normalising is idempotent, so a normalised extension looks up what it came from.

Registration inserts into a list sorted by extension, replacing an entry of the same
extension (`find?_putSorted`, `pairwise_putSorted`), so a lookup after a sequence of
registrations reads the sequence backwards (`find?_registerAll`).
-/

namespace CodeNotes.Extract

/-! ## Normalising extensions -/

/-- Normalising an extension a second time changes nothing: once its leading dots are
gone, lowercasing brings none back and is itself idempotent. -/
theorem normalizeExtension_normalizeExtension (ext : String) :
    normalizeExtension (normalizeExtension ext) = normalizeExtension ext := by
  have hhead : (ext.toList.dropWhile (· == '.')).head? ≠ some '.' := by
    intro h
    have hnot := List.head?_dropWhile_not (· == '.') ext.toList
    rw [h] at hnot
    simp at hnot
  unfold normalizeExtension
  generalize ext.toList.dropWhile (· == '.') = cs at hhead ⊢
  have hlow : Text.toLower (String.ofList cs) = String.ofList (Text.lowerList cs) := by
    rw [Text.toLower, String.toList_ofList]
  rw [hlow, String.toList_ofList, Text.dropWhile_dot_lowerList hhead, ← hlow, Text.toLower_toLower]

/-- A normalised extension finds the extractor of the extension it came from. -/
theorem Registry.get?_normalizeExtension (r : Registry) (ext : String) :
    r.get? (normalizeExtension ext) = r.get? ext := by
  simp only [Registry.get?, normalizeExtension_normalizeExtension]

namespace Registry

/-! ## Inserting into the sorted entries -/

section PutSorted

variable (key : String) (x : Extractor)

theorem mem_putSorted {e : String × Extractor} :
    ∀ {es : List (String × Extractor)}, e ∈ putSorted key x es → e = (key, x) ∨ e ∈ es
  | [], h => .inl (List.mem_singleton.1 h)
  | (k, y) :: rest, h => by
    unfold putSorted at h
    split at h
    · simpa using h
    · split at h
      · rcases List.mem_cons.1 h with h | h
        · exact .inl h
        · exact .inr (List.mem_cons_of_mem _ h)
      · rcases List.mem_cons.1 h with h | h
        · exact .inr (h ▸ List.mem_cons_self)
        · exact (mem_putSorted h).imp_right (List.mem_cons_of_mem _)

/-- Looking a key up after inserting finds the inserted entry under its key and what was
there before under any other. -/
theorem find?_putSorted (k : String) :
    ∀ es : List (String × Extractor), (putSorted key x es).find? (·.1 == k) =
      if key = k then some (key, x) else es.find? (·.1 == k)
  | [] => by by_cases h : key = k <;> simp [putSorted, h]
  | (k', y) :: rest => by
    unfold putSorted
    split
    · by_cases h : key = k <;> simp [h]
    · split
      · -- the entry of the same key is replaced
        rename_i hk'
        subst hk'
        by_cases h : key = k <;> simp [h]
      · rename_i hk'
        rw [List.find?_cons, List.find?_cons, find?_putSorted k rest]
        by_cases h : k' = k
        · subst h
          simp [hk']
        · rw [beq_false_of_ne h]

/-- Inserting keeps the keys strictly increasing. -/
theorem pairwise_putSorted :
    ∀ {es : List (String × Extractor)}, es.Pairwise (fun a b => a.1 < b.1) →
      (putSorted key x es).Pairwise fun a b => a.1 < b.1
  | [], _ => List.pairwise_singleton _ _
  | (k, y) :: rest, h => by
    rw [List.pairwise_cons] at h
    unfold putSorted
    split
    · rename_i hlt
      refine List.Pairwise.cons (fun e he => ?_) (List.Pairwise.cons h.1 h.2)
      rcases List.mem_cons.1 he with rfl | he
      · exact hlt
      · exact lt_trans hlt (h.1 e he)
    · split
      · rename_i hk
        subst hk
        exact List.Pairwise.cons h.1 h.2
      · rename_i hge hne
        -- the new key goes after `k`, which is below every later key
        have hlt : k < key := lt_of_le_of_ne (not_lt.1 hge) (Ne.symm hne)
        refine List.Pairwise.cons (fun e he => ?_) (pairwise_putSorted h.2)
        rcases mem_putSorted key x he with rfl | he
        · exact hlt
        · exact h.1 e he

end PutSorted

/-! ## Registering a sequence -/

/-- The registry after registering each `(extension, extractor)` of `calls` in turn. -/
def registerAll (r : Registry) (calls : List (String × Extractor)) : Registry :=
  calls.foldl (fun r c => r.register c.1 c.2) r

/-- A lookup after a sequence of registrations finds the last one under the key, else
what the registry held before. -/
theorem find?_registerAll (k : String) :
    ∀ (r : Registry) (calls : List (String × Extractor)),
      ((registerAll r calls).entries.find? (·.1 == k)).map Prod.snd =
        ((calls.reverse.find? fun c => normalizeExtension c.1 == k).map Prod.snd).or
          ((r.entries.find? (·.1 == k)).map Prod.snd)
  | r, [] => by simp [registerAll]
  | r, c :: cs => by
    have ih := find?_registerAll k (r.register c.1 c.2) cs
    simp only [registerAll, List.foldl_cons] at ih ⊢
    rw [ih, register, find?_putSorted, List.reverse_cons, List.find?_append]
    by_cases h : normalizeExtension c.1 = k <;> simp [h]

theorem mem_extensions_iff (r : Registry) (k : String) :
    k ∈ r.extensions ↔ (r.entries.find? (·.1 == k)).isSome := by
  simp [extensions, List.find?_isSome]

/-- Keeping the keys strictly increasing is kept by every registration. -/
theorem pairwise_registerAll :
    ∀ {r : Registry} (calls : List (String × Extractor)),
      r.entries.Pairwise (fun a b => a.1 < b.1) →
      (registerAll r calls).entries.Pairwise fun a b => a.1 < b.1
  | _, [], h => h
  | r, c :: cs, h => pairwise_registerAll (r := r.register c.1 c.2) cs (pairwise_putSorted _ _ h)

variable (calls : List (String × Extractor))

/-- The extensions registered from the empty registry are the normalised extensions of the
calls. -/
theorem mem_extensions_registerAll (k : String) :
    k ∈ (registerAll empty calls).extensions ↔ ∃ c ∈ calls, normalizeExtension c.1 = k := by
  have hfind := find?_registerAll k empty calls
  rw [mem_extensions_iff, ← Option.isSome_map (f := Prod.snd), hfind]
  simp [empty, List.find?_isSome]

theorem extensions_registerAll_sorted : (registerAll empty calls).extensions.Pairwise (· < ·) := by
  rw [extensions, List.pairwise_map]
  exact pairwise_registerAll calls List.Pairwise.nil

/-- An entry of keys strictly increasing is the one a lookup of its key finds. -/
theorem find?_of_mem {k : String} {y : Extractor} :
    ∀ {es : List (String × Extractor)}, es.Pairwise (fun a b => a.1 < b.1) → (k, y) ∈ es →
      es.find? (·.1 == k) = some (k, y)
  | e :: rest, hs, hmem => by
    rw [List.pairwise_cons] at hs
    rcases List.mem_cons.1 hmem with rfl | hmem
    · simp
    · -- an earlier key is below `k`, so the lookup passes it
      have hne : e.1 ≠ k := ne_of_lt (hs.1 _ hmem)
      rw [List.find?_cons, beq_false_of_ne hne]
      exact find?_of_mem hs.2 hmem

/-- The description lists, for each extension in order, the name of the extractor looked
up for it, when the keys are strictly increasing and normalised. -/
theorem names_eq_filterMap (r : Registry) (hs : r.entries.Pairwise (fun a b => a.1 < b.1))
    (hn : ∀ e ∈ r.entries, normalizeExtension e.1 = e.1) :
    r.names = r.extensions.filterMap fun k => (r.get? k).map fun x => (k, x.name) := by
  have hget : ∀ e ∈ r.entries, r.get? e.1 = some e.2 := by
    intro e he
    rw [get?, hn e he, find?_of_mem hs he]
    rfl
  rw [names, extensions, List.filterMap_map]
  rw [List.filterMap_congr (g := fun e => some (e.1, e.2.name)) fun e he => by simp [hget e he]]
  rw [← List.filterMap_eq_map]
  rfl

theorem registerAll_size :
    (registerAll empty calls).size = (calls.map fun c => normalizeExtension c.1).toFinset.card := by
  have hnodup : (registerAll empty calls).extensions.Nodup :=
    (extensions_registerAll_sorted calls).imp ne_of_lt
  have hset : (registerAll empty calls).extensions.toFinset =
      (calls.map fun c => normalizeExtension c.1).toFinset := by
    ext k
    simp [mem_extensions_registerAll]
  rw [size, ← List.length_map Prod.fst, ← extensions, ← List.toFinset_card_of_nodup hnodup, hset]

theorem registerAll_isEmpty : (registerAll empty calls).isEmpty = true ↔ calls = [] := by
  constructor
  · intro h
    by_contra hne
    obtain ⟨c, hc⟩ := List.exists_mem_of_ne_nil calls hne
    have hk := (mem_extensions_registerAll calls _).2 ⟨c, hc, rfl⟩
    simp only [isEmpty, List.isEmpty_iff] at h
    simp [extensions, h] at hk
  · rintro rfl
    rfl

/-- Registrations from the empty registry: the last one of an extension wins, the
extensions are the distinct normalised ones in increasing order, counted by the size; the
registry is empty only when nothing was registered; the description lists each extension
with the name of its extractor, in order; normalising is idempotent, so a normalised
extension looks up the extractor of the one it came from. -/
theorem registerAll_last_wins (e : String) :
    (registerAll empty calls).get? e =
        (calls.reverse.find? fun c => normalizeExtension c.1 == normalizeExtension e).map Prod.snd ∧
      (registerAll empty calls).extensions.Pairwise (· < ·) ∧
      (∀ k, k ∈ (registerAll empty calls).extensions ↔ ∃ c ∈ calls, normalizeExtension c.1 = k) ∧
      (registerAll empty calls).size = (calls.map fun c => normalizeExtension c.1).toFinset.card ∧
      ((registerAll empty calls).isEmpty = true ↔ calls = []) ∧
      (registerAll empty calls).names = (registerAll empty calls).extensions.filterMap
        (fun k => ((registerAll empty calls).get? k).map fun x => (k, x.name)) ∧
      normalizeExtension (normalizeExtension e) = normalizeExtension e ∧
      (registerAll empty calls).get? (normalizeExtension e) = (registerAll empty calls).get? e := by
  refine ⟨?_, extensions_registerAll_sorted calls, mem_extensions_registerAll calls,
    registerAll_size calls, registerAll_isEmpty calls, ?_, normalizeExtension_normalizeExtension e,
    get?_normalizeExtension _ e⟩
  · rw [get?, find?_registerAll]
    simp [empty]
  · refine names_eq_filterMap _ (pairwise_registerAll calls List.Pairwise.nil) fun c hc => ?_
    -- every key is the normalised form of a registered extension
    obtain ⟨c', -, hc'⟩ := (mem_extensions_registerAll calls c.1).1 (List.mem_map_of_mem hc)
    rw [← hc', normalizeExtension_normalizeExtension]

end Registry

end CodeNotes.Extract
