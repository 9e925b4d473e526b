import CodeNotes.Proofs.Reconcile.Tables
import Mathlib.Data.Finset.Sort
set_option autoImplicit false

/-!
# What a reconciliation leaves

The postcondition of a pass (`Reconciled`), stated on the notes before and after it:

* the keys stored in scope are the keys of the discovered comments in scope;
* each note in scope carries the text and kind of the first discovered comment of its
  key;
* the notes out of scope are untouched;
* a note whose key stays keeps its identity and creation time, and its update time
  moves exactly when its text or kind changed;
* the report counts the wanted keys that were new, that changed and that matched, and
  lists the pruned keys in order.

`reconciled_of_swept` reads it off the sweep of `reconcile_noteMap`; the pass over the
note tables meets it too, by `reconcile_tables_sweeps`.
-/

namespace CodeNotes.Reconcile

open CodeNotes.Store Time Database

/-! ## Keys before and after -/

/-- The keys of the discovered comments in scope. -/
def wantedKeys (found : List Comment) (scope : Option String) : Finset String :=
  ((found.filter fun c => inScope scope c.filepath).map Comment.key).toFinset

/-- The keys of the notes in scope. -/
def storedKeys (m : NoteMap) (scope : Option String) : Finset String :=
  ((listing m scope).map Note.key).toFinset

/-- The first discovered comment with a key. -/
def firstComment (found : List Comment) (k : String) : Option Comment :=
  found.find? (·.key == k)

/-- Whether the note at a key already carries the text and kind of the key's first
comment. -/
def matchesFirst (m : NoteMap) (found : List Comment) (k : String) : Bool :=
  match m.notes.find? (·.key == k), firstComment found k with
  | some n, some c => n.text == c.text && n.kind == c.kind
  | _, _ => false

/-- The postcondition of a pass over `m` with the comments `found` in `scope` that left
`m'` and reported `r`. -/
structure Reconciled (m : NoteMap) (found : List Comment) (scope : Option String)
    (m' : NoteMap) (r : Report) : Prop where
  keys : storedKeys m' scope = wantedKeys found scope
  first : ∀ n ∈ m'.notes, inScope scope n.filepath = true →
    ∃ c, firstComment found n.key = some c ∧ n.text = c.text ∧ n.kind = c.kind
  outside : ∀ n : Note, inScope scope n.filepath = false → (n ∈ m'.notes ↔ n ∈ m.notes)
  kept : ∀ n ∈ m.notes, ∀ n' ∈ m'.notes, n'.key = n.key →
    n'.id = n.id ∧ n'.createdAt = n.createdAt ∧
      (n'.updatedAt = n.updatedAt ↔ n.text = n'.text ∧ n.kind = n'.kind)
  created : r.created = (wantedKeys found scope \ storedKeys m scope).card
  updated : r.updated = ((wantedKeys found scope ∩ storedKeys m scope).filter
    fun k => matchesFirst m found k = false).card
  unchanged : r.unchanged = ((wantedKeys found scope ∩ storedKeys m scope).filter
    fun k => matchesFirst m found k = true).card
  pruned : r.pruned = (storedKeys m scope \ wantedKeys found scope).sort

section Keys

variable {found : List Comment} {scope : Option String}

theorem mem_wantedKeys {k : String} :
    k ∈ wantedKeys found scope ↔ k ∈ (wanted found scope).map Prod.fst := by
  simp only [wantedKeys, List.mem_toFinset, List.mem_map, List.mem_filter]
  constructor
  · rintro ⟨c, ⟨hc, hs⟩, rfl⟩
    -- the first comment in scope with `c`'s key is wanted
    obtain ⟨c', hc'⟩ : ∃ c', (found.filter fun c => inScope scope c.filepath).find?
        (·.key == c.key) = some c' :=
      Option.isSome_iff_exists.1 (List.find?_isSome.2 ⟨c, List.mem_filter.2 ⟨hc, hs⟩, by simp⟩)
    exact ⟨(c.key, c'), (mem_wanted found scope _).2 hc', rfl⟩
  · rintro ⟨e, he, rfl⟩
    have hfind := (mem_wanted found scope e).1 he
    obtain ⟨hkey, hs⟩ := key_of_mem_wanted he
    exact ⟨e.2, ⟨(List.mem_filter.1 (List.mem_of_find?_eq_some hfind)).1, hs⟩, hkey⟩

/-- There are as many wanted keys as wanted entries. -/
theorem card_wantedKeys : (wantedKeys found scope).card = (wanted found scope).length := by
  have hset : wantedKeys found scope = ((wanted found scope).map Prod.fst).toFinset := by
    ext k
    rw [mem_wantedKeys, List.mem_toFinset]
  rw [hset, List.toFinset_card_of_nodup (nodup_keys_wanted found scope), List.length_map]

theorem mem_storedKeys {m : NoteMap} {k : String} :
    k ∈ storedKeys m scope ↔ ∃ n ∈ m.notes, inScope scope n.filepath = true ∧ n.key = k := by
  simp [storedKeys, listing, and_assoc]

/-- Looking a note up by key is looking it up by location. -/
theorem find?_key_eq (m : NoteMap) (c : Comment) :
    m.notes.find? (·.key == c.key) = m.find? c.location := by
  have hbeq : ∀ n : Note, (n.key == c.key) = (n.location == c.location) := fun n => by
    rw [Bool.eq_iff_iff, beq_iff_eq, beq_iff_eq]
    exact Location.key_eq_iff
  unfold NoteMap.find?
  congr 1
  funext n
  exact hbeq n

/-- The wanted comment of a key is its first discovered comment: every comment of the
key stands in the same file, in scope. -/
theorem firstComment_of_mem_wanted {e : String × Comment} (he : e ∈ wanted found scope) :
    firstComment found e.1 = some e.2 := by
  have hfind := (mem_wanted found scope e).1 he
  obtain ⟨hkey, hs⟩ := key_of_mem_wanted he
  rw [List.find?_filter] at hfind
  rw [firstComment, ← hfind]
  congr 1
  funext c
  by_cases hc : c.key = e.1
  · have hloc : c.location = e.2.location :=
      Location.key_injective (by rw [Comment.key_location, Comment.key_location, hc, hkey])
    have hpath : c.filepath = e.2.filepath := congrArg Location.filepath hloc
    simp [hc, hpath, hs]
  · simp [hc]

theorem matchesFirst_of_mem_wanted (m : NoteMap) {e : String × Comment}
    (he : e ∈ wanted found scope) :
    matchesFirst m found e.1 = (outcome m e.2 == .unchanged) := by
  rw [matchesFirst, firstComment_of_mem_wanted he, ← (key_of_mem_wanted he).1, find?_key_eq]
  unfold outcome
  cases m.find? e.2.location with
  | none => rfl
  | some n =>
    by_cases h : (n.text == e.2.text && n.kind == e.2.kind) = true
    · simp [h]
    · simp [h]

theorem mem_storedKeys_of_mem_wanted (m : NoteMap) {e : String × Comment}
    (he : e ∈ wanted found scope) :
    e.1 ∈ storedKeys m scope ↔ ∃ n, m.find? e.2.location = some n := by
  rw [mem_storedKeys]
  obtain ⟨hkey, hs⟩ := key_of_mem_wanted he
  constructor
  · rintro ⟨n, hn, -, hnk⟩
    refine ⟨n, (m.find?_eq_some_iff).2 ⟨hn, Location.key_injective ?_⟩⟩
    rw [Note.key_location, Comment.key_location, hnk, hkey]
  · rintro ⟨n, hfind⟩
    obtain ⟨hn, hloc⟩ := (m.find?_eq_some_iff).1 hfind
    refine ⟨n, hn, ?_, ?_⟩
    · rw [show n.filepath = e.2.filepath from congrArg Location.filepath hloc]
      exact hs
    · exact key_eq_of_mem_wanted he hloc

/-- Counting wanted entries is counting wanted keys: the keys are distinct. -/
theorem countP_wanted {P : String × Comment → Bool} {Q : String → Prop} [DecidablePred Q]
    (h : ∀ e ∈ wanted found scope, P e = true ↔ Q e.1) :
    (wanted found scope).countP P = ((wantedKeys found scope).filter Q).card := by
  have hnodup : (((wanted found scope).filter P).map Prod.fst).Nodup :=
    (List.filter_sublist.map _).nodup (nodup_keys_wanted found scope)
  have hlen : ((wanted found scope).filter P).length =
      (((wanted found scope).filter P).map Prod.fst).length := by simp
  rw [List.countP_eq_length_filter, hlen, ← List.toFinset_card_of_nodup hnodup]
  congr 1
  ext k
  simp only [List.mem_toFinset, List.mem_map, List.mem_filter, Finset.mem_filter, mem_wantedKeys]
  constructor
  · rintro ⟨e, ⟨he, hp⟩, rfl⟩
    exact ⟨⟨e, he, rfl⟩, (h e he).1 hp⟩
  · rintro ⟨⟨e, he, rfl⟩, hq⟩
    exact ⟨e, ⟨he, (h e he).2 hq⟩, rfl⟩

/-- The outcome at a wanted key, told by the keys stored before the pass and by whether
the stored note matches the key's first comment. -/
theorem outcome_iff (m : NoteMap) {e : String × Comment} (he : e ∈ wanted found scope) :
    (outcome m e.2 = .created ↔ e.1 ∉ storedKeys m scope) ∧
    (outcome m e.2 = .updated ↔ e.1 ∈ storedKeys m scope ∧ matchesFirst m found e.1 = false) ∧
    (outcome m e.2 = .unchanged ↔
      e.1 ∈ storedKeys m scope ∧ matchesFirst m found e.1 = true) := by
  rw [mem_storedKeys_of_mem_wanted m he, matchesFirst_of_mem_wanted m he]
  unfold outcome
  cases m.find? e.2.location with
  | none => simp
  | some n => by_cases h : (n.text == e.2.text && n.kind == e.2.kind) = true <;> simp [h]

theorem filter_inter_storedKeys (m : NoteMap) (q : String → Prop) [DecidablePred q] :
    (wantedKeys found scope ∩ storedKeys m scope).filter q =
      (wantedKeys found scope).filter fun k => k ∈ storedKeys m scope ∧ q k := by
  ext k
  simp [and_assoc]

/-- The pruned keys are the stored keys in scope that no comment wants, in order. -/
theorem pruned_eq_sort (m : NoteMap) :
    (sortByKey (unvisited m scope (wanted found scope))).map Prod.fst =
      (storedKeys m scope \ wantedKeys found scope).sort := by
  have hperm := List.mergeSort_perm (unvisited m scope (wanted found scope))
    (fun a b => decide (a.1 ≤ b.1))
  have hsorted : ((sortByKey (unvisited m scope (wanted found scope))).map Prod.fst).Pairwise
      (· ≤ ·) := by
    refine List.pairwise_map.2 ((List.pairwise_mergeSort ?_ ?_ _).imp fun h => by simpa using h)
    · intro a b c hab hbc
      simpa using le_trans (by simpa using hab) (by simpa using hbc)
    · intro a b
      simpa using le_total a.1 b.1
  apply List.Perm.eq_of_sortedLE hsorted.sortedLE (Finset.pairwise_sort _ _).sortedLE
  refine (List.perm_ext_iff_of_nodup ?_ (Finset.sort_nodup _ _)).2 fun k => ?_
  · exact (hperm.map Prod.fst).nodup_iff.2 (nodup_keys_unvisited _)
  rw [Finset.mem_sort, Finset.mem_sdiff, mem_storedKeys, mem_wantedKeys, List.mem_map]
  simp only [sortByKey, List.mem_mergeSort, mem_unvisited]
  constructor
  · rintro ⟨x, ⟨hx, hs, hk, hw⟩, rfl⟩
    exact ⟨⟨x.2, hx, hs, hk.symm⟩, hw⟩
  · rintro ⟨⟨n, hn, hs, rfl⟩, hw⟩
    exact ⟨(n.key, n), ⟨hn, hs, rfl, hw⟩, rfl⟩

end Keys

/-! ## The postcondition -/

section Sweep

variable {m m' : NoteMap} {found : List Comment} {scope : Option String}

/-- A note in scope after the sweep stands at the location of a wanted comment. -/
theorem Swept.wanted_of_mem (hs : Swept m m' found scope) {n : Note} (hn : n ∈ m'.notes)
    (hin : inScope scope n.filepath = true) :
    ∃ e ∈ wanted found scope, e.2.location = n.location := by
  by_cases hk : n.location.key ∈ (wanted found scope).map Prod.fst
  · obtain ⟨e, he, hek⟩ := List.mem_map.1 hk
    refine ⟨e, he, Location.key_injective ?_⟩
    rw [Comment.key_location, (key_of_mem_wanted he).1, hek]
  · have hnone := hs.cleared n.location hin hk
    rw [(m'.find?_eq_some_iff).2 ⟨hn, rfl⟩] at hnone
    cases hnone

/-- The note the sweep leaves at a wanted location. -/
theorem Swept.settled_note (hs : Swept m m' found scope) {e : String × Comment}
    (he : e ∈ wanted found scope) {n' : Note} (hn' : n' ∈ m'.notes)
    (hloc : n'.location = e.2.location) :
    n'.text = e.2.text ∧ n'.kind = e.2.kind ∧
      ∀ n, m.find? e.2.location = some n → n'.id = n.id ∧ n'.createdAt = n.createdAt ∧
        (n'.updatedAt = n.updatedAt ↔ n.text = e.2.text ∧ n.kind = e.2.kind) := by
  obtain ⟨n'', hf, htext, hkind, hkeep⟩ := hs.settled e he
  have hsame : n'' = n' :=
    Option.some.inj (hf.symm.trans ((m'.find?_eq_some_iff).2 ⟨hn', hloc⟩))
  subst hsame
  exact ⟨htext, hkind, hkeep⟩

/-- The sweep of a pass, with its report, meets the postcondition. -/
theorem reconciled_of_swept (hs : Swept m m' found scope) :
    Reconciled m found scope m'
      { tally m (wanted found scope) with
        pruned := (sortByKey (unvisited m scope (wanted found scope))).map Prod.fst } where
  keys := by
    ext k
    rw [mem_storedKeys, mem_wantedKeys]
    constructor
    · rintro ⟨n, hn, hin, rfl⟩
      obtain ⟨e, he, hloc⟩ := hs.wanted_of_mem hn hin
      refine List.mem_map.2 ⟨e, he, ?_⟩
      exact (key_eq_of_mem_wanted he hloc.symm).symm
    · rintro hk
      obtain ⟨e, he, rfl⟩ := List.mem_map.1 hk
      obtain ⟨n', hf, -⟩ := hs.settled e he
      obtain ⟨hn', hloc⟩ := (m'.find?_eq_some_iff).1 hf
      refine ⟨n', hn', ?_, ?_⟩
      · rw [show n'.filepath = e.2.filepath from congrArg Location.filepath hloc]
        exact (key_of_mem_wanted he).2
      · exact key_eq_of_mem_wanted he hloc
  first n hn hin := by
    obtain ⟨e, he, hloc⟩ := hs.wanted_of_mem hn hin
    obtain ⟨htext, hkind, -⟩ := hs.settled_note he hn hloc.symm
    have hkey : n.key = e.1 := key_eq_of_mem_wanted he hloc.symm
    exact ⟨e.2, hkey ▸ firstComment_of_mem_wanted he, htext, hkind⟩
  outside n hout := by
    rw [← (m'.find?_eq_some_iff).trans (and_iff_left rfl),
      ← (m.find?_eq_some_iff).trans (and_iff_left rfl), hs.outside n.location hout]
  kept n hn n' hn' hkey := by
    have hloc : n'.location = n.location := Location.key_injective hkey
    have hpath : n'.filepath = n.filepath := congrArg Location.filepath hloc
    cases hin : inScope scope n.filepath with
    | true =>
      -- a location in scope is settled by its wanted comment
      obtain ⟨e, he, heloc⟩ := hs.wanted_of_mem hn' (hpath ▸ hin)
      obtain ⟨htext, hkind, hkeep⟩ := hs.settled_note he hn' heloc.symm
      obtain ⟨hid, hcreated, hupdated⟩ :=
        hkeep n ((m.find?_eq_some_iff).2 ⟨hn, hloc.symm.trans heloc.symm⟩)
      exact ⟨hid, hcreated, by rw [hupdated, htext, hkind]⟩
    | false =>
      -- a location out of scope keeps its note
      have hf := hs.outside n.location hin
      rw [(m.find?_eq_some_iff).2 ⟨hn, rfl⟩, ← hloc, (m'.find?_eq_some_iff).2 ⟨hn', rfl⟩] at hf
      cases hf
      exact ⟨rfl, rfl, iff_of_true rfl ⟨rfl, rfl⟩⟩
  created := by
    rw [Finset.sdiff_eq_filter]
    exact countP_wanted fun e he => by simpa using (outcome_iff m he).1
  updated := by
    rw [filter_inter_storedKeys]
    exact countP_wanted fun e he => by simpa using (outcome_iff m he).2.1
  unchanged := by
    rw [filter_inter_storedKeys]
    exact countP_wanted fun e he => by simpa using (outcome_iff m he).2.2
  pruned := pruned_eq_sort m

end Sweep

/-- Over the note map, every pass succeeds and meets the postcondition. -/
theorem reconcile_noteMap_reconciled (m : NoteMap) (supply : Supply) (found : List Comment)
    (scope : Option String) :
    ∃ r log m' s', reconcile m supply found scope = .ok (r, log, m', s') ∧
      Reconciled m found scope m' r := by
  obtain ⟨m', log, hrun, hs⟩ := reconcile_noteMap m supply found scope
  exact ⟨_, log, m', _, hrun, reconciled_of_swept hs⟩

end CodeNotes.Reconcile
