import CodeNotes.Proofs.Reconcile.Lagging
set_option autoImplicit false

/-!
# A pass over the note tables never fails

Normative source: SPEC_FULL.md §4.6 (Reconciler) and §11.3 (Reconciler additions):
after a pass the scoped key set of the stored notes is exactly the key set of the
discovered comments, the first of two comments with one key wins, a comment whose text
and kind are unchanged issues no write, and the report counts what the pass created,
updated and left and lists what it pruned.

A pass reads and writes its store through the store's operations alone.  So a map of
stores under which each operation is the same operation (`StoreMap`) carries whole
passes (`reconcile_storeMap`).  The note tables are the lagging store that hides
nothing, and the run lemma of the lagging pass gives the tables' pass too:
`reconcile_tables_ok`, a pass over tables that represent a map never fails when the
supply's identities are new to the store.

Main statement: `reconcile_postcondition`, a pass over the note tables that succeeds
leaves tables that represent a map `Reconciled` from the map before.  The run after it
is on a populated store, where a note is kept, one is rewritten, one is pruned and one
is out of scope, and one key is found twice.
-/

namespace CodeNotes.Reconcile

open CodeNotes.Store Time Database

/-! ## Passes along a map of stores -/

/-- A fold of steps that commute with `f` commutes with `f`. -/
theorem foldlM_map_of_comm {α β γ ε : Type} {f : α → β} {g : α → γ → Except ε α}
    {g' : β → γ → Except ε β} (h : ∀ a c, g' (f a) c = (g a c).map f) :
    ∀ (cs : List γ) (a : α), cs.foldlM g' (f a) = (cs.foldlM g a).map f
  | [], _ => rfl
  | c :: cs, a => by
    rw [List.foldlM_cons, List.foldlM_cons, h]
    cases g a c with
    | error e => rfl
    | ok a' => exact foldlM_map_of_comm h cs a'

section StoreMap

variable {σ τ : Type} [NoteStore σ] [NoteStore τ]

/-- A map of stores under which each operation of a pass is the same operation: the
listings are the same, and a write on the image is the image of the write. -/
structure StoreMap (f : σ → τ) : Prop where
  listAll : ∀ s, NoteStore.listAll (f s) = NoteStore.listAll s
  listFile : ∀ s path, NoteStore.listFile (f s) path = NoteStore.listFile s path
  create : ∀ s n, NoteStore.create (f s) n = (NoteStore.create s n).map f
  update : ∀ s l d now, NoteStore.update (f s) l d now = (NoteStore.update s l d now).map f
  delete : ∀ s l, NoteStore.delete (f s) l = (NoteStore.delete s l).map f

/-- The same pass over the image of its store. -/
def Pass.mapStore (f : σ → τ) (p : Pass σ) : Pass τ :=
  ⟨f p.store, p.supply, p.existing, p.report, p.log⟩

variable {f : σ → τ}

/-- A visit on the image is the image of the visit: the cases are those of `visit`,
and each write goes through `f`. -/
theorem visit_storeMap (hf : StoreMap f) (p : Pass σ) (e : String × Comment) :
    visit (p.mapStore f) e = (visit p e).map (Pass.mapStore f) := by
  obtain ⟨key, c⟩ := e
  cases hfind : p.existing.find? (·.1 == key) with
  | some x =>
    by_cases hsame : (x.2.text == c.text && x.2.kind == c.kind) = true
    · simp only [visit, Pass.mapStore, hfind, hsame, if_true]
      rfl
    · simp only [visit, Pass.mapStore, hfind, hsame, hf.update]
      cases NoteStore.update p.store c.location (Draft.ofComment c) p.supply.now.1 <;> rfl
  | none =>
    simp only [visit, Pass.mapStore, hfind, hf.create]
    cases NoteStore.create p.store ((Draft.ofComment c).toNote p.supply.fresh.1.1
      p.supply.fresh.1.2) with
    | ok s => rfl
    | error e => cases e <;> rfl

theorem prune_storeMap (hf : StoreMap f) (p : Pass σ) (e : String × Note) :
    prune (p.mapStore f) e = (prune p e).map (Pass.mapStore f) := by
  simp only [prune, Pass.mapStore, hf.delete]
  cases NoteStore.delete p.store e.2.location <;> rfl

/-- A pass over the image of a store is the image of the pass. -/
theorem reconcile_storeMap (hf : StoreMap f) (s : σ) (supply : Supply) (found : List Comment)
    (scope : Option String) :
    reconcile (f s) supply found scope =
      (reconcile s supply found scope).map fun x => (x.1, x.2.1, f x.2.2.1, x.2.2.2) := by
  -- after the listing, the visits and then the prunes, each a fold of steps that commute
  -- with `f`
  have hrest : ∀ listed : List Note,
      ((wanted found scope).foldlM visit (Pass.mapStore f ⟨s, supply, byKey listed, {}, []⟩) >>=
        fun p => (sortByKey p.existing).foldlM prune { p with existing := [] } >>= fun p =>
          pure (p.report, p.log ++ [summary (wanted found scope).length p.report], p.store,
            p.supply)) =
      ((wanted found scope).foldlM visit ⟨s, supply, byKey listed, {}, []⟩ >>= fun p =>
        (sortByKey p.existing).foldlM prune { p with existing := [] } >>= fun p =>
          pure (p.report, p.log ++ [summary (wanted found scope).length p.report], p.store,
            p.supply)).map fun x => (x.1, x.2.1, f x.2.2.1, x.2.2.2) := by
    intro listed
    rw [foldlM_map_of_comm (visit_storeMap hf)]
    cases (wanted found scope).foldlM visit ⟨s, supply, byKey listed, {}, []⟩ with
    | error e => rfl
    | ok p =>
      change (sortByKey p.existing).foldlM prune (Pass.mapStore f { p with existing := [] }) >>= _ =
        Except.map _ ((sortByKey p.existing).foldlM prune { p with existing := [] } >>= _)
      rw [foldlM_map_of_comm (prune_storeMap hf)]
      cases (sortByKey p.existing).foldlM prune { p with existing := [] } <;> rfl
  cases scope with
  | some path =>
    simp only [reconcile, hf.listFile]
    cases NoteStore.listFile s path with
    | error e => rfl
    | ok listed => exact hrest listed
  | none =>
    simp only [reconcile, hf.listAll]
    cases NoteStore.listAll s with
    | error e => rfl
    | ok listed => exact hrest listed

end StoreMap

/-! ## The tables never fail a pass -/

/-- The tables are the lagging store that hides nothing. -/
theorem storeMap_nothingHidden : StoreMap fun db : Database => (⟨db, []⟩ : Lagging) := by
  -- a store that hides nothing lists what its tables list; its writes are theirs
  have hlists : ∀ (db : Database) (listed : Except StoreError (List Note)),
      listed.map (Lagging.visible ⟨db, []⟩) = listed := by
    intro db listed
    cases listed with
    | error e => rfl
    | ok ns => simp [Lagging.visible]
  exact ⟨fun db => hlists db db.listAll, fun db path => hlists db (db.listFile path),
    fun _ _ => rfl, fun _ _ _ _ => rfl, fun _ _ => rfl⟩

/-- A pass over tables that represent `m` never fails: the comments' lines fit 32 bits,
the supply has a canonical identity and a reading in the years 0 to 9999 for each
comment, and those identities are new to the store and distinct, and every note has room
for a revision. -/
theorem reconcile_tables_ok {db : Database} {m : NoteMap} (h : Represents db m)
    {supply : Supply} {found : List Comment} {scope : Option String}
    (hlines : ∀ c ∈ found, c.line ≤ 4294967295) (hids : CanonicalIds supply found.length)
    (hread : StoredReadings supply found.length)
    (hroom : ∀ n ∈ m.notes, n.updatedAt + nanosPerMicro < endStored)
    (hfresh : FreshIds supply found.length m) :
    ∃ r log db' s', reconcile db supply found scope = .ok (r, log, db', s') := by
  obtain ⟨p, -, hrun, -, -⟩ := reconcile_lagging_shadows h [] hlines hids hread hroom hfresh
  rw [reconcile_storeMap storeMap_nothingHidden db supply found scope] at hrun
  cases hpass : reconcile db supply found scope with
  | error e =>
    rw [hpass] at hrun
    cases hrun
  | ok x => exact ⟨x.1, x.2.1, x.2.2.1, x.2.2.2, rfl⟩

/-! ## What a pass over the tables leaves -/

/-- A pass over the note tables that succeeds meets the postcondition: the tables it
leaves represent a map that is `Reconciled` from the map the tables represented before.
The comments' lines fit 32 bits, the supply has a canonical identity and a reading in the
years 0 to 9999 for each comment, and every note has room for a revision. -/
theorem reconcile_postcondition {db : Database} {m : NoteMap} (h : Represents db m)
    {supply : Supply} {found : List Comment} {scope : Option String}
    (hlines : ∀ c ∈ found, c.line ≤ 4294967295) (hids : CanonicalIds supply found.length)
    (hread : StoredReadings supply found.length)
    (hroom : ∀ n ∈ m.notes, n.updatedAt + nanosPerMicro < endStored)
    {r : Report} {log : List LogLine} {db' : Database} {s' : Supply}
    (hok : reconcile db supply found scope = .ok (r, log, db', s')) :
    ∃ m', Represents db' m' ∧ Reconciled m found scope m' r := by
  obtain ⟨m', hrep, hs, rfl⟩ := reconcile_tables_sweeps h hlines hids hread hroom hok
  exact ⟨m', hrep, reconciled_of_swept hs⟩

/-- Notes of `src/a.rs` at lines 2, 5 and 9, and of `src/b.rs` at line 1. -/
def storedBefore : List Note :=
  [⟨idOfSerial 10, "src/a.rs", 2, .note, none, none, 0, 0, "keep me"⟩,
   ⟨idOfSerial 11, "src/a.rs", 5, .todo, none, none, 0, 0, "old text"⟩,
   ⟨idOfSerial 12, "src/a.rs", 9, .todo, none, none, 0, 0, "gone"⟩,
   ⟨idOfSerial 13, "src/b.rs", 1, .note, none, none, 0, 0, "elsewhere"⟩]

/-- The map of the notes `storedBefore`. -/
def storedMap : NoteMap := ⟨storedBefore, by decide⟩

/-- A rescan: line 2 of `src/a.rs` as stored, line 5 with new text, line 7 new and found
twice, and a comment of `src/b.rs`. -/
def rescan : List Comment :=
  [⟨"src/a.rs", "keep me", 2, .note, false⟩,
   ⟨"src/a.rs", "new text", 5, .todo, false⟩,
   ⟨"src/a.rs", "brand new", 7, .todo, false⟩,
   ⟨"src/a.rs", "second copy", 7, .note, false⟩,
   ⟨"src/b.rs", "ignored", 1, .todo, false⟩]

/-- Rescanning `src/a.rs` into the tables of `storedBefore` succeeds and meets the
postcondition: line 7 is created from its first comment, line 5 rewritten, line 2 left
as it was and line 9 pruned, while `src/b.rs` is out of scope. -/
theorem reconcile_postcondition_rescan :
    ∃ r log db' s', reconcile (tablesOf storedBefore) (Supply.start 0) rescan (some "src/a.rs") =
        .ok (r, log, db', s') ∧
      ∃ m', Represents db' m' ∧ Reconciled storedMap rescan (some "src/a.rs") m' r ∧
        r.created = 1 ∧ r.updated = 1 ∧ r.unchanged = 1 ∧ r.pruned = ["src/a.rs:9"] := by
  have hfit : ∀ n ∈ storedBefore, Fit n := by
    intro n hn
    simp only [storedBefore, List.mem_cons, List.not_mem_nil, or_false] at hn
    rcases hn with rfl | rfl | rfl | rfl <;>
      exact ⟨by decide, readId_idOfSerial _, stored_zero, stored_zero⟩
  have hrep : Represents (tablesOf storedBefore) storedMap :=
    ⟨storedBefore, rfl, ⟨hfit, by decide⟩, List.Perm.refl _⟩
  have hlines : ∀ c ∈ rescan, c.line ≤ 4294967295 := by decide
  have hread : StoredReadings (Supply.start 0) rescan.length :=
    storedReadings_epoch (by decide)
  have hroom : ∀ n ∈ storedMap.notes, n.updatedAt + nanosPerMicro < endStored := by
    intro n hn
    have hzero : n.updatedAt = 0 := (by decide : ∀ n ∈ storedBefore, n.updatedAt = 0) n hn
    rw [hzero, endStored_eq]
    decide
  -- the five identities the command hands out are new to the store and distinct
  have hfresh : FreshIds (Supply.start 0) rescan.length storedMap := by
    have hunused : ∀ j ∈ List.range' 1 5, ∀ n ∈ storedBefore, n.id ≠ idOfSerial j := by decide
    have hdistinct : ∀ i ∈ List.range' 1 5, ∀ j ∈ List.range' 1 5, i < j →
        idOfSerial i ≠ idOfSerial j := by decide
    refine ⟨fun j hj hjk n hn => hunused j (List.mem_range'_1.2 ⟨hj, hjk⟩) n hn,
      fun i j hi hij hjk => hdistinct i (List.mem_range'_1.2 ⟨hi, ?_⟩) j
        (List.mem_range'_1.2 ⟨?_, hjk⟩) hij⟩
    · exact lt_trans hij hjk
    · exact le_trans hi (le_of_lt hij)
  obtain ⟨r, log, db', s', hok⟩ := reconcile_tables_ok hrep hlines (canonicalIds_start 0 _) hread
    hroom hfresh
  obtain ⟨m', hrep', hrec⟩ :=
    reconcile_postcondition hrep hlines (canonicalIds_start 0 _) hread hroom hok
  -- the counts the postcondition gives, on these keys
  have hstale : storedKeys storedMap (some "src/a.rs") \ wantedKeys rescan (some "src/a.rs") =
      {"src/a.rs:9"} := by decide
  refine ⟨r, log, db', s', hok, m', hrep', hrec, ?_, ?_, ?_, ?_⟩
  · rw [hrec.created]
    decide
  · rw [hrec.updated]
    decide
  · rw [hrec.unchanged]
    decide
  · rw [hrec.pruned, hstale, Finset.sort_singleton]

end CodeNotes.Reconcile
