import CodeNotes.Proofs.Store.Rows
set_option autoImplicit false

/-!
# The note tables refine the note map

The tables `db` represent a map `m` (`Represents`) when they are the tables of a list
of notes that fit them, under distinct identities, and that list holds exactly the
map's notes.  Each operation keeps the representation and answers as the map does
(`serve_refines`), provided the request fits the map it meets (`Request.Fits`): a
create brings a fresh identity in canonical form, 32-bit lines and times of the years
0 to 9999, and an update's new update time stays in those years.

Main statement: `tables_refine_noteMap`, from the empty tables, any sequence of
requests that fit gets the same answers from the tables as from the map, and the tables
at the end represent the map at the end.
-/

namespace CodeNotes.Store

open Time Database

/-- The tables hold, in some order, exactly the notes of the map, each of which fits
the tables, under distinct identities. -/
def Represents (db : Database) (m : NoteMap) : Prop :=
  ∃ ns, db = tablesOf ns ∧ Rows ns ∧ ns.Perm m.notes

theorem represents_empty : Represents Database.empty NoteMap.empty :=
  ⟨[], rfl, ⟨fun _ h => absurd h List.not_mem_nil, List.nodup_nil⟩, List.Perm.refl _⟩

/-- What a write on the tables does next to the same write on the map: both fail with
the same error, or both succeed and the tables represent the map. -/
def Simulates (c : Except StoreError Database) (a : Except StoreError NoteMap) : Prop :=
  match c, a with
  | .ok db, .ok m => Represents db m
  | .error e, .error e' => e = e'
  | _, _ => False

/-- What a create needs of its note: a 32-bit line, an identity in canonical form that
no note of the map has, and times of the years 0 to 9999. -/
structure NewNote (m : NoteMap) (n : Note) : Prop where
  line : n.line ≤ 4294967295
  id : readId n.id = .ok n.id
  fresh : ∀ x ∈ m.notes, x.id ≠ n.id
  createdAt : Storable n.createdAt
  updatedAt : Storable n.updatedAt

/-- What an update needs: a 32-bit line, and a next update time of the years 0 to
9999. -/
structure Revision (m : NoteMap) (l : Location) (d : Draft) (now : Instant) : Prop where
  line : d.line ≤ 4294967295
  time : ∀ old, m.find? l = some old → Storable (nextUpdate old.updatedAt now)

/-! ## Lists that hold the map's notes -/

section Perm

variable {ns : List Note} {m : NoteMap}

theorem nodup_locations_of_perm (hperm : ns.Perm m.notes) : (ns.map (·.location)).Nodup :=
  (hperm.map _).nodup_iff.2 m.nodup_locations

theorem find?_of_perm (hperm : ns.Perm m.notes) (l : Location) :
    ns.find? (·.location == l) = m.find? l := by
  cases hf : m.find? l with
  | none =>
    rw [NoteMap.find?_eq_none_iff] at hf
    rw [List.find?_eq_none]
    intro x hx
    simpa using hf x (hperm.mem_iff.1 hx)
  | some n =>
    obtain ⟨hn, rfl⟩ := (NoteMap.find?_eq_some_iff m).1 hf
    exact find?_key_eq_some Note.location (nodup_locations_of_perm hperm) (hperm.mem_iff.2 hn)

theorem any_location_of_perm (hperm : ns.Perm m.notes) (l : Location) :
    ns.any (·.location == l) = (m.find? l).isSome := by
  rw [← find?_of_perm hperm, Bool.eq_iff_iff]
  simp [List.find?_isSome, List.any_eq_true]

/-- In a list of distinct identities and locations, two members share an identity
exactly when they share a location. -/
theorem id_eq_iff_location_eq (hrows : Rows ns) (hperm : ns.Perm m.notes) {x y : Note}
    (hx : x ∈ ns) (hy : y ∈ ns) : x.id = y.id ↔ x.location = y.location := by
  constructor
  · intro h
    rw [List.inj_on_of_nodup_map hrows.ids hx hy h]
  · intro h
    rw [List.inj_on_of_nodup_map (nodup_locations_of_perm hperm) hx hy h]

end Perm

/-! ## One write at a time -/

section Writes

variable {db : Database} {m : NoteMap}

theorem fit_truncate {n : Note} (hn : NewNote m n) : Fit n.truncate :=
  ⟨hn.line, hn.id, stored_truncateMicros hn.createdAt, stored_truncateMicros hn.updatedAt⟩

/-- A create on the tables is a create on the map. -/
theorem create_simulates (h : Represents db m) {n : Note} (hn : NewNote m n) :
    Simulates (db.create n) (m.create n) := by
  obtain ⟨ns, rfl, hrows, hperm⟩ := h
  have hfresh : ∀ x ∈ ns, x.id ≠ n.id := fun x hx => hn.fresh x (hperm.mem_iff.1 hx)
  rw [create_tablesOf hfresh, any_location_of_perm hperm, NoteMap.create]
  split
  · rfl
  · rename_i hfree
    have hnone : m.find? n.location = none := by simpa using hfree
    refine ⟨ns ++ [n.truncate], rfl, ⟨?_, ?_⟩, ?_⟩
    · intro x hx
      rcases List.mem_append.1 hx with hx | hx
      · exact hrows.fit x hx
      · rw [List.mem_singleton.1 hx]
        exact fit_truncate hn
    · rw [List.map_append, List.nodup_append]
      refine ⟨hrows.ids, by simp, ?_⟩
      intro a ha b hb
      obtain ⟨x, hx, rfl⟩ := List.mem_map.1 ha
      rw [List.mem_singleton.1 hb]
      exact hfresh x hx
    · -- the new note goes in front of the list, and into the map at a free location
      have hins := (m.perm_insert n.truncate).symm
      rw [Note.location_truncate, m.erase_notes_of_find?_eq_none hnone] at hins
      exact (List.perm_append_singleton _ _).trans ((hperm.cons _).trans hins)

theorem map_id_reviseAt (ns : List Note) (old : Note) (d : Draft) (now : Instant) :
    (reviseAt ns old d now).map (·.id) = ns.map (·.id) := by
  rw [reviseAt, List.map_map]
  apply List.map_congr_left
  intro x _
  by_cases hid : x.id = old.id
  · simp [hid]
  · simp [hid]

theorem rows_reviseAt {ns : List Note} (hrows : Rows ns) {old : Note} (hold : old ∈ ns)
    {d : Draft} {now : Instant} (hline : d.line ≤ 4294967295)
    (htime : Storable (nextUpdate old.updatedAt now)) : Rows (reviseAt ns old d now) := by
  have hfit := hrows.fit old hold
  refine ⟨forall_mem_reviseAt (fun y hy _ => hrows.fit y hy) ?_,
    by rw [map_id_reviseAt]; exact hrows.ids⟩
  exact ⟨hline, hfit.id, hfit.createdAt, stored_truncateMicros htime⟩

/-- After an update that moves the note at `l` to a location no other note holds, the
list with the note revised in place holds the notes of the map with the note moved. -/
theorem perm_reviseAt {ns : List Note} (hrows : Rows ns) (hperm : ns.Perm m.notes)
    {old : Note} (hold : old ∈ ns) {l : Location} (hl : old.location = l) {d : Draft}
    {now : Instant} (hfree : ∀ x ∈ m.notes, x.location = d.location → x.location = l) :
    (reviseAt ns old d now).Perm ((m.erase l).insert (old.revise d now)).notes := by
  have hnodup : (reviseAt ns old d now).Nodup := by
    have hids := hrows.ids
    rw [← map_id_reviseAt ns old d now] at hids
    exact List.Nodup.of_map _ hids
  refine (List.perm_ext_iff_of_nodup hnodup (NoteMap.nodup_notes _)).2 ?_
  intro x
  simp only [reviseAt, List.mem_map, NoteMap.mem_insert, NoteMap.mem_erase, Note.location_revise]
  constructor
  · rintro ⟨y, hy, rfl⟩
    by_cases hid : y.id = old.id
    · left
      simp [hid]
    · right
      simp only [hid, if_false]
      have hyl : y.location ≠ l := fun h =>
        hid ((id_eq_iff_location_eq hrows hperm hy hold).2 (h.trans hl.symm))
      exact ⟨⟨hperm.mem_iff.1 hy, hyl⟩, fun hyd => hyl (hfree y (hperm.mem_iff.1 hy) hyd)⟩
  · rintro (rfl | ⟨⟨hx, hxl⟩, _⟩)
    · exact ⟨old, hold, by simp⟩
    · have hxns := hperm.mem_iff.2 hx
      have hid : x.id ≠ old.id := fun h =>
        hxl (((id_eq_iff_location_eq hrows hperm hxns hold).1 h).trans hl)
      exact ⟨x, hxns, by simp [hid]⟩

/-- An update on the tables is an update on the map. -/
theorem update_simulates (h : Represents db m) {l : Location} {d : Draft} {now : Instant}
    (hr : Revision m l d now) : Simulates (db.update l d now) (m.update l d now) := by
  obtain ⟨ns, rfl, hrows, hperm⟩ := h
  rw [update_tablesOf hrows, find?_of_perm hperm, NoteMap.update]
  cases hf : m.find? l with
  | none => rfl
  | some old =>
    obtain ⟨holdm, hl⟩ := (NoteMap.find?_eq_some_iff m).1 hf
    have hold : old ∈ ns := hperm.mem_iff.2 holdm
    -- another note stands at the draft's location exactly when the draft moves the note
    -- to a taken location
    have hclash : ns.any (fun x => x.id != old.id && x.location == d.location) = true ↔
        d.location ≠ l ∧ (m.find? d.location).isSome := by
      rw [← any_location_of_perm hperm]
      simp only [List.any_eq_true, Bool.and_eq_true, bne_iff_ne, ne_eq, beq_iff_eq]
      constructor
      · rintro ⟨x, hx, hid, hxd⟩
        refine ⟨fun hdl => hid ?_, x, hx, hxd⟩
        rw [id_eq_iff_location_eq hrows hperm hx hold, hxd, hdl, hl]
      · rintro ⟨hdl, x, hx, hxd⟩
        refine ⟨x, hx, fun hid => hdl ?_, hxd⟩
        rw [← hxd, (id_eq_iff_location_eq hrows hperm hx hold).1 hid, hl]
    dsimp only
    by_cases hc : d.location ≠ l ∧ (m.find? d.location).isSome
    · rw [if_pos (hclash.2 hc), if_pos hc]
      rfl
    · rw [if_neg (fun h => hc (hclash.1 h)), if_neg hc]
      refine ⟨reviseAt ns old d now, rfl, rows_reviseAt hrows hold hr.line (hr.time old hf),
        perm_reviseAt hrows hperm hold hl ?_⟩
      intro x hx hxd
      by_contra hxl
      exact hc ⟨fun hdl => hxl (hxd.trans hdl),
        Option.isSome_iff_exists.2 ⟨x, (NoteMap.find?_eq_some_iff m).2 ⟨hx, hxd⟩⟩⟩

theorem rows_filter {ns : List Note} (hrows : Rows ns) (p : Note → Bool) : Rows (ns.filter p) :=
  ⟨fun x hx => hrows.fit x (List.mem_filter.1 hx).1,
    ((List.filter_sublist).map _).nodup hrows.ids⟩

/-- A delete on the tables is a delete on the map, and never fails. -/
theorem delete_simulates (h : Represents db m) (l : Location) :
    Simulates (db.delete l) (.ok (m.delete l)) := by
  obtain ⟨ns, rfl, hrows, hperm⟩ := h
  rw [delete_tablesOf, find?_of_perm hperm]
  cases hf : m.find? l with
  | none =>
    refine ⟨ns, rfl, hrows, ?_⟩
    rw [NoteMap.delete, m.erase_notes_of_find?_eq_none hf]
    exact hperm
  | some x =>
    obtain ⟨hxm, hxl⟩ := (NoteMap.find?_eq_some_iff m).1 hf
    have hx := hperm.mem_iff.2 hxm
    -- dropping `x`'s identity drops the one note at `l`
    have hfilter : ns.filter (·.id != x.id) = ns.filter (·.location != l) :=
      List.filter_congr fun y hy => by
        rw [Bool.eq_iff_iff]
        simp only [bne_iff_ne, ne_eq, id_eq_iff_location_eq hrows hperm hy hx, hxl]
    refine ⟨ns.filter (·.id != x.id), rfl, rows_filter hrows _, ?_⟩
    rw [hfilter]
    exact hperm.filter _

/-- Deleting a file on the tables deletes it on the map, and never fails. -/
theorem deleteFile_simulates (h : Represents db m) (f : String) :
    Simulates (db.deleteFile f) (.ok (m.deleteFile f)) := by
  obtain ⟨ns, rfl, hrows, hperm⟩ := h
  rw [deleteFile_tablesOf hrows.ids]
  exact ⟨_, rfl, rows_filter hrows _, hperm.filter _⟩

end Writes

/-! ## Reads -/

section Reads

variable {db : Database} {m : NoteMap}

theorem get_eq (h : Represents db m) (l : Location) : db.get l = m.get l := by
  obtain ⟨ns, rfl, hrows, hperm⟩ := h
  rw [get_tablesOf hrows, find?_of_perm hperm]
  rfl

theorem listAll_eq (h : Represents db m) : db.listAll = .ok m.listAll := by
  obtain ⟨ns, rfl, hrows, hperm⟩ := h
  rw [listAll, query_tablesOf hrows, mergeSort_filter_eq hperm, NoteMap.listAll,
    List.filter_true]

theorem listFile_eq (h : Represents db m) (f : String) : db.listFile f = .ok (m.listFile f) := by
  obtain ⟨ns, rfl, hrows, hperm⟩ := h
  rw [listFile, query_tablesOf hrows]
  simp only [filepath_rowOf, same_text]
  rw [mergeSort_filter_eq hperm, NoteMap.listFile]

@[simp] theorem Kind.label_beq (a b : Kind) : (a.label == b.label) = (a == b) := by
  cases a <;> cases b <;> rfl

theorem listKind_eq (h : Represents db m) (k : Kind) : db.listKind k = .ok (m.listKind k) := by
  obtain ⟨ns, rfl, hrows, hperm⟩ := h
  rw [listKind, query_tablesOf hrows]
  simp only [rowOf, same_text, Kind.label_beq]
  rw [mergeSort_filter_eq hperm, NoteMap.listKind]

theorem search_eq (h : Represents db m) (fragment : String) :
    db.search fragment = .ok (m.search fragment) := by
  obtain ⟨ns, rfl, hrows, hperm⟩ := h
  rw [search, query_tablesOf hrows]
  simp only [Cell.asText]
  rw [mergeSort_filter_eq hperm, NoteMap.search]

end Reads

end CodeNotes.Store

namespace CodeNotes.Store

open Time Database

/-! ## Sequences of requests -/

/-- An operation on a store of notes. -/
inductive Request where
  | create (n : Note)
  | update (l : Location) (d : Draft) (now : Instant)
  | delete (l : Location)
  | deleteFile (f : String)
  | get (l : Location)
  | listAll
  | listFile (f : String)
  | listKind (k : Kind)
  | search (fragment : String)

/-- What an operation answers. -/
inductive Reply where
  | done
  | note (n : Note)
  | notes (ns : List Note)
  deriving DecidableEq, Repr

/-- The answer of a write and the state after it: a write that fails leaves the state
as it was. -/
def commit {σ : Type} (s : σ) : Except StoreError σ → Except StoreError Reply × σ
  | .ok s' => (.ok .done, s')
  | .error e => (.error e, s)

/-- The tables serving one request. -/
def Database.serve (db : Database) : Request → Except StoreError Reply × Database
  | .create n => commit db (db.create n)
  | .update l d now => commit db (db.update l d now)
  | .delete l => commit db (db.delete l)
  | .deleteFile f => commit db (db.deleteFile f)
  | .get l => ((db.get l).map .note, db)
  | .listAll => (db.listAll.map .notes, db)
  | .listFile f => ((db.listFile f).map .notes, db)
  | .listKind k => ((db.listKind k).map .notes, db)
  | .search fragment => ((db.search fragment).map .notes, db)

/-- The map serving one request. -/
def NoteMap.serve (m : NoteMap) : Request → Except StoreError Reply × NoteMap
  | .create n => commit m (m.create n)
  | .update l d now => commit m (m.update l d now)
  | .delete l => (.ok .done, m.delete l)
  | .deleteFile f => (.ok .done, m.deleteFile f)
  | .get l => ((m.get l).map .note, m)
  | .listAll => (.ok (.notes m.listAll), m)
  | .listFile f => (.ok (.notes (m.listFile f)), m)
  | .listKind k => (.ok (.notes (m.listKind k)), m)
  | .search fragment => (.ok (.notes (m.search fragment)), m)

/-- The answers of a store to requests served one after another, and its state at the
end. -/
def replay {σ : Type} (serve : σ → Request → Except StoreError Reply × σ) :
    σ → List Request → List (Except StoreError Reply) × σ
  | s, [] => ([], s)
  | s, r :: rs =>
    let step := serve s r
    let rest := replay serve step.2 rs
    (step.1 :: rest.1, rest.2)

/-- What a request needs of the map it meets. -/
def Request.Fits (m : NoteMap) : Request → Prop
  | .create n => NewNote m n
  | .update l d now => Revision m l d now
  | _ => True

/-- Requests each of which fits the map that the requests before it leave. -/
def Admissible : NoteMap → List Request → Prop
  | _, [] => True
  | m, r :: rs => r.Fits m ∧ Admissible (m.serve r).2 rs

theorem commit_simulates {db : Database} {m : NoteMap} {c : Except StoreError Database}
    {a : Except StoreError NoteMap} (hs : Simulates c a) (h : Represents db m) :
    (commit db c).1 = (commit m a).1 ∧ Represents (commit db c).2 (commit m a).2 := by
  cases c with
  | ok db' =>
    cases a with
    | ok m' => exact ⟨rfl, hs⟩
    | error e => exact absurd hs id
  | error e =>
    cases a with
    | ok m' => exact absurd hs id
    | error e' =>
      have he : e = e' := hs
      exact ⟨by simp [commit, he], h⟩

/-- One request: the tables answer as the map does, and go on representing it. -/
theorem serve_refines {db : Database} {m : NoteMap} (h : Represents db m) {r : Request}
    (hr : r.Fits m) :
    (db.serve r).1 = (m.serve r).1 ∧ Represents (db.serve r).2 (m.serve r).2 := by
  cases r with
  | create n => exact commit_simulates (create_simulates h hr) h
  | update l d now => exact commit_simulates (update_simulates h hr) h
  | delete l => exact commit_simulates (delete_simulates h l) h
  | deleteFile f => exact commit_simulates (deleteFile_simulates h f) h
  | get l => exact ⟨by simp [Database.serve, NoteMap.serve, get_eq h], h⟩
  | listAll => exact ⟨by simp [Database.serve, NoteMap.serve, listAll_eq h], h⟩
  | listFile f => exact ⟨by simp [Database.serve, NoteMap.serve, listFile_eq h], h⟩
  | listKind k => exact ⟨by simp [Database.serve, NoteMap.serve, listKind_eq h], h⟩
  | search t => exact ⟨by simp [Database.serve, NoteMap.serve, search_eq h], h⟩

/-- A sequence of requests: by induction on it, each step by `serve_refines`. -/
theorem replay_refines {db : Database} {m : NoteMap} (h : Represents db m) (rs : List Request)
    (ha : Admissible m rs) :
    (replay Database.serve db rs).1 = (replay NoteMap.serve m rs).1 ∧
      Represents (replay Database.serve db rs).2 (replay NoteMap.serve m rs).2 := by
  induction rs generalizing db m with
  | nil => exact ⟨rfl, h⟩
  | cons r rs ih =>
    obtain ⟨hr, hrest⟩ := ha
    obtain ⟨hreply, hstep⟩ := serve_refines h hr
    obtain ⟨hreplies, hend⟩ := ih hstep hrest
    exact ⟨by simp only [replay, hreply, hreplies], hend⟩

/-- From the empty tables, every admissible sequence of requests gets from the tables the
answers the note map gives, and leaves tables that represent the map. -/
theorem tables_refine_noteMap (rs : List Request) (ha : Admissible NoteMap.empty rs) :
    (replay Database.serve Database.empty rs).1 = (replay NoteMap.serve NoteMap.empty rs).1 ∧
      Represents (replay Database.serve Database.empty rs).2
        (replay NoteMap.serve NoteMap.empty rs).2 :=
  replay_refines represents_empty rs ha

/-- A session: a create, a second create at its location, a create in another file, a
rewrite that moves the first note down a line, a delete of the other note, and a
listing. -/
def editSession : List Request :=
  [.create ⟨"00000000-0000-4000-8000-000000000001", "src/a.rs", 3, .todo, none, none, 0, 0, "fix"⟩,
   .create ⟨"00000000-0000-4000-8000-000000000002", "src/a.rs", 3, .note, none, none, 0, 0,
    "again"⟩,
   .create ⟨"00000000-0000-4000-8000-000000000003", "src/b.rs", 7, .note, none, none, 0, 0,
    "stale"⟩,
   .update ⟨"src/a.rs", 3⟩ { filepath := "src/a.rs", line := 4, kind := .todo, text := "fixed" } 2000,
   .delete ⟨"src/b.rs", 7⟩,
   .listAll]

/-- The session is admissible, so the tables answer it as the map does: the second create
is refused, and after the rewrite and the delete the tables still represent the map. -/
theorem tables_refine_noteMap_editSession :
    Admissible NoteMap.empty editSession ∧
      ((replay Database.serve Database.empty editSession).1 =
          (replay NoteMap.serve NoteMap.empty editSession).1 ∧
        Represents (replay Database.serve Database.empty editSession).2
          (replay NoteMap.serve NoteMap.empty editSession).2) := by
  have hstorable : ∀ t : Instant, 0 ≤ t → t ≤ 2000 → Storable t := by
    intro t h0 h1
    unfold Storable
    rw [firstStored_eq, endStored_eq]
    unfold Instant at *
    constructor <;> omega
  have hzero : Storable 0 := hstorable 0 le_rfl (by decide)
  -- the rewrite meets a note created at time 0, and stamps it 2000
  have hrevise : ∀ (m : NoteMap) (l : Location), (∀ x ∈ m.notes, x.updatedAt = 0) →
      ∀ old, m.find? l = some old → Storable (nextUpdate old.updatedAt 2000) := by
    intro m l hat old hold
    rw [hat old (List.mem_of_find?_eq_some hold)]
    exact hstorable _ (by decide) (by decide)
  have ha : Admissible NoteMap.empty editSession :=
    ⟨⟨by decide, by rfl, by simp [NoteMap.empty], hzero, hzero⟩,
      ⟨by decide, by rfl, by decide, hzero, hzero⟩,
      ⟨by decide, by rfl, by decide, hzero, hzero⟩,
      ⟨by decide, hrevise _ _ (by decide)⟩, trivial, trivial, trivial⟩
  exact ⟨ha, tables_refine_noteMap editSession ha⟩

end CodeNotes.Store
