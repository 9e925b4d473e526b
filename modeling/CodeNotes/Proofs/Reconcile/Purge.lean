import CodeNotes.Proofs.Reconcile.Pass
set_option autoImplicit false

/-!
# Purging a file is reconciling it with nothing

`purgeFile` lists a file's notes, sorts their keys and deletes every row of the file at
once; a pass of `reconcile` scoped to the file with no comments wants nothing, so it
deletes the listed notes one at a time, by location, in key order.  On tables that keep
the keys their schema declares (`Database.Keyed`: one row per identity and one per
place), the two are interchangeable (`purgeFile_eq_reconcile_nothing`).

* A listing of a file that succeeds decodes the file's rows one to one
  (`listFile_eq_ok`), so each listed note has exactly one row at its location.
* Deleting at that location removes the row's identity from both tables
  (`delete_at_row`); deleting the listed notes one by one removes the identities of the
  file's rows (`foldlM_prune_dropIds`), which is what deleting the file does
  (`deleteFile_eq_dropIds`).
* Both sort the same keys, so the pruned keys are the purged keys.
-/

namespace CodeNotes

namespace Store

namespace Cell

theorem same_comm (a b : Cell) : a.same b = b.same a := by
  cases a <;> cases b <;> simp [same, eq_comm]

theorem eq_of_same {a b : Cell} (h : a.same b = true) : a = b := by
  cases a <;> cases b <;> simp_all [same]

end Cell

namespace Database

/-- The keys the schema declares on the notes table: no two rows share an identity (an
empty cell is no identity), and no two share a path and a line. -/
structure Keyed (db : Database) : Prop where
  ids : (((db.notes.getD []).map NoteRow.id).filter (· != .null)).Nodup
  places : ((db.notes.getD []).map fun r => (r.filepath, r.line)).Nodup

/-- The tables without the rows of the identities `ids` and without their content rows. -/
def dropIds (ids : List Cell) (rows : List NoteRow) (contents : List ContentRow) : Database :=
  ⟨some (rows.filter fun r => !ids.any (r.id.same ·)),
    some (contents.filter fun c => !ids.any (c.noteId.same ·))⟩

/-- Dropping two lists with the same members drops the same rows. -/
theorem dropIds_congr {ids ids' : List Cell} (h : ∀ c, c ∈ ids ↔ c ∈ ids')
    (rows : List NoteRow) (contents : List ContentRow) :
    dropIds ids rows contents = dropIds ids' rows contents := by
  have hany : ∀ g : Cell → Bool, ids.any g = ids'.any g := fun g => by
    rw [Bool.eq_iff_iff, List.any_eq_true, List.any_eq_true]
    exact exists_congr fun c => and_congr_left fun _ => h c
  simp only [dropIds, hany]

/-- Dropping one more identity filters both tables once more. -/
theorem dropIds_snoc (ids : List Cell) (c : Cell) (rows : List NoteRow)
    (contents : List ContentRow) :
    dropIds (ids ++ [c]) rows contents =
      ⟨some ((rows.filter fun r => !ids.any (r.id.same ·)).filter fun r => !r.id.same c),
        some ((contents.filter fun d => !ids.any (d.noteId.same ·)).filter
          fun d => !d.noteId.same c)⟩ := by
  simp [dropIds, List.filter_filter, Bool.and_comm]

/-! ## Rows that decode -/

theorem getText_eq_ok {i : Nat} {col : String} {c : Cell} {s : String}
    (h : getText i col c = .ok s) : c = .text s := by
  unfold getText at h
  split at h
  · cases h
    rfl
  · cases h

theorem getLine_eq_ok_cell {i : Nat} {col : String} {c : Cell} {m : Nat}
    (h : getLine i col c = .ok m) : c = .int m := by
  unfold getLine at h
  split at h
  · split at h
    · next v hv =>
      simp only [Bool.and_eq_true, decide_eq_true_eq] at hv
      cases h
      simp [Int.toNat_of_nonneg hv.1]
    · cases h
  · cases h

/-- A row that decodes to a note stands at the note's location, under a text identity. -/
theorem decodeRow_eq_ok {r : NoteRow} {c : Cell} {n : Note} (h : decodeRow r c = .ok n) :
    r.filepath = .text n.filepath ∧ r.line = .int n.line ∧ ∃ s, r.id = .text s := by
  unfold decodeRow at h
  obtain ⟨idText, hid, h⟩ := bind_eq_ok.1 h
  obtain ⟨kindText, -, h⟩ := bind_eq_ok.1 h
  obtain ⟨_, -, h⟩ := bind_eq_ok.1 h
  obtain ⟨_, -, h⟩ := bind_eq_ok.1 h
  generalize readId idText = parsed at h
  cases parsed with
  | error e => simp only [throw_bind, reduceCtorEq] at h
  | ok id =>
    simp only [pure_eq_ok, ok_bind] at h
    obtain ⟨filepath, hfp, h⟩ := bind_eq_ok.1 h
    obtain ⟨line, hline, h⟩ := bind_eq_ok.1 h
    generalize Kind.parse? kindText = kind? at h
    cases kind? with
    | none => simp only [throw_bind, reduceCtorEq] at h
    | some kind =>
      simp only at h
      obtain ⟨_, -, h⟩ := bind_eq_ok.1 h
      obtain ⟨_, -, h⟩ := bind_eq_ok.1 h
      obtain ⟨_, -, h⟩ := bind_eq_ok.1 h
      obtain ⟨_, -, h⟩ := bind_eq_ok.1 h
      obtain ⟨_, -, h⟩ := bind_eq_ok.1 h
      cases h
      exact ⟨getText_eq_ok hfp, getLine_eq_ok_cell hline, idText, getText_eq_ok hid⟩

/-- Decoding rows in order decodes each of them, one to one. -/
theorem forall₂_of_decodeAll {ps : List (NoteRow × Cell)} {vs : List Note}
    (h : decodeAll ps = .ok vs) : List.Forall₂ (fun p v => decodeRow p.1 p.2 = .ok v) ps vs := by
  induction ps generalizing vs with
  | nil =>
    cases h
    exact .nil
  | cons p ps ih =>
    simp only [decodeAll] at h
    split at h
    · next n hn =>
      cases hrest : decodeAll ps with
      | error e => simp [hrest, Except.map] at h
      | ok ws =>
        simp only [hrest, map_ok, Except.ok.injEq] at h
        subst h
        exact .cons hn (ih hrest)
    · cases h

theorem exists_of_forall₂_left {α β : Type} {R : α → β → Prop} :
    ∀ {l₁ : List α} {l₂ : List β}, List.Forall₂ R l₁ l₂ → ∀ a ∈ l₁, ∃ b ∈ l₂, R a b
  | _, _, .nil, _, ha => absurd ha List.not_mem_nil
  | _, _, .cons hab hrest, a, ha => by
    rcases List.mem_cons.1 ha with rfl | ha
    · exact ⟨_, List.mem_cons_self, hab⟩
    · obtain ⟨b, hb, hr⟩ := exists_of_forall₂_left hrest a ha
      exact ⟨b, List.mem_cons_of_mem _ hb, hr⟩

theorem exists_of_forall₂_right {α β : Type} {R : α → β → Prop} :
    ∀ {l₁ : List α} {l₂ : List β}, List.Forall₂ R l₁ l₂ → ∀ b ∈ l₂, ∃ a ∈ l₁, R a b
  | _, _, .nil, _, hb => absurd hb List.not_mem_nil
  | _, _, .cons hab hrest, b, hb => by
    rcases List.mem_cons.1 hb with rfl | hb
    · exact ⟨_, List.mem_cons_self, hab⟩
    · obtain ⟨a, ha, hr⟩ := exists_of_forall₂_right hrest b hb
      exact ⟨a, List.mem_cons_of_mem _ ha, hr⟩

/-- A listing of a file that succeeds decodes, one to one, the file's rows in some order,
each with its content. -/
theorem listFile_eq_ok {db : Database} {f : String} {listed : List Note}
    (h : db.listFile f = .ok listed) :
    ∃ rows contents, db = ⟨some rows, some contents⟩ ∧
      ∃ ps : List NoteRow, ps.Perm (rows.filter fun r => r.filepath.same (.text f)) ∧
        List.Forall₂ (fun r n => decodeRow r (contentOf contents r) = .ok n) ps listed := by
  obtain ⟨notes, contents⟩ := db
  unfold listFile query at h
  cases notes with
  | none => cases h
  | some rows =>
    cases contents with
    | none => cases h
    | some contents =>
      simp only [noteRows, contentRows, ok_bind] at h
      refine ⟨rows, contents, rfl, ?_⟩
      -- the rows of the file, joined with their contents and sorted by the rows alone
      have hjoin : (rows.map fun r => (r, contentOf contents r)).filter
          (fun x => x.1.filepath.same (.text f)) =
          (rows.filter fun r => r.filepath.same (.text f)).map fun r => (r, contentOf contents r) := by
        rw [List.filter_map]
        rfl
      have hsort := List.map_mergeSort (l := rows.filter fun r => r.filepath.same (.text f))
        (r := fun a b => rowBefore (a, contentOf contents a) (b, contentOf contents b))
        (s := rowBefore) (f := fun r => (r, contentOf contents r)) (fun _ _ _ _ => rfl)
      rw [hjoin, ← hsort] at h
      exact ⟨_, List.mergeSort_perm _ _, List.forall₂_map_left_iff.1 (forall₂_of_decodeAll h)⟩

/-! ## Rows of keyed tables -/

section Keys

variable {rows : List NoteRow}

theorem same_eq_true_iff {a b : Cell} (hb : b ≠ .null) : a.same b = true ↔ a = b := by
  cases a <;> cases b <;> simp_all [Cell.same]

theorem atLocation_iff {l : Location} {r : NoteRow} :
    atLocation l r = true ↔ r.filepath = .text l.filepath ∧ r.line = .int l.line := by
  simp [atLocation, same_eq_true_iff]

/-- Two rows at one place are one. -/
theorem eq_of_place (hp : (rows.map fun r => (r.filepath, r.line)).Nodup) {x y : NoteRow}
    (hx : x ∈ rows) (hy : y ∈ rows) (hf : x.filepath = y.filepath) (hl : x.line = y.line) :
    x = y :=
  List.inj_on_of_nodup_map hp hx hy (by rw [hf, hl])

/-- Two rows that share an identity are one. -/
theorem eq_of_same_id (hids : ((rows.map NoteRow.id).filter (· != .null)).Nodup) {x y : NoteRow}
    (hx : x ∈ rows) (hy : y ∈ rows) (h : x.id.same y.id = true) : x = y := by
  rw [List.filter_map] at hids
  have heq := Cell.eq_of_same h
  have hxn : (x.id != .null) = true := by
    have hne : x.id ≠ .null := fun hnull => by
      rw [hnull] at h
      simp [Cell.same] at h
    simpa using hne
  refine List.inj_on_of_nodup_map hids (List.mem_filter.2 ⟨hx, hxn⟩)
    (List.mem_filter.2 ⟨hy, ?_⟩) heq
  simpa [← heq] using hxn

/-- Two rows at one location are one. -/
theorem eq_of_atLocation (hp : (rows.map fun r => (r.filepath, r.line)).Nodup) {l : Location}
    {x y : NoteRow} (hx : x ∈ rows) (hy : y ∈ rows) (hlx : atLocation l x = true)
    (hly : atLocation l y = true) : x = y := by
  obtain ⟨hfx, hlx⟩ := atLocation_iff.1 hlx
  obtain ⟨hfy, hly⟩ := atLocation_iff.1 hly
  exact eq_of_place hp hx hy (hfx.trans hfy.symm) (hlx.trans hly.symm)

/-- A row stands at one location. -/
theorem location_eq_of_atLocation {l l' : Location} {r : NoteRow} (h : atLocation l r = true)
    (h' : atLocation l' r = true) : l = l' := by
  obtain ⟨f, n⟩ := l
  obtain ⟨f', n'⟩ := l'
  obtain ⟨hf, hl⟩ := atLocation_iff.1 h
  obtain ⟨hf', hl'⟩ := atLocation_iff.1 h'
  have hfs : Cell.text f = .text f' := hf.symm.trans hf'
  have hns : Cell.int n = .int n' := hl.symm.trans hl'
  simp only [Cell.text.injEq, Cell.int.injEq, Nat.cast_inj] at hfs hns
  rw [hfs, hns]

/-- A row is the one `find?` returns when it is the only one that passes. -/
theorem find?_eq_some_of_unique {α : Type} {p : α → Bool} {a : α} :
    ∀ {l : List α}, a ∈ l → p a = true → (∀ x ∈ l, p x = true → x = a) → l.find? p = some a
  | [], ha, _, _ => absurd ha List.not_mem_nil
  | x :: l, ha, hpa, huniq => by
    by_cases hpx : p x = true
    · rw [List.find?_cons_of_pos hpx, huniq x List.mem_cons_self hpx]
    · rw [List.find?_cons_of_neg hpx]
      have hne : a ≠ x := fun h => hpx (h ▸ hpa)
      exact find?_eq_some_of_unique ((List.mem_cons.1 ha).resolve_left hne) hpa
        fun y hy hpy => huniq y (List.mem_cons_of_mem x hy) hpy

/-- Deleting at the location of a row, among rows at distinct places, removes the rows
and the content rows of the row's identity, when that identity is a text. -/
theorem delete_at_row (hp : (rows.map fun r => (r.filepath, r.line)).Nodup)
    (contents : List ContentRow) {r : NoteRow} (hr : r ∈ rows) {l : Location}
    (hloc : atLocation l r = true) {s : String} (hs : r.id = .text s) :
    Database.delete ⟨some rows, some contents⟩ l =
      .ok ⟨some (rows.filter fun x => !x.id.same r.id),
        some (contents.filter fun c => !c.noteId.same r.id)⟩ := by
  have hfind : rows.find? (atLocation l) = some r := by
    exact find?_eq_some_of_unique hr hloc fun x hx hxl => eq_of_atLocation hp hx hr hxl hloc
  simp only [Database.delete, noteRows, contentRows, ok_bind, hfind, hs, getText_text,
    pure_eq_ok]

/-- Deleting a file removes the rows of the file and the content rows of their
identities, which, with one row per identity and a text identity on each row of the
file, is dropping those identities. -/
theorem deleteFile_eq_dropIds (hids : ((rows.map NoteRow.id).filter (· != .null)).Nodup)
    (contents : List ContentRow) (f : String)
    (htext : ∀ r ∈ rows, r.filepath.same (.text f) = true → r.id ≠ .null) :
    Database.deleteFile ⟨some rows, some contents⟩ f =
      .ok (dropIds ((rows.filter fun r => r.filepath.same (.text f)).map NoteRow.id) rows
        contents) := by
  simp only [Database.deleteFile, noteRows, contentRows, ok_bind, pure_eq_ok, dropIds,
    Except.ok.injEq, Database.mk.injEq, Option.some.injEq, and_true]
  refine List.filter_congr fun x hx => ?_
  -- a row shares an identity with a row of the file exactly when it is one
  rw [Bool.not_inj_iff, Bool.eq_iff_iff, List.any_map, List.any_eq_true]
  constructor
  · intro hxf
    refine ⟨x, List.mem_filter.2 ⟨hx, hxf⟩, ?_⟩
    simp [same_eq_true_iff (htext x hx hxf)]
  · rintro ⟨y, hy, hsame⟩
    have hy' := List.mem_filter.1 hy
    rw [eq_of_same_id hids hx hy'.1 (by simpa [Function.comp_def] using hsame)]
    exact hy'.2

/-- A successful listing of a file, among rows at distinct places, lists one note for each
row of the file: each listed note is of the file and has a row at its location, under a
text identity; each row of the file stands at a listed note's location; and the listed
notes stand at distinct locations. -/
theorem listFile_rows (hp : (rows.map fun r => (r.filepath, r.line)).Nodup)
    {contents : List ContentRow} {f : String} {listed : List Note}
    (h : Database.listFile ⟨some rows, some contents⟩ f = .ok listed) :
    (∀ n ∈ listed, n.filepath = f ∧
      ∃ r ∈ rows, atLocation n.location r = true ∧ ∃ s, r.id = .text s) ∧
    (∀ r ∈ rows, r.filepath.same (.text f) = true →
      ∃ n ∈ listed, atLocation n.location r = true) ∧
    (listed.map Note.location).Nodup := by
  obtain ⟨rows', contents', hdb, ps, hperm, hdec⟩ := listFile_eq_ok h
  simp only [Database.mk.injEq, Option.some.injEq] at hdb
  obtain ⟨rfl, rfl⟩ := hdb
  refine ⟨fun n hn => ?_, fun r hr hrf => ?_, ?_⟩
  · obtain ⟨r, hr, hd⟩ := exists_of_forall₂_right hdec n hn
    obtain ⟨hrow, hrf⟩ := List.mem_filter.1 (hperm.subset hr)
    obtain ⟨hfp, hline, hid⟩ := decodeRow_eq_ok hd
    have hf : Cell.text n.filepath = .text f := hfp.symm.trans ((same_eq_true_iff (by simp)).1 hrf)
    exact ⟨Cell.text.inj hf, r, hrow, atLocation_iff.2 ⟨hfp, hline⟩, hid⟩
  · obtain ⟨n, hn, hd⟩ := exists_of_forall₂_left hdec r
      (hperm.symm.subset (List.mem_filter.2 ⟨hr, hrf⟩))
    obtain ⟨hfp, hline, -⟩ := decodeRow_eq_ok hd
    exact ⟨n, hn, atLocation_iff.2 ⟨hfp, hline⟩⟩
  · -- the rows listed stand at distinct places, which are the places of the notes
    have hps : (ps.map fun r => (r.filepath, r.line)).Nodup :=
      (hperm.map _).nodup_iff.2 ((List.filter_sublist.map _).nodup hp)
    have hrel : List.Forall₂ (fun a b => a = b) (ps.map fun r => (r.filepath, r.line))
        ((listed.map Note.location).map fun l => (Cell.text l.filepath, Cell.int l.line)) := by
      simp only [List.forall₂_map_left_iff, List.forall₂_map_right_iff]
      refine hdec.imp fun r n hd => ?_
      obtain ⟨hfp, hline, -⟩ := decodeRow_eq_ok hd
      rw [hfp, hline]
      rfl
    rw [List.forall₂_eq_eq_eq] at hrel
    rw [hrel] at hps
    exact hps.of_map _

end Keys

end Database

end Store

namespace Reconcile

open Store Database

/-! ## Pruning a file's notes one by one -/

section Prunes

variable {rows₀ : List NoteRow} {contents₀ : List ContentRow}

/-- Pruning an entry whose row is still in the tables drops the row's identity. -/
theorem prune_dropIds (hp : (rows₀.map fun r => (r.filepath, r.line)).Nodup) {ids : List Cell}
    {p : Pass Database} (hstore : p.store = dropIds ids rows₀ contents₀) (e : String × Note)
    {r : NoteRow} (hr : r ∈ rows₀) (hloc : atLocation e.2.location r = true) {s : String}
    (hs : r.id = .text s) (hfresh : ids.any (r.id.same ·) = false) :
    prune p e = .ok
      { p with
        store := dropIds (ids ++ [r.id]) rows₀ contents₀
        report := { p.report with pruned := p.report.pruned ++ [e.1] }
        log := p.log ++ [detail ("Pruned note " ++ e.1)] } := by
  have hcur : r ∈ rows₀.filter fun x => !ids.any (x.id.same ·) :=
    List.mem_filter.2 ⟨hr, by simp [hfresh]⟩
  have hplaces : ((rows₀.filter fun x => !ids.any (x.id.same ·)).map
      fun r => (r.filepath, r.line)).Nodup :=
    (List.filter_sublist.map _).nodup hp
  have hdel := delete_at_row hplaces (contents₀.filter fun c => !ids.any (c.noteId.same ·))
    hcur hloc hs
  rw [prune_eq, hstore, dropIds_snoc]
  change Database.delete (dropIds ids rows₀ contents₀) e.2.location >>= _ = _
  rw [dropIds, hdel, ok_bind, pure_eq_ok]

/-- Pruning entries at distinct locations, each with its row still in the tables, drops
the identities of those rows.  The induction is on the entries; a later entry's row is
another row, so its identity is not among those dropped. -/
theorem foldlM_prune_dropIds (hp : (rows₀.map fun r => (r.filepath, r.line)).Nodup)
    (hids : ((rows₀.map NoteRow.id).filter (· != .null)).Nodup) :
    ∀ (es : List (String × Note)) (ids : List Cell) (p : Pass Database),
      p.store = dropIds ids rows₀ contents₀ →
      (∀ e ∈ es, ∃ r ∈ rows₀, atLocation e.2.location r = true ∧ (∃ s, r.id = .text s) ∧
        ids.any (r.id.same ·) = false) →
      (es.map (·.2.location)).Nodup →
      ∃ dropped : List Cell,
        (∀ c, c ∈ dropped ↔ ∃ e ∈ es, ∃ r ∈ rows₀, atLocation e.2.location r = true ∧ c = r.id) ∧
        es.foldlM prune p = .ok
          { p with
            store := dropIds (ids ++ dropped) rows₀ contents₀
            report := { p.report with pruned := p.report.pruned ++ es.map Prod.fst }
            log := p.log ++ es.map fun e => detail ("Pruned note " ++ e.1) }
  | [], ids, p, hstore, _, _ => ⟨[], by simp, by simp [← hstore]⟩
  | e :: es, ids, p, hstore, hrows, hnodup => by
    obtain ⟨r, hr, hloc, ⟨s, hs⟩, hfresh⟩ := hrows e List.mem_cons_self
    have hone := prune_dropIds hp hstore e hr hloc hs hfresh
    have hnew : e.2.location ∉ es.map (·.2.location) := (List.nodup_cons.1 hnodup).1
    have hrest : ∀ e' ∈ es, ∃ r' ∈ rows₀, atLocation e'.2.location r' = true ∧
        (∃ s, r'.id = .text s) ∧ (ids ++ [r.id]).any (r'.id.same ·) = false := by
      intro e' he'
      obtain ⟨r', hr', hloc', hs', hfresh'⟩ := hrows e' (List.mem_cons_of_mem e he')
      refine ⟨r', hr', hloc', hs', ?_⟩
      rw [List.any_append, hfresh', Bool.false_or, List.any_cons, List.any_nil, Bool.or_false]
      -- a row that shares the identity of `r` is `r`, which stands at another location
      by_contra hsame
      have hrr : r' = r := eq_of_same_id hids hr' hr (by simpa using hsame)
      subst hrr
      exact hnew (location_eq_of_atLocation hloc' hloc ▸ List.mem_map_of_mem he')
    obtain ⟨dropped, hmem, hfold⟩ := foldlM_prune_dropIds hp hids es (ids ++ [r.id])
      { p with
        store := dropIds (ids ++ [r.id]) rows₀ contents₀
        report := { p.report with pruned := p.report.pruned ++ [e.1] }
        log := p.log ++ [detail ("Pruned note " ++ e.1)] } rfl hrest (List.nodup_cons.1 hnodup).2
    refine ⟨r.id :: dropped, fun c => ?_, ?_⟩
    · rw [List.mem_cons, hmem]
      constructor
      · rintro (rfl | ⟨e', he', r', hr', hloc', rfl⟩)
        · exact ⟨e, List.mem_cons_self, r, hr, hloc, rfl⟩
        · exact ⟨e', List.mem_cons_of_mem e he', r', hr', hloc', rfl⟩
      · rintro ⟨e', he', r', hr', hloc', rfl⟩
        rcases List.mem_cons.1 he' with rfl | he'
        · exact Or.inl (by rw [eq_of_atLocation hp hr' hr hloc' hloc])
        · exact Or.inr ⟨e', he', r', hr', hloc', rfl⟩
    · rw [List.foldlM_cons, hone, ok_bind, hfold]
      simp

end Prunes

/-! ## The purge and the pass -/

section Purge

/-- Sorting keys by their first components sorts the first components. -/
theorem map_fst_sortByKey {α : Type} (xs : List (String × α)) :
    (sortByKey xs).map Prod.fst = purgeFile.sortKeys (xs.map Prod.fst) :=
  List.map_mergeSort fun _ _ _ _ => rfl

/-- Sorting distinct keys orders them strictly. -/
theorem pairwise_lt_sortKeys {ks : List String} (h : ks.Nodup) :
    (purgeFile.sortKeys ks).Pairwise (· < ·) := by
  have hle : (purgeFile.sortKeys ks).Pairwise fun a b => decide (a ≤ b) = true :=
    List.pairwise_mergeSort
      (fun a b c hab hbc => by
        simp only [decide_eq_true_eq] at *
        exact le_trans hab hbc)
      (fun a b => by simpa using le_total a b) ks
  have hnodup : (purgeFile.sortKeys ks).Nodup := (List.mergeSort_perm ks _).nodup_iff.2 h
  exact (hle.and hnodup).imp fun hab => lt_of_le_of_ne (of_decide_eq_true hab.1) hab.2

theorem nodup_keys_of_locations {ns : List Note} (h : (ns.map Note.location).Nodup) :
    (ns.map Note.key).Nodup := by
  have hkeys := h.map Location.key_injective
  rwa [List.map_map] at hkeys

/-- The tables without the rows of the file `f` and without the content rows of their
identities. -/
def withoutFile (rows : List NoteRow) (contents : List ContentRow) (f : String) : Database :=
  ⟨some (rows.filter fun r => !r.filepath.same (.text f)),
    some (contents.filter fun c => !rows.any fun r => r.filepath.same (.text f) && c.noteId.same r.id)⟩

theorem deleteFile_eq_withoutFile (rows : List NoteRow) (contents : List ContentRow) (f : String) :
    Database.deleteFile ⟨some rows, some contents⟩ f = .ok (withoutFile rows contents f) := by
  simp [Database.deleteFile, noteRows, contentRows, withoutFile, List.any_map, List.any_filter,
    Function.comp_def]

variable {rows : List NoteRow} {contents : List ContentRow} {f : String} {listed : List Note}

/-- A purge whose listing succeeds returns the listed keys, sorted, and the tables
without the file. -/
theorem purgeFile_of_listFile (h : Database.listFile ⟨some rows, some contents⟩ f = .ok listed) :
    purgeFile (Database.mk (some rows) (some contents)) f =
      .ok (purgeFile.sortKeys (listed.map Note.key), withoutFile rows contents f) := by
  simp [purgeFile, NoteStore.listFile, NoteStore.deleteFile, h, deleteFile_eq_withoutFile]

section Keyed

variable (hp : (rows.map fun r => (r.filepath, r.line)).Nodup)
  (hids : ((rows.map NoteRow.id).filter (· != .null)).Nodup)
  (hlist : Database.listFile ⟨some rows, some contents⟩ f = .ok listed)
include hp hids hlist

/-- Dropping the identities of the rows at the listed locations removes the file. -/
theorem dropIds_listed {dropped : List Cell}
    (hmem : ∀ c, c ∈ dropped ↔
      ∃ n ∈ listed, ∃ r ∈ rows, atLocation n.location r = true ∧ c = r.id) :
    dropIds dropped rows contents = withoutFile rows contents f := by
  obtain ⟨hlisted, hfile, -⟩ := listFile_rows hp hlist
  -- the identities dropped are those of the rows of the file, all of them texts
  have hsame : ∀ c, c ∈ dropped ↔
      c ∈ (rows.filter fun r => r.filepath.same (.text f)).map NoteRow.id := by
    intro c
    rw [hmem, List.mem_map]
    constructor
    · rintro ⟨n, hn, r, hr, hloc, rfl⟩
      obtain ⟨hfp, -⟩ := atLocation_iff.1 hloc
      refine ⟨r, List.mem_filter.2 ⟨hr, ?_⟩, rfl⟩
      simp [hfp, Note.location, (hlisted n hn).1]
    · rintro ⟨r, hr, rfl⟩
      obtain ⟨hr, hrf⟩ := List.mem_filter.1 hr
      obtain ⟨n, hn, hloc⟩ := hfile r hr hrf
      exact ⟨n, hn, r, hr, hloc, rfl⟩
  have htext : ∀ r ∈ rows, r.filepath.same (.text f) = true → r.id ≠ .null := by
    intro r hr hrf
    obtain ⟨n, hn, hloc⟩ := hfile r hr hrf
    obtain ⟨-, r', hr', hloc', s, hs⟩ := hlisted n hn
    rw [eq_of_atLocation hp hr hr' hloc hloc', hs]
    exact Cell.noConfusion
  have hdel := deleteFile_eq_dropIds hids contents f htext
  rw [dropIds_congr hsame, ← Except.ok.inj
    (hdel.symm.trans (deleteFile_eq_withoutFile rows contents f))]

/-- A pass over a file with no comments, once its listing succeeds, prunes the listed
notes in key order, which leaves the tables without the file. -/
theorem reconcile_nothing_of_listFile (supply : Supply) :
    ∃ log, reconcile (Database.mk (some rows) (some contents)) supply [] (some f) =
      .ok ({ pruned := purgeFile.sortKeys (listed.map Note.key) }, log,
        withoutFile rows contents f, supply) := by
  obtain ⟨hlisted, -, hlocs⟩ := listFile_rows hp hlist
  have hwanted : wanted [] (some f) = [] := rfl
  rw [reconcile_of_listing listed (fun f' h => by cases h; exact hlist) (fun h => by cases h),
    hwanted, List.foldlM_nil, pure_eq_ok, ok_bind, byKey_eq_map (nodup_keys_of_locations hlocs)]
  dsimp only
  -- the stale entries are the listed notes, each with its row still in the tables
  have hperm : (sortByKey (listed.map fun n => (n.key, n))).Perm
      (listed.map fun n => (n.key, n)) :=
    List.mergeSort_perm _ _
  have hrows : ∀ e ∈ sortByKey (listed.map fun n => (n.key, n)), ∃ r ∈ rows,
      atLocation e.2.location r = true ∧ (∃ s, r.id = .text s) ∧
        ([] : List Cell).any (r.id.same ·) = false := by
    intro e he
    obtain ⟨n, hn, rfl⟩ := List.mem_map.1 (hperm.subset he)
    obtain ⟨-, r, hr, hloc, hid⟩ := hlisted n hn
    exact ⟨r, hr, hloc, hid, rfl⟩
  have hnodup : ((sortByKey (listed.map fun n => (n.key, n))).map (·.2.location)).Nodup := by
    rw [(hperm.map _).nodup_iff, List.map_map]
    exact hlocs
  obtain ⟨dropped, hmem, hfold⟩ := foldlM_prune_dropIds hp hids _ []
    ⟨⟨some rows, some contents⟩, supply, [], {}, []⟩
    (show Database.mk (some rows) (some contents) = dropIds [] rows contents by simp [dropIds])
    hrows hnodup
  have hdrop : dropIds dropped rows contents = withoutFile rows contents f :=
    dropIds_listed hp hids hlist fun c => by
      rw [hmem]
      simp only [hperm.mem_iff, List.mem_map, exists_exists_and_eq_and]
  rw [hfold, ok_bind, pure_eq_ok]
  simp [hdrop, map_fst_sortByKey]
  rfl

end Keyed

/-- Purging a file of keyed tables is reconciling the file with no comments.  When the
listing of the file fails, both fail with its error.  Otherwise the listed notes are of
the file; both remove the file's rows with their content rows and leave every other row;
and the keys the purge returns, which the pass reports pruned, are the listed keys in
strictly increasing order.  The pass takes nothing from the supply. -/
theorem purgeFile_eq_reconcile_nothing {db : Database} (hk : db.Keyed) (f : String)
    (supply : Supply) :
    (∃ e, db.listFile f = .error e ∧ purgeFile db f = .error e ∧
        reconcile db supply [] (some f) = .error e) ∨
    ∃ rows contents listed keys, db = ⟨some rows, some contents⟩ ∧
      db.listFile f = .ok listed ∧ (∀ n ∈ listed, n.filepath = f) ∧
      keys.Perm (listed.map Note.key) ∧ keys.Pairwise (· < ·) ∧
      purgeFile db f = .ok (keys, withoutFile rows contents f) ∧
      ∃ log, reconcile db supply [] (some f) =
        .ok ({ pruned := keys }, log, withoutFile rows contents f, supply) := by
  cases hlist : db.listFile f with
  | error e =>
    refine Or.inl ⟨e, rfl, ?_, ?_⟩
    · simp only [purgeFile, NoteStore.listFile, hlist]
      rfl
    · simp only [reconcile, NoteStore.listFile, hlist]
      rfl
  | ok listed =>
    obtain ⟨rows, contents, rfl, -⟩ := listFile_eq_ok hlist
    have hp : (rows.map fun r => (r.filepath, r.line)).Nodup := hk.places
    have hids : ((rows.map NoteRow.id).filter (· != .null)).Nodup := hk.ids
    obtain ⟨hlisted, -, hlocs⟩ := listFile_rows hp hlist
    exact Or.inr ⟨rows, contents, listed, _, rfl, rfl, fun n hn => (hlisted n hn).1,
      List.mergeSort_perm _ _, pairwise_lt_sortKeys (nodup_keys_of_locations hlocs),
      purgeFile_of_listFile hlist, reconcile_nothing_of_listFile hp hids hlist supply⟩

/-- Tables with two notes of a file that is gone and one of a file that stays. -/
def goneAndKept : Database :=
  tablesOf
    [⟨"00000000-0000-4000-8000-000000000001", "gone.rs", 3, .todo, none, none, 0, 0, "drop"⟩,
     ⟨"00000000-0000-4000-8000-000000000002", "gone.rs", 1, .note, none, none, 0, 0, "old"⟩,
     ⟨"00000000-0000-4000-8000-000000000003", "kept.rs", 1, .note, none, none, 0, 0, "keep"⟩]

theorem purgeFile_eq_reconcile_nothing_goneAndKept :
    goneAndKept.Keyed ∧
    ((∃ e, goneAndKept.listFile "gone.rs" = .error e ∧
        purgeFile goneAndKept "gone.rs" = .error e ∧
        reconcile goneAndKept (Supply.start 0) [] (some "gone.rs") = .error e) ∨
      ∃ rows contents listed keys, goneAndKept = ⟨some rows, some contents⟩ ∧
        goneAndKept.listFile "gone.rs" = .ok listed ∧ (∀ n ∈ listed, n.filepath = "gone.rs") ∧
        keys.Perm (listed.map Note.key) ∧ keys.Pairwise (· < ·) ∧
        purgeFile goneAndKept "gone.rs" = .ok (keys, withoutFile rows contents "gone.rs") ∧
        ∃ log, reconcile goneAndKept (Supply.start 0) [] (some "gone.rs") =
          .ok ({ pruned := keys }, log, withoutFile rows contents "gone.rs", Supply.start 0)) := by
  have hk : goneAndKept.Keyed := ⟨by simp [goneAndKept, tablesOf], by simp [goneAndKept, tablesOf]⟩
  exact ⟨hk, purgeFile_eq_reconcile_nothing hk "gone.rs" (Supply.start 0)⟩

end Purge

end Reconcile

end CodeNotes
