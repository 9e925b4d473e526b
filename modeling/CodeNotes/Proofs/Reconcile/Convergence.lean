import CodeNotes.Proofs.Reconcile.Postcondition
set_option autoImplicit false

/-!
# Scans converge

Discovery hands its comments over in batches, in whatever order the workers finish, but
it keeps the comments of one file in file order.  Two such runs over an unchanged tree
give lists that agree file by file.

* `reconcile_eq_of_agree`: in any store, a pass depends on the discovered comments only
  through the comments of each file, in order: the first comment of a key is always
  picked among the comments of one file.
* `visits_unchanged`: when every wanted key already holds its comment, the visits write
  nothing and count every key unchanged.
* `reconcile_converges`: a pass over the note tables, then a second pass with a list that
  agrees with the first file by file, leaves the tables as the first pass left them,
  with nothing created, updated or pruned.
-/

namespace CodeNotes.Reconcile

open CodeNotes.Store Time Database

/-! ## Order of discovery -/

section Order

variable {D₁ D₂ : List Comment}

/-- Lists that agree file by file pick the same wanted comments. -/
theorem wanted_eq_of_agree (horder : ∀ f, D₂.filter (·.filepath == f) = D₁.filter (·.filepath == f))
    (scope : Option String) : wanted D₂ scope = wanted D₁ scope := by
  refine wanted_congr fun k => find?_key_of_filter (fun f => ?_) k
  -- filtering to a scope and to a file commute
  rw [List.filter_filter, List.filter_filter]
  have hcomm : ∀ D : List Comment,
      D.filter (fun c => (c.filepath == f) && inScope scope c.filepath) =
        (D.filter (·.filepath == f)).filter fun c => inScope scope c.filepath := fun D => by
    rw [List.filter_filter]
    exact List.filter_congr fun c _ => Bool.and_comm _ _
  rw [hcomm, hcomm, horder f]

/-- In any store, a pass depends on the discovered comments only file by file. -/
theorem reconcile_eq_of_agree {σ : Type} [NoteStore σ] (s : σ) (supply : Supply)
    (horder : ∀ f, D₂.filter (·.filepath == f) = D₁.filter (·.filepath == f))
    (scope : Option String) :
    reconcile s supply D₂ scope = reconcile s supply D₁ scope := by
  unfold reconcile
  rw [wanted_eq_of_agree horder scope]

end Order

/-! ## A second pass -/

/-- Visits of keys that all hold their comments already write nothing: every key is
counted unchanged and dropped from the entries left to prune.  The induction is on the
keys; the entries left are the listed ones without the keys visited. -/
theorem visits_unchanged {σ : Type} [NoteStore σ] :
    ∀ (ws : List (String × Comment)) (p : Pass σ), (ws.map Prod.fst).Nodup →
      (p.existing.map Prod.fst).Nodup →
      (∀ e ∈ ws, ∃ n, (e.1, n) ∈ p.existing ∧ n.text = e.2.text ∧ n.kind = e.2.kind) →
      ws.foldlM visit p =
        .ok { p with existing := p.existing.filter fun x => decide (x.1 ∉ ws.map Prod.fst),
                     report := { p.report with unchanged := p.report.unchanged + ws.length } }
  | [], p, _, _, _ => by simp
  | (k, c) :: ws, p, hws, hkeys, hall => by
    obtain ⟨n, hn, htext, hkind⟩ := hall (k, c) List.mem_cons_self
    have hfind : p.existing.find? (·.1 == k) = some (k, n) :=
      find?_key_eq_some Prod.fst hkeys hn
    have hsame : (n.text == c.text && n.kind == c.kind) = true := by simp [htext, hkind]
    have hk : k ∉ ws.map Prod.fst := (List.nodup_cons.1 hws).1
    rw [List.foldlM_cons, visit_unchanged p hfind hsame, ok_bind,
      visits_unchanged ws _ (List.nodup_cons.1 hws).2 ((List.filter_sublist.map _).nodup hkeys)]
    · simp only [List.filter_filter, Except.ok.injEq, List.length_cons]
      congr 2
      · funext x
        by_cases h₁ : x.1 = k <;> by_cases h₂ : x.1 ∈ ws.map Prod.fst <;> simp [h₁, h₂]
      · omega
    · -- the other keys keep their entries
      intro e he
      obtain ⟨n', hn', ht', hk'⟩ := hall e (List.mem_cons_of_mem _ he)
      have hne : e.1 ≠ k := fun h => hk (h ▸ List.mem_map_of_mem he)
      exact ⟨n', List.mem_filter.2 ⟨hn', by simpa using hne⟩, ht', hk'⟩

/-- A pass over tables whose map a first pass swept writes nothing: every wanted key
already holds its comment, and no stale note is left to prune. -/
theorem reconcile_swept_noop {db : Database} {m m' : NoteMap} {found : List Comment}
    {scope : Option String} (hrep : Represents db m') (hs : Swept m m' found scope)
    (supply : Supply) :
    reconcile db supply found scope =
      .ok (⟨0, 0, (wanted found scope).length, []⟩,
        [summary (wanted found scope).length ⟨0, 0, (wanted found scope).length, []⟩], db,
        supply) := by
  rw [reconcile_of_listing (listing m' scope)
    (fun f hf => by subst hf; rw [← listFile_eq_listing]; exact listFile_eq hrep f)
    (fun hs => by subst hs; rw [← listAll_eq_listing]; exact listAll_eq hrep)]
  have hE := byKey_listing m' scope
  -- each wanted key is listed with its comment's text and kind
  have hall : ∀ e ∈ wanted found scope, ∃ n, (e.1, n) ∈ byKey (listing m' scope) ∧
      n.text = e.2.text ∧ n.kind = e.2.kind := by
    intro e he
    obtain ⟨n', hf, htext, hkind, -⟩ := hs.settled e he
    obtain ⟨hn', hloc⟩ := (m'.find?_eq_some_iff).1 hf
    have hin := (key_of_mem_wanted he).2
    have hpath : n'.filepath = e.2.filepath := congrArg Location.filepath hloc
    have hk : n'.key = e.1 := key_eq_of_mem_wanted he hloc
    refine ⟨n', ?_, htext, hkind⟩
    rw [hE, ← hk]
    exact List.mem_map_of_mem (List.mem_filter.2 ⟨hn', hpath ▸ hin⟩)
  -- and every listed key is wanted
  have hstale : (byKey (listing m' scope)).filter
      (fun x => decide (x.1 ∉ (wanted found scope).map Prod.fst)) = [] := by
    refine List.filter_eq_nil_iff.2 fun x hx => ?_
    rw [hE] at hx
    obtain ⟨n, hn, rfl⟩ := List.mem_map.1 hx
    obtain ⟨hnm, hin⟩ := List.mem_filter.1 hn
    obtain ⟨e, he, hloc⟩ := hs.wanted_of_mem hnm hin
    have hk : n.key = e.1 := key_eq_of_mem_wanted he hloc.symm
    simpa [hk] using List.mem_map_of_mem (f := Prod.fst) he
  rw [visits_unchanged _ _ (nodup_keys_wanted found scope)
    (by rw [hE, List.map_map]; exact nodup_keys_listing m' scope) hall, ok_bind]
  simp only [hstale, sortByKey, List.mergeSort_nil, List.foldlM_nil, pure_eq_ok, ok_bind,
    Nat.zero_add, List.nil_append]

/-! ## Convergence -/

/-- Scans converge.  Two discovered lists that agree file by file give the same pass
from the same tables; and after a pass over the note tables that succeeds, a second
pass with either list creates, updates and prunes nothing, counts every wanted key
unchanged, and leaves the tables exactly as they were, with any supply. -/
theorem reconcile_converges {db : Database} {m : NoteMap} (h : Represents db m)
    {supply : Supply} {D₁ D₂ : List Comment} {scope : Option String}
    (horder : ∀ f, D₂.filter (·.filepath == f) = D₁.filter (·.filepath == f))
    (hlines : ∀ c ∈ D₁, c.line ≤ 4294967295) (hids : CanonicalIds supply D₁.length)
    (hread : StoredReadings supply D₁.length)
    (hroom : ∀ n ∈ m.notes, n.updatedAt + nanosPerMicro < endStored)
    {r : Report} {log : List LogLine} {db' : Database} {s' : Supply}
    (hok : reconcile db supply D₁ scope = .ok (r, log, db', s')) :
    reconcile db supply D₂ scope = reconcile db supply D₁ scope ∧
      ∀ supply₂ : Supply, reconcile db' supply₂ D₂ scope =
        .ok (⟨0, 0, (wantedKeys D₁ scope).card, []⟩,
          [summary (wantedKeys D₁ scope).card ⟨0, 0, (wantedKeys D₁ scope).card, []⟩], db',
          supply₂) := by
  refine ⟨reconcile_eq_of_agree db supply horder scope, fun supply₂ => ?_⟩
  obtain ⟨m', hrep, hs, -⟩ := reconcile_tables_sweeps h hlines hids hread hroom hok
  rw [reconcile_eq_of_agree db' supply₂ horder scope, reconcile_swept_noop hrep hs supply₂,
    card_wantedKeys]

/-- A comment of one file of a scan. -/
def scanOfA : Comment := ⟨"src/a.rs", "tidy up", 3, .todo, false⟩

/-- A comment of another file of a scan. -/
def scanOfB : Comment := ⟨"src/b.rs", "why this", 1, .note, false⟩

/-- A scan of two files, with the files' batches in either order, converges. -/
theorem reconcile_converges_twoFiles :
    ∃ r log db' s', reconcile Database.empty (Supply.start 0) [scanOfA, scanOfB] none =
        .ok (r, log, db', s') ∧
      (reconcile Database.empty (Supply.start 0) [scanOfB, scanOfA] none =
          reconcile Database.empty (Supply.start 0) [scanOfA, scanOfB] none ∧
        ∀ supply₂ : Supply, reconcile db' supply₂ [scanOfB, scanOfA] none =
          .ok (⟨0, 0, (wantedKeys [scanOfA, scanOfB] none).card, []⟩,
            [summary (wantedKeys [scanOfA, scanOfB] none).card
              ⟨0, 0, (wantedKeys [scanOfA, scanOfB] none).card, []⟩], db', supply₂)) := by
  -- the pass creates both notes and prunes nothing
  have hrun : ∃ r log db' s', reconcile Database.empty (Supply.start 0) [scanOfA, scanOfB] none =
      .ok (r, log, db', s') := by
    rw [reconcile_of_listing [] (fun f hf => by cases hf) (fun _ => listAll_eq represents_empty),
      show wanted [scanOfA, scanOfB] none = [(scanOfA.key, scanOfA), (scanOfB.key, scanOfB)] from
        rfl,
      List.foldlM_cons,
      visit_created _ rfl
        (create_tablesOf fun _ (h : _ ∈ ([] : List Note)) => absurd h List.not_mem_nil),
      ok_bind, List.foldlM_cons,
      visit_created _ rfl (create_tablesOf fun x hx => by
        rw [List.nil_append, List.mem_singleton] at hx
        subst hx
        decide)]
    have hnil : byKey [] = [] := rfl
    simp only [ok_bind, hnil, sortByKey, List.mergeSort_nil, List.foldlM_nil, pure_eq_ok]
    exact ⟨_, _, _, _, rfl⟩
  obtain ⟨r, log, db', s', hok⟩ := hrun
  have horder : ∀ f, [scanOfB, scanOfA].filter (·.filepath == f) =
      [scanOfA, scanOfB].filter (·.filepath == f) := by
    intro f
    by_cases ha : scanOfA.filepath = f <;> by_cases hb : scanOfB.filepath = f
    · exact absurd (ha.trans hb.symm) (by decide)
    all_goals simp [ha, hb]
  have hread : StoredReadings (Supply.start 0) [scanOfA, scanOfB].length :=
    storedReadings_epoch (by decide)
  exact ⟨r, log, db', s', hok, reconcile_converges represents_empty horder
    (fun c hc => by simp at hc; rcases hc with rfl | rfl <;> decide) (canonicalIds_start 0 _)
    hread (by simp [NoteMap.empty]) hok⟩

end CodeNotes.Reconcile
