import CodeNotes.Proofs.Reconcile.Keys
import CodeNotes.Proofs.Store.Refinement
set_option autoImplicit false

/-!
# A reconciliation pass over the note map

The note map is itself a store (`NoteStore NoteMap`): its listings are exact and its
writes are the map's operations.  Over it, a pass of `reconcile` is followed key by key.

* `visit_step`: visiting a wanted key settles it (`Settled`: the note at its location
  carries the comment's text and kind, and keeps the identity and creation time of the
  note that was there, its update time moving exactly when text or kind changed), and
  leaves every other location as it was;
* `foldlM_prune`: pruning deletes the stale notes and nothing else;
* `reconcile_noteMap`: the pass never fails; at its end every wanted location is
  settled, every other location in scope is empty, and every location out of scope is
  untouched; the report tallies the wanted keys by what they found.
-/

namespace CodeNotes.Reconcile

open CodeNotes.Store Time

/-! ## The steps of a pass, in any store -/

section Steps

variable {σ : Type} [NoteStore σ]

/-- A pass, once the store has listed `listed` for its scope. -/
theorem reconcile_of_listing {s : σ} {supply : Supply} {found : List Comment}
    {scope : Option String} (listed : List Note)
    (hfile : ∀ f, scope = some f → NoteStore.listFile s f = .ok listed)
    (hall : scope = none → NoteStore.listAll s = .ok listed) :
    reconcile s supply found scope =
      ((wanted found scope).foldlM visit ⟨s, supply, byKey listed, {}, []⟩ >>= fun p =>
        (sortByKey p.existing).foldlM prune { p with existing := [] } >>= fun p =>
          pure (p.report, p.log ++ [summary (wanted found scope).length p.report], p.store,
            p.supply)) := by
  cases scope with
  | none => simp only [reconcile, hall rfl, ok_bind]
  | some f => simp only [reconcile, hfile f rfl, ok_bind]

variable (p : Pass σ) {k : String} {c : Comment} {n : Note}

/-- A key whose note already carries the comment's text and kind is only counted. -/
theorem visit_unchanged (h : p.existing.find? (·.1 == k) = some (k, n))
    (hsame : (n.text == c.text && n.kind == c.kind) = true) :
    visit p (k, c) = .ok
      { p with existing := p.existing.filter (·.1 != k),
               report := { p.report with unchanged := p.report.unchanged + 1 } } := by
  simp only [visit, h, hsame]
  rfl

/-- A key whose note differs is rewritten at the next clock reading. -/
theorem visit_updated (h : p.existing.find? (·.1 == k) = some (k, n))
    (hsame : (n.text == c.text && n.kind == c.kind) = false) :
    visit p (k, c) =
      (NoteStore.update p.store c.location (Draft.ofComment c) p.supply.now.1 >>= fun store =>
        pure { store, supply := p.supply.now.2, existing := p.existing.filter (·.1 != k),
               report := { p.report with updated := p.report.updated + 1 },
               log := p.log ++ [detail ("Updated note " ++ k)] }) := by
  simp only [visit, h, hsame, Bool.false_eq_true, if_false]

/-- A key with no listed note is created, under the next identity and clock reading. -/
theorem visit_created (h : p.existing.find? (·.1 == k) = none) {s' : σ}
    (hcreate : NoteStore.create p.store
      ((Draft.ofComment c).toNote p.supply.fresh.1.1 p.supply.fresh.1.2) = .ok s') :
    visit p (k, c) = .ok
      { p with store := s', supply := p.supply.fresh.2,
               report := { p.report with created := p.report.created + 1 },
               log := p.log ++ [detail ("Created note " ++ k)] } := by
  simp only [visit, h, hcreate]
  rfl

/-- A successful visit of a key with no listed note either created it, or found the
location taken and left it. -/
theorem visit_absent_ok (h : p.existing.find? (·.1 == k) = none) {p' : Pass σ}
    (hok : visit p (k, c) = .ok p') :
    (∃ s', NoteStore.create p.store
        ((Draft.ofComment c).toNote p.supply.fresh.1.1 p.supply.fresh.1.2) = .ok s' ∧
      p' = { p with store := s', supply := p.supply.fresh.2,
                    report := { p.report with created := p.report.created + 1 },
                    log := p.log ++ [detail ("Created note " ++ k)] }) ∨
    ∃ l, NoteStore.create p.store
        ((Draft.ofComment c).toNote p.supply.fresh.1.1 p.supply.fresh.1.2) =
          .error (.alreadyExists l) ∧
      p' = { p with supply := p.supply.fresh.2,
                    log := p.log ++
                      [detail ("Note " ++ k ++ " appeared concurrently, leaving it")] } := by
  simp only [visit, h] at hok
  split at hok
  · next s' hc =>
    exact Or.inl ⟨s', hc, (Except.ok.inj hok).symm⟩
  · next l hc =>
    exact Or.inr ⟨l, hc, (Except.ok.inj hok).symm⟩
  · cases hok

/-- Pruning deletes the note of a stale entry and lists its key. -/
theorem prune_eq (e : String × Note) :
    prune p e = (NoteStore.delete p.store e.2.location >>= fun store =>
      pure { p with store, report := { p.report with pruned := p.report.pruned ++ [e.1] },
                    log := p.log ++ [detail ("Pruned note " ++ e.1)] }) := rfl

end Steps

/-! ## The note map as a store -/

/-- The note map as a store: exact listings, and the map's own writes. -/
instance : NoteStore NoteMap where
  listAll m := .ok m.listAll
  listFile m f := .ok (m.listFile f)
  create m n := m.create n
  update m l d t := m.update l d t
  delete m l := .ok (m.delete l)
  deleteFile m f := .ok (m.deleteFile f)

/-- The notes a pass over `scope` lists. -/
def listing (m : NoteMap) (scope : Option String) : List Note :=
  m.notes.filter fun n => inScope scope n.filepath

theorem Comment.key_location (c : Comment) : c.location.key = c.key := rfl

theorem Note.key_location (n : Note) : n.location.key = n.key := rfl

/-- A note at a comment's location has the comment's key. -/
theorem Note.key_eq_of_location {n : Note} {c : Comment} (h : n.location = c.location) :
    n.key = c.key := by
  rw [← Note.key_location, h, Comment.key_location]

/-- A wanted entry is a comment in scope under its own key. -/
theorem key_of_mem_wanted {found : List Comment} {scope : Option String}
    {e : String × Comment} (he : e ∈ wanted found scope) :
    e.2.key = e.1 ∧ inScope scope e.2.filepath = true := by
  have hfind := (mem_wanted found scope e).1 he
  have hmem := List.mem_filter.1 (List.mem_of_find?_eq_some hfind)
  exact ⟨by simpa using List.find?_some hfind, hmem.2⟩

/-- A note at the location of a wanted entry has the entry's key. -/
theorem key_eq_of_mem_wanted {found : List Comment} {scope : Option String}
    {e : String × Comment} (he : e ∈ wanted found scope) {n : Note}
    (h : n.location = e.2.location) : n.key = e.1 :=
  (Note.key_eq_of_location h).trans (key_of_mem_wanted he).1

theorem nodup_keys_wanted (found : List Comment) (scope : Option String) :
    ((wanted found scope).map Prod.fst).Nodup :=
  List.Pairwise.map _ (fun _ _ h => ne_of_lt h) (keySorted_wanted found scope)

/-- There are no more wanted keys than discovered comments: each wanted key comes with
its own comment. -/
theorem length_wanted_le (found : List Comment) (scope : Option String) :
    (wanted found scope).length ≤ found.length := by
  have hkeys : ((wanted found scope).map Prod.snd).map Comment.key =
      (wanted found scope).map Prod.fst := by
    rw [List.map_map]
    exact List.map_congr_left fun e he => (key_of_mem_wanted he).1
  have hnodup : ((wanted found scope).map Prod.snd).Nodup :=
    List.Nodup.of_map Comment.key (hkeys ▸ nodup_keys_wanted found scope)
  have hsub : (wanted found scope).map Prod.snd ⊆ found := fun c hc => by
    obtain ⟨e, he, rfl⟩ := List.mem_map.1 hc
    exact (List.mem_filter.1 (List.mem_of_find?_eq_some ((mem_wanted found scope e).1 he))).1
  simpa using hnodup.length_le_of_subset hsub

section Listing

variable (m : NoteMap) (scope : Option String)

theorem nodup_keys_listing : ((listing m scope).map (·.key)).Nodup := by
  have hall := m.nodup_locations.map Location.key_injective
  rw [List.map_map] at hall
  exact (List.filter_sublist.map _).nodup hall

theorem listFile_eq_listing (f : String) : m.listFile f = listing m (some f) :=
  List.filter_congr fun n _ => by simp [inScope, eq_comm]

theorem listAll_eq_listing : m.listAll = listing m none :=
  (List.filter_eq_self.2 fun _ _ => rfl).symm

theorem byKey_listing :
    byKey (listing m scope) = (listing m scope).map fun n => (n.key, n) :=
  byKey_eq_map (nodup_keys_listing m scope)

/-- The listing for `scope`, as the note map lists it. -/
theorem reconcile_noteMap_eq (supply : Supply) (found : List Comment) :
    reconcile m supply found scope =
      ((wanted found scope).foldlM visit ⟨m, supply, byKey (listing m scope), {}, []⟩ >>=
        fun p => (sortByKey p.existing).foldlM prune { p with existing := [] } >>= fun p =>
          pure (p.report, p.log ++ [summary (wanted found scope).length p.report], p.store,
            p.supply)) := by
  refine reconcile_of_listing _ (fun f hf => ?_) (fun hs => ?_)
  · subst hf
    exact congrArg Except.ok (listFile_eq_listing m f)
  · subst hs
    exact congrArg Except.ok (listAll_eq_listing m)

/-- The listed entries whose keys are not among the visited ones. -/
def unvisited (ws : List (String × Comment)) : List (String × Note) :=
  (byKey (listing m scope)).filter fun e => decide (e.1 ∉ ws.map Prod.fst)

variable {m scope}

theorem mem_unvisited {ws : List (String × Comment)} {e : String × Note} :
    e ∈ unvisited m scope ws ↔
      e.2 ∈ m.notes ∧ inScope scope e.2.filepath = true ∧ e.1 = e.2.key ∧
        e.1 ∉ ws.map Prod.fst := by
  obtain ⟨k, n⟩ := e
  rw [unvisited, List.mem_filter, byKey_listing]
  simp only [listing, List.mem_filter, List.mem_map, Prod.mk.injEq, decide_eq_true_eq]
  constructor
  · rintro ⟨⟨n', ⟨hn', hs⟩, rfl, rfl⟩, hk⟩
    exact ⟨hn', hs, rfl, hk⟩
  · rintro ⟨hn, hs, rfl, hk⟩
    exact ⟨⟨n, ⟨hn, hs⟩, rfl, rfl⟩, hk⟩

theorem nodup_keys_unvisited (ws : List (String × Comment)) :
    ((unvisited m scope ws).map Prod.fst).Nodup := by
  have hall : ((byKey (listing m scope)).map Prod.fst).Nodup := by
    rw [byKey_listing, List.map_map]
    exact nodup_keys_listing m scope
  exact (List.filter_sublist.map _).nodup hall

/-- Among the unvisited entries, the entry of a comment in scope is the note at the
comment's location. -/
theorem find?_unvisited {ws : List (String × Comment)} {c : Comment}
    (hc : inScope scope c.filepath = true) (hnew : c.key ∉ ws.map Prod.fst) :
    (unvisited m scope ws).find? (·.1 == c.key) = (m.find? c.location).map fun n => (c.key, n) := by
  cases hm : m.find? c.location with
  | some n =>
    obtain ⟨hn, hloc⟩ := (m.find?_eq_some_iff).1 hm
    have hkey : n.key = c.key := Note.key_eq_of_location hloc
    have hpath : n.filepath = c.filepath := congrArg Location.filepath hloc
    have hmem : (c.key, n) ∈ unvisited m scope ws :=
      mem_unvisited.2 ⟨hn, hpath ▸ hc, hkey.symm, hnew⟩
    exact find?_key_eq_some Prod.fst (nodup_keys_unvisited ws) hmem
  | none =>
    rw [Option.map_none, List.find?_eq_none]
    intro x hx hbeq
    obtain ⟨hxm, -, hxk, -⟩ := mem_unvisited.1 hx
    have hloc : x.2.location = c.location := Location.key_injective (by
      rw [Note.key_location, Comment.key_location, ← hxk]
      simpa using hbeq)
    exact (m.find?_eq_none_iff.1 hm) x.2 hxm hloc

end Listing

/-! ## What a visit leaves at its key -/

/-- The location of comment `c` holds a note with the comment's text and kind; if `m`
had a note there, the new one keeps its identity and creation time, and its update time
moves exactly when text or kind changed. -/
def Settled (m m' : NoteMap) (c : Comment) : Prop :=
  ∃ n', m'.find? c.location = some n' ∧ n'.text = c.text ∧ n'.kind = c.kind ∧
    ∀ n, m.find? c.location = some n → n'.id = n.id ∧ n'.createdAt = n.createdAt ∧
      (n'.updatedAt = n.updatedAt ↔ n.text = c.text ∧ n.kind = c.kind)

theorem Settled.of_find?_eq {m m₁ m₂ : NoteMap} {c : Comment} (h : Settled m m₁ c)
    (he : m₂.find? c.location = m₁.find? c.location) : Settled m m₂ c := by
  obtain ⟨n', hf, rest⟩ := h
  exact ⟨n', he.trans hf, rest⟩

/-- A revision moves the update time: the next update time is at least a microsecond
later, and truncation to the microsecond cannot bring it back. -/
theorem updatedAt_revise_ne (old : Note) (d : Draft) (now : Instant) :
    (old.revise d now).updatedAt ≠ old.updatedAt := by
  have htrunc := truncateMicros_eq (Database.nextUpdate old.updatedAt now)
  have hnext : old.updatedAt + 1000 ≤ Database.nextUpdate old.updatedAt now :=
    le_max_right _ _
  simp only [Note.revise]
  unfold Instant at *
  omega

/-- What a pass does at the location of a wanted comment, judged on the map it starts
from. -/
inductive Outcome where
  | created
  | updated
  | unchanged
  deriving DecidableEq, Repr

/-- The outcome at comment `c` of a pass over `m`. -/
def outcome (m : NoteMap) (c : Comment) : Outcome :=
  match m.find? c.location with
  | none => .created
  | some n => if n.text == c.text && n.kind == c.kind then .unchanged else .updated

/-- The counts of a pass over `m` that has visited `ws`. -/
def tally (m : NoteMap) (ws : List (String × Comment)) : Report where
  created := ws.countP fun e => outcome m e.2 == .created
  updated := ws.countP fun e => outcome m e.2 == .updated
  unchanged := ws.countP fun e => outcome m e.2 == .unchanged

theorem tally_nil (m : NoteMap) : tally m [] = {} := rfl

/-- One more visit counts one more key, under its outcome. -/
theorem tally_snoc (m : NoteMap) (ws : List (String × Comment)) (e : String × Comment) :
    tally m (ws ++ [e]) =
      match outcome m e.2 with
      | .created => { tally m ws with created := (tally m ws).created + 1 }
      | .updated => { tally m ws with updated := (tally m ws).updated + 1 }
      | .unchanged => { tally m ws with unchanged := (tally m ws).unchanged + 1 } := by
  cases h : outcome m e.2 <;> simp [tally, List.countP_append, h]

/-- The supply after a pass that created and updated as `r` counts: one identity for
each create, one clock reading for each create or update. -/
def advanced (s : Supply) (r : Report) : Supply :=
  { s with serial := s.serial + r.created, reads := s.reads + (r.created + r.updated) }

@[simp] theorem ids_advanced (s : Supply) (r : Report) : (advanced s r).ids = s.ids := rfl

@[simp] theorem clock_advanced (s : Supply) (r : Report) : (advanced s r).clock = s.clock := rfl

theorem fresh_advanced (s : Supply) (r : Report) :
    (advanced s r).fresh.2 = advanced s { r with created := r.created + 1 } := by
  simp only [advanced, Supply.fresh, Supply.mk.injEq, true_and]
  omega

theorem now_advanced (s : Supply) (r : Report) :
    (advanced s r).now.2 = advanced s { r with updated := r.updated + 1 } := by
  simp only [advanced, Supply.now, Supply.mk.injEq, true_and]
  omega

theorem advanced_empty (s : Supply) : advanced s {} = s := rfl

/-- Each visited key takes at most one clock reading. -/
theorem tally_created_add_updated (m : NoteMap) :
    ∀ ws : List (String × Comment), (tally m ws).created + (tally m ws).updated ≤ ws.length
  | [] => by simp [tally]
  | e :: ws => by
    have ih := tally_created_add_updated m ws
    simp only [tally, List.countP_cons, List.length_cons] at ih ⊢
    cases outcome m e.2 <;> simp <;> omega

/-! ## The pass over the wanted keys -/

section Visits

variable {m₀ : NoteMap} {scope : Option String} {s₀ : Supply}

/-- The state of a pass over `m₀` that has visited the wanted entries `ws`, with
supply `s₀` at its start: the entries left to list are the unvisited ones, each visited
comment is settled, every location of an unvisited key is as it was, and report and
supply count the outcomes. -/
structure Visited (m₀ : NoteMap) (scope : Option String) (s₀ : Supply)
    (ws : List (String × Comment)) (p : Pass NoteMap) : Prop where
  existing : p.existing = unvisited m₀ scope ws
  settled : ∀ e ∈ ws, Settled m₀ p.store e.2
  frame : ∀ l, l.key ∉ ws.map Prod.fst → p.store.find? l = m₀.find? l
  report : p.report = tally m₀ ws
  supply : p.supply = advanced s₀ (tally m₀ ws)

theorem visited_nil : Visited m₀ scope s₀ [] ⟨m₀, s₀, byKey (listing m₀ scope), {}, []⟩ where
  existing := (List.filter_eq_self.2 fun _ _ => by simp).symm
  settled _ h := absurd h List.not_mem_nil
  frame _ _ := rfl
  report := rfl
  supply := (advanced_empty s₀).symm

/-- A step that drops key `e.1` from the entries, settles `e.2` and writes at nowhere
but its location extends the visited prefix by `e`. -/
theorem Visited.extend {ws : List (String × Comment)} {p p' : Pass NoteMap}
    (hv : Visited m₀ scope s₀ ws p) (hws : ∀ e ∈ ws, e.2.key = e.1)
    {e : String × Comment} (he : e.2.key = e.1) (hnew : e.1 ∉ ws.map Prod.fst)
    (hexisting : p'.existing = p.existing.filter (·.1 != e.1))
    (hsettled : Settled m₀ p'.store e.2)
    (hframe : ∀ l, l ≠ e.2.location → p'.store.find? l = p.store.find? l)
    (hreport : p'.report = tally m₀ (ws ++ [e]))
    (hsupply : p'.supply = advanced s₀ (tally m₀ (ws ++ [e]))) :
    Visited m₀ scope s₀ (ws ++ [e]) p' where
  existing := by
    rw [hexisting, hv.existing, unvisited, unvisited, List.filter_filter]
    refine List.filter_congr fun x _ => ?_
    by_cases h₁ : x.1 = e.1 <;> by_cases h₂ : x.1 ∈ ws.map Prod.fst <;> simp [h₁, h₂]
  settled x hx := by
    rcases List.mem_append.1 hx with hx | hx
    · refine (hv.settled x hx).of_find?_eq (hframe _ fun hloc => hnew ?_)
      have hkey : x.1 = e.1 := by
        rw [← hws x hx, ← he, ← Comment.key_location, hloc, Comment.key_location]
      exact hkey ▸ List.mem_map_of_mem hx
    · rw [List.mem_singleton.1 hx]
      exact hsettled
  frame l hl := by
    have hne : l ≠ e.2.location := fun h => hl (by simp [h, Comment.key_location, he])
    rw [hframe l hne, hv.frame l (fun h => hl (by simp_all))]
  report := hreport
  supply := hsupply

/-- The entry a visit finds for a comment in scope of an unvisited key: the note at its
location before the pass. -/
theorem Visited.find?_existing {ws : List (String × Comment)} {p : Pass NoteMap}
    (hv : Visited m₀ scope s₀ ws p) {c : Comment} (hin : inScope scope c.filepath = true)
    (hnew : c.key ∉ ws.map Prod.fst) :
    p.existing.find? (·.1 == c.key) = (m₀.find? c.location).map fun n => (c.key, n) := by
  rw [hv.existing]
  exact find?_unvisited hin hnew

/-- No visit so far wrote at the location of an unvisited key. -/
theorem Visited.find?_store {ws : List (String × Comment)} {p : Pass NoteMap}
    (hv : Visited m₀ scope s₀ ws p) {c : Comment} (hnew : c.key ∉ ws.map Prod.fst) :
    p.store.find? c.location = m₀.find? c.location :=
  hv.frame _ (by rwa [Comment.key_location])

/-- Over the note map, visiting a wanted entry never fails, and extends the visited
prefix. -/
theorem visit_step {ws : List (String × Comment)} {p : Pass NoteMap}
    (hv : Visited m₀ scope s₀ ws p) (hws : ∀ e ∈ ws, e.2.key = e.1)
    {e : String × Comment} (he : e.2.key = e.1) (hin : inScope scope e.2.filepath = true)
    (hnew : e.1 ∉ ws.map Prod.fst) :
    ∃ p', visit p e = .ok p' ∧ Visited m₀ scope s₀ (ws ++ [e]) p' := by
  obtain ⟨k, c⟩ := e
  simp only at he hin hnew
  subst he
  have hfind := hv.find?_existing hin hnew
  have hcur := hv.find?_store hnew
  have hreport := tally_snoc m₀ ws (c.key, c)
  cases hm : m₀.find? c.location with
  | none =>
    have hout : outcome m₀ c = .created := by simp [outcome, hm]
    rw [hm, Option.map_none] at hfind
    set n := (Draft.ofComment c).toNote p.supply.fresh.1.1 p.supply.fresh.1.2
    have hcreate : NoteStore.create p.store n = .ok (p.store.insert n.truncate) :=
      NoteMap.create_of_free _ (hcur.trans hm)
    refine ⟨_, visit_created p hfind hcreate, hv.extend hws rfl hnew ?_ ?_ ?_ ?_ ?_⟩
    · -- no listed entry has the key
      exact (List.filter_eq_self.2 fun x hx => by
        simpa using (List.find?_eq_none.1 hfind) x hx).symm
    · exact ⟨n.truncate, by rw [NoteMap.find?_insert]; exact if_pos rfl, rfl, rfl,
        fun _ h => absurd h (by simp [hm])⟩
    · intro l hl
      rw [NoteMap.find?_insert]
      exact if_neg fun h => hl h.symm
    · rw [hreport, hout, hv.report]
    · rw [hreport, hout, hv.supply, fresh_advanced]
  | some n =>
    rw [hm, Option.map_some] at hfind
    by_cases hsame : (n.text == c.text && n.kind == c.kind) = true
    · have hout : outcome m₀ c = .unchanged := by simp [outcome, hm, hsame]
      have hfields : n.text = c.text ∧ n.kind = c.kind := by simpa using hsame
      refine ⟨_, visit_unchanged p hfind hsame,
        hv.extend hws rfl hnew rfl ?_ (fun _ _ => rfl) ?_ ?_⟩
      · refine ⟨n, hcur.trans hm, hfields.1, hfields.2, fun n₀ hn₀ => ?_⟩
        cases Option.some.inj (hm.symm.trans hn₀)
        exact ⟨rfl, rfl, iff_of_true rfl hfields⟩
      · rw [hreport, hout, hv.report]
      · rw [hreport, hout]
        exact hv.supply
    · have hsame' : (n.text == c.text && n.kind == c.kind) = false := by simpa using hsame
      have hout : outcome m₀ c = .updated := by simp [outcome, hm, hsame']
      set n' := n.revise (Draft.ofComment c) p.supply.now.1
      have hupdate : NoteStore.update p.store c.location (Draft.ofComment c) p.supply.now.1 =
          .ok ((p.store.erase c.location).insert n') :=
        NoteMap.update_in_place _ (hcur.trans hm) rfl _
      refine ⟨_, by rw [visit_updated p hfind hsame', hupdate]; rfl,
        hv.extend hws rfl hnew rfl ?_ ?_ ?_ ?_⟩
      · refine ⟨n', by rw [NoteMap.find?_insert]; exact if_pos rfl, rfl, rfl, fun n₀ hn₀ => ?_⟩
        cases Option.some.inj (hm.symm.trans hn₀)
        refine ⟨rfl, rfl, iff_of_false (updatedAt_revise_ne _ _ _) fun h => hsame ?_⟩
        simp [h.1, h.2]
      · intro l hl
        rw [NoteMap.find?_insert, NoteMap.find?_erase]
        exact (if_neg fun h => hl h.symm).trans (if_neg fun h => hl h.symm)
      · rw [hreport, hout, hv.report]
      · rw [hreport, hout, hv.supply, now_advanced]

/-- The next entry of a run over wanted entries (comments in scope under their own keys,
no key twice) is one itself, its key is new to the entries done, and those are under
their own keys: what `visit_step` asks of it. -/
theorem next_of_entries {ws rest : List (String × Comment)} {e : String × Comment}
    (hent : ∀ x ∈ ws ++ e :: rest, x.2.key = x.1 ∧ inScope scope x.2.filepath = true)
    (hnodup : ((ws ++ e :: rest).map Prod.fst).Nodup) :
    (∀ x ∈ ws, x.2.key = x.1) ∧ (e.2.key = e.1 ∧ inScope scope e.2.filepath = true) ∧
      e.1 ∉ ws.map Prod.fst := by
  refine ⟨fun x hx => (hent x (List.mem_append_left _ hx)).1,
    hent e (List.mem_append_right _ List.mem_cons_self), fun h => ?_⟩
  rw [List.map_append, List.map_cons, List.nodup_middle, List.nodup_cons] at hnodup
  exact hnodup.1 (List.mem_append_left _ h)

/-- The run over the rest of the wanted entries: it never fails, and visits them all.
The induction is on the entries left; the invariant is `Visited` of the prefix done. -/
theorem foldlM_visit :
    ∀ (rest ws : List (String × Comment)) (p : Pass NoteMap), Visited m₀ scope s₀ ws p →
      (∀ e ∈ ws ++ rest, e.2.key = e.1 ∧ inScope scope e.2.filepath = true) →
      ((ws ++ rest).map Prod.fst).Nodup →
      ∃ p', rest.foldlM visit p = .ok p' ∧ Visited m₀ scope s₀ (ws ++ rest) p'
  | [], ws, p, hv, _, _ => ⟨p, rfl, by simpa using hv⟩
  | e :: rest, ws, p, hv, hent, hnodup => by
    obtain ⟨hws, ⟨he, hin⟩, hnew⟩ := next_of_entries hent hnodup
    obtain ⟨p₁, h₁, hv₁⟩ := visit_step hv hws he hin hnew
    rw [List.append_cons] at hent hnodup ⊢
    obtain ⟨p', h', hv'⟩ := foldlM_visit rest (ws ++ [e]) p₁ hv₁ hent hnodup
    refine ⟨p', ?_, hv'⟩
    rw [List.foldlM_cons, h₁, ok_bind]
    exact h'

end Visits

/-! ## Pruning -/

theorem delete_noteMap (m : NoteMap) (l : Location) : NoteStore.delete m l = .ok (m.delete l) :=
  rfl

/-- Pruning over the note map never fails: it deletes the entries' locations in turn and
lists their keys. -/
theorem foldlM_prune :
    ∀ (es : List (String × Note)) (p : Pass NoteMap),
      es.foldlM prune p =
        .ok { p with store := es.foldl (fun m e => m.delete e.2.location) p.store,
                     report := { p.report with pruned := p.report.pruned ++ es.map Prod.fst },
                     log := p.log ++ es.map fun e => detail ("Pruned note " ++ e.1) }
  | [], p => by simp
  | e :: es, p => by
    rw [List.foldlM_cons, prune_eq, delete_noteMap, ok_bind, pure_eq_ok, ok_bind,
      foldlM_prune es]
    simp

/-- After deleting the locations of some entries, a location is empty if one of them
stood there, and otherwise as it was. -/
theorem find?_foldl_delete :
    ∀ (es : List (String × Note)) (m : NoteMap) (l : Location),
      (es.foldl (fun m e => m.delete e.2.location) m).find? l =
        if es.any (·.2.location == l) then none else m.find? l
  | [], m, l => by simp
  | e :: es, m, l => by
    rw [List.foldl_cons, find?_foldl_delete es, NoteMap.delete, NoteMap.find?_erase]
    by_cases h : e.2.location = l
    · simp [h]
    · have hb : (e.2.location == l) = false := by simpa using h
      rw [if_neg h, List.any_cons, hb, Bool.false_or]

/-! ## The end of a pass -/

/-- The map `m'` at the end of a pass over `m`: every wanted location is settled, every
other location in scope is empty, and every location out of scope is as it was. -/
structure Swept (m m' : NoteMap) (found : List Comment) (scope : Option String) : Prop where
  settled : ∀ e ∈ wanted found scope, Settled m m' e.2
  cleared : ∀ l, inScope scope l.filepath = true → l.key ∉ (wanted found scope).map Prod.fst →
    m'.find? l = none
  outside : ∀ l, inScope scope l.filepath = false → m'.find? l = m.find? l

/-- Pruning the entries left after all the visits sweeps the map. -/
theorem swept_of_visited {m : NoteMap} {found : List Comment} {scope : Option String}
    {s₀ : Supply} {q : Pass NoteMap} (hv : Visited m scope s₀ (wanted found scope) q) :
    Swept m ((sortByKey q.existing).foldl (fun m e => m.delete e.2.location) q.store)
      found scope := by
  -- the pruned locations are those of the unvisited entries
  have hany : ∀ l, (sortByKey q.existing).any (·.2.location == l) = true ↔
      ∃ x ∈ unvisited m scope (wanted found scope), x.2.location = l := by
    intro l
    simp [hv.existing, sortByKey, List.mem_mergeSort]
  -- a location in scope is pruned exactly when it held a note of an unwanted key
  have hkey : ∀ {x : String × Note}, x ∈ unvisited m scope (wanted found scope) →
      ∀ e ∈ wanted found scope, x.2.location ≠ e.2.location := by
    intro x hx e he hloc
    obtain ⟨-, -, hxk, hxw⟩ := mem_unvisited.1 hx
    refine hxw ?_
    rw [hxk, key_eq_of_mem_wanted he hloc]
    exact List.mem_map_of_mem he
  -- a location out of scope holds no wanted comment
  have hout : ∀ l : Location, inScope scope l.filepath = false →
      l.key ∉ (wanted found scope).map Prod.fst := by
    intro l hl hk
    obtain ⟨e, he, hek⟩ := List.mem_map.1 hk
    obtain ⟨hkey', hin⟩ := key_of_mem_wanted he
    have hloc : e.2.location = l :=
      Location.key_injective (by rw [Comment.key_location, hkey', hek])
    rw [← hloc] at hl
    exact absurd hin (by simp [Comment.location] at hl; simp [hl])
  refine ⟨fun e he => ?_, fun l hl hk => ?_, fun l hl => ?_⟩
  · refine (hv.settled e he).of_find?_eq ?_
    rw [find?_foldl_delete, if_neg]
    rintro hin
    obtain ⟨x, hx, hxl⟩ := (hany _).1 hin
    exact hkey hx e he hxl
  · rw [find?_foldl_delete]
    cases hm : m.find? l with
    | none => simp [hv.frame l hk, hm]
    | some n =>
      obtain ⟨hn, hnl⟩ := m.find?_eq_some_iff.1 hm
      have hpath : n.filepath = l.filepath := congrArg Location.filepath hnl
      have hx : (n.key, n) ∈ unvisited m scope (wanted found scope) :=
        mem_unvisited.2 ⟨hn, hpath ▸ hl, rfl, by rwa [← Note.key_location, hnl]⟩
      rw [if_pos ((hany l).2 ⟨_, hx, hnl⟩)]
  · rw [find?_foldl_delete, if_neg, hv.frame l (hout l hl)]
    rintro hin
    obtain ⟨x, hx, hxl⟩ := (hany _).1 hin
    obtain ⟨-, hxs, -, -⟩ := mem_unvisited.1 hx
    rw [← hxl] at hl
    exact absurd hxs (by simp [Note.location] at hl; simp [hl])

/-- Over the note map a pass never fails.  It tallies the wanted keys by outcome, prunes
the unvisited listed entries in key order, takes one identity per create and one clock
reading per create or update, and sweeps the map. -/
theorem reconcile_noteMap (m : NoteMap) (supply : Supply) (found : List Comment)
    (scope : Option String) :
    ∃ m' log, reconcile m supply found scope =
        .ok ({ tally m (wanted found scope) with
                pruned := (sortByKey (unvisited m scope (wanted found scope))).map Prod.fst },
              log, m', advanced supply (tally m (wanted found scope))) ∧
      Swept m m' found scope := by
  obtain ⟨q, hq, hv⟩ := foldlM_visit (wanted found scope) [] _
    (visited_nil : Visited m scope supply [] _)
    (by rw [List.nil_append]; exact fun e he => key_of_mem_wanted he)
    (by rw [List.nil_append]; exact nodup_keys_wanted found scope)
  rw [List.nil_append] at hv
  refine ⟨(sortByKey q.existing).foldl (fun m e => m.delete e.2.location) q.store, ?_⟩
  rw [reconcile_noteMap_eq, hq, ok_bind, foldlM_prune, ok_bind, pure_eq_ok]
  exact ⟨_, by simp only [hv.report, hv.supply, hv.existing]; rfl, swept_of_visited hv⟩

end CodeNotes.Reconcile
