import CodeNotes.Proofs.Reconcile.Postcondition
set_option autoImplicit false

/-!
# Reconciling a store whose listings lag

A `Lagging` store leaves the notes at some keys out of its listings, as a store does
whose listing was taken before another writer added those notes.  A pass over it sees
only the visible notes; at a wanted key that a hidden note holds, its create is refused
with `alreadyExists`, and the pass leaves the note and counts the key nowhere.

The pass is run beside the pass over the visible notes alone (`Shadows`): the tables hold
the hidden notes, and everywhere else what the visible pass holds (`Overlays`).  The
visible pass creates a note at a hidden key, where the lagging pass is refused; that is
the only difference, and it shows only in the count of creates.

Main statement: `reconcile_lagging`, the pass never fails, keeps every hidden note as it
was, leaves in scope the wanted keys and the hidden keys, and counts and prunes only what
the visible notes give.
-/

namespace CodeNotes

namespace Store

namespace NoteMap

/-- The notes of a map that pass `p`. -/
def keep (m : NoteMap) (p : Note → Bool) : NoteMap := ⟨m.notes.filter p, m.sorted.filter _⟩

@[simp] theorem mem_keep {m : NoteMap} {p : Note → Bool} {x : Note} :
    x ∈ (m.keep p).notes ↔ x ∈ m.notes ∧ p x = true :=
  List.mem_filter

theorem find?_keep (m : NoteMap) (p : Note → Bool) (l : Location) :
    (m.keep p).find? l = (m.find? l).filter p := by
  cases h : m.find? l with
  | none =>
    rw [Option.filter_none, find?_eq_none_iff]
    intro x hx
    exact (m.find?_eq_none_iff).1 h x (mem_keep.1 hx).1
  | some n =>
    obtain ⟨hn, rfl⟩ := (m.find?_eq_some_iff).1 h
    by_cases hp : p n = true
    · rw [Option.filter_some, if_pos hp]
      exact (find?_eq_some_iff _).2 ⟨mem_keep.2 ⟨hn, hp⟩, rfl⟩
    · rw [Option.filter_some, if_neg hp, find?_eq_none_iff]
      intro x hx hloc
      obtain ⟨hx, hpx⟩ := mem_keep.1 hx
      exact hp (m.eq_of_location_eq hx hn hloc ▸ hpx)

end NoteMap

/-! ## The lagging store -/

namespace Lagging

theorem create_eq (s : Lagging) (n : Note) :
    NoteStore.create s n = (s.db.create n).map fun db => { s with db } := rfl

theorem update_eq (s : Lagging) (l : Location) (d : Draft) (now : Time.Instant) :
    NoteStore.update s l d now = (s.db.update l d now).map fun db => { s with db } := rfl

theorem delete_eq (s : Lagging) (l : Location) :
    NoteStore.delete s l = (s.db.delete l).map fun db => { s with db } := rfl

end Lagging

/-- A write that the map takes, the tables take too, and then represent the map. -/
theorem Simulates.eq_ok {c : Except StoreError Database} {m : NoteMap}
    (h : Simulates c (.ok m)) : ∃ db, c = .ok db ∧ Represents db m := by
  cases c with
  | error e => exact h.elim
  | ok db => exact ⟨db, rfl, h⟩

/-- A create at a taken location is refused with `alreadyExists`, whatever its identity. -/
theorem create_tablesOf_taken {ns : List Note} {n : Note}
    (htaken : ns.any (·.location == n.location) = true) :
    (tablesOf ns).create n = .error (.alreadyExists n.location) := by
  have hloc : (ns.map Database.rowOf).any (Database.atLocation n.location) = true := by
    simpa [List.any_map, Function.comp_def, atLocation_rowOf] using htaken
  unfold Database.create
  simp only [tablesOf, Database.noteRows, Database.contentRows, ok_bind, hloc, if_true,
    throw_eq_error]
  rfl

theorem create_of_taken {db : Database} {m : NoteMap} (h : Represents db m) {n x : Note}
    (hx : m.find? n.location = some x) : db.create n = .error (.alreadyExists n.location) := by
  obtain ⟨ns, rfl, -, hperm⟩ := h
  refine create_tablesOf_taken ?_
  rw [any_location_of_perm hperm, hx]
  rfl

end Store

namespace Reconcile

open Store Time Database

/-! ## Hidden and visible notes -/

section Parts

variable (m : NoteMap) (hidden : List String)

/-- The notes a lagging store leaves out of its listings. -/
def hiddenPart : NoteMap := m.keep fun n => hidden.contains n.key

/-- The notes a lagging store lists. -/
def visiblePart : NoteMap := m.keep fun n => !hidden.contains n.key

/-- A map `m` that holds the notes of `a`, and where `a` has none, the notes of `b`. -/
def Overlays (a b m : NoteMap) : Prop := ∀ l, m.find? l = (a.find? l).or (b.find? l)

/-- A map holds its hidden notes and, elsewhere, its visible ones. -/
theorem overlays_parts : Overlays (hiddenPart m hidden) (visiblePart m hidden) m := by
  intro l
  simp only [hiddenPart, visiblePart, NoteMap.find?_keep]
  cases m.find? l with
  | none => rfl
  | some n =>
    cases hc : hidden.contains n.key
    · rw [Option.filter_some, Option.filter_some, if_neg (by rw [hc]; decide), if_pos (by rw [hc]; rfl),
        Option.none_or]
    · rw [Option.filter_some, if_pos hc, Option.some_or]

variable {m hidden}

/-- Where a visible note stands, no note is hidden. -/
theorem find?_hiddenPart_of_visible {l : Location} {n : Note}
    (h : (visiblePart m hidden).find? l = some n) : (hiddenPart m hidden).find? l = none := by
  simp only [visiblePart, hiddenPart, NoteMap.find?_keep, Option.filter_eq_some_iff] at h ⊢
  obtain ⟨hf, hn⟩ := h
  rw [hf, Option.filter_some, if_neg (by simpa using hn)]

theorem find?_hiddenPart_of_mem {n : Note} (hn : n ∈ m.notes) (hh : hidden.contains n.key = true) :
    (hiddenPart m hidden).find? n.location = some n :=
  (NoteMap.find?_eq_some_iff _).2 ⟨NoteMap.mem_keep.2 ⟨hn, hh⟩, rfl⟩

end Parts

/-! ## Maps over maps -/

section Overlays

variable {a b m : NoteMap}

theorem mem_storedKeys_iff_find? {m : NoteMap} {scope : Option String} {k : String} :
    k ∈ storedKeys m scope ↔
      ∃ l : Location, l.key = k ∧ inScope scope l.filepath = true ∧ (m.find? l).isSome := by
  rw [mem_storedKeys]
  constructor
  · rintro ⟨n, hn, hs, rfl⟩
    exact ⟨n.location, rfl, hs, by rw [(m.find?_eq_some_iff).2 ⟨hn, rfl⟩]; rfl⟩
  · rintro ⟨l, rfl, hs, hsome⟩
    obtain ⟨n, hf⟩ := Option.isSome_iff_exists.1 hsome
    obtain ⟨hn, rfl⟩ := (m.find?_eq_some_iff).1 hf
    exact ⟨n, hn, hs, rfl⟩

/-- The keys in scope of a map over another are the keys of both. -/
theorem storedKeys_of_overlays (h : Overlays a b m) (scope : Option String) :
    storedKeys m scope = storedKeys a scope ∪ storedKeys b scope := by
  ext k
  simp only [Finset.mem_union, mem_storedKeys_iff_find?, h _, Option.isSome_or, Bool.or_eq_true,
    and_or_left, exists_or]

/-- Writing a note where `a` has none writes it into the map over `b`. -/
theorem Overlays.insert (h : Overlays a b m) {n : Note} (hfree : a.find? n.location = none) :
    Overlays a (b.insert n) (m.insert n) := by
  intro l
  rw [NoteMap.find?_insert, NoteMap.find?_insert]
  by_cases hl : n.location = l
  · rw [if_pos hl, if_pos hl, ← hl, hfree, Option.none_or]
  · rw [if_neg hl, if_neg hl, h l]

/-- Erasing a location where `a` has no note erases it from the map over `b`. -/
theorem Overlays.erase (h : Overlays a b m) {l : Location} (hfree : a.find? l = none) :
    Overlays a (b.erase l) (m.erase l) := by
  intro l'
  rw [NoteMap.find?_erase, NoteMap.find?_erase]
  by_cases hl : l = l'
  · rw [if_pos hl, if_pos hl, ← hl, hfree, Option.none_or]
  · rw [if_neg hl, if_neg hl, h l']

/-- Writing a note where `a` has one changes nothing of the map over `b`. -/
theorem Overlays.insert_under (h : Overlays a b m) {n x : Note} (hx : a.find? n.location = some x) :
    Overlays a (b.insert n) m := by
  intro l
  rw [h l, NoteMap.find?_insert]
  by_cases hl : n.location = l
  · rw [if_pos hl, ← hl, hx, Option.some_or, Option.some_or]
  · rw [if_neg hl]

end Overlays

/-! ## What a pass over a lagging store reads -/

section Reads

variable {db : Database} {m : NoteMap}

/-- A lagging store over tables that represent `m` lists the visible notes of a file. -/
theorem listFile_lagging (h : Represents db m) (hidden : List String) (f : String) :
    NoteStore.listFile (⟨db, hidden⟩ : Lagging) f = .ok (listing (visiblePart m hidden) (some f)) := by
  change (db.listFile f).map _ = _
  rw [listFile_eq h f, map_ok]
  simp only [Lagging.visible, NoteMap.listFile, listing, visiblePart, NoteMap.keep,
    List.filter_filter, inScope, Option.all_some]
  exact congrArg Except.ok (List.filter_congr fun n _ => by rw [Bool.and_comm, Bool.beq_comm])

/-- A lagging store over tables that represent `m` lists the visible notes. -/
theorem listAll_lagging (h : Represents db m) (hidden : List String) :
    NoteStore.listAll (⟨db, hidden⟩ : Lagging) = .ok (listing (visiblePart m hidden) none) := by
  change db.listAll.map _ = _
  rw [listAll_eq h, map_ok]
  simp [Lagging.visible, NoteMap.listAll, listing, visiblePart, NoteMap.keep, inScope]

end Reads

/-- A key with no listed note whose create finds the location taken is left: the pass
takes the identity, logs the key and counts nothing. -/
theorem visit_taken {σ : Type} [NoteStore σ] (p : Pass σ) {k : String} {c : Comment}
    (h : p.existing.find? (·.1 == k) = none) {l : Location}
    (hcreate : NoteStore.create p.store
      ((Draft.ofComment c).toNote p.supply.fresh.1.1 p.supply.fresh.1.2) =
        .error (.alreadyExists l)) :
    visit p (k, c) = .ok
      { p with supply := p.supply.fresh.2,
               log := p.log ++ [detail ("Note " ++ k ++ " appeared concurrently, leaving it")] } := by
  simp only [visit, h, hcreate]
  rfl

/-- No note of `m` has an identity of `ids` from number `next` to just below `stop`. -/
def IdsAhead (ids : Nat → String) (m : NoteMap) (next stop : Nat) : Prop :=
  ∀ n ∈ m.notes, ∀ j, next ≤ j → j < stop → n.id ≠ ids j

namespace IdsAhead

variable {ids : Nat → String} {m : NoteMap} {next stop : Nat}

theorem succ (h : IdsAhead ids m next stop) : IdsAhead ids m (next + 1) stop :=
  fun n hn j hj hjs => h n hn j (Nat.le_of_succ_le hj) hjs

theorem erase (h : IdsAhead ids m next stop) (l : Location) : IdsAhead ids (m.erase l) next stop :=
  fun n hn => h n ((NoteMap.mem_erase _).1 hn).1

/-- Rewriting a note keeps its identity. -/
theorem revise (h : IdsAhead ids m next stop) {old : Note} (hold : old ∈ m.notes) (l : Location)
    (d : Draft) (now : Instant) : IdsAhead ids ((m.erase l).insert (old.revise d now)) next stop := by
  intro n hn
  rcases (NoteMap.mem_insert _).1 hn with rfl | ⟨hn, -⟩
  · exact h old hold
  · exact h.erase l n hn

/-- A note under identity number `next`, which no later number repeats, keeps the
identities from `next + 1` on ahead. -/
theorem insert_next (h : IdsAhead ids m next stop)
    (hdistinct : ∀ j, next < j → j < stop → ids next ≠ ids j) {n : Note}
    (hn : n.id = ids next) : IdsAhead ids (m.insert n) (next + 1) stop := by
  intro x hx j hj hjs
  rcases (NoteMap.mem_insert _).1 hx with rfl | ⟨hx, -⟩
  · rw [hn]
    exact hdistinct j hj hjs
  · exact h.succ x hx j hj hjs

end IdsAhead

/-- The next `k` identities of the supply are new: none is the identity of a note of `m`,
and no two are equal, as random version-4 UUIDs are. -/
structure FreshIds (s : Supply) (k : Nat) (m : NoteMap) : Prop where
  unused : ∀ j, s.serial ≤ j → j < s.serial + k → ∀ n ∈ m.notes, n.id ≠ s.ids j
  distinct : ∀ i j, s.serial ≤ i → i < j → j < s.serial + k → s.ids i ≠ s.ids j

/-! ## The lagging pass beside the visible pass -/

/-- A pass over a lagging store in step with the pass over its visible notes.  The
tables represent a map that holds the hidden notes of `m₀` and, elsewhere, what the
visible pass holds, and none of whose notes has an identity the supply has still to hand
out; supply and entries are the visible pass's, and so is the report, except that a
create refused at a hidden note counts nowhere. -/
structure Shadows (m₀ : NoteMap) (hidden : List String) (s₀ : Supply) (k : Nat)
    (ws : List (String × Comment)) (p : Pass Lagging) (q : Pass NoteMap) : Prop where
  keys : p.store.hidden = hidden
  tables : ∃ m, Represents p.store.db m ∧ Overlays (hiddenPart m₀ hidden) q.store m ∧
    IdsAhead s₀.ids m p.supply.serial (s₀.serial + k)
  supply : p.supply = q.supply
  existing : p.existing = q.existing
  created : p.report.created +
      ws.countP (fun e => ((hiddenPart m₀ hidden).find? e.2.location).isSome) = q.report.created
  updated : p.report.updated = q.report.updated
  unchanged : p.report.unchanged = q.report.unchanged
  pruned : p.report.pruned = q.report.pruned

/-- A pass that has visited `ws` has handed out at most one identity per visit. -/
theorem Visited.serial_le {m₀ : NoteMap} {scope : Option String} {s₀ : Supply}
    {ws : List (String × Comment)} {q : Pass NoteMap} (hv : Visited m₀ scope s₀ ws q) :
    s₀.serial ≤ q.supply.serial ∧ q.supply.serial ≤ s₀.serial + ws.length := by
  have hcount := tally_created_add_updated m₀ ws
  rw [hv.supply]
  simp only [advanced]
  omega

section Shadowing

variable {m₀ : NoteMap} {hidden : List String} {scope : Option String} {s₀ : Supply} {k : Nat}

/-- Visiting a wanted entry on the lagging store never fails, and keeps it in step with
the visit on the visible notes.  The cases are those of the visible pass: a visible note
left or rewritten, or no visible note, where the lagging create is refused at a hidden
note and otherwise creates what the visible pass creates. -/
theorem visit_shadows {ws : List (String × Comment)} {p : Pass Lagging} {q : Pass NoteMap}
    (hs : Shadows m₀ hidden s₀ k ws p q) (hv : Visited (visiblePart m₀ hidden) scope s₀ ws q)
    (hws : ∀ e ∈ ws, e.2.key = e.1) {e : String × Comment} (he : e.2.key = e.1)
    (hin : inScope scope e.2.filepath = true) (hnew : e.1 ∉ ws.map Prod.fst)
    (hline : e.2.line ≤ 4294967295) (hclock : Storable (q.supply.clock q.supply.reads))
    (hid : readId (q.supply.ids q.supply.serial) = .ok (q.supply.ids q.supply.serial))
    (hroom : ∀ n ∈ m₀.notes, n.updatedAt + nanosPerMicro < endStored)
    (hdistinct : ∀ i j, s₀.serial ≤ i → i < j → j < s₀.serial + k → s₀.ids i ≠ s₀.ids j)
    (hmore : ws.length < k) :
    ∃ p' q', visit p e = .ok p' ∧ visit q e = .ok q' ∧ Shadows m₀ hidden s₀ k (ws ++ [e]) p' q' ∧
      Visited (visiblePart m₀ hidden) scope s₀ (ws ++ [e]) q' := by
  obtain ⟨q', hq', hv'⟩ := visit_step hv hws he hin hnew
  have hq := hq'
  obtain ⟨key, c⟩ := e
  simp only at he hin hnew hline
  subst he
  obtain ⟨⟨db, hid⟩, supply, existing, report, log⟩ := p
  obtain ⟨hkeys, ⟨m, hrep, hover, hfresh⟩, hsupply, hexisting, hcreated, hupdated, hunchanged,
    hpruned⟩ := hs
  simp only at hkeys hrep hfresh hsupply hexisting hcreated hupdated hunchanged hpruned
  subst hid supply existing
  set p : Pass Lagging := ⟨⟨db, hidden⟩, q.supply, q.existing, report, log⟩
  have hfind := hv.find?_existing hin hnew
  have hcur := hv.find?_store hnew
  -- the serial of the next create is one the supply has still to hand out
  have hserial : s₀.serial ≤ q.supply.serial ∧ q.supply.serial < s₀.serial + k :=
    ⟨hv.serial_le.1, lt_of_le_of_lt hv.serial_le.2 (by omega)⟩
  cases hm : (visiblePart m₀ hidden).find? c.location with
  | some n =>
    have hhid : (hiddenPart m₀ hidden).find? c.location = none := find?_hiddenPart_of_visible hm
    rw [hm, Option.map_some] at hfind
    by_cases hsame : (n.text == c.text && n.kind == c.kind) = true
    · -- the visible note already says what the comment says
      rw [visit_unchanged q hfind hsame] at hq'
      cases hq'
      rw [visit_unchanged p hfind hsame]
      refine ⟨_, _, rfl, hq, ?_, hv'⟩
      refine ⟨rfl, ⟨m, hrep, hover, hfresh⟩, rfl, rfl, by simpa [hhid] using hcreated, hupdated,
        congrArg (· + 1) hunchanged, hpruned⟩
    · -- the visible note is rewritten in place, in the tables as in the visible pass
      have hsame' : (n.text == c.text && n.kind == c.kind) = false := by simpa using hsame
      have hmfind : m.find? c.location = some n := by
        rw [hover, hhid, hcur, hm]
        rfl
      have hn₀ : n ∈ m₀.notes :=
        (NoteMap.mem_keep.1 ((NoteMap.find?_eq_some_iff _).1 hm).1).1
      have hrev : Revision m c.location (Draft.ofComment c) q.supply.now.1 := by
        refine ⟨hline, fun old hold => ?_⟩
        cases Option.some.inj (hmfind.symm.trans hold)
        exact storable_nextUpdate hclock (hroom n hn₀)
      have hsim := update_simulates hrep hrev
      rw [NoteMap.update_in_place m hmfind (d := Draft.ofComment c) rfl] at hsim
      rw [visit_updated q hfind hsame'] at hq'
      change q.store.update _ _ _ >>= _ = _ at hq'
      rw [NoteMap.update_in_place q.store (hcur.trans hm) (d := Draft.ofComment c) rfl] at hq'
      cases hq'
      obtain ⟨db', hdb, hrep'⟩ := hsim.eq_ok
      have hupdate : NoteStore.update (⟨db, hidden⟩ : Lagging) c.location (Draft.ofComment c)
          q.supply.now.1 = .ok ⟨db', hidden⟩ := by
        rw [Lagging.update_eq, hdb]
        rfl
      rw [visit_updated p hfind hsame', hupdate, ok_bind, pure_eq_ok]
      refine ⟨_, _, rfl, hq, ?_, hv'⟩
      -- the rewritten note keeps its identity
      refine ⟨rfl, ⟨_, hrep', (hover.erase hhid).insert hhid,
        hfresh.revise ((m.find?_eq_some_iff).1 hmfind).1 _ _ _⟩, rfl, rfl,
        by simpa [hhid] using hcreated, congrArg (· + 1) hupdated, hunchanged, hpruned⟩
  | none =>
    rw [hm, Option.map_none] at hfind
    have hfree : q.store.find? c.location = none := hcur.trans hm
    set note := (Draft.ofComment c).toNote q.supply.fresh.1.1 q.supply.fresh.1.2
    rw [visit_created q hfind (NoteMap.create_of_free _ hfree)] at hq'
    cases hq'
    cases hh : (hiddenPart m₀ hidden).find? c.location with
    | some x =>
      -- a hidden note holds the location: the create is refused, and the pass moves on
      have hmx : m.find? note.location = some x := by
        show m.find? c.location = some x
        rw [hover, hh]
        rfl
      have hrefused : NoteStore.create (⟨db, hidden⟩ : Lagging) note =
          .error (.alreadyExists note.location) := by
        rw [Lagging.create_eq]
        simp only [create_of_taken hrep hmx]
        rfl
      rw [visit_taken p hfind hrefused]
      refine ⟨_, _, rfl, hq, ?_, hv'⟩
      refine ⟨rfl, ⟨m, hrep, hover.insert_under hh, hfresh.succ⟩, rfl, rfl, ?_, hupdated,
        hunchanged, hpruned⟩
      -- the refused key is counted among those at a hidden note, and not among the creates
      change report.created + _ = q.report.created + 1
      simp only [List.countP_append, List.countP_singleton, hh, Option.isSome_some, if_true]
      omega
    | none =>
      -- a free location: both passes create the same note
      have hmfree : m.find? note.location = none := by
        show m.find? c.location = none
        rw [hover, hh, hfree]
        rfl
      -- the supply has only moved on along its identities since the start
      have hnid : note.id = s₀.ids q.supply.serial := by
        show q.supply.ids q.supply.serial = _
        rw [hv.supply, ids_advanced]
      have hnn : NewNote m note :=
        { line := hline, id := hid,
          fresh := fun y hy => hnid ▸ hfresh y hy q.supply.serial le_rfl hserial.2,
          createdAt := hclock, updatedAt := hclock }
      have hsim := create_simulates hrep hnn
      rw [NoteMap.create_of_free _ hmfree] at hsim
      obtain ⟨db', hdb, hrep'⟩ := hsim.eq_ok
      have hcreate : NoteStore.create (⟨db, hidden⟩ : Lagging) note = .ok ⟨db', hidden⟩ := by
        rw [Lagging.create_eq, hdb]
        rfl
      rw [visit_created p hfind hcreate]
      refine ⟨_, _, rfl, hq, ?_, hv'⟩
      -- the new note takes the identity the supply hands out once
      refine ⟨rfl, ⟨_, hrep', hover.insert hh,
        hfresh.insert_next (fun j hj hjs => hdistinct _ j hserial.1 hj hjs) hnid⟩, rfl, rfl, ?_,
        hupdated, hunchanged, hpruned⟩
      change report.created + 1 + _ = q.report.created + 1
      simp only [List.countP_append, List.countP_singleton, hh, Option.isSome_none,
        Bool.false_eq_true, if_false]
      omega

/-- The visits on the lagging store never fail, and stay in step with the visits on the
visible notes.  The induction is on the entries left, as in `foldlM_visit_tracks`; the
supply has one canonical identity and one stored reading per entry. -/
theorem foldlM_visit_shadows (hids : CanonicalIds s₀ k) (hread : StoredReadings s₀ k)
    (hroom : ∀ n ∈ m₀.notes, n.updatedAt + nanosPerMicro < endStored)
    (hdistinct : ∀ i j, s₀.serial ≤ i → i < j → j < s₀.serial + k → s₀.ids i ≠ s₀.ids j)
    (rest : List (String × Comment)) :
    ∀ (ws : List (String × Comment)) (p : Pass Lagging) (q : Pass NoteMap),
      Shadows m₀ hidden s₀ k ws p q → Visited (visiblePart m₀ hidden) scope s₀ ws q →
      (∀ e ∈ ws ++ rest, e.2.key = e.1 ∧ inScope scope e.2.filepath = true) →
      ((ws ++ rest).map Prod.fst).Nodup → (∀ e ∈ rest, e.2.line ≤ 4294967295) →
      ws.length + rest.length ≤ k →
      ∃ p' q', rest.foldlM visit p = .ok p' ∧ rest.foldlM visit q = .ok q' ∧
        Shadows m₀ hidden s₀ k (ws ++ rest) p' q' ∧
        Visited (visiblePart m₀ hidden) scope s₀ (ws ++ rest) q' := by
  induction rest with
  | nil =>
    intro ws p q hs hv _ _ _ _
    exact ⟨p, q, rfl, rfl, by simpa using hs, by simpa using hv⟩
  | cons e rest ih =>
    intro ws p q hs hv hent hnodup hlines hk
    obtain ⟨hws, ⟨he, hin⟩, hnew⟩ := next_of_entries hent hnodup
    have hmore : ws.length < k := by
      simp only [List.length_cons] at hk
      omega
    obtain ⟨p₁, q₁, hp₁, hq₁, hs₁, hv₁⟩ := visit_shadows hs hv hws he hin hnew
      (hlines e List.mem_cons_self) (storable_clock hv hread hmore) (canonical_id hv hids hmore)
      hroom hdistinct hmore
    rw [List.append_cons] at hent hnodup ⊢
    obtain ⟨p', q', hp', hq', hs', hv'⟩ := ih (ws ++ [e]) p₁ q₁ hs₁ hv₁ hent hnodup
      (fun x hx => hlines x (List.mem_cons_of_mem e hx))
      (by simp only [List.length_append, List.length_cons, List.length_nil] at hk ⊢; omega)
    refine ⟨p', q', ?_, ?_, hs', hv'⟩
    · rw [List.foldlM_cons, hp₁, ok_bind]
      exact hp'
    · rw [List.foldlM_cons, hq₁, ok_bind]
      exact hq'

/-- The prunes on the lagging store never fail, and stay in step with the prunes on the
visible notes, while no pruned entry stands where a note is hidden. -/
theorem foldlM_prune_shadows {ws : List (String × Comment)} :
    ∀ (es : List (String × Note)) (p : Pass Lagging) (q : Pass NoteMap),
      Shadows m₀ hidden s₀ k ws p q →
      (∀ e ∈ es, (hiddenPart m₀ hidden).find? e.2.location = none) →
      ∃ p', es.foldlM prune p = .ok p' ∧ Shadows m₀ hidden s₀ k ws p'
        { q with store := es.foldl (fun m e => m.delete e.2.location) q.store,
                 report := { q.report with pruned := q.report.pruned ++ es.map Prod.fst },
                 log := q.log ++ es.map fun e => detail ("Pruned note " ++ e.1) }
  | [], p, q, hs, _ => ⟨p, rfl, by simpa using hs⟩
  | e :: es, p, q, hs, hfree => by
    obtain ⟨m, hrep, hover, hfresh⟩ := hs.tables
    obtain ⟨db', hdel, hrep'⟩ := (delete_simulates hrep e.2.location).eq_ok
    have hone : prune p e = .ok
        { p with store := { p.store with db := db' },
                 report := { p.report with pruned := p.report.pruned ++ [e.1] },
                 log := p.log ++ [detail ("Pruned note " ++ e.1)] } := by
      rw [prune_eq, Lagging.delete_eq, hdel]
      rfl
    have hs₁ : Shadows m₀ hidden s₀ k ws
        { p with store := { p.store with db := db' },
                 report := { p.report with pruned := p.report.pruned ++ [e.1] },
                 log := p.log ++ [detail ("Pruned note " ++ e.1)] }
        { q with store := q.store.delete e.2.location,
                 report := { q.report with pruned := q.report.pruned ++ [e.1] },
                 log := q.log ++ [detail ("Pruned note " ++ e.1)] } :=
      ⟨hs.keys, ⟨_, hrep', hover.erase (hfree e List.mem_cons_self), hfresh.erase _⟩, hs.supply,
        hs.existing,
        hs.created, hs.updated, hs.unchanged, by simp [hs.pruned]⟩
    obtain ⟨p', hp', hs'⟩ := foldlM_prune_shadows es _ _ hs₁
      (fun x hx => hfree x (List.mem_cons_of_mem e hx))
    refine ⟨p', ?_, by simpa using hs'⟩
    rw [List.foldlM_cons, hone, ok_bind]
    exact hp'

end Shadowing

/-! ## What the pass leaves -/

section Keys

variable {m : NoteMap} {hidden : List String} {found : List Comment} {scope : Option String}

/-- No key is both hidden and visible. -/
theorem disjoint_storedKeys_parts :
    Disjoint (storedKeys (hiddenPart m hidden) scope) (storedKeys (visiblePart m hidden) scope) := by
  rw [Finset.disjoint_left]
  intro key hh hv
  obtain ⟨l, rfl, -, hsome⟩ := mem_storedKeys_iff_find?.1 hh
  obtain ⟨l', hkey, -, hsome'⟩ := mem_storedKeys_iff_find?.1 hv
  obtain ⟨n, hn⟩ := Option.isSome_iff_exists.1 hsome'
  rw [Location.key_injective hkey] at hn
  rw [find?_hiddenPart_of_visible hn] at hsome
  cases hsome

/-- The wanted keys without a visible note are those without any note and those with a
hidden one. -/
theorem card_sdiff_storedKeys_visible :
    (wantedKeys found scope \ storedKeys (visiblePart m hidden) scope).card =
      (wantedKeys found scope \ storedKeys m scope).card +
        ((wantedKeys found scope).filter (· ∈ storedKeys (hiddenPart m hidden) scope)).card := by
  rw [storedKeys_of_overlays (overlays_parts m hidden), ← Finset.card_union_of_disjoint]
  · congr 1
    ext key
    simp only [Finset.mem_sdiff, Finset.mem_union, Finset.mem_filter]
    constructor
    · rintro ⟨hw, hv⟩
      by_cases hh : key ∈ storedKeys (hiddenPart m hidden) scope
      · exact Or.inr ⟨hw, hh⟩
      · exact Or.inl ⟨hw, fun h => h.elim hh hv⟩
    · rintro (⟨hw, hn⟩ | ⟨hw, hh⟩)
      · exact ⟨hw, fun hv => hn (Or.inr hv)⟩
      · exact ⟨hw, Finset.disjoint_left.1 disjoint_storedKeys_parts hh⟩
  · rw [Finset.disjoint_left]
    intro key hk hk'
    exact (Finset.mem_sdiff.1 hk).2 (Finset.mem_union_left _ (Finset.mem_filter.1 hk').2)

/-- The wanted entries that stand where a note is hidden, counted by key. -/
theorem countP_wanted_hidden :
    (wanted found scope).countP (fun e => ((hiddenPart m hidden).find? e.2.location).isSome) =
      ((wantedKeys found scope).filter (· ∈ storedKeys (hiddenPart m hidden) scope)).card :=
  countP_wanted fun e he => by
    rw [mem_storedKeys_of_mem_wanted _ he, Option.isSome_iff_exists]

end Keys

/-- The pass over a lagging store runs to its end beside the pass over the visible notes:
its visits and its prunes never fail, and it ends in step with the visible pass once that
has pruned what it did not visit. -/
theorem reconcile_lagging_shadows {db : Database} {m : NoteMap} (h : Represents db m)
    (hidden : List String) {supply : Supply} {found : List Comment} {scope : Option String}
    (hlines : ∀ c ∈ found, c.line ≤ 4294967295) (hids : CanonicalIds supply found.length)
    (hread : StoredReadings supply found.length)
    (hroom : ∀ n ∈ m.notes, n.updatedAt + nanosPerMicro < endStored)
    (hfresh : FreshIds supply found.length m) :
    ∃ (p : Pass Lagging) (q : Pass NoteMap),
      reconcile (⟨db, hidden⟩ : Lagging) supply found scope =
        .ok (p.report, p.log ++ [summary (wanted found scope).length p.report], p.store,
          p.supply) ∧
      Visited (visiblePart m hidden) scope supply (wanted found scope) q ∧
      Shadows m hidden supply found.length (wanted found scope) p
        { q with store := (sortByKey q.existing).foldl (fun m e => m.delete e.2.location) q.store,
                 existing := [],
                 report := { q.report with
                   pruned := q.report.pruned ++ (sortByKey q.existing).map Prod.fst },
                 log := q.log ++ (sortByKey q.existing).map
                   fun e => detail ("Pruned note " ++ e.1) } := by
  rw [reconcile_of_listing (listing (visiblePart m hidden) scope)
    (fun f hf => by subst hf; exact listFile_lagging h hidden f)
    (fun hs => by subst hs; exact listAll_lagging h hidden)]
  -- the visits, beside the visible pass
  have hs₀ : Shadows m hidden supply found.length []
      ⟨⟨db, hidden⟩, supply, byKey (listing (visiblePart m hidden) scope), {}, []⟩
      ⟨visiblePart m hidden, supply, byKey (listing (visiblePart m hidden) scope), {}, []⟩ :=
    ⟨rfl, ⟨m, h, overlays_parts m hidden, fun n hn j hj hjk => hfresh.unused j hj hjk n hn⟩, rfl,
      rfl, rfl, rfl, rfl, rfl⟩
  have hentries : ∀ e ∈ [] ++ wanted found scope,
      e.2.key = e.1 ∧ inScope scope e.2.filepath = true :=
    fun e he => key_of_mem_wanted (by simpa using he)
  have hwlines : ∀ e ∈ wanted found scope, e.2.line ≤ 4294967295 := fun e he =>
    hlines e.2 (List.mem_filter.1 (List.mem_of_find?_eq_some ((mem_wanted found scope e).1 he))).1
  have hle := length_wanted_le found scope
  obtain ⟨p₁, q₁, hp₁, -, hs₁, hv₁⟩ := foldlM_visit_shadows hids hread hroom
    hfresh.distinct (wanted found scope) [] _ _ hs₀ visited_nil hentries
    (by simpa using nodup_keys_wanted found scope) hwlines (by simpa using hle)
  rw [List.nil_append] at hs₁ hv₁
  -- the prunes: the unvisited entries are visible notes, where nothing is hidden
  have hfree : ∀ e ∈ sortByKey q₁.existing,
      (hiddenPart m hidden).find? e.2.location = none := by
    intro e he
    rw [hv₁.existing] at he
    obtain ⟨hn, -, -, -⟩ := mem_unvisited.1 ((List.mergeSort_perm _ _).subset he)
    exact find?_hiddenPart_of_visible ((NoteMap.find?_eq_some_iff _).2 ⟨hn, rfl⟩)
  obtain ⟨p₂, hp₂, hs₂⟩ := foldlM_prune_shadows (sortByKey q₁.existing)
    { p₁ with existing := [] } { q₁ with existing := [] }
    ⟨hs₁.keys, hs₁.tables, hs₁.supply, rfl, hs₁.created, hs₁.updated, hs₁.unchanged,
      hs₁.pruned⟩ hfree
  refine ⟨p₂, q₁, ?_, hv₁, hs₂⟩
  rw [hp₁, ok_bind, hs₁.existing, hp₂, ok_bind, pure_eq_ok]

/-- A pass over a lagging store, whose tables represent `m` and leave the notes at the
keys `hidden` out of their listings, never fails.  The comments' lines fit 32 bits, the
supply has a canonical identity and a reading in the years 0 to 9999 for each comment,
and those identities are new to the store and distinct (`FreshIds`), and every note has
room for a revision.

* A create at the location of a hidden note is refused with `alreadyExists`.
* The pass leaves every hidden note exactly as it was, and in scope the wanted keys and
  the hidden keys.
* It creates only where no note stood, visible or hidden; it rewrites, leaves and prunes
  as the pass over the visible notes does, and never prunes a hidden note.
* The tables it leaves hold the hidden notes over what the pass over the visible notes
  leaves. -/
theorem reconcile_lagging {db : Database} {m : NoteMap} (h : Represents db m)
    (hidden : List String) {supply : Supply} {found : List Comment} {scope : Option String}
    (hlines : ∀ c ∈ found, c.line ≤ 4294967295) (hids : CanonicalIds supply found.length)
    (hread : StoredReadings supply found.length)
    (hroom : ∀ n ∈ m.notes, n.updatedAt + nanosPerMicro < endStored)
    (hfresh : FreshIds supply found.length m) :
    (∀ n ∈ m.notes, hidden.contains n.key = true → ∀ x : Note, x.location = n.location →
        NoteStore.create (⟨db, hidden⟩ : Lagging) x = .error (.alreadyExists x.location)) ∧
    ∃ r log db' s', reconcile (⟨db, hidden⟩ : Lagging) supply found scope =
        .ok (r, log, ⟨db', hidden⟩, s') ∧
      ∃ m', Represents db' m' ∧
        (∀ n ∈ m.notes, hidden.contains n.key = true → n ∈ m'.notes) ∧
        storedKeys m' scope = wantedKeys found scope ∪ storedKeys (hiddenPart m hidden) scope ∧
        r.created = (wantedKeys found scope \ storedKeys m scope).card ∧
        r.updated = ((wantedKeys found scope ∩ storedKeys (visiblePart m hidden) scope).filter
          fun k => matchesFirst (visiblePart m hidden) found k = false).card ∧
        r.unchanged = ((wantedKeys found scope ∩ storedKeys (visiblePart m hidden) scope).filter
          fun k => matchesFirst (visiblePart m hidden) found k = true).card ∧
        r.pruned = (storedKeys (visiblePart m hidden) scope \ wantedKeys found scope).sort ∧
        ∃ mq, Swept (visiblePart m hidden) mq found scope ∧ Overlays (hiddenPart m hidden) mq m' := by
  refine ⟨fun n hn hh x hx => ?_, ?_⟩
  · -- the tables refuse a create at a taken location before they look at its identity
    have hfind : m.find? x.location = some n := (m.find?_eq_some_iff).2 ⟨hn, hx.symm⟩
    rw [Lagging.create_eq, create_of_taken h hfind]
    rfl
  obtain ⟨p₂, q₁, hrun, hv₁, hs₂⟩ :=
    reconcile_lagging_shadows h hidden hlines hids hread hroom hfresh
  rw [hrun]
  obtain ⟨m', hrep', hover', -⟩ := hs₂.tables
  have hstore : p₂.store = ⟨p₂.store.db, hidden⟩ := by
    rw [← hs₂.keys]
  have hsw := swept_of_visited hv₁
  have hrec := reconciled_of_swept hsw
  refine ⟨_, _, _, _, by rw [hstore], m', hrep', fun n hn hh => ?_, ?_, ?_, ?_, ?_, ?_,
    _, hsw, hover'⟩
  · -- a hidden note stays where it was
    have hf := hover' n.location
    rw [find?_hiddenPart_of_mem hn hh, Option.some_or] at hf
    exact ((m'.find?_eq_some_iff).1 hf).1
  · rw [storedKeys_of_overlays hover', hrec.keys, Finset.union_comm]
  · have hcreated := hs₂.created
    simp only [hv₁.report] at hcreated
    rw [countP_wanted_hidden] at hcreated
    have hq := hrec.created
    simp only at hq
    rw [card_sdiff_storedKeys_visible] at hq
    omega
  · rw [hs₂.updated]
    simpa [hv₁.report] using hrec.updated
  · rw [hs₂.unchanged]
    simpa [hv₁.report] using hrec.unchanged
  · rw [hs₂.pruned, ← pruned_eq_sort]
    simp [hv₁.report, hv₁.existing, tally]

/-- A note written at `src/lib.rs:3` after the listing was taken. -/
def racedNote : Note :=
  ⟨idOfSerial 0, "src/lib.rs", 3, .todo, none, none, 0, 0, "written meanwhile"⟩

/-- The comment a scan then finds at the same place. -/
def racedComment : Comment := ⟨"src/lib.rs", "fix the race", 3, .todo, false⟩

theorem stored_zero : Stored 0 where
  whole := by decide
  lower := by rw [firstStored_eq]; decide
  upper := by rw [endStored_eq]; decide

/-- Scanning the comment into a store whose listing missed the raced note leaves the note
and creates nothing. -/
theorem reconcile_lagging_raced :
    ∃ r log db' s', reconcile (⟨tablesOf [racedNote], [racedNote.key]⟩ : Lagging)
        (Supply.start 0) [racedComment] none = .ok (r, log, ⟨db', [racedNote.key]⟩, s') ∧
      ∃ m', Represents db' m' ∧ racedNote ∈ m'.notes ∧ r.created = 0 := by
  have hrep : Represents (tablesOf [racedNote]) ⟨[racedNote], List.pairwise_singleton _ _⟩ :=
    ⟨[racedNote], rfl, ⟨fun n hn => by
        rw [List.mem_singleton.1 hn]
        exact ⟨by decide, readId_idOfSerial 0, stored_zero, stored_zero⟩, List.nodup_singleton _⟩,
      List.Perm.refl _⟩
  have hlines : ∀ c ∈ [racedComment], c.line ≤ 4294967295 := by
    simp [racedComment]
  have hread : StoredReadings (Supply.start 0) [racedComment].length :=
    storedReadings_epoch (by decide)
  have hfresh : FreshIds (Supply.start 0) [racedComment].length
      ⟨[racedNote], List.pairwise_singleton _ _⟩ := by
    refine ⟨fun j hj hjk n hn => ?_, fun i j hi hij hjk => ?_⟩
    · have hj1 : j = 1 := by
        simp only [Supply.start, List.length_singleton] at hj hjk
        omega
      rw [List.mem_singleton.1 hn, hj1]
      decide
    · simp only [Supply.start, List.length_singleton] at hi hjk
      omega
  obtain ⟨-, r, log, db', s', hrun, m', hrep', hkept, -, hcreated, -⟩ :=
    reconcile_lagging hrep [racedNote.key] hlines (canonicalIds_start 0 _) hread
      (fun n hn => by rw [List.mem_singleton.1 hn, endStored_eq]; decide) hfresh
  refine ⟨r, log, db', s', hrun, m', hrep', hkept racedNote List.mem_cons_self (by simp), ?_⟩
  rw [hcreated]
  decide

end Reconcile

end CodeNotes
