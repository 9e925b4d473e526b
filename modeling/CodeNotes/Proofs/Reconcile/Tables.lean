import CodeNotes.Proofs.Reconcile.Pass
set_option autoImplicit false

/-!
# Reconciling the note tables

A pass over the note tables does what the same pass does over the note map the tables
represent (`reconcile_tables`): same report, same log, same rest of the supply, and
tables that represent the map the pass leaves.  The passes are run side by side
(`Tracks`), one visit and one prune at a time.

What the tables need of the pass:

* each comment's line fits the 32 bits of a line;
* every identity the supply hands out during the pass is a UUID in canonical form
  (`CanonicalIds`; the command's own identities are, `readId_idOfSerial`), and a create
  on the tables that succeeds had an identity no note has (`create_of_taken_id`);
* every clock reading of the pass (`StoredReadings`), and the next update time of every
  note it may rewrite, falls in the years 0 to 9999.
-/

namespace CodeNotes.Reconcile

open CodeNotes.Store Time Database

/-! ## Identities of the supply -/

section Identities

/-- Every digit of a hexadecimal numeral is a digit below sixteen. -/
theorem mem_toDigits_hex {c : Char} : ∀ {n : Nat}, c ∈ Nat.toDigits 16 n → ∃ d < 16, c = d.digitChar
  | n, h => by
    rw [Nat.toDigits_eq_if (by decide)] at h
    split at h
    · exact ⟨n, ‹_›, List.mem_singleton.1 h⟩
    · rcases List.mem_append.1 h with h | h
      · exact mem_toDigits_hex h
      · exact ⟨n % 16, Nat.mod_lt _ (by decide), List.mem_singleton.1 h⟩
termination_by n => n
decreasing_by omega

/-- A character the canonical text keeps as it is: a lowercase hexadecimal digit. -/
def IsCanonicalDigit (c : Char) : Prop := isHexDigit c = true ∧ asciiLower c = c ∧ c ≠ '-'

instance : DecidablePred IsCanonicalDigit := fun c => by
  unfold IsCanonicalDigit
  infer_instance

theorem isCanonicalDigit_digitChar : ∀ d < 16, IsCanonicalDigit d.digitChar := by
  decide

/-- The last group of the `n`-th identity: the last twelve hexadecimal digits of `n`,
padded with zeros. -/
def serialDigits (n : Nat) : List Char :=
  List.replicate (12 - min 12 (Nat.toDigits 16 n).length) '0' ++
    (Nat.toDigits 16 n).drop ((Nat.toDigits 16 n).length - min 12 (Nat.toDigits 16 n).length)

/-- The four fixed groups of every identity of the supply. -/
def serialGroups : List (List Char) :=
  [['0', '0', '0', '0', '0', '0', '0', '0'], ['0', '0', '0', '0'], ['4', '0', '0', '0'],
    ['8', '0', '0', '0']]

theorem length_serialDigits (n : Nat) : (serialDigits n).length = 12 := by
  simp [serialDigits]
  omega

theorem isCanonicalDigit_of_mem_serialDigits {n : Nat} {c : Char} (hc : c ∈ serialDigits n) :
    IsCanonicalDigit c := by
  rcases List.mem_append.1 hc with hc | hc
  · rw [List.eq_of_mem_replicate hc]
    decide
  · obtain ⟨d, hd, rfl⟩ := mem_toDigits_hex (List.mem_of_mem_drop hc)
    exact isCanonicalDigit_digitChar d hd

theorem idOfSerial_eq (n : Nat) :
    idOfSerial n = "00000000-0000-4000-8000-" ++ String.ofList (serialDigits n) := rfl

theorem toList_idOfSerial (n : Nat) :
    (idOfSerial n).toList = ['-'].intercalate (serialGroups ++ [serialDigits n]) := by
  rw [idOfSerial_eq]
  simp only [String.toList_append, String.toList_ofList]
  simp [serialGroups, List.intercalate]

/-- The identities the supply hands out are in canonical form: reading one back gives
it unchanged. -/
theorem readId_idOfSerial (n : Nat) : readId (idOfSerial n) = .ok (idOfSerial n) := by
  have hlen := length_serialDigits n
  have hdigits : ∀ c ∈ serialDigits n, IsCanonicalDigit c := fun c hc =>
    isCanonicalDigit_of_mem_serialDigits hc
  have hgroups : ∀ g ∈ serialGroups, ∀ c ∈ g, IsCanonicalDigit c := by
    have hall : (serialGroups.all fun g => g.all fun c => decide (IsCanonicalDigit c)) = true :=
      rfl
    simpa [List.all_eq_true] using hall
  -- the text splits at its hyphens into the five groups
  have hsplit : splitHyphens (idOfSerial n).toList = serialGroups ++ [serialDigits n] := by
    rw [splitHyphens, toList_idOfSerial]
    refine List.splitOn_intercalate '-' (fun g hg hmem => ?_) (by simp)
    rcases List.mem_append.1 hg with hg | hg
    · exact (hgroups g hg '-' hmem).2.2 rfl
    · rw [List.mem_singleton.1 hg] at hmem
      exact (hdigits '-' hmem).2.2 rfl
  have hlength : (idOfSerial n).toList.length = 36 := by
    rw [toList_idOfSerial]
    simp [serialGroups, List.intercalate, hlen]
  have hhex : ∀ c ∈ serialDigits n, isHexDigit c = true := fun c hc => (hdigits c hc).1
  -- lowercasing changes none of the digits
  have hmap : (serialDigits n).map asciiLower = serialDigits n :=
    (List.map_congr_left fun c hc => (hdigits c hc).2.1).trans (List.map_id _)
  have hcanon : canonicalId (serialGroups.flatten ++ serialDigits n) = idOfSerial n := by
    rw [← String.toList_inj, canonicalId, String.toList_ofList, toList_idOfSerial,
      List.map_append, hmap]
    simp [serialGroups, List.intercalate, asciiLower]
  unfold readId
  simp only [hlength]
  unfold readHyphenated
  rw [hsplit]
  simp [serialGroups, hlen]
  rw [if_pos ⟨rfl, rfl, rfl, rfl, rfl, hhex⟩]
  exact congrArg Except.ok hcanon

end Identities

/-! ## Creates that reuse an identity -/

section Creates

variable {db : Database} {m : NoteMap}

/-- A create at a free location under an identity some note has fails on the identity
column. -/
theorem create_tablesOf_of_id {ns : List Note} {n x : Note} (hx : x ∈ ns) (hid : x.id = n.id)
    (hfree : ns.any (·.location == n.location) = false) :
    (tablesOf ns).create n = .error (uniqueFailed "notes.id") := by
  have hloc : (ns.map rowOf).any (atLocation n.location) = false := by
    simpa [List.any_map, Function.comp_def, atLocation_rowOf] using hfree
  have htaken : (ns.map rowOf).any (fun r => r.id.same (.text n.id)) = true :=
    List.any_eq_true.2 ⟨rowOf x, List.mem_map_of_mem hx, by simp [hid]⟩
  unfold Database.create
  simp only [tablesOf, noteRows, contentRows, ok_bind, hloc, htaken, Bool.false_eq_true,
    if_false, if_true, throw_eq_error, pure_eq_ok]
  rfl

theorem create_of_taken_id (h : Represents db m) {n : Note} (hfree : m.find? n.location = none)
    {x : Note} (hx : x ∈ m.notes) (hid : x.id = n.id) :
    db.create n = .error (uniqueFailed "notes.id") := by
  obtain ⟨ns, rfl, -, hperm⟩ := h
  refine create_tablesOf_of_id (hperm.mem_iff.2 hx) hid ?_
  rw [any_location_of_perm hperm, hfree]
  rfl

end Creates

/-! ## Passes in step -/

/-! ## What the tables need of the supply -/

/-- The next `k` identities of the supply read back unchanged: they are UUIDs written in
canonical form, lowercase and hyphenated, as the text of every UUID is. -/
def CanonicalIds (s : Supply) (k : Nat) : Prop :=
  ∀ i < k, readId (s.ids (s.serial + i)) = .ok (s.ids (s.serial + i))

/-- The next `k` readings of the clock fall in the years 0 to 9999, which the stored form
covers. -/
def StoredReadings (s : Supply) (k : Nat) : Prop := ∀ j < k, Storable (s.clock (s.reads + j))

/-- The command's supply numbers its identities, and every one is canonical. -/
theorem canonicalIds_start (clock : Instant) (k : Nat) : CanonicalIds (Supply.start clock) k :=
  fun _ _ => readId_idOfSerial _

/-- The command's clock, started in the years 0 to 9999 with room for `k` ticks before
year 10000, gives `k` storable readings. -/
theorem storedReadings_start {clock : Instant} {k : Nat} (hstart : firstStored ≤ clock)
    (hend : clock + (k : Int) * Supply.tick ≤ endStored) :
    StoredReadings (Supply.start clock) k := by
  intro j hj
  simp only [Supply.start, Storable, Supply.tick, Nat.zero_add] at hend ⊢
  unfold Instant at *
  constructor <;> omega

/-- The command's clock as a run starts it, at the epoch, gives storable readings for up
to a million comments. -/
theorem storedReadings_epoch {k : Nat} (hk : k ≤ 1000000) : StoredReadings (Supply.start 0) k := by
  refine storedReadings_start (by rw [firstStored_eq]; decide) ?_
  rw [endStored_eq, Supply.tick]
  unfold Instant
  omega

/-- The next update time of a note with room for a revision, at a storable reading, is
storable. -/
theorem storable_nextUpdate {old now : Instant} (hnow : Storable now)
    (hold : old + nanosPerMicro < endStored) : Storable (nextUpdate old now) :=
  ⟨le_trans hnow.1 (le_max_left _ _), max_lt hnow.2 hold⟩

section Tracking

variable {m₀ : NoteMap} {scope : Option String} {s₀ : Supply}

/-- A pass over the tables in step with a pass over the map: the tables represent the
map, and supply, entries, report and log are the same. -/
structure Tracks (p : Pass Database) (q : Pass NoteMap) : Prop where
  store : Represents p.store q.store
  supply : p.supply = q.supply
  existing : p.existing = q.existing
  report : p.report = q.report
  log : p.log = q.log

/-- The clock reading a visit takes is one of the first `k` when fewer than `k` keys are
visited: each visited key took at most one. -/
theorem storable_clock {ws : List (String × Comment)} {q : Pass NoteMap}
    (hv : Visited m₀ scope s₀ ws q) {k : Nat} (hread : StoredReadings s₀ k)
    (hk : ws.length < k) : Storable (q.supply.clock q.supply.reads) := by
  have hcount := tally_created_add_updated m₀ ws
  rw [hv.supply]
  exact hread _ (by omega)

/-- The identity a visit would create under is one of the first `k` when fewer than `k`
keys are visited: each visited key took at most one. -/
theorem canonical_id {ws : List (String × Comment)} {q : Pass NoteMap}
    (hv : Visited m₀ scope s₀ ws q) {k : Nat} (hids : CanonicalIds s₀ k) (hk : ws.length < k) :
    readId (q.supply.ids q.supply.serial) = .ok (q.supply.ids q.supply.serial) := by
  have hcount := tally_created_add_updated m₀ ws
  rw [hv.supply]
  exact hids _ (by omega)

/-- A visit on the tables that succeeds is the visit on the map, in step. -/
theorem visit_tracks {ws : List (String × Comment)} {p : Pass Database} {q : Pass NoteMap}
    (ht : Tracks p q) (hv : Visited m₀ scope s₀ ws q) (hws : ∀ e ∈ ws, e.2.key = e.1)
    {e : String × Comment} (he : e.2.key = e.1) (hin : inScope scope e.2.filepath = true)
    (hnew : e.1 ∉ ws.map Prod.fst) (hline : e.2.line ≤ 4294967295)
    (hclock : Storable (q.supply.clock q.supply.reads))
    (hid : readId (q.supply.ids q.supply.serial) = .ok (q.supply.ids q.supply.serial))
    (hroom : ∀ n ∈ m₀.notes, n.updatedAt + nanosPerMicro < endStored)
    {p' : Pass Database} (hok : visit p e = .ok p') :
    ∃ q', visit q e = .ok q' ∧ Tracks p' q' ∧ Visited m₀ scope s₀ (ws ++ [e]) q' := by
  obtain ⟨q', hq', hv'⟩ := visit_step hv hws he hin hnew
  refine ⟨q', hq', ?_, hv'⟩
  obtain ⟨k, c⟩ := e
  simp only at he hin hnew hline
  subst he
  have hfind := hv.find?_existing hin hnew
  have hcur := hv.find?_store hnew
  have hfindp : p.existing.find? (·.1 == c.key) =
      (m₀.find? c.location).map fun n => (c.key, n) := ht.existing ▸ hfind
  cases hm : m₀.find? c.location with
  | none =>
    rw [hm, Option.map_none] at hfind hfindp
    set n := (Draft.ofComment c).toNote q.supply.fresh.1.1 q.supply.fresh.1.2
    have hfree : q.store.find? n.location = none := hcur.trans hm
    rw [visit_created q hfind (NoteMap.create_of_free _ hfree)] at hq'
    cases hq'
    have hnote : (Draft.ofComment c).toNote p.supply.fresh.1.1 p.supply.fresh.1.2 = n := by
      rw [ht.supply]
    by_cases hfresh : ∀ x ∈ q.store.notes, x.id ≠ n.id
    · -- a fresh identity: the tables create what the map creates
      have hnn : NewNote q.store n :=
        { line := hline, id := hid, fresh := hfresh,
          createdAt := hclock, updatedAt := hclock }
      have hsim := create_simulates ht.store hnn
      rw [NoteMap.create_of_free _ hfree] at hsim
      rcases visit_absent_ok p hfindp hok with ⟨s', hs', rfl⟩ | ⟨l, hl, -⟩
      · rw [hnote] at hs'
        change p.store.create n = _ at hs'
        rw [hs'] at hsim
        exact ⟨hsim, by rw [ht.supply], ht.existing, by rw [ht.report], by rw [ht.log]⟩
      · -- a free location is never reported taken
        rw [hnote] at hl
        change p.store.create n = _ at hl
        rw [hl] at hsim
        exact hsim.elim
    · -- an identity in use: the tables refuse the create, and the visit fails
      simp only [not_forall, not_not] at hfresh
      obtain ⟨x, hx, hid⟩ := hfresh
      have herr := create_of_taken_id ht.store hfree hx hid
      rcases visit_absent_ok p hfindp hok with ⟨s', hs', -⟩ | ⟨l, hl, -⟩
      · rw [hnote] at hs'
        change p.store.create n = _ at hs'
        rw [herr] at hs'
        cases hs'
      · rw [hnote] at hl
        change p.store.create n = _ at hl
        rw [herr] at hl
        cases hl
  | some n =>
    rw [hm, Option.map_some] at hfind hfindp
    by_cases hsame : (n.text == c.text && n.kind == c.kind) = true
    · rw [visit_unchanged q hfind hsame] at hq'
      cases hq'
      rw [visit_unchanged p hfindp hsame] at hok
      cases hok
      exact ⟨ht.store, ht.supply, by rw [ht.existing], by rw [ht.report], ht.log⟩
    · have hsame' : (n.text == c.text && n.kind == c.kind) = false := by simpa using hsame
      have hupdate := NoteMap.update_in_place _ (hcur.trans hm)
        (d := Draft.ofComment c) rfl q.supply.now.1
      rw [visit_updated q hfind hsame'] at hq'
      change q.store.update _ _ _ >>= _ = _ at hq'
      rw [hupdate] at hq'
      cases hq'
      rw [visit_updated p hfindp hsame', bind_eq_ok] at hok
      obtain ⟨s', hs', hp'⟩ := hok
      cases hp'
      -- the revision's time is storable: the note there is the one the pass started with
      have hrev : Revision q.store c.location (Draft.ofComment c) q.supply.now.1 := by
        refine ⟨hline, fun old hold => ?_⟩
        have hold' : old = n := Option.some.inj ((hcur.trans hm).symm.trans hold).symm
        subst hold'
        exact storable_nextUpdate hclock (hroom old ((m₀.find?_eq_some_iff).1 hm).1)
      have hsim := update_simulates ht.store hrev
      rw [hupdate] at hsim
      rw [ht.supply] at hs'
      change p.store.update _ _ _ = _ at hs'
      rw [hs'] at hsim
      exact ⟨hsim, by rw [ht.supply], by rw [ht.existing], by rw [ht.report], by rw [ht.log]⟩

/-- The visits on the tables, when they succeed, are the visits on the map, in step.  The
induction is on the entries left, as in `foldlM_visit`; the supply has a canonical
identity and a storable reading for each entry. -/
theorem foldlM_visit_tracks {k : Nat} (hids : CanonicalIds s₀ k) (hread : StoredReadings s₀ k)
    (hroom : ∀ n ∈ m₀.notes, n.updatedAt + nanosPerMicro < endStored)
    (rest : List (String × Comment)) :
    ∀ (ws : List (String × Comment)) (p : Pass Database) (q : Pass NoteMap),
      Tracks p q → Visited m₀ scope s₀ ws q →
      (∀ e ∈ ws ++ rest, e.2.key = e.1 ∧ inScope scope e.2.filepath = true) →
      ((ws ++ rest).map Prod.fst).Nodup → (∀ e ∈ rest, e.2.line ≤ 4294967295) →
      ws.length + rest.length ≤ k →
      ∀ (p' : Pass Database), rest.foldlM visit p = .ok p' →
        ∃ q', rest.foldlM visit q = .ok q' ∧ Tracks p' q' ∧ Visited m₀ scope s₀ (ws ++ rest) q' := by
  induction rest with
  | nil =>
    intro ws p q ht hv _ _ _ _ p' hok
    cases hok
    exact ⟨q, rfl, ht, by simpa using hv⟩
  | cons e rest ih =>
    intro ws p q ht hv hent hnodup hlines hk p' hok
    obtain ⟨hws, ⟨he, hin⟩, hnew⟩ := next_of_entries hent hnodup
    have hlt : ws.length < k := by
      simp only [List.length_cons] at hk
      omega
    rw [List.foldlM_cons, bind_eq_ok] at hok
    obtain ⟨p₁, h₁, hok⟩ := hok
    obtain ⟨q₁, hq₁, ht₁, hv₁⟩ := visit_tracks ht hv hws he hin hnew
      (hlines e List.mem_cons_self) (storable_clock hv hread hlt) (canonical_id hv hids hlt)
      hroom h₁
    rw [List.append_cons] at hent hnodup ⊢
    obtain ⟨q', hq', ht', hv'⟩ := ih (ws ++ [e]) p₁ q₁ ht₁ hv₁ hent hnodup
      (fun x hx => hlines x (List.mem_cons_of_mem e hx))
      (by simp only [List.length_append, List.length_cons, List.length_nil] at hk ⊢; omega)
      p' hok
    refine ⟨q', ?_, ht', hv'⟩
    rw [List.foldlM_cons, hq₁, ok_bind]
    exact hq'

/-- The prunes on the tables never fail, and are the prunes on the map, in step. -/
theorem foldlM_prune_tracks (es : List (String × Note)) :
    ∀ (p : Pass Database) (q : Pass NoteMap), Tracks p q →
      ∀ (q' : Pass NoteMap), es.foldlM prune q = .ok q' →
        ∃ p', es.foldlM prune p = .ok p' ∧ Tracks p' q' := by
  induction es with
  | nil =>
    intro p q ht q' hq
    cases hq
    exact ⟨p, rfl, ht⟩
  | cons e es ih =>
    intro p q ht q' hq
    have hsim := delete_simulates ht.store e.2.location
    cases hdel : p.store.delete e.2.location with
    | error err =>
      rw [hdel] at hsim
      exact hsim.elim
    | ok db =>
      rw [hdel] at hsim
      have hrep : Represents db (q.store.delete e.2.location) := hsim
      rw [List.foldlM_cons, prune_eq, delete_noteMap, ok_bind, pure_eq_ok, ok_bind] at hq
      obtain ⟨p', hp', ht'⟩ := ih
        { p with store := db, report := { p.report with pruned := p.report.pruned ++ [e.1] },
                 log := p.log ++ [detail ("Pruned note " ++ e.1)] } _
        (by exact ⟨hrep, ht.supply, ht.existing, by simp [ht.report], by simp [ht.log]⟩) q' hq
      refine ⟨p', ?_, ht'⟩
      have hdel' : NoteStore.delete p.store e.2.location = .ok db := hdel
      rw [List.foldlM_cons, prune_eq, hdel', ok_bind, pure_eq_ok, ok_bind]
      exact hp'

end Tracking

/-- A pass over the tables that succeeds is the pass over the map they represent: same
report, log and rest of the supply, and the tables it leaves represent the map that pass
leaves.  The comments' lines fit 32 bits, the supply has a canonical identity and a
reading in the years 0 to 9999 for each comment, and every note has room for a
revision. -/
theorem reconcile_tables {db : Database} {m : NoteMap} (h : Represents db m)
    {supply : Supply} {found : List Comment} {scope : Option String}
    (hlines : ∀ c ∈ found, c.line ≤ 4294967295) (hids : CanonicalIds supply found.length)
    (hread : StoredReadings supply found.length)
    (hroom : ∀ n ∈ m.notes, n.updatedAt + nanosPerMicro < endStored)
    {r : Report} {log : List LogLine} {db' : Database} {s' : Supply}
    (hok : reconcile db supply found scope = .ok (r, log, db', s')) :
    ∃ m', reconcile m supply found scope = .ok (r, log, m', s') ∧ Represents db' m' := by
  rw [reconcile_of_listing (listing m scope)
    (fun f hf => by subst hf; rw [← listFile_eq_listing]; exact listFile_eq h f)
    (fun hs => by subst hs; rw [← listAll_eq_listing]; exact listAll_eq h), bind_eq_ok] at hok
  obtain ⟨p₁, h₁, hok⟩ := hok
  rw [bind_eq_ok] at hok
  obtain ⟨p₂, h₂, hok⟩ := hok
  -- the visits, in step
  have hentries : ∀ e ∈ [] ++ wanted found scope,
      e.2.key = e.1 ∧ inScope scope e.2.filepath = true :=
    fun e he => key_of_mem_wanted (by simpa using he)
  have hwlines : ∀ e ∈ wanted found scope, e.2.line ≤ 4294967295 := fun e he =>
    hlines e.2 (List.mem_filter.1 (List.mem_of_find?_eq_some ((mem_wanted found scope e).1 he))).1
  obtain ⟨q₁, hq₁, ht₁, hv₁⟩ := foldlM_visit_tracks hids hread hroom (wanted found scope) [] _ _
    ⟨h, rfl, rfl, rfl, rfl⟩ visited_nil hentries (by simpa using nodup_keys_wanted found scope)
    hwlines (by simpa using length_wanted_le found scope) p₁ h₁
  -- the prunes, in step
  obtain ⟨p₂', hp₂', ht₂⟩ := foldlM_prune_tracks (sortByKey q₁.existing)
    { p₁ with existing := [] } { q₁ with existing := [] }
    ⟨ht₁.store, ht₁.supply, rfl, ht₁.report, ht₁.log⟩ _ (foldlM_prune _ _)
  rw [← ht₁.existing, h₂] at hp₂'
  cases hp₂'
  simp only [pure_eq_ok, Except.ok.injEq, Prod.mk.injEq] at hok
  obtain ⟨rfl, rfl, rfl, rfl⟩ := hok
  refine ⟨_, ?_, ht₂.store⟩
  rw [reconcile_noteMap_eq, hq₁, ok_bind, foldlM_prune, ok_bind, pure_eq_ok, ht₂.report,
    ht₂.log, ht₂.supply]

/-- A pass over the tables that succeeds sweeps the map they represented, with the
report the map's pass gives. -/
theorem reconcile_tables_sweeps {db : Database} {m : NoteMap} (h : Represents db m)
    {supply : Supply} {found : List Comment} {scope : Option String}
    (hlines : ∀ c ∈ found, c.line ≤ 4294967295) (hids : CanonicalIds supply found.length)
    (hread : StoredReadings supply found.length)
    (hroom : ∀ n ∈ m.notes, n.updatedAt + nanosPerMicro < endStored)
    {r : Report} {log : List LogLine} {db' : Database} {s' : Supply}
    (hok : reconcile db supply found scope = .ok (r, log, db', s')) :
    ∃ m', Represents db' m' ∧ Swept m m' found scope ∧
      r = { tally m (wanted found scope) with
            pruned := (sortByKey (unvisited m scope (wanted found scope))).map Prod.fst } := by
  obtain ⟨m', hrun, hrep⟩ := reconcile_tables h hlines hids hread hroom hok
  obtain ⟨m'', log', hrun', hs⟩ := reconcile_noteMap m supply found scope
  rw [hrun'] at hrun
  simp only [Except.ok.injEq, Prod.mk.injEq] at hrun
  obtain ⟨hr, -, rfl, -⟩ := hrun
  exact ⟨m'', hrep, hs, hr.symm⟩

end CodeNotes.Reconcile
