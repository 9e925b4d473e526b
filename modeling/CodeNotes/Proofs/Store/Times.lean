import CodeNotes.Proofs.Store.Refinement
set_option autoImplicit false

/-!
# Creation and update times over runs of the tables

A note is created with one reading of the clock for both of its times, and an update sets
its update time to `nextUpdate`: the later of the clock and one microsecond after the
update time it had.  The tables keep both times as text, to the microsecond.  Main
statement:

* `run_times`: after any run of requests from the empty tables in which notes are created
  as callers create them, and whatever the clock reads (standing still and going back
  included), every note read back was created no later than it was last updated, and is
  modified exactly when an update of it has succeeded since it was last created
  (`revisedAlong`); an update that succeeds keeps the note's identity and creation time,
  moves its update time on by at least a microsecond, and leaves the note readable at the
  draft's location wherever its line and its new time are in range.

The run is followed through the notes its tables hold (`Timed`): one lemma per operation
on a list of notes, then one request (`Timed.serve`), then a whole run (`Timed.replay`).
Times outside the years 0 to 9999 are written but do not read back
(`parse_storedText_eq_ok`), so the statement speaks of the notes that do.
-/

namespace CodeNotes.Store

open Time Database

/-! ## Notes as callers create them -/

/-- A note as callers create it (`Draft.toNote`): created and last updated at one reading
of the clock, under an identity in canonical form. -/
structure Note.New (n : Note) : Prop where
  id : readId n.id = .ok n.id
  times : n.createdAt = n.updatedAt

theorem Draft.new_toNote (d : Draft) {id : String} (hid : readId id = .ok id) (now : Instant) :
    (d.toNote id now).New :=
  ⟨hid, rfl⟩

/-! ## What a run did to a note -/

/-- Whether the note with identity `i` counts as revised since its creation once `r` is
served on `db`, given whether it did before: an update of it that succeeds marks it, a
create of it that succeeds clears the mark. -/
def Request.marks (db : Database) (i : String) (revised : Bool) : Request → Bool
  | .create n =>
    match db.create n with
    | .ok _ => if n.id = i then false else revised
    | .error _ => revised
  | .update l d now =>
    match db.update l d now, db.get l with
    | .ok _, .ok old => if old.id = i then true else revised
    | _, _ => revised
  | _ => revised

/-- Whether the note with identity `i` has been updated successfully since it was last
created, along the requests `rs` served one after another from `db`. -/
def revisedAlong (i : String) : Database → Bool → List Request → Bool
  | _, revised, [] => revised
  | db, revised, r :: rs => revisedAlong i (db.serve r).2 (r.marks db i revised) rs

/-! ## The times of a revised note -/

theorem truncateMicros_truncateMicros (t : Instant) :
    truncateMicros (truncateMicros t) = truncateMicros t := by
  rw [truncateMicros_eq (truncateMicros t), truncateMicros_eq t]
  unfold Instant at *
  omega

theorem truncate_truncate (n : Note) : n.truncate.truncate = n.truncate := by
  simp [Note.truncate, truncateMicros_truncateMicros]

/-- An update moves an update time that is a whole microsecond on by at least one
microsecond, whatever the clock reads. -/
theorem le_updatedAt_revise {old : Note} (hw : truncateMicros old.updatedAt = old.updatedAt)
    (d : Draft) (now : Instant) : old.updatedAt + nanosPerMicro ≤ (old.revise d now).updatedAt := by
  have hnext : old.updatedAt + nanosPerMicro ≤ nextUpdate old.updatedAt now := le_max_right _ _
  have htrunc := truncateMicros_eq (nextUpdate old.updatedAt now)
  have hwhole := truncateMicros_eq old.updatedAt
  simp only [Note.revise, nanosPerMicro] at hnext ⊢
  unfold Instant at *
  omega

/-- After an update that no other note's location clashes with, the revised note is the
first, and only, note at the draft's location. -/
theorem find?_reviseAt {ns : List Note} {old : Note} (hold : old ∈ ns) {d : Draft} {now : Instant}
    (hfree : ns.any (fun x => x.id != old.id && x.location == d.location) = false) :
    (reviseAt ns old d now).find? (·.location == d.location) = some (old.revise d now) := by
  have hmem : old.revise d now ∈ reviseAt ns old d now := List.mem_map.2 ⟨old, hold, by simp⟩
  cases hf : (reviseAt ns old d now).find? (·.location == d.location) with
  | none =>
    have := List.find?_eq_none.1 hf _ hmem
    simp at this
  | some y =>
    have hy := List.mem_of_find?_eq_some hf
    have hyl := List.find?_some hf
    rcases mem_reviseAt hy with rfl | ⟨hy, hid⟩
    · rfl
    · -- another note at the draft's location would have refused the update
      have hclash : ns.any (fun x => x.id != old.id && x.location == d.location) = true :=
        List.any_eq_true.2 ⟨y, hy, by simpa [hid] using hyl⟩
      simp [hfree] at hclash

/-! ## Notes as the tables keep them -/

/-- Notes as the tables keep them: distinct identities in canonical form, both times whole
microseconds.  Their rows may still fail to read back, where a line or a time is out of
range. -/
structure Kept (ns : List Note) : Prop where
  ids : (ns.map (·.id)).Nodup
  canonical : ∀ x ∈ ns, readId x.id = .ok x.id
  whole : ∀ x ∈ ns, x.truncate = x

namespace Kept

variable {ns : List Note}

/-- A row of a kept note reads back only as the note itself, which then fits the tables. -/
theorem decode (h : Kept ns) {x v : Note} (hx : x ∈ ns)
    (hd : decodeRow (rowOf x) (.text x.text) = .ok v) : v = x ∧ Fit x := by
  obtain ⟨⟨hline, hc, hu⟩, rfl⟩ := decodeRow_rowOf_eq_ok (h.canonical x hx) hd
  have hw := h.whole x hx
  have hwc : truncateMicros x.createdAt = x.createdAt := congrArg Note.createdAt hw
  have hwu : truncateMicros x.updatedAt = x.updatedAt := congrArg Note.updatedAt hw
  exact ⟨hw, hline, h.canonical x hx, ⟨hwc, hc.1, hc.2⟩, ⟨hwu, hu.1, hu.2⟩⟩

/-- A note read at a location is a note of the list, stands there and fits the tables. -/
theorem get (h : Kept ns) {l : Location} {v : Note} (hget : (tablesOf ns).get l = .ok v) :
    v ∈ ns ∧ v.location = l ∧ Fit v := by
  obtain ⟨x, hf, hd⟩ := get_tablesOf_eq_ok h.ids hget
  have hx := List.mem_of_find?_eq_some hf
  obtain ⟨rfl, hfit⟩ := h.decode hx hd
  exact ⟨hx, by simpa using List.find?_some hf, hfit⟩

/-- A note a query returns is a note of the list. -/
theorem query (h : Kept ns) {keep : NoteRow → Cell → Bool} {vs : List Note}
    (hq : (tablesOf ns).query keep = .ok vs) {v : Note} (hv : v ∈ vs) : v ∈ ns := by
  obtain ⟨x, hx, hd⟩ := query_tablesOf_eq_ok h.ids hq hv
  obtain ⟨rfl, -⟩ := h.decode hx hd
  exact hx

/-- An update that succeeds revises in place the note read at its location, and no other
note stands at the draft's location. -/
theorem update (h : Kept ns) {l : Location} {d : Draft} {now : Instant} {db : Database}
    (hu : (tablesOf ns).update l d now = .ok db) :
    ∃ old ∈ ns, (tablesOf ns).get l = .ok old ∧
      ns.any (fun x => x.id != old.id && x.location == d.location) = false ∧
      db = tablesOf (reviseAt ns old d now) := by
  obtain ⟨old, hget⟩ := get_of_update_eq_ok hu
  have hold := (h.get hget).1
  rw [update_tablesOf_of_get h.ids hget hold] at hu
  split at hu
  · cases hu
  · rename_i hfree
    cases hu
    exact ⟨old, hold, hget, Bool.eq_false_iff.2 hfree, rfl⟩

end Kept

/-! ## The invariant of a run -/

/-- The notes the tables hold, as the tables keep them, each created no later than it was
last updated, and modified exactly where `revised` marks its identity. -/
structure Timed (revised : String → Bool) (ns : List Note) : Prop extends Kept ns where
  order : ∀ x ∈ ns, x.createdAt ≤ x.updatedAt
  modified : ∀ x ∈ ns, x.modified = revised x.id

theorem timed_nil : Timed (fun _ => false) [] where
  ids := List.nodup_nil
  canonical := fun _ h => absurd h List.not_mem_nil
  whole := fun _ h => absurd h List.not_mem_nil
  order := fun _ h => absurd h List.not_mem_nil
  modified := fun _ h => absurd h List.not_mem_nil

namespace Timed

variable {revised : String → Bool} {ns : List Note}

/-- Dropping notes keeps the invariant. -/
theorem sublist (h : Timed revised ns) {ns' : List Note} (hs : List.Sublist ns' ns) : Timed revised ns' where
  ids := (hs.map _).nodup h.ids
  canonical := fun x hx => h.canonical x (hs.subset hx)
  whole := fun x hx => h.whole x (hs.subset hx)
  order := fun x hx => h.order x (hs.subset hx)
  modified := fun x hx => h.modified x (hs.subset hx)

/-- A create of a new note under a fresh identity appends it unmodified, and clears the
mark of its identity. -/
theorem create (h : Timed revised ns) {n : Note} (hn : n.New) (hfresh : ∀ x ∈ ns, x.id ≠ n.id) :
    Timed (fun i => if n.id = i then false else revised i) (ns ++ [n.truncate]) where
  ids := by
    rw [List.map_append, List.nodup_append]
    refine ⟨h.ids, by simp, ?_⟩
    intro a ha b hb
    obtain ⟨x, hx, rfl⟩ := List.mem_map.1 ha
    rw [List.mem_singleton.1 hb]
    exact hfresh x hx
  canonical := List.forall_mem_append.2 ⟨h.canonical, List.forall_mem_singleton.2 hn.id⟩
  whole := List.forall_mem_append.2 ⟨h.whole, List.forall_mem_singleton.2 (truncate_truncate n)⟩
  order := List.forall_mem_append.2
    ⟨h.order, List.forall_mem_singleton.2 (by simp [Note.truncate, hn.times])⟩
  modified := by
    refine List.forall_mem_append.2 ⟨fun x hx => ?_,
      List.forall_mem_singleton.2 (by simp [Note.modified, Note.truncate, hn.times])⟩
    -- the other notes keep their marks: their identities differ from the new one
    have hne : n.id ≠ x.id := fun hid => hfresh x hx hid.symm
    simp only [hne, if_false]
    exact h.modified x hx

/-- An update of a note of the list revises it in place, modified, and marks its
identity. -/
theorem revise (h : Timed revised ns) {old : Note} (hold : old ∈ ns) (d : Draft) (now : Instant) :
    Timed (fun i => if old.id = i then true else revised i) (reviseAt ns old d now) := by
  have hwhole := h.whole old hold
  have hwu : truncateMicros old.updatedAt = old.updatedAt := congrArg Note.updatedAt hwhole
  have hlater := le_updatedAt_revise hwu d now
  have horder := h.order old hold
  -- the revised note: its creation time stays, its update time moves past it
  have hnew : (old.revise d now).createdAt < (old.revise d now).updatedAt := by
    have hcreated : (old.revise d now).createdAt = old.createdAt := rfl
    rw [hcreated]
    simp only [nanosPerMicro] at hlater
    unfold Instant at *
    omega
  have hwc : truncateMicros old.createdAt = old.createdAt := congrArg Note.createdAt hwhole
  refine ⟨⟨?_, ?_, ?_⟩, ?_, ?_⟩
  · rw [map_id_reviseAt]
    exact h.ids
  · exact forall_mem_reviseAt (fun x hx _ => h.canonical x hx) (h.canonical old hold)
  · exact forall_mem_reviseAt (fun x hx _ => h.whole x hx)
      (by simp [Note.truncate, Note.revise, hwc, truncateMicros_truncateMicros])
  · exact forall_mem_reviseAt (fun x hx _ => h.order x hx) (le_of_lt hnew)
  · refine forall_mem_reviseAt (fun x hx hid => ?_) (by simp [Note.modified, hnew])
    -- the other notes keep their marks: their identities differ from the revised one
    have hne : old.id ≠ x.id := fun h => hid h.symm
    simp only [hne, if_false]
    exact h.modified x hx

/-- One request keeps the invariant, with the marks moved as the request says. -/
theorem serve (h : Timed revised ns) {r : Request} (hr : ∀ n, r = .create n → n.New) :
    ∃ ns', ((tablesOf ns).serve r).2 = tablesOf ns' ∧
      Timed (fun i => r.marks (tablesOf ns) i (revised i)) ns' := by
  cases r with
  | create n =>
    cases hc : (tablesOf ns).create n with
    | error e => exact ⟨ns, by simp [Database.serve, commit, hc], by simpa [Request.marks, hc] using h⟩
    | ok db =>
      obtain ⟨hfresh, rfl⟩ := create_tablesOf_eq_ok hc
      refine ⟨ns ++ [n.truncate], by simp [Database.serve, commit, hc], ?_⟩
      simpa [Request.marks, hc] using h.create (hr n rfl) hfresh
  | update l d now =>
    cases hu : (tablesOf ns).update l d now with
    | error e => exact ⟨ns, by simp [Database.serve, commit, hu], by simpa [Request.marks, hu] using h⟩
    | ok db =>
      obtain ⟨old, hold, hget, -, rfl⟩ := h.toKept.update hu
      refine ⟨reviseAt ns old d now, by simp [Database.serve, commit, hu], ?_⟩
      simpa [Request.marks, hu, hget] using h.revise hold d now
  | delete l =>
    -- a delete drops the notes with the identity of the note at `l`, if there is one
    have hdel := @delete_tablesOf ns l
    cases hf : ns.find? (·.location == l) with
    | none =>
      rw [hf] at hdel
      exact ⟨ns, by simp [Database.serve, commit, hdel], h⟩
    | some x =>
      rw [hf] at hdel
      exact ⟨ns.filter (·.id != x.id), by simp [Database.serve, commit, hdel],
        h.sublist List.filter_sublist⟩
  | deleteFile f =>
    exact ⟨ns.filter (·.filepath != f), by simp [Database.serve, commit, deleteFile_tablesOf h.ids f],
      h.sublist List.filter_sublist⟩
  | get l => exact ⟨ns, rfl, h⟩
  | listAll => exact ⟨ns, rfl, h⟩
  | listFile f => exact ⟨ns, rfl, h⟩
  | listKind k => exact ⟨ns, rfl, h⟩
  | search t => exact ⟨ns, rfl, h⟩

/-- A run keeps the invariant, with the marks of the run: induction on the run, each step
by `Timed.serve`. -/
theorem replay (h : Timed revised ns) (rs : List Request) (hnew : ∀ n, .create n ∈ rs → n.New) :
    ∃ ns', (CodeNotes.Store.replay Database.serve (tablesOf ns) rs).2 = tablesOf ns' ∧
      Timed (fun i => revisedAlong i (tablesOf ns) (revised i) rs) ns' := by
  induction rs generalizing ns revised with
  | nil => exact ⟨ns, rfl, h⟩
  | cons r rs ih =>
    obtain ⟨ns₁, hdb, h₁⟩ := h.serve fun n hn => hnew n (hn ▸ List.mem_cons_self)
    obtain ⟨ns₂, hend, h₂⟩ := ih h₁ fun n hn => hnew n (List.mem_cons_of_mem _ hn)
    refine ⟨ns₂, ?_, ?_⟩
    · simp only [CodeNotes.Store.replay, hdb]
      exact hend
    · simp only [revisedAlong, hdb]
      exact h₂

end Timed

/-! ## Runs from the empty tables -/

/-- The tables a run of requests leaves, served one after another from the empty tables. -/
def Database.after (rs : List Request) : Database := (replay Database.serve Database.empty rs).2

/-- Times over any run from the empty tables in which notes are created as callers create
them, whatever the clock reads: every note read back, at a location or in the listing of
all notes, was created no later than it was last updated, and is modified exactly when an
update of it has succeeded since it was last created.  An update that succeeds after the
run keeps the note's identity and creation time, moves its update time on by at least a
microsecond, and leaves the note readable at the draft's location where its line and its
new update time are in range. -/
theorem run_times (rs : List Request) (hnew : ∀ n, .create n ∈ rs → n.New) :
    (∀ (l : Location) (v : Note), (Database.after rs).get l = .ok v →
        v.createdAt ≤ v.updatedAt ∧ v.modified = revisedAlong v.id Database.empty false rs) ∧
      (∀ vs, (Database.after rs).listAll = .ok vs → ∀ v ∈ vs,
        v.createdAt ≤ v.updatedAt ∧ v.modified = revisedAlong v.id Database.empty false rs) ∧
      (∀ (l : Location) (d : Draft) (now : Instant) (db : Database),
        (Database.after rs).update l d now = .ok db →
          ∃ old, (Database.after rs).get l = .ok old ∧
            (∀ v, db.get d.location = .ok v →
              v.id = old.id ∧ v.createdAt = old.createdAt ∧
                old.updatedAt + nanosPerMicro ≤ v.updatedAt) ∧
            (d.line ≤ 4294967295 → Storable (nextUpdate old.updatedAt now) →
              ∃ v, db.get d.location = .ok v)) := by
  obtain ⟨ns, hdb, h⟩ := timed_nil.replay rs hnew
  rw [tablesOf_nil] at hdb h
  rw [Database.after, hdb]
  refine ⟨?_, ?_, ?_⟩
  · intro l v hget
    have hv := (h.toKept.get hget).1
    exact ⟨h.order v hv, h.modified v hv⟩
  · intro vs hq v hv
    have hv' := h.toKept.query hq hv
    exact ⟨h.order v hv', h.modified v hv'⟩
  · intro l d now db hu
    obtain ⟨old, hold, hget, hfree, rfl⟩ := h.toKept.update hu
    obtain ⟨-, -, hfit⟩ := h.toKept.get hget
    have hrev := (h.revise hold d now).toKept
    -- the revised note is the one note at the draft's location
    have hfind : (reviseAt ns old d now).find? (·.location == d.location) =
        some (old.revise d now) := find?_reviseAt hold hfree
    refine ⟨old, hget, ?_, ?_⟩
    · intro v hv
      obtain ⟨x, hx, hd⟩ := get_tablesOf_eq_ok hrev.ids hv
      rw [hfind, Option.some.injEq] at hx
      subst hx
      obtain ⟨rfl, -⟩ := hrev.decode (List.mem_of_find?_eq_some hfind) hd
      exact ⟨rfl, rfl, le_updatedAt_revise hfit.updatedAt.whole d now⟩
    · intro hline hnext
      have hfit' : Fit (old.revise d now) :=
        ⟨hline, hfit.id, hfit.createdAt, stored_truncateMicros hnext⟩
      exact ⟨_, get_tablesOf_of_find? hrev.ids hfind (decodeRow_rowOf hfit')⟩

/-- A note created at five seconds past the epoch and 123 nanoseconds, then updated twice
by a clock that has gone back to one second. -/
def backwardsClock : List Request :=
  [.create (({ filepath := "src/a.rs", line := 3, kind := .todo, text := "fix" } : Draft).toNote
      "00000000-0000-4000-8000-000000000001" 5000000123),
   .update ⟨"src/a.rs", 3⟩ { filepath := "src/a.rs", line := 3, kind := .todo, text := "fix it" }
      1000000000,
   .update ⟨"src/a.rs", 3⟩ { filepath := "src/a.rs", line := 4, kind := .todo, text := "fix it" }
      1000000000]

theorem backwardsClock_new : ∀ n, Request.create n ∈ backwardsClock → n.New := by
  intro n hn
  simp only [backwardsClock, List.mem_cons, Request.create.injEq, reduceCtorEq, List.not_mem_nil,
    or_false] at hn
  subst hn
  exact Draft.new_toNote _ (by rfl) _

/-- The run with the clock gone back creates notes as callers do, so `run_times` speaks of
it. -/
theorem run_times_backwardsClock :
    (∀ n, Request.create n ∈ backwardsClock → n.New) ∧
      ((∀ (l : Location) (v : Note), (Database.after backwardsClock).get l = .ok v →
          v.createdAt ≤ v.updatedAt ∧
            v.modified = revisedAlong v.id Database.empty false backwardsClock) ∧
        (∀ vs, (Database.after backwardsClock).listAll = .ok vs → ∀ v ∈ vs,
          v.createdAt ≤ v.updatedAt ∧
            v.modified = revisedAlong v.id Database.empty false backwardsClock) ∧
        (∀ (l : Location) (d : Draft) (now : Instant) (db : Database),
          (Database.after backwardsClock).update l d now = .ok db →
            ∃ old, (Database.after backwardsClock).get l = .ok old ∧
              (∀ v, db.get d.location = .ok v →
                v.id = old.id ∧ v.createdAt = old.createdAt ∧
                  old.updatedAt + nanosPerMicro ≤ v.updatedAt) ∧
              (d.line ≤ 4294967295 → Storable (nextUpdate old.updatedAt now) →
                ∃ v, db.get d.location = .ok v))) :=
  ⟨backwardsClock_new, run_times backwardsClock backwardsClock_new⟩

/-- With the clock gone back, each update still moves the update time on by a microsecond
from the creation time truncated to the microsecond, and the note reads as modified. -/
example : ((Database.after backwardsClock).get ⟨"src/a.rs", 4⟩).map
    (fun n => (n.createdAt, n.updatedAt, n.modified)) = .ok (5000000000, 5000002000, true) := by
  decide +kernel

end CodeNotes.Store
