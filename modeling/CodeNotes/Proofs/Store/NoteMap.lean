import CodeNotes.Store.Database
import Mathlib.Data.String.Basic
import Mathlib.Data.Prod.Lex
import Mathlib.Data.List.Sort
set_option autoImplicit false

/-!
# The note map

What the note tables are meant to be: a finite map from locations to notes.  A
`NoteMap` holds its notes strictly ordered by location, by path and then by line, which
is the order every listing of the tables follows; the order makes the map's list of
notes canonical, so two maps with the same notes are equal (`NoteMap.ext_mem`).

The map's operations mirror the tables' ones: `create` refuses a taken location,
`update` moves the note at a location to a draft's location and replaces its visible
fields (keeping its identity and creation time), `delete` and `deleteFile` remove notes,
and `get`, `listAll`, `listFile`, `listKind` and `search` read.  Times are kept to the
microsecond, as the tables keep them (`Note.truncate`).
-/

namespace CodeNotes

namespace Location

/-- The sort key of a location: its path, compared code point by code point (the byte
order of its UTF-8 text), then its line. -/
def lexKey (l : Location) : String ×ₗ Nat := toLex (l.filepath, l.line)

theorem lexKey_injective : Function.Injective lexKey := by
  intro a b h
  have hpair : (a.filepath, a.line) = (b.filepath, b.line) := toLex.injective h
  cases a
  cases b
  simp only [Prod.mk.injEq] at hpair
  rw [hpair.1, hpair.2]

/-- Locations in the order of the tables' listings. -/
instance : LinearOrder Location := LinearOrder.lift' lexKey lexKey_injective

theorem lt_iff {a b : Location} :
    a < b ↔ a.filepath < b.filepath ∨ a.filepath = b.filepath ∧ a.line < b.line :=
  Prod.Lex.lt_iff

theorem le_iff {a b : Location} :
    a ≤ b ↔ a.filepath < b.filepath ∨ a.filepath = b.filepath ∧ a.line ≤ b.line :=
  Prod.Lex.le_iff

end Location

namespace Store

open Time

namespace Note

/-- A note as the tables keep it: both times truncated to the microsecond. -/
def truncate (n : Note) : Note :=
  { n with createdAt := truncateMicros n.createdAt, updatedAt := truncateMicros n.updatedAt }

/-- The note that an update from `d` at `now` leaves at `d`'s location: identity and
creation time stay, the author and the visible fields come from the draft, and the
update time is the tables' next update time, to the microsecond. -/
def revise (old : Note) (d : Draft) (now : Instant) : Note :=
  { old with filepath := d.filepath, line := d.line, kind := d.kind, username := d.username,
             email := d.email, text := d.text,
             updatedAt := truncateMicros (Database.nextUpdate old.updatedAt now) }

@[simp] theorem location_truncate (n : Note) : n.truncate.location = n.location := rfl

@[simp] theorem id_truncate (n : Note) : n.truncate.id = n.id := rfl

@[simp] theorem location_revise (old : Note) (d : Draft) (now : Instant) :
    (old.revise d now).location = d.location := rfl

@[simp] theorem id_revise (old : Note) (d : Draft) (now : Instant) :
    (old.revise d now).id = old.id := rfl

end Note

/-- Inserting a note at a location that no note of a strictly ordered list holds keeps
the list strictly ordered. -/
theorem pairwise_orderedInsert_location (n : Note) :
    ∀ (ns : List Note), ns.Pairwise (fun a b => a.location < b.location) →
      (∀ x ∈ ns, x.location ≠ n.location) →
      (ns.orderedInsert (fun a b => a.location ≤ b.location) n).Pairwise
        (fun a b => a.location < b.location)
  | [], _, _ => List.pairwise_singleton _ n
  | a :: ns, hs, hfree => by
    rw [List.pairwise_cons] at hs
    have hna : a.location ≠ n.location := hfree a List.mem_cons_self
    by_cases hle : n.location ≤ a.location
    · -- `n` goes first: below `a`, and so below everything after `a`
      have hlt : n.location < a.location := lt_of_le_of_ne hle (Ne.symm hna)
      rw [List.orderedInsert_cons, if_pos hle]
      refine List.Pairwise.cons ?_ (List.Pairwise.cons hs.1 hs.2)
      intro x hx
      rcases List.mem_cons.1 hx with rfl | hx
      · exact hlt
      · exact lt_trans hlt (hs.1 x hx)
    · have hlt : a.location < n.location := lt_of_not_ge hle
      rw [List.orderedInsert_cons, if_neg hle]
      refine List.Pairwise.cons ?_
        (pairwise_orderedInsert_location n ns hs.2 fun x hx => hfree x (List.mem_cons_of_mem a hx))
      intro x hx
      rcases (List.mem_orderedInsert _).1 hx with rfl | hx
      · exact hlt
      · exact hs.1 x hx

/-- In a list whose keys are distinct, the first element with a member's key is that
member. -/
theorem find?_key_eq_some {α κ : Type} [DecidableEq κ] (key : α → κ) {l : List α}
    (hl : (l.map key).Nodup) {a : α} (ha : a ∈ l) : l.find? (fun x => key x == key a) = some a := by
  obtain ⟨x, hx⟩ : ∃ x, l.find? (fun x => key x == key a) = some x := by
    cases h : l.find? (fun x => key x == key a) with
    | some x => exact ⟨x, rfl⟩
    | none =>
      rw [List.find?_eq_none] at h
      simpa using h a ha
  have hxl : key x = key a := by simpa using List.find?_some hx
  rw [hx, List.inj_on_of_nodup_map hl (List.mem_of_find?_eq_some hx) ha hxl]

/-- A finite map from locations to notes: each note stands at its own location, and the
notes are listed strictly in the order of their locations. -/
structure NoteMap where
  notes : List Note
  sorted : notes.Pairwise (fun a b => a.location < b.location)

namespace NoteMap

/-- The map of a new store. -/
def empty : NoteMap := ⟨[], .nil⟩

/-- The note at a location. -/
def find? (m : NoteMap) (l : Location) : Option Note := m.notes.find? (·.location == l)

/-- The map without the note at `l`. -/
def erase (m : NoteMap) (l : Location) : NoteMap :=
  ⟨m.notes.filter (·.location != l), m.sorted.filter _⟩

/-- The map without the notes of the file `f`. -/
def eraseFile (m : NoteMap) (f : String) : NoteMap :=
  ⟨m.notes.filter (·.filepath != f), m.sorted.filter _⟩

/-- The map with `n` at its location, in place of any note there. -/
def insert (m : NoteMap) (n : Note) : NoteMap :=
  ⟨(m.erase n.location).notes.orderedInsert (fun a b => a.location ≤ b.location) n,
    pairwise_orderedInsert_location n _ (m.erase n.location).sorted fun x hx => by
      simpa using (List.mem_filter.1 hx).2⟩

/-! ## Operations -/

/-- Creates a note at a free location. -/
def create (m : NoteMap) (n : Note) : Except StoreError NoteMap :=
  if (m.find? n.location).isSome then .error (.alreadyExists n.location)
  else .ok (m.insert n.truncate)

/-- Moves the note at `l` to the draft's location and replaces its visible fields. -/
def update (m : NoteMap) (l : Location) (d : Draft) (now : Instant) :
    Except StoreError NoteMap :=
  match m.find? l with
  | none => .error (.notFound l)
  | some old =>
    if d.location ≠ l ∧ (m.find? d.location).isSome then .error (.alreadyExists d.location)
    else .ok ((m.erase l).insert (old.revise d now))

/-- Removes the note at a location, if any. -/
def delete (m : NoteMap) (l : Location) : NoteMap := m.erase l

/-- Removes the notes of a file. -/
def deleteFile (m : NoteMap) (f : String) : NoteMap := m.eraseFile f

/-- The note at a location, or `notFound`. -/
def get (m : NoteMap) (l : Location) : Except StoreError Note :=
  match m.find? l with
  | some n => .ok n
  | none => .error (.notFound l)

/-- Every note. -/
def listAll (m : NoteMap) : List Note := m.notes

/-- The notes of one file. -/
def listFile (m : NoteMap) (f : String) : List Note := m.notes.filter (·.filepath == f)

/-- The notes of one kind. -/
def listKind (m : NoteMap) (k : Kind) : List Note := m.notes.filter (·.kind == k)

/-- The notes whose text holds `fragment`, ignoring ASCII case. -/
def search (m : NoteMap) (fragment : String) : List Note :=
  m.notes.filter fun n =>
    Text.occursIn (Database.asciiLowerText fragment) (Database.asciiLowerText n.text)

/-! ## Membership -/

variable (m : NoteMap)

theorem nodup_locations : (m.notes.map (·.location)).Nodup := by
  rw [List.nodup_iff_pairwise_ne, List.pairwise_map]
  exact m.sorted.imp ne_of_lt

theorem nodup_notes : m.notes.Nodup := List.Nodup.of_map _ m.nodup_locations

theorem eq_of_location_eq {a b : Note} (ha : a ∈ m.notes) (hb : b ∈ m.notes)
    (h : a.location = b.location) : a = b :=
  List.inj_on_of_nodup_map m.nodup_locations ha hb h

/-- Two maps with the same notes are the same map. -/
theorem ext_mem {m' : NoteMap} (h : ∀ x, x ∈ m.notes ↔ x ∈ m'.notes) : m = m' := by
  have hperm : m.notes.Perm m'.notes :=
    (List.perm_ext_iff_of_nodup m.nodup_notes m'.nodup_notes).2 h
  have heq : m.notes = m'.notes :=
    hperm.eq_of_pairwise (fun _ _ _ _ hab hba => absurd (lt_trans hab hba) (lt_irrefl _))
      m.sorted m'.sorted
  cases m
  cases m'
  simp only [mk.injEq]
  exact heq

theorem find?_eq_some_iff {l : Location} {n : Note} :
    m.find? l = some n ↔ n ∈ m.notes ∧ n.location = l := by
  constructor
  · intro h
    exact ⟨List.mem_of_find?_eq_some h, by simpa using List.find?_some h⟩
  · rintro ⟨hn, rfl⟩
    exact find?_key_eq_some Note.location m.nodup_locations hn

theorem find?_eq_none_iff {l : Location} :
    m.find? l = none ↔ ∀ n ∈ m.notes, n.location ≠ l := by
  simp [find?, List.find?_eq_none]

@[simp] theorem mem_erase {l : Location} {x : Note} :
    x ∈ (m.erase l).notes ↔ x ∈ m.notes ∧ x.location ≠ l := by
  simp [erase]

@[simp] theorem mem_eraseFile {f : String} {x : Note} :
    x ∈ (m.eraseFile f).notes ↔ x ∈ m.notes ∧ x.filepath ≠ f := by
  simp [eraseFile]

@[simp] theorem mem_insert {n x : Note} :
    x ∈ (m.insert n).notes ↔ x = n ∨ x ∈ m.notes ∧ x.location ≠ n.location := by
  simp [insert, List.mem_orderedInsert]

theorem perm_insert (n : Note) : (m.insert n).notes.Perm (n :: (m.erase n.location).notes) :=
  List.perm_orderedInsert _ _ _

theorem erase_notes_of_find?_eq_none {l : Location} (h : m.find? l = none) :
    (m.erase l).notes = m.notes := by
  rw [find?_eq_none_iff] at h
  exact List.filter_eq_self.2 fun x hx => by simpa using h x hx

/-! ## Lookups after a write -/

theorem find?_insert (n : Note) (l : Location) :
    (m.insert n).find? l = if n.location = l then some n else m.find? l := by
  apply Option.ext
  intro x
  rw [find?_eq_some_iff, mem_insert]
  by_cases h : n.location = l
  · rw [if_pos h]
    constructor
    · rintro ⟨rfl | ⟨_, hne⟩, hl⟩
      · rfl
      · exact absurd (hl.trans h.symm) hne
    · intro hx
      cases Option.some.inj hx
      exact ⟨Or.inl rfl, h⟩
  · rw [if_neg h, find?_eq_some_iff]
    constructor
    · rintro ⟨rfl | ⟨hx, _⟩, hl⟩
      · exact absurd hl h
      · exact ⟨hx, hl⟩
    · rintro ⟨hx, hl⟩
      exact ⟨Or.inr ⟨hx, fun hn => h (hn ▸ hl)⟩, hl⟩

theorem find?_erase (l l' : Location) :
    (m.erase l).find? l' = if l = l' then none else m.find? l' := by
  by_cases h : l = l'
  · rw [if_pos h, find?_eq_none_iff]
    intro x hx
    exact h ▸ ((mem_erase m).1 hx).2
  · rw [if_neg h]
    apply Option.ext
    intro x
    rw [find?_eq_some_iff, find?_eq_some_iff, mem_erase]
    constructor
    · rintro ⟨⟨hx, _⟩, hl⟩
      exact ⟨hx, hl⟩
    · rintro ⟨hx, rfl⟩
      exact ⟨⟨hx, fun hl => h hl.symm⟩, rfl⟩

/-- An update that leaves the note at its location replaces it. -/
theorem update_in_place {l : Location} {old : Note} (h : m.find? l = some old) {d : Draft}
    (hd : d.location = l) (now : Instant) :
    m.update l d now = .ok ((m.erase l).insert (old.revise d now)) := by
  simp [update, h, hd]

/-- A create at a free location inserts the note, to the microsecond. -/
theorem create_of_free {n : Note} (h : m.find? n.location = none) :
    m.create n = .ok (m.insert n.truncate) := by
  simp [create, h]

end NoteMap

end Store

end CodeNotes
