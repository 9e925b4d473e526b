import CodeNotes.Store.Database
set_option autoImplicit false

/-!
# Stores of notes

Normative source: SPEC_FULL.md §6 (Storage Port: the operations a reconciliation uses).

`NoteStore` is what reconciliation needs of a store: listing every note or the notes of
one file, and creating, updating and deleting notes.  The note tables are one store.
A `Lagging` store is another: it wraps the tables but leaves the notes at some keys
out of its listings, as a store does whose listing was taken before another writer
added those notes; every write still reaches the tables.

`Supply` hands out fresh note identities and clock readings: a create takes one of each,
an update one reading.
-/

namespace CodeNotes.Store

open CodeNotes

/-- What reconciliation needs of a store. -/
class NoteStore (σ : Type) where
  listAll : σ → Except StoreError (List Note)
  listFile : σ → String → Except StoreError (List Note)
  create : σ → Note → Except StoreError σ
  update : σ → Location → Draft → Time.Instant → Except StoreError σ
  delete : σ → Location → Except StoreError σ
  deleteFile : σ → String → Except StoreError σ

instance : NoteStore Database where
  listAll := Database.listAll
  listFile := Database.listFile
  create := Database.create
  update := Database.update
  delete := Database.delete
  deleteFile := Database.deleteFile

/-- The tables, with the notes at some keys left out of every listing. -/
structure Lagging where
  db : Database
  hidden : List String

namespace Lagging

/-- The notes of a listing that are not hidden. -/
def visible (s : Lagging) (ns : List Note) : List Note := ns.filter fun n => !s.hidden.contains n.key

/-- Applies a write to the wrapped tables. -/
def lift (s : Lagging) (w : Database → Except StoreError Database) : Except StoreError Lagging :=
  (w s.db).map fun db => { s with db := db }

end Lagging

instance : NoteStore Lagging where
  listAll s := (s.db.listAll).map s.visible
  listFile s f := (s.db.listFile f).map s.visible
  create s n := s.lift (·.create n)
  update s l d t := s.lift (·.update l d t)
  delete s l := s.lift (·.delete l)
  deleteFile s f := s.lift (·.deleteFile f)

/-- Where new identities and clock readings come from: the identities the identity
source hands out, in order, and the readings the clock gives, in order, with how many of
each have been taken.  Whatever the two sources do over a run, it is such a pair of
sequences, so a statement about every supply covers every clock and every source of
identities; what a statement needs of them it names as a hypothesis. -/
structure Supply where
  /-- The identities the source hands out, the `i`-th at `i`. -/
  ids : Nat → String
  /-- The clock's readings, the `j`-th at `j`. -/
  clock : Nat → Time.Instant
  /-- How many identities have been taken. -/
  serial : Nat
  /-- How many readings have been taken. -/
  reads : Nat

namespace Supply

/-- The time between two readings of the command's clock: one millisecond. -/
def tick : Time.Instant := 1000000

/-- The supply the command runs with: identities numbered from one, and a clock that
starts at `clock` and moves one tick per reading. -/
def start (clock : Time.Instant) : Supply := ⟨idOfSerial, fun j => clock + j * tick, 1, 0⟩

/-- The next fresh identity and clock reading. -/
def fresh (s : Supply) : (String × Time.Instant) × Supply :=
  ((s.ids s.serial, s.clock s.reads), { s with serial := s.serial + 1, reads := s.reads + 1 })

/-- The next clock reading. -/
def now (s : Supply) : Time.Instant × Supply := (s.clock s.reads, { s with reads := s.reads + 1 })

end Supply

end CodeNotes.Store
