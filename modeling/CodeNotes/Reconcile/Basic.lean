import CodeNotes.Store.Class
import CodeNotes.Log
set_option autoImplicit false

/-!
# Reconciling the store with discovered comments

Normative source: SPEC_FULL.md §4.6 (Reconciler: `reconcile(discovered, scopeFilepath?)`
and its per-key state machine) and §11.3 (Reconciler additions: the report, unchanged
notes, first occurrence wins, purging a file).

`reconcile` makes the notes in scope agree with the comments discovered in scope.  The
scope is one file, or everything.  Among comments with the same location key the
first one counts.  Then, key by key in sorted order:

* a note already at the key with the same text and kind is left as it is (*unchanged*);
* a note at the key that differs is rewritten from the comment (*updated*), which keeps
  its identity and creation time and clears its author;
* otherwise a note is created from the comment (*created*); when the store refuses
  because a note has appeared there meanwhile, that note is left alone and counted
  nowhere.

Every note in scope whose key no comment has is deleted, in key order, and listed as
*pruned*.  `purgeFile` deletes every note of a file and lists their keys.

Each pass says what it did to each key at debug level and sums itself up at info level.
-/

namespace CodeNotes.Reconcile

open CodeNotes CodeNotes.Store

/-- What a reconciliation did. -/
structure Report where
  created : Nat := 0
  updated : Nat := 0
  unchanged : Nat := 0
  pruned : List String := []
  deriving DecidableEq, Repr, Inhabited

namespace Report

/-- A reconciliation that changed nothing. -/
def isNoop (r : Report) : Bool := r.created == 0 && r.updated == 0 && r.pruned.isEmpty

end Report

/-- Inserts `(k, v)` into a list sorted by key unless the key is present: the first
entry for a key stays. -/
def insertFirst {α : Type} (k : String) (v : α) : List (String × α) → List (String × α)
  | [] => [(k, v)]
  | (k', v') :: rest =>
    if k < k' then (k, v) :: (k', v') :: rest
    else if k = k' then (k', v') :: rest
    else (k', v') :: insertFirst k v rest

/-- The comments in scope by key, sorted by key, the first comment of each key. -/
def wanted (found : List Comment) (scope : Option String) : List (String × Comment) :=
  (found.filter fun c => scope.all (· == c.filepath)).foldl (fun acc c => insertFirst c.key c acc) []

/-- Puts `(k, v)` into an association list, replacing an entry with the same key. -/
def putLast {α : Type} (k : String) (v : α) (xs : List (String × α)) : List (String × α) :=
  (xs.filter fun e => e.1 != k) ++ [(k, v)]

/-- The listed notes by key; of two notes with one key the later counts. -/
def byKey (ns : List Note) : List (String × Note) := ns.foldl (fun acc n => putLast n.key n acc) []

/-- Sorts an association list by key. -/
def sortByKey {α : Type} (xs : List (String × α)) : List (String × α) :=
  xs.mergeSort fun a b => decide (a.1 ≤ b.1)

/-- State of the pass over the wanted keys. -/
structure Pass (σ : Type) where
  store : σ
  supply : Supply
  existing : List (String × Note)
  report : Report
  log : List LogLine

variable {σ : Type} [NoteStore σ]

/-- A debug line of a pass. -/
def detail (message : String) : LogLine := ⟨.debug, reconcileSource, message⟩

/-- Handles one wanted key. -/
def visit (p : Pass σ) (entry : String × Comment) : Except StoreError (Pass σ) := do
  let (key, c) := entry
  match p.existing.find? (·.1 == key) with
  | some (_, n) =>
    let existing := p.existing.filter (·.1 != key)
    if n.text == c.text && n.kind == c.kind then
      pure { p with existing, report := { p.report with unchanged := p.report.unchanged + 1 } }
    else
      let (now, supply) := p.supply.now
      let store ← NoteStore.update p.store c.location (Draft.ofComment c) now
      pure { store, supply, existing, report := { p.report with updated := p.report.updated + 1 },
             log := p.log ++ [detail ("Updated note " ++ key)] }
  | none =>
    let ((id, now), supply) := p.supply.fresh
    match NoteStore.create p.store ((Draft.ofComment c).toNote id now) with
    | .ok store =>
      pure { p with store, supply, report := { p.report with created := p.report.created + 1 },
                    log := p.log ++ [detail ("Created note " ++ key)] }
    | .error (.alreadyExists _) =>
      pure { p with supply, log := p.log ++ [detail ("Note " ++ key ++ " appeared concurrently, leaving it")] }
    | .error e => throw e

/-- Deletes one stale note. -/
def prune (p : Pass σ) (entry : String × Note) : Except StoreError (Pass σ) := do
  let store ← NoteStore.delete p.store entry.2.location
  pure { p with store, report := { p.report with pruned := p.report.pruned ++ [entry.1] },
                log := p.log ++ [detail ("Pruned note " ++ entry.1)] }

/-- The summary line of a pass over `n` wanted keys. -/
def summary (n : Nat) (r : Report) : LogLine :=
  ⟨.info, reconcileSource, "Reconciled " ++ toString n ++ " comments: " ++ toString r.created ++
    " created, " ++ toString r.updated ++ " updated, " ++ toString r.unchanged ++ " unchanged, " ++
    toString r.pruned.length ++ " pruned"⟩

/-- Makes the notes in scope agree with the discovered comments in scope.  Returns the
report, the log of the pass, the store and the rest of the supply. -/
def reconcile (s : σ) (supply : Supply) (found : List Comment) (scope : Option String) :
    Except StoreError (Report × List LogLine × σ × Supply) := do
  let listed ← match scope with
    | some f => NoteStore.listFile s f
    | none => NoteStore.listAll s
  let want := wanted found scope
  let p ← want.foldlM visit ⟨s, supply, byKey listed, {}, []⟩
  let p ← (sortByKey p.existing).foldlM prune { p with existing := [] }
  pure (p.report, p.log ++ [summary want.length p.report], p.store, p.supply)

/-- Deletes every note of a file and returns their keys, sorted. -/
def purgeFile (s : σ) (f : String) : Except StoreError (List String × σ) := do
  let keys := sortKeys ((← NoteStore.listFile s f).map Note.key)
  pure (keys, ← NoteStore.deleteFile s f)
where
  /-- Sorts keys as texts. -/
  sortKeys (ks : List String) : List String := ks.mergeSort fun a b => decide (a ≤ b)

/-- The summary line of a purge. -/
def purgeLine (f : String) (keys : List String) : LogLine :=
  ⟨.info, reconcileSource, "Purged " ++ toString keys.length ++ " notes of missing file " ++ f⟩

end CodeNotes.Reconcile
