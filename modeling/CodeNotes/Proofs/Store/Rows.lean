import CodeNotes.Proofs.Store.NoteMap
import CodeNotes.Proofs.Time.Stored
set_option autoImplicit false

/-!
# Tables that hold a list of notes

The tables of a list of notes `ns` hold one row of `notes` and one row of
`note_contents` for each note, in the order of the list (`tablesOf`).  When every note
fits the tables (`Fit`: a 32-bit line, an identity in canonical form, times to the
microsecond in years 0 to 9999) and identities are distinct (`Rows`), the tables give
the notes back exactly:

* `decodeRow_rowOf`: the row of a note decodes to the note;
* `query_tablesOf`: a query returns the notes it keeps, sorted by location;
* `find?_tablesOf`, `create_tablesOf`, `update_tablesOf`, `delete_tablesOf`,
  `deleteFile_tablesOf`: each operation on the tables is the operation on the list.

For notes that need not fit, reading goes the other way: a row that reads back names a
note that fits, and reads as the note truncated to the microsecond
(`decodeRow_rowOf_eq_ok`), and a create or an update that succeeds on the tables of a
list leaves the tables of the list it names (`create_tablesOf_eq_ok`,
`update_tablesOf_of_get`).
-/

namespace CodeNotes.Store

open Time Database

/-! ## Times the tables can hold -/

/-- A time the four-digit stored form can write: in the years 0 to 9999. -/
def Storable (t : Instant) : Prop := firstStored ≤ t ∧ t < endStored

/-- A storable time, truncated to the microsecond, is stored exactly. -/
theorem stored_truncateMicros {t : Int} (h : Storable t) : Stored (truncateMicros t) :=
  Stored.truncate h.1 h.2

/-! ## Reading through the error monad -/

@[simp] theorem ok_bind {ε α β : Type} (a : α) (f : α → Except ε β) :
    (Except.ok a >>= f) = f a := rfl

@[simp] theorem throw_bind {ε α β : Type} (e : ε) (f : α → Except ε β) :
    (throw e >>= f : Except ε β) = .error e := rfl

@[simp] theorem pure_eq_ok {ε α : Type} (a : α) : (pure a : Except ε α) = .ok a := rfl

@[simp] theorem map_ok {ε α β : Type} (f : α → β) (a : α) :
    Except.map f (.ok a : Except ε α) = .ok (f a) := rfl

@[simp] theorem throw_eq_error {ε α : Type} (e : ε) : (throw e : Except ε α) = .error e := rfl

theorem bind_eq_ok {ε α β : Type} {x : Except ε α} {f : α → Except ε β} {b : β} :
    x >>= f = .ok b ↔ ∃ a, x = .ok a ∧ f a = .ok b := by
  cases x with
  | error e => exact ⟨fun h => (by cases h), fun ⟨_, h, _⟩ => (by cases h)⟩
  | ok a => exact ⟨fun h => ⟨a, rfl, h⟩, fun ⟨_, h, hf⟩ => (by cases h; exact hf)⟩

/-! ## Notes that fit the tables -/

/-- What the tables need of a note to give it back as it is. -/
structure Fit (n : Note) : Prop where
  line : n.line ≤ 4294967295
  id : readId n.id = .ok n.id
  createdAt : Stored n.createdAt
  updatedAt : Stored n.updatedAt

/-- The content row of a note. -/
def contentRowOf (n : Note) : ContentRow := ⟨.text n.id, .text n.text⟩

/-- The tables holding the notes `ns`, rows in the order of the list. -/
def tablesOf (ns : List Note) : Database := ⟨some (ns.map rowOf), some (ns.map contentRowOf)⟩

/-- Notes the tables give back: each fits, and no two share an identity. -/
structure Rows (ns : List Note) : Prop where
  fit : ∀ n ∈ ns, Fit n
  ids : (ns.map (·.id)).Nodup

@[simp] theorem tablesOf_nil : tablesOf [] = Database.empty := rfl

@[simp] theorem same_text (a b : String) : (Cell.text a).same (.text b) = (a == b) := by
  simp [Cell.same]

@[simp] theorem id_rowOf (n : Note) : (rowOf n).id = .text n.id := rfl

@[simp] theorem filepath_rowOf (n : Note) : (rowOf n).filepath = .text n.filepath := rfl

@[simp] theorem line_rowOf (n : Note) : (rowOf n).line = .int n.line := rfl

@[simp] theorem kind_rowOf (n : Note) : (rowOf n).kind = .text n.kind.label := rfl

@[simp] theorem createdAt_rowOf (n : Note) :
    (rowOf n).createdAt = .text (storedText n.createdAt) := rfl

@[simp] theorem updatedAt_rowOf (n : Note) :
    (rowOf n).updatedAt = .text (storedText n.updatedAt) := rfl

@[simp] theorem getText_text (i : Nat) (col s : String) : getText i col (.text s) = .ok s := rfl

theorem atLocation_rowOf (l : Location) (n : Note) :
    atLocation l (rowOf n) = (n.location == l) := by
  cases l
  simp only [atLocation, rowOf, Note.location, Cell.same]
  rw [Bool.eq_iff_iff]
  simp

/-- The tables cannot tell a note from its truncation to the microsecond. -/
theorem rowOf_truncate (n : Note) : rowOf n.truncate = rowOf n := by
  simp [rowOf, Note.truncate, storedText_truncateMicros]

/-! ## Reading rows back -/

/-- The row of a note that fits decodes to the note. -/
theorem decodeRow_rowOf {n : Note} (h : Fit n) : decodeRow (rowOf n) (.text n.text) = .ok n := by
  have hline : getLine 2 "line" (.int n.line) = .ok n.line := by
    simp [getLine, h.line]
  have hcreated : getTime 4 (storedText n.createdAt) = .ok n.createdAt := by
    simp [getTime, parse_storedText h.createdAt]
  have hupdated : getTime 5 (storedText n.updatedAt) = .ok n.updatedAt := by
    simp [getTime, parse_storedText h.updatedAt]
  unfold decodeRow
  simp only [rowOf, getText_text, ok_bind, h.id, hline, hcreated, hupdated, Kind.parse?_label,
    pure_eq_ok, Cell.asText]
  -- what is left reads the two author cells back
  cases n with
  | mk id filepath line kind username email createdAt updatedAt text =>
    cases username <;> cases email <;> rfl

/-- The author cells of a note's row read back as the note's author. -/
@[simp] theorem getOptText_username_rowOf (i : Nat) (col : String) (n : Note) :
    getOptText i col (rowOf n).username = .ok n.username := by
  cases h : n.username <;> simp [rowOf, h, getOptText]

@[simp] theorem getOptText_email_rowOf (i : Nat) (col : String) (n : Note) :
    getOptText i col (rowOf n).email = .ok n.email := by
  cases h : n.email <;> simp [rowOf, h, getOptText]

theorem getLine_eq_ok {i : Nat} {col : String} {n m : Nat}
    (h : getLine i col (.int n) = .ok m) : m = n ∧ n ≤ 4294967295 := by
  simp only [getLine] at h
  split at h
  · rename_i hrange
    simp only [Bool.and_eq_true, decide_eq_true_eq] at hrange
    cases h
    constructor <;> omega
  · cases h

theorem getTime_eq_ok {i : Nat} {t v : Instant} (h : getTime i (storedText t) = .ok v) :
    Storable t ∧ v = truncateMicros t := by
  simp only [getTime] at h
  split at h
  · cases h
    exact parse_storedText_eq_ok ‹_›
  · cases h

/-- The row of any note with an identity in canonical form reads back only where its line
and its times are in range, and then as the note truncated to the microsecond. -/
theorem decodeRow_rowOf_eq_ok {n v : Note} (hid : readId n.id = .ok n.id)
    (h : decodeRow (rowOf n) (.text n.text) = .ok v) :
    (n.line ≤ 4294967295 ∧ Storable n.createdAt ∧ Storable n.updatedAt) ∧ v = n.truncate := by
  unfold decodeRow at h
  simp only [id_rowOf, filepath_rowOf, line_rowOf, kind_rowOf, createdAt_rowOf, updatedAt_rowOf,
    getText_text, ok_bind, hid, pure_eq_ok, Kind.parse?_label, getOptText_username_rowOf,
    getOptText_email_rowOf, Cell.asText] at h
  -- what is left are the three reads that can fail: the line and the two times
  obtain ⟨line, hline, h⟩ := bind_eq_ok.1 h
  obtain ⟨created, hcreated, h⟩ := bind_eq_ok.1 h
  obtain ⟨updated, hupdated, h⟩ := bind_eq_ok.1 h
  obtain ⟨rfl, hl⟩ := getLine_eq_ok hline
  obtain ⟨hc, rfl⟩ := getTime_eq_ok hcreated
  obtain ⟨hu, rfl⟩ := getTime_eq_ok hupdated
  refine ⟨⟨hl, hc, hu⟩, ?_⟩
  cases h
  rfl

theorem decodeAll_eq_ok {ps : List (NoteRow × Cell)} {vs : List Note} (h : decodeAll ps = .ok vs)
    {v : Note} (hv : v ∈ vs) : ∃ p ∈ ps, decodeRow p.1 p.2 = .ok v := by
  induction ps generalizing vs with
  | nil =>
    cases h
    simp at hv
  | cons p ps ih =>
    simp only [decodeAll] at h
    split at h
    · rename_i n hn
      cases hrest : decodeAll ps with
      | error e => simp [hrest, Except.map] at h
      | ok ws =>
        simp only [hrest, map_ok, Except.ok.injEq] at h
        subst h
        rcases List.mem_cons.1 hv with rfl | hv
        · exact ⟨p, List.mem_cons_self, hn⟩
        · obtain ⟨q, hq, hd⟩ := ih hrest hv
          exact ⟨q, List.mem_cons_of_mem _ hq, hd⟩
    · cases h

theorem decodeAll_map {ns : List Note} (h : ∀ n ∈ ns, Fit n) :
    decodeAll (ns.map fun n => (rowOf n, .text n.text)) = .ok ns := by
  induction ns with
  | nil => rfl
  | cons n ns ih =>
    have hn := decodeRow_rowOf (h n List.mem_cons_self)
    have hs := ih fun x hx => h x (List.mem_cons_of_mem n hx)
    simp only [List.map_cons, decodeAll, hn, hs]
    rfl

theorem contentOf_tablesOf {ns : List Note} (hids : (ns.map (·.id)).Nodup) {n : Note}
    (hn : n ∈ ns) : contentOf (ns.map contentRowOf) (rowOf n) = .text n.text := by
  have hpred : (fun c : ContentRow => c.noteId.same (rowOf n).id) ∘ contentRowOf =
      fun x => x.id == n.id := by
    funext x
    simp [contentRowOf, rowOf]
  have hfind : (ns.map contentRowOf).find? (fun c => c.noteId.same (rowOf n).id) =
      some (contentRowOf n) := by
    rw [List.find?_map, hpred, find?_key_eq_some Note.id hids hn]
    rfl
  simp only [contentOf, hfind]
  rfl

/-- The order of the tables' listings, on notes. -/
def locationLe (a b : Note) : Bool := decide (a.location ≤ b.location)

theorem rowBefore_rowOf (a b : Note) (ca cb : Cell) :
    rowBefore (rowOf a, ca) (rowOf b, cb) = locationLe a b := by
  by_cases hfp : a.filepath = b.filepath
  · simp [rowBefore, rowOf, Cell.le, locationLe, Location.le_iff, Note.location, hfp]
  · have hne : (Cell.text a.filepath == Cell.text b.filepath) = false := by simp [hfp]
    simp only [rowBefore, rowOf, hne, Bool.false_eq_true, if_false, Cell.le, locationLe]
    refine decide_eq_decide.2 ?_
    rw [Location.le_iff, le_iff_lt_or_eq]
    simp [Note.location, hfp]

/-- A query of the tables of a list returns the notes it keeps, sorted by location. -/
theorem query_tablesOf {ns : List Note} (h : Rows ns) (keep : NoteRow → Cell → Bool) :
    (tablesOf ns).query keep =
      .ok ((ns.filter fun n => keep (rowOf n) (.text n.text)).mergeSort locationLe) := by
  have hjoin : (ns.map rowOf).map (fun r => (r, contentOf (ns.map contentRowOf) r)) =
      ns.map fun n => (rowOf n, .text n.text) := by
    rw [List.map_map]
    apply List.map_congr_left
    intro n hn
    simp [contentOf_tablesOf h.ids hn]
  have hsort := List.map_mergeSort (l := ns.filter fun n => keep (rowOf n) (.text n.text))
    (r := locationLe) (s := rowBefore) (f := fun n => (rowOf n, .text n.text))
    (fun a _ b _ => (rowBefore_rowOf a b _ _).symm)
  unfold query
  simp only [tablesOf, noteRows, contentRows, ok_bind]
  rw [hjoin, List.filter_map]
  simp only [Function.comp_def]
  rw [← hsort, decodeAll_map]
  intro n hn
  exact h.fit n (List.mem_filter.1 (List.mem_mergeSort.1 hn)).1

/-- A note a query of the tables of a list returns is read from the row of a note of the
list. -/
theorem query_tablesOf_eq_ok {ns : List Note} (hids : (ns.map (·.id)).Nodup)
    {keep : NoteRow → Cell → Bool} {vs : List Note} (h : (tablesOf ns).query keep = .ok vs)
    {v : Note} (hv : v ∈ vs) : ∃ x ∈ ns, decodeRow (rowOf x) (.text x.text) = .ok v := by
  unfold query at h
  simp only [tablesOf, noteRows, contentRows, ok_bind] at h
  obtain ⟨p, hp, hd⟩ := decodeAll_eq_ok h hv
  obtain ⟨r, hr, rfl⟩ := List.mem_map.1 (List.mem_filter.1 (List.mem_mergeSort.1 hp)).1
  obtain ⟨x, hx, rfl⟩ := List.mem_map.1 hr
  rw [contentOf_tablesOf hids hx] at hd
  exact ⟨x, hx, hd⟩

/-- A listing of notes that are a permutation of a map's notes is the map's own list. -/
theorem mergeSort_filter_eq {m : NoteMap} {ns : List Note} (hperm : ns.Perm m.notes)
    (p : Note → Bool) : (ns.filter p).mergeSort locationLe = m.notes.filter p := by
  have htrans : ∀ a b c : Note, locationLe a b = true → locationLe b c = true →
      locationLe a c = true := by
    simp only [locationLe, decide_eq_true_eq]
    exact fun _ _ _ => le_trans
  have htotal : ∀ a b : Note, (locationLe a b || locationLe b a) = true := by
    simp only [locationLe, Bool.or_eq_true, decide_eq_true_eq]
    exact fun a b => le_total a.location b.location
  have hsorted : ((ns.filter p).mergeSort locationLe).Pairwise
      (fun a b => a.location ≤ b.location) := by
    simpa [locationLe] using List.pairwise_mergeSort htrans htotal (ns.filter p)
  refine List.Perm.eq_of_pairwise ?_ hsorted ((m.sorted.filter p).imp le_of_lt)
    ((List.mergeSort_perm _ _).trans (hperm.filter p))
  intro a b ha hb hab hba
  have ha' : a ∈ m.notes := hperm.mem_iff.1 (List.mem_filter.1 (List.mem_mergeSort.1 ha)).1
  exact m.eq_of_location_eq ha' (List.mem_filter.1 hb).1 (le_antisymm hab hba)

/-! ## Operations on the tables of a list -/

theorem find?_rows (ns : List Note) (l : Location) :
    (ns.map rowOf).find? (atLocation l) = (ns.find? (·.location == l)).map rowOf := by
  have hpred : atLocation l ∘ rowOf = fun n : Note => n.location == l := by
    funext n
    simp [atLocation_rowOf]
  rw [List.find?_map, hpred]

/-- A lookup by location decodes the row of the first note of the list that stands
there, with the text its content row holds. -/
theorem find?_tablesOf_decode {ns : List Note} (hids : (ns.map (·.id)).Nodup) (l : Location) :
    (tablesOf ns).find? l = match ns.find? (·.location == l) with
      | some x => match decodeRow (rowOf x) (.text x.text) with
        | .ok n => .ok (some n)
        | .error e => .error (.backend e)
      | none => .ok none := by
  unfold Database.find?
  simp only [tablesOf, noteRows, contentRows, ok_bind, find?_rows]
  cases hf : ns.find? (·.location == l) with
  | none => rfl
  | some x =>
    simp only [Option.map_some, contentOf_tablesOf hids (List.mem_of_find?_eq_some hf)]
    cases decodeRow (rowOf x) (.text x.text) <;> rfl

theorem find?_tablesOf {ns : List Note} (h : Rows ns) (l : Location) :
    (tablesOf ns).find? l = .ok (ns.find? (·.location == l)) := by
  rw [find?_tablesOf_decode h.ids]
  cases hf : ns.find? (·.location == l) with
  | none => rfl
  | some n => simp only [decodeRow_rowOf (h.fit n (List.mem_of_find?_eq_some hf))]

theorem get_tablesOf {ns : List Note} (h : Rows ns) (l : Location) :
    (tablesOf ns).get l = match ns.find? (·.location == l) with
      | some n => .ok n
      | none => .error (.notFound l) := by
  unfold Database.get
  rw [find?_tablesOf h, ok_bind]
  cases ns.find? (·.location == l) <;> rfl

/-- A note read at a location is read from the row of the first note of the list that
stands there. -/
theorem get_tablesOf_eq_ok {ns : List Note} (hids : (ns.map (·.id)).Nodup) {l : Location}
    {v : Note} (h : (tablesOf ns).get l = .ok v) :
    ∃ x, ns.find? (·.location == l) = some x ∧ decodeRow (rowOf x) (.text x.text) = .ok v := by
  unfold Database.get at h
  rw [find?_tablesOf_decode hids] at h
  cases hf : ns.find? (·.location == l) with
  | none =>
    rw [hf] at h
    cases h
  | some x =>
    cases hd : decodeRow (rowOf x) (.text x.text) with
    | error e =>
      simp only [hf, hd] at h
      cases h
    | ok n =>
      simp only [hf, hd] at h
      cases h
      exact ⟨x, rfl, hd⟩

/-- The first note of the list at a location, where its row reads back, is what a read
there gives. -/
theorem get_tablesOf_of_find? {ns : List Note} (hids : (ns.map (·.id)).Nodup) {l : Location}
    {x v : Note} (hf : ns.find? (·.location == l) = some x)
    (hd : decodeRow (rowOf x) (.text x.text) = .ok v) : (tablesOf ns).get l = .ok v := by
  unfold Database.get
  simp only [find?_tablesOf_decode hids, hf, hd]
  rfl

/-- Creating a note with a fresh identity appends it, unless its location is taken. -/
theorem create_tablesOf {ns : List Note} {n : Note}
    (hfresh : ∀ x ∈ ns, x.id ≠ n.id) :
    (tablesOf ns).create n =
      if ns.any (·.location == n.location) then .error (.alreadyExists n.location)
      else .ok (tablesOf (ns ++ [n.truncate])) := by
  have hloc : (ns.map rowOf).any (atLocation n.location) = ns.any (·.location == n.location) := by
    simp [List.any_map, Function.comp_def, atLocation_rowOf]
  have hid : (ns.map rowOf).any (fun r => r.id.same (.text n.id)) = false := by
    simpa [List.any_map, rowOf] using hfresh
  have hcid : (ns.map contentRowOf).any (fun c => c.noteId.same (.text n.id)) = false := by
    simpa [List.any_map, contentRowOf] using hfresh
  have htables : tablesOf (ns ++ [n.truncate]) =
      ⟨some (ns.map rowOf ++ [rowOf n]), some (ns.map contentRowOf ++ [⟨.text n.id, .text n.text⟩])⟩ := by
    simp only [tablesOf, List.map_append, List.map_cons, List.map_nil, rowOf_truncate]
    rfl
  rw [htables]
  unfold Database.create
  simp only [tablesOf, noteRows, contentRows, ok_bind, hloc, hid, hcid, Bool.false_eq_true,
    if_false, throw_eq_error, pure_eq_ok]
  split <;> rfl

/-- A create that succeeds brings an identity no note of the list has, and appends the
note as the tables keep it. -/
theorem create_tablesOf_eq_ok {ns : List Note} {n : Note} {db : Database}
    (h : (tablesOf ns).create n = .ok db) :
    (∀ x ∈ ns, x.id ≠ n.id) ∧ db = tablesOf (ns ++ [n.truncate]) := by
  have hfresh : ∀ x ∈ ns, x.id ≠ n.id := by
    intro x hx hid
    have htaken : (ns.map rowOf).any (fun r => r.id.same (.text n.id)) = true :=
      List.any_eq_true.2 ⟨rowOf x, List.mem_map_of_mem hx, by simp [hid]⟩
    unfold Database.create at h
    simp only [tablesOf, noteRows, contentRows, ok_bind, htaken, if_true, throw_eq_error] at h
    split at h <;> cases h
  rw [create_tablesOf hfresh] at h
  split at h
  · cases h
  · cases h
    exact ⟨hfresh, rfl⟩

/-- The notes after an update of `old`: the revised note takes `old`'s place. -/
def reviseAt (ns : List Note) (old : Note) (d : Draft) (now : Instant) : List Note :=
  ns.map fun x => if x.id = old.id then old.revise d now else x

theorem mem_reviseAt {ns : List Note} {old : Note} {d : Draft} {now : Instant} {x : Note}
    (hx : x ∈ reviseAt ns old d now) : x = old.revise d now ∨ x ∈ ns ∧ x.id ≠ old.id := by
  obtain ⟨y, hy, rfl⟩ := List.mem_map.1 hx
  by_cases hid : y.id = old.id
  · exact .inl (by simp [hid])
  · exact .inr ⟨by simpa [hid] using hy, by simp [hid]⟩

/-- What holds of `old` revised and of every note with another identity holds of every
note after the update. -/
theorem forall_mem_reviseAt {ns : List Note} {old : Note} {d : Draft} {now : Instant}
    {P : Note → Prop} (hrest : ∀ x ∈ ns, x.id ≠ old.id → P x) (hnew : P (old.revise d now)) :
    ∀ x ∈ reviseAt ns old d now, P x := by
  intro x hx
  rcases mem_reviseAt hx with rfl | ⟨hx, hid⟩
  · exact hnew
  · exact hrest x hx hid

theorem get_of_update_eq_ok {db db' : Database} {l : Location} {d : Draft} {now : Instant}
    (h : db.update l d now = .ok db') : ∃ old, db.get l = .ok old := by
  unfold Database.update at h
  cases hg : db.get l with
  | error e =>
    rw [hg] at h
    cases h
  | ok old => exact ⟨old, rfl⟩

/-- An update of the note `old` read at `l` rewrites its row in place, unless another note
stands at the draft's location. -/
theorem update_tablesOf_of_get {ns : List Note} (hids : (ns.map (·.id)).Nodup) {l : Location}
    {old : Note} (hget : (tablesOf ns).get l = .ok old) (hold : old ∈ ns) (d : Draft)
    (now : Instant) :
    (tablesOf ns).update l d now =
      if ns.any (fun x => x.id != old.id && x.location == d.location) then
        .error (.alreadyExists d.location)
      else .ok (tablesOf (reviseAt ns old d now)) := by
  unfold Database.update
  rw [hget, ok_bind]
  -- the one row with `old`'s identity is `old`'s own
  have hsame : ∀ x ∈ ns, x.id = old.id → x = old := fun x hx hid =>
    List.inj_on_of_nodup_map hids hx hold hid
  have hany : (ns.map rowOf).any (fun r => !r.id.same (.text old.id) && atLocation d.location r) =
      ns.any (fun x => x.id != old.id && x.location == d.location) := by
    simp only [List.any_map, Function.comp_def, atLocation_rowOf, id_rowOf, same_text]
    rfl
  have hcontent : (ns.map contentRowOf).any (fun c => c.noteId.same (.text old.id)) = true := by
    simpa [List.any_map, contentRowOf] using ⟨old, hold, rfl⟩
  simp only [tablesOf, noteRows, contentRows, ok_bind, hany, hcontent, if_true,
    throw_eq_error, pure_eq_ok]
  split
  · rfl
  · congr 3
    · -- the rows: the one with `old`'s identity is rewritten in place
      rw [List.map_map, reviseAt, List.map_map]
      apply List.map_congr_left
      intro x hx
      by_cases hid : x.id = old.id
      · rw [hsame x hx hid]
        simp only [Function.comp_apply, same_text, beq_self_eq_true, if_true, rowOf,
          Note.revise, storedText_truncateMicros]
      · simp [rowOf, hid]
    · rw [List.map_map, reviseAt, List.map_map]
      apply List.map_congr_left
      intro x hx
      by_cases hid : x.id = old.id
      · rw [hsame x hx hid]
        simp [contentRowOf, Note.revise]
      · simp [contentRowOf, hid]

/-- An update rewrites the row of the note at `l` in place, unless another note stands
at the draft's location. -/
theorem update_tablesOf {ns : List Note} (h : Rows ns) (l : Location) (d : Draft) (now : Instant) :
    (tablesOf ns).update l d now =
      match ns.find? (·.location == l) with
      | none => .error (.notFound l)
      | some old =>
        if ns.any (fun x => x.id != old.id && x.location == d.location) then
          .error (.alreadyExists d.location)
        else .ok (tablesOf (reviseAt ns old d now)) := by
  cases hf : ns.find? (·.location == l) with
  | none =>
    unfold Database.update
    rw [get_tablesOf h, hf]
    rfl
  | some old =>
    have hget : (tablesOf ns).get l = .ok old := by
      rw [get_tablesOf h, hf]
    exact update_tablesOf_of_get h.ids hget (List.mem_of_find?_eq_some hf) d now

/-- Deleting drops the rows of the note at `l`, if there is one. -/
theorem delete_tablesOf {ns : List Note} (l : Location) :
    (tablesOf ns).delete l =
      match ns.find? (·.location == l) with
      | none => .ok (tablesOf ns)
      | some x => .ok (tablesOf (ns.filter (·.id != x.id))) := by
  unfold Database.delete
  simp only [noteRows, contentRows]
  rw [show (tablesOf ns).notes = some (ns.map rowOf) from rfl,
    show (tablesOf ns).contents = some (ns.map contentRowOf) from rfl]
  simp only [ok_bind, find?_rows]
  cases ns.find? (·.location == l) with
  | none => rfl
  | some x =>
    simp only [Option.map_some, id_rowOf, getText_text, ok_bind, pure_eq_ok, tablesOf,
      List.filter_map, Function.comp_def, same_text, contentRowOf]
    rfl

/-- Deleting a file drops the rows of its notes and only those. -/
theorem deleteFile_tablesOf {ns : List Note} (hids : (ns.map (·.id)).Nodup) (f : String) :
    (tablesOf ns).deleteFile f = .ok (tablesOf (ns.filter (·.filepath != f))) := by
  unfold Database.deleteFile
  simp only [tablesOf, noteRows, contentRows, ok_bind, pure_eq_ok, List.filter_map]
  congr 4
  · apply List.filter_congr
    intro y _
    simp [rowOf, bne]
  · apply List.filter_congr
    intro y hy
    -- a content row goes with the rows of `f` exactly when its own note is in `f`
    have hiff : (∃ x ∈ ns, x.filepath = f ∧ y.id = x.id) ↔ y.filepath = f := by
      constructor
      · rintro ⟨x, hx, hxf, hid⟩
        rw [List.inj_on_of_nodup_map hids hy hx hid]
        exact hxf
      · intro hf
        exact ⟨y, hy, hf, rfl⟩
    simp only [rowOf, contentRowOf, List.any_map, List.any_filter, Function.comp_def, same_text,
      bne]
    rw [Bool.eq_iff_iff]
    simpa using not_congr hiff

end CodeNotes.Store
