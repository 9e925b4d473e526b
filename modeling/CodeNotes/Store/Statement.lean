import CodeNotes.Store.Database
set_option autoImplicit false

/-!
# Raw statements on the note tables

Normative source: SPEC_FULL.md §11.2 (Storage backend).

Besides the note operations, the tables take a few raw statements, separated by
semicolons: switching foreign-key checks, `UPDATE … SET … [WHERE … = …]`,
`DELETE FROM … [WHERE … = …]`, `DROP TABLE [IF EXISTS] …` and
`INSERT INTO … (…) VALUES (…)`.  Values are quoted texts (a doubled quote stands for
one), integers and `NULL`.  Keywords ignore case.

A written value takes the affinity of its column.  A statement that leaves an empty
required cell, two notes at one location or with one identity, or (while checks are
on) a content row whose note is gone, fails and changes nothing.
-/

namespace CodeNotes.Store

/-- A token of a statement. -/
inductive SqlToken where
  | word (s : String)
  | text (s : String)
  | int (i : Int)
  | punct (c : Char)
  deriving DecidableEq, Repr

/-- Whether a character continues a word. -/
def isWordChar (c : Char) : Bool := c.isAlphanum || c == '_'

/-- Reads the rest of a quoted text after its opening quote; `acc` holds the
characters read, last first. -/
def quotedRest (acc : List Char) : List Char → Option (String × List Char)
  | [] => none
  | '\'' :: '\'' :: rest => quotedRest ('\'' :: acc) rest
  | '\'' :: rest => some (String.ofList acc.reverse, rest)
  | c :: rest => quotedRest (c :: acc) rest

/-- Splits a statement text into tokens; `none` for a character no token starts with. -/
def sqlTokens (cs : List Char) : Option (List SqlToken) :=
  go cs.length cs
where
  /-- Reads tokens with `fuel` rounds left; each round reads at least one character. -/
  go : Nat → List Char → Option (List SqlToken)
    | 0, _ => some []
    | _, [] => some []
    | fuel + 1, c :: rest =>
      if c.isWhitespace then go fuel rest
      else if c == '\'' then do
        let (s, after) ← quotedRest [] rest
        return SqlToken.text s :: (← go fuel after)
      else if c.isDigit || (c == '-' && (rest.head?.map Char.isDigit).getD false) then
        let digits := (if c == '-' then rest else c :: rest).takeWhile Char.isDigit
        let after := (if c == '-' then rest else c :: rest).dropWhile Char.isDigit
        let n : Int := Cell.digitsValue digits
        (SqlToken.int (if c == '-' then -n else n) :: ·) <$> go fuel after
      else if isWordChar c then
        let w := (c :: rest).takeWhile isWordChar
        (SqlToken.word (String.ofList w).toUpper :: ·) <$> go fuel ((c :: rest).dropWhile isWordChar)
      else if "=,();*".toList.contains c then (SqlToken.punct c :: ·) <$> go fuel rest
      else none

/-- A raw statement. -/
inductive Statement where
  | foreignKeys (on : Bool)
  | update (table : String) (sets : List (String × Cell)) (filter : Option (String × Cell))
  | deleteFrom (table : String) (filter : Option (String × Cell))
  | dropTable (table : String) (ifExists : Bool)
  | insert (table : String) (columns : List String) (values : List Cell)
  deriving DecidableEq, Repr

/-- The value of a literal token. -/
def SqlToken.value? : SqlToken → Option Cell
  | .text s => some (.text s)
  | .int i => some (.int i)
  | .word "NULL" => some .null
  | _ => none

/-- Reads `col = value` pairs separated by commas. -/
def assignments : List SqlToken → Option (List (String × Cell) × List SqlToken)
  | .word col :: .punct '=' :: v :: rest => do
    let cell ← v.value?
    match rest with
    | .punct ',' :: more =>
      let (sets, after) ← assignments more
      pure ((col.toLower, cell) :: sets, after)
    | _ => pure ([(col.toLower, cell)], rest)
  | _ => none

/-- Reads an optional `WHERE col = value` that ends the statement. -/
def whereClause : List SqlToken → Option (Option (String × Cell))
  | [] => some none
  | [.word "WHERE", .word col, .punct '=', v] => do pure (some (col.toLower, ← v.value?))
  | _ => none

/-- Reads names or values separated by commas up to a closing bracket. -/
def listed {α : Type} (item : SqlToken → Option α) : List SqlToken → Option (List α × List SqlToken)
  | t :: .punct ',' :: rest => do
    let x ← item t
    let (xs, after) ← listed item rest
    pure (x :: xs, after)
  | t :: .punct ')' :: rest => do pure ([← item t], rest)
  | _ => none

/-- The name of a word token. -/
def SqlToken.name? : SqlToken → Option String
  | .word w => some w.toLower
  | _ => none

/-- Reads one statement. -/
def Statement.parse : List SqlToken → Option Statement
  | [.word "PRAGMA", .word "FOREIGN_KEYS", .punct '=', v] =>
    match v with
    | .word "OFF" | .word "FALSE" | .word "NO" | .int 0 => some (.foreignKeys false)
    | .word "ON" | .word "TRUE" | .word "YES" | .int 1 => some (.foreignKeys true)
    | _ => none
  | .word "UPDATE" :: .word table :: .word "SET" :: rest => do
    let (sets, after) ← assignments rest
    pure (.update table.toLower sets (← whereClause after))
  | .word "DELETE" :: .word "FROM" :: .word table :: rest => do
    pure (.deleteFrom table.toLower (← whereClause rest))
  | [.word "DROP", .word "TABLE", .word "IF", .word "EXISTS", .word table] =>
    some (.dropTable table.toLower true)
  | [.word "DROP", .word "TABLE", .word table] => some (.dropTable table.toLower false)
  | .word "INSERT" :: .word "INTO" :: .word table :: .punct '(' :: rest => do
    let (cols, after) ← listed SqlToken.name? rest
    match after with
    | .word "VALUES" :: .punct '(' :: more =>
      let (vals, tail) ← listed SqlToken.value? more
      if tail.isEmpty && cols.length == vals.length then pure (.insert table.toLower cols vals)
      else none
    | _ => none
  | _ => none

/-- Splits tokens at semicolons. -/
def splitStatements : List SqlToken → List (List SqlToken)
  | [] => [[]]
  | .punct ';' :: rest => [] :: splitStatements rest
  | t :: rest =>
    match splitStatements rest with
    | [] => [[t]]
    | s :: ss => (t :: s) :: ss

/-- Reads a statement text; `none` when it is not one of the statements understood. -/
def parseStatements (text : String) : Option (List Statement) := do
  let tokens ← sqlTokens text.toList
  (splitStatements tokens).filter (!·.isEmpty) |>.mapM Statement.parse

/-- A failure of a raw statement: the engine's message. -/
def statementError (message : String) : BackendError := .engine message 1 "SQL logic error"

/-- The cell of a `notes` column, or `none` for an unknown column. -/
def NoteRow.get? (r : NoteRow) : String → Option Cell
  | "id" => some r.id
  | "filepath" => some r.filepath
  | "line" => some r.line
  | "kind" => some r.kind
  | "username" => some r.username
  | "email" => some r.email
  | "created_at" => some r.createdAt
  | "updated_at" => some r.updatedAt
  | _ => none

/-- A `notes` row with one column written, affinity applied. -/
def NoteRow.set? (r : NoteRow) (col : String) (v : Cell) : Option NoteRow :=
  match col with
  | "id" => some { r with id := v.asText }
  | "filepath" => some { r with filepath := v.asText }
  | "line" => some { r with line := v.asInteger }
  | "kind" => some { r with kind := v.asText }
  | "username" => some { r with username := v.asText }
  | "email" => some { r with email := v.asText }
  | "created_at" => some { r with createdAt := v.asText }
  | "updated_at" => some { r with updatedAt := v.asText }
  | _ => none

/-- The cell of a `note_contents` column. -/
def ContentRow.get? (r : ContentRow) : String → Option Cell
  | "note_id" => some r.noteId
  | "text" => some r.text
  | _ => none

/-- A `note_contents` row with one column written, affinity applied. -/
def ContentRow.set? (r : ContentRow) (col : String) (v : Cell) : Option ContentRow :=
  match col with
  | "note_id" => some { r with noteId := v.asText }
  | "text" => some { r with text := v.asText }
  | _ => none

/-- The blank `notes` row that an insert starts from. -/
def NoteRow.blank : NoteRow := ⟨.null, .null, .null, .null, .null, .null, .null, .null⟩

/-- Applies assignments to a row with a column writer. -/
def assignAll {ρ : Type} (set? : ρ → String → Cell → Option ρ) (r : ρ) :
    List (String × Cell) → Except BackendError ρ
  | [] => .ok r
  | (col, v) :: rest =>
    match set? r col v with
    | some r' => assignAll set? r' rest
    | none => .error (statementError ("no such column: " ++ col))

/-- Whether a row passes a filter. -/
def passes {ρ : Type} (get? : ρ → String → Option Cell) (filter : Option (String × Cell)) (r : ρ) :
    Except BackendError Bool :=
  match filter with
  | none => .ok true
  | some (col, v) =>
    match get? r col with
    | some c => .ok (c.same v || (c.same v.asText) || (c.same v.asInteger))
    | none => .error (statementError ("no such column: " ++ col))

/-- Checks the constraints of the tables after a statement. -/
def checkTables (checkKeys : Bool) (db : Database) : Except BackendError Unit := do
  let notes := db.notes.getD []
  let contents := db.contents.getD []
  let required := [("filepath", NoteRow.filepath), ("line", NoteRow.line), ("kind", NoteRow.kind),
    ("created_at", NoteRow.createdAt), ("updated_at", NoteRow.updatedAt)]
  for (name, field) in required do
    if notes.any (fun r => field r == .null) then
      throw (.engine ("NOT NULL constraint failed: notes." ++ name) 1299 "NOT NULL constraint failed")
  if contents.any (fun c => c.text == .null) then
    throw (.engine "NOT NULL constraint failed: note_contents.text" 1299 "NOT NULL constraint failed")
  let ids := notes.map (·.id) |>.filter (· != .null)
  if ids.length != ids.eraseDups.length then
    throw (.engine "UNIQUE constraint failed: notes.id" 1555 "A PRIMARY KEY constraint failed")
  let places := notes.map fun r => (r.filepath, r.line)
  if places.length != places.eraseDups.length then
    throw (.engine "UNIQUE constraint failed: notes.filepath, notes.line" 2067 "A UNIQUE constraint failed")
  let owners := contents.map (·.noteId) |>.filter (· != .null)
  if owners.length != owners.eraseDups.length then
    throw (.engine "UNIQUE constraint failed: note_contents.note_id" 1555 "A PRIMARY KEY constraint failed")
  if checkKeys && db.notes.isSome &&
      contents.any (fun c => c.noteId != .null && !ids.any (·.same c.noteId)) then
    throw (.engine "FOREIGN KEY constraint failed" 787 "A foreign key constraint failed")

/-- Runs one statement; `checkKeys` tells whether foreign keys are checked. -/
def Statement.run (checkKeys : Bool) (db : Database) : Statement → Except BackendError (Bool × Database)
  | .foreignKeys on => .ok (on, db)
  | .update "notes" sets filter => do
    let rows ← (db.noteRows.mapError fun _ => statementError "no such table: notes")
    let rows ← rows.mapM fun r => do
      if ← passes NoteRow.get? filter r then assignAll NoteRow.set? r sets else pure r
    let db' := { db with notes := some rows }
    checkTables checkKeys db'
    pure (checkKeys, db')
  | .update "note_contents" sets filter => do
    let rows ← (db.contentRows.mapError fun _ => statementError "no such table: note_contents")
    let rows ← rows.mapM fun r => do
      if ← passes ContentRow.get? filter r then assignAll ContentRow.set? r sets else pure r
    let db' := { db with contents := some rows }
    checkTables checkKeys db'
    pure (checkKeys, db')
  | .deleteFrom "notes" filter => do
    let rows ← (db.noteRows.mapError fun _ => statementError "no such table: notes")
    let kept ← rows.filterM fun r => do return !(← passes NoteRow.get? filter r)
    let db' := { db with notes := some kept }
    checkTables checkKeys db'
    pure (checkKeys, db')
  | .deleteFrom "note_contents" filter => do
    let rows ← (db.contentRows.mapError fun _ => statementError "no such table: note_contents")
    let kept ← rows.filterM fun r => do return !(← passes ContentRow.get? filter r)
    pure (checkKeys, { db with contents := some kept })
  | .dropTable "notes" ifExists =>
    if db.notes.isSome then .ok (checkKeys, { db with notes := none })
    else if ifExists then .ok (checkKeys, db)
    else .error (statementError "no such table: notes")
  | .dropTable "note_contents" ifExists =>
    if db.contents.isSome then .ok (checkKeys, { db with contents := none })
    else if ifExists then .ok (checkKeys, db)
    else .error (statementError "no such table: note_contents")
  | .insert "notes" cols vals => do
    let rows ← (db.noteRows.mapError fun _ => statementError "no such table: notes")
    let r ← assignAll NoteRow.set? NoteRow.blank (cols.zip vals)
    let db' := { db with notes := some (rows ++ [r]) }
    checkTables checkKeys db'
    pure (checkKeys, db')
  | .insert "note_contents" cols vals => do
    let rows ← (db.contentRows.mapError fun _ => statementError "no such table: note_contents")
    let r ← assignAll ContentRow.set? ⟨.null, .null⟩ (cols.zip vals)
    let db' := { db with contents := some (rows ++ [r]) }
    checkTables checkKeys db'
    pure (checkKeys, db')
  | .update t _ _ | .deleteFrom t _ | .dropTable t _ | .insert t _ _ =>
    .error (statementError ("no such table: " ++ t))

/-- Runs a statement text with foreign keys checked at first; each statement that
fails leaves the tables as the statements before it left them. -/
def Database.execute (db : Database) (text : String) : Except BackendError Database := do
  match parseStatements text with
  | none => throw (statementError "syntax error")
  | some statements =>
    let (_, db) ← statements.foldlM (fun (keys, db) s => s.run keys db) (true, db)
    pure db

end CodeNotes.Store
