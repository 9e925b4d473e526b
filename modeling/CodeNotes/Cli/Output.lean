import CodeNotes.Store.Note
import CodeNotes.Reconcile.Basic
import CodeNotes.Json.Value
import CodeNotes.Config.Basic
set_option autoImplicit false

/-!
# What the commands print

Normative source: SPEC_FULL.md §11.4 (`list`, `show`, `search`, `export`, `config show`)
and §11.3 (the report of a scan).

A note is listed on one line: its kind padded to four columns, its location key and the
first line of its text, with ` ...` when the text has more lines.  Shown on its own it
has its identity, its author when it has one, its two times to the second, and its text
indented by two.  As data a note is a flat record with its fields in name order, and a
list of notes is pretty JSON.

A reconciliation report says the notes are up to date when nothing changed, else it
counts each kind of change and lists the pruned keys.  The settings are shown one per
line with their names padded to sixteen columns, an empty one as `(unset)`.
-/

namespace CodeNotes.Cli

open CodeNotes.Store CodeNotes.Reconcile

/-- Pads text with spaces on the right to a width. -/
def padRight (width : Nat) (s : String) : String :=
  s ++ String.ofList (List.replicate (width - s.length) ' ')

/-- Drops one carriage return at the end of a line that a line break ended. -/
def dropReturn (l : String) : String := if l.endsWith "\r" then (l.dropEnd 1).toString else l

/-- The lines of a text: split at line breaks, a carriage return right before a break
dropped, and no empty line after a final break.  A carriage return at the very end of
a text without a final break is kept: only a break ends a line. -/
def textLines (s : String) : List String :=
  match (s.splitOn "\n").reverse with
  | [] => []
  | last :: ended =>
    let ended := (ended.map dropReturn).reverse
    if last.isEmpty then ended else ended ++ [last]

/-- The one-line listing of a note. -/
def noteLine (n : Note) : String :=
  let first := (textLines n.text).headD ""
  let more := if n.text.contains '\n' then " ..." else ""
  padRight 4 n.kind.label ++ " " ++ n.key ++ " " ++ first ++ more ++ "\n"

/-- A note as a flat record, fields in name order. -/
def noteRecord (n : Note) : Json.Value :=
  .obj [("content", .str n.text), ("created_at", .str (Time.exchangeText n.createdAt)),
    ("email", Json.optStr n.email), ("filepath", .str n.filepath), ("id", .str n.id),
    ("line", .int n.line), ("type", .str n.kind.label),
    ("updated_at", .str (Time.exchangeText n.updatedAt)), ("username", Json.optStr n.username)]

/-- Notes as a pretty JSON list. -/
def notesJson (ns : List Note) : String := (Json.Value.arr (ns.map noteRecord)).pretty

/-- The full display of one note. -/
def noteShown (n : Note) : String :=
  let author := match n.username with
    | some u => "  Author:   " ++ u ++ (match n.email with | some e => " <" ++ e ++ ">" | none => "") ++ "\n"
    | none => ""
  n.kind.label ++ " " ++ n.key ++ "\n" ++
    "  ID:       " ++ n.id ++ "\n" ++ author ++
    "  Created:  " ++ Time.secondsText n.createdAt ++ "\n" ++
    "  Updated:  " ++ Time.secondsText n.updatedAt ++ "\n\n" ++
    String.join ((textLines n.text).map fun l => "  " ++ l ++ "\n")

/-- The text of a reconciliation report. -/
def reportText (r : Report) : String :=
  if r.isNoop then "Notes are up to date\n  Unchanged:  " ++ toString r.unchanged ++ "\n"
  else
    "Notes updated\n" ++
      "  Created:    " ++ toString r.created ++ "\n" ++
      "  Updated:    " ++ toString r.updated ++ "\n" ++
      "  Unchanged:  " ++ toString r.unchanged ++ "\n" ++
      "  Pruned:     " ++ toString r.pruned.length ++ "\n" ++
      String.join (r.pruned.map fun k => "    - " ++ k ++ "\n")

/-- The settings as `config show` prints them. -/
def configShown (c : Config) : String :=
  let row (label value : String) := "  " ++ padRight 16 label ++ " " ++ value ++ "\n"
  "Notter Configuration\n\n" ++
    String.join (ConfigKey.all.map fun k =>
      let v := c.get k
      row (k.name ++ ":") (if v.isEmpty then "(unset)" else v)) ++
    "\n" ++ row "config file:" c.configPath ++ row "database:" c.dbPath

end CodeNotes.Cli
