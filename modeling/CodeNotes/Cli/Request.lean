import CodeNotes.Cli.Parse
import CodeNotes.Comment.Basic
set_option autoImplicit false

/-!
# Requests

Normative source: SPEC_FULL.md §11.4 (Command line front end).

What a read command line asks the program to do, with its arguments typed: paths as
given, line numbers as numbers, kinds and formats as their choices.
-/

namespace CodeNotes.Cli

/-- How listings are printed. -/
inductive Format where
  | text
  | json
  deriving DecidableEq, Repr

/-- What the settings command does. -/
inductive ConfigAction where
  | show
  | get (key : String)
  | set (key value : String)
  deriving DecidableEq, Repr

/-- The shells completion scripts are written for. -/
inductive Shell where
  | bash
  | elvish
  | fish
  | powershell
  | zsh
  deriving DecidableEq, Repr

/-- The shell of a name, as the command line accepts it. -/
def Shell.ofName? : String → Option Shell
  | "bash" => some .bash
  | "elvish" => some .elvish
  | "fish" => some .fish
  | "powershell" => some .powershell
  | "zsh" => some .zsh
  | _ => none

/-- One run of the program. -/
inductive Request where
  | init (src : String)
  | scan (tags : List String) (file : Option String)
  | list (kind : Option Kind) (file : Option String) (format : Format)
  | show (file : String) (line : Nat) (format : Format)
  | search (query : String) (format : Format)
  | add (file : String) (line : Nat) (text : String) (todo : Bool)
  | edit (file : String) (line : Nat) (text : String)
  | delete (file : String) (line : Nat)
  | export (output : Option String)
  | config (action : ConfigAction)
  | destroy (force : Bool)
  | completions (shell : Shell)
  deriving DecidableEq, Repr

namespace Invocation

/-- The output format chosen. -/
def format (i : Invocation) : Format := if i.get? "format" == some "json" then .json else .text

/-- A text value, empty when absent. -/
def text (i : Invocation) (id : String) : String := (i.get? id).getD ""

/-- A line number value. -/
def lineNumber (i : Invocation) : Nat := ((i.get? "line").bind String.toNat?).getD 0

/-- The kind chosen. -/
def kind? (i : Invocation) : Option Kind :=
  match i.get? "kind" with
  | some "note" => some .note
  | some "todo" => some .todo
  | _ => none

/-- The request a read command line makes. -/
def request? (i : Invocation) : Option Request :=
  match i.path with
  | ["init"] => some (.init (i.text "src"))
  | ["scan"] => some (.scan (i.get "tags") (i.get? "file"))
  | ["list"] => some (.list i.kind? (i.get? "file") i.format)
  | ["show"] => some (.show (i.text "file") i.lineNumber i.format)
  | ["search"] => some (.search (i.text "query") i.format)
  | ["add"] => some (.add (i.text "file") i.lineNumber (i.text "text") (i.flag "todo"))
  | ["edit"] => some (.edit (i.text "file") i.lineNumber (i.text "text"))
  | ["delete"] => some (.delete (i.text "file") i.lineNumber)
  | ["export"] => some (.export (i.get? "output"))
  | ["config"] | ["config", "show"] => some (.config .show)
  | ["config", "get"] => some (.config (.get (i.text "key")))
  | ["config", "set"] => some (.config (.set (i.text "key") (i.text "value")))
  | ["destroy"] => some (.destroy (i.flag "force"))
  | ["completions"] => (Shell.ofName? (i.text "shell")).map .completions
  | _ => none

/-- Whether debug lines were asked for. -/
def verbose (i : Invocation) : Bool := i.flag "verbose"

end Invocation

end CodeNotes.Cli
