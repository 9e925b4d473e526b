set_option autoImplicit false

/-!
# Log lines

Normative source: SPEC_FULL.md §10.1 (Logging: levels, targets, a format without
timestamps).

Operations that skip a file, find a project or finish a pass say so in a log line:
a level, the part of the program that speaks, and a message.  A line is written with
the level right-aligned in five columns, the speaker, a colon and the message.  The
command line shows lines from `info` up, or from `debug` up when asked to be verbose.
-/

namespace CodeNotes

/-- How important a log line is. -/
inductive Level where
  | debug
  | info
  | warn
  deriving DecidableEq, Repr

/-- The name of a level. -/
def Level.name : Level → String
  | .debug => "DEBUG"
  | .info => "INFO"
  | .warn => "WARN"

/-- Whether a line of level `l` is shown when lines from `least` up are shown. -/
def Level.atLeast (l least : Level) : Bool :=
  match least, l with
  | .debug, _ => true
  | .info, .debug => false
  | .info, _ => true
  | .warn, .warn => true
  | .warn, _ => false

/-- One log line. -/
structure LogLine where
  level : Level
  source : String
  message : String
  deriving DecidableEq, Repr

/-- Configuration messages. -/
def configSource : String := "notter::config"

/-- Discovery messages. -/
def discoverySource : String := "notter::discovery"

/-- Messages of the walk over the source tree. -/
def collectorSource : String := "notter::discovery::collector"

/-- Messages of file loading. -/
def loaderSource : String := "notter::discovery::loader"

/-- Messages of the extraction workers. -/
def poolSource : String := "notter::discovery::pool"

/-- Reconciliation messages. -/
def reconcileSource : String := "notter::reconcile"

/-- The written form of a line. -/
def LogLine.render (l : LogLine) : String :=
  let name := l.level.name
  String.ofList (List.replicate (5 - name.length) ' ') ++ name ++ " " ++ l.source ++ ": " ++ l.message

end CodeNotes
