import CodeNotes.Extract.Registry
import CodeNotes.Log
set_option autoImplicit false

/-!
# Extraction workers

Normative source: SPEC_FULL.md §4.5 step 3 (extraction across a bounded worker pool) and
§5 (default width 4).

Extraction runs on a fixed number of workers, at least one.  Each job is one file: its
root-relative path, its text and the extractor for its extension.  A finished job hands
back its comments as one batch; a job whose extractor breaks down hands back nothing,
and the others are not disturbed.  Batches arrive in no fixed order, so callers that
need an order sort by path.
-/

namespace CodeNotes.Discovery

open CodeNotes.Extract

/-- What a job runs: an extractor, or one that breaks down. -/
inductive Work where
  | extract (x : Extractor)
  | breakDown

/-- One file's extraction job. -/
structure Job where
  filepath : String
  content : String
  work : Work

/-- The number of workers a pool asked for `workers` runs. -/
def poolWidth (workers : Nat) : Nat := max workers 1

/-- The batch a job hands back, if it finishes. -/
def Job.run (j : Job) (tags : TagSet) : Option (List Comment) :=
  match j.work with
  | .extract x => some (x.extract j.filepath j.content tags)
  | .breakDown => none

/-- The line a worker logs once an extractor has gone through a file. -/
def doneLine (filepath : String) (x : Extractor) (found : List Comment) : LogLine :=
  ⟨.debug, poolSource, filepath ++ ": " ++ toString found.length ++ " comments via " ++ x.name⟩

/-- The batch of each job that finishes, with the line its worker logs. -/
def runLogged (jobs : List Job) (tags : TagSet) : List (List Comment × LogLine) :=
  jobs.filterMap fun j => match j.work with
    | .extract x =>
      let found := x.extract j.filepath j.content tags
      some (found, doneLine j.filepath x found)
    | .breakDown => none

/-- The batches of all jobs that finish. -/
def runJobs (jobs : List Job) (tags : TagSet) : List (List Comment) :=
  jobs.filterMap (·.run tags)

/-- Inserts a comment after those whose path is not greater. -/
def insertByFile (c : Comment) : List Comment → List Comment
  | [] => [c]
  | d :: ds => if d.filepath ≤ c.filepath then d :: insertByFile c ds else c :: d :: ds

/-- Comments sorted by path, stably: within a file, in the order given. -/
def sortByFile (cs : List Comment) : List Comment := cs.foldl (fun acc c => insertByFile c acc) []

end CodeNotes.Discovery
