import CodeNotes.Discovery.Pool
set_option autoImplicit false

/-!
# Schedulings of a pool at work

Normative source: SPEC_FULL.md §5 (Concurrency and resource model) and §9
(message-passing tasks over a fixed worker pool).

Discovery hands every job to the pool, then reads the channel the jobs send on until it
is empty and every sender is gone.  The workers run the jobs in any order and side by
side; a job runs whole and, if it finishes, sends its batch as one message, so what the
receiver gets depends only on the order of those messages.  A scheduling is a list of
moves: a worker runs the pending job at an index, or the receiver takes the oldest batch
off the channel (`Flight.move`).  The flight is over when no job is pending and the
channel is empty: every sender is gone, and the receiver stops.
-/

namespace CodeNotes.Discovery

open CodeNotes.Extract

/-- A pool at work: the jobs no worker has run, the batches sent and not yet received,
oldest first, and the comments received so far. -/
structure Flight where
  pending : List Job
  channel : List (List Comment)
  received : List Comment

/-- A move of a scheduling. -/
inductive Move where
  /-- A worker runs the pending job at an index. -/
  | run (index : Nat)
  /-- The receiver takes the oldest batch off the channel. -/
  | receive
  deriving DecidableEq, Repr

namespace Flight

/-- The pool just handed `jobs`, before any has run. -/
def start (jobs : List Job) : Flight := ⟨jobs, [], []⟩

/-- Whether the flight is over: no job pending and nothing left on the channel. -/
def done (s : Flight) : Bool := s.pending.isEmpty && s.channel.isEmpty

/-- One move, where it can be made. -/
def move (tags : TagSet) (s : Flight) : Move → Option Flight
  | .run i =>
    match s.pending[i]? with
    | some j => some ⟨s.pending.eraseIdx i, s.channel ++ (j.run tags).toList, s.received⟩
    | none => none
  | .receive =>
    match s.channel with
    | batch :: rest => some ⟨s.pending, rest, s.received ++ batch⟩
    | [] => none

/-- The flight after the moves of a scheduling, where each of them can be made. -/
def follow (tags : TagSet) : Flight → List Move → Option Flight
  | s, [] => some s
  | s, m :: ms => (move tags s m).bind fun s' => follow tags s' ms

end Flight

end CodeNotes.Discovery
