set_option autoImplicit false

/-!
# File system errors

Normative source: SPEC_FULL.md §7 (UnreadableFile) and §10.2 (load errors).

The ways an operation on the file tree fails, each with the operating system's
wording and error number, plus the one failure of reading a file as text.
-/

namespace CodeNotes.Fs

/-- Why a file system operation failed. -/
inductive IoError where
  | notFound
  | alreadyExists
  | notADirectory
  | isADirectory
  | tooManyLinks
  | directoryNotEmpty
  | invalidText
  deriving DecidableEq, Repr, Inhabited

/-- The wording of a failure, with its error number. -/
def IoError.message : IoError → String
  | .notFound => "No such file or directory (os error 2)"
  | .alreadyExists => "File exists (os error 17)"
  | .notADirectory => "Not a directory (os error 20)"
  | .isADirectory => "Is a directory (os error 21)"
  | .tooManyLinks => "Too many levels of symbolic links (os error 40)"
  | .directoryNotEmpty => "Directory not empty (os error 39)"
  | .invalidText => "stream did not contain valid UTF-8"

end CodeNotes.Fs
