import CodeNotes.Comment.Basic
import CodeNotes.Text.Blank
import CodeNotes.Text.Lower
import CodeNotes.Text.Infix
set_option autoImplicit false

/-!
# Tag sets and classification

Normative source: SPEC_FULL.md §4.2 (classification: case-fold the text and the tags,
TODO when a tag is a substring), §6 (default tags `["TODO", "FIXME"]`) and §8 (the first
testable property).

A tag set is the normalised list of words that make a comment actionable.  Each given
tag is trimmed and lowercased, blank ones are dropped, and when none is left the
defaults `todo` and `fixme` stand in; the result is sorted and free of duplicates.

A text is classified `TODO` when its lowercase form contains one of the tags as a
substring, so the tag `todo` also matches `photodo`; every other text is a `NOTE`.
-/

namespace CodeNotes

/-- Inserts a text into a strictly increasing list, keeping it strictly increasing. -/
def insertSorted (x : String) : List String → List String
  | [] => [x]
  | y :: ys => if x < y then x :: y :: ys else if x = y then y :: ys else y :: insertSorted x ys

/-- Sorts texts by code point order and removes duplicates. -/
def sortDedup (xs : List String) : List String := xs.foldr insertSorted []

/-- A normalised, sorted, duplicate-free list of lowercase tags. -/
structure TagSet where
  tags : List String
  deriving DecidableEq, Repr

namespace TagSet

/-- The tags used when none is given. -/
def defaultTags : List String := ["TODO", "FIXME"]

/-- A given tag in normal form: trimmed, then lowercased. -/
def normalize (t : String) : String := Text.toLower (Text.trim t)

/-- Builds the tag set of a list of tags. -/
def ofList (ts : List String) : TagSet :=
  let folded := (ts.map normalize).filter (fun t => t ≠ "")
  let folded := if folded = [] then defaultTags.map Text.toLower else folded
  ⟨sortDedup folded⟩

/-- The tag set of the default tags. -/
def default : TagSet := ofList defaultTags

/-- `TODO` when the lowercase text contains one of the tags, `NOTE` otherwise. -/
def classify (ts : TagSet) (text : String) : Kind :=
  let lowered := Text.lowerList text.toList
  if ts.tags.any (fun t => Text.occursIn t.toList lowered) then .todo else .note

end TagSet

end CodeNotes
