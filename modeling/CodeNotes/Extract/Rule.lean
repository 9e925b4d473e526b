import CodeNotes.Extract.Pattern
import CodeNotes.Comment.TagSet
set_option autoImplicit false

/-!
# Language rules and the comment sweep

Normative source: SPEC_FULL.md §4.2 (pattern-based `extract(filepath, content, tags)`:
line numbers, `multiline`, classification) and §11.1 (overlap resolution, trailing
whitespace removed).

A language rule names a language, the file extensions it owns, the patterns read in
line mode and those read in block mode.  `LanguageRule.extract` runs the *sweep*:

1. collect the spans of every match of every pattern;
2. order them by start, and among equal starts the longer first;
3. walk them in that order, keeping a span when it starts at or after the end of the
   last kept one.

Each kept span becomes a comment whose line is one more than the number of line
breaks before it, whose text is the matched text without trailing blanks, and which is
multi-line when that text still holds a line break.

`sweep` and `commentAt` state this directly.  `extract` runs it as one loop over the
ordered spans (`collectComments`), which keeps the line in a 32-bit counter and
advances it by the line breaks between the previous kept start and the next one,
instead of counting from the start of the text each time.
-/

namespace CodeNotes.Extract

open CodeNotes

/-- How comments are found in the files of one language. -/
structure LanguageRule where
  name : String
  extensions : List String
  lineMode : List Pattern
  blockMode : List Pattern
  deriving DecidableEq, Repr

namespace LanguageRule

/-- All match spans of a rule's patterns, line-mode patterns first. -/
def spans (r : LanguageRule) (cs : List Char) : List Span :=
  (r.lineMode.flatMap fun p => p.findAll false cs) ++
    (r.blockMode.flatMap fun p => p.findAll true cs)

/-- The sweep order: by start, and among equal starts the longer span first. -/
def sweepBefore (a b : Span) : Bool :=
  a.start < b.start || (a.start == b.start && b.stop ≤ a.stop)

/-- Keeps each span that starts at or after the end of the last kept one. -/
def keepDisjoint : Nat → List Span → List Span
  | _, [] => []
  | coveredUntil, s :: rest =>
    if s.start < coveredUntil then keepDisjoint coveredUntil rest
    else s :: keepDisjoint s.stop rest

/-- The spans that become comments, in source order. -/
def sweep (r : LanguageRule) (cs : List Char) : List Span :=
  keepDisjoint 0 (((r.spans cs).filter fun s => s.start < s.stop).mergeSort sweepBefore)

/-- The comment made of the characters of a span. -/
def commentAt (tags : TagSet) (filepath : String) (cs : List Char) (s : Span) : Comment :=
  let text := Text.trimEndList ((cs.drop s.start).take (s.stop - s.start))
  let str := String.ofList text
  { filepath := filepath
    text := str
    line := 1 + ((cs.take s.start).filter (· == '\n')).length
    kind := tags.classify str
    multiline := text.contains '\n' }

/-- The non-empty match spans in sweep order. -/
def candidates (r : LanguageRule) (cs : List Char) : List Span :=
  ((r.spans cs).filter fun s => s.start < s.stop).mergeSort sweepBefore

/-- The characters from position `lo` up to position `hi`. -/
def slice (cs : List Char) (lo hi : Nat) : List Char := (cs.drop lo).take (hi - lo)

/-- The comment made of the characters of a span, on the given line. -/
def spanComment (tags : TagSet) (filepath : String) (cs : List Char) (s : Span) (line : Nat) :
    Comment :=
  let text := Text.trimEndList (slice cs s.start s.stop)
  let str := String.ofList text
  { filepath := filepath
    text := str
    line := line
    kind := tags.classify str
    multiline := text.contains '\n' }

/-- What the comment loop carries from one span to the next: the end of the last kept
span, the line it starts on, and the position up to which line breaks are counted. -/
structure Cursor where
  coveredUntil : Nat
  line : UInt32
  countedUntil : Nat
  deriving DecidableEq, Repr

/-- The loop before the first span: nothing covered, line 1, nothing counted. -/
def Cursor.start : Cursor := ⟨0, 1, 0⟩

/-- The comment loop over spans in sweep order: a span that starts inside the last kept
one is skipped; any other becomes a comment, its line advanced by the line breaks
between the last kept start and its own. -/
def collectComments (tags : TagSet) (filepath : String) (cs : List Char) :
    Cursor → List Span → List Comment
  | _, [] => []
  | cur, s :: rest =>
    if s.start < cur.coveredUntil then collectComments tags filepath cs cur rest
    else
      let line := cur.line + ((slice cs cur.countedUntil s.start).count '\n').toUInt32
      spanComment tags filepath cs s line.toNat ::
        collectComments tags filepath cs ⟨s.stop, line, s.start⟩ rest

/-- The comments of a file's content under this rule, in source order. -/
def extract (r : LanguageRule) (filepath content : String) (tags : TagSet) : List Comment :=
  let cs := content.toList
  collectComments tags filepath cs Cursor.start (r.candidates cs)

end LanguageRule

/-- Line comments that start with two slashes. -/
def slashLine : Pattern := .toLineEnd "//"
/-- Block comments between slash-star and star-slash. -/
def slashBlock : Pattern := .delimited "/*" "*/"
/-- Markup comments. -/
def markupBlock : Pattern := .delimited "<!--" "-->"
/-- Line comments that start with a hash. -/
def hashLine : Pattern := .toLineEnd "#"
/-- Line comments that start with two dashes. -/
def dashLine : Pattern := .toLineEnd "--"

/-- A rule for a language with slash-slash and slash-star comments. -/
def slashRule (name : String) (exts : List String) : LanguageRule :=
  ⟨name, exts, [slashLine], [slashBlock]⟩

/-- A rule for a language that mixes script and markup comments. -/
def markupRule (name : String) (exts : List String) : LanguageRule :=
  ⟨name, exts, [slashLine, markupBlock], [slashBlock, markupBlock]⟩

/-- The built-in rules, in the order in which they are listed and registered. -/
def builtinRules : List LanguageRule := [
  slashRule "c" ["c", "h"],
  slashRule "c++" ["cpp", "hpp"],
  slashRule "c#" ["cs"],
  slashRule "go" ["go"],
  slashRule "java" ["java"],
  slashRule "kotlin" ["kt"],
  slashRule "javascript" ["js"],
  slashRule "typescript" ["ts"],
  slashRule "rust" ["rs"],
  slashRule "scala" ["scala"],
  slashRule "swift" ["swift"],
  markupRule "react" ["jsx", "tsx"],
  markupRule "vue" ["vue"],
  ⟨"php", ["php"], [slashLine, hashLine], [slashBlock]⟩,
  ⟨"haskell", ["hs"], [dashLine], [.delimited "\x7b-" "-\x7d"]⟩,
  ⟨"lua", ["lua"], [dashLine], [.delimited "--[[" "]]"]⟩,
  ⟨"perl", ["pl"], [hashLine], []⟩,
  ⟨"r", ["r"], [hashLine], []⟩,
  ⟨"ruby", ["rb"], [hashLine], [.lineDelimited "=begin" "=end"]⟩
]

end CodeNotes.Extract
