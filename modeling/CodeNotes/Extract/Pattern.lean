set_option autoImplicit false

/-!
# Comment patterns

Normative source: SPEC_FULL.md §4.2 (pattern-based extraction) and §11.1 (the patterns
of each language).

A comment pattern says where a comment starts and where it ends.  Three shapes cover
every language this library reads:

* `toLineEnd o`: the opener `o`, then everything up to the end of the line, such as
  `// …` or `# …`;
* `delimited o c`: the opener `o`, then the shortest run up to the first closer `c`
  after it, such as `/* … */` or `<!-- … -->`;
* `lineDelimited o c`: the same, but opener and closer must each begin a line, such as
  a block between `=begin` and `=end`.

A pattern is read in one of two modes.  In *line mode* a match never crosses a line
break; in *block mode* it may.  A pattern whose closer never comes does not match.

`Pattern.matchLen` gives the length of the match at the head of a text; `Pattern.findAll`
gives the spans of all matches, scanning from the left and resuming after each match,
so the spans of one pattern never overlap.
-/

namespace CodeNotes.Extract

/-- Where a comment starts and where it ends. -/
inductive Pattern where
  | toLineEnd (opener : String)
  | delimited (opener closer : String)
  | lineDelimited (opener closer : String)
  deriving DecidableEq, Repr

/-- A half-open span `[start, stop)` of character positions. -/
structure Span where
  start : Nat
  stop : Nat
  deriving DecidableEq, Repr

namespace Pattern

/-- Characters that have to be escaped in the textual form of a pattern. -/
def isMeta (c : Char) : Bool :=
  c == '\\' || c == '.' || c == '+' || c == '*' || c == '?' || c == '(' || c == ')' ||
  c == '|' || c == '[' || c == ']' || c.toNat == 0x7B || c.toNat == 0x7D ||
  c == '^' || c == '$'

/-- The textual form of a literal: meta characters get a backslash. -/
def quote (s : String) : String :=
  String.ofList (s.toList.flatMap fun c => if isMeta c then ['\\', c] else [c])

/-- The textual form of a pattern in the usual regular-expression notation. -/
def source : Pattern → String
  | .toLineEnd o => quote o ++ ".*"
  | .delimited o c => quote o ++ ".*?" ++ quote c
  | .lineDelimited o c => "(?m)^" ++ quote o ++ ".*?^" ++ quote c

/-- The index of the first place in `cs` where `closer` begins, such that no line
break comes before it unless `crossLines`, and, when `atLineStart` is asked, the
character before it is a line break.  `prev` is the character before `cs`. -/
def closerAt (closer : List Char) (crossLines atLineStart : Bool) :
    Char → List Char → Option Nat
  | _, [] => none
  | prev, cs@(c :: rest) =>
    if closer <+: cs && (!atLineStart || prev == '\n') then some 0
    else if c == '\n' && !crossLines then none
    else (closerAt closer crossLines atLineStart c rest).map (· + 1)

/-- The length of the match of a pattern at the head of `cs`, if it matches there.
`lineStart` tells whether `cs` begins a line. -/
def matchLen (p : Pattern) (crossLines lineStart : Bool) (cs : List Char) : Option Nat :=
  match p with
  | .toLineEnd o =>
    if o.toList <+: cs then
      let rest := cs.drop o.length
      some (o.length + if crossLines then rest.length else (rest.takeWhile (· ≠ '\n')).length)
    else none
  | .delimited o c =>
    if o.toList <+: cs then
      (closerAt c.toList crossLines false (o.toList.getLastD ' ') (cs.drop o.length)).map
        fun k => o.length + k + c.length
    else none
  | .lineDelimited o c =>
    if lineStart && o.toList <+: cs then
      (closerAt c.toList crossLines true (o.toList.getLastD ' ') (cs.drop o.length)).map
        fun k => o.length + k + c.length
    else none

/-- The spans of all matches in `cs`, which starts at position `pos` after the
character `prev` (a line break at the start of the text). -/
def findFrom (p : Pattern) (crossLines : Bool) (pos : Nat) (prev : Char) (cs : List Char) :
    List Span :=
  match cs with
  | [] => []
  | c :: rest =>
    match p.matchLen crossLines (prev == '\n') (c :: rest) with
    | some n =>
      if h : 0 < n then
        ⟨pos, pos + n⟩ ::
          findFrom p crossLines (pos + n) (((c :: rest).take n).getLastD c) ((c :: rest).drop n)
      else findFrom p crossLines (pos + 1) c rest
    | none => findFrom p crossLines (pos + 1) c rest
  termination_by cs.length
  decreasing_by
    all_goals simp only [List.length_drop, List.length_cons]
    all_goals omega

/-- The spans of all matches of a pattern in a text, left to right, never overlapping. -/
def findAll (p : Pattern) (crossLines : Bool) (cs : List Char) : List Span :=
  findFrom p crossLines 0 '\n' cs

end Pattern

end CodeNotes.Extract
