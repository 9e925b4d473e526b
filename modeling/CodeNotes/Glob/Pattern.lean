set_option autoImplicit false

/-!
# Glob patterns

Normative source: SPEC_FULL.md §10.3 (`exclude`: glob patterns).

Exclusion rules are shell-style patterns matched against a whole root-relative path,
case-sensitively.  `?` matches one character and `*` any run of characters, slashes
included; `**` stands alone as a path piece (`**`, `**/x`, `x/**`, `x/**/y`) and
matches any run of whole pieces; `[abc]`, `[a-z]` and `[!…]` match one character in or
out of a set.  A pattern is refused when three stars stand together, when `**` is glued
to other characters, or when a `[` opens no well-formed set.

Matching backtracks over the runs a star can take.  It knows three outcomes: a match,
a failure of the part after the current star (try a longer run), and a failure that no
longer run can mend because the path ran out first.
-/

namespace CodeNotes.Glob

/-- One member of a bracket set. -/
inductive Member where
  | single (c : Char)
  | range (lo hi : Char)
  deriving DecidableEq, Repr

/-- One token of a pattern. -/
inductive Token where
  | char (c : Char)
  | anyChar
  | anyRun
  | anyPieces
  | within (set : List Member)
  | outside (set : List Member)
  deriving DecidableEq, Repr

/-- A parsed pattern. -/
structure Pattern where
  tokens : List Token
  text : String
  deriving Repr

/-- Why a pattern was refused, and the character index near which. -/
structure PatternError where
  pos : Nat
  reason : String
  deriving DecidableEq, Repr

/-- The message of a refused pattern. -/
def PatternError.message (e : PatternError) : String :=
  "Pattern syntax error near position " ++ toString e.pos ++ ": " ++ e.reason

/-- The members of a bracket set's inside: `a-b` is a range, anything else one character. -/
def members : List Char → List Member
  | a :: '-' :: b :: rest => .range a b :: members rest
  | c :: rest => .single c :: members rest
  | [] => []

/-- Whether a character is one of the members. -/
def inMembers (set : List Member) (c : Char) : Bool :=
  set.any fun
    | .single x => x == c
    | .range lo hi => lo ≤ c && c ≤ hi

/-- The reason for three stars together. -/
def wildcardsReason : String := "wildcards are either regular `*` or recursive `**`"

/-- The reason for a `**` glued to other characters. -/
def recursiveReason : String := "recursive wildcards must form a single path component"

/-- The reason for a bad bracket set. -/
def rangeReason : String := "invalid range pattern"

/-- The index of the first `]` of a list, if any. -/
def closeIndex (cs : List Char) : Option Nat := cs.findIdx? (· == ']')

/-- Parses the characters from index `i` on; `before` holds the characters already
passed, nearest first, and `acc` the tokens, last first.  Every round moves `i` on. -/
def parseFrom (all : List Char) (acc : List Token) (i : Nat) : Except PatternError (List Token) :=
  if h : i < all.length then
    let c := all[i]
    if c = '?' then parseFrom all (.anyChar :: acc) (i + 1)
    else if c = '*' then
      let run := ((all.drop i).takeWhile (· == '*')).length
      let j := i + run
      if run > 2 then .error ⟨i + 2, wildcardsReason⟩
      else if run = 2 then
        let startsPiece := i = 0 || all[i - 1]? == some '/'
        if !startsPiece then .error ⟨i - 1, recursiveReason⟩
        else
          let next := if all[j]? == some '/' then some (j + 1)
            else if j = all.length then some j else none
          match next with
          | none => .error ⟨j, recursiveReason⟩
          | some k =>
            let acc := match acc with
              | .anyPieces :: _ :: _ => acc
              | _ => .anyPieces :: acc
            parseFrom all acc (max k (i + 1))
      else parseFrom all (.anyRun :: acc) (max j (i + 1))
    else if c = '[' then
      if i + 4 ≤ all.length && all[i + 1]? == some '!' then
        match closeIndex (all.drop (i + 3)) with
        | some k =>
          let inner := (all.drop (i + 2)).take (k + 1)
          parseFrom all (.outside (members inner) :: acc) (i + k + 4)
        | none => .error ⟨i, rangeReason⟩
      else if i + 3 ≤ all.length && all[i + 1]? != some '!' then
        match closeIndex (all.drop (i + 2)) with
        | some k =>
          let inner := (all.drop (i + 1)).take (k + 1)
          parseFrom all (.within (members inner) :: acc) (i + k + 3)
        | none => .error ⟨i, rangeReason⟩
      else .error ⟨i, rangeReason⟩
    else parseFrom all (.char c :: acc) (i + 1)
  else .ok acc.reverse
termination_by all.length - i

/-- Parses a pattern. -/
def Pattern.parse (text : String) : Except PatternError Pattern := do
  let tokens ← parseFrom text.toList [] 0
  pure ⟨tokens, text⟩

/-- The outcome of matching the rest of a pattern. -/
inductive Outcome where
  | matched
  | restFails
  | pathRanOut
  deriving DecidableEq, Repr

/-- Whether a single-character token accepts `c`. -/
def Token.accepts : Token → Char → Bool
  | .char x, c => x == c
  | .anyChar, _ => true
  | .within set, c => inMembers set c
  | .outside set, c => !inMembers set c
  | _, _ => false

/-- Tries the rest of a pattern after a star at every later position of the path.
`attempt` matches the rest; a `**` only lets the rest start right after a slash.  When
the path runs out, the rest is tried against nothing. -/
def scanRuns (pieces : Bool) (attempt : Bool → List Char → Outcome) : Bool → List Char → Outcome
  | afterSlash, [] => attempt afterSlash []
  | _, c :: cs =>
    let afterSlash := c == '/'
    if pieces && !afterSlash then scanRuns pieces attempt afterSlash cs
    else
      match attempt afterSlash cs with
      | .restFails => scanRuns pieces attempt afterSlash cs
      | r => r

/-- Matches tokens against the characters of a path; `afterSlash` tells whether the
previous character was a slash (or there was none). -/
def matchFrom : List Token → Bool → List Char → Outcome
  | [], _, path => if path.isEmpty then .matched else .restFails
  | t :: rest, afterSlash, path =>
    match t with
    | .anyRun | .anyPieces =>
      match matchFrom rest afterSlash path with
      | .restFails => scanRuns (t == .anyPieces) (fun s cs => matchFrom rest s cs) afterSlash path
      | r => r
    | _ =>
      match path with
      | [] => .pathRanOut
      | c :: cs => if t.accepts c then matchFrom rest (c == '/') cs else .restFails

/-- Whether a path's text matches the pattern. -/
def Pattern.matches (p : Pattern) (path : String) : Bool :=
  matchFrom p.tokens true path.toList == .matched

end CodeNotes.Glob
