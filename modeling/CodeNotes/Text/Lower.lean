import CodeNotes.Text.CaseData
set_option autoImplicit false

/-!
# Unicode lowercase

Normative source: SPEC_FULL.md §4.2 (classification case-folds text and tags).

`Text.toLower` maps every character to its full lowercase form: one character for all
but U+0130 (capital I with dot), which becomes `i` followed by a combining dot.  A
capital sigma becomes the final form `ς` when it ends a word, that is when a cased
character stands before it and none after it, looking through case-ignorable
characters on both sides; otherwise it becomes `σ`.

Core's `Char.toLower` knows ASCII only, so the tables of `Text.CaseData` drive the
mapping.
-/

namespace CodeNotes.Text

/-- Whether `n` falls in one of the sorted, disjoint `ranges`, by binary search. -/
def inRanges (ranges : Array CharRange) (n : Nat) : Bool :=
  go 0 ranges.size
where
  /-- Searches the ranges with index in `[lo, hi)`. -/
  go (lo hi : Nat) : Bool :=
    if lo < hi then
      match ranges[(lo + hi) / 2]? with
      | none => false
      | some r =>
        if n < r.lo then go lo ((lo + hi) / 2)
        else if r.hi < n then go ((lo + hi) / 2 + 1) hi
        else true
    else false
  termination_by hi - lo

/-- The run of the sorted, disjoint `runs` that covers `n`, if any, by binary search. -/
def runAt (runs : Array CaseRun) (n : Nat) : Option CaseRun :=
  go 0 runs.size
where
  /-- Searches the runs with index in `[lo, hi)`. -/
  go (lo hi : Nat) : Option CaseRun :=
    if lo < hi then
      match runs[(lo + hi) / 2]? with
      | none => none
      | some r =>
        if n < r.lo then go lo ((lo + hi) / 2)
        else if r.hi < n then go ((lo + hi) / 2 + 1) hi
        else if (n - r.lo) % r.step == 0 then some r else none
    else none
  termination_by hi - lo

/-- The Unicode `Cased` property. -/
def isCased (c : Char) : Bool := inRanges casedRanges c.toNat

/-- The Unicode `Case_Ignorable` property. -/
def isCaseIgnorable (c : Char) : Bool := inRanges caseIgnorableRanges c.toNat

/-- The full lowercase form of one character, outside the context rule for sigma. -/
def lowerChar (c : Char) : List Char :=
  if c.toNat == 0x130 then ['i', Char.ofNat 0x307]
  else if c.toNat < 0x80 then [c.toLower]
  else
    match runAt lowerRuns c.toNat with
    | some r => [Char.ofNat (Int.toNat (c.toNat + r.delta))]
    | none => [c]

/-- Whether, after skipping case-ignorable characters, a cased character comes next. -/
def casedAhead (cs : List Char) : Bool :=
  match cs.dropWhile isCaseIgnorable with
  | c :: _ => isCased c
  | [] => false

/-- A capital sigma ends a word when a cased character stands before it and none after
it, looking through case-ignorable characters.  `before` is read backwards. -/
def endsWord (before after : List Char) : Bool :=
  casedAhead before && !casedAhead after

/-- Lowercases `cs`; `before` holds the characters already passed, nearest first. -/
def lowerFrom : List Char → List Char → List Char
  | _, [] => []
  | before, c :: after =>
    (if c.toNat == 0x3A3 then
        [if endsWord before after then Char.ofNat 0x3C2 else Char.ofNat 0x3C3]
      else lowerChar c) ++ lowerFrom (c :: before) after

/-- The full Unicode lowercase form of a character list. -/
def lowerList (cs : List Char) : List Char := lowerFrom [] cs

/-- The full Unicode lowercase form of a text. -/
def toLower (s : String) : String := String.ofList (lowerList s.toList)

end CodeNotes.Text
