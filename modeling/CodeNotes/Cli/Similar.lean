set_option autoImplicit false

/-!
# Similar words

Normative source: SPEC_FULL.md §11.4 (Command line front end).

A mistyped word is matched against the words that were possible by Jaro similarity:
characters of the two words match when they are equal and no further apart than half
the longer length less one, each character matching at most once, in order; with `m`
matches and `t` half-transpositions between the matched characters the similarity of
lengths `a` and `b` is `(m / a + m / b + (m - t) / m) / 3`.  Words more similar than
seven tenths are suggested, the most similar last.  Similarities are kept as exact
fractions.
-/

namespace CodeNotes.Cli

/-- A similarity as a fraction `num / den`. -/
structure Similarity where
  num : Nat
  den : Nat
  deriving DecidableEq, Repr

namespace Similarity

/-- Whether one similarity is at most another. -/
def le (x y : Similarity) : Bool := x.num * y.den ≤ y.num * x.den

/-- Whether a similarity is above seven tenths. -/
def suggests (x : Similarity) : Bool := x.num * 10 > x.den * 7

end Similarity

/-- Marks the first unmarked position of `b` within `lo ≤ j < hi` that holds `c`. -/
def claim (c : Char) (lo hi : Nat) (b : List (Char × Bool)) : Option (List (Char × Bool)) :=
  go 0 b
where
  /-- The search from position `j`. -/
  go (j : Nat) : List (Char × Bool) → Option (List (Char × Bool))
    | [] => none
    | (d, used) :: rest =>
      if j ≥ hi then none
      else if lo ≤ j && d == c && !used then some ((d, true) :: rest)
      else (go (j + 1) rest).map ((d, used) :: ·)

/-- The Jaro similarity of two words. -/
def jaro (a b : String) : Similarity :=
  let xs := a.toList
  let ys := b.toList
  if xs.isEmpty && ys.isEmpty then ⟨1, 1⟩
  else if xs.isEmpty || ys.isEmpty then ⟨0, 1⟩
  else
    let range := max xs.length ys.length / 2 - 1
    let (aMarks, bMarks, _) := xs.foldl (fun (marks, bs, i) c =>
      match claim c (i - range) (min ys.length (i + range + 1)) bs with
      | some bs' => (marks ++ [true], bs', i + 1)
      | none => (marks ++ [false], bs, i + 1)) ([], ys.map (·, false), 0)
    let matchedA := (xs.zip aMarks).filterMap fun (c, m) => if m then some c else none
    let matchedB := bMarks.filterMap fun (c, m) => if m then some c else none
    let m := matchedA.length
    if m = 0 then ⟨0, 1⟩
    else
      let t := ((matchedA.zip matchedB).filter fun (x, y) => x != y).length / 2
      let la := xs.length
      let lb := ys.length
      ⟨m * lb * m + m * la * m + (m - t) * la * lb, 3 * la * lb * m⟩

/-- The candidates more similar to `word` than seven tenths, the most similar last; of
equally similar ones the later stays later. -/
def similarWords (word : String) (candidates : List String) : List String :=
  let scored := (candidates.map fun c => (jaro word c, c)).filter (·.1.suggests)
  (scored.mergeSort fun x y => x.1.le y.1).map (·.2)

/-- The most similar candidate, if any is similar enough. -/
def closestWord (word : String) (candidates : List String) : Option String :=
  (similarWords word candidates).getLast?

end CodeNotes.Cli
