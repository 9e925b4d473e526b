set_option autoImplicit false

/-!
# Occurrence of one text in another

Normative source: SPEC_FULL.md §4.2 and §9 (tag matching is a raw substring test).

`occursIn pat s` tells whether the characters of `pat` stand somewhere in `s` as one
contiguous run: `pat` is a prefix of `s` or of one of its tails.  It decides the
infix relation of lists (`occursIn_iff`), and is written out so that it computes
without going through a decision procedure.
-/

namespace CodeNotes.Text

/-- Whether `pat` occurs in `s` as a contiguous run of characters. -/
def occursIn (pat : List Char) : List Char → Bool
  | [] => pat.isEmpty
  | c :: cs => pat.isPrefixOf (c :: cs) || occursIn pat cs

theorem occursIn_iff (pat : List Char) : ∀ s, occursIn pat s = true ↔ pat <:+: s
  | [] => by simp [occursIn]
  | c :: cs => by
    simp [occursIn, occursIn_iff pat cs, List.isPrefixOf_iff_prefix, List.infix_cons_iff]

end CodeNotes.Text
