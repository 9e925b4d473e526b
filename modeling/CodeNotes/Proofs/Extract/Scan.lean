import CodeNotes.Extract.Pattern
set_option autoImplicit false

/-!
# Scanning a text with one pattern

`Pattern.findAll` scans a text from the left: where the pattern matches with a
non-empty match it reports the match and resumes after it, elsewhere it moves on by one
character.  Main statements:

* `mem_findFrom`: every reported span is non-empty and lies in the text, at or after the
  position where the scan started;
* `findAll_reaches`: where the pattern has a non-empty match at a position `q`, as a
  search started at `q` sees it (`matchAt`), the scan reports exactly that match, unless
  an earlier reported match starts before `q` and ends after it.

The second is what a position the scan passes over looks like: it is hidden inside a
match of the same pattern.
-/

namespace CodeNotes.Extract

namespace Pattern

/-! ## Matches lie in the text -/

/-- A closer found after an opener starts at a position of the rest, and stands there
whole. -/
theorem closerAt_spec {closer : List Char} {crossLines atLineStart : Bool} :
    ∀ {prev : Char} {cs : List Char} {k : Nat},
      closerAt closer crossLines atLineStart prev cs = some k →
        k < cs.length ∧ closer <+: cs.drop k
  | _, [], _, h => by simp [closerAt] at h
  | prev, c :: rest, k, h => by
    unfold closerAt at h
    split at h
    · rename_i hhit
      cases h
      simp only [Bool.and_eq_true] at hhit
      exact ⟨by simp, by simpa using hhit.1⟩
    · split at h
      · cases h
      · -- the closer comes later: it stands in `rest`, one position on
        obtain ⟨j, hj, rfl⟩ := Option.map_eq_some_iff.1 h
        obtain ⟨hlt, hpre⟩ := closerAt_spec hj
        exact ⟨by simp only [List.length_cons]; omega, by simpa using hpre⟩

theorem closerAt_le {closer : List Char} {crossLines atLineStart : Bool} {prev : Char}
    {cs : List Char} {k : Nat} (h : closerAt closer crossLines atLineStart prev cs = some k) :
    k + closer.length ≤ cs.length := by
  obtain ⟨hlt, hpre⟩ := closerAt_spec h
  have hlen := hpre.length_le
  rw [List.length_drop] at hlen
  omega

/-- A delimited match, opener, run and closer, is no longer than the text. -/
theorem delimited_le {o c : String} {cs : List Char} {n : Nat} {crossLines atLineStart : Bool}
    (hpre : o.toList <+: cs)
    (h : (closerAt c.toList crossLines atLineStart (o.toList.getLastD ' ') (cs.drop o.length)).map
      (fun k => o.length + k + c.length) = some n) : n ≤ cs.length := by
  obtain ⟨k, hk, rfl⟩ := Option.map_eq_some_iff.1 h
  have hopen := hpre.length_le
  have hclose := closerAt_le hk
  simp only [String.length_toList, List.length_drop] at hopen hclose
  omega

theorem matchLen_le {p : Pattern} {crossLines lineStart : Bool} {cs : List Char} {n : Nat}
    (h : p.matchLen crossLines lineStart cs = some n) : n ≤ cs.length := by
  cases p with
  | toLineEnd o =>
    simp only [matchLen] at h
    split at h
    · rename_i hpre
      cases h
      have hopen := hpre.length_le
      have hline : ((cs.drop o.length).takeWhile (· ≠ '\n')).length ≤ (cs.drop o.length).length :=
        (List.takeWhile_prefix _).length_le
      simp only [String.length_toList] at hopen
      split <;> simp only [List.length_drop] at hline ⊢ <;> omega
    · cases h
  | delimited o c =>
    simp only [matchLen] at h
    split at h
    · exact delimited_le ‹_› h
    · cases h
  | lineDelimited o c =>
    simp only [matchLen] at h
    split at h
    · rename_i hstart
      simp only [Bool.and_eq_true, decide_eq_true_eq] at hstart
      exact delimited_le hstart.2 h
    · cases h

/-- Every span a scan from `pos` reports is non-empty and lies between `pos` and the end
of the text. -/
theorem mem_findFrom {p : Pattern} {crossLines : Bool} {pos : Nat} {prev : Char}
    {cs : List Char} {s : Span} (h : s ∈ p.findFrom crossLines pos prev cs) :
    pos ≤ s.start ∧ s.start < s.stop ∧ s.stop ≤ pos + cs.length := by
  fun_induction findFrom p crossLines pos prev cs with
  | case1 => simp at h
  | case2 pos prev c rest n hm hn ih =>
    have hle := matchLen_le hm
    rcases List.mem_cons.1 h with rfl | h
    · exact ⟨Nat.le_refl _, by simp only; omega, by simp only; omega⟩
    · obtain ⟨h1, h2, h3⟩ := ih h
      simp only [List.length_drop] at h3
      exact ⟨by omega, h2, by omega⟩
  | case3 pos _ c rest _ _ _ ih =>
    obtain ⟨h1, h2, h3⟩ := ih h
    exact ⟨by omega, h2, by simp only [List.length_cons]; omega⟩
  | case4 pos _ c rest _ ih =>
    obtain ⟨h1, h2, h3⟩ := ih h
    exact ⟨by omega, h2, by simp only [List.length_cons]; omega⟩

theorem mem_findAll {p : Pattern} {crossLines : Bool} {cs : List Char} {s : Span}
    (h : s ∈ p.findAll crossLines cs) : s.start < s.stop ∧ s.stop ≤ cs.length := by
  obtain ⟨-, h2, h3⟩ := mem_findFrom h
  exact ⟨h2, by omega⟩

/-! ## Positions the scan passes over -/

/-- The character before position `q` of a text; the start of the text counts as
following a line break. -/
def charBefore (cs : List Char) (q : Nat) : Char := (cs.take q).getLastD '\n'

/-- The length of the match of a pattern at position `q`, as a search started at `q`
sees it: it knows whether `q` begins a line. -/
def matchAt (p : Pattern) (crossLines : Bool) (cs : List Char) (q : Nat) : Option Nat :=
  p.matchLen crossLines (charBefore cs q == '\n') (cs.drop q)

theorem getLastD_append_of_ne_nil {α : Type} {l l' : List α} (d d' : α) (h : l' ≠ []) :
    (l ++ l').getLastD d = l'.getLastD d' := by
  obtain ⟨x, hx⟩ : ∃ x, l'.getLast? = some x := Option.isSome_iff_exists.1 (by simpa using h)
  simp [List.getLastD_eq_getLast?, List.getLast?_append, hx]

/-- After the first `n` characters of the rest of the text, the character before is the
last of them. -/
theorem charBefore_add {cs : List Char} {pos n : Nat} (d : Char) (hn : 0 < n)
    (hlen : n ≤ (cs.drop pos).length) :
    charBefore cs (pos + n) = ((cs.drop pos).take n).getLastD d := by
  have hne : (cs.drop pos).take n ≠ [] := by
    intro h
    have := congrArg List.length h
    simp only [List.length_take, List.length_nil] at this
    omega
  rw [charBefore, List.take_add]
  exact getLastD_append_of_ne_nil _ _ hne

/-- A scan from `pos`, where the rest of the text starts, reports the match at a later
position `q`, unless a match it reports starts before `q` and ends after it. -/
theorem findFrom_reaches {p : Pattern} {crossLines : Bool} {cs : List Char} {q n : Nat}
    (hm : p.matchAt crossLines cs q = some n) (hn : 0 < n) :
    ∀ {pos : Nat} {prev : Char} {rest : List Char},
      rest = cs.drop pos → prev = charBefore cs pos → pos ≤ q →
        ⟨q, q + n⟩ ∈ p.findFrom crossLines pos prev rest ∨
          ∃ s ∈ p.findFrom crossLines pos prev rest, s.start < q ∧ q < s.stop := by
  intro pos prev rest hrest hprev hq
  fun_induction findFrom p crossLines pos prev rest with
  | case1 pos prev =>
    -- the text ends at `pos`, so nothing is left to match at `q`
    have hle := matchLen_le hm
    have : cs.length ≤ pos := by simpa using hrest.symm
    simp only [List.length_drop] at hle
    omega
  | case2 pos prev c rest m hm' hpos ih =>
    have hle := matchLen_le hm'
    by_cases hqpos : q = pos
    · -- the scan stands at `q`: it sees the same match there
      subst hqpos
      rw [matchAt, ← hrest, ← hprev, hm'] at hm
      cases hm
      exact .inl List.mem_cons_self
    · by_cases hin : q < pos + m
      · exact .inr ⟨⟨pos, pos + m⟩, List.mem_cons_self, by simp only; omega, hin⟩
      · -- the match ends at or before `q`: the scan resumes after it
        have hnext : List.drop m (c :: rest) = cs.drop (pos + m) := by
          rw [hrest, List.drop_drop, Nat.add_comm]
        have hbefore : ((c :: rest).take m).getLastD c = charBefore cs (pos + m) := by
          rw [charBefore_add c hpos (by rw [← hrest]; exact hle), hrest]
        rcases ih hnext hbefore (by omega) with h | ⟨s, hs, hsq⟩
        · exact .inl (List.mem_cons_of_mem _ h)
        · exact .inr ⟨s, List.mem_cons_of_mem _ hs, hsq⟩
  | case3 pos prev c rest m hm' hzero ih =>
    by_cases hqpos : q = pos
    · subst hqpos
      rw [matchAt, ← hrest, ← hprev, hm'] at hm
      cases hm
      exact absurd hn hzero
    · exact ih (by rw [List.drop_add_one_eq_tail_drop, ← hrest]; rfl)
        (by rw [charBefore_add c (by omega) (by rw [← hrest]; simp), ← hrest]; rfl) (by omega)
  | case4 pos prev c rest hm' ih =>
    by_cases hqpos : q = pos
    · subst hqpos
      rw [matchAt, ← hrest, ← hprev, hm'] at hm
      cases hm
    · exact ih (by rw [List.drop_add_one_eq_tail_drop, ← hrest]; rfl)
        (by rw [charBefore_add c (by omega) (by rw [← hrest]; simp), ← hrest]; rfl) (by omega)

/-- The scan of a whole text reports the non-empty match at `q`, unless an earlier
reported match starts before `q` and ends after it. -/
theorem findAll_reaches {p : Pattern} {crossLines : Bool} {cs : List Char} {q n : Nat}
    (hm : p.matchAt crossLines cs q = some n) (hn : 0 < n) :
    ⟨q, q + n⟩ ∈ p.findAll crossLines cs ∨
      ∃ s ∈ p.findAll crossLines cs, s.start < q ∧ q < s.stop :=
  findFrom_reaches hm hn List.drop_zero.symm rfl (Nat.zero_le q)

end Pattern

end CodeNotes.Extract
