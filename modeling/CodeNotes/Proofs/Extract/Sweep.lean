import CodeNotes.Proofs.Extract.Scan
import CodeNotes.Extract.Rule
import Mathlib
set_option autoImplicit false

/-!
# The comment sweep

A rule's sweep orders the non-empty matches of its patterns by start, the longer first
among equal starts, and keeps each one that starts at or after the end of the last
kept one.  `extract` runs the sweep as one loop that also counts lines: it keeps the
line in a 32-bit counter and advances it by the line breaks between the last kept start
and the next one.  Main statements:

* `collectComments_eq`: while the text holds fewer line breaks than the counter can
  take, the loop makes the comments `commentAt` describes for the spans `keepDisjoint`
  keeps;
* `sweep_swept`: the kept spans are matches, non-empty, in the text, and follow one
  another without overlap, and every non-empty match starts inside one of them
  (`Swept`);
* `extract_eq_sweep`: extraction is the sweep, with these guarantees, and its lines
  never decrease;
* `opener_hidden_of_outside_sweep`: where a pattern matches at a position that no kept
  span covers, the opener there is lost inside a longer match of the same pattern that
  starts in an earlier kept span and runs past its end.
-/

namespace CodeNotes.Extract

namespace LanguageRule

open Pattern

/-! ## Keeping disjoint spans -/

section Keep

/-- Every span the sweep keeps starts at or after the bound it starts from. -/
theorem start_le_of_mem_keepDisjoint :
    ∀ {c : Nat} {ss : List Span} {k : Span}, (∀ s ∈ ss, s.start < s.stop) →
      k ∈ keepDisjoint c ss → c ≤ k.start
  | _, [], _, _, h => absurd h List.not_mem_nil
  | c, s :: rest, k, hne, h => by
    have hrest : ∀ t ∈ rest, t.start < t.stop := fun t ht => hne t (List.mem_cons_of_mem s ht)
    unfold keepDisjoint at h
    split at h
    · exact start_le_of_mem_keepDisjoint hrest h
    · rename_i hkeep
      rcases List.mem_cons.1 h with rfl | h
      · omega
      · -- a later kept span starts after `s`, which is non-empty and starts after `c`
        have hlater := start_le_of_mem_keepDisjoint hrest h
        have hs := hne s List.mem_cons_self
        omega

theorem keepDisjoint_sublist : ∀ (c : Nat) (ss : List Span), (keepDisjoint c ss).Sublist ss
  | _, [] => List.Sublist.slnil
  | c, s :: rest => by
    unfold keepDisjoint
    split
    · exact (keepDisjoint_sublist c rest).cons s
    · exact (keepDisjoint_sublist s.stop rest).cons_cons s

/-- The kept spans follow one another: each ends at or before the next one starts. -/
theorem keepDisjoint_ordered :
    ∀ {c : Nat} {ss : List Span}, (∀ s ∈ ss, s.start < s.stop) →
      (keepDisjoint c ss).Pairwise fun a b => a.stop ≤ b.start
  | _, [], _ => List.Pairwise.nil
  | c, s :: rest, hne => by
    have hrest : ∀ t ∈ rest, t.start < t.stop := fun t ht => hne t (List.mem_cons_of_mem s ht)
    unfold keepDisjoint
    split
    · exact keepDisjoint_ordered hrest
    · exact List.Pairwise.cons (fun k hk => start_le_of_mem_keepDisjoint hrest hk)
        (keepDisjoint_ordered hrest)

/-- Over spans ordered by start, every span that starts at or after the bound starts
inside a kept span. -/
theorem keepDisjoint_covers :
    ∀ {c : Nat} {ss : List Span}, ss.Pairwise (fun a b => a.start ≤ b.start) →
      (∀ s ∈ ss, s.start < s.stop) → ∀ s ∈ ss,
        s.start < c ∨ ∃ k ∈ keepDisjoint c ss, k.start ≤ s.start ∧ s.start < k.stop
  | _, [], _, _, _, h => absurd h List.not_mem_nil
  | c, s :: rest, hsorted, hne, t, ht => by
    rw [List.pairwise_cons] at hsorted
    have hrest : ∀ u ∈ rest, u.start < u.stop := fun u hu => hne u (List.mem_cons_of_mem s hu)
    unfold keepDisjoint
    split
    · rename_i hskip
      rcases List.mem_cons.1 ht with rfl | ht
      · exact .inl hskip
      · exact keepDisjoint_covers hsorted.2 hrest t ht
    · rcases List.mem_cons.1 ht with rfl | ht
      · -- a kept span starts inside itself
        exact .inr ⟨t, List.mem_cons_self, Nat.le_refl _, hne t List.mem_cons_self⟩
      · rcases keepDisjoint_covers hsorted.2 hrest t ht with hin | ⟨k, hk, hkt⟩
        · -- `t` starts before the end of `s` and, by the order, not before its start
          exact .inr ⟨s, List.mem_cons_self, hsorted.1 t ht, hin⟩
        · exact .inr ⟨k, List.mem_cons_of_mem s hk, hkt⟩

end Keep

/-! ## What the sweep keeps -/

/-- What a sweep makes of a list of matches: the kept spans are matches, each is
non-empty and lies in the text, each ends before the next starts, and every non-empty
match starts inside one of them.  The first three are also what the comment loop needs
to take its slices of the text: from the last kept start to the next one, and over each
kept span. -/
structure Swept (cs : List Char) (found kept : List Span) : Prop where
  mem : ∀ k ∈ kept, k ∈ found
  nonempty : ∀ k ∈ kept, k.start < k.stop
  inText : ∀ k ∈ kept, k.stop ≤ cs.length
  ordered : kept.Pairwise fun a b => a.stop ≤ b.start
  covers : ∀ s ∈ found, s.start < s.stop →
    ∃ k ∈ kept, k.start ≤ s.start ∧ s.start < k.stop

/-- Kept spans start strictly one after another. -/
theorem Swept.starts_lt {cs : List Char} {found kept : List Span}
    (h : Swept cs found kept) : kept.Pairwise fun a b => a.start < b.start :=
  h.ordered.imp_of_mem fun {a _} ha _ hab => Nat.lt_of_lt_of_le (h.nonempty a ha) hab

theorem sweepBefore_start_le {a b : Span} (h : sweepBefore a b = true) : a.start ≤ b.start := by
  simp only [sweepBefore, Bool.or_eq_true, decide_eq_true_eq, Bool.and_eq_true, beq_iff_eq] at h
  omega

/-- The candidates are the non-empty matches, ordered by start. -/
theorem candidates_sorted (r : LanguageRule) (cs : List Char) :
    (r.candidates cs).Pairwise fun a b => a.start ≤ b.start := by
  have htrans : ∀ a b c : Span, sweepBefore a b = true → sweepBefore b c = true →
      sweepBefore a c = true := by
    intro a b c hab hbc
    simp only [sweepBefore, Bool.or_eq_true, decide_eq_true_eq, Bool.and_eq_true,
      beq_iff_eq] at hab hbc ⊢
    omega
  have htotal : ∀ a b : Span, (sweepBefore a b || sweepBefore b a) = true := by
    intro a b
    simp only [sweepBefore, Bool.or_eq_true, decide_eq_true_eq, Bool.and_eq_true, beq_iff_eq]
    omega
  exact (List.pairwise_mergeSort htrans htotal _).imp sweepBefore_start_le

theorem mem_candidates {r : LanguageRule} {cs : List Char} {s : Span} :
    s ∈ r.candidates cs ↔ s ∈ r.spans cs ∧ s.start < s.stop := by
  rw [candidates, List.mem_mergeSort, List.mem_filter, decide_eq_true_eq]

/-- A match of one of a rule's patterns lies in the text. -/
theorem stop_le_of_mem_spans {r : LanguageRule} {cs : List Char} {s : Span}
    (h : s ∈ r.spans cs) : s.stop ≤ cs.length := by
  simp only [spans, List.mem_append, List.mem_flatMap] at h
  rcases h with ⟨p, -, hs⟩ | ⟨p, -, hs⟩
  · exact (mem_findAll hs).2
  · exact (mem_findAll hs).2

theorem sweep_swept (r : LanguageRule) (cs : List Char) : Swept cs (r.spans cs) (r.sweep cs) := by
  have hne : ∀ s ∈ r.candidates cs, s.start < s.stop := fun s hs => (mem_candidates.1 hs).2
  have hsub := keepDisjoint_sublist 0 (r.candidates cs)
  refine ⟨fun k hk => (mem_candidates.1 (hsub.subset hk)).1,
    fun k hk => hne k (hsub.subset hk),
    fun k hk => stop_le_of_mem_spans (mem_candidates.1 (hsub.subset hk)).1,
    keepDisjoint_ordered hne, ?_⟩
  intro s hs hsne
  -- nothing starts before position 0, so the bound the sweep starts from covers nothing
  rcases keepDisjoint_covers (candidates_sorted r cs) hne s (mem_candidates.2 ⟨hs, hsne⟩) with
    h | h
  · exact absurd h (Nat.not_lt_zero _)
  · exact h

/-! ## Counting lines as the loop does -/

section Lines

variable {cs : List Char}

theorem take_eq_append_slice {lo hi : Nat} (h : lo ≤ hi) :
    cs.take hi = cs.take lo ++ slice cs lo hi := by
  rw [slice, ← List.take_add, Nat.add_sub_cancel' h]

/-- Line breaks before a position never outnumber those before a later one. -/
theorem count_take_le {lo hi : Nat} (h : lo ≤ hi) :
    (cs.take lo).count '\n' ≤ (cs.take hi).count '\n' := by
  rw [take_eq_append_slice h, List.count_append]
  exact Nat.le_add_right _ _

/-- The comment at a span is the span's comment on the line after the breaks before it. -/
theorem commentAt_eq (tags : TagSet) (filepath : String) (s : Span) :
    commentAt tags filepath cs s =
      spanComment tags filepath cs s (1 + (cs.take s.start).count '\n') := by
  simp [commentAt, spanComment, slice, List.count_eq_countP, List.countP_eq_length_filter]

/-- The loop's cursor agrees with the text: breaks are counted up to a position no later
than the end of the last kept span, and the line is one more than the breaks before it. -/
structure Cursor.Tracks (cs : List Char) (cur : Cursor) : Prop where
  counted_le : cur.countedUntil ≤ cur.coveredUntil
  line : cur.line.toNat = 1 + (cs.take cur.countedUntil).count '\n'

theorem Cursor.tracks_start : Cursor.start.Tracks cs := ⟨Nat.le_refl 0, by simp [Cursor.start]⟩

/-- One kept span: the counter, advanced by the breaks since the last kept start, is one
more than the breaks before the span, as long as that fits in 32 bits. -/
theorem Cursor.Tracks.advance {cur : Cursor} (ht : cur.Tracks cs) {s : Span}
    (hkeep : cur.coveredUntil ≤ s.start) (hfit : cs.count '\n' + 1 < 4294967296) :
    (cur.line + ((slice cs cur.countedUntil s.start).count '\n').toUInt32).toNat =
      1 + (cs.take s.start).count '\n' := by
  have hsplit : (cs.take s.start).count '\n' =
      (cs.take cur.countedUntil).count '\n' + (slice cs cur.countedUntil s.start).count '\n' := by
    rw [take_eq_append_slice (Nat.le_trans ht.counted_le hkeep), List.count_append]
  have hbound : (cs.take s.start).count '\n' ≤ cs.count '\n' := (List.take_sublist _ _).count_le _
  rw [UInt32.toNat_add, ht.line, Nat.toUInt32, UInt32.toNat_ofNat', hsplit]
  -- the counter never wraps: the whole count fits
  rw [Nat.mod_eq_of_lt (by omega : (slice cs cur.countedUntil s.start).count '\n' < 2 ^ 32),
    Nat.mod_eq_of_lt (by omega)]
  omega

/-- The loop makes the comments of the spans the sweep keeps, while the line breaks of
the text fit the counter. -/
theorem collectComments_eq (tags : TagSet) (filepath : String)
    (hfit : cs.count '\n' + 1 < 4294967296) :
    ∀ {cur : Cursor} {ss : List Span}, cur.Tracks cs → (∀ s ∈ ss, s.start < s.stop) →
      collectComments tags filepath cs cur ss =
        (keepDisjoint cur.coveredUntil ss).map (commentAt tags filepath cs)
  | _, [], _, _ => rfl
  | cur, s :: rest, ht, hne => by
    have hrest : ∀ t ∈ rest, t.start < t.stop := fun t ht => hne t (List.mem_cons_of_mem s ht)
    by_cases hskip : s.start < cur.coveredUntil
    · simp only [collectComments, keepDisjoint, hskip, if_true]
      exact collectComments_eq tags filepath hfit ht hrest
    · have hkeep : cur.coveredUntil ≤ s.start := Nat.le_of_not_lt hskip
      have hline := ht.advance hkeep hfit
      -- the new cursor counts up to the kept start, which lies before the kept end
      have hnext : Cursor.Tracks cs ⟨s.stop, _, s.start⟩ :=
        ⟨Nat.le_of_lt (hne s List.mem_cons_self), hline⟩
      simp only [collectComments, keepDisjoint, hskip, if_false, List.map_cons]
      rw [hline, ← commentAt_eq, collectComments_eq tags filepath hfit hnext hrest]

end Lines

/-! ## Extraction -/

/-- The slices of the text the comment loop takes, in order: from the last kept start
(position 0 at first) to the next kept start, where it counts line breaks, and over that
kept span, where it reads the comment. -/
def loopSlices : Nat → List Span → List (Nat × Nat)
  | _, [] => []
  | last, k :: rest => (last, k.start) :: (k.start, k.stop) :: loopSlices k.start rest

/-- Over ordered kept spans in the text, every slice the loop takes runs forwards and
ends inside the text. -/
theorem loopSlices_inText {cs : List Char} :
    ∀ {last : Nat} {kept : List Span}, kept.Pairwise (fun a b => a.stop ≤ b.start) →
      (∀ k ∈ kept, last ≤ k.start ∧ k.start < k.stop ∧ k.stop ≤ cs.length) →
      ∀ lo hi, (lo, hi) ∈ loopSlices last kept → lo ≤ hi ∧ hi ≤ cs.length
  | _, [], _, _, _, _, hx => absurd hx List.not_mem_nil
  | last, k :: rest, hord, hk, lo, hi, hx => by
    rw [List.pairwise_cons] at hord
    obtain ⟨hlast, hne, hin⟩ := hk k List.mem_cons_self
    simp only [loopSlices, List.mem_cons, Prod.mk.injEq] at hx
    rcases hx with ⟨rfl, rfl⟩ | ⟨rfl, rfl⟩ | hx
    · exact ⟨hlast, by omega⟩
    · exact ⟨Nat.le_of_lt hne, hin⟩
    · -- the spans after `k` start after its end, so after its start
      refine loopSlices_inText hord.2 (fun k' hk' => ?_) lo hi hx
      obtain ⟨-, h2, h3⟩ := hk k' (List.mem_cons_of_mem k hk')
      have := hord.1 k' hk'
      exact ⟨by omega, h2, h3⟩

theorem Swept.loopSlices_inText {cs : List Char} {found kept : List Span}
    (h : Swept cs found kept) :
    ∀ lo hi, (lo, hi) ∈ loopSlices 0 kept → lo ≤ hi ∧ hi ≤ cs.length :=
  LanguageRule.loopSlices_inText h.ordered fun k hk =>
    ⟨Nat.zero_le _, h.nonempty k hk, h.inText k hk⟩

/-- The lines of the comments of kept spans never decrease. -/
theorem lines_sorted {cs : List Char} {found kept : List Span} (h : Swept cs found kept)
    (tags : TagSet) (filepath : String) :
    ((kept.map (commentAt tags filepath cs)).map (·.line)).Pairwise (· ≤ ·) := by
  rw [List.map_map, List.pairwise_map]
  refine h.starts_lt.imp fun {a b} hab => ?_
  have : (cs.take a.start).count '\n' ≤ (cs.take b.start).count '\n' :=
    count_take_le (Nat.le_of_lt hab)
  simp only [Function.comp_apply, commentAt]
  simp only [List.count_eq_countP, List.countP_eq_length_filter] at this
  omega

/-- Extraction is the sweep: the comments of the kept spans, each on the line after the
line breaks before it, for every text whose line breaks fit the 32-bit counter.  The
kept spans are ordered, disjoint matches that cover the start of every non-empty match,
every slice the loop takes runs forwards inside the text, and the lines of the comments
never decrease. -/
theorem extract_eq_sweep (r : LanguageRule) (filepath content : String) (tags : TagSet)
    (hbreaks : content.toList.count '\n' < 4294967295) :
    r.extract filepath content tags =
        (r.sweep content.toList).map (commentAt tags filepath content.toList) ∧
      Swept content.toList (r.spans content.toList) (r.sweep content.toList) ∧
      (∀ lo hi, (lo, hi) ∈ loopSlices 0 (r.sweep content.toList) →
        lo ≤ hi ∧ hi ≤ content.toList.length) ∧
      ((r.extract filepath content tags).map (·.line)).Pairwise (· ≤ ·) := by
  have hne : ∀ s ∈ r.candidates content.toList, s.start < s.stop :=
    fun s hs => (mem_candidates.1 hs).2
  have heq : r.extract filepath content tags =
      (r.sweep content.toList).map (commentAt tags filepath content.toList) :=
    collectComments_eq tags filepath (by omega) Cursor.tracks_start hne
  have hswept := sweep_swept r content.toList
  exact ⟨heq, hswept, hswept.loopSlices_inText, heq ▸ lines_sorted hswept tags filepath⟩

/-- A Java text whose comments hold each other's markers: a slash-star inside a line
comment and a slash-slash inside a block comment. -/
def nestedMarkers : String := "// see /* this */\n/* and // that\n*/\n"

theorem extract_eq_sweep_nested :
    nestedMarkers.toList.count '\n' < 4294967295 ∧
      ((slashRule "java" ["java"]).extract "A.java" nestedMarkers TagSet.default =
          ((slashRule "java" ["java"]).sweep nestedMarkers.toList).map
            (commentAt TagSet.default "A.java" nestedMarkers.toList) ∧
        Swept nestedMarkers.toList ((slashRule "java" ["java"]).spans nestedMarkers.toList)
          ((slashRule "java" ["java"]).sweep nestedMarkers.toList) ∧
        (∀ lo hi, (lo, hi) ∈ loopSlices 0 ((slashRule "java" ["java"]).sweep nestedMarkers.toList) →
          lo ≤ hi ∧ hi ≤ nestedMarkers.toList.length) ∧
        (((slashRule "java" ["java"]).extract "A.java" nestedMarkers TagSet.default).map
          (·.line)).Pairwise (· ≤ ·)) :=
  have hbreaks : nestedMarkers.toList.count '\n' < 4294967295 := by decide +kernel
  ⟨hbreaks, extract_eq_sweep _ _ _ _ hbreaks⟩

/-! ## Openers the sweep loses -/

/-- Where a pattern of the rule has a non-empty match at a position that no kept span
covers, the same pattern's scan has passed over that position inside a longer match:
one that starts in an earlier kept span and runs past its end, and so was dropped. -/
theorem opener_hidden_of_outside_sweep (r : LanguageRule) (cs : List Char) {p : Pattern}
    {crossLines : Bool}
    (hp : p ∈ r.lineMode ∧ crossLines = false ∨ p ∈ r.blockMode ∧ crossLines = true)
    {q n : Nat} (hm : p.matchAt crossLines cs q = some n) (hn : 0 < n)
    (hout : ∀ k ∈ r.sweep cs, ¬ (k.start ≤ q ∧ q < k.stop)) :
    ∃ s ∈ p.findAll crossLines cs, s.start < q ∧ q < s.stop ∧
      ∃ k ∈ r.sweep cs, k.start ≤ s.start ∧ s.start < k.stop ∧ k.stop ≤ q := by
  have hspans : ∀ s ∈ p.findAll crossLines cs, s ∈ r.spans cs := by
    intro s hs
    simp only [spans, List.mem_append, List.mem_flatMap]
    rcases hp with ⟨hp, rfl⟩ | ⟨hp, rfl⟩
    · exact .inl ⟨p, hp, hs⟩
    · exact .inr ⟨p, hp, hs⟩
  have hswept := sweep_swept r cs
  rcases findAll_reaches hm hn with hat | ⟨s, hs, hsq, hqs⟩
  · -- the scan reports the match at `q` itself, so a kept span covers `q`
    obtain ⟨k, hk, hks, hsk⟩ := hswept.covers _ (hspans _ hat) (by simp only; omega)
    exact absurd ⟨hks, hsk⟩ (hout k hk)
  · obtain ⟨k, hk, hks, hsk⟩ := hswept.covers s (hspans s hs) (mem_findAll hs).1
    refine ⟨s, hs, hsq, hqs, k, hk, hks, hsk, ?_⟩
    -- `k` starts before `q` and does not cover it, so it ends at or before `q`
    have := hout k hk
    omega

/-- A C text with a block comment that holds a URL, then a line comment on the same
line. -/
def urlThenTodo : String := "/* see http://x */ f(); // TODO fix\n"

theorem sweep_urlThenTodo :
    (slashRule "c" ["c", "h"]).sweep urlThenTodo.toList = [⟨0, 18⟩] := by
  cbv

/-- The line comment at position 24 is swallowed by the slash-slash match that starts in
the URL at position 12, inside the block comment `[0, 18)`. -/
theorem opener_hidden_of_outside_sweep_url :
    (slashLine ∈ (slashRule "c" ["c", "h"]).lineMode ∧ false = false ∨
        slashLine ∈ (slashRule "c" ["c", "h"]).blockMode ∧ false = true) ∧
      slashLine.matchAt false urlThenTodo.toList 24 = some 11 ∧ 0 < 11 ∧
      (∀ k ∈ (slashRule "c" ["c", "h"]).sweep urlThenTodo.toList,
        ¬ (k.start ≤ 24 ∧ 24 < k.stop)) ∧
      ∃ s ∈ slashLine.findAll false urlThenTodo.toList, s.start < 24 ∧ 24 < s.stop ∧
        ∃ k ∈ (slashRule "c" ["c", "h"]).sweep urlThenTodo.toList,
          k.start ≤ s.start ∧ s.start < k.stop ∧ k.stop ≤ 24 := by
  have hp : slashLine ∈ (slashRule "c" ["c", "h"]).lineMode ∧ false = false ∨
      slashLine ∈ (slashRule "c" ["c", "h"]).blockMode ∧ false = true :=
    .inl ⟨by decide, rfl⟩
  have hm : slashLine.matchAt false urlThenTodo.toList 24 = some 11 := by decide +kernel
  have hout : ∀ k ∈ (slashRule "c" ["c", "h"]).sweep urlThenTodo.toList,
      ¬ (k.start ≤ 24 ∧ 24 < k.stop) := by
    rw [sweep_urlThenTodo]
    decide
  exact ⟨hp, hm, by decide, hout,
    opener_hidden_of_outside_sweep _ _ hp hm (by decide) hout⟩

/-- No comment starts at the line comment's opener, though the slash-slash pattern
matches there and no kept span covers it: extraction returns the block comment alone. -/
theorem trailing_comment_lost :
    slashLine.matchAt false urlThenTodo.toList 24 = some 11 ∧
      (∀ k ∈ (slashRule "c" ["c", "h"]).sweep urlThenTodo.toList,
        ¬ (k.start ≤ 24 ∧ 24 < k.stop)) ∧
      (¬ ∃ k ∈ (slashRule "c" ["c", "h"]).sweep urlThenTodo.toList, k.start = 24) ∧
      ((slashRule "c" ["c", "h"]).extract "f" urlThenTodo TagSet.default).map (·.text) =
        ["/* see http://x */"] := by
  have hextract : (slashRule "c" ["c", "h"]).extract "f" urlThenTodo TagSet.default =
      ((slashRule "c" ["c", "h"]).sweep urlThenTodo.toList).map
        (commentAt TagSet.default "f" urlThenTodo.toList) :=
    collectComments_eq TagSet.default "f" (by decide +kernel) Cursor.tracks_start
      fun s hs => (mem_candidates.1 hs).2
  refine ⟨by decide +kernel, ?_, ?_, ?_⟩
  · rw [sweep_urlThenTodo]
    decide
  · rw [sweep_urlThenTodo]
    decide
  · rw [hextract, sweep_urlThenTodo]
    decide +kernel

end LanguageRule

end CodeNotes.Extract
