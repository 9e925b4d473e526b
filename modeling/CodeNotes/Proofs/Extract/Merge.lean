import CodeNotes.Extract.Python
import Mathlib.Data.List.Chain
set_option autoImplicit false

/-!
# Merging Python comment tokens

The comment tokens of a Python source come in source order, their lines strictly
increasing.  The merge cuts them into *runs* and makes one comment of each run.  A run
is a token alone, or a token with the token right after it when that one *follows*
it: it stands on the next line and alone would be a `NOTE`.  A token opens a new run
exactly when it does not follow the first token of the run before it.  The merge looks
at that first token only, so a third line can never join: its line is past the line
after the first.

* `SplitsInto` says what a split into runs is, without the merge; `runs` is one
  (`splitsInto_runs`), and the only one (`eq_runs_of_splitsInto`).
* `mergeComments_eq_map_runs`: the merge makes one comment per run, in order, with the
  first token's line and kind, the texts joined by line breaks, and `multiline` set
  exactly for a run of two.
* `mergeComments_runs`: the main statement, for the tokens as the extractor strips
  them; it adds that splitting the comments' texts at line breaks gives the tokens'
  texts back, each once and in order, and that the comments' lines strictly increase.
-/

namespace CodeNotes.Extract.Python

open CodeNotes

/-- The tokens of one comment: a first token and, maybe, the one after it. -/
structure Run where
  first : Nat × String
  second : Option (Nat × String)
  deriving DecidableEq, Repr

namespace Run

/-- The tokens of a run, in order. -/
def tokens (r : Run) : List (Nat × String) := r.first :: r.second.toList

/-- The comment of a run: the first token's line and kind, the texts joined by line
breaks, and `multiline` for a run of two. -/
def comment (tags : TagSet) (filepath : String) (r : Run) : Comment :=
  ⟨filepath, "\n".intercalate (r.tokens.map Prod.snd), r.first.1, tags.classify r.first.2,
    r.second.isSome⟩

@[simp] theorem tokens_mk (t : Nat × String) (u : Option (Nat × String)) :
    (Run.mk t u).tokens = t :: u.toList := rfl

@[simp] theorem tokens_ne_nil (r : Run) : r.tokens ≠ [] := List.cons_ne_nil _ _

end Run

/-- Token `u` follows token `t`: it stands on the next line, and alone it would be a
`NOTE`. -/
def Follows (tags : TagSet) (t u : Nat × String) : Prop :=
  u.1 = t.1 + 1 ∧ tags.classify u.2 = .note

instance (tags : TagSet) (t u : Nat × String) : Decidable (Follows tags t u) :=
  inferInstanceAs (Decidable (_ ∧ _))

/-- Cuts tokens into runs: a token takes the next one along when that one follows it. -/
def runs (tags : TagSet) : List (Nat × String) → List Run
  | [] => []
  | [t] => [⟨t, none⟩]
  | t :: u :: rest =>
    if Follows tags t u then ⟨t, some u⟩ :: runs tags rest else ⟨t, none⟩ :: runs tags (u :: rest)

/-- A split of tokens into runs: the runs hold the tokens in order, the second token of a
run follows its first, and the first token of each run does not follow the first token
of the run before. -/
structure SplitsInto (tags : TagSet) (toks : List (Nat × String)) (rs : List Run) : Prop where
  tokens : rs.flatMap Run.tokens = toks
  follows : ∀ r ∈ rs, ∀ u ∈ r.second, Follows tags r.first u
  opens : rs.IsChain fun r r' => ¬ Follows tags r.first r'.first

variable {tags : TagSet} {filepath : String}

/-! ## The runs -/

theorem flatMap_tokens_runs (tags : TagSet) (toks : List (Nat × String)) :
    (runs tags toks).flatMap Run.tokens = toks := by
  fun_induction runs tags toks <;> simp_all

theorem first_mem_of_mem_runs {toks : List (Nat × String)} {r : Run} (h : r ∈ runs tags toks) :
    r.first ∈ toks := by
  rw [← flatMap_tokens_runs tags toks]
  exact List.mem_flatMap.2 ⟨r, h, List.mem_cons_self⟩

/-- The first run opens at the first token. -/
theorem first_head_runs (tags : TagSet) (u : Nat × String) (rest : List (Nat × String)) :
    ∃ r rs, runs tags (u :: rest) = r :: rs ∧ r.first = u := by
  cases rest with
  | nil => exact ⟨_, _, rfl, rfl⟩
  | cons v rest =>
    unfold runs
    split <;> exact ⟨_, _, rfl, rfl⟩

/-- With lines strictly increasing, `runs` is a split.  A run of two is followed by a
token past the line after its first, so that token opens the next run. -/
theorem splitsInto_runs {toks : List (Nat × String)} (hlines : toks.Pairwise fun a b => a.1 < b.1) :
    SplitsInto tags toks (runs tags toks) := by
  refine ⟨flatMap_tokens_runs tags toks, ?_, ?_⟩
  · fun_induction runs tags toks with
    | case1 => simp
    | case2 t => simp
    | case3 t u rest hf ih =>
      simp only [List.mem_cons, forall_eq_or_imp, Option.mem_def, Option.some.injEq]
      exact ⟨fun _ h => h ▸ hf, ih (List.Pairwise.of_cons (List.Pairwise.of_cons hlines))⟩
    | case4 t u rest _ ih =>
      simp only [List.mem_cons, forall_eq_or_imp, Option.mem_def, reduceCtorEq, false_implies,
        implies_true, true_and]
      exact ih (List.Pairwise.of_cons hlines)
  · fun_induction runs tags toks with
    | case1 => exact List.IsChain.nil
    | case2 t => exact List.IsChain.singleton _
    | case3 t u rest hf ih =>
      have htail := ih (List.Pairwise.of_cons (List.Pairwise.of_cons hlines))
      cases rest with
      | nil => exact List.IsChain.singleton _
      | cons v rest =>
        obtain ⟨r, rs, hrs, hr⟩ := first_head_runs tags v rest
        rw [hrs] at htail ⊢
        refine List.IsChain.cons_cons (fun hfv => ?_) htail
        -- the token after a run of two stands past the line after the run's first
        have hv : u.1 < v.1 := (List.pairwise_cons.1 (List.Pairwise.of_cons hlines)).1 v
          List.mem_cons_self
        have hline : v.1 = t.1 + 1 := hr ▸ hfv.1
        have := hf.1
        omega
    | case4 t u rest hf ih =>
      have htail := ih (List.Pairwise.of_cons hlines)
      obtain ⟨r, rs, hrs, hr⟩ := first_head_runs tags u rest
      rw [hrs] at htail ⊢
      exact List.IsChain.cons_cons (by rw [hr]; exact hf) htail

/-- A split's first run takes the tokens it holds off the front. -/
theorem SplitsInto.tail {toks : List (Nat × String)} {r : Run} {rs : List Run}
    (h : SplitsInto tags toks (r :: rs)) : SplitsInto tags (toks.drop r.tokens.length) rs where
  tokens := by rw [← h.tokens, List.flatMap_cons, List.drop_left]
  follows r' hr' := h.follows r' (List.mem_cons_of_mem r hr')
  opens := h.opens.tail

/-- There is one split only: at each token the description decides whether the next
token joins it. -/
theorem eq_runs_of_splitsInto {toks : List (Nat × String)} {rs : List Run}
    (h : SplitsInto tags toks rs) : rs = runs tags toks := by
  fun_induction runs tags toks generalizing rs with
  | case1 =>
    cases rs with
    | nil => rfl
    | cons r rs => simpa using h.tokens
  | case2 t =>
    obtain ⟨r, rs⟩ | ⟨⟨t', u⟩, rs⟩ := rs
    · simpa using h.tokens
    · have htoks := h.tokens
      cases u <;> cases rs <;> simp_all
  | case3 t u rest hf ih =>
    obtain _ | ⟨⟨t', u'⟩, rs⟩ := rs
    · simpa using h.tokens
    cases u' with
    | none =>
      -- `u` would open the second run, though it follows `t`
      obtain _ | ⟨r', rs⟩ := rs
      · simpa using h.tokens
      obtain ⟨v, w⟩ := r'
      have htoks := h.tokens
      simp only [List.flatMap_cons, Run.tokens_mk, Option.toList_none, List.cons_append,
        List.nil_append, List.cons.injEq] at htoks
      obtain ⟨rfl, rfl, -⟩ := htoks
      exact absurd hf (List.isChain_cons_cons.1 h.opens).1
    | some u' =>
      have htoks := h.tokens
      simp only [List.flatMap_cons, Run.tokens_mk, Option.toList_some, List.cons_append,
        List.nil_append, List.cons.injEq] at htoks
      obtain ⟨rfl, rfl, -⟩ := htoks
      have hrs : SplitsInto tags rest rs := by simpa using h.tail
      rw [ih hrs]
  | case4 t u rest hf ih =>
    obtain _ | ⟨⟨t', u'⟩, rs⟩ := rs
    · simpa using h.tokens
    cases u' with
    | none =>
      have htoks := h.tokens
      simp only [List.flatMap_cons, Run.tokens_mk, Option.toList_none, List.cons_append,
        List.nil_append, List.cons.injEq] at htoks
      obtain ⟨rfl, -⟩ := htoks
      have hrs : SplitsInto tags (u :: rest) rs := by simpa using h.tail
      rw [ih hrs]
    | some u' =>
      -- a run of two would need `u` to follow `t`
      have htoks := h.tokens
      simp only [List.flatMap_cons, Run.tokens_mk, Option.toList_some, List.cons_append,
        List.nil_append, List.cons.injEq] at htoks
      obtain ⟨rfl, rfl, -⟩ := htoks
      exact absurd (h.follows _ List.mem_cons_self u' rfl) hf

/-- Lines strictly increase from run to run. -/
theorem pairwise_first_runs {toks : List (Nat × String)}
    (hlines : toks.Pairwise fun a b => a.1 < b.1) :
    (runs tags toks).Pairwise fun r r' => r.first.1 < r'.first.1 := by
  fun_induction runs tags toks with
  | case1 => exact List.Pairwise.nil
  | case2 t => exact List.pairwise_singleton _ _
  | case3 t u rest _ ih =>
    have hrest := List.Pairwise.of_cons (List.Pairwise.of_cons hlines)
    refine List.Pairwise.cons (fun r hr => ?_) (ih hrest)
    exact List.rel_of_pairwise_cons hlines
      (List.mem_cons_of_mem u (first_mem_of_mem_runs hr))
  | case4 t u rest _ ih =>
    refine List.Pairwise.cons (fun r hr => ?_) (ih (List.Pairwise.of_cons hlines))
    exact List.rel_of_pairwise_cons hlines (first_mem_of_mem_runs hr)

/-! ## The merge -/

/-- A token that cannot join the newest comment starts a comment of its own. -/
theorem mergeStep_opens {acc : List Comment} {t : Nat × String}
    (h : ∀ c ∈ acc.head?, ¬ Follows tags (c.line, c.text) t) :
    mergeStep tags filepath acc t = Run.comment tags filepath ⟨t, none⟩ :: acc := by
  cases acc with
  | nil => simp [mergeStep, Run.comment]
  | cons prev older =>
    have hno : ¬ (t.1 = prev.line + 1 ∧ tags.classify t.2 = .note) := h prev rfl
    simp only [mergeStep, Bool.and_eq_true, beq_iff_eq, hno, if_false]
    simp [Run.comment]

/-- A token that follows the first token of a lone comment joins it. -/
theorem mergeStep_joins {acc : List Comment} {t u : Nat × String} (h : Follows tags t u) :
    mergeStep tags filepath (Run.comment tags filepath ⟨t, none⟩ :: acc) u =
      Run.comment tags filepath ⟨t, some u⟩ :: acc := by
  simp [mergeStep, Run.comment, h.1, h.2, String.intercalate_cons_cons]

/-- The merge, from comments whose newest the first token cannot join, adds the comments
of the runs, newest first.  The induction follows `runs`; after a run of two the next
token stands past the line after the run's first, so it cannot join. -/
theorem foldl_mergeStep {toks : List (Nat × String)}
    (hlines : toks.Pairwise fun a b => a.1 < b.1) {acc : List Comment}
    (hacc : ∀ c ∈ acc.head?, ∀ t ∈ toks.head?, ¬ Follows tags (c.line, c.text) t) :
    toks.foldl (mergeStep tags filepath) acc =
      ((runs tags toks).map (Run.comment tags filepath)).reverse ++ acc := by
  fun_induction runs tags toks generalizing acc with
  | case1 => simp
  | case2 t => simp [mergeStep_opens fun c hc => hacc c hc t rfl]
  | case3 t u rest hf ih =>
    have hrest := List.Pairwise.of_cons (List.Pairwise.of_cons hlines)
    rw [List.foldl_cons, List.foldl_cons, mergeStep_opens fun c hc => hacc c hc t rfl,
      mergeStep_joins hf, ih hrest]
    · simp
    · intro c hc v hv hfv
      simp only [List.head?_cons, Option.mem_def, Option.some.injEq] at hc
      subst hc
      have hv' : u.1 < v.1 :=
        List.rel_of_pairwise_cons (List.Pairwise.of_cons hlines) (List.mem_of_mem_head? hv)
      have hline : v.1 = t.1 + 1 := hfv.1
      have := hf.1
      omega
  | case4 t u rest hf ih =>
    rw [List.foldl_cons, mergeStep_opens fun c hc => hacc c hc t rfl,
      ih (List.Pairwise.of_cons hlines)]
    · simp
    · intro c hc v hv
      simp only [List.head?_cons, Option.mem_def, Option.some.injEq] at hc hv
      subst hc hv
      exact hf

/-- The merge makes one comment per run, in order. -/
theorem mergeComments_eq_map_runs {toks : List (Nat × String)}
    (hlines : toks.Pairwise fun a b => a.1 < b.1) :
    mergeComments tags filepath toks = (runs tags toks).map (Run.comment tags filepath) := by
  rw [mergeComments, foldl_mergeStep hlines (by simp), List.append_nil, List.reverse_reverse]

/-! ## Texts -/

/-- Splitting a run's comment at line breaks gives the run's texts back. -/
theorem splitOn_text_comment {r : Run} (h : ∀ t ∈ r.tokens, '\n' ∉ t.2.toList) :
    (Run.comment tags filepath r).text.toList.splitOn '\n' = r.tokens.map (·.2.toList) := by
  simp only [Run.comment, String.toList_intercalate, List.map_map]
  refine List.splitOn_intercalate '\n' (fun l hl => ?_) (by simp [Run.tokens])
  obtain ⟨t, ht, rfl⟩ := List.mem_map.1 hl
  exact h t ht

theorem trimList_sublist (cs : List Char) : (Text.trimList cs).Sublist cs := by
  unfold Text.trimList Text.dropBlank
  have hinner := (List.dropWhile_suffix Text.isBlank (l := cs)).sublist
  have houter := (List.dropWhile_suffix Text.isBlank
    (l := (List.dropWhile Text.isBlank cs).reverse)).sublist
  have hback := houter.reverse
  rw [List.reverse_reverse] at hback
  exact hback.trans hinner

/-- Stripping a token keeps it on one line. -/
theorem newline_not_mem_tokenText {raw : String} (h : '\n' ∉ raw.toList) :
    '\n' ∉ (tokenText raw).toList := by
  unfold tokenText
  split
  · next rest heq =>
    simp only [Text.trim, String.toList_ofList]
    exact fun hm => h (heq ▸ List.mem_cons_of_mem '#' ((trimList_sublist rest).subset hm))
  · simp only [Text.trim, String.toList_ofList]
    exact fun hm => h ((trimList_sublist _).subset hm)

/-- The merge of a file's comment tokens, stripped of their `#` and trimmed as the
extractor strips them.  For tokens with strictly increasing lines and texts on one line:
the comments are those of `runs`, one per run and in order; `runs` is a split, and the
only one; splitting the comments' texts at line breaks gives each token's text once, in
order; and the comments' lines strictly increase. -/
theorem mergeComments_runs (tags : TagSet) (filepath : String) (raw : List (Nat × String))
    (hlines : raw.Pairwise fun a b => a.1 < b.1) (hbreaks : ∀ t ∈ raw, '\n' ∉ t.2.toList) :
    let toks := raw.map fun (l, t) => (l, tokenText t)
    mergeComments tags filepath toks = (runs tags toks).map (Run.comment tags filepath) ∧
      SplitsInto tags toks (runs tags toks) ∧
      (∀ rs, SplitsInto tags toks rs → rs = runs tags toks) ∧
      (mergeComments tags filepath toks).flatMap (fun c => c.text.toList.splitOn '\n') =
        toks.map (·.2.toList) ∧
      (mergeComments tags filepath toks).Pairwise fun c d => c.line < d.line := by
  intro toks
  have htoks : toks.Pairwise fun a b => a.1 < b.1 := List.pairwise_map.2 hlines
  have hone : ∀ t ∈ toks, '\n' ∉ t.2.toList := by
    intro t ht
    obtain ⟨⟨l, x⟩, hx, rfl⟩ := List.mem_map.1 ht
    exact newline_not_mem_tokenText (hbreaks _ hx)
  have hmerge : mergeComments tags filepath toks =
      (runs tags toks).map (Run.comment tags filepath) := mergeComments_eq_map_runs htoks
  refine ⟨hmerge, splitsInto_runs htoks, fun _ h => eq_runs_of_splitsInto h, ?_, ?_⟩
  · rw [hmerge, List.flatMap_map]
    calc (runs tags toks).flatMap (fun r => (Run.comment tags filepath r).text.toList.splitOn '\n')
        = (runs tags toks).flatMap (fun r => r.tokens.map (·.2.toList)) :=
          List.flatMap_congr fun r hr => splitOn_text_comment fun t ht =>
            hone t (flatMap_tokens_runs tags toks ▸ List.mem_flatMap.2 ⟨r, hr, ht⟩)
      _ = toks.map (·.2.toList) := by rw [← List.map_flatMap, flatMap_tokens_runs]
  · rw [hmerge, List.pairwise_map]
    exact pairwise_first_runs htoks

/-- The comment tokens of three plain lines in a row. -/
def threePlainLines : List (Nat × String) := [(1, "# a"), (2, "# b"), (3, "# c")]

/-- The second line joins the first; the third is past the line after the first, so it
opens a comment of its own. -/
example :
    mergeComments TagSet.default "a.py" (threePlainLines.map fun (l, t) => (l, tokenText t)) =
      [⟨"a.py", "a\nb", 1, .note, true⟩, ⟨"a.py", "c", 3, .note, false⟩] := by
  decide

theorem mergeComments_runs_threePlainLines :
    (threePlainLines.Pairwise fun a b => a.1 < b.1) ∧
      (∀ t ∈ threePlainLines, '\n' ∉ t.2.toList) ∧
      let toks := threePlainLines.map fun (l, t) => (l, tokenText t)
      mergeComments TagSet.default "a.py" toks =
          (runs TagSet.default toks).map (Run.comment TagSet.default "a.py") ∧
        SplitsInto TagSet.default toks (runs TagSet.default toks) ∧
        (∀ rs, SplitsInto TagSet.default toks rs → rs = runs TagSet.default toks) ∧
        (mergeComments TagSet.default "a.py" toks).flatMap (fun c => c.text.toList.splitOn '\n') =
          toks.map (·.2.toList) ∧
        (mergeComments TagSet.default "a.py" toks).Pairwise fun c d => c.line < d.line := by
  have hlines : threePlainLines.Pairwise fun a b => a.1 < b.1 := by decide
  have hbreaks : ∀ t ∈ threePlainLines, '\n' ∉ t.2.toList := by decide
  exact ⟨hlines, hbreaks, mergeComments_runs TagSet.default "a.py" threePlainLines hlines hbreaks⟩

end CodeNotes.Extract.Python
