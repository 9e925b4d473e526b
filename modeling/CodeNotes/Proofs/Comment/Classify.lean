import CodeNotes.Comment.TagSet
set_option autoImplicit false

/-!
# Tags inside lowercased text

`classify` lowercases the whole text and looks for each lowercased tag in it.  Lowercasing
is done a character at a time except for the capital sigma, whose form depends on its
neighbours: `ς` at the end of a word, `σ` elsewhere.  So a piece of text keeps its
lowercase form inside a longer text when each capital sigma in it is settled by the
piece itself, with a character that is not case-ignorable on either side of it
(`SigmasEnclosed`), and a text that holds such a piece of a tag's spelling is a `TODO`.

* `lowerList_infix`: the lowercase form of a piece whose sigmas are enclosed stands in
  the lowercase form of every text that holds the piece.
* `classify_eq_todo_iff`: a text is a `TODO` exactly when one of the tags stands in its
  lowercase form; `normalize_mem_tags`: every given tag that is not blank is one of them.
* `classify_todo_of_lower_infix`: main statement.  A text is a `TODO` when it holds a
  piece with enclosed sigmas whose lowercase form is that of a non-blank given tag,
  trimmed.  In particular a text that holds the trimmed tag itself, when that has no
  capital sigma, is a `TODO`.
* `classify_misses_final_sigma`: without the condition it fails: the tag `ΠΡΟΣ` lowercases
  to `προς`, its sigma ending the word, while `ΠΡΟΣΟΧΗ`, which holds it, lowercases to
  `προσοχη`.
-/

namespace CodeNotes

namespace Text

/-- Every capital sigma of `cs` has, inside `cs`, a character that is not case-ignorable
before it and one after it, so whether it ends a word is decided inside `cs`. -/
def SigmasEnclosed (cs : List Char) : Prop :=
  ∀ l c r, cs = l ++ c :: r → c.toNat = 0x3A3 →
    (∃ d ∈ l, isCaseIgnorable d = false) ∧ ∃ d ∈ r, isCaseIgnorable d = false

/-- A text without a capital sigma has nothing to enclose. -/
theorem sigmasEnclosed_of_forall_ne {cs : List Char} (h : ∀ c ∈ cs, c.toNat ≠ 0x3A3) :
    SigmasEnclosed cs := by
  intro l c r hcs hc
  exact absurd hc (h c (hcs ▸ List.mem_append_right l List.mem_cons_self))

/-- Looking ahead past case-ignorable characters stops inside the first part when it
holds a character that is not case-ignorable. -/
theorem casedAhead_append {l : List Char} (r : List Char) (h : ∃ d ∈ l, isCaseIgnorable d = false) :
    casedAhead (l ++ r) = casedAhead l := by
  induction l with
  | nil => simp at h
  | cons c l ih =>
    unfold casedAhead
    cases hc : isCaseIgnorable c with
    | false => simp [hc]
    | true =>
      have hl : ∃ d ∈ l, isCaseIgnorable d = false := by
        obtain ⟨d, hd, hdi⟩ := h
        rcases List.mem_cons.1 hd with rfl | hd
        · rw [hc] at hdi
          cases hdi
        · exact ⟨d, hd, hdi⟩
      have := ih hl
      unfold casedAhead at this
      simpa [List.dropWhile_cons, hc] using this

/-- The lowercase form of one character, with what stands before it (nearest first) and
after it. -/
def lowerAt (before after : List Char) (c : Char) : List Char :=
  if c.toNat == 0x3A3 then [if endsWord before after then Char.ofNat 0x3C2 else Char.ofNat 0x3C3]
  else lowerChar c

theorem lowerFrom_cons (before after : List Char) (c : Char) :
    lowerFrom before (c :: after) = lowerAt before after c ++ lowerFrom (c :: before) after := rfl

/-- A character other than the capital sigma lowercases alone; a sigma whose neighbours
inside the text are not all case-ignorable keeps its form whatever surrounds the text. -/
theorem lowerAt_append {c : Char} {before after : List Char} (ctx zs : List Char)
    (h : c.toNat = 0x3A3 → (∃ d ∈ before, isCaseIgnorable d = false) ∧
      ∃ d ∈ after, isCaseIgnorable d = false) :
    lowerAt (before ++ ctx) (after ++ zs) c = lowerAt before after c := by
  by_cases hc : c.toNat = 0x3A3
  · obtain ⟨hb, ha⟩ := h hc
    simp [lowerAt, endsWord, casedAhead_append ctx hb, casedAhead_append zs ha]
  · simp [lowerAt, hc]

/-- Lowercasing a text whose front is already passed: the rest is lowercased with the
front, read backwards, as what stands before it. -/
theorem lowerFrom_append (before xs ys : List Char) :
    ∃ pre, lowerFrom before (xs ++ ys) = pre ++ lowerFrom (xs.reverse ++ before) ys := by
  induction xs generalizing before with
  | nil => exact ⟨[], rfl⟩
  | cons c xs ih =>
    obtain ⟨pre, hpre⟩ := ih (c :: before)
    refine ⟨lowerAt before (xs ++ ys) c ++ pre, ?_⟩
    rw [List.cons_append, lowerFrom_cons, hpre]
    simp

/-- A piece whose sigmas are enclosed lowercases the same with any text before and after
it.  The induction is on the piece; the characters passed join what stands before. -/
theorem lowerFrom_enclosed (ctx zs : List Char) :
    ∀ (ys before : List Char),
      (∀ l c r, ys = l ++ c :: r → c.toNat = 0x3A3 →
        (∃ d ∈ l.reverse ++ before, isCaseIgnorable d = false) ∧
          ∃ d ∈ r, isCaseIgnorable d = false) →
      lowerFrom (before ++ ctx) (ys ++ zs) =
        lowerFrom before ys ++ lowerFrom (ys.reverse ++ before ++ ctx) zs
  | [], before, _ => by simp [lowerFrom]
  | c :: ys, before, h => by
    have hrest := lowerFrom_enclosed ctx zs ys (c :: before) fun l c' r hys hc' => by
      have := h (c :: l) c' r (by rw [hys, List.cons_append]) hc'
      simpa using this
    have hhead := lowerAt_append ctx zs fun hc => by simpa using h [] c ys rfl hc
    rw [List.cons_append, lowerFrom_cons, lowerFrom_cons, hhead, ← List.cons_append, hrest]
    simp

/-- The lowercase form of a piece with enclosed sigmas stands in the lowercase form of
every text that holds the piece. -/
theorem lowerList_infix {ys xs : List Char} (hin : ys <:+: xs) (hsig : SigmasEnclosed ys) :
    lowerList ys <:+: lowerList xs := by
  obtain ⟨a, b, rfl⟩ := hin
  obtain ⟨pre, hpre⟩ := lowerFrom_append [] a (ys ++ b)
  have hmid := lowerFrom_enclosed a.reverse b ys [] fun l c r hys hc => by
    simpa using hsig l c r hys hc
  rw [List.nil_append, List.append_nil] at hmid
  rw [List.append_nil] at hpre
  refine ⟨pre, lowerFrom (ys.reverse ++ a.reverse) b, ?_⟩
  rw [lowerList, lowerList, List.append_assoc a ys b, hpre, hmid, List.append_assoc]

end Text

/-- Inserting into a sorted list of texts adds the text, unless it is there already. -/
theorem mem_insertSorted {x y : String} :
    ∀ {ys : List String}, y ∈ insertSorted x ys ↔ y = x ∨ y ∈ ys
  | [] => by simp [insertSorted]
  | z :: zs => by
    unfold insertSorted
    split
    · simp
    · split
      · next h => subst h; simp
      · simp only [List.mem_cons, mem_insertSorted]
        exact or_left_comm

namespace TagSet

/-- Sorting and removing duplicates keeps exactly the tags there were. -/
theorem mem_sortDedup {x : String} {xs : List String} : x ∈ sortDedup xs ↔ x ∈ xs := by
  induction xs with
  | nil => simp [sortDedup]
  | cons y ys ih =>
    rw [sortDedup, List.foldr_cons, mem_insertSorted, ← sortDedup, ih, List.mem_cons]

theorem lowerAt_ne_nil (before after : List Char) (c : Char) : Text.lowerAt before after c ≠ [] := by
  unfold Text.lowerAt Text.lowerChar
  split
  · simp
  · split
    · simp
    · split
      · simp
      · split <;> simp

theorem toList_normalize (t : String) :
    (normalize t).toList = Text.lowerList (Text.trim t).toList := by
  simp [normalize, Text.toLower]

/-- A tag that is not blank stays a tag: it is not blank once lowercased, so the defaults
do not replace it, and sorting keeps it. -/
theorem normalize_mem_tags {L : List String} {t : String} (ht : t ∈ L)
    (hblank : Text.trim t ≠ "") : normalize t ∈ (ofList L).tags := by
  have hne : normalize t ≠ "" := by
    intro h
    have hlist := congrArg String.toList h
    rw [toList_normalize] at hlist
    have hchars : (Text.trim t).toList ≠ [] := fun hnil =>
      hblank (String.toList_inj.1 (by rw [hnil, String.toList_empty]))
    obtain ⟨c, cs, hcs⟩ := List.exists_cons_of_ne_nil hchars
    rw [hcs, Text.lowerList, Text.lowerFrom_cons] at hlist
    exact lowerAt_ne_nil _ _ _ (List.append_eq_nil_iff.1 hlist).1
  have hmem : normalize t ∈ (L.map normalize).filter fun s => s ≠ "" :=
    List.mem_filter.2 ⟨List.mem_map_of_mem ht, by simpa using hne⟩
  have hfolded : ((L.map normalize).filter fun s => s ≠ "") ≠ [] := List.ne_nil_of_mem hmem
  simp only [ofList, hfolded, if_false]
  exact mem_sortDedup.2 hmem

/-- A text is a `TODO` exactly when one of the tags stands in its lowercase form. -/
theorem classify_eq_todo_iff (ts : TagSet) (x : String) :
    ts.classify x = .todo ↔ ∃ tag ∈ ts.tags, tag.toList <:+: Text.lowerList x.toList := by
  unfold classify
  dsimp only
  split
  · next h =>
    simp only [List.any_eq_true, Text.occursIn_iff] at h
    exact iff_of_true rfl h
  · next h =>
    simp only [List.any_eq_true, Text.occursIn_iff, not_exists, not_and] at h
    exact iff_of_false (by decide) fun ⟨tag, hm, hi⟩ => h tag hm hi

/-- A text that holds a piece whose sigmas are enclosed, and whose lowercase form is that
of a non-blank given tag, trimmed, is a `TODO`. -/
theorem classify_todo_of_lower_infix (L : List String) (t x : String) (ys : List Char)
    (ht : t ∈ L) (hblank : Text.trim t ≠ "") (hin : ys <:+: x.toList)
    (hsig : Text.SigmasEnclosed ys)
    (hlow : Text.lowerList ys = Text.lowerList (Text.trim t).toList) :
    (ofList L).classify x = .todo := by
  rw [classify_eq_todo_iff]
  refine ⟨normalize t, normalize_mem_tags ht hblank, ?_⟩
  rw [toList_normalize, ← hlow]
  exact Text.lowerList_infix hin hsig

/-- A padded tag found inside a longer word. -/
theorem classify_todo_of_lower_infix_photodo :
    "  todo " ∈ ["  todo "] ∧ Text.trim "  todo " ≠ "" ∧ "todo".toList <:+: "photodo album".toList ∧
      Text.SigmasEnclosed "todo".toList ∧
      Text.lowerList "todo".toList = Text.lowerList (Text.trim "  todo ").toList ∧
      (ofList ["  todo "]).classify "photodo album" = .todo := by
  have hblank : Text.trim "  todo " ≠ "" := by decide
  have hin : "todo".toList <:+: "photodo album".toList := (Text.occursIn_iff _ _).1 (by decide)
  have hsig : Text.SigmasEnclosed "todo".toList := Text.sigmasEnclosed_of_forall_ne (by simp)
  have hlow : Text.lowerList "todo".toList = Text.lowerList (Text.trim "  todo ").toList := by
    decide
  exact ⟨List.mem_singleton_self _, hblank, hin, hsig, hlow,
    classify_todo_of_lower_infix ["  todo "] "  todo " "photodo album" "todo".toList
      (List.mem_singleton_self _) hblank hin hsig hlow⟩

/-- The tag's sigma ends its word, so it lowercases to the final form. -/
example : (ofList ["ΠΡΟΣ"]).tags = ["προς"] := by decide +kernel

/-- A text that holds a trimmed tag can still be a `NOTE`: the sigma of `ΠΡΟΣ` ends the
tag but not the text. -/
theorem classify_misses_final_sigma :
    "ΠΡΟΣ" ∈ ["ΠΡΟΣ"] ∧ (Text.trim "ΠΡΟΣ").toList <:+: "ΠΡΟΣΟΧΗ".toList ∧
      (ofList ["ΠΡΟΣ"]).classify "ΠΡΟΣΟΧΗ" = .note := by
  refine ⟨List.mem_singleton_self _, (Text.occursIn_iff _ _).1 (by decide), by decide +kernel⟩

end TagSet

end CodeNotes
