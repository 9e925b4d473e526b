import CodeNotes.Proofs.Comment.Classify
set_option autoImplicit false

/-!
# Settled text: trimming and lowercasing are idempotent

A character is *settled* when it lowercases to itself and is no capital sigma, so that
no neighbour changes it.  Every character of a lowercase form is settled: the tables
send each character they cover to one they leave alone (`lowerRuns_settled`, checked
over the tables), `İ` goes to `i` and a combining dot, and the capital sigma to `σ` or
`ς`.  So lowercasing a lowercase form changes nothing (`lowerList_lowerList`).

Lowercasing never makes a character blank, so the lowercase form of a trimmed text is
trimmed (`trimList_lowerList`), and trimming is idempotent (`trimList_trimList`).  Nor does
it make a dot: the table sends nothing beyond ASCII below the lowercase letters
(`lowerRuns_aboveLetters`), so a text that does not start with a dot keeps no leading
dot once lowercased (`dropWhile_dot_lowerList`).
-/

namespace CodeNotes.Text

/-! ## The tables -/

theorem toNat_ofNat_of_valid {m : Nat} (h : m.isValidChar) : (Char.ofNat m).toNat = m := by
  have hvalid : Char.ofNat m = Char.ofNatAux m h := dif_pos h
  rw [hvalid]
  rfl

/-- The binary search finds only a run that covers the value searched for. -/
theorem runAt_go_covers {runs : Array CaseRun} {n : Nat} {r : CaseRun} {lo hi : Nat}
    (h : runAt.go runs n lo hi = some r) :
    r ∈ runs.toList ∧ r.lo ≤ n ∧ n ≤ r.hi ∧ (n - r.lo) % r.step = 0 := by
  fun_induction runAt.go runs n lo hi with
  | case1 => cases h
  | case2 _ _ _ _ _ _ ih => exact ih h
  | case3 _ _ _ _ _ _ _ ih => exact ih h
  | case4 _ _ _ r' hget hlo hhi hstep =>
    cases h
    exact ⟨Array.mem_toList_iff.2 (Array.mem_of_getElem? hget), by omega, by omega,
      by simpa using hstep⟩
  | case5 => cases h
  | case6 => cases h

theorem runAt_covers {runs : Array CaseRun} {n : Nat} {r : CaseRun} (h : runAt runs n = some r) :
    r ∈ runs.toList ∧ r.lo ≤ n ∧ n ≤ r.hi ∧ (n - r.lo) % r.step = 0 :=
  runAt_go_covers h

/-- A scalar value of a settled character that is not blank: valid, neither `İ` nor the
capital sigma, and lowercased to itself (an ASCII character that is no capital letter,
or a character no run covers). -/
def settledCode (m : Nat) : Bool :=
  decide m.isValidChar && m != 0x130 && m != 0x3A3 &&
    (if m < 0x80 then !(0x41 ≤ m && m ≤ 0x5A) else (runAt lowerRuns m).isNone) &&
    !isBlank (Char.ofNat m)

/-- Every character the run covers, beyond ASCII, lowercases to a settled code. -/
def runSettled (r : CaseRun) : Bool :=
  (List.range (r.hi + 1 - r.lo)).all fun k =>
    k % r.step != 0 || r.lo + k < 0x80 || settledCode (Int.toNat ((r.lo + k : Nat) + r.delta))

/-- The lowercase table sends every character it covers to a settled one. -/
theorem lowerRuns_settled : lowerRuns.toList.all runSettled = true := by decide +kernel

/-- The ASCII lowercase letters are settled. -/
theorem asciiLower_settled : (List.range 26).all (fun k => settledCode (0x61 + k)) = true := by
  decide +kernel

/-- `İ` lowercases to `i` and a combining dot, both settled; the capital sigma goes to
settled forms too. -/
theorem specials_settled :
    settledCode 0x69 = true ∧ settledCode 0x307 = true ∧ settledCode 0x3C2 = true ∧
      settledCode 0x3C3 = true := by
  decide +kernel

/-- The capital sigma is covered by the table. -/
theorem runAt_sigma : (runAt lowerRuns 0x3A3).isSome = true := by decide +kernel

theorem toLower_of_not_upper {c : Char} (h : c.toNat < 0x41 ∨ 0x5A < c.toNat) : c.toLower = c := by
  have hval : c.toNat = c.val.toNat := rfl
  unfold Char.toLower
  split
  · rename_i hup
    simp only [UInt32.le_iff_toNat_le, show 'A'.val.toNat = 0x41 from rfl,
      show 'Z'.val.toNat = 0x5A from rfl] at hup
    omega
  · rfl

theorem toNat_toLower_of_upper {c : Char} (h₁ : 0x41 ≤ c.toNat) (h₂ : c.toNat ≤ 0x5A) :
    c.toLower.toNat = c.toNat + 32 := by
  have hval : c.toNat = c.val.toNat := rfl
  unfold Char.toLower
  split
  · simp only [Char.toNat, UInt32.toNat_add, show ('a'.val - 'A'.val).toNat = 32 from rfl]
    omega
  · rename_i hup
    exfalso
    apply hup
    simp only [UInt32.le_iff_toNat_le, show 'A'.val.toNat = 0x41 from rfl,
      show 'Z'.val.toNat = 0x5A from rfl]
    omega

/-- A settled code names a character that lowercases to itself, is no capital sigma
and is not blank. -/
theorem settledCode_spec {m : Nat} (h : settledCode m = true) :
    (Char.ofNat m).toNat = m ∧ lowerChar (Char.ofNat m) = [Char.ofNat m] ∧ m ≠ 0x3A3 ∧
      isBlank (Char.ofNat m) = false := by
  simp only [settledCode, Bool.and_eq_true, decide_eq_true_eq, bne_iff_ne, ne_eq,
    Bool.not_eq_true'] at h
  obtain ⟨⟨⟨⟨hvalid, h130⟩, hsigma⟩, hlower⟩, hblank⟩ := h
  have htoNat := toNat_ofNat_of_valid hvalid
  refine ⟨htoNat, ?_, hsigma, hblank⟩
  unfold lowerChar
  rw [htoNat, if_neg (by simpa using h130)]
  split
  · rename_i hascii
    rw [if_pos hascii] at hlower
    simp only [Bool.not_eq_true', Bool.and_eq_false_iff, decide_eq_false_iff_not,
      Nat.not_le] at hlower
    rw [toLower_of_not_upper (by omega)]
  · rename_i hascii
    rw [if_neg hascii] at hlower
    simp only [Option.isNone_iff_eq_none] at hlower
    rw [hlower]

/-- The character the table sends a covered character to is settled. -/
theorem settledCode_image {n : Nat} {r : CaseRun} (h : runAt lowerRuns n = some r)
    (hn : 0x80 ≤ n) : settledCode (Int.toNat (n + r.delta)) = true := by
  obtain ⟨hmem, hlo, hhi, hstep⟩ := runAt_covers h
  have hrun := List.all_eq_true.1 lowerRuns_settled r hmem
  have hk := List.all_eq_true.1 hrun (n - r.lo) (List.mem_range.2 (by omega))
  rw [Nat.add_sub_cancel' hlo] at hk
  simpa [hstep, Nat.not_lt.2 hn] using hk

/-! ## Settled characters -/

/-- A character that lowercases to itself and is no capital sigma: no neighbour changes
its lowercase form. -/
def Settled (d : Char) : Prop := lowerChar d = [d] ∧ d.toNat ≠ 0x3A3

theorem settled_of_settledCode {m : Nat} (h : settledCode m = true) : Settled (Char.ofNat m) :=
  have ⟨htoNat, hlower, hsigma, _⟩ := settledCode_spec h
  ⟨hlower, by rwa [htoNat]⟩

/-- Lowercasing one character leaves it alone, and then it is settled, or gives
characters of settled codes. -/
theorem lowerChar_cases (c : Char) :
    Settled c ∨ ∀ d ∈ lowerChar c, ∃ m, settledCode m = true ∧ d = Char.ofNat m := by
  unfold Settled lowerChar
  split
  · -- `İ` becomes `i` and a combining dot
    right
    intro d hd
    simp only [List.mem_cons, List.mem_nil_iff, or_false] at hd
    rcases hd with rfl | rfl
    · exact ⟨0x69, specials_settled.1, rfl⟩
    · exact ⟨0x307, specials_settled.2.1, rfl⟩
  · split
    · rename_i hascii
      by_cases hup : 0x41 ≤ c.toNat ∧ c.toNat ≤ 0x5A
      · right
        intro d hd
        rw [List.mem_singleton.1 hd]
        have hk := List.all_eq_true.1 asciiLower_settled (c.toNat - 0x41)
          (List.mem_range.2 (by omega))
        refine ⟨c.toLower.toNat, ?_, (Char.ofNat_toNat _).symm⟩
        rw [toNat_toLower_of_upper hup.1 hup.2]
        rwa [show 0x61 + (c.toNat - 0x41) = c.toNat + 32 by omega] at hk
      · left
        rw [toLower_of_not_upper (by omega)]
        exact ⟨rfl, by omega⟩
    · rename_i hascii
      cases hrun : runAt lowerRuns c.toNat with
      | some r =>
        right
        intro d hd
        simp only [List.mem_singleton] at hd
        rw [hd]
        exact ⟨_, settledCode_image hrun (by omega), rfl⟩
      | none =>
        refine .inl ⟨rfl, fun hsigma => ?_⟩
        have hsome := runAt_sigma
        rw [← hsigma, hrun] at hsome
        simp at hsome

/-- Lowercasing a character in its context: a settled character stays, anything else
gives characters of settled codes. -/
theorem lowerAt_cases (before after : List Char) (c : Char) :
    (Settled c ∧ lowerAt before after c = [c]) ∨
      ∀ d ∈ lowerAt before after c, ∃ m, settledCode m = true ∧ d = Char.ofNat m := by
  unfold lowerAt
  split
  · -- the capital sigma: its form depends on the context, and either form is settled
    right
    intro d hd
    rw [List.mem_singleton] at hd
    split at hd
    · exact ⟨0x3C2, specials_settled.2.2.1, hd⟩
    · exact ⟨0x3C3, specials_settled.2.2.2, hd⟩
  · rcases lowerChar_cases c with hc | hc
    · exact .inl ⟨hc, hc.1⟩
    · exact .inr hc

theorem settled_of_mem_lowerAt {before after : List Char} {c d : Char}
    (hd : d ∈ lowerAt before after c) : Settled d := by
  rcases lowerAt_cases before after c with ⟨hc, h⟩ | h
  · rw [h, List.mem_singleton] at hd
    exact hd ▸ hc
  · obtain ⟨m, hm, rfl⟩ := h d hd
    exact settled_of_settledCode hm

/-- Lowercasing never makes a character blank. -/
theorem isBlank_of_mem_lowerAt {before after : List Char} {c d : Char}
    (hc : isBlank c = false) (hd : d ∈ lowerAt before after c) : isBlank d = false := by
  rcases lowerAt_cases before after c with ⟨-, h⟩ | h
  · rw [h, List.mem_singleton] at hd
    exact hd ▸ hc
  · obtain ⟨m, hm, rfl⟩ := h d hd
    exact (settledCode_spec hm).2.2.2

theorem settled_of_mem_lowerFrom : ∀ {before cs : List Char} {d : Char},
    d ∈ lowerFrom before cs → Settled d
  | _, [], _, hd => absurd hd List.not_mem_nil
  | before, c :: cs, d, hd => by
    rw [lowerFrom_cons, List.mem_append] at hd
    rcases hd with hd | hd
    · exact settled_of_mem_lowerAt hd
    · exact settled_of_mem_lowerFrom hd

/-- Settled characters lowercase to themselves whatever stands before them. -/
theorem lowerFrom_of_settled : ∀ {before cs : List Char}, (∀ d ∈ cs, Settled d) →
    lowerFrom before cs = cs
  | _, [], _ => rfl
  | before, c :: cs, h => by
    have hc : Settled c := h c List.mem_cons_self
    have hat : lowerAt before cs c = [c] := by
      rw [lowerAt, if_neg (by simpa using hc.2), hc.1]
    rw [lowerFrom_cons, hat, lowerFrom_of_settled fun d hd => h d (List.mem_cons_of_mem c hd)]
    rfl

/-- Lowercasing a lowercase form changes nothing. -/
theorem lowerList_lowerList (cs : List Char) : lowerList (lowerList cs) = lowerList cs :=
  lowerFrom_of_settled fun _ hd => settled_of_mem_lowerFrom hd

theorem toLower_toLower (s : String) : toLower (toLower s) = toLower s := by
  simp only [toLower, String.toList_ofList, lowerList_lowerList]

/-! ## Trimming -/

/-- The ends of a character list are not blank. -/
def EndsSolid (cs : List Char) : Prop :=
  (∀ c ∈ cs.head?, isBlank c = false) ∧ ∀ c ∈ cs.getLast?, isBlank c = false

theorem dropBlank_of_head {cs : List Char} (h : ∀ c ∈ cs.head?, isBlank c = false) :
    dropBlank cs = cs := by
  cases cs with
  | nil => rfl
  | cons c cs => exact List.dropWhile_cons_of_neg (by simpa using h)

theorem head?_dropBlank (cs : List Char) : ∀ c ∈ (dropBlank cs).head?, isBlank c = false := by
  intro c hc
  have := List.head?_dropWhile_not isBlank cs
  rw [dropBlank, Option.mem_def] at hc
  rwa [hc] at this

/-- Dropping blanks in front keeps the last character. -/
theorem getLast?_dropBlank {cs : List Char} (h : ∀ c ∈ cs.getLast?, isBlank c = false) :
    ∀ c ∈ (dropBlank cs).getLast?, isBlank c = false := by
  intro c hc
  have hne : dropBlank cs ≠ [] := by
    rintro hnil
    rw [hnil] at hc
    cases hc
  have hsuffix : dropBlank cs <:+ cs := List.dropWhile_suffix isBlank
  rw [List.getLast?_eq_some_getLast hne, Option.mem_def, Option.some.injEq] at hc
  rw [← hc, hsuffix.getLast hne]
  exact h _ (List.getLast?_eq_some_getLast _)

theorem trimList_of_endsSolid {cs : List Char} (h : EndsSolid cs) : trimList cs = cs := by
  rw [trimList, dropBlank_of_head h.1, dropBlank_of_head (by simpa using h.2),
    List.reverse_reverse]

theorem endsSolid_trimList (cs : List Char) : EndsSolid (trimList cs) := by
  constructor
  · rw [trimList, List.head?_reverse]
    refine getLast?_dropBlank ?_
    rw [List.getLast?_reverse]
    exact head?_dropBlank cs
  · rw [trimList, List.getLast?_reverse]
    exact head?_dropBlank _

/-- Trimming only drops characters. -/
theorem mem_of_mem_trimList {cs : List Char} {c : Char} (h : c ∈ trimList cs) : c ∈ cs := by
  rw [trimList, List.mem_reverse] at h
  exact (List.dropWhile_sublist _).subset ((List.mem_reverse.1 ((List.dropWhile_sublist _).subset h)))

theorem trimList_trimList (cs : List Char) : trimList (trimList cs) = trimList cs :=
  trimList_of_endsSolid (endsSolid_trimList cs)

theorem trim_trim (s : String) : trim (trim s) = trim s := by
  simp only [trim, String.toList_ofList, trimList_trimList]

/-- The lowercase form of a list whose ends are not blank has ends that are not blank:
the first and last characters lowercase, in any context, to characters that are not
blank. -/
theorem endsSolid_lowerList {cs : List Char} (h : EndsSolid cs) : EndsSolid (lowerList cs) := by
  constructor
  · cases cs with
    | nil => simp [lowerList, lowerFrom]
    | cons c rest =>
      intro d hd
      rw [lowerList, lowerFrom_cons, List.head?_append, Option.mem_def,
        List.head?_eq_some_head (TagSet.lowerAt_ne_nil _ _ _), Option.some_or,
        Option.some.injEq] at hd
      exact isBlank_of_mem_lowerAt (h.1 c rfl) (hd ▸ List.head_mem _)
  · rcases List.eq_nil_or_concat cs with rfl | ⟨init, c, rfl⟩
    · simp [lowerList, lowerFrom]
    · intro d hd
      obtain ⟨pre, hpre⟩ := lowerFrom_append [] init [c]
      have hc : isBlank c = false := h.2 c (by simp)
      rw [lowerList, List.concat_eq_append, hpre, lowerFrom_cons, lowerFrom, List.append_nil,
        List.getLast?_append,
        Option.mem_def, List.getLast?_eq_some_getLast (TagSet.lowerAt_ne_nil _ _ _),
        Option.some_or, Option.some.injEq] at hd
      exact isBlank_of_mem_lowerAt hc (hd ▸ List.getLast_mem _)

/-- Lowercasing a trimmed text leaves it trimmed. -/
theorem trimList_lowerList_trimList (cs : List Char) :
    trimList (lowerList (trimList cs)) = lowerList (trimList cs) :=
  trimList_of_endsSolid (endsSolid_lowerList (endsSolid_trimList cs))

/-! ## Leading dots -/

/-- Every character a run of the table covers beyond ASCII lowercases to a code of at
least that of `a`: a run that moves down by `d + 1` starts at `0x62 + d` or later. -/
def runAboveLetters (r : CaseRun) : Bool :=
  match r.delta with
  | .ofNat _ => true
  | .negSucc d => Nat.ble (0x62 + d) (Nat.max r.lo 0x80)

/-- The table sends no character beyond ASCII below the lowercase letters. -/
theorem lowerRuns_aboveLetters : lowerRuns.toList.all runAboveLetters = true := by decide

theorem ofNat_ne_dot {m : Nat} (h : 0x61 ≤ m) : Char.ofNat m ≠ '.' := by
  intro hdot
  by_cases hv : m.isValidChar
  · have hm := toNat_ofNat_of_valid hv
    rw [hdot] at hm
    have hd : ('.' : Char).toNat = 0x2E := rfl
    omega
  · -- an invalid code point is read as the null character
    have hnull : Char.ofNat m = '\x00' := dif_neg hv
    exact absurd (hnull.symm.trans hdot) (by decide)

/-- Only a dot lowercases to a dot. -/
theorem dot_not_mem_lowerChar {c : Char} (hc : c ≠ '.') : '.' ∉ lowerChar c := by
  have hd : ('.' : Char).toNat = 0x2E := rfl
  unfold lowerChar
  split
  · decide
  split
  · rename_i hascii
    rw [List.mem_singleton]
    intro hdot
    by_cases hup : 0x41 ≤ c.toNat ∧ c.toNat ≤ 0x5A
    · -- a capital letter goes to a small one
      have hlow := toNat_toLower_of_upper hup.1 hup.2
      rw [← hdot] at hlow
      omega
    · rw [toLower_of_not_upper (by omega)] at hdot
      exact hc hdot.symm
  · rename_i hascii
    split
    · rename_i r hrun
      obtain ⟨hmem, hlo, -, -⟩ := runAt_covers hrun
      have habove := List.all_eq_true.1 lowerRuns_aboveLetters r hmem
      rw [List.mem_singleton]
      refine fun hdot => ofNat_ne_dot ?_ hdot.symm
      -- a run moving down starts high enough that its image stays above the letters
      cases hdelta : r.delta with
      | ofNat k =>
        rw [Int.ofNat_eq_natCast]
        omega
      | negSucc d =>
        simp only [runAboveLetters, hdelta, Nat.ble_eq, Nat.max_def] at habove
        rw [Int.negSucc_eq]
        split at habove <;> omega
    · rw [List.mem_singleton]
      exact fun hdot => hc hdot.symm

theorem dot_not_mem_lowerAt {before after : List Char} {c : Char} (hc : c ≠ '.') :
    '.' ∉ lowerAt before after c := by
  unfold lowerAt
  split
  · rw [List.mem_singleton]
    split
    · exact fun hdot => ofNat_ne_dot (by decide) hdot.symm
    · exact fun hdot => ofNat_ne_dot (by decide) hdot.symm
  · exact dot_not_mem_lowerChar hc

/-- Lowercasing a text that does not start with a dot gives one that does not. -/
theorem dropWhile_dot_lowerList {cs : List Char} (h : cs.head? ≠ some '.') :
    (lowerList cs).dropWhile (· == '.') = lowerList cs := by
  cases cs with
  | nil => rfl
  | cons c rest =>
    have hc : c ≠ '.' := fun hc => h (by simp [hc])
    obtain ⟨d, ds, hds⟩ := List.exists_cons_of_ne_nil (TagSet.lowerAt_ne_nil [] rest c)
    have hd : d ≠ '.' := by
      rintro rfl
      exact dot_not_mem_lowerAt hc (hds ▸ List.mem_cons_self)
    rw [lowerList, lowerFrom_cons, hds, List.cons_append, List.dropWhile_cons_of_neg (by simpa using hd)]

end CodeNotes.Text
