import CodeNotes.Path.Basic
set_option autoImplicit false

/-!
# Reading paths back

What the component reading of a path makes of the texts the program builds from
components.  A slash between two texts is the boundary of their pieces
(`splitSlash_append_slash`), so joining a relative path onto an absolute one appends its
components (`components_join`), and names joined by `/` read back as themselves
(`bodyComponents_intercalate`).  Lexical normalisation leaves an absolute path as the
root followed by names only (`normalize_absolute`).

From these, `relativeTo` is worked out on the shapes of paths the program hands it: a
root with names joined onto it gives the names back (`relativeTo_foldl_join`), and a
path the root does not lead keeps its root component, written `/`.  Names joined onto a
path one by one are the same text as the names joined by slashes and joined at once
(`foldl_join_names`), so a recorded path leads back to what was recorded.
-/

namespace CodeNotes.Path

/-! ## Splitting at slashes -/

theorem splitSlash_ne_nil (cs : List Char) : splitSlash cs ≠ [] := by
  cases cs with
  | nil => simp [splitSlash]
  | cons c cs =>
    unfold splitSlash
    split
    · simp
    · split <;> simp

theorem splitSlash_cons_of_ne {c : Char} (hc : c ≠ '/') {cs p : List Char} {ps : List (List Char)}
    (h : splitSlash cs = p :: ps) : splitSlash (c :: cs) = (c :: p) :: ps := by
  simp [splitSlash, hc, h]

/-- A slash between two texts is the boundary of their pieces. -/
theorem splitSlash_append_slash (xs ys : List Char) :
    splitSlash (xs ++ '/' :: ys) = splitSlash xs ++ splitSlash ys := by
  induction xs with
  | nil => simp [splitSlash]
  | cons c xs ih =>
    by_cases hc : c = '/'
    · simp [splitSlash, hc, ih]
    · obtain ⟨p, ps, hps⟩ := List.exists_cons_of_ne_nil (splitSlash_ne_nil xs)
      rw [List.cons_append, splitSlash_cons_of_ne hc (ih.trans (by rw [hps]; rfl)),
        splitSlash_cons_of_ne hc hps]
      rfl

/-- A text without a slash is a single piece. -/
theorem splitSlash_of_slash_not_mem {cs : List Char} (h : '/' ∉ cs) : splitSlash cs = [cs] := by
  induction cs with
  | nil => rfl
  | cons c cs ih =>
    have hc : c ≠ '/' := fun hc => h (hc ▸ List.mem_cons_self)
    exact splitSlash_cons_of_ne hc (ih fun hm => h (List.mem_cons_of_mem c hm))

theorem slash_not_mem_of_mem_splitSlash {cs p : List Char} (h : p ∈ splitSlash cs) :
    '/' ∉ p := by
  induction cs generalizing p with
  | nil =>
    simp only [splitSlash, List.mem_singleton] at h
    simp [h]
  | cons c cs ih =>
    by_cases hc : c = '/'
    · simp only [splitSlash, hc, if_true, List.mem_cons] at h
      rcases h with rfl | h
      · simp
      · exact ih h
    · obtain ⟨q, qs, hqs⟩ := List.exists_cons_of_ne_nil (splitSlash_ne_nil cs)
      rw [splitSlash_cons_of_ne hc hqs, List.mem_cons] at h
      rcases h with rfl | h
      · have hq : '/' ∉ q := ih (hqs ▸ List.mem_cons_self)
        simp [hq, Ne.symm hc]
      · exact ih (hqs ▸ List.mem_cons_of_mem q h)

/-! ## Names -/

/-- A component that is a name: a text without a slash that reads back as the same name. -/
def Component.IsName : Component → Prop
  | .normal s => '/' ∉ s.toList ∧ ofPiece s.toList = some (.normal s)
  | _ => False

instance : DecidablePred Component.IsName := fun c =>
  match c with
  | .normal _ => inferInstanceAs (Decidable (_ ∧ _))
  | .root | .current | .parent => isFalse id

theorem Component.IsName.ne_current {c : Component} (h : c.IsName) : c ≠ .current := by
  rintro rfl
  exact h

/-- A piece between slashes stands for `..` or for a name. -/
theorem ofPiece_eq_some {p : List Char} {c : Component} (hp : '/' ∉ p) (h : ofPiece p = some c) :
    c = .parent ∨ c.IsName := by
  unfold ofPiece at h
  split at h
  · cases h
  · rename_i hdot
    split at h
    · exact .inl (Option.some.inj h).symm
    · rename_i hdots
      cases h
      refine .inr ⟨by simpa using hp, ?_⟩
      simp only [ofPiece, String.toList_ofList]
      rw [if_neg hdot, if_neg hdots]

theorem mem_bodyComponents {cs : List Char} {c : Component} (h : c ∈ bodyComponents cs) :
    c = .parent ∨ c.IsName := by
  obtain ⟨p, hp, hc⟩ := List.mem_filterMap.1 h
  exact ofPiece_eq_some (slash_not_mem_of_mem_splitSlash hp) hc

theorem bodyComponents_append_slash (xs ys : List Char) :
    bodyComponents (xs ++ '/' :: ys) = bodyComponents xs ++ bodyComponents ys := by
  simp [bodyComponents, splitSlash_append_slash]

theorem bodyComponents_name {c : Component} (h : c.IsName) :
    bodyComponents c.text.toList = [c] := by
  cases c with
  | normal s =>
    obtain ⟨hs, hp⟩ := h
    simp [bodyComponents, Component.text, splitSlash_of_slash_not_mem hs, hp]
  | root | current | parent => exact h.elim

/-- Names joined by slashes read back as the names. -/
theorem bodyComponents_intercalate {cs : List Component} (h : ∀ c ∈ cs, c.IsName) :
    bodyComponents ("/".intercalate (cs.map Component.text)).toList = cs := by
  induction cs with
  | nil => rfl
  | cons c cs ih =>
    have hc : c.IsName := h c List.mem_cons_self
    have ih := ih fun d hd => h d (List.mem_cons_of_mem c hd)
    cases cs with
    | nil => simpa using bodyComponents_name hc
    | cons d ds =>
      have htext : ("/".intercalate ((c :: d :: ds).map Component.text)).toList =
          c.text.toList ++ '/' :: ("/".intercalate ((d :: ds).map Component.text)).toList := by
        simp only [List.map_cons, String.intercalate_cons_cons, String.toList_append]
        simp
      rw [htext, bodyComponents_append_slash, bodyComponents_name hc, ih]
      rfl

/-! ## Absolute paths and joins -/

theorem isAbsolute_iff {p : String} : isAbsolute p = true ↔ ∃ r, p.toList = '/' :: r := by
  unfold isAbsolute
  rw [String.startsWith_string_iff]
  exact ⟨fun ⟨r, hr⟩ => ⟨r, hr.symm⟩, fun ⟨r, hr⟩ => ⟨r, hr.symm⟩⟩

theorem components_of_toList {p : String} {r : List Char} (h : p.toList = '/' :: r) :
    components p = .root :: bodyComponents r := by
  unfold components
  rw [h]
  rfl

theorem isAbsolute_join {base : String} (hb : isAbsolute base = true) (tail : String) :
    isAbsolute (join base tail) = true := by
  obtain ⟨r, hr⟩ := isAbsolute_iff.1 hb
  unfold join
  split
  · assumption
  · split
    · exact isAbsolute_iff.2 ⟨r ++ tail.toList, by simp [hr]⟩
    · exact isAbsolute_iff.2 ⟨r ++ '/' :: tail.toList, by simp [hr]⟩

/-- A text of names joined by slashes does not start at the root. -/
theorem isAbsolute_intercalate {cs : List Component} (h : ∀ c ∈ cs, c.IsName) :
    isAbsolute ("/".intercalate (cs.map Component.text)) = false := by
  cases cs with
  | nil => rfl
  | cons c cs =>
    obtain ⟨rest, hrest⟩ : ∃ rest,
        ("/".intercalate ((c :: cs).map Component.text)).toList = c.text.toList ++ rest := by
      cases cs with
      | nil => exact ⟨[], by simp⟩
      | cons d ds =>
        refine ⟨'/' :: ("/".intercalate ((d :: ds).map Component.text)).toList, ?_⟩
        simp
    have hc : c.IsName := h c List.mem_cons_self
    cases c with
    | normal s =>
      obtain ⟨hs, hp⟩ := hc
      have hne : s.toList ≠ [] := by
        intro h0
        simp [h0, ofPiece] at hp
      obtain ⟨x, xs, hx⟩ := List.exists_cons_of_ne_nil hne
      rw [Bool.eq_false_iff]
      intro habs
      obtain ⟨r, hr⟩ := isAbsolute_iff.1 habs
      rw [hrest] at hr
      simp only [Component.text, hx, List.cons_append, List.cons.injEq] at hr
      exact hs (hx ▸ hr.1 ▸ List.mem_cons_self)
    | root | current | parent => exact hc.elim

/-- A text ending in a slash reads as the text before that slash. -/
theorem bodyComponents_append_slash_nil (xs : List Char) :
    bodyComponents (xs ++ ['/']) = bodyComponents xs := by
  simpa [bodyComponents, splitSlash, ofPiece] using bodyComponents_append_slash xs []

/-- An absolute text that `join` treats as ending in a slash is the root itself or ends
in an empty piece. -/
theorem eq_nil_or_slash_of_endsWith {base : String} {r : List Char} (hr : base.toList = '/' :: r)
    (hend : (base.isEmpty || base.endsWith "/") = true) : r = [] ∨ ∃ r', r = r' ++ ['/'] := by
  have hne : base.isEmpty = false := by
    rw [Bool.eq_false_iff]
    intro he
    simp [String.isEmpty_iff.1 he] at hr
  rw [hne, Bool.false_or, String.endsWith_eq_endsWith_toSlice,
    String.Slice.endsWith_string_iff, String.copy_toSlice] at hend
  obtain ⟨t, ht⟩ := hend
  rcases List.eq_nil_or_concat r with h0 | ⟨r', y, hy⟩
  · exact .inl h0
  · rw [List.concat_eq_append] at hy
    subst hy
    have hsplit : t ++ ['/'] = ('/' :: r') ++ [y] := ht.trans hr
    obtain ⟨-, hy⟩ := List.append_inj' hsplit rfl
    exact .inr ⟨r', by simpa using hy.symm⟩

/-- Joining a relative path onto an absolute one appends its named steps. -/
theorem components_join {base tail : String} (hb : isAbsolute base = true)
    (ht : isAbsolute tail = false) :
    components (join base tail) = components base ++ bodyComponents tail.toList := by
  obtain ⟨r, hr⟩ := isAbsolute_iff.1 hb
  unfold join
  rw [if_neg (by simp [ht])]
  split
  · -- no slash is added: the base is the root, or its own last slash separates the tail
    rename_i hend
    rcases eq_nil_or_slash_of_endsWith hr hend with rfl | ⟨r', rfl⟩
    · rw [components_of_toList (r := tail.toList) (by simp [hr]), components_of_toList hr]
      rfl
    · rw [components_of_toList (r := r' ++ '/' :: tail.toList) (by simp [hr]),
        components_of_toList hr, bodyComponents_append_slash, bodyComponents_append_slash_nil]
      rfl
  · rw [components_of_toList (r := r ++ '/' :: tail.toList) (by simp [hr]),
      components_of_toList hr, bodyComponents_append_slash]
    rfl

/-! ## Stripping a leading path -/

theorem dropPrefix_eq_some_iff :
    ∀ {bs xs rest : List Component}, dropPrefix bs xs = some rest ↔ xs = bs ++ rest
  | [], xs, rest => by
    show some xs = some rest ↔ xs = rest
    exact Option.some_inj
  | b :: bs, [], rest => by
    show (none : Option (List Component)) = some rest ↔ [] = b :: (bs ++ rest)
    simp
  | b :: bs, x :: xs, rest => by
    show (if b = x then dropPrefix bs xs else none) = some rest ↔ x :: xs = b :: (bs ++ rest)
    by_cases hb : b = x
    · subst hb
      rw [if_pos rfl, dropPrefix_eq_some_iff]
      simp
    · rw [if_neg hb]
      simp [Ne.symm hb]

theorem dropPrefix_eq_none_iff {bs xs : List Component} :
    dropPrefix bs xs = none ↔ ¬ bs <+: xs := by
  constructor
  · rintro h ⟨rest, hrest⟩
    rw [dropPrefix_eq_some_iff.2 hrest.symm] at h
    cases h
  · intro h
    cases hd : dropPrefix bs xs with
    | none => rfl
    | some rest => exact absurd ⟨rest, (dropPrefix_eq_some_iff.1 hd).symm⟩ h

/-! ## Lexical normalisation -/

/-- One step of `normalize`: `.` is dropped, `..` removes a last name, anything else is
appended. -/
def normalizeStep (out : List Component) : Component → List Component
  | .current => out
  | .parent =>
    match out.getLast? with
    | some (.normal _) => out.dropLast
    | _ => out
  | c => out ++ [c]

theorem normalize_eq_foldl (cs : List Component) : normalize cs = cs.foldl normalizeStep [] := rfl

/-- After the root, reading `.`, `..` or a name leaves the root followed by names. -/
theorem normalizeStep_root {ns : List Component} (hns : ∀ n ∈ ns, n.IsName) {c : Component}
    (hc : c = .current ∨ c = .parent ∨ c.IsName) :
    ∃ ns', normalizeStep (.root :: ns) c = .root :: ns' ∧ ∀ n ∈ ns', n.IsName := by
  rcases hc with rfl | rfl | hc
  · exact ⟨ns, rfl, hns⟩
  · rcases List.eq_nil_or_concat ns with rfl | ⟨init, last, hlast⟩
    · exact ⟨[], rfl, by simp⟩
    · -- the last name is a `.normal` component, so `..` removes it
      rw [List.concat_eq_append] at hlast
      subst hlast
      have hname : last.IsName := hns last (by simp)
      obtain ⟨s, rfl⟩ : ∃ s, last = .normal s := by
        cases last with
        | normal s => exact ⟨s, rfl⟩
        | root | current | parent => exact hname.elim
      have hget : (Component.root :: (init ++ [.normal s])).getLast? = some (.normal s) := by
        rw [← List.cons_append, List.getLast?_append]
        simp
      refine ⟨init, ?_, fun n hn => hns n (by simp [hn])⟩
      simp only [normalizeStep, hget]
      rw [← List.cons_append, List.dropLast_concat]
  · cases c with
    | normal s =>
      refine ⟨ns ++ [.normal s], rfl, ?_⟩
      intro n hn
      rcases List.mem_append.1 hn with hn | hn
      · exact hns n hn
      · exact (List.mem_singleton.1 hn) ▸ hc
    | root | current | parent => exact hc.elim

theorem foldl_normalizeStep_root {cs : List Component}
    (hcs : ∀ c ∈ cs, c = .current ∨ c = .parent ∨ c.IsName) {ns : List Component}
    (hns : ∀ n ∈ ns, n.IsName) :
    ∃ ns', cs.foldl normalizeStep (.root :: ns) = .root :: ns' ∧ ∀ n ∈ ns', n.IsName := by
  induction cs generalizing ns with
  | nil => exact ⟨ns, rfl, hns⟩
  | cons c cs ih =>
    obtain ⟨ns₁, h₁, hns₁⟩ := normalizeStep_root hns (hcs c List.mem_cons_self)
    rw [List.foldl_cons, h₁]
    exact ih (fun d hd => hcs d (List.mem_cons_of_mem c hd)) hns₁

/-- An absolute path normalises to the root followed by names. -/
theorem normalize_absolute {p : String} (hp : isAbsolute p = true) :
    ∃ ns, normalize (components p) = .root :: ns ∧ ∀ n ∈ ns, n.IsName := by
  obtain ⟨r, hr⟩ := isAbsolute_iff.1 hp
  have hbody : ∀ c ∈ bodyComponents r, c = .current ∨ c = .parent ∨ c.IsName :=
    fun c hc => .inr (mem_bodyComponents hc)
  rw [components_of_toList hr, normalize_eq_foldl, List.foldl_cons]
  exact foldl_normalizeStep_root hbody (by simp)

/-! ## Root-relative forms -/

theorem filter_ne_current {cs : List Component} (hcs : ∀ c ∈ cs, c.IsName) :
    cs.filter (· ≠ .current) = cs :=
  List.filter_eq_self.2 fun c hc => by simpa using (hcs c hc).ne_current

theorem isAbsolute_name {s : String} (h : (Component.normal s).IsName) : isAbsolute s = false := by
  simpa [Component.text] using @isAbsolute_intercalate [.normal s] (by simpa using h)

/-- A relative path of names, joined onto the root, is recorded as itself. -/
theorem relativeTo_join_names {root : String} (hroot : isAbsolute root = true)
    {cs : List Component} (hcs : ∀ c ∈ cs, c.IsName) :
    relativeTo root (join root ("/".intercalate (cs.map Component.text))) =
      "/".intercalate (cs.map Component.text) := by
  simp only [relativeTo]
  rw [components_join hroot (isAbsolute_intercalate hcs), bodyComponents_intercalate hcs,
    dropPrefix_eq_some_iff.2 rfl, Option.getD_some, filter_ne_current hcs]

theorem isAbsolute_render (ns : List Component) : isAbsolute (render (.root :: ns)) = true :=
  isAbsolute_iff.2 ⟨("/".intercalate (ns.map Component.text)).toList, by simp [render]⟩

theorem components_render {ns : List Component} (hns : ∀ n ∈ ns, n.IsName) :
    components (render (.root :: ns)) = .root :: ns := by
  have htext : (render (.root :: ns)).toList =
      '/' :: ("/".intercalate (ns.map Component.text)).toList := by
    simp [render]
  rw [components_of_toList htext, bodyComponents_intercalate hns]

/-- A path the root does not lead is kept whole, its root component written `/`: an
absolute path below the filesystem root gains a second leading slash. -/
theorem relativeTo_render {root : String} {ns : List Component} (hns : ∀ n ∈ ns, n.IsName)
    (hout : ¬ components root <+: .root :: ns) (hne : ns ≠ []) :
    relativeTo root (render (.root :: ns)) = "/" ++ render (.root :: ns) := by
  obtain ⟨c, cs, rfl⟩ := List.exists_cons_of_ne_nil hne
  simp only [relativeTo]
  rw [components_render hns, dropPrefix_eq_none_iff.2 hout, Option.getD_none,
    List.filter_cons_of_pos (by simp), filter_ne_current hns, List.map_cons,
    List.map_cons, String.intercalate_cons_cons, String.append_assoc]
  rfl

/-! ## Names joined onto any path -/

/-- A text that starts neither at the root nor with a leading `.` step reads as its
named steps. -/
theorem componentsOf_of_plain_start {c : Char} {r : List Char} (hc : c ≠ '/')
    (hdot : c = '.' → r ≠ [] ∧ r.head? ≠ some '/') :
    componentsOf (c :: r) = bodyComponents (c :: r) := by
  unfold componentsOf
  split
  · rename_i heq
    simp only [List.cons.injEq] at heq
    exact absurd heq.1 hc
  · rename_i heq
    simp only [List.cons.injEq] at heq
    exact absurd heq.2 (hdot heq.1).1
  · rename_i rest heq
    simp only [List.cons.injEq] at heq
    exact absurd (by simp [heq.2]) (hdot heq.1).2
  · rfl

/-- A slash after a text that is not empty ends that text's components. -/
theorem componentsOf_append_slash {xs : List Char} (hxs : xs ≠ []) (ys : List Char) :
    componentsOf (xs ++ '/' :: ys) = componentsOf xs ++ bodyComponents ys := by
  obtain ⟨c, r, rfl⟩ := List.exists_cons_of_ne_nil hxs
  by_cases hc : c = '/'
  · subst hc
    simp [componentsOf, bodyComponents_append_slash]
  -- a leading `.` is the current directory only alone or before a slash
  by_cases hd : c = '.' ∧ (r = [] ∨ r.head? = some '/')
  · obtain ⟨rfl, rfl | hr⟩ := hd
    · rfl
    · obtain ⟨r', rfl⟩ : ∃ r', r = '/' :: r' := by
        cases r with
        | nil => cases hr
        | cons d r' => exact ⟨r', by simpa using hr⟩
      simp [componentsOf, bodyComponents_append_slash]
  · have hplain : c = '.' → r ≠ [] ∧ r.head? ≠ some '/' := fun h => by
      simp only [h, true_and, not_or] at hd
      exact hd
    rw [List.cons_append, componentsOf_of_plain_start hc, componentsOf_of_plain_start hc hplain,
      ← List.cons_append, bodyComponents_append_slash]
    intro h
    obtain ⟨hne, hhead⟩ := hplain h
    obtain ⟨d, r', rfl⟩ := List.exists_cons_of_ne_nil hne
    exact ⟨by simp, by simpa using hhead⟩

/-- A name reads as itself. -/
theorem components_name {n : String} (hn : (Component.normal n).IsName) :
    components n = [.normal n] := by
  obtain ⟨hslash, hpiece⟩ := hn
  have hne : n.toList ≠ [] := by
    intro h0
    simp [h0, ofPiece] at hpiece
  obtain ⟨c, r, hcr⟩ := List.exists_cons_of_ne_nil hne
  have hc : c ≠ '/' := fun h => hslash (by simp [hcr, h])
  -- a name is not `.`, and has no slash after a leading dot
  have hdot : c = '.' → r ≠ [] ∧ r.head? ≠ some '/' := by
    rintro rfl
    refine ⟨fun h0 => ?_, fun hh => hslash ?_⟩
    · simp [hcr, h0, ofPiece] at hpiece
    · cases r with
      | nil => cases hh
      | cons d r' =>
        simp only [List.head?_cons, Option.some.injEq] at hh
        simp [hcr, hh]
  unfold components
  rw [hcr, componentsOf_of_plain_start hc hdot, ← hcr]
  exact bodyComponents_name (c := .normal n) ⟨hslash, hpiece⟩

/-- Joining a name onto any path appends it as the last component. -/
theorem components_join_name (base : String) {n : String} (hn : (Component.normal n).IsName) :
    components (join base n) = components base ++ [.normal n] := by
  have hbody : bodyComponents n.toList = [.normal n] := bodyComponents_name (c := .normal n) hn
  have hslash : "/".toList = ['/'] := rfl
  unfold join
  rw [if_neg (by simp [isAbsolute_name hn])]
  split
  · rename_i hend
    by_cases hempty : base.isEmpty = true
    · rw [String.isEmpty_iff.1 hempty, String.empty_append, components_name hn]
      rfl
    · -- the base ends in a slash, which now separates the name
      rw [Bool.eq_false_iff.2 hempty, Bool.false_or, String.endsWith_eq_endsWith_toSlice,
        String.Slice.endsWith_string_iff, String.copy_toSlice] at hend
      obtain ⟨xs, hxs⟩ := hend
      unfold components
      rw [String.toList_append, ← hxs, hslash, List.append_assoc, List.singleton_append]
      by_cases hx : xs = []
      · subst hx
        rw [List.nil_append, List.nil_append,
          show componentsOf ('/' :: n.toList) = .root :: bodyComponents n.toList from rfl, hbody]
        rfl
      · rw [componentsOf_append_slash hx, componentsOf_append_slash hx, hbody,
          show bodyComponents [] = [] from rfl, List.append_nil]
  · rename_i hend
    have hne : base.toList ≠ [] := by
      intro h0
      simp [String.toList_eq_nil_iff.1 h0] at hend
    unfold components
    rw [String.toList_append, String.toList_append, hslash, List.append_assoc, List.singleton_append,
      componentsOf_append_slash hne, hbody]

/-- Names joined one by one onto any path append their components. -/
theorem components_foldl_join_names (base : String) {ns : List String}
    (hns : ∀ n ∈ ns, (Component.normal n).IsName) :
    components (ns.foldl join base) = components base ++ ns.map .normal := by
  induction ns generalizing base with
  | nil => simp
  | cons n ns ih =>
    rw [List.foldl_cons, ih _ fun m hm => hns m (List.mem_cons_of_mem n hm),
      components_join_name base (hns n List.mem_cons_self)]
    simp

/-- A file a walk reaches by names below the root is recorded as those names. -/
theorem relativeTo_foldl_join (root : String) {ns : List String}
    (hns : ∀ n ∈ ns, (Component.normal n).IsName) :
    relativeTo root (ns.foldl join root) = "/".intercalate ns := by
  have hnames : ∀ c ∈ ns.map Component.normal, c.IsName := by simpa using hns
  simp only [relativeTo]
  rw [components_foldl_join_names root hns, dropPrefix_eq_some_iff.2 rfl, Option.getD_some,
    filter_ne_current hnames]
  simp [Function.comp_def, Component.text]

theorem bodyComponents_intercalate_names {ns : List String}
    (hns : ∀ n ∈ ns, (Component.normal n).IsName) :
    bodyComponents ("/".intercalate ns).toList = ns.map .normal := by
  simpa [Function.comp_def, Component.text] using
    @bodyComponents_intercalate (ns.map .normal) (by simpa using hns)

theorem isAbsolute_intercalate_names {ns : List String}
    (hns : ∀ n ∈ ns, (Component.normal n).IsName) : isAbsolute ("/".intercalate ns) = false := by
  simpa [Function.comp_def, Component.text] using
    @isAbsolute_intercalate (ns.map .normal) (by simpa using hns)

/-- Names joined by slashes are told apart by their text. -/
theorem intercalate_names_inj {ns ms : List String} (hns : ∀ n ∈ ns, (Component.normal n).IsName)
    (hms : ∀ m ∈ ms, (Component.normal m).IsName) (h : "/".intercalate ns = "/".intercalate ms) :
    ns = ms := by
  have hmap : ns.map Component.normal = ms.map Component.normal := by
    rw [← bodyComponents_intercalate_names hns, ← bodyComponents_intercalate_names hms, h]
  exact (List.map_inj_right fun _ _ h => Component.normal.inj h).1 hmap

theorem isAbsolute_name_append {n : String} (hn : (Component.normal n).IsName) (s : String) :
    isAbsolute (n ++ s) = false := by
  obtain ⟨hslash, hpiece⟩ := hn
  rw [Bool.eq_false_iff]
  intro habs
  obtain ⟨r, hr⟩ := isAbsolute_iff.1 habs
  cases hcs : n.toList with
  | nil => simp [hcs, ofPiece] at hpiece
  | cons c cs =>
    rw [String.toList_append, hcs, List.cons_append, List.cons.injEq] at hr
    exact hslash (hcs ▸ hr.1 ▸ List.mem_cons_self)

/-- A text that ends in a name does not end in a slash. -/
theorem endsWith_append_name (b : String) {n : String} (hn : (Component.normal n).IsName) :
    (b ++ n).endsWith "/" = false := by
  obtain ⟨hslash, hpiece⟩ := hn
  rw [Bool.eq_false_iff]
  intro hend
  rw [String.endsWith_eq_endsWith_toSlice, String.Slice.endsWith_string_iff,
    String.copy_toSlice] at hend
  obtain ⟨xs, hxs⟩ := hend
  rcases List.eq_nil_or_concat n.toList with h0 | ⟨ys, c, hc⟩
  · simp [h0, ofPiece] at hpiece
  · rw [List.concat_eq_append] at hc
    rw [String.toList_append, hc, ← List.append_assoc] at hxs
    obtain ⟨-, hlast⟩ := List.append_inj' hxs rfl
    exact hslash (hc ▸ List.mem_append_right ys (by simpa using hlast))

/-- Joining a name and then a relative path joins the two at once. -/
theorem join_join_name (b : String) {n : String} (hn : (Component.normal n).IsName) {s : String}
    (hs : isAbsolute s = false) : join (join b n) s = join b (n ++ "/" ++ s) := by
  have habs : isAbsolute (n ++ "/" ++ s) = false := by
    rw [String.append_assoc]
    exact isAbsolute_name_append hn _
  -- both joins put the same text before the name
  obtain ⟨b', h1, h2⟩ : ∃ b', join b n = b' ++ n ∧ join b (n ++ "/" ++ s) = b' ++ (n ++ "/" ++ s) := by
    unfold join
    simp only [isAbsolute_name hn, habs, Bool.false_eq_true, if_false]
    split
    · exact ⟨b, rfl, rfl⟩
    · exact ⟨b ++ "/", rfl, by simp only [String.append_assoc]⟩
  have hne : (b' ++ n).isEmpty = false := by
    rw [Bool.eq_false_iff]
    intro he
    have h0 : b'.toList ++ n.toList = [] := by
      rw [← String.toList_append, String.isEmpty_iff.1 he]
      rfl
    have hpiece := hn.2
    rw [(List.append_eq_nil_iff.1 h0).2] at hpiece
    simp [ofPiece] at hpiece
  rw [h1, h2]
  unfold join
  simp only [hs, hne, endsWith_append_name b' hn, Bool.or_false, Bool.false_eq_true, if_false,
    String.append_assoc]

/-- Names joined one by one onto a path are their text, joined at once. -/
theorem foldl_join_names (b : String) {ns : List String} (hne : ns ≠ [])
    (hns : ∀ n ∈ ns, (Component.normal n).IsName) :
    ns.foldl join b = join b ("/".intercalate ns) := by
  induction ns generalizing b with
  | nil => exact absurd rfl hne
  | cons n ns ih =>
    have hn : (Component.normal n).IsName := hns n List.mem_cons_self
    by_cases h0 : ns = []
    · subst h0
      simp
    · have hrest : ∀ m ∈ ns, (Component.normal m).IsName := fun m hm =>
        hns m (List.mem_cons_of_mem n hm)
      rw [List.foldl_cons, ih (join b n) h0 hrest, join_join_name b hn (isAbsolute_intercalate_names hrest),
        String.intercalate_cons_of_ne_nil h0]

end CodeNotes.Path
