import CodeNotes.Reconcile.Basic
import CodeNotes.Proofs.Store.NoteMap
import Mathlib.Data.List.TakeDrop
set_option autoImplicit false

/-!
# Location keys and the wanted comments

A location's key `path:line` names it exactly (`Location.key_injective`): the line is
the run of digits after the last colon, so reading a key back at that colon recovers the
location (`Location.ofKey?_key`, `locationKey_determines`).  Two consequences drive reconciliation:

* the comments of one key all come from one file, so the first comment of a key is
  decided by the order of that file's comments alone (`find?_key_of_filter`);
* `wanted` lists, strictly in key order, each in-scope key with its first in-scope
  comment (`mem_wanted`, `keySorted_wanted`), and is determined by those entries
  (`wanted_congr`).

`byKey` of notes at distinct locations is the plain keyed list of the notes
(`byKey_eq_map`).
-/

namespace CodeNotes

/-- Splitting a list at a separator that neither right-hand part holds is unique. -/
theorem append_cons_eq_of_not_mem {α : Type} {c : α} :
    ∀ {xs xs' ys ys' : List α}, c ∉ ys → c ∉ ys' → xs ++ c :: ys = xs' ++ c :: ys' →
      xs = xs' ∧ ys = ys'
  | [], [], _, _, _, _, h => ⟨rfl, by simpa using h⟩
  | [], x' :: xs', _, _, hy, _, h => by
    simp only [List.nil_append, List.cons_append, List.cons.injEq] at h
    exact absurd (h.2 ▸ List.mem_append_right xs' List.mem_cons_self) hy
  | x :: xs, [], _, _, _, hy', h => by
    simp only [List.nil_append, List.cons_append, List.cons.injEq] at h
    exact absurd (h.2 ▸ List.mem_append_right xs List.mem_cons_self) hy'
  | x :: xs, x' :: xs', _, _, hy, hy', h => by
    simp only [List.cons_append, List.cons.injEq] at h
    obtain ⟨hx, hrest⟩ := append_cons_eq_of_not_mem hy hy' h.2
    exact ⟨by rw [h.1, hx], hrest⟩

theorem colon_not_mem_toDigits (n : Nat) : ':' ∉ Nat.toDigits 10 n := fun h => by
  have := Nat.isDigit_of_mem_toDigits (by decide) (by decide) h
  exact absurd this (by decide)

namespace Location

theorem toList_key (l : Location) :
    l.key.toList = l.filepath.toList ++ ':' :: Nat.toDigits 10 l.line := by
  simp [key, Nat.toString_eq_repr, Nat.repr_eq_ofList_toDigits]

/-- Two locations with the same key are equal: the line is the run of digits after the
last colon, and the path is what comes before it. -/
theorem key_injective : Function.Injective key := by
  intro a b h
  have hlist := congrArg String.toList h
  rw [toList_key, toList_key] at hlist
  obtain ⟨hpath, hdigits⟩ := append_cons_eq_of_not_mem (colon_not_mem_toDigits a.line)
    (colon_not_mem_toDigits b.line) hlist
  have hline : a.line = b.line := by
    rw [← Nat.ofDigitChars_ten_toDigits (n := a.line), hdigits, Nat.ofDigitChars_ten_toDigits]
  cases a
  cases b
  simp only [mk.injEq]
  exact ⟨String.toList_inj.1 hpath, hline⟩

theorem key_eq_iff {a b : Location} : a.key = b.key ↔ a = b :=
  ⟨fun h => key_injective h, congrArg key⟩

/-- Reads a location back from its key: the text after the last colon is the line when it
is a nonempty run of decimal digits, and the text before that colon is the path. -/
def ofKey? (k : String) : Option Location :=
  match k.toList.reverse.span (· ≠ ':') with
  | (_, []) => none
  | (digits, _ :: path) =>
    if digits ≠ [] ∧ digits.all Char.isDigit then
      some ⟨String.ofList path.reverse, Nat.ofDigitChars 10 digits.reverse 0⟩
    else none

/-- The last colon of a key is the one before the line. -/
theorem span_reverse_toList_key (l : Location) :
    l.key.toList.reverse.span (· ≠ ':') =
      ((Nat.toDigits 10 l.line).reverse, ':' :: l.filepath.toList.reverse) := by
  have hdigits : ∀ c ∈ (Nat.toDigits 10 l.line).reverse, decide (c ≠ ':') = true := by
    intro c hc
    have hc' : c ∈ Nat.toDigits 10 l.line := List.mem_reverse.1 hc
    simp only [ne_eq, decide_eq_true_eq]
    rintro rfl
    exact colon_not_mem_toDigits l.line hc'
  rw [toList_key, List.reverse_append, List.reverse_cons, List.append_assoc,
    List.singleton_append, List.span_eq_takeWhile_dropWhile,
    List.takeWhile_append_of_pos hdigits, List.dropWhile_append_of_pos hdigits]
  simp

theorem ofKey?_key (l : Location) : ofKey? l.key = some l := by
  have hne : (Nat.toDigits 10 l.line).reverse ≠ [] := by simp [Nat.toDigits_ne_nil]
  have hall : (Nat.toDigits 10 l.line).reverse.all Char.isDigit = true := by
    simpa using fun c hc => Nat.isDigit_of_mem_toDigits (by decide) (by decide) hc
  rw [ofKey?, span_reverse_toList_key]
  simp only [hne, hall, ne_eq, not_false_eq_true, and_self, if_true, List.reverse_reverse,
    String.ofList_toList, Nat.ofDigitChars_ten_toDigits]

example : ofKey? "a:1:2" = some ⟨"a:1", 2⟩ := by decide

end Location

/-- A key names one location, and reading the key back recovers it: equal keys have equal
paths and lines, also where a path holds a colon and digits of its own. -/
theorem locationKey_determines (f₁ f₂ : String) (l₁ l₂ : Nat) :
    (locationKey f₁ l₁ = locationKey f₂ l₂ ↔ f₁ = f₂ ∧ l₁ = l₂) ∧
      Location.ofKey? (locationKey f₁ l₁) = some ⟨f₁, l₁⟩ := by
  have hread : ∀ f l, Location.ofKey? (locationKey f l) = some ⟨f, l⟩ :=
    fun f l => Location.ofKey?_key ⟨f, l⟩
  refine ⟨⟨fun h => ?_, ?_⟩, hread f₁ l₁⟩
  · -- reading the common key back gives both locations
    have hboth := (hread f₁ l₁).symm.trans (h ▸ hread f₂ l₂)
    simpa using hboth
  · rintro ⟨rfl, rfl⟩
    rfl

namespace Reconcile

open Store

/-! ## Comments of one key -/

/-- The first comment with a key, looked up among the comments of any file that holds
every comment of that key. -/
theorem find?_key_filter_path (k f : String) :
    ∀ (cs : List Comment), (∀ c ∈ cs, c.key = k → c.filepath = f) →
      (cs.filter (·.filepath == f)).find? (·.key == k) = cs.find? (·.key == k)
  | [], _ => rfl
  | c :: cs, hf => by
    have ih := find?_key_filter_path k f cs fun c' hc' => hf c' (List.mem_cons_of_mem c hc')
    by_cases hk : c.key = k
    · have hcf : c.filepath = f := hf c List.mem_cons_self hk
      simp [hcf, hk]
    · by_cases hcf : c.filepath = f
      · simp [hcf, hk, ih]
      · simp [hcf, hk, ih]

/-- Two lists of comments that agree file by file have the same first comment at every
key. -/
theorem find?_key_of_filter {cs ds : List Comment}
    (h : ∀ f, ds.filter (·.filepath == f) = cs.filter (·.filepath == f)) (k : String) :
    ds.find? (·.key == k) = cs.find? (·.key == k) := by
  -- every comment of key `k` stands in the file of the first such comment found
  have hsame : ∀ {c c' : Comment}, c.key = k → c'.key = k → c'.filepath = c.filepath :=
    fun {c c'} hc hc' => by
      have := Location.key_injective ((hc'.trans hc.symm : c'.location.key = c.location.key))
      exact congrArg Location.filepath this
  cases hc : cs.find? (·.key == k) with
  | some c =>
    have hck : c.key = k := by simpa using List.find?_some hc
    rw [← find?_key_filter_path k c.filepath ds (fun c' _ hc' => hsame hck hc'), h,
      find?_key_filter_path k c.filepath cs (fun c' _ hc' => hsame hck hc'), hc]
  | none =>
    cases hd : ds.find? (·.key == k) with
    | none => rfl
    | some d =>
      have hdk : d.key = k := by simpa using List.find?_some hd
      rw [← find?_key_filter_path k d.filepath ds (fun c' _ hc' => hsame hdk hc'), h,
        find?_key_filter_path k d.filepath cs (fun c' _ hc' => hsame hdk hc'), hc] at hd
      cases hd

/-! ## Inserting the first entry of a key -/

section InsertFirst

variable {α : Type}

/-- A list strictly increasing in key. -/
abbrev KeySorted (xs : List (String × α)) : Prop := xs.Pairwise fun a b => a.1 < b.1

theorem insertFirst_of_mem {k : String} (v : α) :
    ∀ {xs : List (String × α)}, KeySorted xs → k ∈ xs.map (·.1) → insertFirst k v xs = xs
  | [], _, h => absurd h List.not_mem_nil
  | (k', v') :: rest, hs, h => by
    rw [KeySorted, List.pairwise_cons] at hs
    unfold insertFirst
    by_cases hlt : k < k'
    · -- a key below the head is below every key of the list, so it is not there
      exfalso
      rcases List.mem_cons.1 h with heq | hmem
      · exact absurd heq (ne_of_lt hlt)
      · obtain ⟨e, he, rfl⟩ := List.mem_map.1 hmem
        exact absurd (lt_trans hlt (hs.1 e he)) (lt_irrefl _)
    · by_cases heq : k = k'
      · rw [if_neg hlt, if_pos heq]
      · rw [if_neg hlt, if_neg heq, insertFirst_of_mem v hs.2]
        rcases List.mem_cons.1 h with h | h
        · exact absurd h heq
        · exact h

theorem perm_insertFirst {k : String} (v : α) :
    ∀ {xs : List (String × α)}, k ∉ xs.map (·.1) → (insertFirst k v xs).Perm ((k, v) :: xs)
  | [], _ => List.Perm.refl _
  | (k', v') :: rest, h => by
    have hne : k ≠ k' := fun heq => h (heq ▸ List.mem_cons_self)
    have hrest : k ∉ rest.map (·.1) := fun hm => h (List.mem_cons_of_mem _ hm)
    unfold insertFirst
    by_cases hlt : k < k'
    · rw [if_pos hlt]
    · rw [if_neg hlt, if_neg hne]
      exact ((perm_insertFirst v hrest).cons _).trans (List.Perm.swap _ _ _)

theorem keySorted_insertFirst (k : String) (v : α) :
    ∀ {xs : List (String × α)}, KeySorted xs → KeySorted (insertFirst k v xs)
  | [], _ => List.pairwise_singleton _ _
  | (k', v') :: rest, hs => by
    unfold insertFirst
    by_cases hlt : k < k'
    · rw [if_pos hlt]
      refine List.Pairwise.cons ?_ hs
      intro e he
      rcases List.mem_cons.1 he with rfl | he
      · exact hlt
      · exact lt_trans hlt ((List.pairwise_cons.1 hs).1 e he)
    · by_cases heq : k = k'
      · rw [if_neg hlt, if_pos heq]
        exact hs
      · rw [if_neg hlt, if_neg heq]
        have hgt : k' < k := lt_of_le_of_ne (not_lt.1 hlt) (Ne.symm heq)
        rw [KeySorted, List.pairwise_cons] at hs ⊢
        refine ⟨fun e he => ?_, keySorted_insertFirst k v hs.2⟩
        by_cases hk : k ∈ rest.map (·.1)
        · rw [insertFirst_of_mem v hs.2 hk] at he
          exact hs.1 e he
        · rcases List.mem_cons.1 ((perm_insertFirst v hk).mem_iff.1 he) with rfl | he
          · exact hgt
          · exact hs.1 e he

theorem mem_insertFirst {k : String} (v : α) {xs : List (String × α)} (hs : KeySorted xs)
    (e : String × α) :
    e ∈ insertFirst k v xs ↔ e ∈ xs ∨ (e = (k, v) ∧ k ∉ xs.map (·.1)) := by
  by_cases hk : k ∈ xs.map (·.1)
  · rw [insertFirst_of_mem v hs hk]
    simp [hk]
  · rw [(perm_insertFirst v hk).mem_iff, List.mem_cons]
    simp only [hk, not_false_eq_true, and_true]
    exact Or.comm

theorem map_fst_insertFirst (k : String) (v : α) {xs : List (String × α)} (hs : KeySorted xs)
    (j : String) : j ∈ (insertFirst k v xs).map (·.1) ↔ j = k ∨ j ∈ xs.map (·.1) := by
  by_cases hk : k ∈ xs.map (·.1)
  · rw [insertFirst_of_mem v hs hk]
    constructor
    · exact Or.inr
    · rintro (rfl | h)
      · exact hk
      · exact h
  · rw [((perm_insertFirst v hk).map _).mem_iff]
    simp

end InsertFirst

/-! ## The wanted comments -/

/-- Whether a file is in a scope: every file, or the one file named. -/
def inScope (scope : Option String) (f : String) : Bool := scope.all (· == f)

/-- Folding comments into a key-sorted list keeps, at each new key, the first comment
with that key. -/
theorem mem_foldl_insertFirst :
    ∀ (cs : List Comment) {acc : List (String × Comment)}, KeySorted acc →
      ∀ (e : String × Comment),
        e ∈ cs.foldl (fun acc c => insertFirst c.key c acc) acc ↔
          e ∈ acc ∨ (e.1 ∉ acc.map (·.1) ∧ cs.find? (·.key == e.1) = some e.2)
  | [], acc, _, e => by simp
  | c :: cs, acc, hs, e => by
    rw [List.foldl_cons, mem_foldl_insertFirst cs (keySorted_insertFirst _ _ hs),
      mem_insertFirst _ hs, map_fst_insertFirst _ _ hs, List.find?_cons]
    obtain ⟨k, d⟩ := e
    by_cases hk : c.key = k
    · subst hk
      simp only [beq_self_eq_true, Prod.mk.injEq, true_or, not_true_eq_false, false_and,
        or_false, Option.some.injEq, true_and]
      constructor
      · rintro (h | ⟨rfl, hnot⟩)
        · exact Or.inl h
        · exact Or.inr ⟨hnot, rfl⟩
      · rintro (h | ⟨hnot, rfl⟩)
        · exact Or.inl h
        · exact Or.inr ⟨rfl, hnot⟩
    · have hk' : (c.key == k) = false := by simpa using hk
      simp only [hk', Prod.mk.injEq, Ne.symm hk, false_and, or_false, false_or]

theorem keySorted_foldl_insertFirst :
    ∀ (cs : List Comment) {acc : List (String × Comment)}, KeySorted acc →
      KeySorted (cs.foldl (fun acc c => insertFirst c.key c acc) acc)
  | [], _, hs => hs
  | _ :: cs, _, hs => keySorted_foldl_insertFirst cs (keySorted_insertFirst _ _ hs)

/-- The wanted entries are the in-scope keys, each with its first in-scope comment. -/
theorem mem_wanted (found : List Comment) (scope : Option String) (e : String × Comment) :
    e ∈ wanted found scope ↔
      (found.filter fun c => inScope scope c.filepath).find? (·.key == e.1) = some e.2 := by
  rw [wanted, mem_foldl_insertFirst _ List.Pairwise.nil]
  simp [inScope]

theorem keySorted_wanted (found : List Comment) (scope : Option String) :
    KeySorted (wanted found scope) :=
  keySorted_foldl_insertFirst _ List.Pairwise.nil

/-- Two key-sorted lists with the same entries are equal. -/
theorem keySorted_ext {α : Type} {xs ys : List (String × α)} (hx : KeySorted xs)
    (hy : KeySorted ys) (h : ∀ e, e ∈ xs ↔ e ∈ ys) : xs = ys := by
  have hnx : xs.Nodup := hx.imp fun hab heq => absurd (heq ▸ hab) (lt_irrefl _)
  have hny : ys.Nodup := hy.imp fun hab heq => absurd (heq ▸ hab) (lt_irrefl _)
  exact ((List.perm_ext_iff_of_nodup hnx hny).2 h).eq_of_pairwise
    (fun _ _ _ _ hab hba => absurd (lt_trans hab hba) (lt_irrefl _)) hx hy

/-- The wanted entries depend only on the first in-scope comment of each key. -/
theorem wanted_congr {cs ds : List Comment} {scope : Option String}
    (h : ∀ k, (ds.filter fun c => inScope scope c.filepath).find? (·.key == k) =
      (cs.filter fun c => inScope scope c.filepath).find? (·.key == k)) :
    wanted ds scope = wanted cs scope :=
  keySorted_ext (keySorted_wanted ds scope) (keySorted_wanted cs scope) fun e => by
    rw [mem_wanted, mem_wanted, h]

/-! ## Notes by key -/

theorem foldl_putLast_of_nodup :
    ∀ (ns : List Note) {acc : List (String × Note)}, (ns.map (·.key)).Nodup →
      (∀ n ∈ ns, n.key ∉ acc.map (·.1)) →
      ns.foldl (fun acc n => putLast n.key n acc) acc = acc ++ ns.map fun n => (n.key, n)
  | [], acc, _, _ => by simp
  | n :: ns, acc, hnd, hfree => by
    rw [List.map_cons, List.nodup_cons] at hnd
    have hput : putLast n.key n acc = acc ++ [(n.key, n)] := by
      rw [putLast, List.filter_eq_self.2]
      intro e he
      have hne : e.1 ≠ n.key := fun h =>
        hfree n List.mem_cons_self (h ▸ List.mem_map_of_mem he)
      simpa using hne
    rw [List.foldl_cons, hput, foldl_putLast_of_nodup ns hnd.2, List.map_cons,
      List.append_assoc, List.singleton_append]
    intro n' hn' hmem
    rw [List.map_append, List.mem_append] at hmem
    rcases hmem with h | h
    · exact hfree n' (List.mem_cons_of_mem n hn') h
    · have : n'.key = n.key := by simpa using h
      exact hnd.1 (this ▸ List.mem_map_of_mem hn')

/-- Notes under distinct keys are listed by key as they are. -/
theorem byKey_eq_map {ns : List Note} (h : (ns.map (·.key)).Nodup) :
    byKey ns = ns.map fun n => (n.key, n) := by
  rw [byKey, foldl_putLast_of_nodup ns h (fun _ _ h => absurd h List.not_mem_nil),
    List.nil_append]

end Reconcile

end CodeNotes
