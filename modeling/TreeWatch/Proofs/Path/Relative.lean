import Mathlib
import TreeWatch.Proofs.Entry.Tree

/-!
# What follows a root in a path

Names one below the other lead from a root to a path (`Path.descend`). What follows the root in it
are these names with a separator between any two of them, however the root was spelled
(`relativeTo?_descend`).
-/

namespace TreeWatch

instance (text : String) : Decidable (IsName text) :=
  decidable_of_iff
    (text.toList ≠ [] ∧ text.toList ≠ ['.'] ∧ text.toList ≠ ['.', '.'] ∧ '/' ∉ text.toList)
    ⟨fun ⟨h₁, h₂, h₃, h₄⟩ => ⟨h₁, h₂, h₃, h₄⟩, fun ⟨h₁, h₂, h₃, h₄⟩ => ⟨h₁, h₂, h₃, h₄⟩⟩

namespace Path

variable {dir : Path} {name : String} {names : List String} {piece as bs cs : List Char}

theorem descend_cons (dir : Path) (name : String) (names : List String) :
    dir.descend (name :: names) = (dir.child name).descend names := rfl

theorem descend_inj {names' : List String} (h : ∀ n ∈ names, IsName n)
    (h' : ∀ n ∈ names', IsName n) : dir.descend names = dir.descend names' ↔ names = names' := by
  constructor
  · intro heq
    have hcomponents := congrArg components heq
    rw [components_descend dir h, components_descend dir h'] at hcomponents
    refine List.map_injective_iff.2 ?_ (List.append_cancel_left hcomponents)
    intro a b hab
    exact Component.name.inj hab
  · rintro rfl
    rfl

theorem baseName_descend (h : ∀ n ∈ names, IsName n) (hne : names ≠ []) :
    (dir.descend names).baseName = names.getLast hne := by
  rw [baseName, fileName?, components_descend dir h]
  simp [List.getLast?_append, List.getLast?_eq_some_getLast hne]

/-! ## Spellings -/

structure Counts (piece : List Char) : Prop where
  ne_nil : piece ≠ []
  ne_current : piece ≠ ['.']
  no_separator : '/' ∉ piece

theorem counts_of_isName (h : IsName name) : Counts name.toList :=
  ⟨h.ne_empty, h.ne_current, h.no_separator⟩

theorem Counts.reverse (h : Counts piece) : Counts piece.reverse where
  ne_nil := by simpa using h.ne_nil
  ne_current hdot := h.ne_current (List.reverse_eq_iff.1 hdot)
  no_separator := by simpa using h.no_separator

theorem Counts.length_filterMap (h : Counts piece) :
    ([piece].filterMap componentOf?).length = 1 := by
  have hcounts : ¬ (piece = [] ∨ piece = ['.']) := by simp [h.ne_nil, h.ne_current]
  by_cases hparent : piece = ['.', '.'] <;> simp [componentOf?, hcounts, hparent]

theorem trimStart_of_counts (h : Counts piece) (cs : List Char) :
    trimStart (piece ++ cs) = piece ++ cs := by
  obtain ⟨hne, hcurrent, hsep⟩ := h
  match piece with
  | [] => exact absurd rfl hne
  | [c] => rw [trimStart.eq_4] <;> simp_all [eq_comm]
  | c :: d :: piece => rw [trimStart.eq_4] <;> simp_all [eq_comm]

theorem trimEnd_of_counts (h : Counts piece) (cs : List Char) :
    trimEnd (piece ++ cs) = piece ++ cs := by
  obtain ⟨hne, hcurrent, hsep⟩ := h
  match piece with
  | [] => exact absurd rfl hne
  | [c] => rw [trimEnd.eq_6] <;> simp_all [eq_comm]
  | c :: d :: piece => rw [trimEnd.eq_6] <;> simp_all [eq_comm]

theorem dropLater_separator (n : ℕ) (cs : List Char) :
    dropComponents.dropLater n ('/' :: cs) = dropComponents.dropLater n cs := by
  cases n <;> simp [dropComponents.dropLater, trimStart]

theorem dropWhile_piece (hpiece : '/' ∉ piece) (cs : List Char) :
    (piece ++ '/' :: cs).dropWhile (· ≠ '/') = '/' :: cs := by
  rw [List.dropWhile_append_of_pos]
  · rfl
  · intro c hc
    simpa using fun hsep : c = '/' => hpiece (hsep ▸ hc)

theorem dropLater_piece (hpiece : '/' ∉ piece) (n : ℕ) (cs : List Char) :
    dropComponents.dropLater (([piece].filterMap componentOf?).length + n) (piece ++ '/' :: cs)
      = dropComponents.dropLater n cs := by
  by_cases hnil : piece = []
  · subst hnil
    simpa [componentOf?] using dropLater_separator n cs
  by_cases hdot : piece = ['.']
  · subst hdot
    have hskip : trimStart ('.' :: '/' :: cs) = trimStart cs := rfl
    cases n <;> simp [componentOf?, dropComponents.dropLater, hskip]
  · have hcounts : Counts piece := ⟨hnil, hdot, hpiece⟩
    rw [hcounts.length_filterMap, Nat.add_comm, dropComponents.dropLater,
      trimStart_of_counts hcounts, dropWhile_piece hpiece, dropLater_separator]

theorem dropLater_pieces (as bs : List Char) :
    dropComponents.dropLater ((pieces as).filterMap componentOf?).length (as ++ '/' :: bs)
      = trimStart bs := by
  induction hlength : as.length using Nat.strong_induction_on generalizing as with
  | _ n ih =>
      by_cases hsep : '/' ∈ as
      · obtain ⟨piece, rest, rfl, hpiece⟩ := List.eq_append_cons_of_mem hsep
        rw [pieces_append_separator, pieces_of_no_separator hpiece, List.filterMap_append,
          List.length_append, List.append_assoc, List.cons_append, dropLater_piece hpiece]
        exact ih rest.length (by simp at hlength; omega) rest rfl
      · rw [pieces_of_no_separator hsep, ← Nat.add_zero (List.length _), dropLater_piece hsep]
        rfl

theorem dropComponents_piece (h : Counts piece) (n : ℕ) (cs : List Char) :
    dropComponents (([piece].filterMap componentOf?).length + n) (piece ++ '/' :: cs)
      = dropComponents.dropLater n cs := by
  rw [h.length_filterMap, Nat.add_comm, dropComponents.eq_3, dropWhile_piece h.no_separator,
    dropLater_separator]
  intro rest hrest
  cases piece with
  | nil => exact h.ne_nil rfl
  | cons c piece => exact h.no_separator (by simp_all)

/-- All components of a spelling are dropped that goes on after a separator. -/
theorem dropComponents_append_separator (has : as ≠ []) (bs : List Char) :
    dropComponents (componentsOf as).length (as ++ '/' :: bs) = trimStart bs := by
  fun_cases componentsOf as with
  | case1 as =>
      simp only [List.length_cons, List.cons_append, dropComponents]
      exact dropLater_pieces as bs
  | case2 => rfl
  | case3 as =>
      simp only [List.length_cons, List.cons_append, dropComponents]
      exact (dropLater_separator _ _).trans (dropLater_pieces as bs)
  | case4 _ h₁ h₂ h₃ =>
      by_cases hsep : '/' ∈ as
      · obtain ⟨piece, rest, rfl, hpiece⟩ := List.eq_append_cons_of_mem hsep
        have hcounts : Counts piece :=
          ⟨fun hnil => h₁ rest (by simp [hnil]), fun hdot => h₃ rest (by simp [hdot]), hpiece⟩
        rw [pieces_append_separator, pieces_of_no_separator hpiece, List.filterMap_append,
          List.length_append, List.append_assoc, List.cons_append, dropComponents_piece hcounts]
        exact dropLater_pieces rest bs
      · rw [pieces_of_no_separator hsep, ← Nat.add_zero (List.length _),
          dropComponents_piece ⟨has, h₂, hsep⟩]
        rfl

def stem (cs : List Char) : List Char := if cs.getLast? = some '/' then cs.dropLast else cs

theorem dropComponents_stem (hcs : cs ≠ []) (bs : List Char) :
    dropComponents (componentsOf cs).length (stem cs ++ '/' :: bs) = trimStart bs := by
  rw [stem]
  split
  · rename_i hlast
    obtain ⟨as, rfl⟩ := List.getLast?_eq_some_iff.1 hlast
    rw [List.dropLast_concat]
    by_cases has : as = []
    · subst has
      rfl
    · rw [componentsOf_append_trailing has, dropComponents_append_separator has]
  · exact dropComponents_append_separator hcs bs

theorem toList_child (hdir : dir.isEmpty = false) (h : IsName name) :
    (dir.child name).text.toList = stem dir.text.toList ++ '/' :: name.toList := by
  have habs : (⟨name⟩ : Path).isAbsolute = false := by
    rw [isAbsolute, beq_eq_false_iff_ne]
    exact fun hh => h.no_separator (List.mem_of_mem_head? (by simpa using hh))
  rw [child, join, habs, hdir, stem]
  by_cases hlast : dir.text.toList.getLast? = some '/'
  · obtain ⟨as, has⟩ := List.getLast?_eq_some_iff.1 hlast
    simp [has]
  · simp [hlast]

theorem isEmpty_child (hdir : dir.isEmpty = false) (h : IsName name) :
    (dir.child name).isEmpty = false := by
  have hne : (dir.child name).text.toList ≠ [] := by simp [toList_child hdir h]
  simpa [isEmpty] using hne

theorem stem_child (hdir : dir.isEmpty = false) (h : IsName name) :
    stem (dir.child name).text.toList = (dir.child name).text.toList := by
  rw [stem, if_neg]
  have hlast : (dir.child name).text.toList.getLast? = some (name.toList.getLast h.ne_empty) := by
    rw [toList_child hdir h, ← List.singleton_append, ← List.append_assoc, List.getLast?_append,
      List.getLast?_eq_some_getLast h.ne_empty]
    rfl
  rw [hlast]
  exact fun hsep => h.no_separator (Option.some.inj hsep ▸ List.getLast_mem h.ne_empty)

theorem toList_descend (hdir : dir.isEmpty = false) (h : ∀ n ∈ names, IsName n)
    (hne : names ≠ []) : (dir.descend names).text.toList
      = stem dir.text.toList ++ '/' :: ("/".intercalate names).toList := by
  induction names generalizing dir with
  | nil => exact absurd rfl hne
  | cons n names ih =>
      obtain ⟨hn, hnames⟩ := List.forall_mem_cons.1 h
      cases names with
      | nil => simpa [descend] using toList_child hdir hn
      | cons m names =>
          rw [descend_cons, ih (isEmpty_child hdir hn) hnames (List.cons_ne_nil m names),
            stem_child hdir hn, toList_child hdir hn, String.intercalate_cons_cons]
          simp

theorem exists_append_intercalate (hne : names ≠ []) :
    ∃ cs, ("/".intercalate names).toList = (names.head hne).toList ++ cs := by
  cases names with
  | nil => exact absurd rfl hne
  | cons n names =>
      cases names with
      | nil => exact ⟨[], by simp⟩
      | cons m names => exact ⟨_, by rw [String.intercalate_cons_cons]; simp; rfl⟩

theorem exists_intercalate_append (hne : names ≠ []) :
    ∃ cs, ("/".intercalate names).toList = cs ++ (names.getLast hne).toList := by
  induction names with
  | nil => exact absurd rfl hne
  | cons n names ih =>
      cases names with
      | nil => exact ⟨[], by simp⟩
      | cons m names =>
          obtain ⟨cs, hcs⟩ := ih (List.cons_ne_nil m names)
          refine ⟨n.toList ++ '/' :: cs, ?_⟩
          rw [String.intercalate_cons_cons, List.getLast_cons (List.cons_ne_nil m names),
            String.toList_append, hcs]
          simp

/-- Names with separators between them are left as they are at the start. -/
theorem trimStart_intercalate (h : ∀ n ∈ names, IsName n) (hne : names ≠ []) (cs : List Char) :
    trimStart (("/".intercalate names).toList ++ cs) = ("/".intercalate names).toList ++ cs := by
  obtain ⟨bs, hbs⟩ := exists_append_intercalate hne
  rw [hbs, List.append_assoc]
  exact trimStart_of_counts (counts_of_isName (h _ (List.head_mem hne))) _

/-- Names with separators between them are left as they are at the end. -/
theorem trimEnd_intercalate (h : ∀ n ∈ names, IsName n) (hne : names ≠ []) :
    trimEnd ("/".intercalate names).toList.reverse = ("/".intercalate names).toList.reverse := by
  obtain ⟨bs, hbs⟩ := exists_intercalate_append hne
  rw [hbs, List.reverse_append]
  exact trimEnd_of_counts (counts_of_isName (h _ (List.getLast_mem hne))).reverse _

theorem relativeTo?_descend (hdir : dir.isEmpty = false) (h : ∀ n ∈ names, IsName n)
    (hne : names ≠ []) : (dir.descend names).relativeTo? dir = some ⟨"/".intercalate names⟩ := by
  have hwithin : (dir.descend names).isWithin dir = true := by
    rw [isWithin_iff, components_descend dir h]
    exact List.prefix_append _ _
  have hnil : dir.text.toList ≠ [] := by simpa [isEmpty] using hdir
  have hstart := trimStart_intercalate h hne []
  rw [List.append_nil] at hstart
  rw [relativeTo?, if_pos hwithin, toList_descend hdir h hne, components, dropComponents_stem hnil,
    hstart]
  simp only [trimEnd_intercalate h hne, List.reverse_reverse, String.ofList_toList]

end Path

end TreeWatch
