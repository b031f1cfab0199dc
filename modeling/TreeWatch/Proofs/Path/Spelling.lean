import TreeWatch.Proofs.Path.Relative

/-!
# What follows a root, as it is spelled

A path below a root spells the root, then what follows it, and at last what does not count
(`exists_relativeTo?_eq`). What follows the root is taken over as it is spelled there. So it is the
names below the root with a separator between any two of them just if the path spells them in that
way (`relativeTo?_eq_iff`).
-/

namespace TreeWatch

namespace Path

variable {root path : Path} {names : List String} {n : String} {cs lead trail piece : List Char}
  {comps tail : List Component}

/-! ## The end of a spelling -/

/-- Separators and single dots, as they may stand after a component without adding one. -/
inductive Blank : List Char → Prop where
  | nil : Blank []
  | separator {cs : List Char} : Blank cs → Blank (cs ++ ['/'])
  | current {cs : List Char} : Blank cs → Blank (cs ++ ['/', '.'])

theorem trimEnd_separator (h : cs ≠ []) : trimEnd ('/' :: cs) = trimEnd cs := by
  rw [trimEnd.eq_4]
  exact h

theorem trimEnd_current (h : cs ≠ []) : trimEnd ('.' :: '/' :: cs) = trimEnd cs := by
  rw [trimEnd.eq_5, trimEnd_separator h]
  exact h

theorem trimEnd_blank (h : Blank trail) (hcs : cs ≠ []) :
    trimEnd (trail.reverse ++ cs) = trimEnd cs := by
  induction h with
  | nil => rfl
  | separator _ ih => simpa [trimEnd_separator, hcs] using ih
  | current _ ih => simpa [trimEnd_current, hcs] using ih

/-- What is dropped at the end of a spelling that does not begin with a separator is blank. -/
theorem exists_blank_of_trimEnd (h : cs.getLast? ≠ some '/') :
    ∃ trail, Blank trail ∧ cs = trail.reverse ++ trimEnd cs := by
  induction hlength : cs.length using Nat.strong_induction_on generalizing cs with
  | _ n ih =>
      fun_cases trimEnd cs with
      | case1 => simp at h
      | case2 => exact ⟨[], .nil, rfl⟩
      | case3 => simp at h
      | case4 rest hne =>
          have hrest : rest ≠ [] := fun hnil => hne hnil
          obtain ⟨trail, htrail, heq⟩ := ih rest.length (by simp at hlength; omega)
            (by rwa [List.getLast?_cons_of_ne_nil hrest] at h) rfl
          refine ⟨_, htrail.separator, ?_⟩
          rw [List.reverse_append, List.append_assoc, ← heq]
          rfl
      | case5 rest hne =>
          have hrest : rest ≠ [] := fun hnil => hne hnil
          obtain ⟨trail, htrail, heq⟩ := ih rest.length (by simp at hlength; omega)
            (by simpa [List.getLast?_cons_of_ne_nil, hrest] using h) rfl
          refine ⟨_, htrail.current, ?_⟩
          rw [trimEnd_separator hrest, List.reverse_append, List.append_assoc, ← heq]
          rfl
      | case6 => exact ⟨[], .nil, rfl⟩

theorem filterMap_pieces_blank (h : Blank trail) (cs : List Char) :
    (pieces (cs ++ trail)).filterMap componentOf? = (pieces cs).filterMap componentOf? := by
  induction h with
  | nil => rw [List.append_nil]
  | separator _ ih =>
      rw [← List.append_assoc, pieces_append_separator, List.filterMap_append, ih]
      simp [pieces, componentOf?]
  | current _ ih =>
      rw [← List.append_assoc, pieces_append_separator, List.filterMap_append, ih]
      simp [pieces, componentOf?]

/-! ## Cutting a spelling before a component -/

theorem filterMap_pieces_separator (hpiece : '/' ∉ piece) (cs : List Char) :
    (pieces (piece ++ '/' :: cs)).filterMap componentOf?
      = [piece].filterMap componentOf? ++ (pieces cs).filterMap componentOf? := by
  rw [pieces_append_separator, pieces_of_no_separator hpiece, List.filterMap_append]

theorem filterMap_of_not_counts (hpiece : '/' ∉ piece) (h : ¬ Counts piece) :
    [piece].filterMap componentOf? = [] := by
  by_contra hne
  refine h ⟨?_, ?_, hpiece⟩
  · rintro rfl
    exact hne rfl
  · rintro rfl
    exact hne rfl

/-- A spelling is parted where a piece that counts begins, and these are the components of the
pieces from there on. -/
structure Cut (lead cs : List Char) (tail : List Component) : Prop where
  at_piece : lead = [] ∨ lead.getLast? = some '/'
  tail_eq : (pieces cs).filterMap componentOf? = tail
  trimmed : trimStart cs = cs

theorem Cut.after_separator (h : Cut lead cs tail) (as : List Char) :
    Cut (as ++ '/' :: lead) cs tail where
  at_piece := by
    rcases h.at_piece with rfl | hlast
    · exact .inr (by simp)
    · obtain ⟨bs, rfl⟩ := List.getLast?_eq_some_iff.1 hlast
      exact .inr (List.getLast?_eq_some_iff.2 ⟨as ++ '/' :: bs, by simp⟩)
  tail_eq := h.tail_eq
  trimmed := h.trimmed

theorem Cut.dropComponents_eq (h : Cut lead cs tail) :
    dropComponents (componentsOf lead).length (lead ++ cs) = cs := by
  rcases h.at_piece with rfl | hlast
  · rfl
  · obtain ⟨as, rfl⟩ := List.getLast?_eq_some_iff.1 hlast
    have hstem : stem (as ++ ['/']) ++ '/' :: cs = as ++ ['/'] ++ cs := by simp [stem]
    rw [← hstem, dropComponents_stem (by simp), h.trimmed]

/-- The pieces of a spelling can be parted before each of them that stands for a name. -/
theorem exists_cut_of_filterMap
    (h : (pieces cs).filterMap componentOf? = comps ++ .name n :: tail) :
    ∃ lead bs, cs = lead ++ bs ∧ (pieces lead).filterMap componentOf? = comps ∧
      Cut lead bs (.name n :: tail) := by
  induction hlength : cs.length using Nat.strong_induction_on generalizing cs comps with
  | _ len ih =>
      by_cases hsep : '/' ∈ cs
      · obtain ⟨piece, rest, rfl, hpiece⟩ := List.eq_append_cons_of_mem hsep
        have hall := filterMap_pieces_separator hpiece
        have hrest : rest.length < len := by simp at hlength; omega
        by_cases hcounts : Counts piece
        · obtain ⟨c, hc⟩ := List.length_eq_one_iff.1 hcounts.length_filterMap
          cases comps with
          | nil => exact ⟨[], _, rfl, rfl, .inl rfl, h, trimStart_of_counts hcounts _⟩
          | cons c' comps =>
              rw [hall, hc] at h
              obtain ⟨rfl, htail⟩ := List.cons.inj h
              obtain ⟨lead, bs, rfl, hcomps, hcut⟩ := ih _ hrest htail rfl
              refine ⟨piece ++ '/' :: lead, bs, by simp, ?_, hcut.after_separator piece⟩
              rw [hall, hc, hcomps]
              rfl
        · have hnone := filterMap_of_not_counts hpiece hcounts
          rw [hall, hnone] at h
          obtain ⟨lead, bs, rfl, hcomps, hcut⟩ := ih _ hrest h rfl
          refine ⟨piece ++ '/' :: lead, bs, by simp, ?_, hcut.after_separator piece⟩
          rw [hall, hnone, hcomps]
          rfl
      · have hcounts : Counts cs := by
          by_contra hcounts
          rw [pieces_of_no_separator hsep, filterMap_of_not_counts hsep hcounts] at h
          simp at h
        have hone := congrArg List.length h
        rw [pieces_of_no_separator hsep, hcounts.length_filterMap, List.length_append,
          List.length_cons] at hone
        obtain rfl : comps = [] := List.length_eq_zero_iff.1 (by omega)
        exact ⟨[], cs, rfl, rfl, .inl rfl, h, by simpa using trimStart_of_counts hcounts []⟩

/-- The spelling of a path can be parted before each name among its components. -/
theorem exists_cut (h : componentsOf cs = comps ++ .name n :: tail) :
    ∃ lead bs, cs = lead ++ bs ∧ componentsOf lead = comps ∧ Cut lead bs (.name n :: tail) := by
  fun_cases componentsOf cs with
  | case1 cs =>
      cases comps with
      | nil => simp [componentsOf] at h
      | cons c comps =>
          obtain ⟨rfl, htail⟩ := List.cons.inj h
          obtain ⟨lead, bs, rfl, hcomps, hcut⟩ := exists_cut_of_filterMap htail
          refine ⟨'/' :: lead, bs, rfl, ?_, hcut.after_separator []⟩
          rw [componentsOf, hcomps]
  | case2 => cases comps <;> simp [componentsOf] at h
  | case3 cs =>
      cases comps with
      | nil => simp [componentsOf] at h
      | cons c comps =>
          obtain ⟨rfl, htail⟩ := List.cons.inj h
          obtain ⟨lead, bs, rfl, hcomps, hcut⟩ := exists_cut_of_filterMap htail
          refine ⟨'.' :: '/' :: lead, bs, rfl, ?_, hcut.after_separator ['.']⟩
          rw [componentsOf, hcomps]
  | case4 _ h₁ h₂ h₃ =>
      rw [componentsOf.eq_4 cs h₁ h₂ h₃] at h
      obtain ⟨lead, bs, rfl, hcomps, hcut⟩ := exists_cut_of_filterMap h
      refine ⟨lead, bs, rfl, ?_, hcut⟩
      rw [componentsOf.eq_4, hcomps]
      · rintro rest rfl
        exact h₁ _ rfl
      · rintro rfl
        simpa using hcut.at_piece
      · rintro rest rfl
        exact h₃ _ rfl

/-! ## The characters of names -/

theorem exists_mem_pieces {c : Char} (hc : c ∈ cs) (hsep : c ≠ '/') :
    ∃ piece ∈ pieces cs, c ∈ piece := by
  fun_induction pieces cs with
  | case1 => simp at hc
  | case2 rest ih =>
      obtain ⟨piece, hmem, hpiece⟩ := ih (List.mem_of_ne_of_mem hsep hc)
      exact ⟨piece, List.mem_cons_of_mem _ hmem, hpiece⟩
  | case3 d rest hd hnil => exact absurd hnil (pieces_ne_nil rest)
  | case4 d rest hd p ps heq ih =>
      simp only [heq, List.mem_cons, exists_eq_or_imp] at ih hc ⊢
      rcases hc with rfl | hc
      · exact .inl (.inl rfl)
      · exact (ih hc).imp_left .inr

/-- A character of a spelling that is neither a separator nor a dot is in a name there. -/
theorem exists_name_of_mem {c : Char} (hc : c ∈ cs) (hsep : c ≠ '/') (hdot : c ≠ '.') :
    ∃ n, .name n ∈ (pieces cs).filterMap componentOf? ∧ c ∈ n.toList := by
  obtain ⟨piece, hmem, hc⟩ := exists_mem_pieces hc hsep
  refine ⟨String.ofList piece, List.mem_filterMap.2 ⟨piece, hmem, ?_⟩, by simpa using hc⟩
  rw [componentOf?, if_neg, if_neg]
  · rintro rfl
    simp [hdot] at hc
  · rintro (rfl | rfl) <;> simp [hdot] at hc

theorem mem_intercalate_iff {c : Char} (hsep : c ≠ '/') :
    c ∈ ("/".intercalate names).toList ↔ ∃ n ∈ names, c ∈ n.toList := by
  induction names with
  | nil => simp
  | cons n names ih =>
      cases names with
      | nil => simp
      | cons m names =>
          rw [String.intercalate_cons_cons, String.toList_append, List.mem_append, ih]
          simp [hsep]

/-! ## The spelling of what follows a root -/

/-- A path is spelled in three parts: a root up to a separator, what follows it, and what does not
count. -/
structure SpelledAs (path root : Path) (lead rest trail : List Char) : Prop where
  text_eq : path.text.toList = lead ++ rest ++ trail
  at_piece : lead = [] ∨ lead.getLast? = some '/'
  lead_eq : componentsOf lead = root.components
  blank : Blank trail

theorem head?_trimStart (cs : List Char) : (trimStart cs).head? ≠ some '/' := by
  fun_induction trimStart cs with
  | case1 rest ih => exact ih
  | case2 => simp
  | case3 rest ih => exact ih
  | case4 cs h₁ _ _ =>
      cases cs with
      | nil => simp
      | cons c cs => exact fun hc => h₁ cs (by simpa using hc)

/-- What follows a root in a path is taken over as it is spelled there. -/
theorem exists_relativeTo?_eq (h : path.components = root.components ++ names.map .name)
    (hne : names ≠ []) :
    ∃ lead rest trail, path.SpelledAs root lead rest trail ∧
      (pieces rest).filterMap componentOf? = names.map .name ∧
      path.relativeTo? root = some ⟨String.ofList rest⟩ := by
  obtain ⟨n, names, rfl⟩ := List.exists_cons_of_ne_nil hne
  obtain ⟨lead, cs, htext, hlead, hcut⟩ := exists_cut h
  have hfirst : cs.reverse.getLast? ≠ some '/' := by
    rw [List.getLast?_reverse, ← hcut.trimmed]
    exact head?_trimStart cs
  obtain ⟨trail, hblank, heq⟩ := exists_blank_of_trimEnd hfirst
  have hcs : cs = (trimEnd cs.reverse).reverse ++ trail := by
    rw [← List.reverse_reverse cs]
    conv_lhs => rw [heq]
    simp
  refine ⟨lead, (trimEnd cs.reverse).reverse, trail, ⟨?_, hcut.at_piece, hlead, hblank⟩, ?_, ?_⟩
  · rw [List.append_assoc, ← hcs, htext]
  · rw [← filterMap_pieces_blank hblank, ← hcs, hcut.tail_eq]
    rfl
  · have hwithin : path.isWithin root = true := isWithin_iff.2 (h ▸ List.prefix_append _ _)
    rw [relativeTo?, if_pos hwithin, htext, ← hlead, hcut.dropComponents_eq]

theorem SpelledAs.relativeTo?_eq (h : path.SpelledAs root lead ("/".intercalate names).toList trail)
    (hwithin : path.isWithin root = true) (hnames : ∀ n ∈ names, IsName n) (hne : names ≠ []) :
    path.relativeTo? root = some ⟨"/".intercalate names⟩ := by
  have hcut : Cut lead (("/".intercalate names).toList ++ trail) _ :=
    ⟨h.at_piece, rfl, trimStart_intercalate hnames hne trail⟩
  have hnonempty : ("/".intercalate names).toList.reverse ≠ [] := by
    obtain ⟨cs, hcs⟩ := exists_append_intercalate hne
    simp [hcs, (hnames _ (List.head_mem hne)).ne_empty]
  rw [relativeTo?, if_pos hwithin, h.text_eq, List.append_assoc, ← h.lead_eq,
    hcut.dropComponents_eq]
  simp only [List.reverse_append, trimEnd_blank h.blank hnonempty, trimEnd_intercalate hnames hne,
    List.reverse_reverse, String.ofList_toList]

/-- What follows the root are the names with a separator between any two of them just if this is how
they are spelled in the path. -/
theorem relativeTo?_eq_iff (h : path.components = root.components ++ names.map .name)
    (hne : names ≠ []) : path.relativeTo? root = some ⟨"/".intercalate names⟩ ↔
      ∃ lead trail, path.SpelledAs root lead ("/".intercalate names).toList trail := by
  constructor
  · intro heq
    obtain ⟨lead, rest, trail, hspelled, -, hrest⟩ := exists_relativeTo?_eq h hne
    have hrest' : rest = ("/".intercalate names).toList := by
      rw [hrest] at heq
      simpa [← String.toList_inj] using heq
    exact ⟨lead, trail, hrest' ▸ hspelled⟩
  · rintro ⟨lead, trail, hspelled⟩
    have hnames : ∀ n ∈ names, IsName n := by
      intro n hn
      refine isName_of_mem_components (p := path) ?_
      rw [h]
      exact List.mem_append_right _ (List.mem_map_of_mem hn)
    exact hspelled.relativeTo?_eq (isWithin_iff.2 (h ▸ List.prefix_append _ _)) hnames hne

end Path

end TreeWatch
