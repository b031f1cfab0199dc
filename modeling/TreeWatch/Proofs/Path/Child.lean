import TreeWatch.Path

/-!
# Paths of entries in a directory

A name that can stand in a directory spells exactly one component. The path of an entry of a
directory therefore has the components of the directory and its own name after them
(`components_child`), and its name is read back from it (`baseName_child`).
-/

namespace TreeWatch

/-- A text that spells one component of a path and no other than a name. -/
structure IsName (text : String) : Prop where
  ne_empty : text.toList ≠ []
  ne_current : text.toList ≠ ['.']
  ne_parent : text.toList ≠ ['.', '.']
  no_separator : '/' ∉ text.toList

namespace Path

theorem pieces_ne_nil (cs : List Char) : pieces cs ≠ [] := by
  cases cs with
  | nil => simp [pieces]
  | cons c cs =>
      rw [pieces]
      split
      · simp
      · split <;> simp

/-- The pieces on both sides of a separator are independent of one another. -/
theorem pieces_append_separator (as bs : List Char) :
    pieces (as ++ '/' :: bs) = pieces as ++ pieces bs := by
  induction as with
  | nil => simp [pieces]
  | cons a as ih =>
      rw [List.cons_append, pieces, pieces, ih]
      split
      · simp
      · cases h : pieces as with
        | nil => exact absurd h (pieces_ne_nil as)
        | cons p ps => simp

theorem pieces_of_no_separator {cs : List Char} (h : '/' ∉ cs) : pieces cs = [cs] := by
  induction cs with
  | nil => rfl
  | cons c cs ih =>
      have hc : c ≠ '/' := fun hc => h (hc ▸ List.mem_cons_self)
      have hcs := ih fun hm => h (List.mem_cons_of_mem c hm)
      rw [pieces, if_neg hc, hcs]

theorem no_separator_of_mem_pieces {cs piece : List Char} (h : piece ∈ pieces cs) :
    '/' ∉ piece := by
  induction cs generalizing piece with
  | nil => simp_all [pieces]
  | cons c cs ih =>
      rw [pieces] at h
      split at h
      · rcases List.mem_cons.1 h with rfl | h
        · simp
        · exact ih h
      · rename_i hc
        cases hcs : pieces cs with
        | nil => exact absurd hcs (pieces_ne_nil cs)
        | cons p ps =>
            rw [hcs] at h ih
            rcases List.mem_cons.1 h with rfl | h
            · have := ih List.mem_cons_self
              simp_all [eq_comm]
            · exact ih (List.mem_cons_of_mem p h)

theorem componentOf?_eq_some_name {name : String} (h : IsName name) :
    componentOf? name.toList = some (.name name) := by
  rw [componentOf?, if_neg (by simp [h.ne_empty, h.ne_current]), if_neg h.ne_parent,
    String.ofList_toList]

/-- A component that is read off a piece is a name, or the step to the parent. -/
theorem isName_of_componentOf? {piece : List Char} {name : String} (hp : '/' ∉ piece)
    (h : componentOf? piece = some (.name name)) : IsName name := by
  rw [componentOf?] at h
  split at h
  · simp at h
  · split at h
    · simp at h
    · simp only [Option.some.injEq, Component.name.injEq] at h
      subst h
      constructor <;> simp_all

/-- The components of a spelling that starts with some characters and goes on after a
separator. -/
theorem componentsOf_append_separator {as : List Char} (ha : as ≠ []) (bs : List Char) :
    componentsOf (as ++ '/' :: bs)
      = componentsOf as ++ (pieces bs).filterMap componentOf? := by
  have hall : (pieces (as ++ '/' :: bs)).filterMap componentOf?
      = (pieces as).filterMap componentOf? ++ (pieces bs).filterMap componentOf? := by
    rw [pieces_append_separator, List.filterMap_append]
  fun_cases componentsOf as with
  | case1 as =>
      simp only [List.cons_append, componentsOf]
      rw [pieces_append_separator, List.filterMap_append]
  | case2 => simp [componentsOf]
  | case3 as =>
      simp only [List.cons_append, componentsOf]
      rw [pieces_append_separator, List.filterMap_append]
  | case4 _ h₁ h₂ h₃ =>
      rw [componentsOf.eq_4, hall]
      · intro rest h
        cases as with
        | nil => exact ha rfl
        | cons a as => exact h₁ as (by simp_all)
      · cases as <;> simp_all
      · intro rest h
        match as with
        | [] => exact ha rfl
        | [a] => simp_all
        | a :: b :: as => exact h₃ as (by simp_all)

theorem componentsOf_append_trailing {as : List Char} (ha : as ≠ []) :
    componentsOf (as ++ ['/']) = componentsOf as := by
  simp [componentsOf_append_separator ha, pieces, componentOf?]

theorem componentsOf_name {name : String} (h : IsName name) :
    componentsOf name.toList = [.name name] := by
  rw [componentsOf.eq_4, pieces_of_no_separator h.no_separator]
  · simp [componentOf?_eq_some_name h]
  · intro rest hr
    exact h.no_separator (hr ▸ List.mem_cons_self)
  · exact h.ne_current
  · intro rest hr
    exact h.no_separator (hr ▸ by simp)

/-- The entry of a name in a directory has that name as its last component. -/
@[simp] theorem components_child (dir : Path) {name : String} (h : IsName name) :
    (dir.child name).components = dir.components ++ [.name name] := by
  have hname : (pieces name.toList).filterMap componentOf? = [.name name] := by
    simp [pieces_of_no_separator h.no_separator, componentOf?_eq_some_name h]
  have habs : (⟨name⟩ : Path).isAbsolute = false := by
    rw [isAbsolute, beq_eq_false_iff_ne]
    exact fun hh => h.no_separator (List.mem_of_mem_head? (by simpa using hh))
  rw [child, join, habs]
  simp only [Bool.false_eq_true, if_false]
  split
  · rename_i hbase
    rw [components, components, String.toList_append]
    rcases Bool.or_eq_true_iff.1 hbase with hempty | htrailing
    · have hnil : dir.text.toList = [] := by simpa [isEmpty] using hempty
      rw [hnil, List.nil_append, componentsOf_name h]
      rfl
    · -- the separator at the end of the spelling is the one before the name
      obtain ⟨as, has⟩ := List.getLast?_eq_some_iff.1 (beq_iff_eq.1 htrailing)
      rw [has, List.append_assoc, List.singleton_append]
      cases as with
      | nil => simp [componentsOf, hname, pieces, componentOf?]
      | cons a as =>
          rw [componentsOf_append_separator (List.cons_ne_nil a as),
            componentsOf_append_trailing (List.cons_ne_nil a as), hname]
  · rename_i hbase
    have hne : dir.text.toList ≠ [] := by
      intro hnil
      exact hbase (by simp_all [isEmpty])
    have htext : (dir.text ++ "/" ++ name).toList = dir.text.toList ++ '/' :: name.toList := by
      simp [String.toList_append]
    rw [components, components, htext, componentsOf_append_separator hne, hname]

@[simp] theorem fileName?_child (dir : Path) {name : String} (h : IsName name) :
    (dir.child name).fileName? = some name := by
  rw [fileName?, components_child dir h, List.getLast?_concat]

@[simp] theorem baseName_child (dir : Path) {name : String} (h : IsName name) :
    (dir.child name).baseName = name := by
  rw [baseName, fileName?_child dir h, Option.getD_some]

theorem child_inj {dir : Path} {a b : String} (ha : IsName a) (hb : IsName b) :
    dir.child a = dir.child b ↔ a = b := by
  constructor
  · intro h
    rw [← baseName_child dir ha, h, baseName_child dir hb]
  · rintro rfl
    rfl

theorem child_eq_of_components_eq {dir : Path} {a b : String} (ha : IsName a) (hb : IsName b)
    (h : (dir.child a).components = (dir.child b).components) : dir.child a = dir.child b := by
  rw [components_child dir ha, components_child dir hb] at h
  have hab := List.append_cancel_left h
  simp only [List.cons.injEq, Component.name.injEq, and_true] at hab
  rw [hab]

theorem isName_of_mem_components {p : Path} {name : String}
    (h : .name name ∈ p.components) : IsName name := by
  have hmem : ∀ cs : List Char, .name name ∈ (pieces cs).filterMap componentOf? →
      IsName name := by
    intro cs hcs
    obtain ⟨piece, hpiece, hname⟩ := List.mem_filterMap.1 hcs
    exact isName_of_componentOf? (no_separator_of_mem_pieces hpiece) hname
  rw [components] at h
  generalize p.text.toList = cs at h
  fun_cases componentsOf cs with
  | case1 as => exact hmem as (by simpa [componentsOf] using h)
  | case2 => simp [componentsOf] at h
  | case3 as => exact hmem as (by simpa [componentsOf] using h)
  | case4 _ h₁ h₂ h₃ => exact hmem cs (by rwa [componentsOf.eq_4 cs h₁ h₂ h₃] at h)

theorem isWithin_iff {p base : Path} :
    p.isWithin base = true ↔ base.components <+: p.components :=
  List.isPrefixOf_iff_prefix

end Path

end TreeWatch
