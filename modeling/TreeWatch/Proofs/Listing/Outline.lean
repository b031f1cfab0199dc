import TreeWatch.Proofs.Listing.Order
import TreeWatch.Proofs.Snapshot.Arrange

/-!
# What a listing shows

A listing has a line for the root and a line for each entry below it. The line of a directory is
followed by those of all that is in it, one level deeper and in order, before the next entry of its
own level (`Outlines`). What a directory holds is sorted anew for a listing, so that two trees that
hold the same entries (`HoldsSame`) have one listing, wherever the order tells siblings apart
(`listing_complete`).
-/

namespace TreeWatch

/-- Several entries put in order. Those that the order does not tell apart keep their places. -/
structure EntryOrder.PutsInOrder (o : EntryOrder) (es sorted : List Entry) : Prop where
  perm : sorted.Perm es
  pairwise : sorted.Pairwise fun a b => (o.order a b).isLE = true
  stable : ∀ a b, [a, b].Sublist es → o.order a b = .eq → [a, b].Sublist sorted

theorem EntryOrder.putsInOrder_sort (o : EntryOrder) [Std.TransCmp o.order] (es : List Entry) :
    o.PutsInOrder es (o.sort es) where
  perm := o.perm_sort es
  pairwise := o.pairwise_sort es
  stable _ _ hab heq := pair_sublist_mergeSort_isLE hab heq

namespace Comparator

variable {c : Comparator} {es fs : List Entry}

/-- An order goes by paths and by what is known of entries. So lists that agree in these are sorted
in the same way, whatever else is taken from their entries. -/
theorem flatMap_sort_congr {α : Type} {f : Entry → List α}
    (h : List.Forall₂ (fun a b => a.path = b.path ∧ a.fact = b.fact ∧ f a = f b) es fs) :
    (c.sort es).flatMap f = (c.sort fs).flatMap f := by
  obtain ⟨hlength, hzip⟩ := List.forall₂_iff_zip.1 h
  let before (x y : Entry × Entry) : Bool := (c.order x.1 y.1).isLE
  have hes : c.sort es = ((es.zip fs).mergeSort before).map Prod.fst := by
    rw [List.map_mergeSort (s := fun a b => (c.order a b).isLE) fun x _ y _ => rfl,
      List.map_fst_zip hlength.le]
    rfl
  have hfs : c.sort fs = ((es.zip fs).mergeSort before).map Prod.snd := by
    rw [List.map_mergeSort (s := fun a b => (c.order a b).isLE), List.map_snd_zip hlength.ge]
    · rfl
    · intro x hx y hy
      obtain ⟨hpath, hfact, _⟩ := hzip hx
      obtain ⟨hpath', hfact', _⟩ := hzip hy
      exact congrArg Ordering.isLE (c.order_congr hpath hpath' hfact hfact')
  rw [hes, hfs, List.flatMap_map, List.flatMap_map]
  refine List.flatMap_congr fun x hx => ?_
  exact (hzip (List.mem_mergeSort.1 hx)).2.2

end Comparator

namespace Entry

variable {o : EntryOrder} {c : Comparator} {depth : ℕ} {e f root other : Entry} {es : List Entry}
  {rows : List (ℕ × Entry)}

/-! ## Lines -/

/-- A slash after a directory, and the length after all else. -/
def ending (e : Entry) : String :=
  if e.isDirectory then "/" else " (" ++ toString e.length ++ " bytes)"

def rowText (row : ℕ × Entry) : String :=
  String.ofList (List.replicate (2 * row.1) ' ') ++ (row.2.name ++ row.2.ending)

theorem lineText_eq (title : String) (e : Entry) : e.lineText title = title ++ e.ending := by
  rw [lineText, ending]
  split
  · rfl
  · rw [String.append_assoc, String.append_assoc, String.append_assoc]

theorem blocks_eq_map (o : EntryOrder) (depth : ℕ) (es : List Entry) :
    lines.blocks o depth es = es.map fun e => (e, e.lines o depth) := by
  induction es with
  | nil => rfl
  | cons e es ih => rw [lines.blocks, ih, List.map_cons]

theorem flatMap_sorted_blocks (o : EntryOrder) (depth : ℕ) (es : List Entry) :
    ((lines.blocks o depth es).mergeSort fun a b => (o.order a.1 b.1).isLE).flatMap (·.2)
      = (o.sort es).flatMap fun e => e.lines o depth := by
  rw [blocks_eq_map, EntryOrder.sort,
    ← List.map_mergeSort (r := fun a b => (o.order a b).isLE) fun a _ b _ => rfl,
    List.flatMap_map]

theorem lines_eq_cons (o : EntryOrder) (depth : ℕ) (e : Entry) : e.lines o depth
    = rowText (depth, e) :: (o.sort e.children).flatMap fun x => x.lines o (depth + 1) := by
  have hline : indent depth ++ e.lineText e.path.baseName = rowText (depth, e) := by
    rw [lineText_eq]
    rfl
  have hnone : o.sort [] = [] := List.mergeSort_nil
  rw [← hline]
  cases e with
  | missing p => simp only [lines, children, hnone, List.flatMap_nil, path]
  | file p t n => simp only [lines, children, hnone, List.flatMap_nil, path]
  | directory p t es => simp only [lines, children, flatMap_sorted_blocks, path]

theorem listingLines_eq_cons (h : root.present = true) (o : EntryOrder) : root.listingLines o
    = (root.path.text ++ root.ending) ::
      (o.sort root.children).flatMap fun x => x.lines o 1 := by
  rw [listingLines, if_pos h, lineText_eq, flatMap_sorted_blocks]

/-! ## Rows -/

/-- The rows of a listing for several entries of one level. After each of them comes what is in it,
in order and one level deeper, with all that is below, and only then the next one. -/
inductive Outlines (o : EntryOrder) : ℕ → List Entry → List (ℕ × Entry) → Prop where
  | nil (depth : ℕ) : Outlines o depth [] []
  | cons {depth : ℕ} {e : Entry} {es sorted : List Entry} {below rest : List (ℕ × Entry)}
      (sorts : o.PutsInOrder e.children sorted) (inside : Outlines o (depth + 1) sorted below)
      (after : Outlines o depth es rest) :
      Outlines o depth (e :: es) ((depth, e) :: (below ++ rest))

theorem Outlines.perm (h : Outlines o depth es rows) :
    (rows.map Prod.snd).Perm (es.flatMap preorder) := by
  induction h with
  | nil depth => exact .nil
  | @cons depth e es sorted below rest sorts inside after ihInside ihAfter =>
      rw [List.flatMap_cons, preorder_eq_append, List.map_cons, List.map_append,
        List.singleton_append, List.cons_append]
      have hbelow := ihInside.trans (sorts.perm.flatMap_right preorder)
      exact (hbelow.append ihAfter).cons e

/-- The lines of several entries are those of rows, if the lines of each of them are. -/
theorem exists_outlines_of_forall [Std.TransCmp o.order] (depth : ℕ)
    (h : ∀ e ∈ es, ∃ below, Outlines o (depth + 1) (o.sort e.children) below ∧
      e.lines o depth = rowText (depth, e) :: below.map rowText) :
    ∃ rows, Outlines o depth es rows ∧
      (es.flatMap fun e => e.lines o depth) = rows.map rowText := by
  induction es with
  | nil => exact ⟨[], .nil depth, rfl⟩
  | cons e es ih =>
      obtain ⟨⟨below, hbelow, hlines⟩, hes⟩ := List.forall_mem_cons.1 h
      obtain ⟨rest, hrest, hafter⟩ := ih hes
      refine ⟨_, .cons (o.putsInOrder_sort e.children) hbelow hrest, ?_⟩
      rw [List.flatMap_cons, hlines, hafter, List.map_cons, List.map_append, List.cons_append]

theorem exists_outlines_lines (o : EntryOrder) [Std.TransCmp o.order] (depth : ℕ) (e : Entry) :
    ∃ below, Outlines o (depth + 1) (o.sort e.children) below ∧
      e.lines o depth = rowText (depth, e) :: below.map rowText := by
  induction e using induction_children generalizing depth with
  | step e ih =>
      obtain ⟨below, hbelow, hlines⟩ := exists_outlines_of_forall (depth + 1) fun x hx =>
        ih x ((o.perm_sort e.children).subset hx) (depth + 1)
      exact ⟨below, hbelow, by rw [lines_eq_cons, hlines]⟩

theorem exists_outlines_listing (h : root.present = true) (o : EntryOrder)
    [Std.TransCmp o.order] :
    ∃ sorted rows, o.PutsInOrder root.children sorted ∧ Outlines o 1 sorted rows ∧
      root.listingLines o = (root.path.text ++ root.ending) :: rows.map rowText := by
  have hchildren : ∀ e ∈ o.sort root.children, ∃ below,
      Outlines o 2 (o.sort e.children) below ∧ e.lines o 1 = rowText (1, e) :: below.map rowText :=
    fun e _ => exists_outlines_lines o 1 e
  obtain ⟨rows, hrows, hlines⟩ := exists_outlines_of_forall 1 hchildren
  exact ⟨_, rows, o.putsInOrder_sort root.children, hrows, by rw [listingLines_eq_cons h, hlines]⟩

/-! ## Trees that hold the same entries -/

/-- Two trees hold the same entries, at all levels in any order. -/
inductive HoldsSame : Entry → Entry → Prop where
  | refl (e : Entry) : HoldsSame e e
  | directory (p : Path) (t : Timestamp) {es fs gs : List Entry} (perm : es.Perm gs)
      (each : List.Forall₂ HoldsSame gs fs) :
      HoldsSame (.directory p t es) (.directory p t fs)

theorem HoldsSame.path_eq (h : HoldsSame e f) : e.path = f.path := by
  cases h <;> rfl

theorem HoldsSame.fact_eq (h : HoldsSame e f) : e.fact = f.fact := by
  cases h <;> rfl

theorem HoldsSame.exists_perm (h : HoldsSame e f) :
    ∃ gs, e.children.Perm gs ∧ List.Forall₂ HoldsSame gs f.children := by
  cases h with
  | refl => exact ⟨e.children, .refl _, List.forall₂_same.2 fun x _ => .refl x⟩
  | directory p t perm each => exact ⟨_, perm, each⟩

theorem HoldsSame.rowText_eq (h : HoldsSame e f) (depth : ℕ) :
    rowText (depth, e) = rowText (depth, f) := by
  have htype : e.isDirectory = f.isDirectory := congrArg Fact.isDirectory h.fact_eq
  have hlength : e.length = f.length := congrArg Fact.length h.fact_eq
  simp only [rowText, ending, name, h.path_eq, htype, hlength]

/-- What is in a directory of two trees gives the same lines, if each entry does. -/
theorem HoldsSame.flatMap_lines_eq (h : HoldsSame e f) (hc : c.Separates e.children)
    (hlines : ∀ a ∈ e.children, ∀ b, HoldsSame a b → a.lines c depth = b.lines c depth) :
    ((c.toEntryOrder.sort e.children).flatMap fun x => x.lines c depth)
      = (c.toEntryOrder.sort f.children).flatMap fun x => x.lines c depth := by
  obtain ⟨gs, hperm, heach⟩ := h.exists_perm
  have hsort : c.toEntryOrder.sort gs = c.toEntryOrder.sort e.children :=
    Comparator.sort_congr hc hperm.symm
  rw [← hsort]
  apply Comparator.flatMap_sort_congr
  refine (List.forall₂_and_left (p := (· ∈ e.children)) _ _ |>.2
    ⟨fun x hx => hperm.mem_iff.2 hx, heach⟩).imp ?_
  rintro a b ⟨ha, hab⟩
  exact ⟨hab.path_eq, hab.fact_eq, hlines a ha b hab⟩

theorem HoldsSame.lines_eq (h : HoldsSame e f)
    (hc : e.Everywhere fun d => c.Separates d.children) (depth : ℕ) :
    e.lines c depth = f.lines c depth := by
  induction e using induction_children generalizing f depth with
  | step e ih =>
      rw [lines_eq_cons, lines_eq_cons, h.rowText_eq,
        h.flatMap_lines_eq (everywhere_iff.1 hc).1 fun a ha b hab =>
          ih a ha hab (hc.child ha) (depth + 1)]

theorem HoldsSame.listing_eq (h : HoldsSame root other)
    (hc : root.Everywhere fun d => c.Separates d.children) :
    other.listing c = root.listing c := by
  have hpresent : root.present = other.present := by cases h <;> rfl
  have hchildren : ((c.toEntryOrder.sort root.children).flatMap fun x => x.lines c 1)
      = (c.toEntryOrder.sort other.children).flatMap fun x => x.lines c 1 :=
    h.flatMap_lines_eq (everywhere_iff.1 hc).1 fun a ha b hab => hab.lines_eq (hc.child ha) 1
  have htype : root.isDirectory = other.isDirectory := congrArg Fact.isDirectory h.fact_eq
  have hlength : root.length = other.length := congrArg Fact.length h.fact_eq
  have hlines : root.listingLines c = other.listingLines c := by
    cases hroot : root.present with
    | true =>
        rw [listingLines_eq_cons hroot, listingLines_eq_cons (hpresent ▸ hroot), hchildren,
          ending, ending, h.path_eq, htype, hlength]
    | false =>
        rw [listingLines, listingLines, ← hpresent, hroot, h.path_eq]
        rfl
  rw [listing, listing, hlines]

/-- By every total preorder, a listing of what was found is the line of the root and one line for
each entry below it, with what is in a directory after the line of the directory, in order and one
level deeper. The listings by name, length or time of two trees that hold the same entries are the
same, if no two entries of a directory have one name. -/
theorem listing_complete (root : Entry) :
    (root.present = true → ∀ (o : EntryOrder) [Std.TransCmp o.order], ∃ sorted rows,
      o.PutsInOrder root.children sorted ∧ Outlines o 1 sorted rows ∧
      (rows.map Prod.snd).Perm root.descendants ∧
      root.listing o = String.join
        (((root.path.text ++ root.ending) :: rows.map rowText).map (· ++ "\n"))) ∧
    ∀ (key : SortKey) (reverse first : Bool) (s : CaseSensitivity) (other : Entry),
      (root.Everywhere fun d => d.children.Pairwise fun a b => s.equals a.name b.name = false) →
      HoldsSame root other →
      other.listing (Comparator.forListing key reverse first s)
        = root.listing (Comparator.forListing key reverse first s) := by
  refine ⟨fun hroot o _ => ?_, fun key reverse first s other hnames hsame => ?_⟩
  · obtain ⟨sorted, rows, hsorted, hrows, hlines⟩ := exists_outlines_listing hroot o
    refine ⟨sorted, rows, hsorted, hrows, ?_, by rw [listing, hlines]⟩
    rw [descendants, walk_eq_flatMap]
    exact hrows.perm.trans (hsorted.perm.flatMap_right preorder)
  · exact hsame.listing_eq fun d hd =>
      Comparator.separates_forListing key reverse first (hnames d hd)

def shelf : Entry :=
  .directory ⟨"/r"⟩ .epoch [.file ⟨"/r/b"⟩ .epoch 5,
    .directory ⟨"/r/d"⟩ .epoch [.file ⟨"/r/d/y"⟩ .epoch 1, .file ⟨"/r/d/X"⟩ .epoch 1],
    .file ⟨"/r/A"⟩ .epoch 5]

def reshelved : Entry :=
  .directory ⟨"/r"⟩ .epoch [
    .directory ⟨"/r/d"⟩ .epoch [.file ⟨"/r/d/X"⟩ .epoch 1, .file ⟨"/r/d/y"⟩ .epoch 1],
    .file ⟨"/r/A"⟩ .epoch 5, .file ⟨"/r/b"⟩ .epoch 5]

theorem holdsSame_reshelved : HoldsSame shelf reshelved := by
  have hinside : HoldsSame
      (.directory ⟨"/r/d"⟩ .epoch [.file ⟨"/r/d/y"⟩ .epoch 1, .file ⟨"/r/d/X"⟩ .epoch 1])
      (.directory ⟨"/r/d"⟩ .epoch [.file ⟨"/r/d/X"⟩ .epoch 1, .file ⟨"/r/d/y"⟩ .epoch 1]) :=
    .directory _ _ (.swap _ _ _) (.cons (.refl _) (.cons (.refl _) .nil))
  refine .directory _ _ ?_ (.cons hinside (.cons (.refl _) (.cons (.refl _) .nil)))
  exact (List.Perm.swap _ _ _).trans ((List.Perm.swap _ _ _).cons _)

def bySize : EntryOrder := Comparator.forListing .size true false .insensitive

theorem listing_complete_shelves :
    shelf.present = true ∧
    (shelf.Everywhere fun d =>
      d.children.Pairwise fun a b => CaseSensitivity.insensitive.equals a.name b.name = false) ∧
    HoldsSame shelf reshelved ∧
    (∃ sorted rows,
      bySize.PutsInOrder shelf.children sorted ∧ Outlines bySize 1 sorted rows ∧
      (rows.map Prod.snd).Perm shelf.descendants ∧
      shelf.listing bySize = String.join
        (((shelf.path.text ++ shelf.ending) :: rows.map rowText).map (· ++ "\n"))) ∧
    reshelved.listing bySize = shelf.listing bySize := by
  have hnames : shelf.Everywhere fun d =>
      d.children.Pairwise fun a b => CaseSensitivity.insensitive.equals a.name b.name = false := by
    decide +kernel
  obtain ⟨hrows, hsame⟩ := listing_complete shelf
  have : Std.TransCmp bySize.order :=
    (Comparator.forListing .size true false .insensitive).transCmp_order
  exact ⟨rfl, hnames, holdsSame_reshelved, hrows rfl bySize,
    hsame .size true false .insensitive reshelved hnames holdsSame_reshelved⟩

end Entry

end TreeWatch
