import TreeWatch.Listing
import TreeWatch.Proofs.Comparator.Identity

/-!
# The orders of listings

Entries that an order tells apart can be put in order in one way only (`sort_eq_of_perm`). So the
reversed order turns them round (`sort_reversed`), and directories come first without any other
change (`sort_directoriesFirst`). The orders of listings go by lengths or times, by wrappers, and at
last by names, and so they tell apart what has different names (`separates_forListing`).
-/

namespace TreeWatch

namespace EntryOrder

theorem perm_sort (o : EntryOrder) (es : List Entry) : (o.sort es).Perm es :=
  List.mergeSort_perm es _

theorem pairwise_sort (o : EntryOrder) [Std.TransCmp o.order] (es : List Entry) :
    (o.sort es).Pairwise fun a b => (o.order a b).isLE = true :=
  pairwise_mergeSort_isLE es

end EntryOrder

namespace Comparator

variable {c : Comparator} {key : SortKey} {s : CaseSensitivity} {es fs l : List Entry} {a b : Entry}

def Separates (c : Comparator) (es : List Entry) : Prop :=
  es.Pairwise fun a b => c.order a b ≠ .eq

theorem perm_sort (c : Comparator) (es : List Entry) : (c.sort es).Perm es :=
  c.toEntryOrder.perm_sort es

theorem pairwise_sort (c : Comparator) (es : List Entry) :
    (c.sort es).Pairwise fun a b => (c.order a b).isLE = true :=
  have : Std.TransCmp c.toEntryOrder.order := c.transCmp_order
  c.toEntryOrder.pairwise_sort es

/-- Entries that an order tells apart can be put in order in one way only. -/
theorem sort_eq_of_perm (h : c.Separates es) (hperm : l.Perm es)
    (hl : l.Pairwise fun a b => (c.order a b).isLE = true) : c.sort es = l := by
  have := c.transCmp_order
  have hsort : (c.sort es).Pairwise fun a b => c.order a b ≠ .eq :=
    ((c.perm_sort es).pairwise_iff fun hne heq => hne (c.order_eq_comm.1 heq)).2 h
  exact eq_of_perm_of_pairwise_isLE hsort ((c.perm_sort es).trans hperm.symm) (c.pairwise_sort es)
    hl

theorem sort_congr (h : c.Separates es) (hperm : fs.Perm es) : c.sort fs = c.sort es :=
  (sort_eq_of_perm h ((c.perm_sort fs).trans hperm) (c.pairwise_sort fs)).symm

theorem Separates.of_core (h : c.core.Separates es) : c.Separates es :=
  List.Pairwise.imp (fun hne heq => hne (c.core_eq_of_order_eq heq)) h

theorem sort_reversed (h : (reversed c).Separates es) :
    (reversed c).sort es = (c.sort es).reverse := by
  apply sort_eq_of_perm h ((List.reverse_perm _).trans (c.perm_sort es))
  exact List.pairwise_reverse.2 (c.pairwise_sort es)

/-- Entries of one type are in the same order whether directories come first or not. -/
theorem pairwise_filter_sort (c : Comparator) (es : List Entry) {keep : Entry → Bool}
    (hkeep : ∀ a b, keep a = true → keep b = true → a.isDirectory = b.isDirectory) :
    ((c.sort es).filter keep).Pairwise
      fun a b => ((directoriesFirst c).order a b).isLE = true := by
  refine List.Pairwise.imp_of_mem ?_ ((c.pairwise_sort es).filter keep)
  intro a b ha hb hab
  have htype := hkeep a b (List.mem_filter.1 ha).2 (List.mem_filter.1 hb).2
  rwa [order, directoryRank_of_type_eq htype, Ordering.eq_then]

theorem sort_directoriesFirst (h : (directoriesFirst c).Separates es) :
    (directoriesFirst c).sort es = (c.sort es).filter (·.isDirectory) ++
      (c.sort es).filter (!·.isDirectory) := by
  apply sort_eq_of_perm h ((List.filter_append_perm _ _).trans (c.perm_sort es))
  refine List.pairwise_append.2 ⟨c.pairwise_filter_sort es (by simp_all),
    c.pairwise_filter_sort es (by simp_all), fun a ha b hb => ?_⟩
  have hrank : directoryRank a b = .lt := by
    simp only [List.mem_filter, Bool.not_eq_true'] at ha hb
    rw [directoryRank, ha.2, hb.2]
  rw [order, hrank]
  rfl

/-! ## By name, by length and by time -/

theorem core_forListing (key : SortKey) (reverse first : Bool) (s : CaseSensitivity) :
    (forListing key reverse first s).core = forListing key false false s := by
  cases key <;> cases reverse <;> cases first <;> rfl

/-- Whatever a listing goes by, what it does not tell apart has the same name. -/
theorem equals_of_forListing_eq (h : (forListing key false false s).order a b = .eq) :
    s.equals a.name b.name = true := by
  rw [CaseSensitivity.equals, beq_iff_eq]
  cases key with
  | name => exact h
  | size => simp_all [forListing, order, order.orderBy]
  | modified => simp_all [forListing, order, order.orderBy]

theorem separates_forListing (key : SortKey) (reverse first : Bool)
    (h : es.Pairwise fun a b => s.equals a.name b.name = false) :
    (forListing key reverse first s).Separates es := by
  apply Separates.of_core
  rw [core_forListing]
  refine h.imp fun hne heq => ?_
  rw [equals_of_forListing_eq heq] at hne
  contradiction

/-- Whatever a listing goes by, in reverse it is turned round, and with directories first they are
moved to the front without any other change; and the order in which entries of different names are
given does not matter. -/
theorem sort_forListing (key : SortKey)
    (h : es.Pairwise fun a b => s.equals a.name b.name = false) :
    (forListing key true false s).sort es = ((forListing key false false s).sort es).reverse ∧
    (∀ reverse, (forListing key reverse true s).sort es =
      ((forListing key reverse false s).sort es).filter (·.isDirectory) ++
        ((forListing key reverse false s).sort es).filter (!·.isDirectory)) ∧
    ∀ reverse first fs, fs.Perm es →
      (forListing key reverse first s).sort fs = (forListing key reverse first s).sort es := by
  refine ⟨sort_reversed (separates_forListing key true false h), fun reverse => ?_,
    fun reverse first fs hperm => sort_congr (separates_forListing key reverse first h) hperm⟩
  exact sort_directoriesFirst (separates_forListing key reverse true h)

def siblings : List Entry :=
  [.file ⟨"/r/b"⟩ .epoch 5, .directory ⟨"/r/z"⟩ .epoch [], .file ⟨"/r/A"⟩ .epoch 5,
    .directory ⟨"/r/d"⟩ .epoch []]

theorem sort_forListing_siblings :
    (siblings.Pairwise fun a b => CaseSensitivity.insensitive.equals a.name b.name = false) ∧
    (forListing .size true false .insensitive).sort siblings
      = ((forListing .size false false .insensitive).sort siblings).reverse ∧
    (forListing .size true true .insensitive).sort siblings.reverse
      = ((forListing .size true false .insensitive).sort siblings).filter (·.isDirectory) ++
        ((forListing .size true false .insensitive).sort siblings).filter (!·.isDirectory) := by
  have hnames : siblings.Pairwise
      fun a b => CaseSensitivity.insensitive.equals a.name b.name = false := by decide +kernel
  obtain ⟨hreverse, hfirst, hgiven⟩ := sort_forListing .size hnames
  refine ⟨hnames, hreverse, ?_⟩
  rw [hgiven true true siblings.reverse (List.reverse_perm siblings)]
  exact hfirst true

/-- Directories stay on top in reverse, and what is of one length goes by name. -/
example : ((forListing .size true true .insensitive).sort siblings).map Entry.name
    = ["z", "d", "b", "A"] := by
  cbv

end Comparator

end TreeWatch
