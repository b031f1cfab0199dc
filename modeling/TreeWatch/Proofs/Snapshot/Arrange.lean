import Mathlib.Data.List.Nodup
import Mathlib.Data.List.Pairwise
import TreeWatch.Proofs.Comparator.Order
import TreeWatch.Proofs.Entry.Tree
import TreeWatch.Snapshot

/-!
# What is kept of a directory

The entries of a directory are sorted, ties go by name, and of neighbours that the order does not
tell apart the first is kept. What is left is strictly increasing (`pairwise_arrange`). If the
names are distinct, the order in which the entries were found does not matter
(`arrange_eq_of_perm`), and what is kept of those that the order does not tell apart is the one
with the least name (`mem_arrange_iff`).
-/

namespace TreeWatch

namespace Comparator

/-- The order of two entries is a matter of their paths and of what is known of them. -/
theorem order_congr {a a' b b' : Entry} (ha : a.path = a'.path) (hb : b.path = b'.path)
    (hfa : a.fact = a'.fact) (hfb : b.fact = b'.fact) :
    (c : Comparator) → c.order a b = c.order a' b'
  | name s => by simp only [order, Entry.name, ha, hb]
  | path s => by simp only [order, ha, hb]
  | directoriesFirst inner => by
      have hda : a.isDirectory = a'.isDirectory := congrArg Fact.isDirectory hfa
      have hdb : b.isDirectory = b'.isDirectory := congrArg Fact.isDirectory hfb
      rw [order, order, directoryRank_eq_compare, directoryRank_eq_compare, hda, hdb,
        order_congr ha hb hfa hfb inner]
  | reversed inner => order_congr hb ha hfb hfa inner
  | size => by
      have hla : a.length = a'.length := congrArg Fact.length hfa
      have hlb : b.length = b'.length := congrArg Fact.length hfb
      rw [order, order, hla, hlb]
  | modified => by
      have hma : a.modified = a'.modified := congrArg Fact.modified hfa
      have hmb : b.modified = b'.modified := congrArg Fact.modified hfb
      rw [order, order, hma, hmb]
  | composite parts => orderBy_congr parts
where
  orderBy_congr : (parts : List Comparator) →
      order.orderBy parts a b = order.orderBy parts a' b'
  | [] => rfl
  | c :: cs => by
      rw [order.orderBy, order.orderBy, order_congr ha hb hfa hfb c, orderBy_congr cs]

end Comparator

namespace EntryOrder

/-- A total preorder that goes by paths and by what is known of entries, whatever is in them. -/
class Plain (o : EntryOrder) : Prop extends Std.TransCmp o.order where
  order_congr {a a' b b' : Entry} : a.path = a'.path → b.path = b'.path → a.fact = a'.fact →
    b.fact = b'.fact → o.order a b = o.order a' b'

instance (c : Comparator) : c.toEntryOrder.Plain where
  toTransCmp := c.transCmp_order
  order_congr ha hb hfa hfb := c.order_congr ha hb hfa hfb

variable {o : EntryOrder} {es fs : List Entry}

theorem sublist_dropTiesAfter (o : EntryOrder) (last : Entry) (es : List Entry) :
    (o.dropTiesAfter last es).Sublist es := by
  induction es generalizing last with
  | nil => exact .refl _
  | cons e es ih =>
      rw [dropTiesAfter]
      split
      · exact (ih last).cons e
      · exact (ih e).cons_cons e

theorem sublist_dropTies (o : EntryOrder) (es : List Entry) : (o.dropTies es).Sublist es := by
  cases es with
  | nil => exact .refl _
  | cons e es => exact (sublist_dropTiesAfter o e es).cons_cons e

theorem pairwise_dropTiesAfter [Std.TransCmp o.order] {last : Entry} {es : List Entry}
    (h : (last :: es).Pairwise fun a b => (o.order a b).isLE) :
    (last :: o.dropTiesAfter last es).Pairwise fun a b => o.order a b = .lt := by
  induction es generalizing last with
  | nil => simp [dropTiesAfter]
  | cons e es ih =>
      obtain ⟨hlast, hes⟩ := List.pairwise_cons.1 h
      rw [dropTiesAfter]
      split
      · exact ih (List.pairwise_cons.2
          ⟨fun x hx => hlast x (List.mem_cons_of_mem e hx), (List.pairwise_cons.1 hes).2⟩)
      · rename_i hne
        have hlt : o.order last e = .lt := by
          have hle := hlast e List.mem_cons_self
          cases hlast : o.order last e <;> simp_all
        refine List.pairwise_cons.2 ⟨fun x hx => ?_, ih hes⟩
        rcases List.mem_cons.1 hx with rfl | hx
        · exact hlt
        · exact Std.TransCmp.lt_trans hlt ((List.pairwise_cons.1 (ih hes)).1 x hx)

instance transCmp_byName [Std.TransCmp o.order] : Std.TransCmp o.byName :=
  inferInstanceAs (Std.TransCmp (compareLex o.order (compareOn Entry.name)))

def sorted (o : EntryOrder) (es : List Entry) : List Entry :=
  es.mergeSort fun a b => (o.byName a b).isLE

theorem perm_sorted (o : EntryOrder) (es : List Entry) : (o.sorted es).Perm es :=
  List.mergeSort_perm es _

theorem pairwise_sorted [Std.TransCmp o.order] (es : List Entry) :
    (o.sorted es).Pairwise fun a b => (o.byName a b).isLE :=
  pairwise_mergeSort_isLE es

theorem pairwise_arrange [Std.TransCmp o.order] (es : List Entry) :
    (o.arrange es).Pairwise fun a b => o.order a b = .lt := by
  have hle := (pairwise_sorted (o := o) es).imp fun hab => (Ordering.isLE_then_iff_and.1 hab).1
  change (o.dropTies (o.sorted es)).Pairwise _
  cases hm : o.sorted es with
  | nil => exact .nil
  | cons e rest => exact pairwise_dropTiesAfter (hm ▸ hle)

theorem eq_of_mem_arrange [Std.TransCmp o.order] {a b : Entry} (ha : a ∈ o.arrange es)
    (hb : b ∈ o.arrange es) (hab : o.order a b = .eq) : a = b := by
  have hne : (o.arrange es).Pairwise fun a b => o.order a b ≠ .eq :=
    (pairwise_arrange es).imp fun hlt => by simp [hlt]
  exact eq_of_pairwise_ne_eq hne ha hb hab

theorem subperm_arrange (o : EntryOrder) (es : List Entry) : (o.arrange es).Subperm es :=
  (sublist_dropTies o _).subperm.trans (perm_sorted o es).subperm

theorem name_eq_of_byName_eq {a b : Entry} (h : o.byName a b = .eq) : a.name = b.name := by
  rw [byName, Ordering.then_eq_eq] at h
  exact Std.LawfulEqCmp.eq_of_compare h.2

theorem arrange_eq_of_perm [Std.TransCmp o.order] (h : es.Perm fs)
    (hes : (es.map Entry.name).Nodup) : o.arrange es = o.arrange fs := by
  have hnodup : ((o.sorted es).map Entry.name).Nodup :=
    ((perm_sorted o es).map Entry.name).nodup_iff.2 hes
  have hne : (o.sorted es).Pairwise fun a b => o.byName a b ≠ .eq :=
    (List.pairwise_map.1 hnodup).imp fun hname heq => hname (name_eq_of_byName_eq heq)
  have hperm : (o.sorted es).Perm (o.sorted fs) :=
    (perm_sorted o es).trans (h.trans (perm_sorted o fs).symm)
  exact congrArg o.dropTies
    (eq_of_perm_of_pairwise_isLE hne hperm (pairwise_sorted es) (pairwise_sorted fs))

/-- What is dropped has a tie with something that is kept, under a lesser name. -/
theorem exists_mem_dropTiesAfter [Std.TransCmp o.order] {last x : Entry}
    (h : (last :: es).Pairwise fun a b => (o.byName a b).isLE) (hx : x ∈ last :: es) :
    ∃ r ∈ last :: o.dropTiesAfter last es, o.order r x = .eq ∧ r.name ≤ x.name := by
  have hself (e : Entry) : o.order e e = .eq := Std.ReflCmp.compare_self
  induction es generalizing last with
  | nil => exact ⟨x, hx, hself x, le_refl _⟩
  | cons a es ih =>
      obtain ⟨hlast, hes⟩ := List.pairwise_cons.1 h
      rw [dropTiesAfter]
      split
      · rename_i htie
        rcases List.mem_cons.1 hx with rfl | hx
        · exact ⟨x, List.mem_cons_self, hself x, le_refl _⟩
        rcases List.mem_cons.1 hx with rfl | hx
        · -- what is dropped comes after what it ties with
          have hle := hlast x List.mem_cons_self
          rw [byName, htie, Ordering.eq_then, ← Ordering.ne_gt_iff_isLE] at hle
          exact ⟨last, List.mem_cons_self, htie, compare_le_iff_le.1 hle⟩
        · exact ih (h.sublist (by simp)) (List.mem_cons_of_mem last hx)
      · rcases List.mem_cons.1 hx with rfl | hx
        · exact ⟨x, List.mem_cons_self, hself x, le_refl _⟩
        · obtain ⟨r, hr, hrx⟩ := ih hes hx
          exact ⟨r, List.mem_cons_of_mem last hr, hrx⟩

theorem exists_mem_arrange [Std.TransCmp o.order] {x : Entry} (hx : x ∈ es) :
    ∃ r ∈ o.arrange es, o.order r x = .eq ∧ r.name ≤ x.name := by
  have hmem : x ∈ o.sorted es := (perm_sorted o es).mem_iff.2 hx
  have hsorted := pairwise_sorted (o := o) es
  change ∃ r ∈ o.dropTies (o.sorted es), _
  cases hm : o.sorted es with
  | nil => simp [hm] at hmem
  | cons e rest => exact exists_mem_dropTiesAfter (hm ▸ hsorted) (hm ▸ hmem)

/-- Of the entries that the order does not tell apart, the one with the least name is kept. -/
theorem mem_arrange_iff [Std.TransCmp o.order] (hes : (es.map Entry.name).Nodup) {e : Entry} :
    e ∈ o.arrange es ↔ e ∈ es ∧ ∀ x ∈ es, o.order x e = .eq → ¬ x.name < e.name := by
  constructor
  · intro he
    refine ⟨(subperm_arrange o es).subset he, fun x hx hxe hlt => ?_⟩
    obtain ⟨r, hr, hrx, hle⟩ := exists_mem_arrange (o := o) hx
    have hre : o.order r e = .eq := Std.TransCmp.eq_trans hrx hxe
    have heq : r = e := eq_of_mem_arrange hr he hre
    exact absurd (heq ▸ hle) (not_le.2 hlt)
  · rintro ⟨he, hleast⟩
    obtain ⟨r, hr, hre, hle⟩ := exists_mem_arrange (o := o) he
    have hres : r ∈ es := (subperm_arrange o es).subset hr
    have hname : r.name = e.name := le_antisymm hle (not_lt.1 (hleast r hres hre))
    exact List.inj_on_of_nodup_map hes hres he hname ▸ hr

end EntryOrder

end TreeWatch
