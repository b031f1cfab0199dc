import TreeWatch.Proofs.Comparator.Order

/-!
# Order and identity

Wrappers change the order of entries and leave their identity to the order at the core, so two
entries are the same if the core does not tell them apart (`same_iff_core`). What an order does
not tell apart is the same, and of two entries of one type the converse holds too (`lawful`).
-/

namespace TreeWatch

/-- An order of entries is a total preorder, identity is an equivalence, and the two differ at
most on entries of which one is a directory and the other is not. -/
structure EntryOrder.Lawful (o : EntryOrder) : Prop where
  order_self : ∀ a, o.order a a = .eq
  order_swap : ∀ a b, o.order b a = (o.order a b).swap
  order_trans : ∀ a b c, (o.order a b).isLE = true → (o.order b c).isLE = true →
    (o.order a c).isLE = true
  same_equivalence : Equivalence fun a b => o.same a b = true
  same_of_order_eq : ∀ a b, o.order a b = .eq → o.same a b = true
  same_iff_of_type_eq : ∀ a b, a.isDirectory = b.isDirectory →
    (o.same a b = true ↔ o.order a b = .eq)

namespace Comparator

theorem order_swap (c : Comparator) (a b : Entry) : c.order b a = (c.order a b).swap :=
  have := c.transCmp_order
  Std.OrientedCmp.eq_swap

theorem order_eq_comm (c : Comparator) {a b : Entry} :
    c.order b a = .eq ↔ c.order a b = .eq := by
  rw [c.order_swap a b, Ordering.swap_eq_eq]

theorem directoryRank_of_type_eq {a b : Entry} (h : a.isDirectory = b.isDirectory) :
    directoryRank a b = .eq := by
  rw [directoryRank, h]
  cases b.isDirectory <;> rfl

def core : Comparator → Comparator
  | directoriesFirst inner => inner.core
  | reversed inner => inner.core
  | c => c

theorem same_iff_core (c : Comparator) {a b : Entry} :
    c.same a b = true ↔ c.core.order a b = .eq := by
  induction c using Comparator.core.induct with
  | case1 inner ih => exact ih
  | case2 inner ih => exact ih
  | case3 c hfirst hreversed =>
      rw [same.eq_3 c a b hfirst hreversed, core.eq_3 c hfirst hreversed, beq_iff_eq]

/-- What an order does not tell apart is not told apart at its core. -/
theorem core_eq_of_order_eq (c : Comparator) {a b : Entry} (h : c.order a b = .eq) :
    c.core.order a b = .eq := by
  induction c using Comparator.core.induct generalizing a b with
  | case1 inner ih =>
      rw [order, Ordering.then_eq_eq] at h
      exact ih h.2
  | case2 inner ih => exact inner.core.order_eq_comm.1 (ih h)
  | case3 c hfirst hreversed => rwa [core.eq_3 c hfirst hreversed]

/-- Of two entries of one type, an order tells apart what is told apart at its core. -/
theorem order_eq_of_core_eq (c : Comparator) {a b : Entry}
    (htype : a.isDirectory = b.isDirectory) (h : c.core.order a b = .eq) :
    c.order a b = .eq := by
  induction c using Comparator.core.induct generalizing a b with
  | case1 inner ih =>
      rw [order, Ordering.then_eq_eq]
      exact ⟨directoryRank_of_type_eq htype, ih htype h⟩
  | case2 inner ih => exact ih htype.symm (inner.core.order_eq_comm.1 h)
  | case3 c hfirst hreversed => rwa [core.eq_3 c hfirst hreversed] at h

theorem same_comm (c : Comparator) (a b : Entry) : c.same a b = c.same b a := by
  rw [Bool.eq_iff_iff, same_iff_core, same_iff_core, order_eq_comm]

theorem equivalence_same (c : Comparator) : Equivalence fun a b => c.same a b = true where
  refl _ :=
    have := c.core.transCmp_order
    c.same_iff_core.2 Std.ReflCmp.compare_self
  symm {a b} hab := (c.same_comm a b).symm.trans hab
  trans hab hbd :=
    have := c.core.transCmp_order
    c.same_iff_core.2 (Std.TransCmp.eq_trans (c.same_iff_core.1 hab) (c.same_iff_core.1 hbd))

/-- However orders are nested, each is a total preorder, identity is an equivalence, and all that
an order does not tell apart is the same; of entries of one type it tells apart all that is not. -/
theorem lawful (c : Comparator) : c.toEntryOrder.Lawful := by
  have : Std.TransCmp c.toEntryOrder.order := c.transCmp_order
  constructor
  case order_self =>
    intro a
    exact Std.ReflCmp.compare_self
  case order_swap => exact c.order_swap
  case order_trans =>
    intro a b d hab hbd
    exact Std.TransCmp.isLE_trans hab hbd
  case same_equivalence => exact c.equivalence_same
  case same_of_order_eq =>
    intro a b h
    exact c.same_iff_core.2 (c.core_eq_of_order_eq h)
  case same_iff_of_type_eq =>
    intro a b htype
    exact c.same_iff_core.trans ⟨c.order_eq_of_core_eq htype, c.core_eq_of_order_eq⟩

/-- Directories first and names from last to first, in any case: a file and a directory of one
name are the same, and the order tells them apart. -/
example :
    let c := directoriesFirst (reversed (name .insensitive))
    let a := Entry.directory ⟨"/r/A"⟩ .epoch []
    let b := Entry.file ⟨"/r/a"⟩ .epoch 0
    c.same a b = true ∧ c.order a b = .lt := by
  decide +kernel

end Comparator

end TreeWatch
