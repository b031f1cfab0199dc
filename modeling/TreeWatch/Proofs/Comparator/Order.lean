import Mathlib.Data.List.Pairwise
import Mathlib.Data.Prod.Lex
import Mathlib.Data.String.Basic
import Mathlib.Order.Compare
import Mathlib.Order.OrderDual
import TreeWatch.Comparator
import TreeWatch.Proofs.Path.Child

/-!
# Laws of the orders of entries

Every order of entries is a total preorder (`transCmp_order`). The orders for observing go by
a name or a path below any nesting of wrappers. All of them have one shape (`exists_keyedBy`):
a rank of directories and of all else comes first, and within one rank the entries are in the
order of a key, which is also what identity goes by.
-/

namespace TreeWatch

/-! ## Sorted lists -/

section Sorted

variable {α : Type} {cmp : α → α → Ordering} {l m : List α} {a b : α}

theorem isLE_or_isLE [Std.OrientedCmp cmp] (a b : α) :
    ((cmp a b).isLE || (cmp b a).isLE) = true := by
  have hswap : cmp b a = (cmp a b).swap := Std.OrientedCmp.eq_swap
  cases hab : cmp a b <;> simp [hswap, hab]

theorem pairwise_mergeSort_isLE [Std.TransCmp cmp] (l : List α) :
    (l.mergeSort fun a b => (cmp a b).isLE).Pairwise fun a b => (cmp a b).isLE = true := by
  apply List.pairwise_mergeSort
  · exact fun a b c hab hbc => Std.TransCmp.isLE_trans hab hbc
  · exact isLE_or_isLE

/-- What the order does not tell apart is left as it is. -/
theorem pair_sublist_mergeSort_isLE [Std.TransCmp cmp] (h : [a, b].Sublist l)
    (hab : cmp a b = .eq) : [a, b].Sublist (l.mergeSort fun a b => (cmp a b).isLE) := by
  apply List.pair_sublist_mergeSort
  · exact fun a b c hab hbc => Std.TransCmp.isLE_trans hab hbc
  · exact isLE_or_isLE
  · rw [hab, Ordering.isLE_eq]
  · exact h

theorem eq_of_pairwise_ne_eq [Std.OrientedCmp cmp] (h : l.Pairwise fun a b => cmp a b ≠ .eq)
    (ha : a ∈ l) (hb : b ∈ l) (hab : cmp a b = .eq) : a = b := by
  have hsymm : Std.Symm fun a b => cmp a b ≠ .eq :=
    ⟨fun a b hne hba => hne (Std.OrientedCmp.eq_symm hba)⟩
  by_contra hne
  exact h.forall ha hb hne hab

theorem eq_of_perm_of_pairwise_isLE [Std.OrientedCmp cmp]
    (h : l.Pairwise fun a b => cmp a b ≠ .eq) (hperm : l.Perm m)
    (hl : l.Pairwise fun a b => (cmp a b).isLE = true)
    (hm : m.Pairwise fun a b => (cmp a b).isLE = true) : l = m := by
  refine hperm.eq_of_pairwise ?_ hl hm
  intro a b ha hb hab hba
  refine eq_of_pairwise_ne_eq h ha (hperm.symm.subset hb) ?_
  have hswap : cmp b a = (cmp a b).swap := Std.OrientedCmp.eq_swap
  cases horder : cmp a b <;> simp_all

end Sorted

/-! ## Orders of entries -/

instance : Std.TransOrd Timestamp :=
  inferInstanceAs (Std.TransCmp (compareOn Timestamp.nanoseconds))

namespace Comparator

theorem directoryRank_eq_compare (a b : Entry) :
    directoryRank a b = compare (!a.isDirectory).toNat (!b.isDirectory).toNat := by
  rw [directoryRank]
  cases a.isDirectory <;> cases b.isDirectory <;> rfl

instance : Std.TransCmp directoryRank := by
  have h : directoryRank = compareOn fun e : Entry => (!e.isDirectory).toNat := by
    funext a b
    exact directoryRank_eq_compare a b
  rw [h]
  infer_instance

theorem transCmp_order : (c : Comparator) → Std.TransCmp c.order
  | name s => inferInstanceAs (Std.TransCmp (compareOn fun e : Entry => s.fold e.name))
  | path s => inferInstanceAs (Std.TransCmp (compareOn fun e : Entry => s.fold e.path.text))
  | directoriesFirst inner =>
      have := transCmp_order inner
      inferInstanceAs (Std.TransCmp (compareLex directoryRank inner.order))
  | reversed inner =>
      have := transCmp_order inner
      inferInstanceAs (Std.TransCmp fun a b => inner.order b a)
  | size => inferInstanceAs (Std.TransCmp (compareOn Entry.length))
  | modified => inferInstanceAs (Std.TransCmp (compareOn Entry.modified))
  | composite parts => transCmp_orderBy parts
where
  transCmp_orderBy : (parts : List Comparator) → Std.TransCmp (order.orderBy parts)
  | [] => inferInstanceAs (Std.TransCmp (compareOn fun _ : Entry => ()))
  | c :: cs =>
      have := transCmp_order c
      have := transCmp_orderBy cs
      inferInstanceAs (Std.TransCmp (compareLex c.order (order.orderBy cs)))

/-- The case sensitivity of an order for observing: one by name or by path, below any nesting of
wrappers. The orders that only present a snapshot have none. -/
def sensitivity? : Comparator → Option CaseSensitivity
  | name s => some s
  | path s => some s
  | directoriesFirst inner => inner.sensitivity?
  | reversed inner => inner.sensitivity?
  | size => none
  | modified => none
  | composite _ => none

def identity : Comparator → Entry → String
  | name s, e => s.fold e.name
  | path s, e => s.fold e.path.text
  | directoriesFirst inner, e => inner.identity e
  | reversed inner, e => inner.identity e
  | _, _ => ""

/-- Two entries are the same for an order for observing if the texts agree. -/
theorem same_iff_identity_eq {c : Comparator} (hc : c.sensitivity?.isSome) (a b : Entry) :
    c.same a b = true ↔ c.identity a = c.identity b := by
  induction c using Comparator.sensitivity?.induct with
  | case1 s => simp [same, order, identity, CaseSensitivity.order]
  | case2 s => simp [same, order, identity, CaseSensitivity.order]
  | case3 inner ih => exact ih hc
  | case4 inner ih => exact ih hc
  | case5 => simp [sensitivity?] at hc
  | case6 => simp [sensitivity?] at hc
  | case7 => simp [sensitivity?] at hc

theorem identity_congr (c : Comparator) {a b : Entry} (h : a.path = b.path) :
    c.identity a = c.identity b := by
  induction c using Comparator.sensitivity?.induct with
  | case1 s => simp [identity, Entry.name, h]
  | case2 s => simp [identity, h]
  | case3 inner ih => exact ih
  | case4 inner ih => exact ih
  | case5 => rfl
  | case6 => rfl
  | case7 => rfl

theorem same_of_path_eq {c : Comparator} (hc : c.sensitivity?.isSome) {a b : Entry}
    (h : a.path = b.path) : c.same a b = true :=
  (same_iff_identity_eq hc a b).2 (c.identity_congr h)

/-- The entries of a directory that an order for observing takes for the same, with upper and
lower case told apart, have the same path. -/
theorem path_eq_of_identity_eq {c : Comparator} {s : CaseSensitivity}
    (hc : c.sensitivity? = some s) (hs : s.isSensitive = true) {dir : Path} {a b : Entry}
    {m n : String} (hm : IsName m) (hn : IsName n) (ha : a.path = dir.child m)
    (hb : b.path = dir.child n) (h : c.identity a = c.identity b) : a.path = b.path := by
  induction c using Comparator.sensitivity?.induct with
  | case1 t =>
      cases hc
      have hmn : m = n := by
        simpa [identity, CaseSensitivity.fold, hs, Entry.name, ha, hb, hm, hn] using h
      rw [ha, hb, hmn]
  | case2 t =>
      cases hc
      have htext : a.path.text = b.path.text := by
        simpa [identity, CaseSensitivity.fold, hs] using h
      calc a.path = ⟨a.path.text⟩ := rfl
        _ = ⟨b.path.text⟩ := by rw [htext]
  | case3 inner ih => exact ih hc h
  | case4 inner ih => exact ih hc h
  | case5 => cases hc
  | case6 => cases hc
  | case7 => cases hc

/-- The shape of the orders for observing: by the rank of what is and what is no directory,
then by identity in one direction or the other. -/
theorem exists_order_eq {c : Comparator} (hc : c.sensitivity?.isSome) :
    ∃ (rank : Bool → ℕ) (descending : Bool), ∀ a b, c.order a b =
      (compare (rank a.isDirectory) (rank b.isDirectory)).then
        (if descending then compare (c.identity b) (c.identity a)
          else compare (c.identity a) (c.identity b)) := by
  induction c using Comparator.sensitivity?.induct with
  | case1 s => exact ⟨fun _ => 0, false, fun a b => rfl⟩
  | case2 s => exact ⟨fun _ => 0, false, fun a b => rfl⟩
  | case3 inner ih =>
      obtain ⟨rank, descending, h⟩ := ih hc
      refine ⟨fun d => (!d).toNat, descending, fun a b => ?_⟩
      rw [order, directoryRank_eq_compare, h]
      have hgt : compare 1 0 = Ordering.gt := rfl
      have hlt : compare 0 1 = Ordering.lt := rfl
      cases a.isDirectory <;> cases b.isDirectory <;> simp [identity, hgt, hlt]
  | case4 inner ih =>
      obtain ⟨rank, descending, h⟩ := ih hc
      refine ⟨fun d => rank !d, !descending, fun a b => ?_⟩
      rw [order, h]
      cases a.isDirectory <;> cases b.isDirectory <;> cases descending <;> simp [identity]
  | case5 => simp [sensitivity?] at hc
  | case6 => simp [sensitivity?] at hc
  | case7 => simp [sensitivity?] at hc

end Comparator

namespace EntryOrder

variable {κ : Type}

def position (rank : Bool → ℕ) (key : Entry → κ) (e : Entry) : ℕ ×ₗ κ :=
  toLex (rank e.isDirectory, key e)

theorem key_eq_of_position_eq {rank : Bool → ℕ} {key : Entry → κ} {a b : Entry}
    (h : position rank key a = position rank key b) : key a = key b :=
  congrArg (fun x => (ofLex x).2) h

theorem position_eq {rank : Bool → ℕ} {key : Entry → κ} {a b : Entry}
    (htype : a.isDirectory = b.isDirectory) (hkey : key a = key b) :
    position rank key a = position rank key b := by
  rw [position, position, htype, hkey]

variable [LinearOrder κ]

theorem position_lt_iff {rank : Bool → ℕ} {key : Entry → κ} {a b : Entry} :
    position rank key a < position rank key b ↔ rank a.isDirectory < rank b.isDirectory ∨
      rank a.isDirectory = rank b.isDirectory ∧ key a < key b :=
  Prod.Lex.toLex_lt_toLex

theorem rank_le_of_position_lt {rank : Bool → ℕ} {key : Entry → κ} {a b : Entry}
    (h : position rank key a < position rank key b) : rank a.isDirectory ≤ rank b.isDirectory := by
  rcases position_lt_iff.1 h with h | h
  · exact h.le
  · exact h.1.le

/-- Of two versions of one entry, the one that is sorted first has the lower rank. -/
theorem rank_lt_of_position_lt {rank : Bool → ℕ} {key : Entry → κ} {a b : Entry}
    (hkey : key a = key b) (h : position rank key a < position rank key b) :
    rank a.isDirectory < rank b.isDirectory := by
  rcases position_lt_iff.1 h with h | ⟨_, h⟩
  · exact h
  · exact absurd hkey h.ne

theorem key_le_of_position_le {rank : Bool → ℕ} {key : Entry → κ} {a b : Entry}
    (htype : a.isDirectory = b.isDirectory) (h : position rank key a ≤ position rank key b) :
    key a ≤ key b := by
  by_contra hkey
  refine absurd h (not_le.2 (position_lt_iff.2 (.inr ⟨by rw [htype], not_le.1 hkey⟩)))

/-- An order that goes by a rank of directories and of all else, then by a key, and an identity
that goes by the key alone. -/
structure KeyedBy (o : EntryOrder) (rank : Bool → ℕ) (key : Entry → κ) : Prop where
  order_eq : ∀ a b, o.order a b =
    (compare (rank a.isDirectory) (rank b.isDirectory)).then (compare (key a) (key b))
  same_iff : ∀ a b, o.same a b = true ↔ key a = key b

namespace KeyedBy

variable {o : EntryOrder} {rank : Bool → ℕ} {key : Entry → κ}

theorem order_eq_compare (h : o.KeyedBy rank key) (a b : Entry) :
    o.order a b = compare (position rank key a) (position rank key b) := by
  rw [h.order_eq]
  rfl

theorem order_eq_lt_iff (h : o.KeyedBy rank key) {a b : Entry} :
    o.order a b = .lt ↔ position rank key a < position rank key b := by
  rw [h.order_eq_compare, compare_lt_iff_lt]

theorem order_eq_gt_iff (h : o.KeyedBy rank key) {a b : Entry} :
    o.order a b = .gt ↔ position rank key b < position rank key a := by
  rw [h.order_eq_compare, compare_gt_iff_gt]

theorem order_eq_eq_iff (h : o.KeyedBy rank key) {a b : Entry} :
    o.order a b = .eq ↔ position rank key a = position rank key b := by
  rw [h.order_eq_compare, compare_eq_iff_eq]

end KeyedBy

end EntryOrder

/-- The orders for observing go by a rank, then by a key that identity goes by. -/
theorem Comparator.exists_keyedBy {c : Comparator} (hc : c.sensitivity?.isSome) :
    ∃ (κ : Type) (_ : LinearOrder κ) (rank : Bool → ℕ) (key : Entry → κ),
      c.toEntryOrder.KeyedBy rank key := by
  obtain ⟨rank, descending, horder⟩ := exists_order_eq hc
  cases descending with
  | false =>
      exact ⟨String, inferInstance, rank, c.identity, horder, same_iff_identity_eq hc⟩
  | true =>
      refine ⟨Stringᵒᵈ, inferInstance, rank, fun e => OrderDual.toDual (c.identity e),
        horder, fun a b => ?_⟩
      rw [OrderDual.toDual_inj]
      exact same_iff_identity_eq hc a b

end TreeWatch
