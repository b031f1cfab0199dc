import Mathlib.Data.List.Nodup
import Mathlib.Data.List.Pairwise
import TreeWatch.Proofs.Diff.Pairing
import TreeWatch.Proofs.Entry.Tree

/-!
# One sibling, one pairing

If no two old entries of a directory are the same and no two new ones are, everything that is
the same as one entry ends up in one pairing: the versions in different pairings are never the
same (`pairwise_key_ne_pairings`). For the orders that tell the names in a directory apart
(`ByPath`) each pairing is therefore about one path of its own (`nodup_path_pairings`).
-/

namespace TreeWatch

namespace Pairing

def versions (q : Pairing) : List Entry := q.old?.toList ++ q.new?.toList

theorem mem_versions_iff {q : Pairing} {x : Entry} :
    x ∈ q.versions ↔ q.old? = some x ∨ q.new? = some x := by
  simp [versions]

@[simp] def path : Pairing → Path
  | deleted p => p.path
  | created c => c.path
  | matched p _ => p.path
  | replaced p _ => p.path

theorem exists_mem_versions_path_eq (q : Pairing) : ∃ x ∈ q.versions, x.path = q.path := by
  cases q <;> simp [versions]

end Pairing

theorem eq_of_nodup_filterMap {α β : Type} {f : α → Option β} {l : List α}
    (h : (l.filterMap f).Nodup) {a b : α} (ha : a ∈ l) (hb : b ∈ l) {x : β}
    (hax : f a = some x) (hbx : f b = some x) : a = b := by
  have hpairwise : l.Pairwise fun a b => ∀ x, f a = some x → ∀ y, f b = some y → x ≠ y :=
    List.pairwise_filterMap.1 h
  have hsymm : Std.Symm fun a b : α => ∀ x, f a = some x → ∀ y, f b = some y → x ≠ y :=
    ⟨fun _ _ hab x hx y hy => (hab y hy x hx).symm⟩
  by_contra hne
  exact hpairwise.forall ha hb hne x hax x hbx rfl

namespace EntryOrder

variable {o : EntryOrder}

theorem eq_of_old?_eq {old new : List Entry} (h : old.Nodup) {q r : Pairing}
    (hq : q ∈ o.pairings old new) (hr : r ∈ o.pairings old new) {x : Entry}
    (hqx : q.old? = some x) (hrx : r.old? = some x) : q = r :=
  eq_of_nodup_filterMap ((perm_olds_pairings o old new).nodup_iff.2 h) hq hr hqx hrx

theorem eq_of_new?_eq {old new : List Entry} (h : new.Nodup) {q r : Pairing}
    (hq : q ∈ o.pairings old new) (hr : r ∈ o.pairings old new) {x : Entry}
    (hqx : q.new? = some x) (hrx : r.new? = some x) : q = r :=
  eq_of_nodup_filterMap ((perm_news_pairings o old new).nodup_iff.2 h) hq hr hqx hrx

theorem mem_of_mem_versions {old new : List Entry} {q : Pairing} {x : Entry}
    (hq : q ∈ o.pairings old new) (hx : x ∈ q.versions) : x ∈ old ∨ x ∈ new := by
  rcases Pairing.mem_versions_iff.1 hx with hx | hx
  · exact .inl (mem_old_of_mem_pairings hq hx)
  · exact .inr (mem_new_of_mem_pairings hq hx)

theorem exists_mem_pairings_of_mem_old (o : EntryOrder) {old : List Entry} (new : List Entry)
    {p : Entry} (hp : p ∈ old) : ∃ q ∈ o.pairings old new, q.old? = some p :=
  List.mem_filterMap.1 ((perm_olds_pairings o old new).mem_iff.2 hp)

theorem exists_mem_pairings_of_mem_new (o : EntryOrder) (old : List Entry) {new : List Entry}
    {c : Entry} (hc : c ∈ new) : ∃ q ∈ o.pairings old new, q.new? = some c :=
  List.mem_filterMap.1 ((perm_news_pairings o old new).mem_iff.2 hc)

section Keyed

variable {κ : Type} [LinearOrder κ] {rank : Bool → ℕ} {key : Entry → κ}

theorem KeyedBy.key_eq_of_mem_versions (h : o.KeyedBy rank key) {old new : List Entry}
    {q : Pairing} {x y : Entry} (hq : q ∈ o.pairings old new) (hx : x ∈ q.versions)
    (hy : y ∈ q.versions) : key x = key y := by
  rcases Pairing.mem_versions_iff.1 hx with hx | hx <;>
    rcases Pairing.mem_versions_iff.1 hy with hy | hy
  · rw [Option.some.inj (hx.symm.trans hy)]
  · exact h.key_eq_of_mem_pairings hq hx hy
  · exact (h.key_eq_of_mem_pairings hq hy hx).symm
  · rw [Option.some.inj (hx.symm.trans hy)]

/-- No two pairings are about the same key: of an old version in one and a new one in another, one
would have a partner that takes its place, or both are left apart. -/
theorem KeyedBy.pairwise_key_ne_pairings (h : o.KeyedBy rank key) {old new : List Entry}
    (hold : Ascending rank key old) (hnew : Ascending rank key new)
    (holdkeys : (old.map key).Nodup) (hnewkeys : (new.map key).Nodup) :
    (o.pairings old new).Pairwise fun q r =>
      ∀ x ∈ q.versions, ∀ y ∈ r.versions, key x ≠ key y := by
  have holds : (o.pairings old new).Pairwise fun q r =>
      ∀ x, q.old? = some x → ∀ y, r.old? = some y → key x ≠ key y := by
    refine List.pairwise_filterMap.1 ?_
    exact List.pairwise_map.1 (((perm_olds_pairings o old new).map key).nodup_iff.2 holdkeys)
  have hnews : (o.pairings old new).Pairwise fun q r =>
      ∀ x, q.new? = some x → ∀ y, r.new? = some y → key x ≠ key y := by
    refine List.pairwise_filterMap.1 ?_
    exact List.pairwise_map.1 (((perm_news_pairings o old new).map key).nodup_iff.2 hnewkeys)
  have hcross : ∀ q ∈ o.pairings old new, ∀ r ∈ o.pairings old new,
      (∀ x, q.old? = some x → ∀ y, r.old? = some y → key x ≠ key y) →
      (∀ x, q.new? = some x → ∀ y, r.new? = some y → key x ≠ key y) →
      ∀ x, q.old? = some x → ∀ y, r.new? = some y → key x ≠ key y := by
    intro q hq r hr hqr hqr' x hx y hy hkey
    cases hq' : q.new? with
    | some x' =>
        have hxx' := h.key_eq_of_mem_pairings hq hx hq'
        exact hqr' x' hq' y hy (hxx'.symm.trans hkey)
    | none =>
        cases hr' : r.old? with
        | some y' =>
            have hyy' := h.key_eq_of_mem_pairings hr hr' hy
            exact hqr x hx y' hr' (hkey.trans hyy'.symm)
        | none =>
            cases q <;> simp at hq' hx
            cases r <;> simp at hr' hy
            subst hx hy
            exact h.key_ne_of_mem_pairings hold hnew hq hr hkey
  refine (holds.and hnews).imp_of_mem fun {q r} hq hr ⟨hqr, hqr'⟩ x hx y hy => ?_
  rcases Pairing.mem_versions_iff.1 hx with hx | hx <;>
    rcases Pairing.mem_versions_iff.1 hy with hy | hy
  · exact hqr x hx y hy
  · exact hcross q hq r hr hqr hqr' x hx y hy
  · exact (hcross r hr q hq (fun x hx y hy => (hqr y hy x hx).symm)
      (fun x hx y hy => (hqr' y hy x hx).symm) y hy x hx).symm
  · exact hqr' x hx y hy

end Keyed

/-! ## Orders that tell names apart -/

/-- An order that goes by a key, which tells the names in a directory apart. -/
structure ByPath (o : EntryOrder) : Prop where
  exists_keyedBy : ∃ (κ : Type) (_ : LinearOrder κ) (rank : Bool → ℕ) (key : Entry → κ),
    o.KeyedBy rank key
  same_iff_path_eq : ∀ {dir : Path} {m n : String} {a b : Entry}, IsName m → IsName n →
    a.path = dir.child m → b.path = dir.child n → (o.same a b = true ↔ a.path = b.path)

end EntryOrder

/-- The orders for observing that tell upper and lower case apart tell names apart. -/
theorem Comparator.byPath {c : Comparator} {s : CaseSensitivity}
    (hc : c.sensitivity? = some s) (hs : s.isSensitive = true) : c.toEntryOrder.ByPath where
  exists_keyedBy := exists_keyedBy (by rw [hc]; rfl)
  same_iff_path_eq {dir m n a b} hm hn ha hb := by
    rw [toEntryOrder, same_iff_identity_eq (by rw [hc]; rfl)]
    exact ⟨path_eq_of_identity_eq hc hs hm hn ha hb, c.identity_congr⟩

namespace EntryOrder

variable {o : EntryOrder}

structure Siblings (o : EntryOrder) (old new : Entry) : Prop where
  path_eq : old.path = new.path
  old_arranged : old.Arranged o
  new_arranged : new.Arranged o

namespace Siblings

variable {old new : Entry}

theorem exists_name_of_mem (h : o.Siblings old new) {x : Entry}
    (hx : x ∈ old.children ∨ x ∈ new.children) :
    ∃ n, IsName n ∧ x.path = old.path.child n := by
  rcases hx with hx | hx
  · exact h.old_arranged.exists_name x hx
  · rw [h.path_eq]
    exact h.new_arranged.exists_name x hx

theorem exists_name (h : o.Siblings old new) {q : Pairing}
    (hq : q ∈ o.pairings old.children new.children) :
    ∃ n, IsName n ∧ q.path = old.path.child n := by
  obtain ⟨x, hx, hpath⟩ := q.exists_mem_versions_path_eq
  rw [← hpath]
  exact h.exists_name_of_mem (mem_of_mem_versions hq hx)

variable {κ : Type} [LinearOrder κ] {rank : Bool → ℕ} {key : Entry → κ}

theorem key_eq_iff (h : o.Siblings old new) (ho : o.ByPath) (hkey : o.KeyedBy rank key)
    {x y : Entry} (hx : x ∈ old.children ∨ x ∈ new.children)
    (hy : y ∈ old.children ∨ y ∈ new.children) : key x = key y ↔ x.path = y.path := by
  obtain ⟨m, hm, hxpath⟩ := h.exists_name_of_mem hx
  obtain ⟨n, hn, hypath⟩ := h.exists_name_of_mem hy
  rw [← hkey.same_iff, ho.same_iff_path_eq hm hn hxpath hypath]

theorem path_eq_of_mem_versions (h : o.Siblings old new) (ho : o.ByPath) {q : Pairing}
    {x : Entry} (hq : q ∈ o.pairings old.children new.children) (hx : x ∈ q.versions) :
    x.path = q.path := by
  obtain ⟨κ, _, rank, key, hkey⟩ := ho.exists_keyedBy
  obtain ⟨y, hy, hpath⟩ := q.exists_mem_versions_path_eq
  rw [← hpath, ← h.key_eq_iff ho hkey (mem_of_mem_versions hq hx) (mem_of_mem_versions hq hy)]
  exact hkey.key_eq_of_mem_versions hq hx hy

theorem nodup_path_pairings (h : o.Siblings old new) (ho : o.ByPath) :
    ((o.pairings old.children new.children).map Pairing.path).Nodup := by
  obtain ⟨κ, _, rank, key, hkey⟩ := ho.exists_keyedBy
  have hnodup : ∀ es : List Entry, (es.map Entry.path).Nodup →
      (∀ x ∈ es, x ∈ old.children ∨ x ∈ new.children) → (es.map key).Nodup := by
    intro es hes hmem
    refine List.pairwise_map.2 ((List.pairwise_map.1 hes).imp_of_mem fun {x y} hx hy hne => ?_)
    exact fun heq => hne ((h.key_eq_iff ho hkey (hmem x hx) (hmem y hy)).1 heq)
  have hpairwise := hkey.pairwise_key_ne_pairings (hkey.ascending h.old_arranged.sorted)
    (hkey.ascending h.new_arranged.sorted) (hnodup _ h.old_arranged.nodup fun x hx => .inl hx)
    (hnodup _ h.new_arranged.nodup fun x hx => .inr hx)
  refine List.pairwise_map.2 (hpairwise.imp_of_mem fun {q r} hq hr hqr hpath => ?_)
  obtain ⟨x, hx, hxpath⟩ := q.exists_mem_versions_path_eq
  obtain ⟨y, hy, hypath⟩ := r.exists_mem_versions_path_eq
  refine hqr x hx y hy ?_
  rw [h.key_eq_iff ho hkey (mem_of_mem_versions hq hx) (mem_of_mem_versions hr hy), hxpath,
    hypath, hpath]

/-- Of the pairings in a directory, only one can be about what is on the way to a place. -/
theorem eq_of_isPrefix (h : o.Siblings old new) (ho : o.ByPath) {q r : Pairing}
    (hq : q ∈ o.pairings old.children new.children)
    (hr : r ∈ o.pairings old.children new.children) {k : List Component}
    (hqk : q.path.components <+: k) (hrk : r.path.components <+: k) : q = r := by
  obtain ⟨m, hm, hqpath⟩ := h.exists_name hq
  obtain ⟨n, hn, hrpath⟩ := h.exists_name hr
  have hlength : q.path.components.length = r.path.components.length := by
    rw [hqpath, hrpath, Path.components_child _ hm, Path.components_child _ hn]
    simp
  have hcomponents : q.path.components = r.path.components :=
    (List.prefix_of_prefix_length_le hqk hrk (Nat.le_of_eq hlength)).eq_of_length hlength
  refine List.inj_on_of_nodup_map (h.nodup_path_pairings ho) hq hr ?_
  rw [hqpath, hrpath] at hcomponents ⊢
  exact Path.child_eq_of_components_eq hm hn hcomponents

theorem pairwise_apart (h : o.Siblings old new) (ho : o.ByPath) :
    (o.pairings old.children new.children).Pairwise fun q r =>
      ∀ k, q.path.components <+: k → ¬ r.path.components <+: k :=
  (h.nodup_path_pairings ho).of_map.imp_of_mem fun hq hr hne _ hqk hrk =>
    hne (h.eq_of_isPrefix ho hq hr hqk hrk)

end Siblings

/-- The versions in a pairing are snapshots of one path, and apart only if they differ in type. -/
structure Proper (o : EntryOrder) (q : Pairing) : Prop where
  isSnapshot : ∀ x ∈ q.versions, x.IsSnapshot o q.path
  differ : ∀ {p c : Entry}, q = .replaced p c → p.isDirectory ≠ c.isDirectory

namespace Proper

variable {p c : Entry}

/-- What lies at or below a version lies at or below the path of the pairing. -/
theorem isPrefix_of_mem_preorder {q : Pairing} (h : o.Proper q) {x y : Entry}
    (hy : y ∈ q.versions) (hx : x ∈ y.preorder) : q.path.components <+: x.path.components := by
  rw [← (h.isSnapshot y hy).path_eq]
  exact Entry.components_isPrefix_of_mem_preorder (h.isSnapshot y hy).listed hx

theorem path_eq (h : o.Proper (.matched p c)) : p.path = c.path :=
  (h.isSnapshot p (by simp [Pairing.versions])).path_eq.trans
    (h.isSnapshot c (by simp [Pairing.versions])).path_eq.symm

theorem old_arranged (h : o.Proper (.matched p c)) : p.Everywhere (Entry.Arranged o) :=
  (h.isSnapshot p (by simp [Pairing.versions])).arranged

theorem new_arranged (h : o.Proper (.matched p c)) : c.Everywhere (Entry.Arranged o) :=
  (h.isSnapshot c (by simp [Pairing.versions])).arranged

theorem siblings (h : o.Proper (.matched p c)) : o.Siblings p c :=
  ⟨h.path_eq, h.old_arranged p p.mem_preorder_self, h.new_arranged c c.mem_preorder_self⟩

end Proper

theorem proper_matched {root : Path} {old new : Entry} (hold : old.IsSnapshot o root)
    (hnew : new.IsSnapshot o root) : o.Proper (.matched old new) where
  isSnapshot x hx := by
    rw [Pairing.path, hold.path_eq]
    rcases Pairing.mem_versions_iff.1 hx with ⟨⟨rfl⟩⟩ | ⟨⟨rfl⟩⟩
    · exact hold
    · exact hnew
  differ h := nomatch h

/-- What holds of two versions of a directory holds of the pairings in it. -/
theorem Proper.of_mem_pairings {p c : Entry} (h : o.Proper (.matched p c)) (ho : o.ByPath)
    {q : Pairing} (hq : q ∈ o.pairings p.children c.children) : o.Proper q where
  isSnapshot x hx := by
    refine ⟨h.siblings.path_eq_of_mem_versions ho hq hx, ?_⟩
    rcases mem_of_mem_versions hq hx with hx | hx
    · exact h.old_arranged.child hx
    · exact h.new_arranged.child hx
  differ {x y} hxy := by
    subst hxy
    exact (same_of_replaced_mem_pairUp hq).1

end EntryOrder

end TreeWatch
