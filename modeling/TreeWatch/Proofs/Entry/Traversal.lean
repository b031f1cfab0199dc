import Mathlib.Data.List.Basic
import TreeWatch.Proofs.Entry.Tree

/-!
# A walk over entries, step by step

`walk` goes on by itself until nothing is left. `Traversal` is such a walk under way: a step takes
one entry off the end of a stack and puts those directly in it there, and nothing tells how many
steps there will be. `Traversal.Exhausts` says that the walk comes to its end, and what it has
given until then.

The address of an entry is the row of numbers that lead down to it (`Entry.descend?`). Of two
addresses the lexicographically smaller one is first: one that the other goes on from, or one with
the smaller number where they part. Entries in the order of their addresses (`Entry.Preorders`)
have a directory before all that is in it, and what is in a directory as it is stored.

Main statement: a walk over what is below an entry ends, and gives each entry there once, in the
order of the recursion `preorder` and of the addresses; from any stack it gives what is at and
below the entries on the stack, from the top down (`Traversal.exhausts_in_preorder`).
-/

namespace TreeWatch

namespace Entry

theorem descendants_eq_flatMap (e : Entry) : e.descendants = e.children.flatMap preorder :=
  walk_eq_flatMap _

theorem length_flatMap_preorder {es : List Entry} (h : ∀ c ∈ es, c.preorder.length = c.size) :
    (es.flatMap preorder).length = size.sizeAll es := by
  induction es with
  | nil => rfl
  | cons e es ih =>
      rw [List.flatMap_cons, List.length_append, size.sizeAll, h e List.mem_cons_self,
        ih fun c hc => h c (List.mem_cons_of_mem e hc)]

theorem length_preorder (e : Entry) : e.preorder.length = e.size := by
  induction e using induction_children with
  | step e ih =>
      rw [preorder_eq_append, List.length_append, List.length_singleton,
        length_flatMap_preorder ih, size_eq_sizeAll_children]

/-- The entry that a row of numbers leads down to, each the place of the next entry among those
in the one before. -/
def descend? : Entry → List ℕ → Option Entry
  | e, [] => some e
  | e, i :: a => e.children[i]?.bind fun c => c.descend? a

theorem isSome_descend?_cons {e : Entry} {i : ℕ} {a : List ℕ} :
    (e.descend? (i :: a)).isSome = true ↔
      ∃ c, e.children[i]? = some c ∧ (c.descend? a).isSome = true := by
  rw [descend?]
  cases e.children[i]? <;> simp

/-- The addresses of an entry and of all below it, each where `preorder` has the entry. -/
def addresses : Entry → List (List ℕ)
  | missing _ => [[]]
  | file _ _ _ => [[]]
  | directory _ _ es => [] :: addressesFrom 0 es
where
  /-- The addresses of several entries of a directory, the first of which has this place in it,
  and of all below them. -/
  addressesFrom (i : ℕ) : List Entry → List (List ℕ)
  | [] => []
  | e :: es => e.addresses.map (i :: ·) ++ addressesFrom (i + 1) es

theorem addresses_eq_cons (e : Entry) :
    e.addresses = [] :: addresses.addressesFrom 0 e.children := by
  cases e <;> rfl

theorem mem_addressesFrom_iff {k : ℕ} {es : List Entry} {a : List ℕ} :
    a ∈ addresses.addressesFrom k es ↔
      ∃ i c b, es[i]? = some c ∧ b ∈ c.addresses ∧ a = (k + i) :: b := by
  induction es generalizing k with
  | nil => simp [addresses.addressesFrom]
  | cons e es ih =>
      rw [addresses.addressesFrom, List.mem_append, List.mem_map, ih]
      constructor
      · rintro (⟨b, hb, rfl⟩ | ⟨i, c, b, hc, hb, rfl⟩)
        · exact ⟨0, e, b, rfl, hb, rfl⟩
        · exact ⟨i + 1, c, b, hc, hb, by rw [Nat.add_assoc, Nat.add_comm 1]⟩
      · rintro ⟨i, c, b, hc, hb, rfl⟩
        cases i with
        | zero => exact .inl ⟨b, Option.some.inj hc ▸ hb, rfl⟩
        | succ i => exact .inr ⟨i, c, b, hc, hb, by rw [Nat.add_assoc, Nat.add_comm 1]⟩

theorem mem_addresses_iff {e : Entry} {a : List ℕ} :
    a ∈ e.addresses ↔ (e.descend? a).isSome = true := by
  induction e using induction_children generalizing a with
  | step e ih =>
      rw [addresses_eq_cons, List.mem_cons, mem_addressesFrom_iff]
      cases a with
      | nil => simp [descend?]
      | cons i b =>
          rw [isSome_descend?_cons]
          constructor
          · rintro (h | ⟨j, c, b', hc, hb, h⟩)
            · cases h
            · rw [Nat.zero_add] at h
              cases h
              exact ⟨c, hc, (ih c (List.mem_of_getElem? hc)).1 hb⟩
          · rintro ⟨c, hc, hb⟩
            exact .inr ⟨i, c, b, hc, (ih c (List.mem_of_getElem? hc)).2 hb, by rw [Nat.zero_add]⟩

theorem pairwise_addressesFrom {k : ℕ} {es : List Entry}
    (h : ∀ c ∈ es, c.addresses.Pairwise (· < ·)) :
    (addresses.addressesFrom k es).Pairwise (· < ·) := by
  induction es generalizing k with
  | nil => exact .nil
  | cons e es ih =>
      rw [addresses.addressesFrom, List.pairwise_append]
      refine ⟨?_, ih fun c hc => h c (List.mem_cons_of_mem e hc), fun a ha b hb => ?_⟩
      · rw [List.pairwise_map]
        exact (h e List.mem_cons_self).imp fun hab => List.cons_lt_cons_iff.2 (.inr ⟨rfl, hab⟩)
      · obtain ⟨a, _, rfl⟩ := List.mem_map.1 ha
        obtain ⟨i, c, b, _, _, rfl⟩ := mem_addressesFrom_iff.1 hb
        exact List.cons_lt_cons_iff.2 (.inl (by omega))

theorem pairwise_addresses (e : Entry) : e.addresses.Pairwise (· < ·) := by
  induction e using induction_children with
  | step e ih =>
      rw [addresses_eq_cons, List.pairwise_cons]
      refine ⟨fun a ha => ?_, pairwise_addressesFrom ih⟩
      obtain ⟨i, c, b, _, _, rfl⟩ := mem_addressesFrom_iff.1 ha
      exact List.nil_lt_cons _ _

/-- A directory with a file, a directory that has a file in it, and another file. -/
example :
    (directory ⟨"/r"⟩ .epoch [.file ⟨"/r/a"⟩ .epoch 1,
      .directory ⟨"/r/sub"⟩ .epoch [.file ⟨"/r/sub/x"⟩ .epoch 1],
      .file ⟨"/r/z"⟩ .epoch 1]).addresses = [[], [0], [1], [1, 0], [2]] := rfl

theorem map_descend?_addressesFrom {d : Entry} {k : ℕ} {es : List Entry}
    (hd : d.children.drop k = es)
    (h : ∀ c ∈ es, c.addresses.map c.descend? = c.preorder.map some) :
    (addresses.addressesFrom k es).map d.descend? = (es.flatMap preorder).map some := by
  induction es generalizing k with
  | nil => rfl
  | cons c es ih =>
      have hc : d.children[k]? = some c := by rw [← List.head?_drop, hd, List.head?_cons]
      have hrest : d.children.drop (k + 1) = es := by rw [← List.tail_drop, hd, List.tail_cons]
      have hinside : c.addresses.map (fun a => d.descend? (k :: a)) = c.preorder.map some := by
        rw [← h c List.mem_cons_self]
        exact List.map_congr_left fun a _ => by rw [descend?, hc, Option.bind_some]
      rw [addresses.addressesFrom, List.map_append, List.map_map, List.flatMap_cons,
        List.map_append, ih hrest fun x hx => h x (List.mem_cons_of_mem c hx), ← hinside]
      rfl

theorem map_descend?_addresses (e : Entry) :
    e.addresses.map e.descend? = e.preorder.map some := by
  induction e using induction_children with
  | step e ih =>
      rw [addresses_eq_cons, List.map_cons, map_descend?_addressesFrom List.drop_zero ih,
        preorder_eq_append, List.singleton_append, List.map_cons, descend?]

/-- Entries with their addresses below an entry: every address there once, in lexicographic
order. -/
structure Preorders (e : Entry) (as : List (List ℕ)) (es : List Entry) : Prop where
  mem_iff : ∀ a, a ∈ as ↔ a ≠ [] ∧ (e.descend? a).isSome = true
  sorted : as.Pairwise (· < ·)
  entries : as.map e.descend? = es.map some

theorem preorders_descendants (e : Entry) :
    e.Preorders (addresses.addressesFrom 0 e.children) e.descendants where
  mem_iff a := by
    rw [← mem_addresses_iff, addresses_eq_cons, List.mem_cons]
    constructor
    · intro ha
      obtain ⟨i, c, b, _, _, rfl⟩ := mem_addressesFrom_iff.1 ha
      exact ⟨List.cons_ne_nil _ _, .inr ha⟩
    · rintro ⟨hne, h | ha⟩
      · exact absurd h hne
      · exact ha
  sorted := pairwise_addressesFrom fun c _ => c.pairwise_addresses
  entries := by
    rw [map_descend?_addressesFrom List.drop_zero fun c _ => c.map_descend?_addresses,
      descendants_eq_flatMap]

end Entry

/-- A walk over entries that is under way. What is at and below those on the stack is still to
come; the top of the stack is its last entry. -/
structure Traversal where
  stack : Array Entry

namespace Traversal

open Entry

def below (e : Entry) : Traversal := ⟨e.children.reverse.toArray⟩

/-- Gives the top of the stack, and leaves in its place those directly in it, the first on top. -/
def next (t : Traversal) : Option Entry × Traversal :=
  match t.stack.back? with
  | none => (none, t)
  | some e => (some e, ⟨t.stack.pop ++ e.children.reverse⟩)

def after (t : Traversal) : ℕ → Traversal
  | 0 => t
  | n + 1 => (t.after n).next.2

def fromTop (t : Traversal) : List Entry := t.stack.toList.reverse

/-- The walk comes to its end, and has given these entries until then. -/
inductive Exhausts : Traversal → List Entry → Prop
  | done {t u : Traversal} (h : t.next = (none, u)) : Exhausts t []
  | more {t u : Traversal} {e : Entry} {es : List Entry} (h : t.next = (some e, u))
      (rest : Exhausts u es) : Exhausts t (e :: es)

def left (t : Traversal) : List Entry := t.fromTop.flatMap preorder

@[simp] theorem fromTop_below (e : Entry) : (below e).fromTop = e.children := by
  rw [fromTop, below, List.reverse_reverse]

/-- A step from an empty stack changes nothing; any other gives the top and leaves what is
directly in it. -/
theorem next_cases (t : Traversal) :
    (t.fromTop = [] ∧ t.next = (none, t)) ∨
    ∃ e rest u, t.fromTop = e :: rest ∧ t.next = (some e, u) ∧
      u.fromTop = e.children ++ rest := by
  rw [next]
  cases htop : t.stack.back? with
  | none => exact .inl ⟨by simp [fromTop, Array.back?_eq_none_iff.1 htop], rfl⟩
  | some e =>
      obtain ⟨rest, hstack⟩ := Array.back?_eq_some_iff.1 htop
      refine .inr ⟨e, rest.toList.reverse, _, ?_, rfl, ?_⟩
      · rw [fromTop, hstack, Array.toList_push, List.reverse_append, List.reverse_singleton,
          List.singleton_append]
      · rw [fromTop, hstack, Array.pop_push, Array.toList_appendList, List.reverse_append,
          List.reverse_reverse]

theorem left_below (e : Entry) : (below e).left = e.descendants := by
  rw [left, fromTop_below, descendants_eq_flatMap]

theorem exists_next_eq (t : Traversal) :
    ∃ u, t.next = (t.left.head?, u) ∧ u.left = t.left.tail := by
  obtain ⟨hempty, hnext⟩ | ⟨e, rest, u, htop, hnext, hu⟩ := t.next_cases
  · exact ⟨t, by simp [hnext, left, hempty], by simp [left, hempty]⟩
  · have hleft : t.left = e :: u.left := by
      rw [left, left, htop, hu, List.flatMap_cons, List.flatMap_append, preorder_eq_append,
        List.append_assoc, List.singleton_append]
    exact ⟨u, by rw [hnext, hleft, List.head?_cons], by rw [hleft, List.tail_cons]⟩

theorem left_after (t : Traversal) (n : ℕ) : (t.after n).left = t.left.drop n := by
  induction n with
  | zero => rfl
  | succ n ih =>
      obtain ⟨u, hnext, hu⟩ := (t.after n).exists_next_eq
      rw [after, hnext, hu, ih, List.tail_drop]

/-- What is left becomes shorter with each step, so every walk ends. -/
theorem exhausts_left (t : Traversal) : t.Exhausts t.left := by
  generalize hes : t.left = es
  induction es generalizing t with
  | nil =>
      obtain ⟨u, hnext, _⟩ := t.exists_next_eq
      rw [hes, List.head?_nil] at hnext
      exact .done hnext
  | cons e es ih =>
      obtain ⟨u, hnext, hu⟩ := t.exists_next_eq
      rw [hes, List.head?_cons] at hnext
      rw [hes, List.tail_cons] at hu
      exact .more hnext (ih u hu)

theorem Exhausts.eq_left {t : Traversal} {es : List Entry} (h : t.Exhausts es) : es = t.left := by
  induction h with
  | @done t u h =>
      obtain ⟨_, hnext, _⟩ := t.exists_next_eq
      exact (List.head?_eq_none_iff.1 (congrArg Prod.fst (hnext.symm.trans h))).symm
  | @more t u e es h _ ih =>
      obtain ⟨v, hnext, hv⟩ := t.exists_next_eq
      obtain ⟨hhead, rfl⟩ := Prod.mk.inj (hnext.symm.trans h)
      rw [ih, hv]
      exact List.cons_head?_tail hhead

theorem exhausts_iff {t : Traversal} {es : List Entry} : t.Exhausts es ↔ es = t.left :=
  ⟨Exhausts.eq_left, fun h => h ▸ t.exhausts_left⟩

/-- A walk over what is below an entry ends, and has then given these entries in the order of the
recursion and of their addresses, each once, and so as many as the size of the tree says. After any
number of steps, what is still to come is what is at and below the entries on the stack, in
preorder and from the top down; and so it is with any stack whatever. -/
theorem exhausts_in_preorder (e : Entry) :
    (∀ es, (below e).Exhausts es ↔ es = e.descendants) ∧
    e.descendants = preorder.preorderAll e.children ∧
    (∃ as, e.Preorders as e.descendants) ∧
    e.descendants.length + 1 = e.size ∧
    (∀ n, ((below e).after n).fromTop.flatMap preorder = e.descendants.drop n) ∧
    ∀ (t : Traversal) (es : List Entry),
      (t.Exhausts es ↔ es = walk t.fromTop) ∧
      walk t.fromTop = t.fromTop.flatMap preorder := by
  have hbelow : e.descendants = preorder.preorderAll e.children := by
    rw [descendants_eq_flatMap, preorderAll_eq_flatMap]
  refine ⟨fun es => ?_, hbelow, ⟨_, e.preorders_descendants⟩, ?_, fun n => ?_, fun t es => ?_⟩
  · rw [exhausts_iff, left_below]
  · rw [hbelow, ← length_preorder, preorder_eq_cons, List.length_cons]
  · exact ((below e).left_after n).trans (congrArg (List.drop n) (left_below e))
  · exact ⟨by rw [exhausts_iff, left, walk_eq_flatMap], walk_eq_flatMap _⟩

end Traversal

end TreeWatch
