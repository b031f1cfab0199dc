import TreeWatch.Proofs.Text.Lossy
import TreeWatch.Simulation.Session

/-!
# Names in stored trees

Whatever was changed in a stored tree, each of its directories lists names that can stand in a
directory, and none of them twice (`named_ofChanges`). A listing of a directory is therefore the
paths of distinct names in it (`isListing_of_list`).
-/

namespace TreeWatch

def IsListing (dir : Path) (listing : List Path) : Prop :=
  ∃ names : List String, names.Nodup ∧ (∀ n ∈ names, IsName n) ∧ listing = names.map dir.child

theorem IsListing.nodup_baseName {dir : Path} {listing : List Path} (h : IsListing dir listing) :
    (listing.map Path.baseName).Nodup := by
  obtain ⟨names, hnodup, hnames, rfl⟩ := h
  have hbase : (names.map dir.child).map Path.baseName = names := by
    rw [List.map_map]
    exact (List.map_congr_left fun n hn => Path.baseName_child dir (hnames n hn)).trans
      (List.map_id names)
  rwa [hbase]

def IsPlace (p : Place) : Prop := ∀ n, .name n ∈ p → IsName n

theorem isPlace_place (p : Path) : IsPlace p.place := by
  intro n hn
  exact Path.isName_of_mem_components (List.mem_reverse.1 hn)

theorem IsPlace.tail {c : Component} {p : Place} (h : IsPlace (c :: p)) : IsPlace p :=
  fun n hn => h n (List.mem_cons_of_mem c hn)

structure StoredNode.Named (n : StoredNode) : Prop where
  nodup : n.names.Nodup
  isName : ∀ name ∈ n.names, IsName name

theorem StoredNode.named_of_names_eq_nil {n : StoredNode} (h : n.names = []) : n.Named :=
  ⟨h ▸ List.nodup_nil, by simp [h]⟩

theorem StoredNode.Named.addName {n : StoredNode} {name : String} (h : n.Named)
    (hname : IsName name) : (n.addName name).Named := by
  obtain ⟨kind, modified⟩ := n
  cases kind with
  | file length => exact h
  | link target => exact h
  | directory names =>
      simp only [StoredNode.addName]
      split
      · exact h
      · rename_i hnew
        constructor
        · exact List.nodup_append.2 ⟨h.nodup, by simp, by
            intro a ha b hb
            rintro rfl
            exact hnew (List.mem_singleton.1 hb ▸ ha)⟩
        · intro a ha
          rcases List.mem_append.1 ha with ha | ha
          · exact h.isName a ha
          · exact List.mem_singleton.1 ha ▸ hname

theorem StoredNode.Named.removeName {n : StoredNode} (name : String) (h : n.Named) :
    (n.removeName name).Named := by
  obtain ⟨kind, modified⟩ := n
  cases kind with
  | file length => exact h
  | link target => exact h
  | directory names =>
      constructor
      · exact h.nodup.filter _
      · exact fun a ha => h.isName a (List.mem_filter.1 ha).1

namespace Store

variable {spelling : Spelling}

/-- All nodes of a tree list proper names, each once. -/
def Named (s : Store spelling) : Prop := ∀ e ∈ s.nodes, e.2.Named

theorem mem_putIn {p : Place} {n : StoredNode} {e : Place × StoredNode}
    {es : List (Place × StoredNode)} (h : e ∈ putIn p n es) : e = (p, n) ∨ e ∈ es := by
  induction es with
  | nil => simpa [putIn] using h
  | cons a es ih =>
      rw [putIn] at h
      split at h <;> simp only [List.mem_cons] at h ⊢
      · exact h.imp_right .inr
      · rcases h with rfl | h
        · exact .inr (.inl rfl)
        · exact (ih h).imp_right .inr

theorem mem_nodes_of_find? {s : Store spelling} {p : Place} {n : StoredNode}
    (h : s.find? p = some n) : (p, n) ∈ s.nodes := by
  rw [find?, List.lookup_eq_some_iff] at h
  obtain ⟨l₁, l₂, hl, _⟩ := h
  simp [hl]

theorem Named.put {s : Store spelling} {p : Place} {n : StoredNode} (h : s.Named) (hn : n.Named) :
    (s.put p n).Named := by
  intro e he
  rcases mem_putIn he with rfl | he
  · exact hn
  · exact h e he

/-- A change of one node that keeps its names in order keeps those of the tree. -/
theorem Named.modify {s : Store spelling} {p : Place} {f : StoredNode → StoredNode} (h : s.Named)
    (hf : ∀ n, n.Named → (f n).Named) : (s.modify p f).Named := by
  rw [Store.modify]
  cases hn : s.find? p with
  | none => exact h
  | some n => exact h.put (hf n (h _ (mem_nodes_of_find? hn)))

theorem Named.enter {s : Store spelling} {dir : Place} {c : Component} (h : s.Named)
    (hc : ∀ n, c = .name n → IsName n) : (s.enter dir c).Named := by
  cases c with
  | name n => exact h.modify fun m hm => hm.addName (spelling.isName_legible (hc n rfl))
  | root => exact h
  | current => exact h
  | parent => exact h

theorem Named.ensureDirectory {s : Store spelling} {p : Place} (h : s.Named) (hp : IsPlace p) :
    (s.ensureDirectory p).Named := by
  fun_induction Store.ensureDirectory s p with
  | case1 => exact h
  | case2 => exact h.put (StoredNode.named_of_names_eq_nil rfl)
  | case3 => exact h
  | case4 => exact h.put (StoredNode.named_of_names_eq_nil rfl)
  | case5 => exact h
  | case6 s c d dir hnone ih =>
      refine (ih (h.put (StoredNode.named_of_names_eq_nil rfl)) hp.tail).enter ?_
      rintro n rfl
      exact hp n List.mem_cons_self

theorem Named.linkToParent {s : Store spelling} {p : Place} (h : s.Named) (hp : IsPlace p) :
    (s.linkToParent p).Named := by
  fun_cases Store.linkToParent s p with
  | case1 c d dir =>
      refine (h.ensureDirectory hp.tail).enter ?_
      rintro n rfl
      exact hp n List.mem_cons_self
  | case2 => exact h

theorem Named.remove {s : Store spelling} (p : Path) (h : s.Named) : (s.remove p).Named := by
  have hkept : ({ s with nodes := s.nodes.filter fun e => !p.place.isSuffixOf e.1 }
      : Store spelling).Named := fun e he => h e (List.mem_filter.1 he).1
  simp only [Store.remove]
  split
  · exact hkept.modify fun n hn => hn.removeName _
  · exact hkept

theorem Named.apply {s : Store spelling} (change : StoreChange) (h : s.Named) :
    (s.apply change).Named := by
  cases change with
  | addDirectory p modified =>
      exact (h.ensureDirectory (isPlace_place p)).modify fun n hn => ⟨hn.nodup, hn.isName⟩
  | addFile p length modified =>
      exact (h.put (StoredNode.named_of_names_eq_nil rfl)).linkToParent (isPlace_place p)
  | addLink p target modified =>
      exact (h.put (StoredNode.named_of_names_eq_nil rfl)).linkToParent (isPlace_place p)
  | setModified p modified => exact h.modify fun n hn => ⟨hn.nodup, hn.isName⟩
  | remove p => exact h.remove p
  | failListing p => exact h
  | failMetadata p => exact h
  | heal p => exact h

/-- What holds of an empty tree and is kept by each change holds of every tree that changes lead
to. -/
theorem ofChanges_induction {motive : Store spelling → Prop} (empty : motive {})
    (apply : ∀ s change, motive s → motive (s.apply change)) (changes : List StoreChange) :
    motive (ofChanges changes spelling) := by
  have hfoldl : ∀ s : Store spelling, motive s → motive (changes.foldl Store.apply s) := by
    induction changes with
    | nil => exact fun s hs => hs
    | cons change changes ih => exact fun s hs => ih _ (apply s change hs)
  exact hfoldl {} empty

theorem named_ofChanges (changes : List StoreChange) (spelling : Spelling := .text) :
    (ofChanges changes spelling).Named :=
  ofChanges_induction (by simp [Named]) (fun _ change h => h.apply change) changes

/-- What a stored tree answers for a directory: the paths of the names in it. -/
theorem list_eq_ok_iff {s : Store spelling} {dir : Path} {listing : List Path} :
    s.list dir = .ok listing ↔ dir.place ∉ s.unlistable ∧ ∃ names modified,
      s.find? dir.place = some ⟨.directory names, modified⟩ ∧ listing = names.map dir.child := by
  rw [list]
  split
  · rename_i hfails
    simp [hfails]
  · rename_i hfails
    cases hn : s.find? dir.place with
    | none => simp
    | some n =>
        obtain ⟨kind, modified⟩ := n
        cases kind <;> simp [hfails, eq_comm]

theorem isListing_of_list {s : Store spelling} (h : s.Named) {dir : Path} {listing : List Path}
    (hl : s.list dir = .ok listing) : IsListing dir listing := by
  obtain ⟨_, names, modified, hn, rfl⟩ := list_eq_ok_iff.1 hl
  have hnode := h _ (mem_nodes_of_find? hn)
  exact ⟨names, hnode.nodup, hnode.isName, rfl⟩

end Store

end TreeWatch
