import TreeWatch.Proofs.Store.Listings

/-!
# What is made around an added path

Where something is added, directories are made around it, and the tree grows (`Store.Grows`):
nothing that is stored is taken away or becomes something else, and no directory lists less.
Whatever is new then is the root, or something is stored around it that lists it if it is a
directory (`Store.Held`). What is already there is not looked at: a file is taken for the directory
around what is added, and it lists nothing.
-/

namespace TreeWatch

/-- A place that is reached from the root on by names only. -/
inductive IsRooted : Place → Prop where
  | root : IsRooted [.root]
  | name (name : String) {dir : Place} : IsRooted dir → IsRooted (.name name :: dir)

theorem isRooted_append_root {p : Place} (h : ∀ c ∈ p, ∃ name, c = .name name) :
    IsRooted (p ++ [.root]) := by
  induction p with
  | nil => exact .root
  | cons c p ih =>
      obtain ⟨name, rfl⟩ := h c List.mem_cons_self
      exact .name name (ih fun d hd => h d (List.mem_cons_of_mem _ hd))

namespace StoredNode

theorem addName_directory (name : String) (names : List String) (modified : Timestamp) :
    addName name ⟨.directory names, modified⟩
      = ⟨.directory (if name ∈ names then names else names ++ [name]), modified⟩ := by
  simp only [addName]
  split <;> rfl

@[simp] theorem attributes_addName (name : String) (n : StoredNode) :
    (n.addName name).attributes = n.attributes := by
  obtain ⟨kind, modified⟩ := n
  cases kind with
  | file length => rfl
  | link target => rfl
  | directory names =>
      rw [addName_directory]
      rfl

theorem names_subset_addName (name : String) (n : StoredNode) :
    n.names ⊆ (n.addName name).names := by
  obtain ⟨kind, modified⟩ := n
  cases kind with
  | file length => exact List.Subset.refl _
  | link target => exact List.Subset.refl _
  | directory names =>
      rw [addName_directory]
      simp only [StoredNode.names]
      split
      · exact List.Subset.refl _
      · exact List.subset_append_left _ _

theorem mem_names_addName_self {n : StoredNode} (name : String)
    (h : n.attributes.isDirectory = true) : name ∈ (n.addName name).names := by
  obtain ⟨kind, modified⟩ := n
  cases kind with
  | file length => cases h
  | link target => cases h
  | directory names =>
      rw [addName_directory]
      simp only [StoredNode.names]
      split
      · assumption
      · exact List.mem_append_right _ (List.mem_singleton_self name)

end StoredNode

namespace Store

variable {s t u : Store} {p q dir : Place}

/-! ## Growing -/

/-- What is stored in the first tree is stored in the second one, a directory as a directory that
lists at least what it listed. -/
structure Grows (s t : Store) : Prop where
  stored : ∀ p n, s.find? p = some n → ∃ m, t.find? p = some m ∧
    m.attributes.isDirectory = n.attributes.isDirectory ∧ n.names ⊆ m.names
  unlistable : t.unlistable = s.unlistable
  unreadable : t.unreadable = s.unreadable

theorem Grows.refl (s : Store) : s.Grows s :=
  ⟨fun _ n hn => ⟨n, hn, rfl, List.Subset.refl _⟩, rfl, rfl⟩

theorem Grows.trans (h : s.Grows t) (h' : t.Grows u) : s.Grows u where
  stored p n hn := by
    obtain ⟨m, hm, hdir, hnames⟩ := h.stored p n hn
    obtain ⟨k, hk, hdir', hnames'⟩ := h'.stored p m hm
    exact ⟨k, hk, hdir'.trans hdir, List.Subset.trans hnames hnames'⟩
  unlistable := h'.unlistable.trans h.unlistable
  unreadable := h'.unreadable.trans h.unreadable

theorem grows_put (n : StoredNode) (h : s.find? p = none) : s.Grows (s.put p n) where
  stored q m hm := by
    have hne : q ≠ p := by
      rintro rfl
      rw [h] at hm
      cases hm
    exact ⟨m, by rw [find?_put, if_neg hne, hm], rfl, List.Subset.refl _⟩
  unlistable := rfl
  unreadable := rfl

theorem grows_modify (p : Place) {f : StoredNode → StoredNode}
    (hdir : ∀ n, (f n).attributes.isDirectory = n.attributes.isDirectory)
    (hnames : ∀ n, n.names ⊆ (f n).names) : s.Grows (s.modify p f) where
  stored q n hn := by
    rw [find?_modify, hn]
    split
    · exact ⟨f n, rfl, hdir n, hnames n⟩
    · exact ⟨n, rfl, rfl, List.Subset.refl _⟩
  unlistable := (failures_modify s p f).1
  unreadable := (failures_modify s p f).2

theorem grows_setTime (s : Store) (p : Place) (modified : Timestamp) :
    s.Grows (s.modify p fun n => { n with modified }) := by
  refine grows_modify p (fun n => ?_) fun n => List.Subset.refl _
  obtain ⟨kind, _⟩ := n
  cases kind <;> rfl

theorem grows_enter (s : Store) (dir : Place) (c : Component) : s.Grows (s.enter dir c) := by
  cases c with
  | name name => exact grows_modify dir (fun n => by simp) (StoredNode.names_subset_addName name)
  | root => exact .refl s
  | current => exact .refl s
  | parent => exact .refl s

theorem grows_ensureDirectory (s : Store) (p : Place) : s.Grows (s.ensureDirectory p) := by
  fun_induction Store.ensureDirectory s p with
  | case1 s => exact .refl s
  | case2 s h => exact grows_put _ (by simpa using h)
  | case3 s => exact .refl s
  | case4 s c h => exact grows_put _ (by simpa using h)
  | case5 s => exact .refl s
  | case6 s c d dir h ih =>
      exact ((grows_put _ (by simpa using h)).trans ih).trans (grows_enter _ _ _)

/-! ## What something hangs on -/

/-- A place is the root, or something is stored around it that lists it if it is a directory. -/
inductive Held (s : Store) : Place → Prop where
  | root : s.Held [.root]
  | name {name : String} {dir : Place} {n : StoredNode} : s.find? dir = some n →
      (n.attributes.isDirectory = true → name ∈ n.names) → s.Held (.name name :: dir)

theorem Held.mono (h : s.Held p) (hgrows : s.Grows t) : t.Held p := by
  cases h with
  | root => exact .root
  | name hn hlisted =>
      obtain ⟨m, hm, hdir, hnames⟩ := hgrows.stored _ _ hn
      exact .name hm fun hd => hnames (hlisted (hdir ▸ hd))

/-- What lies below a place still hangs on it when a file or a link is put there: this has no
names that could miss one. -/
theorem Held.put {n : StoredNode} (h : s.Held q) (hn : n.attributes.isDirectory = false) :
    (s.put p n).Held q := by
  cases h with
  | root => exact .root
  | @name name dir m hm hlisted =>
      have hput := find?_put s p dir n
      by_cases heq : dir = p
      · rw [if_pos heq] at hput
        exact .name hput fun hd => absurd hd (by simp [hn])
      · rw [if_neg heq] at hput
        exact .name (hput.trans hm) hlisted

theorem held_enter (name : String) (h : (s.find? dir).isSome = true) :
    (s.enter dir (.name name)).Held (.name name :: dir) := by
  obtain ⟨n, hn⟩ := Option.isSome_iff_exists.1 h
  have hentered : (s.enter dir (.name name)).find? dir = some (n.addName name) := by
    rw [enter, find?_modify, if_pos rfl, hn, Option.map_some, Spelling.legible_text]
  exact .name hentered fun hd => n.mem_names_addName_self name (by simpa using hd)

theorem isSome_find?_ensureDirectory_self (s : Store) (p : Place) :
    ((s.ensureDirectory p).find? p).isSome = true := by
  fun_induction Store.ensureDirectory s p with
  | case1 s h => exact h
  | case2 s => exact isSome_find?_put_self s _ _
  | case3 s c h => exact h
  | case4 s => exact isSome_find?_put_self s _ _
  | case5 s c d dir h => exact h
  | case6 s c d dir _ ih =>
      rw [isSome_find?_enter]
      exact isSome_find?_ensureDirectory (isSome_find?_put_self s _ _)

/-! ## What is new -/

structure Made (s : Store) (p q : Place) : Prop where
  exists_directory : ∃ n, s.find? q = some n ∧ n.attributes.isDirectory = true
  suffix : q <:+ p
  held : s.Held q

theorem Made.mono (h : s.Made p q) (hgrows : s.Grows t) : t.Made p q where
  exists_directory := by
    obtain ⟨n, hn, hdir⟩ := h.exists_directory
    obtain ⟨m, hm, hsame, _⟩ := hgrows.stored q n hn
    exact ⟨m, hm, hsame.trans hdir⟩
  suffix := h.suffix
  held := h.held.mono hgrows

/-- The second tree is the first one with directories that were made on the way to a place. -/
structure GrowsTo (s t : Store) (p : Place) : Prop extends s.Grows t where
  made : ∀ q, (t.find? q).isSome = true → (s.find? q).isSome = true ∨ t.Made p q

theorem GrowsTo.refl (s : Store) (p : Place) : s.GrowsTo s p :=
  ⟨.refl s, fun _ hq => .inl hq⟩

theorem GrowsTo.trans_grows (h : s.GrowsTo t p) (hgrows : t.Grows u)
    (hsome : ∀ q, (u.find? q).isSome = (t.find? q).isSome) : s.GrowsTo u p where
  toGrows := h.toGrows.trans hgrows
  made q hq := (h.made q (hsome q ▸ hq)).imp_right fun hmade => hmade.mono hgrows

theorem growsTo_setTime (s : Store) (p q : Place) (modified : Timestamp) :
    s.GrowsTo (s.modify p fun n => { n with modified }) q :=
  (GrowsTo.refl s q).trans_grows (grows_setTime s p modified) fun _ => isSome_find?_modify _ _ _ _

theorem growsTo_ensureDirectory (s : Store) (hp : IsRooted p) :
    s.GrowsTo (s.ensureDirectory p) p := by
  refine ⟨grows_ensureDirectory s p, fun q hq => ?_⟩
  fun_induction Store.ensureDirectory s p with
  | case1 => exact .inl hq
  | case2 => cases hp
  | case3 => exact .inl hq
  | case4 s c =>
      obtain rfl : c = .root := by
        cases hp with
        | root => rfl
        | name _ hdir => cases hdir
      by_cases heq : q = [.root]
      · subst heq
        have hput : (s.put [.root] emptyDirectory).find? [.root] = some emptyDirectory := by
          rw [find?_put, if_pos rfl]
        exact .inr ⟨⟨_, hput, rfl⟩, List.suffix_refl _, .root⟩
      · rw [find?_put, if_neg heq] at hq
        exact .inl hq
  | case5 => exact .inl hq
  | case6 s c d dir _ ih =>
      obtain ⟨name, rfl, hdir⟩ : ∃ name, c = .name name ∧ IsRooted (d :: dir) := by
        cases hp with
        | name name hdir => exact ⟨name, rfl, hdir⟩
      have hput := find?_put s (.name name :: d :: dir) (q := q) emptyDirectory
      have henter := grows_enter ((s.put (.name name :: d :: dir) emptyDirectory).ensureDirectory
        (d :: dir)) (d :: dir) (.name name)
      by_cases heq : q = .name name :: d :: dir
      · rw [if_pos heq] at hput
        have hgrows := (grows_ensureDirectory _ (d :: dir)).trans henter
        obtain ⟨n, hn, hsame, _⟩ := hgrows.stored _ _ hput
        subst heq
        exact .inr ⟨⟨n, hn, hsame⟩, List.suffix_refl _,
          held_enter name (isSome_find?_ensureDirectory_self _ _)⟩
      · rw [isSome_find?_enter] at hq
        rcases ih hdir hq with hold | hmade
        · rw [hput, if_neg heq] at hold
          exact .inl hold
        · have hsuffix := hmade.suffix.trans (List.suffix_cons (.name name) _)
          exact .inr { hmade.mono henter with suffix := hsuffix }

theorem linkToParent_name (s : Store) (name : String) (h : IsRooted dir) :
    s.linkToParent (.name name :: dir) = (s.ensureDirectory dir).enter dir (.name name) := by
  cases h <;> rfl

theorem growsTo_linkToParent (s : Store) (hp : IsRooted p) : s.GrowsTo (s.linkToParent p) p := by
  cases hp with
  | root => exact .refl s _
  | @name name dir hdir =>
      rw [linkToParent_name s name hdir]
      have hgrows := growsTo_ensureDirectory s hdir
      refine GrowsTo.trans_grows ⟨hgrows.toGrows, fun q hq => ?_⟩ (grows_enter _ _ _) fun q =>
        isSome_find?_enter _ _ _ _
      refine (hgrows.made q hq).imp_right fun hmade => ?_
      exact { hmade with suffix := hmade.suffix.trans (List.suffix_cons _ _) }

/-- A place that was linked to the directory around it hangs on this one. -/
theorem held_linkToParent (s : Store) (hp : IsRooted p) : (s.linkToParent p).Held p := by
  cases hp with
  | root => exact .root
  | @name name dir hdir =>
      rw [linkToParent_name s name hdir]
      exact held_enter name (isSome_find?_ensureDirectory_self s dir)

end Store

end TreeWatch
