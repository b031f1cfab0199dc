import TreeWatch.Proofs.Store.Names

/-!
# What directories of a stored tree list

What is found at a place after each change of a stored tree (`find?_put`, `find?_modify`,
`find?_remove`). From this, each name that a directory lists is what is legible of one that is
stored there, whatever was changed before, and a path that is removed takes with it what lies below
it and what is legible of its name in the directory around it, and no more (`listings_ofChanges`).
Where all names are texts, a directory lists what is stored; a name that is not UTF-8 is listed as
a path where nothing is stored (`dangling_illegible`).
-/

namespace TreeWatch

theorem lookup_filter_key {α β : Type} [BEq α] [LawfulBEq α] (f : α → Bool) (k : α)
    (l : List (α × β)) :
    (l.filter fun e => f e.1).lookup k = if f k = true then l.lookup k else none := by
  induction l with
  | nil => simp
  | cons e l ih =>
      obtain ⟨a, b⟩ := e
      rw [List.filter_cons, List.lookup_cons]
      by_cases hk : k = a
      · subst hk
        cases hf : f k <;> simp [hf, ih]
      · have hne : (k == a) = false := beq_eq_false_iff_ne.2 hk
        cases hf : f a <;> simp [List.lookup_cons, hne, ih]

namespace StoredNode

@[simp] theorem attributes_removeName (name : String) (n : StoredNode) :
    (n.removeName name).attributes = n.attributes := by
  obtain ⟨kind, modified⟩ := n
  cases kind <;> rfl

@[simp] theorem names_removeName (name : String) (n : StoredNode) :
    (n.removeName name).names = n.names.filter (· ≠ name) := by
  obtain ⟨kind, modified⟩ := n
  cases kind <;> rfl

theorem mem_names_addName {name a : String} {n : StoredNode} (h : a ∈ (n.addName name).names) :
    a ∈ n.names ∨ a = name := by
  obtain ⟨kind, modified⟩ := n
  cases kind with
  | file length => exact .inl h
  | link target => exact .inl h
  | directory names =>
      by_cases hlisted : name ∈ names
      · simp only [addName, if_pos hlisted] at h
        exact .inl h
      · simpa [addName, StoredNode.names, hlisted] using h

end StoredNode

namespace Store

variable {spelling : Spelling} {s : Store spelling} {p q dir : Place}

/-! ## What is found after a change -/

theorem lookup_putIn (p q : Place) (n : StoredNode) (es : List (Place × StoredNode)) :
    (putIn p n es).lookup q = if q = p then some n else es.lookup q := by
  induction es with
  | nil => by_cases h : q = p <;> simp [putIn, List.lookup_cons, h, beq_eq_false_iff_ne.2]
  | cons e es ih =>
      obtain ⟨a, m⟩ := e
      rw [putIn]
      by_cases ha : a = p
      · subst ha
        by_cases h : q = a <;> simp [List.lookup_cons, h, beq_eq_false_iff_ne.2]
      · rw [if_neg ha, List.lookup_cons, List.lookup_cons, ih]
        by_cases h : q = a
        · subst h
          simp [ha]
        · simp [beq_eq_false_iff_ne.2 h]

theorem find?_put (s : Store spelling) (p q : Place) (n : StoredNode) :
    (s.put p n).find? q = if q = p then some n else s.find? q :=
  lookup_putIn p q n s.nodes

theorem find?_modify (s : Store spelling) (p q : Place) (f : StoredNode → StoredNode) :
    (s.modify p f).find? q = if q = p then (s.find? q).map f else s.find? q := by
  rw [modify]
  cases hp : s.find? p with
  | none =>
      by_cases h : q = p
      · simp [h, hp]
      · rw [if_neg h]
  | some n =>
      by_cases h : q = p
      · rw [find?_put, if_pos h, if_pos h, h, hp, Option.map_some]
      · rw [find?_put, if_neg h, if_neg h]

/-- Whether anything is stored at a place is not touched by changing nodes. -/
@[simp] theorem isSome_find?_modify (s : Store spelling) (p q : Place)
    (f : StoredNode → StoredNode) : ((s.modify p f).find? q).isSome = (s.find? q).isSome := by
  rw [find?_modify]
  split <;> simp

@[simp] theorem isSome_find?_enter (s : Store spelling) (dir q : Place) (c : Component) :
    ((s.enter dir c).find? q).isSome = (s.find? q).isSome := by
  cases c with
  | name n => exact isSome_find?_modify s dir q _
  | root => rfl
  | current => rfl
  | parent => rfl

theorem isSome_find?_put {n : StoredNode} (h : (s.find? q).isSome = true) :
    ((s.put p n).find? q).isSome = true := by
  rw [find?_put]
  split
  · rfl
  · exact h

@[simp] theorem isSome_find?_put_self (s : Store spelling) (p : Place) (n : StoredNode) :
    ((s.put p n).find? p).isSome = true := by
  rw [find?_put, if_pos rfl, Option.isSome_some]

theorem isSome_find?_ensureDirectory (h : (s.find? q).isSome = true) :
    ((s.ensureDirectory p).find? q).isSome = true := by
  fun_induction ensureDirectory s p with
  | case1 => exact h
  | case2 => exact isSome_find?_put h
  | case3 => exact h
  | case4 => exact isSome_find?_put h
  | case5 => exact h
  | case6 s c d dir hnone ih =>
      rw [isSome_find?_enter]
      exact ih (isSome_find?_put h)

theorem find?_filter (s : Store spelling) (f : Place → Bool) (q : Place) :
    ({ s with nodes := s.nodes.filter fun e => f e.1 } : Store spelling).find? q
      = if f q = true then s.find? q else none :=
  lookup_filter_key f q s.nodes

theorem find?_remove_below {r : Path} (h : r.place.isSuffixOf q = true) :
    (s.remove r).find? q = none := by
  have hgone := s.find?_filter (fun a => !r.place.isSuffixOf a) q
  rw [h] at hgone
  rw [remove]
  split
  · rw [find?_modify, hgone]
    split <;> rfl
  · exact hgone

/-- The directory around a path that was removed no longer lists it. -/
theorem find?_remove_around {r : Path} {n : String} (h : r.place = .name n :: dir) :
    (s.remove r).find? dir = (s.find? dir).map (.removeName (spelling.legible n)) := by
  have hshort : r.place.isSuffixOf dir = false := by
    rw [h, ← Bool.not_eq_true, List.isSuffixOf_iff_suffix]
    intro hsuffix
    have := hsuffix.length_le
    simp only [List.length_cons] at this
    omega
  have hkept := s.find?_filter (fun a => !r.place.isSuffixOf a) dir
  rw [hshort] at hkept
  rw [remove]
  split
  · rename_i m d hr
    obtain ⟨rfl, rfl⟩ : m = n ∧ d = dir := by simpa [hr] using h
    rw [find?_modify, if_pos rfl, hkept]
    rfl
  · rename_i hr
    exact absurd h (hr n dir)

theorem find?_remove_of_ne {r : Path} (h : r.place.isSuffixOf q = false)
    (hdir : ∀ n, r.place ≠ .name n :: q) : (s.remove r).find? q = s.find? q := by
  have hkept := s.find?_filter (fun a => !r.place.isSuffixOf a) q
  rw [h] at hkept
  rw [remove]
  split
  · rename_i m d hr
    have hne : q ≠ d := fun hq => hdir m (hq ▸ hr)
    rw [find?_modify, if_neg hne, hkept]
    rfl
  · exact hkept

/-- Where something is left once a path has been removed, it is what was there before, but that it
does not list the path. -/
theorem exists_find?_remove {r : Path} (h : r.place.isSuffixOf q = false) :
    ∃ f : StoredNode → StoredNode, (s.remove r).find? q = (s.find? q).map f ∧
      ∀ m, (f m).attributes = m.attributes ∧
        ∀ name ∈ (f m).names, name ∈ m.names ∧
          ∀ n, r.place = .name n :: q → spelling.legible n ≠ name := by
  by_cases hdir : ∃ n, r.place = .name n :: q
  · obtain ⟨n, hr⟩ := hdir
    refine ⟨.removeName (spelling.legible n), find?_remove_around hr, fun m => ⟨by simp, ?_⟩⟩
    intro name hname
    rw [StoredNode.names_removeName, List.mem_filter, decide_eq_true_eq] at hname
    refine ⟨hname.1, fun a ha heq => hname.2 ?_⟩
    obtain rfl : n = a := by simpa using hr.symm.trans ha
    exact heq.symm
  · have hne : ∀ n, r.place ≠ .name n :: q := fun n hr => hdir ⟨n, hr⟩
    refine ⟨id, ?_, fun m => ⟨rfl, fun name hname => ⟨hname, fun n hr => absurd hr (hne n)⟩⟩⟩
    rw [find?_remove_of_ne h hne, Option.map_id]
    rfl

theorem isSome_find?_remove {r : Path} (h : r.place.isSuffixOf q = false) :
    ((s.remove r).find? q).isSome = (s.find? q).isSome := by
  obtain ⟨f, hf, _⟩ := exists_find?_remove (s := s) h
  rw [hf, Option.isSome_map]

theorem map_attributes_find?_remove {r : Path} (h : r.place.isSuffixOf q = false) :
    ((s.remove r).find? q).map StoredNode.attributes
      = (s.find? q).map StoredNode.attributes := by
  obtain ⟨f, hf, hm⟩ := exists_find?_remove (s := s) h
  rw [hf, Option.map_map]
  congr 1
  funext m
  exact (hm m).1

/-! ## What is listed is stored -/

/-- A name in a directory is what is legible of one that something is stored under there. -/
def Backs (s : Store spelling) (dir : Place) (name : String) : Prop :=
  ∃ stored, spelling.legible stored = name ∧ (s.find? (.name stored :: dir)).isSome = true

theorem Backs.mono {t : Store spelling} {name : String} (h : s.Backs dir name)
    (hkept : ∀ q, (s.find? q).isSome = true → (t.find? q).isSome = true) : t.Backs dir name := by
  obtain ⟨stored, hname, hstored⟩ := h
  exact ⟨stored, hname, hkept _ hstored⟩

def Grounded (s : Store spelling) : Prop :=
  ∀ p n, s.find? p = some n → ∀ name ∈ n.names, s.Backs p name

namespace Grounded

/-- A node that lists nothing can stand in the place of another one. -/
theorem put {n : StoredNode} (h : s.Grounded) (hn : n.names = []) : (s.put p n).Grounded := by
  intro q m hm name hname
  rw [find?_put] at hm
  split at hm
  · obtain rfl := Option.some.inj hm
    simp [hn] at hname
  · exact (h q m hm name hname).mono fun _ => isSome_find?_put

theorem modify {f : StoredNode → StoredNode} (h : s.Grounded)
    (hf : ∀ n, s.find? p = some n → ∀ name ∈ (f n).names, name ∈ n.names ∨ s.Backs p name) :
    (s.modify p f).Grounded := by
  intro q m hm name hname
  have hkept : ∀ q, (s.find? q).isSome = true → ((s.modify p f).find? q).isSome = true := by
    intro q hq
    rwa [isSome_find?_modify]
  rw [find?_modify] at hm
  split at hm
  · rename_i hq
    subst hq
    obtain ⟨n, hn, rfl⟩ := Option.map_eq_some_iff.1 hm
    rcases hf n hn name hname with hlisted | hbacked
    · exact (h q n hn name hlisted).mono hkept
    · exact hbacked.mono hkept
  · exact (h q m hm name hname).mono hkept

/-- A place can be listed in the directory around it if something is stored there. -/
theorem enter {c : Component} (h : s.Grounded) (hc : (s.find? (c :: dir)).isSome = true) :
    (s.enter dir c).Grounded := by
  cases c with
  | name n =>
      refine h.modify fun m _ name hname => ?_
      rcases StoredNode.mem_names_addName hname with hname | rfl
      · exact .inl hname
      · exact .inr ⟨n, rfl, hc⟩
  | root => exact h
  | current => exact h
  | parent => exact h

theorem ensureDirectory (h : s.Grounded) : (s.ensureDirectory p).Grounded := by
  fun_induction Store.ensureDirectory s p with
  | case1 => exact h
  | case2 => exact h.put rfl
  | case3 => exact h
  | case4 => exact h.put rfl
  | case5 => exact h
  | case6 s c d dir hnone ih =>
      exact (ih (h.put rfl)).enter
        (isSome_find?_ensureDirectory (isSome_find?_put_self s (c :: d :: dir) emptyDirectory))

theorem linkToParent (h : s.Grounded) (hp : (s.find? p).isSome = true) :
    (s.linkToParent p).Grounded := by
  fun_cases Store.linkToParent s p with
  | case1 c d dir => exact h.ensureDirectory.enter (isSome_find?_ensureDirectory hp)
  | case2 => exact h

theorem remove (h : s.Grounded) (r : Path) : (s.remove r).Grounded := by
  intro q m hm name hname
  have hq : r.place.isSuffixOf q = false := by
    rw [← Bool.not_eq_true]
    intro hbelow
    rw [find?_remove_below hbelow] at hm
    cases hm
  obtain ⟨f, hf, hkeeps⟩ := exists_find?_remove (s := s) hq
  obtain ⟨k, hk, rfl⟩ := Option.map_eq_some_iff.1 (hf.symm.trans hm)
  obtain ⟨hlisted, hne⟩ := (hkeeps k).2 name hname
  obtain ⟨stored, hlegible, hstored⟩ := h q k hk name hlisted
  have hbelow : r.place.isSuffixOf (.name stored :: q) = false := by
    rw [← Bool.not_eq_true, List.isSuffixOf_iff_suffix, List.suffix_cons_iff, not_or,
      ← List.isSuffixOf_iff_suffix, hq]
    exact ⟨fun hr => hne stored hr hlegible, Bool.false_ne_true⟩
  exact ⟨stored, hlegible, (isSome_find?_remove hbelow).trans hstored⟩

/-- A change of what is known of a node, other than its names, leaves all listings as they are. -/
theorem modifyTime (h : s.Grounded) (modified : Timestamp) :
    (s.modify p fun n => { n with modified }).Grounded :=
  h.modify fun _ _ _ hname => .inl hname

theorem apply (h : s.Grounded) (change : StoreChange) : (s.apply change).Grounded := by
  cases change with
  | addDirectory p modified => exact h.ensureDirectory.modifyTime modified
  | addFile p length modified => exact (h.put rfl).linkToParent (isSome_find?_put_self s _ _)
  | addLink p target modified => exact (h.put rfl).linkToParent (isSome_find?_put_self s _ _)
  | setModified p modified => exact h.modifyTime modified
  | remove p => exact h.remove p
  | failListing p => exact h
  | failMetadata p => exact h
  | heal p => exact h

end Grounded

theorem grounded_ofChanges (changes : List StoreChange) (spelling : Spelling) :
    (ofChanges changes spelling).Grounded :=
  ofChanges_induction (fun p n hn => by simp [find?] at hn) (fun _ change h => h.apply change)
    changes

/-! ## What is left when a path is removed -/

theorem isSuffixOf_place (a b : Path) : a.place.isSuffixOf b.place = b.isWithin a := by
  rw [Bool.eq_iff_iff, List.isSuffixOf_iff_suffix, Path.isWithin_iff, Path.place, Path.place,
    List.reverse_suffix]

theorem place_child (dir : Path) {name : String} (h : IsName name) :
    (dir.child name).place = .name name :: dir.place := by
  rw [Path.place, Path.components_child dir h, List.reverse_concat]
  rfl

theorem place_eq_cons_iff {p q : Path} {c : Component} :
    p.place = c :: q.place ↔ p.components = q.components ++ [c] := by
  rw [Path.place, Path.place, List.reverse_eq_cons_iff, List.reverse_reverse]

/-- The first tree without a path: what was stored at the path and below it is gone, all else is
stored and is said to be what it was, and lists what it listed, in the same order, but for what is
legible of the path in the directory around it. -/
structure IsWithout (t s : Store spelling) (p : Path) : Prop where
  gone : ∀ q : Path, q.isWithin p = true → t.find? q.place = none
  left : ∀ q : Path, q.isWithin p = false →
    (t.find? q.place).isSome = (s.find? q.place).isSome
  linkMetadata_eq : ∀ q : Path, q.isWithin p = false → t.linkMetadata q = s.linkMetadata q
  list_around : ∀ (q : Path) (n : String), p.components = q.components ++ [.name n] →
    t.list q = (s.list q).map fun listing => listing.filter (· ≠ q.child (spelling.legible n))
  list_eq : ∀ q : Path, q.isWithin p = false →
    (∀ n : String, p.components ≠ q.components ++ [.name n]) → t.list q = s.list q

theorem failures_modify (s : Store spelling) (p : Place) (f : StoredNode → StoredNode) :
    (s.modify p f).unlistable = s.unlistable ∧ (s.modify p f).unreadable = s.unreadable := by
  rw [modify]
  split <;> exact ⟨rfl, rfl⟩

theorem failures_remove (s : Store spelling) (p : Path) :
    (s.remove p).unlistable = s.unlistable ∧ (s.remove p).unreadable = s.unreadable := by
  rw [remove]
  split
  · exact failures_modify _ _ _
  · exact ⟨rfl, rfl⟩

theorem linkMetadata_congr {t : Store spelling} {q : Path} (hfailures : t.unreadable = s.unreadable)
    (h : (t.find? q.place).map StoredNode.attributes
      = (s.find? q.place).map StoredNode.attributes) : t.linkMetadata q = s.linkMetadata q := by
  rw [linkMetadata, linkMetadata, hfailures]
  split
  · rfl
  · cases ht : t.find? q.place <;> cases hs : s.find? q.place <;> simp_all

theorem list_congr {t : Store spelling} {q : Path} (hfailures : t.unlistable = s.unlistable)
    (h : t.find? q.place = s.find? q.place) : t.list q = s.list q := by
  rw [list, list, hfailures, h]

theorem filter_map_child {dir : Path} {names : List String} {n : String}
    (hnames : ∀ a ∈ names, IsName a) (hn : IsName n) :
    (names.map dir.child).filter (· ≠ dir.child n) = (names.filter (· ≠ n)).map dir.child := by
  rw [List.filter_map]
  congr 1
  refine List.filter_congr fun a ha => ?_
  simp [Path.child_inj (hnames a ha) hn]

theorem Named.list_removeName (hs : s.Named) {t : Store spelling} {q : Path} {n : String}
    (hn : IsName n) (hfailures : t.unlistable = s.unlistable)
    (h : t.find? q.place = (s.find? q.place).map (.removeName n)) :
    t.list q = (s.list q).map fun listing => listing.filter (· ≠ q.child n) := by
  rw [list, list, hfailures, h]
  split
  · rfl
  · cases hk : s.find? q.place with
    | none => rfl
    | some k =>
        have hnames := (hs _ (mem_nodes_of_find? hk)).isName
        obtain ⟨kind, modified⟩ := k
        cases kind with
        | file length => rfl
        | link target => rfl
        | directory names =>
            exact congrArg Except.ok (filter_map_child hnames hn).symm

theorem Named.isWithout_remove (hs : s.Named) (p : Path) : (s.remove p).IsWithout s p := by
  obtain ⟨hunlistable, hunreadable⟩ := s.failures_remove p
  constructor
  case gone =>
    intro q hq
    exact find?_remove_below ((isSuffixOf_place p q).trans hq)
  case left =>
    intro q hq
    exact isSome_find?_remove ((isSuffixOf_place p q).trans hq)
  case linkMetadata_eq =>
    intro q hq
    exact linkMetadata_congr hunreadable
      (map_attributes_find?_remove ((isSuffixOf_place p q).trans hq))
  case list_around =>
    intro q n hp
    have hplace : p.place = .name n :: q.place := place_eq_cons_iff.2 hp
    have hn : IsName n := isPlace_place p n (hplace ▸ List.mem_cons_self)
    exact hs.list_removeName (spelling.isName_legible hn) hunlistable (find?_remove_around hplace)
  case list_eq =>
    intro q hq hne
    refine list_congr hunlistable (find?_remove_of_ne ((isSuffixOf_place p q).trans hq) ?_)
    intro n hplace
    exact hne n (place_eq_cons_iff.1 hplace)

/-- Whatever was changed in a stored tree, no directory lists a name twice, and all that it lists is
stored, also where listing it fails, if its name is a text: what is listed and not stored is what
is legible of something else that is stored in the directory. Removing a path from the tree takes
away just what is stored there and below, and what is legible of the path from the directory around
it. -/
theorem listings_ofChanges (changes : List StoreChange) (spelling : Spelling) :
    (∀ place n, (ofChanges changes spelling).find? place = some n → n.names.Nodup ∧
      ∀ name ∈ n.names, (ofChanges changes spelling).Backs place name) ∧
    (∀ dir listing, (ofChanges changes spelling).list dir = .ok listing →
      (listing.map Path.baseName).Nodup ∧
      ∀ q ∈ listing, ((ofChanges changes spelling).find? q.place).isSome = true ∨
        ∃ name, spelling.legible name ≠ name ∧ q = dir.child (spelling.legible name) ∧
          ((ofChanges changes spelling).find? (.name name :: dir.place)).isSome = true) ∧
    ∀ p, ((ofChanges changes spelling).remove p).IsWithout (ofChanges changes spelling) p := by
  have hnamed := named_ofChanges changes spelling
  have hgrounded := grounded_ofChanges changes spelling
  refine ⟨fun place n hn => ?_, fun dir listing hlist => ?_, hnamed.isWithout_remove⟩
  · exact ⟨(hnamed _ (mem_nodes_of_find? hn)).nodup, hgrounded place n hn⟩
  · have hlisting := isListing_of_list hnamed hlist
    obtain ⟨_, names, modified, hn, rfl⟩ := list_eq_ok_iff.1 hlist
    refine ⟨hlisting.nodup_baseName, fun q hq => ?_⟩
    obtain ⟨name, hname, rfl⟩ := List.mem_map.1 hq
    obtain ⟨stored, rfl, hstored⟩ := hgrounded _ _ hn name hname
    by_cases hlegible : spelling.legible stored = stored
    · left
      rw [place_child dir ((hnamed _ (mem_nodes_of_find? hn)).isName _ hname), hlegible]
      exact hstored
    · exact .inr ⟨stored, hlegible, rfl, hstored⟩

def illegible : List StoreChange := [.addFile ⟨Text.ofBytes [0x2F, 0x72, 0x2F, 0xFF]⟩ 1 .epoch]

/-- The directory lists the file by a replacement character, and nothing is stored there. -/
theorem dangling_illegible :
    (ofChanges illegible .bytes).list ⟨"/r"⟩
      = .ok [⟨Text.ofBytes [0x2F, 0x72, 0x2F, 0xEF, 0xBF, 0xBD]⟩] ∧
    ¬ ∀ changes dir listing, (ofChanges changes .bytes).list dir = .ok listing →
      ∀ q ∈ listing, ((ofChanges changes .bytes).find? q.place).isSome = true := by
  have hlist : (ofChanges illegible .bytes).list ⟨"/r"⟩
      = .ok [⟨Text.ofBytes [0x2F, 0x72, 0x2F, 0xEF, 0xBF, 0xBD]⟩] :=
    list_eq_ok_iff.2 ⟨by decide, [Text.ofBytes [0xEF, 0xBF, 0xBD]], .epoch, by decide +kernel,
      by decide +kernel⟩
  have hmissing : ((ofChanges illegible .bytes).find?
      (Path.mk (Text.ofBytes [0x2F, 0x72, 0x2F, 0xEF, 0xBF, 0xBD])).place).isSome = false := by
    decide +kernel
  refine ⟨hlist, fun hstored => ?_⟩
  have := hstored _ _ _ hlist _ List.mem_cons_self
  rw [hmissing] at this
  cases this

end Store

end TreeWatch
