import TreeWatch.Proofs.Snapshot.Still
import TreeWatch.Proofs.Store.Growth

/-!
# The way from the root to what is stored

Something is stored around all that is added to a tree, and it lists what was added if it is a
directory (`Store.Lineal`, `Store.sound_ofChanges`). It need not be one: a file stays where a
directory would be needed, and a file that takes the place of a directory leaves there what lies
below. So what is stored is come upon from the root on just if nothing but directories is on the way
(`Store.Sound.exists_reached_iff`).
-/

namespace TreeWatch

namespace Path

structure Plain (p : Path) : Prop where
  isAbsolute : p.isAbsolute = true
  no_parent : .parent ∉ p.components

/-- The first path is the one around the second one, which has one name more. -/
def IsAround (dir p : Path) : Prop := ∃ name, p.components = dir.components ++ [.name name]

theorem eq_parent_or_name_of_componentOf? {piece : List Char} {c : Component}
    (h : componentOf? piece = some c) : c = .parent ∨ ∃ name, c = .name name := by
  rw [componentOf?] at h
  split at h
  · cases h
  · split at h <;> cases h
    · exact .inl rfl
    · exact .inr ⟨_, rfl⟩

theorem Plain.isRooted {p : Path} (h : p.Plain) : IsRooted p.place := by
  obtain ⟨cs, hcs⟩ : ∃ cs, p.text.toList = '/' :: cs :=
    List.head?_eq_some_iff.1 (beq_iff_eq.1 h.isAbsolute)
  have hcomponents : p.components = .root :: (pieces cs).filterMap componentOf? := by
    rw [components, hcs, componentsOf]
  rw [place, hcomponents, List.reverse_cons]
  refine isRooted_append_root fun c hc => ?_
  have hmem := List.mem_reverse.1 hc
  obtain ⟨piece, -, hpiece⟩ := List.mem_filterMap.1 hmem
  rcases eq_parent_or_name_of_componentOf? hpiece with rfl | hname
  · exact absurd (hcomponents ▸ List.mem_cons_of_mem _ hmem) h.no_parent
  · exact hname

end Path

/-- A change that adds something, dates it or removes it, at a path from the root on without
dots. -/
def StoreChange.Builds : StoreChange → Prop
  | .addDirectory p _ | .addFile p _ _ | .addLink p _ _ | .setModified p _ | .remove p => p.Plain
  | .failListing _ | .failMetadata _ | .heal _ => False

namespace Store

variable {s t : Store} {p q dir : Place}

theorem isSuffixOf_eq_false_of_remove {r : Path}
    (h : ((s.remove r).find? q).isSome = true) : r.place.isSuffixOf q = false := by
  rw [← Bool.not_eq_true]
  intro hbelow
  rw [find?_remove_below hbelow] at h
  cases h

/-! ## The invariant -/

def Lineal (s : Store) : Prop := ∀ p, (s.find? p).isSome = true → s.Held p

namespace Lineal

theorem isRooted (h : s.Lineal) {n : StoredNode} (hn : s.find? p = some n) : IsRooted p := by
  have hheld := h p (Option.isSome_of_eq_some hn)
  induction p generalizing n with
  | nil => cases hheld
  | cons c dir ih =>
      cases hheld with
      | root => exact .root
      | name hdir _ => exact .name _ (ih hdir (h dir (Option.isSome_of_eq_some hdir)))

theorem grows (h : s.Lineal) (hgrows : s.GrowsTo t p) : t.Lineal := by
  intro q hq
  rcases hgrows.made q hq with hold | hmade
  · exact (h q hold).mono hgrows.toGrows
  · exact hmade.held

theorem setTime (h : s.Lineal) (p : Place) (modified : Timestamp) :
    (s.modify p fun n => { n with modified }).Lineal :=
  h.grows (growsTo_setTime s p p modified)

/-- A file or a link that is put in the place of whatever is there takes away nothing that something
else hangs on. -/
theorem put (h : s.Lineal) {n : StoredNode} (hn : n.attributes.isDirectory = false)
    (hp : IsRooted p) : ((s.put p n).linkToParent p).Lineal := by
  have hgrows := (s.put p n).growsTo_linkToParent hp
  intro q hq
  by_cases heq : q = p
  · subst heq
    exact held_linkToParent _ hp
  · rcases hgrows.made q hq with hold | hmade
    · rw [find?_put, if_neg heq] at hold
      exact ((h q hold).put hn).mono hgrows.toGrows
    · exact hmade.held

theorem remove (h : s.Lineal) (r : Path) : (s.remove r).Lineal := by
  intro q hq
  have hq' := isSuffixOf_eq_false_of_remove hq
  rw [isSome_find?_remove hq'] at hq
  cases h q hq with
  | root => exact .root
  | @name name dir n hn hlisted =>
      by_cases haround : ∃ name', r.place = .name name' :: dir
      · -- another entry of the same directory is removed, and with it only its own name
        obtain ⟨name', hr⟩ := haround
        have hne : name ≠ name' := by
          rintro rfl
          rw [hr, ← Bool.not_eq_true, List.isSuffixOf_iff_suffix] at hq'
          exact hq' (List.suffix_refl _)
        refine .name (n := n.removeName name') ?_ fun hdir => ?_
        · rw [find?_remove_around hr, hn, Option.map_some, Spelling.legible_text]
        · rw [StoredNode.attributes_removeName] at hdir
          simpa using ⟨hlisted hdir, hne⟩
      · have hdir : r.place.isSuffixOf dir = false := by
          rw [← Bool.not_eq_true, List.isSuffixOf_iff_suffix] at hq' ⊢
          exact fun hsuffix => hq' (hsuffix.trans (List.suffix_cons _ _))
        refine .name (n := n) ?_ hlisted
        rw [find?_remove_of_ne hdir fun name' hr => haround ⟨name', hr⟩, hn]

theorem apply (h : s.Lineal) {c : StoreChange} (hc : c.Builds) : (s.apply c).Lineal := by
  cases c with
  | addDirectory p modified =>
      exact (h.grows (growsTo_ensureDirectory s hc.isRooted)).setTime _ modified
  | addFile p length modified => exact h.put rfl hc.isRooted
  | addLink p target modified => exact h.put rfl hc.isRooted
  | setModified p modified => exact h.setTime _ modified
  | remove p => exact h.remove p
  | failListing | failMetadata | heal => cases hc

end Lineal

theorem failures_linkToParent (s : Store) (p : Place) :
    (s.linkToParent p).unlistable = s.unlistable ∧
      (s.linkToParent p).unreadable = s.unreadable := by
  fun_cases Store.linkToParent s p with
  | case1 c d dir =>
      have hgrows := (grows_ensureDirectory s (d :: dir)).trans (grows_enter _ (d :: dir) c)
      exact ⟨hgrows.unlistable, hgrows.unreadable⟩
  | case2 => exact ⟨rfl, rfl⟩

theorem failures_apply {c : StoreChange} (hc : c.Builds) :
    (s.apply c).unlistable = s.unlistable ∧ (s.apply c).unreadable = s.unreadable := by
  cases c with
  | addDirectory p modified =>
      have hgrows := (grows_ensureDirectory s p.place).trans (grows_setTime _ p.place modified)
      exact ⟨hgrows.unlistable, hgrows.unreadable⟩
  | addFile p length modified => exact failures_linkToParent _ _
  | addLink p target modified => exact failures_linkToParent _ _
  | setModified p modified => exact failures_modify _ _ _
  | remove p => exact failures_remove s p
  | failListing | failMetadata | heal => cases hc

structure Sound (s : Store) : Prop where
  lineal : s.Lineal
  named : s.Named
  unlistable : s.unlistable = []
  unreadable : s.unreadable = []

theorem Sound.apply (h : s.Sound) {c : StoreChange} (hc : c.Builds) : (s.apply c).Sound where
  lineal := h.lineal.apply hc
  named := h.named.apply c
  unlistable := (failures_apply hc).1.trans h.unlistable
  unreadable := (failures_apply hc).2.trans h.unreadable

theorem sound_ofChanges {changes : List StoreChange} (h : ∀ c ∈ changes, c.Builds) :
    (ofChanges changes).Sound := by
  have hempty : ({} : Store).Sound :=
    ⟨fun p hp => by simp [find?] at hp, by simp [Named], rfl, rfl⟩
  exact List.foldlRecOn changes Store.apply hempty fun s hs c hc => hs.apply (h c hc)

/-! ## What a sound tree answers -/

theorem Sound.linkMetadata_eq_ok_iff (h : s.Sound) {p : Path} {a : Attributes} :
    s.linkMetadata p = .ok a ↔ ∃ n, s.find? p.place = some n ∧ n.attributes = a := by
  constructor
  · intro ha
    obtain ⟨n, hn, rfl⟩ := exists_find?_of_linkMetadata ha
    exact ⟨n, hn, rfl⟩
  · rintro ⟨n, hn, rfl⟩
    rw [linkMetadata, if_neg (by simp [h.unreadable]), hn]

def ListsOnce (s : Store) (dir p : Path) : Prop :=
  (∃ a, s.linkMetadata dir = .ok a ∧ a.isDirectory = true) ∧
    ∃ listing, s.list dir = .ok listing ∧ listing.countP p.same = 1

/-- Something else than a directory is stored at a path, so that it cannot be listed. -/
def Bars (s : Store) (dir : Path) : Prop :=
  (∃ a, s.linkMetadata dir = .ok a ∧ a.isDirectory = false) ∧
    s.list dir = .error (notDirectory dir)

theorem same_iff_place_eq {p q : Path} : p.same q = true ↔ p.place = q.place := by
  rw [Path.same, beq_iff_eq, Path.place, Path.place, List.reverse_inj]

/-- A directory that lists distinct names lists the path of each of them once. -/
theorem countP_same_child {dir p : Path} {name : String} {names : List String}
    (hp : p.components = dir.components ++ [.name name]) (hnodup : names.Nodup)
    (hnames : ∀ n ∈ names, IsName n) (hname : name ∈ names) :
    (names.map dir.child).countP p.same = 1 := by
  rw [List.countP_map, ← List.count_eq_one_of_mem hnodup hname, List.count]
  refine List.countP_congr fun n hn => ?_
  rw [Function.comp_apply, Path.same, beq_iff_eq, beq_iff_eq, hp,
    Path.components_child dir (hnames n hn), List.append_cancel_left_eq, List.cons.injEq,
    Component.name.injEq, and_iff_left rfl, eq_comm]

theorem Sound.listsOnce_or_bars (h : s.Sound) {p dir : Path} {a : Attributes}
    (hp : s.linkMetadata p = .ok a) (haround : dir.IsAround p) :
    s.ListsOnce dir p ∨ s.Bars dir := by
  obtain ⟨m, hm, rfl⟩ := h.linkMetadata_eq_ok_iff.1 hp
  obtain ⟨name, hname⟩ := haround
  have hheld := h.lineal p.place (Option.isSome_of_eq_some hm)
  rw [place_eq_cons_iff.2 hname] at hheld
  cases hheld with
  | @name _ _ n hn hlisted =>
      have hdir := h.linkMetadata_eq_ok_iff.2 ⟨n, hn, rfl⟩
      have hnamed := h.named _ (mem_nodes_of_find? hn)
      have hfails : dir.place ∉ s.unlistable := by simp [h.unlistable]
      obtain ⟨kind, modified⟩ := n
      cases kind with
      | directory names =>
          refine .inl ⟨⟨_, hdir, rfl⟩, names.map dir.child, ?_, ?_⟩
          · exact list_eq_ok_iff.2 ⟨hfails, names, modified, hn, rfl⟩
          · exact countP_same_child hname hnamed.nodup hnamed.isName (hlisted rfl)
      | file length =>
          refine .inr ⟨⟨_, hdir, rfl⟩, ?_⟩
          rw [list, if_neg hfails, hn]
      | link target =>
          refine .inr ⟨⟨_, hdir, rfl⟩, ?_⟩
          rw [list, if_neg hfails, hn]

theorem exists_place_eq (hp : IsRooted p) (hnames : IsPlace p) : ∃ path : Path, path.place = p := by
  induction hp with
  | root => exact ⟨⟨"/"⟩, by decide⟩
  | @name name dir _ ih =>
      obtain ⟨path, rfl⟩ := ih hnames.tail
      exact ⟨path.child name, place_child path (hnames name List.mem_cons_self)⟩

theorem Sound.exists_isAround (h : s.Sound) {p : Path} {a : Attributes}
    (hp : s.linkMetadata p = .ok a) (hroot : p.same ⟨"/"⟩ = false) :
    ∃ dir : Path, dir.IsAround p := by
  obtain ⟨m, hm, rfl⟩ := h.linkMetadata_eq_ok_iff.1 hp
  have hrooted := h.lineal.isRooted hm
  have hnames := isPlace_place p
  generalize hplace : p.place = place at hrooted hnames
  cases hrooted with
  | root =>
      have hsame : p.same ⟨"/"⟩ = true := same_iff_place_eq.2 (hplace.trans (by decide))
      rw [hroot] at hsame
      cases hsame
  | @name name dir hdir =>
      obtain ⟨path, rfl⟩ := exists_place_eq hdir hnames.tail
      exact ⟨path, name, place_eq_cons_iff.1 hplace⟩

/-! ## The way from the root -/

/-- The paths that are come upon when directories are listed, from the root on. -/
inductive Reached (s : Store) : Path → Prop where
  | root : s.Reached ⟨"/"⟩
  | listed {dir p : Path} {listing : List Path} : s.Reached dir → s.list dir = .ok listing →
      p ∈ listing → s.Reached p

/-- Nothing but directories is stored on the way to a place. -/
def Clear (s : Store) (p : Place) : Prop :=
  ∀ d n, d <:+ p → d ≠ p → s.find? d = some n → n.attributes.isDirectory = true

theorem clear_name_iff {name : String} : s.Clear (.name name :: dir) ↔
    (∀ n, s.find? dir = some n → n.attributes.isDirectory = true) ∧ s.Clear dir := by
  constructor
  · intro h
    have hproper {d : Place} (hd : d <:+ dir) : d ≠ .name name :: dir := by
      rintro rfl
      have := hd.length_le
      simp at this
    exact ⟨fun n hn => h dir n (List.suffix_cons _ _) (hproper (List.suffix_refl _)) hn,
      fun d n hd _ hn => h d n (hd.trans (List.suffix_cons _ _)) (hproper hd) hn⟩
  · rintro ⟨hdir, hclear⟩ d n hd hne hn
    rcases List.suffix_cons_iff.1 hd with heq | hsuffix
    · exact absurd heq hne
    · by_cases heq : d = dir
      · exact hdir n (heq ▸ hn)
      · exact hclear d n hsuffix heq hn

theorem Sound.clear_root (h : s.Sound) : s.Clear [.root] := by
  intro d n hd hne hn
  have hrooted := h.lineal.isRooted hn
  cases hrooted with
  | root => exact absurd rfl hne
  | name _ _ =>
      have := hd.length_le
      simp_all [List.suffix_cons_iff]

theorem Sound.clear_of_reached (h : s.Sound) {p : Path} (hp : s.Reached p) : s.Clear p.place := by
  induction hp with
  | root => exact h.clear_root
  | @listed dir p listing _ hlist hmem ih =>
      obtain ⟨_, names, modified, hn, rfl⟩ := list_eq_ok_iff.1 hlist
      obtain ⟨name, hname, rfl⟩ := List.mem_map.1 hmem
      have hnamed := h.named _ (mem_nodes_of_find? hn)
      rw [place_child dir (hnamed.isName name hname), clear_name_iff]
      refine ⟨fun m hm => ?_, ih⟩
      obtain rfl := Option.some.inj (hn.symm.trans hm)
      rfl

/-- Where the way to a place is clear, what is stored there is come upon, name by name. -/
theorem Sound.exists_reached (h : s.Sound) {m : StoredNode} (hm : s.find? p = some m)
    (hclear : s.Clear p) : ∃ path : Path, path.place = p ∧ s.Reached path := by
  induction h.lineal.isRooted hm generalizing m with
  | root => exact ⟨⟨"/"⟩, by decide, .root⟩
  | @name name dir _ ih =>
      obtain ⟨hdirectory, hclear⟩ := clear_name_iff.1 hclear
      cases h.lineal _ (Option.isSome_of_eq_some hm) with
      | @name _ _ n hn hlisted =>
          obtain ⟨path, rfl, hpath⟩ := ih hn hclear
          have hnames := h.named _ (mem_nodes_of_find? hn)
          have hname := hlisted (hdirectory n hn)
          refine ⟨path.child name, place_child path (hnames.isName name hname), ?_⟩
          obtain ⟨kind, modified⟩ := n
          cases kind with
          | file length => cases hname
          | link target => cases hname
          | directory names =>
              have hlist := list_eq_ok_iff.2
                ⟨by simp [h.unlistable], names, modified, hn, rfl⟩
              exact hpath.listed hlist (List.mem_map_of_mem hname)

theorem Sound.exists_reached_iff (h : s.Sound) {p : Path} {a : Attributes}
    (hp : s.linkMetadata p = .ok a) :
    (∃ q, p.same q = true ∧ s.Reached q) ↔ s.Clear p.place := by
  obtain ⟨n, hn, -⟩ := h.linkMetadata_eq_ok_iff.1 hp
  constructor
  · rintro ⟨q, hsame, hq⟩
    rw [same_iff_place_eq.1 hsame]
    exact h.clear_of_reached hq
  · intro hclear
    obtain ⟨q, hplace, hq⟩ := h.exists_reached hn hclear
    exact ⟨q, same_iff_place_eq.2 hplace.symm, hq⟩

/-- The way to a path is clear just if all that is found above it are directories. -/
theorem Sound.clear_place_iff (h : s.Sound) (p : Path) : s.Clear p.place ↔
    ∀ dir b, p.isWithin dir = true → dir.same p = false → s.linkMetadata dir = .ok b →
      b.isDirectory = true := by
  constructor
  · intro hclear dir b hwithin hne hb
    obtain ⟨n, hn, rfl⟩ := h.linkMetadata_eq_ok_iff.1 hb
    refine hclear dir.place n ?_ (fun heq => ?_) hn
    · rwa [← isSuffixOf_place, List.isSuffixOf_iff_suffix] at hwithin
    · rw [same_iff_place_eq.2 heq] at hne
      cases hne
  · intro hall d n hd hne hn
    have hrooted := h.lineal.isRooted hn
    obtain ⟨dir, rfl⟩ := exists_place_eq hrooted fun name hname =>
      isPlace_place p name (hd.subset hname)
    refine hall dir _ ?_ ?_ (h.linkMetadata_eq_ok_iff.2 ⟨n, hn, rfl⟩)
    · rwa [← isSuffixOf_place, List.isSuffixOf_iff_suffix]
    · rw [← Bool.not_eq_true, same_iff_place_eq]
      exact hne

end Store

end TreeWatch
