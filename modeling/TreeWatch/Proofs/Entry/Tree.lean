import Mathlib.Data.List.Nodup
import Mathlib.Data.List.Perm.Basic
import TreeWatch.Comparator
import TreeWatch.Proofs.Path.Child

/-!
# Entries and what lies below them

`Everywhere` says that a property holds of an entry and of all below it. In a tree whose
directories hold the entries of distinct names in them (`Listed`), the path of an entry tells
where in the tree it lies: it is the path of the root with names after it
(`exists_names_of_mem_preorder`), and no two entries share one (`nodup_components_preorder`).
A snapshot is such a tree with the entries of each directory in order (`IsSnapshot`).
-/

namespace TreeWatch

def Path.descend (p : Path) (names : List String) : Path := names.foldl Path.child p

theorem Path.components_descend (p : Path) {names : List String}
    (h : ∀ n ∈ names, IsName n) :
    (p.descend names).components = p.components ++ names.map .name := by
  induction names generalizing p with
  | nil => simp [descend]
  | cons n names ih =>
      have hn : IsName n := h n List.mem_cons_self
      have hrest := ih (p.child n) fun m hm => h m (List.mem_cons_of_mem n hm)
      rw [descend, List.foldl_cons, ← descend, hrest, components_child p hn]
      simp

/-- What is known of an entry, without what is in it. -/
structure Fact where
  isDirectory : Bool
  modified : Timestamp
  length : UInt64
deriving DecidableEq, Repr

def Attributes.fact (a : Attributes) : Fact :=
  ⟨a.isDirectory, a.modified, if a.isDirectory then 0 else a.length⟩

namespace Entry

def fact (e : Entry) : Fact := ⟨e.isDirectory, e.modified, e.length⟩

theorem fact_of_isDirectory {e : Entry} (h : e.isDirectory = true) :
    e.fact = ⟨true, e.modified, 0⟩ := by
  cases e <;> simp_all [fact, isDirectory, length]

/-- A property of all entries follows from what it says of an entry whose children have it. -/
theorem induction_children {motive : Entry → Prop}
    (step : ∀ e, (∀ c ∈ e.children, motive c) → motive e) (e : Entry) : motive e :=
  step e fun c _h => induction_children step c
termination_by e.size
decreasing_by exact size_lt_of_mem_children _h

theorem preorder_eq_append (e : Entry) : e.preorder = [e] ++ e.children.flatMap preorder := by
  rw [preorder_eq_cons, preorderAll_eq_flatMap, List.singleton_append]

theorem preorder_of_not_directory {e : Entry} (h : e.isDirectory = false) : e.preorder = [e] := by
  cases e <;> simp_all [preorder, isDirectory]

theorem isDirectory_of_mem_children {c e : Entry} (h : c ∈ e.children) : e.isDirectory = true := by
  cases e <;> simp_all [children, isDirectory]

theorem mem_preorder_iff {x e : Entry} :
    x ∈ e.preorder ↔ x = e ∨ ∃ c ∈ e.children, x ∈ c.preorder := by
  rw [preorder_eq_append, List.mem_append, List.mem_singleton, List.mem_flatMap]

@[simp] theorem mem_preorder_self (e : Entry) : e ∈ e.preorder :=
  mem_preorder_iff.2 (.inl rfl)

theorem mem_preorder_of_mem_children {x c e : Entry} (hc : c ∈ e.children)
    (hx : x ∈ c.preorder) : x ∈ e.preorder :=
  mem_preorder_iff.2 (.inr ⟨c, hc, hx⟩)

theorem mem_preorder_trans {x y e : Entry} (hy : y ∈ e.preorder) (hx : x ∈ y.preorder) :
    x ∈ e.preorder := by
  induction e using induction_children with
  | step e ih =>
      rcases mem_preorder_iff.1 hy with rfl | ⟨c, hc, hy⟩
      · exact hx
      · exact mem_preorder_of_mem_children hc (ih c hc hy)

theorem size_le_of_mem_preorder {x e : Entry} (hx : x ∈ e.preorder) : x.size ≤ e.size := by
  induction e using induction_children with
  | step e ih =>
      rcases mem_preorder_iff.1 hx with rfl | ⟨c, hc, hx⟩
      · exact Nat.le_refl _
      · exact Nat.le_trans (ih c hc hx) (Nat.le_of_lt (size_lt_of_mem_children hc))

theorem postorderAll_eq_flatMap (es : List Entry) :
    postorder.postorderAll es = es.flatMap postorder := by
  induction es with
  | nil => rfl
  | cons e es ih => simp [postorder.postorderAll, ih]

theorem postorder_eq_append (e : Entry) :
    e.postorder = e.children.flatMap postorder ++ [e] := by
  cases e <;> simp [postorder, children, postorderAll_eq_flatMap]

theorem perm_postorder_preorder (e : Entry) : e.postorder.Perm e.preorder := by
  induction e using induction_children with
  | step e ih =>
      rw [postorder_eq_append, preorder_eq_cons, preorderAll_eq_flatMap]
      exact (List.Perm.flatMap_left _ ih).append_right [e] |>.trans
        (List.perm_append_singleton e _)

theorem mem_postorder_iff {x e : Entry} : x ∈ e.postorder ↔ x ∈ e.preorder :=
  (perm_postorder_preorder e).mem_iff

def Everywhere (P : Entry → Prop) (e : Entry) : Prop := ∀ d ∈ e.preorder, P d

theorem everywhere_iff {P : Entry → Prop} {e : Entry} :
    e.Everywhere P ↔ P e ∧ ∀ c ∈ e.children, c.Everywhere P := by
  constructor
  · intro h
    exact ⟨h e (mem_preorder_self e), fun c hc x hx =>
      h x (mem_preorder_of_mem_children hc hx)⟩
  · rintro ⟨he, hchildren⟩ x hx
    rcases mem_preorder_iff.1 hx with rfl | ⟨c, hc, hx⟩
    · exact he
    · exact hchildren c hc x hx

instance (P : Entry → Prop) [DecidablePred P] (e : Entry) : Decidable (e.Everywhere P) :=
  inferInstanceAs (Decidable (∀ d ∈ e.preorder, P d))

theorem Everywhere.of_mem {P : Entry → Prop} {x e : Entry} (h : e.Everywhere P)
    (hx : x ∈ e.preorder) : x.Everywhere P :=
  fun y hy => h y (mem_preorder_trans hx hy)

theorem Everywhere.child {P : Entry → Prop} {c e : Entry} (h : e.Everywhere P)
    (hc : c ∈ e.children) : c.Everywhere P :=
  (everywhere_iff.1 h).2 c hc

/-- The entries of a directory have been found, under distinct names in it. -/
structure Listed (d : Entry) : Prop where
  present : ∀ c ∈ d.children, c.present = true
  exists_name : ∀ c ∈ d.children, ∃ n, IsName n ∧ c.path = d.path.child n
  nodup : (d.children.map path).Nodup

theorem present_of_mem_preorder {x e : Entry} (h : e.Everywhere Listed) (he : e.present = true)
    (hx : x ∈ e.preorder) : x.present = true := by
  induction e using induction_children with
  | step e ih =>
      rcases mem_preorder_iff.1 hx with rfl | ⟨c, hc, hx⟩
      · exact he
      · exact ih c hc (h.child hc) ((h e e.mem_preorder_self).present c hc) hx

def found (e : Entry) : List Entry := e.preorder.filter present

theorem found_of_present {e : Entry} (h : e.Everywhere Listed) (he : e.present = true) :
    e.found = e.preorder :=
  List.filter_eq_self.2 fun _ => present_of_mem_preorder h he

theorem found_of_not_present {e : Entry} (he : e.present = false) : e.found = [] := by
  cases e <;> simp_all [found, preorder, present]

theorem present_of_mem_found {x e : Entry} (h : x ∈ e.found) : e.present = true := by
  cases he : e.present with
  | true => rfl
  | false => simp [found_of_not_present he] at h

theorem Listed.eq_of_path_eq {d a b : Entry} (h : d.Listed) (ha : a ∈ d.children)
    (hb : b ∈ d.children) (hab : a.path = b.path) : a = b :=
  List.inj_on_of_nodup_map h.nodup ha hb hab

theorem Listed.exists_components_eq {d c : Entry} (h : d.Listed) (hc : c ∈ d.children) :
    ∃ n, IsName n ∧ c.path = d.path.child n ∧
      c.path.components = d.path.components ++ [.name n] := by
  obtain ⟨n, hn, hpath⟩ := h.exists_name c hc
  exact ⟨n, hn, hpath, by rw [hpath, Path.components_child d.path hn]⟩

theorem Listed.length_components {d c : Entry} (h : d.Listed) (hc : c ∈ d.children) :
    c.path.components.length = d.path.components.length + 1 := by
  obtain ⟨n, _, _, hcomponents⟩ := h.exists_components_eq hc
  simp [hcomponents]

theorem Listed.components_isPrefix {d c : Entry} (h : d.Listed) (hc : c ∈ d.children) :
    d.path.components <+: c.path.components := by
  obtain ⟨n, _, _, hcomponents⟩ := h.exists_components_eq hc
  exact hcomponents ▸ List.prefix_append _ _

/-- Of the entries of directories that lie equally deep, only one can be on the way to a place. -/
theorem components_eq_of_isPrefix {d d' a b : Entry} (hd : d.Listed) (hd' : d'.Listed)
    (hlength : d.path.components.length = d'.path.components.length) (ha : a ∈ d.children)
    (hb : b ∈ d'.children) {k : List Component} (hak : a.path.components <+: k)
    (hbk : b.path.components <+: k) : a.path.components = b.path.components := by
  have hlen : a.path.components.length = b.path.components.length := by
    rw [hd.length_components ha, hd'.length_components hb, hlength]
  exact (List.prefix_of_prefix_length_le hak hbk (Nat.le_of_eq hlen)).eq_of_length hlen

theorem exists_names_of_mem_preorder {x e : Entry} (h : e.Everywhere Listed)
    (hx : x ∈ e.preorder) :
    ∃ names : List String, (∀ n ∈ names, IsName n) ∧ x.path = e.path.descend names := by
  induction e using induction_children with
  | step e ih =>
      rcases mem_preorder_iff.1 hx with rfl | ⟨c, hc, hx⟩
      · exact ⟨[], by simp, rfl⟩
      · obtain ⟨names, hnames, hpath⟩ := ih c hc (h.child hc) hx
        obtain ⟨n, hn, hcpath⟩ := (everywhere_iff.1 h).1.exists_name c hc
        refine ⟨n :: names, fun m hm => ?_, ?_⟩
        · rcases List.mem_cons.1 hm with rfl | hm
          · exact hn
          · exact hnames m hm
        · rw [hpath, hcpath]
          rfl

theorem components_isPrefix_of_mem_preorder {x e : Entry} (h : e.Everywhere Listed)
    (hx : x ∈ e.preorder) : e.path.components <+: x.path.components := by
  obtain ⟨names, hnames, hpath⟩ := exists_names_of_mem_preorder h hx
  rw [hpath, Path.components_descend _ hnames]
  exact List.prefix_append _ _

/-- In trees with the same root, the components of a path tell how it is spelled. -/
theorem path_eq_of_components_eq {x y e f : Entry} (he : e.Everywhere Listed)
    (hf : f.Everywhere Listed) (hpath : e.path = f.path) (hx : x ∈ e.preorder)
    (hy : y ∈ f.preorder) (hxy : x.path.components = y.path.components) :
    x.path = y.path := by
  obtain ⟨ns, hns, hxpath⟩ := exists_names_of_mem_preorder he hx
  obtain ⟨ms, hms, hypath⟩ := exists_names_of_mem_preorder hf hy
  rw [hxpath, hypath, Path.components_descend _ hns, Path.components_descend _ hms,
    hpath] at hxy
  have hnames : ns = ms := by
    have := List.append_cancel_left hxy
    exact List.map_injective_iff.2 (fun a b hab => by simpa using hab) this
  rw [hxpath, hypath, hpath, hnames]

theorem length_lt_of_mem_preorder {x c e : Entry} (h : e.Everywhere Listed) (hc : c ∈ e.children)
    (hx : x ∈ c.preorder) : e.path.components.length < x.path.components.length := by
  have hle := (components_isPrefix_of_mem_preorder (h.child hc) hx).length_le
  have hlength := (h e e.mem_preorder_self).length_components hc
  omega

theorem eq_of_components_eq {x e : Entry} (h : e.Everywhere Listed) (hx : x ∈ e.preorder)
    (hcomponents : x.path.components = e.path.components) : x = e := by
  rcases mem_preorder_iff.1 hx with rfl | ⟨c, hc, hx⟩
  · rfl
  · have hlt := length_lt_of_mem_preorder h hc hx
    rw [hcomponents] at hlt
    exact absurd hlt (Nat.lt_irrefl _)

/-- Of the entries of a directory, only one can be on the way to a place. -/
theorem Listed.eq_of_isPrefix {d a b : Entry} (h : d.Listed) (ha : a ∈ d.children)
    (hb : b ∈ d.children) {k : List Component} (hak : a.path.components <+: k)
    (hbk : b.path.components <+: k) : a = b := by
  refine h.eq_of_path_eq ha hb ?_
  have hcomponents := components_eq_of_isPrefix h h rfl ha hb hak hbk
  obtain ⟨m, hm, ham⟩ := h.exists_name a ha
  obtain ⟨n, hn, hbn⟩ := h.exists_name b hb
  rw [ham, hbn] at hcomponents ⊢
  exact Path.child_eq_of_components_eq hm hn hcomponents

/-- What lies below the path of an entry in a tree is below the entry. -/
theorem mem_preorder_of_isPrefix {x c e : Entry} (h : e.Everywhere Listed)
    (hc : c ∈ e.children) (hx : x ∈ e.preorder) (hcx : c.path.components <+: x.path.components) :
    x ∈ c.preorder := by
  have hlisted := h e e.mem_preorder_self
  rcases mem_preorder_iff.1 hx with rfl | ⟨d, hd, hx⟩
  · have hle := hcx.length_le
    rw [hlisted.length_components hc] at hle
    omega
  · rwa [hlisted.eq_of_isPrefix hc hd hcx (components_isPrefix_of_mem_preorder (h.child hd) hx)]

/-- If entries at one place in two trees agree in type, so do the trees. -/
theorem isDirectory_eq_of_components_eq {x y e f : Entry} (he : e.Everywhere Listed)
    (hf : f.Everywhere Listed) (hef : e.path.components = f.path.components)
    (hx : x ∈ e.preorder) (hy : y ∈ f.preorder) (hxy : x.path.components = y.path.components)
    (htype : x.isDirectory = y.isDirectory) : e.isDirectory = f.isDirectory := by
  rcases mem_preorder_iff.1 hx with rfl | ⟨c, hc, hxc⟩
  · rw [htype, eq_of_components_eq hf hy (hxy.symm.trans hef)]
  · rcases mem_preorder_iff.1 hy with rfl | ⟨d, hd, _⟩
    · rw [← htype, eq_of_components_eq he hx (hxy.trans hef.symm)]
    · rw [isDirectory_of_mem_children hc, isDirectory_of_mem_children hd]

theorem nodup_components_preorder {e : Entry} (h : e.Everywhere Listed) :
    (e.preorder.map fun x => x.path.components).Nodup := by
  induction e using induction_children with
  | step e ih =>
      have hlisted := h e e.mem_preorder_self
      rw [preorder_eq_cons, preorderAll_eq_flatMap, List.map_cons, List.nodup_cons,
        List.map_flatMap, List.nodup_flatMap]
      refine ⟨?_, fun c hc => ih c hc (h.child hc), ?_⟩
      · simp only [List.mem_flatMap, List.mem_map, not_exists, not_and]
        intro c hc x hx hcomponents
        exact absurd (length_lt_of_mem_preorder h hc hx) (by simp [hcomponents])
      · refine hlisted.nodup.of_map.imp_of_mem fun {a b} ha hb hab k hka hkb => ?_
        obtain ⟨x, hx, rfl⟩ := List.mem_map.1 hka
        obtain ⟨y, hy, hxy⟩ := List.mem_map.1 hkb
        have hax := components_isPrefix_of_mem_preorder (h.child ha) hx
        have hby := components_isPrefix_of_mem_preorder (h.child hb) hy
        rw [hxy] at hby
        exact hab (hlisted.eq_of_isPrefix ha hb hax hby)

/-- A directory that holds the entries of distinct names in it, in strictly increasing order. -/
structure Arranged (o : EntryOrder) (d : Entry) : Prop extends d.Listed where
  sorted : d.children.Pairwise fun a b => o.order a b = .lt

structure IsSnapshot (o : EntryOrder) (root : Path) (e : Entry) : Prop where
  path_eq : e.path = root
  arranged : e.Everywhere (Arranged o)

theorem IsSnapshot.listed {o : EntryOrder} {root : Path} {e : Entry} (h : e.IsSnapshot o root) :
    e.Everywhere Listed :=
  fun d hd => (h.arranged d hd).toListed

theorem arranged_of_children_eq_nil (o : EntryOrder) {d : Entry} (h : d.children = []) :
    d.Arranged o where
  present := by simp [h]
  exists_name := by simp [h]
  nodup := by simp [h]
  sorted := by simp [h]

theorem everywhere_arranged_of_children_eq_nil (o : EntryOrder) {d : Entry}
    (h : d.children = []) : d.Everywhere (Arranged o) :=
  everywhere_iff.2 ⟨arranged_of_children_eq_nil o h, by simp [h]⟩

/-- Whether a directory is arranged does not depend on when it was modified. -/
theorem everywhere_arranged_directory {o : EntryOrder} {p : Path} {es : List Entry}
    (h : (directory p .epoch es).Everywhere (Arranged o)) (t : Timestamp) :
    (directory p t es).Everywhere (Arranged o) := by
  obtain ⟨hd, hchildren⟩ := everywhere_iff.1 h
  exact everywhere_iff.2
    ⟨⟨⟨hd.present, hd.exists_name, hd.nodup⟩, hd.sorted⟩, hchildren⟩

theorem isSnapshot_ofAttributes {o : EntryOrder} {p : Path} {es : List Entry}
    (h : (directory p .epoch es).Everywhere (Arranged o)) (a : Attributes) :
    (ofAttributes p a es).IsSnapshot o p := by
  rw [ofAttributes]
  split
  · exact ⟨rfl, everywhere_arranged_directory h a.modified⟩
  · exact ⟨rfl, everywhere_arranged_of_children_eq_nil o rfl⟩

theorem present_ofAttributes (p : Path) (a : Attributes) (es : List Entry) :
    (ofAttributes p a es).present = true := by
  rw [ofAttributes]
  split <;> rfl

@[simp] theorem path_ofAttributes (p : Path) (a : Attributes) (es : List Entry) :
    (ofAttributes p a es).path = p := by
  rw [ofAttributes]
  split <;> rfl

@[simp] theorem fact_ofAttributes (p : Path) (a : Attributes) (es : List Entry) :
    (ofAttributes p a es).fact = a.fact := by
  rw [ofAttributes, Attributes.fact]
  split <;> simp_all [fact, isDirectory, modified, length]

theorem children_ofAttributes (p : Path) (a : Attributes) (es : List Entry) :
    (ofAttributes p a es).children = if a.isDirectory then es else [] := by
  rw [ofAttributes]
  split <;> rfl

def crossroads (directoryName fileName : String) : Entry :=
  .directory ⟨"/r"⟩ .epoch
    [.directory ⟨"/r/" ++ directoryName⟩ .epoch [.file ⟨"/r/" ++ directoryName ++ "/x"⟩ .epoch 1],
      .file ⟨"/r/" ++ fileName⟩ .epoch 1]

end Entry

end TreeWatch
