import TreeWatch.Proofs.Snapshot.Stored

/-!
# Snapshots of what does not change

If a file system gives one answer to one question, a snapshot is a matter of what is found in the
directories that are entered (`Camera.Finds`, `Camera.run_capture_eq_ok_iff`). In a stored tree,
directories are not nested deeper than there are nodes (`Store.Named.depthAtMost`).
-/

namespace TreeWatch

namespace Entry

theorem ofAttributes_of_not_directory {p : Path} {a : Attributes} (h : a.isDirectory = false)
    (es : List Entry) : ofAttributes p a es = file p a.modified a.length := by
  simp [ofAttributes, h]

end Entry

namespace Camera

/-- A path is found in a directory: the directory lists it, it can be looked at, and it is
accepted. -/
structure Finds (c : Camera Id) (dir path : Path) (a : Attributes) : Prop where
  exists_listing : ∃ listing, (c.files.list dir).run = .ok listing ∧ path ∈ listing
  linkMetadata_eq : (c.files.linkMetadata path).run = .ok a
  accepts_eq : c.accepts path a = true

def Enters (c : Camera Id) (dir sub : Path) : Prop :=
  ∃ a, c.Finds dir sub a ∧ a.isDirectory = true

/-- The directories that are found below a directory are nested at most so deep. -/
def DepthAtMost (c : Camera Id) : ℕ → Path → Prop
  | 0, dir => ∀ sub, ¬ c.Enters dir sub
  | depth + 1, dir => ∀ sub, c.Enters dir sub → c.DepthAtMost depth sub

/-- A directory does not list two paths with one name. -/
def ListsApart (c : Camera Id) (dir : Path) : Prop :=
  ∀ listing, (c.files.list dir).run = .ok listing → (listing.map Path.baseName).Nodup

def glance (c : Camera Id) (path : Path) : Option (Path × Attributes) :=
  match (c.files.linkMetadata path).run with
  | .error _ => none
  | .ok a => if c.accepts path a then some (path, a) else none

def found (c : Camera Id) (dir : Path) : List (Path × Attributes) :=
  match (c.files.list dir).run with
  | .error _ => []
  | .ok listing => listing.filterMap c.glance

def findings (c : Camera Id) (depth : ℕ) (dir : Path) : List Entry :=
  (c.found dir).map fun x => .ofAttributes x.1 x.2 (c.below depth x.1).run

/-- What is kept of a directory, down to a depth. -/
def kept (c : Camera Id) (depth : ℕ) (dir : Path) : List Entry :=
  c.order.arrange (c.findings depth dir)

variable {c c' : Camera Id} {dir sub path : Path} {a : Attributes}

theorem DepthAtMost.of_enters {depth : ℕ} (h : c.DepthAtMost depth dir) (hsub : c.Enters dir sub) :
    ∃ d, depth = d + 1 ∧ c.DepthAtMost d sub := by
  cases depth with
  | zero => exact absurd hsub (h sub)
  | succ d => exact ⟨d, rfl, h sub hsub⟩

theorem depthAtMost_of_lt {room : Path → ℕ} (h : ∀ dir sub, c.Enters dir sub → room sub < room dir)
    {depth : ℕ} (hdir : room dir ≤ depth) : c.DepthAtMost depth dir := by
  induction depth generalizing dir with
  | zero => exact fun sub hsub => absurd (h dir sub hsub) (by omega)
  | succ depth ih =>
      intro sub hsub
      have hlt := h dir sub hsub
      exact ih (by omega)

theorem glance_eq_some_iff {x : Path × Attributes} : c.glance path = some x ↔
    x.1 = path ∧ (c.files.linkMetadata path).run = .ok x.2 ∧ c.accepts path x.2 = true := by
  rw [glance]
  obtain ⟨p, a⟩ := x
  cases (c.files.linkMetadata path).run with
  | error problem => simp
  | ok b => grind

theorem mem_found_iff : (path, a) ∈ c.found dir ↔ c.Finds dir path a := by
  rw [found]
  constructor
  · cases hlist : (c.files.list dir).run with
    | error problem => simp
    | ok listing =>
        simp only [List.mem_filterMap, glance_eq_some_iff]
        rintro ⟨_, hp, rfl, hstat, haccepts⟩
        exact ⟨⟨listing, hlist, hp⟩, hstat, haccepts⟩
  · rintro ⟨⟨listing, hlist, hpath⟩, hstat, haccepts⟩
    simp only [hlist, List.mem_filterMap, glance_eq_some_iff]
    exact ⟨path, hpath, rfl, hstat, haccepts⟩

theorem mem_findings_iff {depth : ℕ} {x : Entry} :
    x ∈ c.findings depth dir ↔
      ∃ p a, c.Finds dir p a ∧ x = .ofAttributes p a (c.below depth p).run := by
  simp only [findings, List.mem_map, Prod.exists, mem_found_iff, eq_comm]

theorem ListsApart.nodup_findings {depth : ℕ} (h : c.ListsApart dir) :
    ((c.findings depth dir).map Entry.name).Nodup := by
  rw [findings, found]
  cases hlist : (c.files.list dir).run with
  | error problem => exact .nil
  | ok listing =>
      simp only [List.map_map]
      refine List.pairwise_map.2 ((List.pairwise_map.1 (h listing hlist)).filterMap _ ?_)
      intro p q hpq x hx y hy
      obtain ⟨rfl, _⟩ := glance_eq_some_iff.1 hx
      obtain ⟨rfl, _⟩ := glance_eq_some_iff.1 hy
      simpa [Entry.name] using hpq

theorem run_lookAll (into : Path → Id (List Entry)) (listing : List Path) :
    (c.lookAll into listing).run =
      (listing.filterMap c.glance).map fun x => .ofAttributes x.1 x.2 (into x.1).run := by
  induction listing with
  | nil => rfl
  | cons p ps ih =>
      rw [lookAll, look, List.filterMap_cons, glance]
      cases hstat : (c.files.linkMetadata p).run with
      | error problem => simp [hstat, ih]
      | ok a =>
          cases haccepts : c.accepts p a <;> cases hdir : a.isDirectory <;>
            simp [hstat, haccepts, hdir, Entry.ofAttributes, ih]

theorem run_below_succ (c : Camera Id) (depth : ℕ) (dir : Path) :
    (c.below (depth + 1) dir).run = c.kept depth dir := by
  rw [kept, findings, found]
  cases h : (c.files.list dir).run with
  | error problem => simp [below, h, EntryOrder.arrange, EntryOrder.dropTies]
  | ok listing => simp [below, gather, h, run_lookAll]

/-- A snapshot is that of a missing root, or of what the root is said to be. -/
theorem run_capture_eq_ok_iff {root : Path} {e : Entry} :
    (c.capture root).run = .ok e ↔
      (∃ problem, (c.files.metadata root).run = .error problem ∧ problem.kind = .notFound ∧
        e = .missing root) ∨
      ∃ a, (c.files.metadata root).run = .ok a ∧
        (a.isDirectory = true → ∃ listing, (c.files.list root).run = .ok listing) ∧
        e = .ofAttributes root a (c.kept c.files.depthLimit root) := by
  rw [capture, kept, findings, found]
  cases hmetadata : (c.files.metadata root).run with
  | error problem =>
      by_cases hkind : problem.kind = .notFound <;> simp [hmetadata, hkind, eq_comm (a := e)]
  | ok a =>
      cases hdir : a.isDirectory <;> cases hlist : (c.files.list root).run <;>
        simp [hmetadata, hdir, hlist, gather, run_lookAll, Entry.ofAttributes, eq_comm (a := e)]

end Camera

namespace Store

variable {s : Store} {accepts : Path → Attributes → Bool} {o : EntryOrder} {dir sub path : Path}
  {a : Attributes}

theorem exists_capture_eq_ok {listing : List Path} (hroot : s.metadata dir = .ok a)
    (hlist : s.list dir = .ok listing) : ∃ e, s.capture accepts o dir = .ok e := by
  have hok := (s.camera accepts o).run_capture_eq_ok_iff.2
    (.inr ⟨a, hroot, fun _ => ⟨_, hlist⟩, rfl⟩)
  exact ⟨_, hok⟩

theorem Named.exists_name_of_finds (hs : s.Named) (h : (s.camera accepts o).Finds dir path a) :
    ∃ n, IsName n ∧ path = dir.child n := by
  obtain ⟨listing, hlist, hpath⟩ := h.exists_listing
  obtain ⟨names, _, hnames, rfl⟩ := isListing_of_list hs hlist
  obtain ⟨n, hn, rfl⟩ := List.mem_map.1 hpath
  exact ⟨n, hnames n hn, rfl⟩

theorem Named.length_of_finds (hs : s.Named) (h : (s.camera accepts o).Finds dir path a) :
    path.components.length = dir.components.length + 1 := by
  obtain ⟨n, hn, rfl⟩ := hs.exists_name_of_finds h
  simp [Path.components_child dir hn]

theorem Named.listsApart (hs : s.Named) (dir : Path) : (s.camera accepts o).ListsApart dir :=
  fun _ hlist => (isListing_of_list hs hlist).nodup_baseName

theorem exists_find?_of_linkMetadata (h : s.linkMetadata path = .ok a) :
    ∃ node, s.find? path.place = some node ∧ a = node.attributes := by
  rw [linkMetadata] at h
  split at h
  · cases h
  · split at h
    · rename_i node hnode
      exact ⟨node, hnode, (Except.ok.inj h).symm⟩
    · cases h

def deeper (s : Store) (dir : Path) : Finset Place :=
  (s.nodes.map Prod.fst).toFinset.filter fun p => dir.components.length < p.length

theorem Named.deeper_ssubset (hs : s.Named) (h : (s.camera accepts o).Enters dir sub) :
    s.deeper sub ⊂ s.deeper dir := by
  obtain ⟨a, hsub, _⟩ := h
  have hlength := hs.length_of_finds hsub
  have hplace : sub.place ∈ s.deeper dir := by
    obtain ⟨node, hnode, _⟩ := exists_find?_of_linkMetadata hsub.linkMetadata_eq
    have hmem := List.mem_map_of_mem (f := Prod.fst) (mem_nodes_of_find? hnode)
    simpa [deeper, Path.place, hlength] using hmem
  refine (Finset.ssubset_iff_of_subset fun p hp => ?_).2 ⟨_, hplace, ?_⟩
  · simp only [deeper, Finset.mem_filter] at hp ⊢
    exact ⟨hp.1, by omega⟩
  · simp [deeper, Path.place]

/-- The directories of a stored tree are not nested deeper than there are nodes. -/
theorem Named.depthAtMost (hs : s.Named) (dir : Path) :
    (s.camera accepts o).DepthAtMost s.nodes.length dir := by
  have hroom (d sub : Path) (h : (s.camera accepts o).Enters d sub) :
      (s.deeper sub).card < (s.deeper d).card := Finset.card_lt_card (hs.deeper_ssubset h)
  refine Camera.depthAtMost_of_lt hroom ?_
  calc (s.deeper dir).card ≤ (s.nodes.map Prod.fst).toFinset.card := Finset.card_filter_le _ _
    _ ≤ (s.nodes.map Prod.fst).length := List.toFinset_card_le _
    _ = s.nodes.length := List.length_map _

end Store

end TreeWatch
