import TreeWatch.Proofs.Snapshot.Still

/-!
# Snapshots come to an end

`Camera.Ends` and `Camera.Captures` tell of a walk that is not held to any depth: it goes on into
every directory that is found, and comes to something only if it ends in all of them. In a stored
tree it always ends, comes to the snapshot, and has met no more entries than there are places where
something is stored (`Store.capture_ends`): what a directory lists lies one name
deeper than the directory, and below the root no link is followed.
-/

namespace TreeWatch

namespace Camera

/-- A walk over a directory and over all directories that are found in it, however deep, ends and
comes to these entries. -/
inductive Ends (c : Camera Id) : Path → List Entry → Prop
  | arrange {dir : Path} (into : Path → List Entry)
      (hinto : ∀ sub, c.Enters dir sub → Ends c sub (into sub)) :
      Ends c dir (c.order.arrange
        ((c.found dir).map fun x => .ofAttributes x.1 x.2 (into x.1)))

/-- A snapshot of a root that is not held to any depth ends and comes to a tree or to an error. -/
inductive Captures (c : Camera Id) (root : Path) : Except Error Entry → Prop
  | missing {problem : IoError} (hroot : (c.files.metadata root).run = .error problem)
      (hkind : problem.kind = .notFound) : Captures c root (.ok (.missing root))
  | unreadable {problem : IoError} (hroot : (c.files.metadata root).run = .error problem)
      (hkind : problem.kind ≠ .notFound) : Captures c root (.error (.capture root problem))
  | file {a : Attributes} (hroot : (c.files.metadata root).run = .ok a)
      (hdir : a.isDirectory = false) : Captures c root (.ok (.ofAttributes root a []))
  | unlistable {a : Attributes} {problem : IoError}
      (hroot : (c.files.metadata root).run = .ok a) (hdir : a.isDirectory = true)
      (hlist : (c.files.list root).run = .error problem) :
      Captures c root (.error (.capture root problem))
  | directory {a : Attributes} {listing : List Path} {es : List Entry}
      (hroot : (c.files.metadata root).run = .ok a) (hdir : a.isDirectory = true)
      (hlist : (c.files.list root).run = .ok listing) (hends : c.Ends root es) :
      Captures c root (.ok (.ofAttributes root a es))

variable {c : Camera Id} {dir root : Path} {es : List Entry} {depth : ℕ}

theorem ends_kept (h : c.DepthAtMost depth dir) : c.Ends dir (c.kept depth dir) := by
  induction depth using Nat.strong_induction_on generalizing dir with
  | _ depth ih =>
      refine .arrange (fun sub => (c.below depth sub).run) fun sub hsub => ?_
      obtain ⟨d, rfl, hd⟩ := h.of_enters hsub
      rw [run_below_succ]
      exact ih d (Nat.lt_succ_self d) hd

/-- A walk that ends comes to what is kept, if the limit is not met. -/
theorem Ends.eq_kept (h : c.Ends dir es) (hdepth : c.DepthAtMost depth dir) :
    es = c.kept depth dir := by
  induction h generalizing depth with
  | @arrange dir into _ ih =>
      rw [kept, findings]
      congr 1
      refine List.map_congr_left fun x hx => ?_
      cases hdir : x.2.isDirectory with
      | false => simp only [Entry.ofAttributes_of_not_directory hdir]
      | true =>
          have henters : c.Enters dir x.1 := ⟨x.2, mem_found_iff.1 hx, hdir⟩
          obtain ⟨d, rfl, hd⟩ := hdepth.of_enters henters
          rw [run_below_succ, ih x.1 henters hd]

/-- If no directories are nested deeper than the limit, there might as well be none. -/
theorem captures_iff (h : c.DepthAtMost c.files.depthLimit root) {r : Except Error Entry} :
    c.Captures root r ↔ r = (c.capture root).run := by
  constructor
  · intro hr
    cases hr with
    | missing hroot hkind => simp [capture, hroot, hkind]
    | unreadable hroot hkind => simp [capture, hroot, hkind]
    | file hroot hdir => simp [capture, hroot, hdir]
    | unlistable hroot hdir hlist => simp [capture, hroot, hdir, hlist]
    | directory hroot hdir hlist hends =>
        obtain rfl := hends.eq_kept h
        refine (run_capture_eq_ok_iff.2 (.inr ⟨_, hroot, fun _ => ⟨_, hlist⟩, rfl⟩)).symm
  · rintro rfl
    cases hroot : (c.files.metadata root).run with
    | error problem =>
        by_cases hkind : problem.kind = .notFound
        · simpa [capture, hroot, hkind] using Captures.missing hroot hkind
        · simpa [capture, hroot, hkind] using Captures.unreadable hroot hkind
    | ok a =>
        cases hdir : a.isDirectory with
        | false => simpa [capture, hroot, hdir] using Captures.file hroot hdir
        | true =>
            cases hlist : (c.files.list root).run with
            | error problem =>
                simpa [capture, hroot, hdir, hlist] using Captures.unlistable hroot hdir hlist
            | ok listing =>
                rw [run_capture_eq_ok_iff.2 (.inr ⟨a, hroot, fun _ => ⟨listing, hlist⟩, rfl⟩)]
                exact .directory hroot hdir hlist (ends_kept h)

end Camera

def Store.places (s : Store) : Finset Place := (s.nodes.map Prod.fst).toFinset

namespace Entry

structure Held (s : Store) (d : Entry) : Prop extends d.Listed where
  stored : ∀ c ∈ d.children, c.path.place ∈ s.places

variable {s : Store} {e x : Entry}

theorem everywhere_held_of_children_eq_nil (h : e.children = []) : e.Everywhere (Held s) :=
  everywhere_iff.2 ⟨⟨⟨by simp [h], by simp [h], by simp [h]⟩, by simp [h]⟩, by simp [h]⟩

theorem everywhere_held_ofAttributes {p : Path} {es : List Entry}
    (h : (directory p .epoch es).Everywhere (Held s)) (a : Attributes) :
    (ofAttributes p a es).Everywhere (Held s) := by
  rw [ofAttributes]
  split
  · obtain ⟨hd, hchildren⟩ := everywhere_iff.1 h
    exact everywhere_iff.2
      ⟨⟨⟨hd.present, hd.exists_name, hd.nodup⟩, hd.stored⟩, hchildren⟩
  · exact everywhere_held_of_children_eq_nil rfl

theorem exists_mem_children_of_mem_descendants (hx : x ∈ e.descendants) :
    ∃ d ∈ e.preorder, x ∈ d.children := by
  induction e using induction_children with
  | step e ih =>
      rw [descendants, walk_eq_flatMap] at hx
      obtain ⟨c, hc, hx⟩ := List.mem_flatMap.1 hx
      rw [preorder_eq_cons, preorderAll_eq_flatMap, ← walk_eq_flatMap] at hx
      rcases List.mem_cons.1 hx with rfl | hx
      · exact ⟨e, mem_preorder_self e, hc⟩
      · obtain ⟨d, hd, hxd⟩ := ih c hc hx
        exact ⟨d, mem_preorder_of_mem_children hc hd, hxd⟩

/-- Below an entry there are no more entries than places where something is stored. -/
theorem length_descendants_le (h : e.Everywhere (Held s)) :
    e.descendants.length ≤ s.places.card := by
  have hlisted : e.Everywhere Listed := fun d hd => (h d hd).toListed
  have hnodup := nodup_components_preorder hlisted
  rw [preorder_eq_cons, preorderAll_eq_flatMap, ← walk_eq_flatMap, List.map_cons] at hnodup
  have hplaces : (e.descendants.map fun x => x.path.place).Nodup := by
    have hreverse := (List.nodup_cons.1 hnodup).2.map List.reverse_injective
    rwa [List.map_map] at hreverse
  have hsub : (e.descendants.map fun x => x.path.place).toFinset ⊆ s.places := by
    intro p hp
    obtain ⟨x, hx, rfl⟩ := List.mem_map.1 (List.mem_toFinset.1 hp)
    obtain ⟨d, hd, hxd⟩ := exists_mem_children_of_mem_descendants hx
    exact (h d hd).stored x hxd
  calc e.descendants.length
    _ = (e.descendants.map fun x => x.path.place).toFinset.card := by
        rw [List.toFinset_card_of_nodup hplaces, List.length_map]
    _ ≤ s.places.card := Finset.card_le_card hsub

end Entry

namespace Store

variable {s : Store} {accepts : Path → Attributes → Bool} {o : EntryOrder} {dir root : Path}
  {a : Attributes}

theorem mem_places_of_linkMetadata {path : Path} (h : s.linkMetadata path = .ok a) :
    path.place ∈ s.places := by
  obtain ⟨node, hnode, _⟩ := exists_find?_of_linkMetadata h
  exact List.mem_toFinset.2 (List.mem_map_of_mem (mem_nodes_of_find? hnode))

theorem exists_finds_of_mem_kept {depth : ℕ} {x : Entry}
    (hx : x ∈ (s.camera accepts o).kept depth dir) : ∃ p a, (s.camera accepts o).Finds dir p a ∧
      x = .ofAttributes p a ((s.camera accepts o).below depth p).run :=
  Camera.mem_findings_iff.1 ((o.subperm_arrange _).subset hx)

theorem Named.nodup_path_kept (hs : s.Named) (depth : ℕ) (dir : Path) :
    (((s.camera accepts o).kept depth dir).map Entry.path).Nodup := by
  have hpaths : (((s.camera accepts o).findings depth dir).map Entry.path).Nodup := by
    refine .of_map Path.baseName ?_
    rw [List.map_map]
    exact (hs.listsApart dir).nodup_findings
  obtain ⟨l, hperm, hl⟩ := o.subperm_arrange ((s.camera accepts o).findings depth dir)
  exact (hperm.map Entry.path).nodup_iff.1 (hpaths.sublist (hl.map Entry.path))

/-- What is kept of a directory is stored, whatever the order by which it was arranged. -/
theorem Named.everywhere_held_kept (hs : s.Named) (depth : ℕ) (dir : Path) :
    (Entry.directory dir .epoch ((s.camera accepts o).kept depth dir)).Everywhere
      (Entry.Held s) := by
  induction depth using Nat.strong_induction_on generalizing dir with
  | _ depth ih =>
      refine Entry.everywhere_iff.2
        ⟨⟨⟨fun x hx => ?_, fun x hx => ?_, hs.nodup_path_kept depth dir⟩, fun x hx => ?_⟩,
          fun x hx => ?_⟩ <;> obtain ⟨p, a, hp, rfl⟩ := exists_finds_of_mem_kept hx
      · exact Entry.present_ofAttributes p a _
      · obtain ⟨n, hn, rfl⟩ := hs.exists_name_of_finds hp
        exact ⟨n, hn, Entry.path_ofAttributes _ a _⟩
      · rw [Entry.path_ofAttributes]
        exact mem_places_of_linkMetadata hp.linkMetadata_eq
      · -- the depth that is left is less for what lies in the directory
        refine Entry.everywhere_held_ofAttributes ?_ a
        cases depth with
        | zero => exact Entry.everywhere_held_of_children_eq_nil rfl
        | succ d =>
            rw [Camera.run_below_succ]
            exact ih d (Nat.lt_succ_self d) p

theorem Named.everywhere_held_of_capture (hs : s.Named) {e : Entry}
    (he : s.capture accepts o root = .ok e) : e.Everywhere (Entry.Held s) := by
  rcases (s.camera accepts o).run_capture_eq_ok_iff.1 he with ⟨_, _, _, rfl⟩ | ⟨a, _, _, rfl⟩
  · exact Entry.everywhere_held_of_children_eq_nil rfl
  · exact Entry.everywhere_held_ofAttributes (hs.everywhere_held_kept _ root) a

/-- Wherever links lead and by whatever order entries are arranged, a snapshot of a stored tree that
is not held to any depth ends, in just the one way. Below its root there are no more entries than
places where something is stored. -/
theorem capture_ends (changes : List StoreChange)
    (accepts : Path → Attributes → Bool) (o : EntryOrder) (root : Path) :
    (∀ r, ((ofChanges changes).camera accepts o).Captures root r ↔
      r = (ofChanges changes).capture accepts o root) ∧
    ∀ e, (ofChanges changes).capture accepts o root = .ok e →
      e.descendants.length ≤ (ofChanges changes).places.card := by
  have hs := named_ofChanges changes
  refine ⟨fun r => Camera.captures_iff (hs.depthAtMost root), fun e he => ?_⟩
  exact Entry.length_descendants_le (hs.everywhere_held_of_capture he)

def entangled : List StoreChange :=
  [.addDirectory ⟨"/r/a"⟩ .epoch, .addLink ⟨"/r/a/up"⟩ ⟨".."⟩ .epoch,
    .addLink ⟨"/r/self"⟩ ⟨"."⟩ .epoch, .addLink ⟨"/r/b"⟩ ⟨"c"⟩ .epoch,
    .addLink ⟨"/r/c"⟩ ⟨"b"⟩ .epoch]

def absurdOrder : EntryOrder := ⟨fun _ _ => .lt, fun _ _ => false⟩

theorem capture_ends_entangled :
    ∃ e, (ofChanges entangled).capture (fun _ _ => true) absurdOrder ⟨"/r"⟩ = .ok e ∧
      ((ofChanges entangled).camera (fun _ _ => true) absurdOrder).Captures ⟨"/r"⟩ (.ok e) ∧
      e.descendants.length ≤ (ofChanges entangled).places.card := by
  have hroot : (ofChanges entangled).metadata ⟨"/r"⟩ = .ok (.directory .epoch) := by
    decide +kernel
  have hlist : (ofChanges entangled).list ⟨"/r"⟩
      = .ok [⟨"/r/a"⟩, ⟨"/r/self"⟩, ⟨"/r/b"⟩, ⟨"/r/c"⟩] := by decide +kernel
  obtain ⟨e, he⟩ := exists_capture_eq_ok hroot hlist
  obtain ⟨hcaptures, hlength⟩ :=
    capture_ends entangled (fun _ _ => true) absurdOrder ⟨"/r"⟩
  exact ⟨e, he, (hcaptures _).2 he.symm, hlength e he⟩

end Store

end TreeWatch
