import TreeWatch.Proofs.Snapshot.Hidden

/-!
# Which entries a snapshot has

Of what is found in a directory all is kept but for what the order does not tell apart from
something with a lesser name (`Camera.Retains`). A path is in the snapshot of a stored tree if a
row of directories that are kept leads to it from the root (`Camera.Leads`,
`Store.mem_capture_iff`).
-/

namespace TreeWatch

namespace Camera

/-- What is found in a directory is kept: nothing is found there that has a lesser name and that
the order does not tell apart from it. -/
structure Retains (c : Camera Id) (dir path : Path) (a : Attributes) : Prop where
  finds : c.Finds dir path a
  least : ∀ q b, c.Finds dir q b →
    c.order.order (.ofAttributes q b []) (.ofAttributes path a []) = .eq →
    ¬ q.baseName < path.baseName

/-- A row of directories leads from a directory to a path: each of them, and the path at the end,
is kept of the directory before it. -/
inductive Leads (c : Camera Id) : Path → Path → Attributes → Prop
  | last {dir path : Path} {a : Attributes} (h : c.Retains dir path a) : Leads c dir path a
  | step {dir sub path : Path} {a b : Attributes} (h : c.Retains dir sub b)
      (hdir : b.isDirectory = true) (hrest : Leads c sub path a) : Leads c dir path a

variable {c : Camera Id} {dir path : Path} {a : Attributes}

/-- Whether a path is kept can be worked out from all that is found in the directory. -/
theorem retains_of_mem_found (hmem : (path, a) ∈ c.found dir) (hleast : ∀ x ∈ c.found dir,
    c.order.order (.ofAttributes x.1 x.2 []) (.ofAttributes path a []) = .eq →
      ¬ x.1.baseName < path.baseName) : c.Retains dir path a :=
  ⟨mem_found_iff.1 hmem, fun q b hq => hleast (q, b) (mem_found_iff.2 hq)⟩

theorem mem_kept_iff [c.order.Plain] (hnames : c.ListsApart dir) {depth : ℕ} {x : Entry} :
    x ∈ c.kept depth dir ↔
      ∃ p a, c.Retains dir p a ∧ x = .ofAttributes p a (c.below depth p).run := by
  have horder : ∀ p a es q b fs, c.order.order (.ofAttributes q b fs) (.ofAttributes p a es)
      = c.order.order (.ofAttributes q b []) (.ofAttributes p a []) := by
    intro p a es q b fs
    exact EntryOrder.Plain.order_congr (by simp) (by simp) (by simp) (by simp)
  rw [kept, EntryOrder.mem_arrange_iff hnames.nodup_findings, mem_findings_iff]
  constructor
  · rintro ⟨⟨p, a, hp, rfl⟩, hleast⟩
    refine ⟨p, a, ⟨hp, fun q b hq htie => ?_⟩, rfl⟩
    have hmem : .ofAttributes q b (c.below depth q).run ∈ c.findings depth dir :=
      mem_findings_iff.2 ⟨q, b, hq, rfl⟩
    simpa [Entry.name] using hleast _ hmem ((horder ..).trans htie)
  · rintro ⟨p, a, hp, rfl⟩
    refine ⟨⟨p, a, hp.finds, rfl⟩, fun x hx htie => ?_⟩
    obtain ⟨q, b, hq, rfl⟩ := mem_findings_iff.1 hx
    simpa [Entry.name] using hp.least q b hq ((horder ..).symm.trans htie)

/-- A row of directories leads to all that is kept below a directory, as long as the depth that is
left is enough for each of them. -/
theorem exists_leads_of_mem [c.order.Plain] (hnames : ∀ d, c.ListsApart d) {depth : ℕ}
    (hdepth : c.DepthAtMost depth dir) {x : Entry}
    (hx : x ∈ (c.kept depth dir).flatMap Entry.preorder) :
    ∃ a, c.Leads dir x.path a ∧ x.fact = a.fact := by
  induction depth using Nat.strong_induction_on generalizing dir with
  | _ depth ih =>
      obtain ⟨y, hy, hxy⟩ := List.mem_flatMap.1 hx
      obtain ⟨p, a, hp, rfl⟩ := (mem_kept_iff (hnames dir)).1 hy
      rcases Entry.mem_preorder_iff.1 hxy with rfl | ⟨z, hz, hxz⟩
      · exact ⟨a, by simpa using .last hp, Entry.fact_ofAttributes p a _⟩
      · rw [Entry.children_ofAttributes] at hz
        cases hdir : a.isDirectory with
        | false => simp [hdir] at hz
        | true =>
            obtain ⟨d, rfl, hd⟩ := hdepth.of_enters ⟨a, hp.finds, hdir⟩
            simp only [hdir, if_true, run_below_succ] at hz
            obtain ⟨b, hb, hfact⟩ := ih d (Nat.lt_succ_self d) hd (List.mem_flatMap.2 ⟨z, hz, hxz⟩)
            exact ⟨b, .step hp hdir hb, hfact⟩

theorem Leads.exists_mem [c.order.Plain] (hnames : ∀ d, c.ListsApart d)
    (h : c.Leads dir path a) {depth : ℕ} (hdepth : c.DepthAtMost depth dir) :
    ∃ x ∈ (c.kept depth dir).flatMap Entry.preorder, x.path = path := by
  induction h generalizing depth with
  | @last dir path a h =>
      refine ⟨_, List.mem_flatMap.2 ⟨_, (mem_kept_iff (hnames dir)).2 ⟨path, a, h, rfl⟩,
        Entry.mem_preorder_self _⟩, Entry.path_ofAttributes path a _⟩
  | @step dir sub path a b h hdir _ ih =>
      obtain ⟨d, rfl, hd⟩ := hdepth.of_enters ⟨b, h.finds, hdir⟩
      obtain ⟨x, hx, hpath⟩ := ih hd
      obtain ⟨z, hz, hxz⟩ := List.mem_flatMap.1 hx
      refine ⟨x, List.mem_flatMap.2 ⟨_, (mem_kept_iff (hnames dir)).2 ⟨sub, b, h, rfl⟩, ?_⟩, hpath⟩
      refine Entry.mem_preorder_of_mem_children ?_ hxz
      rwa [Entry.children_ofAttributes, if_pos hdir, run_below_succ]

theorem Leads.linkMetadata_eq (h : c.Leads dir path a) :
    (c.files.linkMetadata path).run = .ok a := by
  induction h with
  | last h => exact h.finds.linkMetadata_eq
  | step _ _ _ ih => exact ih

/-- Below the root of a snapshot is what is kept of a directory, if the root is one. -/
theorem descendants_of_capture {root : Path} {e : Entry} (he : (c.capture root).run = .ok e) :
    (∀ r, (c.files.metadata root).run = .ok r → r.isDirectory = false) ∧ e.descendants = [] ∨
      (∃ r, (c.files.metadata root).run = .ok r ∧ r.isDirectory = true) ∧
        e.descendants = (c.kept c.files.depthLimit root).flatMap Entry.preorder := by
  simp only [Entry.descendants, Entry.walk_eq_flatMap]
  rcases run_capture_eq_ok_iff.1 he with ⟨problem, hproblem, _, rfl⟩ | ⟨r, hr, _, rfl⟩
  · exact .inl ⟨by simp [hproblem], rfl⟩
  · rw [Entry.children_ofAttributes]
    cases hdir : r.isDirectory with
    | false => exact .inl ⟨by simp [hr, hdir], rfl⟩
    | true => exact .inr ⟨⟨r, hr, hdir⟩, by simp⟩

theorem exists_mem_descendants_iff [c.order.Plain] {root : Path} {e : Entry}
    (he : (c.capture root).run = .ok e) (hnames : ∀ d, c.ListsApart d)
    (hdepth : c.DepthAtMost c.files.depthLimit root) :
    (∃ x ∈ e.descendants, x.path = path) ↔
      (∃ r, (c.files.metadata root).run = .ok r ∧ r.isDirectory = true) ∧
        ∃ a, c.Leads root path a := by
  rcases descendants_of_capture he with ⟨hfile, hempty⟩ | ⟨hroot, hkept⟩
  · have hno : ¬ ∃ r, (c.files.metadata root).run = .ok r ∧ r.isDirectory = true := by
      rintro ⟨r, hr, hdir⟩
      simp [hfile r hr] at hdir
    simp [hempty, hno]
  · rw [hkept, and_iff_right hroot]
    constructor
    · rintro ⟨x, hx, rfl⟩
      obtain ⟨a, ha, _⟩ := exists_leads_of_mem hnames hdepth hx
      exact ⟨a, ha⟩
    · rintro ⟨a, ha⟩
      exact ha.exists_mem hnames hdepth

theorem exists_linkMetadata_of_mem_descendants [c.order.Plain] {root : Path} {e x : Entry}
    (he : (c.capture root).run = .ok e) (hnames : ∀ d, c.ListsApart d)
    (hdepth : c.DepthAtMost c.files.depthLimit root) (hx : x ∈ e.descendants) :
    ∃ a, (c.files.linkMetadata x.path).run = .ok a ∧ x.fact = a.fact := by
  rcases descendants_of_capture he with ⟨_, hempty⟩ | ⟨_, hkept⟩
  · simp [hempty] at hx
  · obtain ⟨a, ha, hfact⟩ := exists_leads_of_mem hnames hdepth (hkept ▸ hx)
    exact ⟨a, ha.linkMetadata_eq, hfact⟩

end Camera

namespace Store

variable {s : Store} {accepts accepts' : Path → Attributes → Bool} {o : EntryOrder}
  {root dir path : Path} {a : Attributes}

theorem Named.length_le_of_reaches (hs : s.Named) (h : (s.camera accepts o).Reaches root dir) :
    root.components.length ≤ dir.components.length := by
  obtain ⟨_, hpath⟩ := h
  induction hpath with
  | refl => exact le_rfl
  | tail _ henters ih =>
      obtain ⟨b, hb, _⟩ := henters
      have := hs.length_of_finds hb
      omega

theorem Named.ne_of_finds (hs : s.Named) (hdir : (s.camera accepts o).Reaches root dir)
    (hpath : (s.camera accepts' o).Finds dir path a) : path.components ≠ root.components := by
  intro heq
  have hle := hs.length_le_of_reaches hdir
  have hlength := hs.length_of_finds hpath
  rw [heq] at hlength
  omega

/-- What a filter says of the root has no influence on what is seen. -/
theorem Named.seesSame_of_accepts (hs : s.Named)
    (h : ∀ p a, p.components ≠ root.components → accepts' p a = accepts p a) :
    (s.camera accepts o).SeesSame (s.camera accepts' o) root where
  metadata_eq := rfl
  listable_iff _ _ := .rfl
  finds_iff dir hdir p a := by
    constructor
    · intro hp
      have haccepts := h p a (hs.ne_of_finds hdir hp)
      exact ⟨hp.exists_listing, hp.linkMetadata_eq, haccepts.trans hp.accepts_eq⟩
    · intro hp
      have haccepts := h p a (hs.ne_of_finds hdir hp)
      exact ⟨hp.exists_listing, hp.linkMetadata_eq, haccepts.symm.trans hp.accepts_eq⟩

/-- Below the root of a snapshot of a stored tree are the paths that a row of directories leads
to, each once and with what the tree says of it; the filter is not asked about the root. -/
theorem mem_capture_iff {changes : List StoreChange} {k : Comparator} {e : Entry}
    (he : (ofChanges changes).capture accepts k.toEntryOrder root = .ok e) :
    (∀ p, (∃ x ∈ e.descendants, x.path = p) ↔
      (∃ r, (ofChanges changes).metadata root = .ok r ∧ r.isDirectory = true) ∧
        ∃ a, ((ofChanges changes).camera accepts k.toEntryOrder).Leads root p a) ∧
    (e.descendants.map Entry.path).Nodup ∧
    (∀ x ∈ e.descendants, ∃ a,
      (ofChanges changes).linkMetadata x.path = .ok a ∧ x.fact = a.fact) ∧
    ∀ accepts', (∀ p a, p.components ≠ root.components → accepts' p a = accepts p a) →
      (ofChanges changes).capture accepts' k.toEntryOrder root = .ok e := by
  have hs := named_ofChanges changes
  have hnames (d : Path) : ((ofChanges changes).camera accepts k.toEntryOrder).ListsApart d :=
    hs.listsApart d
  have hdepth : ((ofChanges changes).camera accepts k.toEntryOrder).DepthAtMost
      (ofChanges changes).nodes.length root := hs.depthAtMost root
  have : Std.TransCmp k.toEntryOrder.order := k.transCmp_order
  have hlisted := (isSnapshot_of_capture hs he).listed
  refine ⟨fun p => Camera.exists_mem_descendants_iff he hnames hdepth, ?_, fun x hx =>
    Camera.exists_linkMetadata_of_mem_descendants he hnames hdepth hx, fun accepts' h => ?_⟩
  · have hnodup := Entry.nodup_components_preorder hlisted
    rw [Entry.preorder_eq_cons, List.map_cons, List.nodup_cons,
      Entry.preorderAll_eq_flatMap, ← Entry.walk_eq_flatMap] at hnodup
    refine .of_map Path.components ?_
    rw [List.map_map]
    exact hnodup.2
  · have hsame := hs.seesSame_of_accepts (o := k.toEntryOrder) h
    exact hsame.capture_eq_ok (o := k.toEntryOrder) rfl rfl
      (fun d _ => ⟨hs.listsApart d, hs.listsApart d⟩) (.inl rfl) he

theorem mem_capture_iff_cluttered :
    ∃ e, FileSystem.cluttered.capture FileSystem.noRepository
        (Comparator.name .insensitive).toEntryOrder ⟨"/r"⟩ = .ok e ∧
      (∃ x ∈ e.descendants, x.path = ⟨"/r/docs/x"⟩ ∧ x.fact = (Attributes.file 2 .epoch).fact) ∧
      FileSystem.cluttered.capture
        (fun p a => p.components != Path.components ⟨"/r"⟩ && FileSystem.noRepository p a)
        (Comparator.name .insensitive).toEntryOrder ⟨"/r"⟩ = .ok e := by
  have hroot : FileSystem.cluttered.metadata ⟨"/r"⟩ = .ok (.directory .epoch) := by decide +kernel
  have hlist : FileSystem.cluttered.list ⟨"/r"⟩ = .ok [⟨"/r/readme"⟩, ⟨"/r/README"⟩, ⟨"/r/docs"⟩,
    ⟨"/r/.git"⟩, ⟨"/r/dim"⟩, ⟨"/r/shut"⟩] := by decide +kernel
  obtain ⟨e, he⟩ := exists_capture_eq_ok hroot hlist
  obtain ⟨hmem, _, hfact, hfilter⟩ := mem_capture_iff he
  let c := FileSystem.cluttered.camera FileSystem.noRepository
    (Comparator.name .insensitive).toEntryOrder
  have hdocs : c.Retains ⟨"/r"⟩ ⟨"/r/docs"⟩ (.directory .epoch) := by
    apply Camera.retains_of_mem_found <;> decide +kernel
  have hx : c.Retains ⟨"/r/docs"⟩ ⟨"/r/docs/x"⟩ (.file 2 .epoch) := by
    apply Camera.retains_of_mem_found <;> decide +kernel
  have hleads : c.Leads ⟨"/r"⟩ ⟨"/r/docs/x"⟩ (.file 2 .epoch) := .step hdocs rfl (.last hx)
  obtain ⟨x, hx, hpath⟩ := (hmem _).2 ⟨⟨_, hroot, rfl⟩, _, hleads⟩
  obtain ⟨a, ha, hxa⟩ := hfact x hx
  have hstat : FileSystem.cluttered.linkMetadata ⟨"/r/docs/x"⟩ = .ok (.file 2 .epoch) := by
    decide +kernel
  rw [hpath] at ha
  obtain rfl : a = .file 2 .epoch := Except.ok.inj (ha.symm.trans hstat)
  exact ⟨e, he, ⟨x, hx, hpath, hxa⟩, hfilter _ fun p a hp => by simp [hp]⟩

end Store

end TreeWatch
