import TreeWatch.Proofs.Path.Relative
import TreeWatch.Proofs.Snapshot.Retained

/-!
# Names that lead to an entry

In a stored tree a row of names leads from a directory to something (`Store.Trail`), whatever a
filter makes of it. If the order tells all names apart, something is in a snapshot just when the
names that lead to it from the root clear the filter one after another
(`Store.exists_mem_descendants_iff_clears`).
-/

namespace TreeWatch

namespace Store

/-- Names lead from a directory to something: each of them is listed and can be looked at, and all
but the last are directories. -/
inductive Trail (s : Store) : Path → List String → Attributes → Prop
  | last {dir : Path} {name : String} {listing : List Path} {a : Attributes}
      (hlist : s.list dir = .ok listing) (hmem : dir.child name ∈ listing)
      (hstat : s.linkMetadata (dir.child name) = .ok a) : Trail s dir [name] a
  | step {dir : Path} {name : String} {listing : List Path} {names : List String}
      {a b : Attributes} (hlist : s.list dir = .ok listing) (hmem : dir.child name ∈ listing)
      (hstat : s.linkMetadata (dir.child name) = .ok b) (hdir : b.isDirectory = true)
      (hrest : Trail s (dir.child name) names a) : Trail s dir (name :: names) a

/-- A filter accepts all that names lead through, and what they lead to. -/
structure Clears (s : Store) (accepts : Path → Attributes → Bool) (dir : Path)
    (names : List String) (a : Attributes) : Prop where
  trail : s.Trail dir names a
  between : ∀ initial, initial ≠ [] → initial <+: names → initial ≠ names →
    ∀ b, s.linkMetadata (dir.descend initial) = .ok b → accepts (dir.descend initial) b = true
  accepts_eq : accepts (dir.descend names) a = true

variable {s : Store} {accepts : Path → Attributes → Bool} {o : EntryOrder} {dir path : Path}
  {names : List String} {name : String} {a b : Attributes}

theorem Trail.ne_nil (h : s.Trail dir names a) : names ≠ [] := by
  cases h <;> exact List.cons_ne_nil _ _

theorem Trail.exists_linkMetadata (h : s.Trail dir names a) {initial : List String}
    (hne : initial ≠ []) (hinit : initial <+: names) (hproper : initial ≠ names) :
    ∃ b, s.linkMetadata (dir.descend initial) = .ok b ∧ b.isDirectory = true := by
  induction h generalizing initial with
  | last =>
      obtain rfl | ⟨rest, rfl, hrest⟩ := List.prefix_cons_iff.1 hinit
      · exact absurd rfl hne
      · exact absurd (by rw [List.prefix_nil.1 hrest]) hproper
  | step _ _ hstat hdir _ ih =>
      obtain rfl | ⟨rest, rfl, hrest⟩ := List.prefix_cons_iff.1 hinit
      · exact absurd rfl hne
      · cases rest with
        | nil => exact ⟨_, hstat, hdir⟩
        | cons m rest =>
            exact ih (List.cons_ne_nil m rest) hrest fun heq => hproper (congrArg _ heq)

theorem Clears.exists_accepts (h : s.Clears accepts dir names a) {initial : List String}
    (hne : initial ≠ []) (hinit : initial <+: names) :
    ∃ b, accepts (dir.descend initial) b = true := by
  by_cases heq : initial = names
  · exact ⟨a, heq ▸ h.accepts_eq⟩
  · obtain ⟨b, hb, _⟩ := h.trail.exists_linkMetadata hne hinit heq
    exact ⟨b, h.between initial hne hinit heq b hb⟩

theorem Clears.step {listing : List Path} (hlist : s.list dir = .ok listing)
    (hmem : dir.child name ∈ listing) (hstat : s.linkMetadata (dir.child name) = .ok b)
    (hdir : b.isDirectory = true) (haccepts : accepts (dir.child name) b = true)
    (h : s.Clears accepts (dir.child name) names a) : s.Clears accepts dir (name :: names) a where
  trail := .step hlist hmem hstat hdir h.trail
  between := by
    intro initial hne hinit hproper b' hstat'
    obtain rfl | ⟨rest, rfl, hrest⟩ := List.prefix_cons_iff.1 hinit
    · exact absurd rfl hne
    · cases rest with
      | nil =>
          obtain rfl : b' = b := Except.ok.inj (hstat'.symm.trans hstat)
          exact haccepts
      | cons m rest =>
          exact h.between _ (List.cons_ne_nil m rest) hrest
            (fun heq => hproper (congrArg _ heq)) b' hstat'
  accepts_eq := h.accepts_eq

theorem Named.exists_clears_of_leads (hs : s.Named) (h : (s.camera accepts o).Leads dir path a) :
    ∃ names, (∀ n ∈ names, IsName n) ∧ path = dir.descend names ∧ s.Clears accepts dir names a := by
  induction h with
  | @last dir path a h =>
      obtain ⟨name, hname, rfl⟩ := hs.exists_name_of_finds h.finds
      obtain ⟨listing, hlist, hmem⟩ := h.finds.exists_listing
      refine ⟨[name], by simpa using hname, rfl, .last hlist hmem h.finds.linkMetadata_eq, ?_,
        h.finds.accepts_eq⟩
      intro initial hne hinit hproper
      obtain rfl | ⟨rest, rfl, hrest⟩ := List.prefix_cons_iff.1 hinit
      · exact absurd rfl hne
      · exact absurd (by rw [List.prefix_nil.1 hrest]) hproper
  | @step dir sub path a b h hdir _ ih =>
      obtain ⟨name, hname, rfl⟩ := hs.exists_name_of_finds h.finds
      obtain ⟨listing, hlist, hmem⟩ := h.finds.exists_listing
      obtain ⟨names, hnames, rfl, hclears⟩ := ih
      exact ⟨name :: names, List.forall_mem_cons.2 ⟨hname, hnames⟩, rfl,
        hclears.step hlist hmem h.finds.linkMetadata_eq hdir h.finds.accepts_eq⟩

/-- All that is found in a directory is kept if the order tells all names apart. -/
theorem retains_of_finds (ho : ∀ x y, o.order x y = .eq → x.name = y.name)
    (h : (s.camera accepts o).Finds dir path a) : (s.camera accepts o).Retains dir path a where
  finds := h
  least q b _ htie := by
    have hname : q.baseName = path.baseName := by simpa [Entry.name] using ho _ _ htie
    rw [hname]
    exact lt_irrefl _

theorem Clears.leads (ho : ∀ x y, o.order x y = .eq → x.name = y.name)
    (h : s.Clears accepts dir names a) : (s.camera accepts o).Leads dir (dir.descend names) a := by
  obtain ⟨htrail, hbetween, haccepts⟩ := h
  induction htrail with
  | last hlist hmem hstat => exact .last (retains_of_finds ho ⟨⟨_, hlist, hmem⟩, hstat, haccepts⟩)
  | @step dir name listing names a b hlist hmem hstat hdir hrest ih =>
      have hname : accepts (dir.child name) b = true := by
        refine hbetween [name] (List.cons_ne_nil _ _) (by simp) ?_ b hstat
        exact fun heq => hrest.ne_nil (List.cons.inj heq).2.symm
      refine .step (retains_of_finds ho ⟨⟨_, hlist, hmem⟩, hstat, hname⟩) hdir (ih ?_ haccepts)
      intro initial hne hinit hproper
      exact hbetween (name :: initial) (List.cons_ne_nil _ _) ((List.prefix_cons_inj name).2 hinit)
        fun heq => hproper (List.cons.inj heq).2

theorem Trail.exists_listing (h : s.Trail dir names a) : ∃ listing, s.list dir = .ok listing := by
  cases h with
  | last hlist | step hlist => exact ⟨_, hlist⟩

/-- A root that can be listed is a directory if there is a snapshot of it. -/
theorem isDirectory_of_capture {root : Path} {e : Entry} {listing : List Path}
    (he : s.capture accepts o root = .ok e) (hlist : s.list root = .ok listing) :
    ∃ r, s.metadata root = .ok r ∧ r.isDirectory = true := by
  obtain ⟨_, names, modified, hnode, _⟩ := list_eq_ok_iff.1 hlist
  have hmetadata : s.metadata root = if root.place ∈ s.unreadable then .error (denied root)
      else .ok (.directory modified) := by
    rw [metadata, linkLimit, follow, hnode]
    rfl
  by_cases hunreadable : root.place ∈ s.unreadable
  · rw [if_pos hunreadable] at hmetadata
    have hcapture := (s.camera accepts o).run_capture_eq_ok_iff.1 he
    simp [camera, fileSystem, hmetadata, denied] at hcapture
  · rw [if_neg hunreadable] at hmetadata
    exact ⟨_, hmetadata, rfl⟩

/-- Something is in a snapshot just when the names that lead to it clear the filter. -/
theorem exists_mem_descendants_iff_clears {changes : List StoreChange} {k : Comparator}
    (hk : ∀ x y, k.order x y = .eq → x.name = y.name) {root : Path} {e : Entry}
    (he : (ofChanges changes).capture accepts k.toEntryOrder root = .ok e)
    (hnames : ∀ n ∈ names, IsName n) {isDirectory : Bool} :
    (∃ x ∈ e.descendants, x.path = root.descend names ∧ x.isDirectory = isDirectory) ↔
      ∃ a, a.isDirectory = isDirectory ∧ (ofChanges changes).Clears accepts root names a := by
  have hs := named_ofChanges changes
  have hapart (d : Path) : ((ofChanges changes).camera accepts k.toEntryOrder).ListsApart d :=
    hs.listsApart d
  have hdepth : ((ofChanges changes).camera accepts k.toEntryOrder).DepthAtMost
      (ofChanges changes).nodes.length root := hs.depthAtMost root
  have hleads : (∃ x ∈ e.descendants, x.path = root.descend names) ↔
      (∃ r, (ofChanges changes).metadata root = .ok r ∧ r.isDirectory = true) ∧
        ∃ a, ((ofChanges changes).camera accepts k.toEntryOrder).Leads root
          (root.descend names) a :=
    Camera.exists_mem_descendants_iff he hapart hdepth
  have hfact {x : Entry} (hx : x ∈ e.descendants) {a : Attributes}
      (ha : (ofChanges changes).linkMetadata x.path = .ok a) : x.isDirectory = a.isDirectory := by
    obtain ⟨b, hb, hfact⟩ := Camera.exists_linkMetadata_of_mem_descendants he hapart hdepth hx
    obtain rfl : a = b := Except.ok.inj (ha.symm.trans hb)
    exact congrArg Fact.isDirectory hfact
  constructor
  · rintro ⟨x, hx, hpath, rfl⟩
    obtain ⟨-, a, ha⟩ := hleads.1 ⟨x, hx, hpath⟩
    obtain ⟨names', hnames', heq, hclears⟩ := hs.exists_clears_of_leads ha
    obtain rfl := (Path.descend_inj hnames hnames').1 heq
    exact ⟨a, (hfact hx (hpath ▸ ha.linkMetadata_eq)).symm, hclears⟩
  · rintro ⟨a, rfl, hclears⟩
    have ha := hclears.leads (o := k.toEntryOrder) hk
    obtain ⟨listing, hlist⟩ := hclears.trail.exists_listing
    obtain ⟨x, hx, hpath⟩ := hleads.2 ⟨isDirectory_of_capture he hlist, a, ha⟩
    exact ⟨x, hx, hpath, hfact hx (hpath ▸ ha.linkMetadata_eq)⟩

end Store

end TreeWatch
