import TreeWatch.Proofs.Diff.Overtaken
import TreeWatch.Proofs.Snapshot.Capture

/-!
# Entries that were not touched

An entry that is in two snapshots with the same type, modification time and length should not
be reported. It is reported exactly if, on the way to it, an entry of some directory is overtaken
in the merge (`exists_event_iff_overtakenOn`). Directories that hold no two entries that are
the same to the order leave nothing to overtake; a directory `A` that turns up beside a file `a`
does, for an order that ignores case and puts directories first.
-/

namespace TreeWatch

def Entry.companions (others : List Entry) : Entry :=
  .directory ⟨"/r"⟩ .epoch (others ++ [.file ⟨"/r/a"⟩ .epoch 1])

theorem Entry.mem_found_companions (others : List Entry) :
    .file ⟨"/r/a"⟩ .epoch 1 ∈ (companions others).found := by
  simp [found, companions, preorder, preorderAll_eq_flatMap, present]

namespace EntryOrder

/-- On the way to a place, in a directory that is in both trees, an entry is overtaken. -/
def OvertakenOn (o : EntryOrder) (old new : Entry) (place : List Component) : Prop :=
  ∃ x ∈ old.preorder, ∃ y ∈ new.preorder, x.path.components = y.path.components ∧
    ∃ e ∈ y.children, e.path.components <+: place ∧
      (o.Overtaken x.children y.children e ∨ o.Overtaken y.children x.children e)

variable {o : EntryOrder} {root : Path} {p c a b : Entry}

theorem not_overtakenOn_root (hc : c.IsSnapshot o root) :
    ¬ o.OvertakenOn p c c.path.components := by
  rintro ⟨x, _, y, hy, _, e, he, hplace, _⟩
  have hle := (Entry.components_isPrefix_of_mem_preorder hc.listed hy).length_le
  have hlt := (hc.listed y hy).length_components he
  have := hplace.length_le
  omega

/-- On the way to a place, something is overtaken in the first directory or further on. -/
theorem overtakenOn_iff (hp : p.IsSnapshot o root) (hc : c.IsSnapshot o root)
    (ha : a ∈ p.children) (hb : b ∈ c.children) (hab : a.path = b.path)
    {place : List Component} (hplace : b.path.components <+: place) :
    o.OvertakenOn p c place ↔ (o.Overtaken p.children c.children b ∨
      o.Overtaken c.children p.children b) ∨ o.OvertakenOn a b place := by
  have hpc : p.path.components = c.path.components := by rw [hp.path_eq, hc.path_eq]
  constructor
  · rintro ⟨x, hx, y, hy, hxy, e, he, heplace, hov⟩
    rcases Entry.mem_preorder_iff.1 hy with rfl | ⟨d, hd, hyd⟩
    · obtain rfl := Entry.eq_of_components_eq hp.listed hx (hxy.trans hpc.symm)
      rw [(hc.listed y y.mem_preorder_self).eq_of_isPrefix he hb heplace hplace] at hov
      exact .inl hov
    · have hdy := Entry.components_isPrefix_of_mem_preorder (hc.listed.child hd) hyd
      have hye := (hc.listed y hy).components_isPrefix he
      obtain rfl := (hc.listed c c.mem_preorder_self).eq_of_isPrefix hd hb
        ((hdy.trans hye).trans heplace) hplace
      have hax : a.path.components <+: x.path.components := by rwa [hab, hxy]
      exact .inr ⟨x, Entry.mem_preorder_of_isPrefix hp.listed ha hx hax, y, hyd, hxy, e, he,
        heplace, hov⟩
  · rintro (hov | ⟨x, hx, y, hy, hxy, e, he, heplace, hov⟩)
    · exact ⟨p, p.mem_preorder_self, c, c.mem_preorder_self, hpc, b, hb, hplace, hov⟩
    · exact ⟨x, Entry.mem_preorder_of_mem_children ha hx, y,
        Entry.mem_preorder_of_mem_children hb hy, hxy, e, he, heplace, hov⟩

/-- Of two versions of an entry that are matched with one another come all events at and below
their path. -/
theorem mem_matchedEvents_of_isPrefix (hp : p.IsSnapshot o root) (hc : c.IsSnapshot o root)
    (hmatched : .matched a b ∈ o.pairings p.children c.children) (hab : a.path = b.path)
    {v : Event} (hv : v ∈ o.childEvents p.children c.children)
    (hbv : b.path.components <+: v.entry.path.components) : v ∈ o.matchedEvents a b := by
  have hpl := hp.listed p p.mem_preorder_self
  have hcl := hc.listed c c.mem_preorder_self
  obtain ⟨q, hq, hv⟩ := mem_childEvents_iff.1 hv
  obtain ⟨w, hw, hmem⟩ := (isAbout_of_mem_pairingEvents hv).exists_mem_versions
  rcases Pairing.mem_versions_iff.1 hw with hw | hw
  · have hwp := mem_old_of_mem_pairings hq hw
    have hwv := Entry.components_isPrefix_of_mem_preorder (hp.listed.child hwp) hmem
    obtain rfl := hpl.eq_of_isPrefix hwp (mem_old_of_mem_pairings hmatched rfl) hwv (hab ▸ hbv)
    obtain rfl := eq_of_old?_eq hpl.nodup.of_map hq hmatched hw rfl
    exact hv
  · have hwc := mem_new_of_mem_pairings hq hw
    have hwv := Entry.components_isPrefix_of_mem_preorder (hc.listed.child hwc) hmem
    obtain rfl := hcl.eq_of_isPrefix hwc (mem_new_of_mem_pairings hmatched rfl) hwv hbv
    obtain rfl := eq_of_new?_eq hcl.nodup.of_map hq hmatched hw rfl
    exact hv

/-- The roots of two snapshots themselves are not reported if they were not touched. -/
theorem components_ne_of_mem_matchedEvents (hp : p.IsSnapshot o root) (hc : c.IsSnapshot o root)
    (htype : p.isDirectory = c.isDirectory) (hmodified : p.modified = c.modified)
    (hlength : p.length = c.length) {v : Event} (hv : v ∈ o.matchedEvents p c) :
    v.entry.path.components ≠ c.path.components := by
  cases hd : p.isDirectory with
  | false =>
      rw [matchedEvents_files hd (htype ▸ hd), Event.mem_fileChanges_iff] at hv
      simp [hmodified, hlength] at hv
  | true =>
      rw [matchedEvents_directory o hd (htype ▸ hd), List.mem_append,
        Event.mem_directoryChanges_iff] at hv
      have hv := hv.resolve_right fun h => h.2 hmodified
      have hlt := length_lt_of_mem_childEvents hp hc hv
      rw [← hc.path_eq] at hlt
      exact fun heq => absurd (heq ▸ hlt) (lt_irrefl _)

theorem exists_event_iff_childEvents (hp : p.isDirectory = true) (hc : c.isDirectory = true)
    {place : List Component} (hplace : place ≠ c.path.components) :
    (∃ v ∈ o.matchedEvents p c, v.entry.path.components = place) ↔
      ∃ v ∈ o.childEvents p.children c.children, v.entry.path.components = place := by
  rw [matchedEvents_directory o hp hc]
  refine exists_congr fun v => and_congr_left fun hv => ?_
  rw [List.mem_append, or_iff_left]
  intro hchange
  rw [(Event.mem_directoryChanges_iff.1 hchange).1] at hv
  exact hplace hv.symm

/-- Entries at one place below two roots are reached through entries of one path. -/
theorem exists_mem_children_of_mem (hp : p.IsSnapshot o root) (hc : c.IsSnapshot o root)
    (hb : b ∈ c.children) {x y : Entry} (hx : x ∈ p.preorder) (hy : y ∈ b.preorder)
    (hxy : x.path.components = y.path.components) :
    ∃ a ∈ p.children, x ∈ a.preorder ∧ a.path = b.path := by
  have hpc : p.path.components = c.path.components := by rw [hp.path_eq, hc.path_eq]
  have hlt := Entry.length_lt_of_mem_preorder hc.listed hb hy
  obtain ⟨a, ha, hxa⟩ := (Entry.mem_preorder_iff.1 hx).resolve_left fun hxp => by
    rw [← hxy, hxp, hpc] at hlt
    exact lt_irrefl _ hlt
  refine ⟨a, ha, hxa, ?_⟩
  have hax := Entry.components_isPrefix_of_mem_preorder (hp.listed.child ha) hxa
  have hby := Entry.components_isPrefix_of_mem_preorder (hc.listed.child hb) hy
  refine Entry.path_eq_of_components_eq hp.listed hc.listed (hp.path_eq.trans hc.path_eq.symm)
    (Entry.mem_preorder_of_mem_children ha a.mem_preorder_self)
    (Entry.mem_preorder_of_mem_children hb b.mem_preorder_self) ?_
  exact Entry.components_eq_of_isPrefix (hp.listed p p.mem_preorder_self)
    (hc.listed c c.mem_preorder_self) (by rw [hpc]) ha hb (hxy ▸ hax) hby

section Keyed

variable {κ : Type} [LinearOrder κ] {rank : Bool → ℕ} {key : Entry → κ}

/-- In a directory, an entry that kept its type is overtaken, and all below it is created or
deleted, or its events are those of its two versions. -/
theorem KeyedBy.exists_childEvent_iff (h : o.KeyedBy rank key)
    (hkey : ∀ a b : Entry, a.path = b.path → key a = key b) (hp : p.IsSnapshot o root)
    (hc : c.IsSnapshot o root) (ha : a ∈ p.children) (hb : b ∈ c.children) (hab : a.path = b.path)
    (htype : a.isDirectory = b.isDirectory) {x y : Entry} (hx : x ∈ a.preorder)
    (hy : y ∈ b.preorder) (hxy : x.path.components = y.path.components)
    (hbelow : (∃ v ∈ o.matchedEvents a b, v.entry.path.components = y.path.components) ↔
      o.OvertakenOn a b y.path.components) :
    (∃ v ∈ o.childEvents p.children c.children, v.entry.path.components = y.path.components) ↔
      o.OvertakenOn p c y.path.components := by
  have hby := Entry.components_isPrefix_of_mem_preorder (hc.listed.child hb) hy
  rw [overtakenOn_iff hp hc ha hb hab hby]
  rcases h.matched_or_overtaken (h.ascending (hp.arranged p p.mem_preorder_self).sorted)
    (h.ascending (hc.arranged c c.mem_preorder_self).sorted) ha hb htype (hkey a b hab)
    with ⟨hov, d, hd, hdb⟩ | ⟨hov, d, hd, hdb⟩ | ⟨hov, hov', hmatched⟩
  · refine iff_of_true ⟨⟨.created y, y⟩, mem_childEvents_iff.2 ⟨_, matched_mem_pairUp hd, ?_⟩,
      rfl⟩ (.inl (.inl hov))
    rw [pairingEvents, matchedEvents_of_ne hdb]
    exact List.mem_append_right _ (Event.mem_creations_iff.2 ⟨y, hy, rfl⟩)
  · refine iff_of_true ⟨⟨.deleted x, x⟩, mem_childEvents_iff.2 ⟨_, matched_mem_pairUp hd, ?_⟩,
      hxy⟩ (.inl (.inr hov))
    rw [pairingEvents, matchedEvents_of_ne (htype ▸ hdb.symm)]
    exact List.mem_append_left _ (Event.mem_deletions_iff.2 ⟨x, hx, rfl⟩)
  · have hmem : .matched a b ∈ o.pairings p.children c.children := matched_mem_pairUp hmatched
    rw [or_iff_right (not_or.2 ⟨hov, hov'⟩), ← hbelow]
    constructor
    · rintro ⟨v, hv, heq⟩
      exact ⟨v, mem_matchedEvents_of_isPrefix hp hc hmem hab hv (heq ▸ hby), heq⟩
    · rintro ⟨v, hv, heq⟩
      exact ⟨v, mem_childEvents_iff.2 ⟨_, hmem, hv⟩, heq⟩

/-- An entry that was not touched is reported if and only if something on the way to it is
overtaken. -/
theorem KeyedBy.exists_event_iff (h : o.KeyedBy rank key)
    (hkey : ∀ a b : Entry, a.path = b.path → key a = key b) (hp : p.IsSnapshot o root)
    (hc : c.IsSnapshot o root) {x y : Entry} (hx : x ∈ p.preorder) (hy : y ∈ c.preorder)
    (hxy : x.path.components = y.path.components) (htype : x.isDirectory = y.isDirectory)
    (hmodified : x.modified = y.modified) (hlength : x.length = y.length) :
    (∃ v ∈ o.matchedEvents p c, v.entry.path.components = y.path.components) ↔
      o.OvertakenOn p c y.path.components := by
  induction p using Entry.induction_children generalizing c root with
  | step p ih =>
      rcases Entry.mem_preorder_iff.1 hy with rfl | ⟨b, hb, hyb⟩
      · have hxp : x.path.components = p.path.components := by rw [hxy, hc.path_eq, hp.path_eq]
        obtain rfl := Entry.eq_of_components_eq hp.listed hx hxp
        refine iff_of_false ?_ (not_overtakenOn_root hc)
        rintro ⟨v, hv, heq⟩
        exact components_ne_of_mem_matchedEvents hp hc htype hmodified hlength hv heq
      · obtain ⟨a, ha, hxa, hab⟩ := exists_mem_children_of_mem hp hc hb hx hyb hxy
        have hla := hp.listed.child ha
        have hlb := hc.listed.child hb
        have hne : y.path.components ≠ c.path.components := fun heq => by
          have hlt := Entry.length_lt_of_mem_preorder hc.listed hb hyb
          simp [heq] at hlt
        rw [exists_event_iff_childEvents (Entry.isDirectory_of_mem_children ha)
          (Entry.isDirectory_of_mem_children hb) hne]
        refine h.exists_childEvent_iff hkey hp hc ha hb hab ?_ hxa hyb hxy ?_
        · exact Entry.isDirectory_eq_of_components_eq hla hlb (by rw [hab]) hxa hyb hxy htype
        · exact ih a ha ⟨rfl, hp.arranged.child ha⟩ ⟨hab.symm, hc.arranged.child hb⟩ hxa hyb

theorem KeyedBy.exists_diff_event_iff (h : o.KeyedBy rank key)
    (hkey : ∀ a b : Entry, a.path = b.path → key a = key b) {old new : Entry}
    (hold : old.IsSnapshot o root) (hnew : new.IsSnapshot o root) {x y : Entry}
    (hx : x ∈ old.found) (hy : y ∈ new.found) (hxy : x.path.components = y.path.components)
    (htype : x.isDirectory = y.isDirectory) (hmodified : x.modified = y.modified)
    (hlength : x.length = y.length) :
    (∃ v ∈ o.diff old new, v.entry.path.components = y.path.components) ↔
      o.OvertakenOn old new y.path.components := by
  have hp : old.present = true := Entry.present_of_mem_found hx
  have hc : new.present = true := Entry.present_of_mem_found hy
  rw [Entry.found_of_present hold.listed hp] at hx
  rw [Entry.found_of_present hnew.listed hc] at hy
  rw [← h.exists_event_iff hkey hold hnew hx hy hxy htype hmodified hlength]
  by_cases hd : old.isDirectory = true ∧ new.isDirectory = true
  · rw [diff_directories hd.1 hd.2]
    by_cases hroot : y.path.components = new.path.components
    · -- the root itself: only what is below it is reported
      obtain rfl := Entry.eq_of_components_eq hnew.listed hy hroot
      have hxold : x.path.components = old.path.components := by
        rw [hxy, hnew.path_eq, hold.path_eq]
      obtain rfl := Entry.eq_of_components_eq hold.listed hx hxold
      refine iff_of_false ?_ ?_
      · rintro ⟨v, hv, heq⟩
        have hlt := length_lt_of_mem_childEvents hold hnew hv
        rw [heq, hnew.path_eq] at hlt
        exact lt_irrefl _ hlt
      · rintro ⟨v, hv, heq⟩
        exact components_ne_of_mem_matchedEvents hold hnew htype hmodified hlength hv heq
    · exact (exists_event_iff_childEvents hd.1 hd.2 hroot).symm
  · rw [diff_eq_matchedEvents hp hc hd]

end Keyed

/-- An entry that is in two snapshots of a root with the same type, modification time and length
is reported if and only if something on the way to it is overtaken. -/
theorem exists_event_iff_overtakenOn {c : Comparator} (hc : c.sensitivity?.isSome) {σ : Type}
    {files files' : FileSystem (StateM σ)} (hfiles : files.ListsNames)
    (hfiles' : files'.ListsNames) (note note' : Journal (StateM σ))
    (accepts : Path → Attributes → Bool) {root : Path} {w w' : σ} {old new : Entry}
    (hold : ((Camera.capture ⟨files, note, accepts, c.toEntryOrder⟩ root).run w).1 = .ok old)
    (hnew : ((Camera.capture ⟨files', note', accepts, c.toEntryOrder⟩ root).run w').1 = .ok new)
    {x y : Entry} (hx : x ∈ old.found) (hy : y ∈ new.found)
    (hxy : x.path.components = y.path.components) (htype : x.isDirectory = y.isDirectory)
    (hmodified : x.modified = y.modified) (hlength : x.length = y.length) :
    (∃ v ∈ c.toEntryOrder.diff old new, v.entry.path.components = y.path.components) ↔
      c.toEntryOrder.OvertakenOn old new y.path.components := by
  have htrans : Std.TransCmp c.toEntryOrder.order := c.transCmp_order
  obtain ⟨κ, _, rank, key, hkeyed⟩ := Comparator.exists_keyedBy hc
  have hkey : ∀ a b : Entry, a.path = b.path → key a = key b := fun a b hab =>
    (hkeyed.same_iff a b).1 (Comparator.same_of_path_eq hc hab)
  exact hkeyed.exists_diff_event_iff hkey (Camera.isSnapshot_of_run hfiles hold)
    (Camera.isSnapshot_of_run hfiles' hnew) hx hy hxy htype hmodified hlength

/-- A file `a` in a stored tree, before and after a directory `A` turns up beside it. -/
theorem exists_event_iff_overtakenOn_companion :
    (∃ v ∈ (Comparator.directoriesFirst (.name .insensitive)).toEntryOrder.diff
        (Entry.companions []) (Entry.companions [.directory ⟨"/r/A"⟩ .epoch []]),
      v.entry.path.components = Path.components ⟨"/r/a"⟩) ↔
      (Comparator.directoriesFirst (.name .insensitive)).toEntryOrder.OvertakenOn
        (Entry.companions []) (Entry.companions [.directory ⟨"/r/A"⟩ .epoch []])
        (Path.components ⟨"/r/a"⟩) := by
  have hfiles (changes : List StoreChange) :
      ((Store.ofChanges changes).fileSystem : FileSystem (StateM Unit)).ListsNames :=
    fun _ _ _ => Store.isListing_of_list (Store.named_ofChanges changes)
  have hold : ((Camera.capture ⟨(Store.ofChanges [.addFile ⟨"/r/a"⟩ 1 .epoch]).fileSystem,
      fun _ => pure (), fun _ _ => true,
      (Comparator.directoriesFirst (.name .insensitive)).toEntryOrder⟩
      ⟨"/r"⟩ : StateM Unit _).run ()).1 = .ok (Entry.companions []) := by cbv
  have hnew : ((Camera.capture ⟨(Store.ofChanges [.addFile ⟨"/r/a"⟩ 1 .epoch,
      .addDirectory ⟨"/r/A"⟩ .epoch]).fileSystem, fun _ => pure (), fun _ _ => true,
      (Comparator.directoriesFirst (.name .insensitive)).toEntryOrder⟩
      ⟨"/r"⟩ : StateM Unit _).run ()).1
      = .ok (Entry.companions [.directory ⟨"/r/A"⟩ .epoch []]) := by cbv
  exact exists_event_iff_overtakenOn rfl (hfiles _) (hfiles _) (fun _ => pure ())
    (fun _ => pure ()) (fun _ _ => true) hold hnew (x := .file ⟨"/r/a"⟩ .epoch 1)
    (y := .file ⟨"/r/a"⟩ .epoch 1) (Entry.mem_found_companions []) (Entry.mem_found_companions _) rfl rfl rfl rfl

/-- A file that is still there unchanged is reported deleted when a directory that differs from it
only in case turns up beside it. -/
theorem fileDelete_mem_diff_companion :
    (Store.ofChanges [.addFile ⟨"/r/a"⟩ 1 .epoch]).capture (fun _ _ => true)
        (Comparator.directoriesFirst (.name .insensitive)).toEntryOrder ⟨"/r"⟩
      = .ok (Entry.companions []) ∧
    (Store.ofChanges [.addFile ⟨"/r/a"⟩ 1 .epoch, .addDirectory ⟨"/r/A"⟩ .epoch]).capture
        (fun _ _ => true) (Comparator.directoriesFirst (.name .insensitive)).toEntryOrder ⟨"/r"⟩
      = .ok (Entry.companions [.directory ⟨"/r/A"⟩ .epoch []]) ∧
    .file ⟨"/r/a"⟩ .epoch 1 ∈ (Entry.companions []).found ∧
    .file ⟨"/r/a"⟩ .epoch 1 ∈ (Entry.companions [.directory ⟨"/r/A"⟩ .epoch []]).found ∧
    (Comparator.directoriesFirst (.name .insensitive)).toEntryOrder.diff
        (Entry.companions []) (Entry.companions [.directory ⟨"/r/A"⟩ .epoch []])
      = [⟨.fileDelete, .file ⟨"/r/a"⟩ .epoch 1⟩,
        ⟨.directoryCreate, .directory ⟨"/r/A"⟩ .epoch []⟩,
        ⟨.fileCreate, .file ⟨"/r/a"⟩ .epoch 1⟩] := by
  have hold : (Store.ofChanges [.addFile ⟨"/r/a"⟩ 1 .epoch]).capture (fun _ _ => true)
      (Comparator.directoriesFirst (.name .insensitive)).toEntryOrder ⟨"/r"⟩
      = .ok (Entry.companions []) := by cbv
  have hnew : (Store.ofChanges [.addFile ⟨"/r/a"⟩ 1 .epoch,
      .addDirectory ⟨"/r/A"⟩ .epoch]).capture (fun _ _ => true)
      (Comparator.directoriesFirst (.name .insensitive)).toEntryOrder ⟨"/r"⟩
      = .ok (Entry.companions [.directory ⟨"/r/A"⟩ .epoch []]) := by cbv
  have hdiff : (Comparator.directoriesFirst (.name .insensitive)).toEntryOrder.diff
        (Entry.companions []) (Entry.companions [.directory ⟨"/r/A"⟩ .epoch []])
      = [⟨.fileDelete, .file ⟨"/r/a"⟩ .epoch 1⟩,
        ⟨.directoryCreate, .directory ⟨"/r/A"⟩ .epoch []⟩,
        ⟨.fileCreate, .file ⟨"/r/a"⟩ .epoch 1⟩] := by cbv
  exact ⟨hold, hnew, Entry.mem_found_companions [], Entry.mem_found_companions _, hdiff⟩

end EntryOrder

end TreeWatch
