import TreeWatch.Proofs.Diff.Events

/-!
# The order of events

In the difference of two trees with sorted directories, all events of one entry and of what is
below it, in either version, stand together in one block, at every level of directories that
both trees have. The blocks of a level come in the order of the entries (`InBlocks`), an entry
whose type changed at the place of the version that is sorted first. Main statement:
`inBlocks_diff`.
-/

namespace TreeWatch

/-- A directory with its entries in strictly increasing order, none of which is the same as
another. -/
structure Entry.Orderly (o : EntryOrder) (d : Entry) : Prop where
  sorted : d.children.Pairwise fun a b => o.order a b = .lt
  distinct : d.children.Pairwise fun a b => o.same a b = false

instance (o : EntryOrder) (d : Entry) : Decidable (d.Orderly o) :=
  decidable_of_iff ((d.children.Pairwise fun a b => o.order a b = .lt) ∧
    d.children.Pairwise fun a b => o.same a b = false)
    ⟨fun h => ⟨h.1, h.2⟩, fun h => ⟨h.sorted, h.distinct⟩⟩

structure Block where
  sibling : Pairing
  events : List Event

def DeletionsFirst (vs : List Event) : Prop :=
  ∃ deletions creations, vs = deletions ++ creations ∧
    (∀ v ∈ deletions, v.kind.isDeletion = true) ∧ ∀ v ∈ creations, v.kind.isCreation = true

namespace EntryOrder

/-- The directories that two trees have in common: the roots, and entries of directories in
common that are the same. -/
inductive Level (o : EntryOrder) (old new : Entry) : Entry → Entry → Prop where
  | root (hold : old.isDirectory = true) (hnew : new.isDirectory = true) : Level o old new old new
  | child {x y a b : Entry} (h : Level o old new x y) (ha : a ∈ x.children) (hb : b ∈ y.children)
      (hsame : o.same a b = true) (hadir : a.isDirectory = true) (hbdir : b.isDirectory = true) :
      Level o old new a b

/-- The events of the entries of two versions of a directory, one block for each entry. -/
structure InBlocks (o : EntryOrder) (x y : Entry) (blocks : List Block) : Prop where
  /-- Each old entry has its place in one block. -/
  olds : (blocks.filterMap fun b => b.sibling.old?).Perm x.children
  /-- Each new entry has its place in one block. -/
  news : (blocks.filterMap fun b => b.sibling.new?).Perm y.children
  /-- The versions in a block are the same entry. -/
  same : ∀ b ∈ blocks, ∀ e ∈ b.sibling.versions, ∀ f ∈ b.sibling.versions, o.same e f = true
  /-- The versions in different blocks are different entries. -/
  apart : blocks.Pairwise fun b b' =>
    ∀ e ∈ b.sibling.versions, ∀ f ∈ b'.sibling.versions, o.same e f = false
  /-- The blocks come in order, each at the place of the version that is sorted first. -/
  increasing : blocks.Pairwise fun b b' =>
    o.order (b.sibling.first o) (b'.sibling.first o) = .lt
  /-- A block holds all that its versions lead to. -/
  events_eq : ∀ b ∈ blocks, b.events = o.pairingEvents b.sibling
  /-- The events of a block are about its versions and what is below them. -/
  isAbout : ∀ b ∈ blocks, ∀ v ∈ b.events, b.sibling.IsAbout v
  /-- An entry whose type changed is deleted before it is created. -/
  deletionsFirst : ∀ b ∈ blocks, ∀ e f, b.sibling.old? = some e → b.sibling.new? = some f →
    e.isDirectory ≠ f.isDirectory → DeletionsFirst b.events
  /-- The change of a directory itself is the last event of its block. -/
  change_last : ∀ b ∈ blocks, ∀ l₁ l₂ f, b.sibling.new? = some f →
    b.events = l₁ ++ ⟨.directoryChange, f⟩ :: l₂ → l₂ = []

/-- No event outside of a block is about a path at or below one of its versions. -/
def Separate (before : List Event) (blocks : List Block) (after : List Event) : Prop :=
  ∀ l₁ b l₂, blocks = l₁ ++ b :: l₂ →
    ∀ v ∈ before ++ l₁.flatMap Block.events ++ (l₂.flatMap Block.events ++ after),
      ∀ e ∈ b.sibling.versions, v.entry.path.isWithin e.path = false

def blocks (o : EntryOrder) (old new : List Entry) : List Block :=
  (o.pairings old new).map fun q => ⟨q, o.pairingEvents q⟩

theorem flatMap_blocks (o : EntryOrder) (old new : List Entry) :
    (o.blocks old new).flatMap Block.events = o.childEvents old new := by
  rw [blocks, List.flatMap_map, childEvents]

variable {o : EntryOrder}

/-! ## One level -/

theorem deletionsFirst_deletions_append_creations (p c : Entry) :
    DeletionsFirst (Event.deletions p ++ Event.creations c) :=
  ⟨_, _, rfl, fun _ => Event.isDeletion_of_mem_deletions, fun _ => Event.isCreation_of_mem_creations⟩

theorem deletionsFirst_diff {old new : Entry} (h : old.isDirectory ≠ new.isDirectory) :
    DeletionsFirst (o.diff old new) := by
  rw [diff]
  split
  · exact ⟨[], [], by simp⟩
  · exact ⟨[], _, rfl, by simp, fun v hv => Event.isCreation_of_mem_creations hv⟩
  · exact ⟨_, [], (List.append_nil _).symm, fun v hv => Event.isDeletion_of_mem_deletions hv, by simp⟩
  · split
    · simp_all
    · simp_all
    · exact deletionsFirst_deletions_append_creations old new

theorem directoryChange_not_mem_deletions (p f : Entry) :
    (⟨.directoryChange, f⟩ : Event) ∉ Event.deletions p := fun h =>
  Bool.false_ne_true (Event.isDeletion_of_mem_deletions h)

theorem directoryChange_not_mem_creations (c f : Entry) :
    (⟨.directoryChange, f⟩ : Event) ∉ Event.creations c := fun h =>
  Bool.false_ne_true (Event.isCreation_of_mem_creations h)

theorem directoryChange_not_mem_childEvents (p c : Entry) :
    (⟨.directoryChange, c⟩ : Event) ∉ o.childEvents p.children c.children := by
  intro h
  obtain ⟨q, hq, hv⟩ := mem_childEvents_iff.1 h
  obtain ⟨y, hy, hmem⟩ := (isAbout_of_mem_pairingEvents hv).of_other rfl
  have hlt := Entry.size_lt_of_mem_children (mem_new_of_mem_pairings hq hy)
  exact absurd (Entry.size_le_of_mem_preorder hmem) (Nat.not_le.2 hlt)

theorem eq_nil_of_append_singleton_eq {vs l₁ l₂ : List Event} {v : Event} (hv : v ∉ vs)
    (h : vs ++ [v] = l₁ ++ v :: l₂) : l₂ = [] := by
  rcases List.eq_nil_or_concat l₂ with rfl | ⟨l, u, rfl⟩
  · rfl
  · rw [List.concat_eq_append, ← List.cons_append, ← List.append_assoc] at h
    exact absurd ((List.append_inj' h rfl).1 ▸ by simp) hv

theorem eq_nil_of_pairingEvents_eq {q : Pairing} {l₁ l₂ : List Event} {f : Entry}
    (hf : q.new? = some f) (h : o.pairingEvents q = l₁ ++ ⟨.directoryChange, f⟩ :: l₂) :
    l₂ = [] := by
  have hmem : (⟨.directoryChange, f⟩ : Event) ∈ o.pairingEvents q := by simp [h]
  have hnot : ∀ p c : Entry, (⟨.directoryChange, f⟩ : Event) ∉
      Event.deletions p ++ Event.creations c := by
    intro p c hv
    rcases List.mem_append.1 hv with hv | hv
    · exact directoryChange_not_mem_deletions p f hv
    · exact directoryChange_not_mem_creations c f hv
  induction q using o.pairing_induction with
  | deleted p => cases hf
  | created c => exact absurd hmem (directoryChange_not_mem_creations c f)
  | replaced p c => exact absurd hmem (hnot p c)
  | differ p c hne =>
      rw [pairingEvents, matchedEvents_of_ne hne] at hmem
      exact absurd hmem (hnot p c)
  | files p c hp hc =>
      rw [pairingEvents, matchedEvents_files hp hc] at hmem
      cases (Event.mem_fileChanges_iff.1 hmem).1
  | directories p c hp hc ih =>
      cases hf
      rw [pairingEvents, matchedEvents_directory o hp hc] at h
      have hbelow := directoryChange_not_mem_childEvents (o := o) p f
      rw [Event.directoryChanges] at h
      split at h
      · exact eq_nil_of_append_singleton_eq hbelow h
      · rw [List.append_nil] at h
        exact absurd (by simp [h]) hbelow

section Keyed

variable {κ : Type} [LinearOrder κ] {rank : Bool → ℕ} {key : Entry → κ}

theorem KeyedBy.nodup_map_key (h : o.KeyedBy rank key) {es : List Entry}
    (hes : es.Pairwise fun a b => o.same a b = false) : (es.map key).Nodup :=
  List.pairwise_map.2 (hes.imp fun {a b} hab hkey => by simp [(h.same_iff a b).2 hkey] at hab)

/-- The pairings of two orderly directories are those of different entries. -/
theorem KeyedBy.pairwise_key_ne_of_orderly (h : o.KeyedBy rank key) {x y : Entry}
    (hx : x.Orderly o) (hy : y.Orderly o) :
    (o.pairings x.children y.children).Pairwise fun q r =>
      ∀ e ∈ q.versions, ∀ f ∈ r.versions, key e ≠ key f :=
  h.pairwise_key_ne_pairings (h.ascending hx.sorted) (h.ascending hy.sorted)
    (h.nodup_map_key hx.distinct) (h.nodup_map_key hy.distinct)

theorem KeyedBy.inBlocks (h : o.KeyedBy rank key) {x y : Entry} (hx : x.Orderly o)
    (hy : y.Orderly o) : o.InBlocks x y (o.blocks x.children y.children) where
  olds := by
    rw [blocks, List.filterMap_map]
    exact perm_olds_pairings o x.children y.children
  news := by
    rw [blocks, List.filterMap_map]
    exact perm_news_pairings o x.children y.children
  same := by
    refine List.forall_mem_map.2 fun q hq e he f hf => ?_
    exact (h.same_iff e f).2 (h.key_eq_of_mem_versions hq he hf)
  apart := by
    refine List.pairwise_map.2 ((h.pairwise_key_ne_of_orderly hx hy).imp ?_)
    intro q r hqr e he f hf
    exact Bool.eq_false_iff.2 fun hs => hqr e he f hf ((h.same_iff e f).1 hs)
  increasing :=
    List.pairwise_map.2
      (h.pairwise_first_pairings (h.ascending hx.sorted) (h.ascending hy.sorted))
  events_eq := List.forall_mem_map.2 fun _ _ => rfl
  isAbout := List.forall_mem_map.2 fun q _ v hv => isAbout_of_mem_pairingEvents hv
  deletionsFirst := by
    refine List.forall_mem_map.2 fun q _ e f he hf hne => ?_
    cases q with
    | deleted p => cases hf
    | created c => cases he
    | matched p c =>
        cases he
        cases hf
        rw [pairingEvents, matchedEvents_of_ne hne]
        exact deletionsFirst_deletions_append_creations e f
    | replaced p c => exact deletionsFirst_deletions_append_creations p c
  change_last := List.forall_mem_map.2 fun q _ l₁ l₂ f hf => eq_nil_of_pairingEvents_eq hf

/-- A pairing of two orderly directories is about another entry than all pairings around it. -/
theorem KeyedBy.key_ne_of_pairings_eq (h : o.KeyedBy rank key) {x y : Entry} (hx : x.Orderly o)
    (hy : y.Orderly o) {qs rs : List Pairing} {q : Pairing}
    (hpairings : o.pairings x.children y.children = qs ++ q :: rs) {r : Pairing}
    (hr : r ∈ qs ++ rs) {e f : Entry} (he : e ∈ q.versions) (hf : f ∈ r.versions) :
    key e ≠ key f := by
  have hpairwise := h.pairwise_key_ne_of_orderly hx hy
  rw [hpairings, List.pairwise_middle fun {q r} hqr e he f hf hkey => hqr f hf e he hkey.symm]
    at hpairwise
  exact (List.pairwise_cons.1 hpairwise).1 r hr e he f hf

theorem KeyedBy.eq_of_key_eq (h : o.KeyedBy rank key) {x y : Entry} (hx : x.Orderly o)
    (hy : y.Orderly o) {q r : Pairing} (hq : q ∈ o.pairings x.children y.children)
    (hr : r ∈ o.pairings x.children y.children) {e f : Entry} (he : e ∈ q.versions)
    (hf : f ∈ r.versions) (hkey : key e = key f) : q = r := by
  obtain ⟨qs, rs, hpairings⟩ := List.append_of_mem hq
  by_contra hne
  have hr' : r ∈ qs ++ rs := by
    rw [hpairings] at hr
    simp only [List.mem_append, List.mem_cons] at hr ⊢
    exact hr.imp_right fun hr => hr.resolve_left (Ne.symm hne)
  exact h.key_ne_of_pairings_eq hx hy hpairings hr' he hf hkey

theorem KeyedBy.matched_mem_pairings (h : o.KeyedBy rank key) {x y a b : Entry}
    (hx : x.Orderly o) (hy : y.Orderly o) (ha : a ∈ x.children) (hb : b ∈ y.children)
    (hkey : key a = key b) (htype : a.isDirectory = b.isDirectory) :
    .matched a b ∈ o.pairings x.children y.children := by
  obtain ⟨q, hq, hqa⟩ := o.exists_mem_pairings_of_mem_old y.children ha
  obtain ⟨r, hr, hrb⟩ := o.exists_mem_pairings_of_mem_new x.children hb
  obtain rfl := h.eq_of_key_eq hx hy hq hr (Pairing.mem_versions_iff.2 (.inl hqa))
    (Pairing.mem_versions_iff.2 (.inr hrb)) hkey
  cases q with
  | deleted p => cases hrb
  | created c => cases hqa
  | matched p c =>
      cases hqa
      cases hrb
      exact hq
  | replaced p c =>
      cases hqa
      cases hrb
      exact absurd htype (same_of_replaced_mem_pairUp hq).1

/-! ## All levels -/

theorem Level.mem_preorder {old new x y : Entry} (h : o.Level old new x y) :
    x ∈ old.preorder ∧ y ∈ new.preorder := by
  induction h with
  | root => exact ⟨old.mem_preorder_self, new.mem_preorder_self⟩
  | child h ha hb _ _ _ ih =>
      exact ⟨Entry.mem_preorder_trans ih.1 (Entry.mem_preorder_of_mem_children ha (by simp)),
        Entry.mem_preorder_trans ih.2 (Entry.mem_preorder_of_mem_children hb (by simp))⟩

theorem Level.length_components {old new x y : Entry} (h : o.Level old new x y)
    (hold : old.Everywhere Entry.Listed) (hnew : new.Everywhere Entry.Listed)
    (hpath : old.path = new.path) :
    x.path.components.length = y.path.components.length := by
  induction h with
  | root => rw [hpath]
  | child h ha hb _ _ _ ih =>
      rw [(hold _ h.mem_preorder.1).length_components ha,
        (hnew _ h.mem_preorder.2).length_components hb, ih]

/-- Of all entries in two versions of a directory, only versions of one can be on the way to a
place. -/
theorem Level.path_eq_of_isPrefix {old new x y : Entry} (h : o.Level old new x y)
    (hold : old.Everywhere Entry.Listed) (hnew : new.Everywhere Entry.Listed)
    (hpath : old.path = new.path) {e f : Entry} (he : e ∈ x.children ∨ e ∈ y.children)
    (hf : f ∈ x.children ∨ f ∈ y.children) {k : List Component}
    (hek : e.path.components <+: k) (hfk : f.path.components <+: k) : e.path = f.path := by
  have hlength := h.length_components hold hnew hpath
  obtain ⟨hx, hy⟩ := h.mem_preorder
  have htree : ∀ z, z ∈ x.children ∨ z ∈ y.children → ∃ t d : Entry,
      t.Everywhere Entry.Listed ∧ t.path = old.path ∧ z ∈ t.preorder ∧ d.Listed ∧
        d.path.components.length = x.path.components.length ∧ z ∈ d.children := by
    rintro z (hz | hz)
    · exact ⟨old, x, hold, rfl,
        Entry.mem_preorder_trans hx (Entry.mem_preorder_of_mem_children hz (by simp)),
        hold x hx, rfl, hz⟩
    · exact ⟨new, y, hnew, hpath.symm,
        Entry.mem_preorder_trans hy (Entry.mem_preorder_of_mem_children hz (by simp)),
        hnew y hy, hlength.symm, hz⟩
  obtain ⟨t, d, ht, htpath, het, hd, hdlength, hed⟩ := htree e he
  obtain ⟨t', d', ht', htpath', hft, hd', hdlength', hfd⟩ := htree f hf
  refine Entry.path_eq_of_components_eq ht ht' (htpath.trans htpath'.symm) het hft ?_
  exact Entry.components_eq_of_isPrefix hd hd' (hdlength.trans hdlength'.symm) hed hfd hek hfk

/-- The entry of a directory in common that an event of a pairing is about is on the way to the
path of the event. -/
theorem Level.exists_isPrefix_of_isAbout {old new x y : Entry} (h : o.Level old new x y)
    (hold : old.Everywhere Entry.Listed) (hnew : new.Everywhere Entry.Listed) {q : Pairing}
    (hq : q ∈ o.pairings x.children y.children) {v : Event} (hv : v ∈ o.pairingEvents q) :
    ∃ e ∈ q.versions, e.path.components <+: v.entry.path.components := by
  obtain ⟨hx, hy⟩ := h.mem_preorder
  obtain ⟨e, he, hmem⟩ := (isAbout_of_mem_pairingEvents hv).exists_mem_versions
  refine ⟨e, he, Entry.components_isPrefix_of_mem_preorder ?_ hmem⟩
  rcases mem_of_mem_versions hq he with he | he
  · exact (hold.of_mem hx).child he
  · exact (hnew.of_mem hy).child he

/-- The events of one pairing are not about a path at or below an entry of another. -/
theorem KeyedBy.not_isPrefix_of_mem_pairingEvents (h : o.KeyedBy rank key) {old new x y : Entry}
    (hlevel : o.Level old new x y) (hx : x.Orderly o) (hy : y.Orderly o)
    (hsame : ∀ e f : Entry, e.path = f.path → o.same e f = true)
    (hold : old.Everywhere Entry.Listed) (hnew : new.Everywhere Entry.Listed)
    (hpath : old.path = new.path) {qs rs : List Pairing} {q : Pairing}
    (hpairings : o.pairings x.children y.children = qs ++ q :: rs) {e : Entry}
    (he : e ∈ q.versions) {r : Pairing} (hr : r ∈ qs ++ rs) {v : Event}
    (hv : v ∈ o.pairingEvents r) : ¬ e.path.components <+: v.entry.path.components := by
  intro hev
  have hq : q ∈ o.pairings x.children y.children := by simp [hpairings]
  have hr' : r ∈ o.pairings x.children y.children := by
    rw [hpairings]
    exact (List.perm_middle.mem_iff.2 (List.mem_cons_of_mem q hr))
  obtain ⟨f, hf, hfv⟩ := hlevel.exists_isPrefix_of_isAbout hold hnew hr' hv
  have hef := hlevel.path_eq_of_isPrefix hold hnew hpath (mem_of_mem_versions hq he)
    (mem_of_mem_versions hr' hf) hev hfv
  exact h.key_ne_of_pairings_eq hx hy hpairings hr he hf ((h.same_iff e f).1 (hsame e f hef))

/-- In the difference, the events of a level stand together, and no other event is about a path
at or below one of its entries. -/
theorem KeyedBy.exists_diff_eq_append (h : o.KeyedBy rank key) {old new x y : Entry}
    (hold : old.Everywhere (Entry.Orderly o)) (hnew : new.Everywhere (Entry.Orderly o))
    (hsame : ∀ e f : Entry, e.path = f.path → o.same e f = true) (hlevel : o.Level old new x y) :
    ∃ before after, o.diff old new = before ++ o.childEvents x.children y.children ++ after ∧
      (old.Everywhere Entry.Listed → new.Everywhere Entry.Listed → old.path = new.path →
        ∀ v ∈ before ++ after, ∀ e, e ∈ x.children ∨ e ∈ y.children →
          ¬ e.path.components <+: v.entry.path.components) := by
  induction hlevel with
  | root hd hd' => exact ⟨[], [], by simp [diff_directories hd hd'], by simp⟩
  | @child x y a b hlevel ha hb hs hadir hbdir ih =>
      obtain ⟨before, after, hdiff, houtside⟩ := ih
      obtain ⟨hx, hy⟩ := hlevel.mem_preorder
      have hmatched := h.matched_mem_pairings (hold x hx) (hnew y hy) ha hb
        ((h.same_iff a b).1 hs) (hadir.trans hbdir.symm)
      obtain ⟨qs, rs, hpairings⟩ := List.append_of_mem hmatched
      refine ⟨before ++ qs.flatMap o.pairingEvents,
        Event.directoryChanges a b ++ rs.flatMap o.pairingEvents ++ after, ?_, ?_⟩
      · rw [hdiff, childEvents, hpairings, List.flatMap_append, List.flatMap_cons, pairingEvents,
          matchedEvents_directory o hadir hbdir]
        simp only [List.append_assoc]
      · intro hL hL' hpath v hv e he hev
        have haL := (hL.of_mem hx).child ha a a.mem_preorder_self
        have hbL := (hL'.of_mem hy).child hb b b.mem_preorder_self
        have hlength := (hlevel.child ha hb hs hadir hbdir).length_components hL hL' hpath
        obtain ⟨f, hf, hfx, hfe, hflength⟩ : ∃ f, f ∈ (Pairing.matched a b).versions ∧
            (f ∈ x.children ∨ f ∈ y.children) ∧ f.path.components <+: e.path.components ∧
            e.path.components.length = b.path.components.length + 1 := by
          rcases he with he | he
          · exact ⟨a, by simp [Pairing.versions], .inl ha, haL.components_isPrefix he,
              by rw [haL.length_components he, hlength]⟩
          · exact ⟨b, by simp [Pairing.versions], .inr hb, hbL.components_isPrefix he,
              hbL.length_components he⟩
        have hfv := hfe.trans hev
        have hother : ∀ r ∈ qs ++ rs, v ∉ o.pairingEvents r := fun r hr hvr =>
          h.not_isPrefix_of_mem_pairingEvents hlevel (hold x hx) (hnew y hy) hsame hL hL' hpath
            hpairings hf hr hvr hfv
        have hknown : v ∉ before ++ after := fun hv => houtside hL hL' hpath v hv f hfx hfv
        have hchange : v ∉ Event.directoryChanges a b := by
          intro hv
          rw [(Event.mem_directoryChanges_iff.1 hv).1] at hev
          have hle : e.path.components.length ≤ b.path.components.length := hev.length_le
          omega
        simp only [List.mem_append, List.mem_flatMap] at hv hother hknown
        grind

theorem KeyedBy.separate_blocks (h : o.KeyedBy rank key) {old new x y : Entry}
    (hlevel : o.Level old new x y) (hx : x.Orderly o) (hy : y.Orderly o)
    (hsame : ∀ e f : Entry, e.path = f.path → o.same e f = true)
    (hold : old.Everywhere Entry.Listed) (hnew : new.Everywhere Entry.Listed)
    (hpath : old.path = new.path) {before after : List Event}
    (houtside : ∀ v ∈ before ++ after, ∀ e, e ∈ x.children ∨ e ∈ y.children →
      ¬ e.path.components <+: v.entry.path.components) :
    Separate before (o.blocks x.children y.children) after := by
  intro l₁ b l₂ hblocks v hv e he
  rw [blocks, List.map_eq_append_iff] at hblocks
  obtain ⟨qs, rest, hpairings, rfl, hrest⟩ := hblocks
  obtain ⟨q, rs, rfl, rfl, rfl⟩ := List.map_eq_cons_iff.1 hrest
  have hq : q ∈ o.pairings x.children y.children := by simp [hpairings]
  rw [← Bool.not_eq_true, Path.isWithin_iff]
  have hother : ∀ r ∈ qs ++ rs, v ∈ o.pairingEvents r →
      ¬ e.path.components <+: v.entry.path.components := fun r hr hvr =>
    h.not_isPrefix_of_mem_pairingEvents hlevel hx hy hsame hold hnew hpath hpairings he hr hvr
  have hknown : v ∈ before ++ after → ¬ e.path.components <+: v.entry.path.components :=
    fun hv => houtside v hv e (mem_of_mem_versions hq he)
  simp only [List.flatMap_map, List.mem_append, List.mem_flatMap] at hv hother hknown
  grind

end Keyed

/-- In the difference of two trees with sorted directories, none of which holds two entries that
are the same: at each level of directories in common the events of each entry stand together,
in the order of the entries. Where paths tell the entries of the trees apart, no event outside
of a block is about a path in it. -/
theorem inBlocks_diff {c : Comparator} (hc : c.sensitivity?.isSome) {old new : Entry}
    (hold : old.Everywhere (Entry.Orderly c.toEntryOrder))
    (hnew : new.Everywhere (Entry.Orderly c.toEntryOrder)) :
    (∀ x y, c.toEntryOrder.Level old new x y → ∃ before blocks after,
      c.toEntryOrder.diff old new = before ++ blocks.flatMap Block.events ++ after ∧
      c.toEntryOrder.InBlocks x y blocks ∧
      (old.Everywhere Entry.Listed → new.Everywhere Entry.Listed → old.path = new.path →
        Separate before blocks after)) ∧
    (old.isDirectory ≠ new.isDirectory → DeletionsFirst (c.toEntryOrder.diff old new)) ∧
    Bracketed (c.toEntryOrder.diff old new) := by
  obtain ⟨κ, _, rank, key, hkey⟩ := Comparator.exists_keyedBy hc
  have hsame : ∀ e f : Entry, e.path = f.path → c.toEntryOrder.same e f = true :=
    fun e f => Comparator.same_of_path_eq hc
  refine ⟨fun x y hlevel => ?_, deletionsFirst_diff, bracketed_diff _ old new⟩
  obtain ⟨hx, hy⟩ := hlevel.mem_preorder
  obtain ⟨before, after, hdiff, houtside⟩ := hkey.exists_diff_eq_append hold hnew hsame hlevel
  refine ⟨before, c.toEntryOrder.blocks x.children y.children, after, ?_,
    hkey.inBlocks (hold x hx) (hnew y hy), fun hL hL' hpath => ?_⟩
  · rw [flatMap_blocks, hdiff]
  · exact hkey.separate_blocks hlevel (hold x hx) (hnew y hy) hsame hL hL' hpath
      (houtside hL hL' hpath)

/-- A directory and a file that change places, with directories sorted before files. -/
theorem inBlocks_diff_crossed :
    (Comparator.directoriesFirst (.name .sensitive)).sensitivity?.isSome = true ∧
    (Entry.crossroads "a" "b").Everywhere
      (Entry.Orderly (Comparator.directoriesFirst (.name .sensitive)).toEntryOrder) ∧
    (Entry.crossroads "b" "a").Everywhere
      (Entry.Orderly (Comparator.directoriesFirst (.name .sensitive)).toEntryOrder) ∧
    ∃ before blocks after,
      (Comparator.directoriesFirst (.name .sensitive)).toEntryOrder.diff
        (Entry.crossroads "a" "b") (Entry.crossroads "b" "a")
        = before ++ blocks.flatMap Block.events ++ after ∧
      (Comparator.directoriesFirst (.name .sensitive)).toEntryOrder.InBlocks
        (Entry.crossroads "a" "b") (Entry.crossroads "b" "a") blocks := by
  have hold : (Entry.crossroads "a" "b").Everywhere
      (Entry.Orderly (Comparator.directoriesFirst (.name .sensitive)).toEntryOrder) := by decide
  have hnew : (Entry.crossroads "b" "a").Everywhere
      (Entry.Orderly (Comparator.directoriesFirst (.name .sensitive)).toEntryOrder) := by decide
  obtain ⟨before, blocks, after, hdiff, hblocks, _⟩ :=
    (inBlocks_diff rfl hold hnew).1 _ _ (.root rfl rfl)
  exact ⟨rfl, hold, hnew, before, blocks, after, hdiff, hblocks⟩

end EntryOrder

end TreeWatch
