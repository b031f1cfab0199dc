import TreeWatch.Proofs.Diff.Events
import TreeWatch.Proofs.Snapshot.Capture

/-!
# What the difference tells

For an order that tells names apart, the difference of two snapshots of a root is exactly what
differs between them (`Differs`), each event once, but for the modification time of the root.
Main statement, for the snapshots of stored trees: `diff_captures_exact`.
-/

namespace TreeWatch

/-- What differs between what was found before and what was found after. Something is created if
nothing of its type was there before, and deleted if nothing of its type is there after; what
was there before and after, of one type, may have changed. -/
inductive Differs (olds news : List Entry) : Event → Prop where
  | created {y : Entry} (hy : y ∈ news)
      (hnew : ∀ x ∈ olds, x.path.components = y.path.components →
        x.isDirectory ≠ y.isDirectory) : Differs olds news ⟨.created y, y⟩
  | deleted {x : Entry} (hx : x ∈ olds)
      (hold : ∀ y ∈ news, x.path.components = y.path.components →
        x.isDirectory ≠ y.isDirectory) : Differs olds news ⟨.deleted x, x⟩
  | fileChange {x y : Entry} (hx : x ∈ olds) (hy : y ∈ news)
      (hpath : x.path.components = y.path.components) (hxfile : x.isDirectory = false)
      (hyfile : y.isDirectory = false)
      (hchange : x.modified ≠ y.modified ∨ x.length ≠ y.length) :
      Differs olds news ⟨.fileChange, y⟩
  | directoryChange {x y : Entry} (hx : x ∈ olds) (hy : y ∈ news)
      (hpath : x.path.components = y.path.components) (hxdir : x.isDirectory = true)
      (hydir : y.isDirectory = true) (hchange : x.modified ≠ y.modified) :
      Differs olds news ⟨.directoryChange, y⟩

/-- Nothing in one list is where something in the other is. -/
def Apart (as bs : List Entry) : Prop :=
  ∀ a ∈ as, ∀ b ∈ bs, a.path.components ≠ b.path.components

def Event.label (v : Event) : Alteration × List Component := (v.kind, v.entry.path.components)

namespace Differs

variable {olds news olds₁ olds₂ news₁ news₂ : List Entry} {v : Event}

theorem entry_mem (h : Differs olds news v) : v.entry ∈ olds ∨ v.entry ∈ news := by
  cases h with
  | created hy _ => exact .inr hy
  | deleted hx _ => exact .inl hx
  | fileChange _ hy _ _ _ _ => exact .inr hy
  | directoryChange _ hy _ _ _ _ => exact .inr hy

theorem of_mem_iff (h : Differs olds₁ news₁ v)
    (hold : ∀ x, x.path.components = v.entry.path.components → (x ∈ olds₁ ↔ x ∈ olds₂))
    (hnew : ∀ y, y.path.components = v.entry.path.components → (y ∈ news₁ ↔ y ∈ news₂)) :
    Differs olds₂ news₂ v := by
  cases h with
  | created hy h =>
      exact .created ((hnew _ rfl).1 hy) fun x hx hpath => h x ((hold x hpath).2 hx) hpath
  | deleted hx h =>
      exact .deleted ((hold _ rfl).1 hx) fun y hy hpath =>
        h y ((hnew y hpath.symm).2 hy) hpath
  | fileChange hx hy hpath hxfile hyfile hchange =>
      exact .fileChange ((hold _ hpath).1 hx) ((hnew _ rfl).1 hy) hpath hxfile hyfile hchange
  | directoryChange hx hy hpath hxdir hydir hchange =>
      exact .directoryChange ((hold _ hpath).1 hx) ((hnew _ rfl).1 hy) hpath hxdir hydir hchange

theorem congr (hold : ∀ x, x ∈ olds₁ ↔ x ∈ olds₂) (hnew : ∀ y, y ∈ news₁ ↔ y ∈ news₂) :
    Differs olds₁ news₁ v ↔ Differs olds₂ news₂ v :=
  ⟨fun h => h.of_mem_iff (fun x _ => hold x) fun y _ => hnew y,
    fun h => h.of_mem_iff (fun x _ => (hold x).symm) fun y _ => (hnew y).symm⟩

theorem append_iff (h : Apart (olds₁ ++ news₁) (olds₂ ++ news₂)) :
    Differs (olds₁ ++ olds₂) (news₁ ++ news₂) v ↔
      Differs olds₁ news₁ v ∨ Differs olds₂ news₂ v := by
  have hfirst : v.entry ∈ olds₁ ++ news₁ → ∀ x, x.path.components = v.entry.path.components →
      x ∉ olds₂ ∧ x ∉ news₂ := fun hv x hx =>
    ⟨fun hmem => h _ hv x (List.mem_append_left _ hmem) hx.symm,
      fun hmem => h _ hv x (List.mem_append_right _ hmem) hx.symm⟩
  have hsecond : v.entry ∈ olds₂ ++ news₂ → ∀ x, x.path.components = v.entry.path.components →
      x ∉ olds₁ ∧ x ∉ news₁ := fun hv x hx =>
    ⟨fun hmem => h x (List.mem_append_left _ hmem) _ hv hx,
      fun hmem => h x (List.mem_append_right _ hmem) _ hv hx⟩
  constructor
  · intro hv
    have hmem : v.entry ∈ olds₁ ++ news₁ ∨ v.entry ∈ olds₂ ++ news₂ := by
      have := hv.entry_mem
      simp only [List.mem_append] at this ⊢
      tauto
    rcases hmem with hmem | hmem
    · refine .inl (hv.of_mem_iff (fun x hx => ?_) fun y hy => ?_)
      · simp [(hfirst hmem x hx).1]
      · simp [(hfirst hmem y hy).2]
    · refine .inr (hv.of_mem_iff (fun x hx => ?_) fun y hy => ?_)
      · simp [(hsecond hmem x hx).1]
      · simp [(hsecond hmem y hy).2]
  · rintro (hv | hv)
    · have hmem := List.mem_append.2 hv.entry_mem
      refine hv.of_mem_iff (fun x hx => ?_) fun y hy => ?_
      · simp [(hfirst hmem x hx).1]
      · simp [(hfirst hmem y hy).2]
    · have hmem := List.mem_append.2 hv.entry_mem
      refine hv.of_mem_iff (fun x hx => ?_) fun y hy => ?_
      · simp [(hsecond hmem x hx).1]
      · simp [(hsecond hmem y hy).2]

theorem iff_of_ne (h : ∀ x ∈ olds, ∀ y ∈ news, x.path.components = y.path.components →
    x.isDirectory ≠ y.isDirectory) :
    Differs olds news v ↔
      (∃ x ∈ olds, v = ⟨.deleted x, x⟩) ∨ ∃ y ∈ news, v = ⟨.created y, y⟩ := by
  constructor
  · intro hv
    cases hv with
    | created hy _ => exact .inr ⟨_, hy, rfl⟩
    | deleted hx _ => exact .inl ⟨_, hx, rfl⟩
    | fileChange hx hy hpath hxfile hyfile _ =>
        exact absurd (hxfile.trans hyfile.symm) (h _ hx _ hy hpath)
    | directoryChange hx hy hpath hxdir hydir _ =>
        exact absurd (hxdir.trans hydir.symm) (h _ hx _ hy hpath)
  · rintro (⟨x, hx, rfl⟩ | ⟨y, hy, rfl⟩)
    · exact .deleted hx fun y hy => h x hx y hy
    · exact .created hy fun x hx => h x hx y hy

theorem file_iff {x y : Entry} (hpath : x.path = y.path) (hx : x.isDirectory = false)
    (hy : y.isDirectory = false) : Differs [x] [y] v ↔ v ∈ Event.fileChanges x y := by
  rw [Event.mem_fileChanges_iff]
  constructor
  · intro hv
    cases hv <;> simp_all
  · rintro ⟨rfl, hchange⟩
    exact .fileChange (by simp) (by simp) (by rw [hpath]) hx hy hchange

theorem directory_iff {x y : Entry} (hpath : x.path = y.path) (hx : x.isDirectory = true)
    (hy : y.isDirectory = true) : Differs [x] [y] v ↔ v ∈ Event.directoryChanges x y := by
  rw [Event.mem_directoryChanges_iff]
  constructor
  · intro hv
    cases hv <;> simp_all
  · rintro ⟨rfl, hchange⟩
    exact .directoryChange (by simp) (by simp) (by rw [hpath]) hx hy hchange

end Differs

/-! ## Pairings -/

namespace Pairing

def olds (q : Pairing) : List Entry := q.old?.toList.flatMap Entry.preorder

def news (q : Pairing) : List Entry := q.new?.toList.flatMap Entry.preorder

@[simp] theorem olds_deleted (p : Entry) : (deleted p).olds = p.preorder := by simp [olds]

@[simp] theorem news_deleted (p : Entry) : (deleted p).news = [] := rfl

@[simp] theorem olds_created (c : Entry) : (created c).olds = [] := rfl

@[simp] theorem news_created (c : Entry) : (created c).news = c.preorder := by simp [news]

@[simp] theorem olds_matched (p c : Entry) : (matched p c).olds = p.preorder := by simp [olds]

@[simp] theorem news_matched (p c : Entry) : (matched p c).news = c.preorder := by simp [news]

@[simp] theorem olds_replaced (p c : Entry) : (replaced p c).olds = p.preorder := by simp [olds]

@[simp] theorem news_replaced (p c : Entry) : (replaced p c).news = c.preorder := by simp [news]

theorem flatMap_olds (qs : List Pairing) :
    qs.flatMap olds = (qs.filterMap old?).flatMap Entry.preorder := by
  induction qs with
  | nil => rfl
  | cons q qs ih =>
      rw [List.flatMap_cons, ih]
      cases q <;> simp [olds, List.filterMap_cons]

theorem flatMap_news (qs : List Pairing) :
    qs.flatMap news = (qs.filterMap new?).flatMap Entry.preorder := by
  induction qs with
  | nil => rfl
  | cons q qs ih =>
      rw [List.flatMap_cons, ih]
      cases q <;> simp [news, List.filterMap_cons]

theorem exists_mem_versions_of_mem {q : Pairing} {x : Entry} (hx : x ∈ q.olds ++ q.news) :
    ∃ y ∈ q.versions, x ∈ y.preorder := by
  rw [olds, news, ← List.flatMap_append] at hx
  exact List.mem_flatMap.1 hx

end Pairing

theorem Differs.flatMap_iff {qs : List Pairing} {v : Event}
    (h : qs.Pairwise fun q r => Apart (q.olds ++ q.news) (r.olds ++ r.news)) :
    Differs (qs.flatMap Pairing.olds) (qs.flatMap Pairing.news) v ↔
      ∃ q ∈ qs, Differs q.olds q.news v := by
  induction qs with
  | nil => simp [Differs.iff_of_ne]
  | cons q qs ih =>
      obtain ⟨hq, hqs⟩ := List.pairwise_cons.1 h
      rw [List.flatMap_cons, List.flatMap_cons, append_iff, ih hqs]
      · simp
      · intro x hx y hy
        rw [List.mem_append, List.mem_flatMap, List.mem_flatMap] at hy
        rcases hy with ⟨r, hr, hy⟩ | ⟨r, hr, hy⟩
        · exact hq r hr x hx y (List.mem_append_left _ hy)
        · exact hq r hr x hx y (List.mem_append_right _ hy)

namespace EntryOrder

variable {o : EntryOrder}

theorem Proper.pairwise_apart {p c : Entry} (h : o.Proper (.matched p c)) (ho : o.ByPath) :
    (o.pairings p.children c.children).Pairwise fun q r =>
      Apart (q.olds ++ q.news) (r.olds ++ r.news) := by
  refine (h.siblings.pairwise_apart ho).imp_of_mem fun {q r} hq hr hqr x hx y hy hxy => ?_
  obtain ⟨x', hx', hx⟩ := Pairing.exists_mem_versions_of_mem hx
  obtain ⟨y', hy', hy⟩ := Pairing.exists_mem_versions_of_mem hy
  have hqx := (h.of_mem_pairings ho hq).isPrefix_of_mem_preorder hx' hx
  have hry := (h.of_mem_pairings ho hr).isPrefix_of_mem_preorder hy' hy
  exact hqr _ hqx (hxy ▸ hry)

/-- What was found in two versions of a directory differs as the pairings do. -/
theorem Proper.differs_below_iff {p c : Entry} (h : o.Proper (.matched p c)) (ho : o.ByPath)
    {v : Event} : Differs (p.children.flatMap Entry.preorder) (c.children.flatMap Entry.preorder) v ↔
      ∃ q ∈ o.pairings p.children c.children, Differs q.olds q.news v := by
  rw [← Differs.flatMap_iff (h.pairwise_apart ho), Pairing.flatMap_olds, Pairing.flatMap_news]
  refine Differs.congr (fun x => ?_) fun y => ?_
  · exact ((perm_olds_pairings o p.children c.children).flatMap_right _).mem_iff.symm
  · exact ((perm_news_pairings o p.children c.children).flatMap_right _).mem_iff.symm

theorem Proper.apart_below {p c : Entry} (h : o.Proper (.matched p c)) :
    Apart ([p] ++ [c])
      (p.children.flatMap Entry.preorder ++ c.children.flatMap Entry.preorder) := by
  have hlength : ∀ e ∈ (Pairing.matched p c).versions, ∀ x ∈ e.children.flatMap Entry.preorder,
      p.path.components.length < x.path.components.length := by
    intro e he x hx
    obtain ⟨d, hd, hx⟩ := List.mem_flatMap.1 hx
    have hlt := Entry.length_lt_of_mem_preorder (h.isSnapshot e he).listed hd hx
    rwa [(h.isSnapshot e he).path_eq] at hlt
  intro a ha b hb hab
  have hap : a.path.components = p.path.components := by
    rcases List.mem_pair.1 ha with rfl | rfl
    · rfl
    · rw [h.path_eq]
  have hlt : p.path.components.length < b.path.components.length := by
    rcases List.mem_append.1 hb with hb | hb
    · exact hlength p (by simp [Pairing.versions]) b hb
    · exact hlength c (by simp [Pairing.versions]) b hb
  rw [← hab, hap] at hlt
  exact Nat.lt_irrefl _ hlt

/-- Two versions of different types have nothing of one type in one place. -/
theorem Proper.isDirectory_ne {q : Pairing} {p c : Entry} (h : o.Proper q)
    (hp : q.old? = some p) (hc : q.new? = some c) (hne : p.isDirectory ≠ c.isDirectory) :
    ∀ x ∈ p.preorder, ∀ y ∈ c.preorder, x.path.components = y.path.components →
      x.isDirectory ≠ y.isDirectory := by
  intro x hx y hy hxy
  have hps := h.isSnapshot p (Pairing.mem_versions_iff.2 (.inl hp))
  have hcs := h.isSnapshot c (Pairing.mem_versions_iff.2 (.inr hc))
  have hpath : p.path.components = c.path.components := by rw [hps.path_eq, hcs.path_eq]
  cases hpd : p.isDirectory with
  | false =>
      rw [Entry.preorder_of_not_directory hpd, List.mem_singleton] at hx
      subst hx
      rw [Entry.eq_of_components_eq hcs.listed hy (hxy.symm.trans hpath)]
      exact hne
  | true =>
      have hcd : c.isDirectory = false := by simpa [hpd] using hne.symm
      rw [Entry.preorder_of_not_directory hcd, List.mem_singleton] at hy
      subst hy
      rw [Entry.eq_of_components_eq hps.listed hx (hxy.trans hpath.symm)]
      exact hne

theorem Proper.mem_pairingEvents_iff {q : Pairing} (h : o.Proper q) (ho : o.ByPath) {v : Event} :
    v ∈ o.pairingEvents q ↔ Differs q.olds q.news v := by
  induction q using o.pairing_induction with
  | deleted p =>
      rw [pairingEvents, Event.mem_deletions_iff, Differs.iff_of_ne]
      · simp [Pairing.olds, Pairing.news]
      · simp [Pairing.news]
  | created c =>
      rw [pairingEvents, Event.mem_creations_iff, Differs.iff_of_ne]
      · simp [Pairing.olds, Pairing.news]
      · simp [Pairing.olds]
  | replaced p c =>
      rw [pairingEvents, List.mem_append, Event.mem_deletions_iff, Event.mem_creations_iff,
        Differs.iff_of_ne]
      · simp [Pairing.olds, Pairing.news]
      · simpa [Pairing.olds, Pairing.news] using h.isDirectory_ne rfl rfl (h.differ rfl)
  | differ p c hne =>
      rw [pairingEvents, matchedEvents_of_ne hne, List.mem_append, Event.mem_deletions_iff,
        Event.mem_creations_iff, Differs.iff_of_ne]
      · simp [Pairing.olds, Pairing.news]
      · simpa [Pairing.olds, Pairing.news] using h.isDirectory_ne rfl rfl hne
  | files p c hp hc =>
      rw [pairingEvents, matchedEvents_files hp hc, ← Differs.file_iff h.path_eq hp hc]
      simp [Pairing.olds, Pairing.news, Entry.preorder_of_not_directory hp,
        Entry.preorder_of_not_directory hc]
  | directories p c hp hc ih =>
      have hbelow : (∃ q ∈ o.pairings p.children c.children, v ∈ o.pairingEvents q) ↔
          ∃ q ∈ o.pairings p.children c.children, Differs q.olds q.news v :=
        exists_congr fun q => and_congr_right fun hq => ih q hq (h.of_mem_pairings ho hq)
      have holds : (Pairing.matched p c).olds = [p] ++ p.children.flatMap Entry.preorder := by
        simp [Pairing.olds, Entry.preorder_eq_append p]
      have hnews : (Pairing.matched p c).news = [c] ++ c.children.flatMap Entry.preorder := by
        simp [Pairing.news, Entry.preorder_eq_append c]
      rw [pairingEvents, matchedEvents_directory o hp hc, List.mem_append, mem_childEvents_iff,
        hbelow, holds, hnews, Differs.append_iff h.apart_below, h.differs_below_iff ho,
        Differs.directory_iff h.path_eq hp hc, or_comm]

/-! ## Each event once -/

theorem nodup_label_deletions {e : Entry} (h : e.Everywhere Entry.Listed) :
    ((Event.deletions e).map Event.label).Nodup := by
  refine List.Nodup.of_map Prod.snd ?_
  rw [Event.deletions, List.map_map, List.map_map]
  exact ((Entry.perm_postorder_preorder e).map _).nodup_iff.2 (Entry.nodup_components_preorder h)

theorem nodup_label_creations {e : Entry} (h : e.Everywhere Entry.Listed) :
    ((Event.creations e).map Event.label).Nodup := by
  refine List.Nodup.of_map Prod.snd ?_
  rw [Event.creations, List.map_map, List.map_map]
  exact Entry.nodup_components_preorder h

theorem nodup_label_deletions_append_creations {p c : Entry} (hp : p.Everywhere Entry.Listed)
    (hc : c.Everywhere Entry.Listed) :
    ((Event.deletions p ++ Event.creations c).map Event.label).Nodup := by
  rw [List.map_append]
  refine (nodup_label_deletions hp).append (nodup_label_creations hc) ?_
  intro k hkp hkc
  obtain ⟨v, hv, rfl⟩ := List.mem_map.1 hkp
  obtain ⟨w, hw, hwv⟩ := List.mem_map.1 hkc
  obtain ⟨y, _, rfl⟩ := Event.mem_creations_iff.1 hw
  have hkind := Event.isDeletion_of_mem_deletions hv
  rw [← (Prod.mk.inj hwv).1, Alteration.isDeletion_created] at hkind
  cases hkind

theorem Proper.isPrefix_of_mem_pairingEvents {q : Pairing} (h : o.Proper q) {v : Event}
    (hv : v ∈ o.pairingEvents q) : q.path.components <+: v.entry.path.components := by
  obtain ⟨x, hx, hmem⟩ := (isAbout_of_mem_pairingEvents hv).exists_mem_versions
  exact h.isPrefix_of_mem_preorder hx hmem

theorem Proper.nodup_pairingEvents {q : Pairing} (h : o.Proper q) (ho : o.ByPath) :
    ((o.pairingEvents q).map Event.label).Nodup := by
  have hlisted : ∀ x ∈ q.versions, x.Everywhere Entry.Listed :=
    fun x hx => (h.isSnapshot x hx).listed
  induction q using o.pairing_induction with
  | deleted p => exact nodup_label_deletions (hlisted p (by simp [Pairing.versions]))
  | created c => exact nodup_label_creations (hlisted c (by simp [Pairing.versions]))
  | replaced p c =>
      exact nodup_label_deletions_append_creations (hlisted p (by simp [Pairing.versions]))
        (hlisted c (by simp [Pairing.versions]))
  | differ p c hne =>
      rw [pairingEvents, matchedEvents_of_ne hne]
      exact nodup_label_deletions_append_creations (hlisted p (by simp [Pairing.versions]))
        (hlisted c (by simp [Pairing.versions]))
  | files p c hp hc =>
      rw [pairingEvents, matchedEvents_files hp hc, Event.fileChanges]
      split <;> simp
  | directories p c hp hc ih =>
      rw [pairingEvents, matchedEvents_directory o hp hc, List.map_append]
      refine List.Nodup.append ?_ ?_ ?_
      · rw [childEvents, List.map_flatMap, List.nodup_flatMap]
        refine ⟨fun q hq => ?_, ?_⟩
        · have hproper := h.of_mem_pairings ho hq
          exact ih q hq hproper fun x hx => (hproper.isSnapshot x hx).listed
        · refine (h.siblings.pairwise_apart ho).imp_of_mem fun {q r} hq hr hqr k hkq hkr => ?_
          obtain ⟨v, hv, rfl⟩ := List.mem_map.1 hkq
          obtain ⟨w, hw, hwv⟩ := List.mem_map.1 hkr
          have hqv := (h.of_mem_pairings ho hq).isPrefix_of_mem_pairingEvents hv
          have hrw := (h.of_mem_pairings ho hr).isPrefix_of_mem_pairingEvents hw
          rw [(Prod.mk.inj hwv).2] at hrw
          exact hqr _ hqv hrw
      · rw [Event.directoryChanges]
        split <;> simp
      · intro k hkv hkw
        obtain ⟨v, hv, rfl⟩ := List.mem_map.1 hkv
        obtain ⟨w, hw, hwv⟩ := List.mem_map.1 hkw
        rw [(Event.mem_directoryChanges_iff.1 hw).1] at hwv
        have hc := h.isSnapshot c (by simp [Pairing.versions])
        have hlt := length_lt_of_mem_childEvents (h.isSnapshot p (by simp [Pairing.versions])) hc hv
        rw [← (Prod.mk.inj hwv).2, hc.path_eq] at hlt
        exact lt_irrefl _ hlt

/-! ## Two snapshots -/

theorem kind_ne_of_mem_matchedEvents {p c : Entry}
    (h : ¬ (p.isDirectory = true ∧ c.isDirectory = true)) {v : Event}
    (hv : v ∈ o.matchedEvents p c) : v.kind ≠ .directoryChange := by
  by_cases hne : p.isDirectory = c.isDirectory
  · have hp : p.isDirectory = false := by grind
    rw [matchedEvents_files hp (hne ▸ hp)] at hv
    simp [(Event.mem_fileChanges_iff.1 hv).1]
  · rw [matchedEvents_of_ne hne, List.mem_append] at hv
    rcases hv with hv | hv
    · obtain ⟨x, _, rfl⟩ := Event.mem_deletions_iff.1 hv
      exact Alteration.deleted_ne_directoryChange x
    · obtain ⟨y, _, rfl⟩ := Event.mem_creations_iff.1 hv
      exact Alteration.created_ne_directoryChange y

/-- The difference of two snapshots is what differs between them, except for the modification
time of a root that stays a directory. -/
theorem mem_diff_iff {root : Path} {old new : Entry} (hold : old.IsSnapshot o root)
    (hnew : new.IsSnapshot o root) (ho : o.ByPath) {v : Event} :
    v ∈ o.diff old new ↔ Differs old.found new.found v ∧
      (v.kind = .directoryChange → v.entry.path.components ≠ root.components) := by
  cases hp : old.present <;> cases hc : new.present
  · rw [Entry.found_of_not_present hp, Entry.found_of_not_present hc, diff, hp, hc,
      Differs.iff_of_ne (by simp)]
    simp
  · rw [Entry.found_of_not_present hp, Entry.found_of_present hnew.listed hc, diff, hp, hc,
      Differs.iff_of_ne (by simp), Event.mem_creations_iff]
    simp only [List.not_mem_nil, false_and, exists_false, false_or, iff_self_and]
    rintro ⟨y, _, rfl⟩ hkind
    exact absurd hkind (Alteration.created_ne_directoryChange y)
  · rw [Entry.found_of_present hold.listed hp, Entry.found_of_not_present hc, diff, hp, hc,
      Differs.iff_of_ne (by simp), Event.mem_deletions_iff]
    simp only [List.not_mem_nil, false_and, exists_false, or_false, iff_self_and]
    rintro ⟨x, _, rfl⟩ hkind
    exact absurd hkind (Alteration.deleted_ne_directoryChange x)
  · have hproper := proper_matched hold hnew
    have hdiffers : v ∈ o.matchedEvents old new ↔ Differs old.preorder new.preorder v := by
      have h := hproper.mem_pairingEvents_iff ho (v := v)
      simpa [Pairing.olds, Pairing.news, pairingEvents] using h
    rw [Entry.found_of_present hold.listed hp, Entry.found_of_present hnew.listed hc,
      ← hdiffers, ← hnew.path_eq]
    by_cases hd : old.isDirectory = true ∧ new.isDirectory = true
    · rw [diff_directories hd.1 hd.2, matchedEvents_directory o hd.1 hd.2, List.mem_append,
        Event.mem_directoryChanges_iff]
      constructor
      · refine fun hv => ⟨.inl hv, fun _ heq => ?_⟩
        have hlt := length_lt_of_mem_childEvents hold hnew hv
        rw [heq, hnew.path_eq] at hlt
        exact lt_irrefl _ hlt
      · rintro ⟨hv | ⟨rfl, _⟩, hroot⟩
        · exact hv
        · exact absurd rfl (hroot rfl)
    · rw [diff_eq_matchedEvents hp hc hd]
      simp only [iff_self_and]
      exact fun hv hkind => absurd hkind (kind_ne_of_mem_matchedEvents hd hv)

theorem nodup_label_diff {root : Path} {old new : Entry} (hold : old.IsSnapshot o root)
    (hnew : new.IsSnapshot o root) (ho : o.ByPath) : ((o.diff old new).map Event.label).Nodup := by
  cases hp : old.present <;> cases hc : new.present
  · rw [diff, hp, hc]
    exact .nil
  · rw [diff, hp, hc]
    exact nodup_label_creations hnew.listed
  · rw [diff, hp, hc]
    exact nodup_label_deletions hold.listed
  · have hnodup := (proper_matched hold hnew).nodup_pairingEvents ho
    rw [pairingEvents] at hnodup
    by_cases hd : old.isDirectory = true ∧ new.isDirectory = true
    · rw [matchedEvents_directory o hd.1 hd.2, List.map_append] at hnodup
      rw [diff_directories hd.1 hd.2]
      exact (List.nodup_append.1 hnodup).1
    · rwa [diff_eq_matchedEvents hp hc hd]

end EntryOrder

/-- The difference of two snapshots of a root, taken of any two stored trees with any filters,
is exactly what differs between them, each event once. -/
theorem diff_captures_exact {c : Comparator} {s : CaseSensitivity}
    (hc : c.sensitivity? = some s) (hs : s.isSensitive = true)
    (changes changes' : List StoreChange) (accepts accepts' : Path → Attributes → Bool)
    {root : Path} {old new : Entry}
    (hold : (Store.ofChanges changes).capture accepts c.toEntryOrder root = .ok old)
    (hnew : (Store.ofChanges changes').capture accepts' c.toEntryOrder root = .ok new) :
    (∀ v, v ∈ c.toEntryOrder.diff old new ↔ Differs old.found new.found v ∧
      (v.kind = .directoryChange → v.entry.path.components ≠ root.components)) ∧
    ((c.toEntryOrder.diff old new).map Event.label).Nodup := by
  have htrans : Std.TransCmp c.toEntryOrder.order := c.transCmp_order
  have ho := Comparator.byPath hc hs
  have hold' := Store.isSnapshot_of_capture (Store.named_ofChanges changes) hold
  have hnew' := Store.isSnapshot_of_capture (Store.named_ofChanges changes') hnew
  exact ⟨fun v => EntryOrder.mem_diff_iff hold' hnew' ho,
    EntryOrder.nodup_label_diff hold' hnew' ho⟩

/-- A directory and a file that change places, with directories sorted before files. -/
theorem diff_captures_exact_crossed :
    (Store.ofChanges [.addFile ⟨"/r/a/x"⟩ 1 .epoch, .addFile ⟨"/r/b"⟩ 1 .epoch]).capture
      (fun _ _ => true) (Comparator.directoriesFirst (.name .sensitive)).toEntryOrder ⟨"/r"⟩
      = .ok (Entry.crossroads "a" "b") ∧
    (Store.ofChanges [.addFile ⟨"/r/a"⟩ 1 .epoch, .addFile ⟨"/r/b/x"⟩ 1 .epoch]).capture
      (fun _ _ => true) (Comparator.directoriesFirst (.name .sensitive)).toEntryOrder ⟨"/r"⟩
      = .ok (Entry.crossroads "b" "a") ∧
    (∀ v, v ∈ (Comparator.directoriesFirst (.name .sensitive)).toEntryOrder.diff
        (Entry.crossroads "a" "b") (Entry.crossroads "b" "a") ↔
      Differs (Entry.crossroads "a" "b").found (Entry.crossroads "b" "a").found v ∧
        (v.kind = .directoryChange → v.entry.path.components ≠ Path.components ⟨"/r"⟩)) ∧
    (((Comparator.directoriesFirst (.name .sensitive)).toEntryOrder.diff
      (Entry.crossroads "a" "b") (Entry.crossroads "b" "a")).map Event.label).Nodup := by
  have hold : (Store.ofChanges [.addFile ⟨"/r/a/x"⟩ 1 .epoch,
      .addFile ⟨"/r/b"⟩ 1 .epoch]).capture (fun _ _ => true)
      (Comparator.directoriesFirst (.name .sensitive)).toEntryOrder ⟨"/r"⟩
      = .ok (Entry.crossroads "a" "b") := by cbv
  have hnew : (Store.ofChanges [.addFile ⟨"/r/a"⟩ 1 .epoch,
      .addFile ⟨"/r/b/x"⟩ 1 .epoch]).capture (fun _ _ => true)
      (Comparator.directoriesFirst (.name .sensitive)).toEntryOrder ⟨"/r"⟩
      = .ok (Entry.crossroads "b" "a") := by cbv
  exact ⟨hold, hnew, diff_captures_exact rfl rfl _ _ _ _ hold hnew⟩

end TreeWatch
