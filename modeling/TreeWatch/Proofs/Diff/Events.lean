import Mathlib.Data.List.Infix
import TreeWatch.Proofs.Diff.Siblings

/-!
# The events of a pairing

Which events an entry leads to, by its versions. An event is about the version that it carries
or about something below it (`isAbout_of_mem_pairingEvents`), and in every row of events that a
difference consists of, the creation of a directory stands right before those of all below it
and its deletion right after (`Bracketed`).
-/

namespace TreeWatch

namespace Alteration

def isDeletion : Alteration → Bool
  | directoryDelete => true
  | fileDelete => true
  | _ => false

def isCreation : Alteration → Bool
  | directoryCreate => true
  | fileCreate => true
  | _ => false

@[simp] theorem isDeletion_deleted (e : Entry) : (deleted e).isDeletion = true := by
  rw [deleted]
  split <;> rfl

@[simp] theorem isDeletion_created (e : Entry) : (created e).isDeletion = false := by
  rw [created]
  split <;> rfl

@[simp] theorem isCreation_created (e : Entry) : (created e).isCreation = true := by
  rw [created]
  split <;> rfl

@[simp] theorem isCreation_deleted (e : Entry) : (deleted e).isCreation = false := by
  rw [deleted]
  split <;> rfl

theorem deleted_ne_directoryChange (e : Entry) : deleted e ≠ directoryChange := by
  rw [deleted]
  split <;> simp

theorem created_ne_directoryChange (e : Entry) : created e ≠ directoryChange := by
  rw [created]
  split <;> simp

end Alteration

namespace Event

theorem mem_creations_iff {e : Entry} {v : Event} :
    v ∈ creations e ↔ ∃ x ∈ e.preorder, v = ⟨.created x, x⟩ := by
  simp [creations, eq_comm]

theorem mem_deletions_iff {e : Entry} {v : Event} :
    v ∈ deletions e ↔ ∃ x ∈ e.preorder, v = ⟨.deleted x, x⟩ := by
  simp [deletions, Entry.mem_postorder_iff, eq_comm]

theorem isDeletion_of_mem_deletions {e : Entry} {v : Event} (hv : v ∈ deletions e) :
    v.kind.isDeletion = true := by
  obtain ⟨x, _, rfl⟩ := mem_deletions_iff.1 hv
  exact Alteration.isDeletion_deleted x

theorem isCreation_of_mem_creations {e : Entry} {v : Event} (hv : v ∈ creations e) :
    v.kind.isCreation = true := by
  obtain ⟨x, _, rfl⟩ := mem_creations_iff.1 hv
  exact Alteration.isCreation_created x

theorem mem_fileChanges_iff {p c : Entry} {v : Event} :
    v ∈ fileChanges p c ↔
      v = ⟨.fileChange, c⟩ ∧ (p.modified ≠ c.modified ∨ p.length ≠ c.length) := by
  rw [fileChanges]
  split <;> simp_all

theorem mem_directoryChanges_iff {p c : Entry} {v : Event} :
    v ∈ directoryChanges p c ↔ v = ⟨.directoryChange, c⟩ ∧ p.modified ≠ c.modified := by
  rw [directoryChanges]
  split <;> simp_all

theorem creations_eq_cons (e : Entry) :
    creations e = ⟨.created e, e⟩ :: e.children.flatMap creations := by
  rw [creations, Entry.preorder_eq_cons, Entry.preorderAll_eq_flatMap, List.map_cons,
    List.map_flatMap]
  rfl

theorem deletions_eq_append (e : Entry) :
    deletions e = e.children.flatMap deletions ++ [⟨.deleted e, e⟩] := by
  rw [deletions, Entry.postorder_eq_append, List.map_append, List.map_flatMap]
  rfl

end Event

namespace EntryOrder

variable {o : EntryOrder}

theorem matchedEvents_of_ne {p c : Entry} (h : p.isDirectory ≠ c.isDirectory) :
    o.matchedEvents p c = Event.deletions p ++ Event.creations c := by
  rw [matchedEvents]
  cases hp : p.isDirectory <;> cases hc : c.isDirectory <;> simp_all

theorem matchedEvents_files {p c : Entry} (hp : p.isDirectory = false)
    (hc : c.isDirectory = false) : o.matchedEvents p c = Event.fileChanges p c := by
  rw [matchedEvents, hp, hc]

theorem diff_directories {old new : Entry} (hold : old.isDirectory = true)
    (hnew : new.isDirectory = true) :
    o.diff old new = o.childEvents old.children new.children := by
  cases old <;> cases new <;> simp_all [diff, Entry.isDirectory, Entry.present]

/-- Unless both are directories, the difference of two trees is that of two versions of an
entry. -/
theorem diff_eq_matchedEvents {old new : Entry} (hold : old.present = true)
    (hnew : new.present = true) (h : ¬ (old.isDirectory = true ∧ new.isDirectory = true)) :
    o.diff old new = o.matchedEvents old new := by
  rw [diff, matchedEvents, hold, hnew]
  cases hp : old.isDirectory <;> cases hc : new.isDirectory <;> simp_all

/-- What is shown of pairings, by what they bring together: for two versions of a directory, from
the same of all pairings in it. -/
theorem pairing_induction (o : EntryOrder) {motive : Pairing → Prop}
    (deleted : ∀ p, motive (.deleted p)) (created : ∀ c, motive (.created c))
    (replaced : ∀ p c, motive (.replaced p c))
    (differ : ∀ p c, p.isDirectory ≠ c.isDirectory → motive (.matched p c))
    (files : ∀ p c, p.isDirectory = false → c.isDirectory = false → motive (.matched p c))
    (directories : ∀ p c, p.isDirectory = true → c.isDirectory = true →
      (∀ q ∈ o.pairings p.children c.children, motive q) → motive (.matched p c))
    (q : Pairing) : motive q := by
  have hmatched : ∀ p c, motive (.matched p c) := by
    intro p
    induction p using Entry.induction_children with
    | step p ih =>
        intro c
        by_cases hne : p.isDirectory = c.isDirectory
        · cases hp : p.isDirectory with
          | false => exact files p c hp (hne ▸ hp)
          | true =>
              refine directories p c hp (hne ▸ hp) fun q hq => ?_
              cases q with
              | deleted x => exact deleted x
              | created y => exact created y
              | matched x y => exact ih x (mem_of_matched_mem_pairings hq) y
              | replaced x y => exact replaced x y
        · exact differ p c hne
  cases q with
  | deleted p => exact deleted p
  | created c => exact created c
  | matched p c => exact hmatched p c
  | replaced p c => exact replaced p c

theorem mem_childEvents_iff {old new : List Entry} {v : Event} :
    v ∈ o.childEvents old new ↔ ∃ q ∈ o.pairings old new, v ∈ o.pairingEvents q := by
  rw [childEvents, List.mem_flatMap]

end EntryOrder

/-! ## What events are about -/

/-- An event is about an old version or what is below it if it is a deletion, and otherwise
about a new one. -/
structure Pairing.IsAbout (q : Pairing) (v : Event) : Prop where
  of_deletion : v.kind.isDeletion = true → ∃ x, q.old? = some x ∧ v.entry ∈ x.preorder
  of_other : v.kind.isDeletion = false → ∃ y, q.new? = some y ∧ v.entry ∈ y.preorder

theorem Pairing.IsAbout.exists_mem_versions {q : Pairing} {v : Event} (h : q.IsAbout v) :
    ∃ x ∈ q.versions, v.entry ∈ x.preorder := by
  cases hk : v.kind.isDeletion with
  | true =>
      obtain ⟨x, hx, hv⟩ := h.of_deletion hk
      exact ⟨x, mem_versions_iff.2 (.inl hx), hv⟩
  | false =>
      obtain ⟨y, hy, hv⟩ := h.of_other hk
      exact ⟨y, mem_versions_iff.2 (.inr hy), hv⟩

theorem Pairing.isAbout_of_mem_deletions {q : Pairing} {x : Entry} {v : Event}
    (hx : q.old? = some x) (hv : v ∈ Event.deletions x) : q.IsAbout v := by
  obtain ⟨y, hy, rfl⟩ := Event.mem_deletions_iff.1 hv
  exact ⟨fun _ => ⟨x, hx, hy⟩, fun h => by simp at h⟩

theorem Pairing.isAbout_of_mem_creations {q : Pairing} {x : Entry} {v : Event}
    (hx : q.new? = some x) (hv : v ∈ Event.creations x) : q.IsAbout v := by
  obtain ⟨y, hy, rfl⟩ := Event.mem_creations_iff.1 hv
  exact ⟨fun h => by simp at h, fun _ => ⟨x, hx, hy⟩⟩

theorem Pairing.isAbout_of_entry_eq {q : Pairing} {x : Entry} {v : Event}
    (hx : q.new? = some x) (hv : v.entry = x) (hk : v.kind.isDeletion = false) : q.IsAbout v :=
  ⟨fun h => absurd h (by simp [hk]), fun _ => ⟨x, hx, hv ▸ v.entry.mem_preorder_self⟩⟩

namespace EntryOrder

variable {o : EntryOrder}

/-- An event of a pairing in two directories is about the directories. -/
theorem isAbout_matched_of_isAbout {p c : Entry} {q : Pairing} {v : Event}
    (hq : q ∈ o.pairings p.children c.children) (hv : q.IsAbout v) :
    (Pairing.matched p c).IsAbout v where
  of_deletion hk := by
    obtain ⟨x, hx, hmem⟩ := hv.of_deletion hk
    exact ⟨p, rfl, Entry.mem_preorder_of_mem_children (mem_old_of_mem_pairings hq hx) hmem⟩
  of_other hk := by
    obtain ⟨y, hy, hmem⟩ := hv.of_other hk
    exact ⟨c, rfl, Entry.mem_preorder_of_mem_children (mem_new_of_mem_pairings hq hy) hmem⟩

theorem isAbout_of_mem_pairingEvents {q : Pairing} {v : Event} (hv : v ∈ o.pairingEvents q) :
    q.IsAbout v := by
  induction q using o.pairing_induction with
  | deleted p => exact Pairing.isAbout_of_mem_deletions rfl hv
  | created c => exact Pairing.isAbout_of_mem_creations rfl hv
  | replaced p c =>
      rcases List.mem_append.1 hv with hv | hv
      · exact Pairing.isAbout_of_mem_deletions rfl hv
      · exact Pairing.isAbout_of_mem_creations rfl hv
  | differ p c hne =>
      rw [pairingEvents, matchedEvents_of_ne hne] at hv
      rcases List.mem_append.1 hv with hv | hv
      · exact Pairing.isAbout_of_mem_deletions rfl hv
      · exact Pairing.isAbout_of_mem_creations rfl hv
  | files p c hp hc =>
      rw [pairingEvents, matchedEvents_files hp hc] at hv
      have hv := (Event.mem_fileChanges_iff.1 hv).1
      subst hv
      exact Pairing.isAbout_of_entry_eq rfl rfl rfl
  | directories p c hp hc ih =>
      rw [pairingEvents, matchedEvents_directory o hp hc] at hv
      rcases List.mem_append.1 hv with hv | hv
      · obtain ⟨q, hq, hv⟩ := mem_childEvents_iff.1 hv
        exact isAbout_matched_of_isAbout hq (ih q hq hv)
      · have hv := (Event.mem_directoryChanges_iff.1 hv).1
        subst hv
        exact Pairing.isAbout_of_entry_eq rfl rfl rfl

theorem length_lt_of_mem_childEvents {root : Path} {p c : Entry} (hp : p.IsSnapshot o root)
    (hc : c.IsSnapshot o root) {v : Event} (hv : v ∈ o.childEvents p.children c.children) :
    root.components.length < v.entry.path.components.length := by
  obtain ⟨q, hq, hv⟩ := mem_childEvents_iff.1 hv
  obtain ⟨x, hx, hmem⟩ := (isAbout_of_mem_pairingEvents hv).exists_mem_versions
  rcases mem_of_mem_versions hq hx with hx | hx
  · rw [← hp.path_eq]
    exact Entry.length_lt_of_mem_preorder hp.listed hx hmem
  · rw [← hc.path_eq]
    exact Entry.length_lt_of_mem_preorder hc.listed hx hmem

end EntryOrder

/-! ## Directories around what is below them -/

/-- Wherever the creation of a directory stands in a row of events, the creations of all below
it follow, and wherever its deletion stands, the deletions of all below it come before. -/
structure Bracketed (vs : List Event) : Prop where
  creations_isPrefix : ∀ {l₁ l₂ : List Event} {d : Entry},
    vs = l₁ ++ ⟨.directoryCreate, d⟩ :: l₂ → d.children.flatMap Event.creations <+: l₂
  deletions_isSuffix : ∀ {l₁ l₂ : List Event} {d : Entry},
    vs = l₁ ++ ⟨.directoryDelete, d⟩ :: l₂ → d.children.flatMap Event.deletions <:+ l₁

namespace Bracketed

theorem nil : Bracketed [] where
  creations_isPrefix h := by simp at h
  deletions_isSuffix h := by simp at h

theorem cons {v : Event} {vs : List Event} (h : Bracketed vs)
    (hc : v.kind = .directoryCreate → v.entry.children.flatMap Event.creations <+: vs)
    (hd : v.kind ≠ .directoryDelete) : Bracketed (v :: vs) where
  creations_isPrefix {l₁ l₂ d} heq := by
    cases l₁ with
    | nil =>
        obtain ⟨rfl, rfl⟩ := List.cons.inj heq
        exact hc rfl
    | cons w l₁ => exact h.creations_isPrefix (List.cons.inj heq).2
  deletions_isSuffix {l₁ l₂ d} heq := by
    cases l₁ with
    | nil =>
        obtain ⟨rfl, rfl⟩ := List.cons.inj heq
        exact absurd rfl hd
    | cons w l₁ =>
        exact (h.deletions_isSuffix (List.cons.inj heq).2).trans (List.suffix_cons w l₁)

theorem concat {v : Event} {vs : List Event} (h : Bracketed vs)
    (hc : v.kind ≠ .directoryCreate)
    (hd : v.kind = .directoryDelete → v.entry.children.flatMap Event.deletions <:+ vs) :
    Bracketed (vs ++ [v]) where
  creations_isPrefix {l₁ l₂ d} heq := by
    rcases List.eq_nil_or_concat l₂ with rfl | ⟨l, u, rfl⟩
    · obtain ⟨rfl, hv⟩ := List.append_inj' heq rfl
      exact absurd (congrArg Event.kind (List.singleton_inj.1 hv)) hc
    · rw [List.concat_eq_append, ← List.cons_append, ← List.append_assoc] at heq
      obtain ⟨hvs, hv⟩ := List.append_inj' heq rfl
      rw [List.concat_eq_append]
      exact (h.creations_isPrefix hvs).trans (List.prefix_append l [u])
  deletions_isSuffix {l₁ l₂ d} heq := by
    rcases List.eq_nil_or_concat l₂ with rfl | ⟨l, u, rfl⟩
    · obtain ⟨rfl, hv⟩ := List.append_inj' heq rfl
      obtain rfl := List.singleton_inj.1 hv
      exact hd rfl
    · rw [List.concat_eq_append, ← List.cons_append, ← List.append_assoc] at heq
      exact h.deletions_isSuffix (List.append_inj' heq rfl).1

theorem append {as bs : List Event} (ha : Bracketed as) (hb : Bracketed bs) :
    Bracketed (as ++ bs) where
  creations_isPrefix {l₁ l₂ d} h := by
    rcases List.append_eq_append_iff.1 h with ⟨l, rfl, hbs⟩ | ⟨l, has, hl⟩
    · exact hb.creations_isPrefix hbs
    · cases l with
      | nil =>
          exact hb.creations_isPrefix (hl.symm.trans (List.nil_append _).symm)
      | cons v l =>
          obtain ⟨rfl, rfl⟩ := List.cons.inj hl
          exact (ha.creations_isPrefix has).trans (List.prefix_append l bs)
  deletions_isSuffix {l₁ l₂ d} h := by
    rcases List.append_eq_append_iff.1 h with ⟨l, rfl, hbs⟩ | ⟨l, has, hl⟩
    · exact (hb.deletions_isSuffix hbs).trans (List.suffix_append as l)
    · cases l with
      | nil =>
          have hempty := hb.deletions_isSuffix (hl.symm.trans (List.nil_append _).symm)
          exact hempty.trans List.nil_suffix
      | cons v l =>
          obtain ⟨rfl, rfl⟩ := List.cons.inj hl
          exact ha.deletions_isSuffix has

theorem flatMap {α : Type} {f : α → List Event} {l : List α} (h : ∀ a ∈ l, Bracketed (f a)) :
    Bracketed (l.flatMap f) := by
  induction l with
  | nil => exact nil
  | cons a l ih =>
      rw [List.flatMap_cons]
      exact (h a List.mem_cons_self).append (ih fun b hb => h b (List.mem_cons_of_mem a hb))

theorem creations (e : Entry) : Bracketed (Event.creations e) := by
  induction e using Entry.induction_children with
  | step e ih =>
      rw [Event.creations_eq_cons]
      refine (flatMap ih).cons (fun _ => List.prefix_refl _) fun h => ?_
      have hkind := congrArg Alteration.isDeletion h
      rw [Alteration.isDeletion_created] at hkind
      cases hkind

theorem deletions (e : Entry) : Bracketed (Event.deletions e) := by
  induction e using Entry.induction_children with
  | step e ih =>
      rw [Event.deletions_eq_append]
      refine (flatMap ih).concat (fun h => ?_) fun _ => List.suffix_refl _
      have hkind := congrArg Alteration.isCreation h
      rw [Alteration.isCreation_deleted] at hkind
      cases hkind

theorem fileChanges (p c : Entry) : Bracketed (Event.fileChanges p c) := by
  rw [Event.fileChanges]
  split
  · exact nil.cons (fun h => nomatch h) (by simp)
  · exact nil

theorem directoryChanges (p c : Entry) : Bracketed (Event.directoryChanges p c) := by
  rw [Event.directoryChanges]
  split
  · exact nil.cons (fun h => nomatch h) (by simp)
  · exact nil

end Bracketed

namespace EntryOrder

theorem bracketed_pairingEvents (o : EntryOrder) (q : Pairing) :
    Bracketed (o.pairingEvents q) := by
  induction q using o.pairing_induction with
  | deleted p => exact Bracketed.deletions p
  | created c => exact Bracketed.creations c
  | replaced p c => exact (Bracketed.deletions p).append (Bracketed.creations c)
  | differ p c hne =>
      rw [pairingEvents, matchedEvents_of_ne hne]
      exact (Bracketed.deletions p).append (Bracketed.creations c)
  | files p c hp hc =>
      rw [pairingEvents, matchedEvents_files hp hc]
      exact Bracketed.fileChanges p c
  | directories p c hp hc ih =>
      rw [pairingEvents, matchedEvents_directory o hp hc]
      exact (Bracketed.flatMap ih).append (Bracketed.directoryChanges p c)

/-- In a difference, directories stand around all that is created or deleted in them. -/
theorem bracketed_diff (o : EntryOrder) (old new : Entry) : Bracketed (o.diff old new) := by
  rw [diff]
  split
  · exact Bracketed.nil
  · exact Bracketed.creations new
  · exact Bracketed.deletions old
  · split
    · exact Bracketed.flatMap fun q _ => o.bracketed_pairingEvents q
    · exact Bracketed.fileChanges old new
    · exact (Bracketed.deletions old).append (Bracketed.creations new)

end EntryOrder

end TreeWatch
