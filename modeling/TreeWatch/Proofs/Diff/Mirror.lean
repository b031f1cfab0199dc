import TreeWatch.Proofs.Comparator.Identity
import TreeWatch.Proofs.Diff.Conservation

/-!
# The difference the other way round

If two trees trade places, so do what is old and what is new in everything that a difference
does, step by step (`merge_mirror`, `pairUp_mirror`). So the two differences report the same, with
creations in the place of deletions and the two versions of what changed exchanged (`diff_mirror`).
No order among siblings is needed for it.
-/

namespace TreeWatch

/-! ## What became of an entry -/

/-- What became of an entry between two snapshots; of what changed, both versions. -/
inductive Fate where
  | deleted (old : Entry)
  | created (new : Entry)
  | fileChanged (old new : Entry)
  | directoryChanged (old new : Entry)

namespace Fate

def event : Fate → Event
  | deleted p => ⟨.deleted p, p⟩
  | created c => ⟨.created c, c⟩
  | fileChanged _ c => ⟨.fileChange, c⟩
  | directoryChanged _ c => ⟨.directoryChange, c⟩

@[simp] def mirror : Fate → Fate
  | deleted p => created p
  | created c => deleted c
  | fileChanged p c => fileChanged c p
  | directoryChanged p c => directoryChanged c p

def creations (e : Entry) : List Fate := e.preorder.map created

def deletions (e : Entry) : List Fate := e.postorder.map deleted

def fileChanges (old new : Entry) : List Fate :=
  if old.modified ≠ new.modified ∨ old.length ≠ new.length then [fileChanged old new] else []

def directoryChanges (old new : Entry) : List Fate :=
  if old.modified ≠ new.modified then [directoryChanged old new] else []

theorem map_event_creations (e : Entry) : (creations e).map event = Event.creations e := by
  simp [creations, Event.creations, event]

theorem map_event_deletions (e : Entry) : (deletions e).map event = Event.deletions e := by
  simp [deletions, Event.deletions, event]

theorem map_event_fileChanges (p c : Entry) :
    (fileChanges p c).map event = Event.fileChanges p c := by
  rw [fileChanges, Event.fileChanges]
  split <;> rfl

theorem map_event_directoryChanges (p c : Entry) :
    (directoryChanges p c).map event = Event.directoryChanges p c := by
  rw [directoryChanges, Event.directoryChanges]
  split <;> rfl

theorem perm_map_mirror_deletions (e : Entry) :
    (creations e).Perm ((deletions e).map mirror) := by
  rw [creations, deletions, List.map_map]
  exact e.perm_postorder_preorder.symm.map created

theorem perm_map_mirror_creations (e : Entry) :
    (deletions e).Perm ((creations e).map mirror) := by
  rw [creations, deletions, List.map_map]
  exact e.perm_postorder_preorder.map deleted

theorem perm_map_mirror_replaced (p c : Entry) :
    (deletions c ++ creations p).Perm ((deletions p ++ creations c).map mirror) := by
  rw [List.map_append]
  exact List.perm_append_comm.trans
    ((perm_map_mirror_deletions p).append (perm_map_mirror_creations c))

theorem map_mirror_fileChanges (p c : Entry) :
    (fileChanges p c).map mirror = fileChanges c p := by
  simp only [fileChanges, ne_comm (a := p.modified), ne_comm (a := p.length)]
  split <;> rfl

theorem map_mirror_directoryChanges (p c : Entry) :
    (directoryChanges p c).map mirror = directoryChanges c p := by
  simp only [directoryChanges, ne_comm (a := p.modified)]
  split <;> rfl

theorem isCreation_kind_mirror (t : Fate) :
    t.mirror.event.kind.isCreation = t.event.kind.isDeletion := by
  cases t with
  | deleted p | created c => simp [event]
  | fileChanged | directoryChanged => rfl

theorem isDeletion_kind_mirror (t : Fate) :
    t.mirror.event.kind.isDeletion = t.event.kind.isCreation := by
  rw [← isCreation_kind_mirror t.mirror]
  cases t <;> rfl

/-- If the one kind of events becomes the other when it is seen from the later snapshot, so do all
events of that kind in a row. -/
theorem filter_mirror {f g : Alteration → Bool} {kind : Entry → Alteration}
    (hkind : ∀ t : Fate, f t.mirror.event.kind = g t.event.kind)
    (hevent : ∀ t : Fate, g t.event.kind = true →
      t.mirror.event = ⟨kind t.event.entry, t.event.entry⟩) (ts : List Fate) :
    ((ts.map mirror).map event).filter (fun v => f v.kind)
      = ((ts.map event).filter fun v => g v.kind).map fun v => ⟨kind v.entry, v.entry⟩ := by
  induction ts with
  | nil => rfl
  | cons t ts ih =>
      rw [List.map_cons, List.map_cons, List.map_cons, List.filter_cons, List.filter_cons, ih,
        hkind t]
      cases hg : g t.event.kind with
      | false => rfl
      | true => rw [if_pos rfl, if_pos rfl, List.map_cons, hevent t hg]

theorem filter_isCreation_mirror (ts : List Fate) :
    ((ts.map mirror).map event).filter (fun v => v.kind.isCreation)
      = ((ts.map event).filter fun v => v.kind.isDeletion).map fun v =>
          ⟨.created v.entry, v.entry⟩ := by
  refine filter_mirror isCreation_kind_mirror (fun t ht => ?_) ts
  cases t with
  | deleted p => rfl
  | created c => simp [event] at ht
  | fileChanged | directoryChanged => cases ht

theorem filter_isDeletion_mirror (ts : List Fate) :
    ((ts.map mirror).map event).filter (fun v => v.kind.isDeletion)
      = ((ts.map event).filter fun v => v.kind.isCreation).map fun v =>
          ⟨.deleted v.entry, v.entry⟩ := by
  refine filter_mirror isDeletion_kind_mirror (fun t ht => ?_) ts
  cases t with
  | deleted p => simp [event] at ht
  | created c => rfl
  | fileChanged | directoryChanged => cases ht

end Fate

@[simp] def MergeStep.mirror : MergeStep → MergeStep
  | deleted p => created p
  | created c => deleted c
  | matched p c => matched c p

@[simp] def Pairing.mirror : Pairing → Pairing
  | deleted p => created p
  | created c => deleted c
  | matched p c => matched c p
  | replaced p c => replaced c p

/-- The first answer among the images of the members of a list, and the images of all others. -/
theorem extract?_map {α β γ : Type} (f : β → Option γ) (g : α → β) (l : List α) :
    extract? f (l.map g) = (extract? (f ∘ g) l).map fun x => (x.1, x.2.map g) := by
  induction l with
  | nil => rfl
  | cons a l ih =>
      rw [List.map_cons, extract?, extract?, Function.comp_apply, ih]
      cases f (g a) with
      | some b => rfl
      | none => cases extract? (f ∘ g) l <;> rfl

namespace EntryOrder

def matchedFates (o : EntryOrder) (old new : Entry) : List Fate :=
  match old.isDirectory, new.isDirectory with
  | true, true =>
    ((o.pairings old.children new.children).attach.flatMap fun ⟨q, _h⟩ =>
      match q with
      | .deleted p => Fate.deletions p
      | .created c => Fate.creations c
      | .replaced p c => Fate.deletions p ++ Fate.creations c
      | .matched p c => matchedFates o p c) ++ Fate.directoryChanges old new
  | false, false => Fate.fileChanges old new
  | _, _ => Fate.deletions old ++ Fate.creations new
termination_by old.size
decreasing_by exact Entry.size_lt_of_mem_children (mem_of_matched_mem_pairings _h)

def pairingFates (o : EntryOrder) : Pairing → List Fate
  | .deleted p => Fate.deletions p
  | .created c => Fate.creations c
  | .replaced p c => Fate.deletions p ++ Fate.creations c
  | .matched p c => o.matchedFates p c

def childFates (o : EntryOrder) (old new : List Entry) : List Fate :=
  (o.pairings old new).flatMap o.pairingFates

def fates (o : EntryOrder) (old new : Entry) : List Fate :=
  match old.present, new.present with
  | false, false => []
  | false, true => Fate.creations new
  | true, false => Fate.deletions old
  | true, true =>
    match old.isDirectory, new.isDirectory with
    | true, true => o.childFates old.children new.children
    | false, false => Fate.fileChanges old new
    | _, _ => Fate.deletions old ++ Fate.creations new

variable {o : EntryOrder}

theorem matchedFates_directory (o : EntryOrder) {old new : Entry}
    (hold : old.isDirectory = true) (hnew : new.isDirectory = true) :
    o.matchedFates old new
      = o.childFates old.children new.children ++ Fate.directoryChanges old new := by
  have hfun : (o.pairings old.children new.children).attach.flatMap (fun x =>
      o.pairingFates x.1) = o.childFates old.children new.children := by
    rw [childFates, List.flatMap_def, List.flatMap_def, List.attach_map_val]
  rw [← hfun, matchedFates, hold, hnew]
  dsimp only
  congr 2
  funext ⟨q, h⟩
  cases q <;> rfl

theorem matchedFates_of_ne {p c : Entry} (h : p.isDirectory ≠ c.isDirectory) :
    o.matchedFates p c = Fate.deletions p ++ Fate.creations c := by
  rw [matchedFates]
  cases hp : p.isDirectory <;> cases hc : c.isDirectory <;> simp_all

theorem matchedFates_files {p c : Entry} (hp : p.isDirectory = false)
    (hc : c.isDirectory = false) : o.matchedFates p c = Fate.fileChanges p c := by
  rw [matchedFates, hp, hc]

/-! ## The events report it -/

theorem map_event_childFates {old new : List Entry}
    (h : ∀ q ∈ o.pairings old new, (o.pairingFates q).map Fate.event = o.pairingEvents q) :
    (o.childFates old new).map Fate.event = o.childEvents old new := by
  rw [childFates, childEvents, List.map_flatMap]
  exact List.flatMap_congr h

theorem map_event_pairingFates (o : EntryOrder) (q : Pairing) :
    (o.pairingFates q).map Fate.event = o.pairingEvents q := by
  have hreplaced (p c : Entry) : (Fate.deletions p ++ Fate.creations c).map Fate.event
      = Event.deletions p ++ Event.creations c := by
    rw [List.map_append, Fate.map_event_deletions, Fate.map_event_creations]
  induction q using o.pairing_induction with
  | deleted p => exact Fate.map_event_deletions p
  | created c => exact Fate.map_event_creations c
  | replaced p c => exact hreplaced p c
  | differ p c hne =>
      rw [pairingFates, pairingEvents, matchedFates_of_ne hne, matchedEvents_of_ne hne]
      exact hreplaced p c
  | files p c hp hc =>
      rw [pairingFates, pairingEvents, matchedFates_files hp hc, matchedEvents_files hp hc]
      exact Fate.map_event_fileChanges p c
  | directories p c hp hc ih =>
      rw [pairingFates, pairingEvents, matchedFates_directory o hp hc,
        matchedEvents_directory o hp hc, List.map_append, map_event_childFates ih,
        Fate.map_event_directoryChanges]

/-- A difference reports what became of everything, in the order in which it is come upon. -/
theorem map_event_fates (o : EntryOrder) (old new : Entry) :
    (o.fates old new).map Fate.event = o.diff old new := by
  rw [fates, diff]
  cases old.present <;> cases new.present
  · rfl
  · exact Fate.map_event_creations new
  · exact Fate.map_event_deletions old
  · cases old.isDirectory <;> cases new.isDirectory
    · exact Fate.map_event_fileChanges old new
    · simp [Fate.map_event_deletions, Fate.map_event_creations]
    · simp [Fate.map_event_deletions, Fate.map_event_creations]
    · exact map_event_childFates fun q _ => o.map_event_pairingFates q

/-! ## The two sides exchanged -/

theorem createdAs?_mirror (o : EntryOrder) (e : Entry) (step : MergeStep) :
    o.createdAs? e step.mirror = o.deletedAs? e step := by
  cases step <;> rfl

theorem deletedAs?_mirror (o : EntryOrder) (e : Entry) (step : MergeStep) :
    o.deletedAs? e step.mirror = o.createdAs? e step := by
  cases step <;> rfl

theorem pairUp_deleted (o : EntryOrder) (p : Entry) (steps : List MergeStep) :
    o.pairUp (.deleted p :: steps) =
      match extract? (o.createdAs? p) steps with
      | some (c, rest) => .replaced p c :: o.pairUp rest
      | none => .deleted p :: o.pairUp steps := by
  rw [pairUp]
  split <;> rename_i h <;> rw [h]

theorem pairUp_created (o : EntryOrder) (c : Entry) (steps : List MergeStep) :
    o.pairUp (.created c :: steps) =
      match extract? (o.deletedAs? c) steps with
      | some (p, rest) => .replaced p c :: o.pairUp rest
      | none => .created c :: o.pairUp steps := by
  rw [pairUp]
  split <;> rename_i h <;> rw [h]

theorem pairUp_mirror (o : EntryOrder) (steps : List MergeStep) :
    o.pairUp (steps.map MergeStep.mirror) = (o.pairUp steps).map Pairing.mirror := by
  have hcreated (e : Entry) : o.createdAs? e ∘ MergeStep.mirror = o.deletedAs? e :=
    funext (o.createdAs?_mirror e)
  have hdeleted (e : Entry) : o.deletedAs? e ∘ MergeStep.mirror = o.createdAs? e :=
    funext (o.deletedAs?_mirror e)
  fun_induction pairUp o steps with
  | case1 => simp [pairUp]
  | case2 p c steps ih => simp [pairUp, ih]
  | case3 p steps c rest hx ih =>
      rw [List.map_cons, MergeStep.mirror, pairUp_created, extract?_map, hdeleted, hx,
        List.map_cons, ← ih]
      rfl
  | case4 p steps hx ih =>
      rw [List.map_cons, MergeStep.mirror, pairUp_created, extract?_map, hdeleted, hx,
        List.map_cons, ← ih]
      rfl
  | case5 c steps p rest hx ih =>
      rw [List.map_cons, MergeStep.mirror, pairUp_deleted, extract?_map, hcreated, hx,
        List.map_cons, ← ih]
      rfl
  | case6 c steps hx ih =>
      rw [List.map_cons, MergeStep.mirror, pairUp_deleted, extract?_map, hcreated, hx,
        List.map_cons, ← ih]
      rfl

variable (hnext : ∀ p c, o.next c p = (o.next p c).swap)

include hnext

theorem merge_mirror (old new : List Entry) :
    o.merge new old = (o.merge old new).map MergeStep.mirror := by
  fun_induction merge o old new with
  | case1 new => cases new <;> simp [merge]
  | case2 p old => simp [merge]
  | case3 p old c new hlt ih =>
      have hgt : o.next c p = .gt := by rw [hnext, hlt, Ordering.swap_lt]
      rw [merge, hgt, ih]
      rfl
  | case4 p old c new hgt ih =>
      have hlt : o.next c p = .lt := by rw [hnext, hgt, Ordering.swap_gt]
      rw [merge, hlt, ih]
      rfl
  | case5 p old c new heq ih =>
      have heq' : o.next c p = .eq := by rw [hnext, heq, Ordering.swap_eq]
      rw [merge, heq', ih]
      rfl

theorem pairings_mirror (old new : List Entry) :
    o.pairings new old = (o.pairings old new).map Pairing.mirror := by
  rw [pairings, pairings, merge_mirror hnext, pairUp_mirror]

theorem perm_map_mirror_childFates {old new : List Entry}
    (h : ∀ q ∈ o.pairings old new,
      (o.pairingFates q.mirror).Perm ((o.pairingFates q).map Fate.mirror)) :
    (o.childFates new old).Perm ((o.childFates old new).map Fate.mirror) := by
  rw [childFates, childFates, pairings_mirror hnext, List.flatMap_map, List.map_flatMap]
  exact List.Perm.flatMap_left _ h

theorem perm_map_mirror_pairingFates (q : Pairing) :
    (o.pairingFates q.mirror).Perm ((o.pairingFates q).map Fate.mirror) := by
  induction q using o.pairing_induction with
  | deleted p => exact Fate.perm_map_mirror_deletions p
  | created c => exact Fate.perm_map_mirror_creations c
  | replaced p c => exact Fate.perm_map_mirror_replaced p c
  | differ p c hne =>
      rw [Pairing.mirror, pairingFates, pairingFates, matchedFates_of_ne hne,
        matchedFates_of_ne hne.symm]
      exact Fate.perm_map_mirror_replaced p c
  | files p c hp hc =>
      rw [Pairing.mirror, pairingFates, pairingFates, matchedFates_files hp hc,
        matchedFates_files hc hp, Fate.map_mirror_fileChanges]
  | directories p c hp hc ih =>
      rw [Pairing.mirror, pairingFates, pairingFates, matchedFates_directory o hp hc,
        matchedFates_directory o hc hp, List.map_append, Fate.map_mirror_directoryChanges]
      exact (perm_map_mirror_childFates hnext ih).append_right _

/-- If two trees trade places, all that became of their entries is seen from the other side. -/
theorem perm_map_mirror_fates (old new : Entry) :
    (o.fates new old).Perm ((o.fates old new).map Fate.mirror) := by
  rw [fates, fates]
  cases old.present <;> cases new.present
  · exact .nil
  · exact Fate.perm_map_mirror_creations new
  · exact Fate.perm_map_mirror_deletions old
  · cases old.isDirectory <;> cases new.isDirectory
    · rw [Fate.map_mirror_fileChanges]
    · exact Fate.perm_map_mirror_replaced old new
    · exact Fate.perm_map_mirror_replaced old new
    · exact perm_map_mirror_childFates hnext fun q _ => perm_map_mirror_pairingFates hnext q

end EntryOrder

namespace Comparator

theorem next_swap (c : Comparator) (a b : Entry) :
    c.toEntryOrder.next b a = (c.toEntryOrder.next a b).swap := by
  have hsame : c.toEntryOrder.same b a = c.toEntryOrder.same a b := c.same_comm b a
  have horder : c.toEntryOrder.order b a = (c.toEntryOrder.order a b).swap := c.order_swap a b
  rw [EntryOrder.next, EntryOrder.next, hsame, horder]
  split <;> rfl

/-- If two trees trade places, whatever the order and the siblings in them, their difference
reports the same seen from the other side: what was deleted is created, each entry as often as
before and by its type, what was created is deleted, and what changed from one version to another
changes from the second to the first. -/
theorem diff_mirror (c : Comparator) (old new : Entry) :
    (c.toEntryOrder.fates old new).map Fate.event = c.toEntryOrder.diff old new ∧
    (c.toEntryOrder.fates new old).Perm ((c.toEntryOrder.fates old new).map Fate.mirror) ∧
    ((c.toEntryOrder.diff new old).filter fun v => v.kind.isCreation).Perm
      (((c.toEntryOrder.diff old new).filter fun v => v.kind.isDeletion).map fun v =>
        ⟨.created v.entry, v.entry⟩) ∧
    ((c.toEntryOrder.diff new old).filter fun v => v.kind.isDeletion).Perm
      (((c.toEntryOrder.diff old new).filter fun v => v.kind.isCreation).map fun v =>
        ⟨.deleted v.entry, v.entry⟩) := by
  have hfates := EntryOrder.perm_map_mirror_fates c.next_swap old new
  have hevents := hfates.map Fate.event
  rw [EntryOrder.map_event_fates] at hevents
  refine ⟨EntryOrder.map_event_fates _ old new, hfates, ?_, ?_⟩
  · rw [← EntryOrder.map_event_fates _ old new, ← Fate.filter_isCreation_mirror]
    exact hevents.filter _
  · rw [← EntryOrder.map_event_fates _ old new, ← Fate.filter_isDeletion_mirror]
    exact hevents.filter _

end Comparator

end TreeWatch
