import TreeWatch.Comparator
import TreeWatch.Event

/-!
# The difference of two snapshots

`diff` lists the events that lead from one snapshot of a root to another. The children of a
directory are merged by the order they are sorted in. A deleted directory is reported after
all below it and a created one before; a directory that stays is reported, if its
modification time differs, after all below it; an entry that turned from a file into a
directory or back is deleted and then created, even where the order puts its two versions
apart.
-/

namespace TreeWatch

/-- One step of merging the old and the new entries of a directory. -/
inductive MergeStep where
  | deleted (old : Entry)
  | created (new : Entry)
  | matched (old new : Entry)
deriving Inhabited

/-- What became of the entries of a directory. -/
inductive Pairing where
  | deleted (old : Entry)
  | created (new : Entry)
  /-- The same entry, found on both sides where the merge stood. -/
  | matched (old new : Entry)
  /-- The same entry with another type, found apart. -/
  | replaced (old new : Entry)
deriving Inhabited

/-- The first answer among the members of a list, and the list without that member. -/
def extract? {α β : Type} (f : α → Option β) : List α → Option (β × List α)
  | [] => none
  | a :: as =>
    match f a with
    | some b => some (b, as)
    | none => (extract? f as).map fun (b, rest) => (b, a :: rest)

theorem length_of_extract? {α β : Type} {f : α → Option β} {l : List α} {b : β} {rest : List α}
    (h : extract? f l = some (b, rest)) : l.length = rest.length + 1 := by
  induction l generalizing rest with
  | nil => simp [extract?] at h
  | cons a as ih =>
    rw [extract?] at h
    split at h
    · simp only [Option.some.injEq, Prod.mk.injEq] at h
      simp [h.2]
    · obtain ⟨⟨c, r⟩, hr, hc⟩ := Option.map_eq_some_iff.1 h
      simp only [Prod.mk.injEq] at hc
      rw [← hc.2, List.length_cons, List.length_cons, ih (hc.1 ▸ hr)]

theorem perm_of_extract? {α β : Type} {f : α → Option β} {l : List α} {b : β} {rest : List α}
    (h : extract? f l = some (b, rest)) : ∃ a, f a = some b ∧ l.Perm (a :: rest) := by
  induction l generalizing rest with
  | nil => simp [extract?] at h
  | cons a as ih =>
    rw [extract?] at h
    split at h
    · rename_i c hc
      simp only [Option.some.injEq, Prod.mk.injEq] at h
      exact ⟨a, h.1 ▸ hc, h.2 ▸ .refl _⟩
    · obtain ⟨⟨c, r⟩, hr, hc⟩ := Option.map_eq_some_iff.1 h
      simp only [Prod.mk.injEq] at hc
      obtain ⟨x, hx, hp⟩ := ih (hc.1 ▸ hr)
      exact ⟨x, hx, hc.2 ▸ (hp.cons a).trans (.swap x a r)⟩

namespace EntryOrder

/-- Which of the first old and the first new entry comes next: the old one (`lt`), the new one
(`gt`), or both as one and the same (`eq`). -/
def next (o : EntryOrder) (old new : Entry) : Ordering :=
  if o.same old new then .eq else o.order old new

def merge (o : EntryOrder) : List Entry → List Entry → List MergeStep
  | [], new => new.map .created
  | p :: old, [] => (p :: old).map .deleted
  | p :: old, c :: new =>
    match o.next p c with
    | .lt => .deleted p :: merge o old (c :: new)
    | .gt => .created c :: merge o (p :: old) new
    | .eq => .matched p c :: merge o old new
termination_by old new => old.length + new.length

/-- The new version in a step that creates the same entry as a deleted one with the other
type. -/
def createdAs? (o : EntryOrder) (old : Entry) : MergeStep → Option Entry
  | .created new =>
    if new.isDirectory != old.isDirectory && o.same old new then some new else none
  | _ => none

/-- The old version in a step that deletes the same entry as a created one with the other
type. -/
def deletedAs? (o : EntryOrder) (new : Entry) : MergeStep → Option Entry
  | .deleted old =>
    if old.isDirectory != new.isDirectory && o.same new old then some old else none
  | _ => none

/-- Brings together the two versions of each entry whose type changed, at the place of the
first. -/
def pairUp (o : EntryOrder) : List MergeStep → List Pairing
  | [] => []
  | .matched p c :: steps => .matched p c :: pairUp o steps
  | .deleted p :: steps =>
    match _h : extract? (o.createdAs? p) steps with
    | some (c, rest) => .replaced p c :: pairUp o rest
    | none => .deleted p :: pairUp o steps
  | .created c :: steps =>
    match _h : extract? (o.deletedAs? c) steps with
    | some (p, rest) => .replaced p c :: pairUp o rest
    | none => .created c :: pairUp o steps
termination_by steps => steps.length
decreasing_by
  · simp
  · rw [List.length_cons, length_of_extract? _h]
    omega
  · simp
  · rw [List.length_cons, length_of_extract? _h]
    omega
  · simp

/-- What became of the old entries of a directory, and which new ones are there. -/
def pairings (o : EntryOrder) (old new : List Entry) : List Pairing := o.pairUp (o.merge old new)

end EntryOrder

theorem mem_of_matched_mem_merge {o : EntryOrder} {old new : List Entry} {p c : Entry}
    (h : .matched p c ∈ o.merge old new) : p ∈ old := by
  fun_induction EntryOrder.merge o old new with
  | case1 => simp at h
  | case2 => simp at h
  | case3 q old d new _ ih => simp_all
  | case4 q old d new _ ih => simp_all
  | case5 q old d new _ ih =>
    simp only [List.mem_cons, MergeStep.matched.injEq] at h ⊢
    rcases h with ⟨rfl, _⟩ | h
    · exact .inl rfl
    · exact .inr (ih h)

theorem matched_mem_of_mem_pairUp {o : EntryOrder} {steps : List MergeStep} {p c : Entry}
    (h : .matched p c ∈ o.pairUp steps) : .matched p c ∈ steps := by
  fun_induction EntryOrder.pairUp o steps with
  | case1 => simp at h
  | case2 q d steps ih =>
    simp only [List.mem_cons, Pairing.matched.injEq, MergeStep.matched.injEq] at h ⊢
    exact h.imp_right ih
  | case3 q steps d rest hx ih =>
    obtain ⟨x, _, hp⟩ := perm_of_extract? hx
    have := hp.mem_iff (a := .matched p c)
    simp_all
  | case4 q steps hx ih => simp_all
  | case5 d steps q rest hx ih =>
    obtain ⟨x, _, hp⟩ := perm_of_extract? hx
    have := hp.mem_iff (a := .matched p c)
    simp_all
  | case6 d steps hx ih => simp_all

theorem mem_of_matched_mem_pairings {o : EntryOrder} {old new : List Entry} {p c : Entry}
    (h : .matched p c ∈ o.pairings old new) : p ∈ old :=
  mem_of_matched_mem_merge (matched_mem_of_mem_pairUp h)

namespace Event

/-- The creation of an entry and of all below it, parents first. -/
def creations (e : Entry) : List Event := e.preorder.map fun x => ⟨.created x, x⟩

/-- The deletion of an entry and of all below it, parents last. -/
def deletions (e : Entry) : List Event := e.postorder.map fun x => ⟨.deleted x, x⟩

def fileChanges (old new : Entry) : List Event :=
  if old.modified ≠ new.modified ∨ old.length ≠ new.length then [⟨.fileChange, new⟩] else []

def directoryChanges (old new : Entry) : List Event :=
  if old.modified ≠ new.modified then [⟨.directoryChange, new⟩] else []

end Event

namespace EntryOrder

def matchedEvents (o : EntryOrder) (old new : Entry) : List Event :=
  match old.isDirectory, new.isDirectory with
  | true, true =>
    ((o.pairings old.children new.children).attach.flatMap fun ⟨q, _h⟩ =>
      match q with
      | .deleted p => Event.deletions p
      | .created c => Event.creations c
      | .replaced p c => Event.deletions p ++ Event.creations c
      | .matched p c => matchedEvents o p c) ++ Event.directoryChanges old new
  | false, false => Event.fileChanges old new
  | _, _ => Event.deletions old ++ Event.creations new
termination_by old.size
decreasing_by exact Entry.size_lt_of_mem_children (mem_of_matched_mem_pairings _h)

def pairingEvents (o : EntryOrder) : Pairing → List Event
  | .deleted p => Event.deletions p
  | .created c => Event.creations c
  | .replaced p c => Event.deletions p ++ Event.creations c
  | .matched p c => o.matchedEvents p c

def childEvents (o : EntryOrder) (old new : List Entry) : List Event :=
  (o.pairings old new).flatMap o.pairingEvents

/-- The events that lead from one snapshot of a root to another. The modification time of a
root that stays a directory is not reported. -/
def diff (o : EntryOrder) (old new : Entry) : List Event :=
  match old.present, new.present with
  | false, false => []
  | false, true => Event.creations new
  | true, false => Event.deletions old
  | true, true =>
    match old.isDirectory, new.isDirectory with
    | true, true => o.childEvents old.children new.children
    | false, false => Event.fileChanges old new
    | _, _ => Event.deletions old ++ Event.creations new

/-- The events of two versions of a directory: those of its entries, then its own. -/
theorem matchedEvents_directory (o : EntryOrder) {old new : Entry}
    (hold : old.isDirectory = true) (hnew : new.isDirectory = true) :
    o.matchedEvents old new
      = o.childEvents old.children new.children ++ Event.directoryChanges old new := by
  have hfun : (o.pairings old.children new.children).attach.flatMap (fun x =>
      o.pairingEvents x.1) = o.childEvents old.children new.children := by
    rw [childEvents, List.flatMap_def, List.flatMap_def, List.attach_map_val]
  rw [← hfun, matchedEvents, hold, hnew]
  dsimp only
  congr 2
  funext ⟨q, h⟩
  cases q <;> rfl

end EntryOrder

end TreeWatch
