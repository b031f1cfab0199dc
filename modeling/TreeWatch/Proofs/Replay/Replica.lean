import Mathlib.Logic.Function.Basic
import TreeWatch.Proofs.Diff.Events

/-!
# Applying events one after another

A client knows of places what is at them (`Replica`). It can apply an event only where that makes
sense (`Allows`): what is created is new and has a directory around it, what is deleted is there
and has nothing left below it, what is changed is there. `Replays` says that a row of events can
be applied, and what comes of it. Clients that differ only in when the root directory was
modified can apply the same events, and then still do not differ in more (`replays_of_agree`).
-/

namespace TreeWatch

def Alteration.ofDirectory : Alteration → Bool
  | directoryCreate => true
  | directoryChange => true
  | directoryDelete => true
  | _ => false

@[simp] theorem Alteration.ofDirectory_created (e : Entry) :
    (created e).ofDirectory = e.isDirectory := by
  rw [created]
  split <;> simp_all [ofDirectory]

@[simp] theorem Alteration.ofDirectory_deleted (e : Entry) :
    (deleted e).ofDirectory = e.isDirectory := by
  rw [deleted]
  split <;> simp_all [ofDirectory]

/-- What a client knows: what is at a place, if anything is. -/
abbrev Replica := List Component → Option Fact

namespace Replica

def ofEntries (es : List Entry) : Replica := fun k =>
  (es.find? fun x => x.path.components = k).map Entry.fact

theorem ofEntries_eq_none_iff {es : List Entry} {k : List Component} :
    ofEntries es k = none ↔ ∀ x ∈ es, x.path.components ≠ k := by
  simp [ofEntries]

theorem ofEntries_of_mem {es : List Entry} (h : (es.map fun x => x.path.components).Nodup)
    {x : Entry} (hx : x ∈ es) : ofEntries es x.path.components = some x.fact := by
  cases hfind : es.find? fun y => y.path.components = x.path.components with
  | none => simpa using List.find?_eq_none.1 hfind x hx
  | some y =>
      have hy : y.path.components = x.path.components := by simpa using List.find?_some hfind
      rw [ofEntries, hfind, List.inj_on_of_nodup_map h (List.mem_of_find?_eq_some hfind) hx hy]
      rfl

theorem ofEntries_congr {es fs : List Entry} (hes : (es.map fun x => x.path.components).Nodup)
    (hfs : (fs.map fun x => x.path.components).Nodup) {k : List Component}
    (h : ∀ x, x.path.components = k → (x ∈ es ↔ x ∈ fs)) : ofEntries es k = ofEntries fs k := by
  by_cases hk : ∃ x ∈ es, x.path.components = k
  · obtain ⟨x, hx, rfl⟩ := hk
    rw [ofEntries_of_mem hes hx, ofEntries_of_mem hfs ((h x rfl).1 hx)]
  · have hnone : ofEntries es k = none := ofEntries_eq_none_iff.2 fun x hx hxk => hk ⟨x, hx, hxk⟩
    rw [hnone, eq_comm, ofEntries_eq_none_iff]
    exact fun x hx hxk => hk ⟨x, (h x hxk).2 hx, hxk⟩

def Holds (m : Replica) (k : List Component) (isDirectory : Bool) : Prop :=
  ∃ f, m k = some f ∧ f.isDirectory = isDirectory

/-- There is room for a new entry: it is the root, or a directory is around it. -/
def HasRoom (m : Replica) (root k : List Component) : Prop :=
  k = root ∨ ∃ dir c, k = dir ++ [c] ∧ m.Holds dir true

inductive Allows (root : List Component) (m : Replica) (v : Event) : Prop where
  | creation (hkind : v.kind.isCreation = true) (habsent : m v.entry.path.components = none)
      (hroom : m.HasRoom root v.entry.path.components)
  | deletion (hkind : v.kind.isDeletion = true)
      (hpresent : m.Holds v.entry.path.components v.kind.ofDirectory)
      (hempty : ∀ k, v.entry.path.components <+: k → k ≠ v.entry.path.components → m k = none)
  | change (hcreation : v.kind.isCreation = false) (hdeletion : v.kind.isDeletion = false)
      (hpresent : m.Holds v.entry.path.components v.kind.ofDirectory)

/-- What is known after an event: nothing of what was deleted, and of anything else what the
event carries. -/
def apply (m : Replica) (v : Event) : Replica :=
  Function.update m v.entry.path.components <|
    if v.kind.isDeletion then none
    else some ⟨v.kind.ofDirectory, v.entry.modified, v.entry.length⟩

theorem apply_of_ne (m : Replica) (v : Event) {k : List Component}
    (h : k ≠ v.entry.path.components) : m.apply v k = m k :=
  Function.update_of_ne h _ _

inductive Replays (root : List Component) : Replica → List Event → Replica → Prop where
  | nil (m : Replica) : Replays root m [] m
  | cons {m m' : Replica} {v : Event} {vs : List Event} (h : m.Allows root v)
      (hs : Replays root (m.apply v) vs m') : Replays root m (v :: vs) m'

variable {root : List Component} {m m' m'' m₁ m₁' : Replica} {v : Event} {vs ws : List Event}

theorem Replays.append (h : Replays root m vs m') (h' : Replays root m' ws m'') :
    Replays root m (vs ++ ws) m'' := by
  induction h with
  | nil m => exact h'
  | cons hv _ ih => exact .cons hv (ih h')

theorem Replays.single (h : m.Allows root v) : Replays root m [v] (m.apply v) :=
  .cons h (.nil _)

/-! ## All but when the root was modified -/

/-- Two clients know the same, except for when the root was modified if it is a directory. -/
def Agree (root : List Component) (m m' : Replica) : Prop :=
  ∀ k, m k = m' k ∨ k = root ∧ ∃ t t', m k = some ⟨true, t, 0⟩ ∧ m' k = some ⟨true, t', 0⟩

namespace Agree

theorem refl (root : List Component) (m : Replica) : Agree root m m := fun _ => .inl rfl

theorem trans (h : Agree root m m') (h' : Agree root m' m'') : Agree root m m'' := by
  intro k
  rcases h k with hk | ⟨hk, t, t', ht, ht'⟩
  · rw [hk]
    exact h' k
  · rcases h' k with hk' | ⟨_, u, u', _, hu'⟩
    · exact .inr ⟨hk, t, t', ht, hk' ▸ ht'⟩
    · exact .inr ⟨hk, t, u', ht, hu'⟩

theorem eq_none_iff (h : Agree root m m') (k : List Component) : m k = none ↔ m' k = none := by
  rcases h k with hk | ⟨_, t, t', ht, ht'⟩
  · rw [hk]
  · simp [ht, ht']

theorem holds (h : Agree root m m') {k : List Component} {d : Bool} (hk : m'.Holds k d) :
    m.Holds k d := by
  obtain ⟨f, hf, hd⟩ := hk
  rcases h k with heq | ⟨_, t, t', ht, ht'⟩
  · exact ⟨f, heq.trans hf, hd⟩
  · rw [ht'] at hf
    obtain rfl := Option.some.inj hf
    exact ⟨_, ht, hd⟩

theorem allows (h : Agree root m m') (hv : m'.Allows root v) : m.Allows root v := by
  cases hv with
  | creation hkind habsent hroom =>
      refine .creation hkind ((h.eq_none_iff _).2 habsent) ?_
      rcases hroom with hroot | ⟨dir, c, hc, hdir⟩
      · exact .inl hroot
      · exact .inr ⟨dir, c, hc, h.holds hdir⟩
  | deletion hkind hpresent hempty =>
      exact .deletion hkind (h.holds hpresent) fun k hk hne =>
        (h.eq_none_iff k).2 (hempty k hk hne)
  | change hcreation hdeletion hpresent => exact .change hcreation hdeletion (h.holds hpresent)

theorem apply (h : Agree root m m') (v : Event) : Agree root (m.apply v) (m'.apply v) := by
  intro k
  by_cases hk : k = v.entry.path.components
  · exact .inl (by simp [Replica.apply, hk])
  · rw [apply_of_ne m v hk, apply_of_ne m' v hk]
    exact h k

theorem exists_replays (h : Agree root m₁ m) (hs : Replays root m vs m') :
    ∃ m₁', Replays root m₁ vs m₁' ∧ Agree root m₁' m' := by
  induction hs generalizing m₁ with
  | nil m => exact ⟨m₁, .nil m₁, h⟩
  | cons hv _ ih =>
      obtain ⟨m₂, hs, hagree⟩ := ih (h.apply _)
      exact ⟨m₂, .cons (h.allows hv) hs, hagree⟩

end Agree

end Replica

end TreeWatch
