import TreeWatch.Observer
import TreeWatch.Proofs.Snapshot.Stored

/-!
# What a client hears

Among the listeners of an observer is a client that keeps the events it is told. The other
listeners and the journal keep what they like, and the listeners may refuse what they are told
(`Audience`). Whatever they do, of a check that can take a snapshot the client hears just the
events that lead there, and of any other check nothing (`check_spec`).
-/

set_option mvcgen.warning false

namespace TreeWatch

open Std.Do

def Signal.events : Signal → List Event
  | start _ _ => []
  | event e => [e]
  | stop _ _ => []

def Observer.see (o : Observer) (s : Store) : Except Error Entry :=
  s.capture (o.accepts fun _ => none) o.comparator.toEntryOrder o.root

/-- The events that a client has heard, and what all others keep. -/
structure Memory (τ : Type) where
  heard : List Event
  others : τ

structure Audience (τ : Type) where
  client : ListenerId
  tell : ListenerId → Signal → StateM τ (Except String Unit)
  note : Journal (StateM τ)

namespace Audience

variable {τ : Type}

def elsewhere {α : Type} (x : StateM τ α) : StateM (Memory τ) α := fun w =>
  let (a, others) := x.run w.others
  (a, { w with others })

/-- Tells a listener something; the client refuses nothing. -/
def address (a : Audience τ) (l : ListenerId) (signal : Signal) :
    StateM (Memory τ) (Except String Unit) :=
  if l = a.client then do
    modify fun w => { w with heard := w.heard ++ signal.events }
    return .ok ()
  else elsewhere (a.tell l signal)

def host (a : Audience τ) (s : Store) : Host (StateM (Memory τ)) where
  files := s.fileSystem
  note r := elsewhere (a.note r)
  tell := a.address

variable (a : Audience τ) (s : Store) {p : List Event}

theorem elsewhere_spec {α : Type} (x : StateM τ α) :
    ⦃fun w => ⌜w.heard = p⌝⦄ elsewhere x ⦃⇓ _ w => ⌜w.heard = p⌝⦄ :=
  fun _ hw => hw

theorem address_spec (l : ListenerId) (signal : Signal) :
    ⦃fun w => ⌜w.heard = p⌝⦄ a.address l signal
    ⦃⇓ _ w => ⌜w.heard = p ++ if l = a.client then signal.events else []⌝⦄ := by
  by_cases hl : l = a.client
  · rw [address, if_pos hl, if_pos hl]
    rintro w rfl
    exact rfl
  · rw [address, if_neg hl, if_neg hl, List.append_nil]
    exact elsewhere_spec _

theorem note_spec (r : Remark) :
    ⦃fun w => ⌜w.heard = p⌝⦄ (a.host s).note r ⦃⇓ _ w => ⌜w.heard = p⌝⦄ :=
  elsewhere_spec _

theorem tellAll_spec (root : Path) (signal : Signal) (ls : List ListenerId) (t : Tally) :
    ⦃fun w => ⌜w.heard = p⌝⦄ Observer.tellAll (a.host s) root signal ls t
    ⦃⇓ _ w => ⌜w.heard
      = p ++ (List.replicate (ls.count a.client) signal.events).flatten⌝⦄ := by
  induction ls generalizing p t with
  | nil =>
      mvcgen [Observer.tellAll]
      simp_all
  | cons l ls ih =>
      have htell {p : List Event} : ⦃fun w => ⌜w.heard = p⌝⦄ (a.host s).tell l signal
          ⦃⇓ _ w => ⌜w.heard = p ++ if l = a.client then signal.events else []⌝⦄ :=
        a.address_spec l signal
      have hnote (r : Remark) {p : List Event} := a.note_spec s r (p := p)
      have hcons : (List.replicate ((l :: ls).count a.client) signal.events).flatten
          = (if l = a.client then signal.events else [])
            ++ (List.replicate (ls.count a.client) signal.events).flatten := by
        by_cases hl : l = a.client <;> simp [hl, List.replicate_succ]
      mvcgen [Observer.tellAll, htell, hnote, ih] <;> simp_all

variable {a} {o : Observer}

theorem tellEach_spec (hclient : o.listeners.count a.client = 1) (ss : List Signal) (t : Tally) :
    ⦃fun w => ⌜w.heard = p⌝⦄ o.tellEach (a.host s) ss t
    ⦃⇓ _ w => ⌜w.heard = p ++ ss.flatMap Signal.events⌝⦄ := by
  induction ss generalizing p t with
  | nil =>
      mvcgen [Observer.tellEach]
      simp_all
  | cons signal ss ih =>
      have htell {p : List Event} := a.tellAll_spec s o.root signal o.listeners t (p := p)
      mvcgen [Observer.tellEach, htell, ih]
      simp_all

theorem notify_spec (hclient : o.listeners.count a.client = 1) (vs : List Event) :
    ⦃fun w => ⌜w.heard = p⌝⦄ o.notify (a.host s) vs ⦃⇓ _ w => ⌜w.heard = p ++ vs⌝⦄ := by
  have htell (ss : List Signal) (t : Tally) {p : List Event} :=
    tellEach_spec s hclient ss t (p := p)
  have hsignals : (Signal.start o.root o.snapshot :: vs.map .event
      ++ [Signal.stop o.root o.snapshot]).flatMap Signal.events = vs := by
    simp [Signal.events, List.flatMap_map]
  mvcgen [Observer.notify, htell] with grind

theorem capture_spec :
    ⦃fun w => ⌜w.heard = p⌝⦄ o.capture (a.host s) ⦃⇓ r w => ⌜w.heard = p ∧ r = o.see s⌝⦄ :=
  Store.capture_spec s _ _ (a.note_spec s) o.root

theorem takeBaseline_spec :
    ⦃fun w => ⌜w.heard = p⌝⦄ o.takeBaseline (a.host s)
    ⦃⇓ r w => ⌜w.heard = p ∧ (r.2 = .ok () → ∃ e, o.see s = .ok e ∧
      r.1 = { o with snapshot := e, state := .ready })⌝⦄ := by
  have hnote (r : Remark) {p : List Event} := a.note_spec s r (p := p)
  have hcapture {p : List Event} := capture_spec (a := a) (o := o) s (p := p)
  mvcgen [Observer.takeBaseline, hnote, hcapture] with grind

/-- A check that cannot take a snapshot leaves an observer as it is, and the client hears
nothing; any other one keeps the snapshot, and the client hears what leads there. -/
theorem check_spec (hready : o.state = .ready) (hclient : o.listeners.count a.client = 1) :
    ⦃fun w => ⌜w.heard = p⌝⦄ o.check (a.host s)
    ⦃⇓ r w => ⌜(∃ problem, o.see s = .error problem ∧ r.1 = o ∧ w.heard = p) ∨
      ∃ e, o.see s = .ok e ∧ r.1 = { o with snapshot := e } ∧
        w.heard = p ++ o.comparator.toEntryOrder.diff o.snapshot e⌝⦄ := by
  have hnote (r : Remark) {p : List Event} := a.note_spec s r (p := p)
  have hcapture {p : List Event} := capture_spec (a := a) (o := o) s (p := p)
  have hnotify (e : Entry) (vs : List Event) {p : List Event} :=
    notify_spec s (o := { o with snapshot := e }) hclient vs (p := p)
  mvcgen [Observer.check, hnote, hcapture, hnotify]
  case vc1 => simp_all
  case vc2 => simp_all
  case vc3 h₀ _ problem _ _ h₁ _ _ h₂ =>
    exact .inl ⟨problem, h₁.2.symm, trivial, by rw [h₂, h₁.1, h₀]⟩
  case vc4 h₀ _ e _ _ _ _ h₁ _ _ h₂ _ _ h₃ =>
    exact .inr ⟨e, h₁.2.symm, rfl, by rw [h₃, h₂, h₁.1, h₀]⟩

end Audience

end TreeWatch
