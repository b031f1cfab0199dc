import TreeWatch.Proofs.Snapshot.Capture
import TreeWatch.Proofs.Snapshot.Recorded

/-!
# Snapshots of stored trees

A stored tree does not change while a snapshot is taken, and whatever is done with the remarks
has no influence on the snapshot: it is that of the tree (`Store.capture_spec`).
-/

set_option mvcgen.warning false

namespace TreeWatch

open Std.Do

variable {m : Type → Type} {ps : PostShape} [Monad m] [WPMonad m ps]

/-- What is done comes to a fixed result, and keeps what holds of the surroundings. -/
def Simulation.keeping (I : Assertion ps) : Simulation Id m where
  rel x y := ⦃I⦄ y ⦃⇓ r => spred(I ∧ ⌜r = x.run⌝)⦄
  pure _ := Triple.pure _ (Camera.entails_and_pure rfl)
  bind := by
    intro α β x y f g hx hf
    refine Triple.bind _ _ hx fun a => SPred.pure_elim_r fun ha => ?_
    rw [Id.run_bind, ← ha]
    exact hf a

namespace Store

def camera (s : Store) (accepts : Path → Attributes → Bool) (o : EntryOrder) : Camera Id :=
  ⟨s.fileSystem, fun _ => pure (), accepts, o⟩

variable {I : Assertion ps} {note : Journal m} (s : Store) (accepts : Path → Attributes → Bool)
  (o : EntryOrder)

/-- Whatever becomes of the remarks, the snapshot is that of the stored tree. -/
theorem capture_spec (hnote : ∀ r, ⦃I⦄ note r ⦃⇓ _ => I⦄) (root : Path) :
    ⦃I⦄ (⟨s.fileSystem, note, accepts, o⟩ : Camera m).capture root
    ⦃⇓ r => spred(I ∧ ⌜r = s.capture accepts o root⌝)⦄ := by
  have hquiet (r : Remark) : ⦃I⦄ note r ⦃⇓ _ => spred(I ∧ ⌜() = ()⌝)⦄ := by
    mvcgen [hnote]
    exact Camera.entails_and_pure trivial
  have h : (s.camera accepts o).Simulates (.keeping I) ⟨s.fileSystem, note, accepts, o⟩ :=
    { metadata := fun p => (Simulation.keeping I).pure (s.metadata p)
      linkMetadata := fun p => (Simulation.keeping I).pure (s.linkMetadata p)
      list := fun p => (Simulation.keeping I).pure (s.list p)
      note := hquiet
      accepts_eq := rfl
      order_eq := rfl
      depthLimit_eq := rfl }
  exact h.capture root

end Store

end TreeWatch
