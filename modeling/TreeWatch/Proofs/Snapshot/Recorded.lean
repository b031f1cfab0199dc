import TreeWatch.Snapshot

/-!
# Snapshots in two surroundings

If what is done in two surroundings is related, and this goes over from one step to the next
(`Simulation`), two cameras that ask related questions take related snapshots
(`Camera.Simulates.capture`). So a snapshot is the same whether or not something is written down
on the way (`Chronicle`).
-/

namespace TreeWatch

/-- A relation of what is done in two surroundings that goes over from one step to the next. -/
structure Simulation (m n : Type → Type) [Monad m] [Monad n] where
  rel {α : Type} : m α → n α → Prop
  pure {α : Type} (a : α) : rel (Pure.pure a) (Pure.pure a)
  bind {α β : Type} {x : m α} {y : n α} {f : α → m β} {g : α → n β} :
    rel x y → (∀ a, rel (f a) (g a)) → rel (x >>= f) (y >>= g)

namespace Camera

variable {m n : Type → Type} [Monad m] [Monad n] {S : Simulation m n} {c : Camera m}
  {c' : Camera n} {into : Path → m (List Entry)} {into' : Path → n (List Entry)}

structure Simulates (S : Simulation m n) (c : Camera m) (c' : Camera n) : Prop where
  metadata : ∀ p, S.rel (c.files.metadata p) (c'.files.metadata p)
  linkMetadata : ∀ p, S.rel (c.files.linkMetadata p) (c'.files.linkMetadata p)
  list : ∀ p, S.rel (c.files.list p) (c'.files.list p)
  note : ∀ r, S.rel (c.note r) (c'.note r)
  accepts_eq : c'.accepts = c.accepts
  order_eq : c'.order = c.order
  depthLimit_eq : c'.files.depthLimit = c.files.depthLimit

theorem Simulates.look (h : c.Simulates S c') (hinto : ∀ p, S.rel (into p) (into' p))
    (path : Path) : S.rel (c.look into path) (c'.look into' path) := by
  rw [Camera.look, Camera.look, h.accepts_eq]
  refine S.bind (h.linkMetadata path) fun r => ?_
  cases r with
  | error problem => exact S.bind (h.note _) fun _ => S.pure none
  | ok a =>
      by_cases haccepts : c.accepts path a = true
      · by_cases hdir : a.isDirectory = true
        · simp only [haccepts, hdir, if_true]
          exact S.bind (hinto path) fun es => S.pure _
        · simp only [haccepts, hdir, if_true]
          exact S.pure _
      · simp only [haccepts]
        exact S.pure none

theorem Simulates.lookAll (h : c.Simulates S c') (hinto : ∀ p, S.rel (into p) (into' p))
    (paths : List Path) : S.rel (c.lookAll into paths) (c'.lookAll into' paths) := by
  induction paths with
  | nil => exact S.pure []
  | cons path paths ih =>
      refine S.bind (h.look hinto path) fun found => ?_
      cases found with
      | none => exact ih
      | some e => exact S.bind ih fun es => S.pure (e :: es)

theorem Simulates.gather (h : c.Simulates S c') (hinto : ∀ p, S.rel (into p) (into' p))
    (listing : List Path) : S.rel (c.gather into listing) (c'.gather into' listing) := by
  rw [Camera.gather, Camera.gather, h.order_eq]
  exact S.bind (h.lookAll hinto listing) fun es => S.pure _

theorem Simulates.below (h : c.Simulates S c') (depth : Nat) (dir : Path) :
    S.rel (c.below depth dir) (c'.below depth dir) := by
  induction depth generalizing dir with
  | zero => exact S.bind (h.note _) fun _ => S.pure []
  | succ depth ih =>
      refine S.bind (h.list dir) fun r => ?_
      cases r with
      | error problem => exact S.bind (h.note _) fun _ => S.pure []
      | ok listing => exact h.gather ih listing

theorem Simulates.capture (h : c.Simulates S c') (root : Path) :
    S.rel (c.capture root) (c'.capture root) := by
  rw [Camera.capture, Camera.capture, h.depthLimit_eq]
  refine S.bind (h.metadata root) fun r => ?_
  cases r with
  | error problem =>
      by_cases hkind : problem.kind = .notFound
      · simp only [hkind, if_true]
        exact S.bind (h.note _) fun _ => S.pure _
      · simp only [hkind, if_false]
        exact S.pure _
  | ok a =>
      by_cases hdir : a.isDirectory = true
      · simp only [hdir, if_true]
        refine S.bind (h.list root) fun r => ?_
        cases r with
        | error problem => exact S.pure _
        | ok listing => exact S.bind (h.gather (h.below _) listing) fun es => S.pure _
      · simp only [hdir]
        exact S.pure _

end Camera

structure Chronicle (ε σ : Type) where
  world : σ
  entries : List ε

namespace Chronicle

variable {ε σ α : Type}

def quietly (x : StateM σ α) : StateM (Chronicle ε σ) α := fun c =>
  let (a, world) := x.run c.world
  (a, ⟨world, c.entries⟩)

def noting (entry : α → ε) (x : StateM σ α) : StateM (Chronicle ε σ) α := fun c =>
  let (a, world) := x.run c.world
  (a, ⟨world, c.entries ++ [entry a]⟩)

@[simp] theorem run_quietly (x : StateM σ α) (c : Chronicle ε σ) :
    (quietly x).run c = ((x.run c.world).1, ⟨(x.run c.world).2, c.entries⟩) := rfl

def quiet : Simulation (StateM σ) (StateM (Chronicle ε σ)) where
  rel x y := y = quietly x
  pure _ := rfl
  bind := by
    rintro α β x _ f g rfl h
    obtain rfl : g = fun a => quietly (f a) := funext h
    rfl

def forgetting : Simulation (StateM σ) (StateM (Chronicle ε σ)) where
  rel x y := ∀ w log, ∃ log', y.run ⟨w, log⟩ = ((x.run w).1, ⟨(x.run w).2, log'⟩)
  pure _ _ log := ⟨log, rfl⟩
  bind := by
    intro α β x y f g hx hf w log
    obtain ⟨log₁, hlog₁⟩ := hx w log
    obtain ⟨log₂, hlog₂⟩ := hf (x.run w).1 (x.run w).2 log₁
    refine ⟨log₂, ?_⟩
    rw [StateT.run_bind, hlog₁]
    exact hlog₂

end Chronicle

def FileSystem.quietly {ε σ : Type} (files : FileSystem (StateM σ)) :
    FileSystem (StateM (Chronicle ε σ)) where
  metadata p := Chronicle.quietly (files.metadata p)
  linkMetadata p := Chronicle.quietly (files.linkMetadata p)
  list p := Chronicle.quietly (files.list p)
  contents := files.contents
  depthLimit := files.depthLimit

end TreeWatch
