import Mathlib
import TreeWatch.Proofs.Observer.Hearing
import TreeWatch.Store

/-!
# The life of an observer

An observer is called and the world around it changes, in any order (`Life.run`). One call is
told by `Life.Turn`: it is refused, or it fails and changes nothing, or it keeps the snapshot that
was taken; listeners are told by a check of an observer that had a snapshot before, and by nothing
else. What follows for whole lives is `Life.orderly_run`.
-/

namespace TreeWatch

inductive Call (σ : Type) where
  | takeBaseline
  | check
  | destroy
  | addListener (l : ListenerId)
  | removeListener (l : ListenerId)
  /-- Files come and go, and questions begin or cease to fail. -/
  | change (f : σ → σ)

/-- The surroundings of an observer, with all that is told written down. -/
def Host.recorded {σ : Type} (host : Host (StateM σ)) :
    Host (StateM (Chronicle (ListenerId × Signal) σ)) where
  files := host.files.quietly
  note r := Chronicle.quietly (host.note r)
  tell l s := Chronicle.noting (fun _ => (l, s)) (host.tell l s)
  volume v := (host.volume v).quietly

inductive ObserverState.Moves : ObserverState → ObserverState → Prop
  | stay (s : ObserverState) : Moves s s
  | start : Moves .uninitialized .ready
  | stop : Moves .ready .destroyed
  | drop : Moves .uninitialized .destroyed

theorem ObserverState.Moves.eq_destroyed {s : ObserverState} (h : Moves .destroyed s) :
    s = .destroyed := by
  cases h
  rfl

namespace Observer

variable {σ : Type} {o : Observer}

theorem capture_recorded (o : Observer) (host : Host (StateM σ)) :
    o.capture host.recorded = Chronicle.quietly (o.capture host) :=
  o.capture_chronicled host Hearing.call

theorem run_takeBaseline (hstate : o.state ≠ .destroyed) (host : Host (StateM σ)) (w : σ)
    (told : List (ListenerId × Signal)) : ∃ w',
      (∃ e, ((o.capture host).run w).1 = .error e ∧
        (o.takeBaseline host.recorded).run ⟨w, told⟩ = ((o, .error e), ⟨w', told⟩)) ∨
      ∃ s, ((o.capture host).run w).1 = .ok s ∧ (o.takeBaseline host.recorded).run ⟨w, told⟩
        = (({ o with snapshot := s, state := .ready }, .ok ()), ⟨w', told⟩) := by
  rw [takeBaseline, if_neg hstate, StateT.run_bind, capture_recorded, Chronicle.run_quietly]
  cases h : ((o.capture host).run w).1 with
  | error e => exact ⟨_, .inl ⟨e, rfl, rfl⟩⟩
  | ok s => exact ⟨_, .inr ⟨s, rfl, rfl⟩⟩

def blank (o : Observer) : Observer :=
  { o with state := .uninitialized, snapshot := .missing o.root }

theorem blank_takeBaseline (o : Observer) (host : Host (StateM σ)) (w : σ) :
    ((o.takeBaseline host).run w).1.1.blank = o.blank := by
  rw [takeBaseline]
  split
  · rfl
  · rw [StateT.run_bind]
    cases (o.capture host).run w with
    | mk r w₁ => cases r <;> rfl

theorem blank_check (o : Observer) (host : Host (StateM σ)) (w : σ) :
    ((o.check host).run w).1.1.blank = o.blank := by
  rw [check]
  split
  · rfl
  · exact o.blank_takeBaseline host w
  · rw [StateT.run_bind]
    cases (o.capture host).run w with
    | mk r w₁ => cases r <;> rfl

theorem run_destroy (o : Observer) (host : Host (StateM σ)) (w : σ) :
    ((o.destroy host).run w).1 = { o with state := .destroyed } := by
  rw [destroy]
  split <;> rfl

theorem kind_of_verdict {events : List Event} {problems : List String} {problem : Error}
    (h : o.verdict events problems = .error problem) : problem.kind = .listener := by
  cases problems with
  | nil => cases h
  | cons first others =>
      cases h
      rfl

theorem run_check (hstate : o.state = .ready) (host : Host (StateM σ)) (w : σ)
    (told : List (ListenerId × Signal)) :
    (∃ e w', ((o.capture host).run w).1 = .error e ∧
      (o.check host.recorded).run ⟨w, told⟩ = ((o, .error e), ⟨w', told⟩)) ∨
    ∃ s r c, ((o.capture host).run w).1 = .ok s ∧
      (o.check host.recorded).run ⟨w, told⟩ = (({ o with snapshot := s }, r), c) ∧
      ∀ problem, r = .error problem → problem.kind = .listener := by
  cases hcapture : (o.capture host).run w with
  | mk r w₁ =>
      cases r with
      | error e =>
          refine .inl ⟨e, ((host.note (.captureFailed o.root e.message)).run w₁).2, rfl, ?_⟩
          rw [check_of_ready hstate, StateT.run_bind, capture_recorded, Chronicle.run_quietly,
            hcapture]
          rfl
      | ok s =>
          obtain ⟨hs, w', -, -, -, hrun⟩ :=
            run_check_of_capture host Hearing.call hstate hcapture
          exact .inr ⟨s, _, _, rfl, hrun told, fun _ => kind_of_verdict⟩

end Observer

/-- An observer, the world around it, and all that was told. -/
structure Life (σ : Type) where
  observer : Observer
  world : σ
  told : List (ListenerId × Signal)

namespace Life

variable {σ : Type}

def turn (host : σ → Host (StateM σ)) (x : Life σ) : Call σ → Except Error (List Event) × Life σ
  | .takeBaseline =>
    let ((observer, result), c) :=
      (x.observer.takeBaseline (host x.world).recorded).run ⟨x.world, x.told⟩
    (result.map fun _ => [], ⟨observer, c.world, c.entries⟩)
  | .check =>
    let ((observer, result), c) := (x.observer.check (host x.world).recorded).run ⟨x.world, x.told⟩
    (result, ⟨observer, c.world, c.entries⟩)
  | .destroy =>
    let (observer, c) := (x.observer.destroy (host x.world).recorded).run ⟨x.world, x.told⟩
    (.ok [], ⟨observer, c.world, c.entries⟩)
  | .addListener l => (.ok [], { x with observer := x.observer.addListener l })
  | .removeListener l => (.ok [], { x with observer := x.observer.removeListener l })
  | .change f => (.ok [], { x with world := f x.world })

def run (host : σ → Host (StateM σ)) : Life σ → List (Call σ) → Life σ
  | x, [] => x
  | x, call :: calls => run host (x.turn host call).2 calls

/-- What comes of the snapshot that is tried in a call, if one is. -/
def attempt (host : σ → Host (StateM σ)) (x : Life σ) : Call σ → Option (Except Error Entry)
  | .takeBaseline | .check =>
    if x.observer.state = .destroyed then none
    else some ((x.observer.capture (host x.world)).run x.world).1
  | _ => none

def attempts (host : σ → Host (StateM σ)) : Life σ → List (Call σ) → List (Except Error Entry)
  | _, [] => []
  | x, call :: calls => (x.attempt host call).toList ++ attempts host (x.turn host call).2 calls

variable {host : σ → Host (StateM σ)} {x y : Life σ} {call : Call σ}
  {result : Except Error (List Event)}

inductive Turn (host : σ → Host (StateM σ)) (x : Life σ) :
    Call σ → Except Error (List Event) → Life σ → Prop
  | refused {call : Call σ} (hstate : x.observer.state = .destroyed)
      (hattempt : x.attempt host call = none) :
      Turn host x call (.error (.destroyed x.observer.root)) x
  | failed {call : Call σ} {y : Life σ} {e : Error}
      (hattempt : x.attempt host call = some (.error e)) (hobserver : y.observer = x.observer)
      (htold : y.told = x.told) : Turn host x call (.error e) y
  | started {call : Call σ} {y : Life σ} {s : Entry} (hstate : x.observer.state ≠ .destroyed)
      (hattempt : x.attempt host call = some (.ok s))
      (hobserver : y.observer = { x.observer with snapshot := s, state := .ready })
      (htold : y.told = x.told) : Turn host x call (.ok []) y
  | checked {y : Life σ} {s : Entry} {result : Except Error (List Event)}
      (hstate : x.observer.state = .ready) (hattempt : x.attempt host .check = some (.ok s))
      (hobserver : y.observer = { x.observer with snapshot := s })
      (hresult : ∀ problem, result = .error problem → problem.kind = .listener) :
      Turn host x .check result y
  | ended {y : Life σ} (hobserver : y.observer = { x.observer with state := .destroyed })
      (htold : y.told = x.told) : Turn host x .destroy (.ok []) y
  | aside {call : Call σ} {y : Life σ} (ls : List ListenerId)
      (hattempt : x.attempt host call = none)
      (hobserver : y.observer = { x.observer with listeners := ls }) (htold : y.told = x.told) :
      Turn host x call (.ok []) y

theorem attempt_of_ne_destroyed (host : σ → Host (StateM σ)) (h : x.observer.state ≠ .destroyed)
    (hcall : call = .takeBaseline ∨ call = .check) : x.attempt host call
      = some ((x.observer.capture (host x.world)).run x.world).1 := by
  rcases hcall with rfl | rfl <;> rw [attempt, if_neg h]

theorem turn_takeBaseline (host : σ → Host (StateM σ)) (x : Life σ) :
    x.Turn host .takeBaseline (x.turn host .takeBaseline).1 (x.turn host .takeBaseline).2 := by
  rw [turn]
  by_cases hstate : x.observer.state = .destroyed
  · rw [Observer.takeBaseline, if_pos hstate]
    exact .refused hstate (by rw [attempt, if_pos hstate])
  · have hattempt := attempt_of_ne_destroyed host hstate (.inl rfl)
    obtain ⟨w, ⟨e, he, hrun⟩ | ⟨s, hs, hrun⟩⟩ :=
      Observer.run_takeBaseline hstate (host x.world) x.world x.told
    · rw [hrun]
      exact .failed (hattempt.trans (congrArg some he)) rfl rfl
    · rw [hrun]
      exact .started hstate (hattempt.trans (congrArg some hs)) rfl rfl

theorem turn_check (host : σ → Host (StateM σ)) (x : Life σ) :
    x.Turn host .check (x.turn host .check).1 (x.turn host .check).2 := by
  rw [turn]
  cases hstate : x.observer.state with
  | destroyed =>
      rw [Observer.check, hstate]
      exact .refused hstate (by rw [attempt, if_pos hstate])
  | uninitialized =>
      have hne : x.observer.state ≠ .destroyed := by simp [hstate]
      have hattempt := attempt_of_ne_destroyed host hne (.inr rfl)
      rw [Observer.check, hstate]
      obtain ⟨w, ⟨e, he, hrun⟩ | ⟨s, hs, hrun⟩⟩ :=
        Observer.run_takeBaseline hne (host x.world) x.world x.told
      · simp only [StateT.run_bind, hrun]
        exact .failed (hattempt.trans (congrArg some he)) rfl rfl
      · simp only [StateT.run_bind, hrun]
        exact .started hne (hattempt.trans (congrArg some hs)) rfl rfl
  | ready =>
      have hne : x.observer.state ≠ .destroyed := by simp [hstate]
      have hattempt := attempt_of_ne_destroyed host hne (.inr rfl)
      obtain ⟨e, w, he, hrun⟩ | ⟨s, r, c, hs, hrun, hresult⟩ :=
        Observer.run_check hstate (host x.world) x.world x.told
      · rw [hrun]
        exact .failed (hattempt.trans (congrArg some he)) rfl rfl
      · rw [hrun]
        exact .checked hstate (hattempt.trans (congrArg some hs)) rfl hresult

theorem turn_destroy (host : σ → Host (StateM σ)) (x : Life σ) :
    (x.turn host .destroy).1 = .ok [] ∧ (x.turn host .destroy).2.told = x.told ∧
      (x.turn host .destroy).2.observer = { x.observer with state := .destroyed } := by
  rw [turn, Observer.destroy]
  by_cases hstate : x.observer.state ≠ .destroyed
  · rw [if_pos hstate]
    exact ⟨rfl, rfl, rfl⟩
  · rw [if_neg hstate]
    exact ⟨rfl, rfl, rfl⟩

theorem turn_turn (host : σ → Host (StateM σ)) (x : Life σ) (call : Call σ) :
    x.Turn host call (x.turn host call).1 (x.turn host call).2 := by
  cases call with
  | takeBaseline => exact x.turn_takeBaseline host
  | check => exact x.turn_check host
  | destroy =>
      obtain ⟨hresult, htold, hobserver⟩ := x.turn_destroy host
      exact hresult ▸ .ended hobserver htold
  | addListener l =>
      rw [turn, Observer.addListener]
      split
      · exact .aside x.observer.listeners rfl rfl rfl
      · exact .aside _ rfl rfl rfl
  | removeListener l => exact .aside _ rfl rfl rfl
  | change f => exact .aside x.observer.listeners rfl rfl rfl

theorem Turn.moves (h : x.Turn host call result y) :
    x.observer.state.Moves y.observer.state := by
  cases h with
  | refused => exact .stay _
  | failed _ hobserver => exact hobserver ▸ .stay _
  | started hstate _ hobserver =>
      rw [hobserver]
      cases hx : x.observer.state with
      | uninitialized => exact .start
      | ready => exact .stay _
      | destroyed => exact absurd hx hstate
  | checked _ _ hobserver => exact hobserver ▸ .stay _
  | ended hobserver =>
      rw [hobserver]
      cases x.observer.state with
      | uninitialized => exact .drop
      | ready => exact .stop
      | destroyed => exact .stay _
  | aside _ _ hobserver => exact hobserver ▸ .stay _

theorem Turn.unchanged (h : x.Turn host call result y) {e : Error} (hresult : result = .error e)
    (hkind : e.kind = .capture ∨ e.kind = .destroyed) :
    y.observer = x.observer ∧ y.told = x.told := by
  cases h with
  | refused => exact ⟨rfl, rfl⟩
  | failed _ hobserver htold => exact ⟨hobserver, htold⟩
  | started => cases hresult
  | checked _ _ _ hlistener => simp [hlistener e hresult] at hkind
  | ended => cases hresult
  | aside => cases hresult

theorem Turn.ready_of_told (h : x.Turn host call result y) (hy : y.told ≠ x.told) :
    call = .check ∧ x.observer.state = .ready ∧ ∃ s, x.attempt host call = some (.ok s) := by
  cases h with
  | refused => exact absurd rfl hy
  | failed _ _ htold => exact absurd htold hy
  | started _ _ _ htold => exact absurd htold hy
  | checked hstate hattempt => exact ⟨rfl, hstate, _, hattempt⟩
  | ended _ htold => exact absurd htold hy
  | aside _ _ _ htold => exact absurd htold hy

theorem Turn.snapshot_eq (h : x.Turn host call result y) : y.observer.snapshot
    = ((x.attempt host call).bind Except.toOption).getD x.observer.snapshot := by
  cases h with
  | refused _ hattempt => simp [hattempt]
  | failed hattempt hobserver => simp [hattempt, hobserver, Except.toOption]
  | started _ hattempt hobserver => simp [hattempt, hobserver, Except.toOption]
  | checked _ hattempt hobserver => simp [hattempt, hobserver, Except.toOption]
  | ended hobserver => simp [attempt, hobserver]
  | aside _ hattempt hobserver => simp [hattempt, hobserver]

theorem Turn.not_ready (h : x.Turn host call result y) (hx : x.observer.state ≠ .ready)
    (hattempt : ∀ s, x.attempt host call ≠ some (.ok s)) : y.observer.state ≠ .ready := by
  cases h with
  | refused => exact hx
  | failed _ hobserver => rwa [hobserver]
  | started _ hsome => exact absurd hsome (hattempt _)
  | checked hstate => exact absurd hstate hx
  | ended hobserver => simp [hobserver]
  | aside _ _ hobserver => rwa [hobserver]

/-- A call changes nothing of an observer but its listeners, its state and its snapshot. -/
theorem blank_turn (host : σ → Host (StateM σ)) (x : Life σ) (call : Call σ) :
    (x.turn host call).2.observer.blank = Observer.blank (match call with
      | .addListener l => x.observer.addListener l
      | .removeListener l => x.observer.removeListener l
      | _ => x.observer) := by
  cases call with
  | takeBaseline => exact x.observer.blank_takeBaseline _ _
  | check => exact x.observer.blank_check _ _
  | destroy =>
      rw [(x.turn_destroy host).2.2]
      rfl
  | addListener l => rfl
  | removeListener l => rfl
  | change f => rfl

def latest (attempts : List (Except Error Entry)) : Option Entry :=
  (attempts.filterMap Except.toOption).getLast?

theorem snapshot_run (host : σ → Host (StateM σ)) (x : Life σ) (calls : List (Call σ)) :
    (x.run host calls).observer.snapshot
      = (latest (x.attempts host calls)).getD x.observer.snapshot := by
  induction calls generalizing x with
  | nil => rfl
  | cons call calls ih =>
      rw [run, ih, (x.turn_turn host call).snapshot_eq, attempts, latest, latest,
        List.filterMap_append, List.getLast?_append]
      cases x.attempt host call with
      | none => simp
      | some r => cases r <;> simp [Except.toOption]

theorem run_of_destroyed (hx : x.observer.state = .destroyed) (calls : List (Call σ)) :
    (x.run host calls).observer.state = .destroyed ∧
      (x.run host calls).observer.snapshot = x.observer.snapshot := by
  induction calls generalizing x with
  | nil => exact ⟨hx, rfl⟩
  | cons call calls ih =>
      have hturn := x.turn_turn host call
      have hattempt : x.attempt host call = none := by cases call <;> simp [attempt, hx]
      have hstate : (x.turn host call).2.observer.state = .destroyed := by
        have hmoves := hturn.moves
        rw [hx] at hmoves
        exact hmoves.eq_destroyed
      have hsnapshot := hturn.snapshot_eq
      rw [hattempt] at hsnapshot
      exact ⟨(ih hstate).1, (ih hstate).2.trans hsnapshot⟩

/-- As long as no snapshot can be taken, an observer does not become ready, and only one that is
ready tells anything. -/
theorem run_of_no_snapshot (hx : x.observer.state ≠ .ready) (calls : List (Call σ))
    (hattempts : ∀ r ∈ x.attempts host calls, ∀ s, r ≠ .ok s) :
    (x.run host calls).observer.state ≠ .ready ∧ (x.run host calls).told = x.told := by
  induction calls generalizing x with
  | nil => exact ⟨hx, rfl⟩
  | cons call calls ih =>
      have hturn := x.turn_turn host call
      have hattempt (s : Entry) : x.attempt host call ≠ some (.ok s) := by
        intro h
        exact hattempts (.ok s) (by simp [attempts, h]) s rfl
      have htold : (x.turn host call).2.told = x.told :=
        Classical.byContradiction fun h => hx (hturn.ready_of_told h).2.1
      obtain ⟨hstate, hrun⟩ := ih (hturn.not_ready hx hattempt)
        fun r hr => hattempts r (by simp [attempts, hr])
      exact ⟨hstate, hrun.trans htold⟩

/-- What can come next in the life of an observer. -/
structure Orderly (host : σ → Host (StateM σ)) (x : Life σ) : Prop where
  moves : ∀ call, x.observer.state.Moves (x.turn host call).2.observer.state
  unchanged : ∀ call e, (x.turn host call).1 = .error e →
    e.kind = .capture ∨ e.kind = .destroyed →
      (x.turn host call).2.observer = x.observer ∧ (x.turn host call).2.told = x.told
  ready_of_told : ∀ call, (x.turn host call).2.told ≠ x.told →
    call = .check ∧ x.observer.state = .ready ∧ ∃ s, x.attempt host call = some (.ok s)
  destroy_eq : (x.turn host .destroy).2.observer = { x.observer with state := .destroyed }
  run_of_destroyed : x.observer.state = .destroyed → ∀ calls,
    (x.run host calls).observer.state = .destroyed ∧
      (x.run host calls).observer.snapshot = x.observer.snapshot

/-- Whatever was called on an observer, and whatever has happened around it, it has the last
snapshot that could be taken; what can come next is orderly; and no call tells anything if no
snapshot could be taken before it. -/
theorem orderly_run {root : Path} {filter : Option Filter} {sensitivity : CaseSensitivity}
    {comparator : Option Comparator} {o : Observer}
    (h : Observer.make root filter sensitivity comparator = .ok o)
    (host : σ → Host (StateM σ)) (w : σ) (calls : List (Call σ)) :
    (run host ⟨o, w, []⟩ calls).observer.snapshot
        = (latest (attempts host ⟨o, w, []⟩ calls)).getD (.missing root) ∧
      Orderly host (run host ⟨o, w, []⟩ calls) ∧
      ((∀ r ∈ attempts host ⟨o, w, []⟩ calls, ∀ s, r ≠ .ok s) →
        ∀ call, ((run host ⟨o, w, []⟩ calls).turn host call).2.told = []) := by
  obtain rfl : o = ⟨root, filter, sensitivity, comparator.getD (.name sensitivity), [],
      .uninitialized, .missing root, 0⟩ := by
    rw [Observer.make] at h
    split at h
    · cases h
    · exact (Except.ok.inj h).symm
  have horderly (x : Life σ) : Orderly host x :=
    { moves := fun call => (x.turn_turn host call).moves
      unchanged := fun call e => (x.turn_turn host call).unchanged
      ready_of_told := fun call => (x.turn_turn host call).ready_of_told
      destroy_eq := (x.turn_destroy host).2.2
      run_of_destroyed := run_of_destroyed }
  refine ⟨snapshot_run host _ calls, horderly _, fun hattempts call => ?_⟩
  obtain ⟨hstate, htold⟩ := run_of_no_snapshot (by simp) calls hattempts
  refine Classical.byContradiction fun hne => hstate ?_
  exact ((turn_turn host _ call).ready_of_told (by rwa [htold])).2.1

def hearing (s : Store) : Host (StateM Store) :=
  { files := s.fileSystem, note := fun _ => pure (), tell := fun _ _ => return .ok () }

def founded : Life Store where
  observer := ⟨⟨"/r"⟩, none, .sensitive, .name .sensitive, [], .uninitialized, .missing ⟨"/r"⟩, 0⟩
  world := ({} : Store).addDirectory ⟨"/r"⟩ .epoch
  told := []

def troubled : List (Call Store) :=
  [.addListener 0, .change (·.failListing ⟨"/r"⟩), .check, .change (·.heal ⟨"/r"⟩)]

theorem orderly_run_troubled :
    Observer.make ⟨"/r"⟩ none .sensitive none = .ok founded.observer ∧
    (attempts hearing founded troubled).map Except.isOk = [false] ∧
    ((run hearing founded troubled).attempt hearing .check).map Except.isOk = some true ∧
    (run hearing founded troubled).observer.snapshot
      = (latest (attempts hearing founded troubled)).getD (.missing ⟨"/r"⟩) ∧
    Orderly hearing (run hearing founded troubled) ∧
    ((run hearing founded troubled).turn hearing .check).2.told = [] := by
  have hmake : Observer.make ⟨"/r"⟩ none .sensitive none = .ok founded.observer := by cbv
  have hattempts : (attempts hearing founded troubled).map Except.isOk = [false] := by
    decide +kernel
  obtain ⟨hsnapshot, horderly, htold⟩ := orderly_run hmake hearing founded.world troubled
  refine ⟨hmake, hattempts, by decide +kernel, hsnapshot, horderly, htold ?_ .check⟩
  rintro _ hr s rfl
  have hmem : (Except.ok s : Except Error Entry).isOk ∈ [false] :=
    hattempts ▸ List.mem_map_of_mem hr
  simp [Except.isOk, Except.toBool] at hmem

end Life

end TreeWatch
