import TreeWatch.Proofs.Observer.Audience
import TreeWatch.Proofs.Replay.Difference
import TreeWatch.Simulation.Session

/-!
# Keeping up with an observer

A file tree changes and is checked in any order (`Watch.run`). A client that starts from the
first snapshot of an observer can apply the events that it hears one after another, and knows
after each step what the observer knows, except for when the root directory was modified
(`Watch.exists_replays_heard`). For one step this is `Watch.Follows.step`.
-/

namespace TreeWatch

open Std.Do

namespace Observer

theorem nodup_listeners_addListener {o : Observer} (l : ListenerId) (h : o.listeners.Nodup) :
    (o.addListener l).listeners.Nodup := by
  rw [addListener]
  split
  · exact h
  · rename_i hl
    exact h.append (List.nodup_singleton l) (by simpa using hl)

theorem mem_listeners_addListener {o : Observer} {l k : ListenerId} :
    k ∈ (o.addListener l).listeners ↔ k ∈ o.listeners ∨ k = l := by
  rw [addListener]
  split <;> simp_all

theorem exists_listeners_addListener (o : Observer) (l : ListenerId) :
    ∃ ls, o.addListener l = { o with listeners := ls } := by
  rw [addListener]
  split
  · exact ⟨o.listeners, rfl⟩
  · exact ⟨_, rfl⟩

theorem of_make_eq_ok {root : Path} {filter : Option Filter} {sensitivity : CaseSensitivity}
    {comparator : Option Comparator} {o : Observer}
    (h : make root filter sensitivity comparator = .ok o) :
    o.root = root ∧ o.comparator = comparator.getD (.name sensitivity) ∧ o.listeners = [] := by
  rw [make] at h
  split at h
  · cases h
  · obtain rfl := Except.ok.inj h
    exact ⟨rfl, rfl, rfl⟩

theorem foldl_addListener {o : Observer} (h : o.listeners.Nodup) (ls : List ListenerId) :
    ∃ ls', ls.foldl addListener o = { o with listeners := ls' } ∧ ls'.Nodup ∧
      ∀ l, l ∈ ls' ↔ l ∈ o.listeners ∨ l ∈ ls := by
  induction ls generalizing o with
  | nil => exact ⟨o.listeners, rfl, h, by simp⟩
  | cons l ls ih =>
      obtain ⟨ls', heq, hnodup, hmem⟩ := ih (nodup_listeners_addListener l h)
      obtain ⟨_, hadd⟩ := o.exists_listeners_addListener l
      refine ⟨ls', ?_, hnodup, fun k => ?_⟩
      · rw [List.foldl_cons, heq, hadd]
      · rw [hmem, mem_listeners_addListener, List.mem_cons, or_assoc]

end Observer

/-- A stored tree, an observer of it, and those who are told. -/
structure Watch (τ : Type) where
  store : Store
  observer : Observer
  memory : Memory τ

namespace Watch

inductive Step where
  | change (c : StoreChange)
  | check

variable {τ : Type} (a : Audience τ)

def step (w : Watch τ) : Step → Watch τ
  | .change c => { w with store := w.store.apply c }
  | .check =>
    let ((observer, _), memory) := (w.observer.check (a.host w.store)).run w.memory
    { w with observer, memory }

def run (w : Watch τ) (steps : List Step) : Watch τ := steps.foldl (step a) w

/-- A client that has started from a replica has kept up with an observer that goes by an order
and tells the client everything once. -/
structure Follows (root : Path) (c : Comparator) (start : Replica) (w : Watch τ) : Prop where
  named : w.store.Named
  ready : w.observer.state = .ready
  root_eq : w.observer.root = root
  comparator_eq : w.observer.comparator = c
  client : w.observer.listeners.count a.client = 1
  isSnapshot : w.observer.snapshot.IsSnapshot c.toEntryOrder root
  replays : ∃ m, Replica.Replays root.components start w.memory.heard m ∧
    Replica.Agree root.components m (.ofEntries w.observer.snapshot.found)

variable {a} {root : Path} {c : Comparator} {start : Replica} {w : Watch τ}

theorem step_check_cases (hready : w.observer.state = .ready)
    (hclient : w.observer.listeners.count a.client = 1) :
    (∃ problem, w.observer.see w.store = .error problem ∧
        (w.step a .check).observer = w.observer ∧
        (w.step a .check).memory.heard = w.memory.heard) ∨
      ∃ e, w.observer.see w.store = .ok e ∧
        (w.step a .check).observer = { w.observer with snapshot := e } ∧
        (w.step a .check).memory.heard = w.memory.heard
          ++ w.observer.comparator.toEntryOrder.diff w.observer.snapshot e :=
  Audience.check_spec w.store hready hclient w.memory rfl

theorem Follows.of_observer_eq (h : Follows a root c start w) {w' : Watch τ} {e : Entry}
    (hstore : w'.store = w.store) (hobserver : w'.observer = { w.observer with snapshot := e })
    (he : e.IsSnapshot c.toEntryOrder root)
    (hreplays : ∃ m, Replica.Replays root.components start w'.memory.heard m ∧
      Replica.Agree root.components m (.ofEntries e.found)) : Follows a root c start w' := by
  obtain ⟨store, observer, memory⟩ := w'
  subst hstore hobserver
  exact ⟨h.named, h.ready, h.root_eq, h.comparator_eq, h.client, he, hreplays⟩

theorem Follows.step (h : Follows a root c start w) (hc : c.toEntryOrder.ByPath)
    (next : Step) : Follows a root c start (w.step a next) := by
  cases next with
  | change change =>
      exact ⟨h.named.apply change, h.ready, h.root_eq, h.comparator_eq, h.client, h.isSnapshot,
        h.replays⟩
  | check =>
      rcases step_check_cases h.ready h.client with
        ⟨_, _, hobserver, hheard⟩ | ⟨e, hsee, hobserver, hheard⟩
      · refine h.of_observer_eq rfl hobserver h.isSnapshot ?_
        rw [hheard]
        exact h.replays
      · have htrans : Std.TransCmp w.observer.comparator.toEntryOrder.order :=
          w.observer.comparator.transCmp_order
        have he := Store.isSnapshot_of_capture h.named hsee
        rw [h.comparator_eq, h.root_eq] at he
        rw [h.comparator_eq] at hheard
        obtain ⟨m, hs, hm⟩ := h.replays
        obtain ⟨m₁, hs₁, hm₁⟩ := EntryOrder.exists_replays_diff h.isSnapshot he hc
        obtain ⟨m₂, hs₂, hm₂⟩ := hm.exists_replays hs₁
        refine h.of_observer_eq rfl hobserver he ⟨m₂, ?_, hm₂.trans hm₁⟩
        rw [hheard]
        exact hs.append hs₂

/-- After a check that could take a snapshot, this is what the observer knows. -/
theorem Follows.snapshot_step_check (h : Follows a root c start w) {e : Entry}
    (hsee : w.observer.see w.store = .ok e) : (w.step a .check).observer.snapshot = e := by
  rcases step_check_cases h.ready h.client with ⟨_, herror, _⟩ | ⟨e', hsee', hobserver, _⟩
  · rw [hsee] at herror
    cases herror
  · rw [hobserver]
    exact Except.ok.inj (hsee'.symm.trans hsee)

theorem Follows.run (h : Follows a root c start w) (hc : c.toEntryOrder.ByPath)
    (steps : List Step) : Follows a root c start (w.run a steps) := by
  induction steps generalizing w with
  | nil => exact h
  | cons next steps ih => exact ih (h.step hc next)

theorem follows_takeBaseline {o₀ o : Observer} {s : Store} {others : τ} {memory : Memory τ}
    (hs : s.Named) (hclient : o₀.listeners.count a.client = 1)
    (hbaseline : (o₀.takeBaseline (a.host s)).run ⟨[], others⟩ = ((o, .ok ()), memory)) :
    Follows a o₀.root o₀.comparator (.ofEntries o.snapshot.found) ⟨s, o, memory⟩ := by
  have htrans : Std.TransCmp o₀.comparator.toEntryOrder.order := o₀.comparator.transCmp_order
  have hspec : ((o₀.takeBaseline (a.host s)).run ⟨[], others⟩).2.heard = [] ∧
      (((o₀.takeBaseline (a.host s)).run ⟨[], others⟩).1.2 = .ok () → ∃ e, o₀.see s = .ok e ∧
        ((o₀.takeBaseline (a.host s)).run ⟨[], others⟩).1.1
          = { o₀ with snapshot := e, state := .ready }) :=
    Audience.takeBaseline_spec s ⟨[], others⟩ rfl
  rw [hbaseline] at hspec
  obtain ⟨hheard, e, hsee, rfl⟩ := hspec.imp_right fun h => h rfl
  refine ⟨hs, rfl, rfl, rfl, hclient, Store.isSnapshot_of_capture hs hsee, _, ?_, .refl _ _⟩
  rw [hheard]
  exact .nil _

/-- However a stored tree changes between the checks of an observer and whatever its other
listeners do, a client that starts from the first snapshot can apply all events that it hears,
one after another, and then knows what the last snapshot shows, except for when the root was
modified if it is a directory. The next check goes on from the snapshot that there is to take,
if there is one. -/
theorem exists_replays_heard {filter : Option Filter} {sensitivity : CaseSensitivity}
    {comparator : Option Comparator} {s : CaseSensitivity} {o₀ o : Observer}
    {listeners : List ListenerId} {changes : List StoreChange} {others : τ} {memory : Memory τ}
    (hmake : Observer.make root filter sensitivity comparator = .ok o₀)
    (hc : (comparator.getD (.name sensitivity)).sensitivity? = some s)
    (hs : s.isSensitive = true) (hclient : a.client ∈ listeners)
    (hbaseline : ((listeners.foldl Observer.addListener o₀).takeBaseline
      (a.host (Store.ofChanges changes))).run ⟨[], others⟩ = ((o, .ok ()), memory))
    (steps : List Step) :
    (∃ m, Replica.Replays root.components (.ofEntries o.snapshot.found)
        (Watch.run a ⟨Store.ofChanges changes, o, memory⟩ steps).memory.heard m ∧
      Replica.Agree root.components m (.ofEntries
        (Watch.run a ⟨Store.ofChanges changes, o, memory⟩ steps).observer.snapshot.found)) ∧
    ∀ e, (Watch.run a ⟨Store.ofChanges changes, o, memory⟩ steps).observer.see
        (Watch.run a ⟨Store.ofChanges changes, o, memory⟩ steps).store = .ok e →
      (Watch.run a ⟨Store.ofChanges changes, o, memory⟩
        (steps ++ [.check])).observer.snapshot = e := by
  obtain ⟨rfl, hcomparator, hlisteners⟩ := Observer.of_make_eq_ok hmake
  obtain ⟨ls, hls, hnodup, hmem⟩ := Observer.foldl_addListener (o := o₀)
    (by rw [hlisteners]; exact .nil) listeners
  rw [hls] at hbaseline
  have hcount : ls.count a.client = 1 :=
    List.count_eq_one_of_mem hnodup ((hmem _).2 (.inr hclient))
  have hstart := follows_takeBaseline (Store.named_ofChanges changes) hcount hbaseline
  rw [hcomparator] at hstart
  have hrun := hstart.run (Comparator.byPath hc hs) steps
  refine ⟨hrun.replays, fun e hsee => ?_⟩
  rw [Watch.run, List.foldl_append]
  exact hrun.snapshot_step_check hsee

def afterRefuser : Audience Unit := ⟨1, fun _ _ => pure (.error "no"), fun _ => pure ()⟩

def atStart : Watch Unit where
  store := Store.ofChanges [.addFile ⟨"/r/a/x"⟩ 1 .epoch]
  observer := ⟨⟨"/r"⟩, none, .sensitive, .directoriesFirst (.name .sensitive), [0, 1], .ready,
    .directory ⟨"/r"⟩ .epoch [.directory ⟨"/r/a"⟩ .epoch [.file ⟨"/r/a/x"⟩ .epoch 1]], 0⟩
  memory := ⟨[], ()⟩

/-- A file takes the place of a directory, and then it changes. -/
theorem exists_replays_heard_atStart :
    (atStart.run afterRefuser [.change (.remove ⟨"/r/a"⟩), .change (.addFile ⟨"/r/a"⟩ 1 .epoch),
        .check, .change (.setModified ⟨"/r/a"⟩ ⟨5⟩), .check]).memory.heard
      = [⟨.fileDelete, .file ⟨"/r/a/x"⟩ .epoch 1⟩,
        ⟨.directoryDelete, .directory ⟨"/r/a"⟩ .epoch [.file ⟨"/r/a/x"⟩ .epoch 1]⟩,
        ⟨.fileCreate, .file ⟨"/r/a"⟩ .epoch 1⟩, ⟨.fileChange, .file ⟨"/r/a"⟩ ⟨5⟩ 1⟩] ∧
    ∃ m, Replica.Replays (Path.components ⟨"/r"⟩) (.ofEntries atStart.observer.snapshot.found)
        (atStart.run afterRefuser [.change (.remove ⟨"/r/a"⟩),
          .change (.addFile ⟨"/r/a"⟩ 1 .epoch), .check, .change (.setModified ⟨"/r/a"⟩ ⟨5⟩),
          .check]).memory.heard m ∧
      Replica.Agree (Path.components ⟨"/r"⟩) m (.ofEntries
        (atStart.run afterRefuser [.change (.remove ⟨"/r/a"⟩),
          .change (.addFile ⟨"/r/a"⟩ 1 .epoch), .check, .change (.setModified ⟨"/r/a"⟩ ⟨5⟩),
          .check]).observer.snapshot.found) := by
  have hmake : Observer.make ⟨"/r"⟩ none .sensitive (some (.directoriesFirst (.name .sensitive)))
      = .ok ⟨⟨"/r"⟩, none, .sensitive, .directoriesFirst (.name .sensitive), [], .uninitialized,
        .missing ⟨"/r"⟩, 0⟩ := by cbv
  have hclient : afterRefuser.client ∈ [0, 1] := by decide
  have hbaseline : (([0, 1].foldl Observer.addListener ⟨⟨"/r"⟩, none, .sensitive,
      .directoriesFirst (.name .sensitive), [], .uninitialized, .missing ⟨"/r"⟩, 0⟩).takeBaseline
      (afterRefuser.host (Store.ofChanges [.addFile ⟨"/r/a/x"⟩ 1 .epoch]))).run ⟨[], ()⟩
      = ((atStart.observer, .ok ()), ⟨[], ()⟩) := by cbv
  exact ⟨by cbv, (exists_replays_heard hmake (s := .sensitive) rfl rfl hclient hbaseline _).1⟩

end Watch

end TreeWatch
