import Mathlib
import TreeWatch.Proofs.Observer.Alone

/-!
# Observers do not disturb each other

A cycle of a monitor is one check of each observer after another, and each of them comes to what it
comes to on its own (`Monitor.exists_undisturbed`). So wherever cycles lead while observers come and
go, every observer is what its file system has made of it since it came (`Service.observers_run`);
the others have no part in this, nor have their file systems, whether they fail or not
(`Service.undisturbed`).
-/

namespace TreeWatch

variable {σ τ : Type}

/-- All file systems are parts of the world that answer all questions, and whatever is done, each
of them stays as it is. -/
structure Host.Leaves (host : Host (StateM σ)) (volumes : σ → VolumeId → FileSystem Id)
    (now : VolumeId → FileSystem Id) : Prop where
  reads : ∀ v, (host.over v).Reads (volumes · v) (now v)
  keeps : ∀ v, (host.over v).Simulates (.preserving (volumes · = now)) (host.over v)

/-! ## One cycle -/

namespace Monitor

variable {m n : Type → Type} [Monad m] [Monad n] {S : Simulation m n} {host : Host m}
  {host' : Host n}

theorem rel_checkAll (h : ∀ v, (host.over v).Simulates S (host'.over v)) (os : List Observer)
    (r : CycleReport) : S.rel (checkAll host os r) (checkAll host' os r) := by
  induction os generalizing r with
  | nil => exact S.pure _
  | cons o os ih =>
      refine S.bind ((h o.volume).check o) fun a => ?_
      obtain ⟨o', result⟩ := a
      cases result with
      | ok events => exact S.bind (ih _) fun _ => S.pure _
      | error e => exact S.bind ((h 0).note _) fun _ => S.bind (ih _) fun _ => S.pure _

theorem rel_runCycle (h : ∀ v, (host.over v).Simulates S (host'.over v)) (m : Monitor) :
    S.rel (m.runCycle host) (m.runCycle host') :=
  S.bind (rel_checkAll h m.observers {}) fun _ => S.bind ((h 0).note _) fun _ => S.pure _

end Monitor

namespace Checkup

def found (x : Checkup) : ℕ :=
  match x.result with
  | .ok events => events.length
  | .error _ => 0

def effect (x : Checkup) : Observer × List (ListenerId × Signal) := (x.observer, x.calls)

def failed (x : Checkup) : Bool :=
  match x.result with
  | .ok _ => false
  | .error _ => true

end Checkup

def CycleReport.ofCheckups (xs : List Checkup) : CycleReport :=
  ⟨xs.length, (xs.map Checkup.found).sum, xs.countP Checkup.failed⟩

namespace Monitor

variable {host : Host (StateM σ)} {volumes : σ → VolumeId → FileSystem Id}
  {now : VolumeId → FileSystem Id} {w : σ}

theorem CycleReport.count_ofCheckups (xs : List Checkup) (x : Checkup) :
    CycleReport.count (.ofCheckups xs) x.result = .ofCheckups (xs ++ [x]) := by
  cases hresult : x.result <;>
    simp [CycleReport.count, CycleReport.ofCheckups, Checkup.found, Checkup.failed, hresult]

theorem exists_run_checkAll_cons (h : host.Leaves volumes now) (o : Observer)
    (hw : volumes w = now) : ∃ w₁, volumes w₁ = now ∧ ∀ os r log,
      (checkAll (host.chronicled id) (o :: os) r).run ⟨w, log⟩
        = let rest := (checkAll (host.chronicled id) os
            (CycleReport.count r (o.checkup (host.over o.volume) w).result)).run
              ⟨w₁, log ++ (o.checkup (host.over o.volume) w).heard⟩
          (((o.checkup (host.over o.volume) w).observer :: rest.1.1, rest.1.2), rest.2) := by
  have hw₁ : volumes ((o.check (host.over o.volume)).run w).2 = now :=
    (h.keeps o.volume).check o w hw
  cases hresult : (o.checkup (host.over o.volume) w).result with
  | ok events =>
      refine ⟨_, hw₁, fun os r log => ?_⟩
      rw [checkAll, StateT.run_bind, Host.over_chronicled, o.run_check_chronicled, hresult]
      rfl
  | error e =>
      have hnote := (h.keeps 0).note
        (.checkFailed (o.checkup (host.over o.volume) w).observer.root e.message) _ hw₁
      refine ⟨_, hnote, fun os r log => ?_⟩
      rw [checkAll, StateT.run_bind, Host.over_chronicled, o.run_check_chronicled, hresult]
      rfl

/-- One observer is checked after another, and all find the file systems as they are. -/
theorem exists_checkups (h : host.Leaves volumes now) (os : List Observer) (ys : List Checkup)
    (hw : volumes w = now) : ∃ xs w', volumes w' = now ∧
      List.Forall₂ (fun o x => ∃ v, volumes v = now ∧ o.checkup (host.over o.volume) v = x) os xs ∧
      ∀ log, (checkAll (host.chronicled id) os (.ofCheckups ys)).run ⟨w, log⟩
        = ((xs.map Checkup.observer, .ofCheckups (ys ++ xs)),
          ⟨w', log ++ xs.flatMap Checkup.heard⟩) := by
  induction os generalizing ys w with
  | nil =>
      refine ⟨[], w, hw, .nil, fun log => ?_⟩
      rw [List.append_nil, List.flatMap_nil, List.append_nil]
      rfl
  | cons o os ih =>
      obtain ⟨w₁, hw₁, hcons⟩ := exists_run_checkAll_cons h o hw
      obtain ⟨xs, w', hw', hxs, hrun⟩ := ih (ys ++ [o.checkup (host.over o.volume) w]) hw₁
      refine ⟨o.checkup (host.over o.volume) w :: xs, w', hw', .cons ⟨w, hw, rfl⟩ hxs,
        fun log => ?_⟩
      rw [hcons, CycleReport.count_ofCheckups, hrun]
      simp

theorem map_eq_of_checkups {β : Type} {P : Observer → Checkup → Prop} {os : List Observer}
    {xs : List Checkup} (h : List.Forall₂ (fun o x => P o x ∧ x.Agrees (o.solo now)) os xs)
    {f : Checkup → β} (hf : ∀ x y, x.Agrees y → f x = f y) :
    xs.map f = os.map fun o => f (o.solo now) := by
  rw [← List.forall₂_eq_eq_eq, List.forall₂_map_left_iff, List.forall₂_map_right_iff]
  exact (h.imp fun o x h => hf x _ h.2).flip

/-- A cycle in which the observers do not disturb each other: each is checked once, in order, and
comes to what it comes to on its own; the report counts these checks. -/
structure Undisturbed (host : Host (StateM σ)) (volumes : σ → VolumeId → FileSystem Id)
    (m : Monitor) (w : σ) (xs : List Checkup) (w' : σ) : Prop where
  checkups : List.Forall₂ (fun o x =>
    (∃ v, volumes v = volumes w ∧ o.checkup (host.over o.volume) v = x) ∧
      x.Agrees (o.solo (volumes w))) m.observers xs
  observers_eq : xs.map Checkup.observer = m.observers.map fun o => (o.solo (volumes w)).observer
  calls_eq : (xs.flatMap Checkup.heard).map Hearing.call
    = m.observers.flatMap fun o => (o.solo (volumes w)).calls
  run_eq : (m.runCycle host).run w
    = (({ m with observers := xs.map Checkup.observer }, .ofCheckups xs), w')
  run_chronicled_eq : ∀ log, (m.runCycle (host.chronicled id)).run ⟨w, log⟩
    = (({ m with observers := xs.map Checkup.observer }, .ofCheckups xs),
      ⟨w', log ++ xs.flatMap Checkup.heard⟩)
  volumes_eq : volumes w' = volumes w

theorem Undisturbed.effect_eq {m : Monitor} {xs : List Checkup} {w' : σ}
    (h : m.Undisturbed host volumes w xs w') :
    xs.map Checkup.effect = m.observers.map fun o => (o.solo (volumes w)).effect :=
  map_eq_of_checkups h.checkups fun _ _ h => Prod.ext h.observer_eq h.calls_eq

theorem exists_undisturbed (m : Monitor) (h : host.Leaves volumes (volumes w)) :
    ∃ xs w', m.Undisturbed host volumes w xs w' := by
  obtain ⟨xs, w₁, hw₁, hxs, hrun⟩ := exists_checkups h m.observers [] rfl
  have hagrees : List.Forall₂ (fun o x =>
      (∃ v, volumes v = volumes w ∧ o.checkup (host.over o.volume) v = x) ∧
        x.Agrees (o.solo (volumes w))) m.observers xs := by
    refine hxs.imp ?_
    rintro o x ⟨v, hv, rfl⟩
    exact ⟨⟨v, hv, rfl⟩, o.agrees_solo (h.reads o.volume) (congrFun hv o.volume)⟩
  let r := CycleReport.ofCheckups xs
  let w' := ((host.note (.cycleDone r.checked r.events r.failures)).run w₁).2
  have hchronicled (log : List Hearing) : (m.runCycle (host.chronicled id)).run ⟨w, log⟩
      = (({ m with observers := xs.map Checkup.observer }, r),
        ⟨w', log ++ xs.flatMap Checkup.heard⟩) := by
    have hall : (checkAll (host.chronicled id) m.observers {}).run ⟨w, log⟩
        = ((xs.map Checkup.observer, r), ⟨w₁, log ++ xs.flatMap Checkup.heard⟩) := hrun log
    rw [runCycle, StateT.run_bind, hall]
    rfl
  have hsame : Simulation.chronicling.rel (m.runCycle host) (m.runCycle (host.chronicled id)) :=
    rel_runCycle (fun v => (host.over v).simulates_chronicled id) m
  obtain ⟨es, hes⟩ := hsame w
  obtain ⟨hresult, hworld⟩ := Prod.mk.inj ((hes []).symm.trans (hchronicled []))
  exact ⟨xs, w',
    { checkups := hagrees
      observers_eq := map_eq_of_checkups hagrees fun x y h => h.observer_eq
      calls_eq := by
        rw [List.map_flatMap]
        exact congrArg List.flatten (map_eq_of_checkups hagrees fun x y h => h.calls_eq)
      run_eq := Prod.ext hresult (congrArg Chronicle.world hworld)
      run_chronicled_eq := hchronicled
      volumes_eq := (h.keeps 0).note _ _ hw₁ }⟩

/-- A monitor takes out the first observer of a root, if there is one. -/
theorem getD_remove? (m : Monitor) (root : Path) : ((m.remove? root).map Prod.snd).getD m
    = { m with observers := m.observers.eraseP (·.root.same root) } := by
  obtain ⟨interval, os⟩ := m
  rw [remove?]
  induction os with
  | nil => rfl
  | cons o os ih =>
      cases hroot : o.root.same root with
      | true => simp [extract?, hroot]
      | false =>
          simp only [extract?, hroot, Bool.false_eq_true, if_false, List.eraseP_cons]
          cases hrest : extract? (fun o : Observer => if o.root.same root then some o else none)
              os with
          | none => simpa [hrest] using ih
          | some found => simpa [hrest] using ih

end Monitor

/-! ## Many cycles -/

structure Service (σ : Type) where
  monitor : Monitor
  world : σ
  heard : List Hearing

inductive Service.Act (σ : Type) where
  | cycle
  | add (o : Observer)
  | remove (root : Path)
  /-- Files come and go, questions begin or cease to fail, and so do listeners. -/
  | change (f : σ → σ)

/-- What was done with a monitor; of the world, only the file systems count as a cycle has found
them. -/
inductive Deed where
  | cycle (now : VolumeId → FileSystem Id)
  | add (o : Observer)
  | remove (root : Path)

/-- An observer as it was when it came, and the file systems at each cycle since. -/
structure Member where
  observer : Observer
  seen : List (VolumeId → FileSystem Id)

namespace Member

def ofObserver (o : Observer) : Member := ⟨o, []⟩

/-- What its file system alone has made of an observer. -/
def now (m : Member) : Observer :=
  m.seen.foldl (fun o volumes => (o.solo volumes).observer) m.observer

def found (m : Member) : List (FileSystem Id) := m.seen.map (· m.observer.volume)

theorem blank_now (m : Member) : m.now.blank = m.observer.blank := by
  obtain ⟨o, seen⟩ := m
  rw [now]
  induction seen generalizing o with
  | nil => rfl
  | cons volumes seen ih => exact (ih _).trans (o.blank_solo volumes)

theorem root_now (m : Member) : m.now.root = m.observer.root := by
  have hroot := congrArg Observer.root m.blank_now
  exact hroot

theorem volume_now (m : Member) : m.now.volume = m.observer.volume := by
  have hvolume := congrArg Observer.volume m.blank_now
  exact hvolume

theorem now_eq_foldl_found (m : Member) :
    m.now = m.found.foldl (fun o files => (o.solo fun _ => files).observer) m.observer := by
  obtain ⟨o, seen⟩ := m
  rw [now, found]
  induction seen generalizing o with
  | nil => rfl
  | cons volumes seen ih =>
      have htail := ih (o.solo volumes).observer
      rw [o.volume_solo volumes] at htail
      exact htail

def SameRoot (m m' : Member) : Prop := m.observer.root = m'.observer.root

/-- The same observer came, and it has found the same since. -/
structure Alike (m m' : Member) : Prop where
  observer_eq : m.observer = m'.observer
  found_eq : m.found = m'.found

theorem Alike.solo_eq {m m' : Member} (h : m.Alike m') {volumes volumes' : VolumeId → FileSystem Id}
    (hvolume : volumes m.observer.volume = volumes' m.observer.volume) :
    m.now.solo volumes = m'.now.solo volumes' := by
  have hnow : m.now = m'.now := by
    rw [now_eq_foldl_found, now_eq_foldl_found, h.observer_eq, h.found_eq]
  rw [← m.volume_now] at hvolume
  rw [← hnow, Observer.solo, Observer.solo, hvolume]

end Member

namespace Deed

def enroll (members : List Member) : Deed → List Member
  | cycle now => members.map fun m => { m with seen := m.seen ++ [now] }
  | add o => members ++ [.ofObserver o]
  | remove root => members.eraseP (·.observer.root.same root)

def told : List Member → List Deed → List (ListenerId × Signal)
  | _, [] => []
  | members, cycle now :: deeds =>
    members.flatMap (fun m => (m.now.solo now).calls) ++ told (enroll members (cycle now)) deeds
  | members, deed :: deeds => told (enroll members deed) deeds

/-- Two deeds that may differ in what a cycle finds, and in the observer that is added, but not in
its root. -/
inductive Alike : Deed → Deed → Prop
  | cycle (now now' : VolumeId → FileSystem Id) : Alike (cycle now) (cycle now')
  | add {o o' : Observer} (h : o.root = o'.root) : Alike (add o) (add o')
  | remove (root : Path) : Alike (remove root) (remove root)

theorem map_now_enroll_cycle (members : List Member) (now : VolumeId → FileSystem Id) :
    (enroll members (cycle now)).map Member.now
      = (members.map Member.now).map fun o => (o.solo now).observer := by
  rw [enroll, List.map_map, List.map_map]
  refine List.map_congr_left fun m _ => ?_
  exact List.foldl_append

theorem map_now_enroll_remove (members : List Member) (root : Path) :
    (enroll members (remove root)).map Member.now
      = (members.map Member.now).eraseP (·.root.same root) := by
  rw [enroll, List.eraseP_map]
  congr
  funext m
  exact congrArg (·.same root) m.root_now.symm

theorem Alike.enroll {d d' : Deed} (h : d.Alike d') {ms ms' : List Member}
    (hms : List.Forall₂ Member.SameRoot ms ms') :
    List.Forall₂ Member.SameRoot (d.enroll ms) (d'.enroll ms') := by
  cases h with
  | cycle now now' =>
      rw [Deed.enroll, Deed.enroll, List.forall₂_map_left_iff, List.forall₂_map_right_iff]
      exact hms
  | add h => exact List.rel_append hms (.cons h .nil)
  | remove root =>
      induction hms with
      | nil => exact .nil
      | @cons m m' ms ms' h hms ih =>
          have hroot : m.observer.root = m'.observer.root := h
          rw [Deed.enroll, Deed.enroll, List.eraseP_cons, List.eraseP_cons, hroot]
          cases m'.observer.root.same root with
          | true => exact hms
          | false => exact .cons h ih

theorem foldl_enroll_sameRoot {ds ds' : List Deed} (h : List.Forall₂ Alike ds ds')
    {ms ms' : List Member} (hms : List.Forall₂ Member.SameRoot ms ms') :
    List.Forall₂ Member.SameRoot (ds.foldl Deed.enroll ms) (ds'.foldl Deed.enroll ms') := by
  induction h generalizing ms ms' with
  | nil => exact hms
  | cons h _ ih => exact ih (h.enroll hms)

theorem told_append (ms : List Member) (ds ds' : List Deed) :
    told ms (ds ++ ds') = told ms ds ++ told (ds.foldl enroll ms) ds' := by
  induction ds generalizing ms with
  | nil => rfl
  | cons d ds ih =>
      cases d with
      | cycle now => exact (congrArg _ (ih _)).trans (List.append_assoc _ _ _).symm
      | add o => exact ih _
      | remove root => exact ih _

end Deed

namespace Service

variable {host : σ → Host (StateM σ)} {volumes : σ → VolumeId → FileSystem Id}

def turn (host : σ → Host (StateM σ)) (x : Service σ) : Act σ → Service σ
  | .cycle =>
    let ((monitor, _), c) :=
      (x.monitor.runCycle ((host x.world).chronicled id)).run ⟨x.world, x.heard⟩
    ⟨monitor, c.world, c.entries⟩
  | .add o => { x with monitor := x.monitor.add o }
  | .remove root => { x with monitor := ((x.monitor.remove? root).map Prod.snd).getD x.monitor }
  | .change f => { x with world := f x.world }

def run (host : σ → Host (StateM σ)) : Service σ → List (Act σ) → Service σ
  | x, [] => x
  | x, a :: acts => run host (x.turn host a) acts

def deed (volumes : σ → VolumeId → FileSystem Id) (x : Service σ) : Act σ → List Deed
  | .cycle => [.cycle (volumes x.world)]
  | .add o => [.add o]
  | .remove root => [.remove root]
  | .change _ => []

def deeds (host : σ → Host (StateM σ)) (volumes : σ → VolumeId → FileSystem Id) :
    Service σ → List (Act σ) → List Deed
  | _, [] => []
  | x, a :: acts => x.deed volumes a ++ deeds host volumes (x.turn host a) acts

def members (host : σ → Host (StateM σ)) (volumes : σ → VolumeId → FileSystem Id) (x : Service σ)
    (acts : List (Act σ)) : List Member :=
  (x.deeds host volumes acts).foldl Deed.enroll (x.monitor.observers.map Member.ofObserver)

theorem turn_eq (hhost : ∀ w, (host w).Leaves volumes (volumes w)) {x : Service σ}
    {ms : List Member} (hms : x.monitor.observers = ms.map Member.now) (a : Act σ) :
    (x.turn host a).monitor.observers = ((x.deed volumes a).foldl Deed.enroll ms).map Member.now ∧
      (x.turn host a).heard.map Hearing.call
        = x.heard.map Hearing.call ++ Deed.told ms (x.deed volumes a) := by
  cases a with
  | cycle =>
      obtain ⟨xs, w', h⟩ := x.monitor.exists_undisturbed (hhost x.world)
      rw [turn, h.run_chronicled_eq]
      refine ⟨?_, ?_⟩
      · exact (h.observers_eq.trans (by rw [hms])).trans (Deed.map_now_enroll_cycle ms _).symm
      · rw [List.map_append, h.calls_eq, hms, List.flatMap_map]
        exact congrArg _ (List.append_nil _).symm
  | add o =>
      refine ⟨?_, (List.append_nil _).symm⟩
      change x.monitor.observers ++ [o] = (ms ++ [Member.ofObserver o]).map Member.now
      rw [hms, List.map_append]
      rfl
  | remove root =>
      refine ⟨?_, (List.append_nil _).symm⟩
      rw [turn, Monitor.getD_remove?, hms]
      exact (Deed.map_now_enroll_remove ms root).symm
  | change f => exact ⟨hms, (List.append_nil _).symm⟩

theorem run_eq (hhost : ∀ w, (host w).Leaves volumes (volumes w)) {x : Service σ}
    {ms : List Member} (hms : x.monitor.observers = ms.map Member.now) (acts : List (Act σ)) :
    (x.run host acts).monitor.observers
        = ((x.deeds host volumes acts).foldl Deed.enroll ms).map Member.now ∧
      (x.run host acts).heard.map Hearing.call
        = x.heard.map Hearing.call ++ Deed.told ms (x.deeds host volumes acts) := by
  induction acts generalizing x ms with
  | nil => exact ⟨hms, (List.append_nil _).symm⟩
  | cons a acts ih =>
      obtain ⟨hobservers, hheard⟩ := turn_eq hhost hms a
      obtain ⟨hobservers', hheard'⟩ := ih hobservers
      rw [deeds, List.foldl_append, Deed.told_append, ← List.append_assoc, ← hheard]
      exact ⟨hobservers', hheard'⟩

theorem members_sameRoot {host' : τ → Host (StateM τ)} {volumes' : τ → VolumeId → FileSystem Id}
    {x : Service σ} {x' : Service τ} {acts : List (Act σ)} {acts' : List (Act τ)}
    (hroots : List.Forall₂ (fun o o' => o.root = o'.root) x.monitor.observers x'.monitor.observers)
    (hdeeds : List.Forall₂ Deed.Alike (x.deeds host volumes acts)
      (x'.deeds host' volumes' acts')) :
    List.Forall₂ Member.SameRoot (x.members host volumes acts)
      (x'.members host' volumes' acts') := by
  refine Deed.foldl_enroll_sameRoot hdeeds ?_
  rw [List.forall₂_map_left_iff, List.forall₂_map_right_iff]
  exact hroots

theorem map_now_ofObserver (os : List Observer) :
    os = (os.map Member.ofObserver).map Member.now := by
  rw [List.map_map]
  exact (List.map_id os).symm

theorem observers_run (hhost : ∀ w, (host w).Leaves volumes (volumes w)) (x : Service σ)
    (acts : List (Act σ)) :
    (x.run host acts).monitor.observers = (x.members host volumes acts).map Member.now :=
  (run_eq hhost (map_now_ofObserver _) acts).1

/-- Two monitors in which observers came and went at the same times and places and had the same
roots, and a cycle of each. At every place where the same observer came and has found the same all
the time, it has the same effect, whatever the others are and whatever they find. -/
structure Parallel (members members' : List Member) (now now' : VolumeId → FileSystem Id)
    (xs xs' : List Checkup) : Prop where
  sameRoot : List.Forall₂ Member.SameRoot members members'
  effect_eq : ∀ (i : ℕ) (m m' : Member), members[i]? = some m → members'[i]? = some m' →
    m.Alike m' → now m.observer.volume = now' m.observer.volume →
    xs[i]?.map Checkup.effect = xs'[i]?.map Checkup.effect

/-- Whatever cycles a monitor runs, and whoever comes and goes in between, every observer is what
its file system alone has made of it since it came, nothing is told but what it tells on its own,
and the next cycle leaves everybody undisturbed. So it does not matter to the others whether an
observer fails: they do the same if there is any other one of its root in its place, and if other
file systems than their own are in any other state. -/
theorem undisturbed (hhost : ∀ w, (host w).Leaves volumes (volumes w)) (x : Service σ)
    (acts : List (Act σ)) {y : Service σ} (hy : x.run host acts = y) :
    y.monitor.observers = (x.members host volumes acts).map Member.now ∧
    y.heard.map Hearing.call = x.heard.map Hearing.call
      ++ Deed.told (x.monitor.observers.map Member.ofObserver) (x.deeds host volumes acts) ∧
    ∃ xs w', y.monitor.Undisturbed (host y.world) volumes y.world xs w' ∧
      ∀ (τ : Type) (host' : τ → Host (StateM τ)) (volumes' : τ → VolumeId → FileSystem Id)
        (x' y' : Service τ) (acts' : List (Act τ)),
        (∀ w, (host' w).Leaves volumes' (volumes' w)) → x'.run host' acts' = y' →
        List.Forall₂ (fun o o' => o.root = o'.root) x.monitor.observers x'.monitor.observers →
        List.Forall₂ Deed.Alike (x.deeds host volumes acts) (x'.deeds host' volumes' acts') →
        ∃ xs' v', y'.monitor.Undisturbed (host' y'.world) volumes' y'.world xs' v' ∧
          Parallel (x.members host volumes acts) (x'.members host' volumes' acts')
            (volumes y.world) (volumes' y'.world) xs xs' := by
  subst hy
  obtain ⟨xs, w', hxs⟩ := (x.run host acts).monitor.exists_undisturbed (hhost _)
  refine ⟨observers_run hhost x acts, (run_eq hhost (map_now_ofObserver _) acts).2, xs, w', hxs, ?_⟩
  rintro τ host' volumes' x' _ acts' hhost' rfl hroots hdeeds
  obtain ⟨xs', v', hxs'⟩ := (x'.run host' acts').monitor.exists_undisturbed (hhost' _)
  refine ⟨xs', v', hxs', members_sameRoot hroots hdeeds, fun i m m' hm hm' halike hnow => ?_⟩
  have hsolo := halike.solo_eq hnow
  rw [← List.getElem?_map, ← List.getElem?_map, hxs.effect_eq, hxs'.effect_eq,
    observers_run hhost, observers_run hhost']
  simp only [List.getElem?_map, hm, hm', Option.map_some, hsolo]

end Service

namespace Session

def beside (annex : Store) (st : State) : Host Play where
  files := (host st).files
  note := note
  tell := tell
  volume
    | 0 => (host st).files
    | _ + 1 => annex.fileSystem

def volumes (annex : Store) (st : State) : VolumeId → FileSystem Id
  | 0 => st.store.fileSystem
  | _ + 1 => annex.fileSystem

theorem volumes_tell (annex : Store) (l : ListenerId) (s : Signal) (st : State) :
    volumes annex ((tell l s).run st).2 = volumes annex st := by
  have hstore : ((tell l s).run st).2.store = st.store := by
    cases hl : st.listeners[l]? with
    | none => rw [run_tell_of_none hl]
    | some listener => rw [run_tell_of_some hl]
  funext v
  cases v with
  | zero => rw [volumes, volumes, hstore]
  | succ => rfl

/-- Nothing that is done in a session but a change of its tree changes any files. -/
theorem leaves_beside (annex : Store) (st : State) :
    (beside annex st).Leaves (volumes annex) (volumes annex st) where
  reads v := by
    cases v <;> exact
      { metadata := fun _ _ h => ⟨rfl, h⟩
        linkMetadata := fun _ _ h => ⟨rfl, h⟩
        list := fun _ _ h => ⟨rfl, h⟩
        note := fun _ _ h => h
        contents_eq := rfl
        depthLimit_eq := rfl }
  keeps v := by
    cases v <;> exact
      { metadata := fun _ _ h => h
        linkMetadata := fun _ _ h => h
        list := fun _ _ h => h
        note := fun _ _ h => h
        tell := fun l s st' h => (volumes_tell annex l s st').trans h
        contents_eq := rfl
        depthLimit_eq := rfl }

end Session

namespace Service

/-- The first observer is destroyed, a listener of the second refuses what it is told, the third
looks at another file system, and the fourth shares root and listeners with others. -/
def troupe : Service Session.State where
  monitor := ⟨⟨5⟩, [{ Life.crowded.observer with state := .destroyed }, Life.crowded.observer,
    { Life.crowded.observer with volume := 1 }, { Life.crowded.observer with listeners := [1] }]⟩
  world := Life.crowded.world
  heard := []

def understudied : Service Session.State :=
  { troupe with monitor := ⟨⟨5⟩, troupe.monitor.observers.set 1 Life.founded.observer⟩ }

def interlude (o : Observer) : List (Act Session.State) := [.cycle, .remove ⟨"/r"⟩, .add o]

def closed : Store := ({} : Store).failMetadata ⟨"/r"⟩

def opened : Store := ({} : Store).addDirectory ⟨"/r"⟩ .epoch

theorem deeds_interlude (annex : Store) (x : Service Session.State) (o : Observer) :
    x.deeds (Session.beside annex) (Session.volumes annex) (interlude o)
      = [.cycle (Session.volumes annex x.world), .remove ⟨"/r"⟩, .add o] := rfl

/-- The other file system fails, or another observer has never taken a snapshot. -/
theorem undisturbed_troupe :
    ((troupe.monitor.runCycle (Session.beside closed troupe.world)).run troupe.world).1.2
      = ⟨4, 1, 3⟩ ∧
    ∃ y y', troupe.run (Session.beside closed) (interlude Life.crowded.observer) = y ∧
      understudied.run (Session.beside opened) (interlude Life.founded.observer) = y' ∧
      ∃ xs w' xs' v',
        y.monitor.Undisturbed (Session.beside closed y.world) (Session.volumes closed) y.world
          xs w' ∧
        y'.monitor.Undisturbed (Session.beside opened y'.world) (Session.volumes opened) y'.world
          xs' v' ∧
        Parallel (troupe.members (Session.beside closed) (Session.volumes closed)
            (interlude Life.crowded.observer))
          (understudied.members (Session.beside opened) (Session.volumes opened)
            (interlude Life.founded.observer))
          (Session.volumes closed y.world) (Session.volumes opened y'.world) xs xs' := by
  refine ⟨by decide +kernel, _, _, rfl, rfl, ?_⟩
  obtain ⟨-, -, xs, w', hxs, hparallel⟩ :=
    undisturbed (Session.leaves_beside closed) troupe (interlude Life.crowded.observer) rfl
  have hroots : List.Forall₂ (fun o o' => o.root = o'.root) troupe.monitor.observers
      understudied.monitor.observers := .cons rfl (.cons rfl (.cons rfl (.cons rfl .nil)))
  have hdeeds : List.Forall₂ Deed.Alike
      (troupe.deeds (Session.beside closed) (Session.volumes closed)
        (interlude Life.crowded.observer))
      (understudied.deeds (Session.beside opened) (Session.volumes opened)
        (interlude Life.founded.observer)) := by
    rw [deeds_interlude, deeds_interlude]
    exact .cons (.cycle _ _) (.cons (.remove _) (.cons (.add rfl) .nil))
  obtain ⟨xs', v', hxs', h⟩ := hparallel _ (Session.beside opened) (Session.volumes opened)
    understudied _ (interlude Life.founded.observer) (Session.leaves_beside opened) rfl hroots
    hdeeds
  exact ⟨xs, w', xs', v', hxs, hxs', h⟩

end Service

end TreeWatch
