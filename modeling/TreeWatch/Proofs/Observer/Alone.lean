import TreeWatch.Proofs.Observer.Repetition

/-!
# A check on its own

Whatever listeners make of what they are told, a check leaves the observer, and makes the calls,
that it would if there were only the files and nobody refused anything (`Observer.solo`). Refused
calls make the check fail, and that is all they do (`Observer.agrees_solo`).
-/

namespace TreeWatch

variable {σ ε : Type}

def Simulation.preserving (P : σ → Prop) : Simulation (StateM σ) (StateM σ) where
  rel x _ := ∀ w, P w → P (x.run w).2
  pure _ _ hw := hw
  bind hx hf w hw := hf _ _ (hx w hw)

def Simulation.chronicling : Simulation (StateM σ) (StateM (Chronicle ε σ)) where
  rel x y := ∀ w, ∃ es, ∀ log, y.run ⟨w, log⟩ = ((x.run w).1, ⟨(x.run w).2, log ++ es⟩)
  pure _ w := ⟨[], fun log => by rw [List.append_nil]; rfl⟩
  bind := by
    intro α β x y f g hx hf w
    obtain ⟨es, hes⟩ := hx w
    obtain ⟨es', hes'⟩ := hf (x.run w).1 (x.run w).2
    refine ⟨es ++ es', fun log => ?_⟩
    rw [StateT.run_bind, hes, ← List.append_assoc]
    exact hes' _

namespace Host

section

variable {m n : Type → Type} [Monad m] [Monad n] {S : Simulation m n} {host : Host m}
  {host' : Host n}

structure Simulates (S : Simulation m n) (host : Host m) (host' : Host n) : Prop where
  metadata : ∀ p, S.rel (host.files.metadata p) (host'.files.metadata p)
  linkMetadata : ∀ p, S.rel (host.files.linkMetadata p) (host'.files.linkMetadata p)
  list : ∀ p, S.rel (host.files.list p) (host'.files.list p)
  note : ∀ r, S.rel (host.note r) (host'.note r)
  tell : ∀ l s, S.rel (host.tell l s) (host'.tell l s)
  contents_eq : host'.files.contents = host.files.contents
  depthLimit_eq : host'.files.depthLimit = host.files.depthLimit

namespace Simulates

theorem capture (h : host.Simulates S host') (o : Observer) :
    S.rel (o.capture host) (o.capture host') := by
  have hcamera : Camera.Simulates S
      ⟨host.files, host.note, o.accepts host.files.contents, o.comparator.toEntryOrder⟩
      ⟨host'.files, host'.note, o.accepts host'.files.contents, o.comparator.toEntryOrder⟩ :=
    ⟨h.metadata, h.linkMetadata, h.list, h.note, by rw [h.contents_eq], rfl, h.depthLimit_eq⟩
  exact hcamera.capture o.root

theorem takeBaseline (h : host.Simulates S host') (o : Observer) :
    S.rel (o.takeBaseline host) (o.takeBaseline host') := by
  rw [Observer.takeBaseline, Observer.takeBaseline]
  split
  · exact S.pure _
  · refine S.bind (h.capture o) fun r => ?_
    cases r with
    | error e => exact S.pure _
    | ok s => exact S.bind (h.note _) fun _ => S.pure _

theorem tellAll (h : host.Simulates S host') (root : Path) (s : Signal) (ls : List ListenerId)
    (t : Tally) :
    S.rel (Observer.tellAll host root s ls t) (Observer.tellAll host' root s ls t) := by
  induction ls generalizing t with
  | nil => exact S.pure t
  | cons l ls ih =>
      refine S.bind (h.tell l s) fun r => ?_
      cases r with
      | ok u => exact ih t
      | error problem => exact S.bind (h.note _) fun _ => ih _

theorem tellEach (h : host.Simulates S host') (o : Observer) (ss : List Signal) (t : Tally) :
    S.rel (o.tellEach host ss t) (o.tellEach host' ss t) := by
  induction ss generalizing t with
  | nil => exact S.pure t
  | cons s ss ih => exact S.bind (h.tellAll o.root s o.listeners t) ih

theorem notify (h : host.Simulates S host') (o : Observer) (events : List Event) :
    S.rel (o.notify host events) (o.notify host' events) := by
  refine S.bind (h.tellEach o _ _) fun t => ?_
  cases t.first <;> exact S.pure _

theorem check (h : host.Simulates S host') (o : Observer) :
    S.rel (o.check host) (o.check host') := by
  cases hstate : o.state with
  | destroyed =>
      rw [Observer.check, Observer.check, hstate]
      exact S.pure _
  | uninitialized =>
      rw [Observer.check, Observer.check, hstate]
      exact S.bind (h.takeBaseline o) fun _ => S.pure _
  | ready =>
      rw [Observer.check_of_ready hstate, Observer.check_of_ready hstate]
      refine S.bind (h.capture o) fun r => ?_
      cases r with
      | error e => exact S.bind (h.note _) fun _ => S.pure _
      | ok s =>
          exact S.bind (h.note _) fun _ => S.bind (h.notify _ _) fun _ => S.pure _

end Simulates

end

/-- Whatever is done is written down if it is something that a listener is told. -/
theorem simulates_chronicled (host : Host (StateM σ)) (entry : Hearing → ε) :
    host.Simulates .chronicling (host.chronicled entry) where
  metadata _ _ := ⟨[], fun log => by rw [List.append_nil]; rfl⟩
  linkMetadata _ _ := ⟨[], fun log => by rw [List.append_nil]; rfl⟩
  list _ _ := ⟨[], fun log => by rw [List.append_nil]; rfl⟩
  note _ _ := ⟨[], fun log => by rw [List.append_nil]; rfl⟩
  tell l s w := ⟨[entry ⟨l, s, ((host.tell l s).run w).1⟩], fun _ => rfl⟩
  contents_eq := rfl
  depthLimit_eq := rfl

theorem over_chronicled (host : Host (StateM σ)) (entry : Hearing → ε) (v : VolumeId) :
    (host.chronicled entry).over v = (host.over v).chronicled entry := rfl

/-- Files, and nothing else; no listener refuses anything. -/
def alone (files : FileSystem Id) : Host (StateM Unit) where
  files :=
    { metadata := fun p => pure (files.metadata p)
      linkMetadata := fun p => pure (files.linkMetadata p)
      list := fun p => pure (files.list p)
      contents := files.contents
      depthLimit := files.depthLimit }
  note _ := pure ()
  tell _ _ := pure (.ok ())

theorem reads_alone (now : FileSystem Id) : (alone now).Reads (fun _ => now) now where
  metadata _ _ h := ⟨rfl, h⟩
  linkMetadata _ _ h := ⟨rfl, h⟩
  list _ _ h := ⟨rfl, h⟩
  note _ _ h := h
  contents_eq := rfl
  depthLimit_eq := rfl

end Host

/-- What a check has come to: the observer after it, its answer, and all that listeners were told
and made of it. -/
structure Checkup where
  observer : Observer
  result : Except Error (List Event)
  heard : List Hearing

namespace Checkup

def calls (x : Checkup) : List (ListenerId × Signal) := x.heard.map Hearing.call

def problems (x : Checkup) : List String := x.heard.filterMap Hearing.problem?

/-- A checkup is what another one would have been if listeners had refused some calls. -/
structure Agrees (x y : Checkup) : Prop where
  observer_eq : x.observer = y.observer
  calls_eq : x.calls = y.calls
  result_eq : x.result = y.result.bind (x.observer.verdict · x.problems)

theorem Agrees.trans {x y z : Checkup} (hx : x.Agrees z) (hy : y.Agrees z)
    (hproblems : y.problems = []) : x.Agrees y where
  observer_eq := hx.observer_eq.trans hy.observer_eq.symm
  calls_eq := hx.calls_eq.trans hy.calls_eq.symm
  result_eq := by
    have hresult : y.result = z.result := by
      rw [hy.result_eq, hproblems]
      cases z.result <;> rfl
    rw [hx.result_eq, hresult]

end Checkup

namespace Observer

variable {o : Observer} {host : Host (StateM σ)} {files : σ → FileSystem Id} {w : σ}

def checkup (o : Observer) (host : Host (StateM σ)) (w : σ) : Checkup :=
  let ((observer, result), c) := (o.check (host.chronicled id)).run ⟨w, []⟩
  ⟨observer, result, c.entries⟩

/-- What a check comes to if there is nothing but the file system that is looked at. -/
def solo (o : Observer) (volumes : VolumeId → FileSystem Id) : Checkup :=
  o.checkup (.alone (volumes o.volume)) ()

theorem run_check_chronicled (o : Observer) (host : Host (StateM σ)) (w : σ) (log : List Hearing) :
    (o.check (host.chronicled id)).run ⟨w, log⟩
      = (((o.checkup host w).observer, (o.checkup host w).result),
        ⟨((o.check host).run w).2, log ++ (o.checkup host w).heard⟩) := by
  obtain ⟨es, hes⟩ := (host.simulates_chronicled id).check o w
  rw [checkup, hes, hes, List.nil_append]

def forecast (o : Observer) (now : FileSystem Id) : Checkup :=
  match o.state, o.survey now with
  | .destroyed, _ => ⟨o, .error (.destroyed o.root), []⟩
  | _, .error e => ⟨o, .error e, []⟩
  | .uninitialized, .ok s => ⟨{ o with snapshot := s, state := .ready }, .ok [], []⟩
  | .ready, .ok s =>
    let events := o.comparator.toEntryOrder.diff o.snapshot s
    ⟨{ o with snapshot := s }, .ok events, (signals { o with snapshot := s } events).flatMap
      fun signal => o.listeners.map fun l => ⟨l, signal, .ok ()⟩⟩

theorem agrees_forecast (o : Observer) (h : host.Reads files (files w)) :
    (o.checkup host w).Agrees (o.forecast (files w)) := by
  have hsurvey := o.capture_of_reads h
  rw [forecast, ← hsurvey]
  obtain ⟨root, filter, sensitivity, comparator, listeners, state, snapshot, volume⟩ := o
  cases state with
  | destroyed => exact ⟨rfl, rfl, rfl⟩
  | uninitialized =>
      simp only [checkup, check, takeBaseline, reduceCtorEq, if_false, StateT.run_bind,
        capture_chronicled, Chronicle.run_quietly]
      cases ((capture _ host).run w).1 <;> exact ⟨rfl, rfl, rfl⟩
  | ready =>
      cases hcapture : ((capture _ host).run w).1 with
      | error e =>
          rw [checkup, check_of_ready rfl, StateT.run_bind, capture_chronicled,
            Chronicle.run_quietly, hcapture]
          exact ⟨rfl, rfl, rfl⟩
      | ok s =>
          obtain ⟨hs, w', hcalls, -, -, hrun⟩ :=
            run_check_of_capture host id rfl (Prod.ext hcapture rfl)
          rw [checkup, hrun, List.nil_append, List.map_id]
          refine ⟨rfl, hcalls.trans ?_, rfl⟩
          simp [Checkup.calls, List.map_flatMap, Hearing.call, Function.comp_def]

variable {volumes : VolumeId → FileSystem Id}

theorem blank_solo (o : Observer) (volumes : VolumeId → FileSystem Id) :
    (o.solo volumes).observer.blank = o.blank :=
  o.blank_check ((Host.alone (volumes o.volume)).chronicled id) ⟨(), []⟩

theorem volume_solo (o : Observer) (volumes : VolumeId → FileSystem Id) :
    (o.solo volumes).observer.volume = o.volume := by
  have hvolume := congrArg Observer.volume (o.blank_solo volumes)
  exact hvolume

theorem problems_solo (o : Observer) (volumes : VolumeId → FileSystem Id) :
    (o.solo volumes).problems = [] := by
  have hquiet : ((Host.alone (volumes o.volume)).chronicled id).Simulates
      (.preserving fun c => c.entries.filterMap Hearing.problem? = [])
      ((Host.alone (volumes o.volume)).chronicled id) :=
    { metadata := fun _ _ h => h
      linkMetadata := fun _ _ h => h
      list := fun _ _ h => h
      note := fun _ _ h => h
      tell := fun l s c h => by
        change (c.entries ++ [(⟨l, s, .ok ()⟩ : Hearing)]).filterMap Hearing.problem? = []
        rw [List.filterMap_append, h]
        rfl
      contents_eq := rfl
      depthLimit_eq := rfl }
  exact hquiet.check o (⟨(), []⟩ : Chronicle Hearing Unit) rfl

/-- In any surroundings a check comes to what it comes to on its own, but for the calls that
listeners refuse. -/
theorem agrees_solo (o : Observer) (h : host.Reads files (volumes o.volume))
    (hw : files w = volumes o.volume) : (o.checkup host w).Agrees (o.solo volumes) := by
  have hchecked : (o.checkup host w).Agrees (o.forecast (volumes o.volume)) :=
    hw ▸ o.agrees_forecast (hw ▸ h)
  exact hchecked.trans (o.agrees_forecast (Host.reads_alone (volumes o.volume)))
    (o.problems_solo volumes)

end Observer

end TreeWatch
