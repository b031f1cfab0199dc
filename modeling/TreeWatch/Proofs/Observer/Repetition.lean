import TreeWatch.Proofs.Diff.Conservation
import TreeWatch.Proofs.Observer.Delivery

/-!
# Nothing is reported twice

If a snapshot was taken of the files as they are, a check finds nothing: it takes the same
snapshot again, and no tree differs from itself. Since a snapshot is kept before anyone is told of
it, this is so whether or not listeners refused what they were told (`Life.reports_nothing`).
-/

namespace TreeWatch

variable {σ τ : Type}

/-- What is done comes to a fixed result as long as a part of the world is as it is, and leaves
this part so. -/
def Simulation.reading (part : σ → τ) (t : τ) : Simulation Id (StateM σ) where
  rel x y := ∀ w, part w = t → (y.run w).1 = x.run ∧ part (y.run w).2 = t
  pure _ _ hw := ⟨rfl, hw⟩
  bind := by
    intro α β x y f g hx hf w hw
    obtain ⟨hresult, hpart⟩ := hx w hw
    rw [StateT.run_bind, Id.run_bind, ← hresult]
    exact hf _ _ hpart

/-- The files are a part of the world that answers all questions, and neither a question nor a
note changes them. -/
structure Host.Reads (host : Host (StateM σ)) (files : σ → FileSystem Id) (now : FileSystem Id) :
    Prop where
  metadata : ∀ p, (Simulation.reading files now).rel (now.metadata p) (host.files.metadata p)
  linkMetadata : ∀ p,
    (Simulation.reading files now).rel (now.linkMetadata p) (host.files.linkMetadata p)
  list : ∀ p, (Simulation.reading files now).rel (now.list p) (host.files.list p)
  note : ∀ r w, files w = now → files ((host.note r).run w).2 = now
  contents_eq : host.files.contents = now.contents
  depthLimit_eq : host.files.depthLimit = now.depthLimit

theorem Session.reads_host (st : State) :
    (host st).Reads (fun st => st.store.fileSystem) st.store.fileSystem where
  metadata _ _ h := ⟨rfl, h⟩
  linkMetadata _ _ h := ⟨rfl, h⟩
  list _ _ h := ⟨rfl, h⟩
  note _ _ h := h
  contents_eq := rfl
  depthLimit_eq := rfl

namespace Observer

def survey (o : Observer) (files : FileSystem Id) : Except Error Entry :=
  (o.capture (m := Id)
    { files := files, note := fun _ => pure (), tell := fun _ _ => pure (.ok ()) }).run

theorem capture_of_reads (o : Observer) {host : Host (StateM σ)} {files : σ → FileSystem Id}
    {w : σ} (h : host.Reads files (files w)) :
    ((o.capture host).run w).1 = o.survey (files w) := by
  have hcamera : Camera.Simulates (.reading files (files w))
      ⟨files w, fun _ => pure (), o.accepts (files w).contents, o.comparator.toEntryOrder⟩
      ⟨host.files, host.note, o.accepts host.files.contents, o.comparator.toEntryOrder⟩ :=
    { metadata := h.metadata
      linkMetadata := h.linkMetadata
      list := h.list
      note := fun r w hw => ⟨rfl, h.note r w hw⟩
      accepts_eq := by rw [h.contents_eq]
      order_eq := rfl
      depthLimit_eq := h.depthLimit_eq }
  exact (hcamera.capture o.root w rfl).1

def origin (o : Observer) : Observer := { o.blank with listeners := [] }

theorem origin_addListener (o : Observer) (l : ListenerId) :
    (o.addListener l).origin = o.origin := by
  rw [addListener]
  split <;> rfl

end Observer

namespace Life

theorem origin_turn (host : σ → Host (StateM σ)) (x : Life σ) (call : Call σ) :
    (x.turn host call).2.observer.origin = x.observer.origin := by
  rw [Observer.origin, x.blank_turn host call]
  cases call with
  | addListener l => exact x.observer.origin_addListener l
  | _ => rfl

theorem origin_run (host : σ → Host (StateM σ)) (x : Life σ) (calls : List (Call σ)) :
    (x.run host calls).observer.origin = x.observer.origin := by
  induction calls generalizing x with
  | nil => rfl
  | cons call calls ih => exact (ih _).trans (x.origin_turn host call)

theorem capture_of_attempt {host : σ → Host (StateM σ)} {x : Life σ} {call : Call σ}
    {r : Except Error Entry} (h : x.attempt host call = some r) :
    ((x.observer.capture (host x.world)).run x.world).1 = r := by
  unfold attempt at h
  split at h
  · split at h
    · cases h
    · exact Option.some.inj h
  · split at h
    · cases h
    · exact Option.some.inj h
  · cases h

/-- The next check takes a snapshot again that an observer has, changes nothing of the observer, and
tells only that it begins and that it is over. It may still say that listeners refused this. -/
structure FindsNothing (host : σ → Host (StateM σ)) (y : Life σ) (s : Entry) : Prop where
  capture_eq : ((y.observer.capture (host y.world)).run y.world).1 = .ok s
  snapshot_eq : y.observer.snapshot = s
  turn_eq : ∃ problems w', y.turn host .check
    = (y.observer.verdict [] problems, ⟨y.observer, w', y.told
      ++ y.observer.listeners.map (·, .start y.observer.root s)
      ++ y.observer.listeners.map (·, .stop y.observer.root s)⟩)

theorem findsNothing_of_capture {host : σ → Host (StateM σ)} {y : Life σ}
    (hstate : y.observer.state = .ready)
    (hcapture : ((y.observer.capture (host y.world)).run y.world).1 = .ok y.observer.snapshot) :
    y.FindsNothing host y.observer.snapshot where
  capture_eq := hcapture
  snapshot_eq := rfl
  turn_eq := by
    obtain ⟨hs, w', hcalls, -, -, hrun⟩ := Observer.run_check_of_capture (host y.world)
      Hearing.call hstate (Prod.ext hcapture rfl)
    have hevents := y.observer.comparator.toEntryOrder.diff_self
      y.observer.comparator.same_self y.observer.snapshot
    refine ⟨hs.filterMap Hearing.problem?, w', ?_⟩
    have hturn := hrun y.told
    rw [hevents] at hturn hcalls
    rw [hcalls] at hturn
    change (y.observer.check (host y.world).recorded).run ⟨y.world, y.told⟩ = _ at hturn
    rw [turn, hturn]
    simp [Observer.signals]

section

variable {host : σ → Host (StateM σ)} {x : Life σ} {call : Call σ} {s : Entry}
  {calls : List (Call σ)}

theorem snapshot_run_of_attempt (hattempt : x.attempt host call = some (.ok s))
    (hcalls : ∀ r ∈ attempts host (x.turn host call).2 calls, ∀ s, r ≠ .ok s) :
    (run host (x.turn host call).2 calls).observer.snapshot = s := by
  have hnone : latest (attempts host (x.turn host call).2 calls) = none := by
    rw [latest, List.getLast?_eq_none_iff, List.filterMap_eq_nil_iff]
    rintro (e | t) hr
    · rfl
    · exact absurd rfl (hcalls _ hr t)
  rw [snapshot_run, hnone, Option.getD_none, (x.turn_turn host call).snapshot_eq, hattempt]
  rfl

/-- What is attempted depends on nothing of an observer that can change. -/
theorem survey_of_attempt {files : σ → FileSystem Id}
    (hhost : ∀ w, (host w).Reads files (files w)) (hattempt : x.attempt host call = some (.ok s)) :
    x.observer.origin.survey (files x.world) = .ok s :=
  (x.observer.capture_of_reads (hhost x.world)).symm.trans (capture_of_attempt hattempt)

theorem capture_run_of_attempt {files : σ → FileSystem Id}
    (hhost : ∀ w, (host w).Reads files (files w)) (hattempt : x.attempt host call = some (.ok s))
    {y : Life σ} (hy : run host (x.turn host call).2 calls = y)
    (hfiles : files y.world = files x.world) :
    ((y.observer.capture (host y.world)).run y.world).1 = .ok s := by
  have horigin : y.observer.origin = x.observer.origin := by
    rw [← hy, origin_run, origin_turn]
  calc ((y.observer.capture (host y.world)).run y.world).1
    _ = y.observer.origin.survey (files y.world) := y.observer.capture_of_reads (hhost y.world)
    _ = x.observer.origin.survey (files x.world) := by rw [horigin, hfiles]
    _ = .ok s := survey_of_attempt hhost hattempt

end

/-- No tree differs from itself, whatever its order. So if the last snapshot that an observer took
is one of the files as they are, the next check finds nothing, whatever became of the calls of
listeners. -/
theorem reports_nothing :
    (∀ (c : Comparator) (t : Entry), c.toEntryOrder.diff t t = []) ∧
    ∀ (σ : Type) (host : σ → Host (StateM σ)) (files : σ → FileSystem Id) (x y : Life σ)
      (call : Call σ) (s : Entry) (calls : List (Call σ)),
      (∀ w, (host w).Reads files (files w)) → x.attempt host call = some (.ok s) →
      (∀ r ∈ attempts host (x.turn host call).2 calls, ∀ s, r ≠ .ok s) →
      run host (x.turn host call).2 calls = y → y.observer.state = .ready →
      files y.world = files x.world → y.FindsNothing host s := by
  refine ⟨fun c t => c.toEntryOrder.diff_self c.same_self t, ?_⟩
  intro σ host files x y call s calls hhost hattempt hcalls hy hstate hfiles
  have hsnapshot : y.observer.snapshot = s := hy ▸ snapshot_run_of_attempt hattempt hcalls
  have hcapture := capture_run_of_attempt hhost hattempt hy hfiles
  rw [← hsnapshot] at hcapture ⊢
  exact findsNothing_of_capture hstate hcapture

def calmed : Life Session.State :=
  run Session.host (crowded.turn Session.host .check).2 [.removeListener 1]

theorem reports_nothing_calmed :
    ∃ s, crowded.attempt Session.host .check = some (.ok s) ∧
      (crowded.turn Session.host .check).1.isOk = false ∧
      calmed.observer.state = .ready ∧
      calmed.world.store.fileSystem (m := Id) = crowded.world.store.fileSystem ∧
      calmed.FindsNothing Session.host s := by
  have hstate : calmed.observer.state = .ready := by decide +kernel
  have hstore : calmed.world.store = crowded.world.store := by cbv
  have hfiles : calmed.world.store.fileSystem (m := Id) = crowded.world.store.fileSystem := by
    rw [hstore]
  have hok : (crowded.attempt Session.host .check).map Except.isOk = some true := by
    decide +kernel
  cases hattempt : crowded.attempt Session.host .check with
  | none =>
      rw [hattempt] at hok
      cases hok
  | some r =>
      cases r with
      | error e =>
          rw [hattempt] at hok
          cases hok
      | ok s =>
          refine ⟨s, rfl, by decide +kernel, hstate, hfiles, ?_⟩
          exact reports_nothing.2 _ Session.host (fun st => st.store.fileSystem) crowded calmed
            .check s [.removeListener 1] Session.reads_host hattempt
            (by simp [attempts, attempt]) rfl hstate hfiles

end Life

end TreeWatch
