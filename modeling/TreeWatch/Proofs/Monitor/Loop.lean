import TreeWatch.Monitor
import TreeWatch.Proofs.Observer.Life

/-!
# The loop of a running monitor

The loop of a monitor that runs waits until its timer is over or somebody asks it to stop. When the
timer is over it runs a cycle, one observer after another, and after the cycle it looks whether it
was asked to stop meanwhile. In between, in any order, time passes, the world changes and requests
arrive (`Loop.Step`); whoever can ask is there as long as the loop runs. Wherever that leads, the
observers are the ones that the monitor was started with, and a request is there until it is taken
up (`Loop.sound_of_run`).
-/

namespace TreeWatch

variable {σ : Type}

namespace Monitor

variable {host : Host (StateM σ)}

theorem run_checkAll_cons (host : Host (StateM σ)) (o : Observer) (r : CycleReport) (w : σ) :
    ∃ r₁ w₁, ∀ os, (checkAll host (o :: os) r).run w
      = ((((o.check (host.over o.volume)).run w).1.1 :: ((checkAll host os r₁).run w₁).1.1,
        ((checkAll host os r₁).run w₁).1.2), ((checkAll host os r₁).run w₁).2) := by
  simp only [checkAll, StateT.run_bind]
  cases (o.check (host.over o.volume)).run w with
  | mk a w₁ =>
      cases a with
      | mk o' result => cases result <;> exact ⟨_, _, fun os => rfl⟩

theorem map_blank_takeBaselines (os : List Observer) (w : σ) :
    ((takeBaselines host os).run w).1.map Observer.blank = os.map Observer.blank := by
  induction os generalizing w with
  | nil => rfl
  | cons o os ih =>
      have hblank := o.blank_takeBaseline (host.over o.volume) w
      rw [takeBaselines, StateT.run_bind]
      cases hrun : (o.takeBaseline (host.over o.volume)).run w with
      | mk a w₁ =>
          rw [hrun] at hblank
          cases a with
          | mk o' result =>
              cases result with
              | ok u => exact congrArg₂ List.cons hblank (ih w₁)
              | error e => exact congrArg₂ List.cons hblank (ih _)

theorem run_destroyAll (host : Host (StateM σ)) (os : List Observer) (w : σ) :
    ((destroyAll host os).run w).1 = os.map fun o => { o with state := .destroyed } := by
  induction os generalizing w with
  | nil => rfl
  | cons o os ih =>
      rw [destroyAll, StateT.run_bind]
      exact congrArg₂ List.cons (o.run_destroy (host.over o.volume) w) (ih _)

end Monitor

namespace Loop

/-- A value that is sent from one side to another: the last one that was sent, and whether the
other side has not taken notice of it yet. -/
structure Flag where
  value : Bool
  isNew : Bool
deriving DecidableEq

inductive Phase where
  /-- About to wait, without a timer. -/
  | idle (os : List Observer)
  /-- Waiting for a timer or for a request. -/
  | waiting (os : List Observer) (deadline : ℕ) (isOver : Bool)
  /-- In a cycle: some observers are checked, the others are not yet. -/
  | cycling (checked rest : List Observer) (report : CycleReport)
  | finished (os : List Observer)
  | ended (os : List Observer)

namespace Phase

def observers : Phase → List Observer
  | idle os => os
  | waiting os _ _ => os
  | cycling checked rest _ => checked ++ rest
  | finished os => os
  | ended os => os

def isEnded : Phase → Bool
  | ended _ => true
  | _ => false

end Phase

/-- What happens next: something around the loop, or a step of the loop. -/
inductive Act (σ : Type) where
  | pass (d : ℕ)
  | change (f : σ → σ)
  /-- Somebody asks the loop to stop. -/
  | request
  | wait
  | expire
  | start
  | check (i : ℕ)
  | complete
  /-- The loop was not asked to stop during a cycle. -/
  | resume
  /-- The loop takes up a request. -/
  | quit

namespace Act

def isOwn : Act σ → Bool
  | pass _ | change _ | request => false
  | _ => true

def isCycle : Act σ → Bool
  | start | check _ | complete => true
  | _ => false

def isStart : Act σ → Bool
  | start => true
  | _ => false

end Act

end Loop

structure Loop (σ : Type) where
  interval : Duration
  phase : Loop.Phase
  /-- Whether the loop was asked to stop. -/
  flag : Loop.Flag
  /-- Nanoseconds since the start. -/
  now : ℕ
  world : σ

namespace Loop

def launch (host : σ → Host (StateM σ)) (m : Monitor) (w : σ) : Loop σ :=
  let (r, world) := (RunningMonitor.start m (host w)).run w
  ⟨r.monitor.interval, .idle r.monitor.observers, ⟨false, false⟩, r.elapsed.nanoseconds, world⟩

/-- A request is sent; the receiver has not taken notice of it. -/
def requested (s : Loop σ) : Loop σ := { s with flag := ⟨true, true⟩ }

def checkNext (host : Host (StateM σ)) (s : Loop σ) (checked : List Observer) (o : Observer)
    (rest : List Observer) (report : CycleReport) : Loop σ :=
  let ((os, report), world) := (Monitor.checkAll host [o] report).run s.world
  { s with phase := .cycling (checked ++ os) rest report, world }

def close (host : Host (StateM σ)) (s : Loop σ) (os : List Observer) (report : CycleReport) :
    Loop σ :=
  let ((), world) :=
    (host.note (.cycleDone report.checked report.events report.failures)).run s.world
  { s with phase := .finished os, world }

def shut (host : Host (StateM σ)) (s : Loop σ) (os : List Observer) : Loop σ :=
  let (os, world) :=
    (RunningMonitor.stop ⟨⟨s.interval, os⟩, ⟨s.now⟩⟩ host).run s.world
  { s with phase := .ended os, world }

/-- What can happen next, and what it leads to. A waiting loop that has both a timer that is over
and a request may go either way. -/
inductive Step (host : σ → Host (StateM σ)) : Act σ → Loop σ → Loop σ → Prop
  | pass (s : Loop σ) (d : ℕ) : Step host (.pass d) s { s with now := s.now + d }
  | change (s : Loop σ) (f : σ → σ) : Step host (.change f) s { s with world := f s.world }
  | request (s : Loop σ) : Step host .request s s.requested
  | wait {s : Loop σ} {os : List Observer} (hphase : s.phase = .idle os) : Step host .wait s
      { s with phase := .waiting os (s.now + s.interval.nanoseconds) false }
  | expire {s : Loop σ} {os : List Observer} {deadline : ℕ}
      (hphase : s.phase = .waiting os deadline false) (hdeadline : deadline ≤ s.now) :
      Step host .expire s { s with phase := .waiting os deadline true }
  | start {s : Loop σ} {os : List Observer} {deadline : ℕ}
      (hphase : s.phase = .waiting os deadline true) :
      Step host .start s { s with phase := .cycling [] os {} }
  | check {s : Loop σ} {checked rest : List Observer} {o : Observer} {report : CycleReport}
      (hphase : s.phase = .cycling checked (o :: rest) report) :
      Step host (.check checked.length) s (s.checkNext (host s.world) checked o rest report)
  | complete {s : Loop σ} {checked : List Observer} {report : CycleReport}
      (hphase : s.phase = .cycling checked [] report) :
      Step host .complete s (s.close (host s.world) checked report)
  | resume {s : Loop σ} {os : List Observer} (hphase : s.phase = .finished os)
      (hflag : s.flag.value = false) : Step host .resume s { s with phase := .idle os }
  | wake {s : Loop σ} {os : List Observer} {deadline : ℕ} {isOver : Bool}
      (hphase : s.phase = .waiting os deadline isOver) (hflag : s.flag.isNew = true) :
      Step host .quit s { s.shut (host s.world) os with flag := { s.flag with isNew := false } }
  | leave {s : Loop σ} {os : List Observer} (hphase : s.phase = .finished os)
      (hflag : s.flag.value = true) : Step host .quit s (s.shut (host s.world) os)

inductive Run (step : Act σ → Loop σ → Loop σ → Prop) : Loop σ → List (Act σ) → Loop σ → Prop
  | nil (s : Loop σ) : Run step s [] s
  | concat {s t u : Loop σ} {acts : List (Act σ)} {a : Act σ} (h : Run step s acts t)
      (hstep : step a t u) : Run step s (acts ++ [a]) u

variable {host : σ → Host (StateM σ)} {s t : Loop σ} {a : Act σ} {acts : List (Act σ)}
  {os : List Observer}

theorem exists_checkNext (host : Host (StateM σ)) (s : Loop σ) (checked : List Observer)
    (o : Observer) (rest : List Observer) (report : CycleReport) : ∃ o' report' world,
      o'.blank = o.blank ∧ s.checkNext host checked o rest report
        = { s with phase := .cycling (checked ++ [o']) rest report', world } := by
  obtain ⟨r, w, hrun⟩ := Monitor.run_checkAll_cons host o report s.world
  refine ⟨((o.check (host.over o.volume)).run s.world).1.1, r, w,
    o.blank_check (host.over o.volume) s.world, ?_⟩
  rw [checkNext, hrun]
  rfl

theorem exists_shut (host : Host (StateM σ)) (s : Loop σ) (os : List Observer) : ∃ world,
    s.shut host os
      = { s with phase := .ended (os.map fun o => { o with state := .destroyed }), world } := by
  rw [← Monitor.run_destroyAll host os s.world]
  exact ⟨_, rfl⟩

structure Sound (blanks : List Observer) (s : Loop σ) : Prop where
  /-- The observers are still the same, in the same order. -/
  map_blank : s.phase.observers.map Observer.blank = blanks
  destroyed : ∀ os, s.phase = .ended os → ∀ o ∈ os, o.state = .destroyed
  value_of_isNew : s.flag.isNew = true → s.flag.value = true
  /-- A request is there to be taken up until the loop has ended. -/
  isNew_of_value : s.flag.value = true → s.phase.isEnded = false → s.flag.isNew = true
  value_of_isEnded : s.phase.isEnded = true → s.flag.value = true

variable {blanks : List Observer}

theorem Sound.move (hs : Sound blanks s) (hended : s.phase.isEnded = false) {p : Phase} {w : σ}
    (hp : p.isEnded = false)
    (hmap : p.observers.map Observer.blank = s.phase.observers.map Observer.blank) :
    Sound blanks { s with phase := p, world := w } where
  map_blank := hmap.trans hs.map_blank
  destroyed os h := by
    subst h
    cases hp
  value_of_isNew := hs.value_of_isNew
  isNew_of_value hvalue _ := hs.isNew_of_value hvalue hended
  value_of_isEnded h := by
    rw [hp] at h
    cases h

theorem Sound.shut (hs : Sound blanks s) (hos : s.phase.observers = os)
    (hvalue : s.flag.value = true) (host : Host (StateM σ)) (isNew : Bool) :
    Sound blanks { s.shut host os with flag := { s.flag with isNew } } := by
  obtain ⟨world, hshut⟩ := exists_shut host s os
  rw [hshut]
  constructor
  case map_blank =>
    rw [← hs.map_blank, hos]
    exact List.map_map
  case destroyed =>
    rintro _ ⟨⟩ o ho
    obtain ⟨o', -, rfl⟩ := List.mem_map.1 ho
    rfl
  case value_of_isNew => exact fun _ => hvalue
  case isNew_of_value => exact fun _ h => nomatch h
  case value_of_isEnded => exact fun _ => hvalue

theorem Sound.step (hs : Sound blanks s) (h : Step host a s t) : Sound blanks t := by
  cases h with
  | pass => exact ⟨hs.map_blank, hs.destroyed, hs.value_of_isNew, hs.isNew_of_value,
      hs.value_of_isEnded⟩
  | change => exact ⟨hs.map_blank, hs.destroyed, hs.value_of_isNew, hs.isNew_of_value,
      hs.value_of_isEnded⟩
  | request => exact ⟨hs.map_blank, hs.destroyed, fun _ => rfl, fun _ _ => rfl, fun _ => rfl⟩
  | wait hphase | expire hphase | start hphase | resume hphase =>
      exact hs.move (by rw [hphase]; rfl) rfl (by rw [hphase]; rfl)
  | @check _ checked rest o report hphase =>
      obtain ⟨o', report', world, ho, hcheck⟩ :=
        exists_checkNext (host s.world) s checked o rest report
      rw [hcheck]
      exact hs.move (by rw [hphase]; rfl) rfl (by simp [hphase, Phase.observers, ho])
  | complete hphase =>
      exact hs.move (by rw [hphase]; rfl) rfl (by simp [hphase, Phase.observers])
  | wake hphase hflag =>
      exact hs.shut (by rw [hphase]; rfl) (hs.value_of_isNew hflag) _ false
  | leave hphase hflag => exact hs.shut (by rw [hphase]; rfl) hflag _ s.flag.isNew

theorem Run.induct {step : Act σ → Loop σ → Loop σ → Prop} {P : Loop σ → Prop}
    (hstep : ∀ a s t, P s → step a s t → P t) (h : Run step s acts t) (hs : P s) : P t := by
  induction h with
  | nil => exact hs
  | concat _ hlast ih => exact hstep _ _ _ ih hlast

theorem sound_launch (host : σ → Host (StateM σ)) (m : Monitor) (w : σ) :
    Sound (m.observers.map Observer.blank) (launch host m w) where
  map_blank := Monitor.map_blank_takeBaselines m.observers w
  destroyed _ h := nomatch h
  value_of_isNew h := nomatch h
  isNew_of_value h := nomatch h
  value_of_isEnded h := nomatch h

theorem sound_of_run {m : Monitor} {w : σ} (h : Run (Step host) (launch host m w) acts s) :
    Sound (m.observers.map Observer.blank) s :=
  h.induct (fun _ _ _ hs hstep => hs.step hstep) (sound_launch host m w)

end Loop

end TreeWatch
