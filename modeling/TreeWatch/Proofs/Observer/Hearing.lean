import TreeWatch.Observer
import TreeWatch.Proofs.Snapshot.Recorded

/-!
# Telling listeners

What a check tells its listeners, and what they make of it, written down call by call
(`Host.chronicled`). Whatever fails, everything is told to everybody (`run_notify`): each failed
call is counted, and what is said of the first one is kept.
-/

namespace TreeWatch

structure Hearing where
  listener : ListenerId
  signal : Signal
  result : Except String Unit

namespace Hearing

def call (h : Hearing) : ListenerId × Signal := (h.listener, h.signal)

def problem? (h : Hearing) : Option String :=
  match h.result with
  | .ok () => none
  | .error problem => some (h.signal.hook ++ ": " ++ problem)

end Hearing

namespace Tally

def ofProblems (problems : List String) : Tally := ⟨problems.length, problems.head?⟩

theorem add_ofProblems (problems : List String) (hook problem : String) :
    (ofProblems problems).add hook problem
      = ofProblems (problems ++ [hook ++ ": " ++ problem]) := by
  cases problems <;> simp [ofProblems, add]

end Tally

variable {σ ε α β : Type}

namespace Host

/-- The surroundings of an observer, with every call of a listener written down. -/
def chronicled (host : Host (StateM σ)) (entry : Hearing → ε) :
    Host (StateM (Chronicle ε σ)) where
  files := host.files.quietly
  note r := Chronicle.quietly (host.note r)
  tell l s := Chronicle.noting (fun result => entry ⟨l, s, result⟩) (host.tell l s)
  volume v := (host.volume v).quietly

/-- Telling several listeners something, with notes in between, leads from one world to another. -/
inductive Tells (host : Host (StateM σ)) : σ → List Hearing → σ → Prop
  | nil (w : σ) : Tells host w [] w
  | tell {w w' : σ} {l : ListenerId} {s : Signal} {hs : List Hearing}
      (h : Tells host ((host.tell l s).run w).2 hs w') :
      Tells host w (⟨l, s, ((host.tell l s).run w).1⟩ :: hs) w'
  | note {w w' : σ} {r : Remark} {hs : List Hearing}
      (h : Tells host ((host.note r).run w).2 hs w') : Tells host w hs w'

theorem Tells.append {host : Host (StateM σ)} {w w₁ w₂ : σ} {hs hs₁ : List Hearing}
    (h : host.Tells w hs w₁) (h₁ : host.Tells w₁ hs₁ w₂) : host.Tells w (hs ++ hs₁) w₂ := by
  induction h with
  | nil w => exact h₁
  | tell _ ih => exact .tell (ih h₁)
  | note _ ih => exact .note (ih h₁)

/-- What is done in a world tells listeners something and comes to the same when it is written
down. -/
structure Performs (host : Host (StateM σ)) (entry : Hearing → ε) (x : StateM σ α)
    (y : StateM (Chronicle ε σ) α) (w : σ) (a : α) (hs : List Hearing) (w' : σ) : Prop where
  run_eq : x.run w = (a, w')
  run_chronicled_eq : ∀ log, y.run ⟨w, log⟩ = (a, ⟨w', log ++ hs.map entry⟩)
  tells : host.Tells w hs w'

namespace Performs

variable {host : Host (StateM σ)} {entry : Hearing → ε} {w w₁ w₂ : σ} {hs hs₁ : List Hearing}

theorem pure (a : α) (w : σ) : host.Performs entry (Pure.pure a) (Pure.pure a) w a [] w where
  run_eq := rfl
  run_chronicled_eq log := by
    rw [List.map_nil, List.append_nil]
    rfl
  tells := .nil w

theorem bind {x : StateM σ α} {y : StateM (Chronicle ε σ) α} {f : α → StateM σ β}
    {g : α → StateM (Chronicle ε σ) β} {a : α} {b : β} (hx : host.Performs entry x y w a hs w₁)
    (hf : host.Performs entry (f a) (g a) w₁ b hs₁ w₂) :
    host.Performs entry (x >>= f) (y >>= g) w b (hs ++ hs₁) w₂ where
  run_eq := by
    rw [StateT.run_bind, hx.run_eq]
    exact hf.run_eq
  run_chronicled_eq log := by
    rw [StateT.run_bind, hx.run_chronicled_eq, List.map_append, ← List.append_assoc]
    exact hf.run_chronicled_eq _
  tells := hx.tells.append hf.tells

theorem note (host : Host (StateM σ)) (entry : Hearing → ε) (r : Remark) (w : σ) :
    host.Performs entry (host.note r) ((host.chronicled entry).note r) w () []
      ((host.note r).run w).2 where
  run_eq := rfl
  run_chronicled_eq log := by
    rw [List.map_nil, List.append_nil]
    rfl
  tells := .note (.nil _)

theorem tell (host : Host (StateM σ)) (entry : Hearing → ε) (l : ListenerId) (s : Signal)
    (w : σ) : host.Performs entry (host.tell l s) ((host.chronicled entry).tell l s) w
      ((host.tell l s).run w).1 [⟨l, s, ((host.tell l s).run w).1⟩]
      ((host.tell l s).run w).2 where
  run_eq := rfl
  run_chronicled_eq _ := rfl
  tells := .tell (.nil _)

end Performs

end Host

namespace Observer

variable {o : Observer}

theorem capture_chronicled (o : Observer) (host : Host (StateM σ)) (entry : Hearing → ε) :
    o.capture (host.chronicled entry) = Chronicle.quietly (o.capture host) := by
  have h : Camera.Simulates Chronicle.quiet
      ⟨host.files, host.note, o.accepts host.files.contents, o.comparator.toEntryOrder⟩
      ⟨(host.chronicled entry).files, (host.chronicled entry).note,
        o.accepts (host.chronicled entry).files.contents, o.comparator.toEntryOrder⟩ :=
    ⟨fun _ => rfl, fun _ => rfl, fun _ => rfl, fun _ => rfl, rfl, rfl, rfl⟩
  exact h.capture o.root

def signals (o : Observer) (events : List Event) : List Signal :=
  .start o.root o.snapshot :: events.map .event ++ [.stop o.root o.snapshot]

/-- What a check comes to that has found some events, by what is said of the calls that failed. -/
def verdict (o : Observer) (events : List Event) : List String → Except Error (List Event)
  | [] => .ok events
  | first :: others => .error (.listeners o.root (others.length + 1) first)

variable (host : Host (StateM σ)) (entry : Hearing → ε)

theorem run_tellAll (root : Path) (s : Signal) (ls : List ListenerId) (problems : List String)
    (w : σ) : ∃ hs w', hs.map Hearing.call = ls.map (fun l => (l, s)) ∧
      host.Performs entry (tellAll host root s ls (.ofProblems problems))
        (tellAll (host.chronicled entry) root s ls (.ofProblems problems)) w
        (.ofProblems (problems ++ hs.filterMap Hearing.problem?)) hs w' := by
  induction ls generalizing problems w with
  | nil =>
      refine ⟨[], w, rfl, ?_⟩
      rw [List.filterMap_nil, List.append_nil]
      exact .pure _ w
  | cons l ls ih =>
      have htell := Host.Performs.tell host entry l s w
      cases hresult : ((host.tell l s).run w).1 with
      | ok u =>
          rw [hresult] at htell
          obtain ⟨hs, w', hcalls, hrest⟩ := ih problems ((host.tell l s).run w).2
          refine ⟨⟨l, s, .ok u⟩ :: hs, w', by rw [List.map_cons, hcalls]; rfl, ?_⟩
          exact htell.bind hrest
      | error problem =>
          rw [hresult] at htell
          have hnote := Host.Performs.note host entry (.listenerFailed root s.hook problem)
            ((host.tell l s).run w).2
          obtain ⟨hs, w', hcalls, hrest⟩ := ih (problems ++ [s.hook ++ ": " ++ problem])
            ((host.note (.listenerFailed root s.hook problem)).run ((host.tell l s).run w).2).2
          rw [← Tally.add_ofProblems, List.append_assoc] at hrest
          refine ⟨⟨l, s, .error problem⟩ :: hs, w', by rw [List.map_cons, hcalls]; rfl, ?_⟩
          exact htell.bind (hnote.bind hrest)

/-- Everything is told to every listener before the next thing is told. -/
theorem run_tellEach (o : Observer) (ss : List Signal) (problems : List String) (w : σ) :
    ∃ hs w', hs.map Hearing.call = ss.flatMap (fun s => o.listeners.map fun l => (l, s)) ∧
      host.Performs entry (o.tellEach host ss (.ofProblems problems))
        (o.tellEach (host.chronicled entry) ss (.ofProblems problems)) w
        (.ofProblems (problems ++ hs.filterMap Hearing.problem?)) hs w' := by
  induction ss generalizing problems w with
  | nil =>
      refine ⟨[], w, rfl, ?_⟩
      rw [List.filterMap_nil, List.append_nil]
      exact .pure _ w
  | cons s ss ih =>
      obtain ⟨hs, w₁, hcalls, htell⟩ := run_tellAll host entry o.root s o.listeners problems w
      obtain ⟨hs₁, w', hcalls₁, hrest⟩ := ih (problems ++ hs.filterMap Hearing.problem?) w₁
      refine ⟨hs ++ hs₁, w', by simp [hcalls, hcalls₁], ?_⟩
      rw [List.filterMap_append, ← List.append_assoc]
      exact htell.bind hrest

/-- Whatever fails, everything that a check found is told to every listener. -/
theorem run_notify (o : Observer) (events : List Event) (w : σ) :
    ∃ hs w', hs.map Hearing.call
        = (o.signals events).flatMap (fun s => o.listeners.map fun l => (l, s)) ∧
      ∃ r, r.map (fun _ => events) = o.verdict events (hs.filterMap Hearing.problem?) ∧
        host.Performs entry (o.notify host events) (o.notify (host.chronicled entry) events) w r
          hs w' := by
  obtain ⟨hs, w', hcalls, htell⟩ := run_tellEach host entry o (o.signals events) [] w
  refine ⟨hs, w', hcalls, ?_⟩
  rw [List.nil_append] at htell
  rw [notify, notify]
  cases hproblems : hs.filterMap Hearing.problem? with
  | nil =>
      rw [hproblems] at htell
      exact ⟨.ok (), rfl, List.append_nil hs ▸ htell.bind (.pure _ w')⟩
  | cons first others =>
      rw [hproblems] at htell
      exact ⟨.error (.listeners o.root (others.length + 1) first), rfl,
        List.append_nil hs ▸ htell.bind (.pure _ w')⟩

theorem check_of_ready {m : Type → Type} [Monad m] (hstate : o.state = .ready) (host : Host m) :
    o.check host = o.capture host >>= fun r => match r with
      | .error e => do
        host.note (.captureFailed o.root e.message)
        return (o, .error e)
      | .ok s => do
        host.note (.checked o.root (o.comparator.toEntryOrder.diff o.snapshot s).length)
        let result ← notify { o with snapshot := s } host
          (o.comparator.toEntryOrder.diff o.snapshot s)
        return ({ o with snapshot := s },
          result.map fun _ => o.comparator.toEntryOrder.diff o.snapshot s) := by
  obtain ⟨root, filter, sensitivity, comparator, listeners, state, snapshot, volume⟩ := o
  obtain rfl : state = .ready := hstate
  rfl

/-- A check that can take a snapshot keeps it and then tells what it has found to every listener,
whatever fails. -/
theorem run_check_of_capture (hstate : o.state = .ready) {w w₁ : σ} {s : Entry}
    (hcapture : (o.capture host).run w = (.ok s, w₁)) :
    ∃ hs w', hs.map Hearing.call
        = (signals { o with snapshot := s } (o.comparator.toEntryOrder.diff o.snapshot s)).flatMap
          (fun signal => o.listeners.map fun l => (l, signal)) ∧
      host.Tells w₁ hs w' ∧
      (o.check host).run w = (({ o with snapshot := s },
        o.verdict (o.comparator.toEntryOrder.diff o.snapshot s)
          (hs.filterMap Hearing.problem?)), w') ∧
      ∀ log, (o.check (host.chronicled entry)).run ⟨w, log⟩ = (({ o with snapshot := s },
        o.verdict (o.comparator.toEntryOrder.diff o.snapshot s)
          (hs.filterMap Hearing.problem?)), ⟨w', log ++ hs.map entry⟩) := by
  let events := o.comparator.toEntryOrder.diff o.snapshot s
  let o₁ : Observer := { o with snapshot := s }
  have hnote := Host.Performs.note host entry (.checked o.root events.length) w₁
  obtain ⟨hs, w', hcalls, r, hr, hnotify⟩ := run_notify host entry o₁ events
    ((host.note (.checked o.root events.length)).run w₁).2
  have htold := hnote.bind (f := fun _ => do
      let result ← o₁.notify host events
      return (o₁, result.map fun _ => events)) (g := fun _ => do
      let result ← o₁.notify (host.chronicled entry) events
      return (o₁, result.map fun _ => events)) (hnotify.bind (.pure (o₁, r.map fun _ => events) w'))
  rw [List.append_nil, List.nil_append, hr] at htold
  refine ⟨hs, w', hcalls, htold.tells, ?_, fun log => ?_⟩
  · rw [check_of_ready hstate, StateT.run_bind, hcapture]
    exact htold.run_eq
  · rw [check_of_ready hstate, StateT.run_bind, capture_chronicled, Chronicle.run_quietly,
      hcapture]
    exact htold.run_chronicled_eq log

end Observer

end TreeWatch
