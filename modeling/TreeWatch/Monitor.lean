import TreeWatch.Observer

/-!
# Monitors

A monitor checks its observers one after another, once in every interval. A check that fails
is noted and counted, and the others go on. Each observer looks at the file system it is for.
-/

namespace TreeWatch

/-- What came of checking all observers once. -/
structure CycleReport where
  checked : Nat := 0
  events : Nat := 0
  failures : Nat := 0
deriving DecidableEq, Repr

/-- Observers that are checked once in every interval. -/
structure Monitor where
  interval : Duration
  observers : List Observer

namespace Monitor

/-- A monitor without observers. Some time has to pass between two cycles. -/
def make (interval : Duration) : Except Error Monitor :=
  if interval.isZero then .error .zeroInterval else .ok ⟨interval, []⟩

def add (m : Monitor) (o : Observer) : Monitor := { m with observers := m.observers ++ [o] }

def remove? (m : Monitor) (root : Path) : Option (Observer × Monitor) :=
  (extract? (fun o : Observer => if o.root.same root then some o else none) m.observers).map
    fun (o, rest) => (o, { m with observers := rest })

section

variable {μ : Type → Type} [Monad μ]

def CycleReport.count (r : CycleReport) : Except Error (List Event) → CycleReport
  | .ok events => ⟨r.checked + 1, r.events + events.length, r.failures⟩
  | .error _ => ⟨r.checked + 1, r.events, r.failures + 1⟩

def checkAll (host : Host μ) : List Observer → CycleReport → μ (List Observer × CycleReport)
  | [], r => return ([], r)
  | o :: os, r => do
    let (o, result) ← o.check (host.over o.volume)
    match result with
    | .ok _ => pure ()
    | .error e => host.note (.checkFailed o.root e.message)
    let (os, r) ← checkAll host os (CycleReport.count r result)
    return (o :: os, r)

def runCycle (m : Monitor) (host : Host μ) : μ (Monitor × CycleReport) := do
  let (observers, report) ← checkAll host m.observers {}
  host.note (.cycleDone report.checked report.events report.failures)
  return ({ m with observers }, report)

/-- Takes the first snapshots of observers. One that fails is taken up by the first cycle. -/
def takeBaselines (host : Host μ) : List Observer → μ (List Observer)
  | [] => return []
  | o :: os => do
    let (o, result) ← o.takeBaseline (host.over o.volume)
    match result with
    | .ok _ => pure ()
    | .error e => host.note (.baselineFailed o.root e.message)
    return o :: (← takeBaselines host os)

def destroyAll (host : Host μ) : List Observer → μ (List Observer)
  | [] => return []
  | o :: os => do
    let o ← o.destroy (host.over o.volume)
    return o :: (← destroyAll host os)

def runCycles (host : Host μ) : Nat → Monitor → μ Monitor
  | 0, m => return m
  | n + 1, m => do
    let (m, _) ← m.runCycle host
    runCycles host n m

end

end Monitor

/-- A monitor that runs, and the time since its start. -/
structure RunningMonitor where
  monitor : Monitor
  elapsed : Duration

namespace RunningMonitor

variable {μ : Type → Type} [Monad μ]

def cyclesUpTo (interval elapsed : Duration) : Nat := elapsed.nanoseconds / interval.nanoseconds

def start (m : Monitor) (host : Host μ) : μ RunningMonitor := do
  let observers ← Monitor.takeBaselines host m.observers
  host.note (.monitorStarted observers.length (m.interval.millis % UInt64.size))
  return ⟨{ m with observers }, ⟨0⟩⟩

/-- Lets time pass; a cycle runs each time that another interval is over. -/
def wait (r : RunningMonitor) (host : Host μ) (d : Duration) : μ RunningMonitor := do
  let elapsed : Duration := ⟨r.elapsed.nanoseconds + d.nanoseconds⟩
  let due := cyclesUpTo r.monitor.interval elapsed - cyclesUpTo r.monitor.interval r.elapsed
  return ⟨← Monitor.runCycles host due r.monitor, elapsed⟩

def stop (r : RunningMonitor) (host : Host μ) : μ (List Observer) := do
  let observers ← Monitor.destroyAll host r.monitor.observers
  host.note .monitorStopped
  return observers

end RunningMonitor

end TreeWatch
