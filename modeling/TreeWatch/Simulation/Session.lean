import TreeWatch.Config.Basic
import TreeWatch.Listing
import TreeWatch.Monitor
import TreeWatch.Simulation.Listener
import TreeWatch.Store

/-!
# Sessions

A session plays steps one after another on one stored file tree: changes of the tree, and what
is asked of observers, listeners and a monitor. Time passes only where a step says so.
-/

namespace TreeWatch

/-- A change of a stored tree. -/
inductive StoreChange where
  | addDirectory (p : Path) (modified : Timestamp)
  | addFile (p : Path) (length : UInt64) (modified : Timestamp)
  | addLink (p target : Path) (modified : Timestamp)
  | setModified (p : Path) (modified : Timestamp)
  | remove (p : Path)
  | failListing (p : Path)
  | failMetadata (p : Path)
  | heal (p : Path)

def Store.apply {spelling : Spelling} (s : Store spelling) : StoreChange → Store spelling
  | .addDirectory p modified => s.addDirectory p modified
  | .addFile p length modified => s.addFile p length modified
  | .addLink p target modified => s.addLink p target modified
  | .setModified p modified => s.setModified p modified
  | .remove p => s.remove p
  | .failListing p => s.failListing p
  | .failMetadata p => s.failMetadata p
  | .heal p => s.heal p

def Store.ofChanges (changes : List StoreChange) (spelling : Spelling := .text) :
    Store spelling :=
  changes.foldl Store.apply {}

namespace Session

/-- A question to the stored tree. -/
inductive StoreStep where
  | metadata (p : Path)
  | linkMetadata (p : Path)
  | list (p : Path)
  | canonical (p : Path)

/-- What is done with observers, which go by name. -/
inductive ObserverStep where
  | make (id : String) (root : Path) (filter : Except FilterError (Option Filter))
      (sensitivity : CaseSensitivity) (comparator : Option Comparator)
  | configure (text : String) (base : Path)
  | takeBaseline (id : String)
  | check (id : String)
  | destroy (id : String)
  | snapshot (id : String)
  | describe (id : String)
  | listing (id : String) (order : CaseSensitivity → Comparator)

/-- What is done with listeners, which go by name. -/
inductive ListenerStep where
  | make (name : String) (l : Listener)
  | add (id name : String)
  | remove (id name : String)
  | list (id : String)
  | receive (name : String)
  | close (name : String)

/-- What is done with the monitor. -/
inductive MonitorStep where
  | make (interval : Duration)
  | add (id : String)
  | remove (root : Path) (id : String)
  | describe
  | cycle
  | start
  | wait (d : Duration)
  | stop

inductive Step where
  | change (c : StoreChange)
  | store (s : StoreStep)
  | observer (s : ObserverStep)
  | listener (s : ListenerStep)
  | monitor (s : MonitorStep)

inductive Reply where
  | done
  | attributes (a : Attributes)
  | paths (ps : List Path)
  | path (p : Path)
  | observers (os : List (String × Observer))
  | events (es : List Event)
  | snapshot (e : Entry)
  | observer (o : Observer)
  | text (s : String)
  | names (ns : List String)
  | removed (o : Option Observer)
  | monitor (interval : Duration) (os : List Observer)
  | report (r : CycleReport)
  | running (isRunning : Bool)
  | stopped (os : List Observer)
  | failed (e : Error)
  | refused (e : IoError)
  | unknown

/-- Everything that a session keeps from step to step; what was heard and noted is that of one
step. -/
structure State where
  store : Store := {}
  observers : List (String × Observer) := []
  listeners : Array Listener := #[]
  /-- The numbers of the listeners that go by a name now. -/
  names : List (String × ListenerId) := []
  monitor : Option Monitor := none
  running : Option RunningMonitor := none
  heard : List String := []
  notes : List Remark := []

abbrev Play := StateM State

def note (r : Remark) : Play Unit := modify fun s => { s with notes := s.notes ++ [r] }

def tell (l : ListenerId) (signal : Signal) : Play (Except String Unit) := do
  match (← get).listeners[l]? with
  | none => return .ok ()
  | some listener =>
    let r := listener.tell signal
    modify fun s =>
      { s with
        listeners := s.listeners.setIfInBounds l r.listener
        heard := s.heard ++ r.heard
        notes := s.notes ++ r.notes }
    return r.result

def host (s : State) : Host Play where
  files := s.store.fileSystem
  note := note
  tell := tell

def assign {α : Type} (name : String) (a : α) : List (String × α) → List (String × α)
  | [] => [(name, a)]
  | e :: es => if e.1 = name then (name, a) :: es else e :: assign name a es

def putObserver (id : String) (o : Observer) : Play Unit :=
  modify fun s => { s with observers := assign id o s.observers }

def withObserver (id : String) (f : Observer → Play Reply) : Play Reply := do
  match (← get).observers.lookup id with
  | some o => f o
  | none => return .unknown

def withListener (name : String) (f : ListenerId → Play Reply) : Play Reply := do
  match (← get).names.lookup name with
  | some l => f l
  | none => return .unknown

def answer {α : Type} (f : α → Reply) : Except IoError α → Reply
  | .ok a => f a
  | .error e => .refused e

def outcome {α : Type} (f : α → Reply) : Except Error α → Reply
  | .ok a => f a
  | .error e => .failed e

/-- The observers of the specifications of a configuration, without listeners. -/
def specObservers (base : Path) (specs : List ObserverSpec) :
    Except Error (List (String × Observer)) :=
  specs.mapM fun spec => return (spec.name, ← spec.observer base)

def takeWaiting : Listener → List Event × Listener
  | .channel isOpen waiting => (waiting, .channel isOpen [])
  | l => ([], l)

/-- Closes a channel; what waits in it is lost. -/
def closeChannel : Listener → Listener
  | .channel _ _ => .channel false []
  | l => l

def playObserver (host : Host Play) : ObserverStep → Play Reply
  | .make id root filter sensitivity comparator =>
    match filter with
    | .error e => return .failed (.filter e)
    | .ok f =>
      match Observer.make root f sensitivity comparator with
      | .error e => return .failed e
      | .ok o => do
        putObserver id o
        return .done
  | .configure text base =>
    match Config.parse text with
    | .error e => return .failed e
    | .ok c =>
      match specObservers base c.observers with
      | .error e => return .failed e
      | .ok os => do
        os.forM fun (id, o) => putObserver id o
        return .observers os
  | .takeBaseline id => withObserver id fun o => do
    let (o, result) ← o.takeBaseline host
    putObserver id o
    return outcome (fun _ => .done) result
  | .check id => withObserver id fun o => do
    let (o, result) ← o.check host
    putObserver id o
    return outcome .events result
  | .destroy id => withObserver id fun o => do
    putObserver id (← o.destroy host)
    return .done
  | .snapshot id => withObserver id fun o => return .snapshot o.snapshot
  | .describe id => withObserver id fun o => return .observer o
  | .listing id order => withObserver id fun o =>
    return .text (o.snapshot.listing (order o.sensitivity))

def playListener : ListenerStep → Play Reply
  | .make name l => do
    modify fun s =>
      { s with
        listeners := s.listeners.push l
        names := assign name s.listeners.size s.names }
    return .done
  | .add id name => withListener name fun l => withObserver id fun o => do
    putObserver id (o.addListener l)
    return .done
  | .remove id name => withListener name fun l => withObserver id fun o => do
    putObserver id (o.removeListener l)
    return .done
  | .list id => withObserver id fun o => do
    let names := (← get).names
    return .names (o.listeners.map fun l => ((names.find? (·.2 = l)).map (·.1)).getD "")
  | .receive name => withListener name fun l => do
    let (events, listener) := takeWaiting ((← get).listeners.getD l .silent)
    modify fun s => { s with listeners := s.listeners.setIfInBounds l listener }
    return .events events
  | .close name => withListener name fun l => do
    modify fun s =>
      { s with
        listeners := s.listeners.setIfInBounds l (closeChannel (s.listeners.getD l .silent)) }
    return .done

def withMonitor (f : Monitor → Play Reply) : Play Reply := do
  match (← get).monitor with
  | some m => f m
  | none => return .unknown

def withRunning (f : RunningMonitor → Play Reply) : Play Reply := do
  match (← get).running with
  | some r => f r
  | none => return .unknown

def playMonitor (host : Host Play) : MonitorStep → Play Reply
  | .make interval =>
    match Monitor.make interval with
    | .error e => return .failed e
    | .ok m => do
      modify fun s => { s with monitor := some m }
      return .done
  | .add id => withMonitor fun m => withObserver id fun o => do
    modify fun s =>
      { s with
        monitor := some (m.add o)
        observers := s.observers.filter (·.1 ≠ id) }
    return .done
  | .remove root id => withMonitor fun m =>
    match m.remove? root with
    | none => return .removed none
    | some (o, m) => do
      modify fun s => { s with monitor := some m }
      putObserver id o
      return .removed (some o)
  | .describe => withMonitor fun m => return .monitor m.interval m.observers
  | .cycle => withMonitor fun m => do
    let (m, report) ← m.runCycle host
    modify fun s => { s with monitor := some m }
    return .report report
  | .start => withMonitor fun m => do
    let r ← RunningMonitor.start m host
    modify fun s => { s with monitor := none, running := some r }
    return .done
  | .wait d => withRunning fun r => do
    let r ← r.wait host d
    modify fun s => { s with running := some r }
    return .running true
  | .stop => withRunning fun r => do
    let os ← r.stop host
    modify fun s => { s with running := none }
    return .stopped os

def playStore (s : Store) : StoreStep → Reply
  | .metadata p => answer .attributes (s.metadata p)
  | .linkMetadata p => answer .attributes (s.linkMetadata p)
  | .list p => answer .paths (s.list p)
  | .canonical p => answer .path (s.canonical p)

def play (step : Step) : Play Reply := do
  let s ← get
  match step with
  | .change c => do
    set { s with store := s.store.apply c }
    return .done
  | .store q => return playStore s.store q
  | .observer q => playObserver (host s) q
  | .listener q => playListener q
  | .monitor q => playMonitor (host s) q

/-- What one step answered, and what was heard and noted during it. -/
structure Outcome where
  reply : Reply
  heard : List String
  notes : List Remark

def run : List Step → State → List Outcome
  | [], _ => []
  | step :: steps, s =>
    let (reply, s) := (play step).run { s with heard := [], notes := [] }
    ⟨reply, s.heard, s.notes⟩ :: run steps s

end Session

end TreeWatch
