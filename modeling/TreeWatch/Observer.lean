import TreeWatch.Diff
import TreeWatch.Snapshot

/-!
# Observers

An observer keeps the last snapshot of a root. Each check takes a new one, works out what has
changed, and tells every listener. The new snapshot is kept before any listener is told, so
that nothing is told twice; a snapshot that fails changes nothing.
-/

namespace TreeWatch

abbrev ListenerId := Nat

abbrev VolumeId := Nat

/-- What a listener is told. -/
inductive Signal where
  /-- A check begins to tell what it found; the root and its new snapshot. -/
  | start (root : Path) (snapshot : Entry)
  | event (e : Event)
  | stop (root : Path) (snapshot : Entry)
deriving Inhabited

namespace Signal

def hook : Signal → String
  | start _ _ => "on_start"
  | event e => e.kind.text
  | stop _ _ => "on_stop"

end Signal

/-- What observers live in: a file system, a journal, and listeners, which may refuse what they
are told. -/
structure Host (m : Type → Type) where
  files : FileSystem m
  note : Journal m
  tell : ListenerId → Signal → m (Except String Unit)
  /-- All file systems there are, for observers of which each may look at another one. -/
  volume : VolumeId → FileSystem m := fun _ => files

def Host.over {m : Type → Type} (host : Host m) (v : VolumeId) : Host m :=
  { host with files := host.volume v }

/-- Where an observer stands in its life. -/
inductive ObserverState where
  | uninitialized
  | ready
  | destroyed
deriving DecidableEq, Repr, Inhabited

def ObserverState.label : ObserverState → String
  | uninitialized => "Uninitialized"
  | ready => "Ready"
  | destroyed => "Destroyed"

/-- An observer of one root. -/
structure Observer where
  root : Path
  /-- All entries are observed if there is no filter. -/
  filter : Option Filter
  sensitivity : CaseSensitivity
  comparator : Comparator
  listeners : List ListenerId
  state : ObserverState
  /-- The last snapshot; a missing root before the first. -/
  snapshot : Entry
  volume : VolumeId := 0

/-- How many calls have failed, and what the first of them said. -/
structure Tally where
  failures : Nat := 0
  first : Option String := none

def Tally.add (t : Tally) (hook problem : String) : Tally :=
  ⟨t.failures + 1, t.first.getD (hook ++ ": " ++ problem)⟩

namespace Observer

/-- A new observer. Entries are ordered by name if no order is given. -/
def make (root : Path) (filter : Option Filter) (sensitivity : CaseSensitivity)
    (comparator : Option Comparator) : Except Error Observer :=
  if root.isEmpty then .error .emptyRoot
  else
    .ok ⟨root, filter, sensitivity, comparator.getD (.name sensitivity), [], .uninitialized,
      .missing root, 0⟩

/-- Adds a listener, unless it is there already. -/
def addListener (o : Observer) (l : ListenerId) : Observer :=
  if l ∈ o.listeners then o else { o with listeners := o.listeners ++ [l] }

def removeListener (o : Observer) (l : ListenerId) : Observer :=
  { o with listeners := o.listeners.filter (· ≠ l) }

def accepts (o : Observer) (contents : Contents) (path : Path) (a : Attributes) : Bool :=
  match o.filter with
  | some f => f.accepts contents path a
  | none => true

section

variable {m : Type → Type} [Monad m]

def capture (o : Observer) (host : Host m) : m (Except Error Entry) :=
  Camera.capture ⟨host.files, host.note, o.accepts host.files.contents, o.comparator.toEntryOrder⟩
    o.root

/-- Takes the first snapshot. Nobody is told. -/
def takeBaseline (o : Observer) (host : Host m) : m (Observer × Except Error Unit) := do
  if o.state = .destroyed then return (o, .error (.destroyed o.root))
  else
    match ← o.capture host with
    | .error e => return (o, .error e)
    | .ok snapshot =>
      host.note (.initialized o.root snapshot.present snapshot.descendants.length)
      return ({ o with snapshot, state := .ready }, .ok ())

def tellAll (host : Host m) (root : Path) (s : Signal) : List ListenerId → Tally → m Tally
  | [], t => return t
  | l :: ls, t => do
    match ← host.tell l s with
    | .ok () => tellAll host root s ls t
    | .error problem =>
      host.note (.listenerFailed root s.hook problem)
      tellAll host root s ls (t.add s.hook problem)

def tellEach (o : Observer) (host : Host m) : List Signal → Tally → m Tally
  | [], t => return t
  | s :: ss, t => do tellEach o host ss (← tellAll host o.root s o.listeners t)

/-- Tells the listeners what a check found, between a start and a stop. -/
def notify (o : Observer) (host : Host m) (events : List Event) : m (Except Error Unit) := do
  let signals := .start o.root o.snapshot :: events.map .event ++ [.stop o.root o.snapshot]
  let t ← o.tellEach host signals {}
  match t.first with
  | none => return .ok ()
  | some first => return .error (.listeners o.root t.failures first)

/-- Takes a new snapshot and tells the listeners what has changed. The first check only takes a
snapshot. -/
def check (o : Observer) (host : Host m) : m (Observer × Except Error (List Event)) := do
  match o.state with
  | .destroyed => return (o, .error (.destroyed o.root))
  | .uninitialized => do
    let (o, result) ← o.takeBaseline host
    return (o, result.map fun _ => [])
  | .ready => do
    match ← o.capture host with
    | .error e =>
      host.note (.captureFailed o.root e.message)
      return (o, .error e)
    | .ok snapshot =>
      let events := o.comparator.toEntryOrder.diff o.snapshot snapshot
      let o := { o with snapshot }
      host.note (.checked o.root events.length)
      let result ← o.notify host events
      return (o, result.map fun _ => events)

def destroy (o : Observer) (host : Host m) : m Observer := do
  if o.state ≠ .destroyed then host.note (.destroyed o.root)
  return { o with state := .destroyed }

end

def text (o : Observer) : String :=
  let filterText :=
    match o.filter with
    | some f => ", " ++ f.text
    | none => ""
  "FileAlterationObserver[file='" ++ o.root.text ++ "'" ++ filterText ++ ", listeners="
    ++ toString o.listeners.length ++ "]"

def recordText (o : Observer) : String :=
  let filterText :=
    match o.filter with
    | some f => "Some(" ++ f.text ++ ")"
    | none => "None"
  "FileAlterationObserver \x7b root: " ++ o.root.quoted ++ ", filter: " ++ filterText
    ++ ", comparator: " ++ o.comparator.text ++ ", listeners: " ++ toString o.listeners.length
    ++ ", state: " ++ o.state.label ++ ", .. \x7d"

end Observer

end TreeWatch
