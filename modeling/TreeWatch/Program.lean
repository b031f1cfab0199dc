import TreeWatch.CommandLine
import TreeWatch.Config.Basic
import TreeWatch.Monitor

/-!
# The program

From options to the end: the configuration is read, and then it is said what would be observed,
or every root is listed once, or a monitor runs until it is asked to stop. Whatever lies
outside is reached through a `World`, so that the program runs on a real disk and on a
simulated one alike.
-/

namespace TreeWatch

/-- What the program needs from outside. -/
structure World (m : Type → Type) where
  files : FileSystem m
  note : Journal m
  readText : Path → m (Except IoError String)
  /-- The path without links and dots to the same place. -/
  canonical : Path → m (Except IoError Path)
  /-- The directory that relative paths start from. -/
  current : m Path
  print : String → m Unit
  /-- Lets a monitor run until it is asked to stop. -/
  runUntilStopped : Host m → RunningMonitor → m RunningMonitor

/-- What the program was about when something went wrong. -/
inductive Activity where
  | loadingConfig (path : Path)
  | capturing (root : Path)
deriving DecidableEq, Repr

def Activity.text : Activity → String
  | loadingConfig path => "loading config " ++ path.text
  | capturing root => "capturing " ++ root.text

/-- Why the program ended early. -/
structure Failure where
  during : Option Activity
  cause : Error

/-- What is said of a failure: what the program was about, what went wrong, and what that goes
back to. -/
def Failure.chain (f : Failure) : List String :=
  (f.during.map (·.text)).toList ++ f.cause.message :: (f.cause.source?.map (·.message)).toList

namespace Program

variable {m : Type → Type} [Monad m]

def load (w : World m) (path : Path) : m (Except Error Config) := do
  match ← w.readText path with
  | .error e => return .error (.io e)
  | .ok text =>
    match Settings.parse text with
    | .error e => return .error (.toml e)
    | .ok s => do
      w.note (.configRead path s.observers.size)
      return s.check.mapError .config

/-- The directory that the relative paths of a configuration lie below; without links if it can
be found. -/
def baseDirectory (w : World m) (path : Path) : m Path := do
  let base := Config.baseOf path (← w.current)
  match ← w.canonical base with
  | .ok p => return p
  | .error _ => return base

/-- What observers live in: the listener of a number notes events under the name of the
observer of that number. -/
def host (w : World m) (c : Config) : Host m where
  files := w.files
  note := w.note
  tell l s :=
    match c.observers[l]?, s with
    | some spec, .event e => do
      w.note (.alteration spec.name e)
      return .ok ()
    | _, _ => return .ok ()

def listRoots (w : World m) (host : Host m) (order : CaseSensitivity → Comparator) :
    List Observer → m (Except Failure Unit)
  | [] => return .ok ()
  | o :: os => do
    let (o, result) ← o.takeBaseline host
    match result with
    | .error e => return .error ⟨some (.capturing o.root), e⟩
    | .ok () => do
      w.print (o.snapshot.listing (order o.sensitivity))
      listRoots w host order os

def observe (w : World m) (host : Host m) (interval : Duration) (os : List Observer) :
    m (Except Failure Unit) := do
  match Monitor.make interval with
  | .error e => return .error ⟨none, e⟩
  | .ok monitor => do
    os.forM fun o => w.note (.observing o.text)
    let running ← RunningMonitor.start (os.foldl Monitor.add monitor) host
    let running ← w.runUntilStopped host running
    w.note .shutdownRequested
    let os ← running.stop host
    w.note (.allDestroyed os.length)
    return .ok ()

def observers (c : Config) (base : Path) : Except Failure (List Observer) :=
  (c.buildObservers base).mapError fun e => ⟨none, e⟩

def run (w : World m) (o : Options) : m (Except Failure Unit) := do
  match ← load w o.config with
  | .error e => return .error ⟨some (.loadingConfig o.config), e⟩
  | .ok c => do
    let base ← baseDirectory w o.config
    if o.dryRun then
      w.print (c.dryRun base)
      w.note .dryRunDone
      return .ok ()
    else
      match observers c base with
      | .error f => return .error f
      | .ok os =>
        if o.snapshot then
          listRoots w (host w c) (.forListing o.sort o.reverse o.directoriesFirst) os
        else observe w (host w c) c.interval os

end Program

end TreeWatch
