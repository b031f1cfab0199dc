import TreeWatch.Observer

/-!
# Configurations

A configuration is what remains of settings once they have been checked and every observer has
taken over the defaults. Observers are listed by name in increasing order.
-/

namespace TreeWatch

/-- What one observer looks at, with the defaults taken over. -/
structure ObserverSpec where
  name : String
  path : Path
  includes : List String
  excludes : List String
  sensitivity : CaseSensitivity
  ignoreHidden : Bool
deriving DecidableEq, Repr

/-- Settings that have been checked. -/
structure Config where
  interval : Duration
  observers : List ObserverSpec
deriving DecidableEq, Repr

/-- The patterns that apply to an observer: its own, with the defaults after them if they are to
be appended, or the defaults if it has none of its own. -/
def effectivePatterns (own : Option (List String)) (defaults : List String) (append : Bool) :
    List String :=
  match own with
  | some patterns => if append then patterns ++ defaults else patterns
  | none => defaults

namespace Settings

/-- Reads the poll interval, which has to be longer than nothing. -/
def checkInterval (written : String) : Except ConfigFault Duration :=
  match Duration.parse written with
  | .error e => .error (.badInterval written e)
  | .ok d => if d.isZero then .error (.zeroInterval written) else .ok d

def checkGlobs (observer : String) (patterns : List String) (sensitivity : CaseSensitivity) :
    Except ConfigFault Unit :=
  match Profile.compile patterns sensitivity with
  | .ok _ => .ok ()
  | .error e => .error (.badGlob observer e)

def checkObserver (defaults : DefaultSection) (name : String) (s : ObserverSection) :
    Except ConfigFault ObserverSpec :=
  if Text.isAllBlank s.path then .error (.emptyPath name)
  else do
    let includes := effectivePatterns s.includes defaults.includes s.appendIncludes
    let excludes := effectivePatterns s.excludes defaults.excludes s.appendExcludes
    let sensitivity := s.sensitivity.getD defaults.sensitivity
    checkGlobs name includes sensitivity
    checkGlobs name excludes sensitivity
    return ⟨name, ⟨s.path⟩, includes, excludes, sensitivity,
      s.ignoreHidden.getD defaults.ignoreHidden⟩

def checkObservers (defaults : DefaultSection) :
    List (String × ObserverSection) → Except ConfigFault (List ObserverSpec)
  | [] => .ok []
  | (name, s) :: rest => do
    let spec ← checkObserver defaults name s
    return spec :: (← checkObservers defaults rest)

def check (s : Settings) : Except ConfigFault Config :=
  if s.observers.isEmpty then .error .noObservers
  else do
    let interval ← checkInterval s.monitor.interval
    let observers ← checkObservers s.defaults s.observers.toList
    return ⟨interval, observers⟩

end Settings

namespace ObserverSpec

/-- The observed root: a relative path lies below a base. -/
def root (spec : ObserverSpec) (base : Path) : Path :=
  if spec.path.isAbsolute then spec.path else base.join spec.path

/-- The filter of an observer; none if nothing would be left out. -/
def filter (spec : ObserverSpec) (base : Path) : Except Error (Option Filter) :=
  if spec.includes.isEmpty && spec.excludes.isEmpty then
    .ok (if spec.ignoreHidden then some .visible else none)
  else
    match Filter.ofProfile (spec.root base) spec.includes spec.excludes spec.sensitivity with
    | .error e => .error (.filter e)
    | .ok p => .ok (some (if spec.ignoreHidden then .all [.visible, p] else p))

def observer (spec : ObserverSpec) (base : Path) : Except Error Observer := do
  Observer.make (spec.root base) (← spec.filter base) spec.sensitivity none

end ObserverSpec

namespace Config

/-- The observers that a configuration asks for, each with one listener of its own; listeners
are numbered from a first number on. -/
def observers? (base : Path) : ListenerId → List ObserverSpec → Except Error (List Observer)
  | _, [] => .ok []
  | l, spec :: specs => do
    let o ← spec.observer base
    return o.addListener l :: (← observers? base (l + 1) specs)

/-- The observers of a configuration; their listeners are numbered from 0. -/
def buildObservers (c : Config) (base : Path) : Except Error (List Observer) :=
  observers? base 0 c.observers

def parse (text : String) : Except Error Config :=
  match Settings.parse text with
  | .error e => .error (.toml e)
  | .ok s =>
    match s.check with
    | .error fault => .error (.config fault)
    | .ok c => .ok c

def specLines (base : Path) (spec : ObserverSpec) : List String :=
  ["  - " ++ spec.name, "      root: " ++ (spec.root base).text]
    ++ (if spec.includes.isEmpty then []
      else ["      include: " ++ Text.quotedList spec.includes])
    ++ (if spec.excludes.isEmpty then []
      else ["      exclude: " ++ Text.quotedList spec.excludes])
    ++ ["      case_sensitivity: " ++ spec.sensitivity.text]
    ++ (if spec.ignoreHidden then ["      ignore_hidden: true"] else [])

def dryRun (c : Config) (base : Path) : String :=
  let lines :=
    ["pollwatch dry-run", "  monitor.interval = " ++ c.interval.text, "",
      "observers (" ++ toString c.observers.length ++ "):"]
      ++ c.observers.flatMap (specLines base)
  String.join (lines.map (· ++ "\n"))

/-- The directory that the relative paths of a configuration lie below: its own, or the current
one if it is named without any. -/
def baseOf (config current : Path) : Path :=
  match config.parent? with
  | some dir => if dir.isEmpty then current else dir
  | none => current

end Config

end TreeWatch
