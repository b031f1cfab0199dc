import TreeWatch.Level
import TreeWatch.Listing
import TreeWatch.Path

/-!
# The command line

Options have long names; the value of one follows it, as the next argument or after an equals
sign. An option that is given its value as the next argument takes effect when the next option
is met or the arguments end, so that an argument that means nothing is refused before a value
that is wrong.
-/

namespace TreeWatch

def defaultConfig : Path := ⟨"Pollwatch.toml"⟩

/-- What the program is asked to do. -/
structure Options where
  config : Path := defaultConfig
  level : Option Level := none
  /-- Says what would be observed, and does nothing else. -/
  dryRun : Bool := false
  /-- Lists every root once, and does nothing else. -/
  snapshot : Bool := false
  sort : SortKey := .name
  reverse : Bool := false
  directoriesFirst : Bool := false
deriving DecidableEq, Repr

inductive Invocation where
  | run (o : Options)
  | help
  | version
deriving DecidableEq, Repr

/-- Why arguments are refused. -/
inductive UsageError where
  | invalidValue
  | unknownArgument
  | repeated
  | unneededValue
deriving DecidableEq, Repr

/-- The options that there are. -/
inductive Flag where
  | config
  | level
  | dryRun
  | snapshot
  | sort
  | reverse
  | directoriesFirst
  | help
  | version
deriving DecidableEq, Repr

namespace Flag

def name : Flag → String
  | config => "config"
  | level => "log-level"
  | dryRun => "dry-run"
  | snapshot => "snapshot"
  | sort => "sort"
  | reverse => "reverse"
  | directoriesFirst => "dirs-first"
  | help => "help"
  | version => "version"

def all : List Flag :=
  [config, level, dryRun, snapshot, sort, reverse, directoriesFirst, help, version]

def ofName? (n : String) : Option Flag := all.find? (·.name == n)

def ofLetter? : Char → Option Flag
  | 'h' => some help
  | 'V' => some version
  | _ => none

def takesValue : Flag → Bool
  | config => true
  | level => true
  | sort => true
  | _ => false

end Flag

/-- One argument by its form. -/
inductive Argument where
  | separator
  /-- An option, with what stands after its equals sign. -/
  | flag (f : Flag) (attached : Option String)
  /-- The form of an option, but of none that there is. -/
  | unknown
  | word (text : String)
deriving DecidableEq, Repr

namespace Argument

/-- An option by its long name, which ends at the first equals sign. -/
def ofLong (cs : List Char) : Argument :=
  let attached :=
    match cs.dropWhile (· ≠ '=') with
    | [] => none
    | _ :: value => some (String.ofList value)
  match Flag.ofName? (String.ofList (cs.takeWhile (· ≠ '='))) with
  | some f => flag f attached
  | none => unknown

/-- An argument by its characters. Of several letters after one dash the first decides. -/
def ofChars : List Char → Argument
  | ['-', '-'] => separator
  | '-' :: '-' :: rest => ofLong rest
  | '-' :: c :: _ =>
    match Flag.ofLetter? c with
    | some f => flag f none
    | none => unknown
  | cs => word (String.ofList cs)

end Argument

namespace Options

def set? (o : Options) (value : String) : Flag → Option Options
  | .config => some { o with config := ⟨value⟩ }
  | .level => (Level.ofText? value).map fun l => { o with level := some l }
  | .dryRun => some { o with dryRun := true }
  | .snapshot => some { o with snapshot := true }
  | .sort => (SortKey.ofText? value).map fun k => { o with sort := k }
  | .reverse => some { o with reverse := true }
  | .directoriesFirst => some { o with directoriesFirst := true }
  | .help => some o
  | .version => some o

end Options

namespace CommandLine

/-- How far arguments have been read. -/
structure Reading where
  options : Options := {}
  given : List Flag := []
  /-- An option that has yet to take effect, with its value once that is read. -/
  pending : Option (Flag × Option String) := none

def Reading.give (r : Reading) (f : Flag) (value : String) : Except UsageError Reading :=
  if f ∈ r.given then .error .repeated
  else
    match r.options.set? value f with
    | some options => .ok { r with options, given := f :: r.given }
    | none => .error .invalidValue

/-- Lets the option take effect that has yet to. -/
def Reading.settle (r : Reading) : Except UsageError Reading :=
  match r.pending with
  | none => .ok r
  | some (_, none) => .error .invalidValue
  | some (f, some value) => { r with pending := none }.give f value

def Reading.finish (r : Reading) : Except UsageError Invocation := do
  return .run (← r.settle).options

def read (r : Reading) : List String → Except UsageError Invocation
  | [] => r.finish
  | arg :: args =>
    match Argument.ofChars arg.toList with
    | .separator => if args.isEmpty then r.finish else .error .unknownArgument
    | .unknown => .error .unknownArgument
    | .word text =>
      match r.pending with
      | some (f, none) => read { r with pending := some (f, some text) } args
      | _ => .error .unknownArgument
    | .flag f attached =>
      if f.takesValue then do
        let r ← r.settle
        match attached with
        | some value => read (← r.give f value) args
        | none => read { r with pending := some (f, none) } args
      else if attached.isSome then .error .unneededValue
      else do
        let r ← r.settle
        match f with
        | .help => return .help
        | .version => return .version
        | f => read (← r.give f "") args

def parse (args : List String) : Except UsageError Invocation := read {} args

end CommandLine

end TreeWatch
