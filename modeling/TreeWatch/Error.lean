import TreeWatch.Config.Fault
import TreeWatch.Config.Settings
import TreeWatch.FileSystem

/-!
# Errors

What can go wrong, by cause, and how it is worded.
-/

namespace TreeWatch

inductive Error where
  | emptyRoot
  | zeroInterval
  | config (fault : ConfigFault)
  | filter (e : FilterError)
  | io (e : IoError)
  | toml (e : TomlError)
  | capture (root : Path) (source : IoError)
  | destroyed (root : Path)
  /-- So many calls of listeners failed; the first is told. -/
  | listeners (root : Path) (failures : Nat) (first : String)
deriving DecidableEq, Repr

/-- The part of the program that an error belongs to. -/
inductive ErrorKind where
  | config
  | io
  | toml
  | pattern
  | capture
  | destroyed
  | listener
deriving DecidableEq, Repr

namespace FilterError

def message : FilterError → String
  | glob e => e.message
  | profile e => e.profileMessage
  | search pattern => "regex parse error in " ++ Text.quoted pattern
  | emptySignature => "magic number must contain at least one byte"

def isPattern : FilterError → Bool
  | emptySignature => false
  | _ => true

end FilterError

namespace Error

def kind : Error → ErrorKind
  | emptyRoot => .config
  | zeroInterval => .config
  | config _ => .config
  | filter e => if e.isPattern then .pattern else .config
  | io _ => .io
  | toml _ => .toml
  | capture _ _ => .capture
  | destroyed _ => .destroyed
  | listeners _ _ _ => .listener

def detail : Error → String
  | emptyRoot => "observer root path must not be empty"
  | zeroInterval => "monitor interval must be greater than zero"
  | config fault => fault.message
  | filter e => e.message
  | io e => e.message
  | toml e => e.message
  | capture root source => "failed to capture snapshot of " ++ root.quoted ++ ": " ++ source.message
  | destroyed root => "observer for " ++ root.quoted ++ " has been destroyed"
  | listeners root failures first =>
    toString failures ++ " listener callback(s) failed for " ++ root.quoted ++ ": " ++ first

def message (e : Error) : String :=
  match e.kind with
  | .config => "Configuration error: " ++ e.detail
  | .io => "IO error: " ++ e.detail
  | .toml => "TOML parsing error: " ++ e.detail
  | .pattern => "Invalid pattern: " ++ e.detail
  | .capture => e.detail
  | .destroyed => e.detail
  | .listener => e.detail

/-- The refusal of the file system that an error goes back to. -/
def source? : Error → Option IoError
  | io e => some e
  | capture _ source => some source
  | _ => none

end Error

end TreeWatch
