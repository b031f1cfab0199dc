import TreeWatch.Duration
import TreeWatch.Pattern.Glob

/-!
# Faults of configurations

What can be wrong with settings that are well formed, and how it is worded.
-/

namespace TreeWatch

/-- What is wrong with settings. -/
inductive ConfigFault where
  | noObservers
  | badInterval (written : String) (e : DurationError)
  | zeroInterval (written : String)
  | emptyPath (observer : String)
  | badGlob (observer : String) (e : Pattern.GlobError)
deriving DecidableEq, Repr

def Pattern.GlobError.profileMessage (e : Pattern.GlobError) : String :=
  "invalid glob pattern " ++ e.pattern ++ ": " ++ e.message

namespace ConfigFault

def message : ConfigFault → String
  | noObservers => "config must contain at least one [observer.<name>] section"
  | badInterval written e =>
    "[monitor].interval '" ++ written ++ "' is invalid: " ++ e.message
  | zeroInterval written =>
    "[monitor].interval must be greater than zero (got '" ++ written ++ "')"
  | emptyPath observer => "observer '" ++ observer ++ "' has an empty \x60path\x60"
  | badGlob observer e =>
    "observer '" ++ observer ++ "': Invalid pattern: " ++ e.profileMessage

end ConfigFault

end TreeWatch
