import TreeWatch.CaseSensitivity
import TreeWatch.Path
import TreeWatch.Pattern.Glob

/-!
# Glob profiles

A profile holds the globs that the files below a root have to match (any file, if there are
none) and those that neither files nor directories may match. Paths are matched by what
follows the root in them.
-/

namespace TreeWatch

open Pattern

/-- Which files and directories below a root are of interest. -/
structure Profile where
  root : Path
  includes : List String
  excludes : List String
  /-- The globs of `includes`, unless there are none. -/
  includeGlobs : Option (List Glob)
  /-- The globs of `excludes`, unless there are none. -/
  excludeGlobs : Option (List Glob)

namespace Profile

def globOptions (sensitivity : CaseSensitivity) : GlobOptions := ⟨!sensitivity.isSensitive, false⟩

def compile (patterns : List String) (sensitivity : CaseSensitivity) :
    Except GlobError (List Glob) :=
  Glob.parseAll (globOptions sensitivity) patterns

def compileSome (patterns : List String) (sensitivity : CaseSensitivity) :
    Except GlobError (Option (List Glob)) :=
  if patterns.isEmpty then .ok none else (compile patterns sensitivity).map some

def make (root : Path) (includes excludes : List String) (sensitivity : CaseSensitivity) :
    Except GlobError Profile := do
  let includeGlobs ← compileSome includes sensitivity
  let excludeGlobs ← compileSome excludes sensitivity
  return ⟨root, includes, excludes, includeGlobs, excludeGlobs⟩

def isExcluded (p : Profile) (relative : String) : Bool :=
  match p.excludeGlobs with
  | some globs => Glob.anyMatch globs relative
  | none => false

def isIncluded (p : Profile) (relative : String) : Bool :=
  match p.includeGlobs with
  | some globs => Glob.anyMatch globs relative
  | none => true

def admits (p : Profile) (relative : String) : Bool :=
  p.isIncluded relative && !p.isExcluded relative

/-- What follows the root in a path, with slashes in the place of backslashes. -/
def relativeText? (p : Profile) (path : Path) : Option String :=
  (path.relativeTo? p.root).map fun r =>
    String.ofList (r.text.toList.map fun c => if c = '\\' then '/' else c)

/-- Whether a path is of interest. Directories only have not to be left out, so that files below
them can be reached; what is not below the root is of no interest. -/
def accepts (p : Profile) (path : Path) (isDirectory : Bool) : Bool :=
  match p.relativeText? path with
  | none => false
  | some relative => if isDirectory then !p.isExcluded relative else p.admits relative

def text (p : Profile) : String :=
  "GlobProfileFilter \x7b include: " ++ Text.quotedList p.includes ++ ", exclude: "
    ++ Text.quotedList p.excludes ++ ", .. \x7d"

end Profile

end TreeWatch
