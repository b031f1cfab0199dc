import TreeWatch.Timestamp

/-!
# Attributes of files

What a file system says about one path.
-/

namespace TreeWatch

/-- What a file system says about one path. -/
structure Attributes where
  isDirectory : Bool
  isLink : Bool
  length : UInt64
  modified : Timestamp
  readonly : Bool
deriving DecidableEq, Repr, Inhabited

namespace Attributes

def file (length : UInt64) (modified : Timestamp) : Attributes :=
  ⟨false, false, length, modified, false⟩

def directory (modified : Timestamp) : Attributes := ⟨true, false, 0, modified, false⟩

def link (modified : Timestamp) : Attributes := ⟨false, true, 0, modified, false⟩

def isFile (a : Attributes) : Bool := !a.isDirectory

end Attributes

end TreeWatch
