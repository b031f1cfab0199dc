import TreeWatch.Filter.Basic

/-!
# File systems

What a file system is asked, and how its refusals are worded. The answers are given in a
monad, so that they may come from a stored tree, from a tree that changes between two
questions, or from a disk.
-/

namespace TreeWatch

inductive IoErrorKind where
  | notFound
  | permissionDenied
  | other
deriving DecidableEq, Repr

/-- Why a file system gives no answer. -/
structure IoError where
  kind : IoErrorKind
  message : String
deriving DecidableEq, Repr

/-- What a file system is asked. -/
structure FileSystem (m : Type → Type) where
  metadata : Path → m (Except IoError Attributes)
  linkMetadata : Path → m (Except IoError Attributes)
  list : Path → m (Except IoError (List Path))
  contents : Contents
  /-- How many directories below a root can be nested in one another. -/
  depthLimit : Nat

end TreeWatch
