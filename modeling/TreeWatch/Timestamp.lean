import TreeWatch.Text.Quoted

/-!
# Points in time

Modification times, counted in nanoseconds from the epoch; times before it are negative.
-/

namespace TreeWatch

structure Timestamp where
  nanoseconds : Int
deriving DecidableEq, Repr, Inhabited

namespace Timestamp

instance : Ord Timestamp := ⟨fun a b => Ord.compare a.nanoseconds b.nanoseconds⟩

def epoch : Timestamp := ⟨0⟩

def ofSeconds (seconds : Int) (nanos : Int) : Timestamp := ⟨seconds * 1000000000 + nanos⟩

/-- The whole seconds from the epoch, rounded down. -/
def seconds (t : Timestamp) : Int := t.nanoseconds.fdiv 1000000000

def subsecond (t : Timestamp) : Int := t.nanoseconds.fmod 1000000000

def isAfter (a b : Timestamp) : Bool := b.nanoseconds < a.nanoseconds

def text (t : Timestamp) : String :=
  Text.recordText "SystemTime" [("tv_sec", toString t.seconds), ("tv_nsec", toString t.subsecond)]

end Timestamp

end TreeWatch
