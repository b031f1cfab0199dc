import TreeWatch.Remark

/-!
# Selecting paths

The paths of a list that a filter accepts, looked at one by one; what cannot be looked at is
left out.
-/

namespace TreeWatch

namespace Filter

variable {m : Type → Type} [Monad m]

def select (f : Filter) (files : FileSystem m) (note : Journal m) : List Path → m (List Path)
  | [] => return []
  | p :: ps => do
    match ← files.metadata p with
    | .error problem =>
      note (.notSelected p problem)
      select f files note ps
    | .ok a =>
      let rest ← select f files note ps
      return if f.accepts files.contents p a then p :: rest else rest

/-- Of neighbours that are the same path, keeps the last. -/
def dropEarlier : List Path → List Path
  | [] => []
  | p :: ps =>
    match ps with
    | [] => [p]
    | q :: _ => if p.same q then dropEarlier ps else p :: dropEarlier ps

/-- Sorts paths; of several spellings of one path the last is kept. -/
def sortedSet (paths : List Path) : List Path :=
  dropEarlier (paths.mergeSort fun a b => (a.order b).isLE)

end Filter

end TreeWatch
