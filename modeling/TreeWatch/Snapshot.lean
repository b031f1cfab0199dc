import TreeWatch.Comparator
import TreeWatch.Error
import TreeWatch.Remark

/-!
# Taking snapshots

`capture` looks at a root and at all below it that a filter accepts. Links below the root are
not followed. What cannot be looked at below the root is left out and noted down; if the root
itself cannot be looked at, there is no snapshot. The entries of each directory are sorted,
and of those that the order does not tell apart the one with the least name is kept.
-/

namespace TreeWatch

namespace EntryOrder

/-- The order by which entries are sorted: ties go by name. -/
def byName (o : EntryOrder) (a b : Entry) : Ordering :=
  (o.order a b).then (Ord.compare a.name b.name)

/-- Drops the entries at the head that the order does not tell apart from the one before them,
and so on down the list. -/
def dropTiesAfter (o : EntryOrder) (last : Entry) : List Entry → List Entry
  | [] => []
  | e :: es =>
    if o.order last e = .eq then dropTiesAfter o last es else e :: dropTiesAfter o e es

/-- Of neighbours that the order does not tell apart, keeps the first. -/
def dropTies (o : EntryOrder) : List Entry → List Entry
  | [] => []
  | e :: es => e :: o.dropTiesAfter e es

/-- Sorts the entries of a directory and drops those that the order does not tell apart. -/
def arrange (o : EntryOrder) (es : List Entry) : List Entry :=
  o.dropTies (es.mergeSort fun a b => (o.byName a b).isLE)

end EntryOrder

/-- What a snapshot is taken with. -/
structure Camera (m : Type → Type) where
  files : FileSystem m
  note : Journal m
  accepts : Path → Attributes → Bool
  order : EntryOrder

namespace Camera

variable {m : Type → Type} [Monad m]

def tooDeep (dir : Path) : IoError := ⟨.other, "directories nested too deeply: " ++ dir.quoted⟩

def look (c : Camera m) (into : Path → m (List Entry)) (path : Path) : m (Option Entry) := do
  match ← c.files.linkMetadata path with
  | .error problem =>
    c.note (if problem.kind = .notFound then .vanished path else .unstatable path problem)
    return none
  | .ok a =>
    if c.accepts path a then
      if a.isDirectory then return some (.ofAttributes path a (← into path))
      else return some (.ofAttributes path a [])
    else return none

def lookAll (c : Camera m) (into : Path → m (List Entry)) : List Path → m (List Entry)
  | [] => return []
  | path :: paths => do
    match ← c.look into path with
    | some e => return e :: (← lookAll c into paths)
    | none => lookAll c into paths

def gather (c : Camera m) (into : Path → m (List Entry)) (listing : List Path) :
    m (List Entry) := do
  return c.order.arrange (← c.lookAll into listing)

/-- The entries of a directory, down to a depth. A directory that cannot be listed has none. -/
def below (c : Camera m) : Nat → Path → m (List Entry)
  | 0, dir => do
    c.note (.unlistable dir (tooDeep dir))
    return []
  | depth + 1, dir => do
    match ← c.files.list dir with
    | .error problem =>
      c.note (.unlistable dir problem)
      return []
    | .ok listing => c.gather (c.below depth) listing

def capture (c : Camera m) (root : Path) : m (Except Error Entry) := do
  match ← c.files.metadata root with
  | .error problem =>
    if problem.kind = .notFound then
      c.note (.rootMissing root)
      return .ok (.missing root)
    else return .error (.capture root problem)
  | .ok a =>
    if a.isDirectory then
      match ← c.files.list root with
      | .error problem => return .error (.capture root problem)
      | .ok listing =>
        return .ok (.ofAttributes root a (← c.gather (c.below c.files.depthLimit) listing))
    else return .ok (.ofAttributes root a [])

end Camera

end TreeWatch
