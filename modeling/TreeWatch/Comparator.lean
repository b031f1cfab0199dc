import TreeWatch.CaseSensitivity
import TreeWatch.Entry

/-!
# Orders of entries

The orders by which the entries of a directory are sorted, and what counts as one and the same
entry in two snapshots. Wrappers that order by something other than identity, such as
directories before files, leave identity to the order inside them.
-/

namespace TreeWatch

/-- How entries are ordered and told apart. The two need not agree. -/
structure EntryOrder where
  order : Entry → Entry → Ordering
  same : Entry → Entry → Bool

/-- Sorts entries; those that the order does not tell apart keep their places. -/
def EntryOrder.sort (o : EntryOrder) (es : List Entry) : List Entry :=
  es.mergeSort fun a b => (o.order a b).isLE

inductive Comparator where
  | name (sensitivity : CaseSensitivity)
  | path (sensitivity : CaseSensitivity)
  /-- Directories before all else, each group by the inner order. -/
  | directoriesFirst (inner : Comparator)
  | reversed (inner : Comparator)
  /-- The shortest first; directories have length 0. -/
  | size
  | modified
  /-- By the first order that tells two entries apart. -/
  | composite (parts : List Comparator)
deriving BEq, Inhabited

namespace Comparator

def directoryRank (a b : Entry) : Ordering :=
  match a.isDirectory, b.isDirectory with
  | true, false => .lt
  | false, true => .gt
  | _, _ => .eq

def order : Comparator → Entry → Entry → Ordering
  | name c, a, b => c.order a.name b.name
  | path c, a, b => c.order a.path.text b.path.text
  | directoriesFirst inner, a, b => (directoryRank a b).then (inner.order a b)
  | reversed inner, a, b => inner.order b a
  | size, a, b => Ord.compare a.length b.length
  | modified, a, b => Ord.compare a.modified b.modified
  | composite parts, a, b => orderBy parts a b
where
  /-- The order by the first of several orders that tells two entries apart. -/
  orderBy : List Comparator → Entry → Entry → Ordering
  | [], _, _ => .eq
  | c :: cs, a, b => (c.order a b).then (orderBy cs a b)

/-- Whether two entries are one and the same in two snapshots. -/
def same : Comparator → Entry → Entry → Bool
  | directoriesFirst inner, a, b => inner.same a b
  | reversed inner, a, b => inner.same a b
  | c, a, b => c.order a b == .eq

def toEntryOrder (c : Comparator) : EntryOrder := ⟨c.order, c.same⟩

instance : Coe Comparator EntryOrder := ⟨toEntryOrder⟩

def sort (c : Comparator) (es : List Entry) : List Entry := c.toEntryOrder.sort es

def text : Comparator → String
  | name c => Text.recordText "NameComparator" [("case", c.label)]
  | path c => Text.recordText "PathComparator" [("case", c.label)]
  | directoriesFirst inner => Text.recordText "DirectoryFirstComparator" [("inner", inner.text)]
  | reversed inner => Text.recordText "ReverseComparator" [("inner", inner.text)]
  | size => "SizeComparator"
  | modified => "LastModifiedComparator"
  | composite parts =>
    Text.recordText "CompositeComparator" [("parts", Text.bracketed (texts parts))]
where
  /-- Several comparators, each as it is shown in records. -/
  texts : List Comparator → List String
  | [] => []
  | c :: cs => c.text :: texts cs

end Comparator

end TreeWatch
