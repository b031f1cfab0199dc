import TreeWatch.Text.Property.Category
import TreeWatch.Text.Property.Script
import TreeWatch.Text.Property.Binary

/-!
# Properties of characters

A property of code points is found by any of its names. Names are read loosely: case, blanks,
dashes, underscores and characters beyond ASCII do not count, nor does a leading `is`.
-/

namespace TreeWatch.Text

/-- A property of code points, by its place in the table of its kind. -/
inductive Property where
  | category (index : Nat)
  | script (index : Nat)
  | binary (index : Nat)
deriving DecidableEq, Repr

namespace Property

def rowSpans (table : List (List String × List CodeSpan)) (index : Nat) : List CodeSpan :=
  match table[index]? with
  | some row => row.2
  | none => []

def spans : Property → List CodeSpan
  | category i => rowSpans categoryTable i
  | script i => rowSpans scriptTable i
  | binary i => rowSpans binaryTable i

def holds (p : Property) (c : Nat) : Bool := CodeSpan.anyContains p.spans c

/-- The characters of a name without a leading `is`, and whether there was one. -/
def dropIs : List Char → List Char × Bool
  | i :: s :: rest =>
    if i.toLower = 'i' ∧ s.toLower = 's' then (rest, true) else (i :: s :: rest, false)
  | cs => (cs, false)

def isNameChar (c : Char) : Bool := c ≠ ' ' && c ≠ '_' && c ≠ '-' && c.toNat < 0x80

/-- A name without what does not count in it. One name would otherwise be that of a category. -/
def looseName (name : String) : String :=
  let (cs, wasDropped) := dropIs name.toList
  let loose := String.ofList ((cs.filter isNameChar).map Char.toLower)
  if wasDropped && loose == "c" then "isc" else loose

def rowOf? (table : List (List String × List CodeSpan)) (name : String) : Option Nat :=
  table.findIdx? fun row => row.1.contains name

/-- The categories of a name: one, or those of a group. -/
def categories? (name : String) : Option (List Property) :=
  match categoryGroups.find? fun row => row.1.contains name with
  | some row => some ((row.2.filterMap (rowOf? categoryTable)).map category)
  | none => (rowOf? categoryTable name).map fun i => [category i]

def script? (name : String) : Option (List Property) :=
  (rowOf? scriptTable name).map fun i => [script i]

def binary? (name : String) : Option (List Property) :=
  (rowOf? binaryTable name).map fun i => [binary i]

def digits : List Property := (categories? "nd").getD []

/-- The letters and what is written inside words: letters, marks, digits, connectors and
joiners. -/
def wordParts : List Property :=
  ["alphabetic", "joincontrol"].filterMap (fun n => (rowOf? binaryTable n).map binary)
    ++ ["m", "nd", "pc"].flatMap fun n => (categories? n).getD []

def anyHolds (ps : List Property) (c : Nat) : Bool := ps.any (·.holds c)

end Property

end TreeWatch.Text
