import TreeWatch.Comparator

/-!
# Listings

A snapshot as an indented listing, one entry a line, and the orders in which listings present
the entries of a directory.
-/

namespace TreeWatch

/-- What a listing is sorted by. -/
inductive SortKey where
  | name
  | size
  | modified
deriving DecidableEq, Repr, Inhabited

namespace SortKey

def text : SortKey → String
  | name => "name"
  | size => "size"
  | modified => "modified"

def ofText? (word : String) : Option SortKey := [name, size, modified].find? (·.text == word)

end SortKey

/-- The order of a listing. Equal lengths or times are told apart by name, and directories stay
on top, if they are to be first, also in reverse. -/
def Comparator.forListing (key : SortKey) (reverse directoriesFirst : Bool)
    (sensitivity : CaseSensitivity) : Comparator :=
  let byKey : Comparator :=
    match key with
    | .name => .name sensitivity
    | .size => .composite [.size, .name sensitivity]
    | .modified => .composite [.modified, .name sensitivity]
  let turned := if reverse then .reversed byKey else byKey
  if directoriesFirst then .directoriesFirst turned else turned

namespace Entry

/-- A title with what is said of an entry of its kind: a slash for a directory, the length for
all else. -/
def lineText (title : String) (e : Entry) : String :=
  if e.isDirectory then title ++ "/" else title ++ " (" ++ toString e.length ++ " bytes)"

def indent (depth : Nat) : String := String.ofList (List.replicate (2 * depth) ' ')

def lines (o : EntryOrder) (depth : Nat) : Entry → List String
  | missing p => [indent depth ++ (missing p).lineText p.baseName]
  | file p t n => [indent depth ++ (file p t n).lineText p.baseName]
  | directory p t es =>
    (indent depth ++ (directory p t es).lineText p.baseName) ::
      ((blocks o (depth + 1) es).mergeSort fun a b => (o.order a.1 b.1).isLE).flatMap (·.2)
where
  blocks (o : EntryOrder) (depth : Nat) : List Entry → List (Entry × List String)
  | [] => []
  | e :: es => (e, e.lines o depth) :: blocks o depth es

/-- The lines of a listing: the root by its path, then what is below it. -/
def listingLines (o : EntryOrder) (root : Entry) : List String :=
  if root.present then
    root.lineText root.path.text ::
      ((lines.blocks o 1 root.children).mergeSort fun a b => (o.order a.1 b.1).isLE).flatMap (·.2)
  else [root.path.text ++ " (missing)"]

def listing (o : EntryOrder) (root : Entry) : String :=
  String.join ((root.listingLines o).map (· ++ "\n"))

end Entry

end TreeWatch
