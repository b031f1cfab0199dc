import TreeWatch.Text.Quoted

/-!
# Paths

A path is kept as it was spelled and compared by its components: repeated and trailing
separators and single dots do not count, except for a dot at the start of a relative path;
two dots are a component of their own. `Path.components` is the view that equality, order and
containment go by.

A path is a text: names that are not UTF-8 are left out, and no name is shown by another text than
itself. Only stored trees (`TreeWatch.Store`) may have paths that are spelled by bytes, one
character each (`TreeWatch.Text.Lossy`). Components and what is made of them go by separators and
dots, and are the same for both spellings.
-/

namespace TreeWatch

/-- One component of a path. -/
inductive Component where
  | root
  | current
  | parent
  | name (text : String)
deriving DecidableEq, Repr, Inhabited

namespace Component

def rank : Component → Nat
  | root => 0
  | current => 1
  | parent => 2
  | name _ => 3

def order : Component → Component → Ordering
  | name a, name b => Ord.compare a b
  | a, b => Ord.compare a.rank b.rank

end Component

/-- A path as it was spelled. It is a text, and names that are not UTF-8 are left out; in stored
trees only, its characters may stand for bytes. -/
structure Path where
  text : String
deriving DecidableEq, Repr, Inhabited

namespace Path

/-- The pieces of a text between its separators. There is always one piece. -/
def pieces : List Char → List (List Char)
  | [] => [[]]
  | c :: rest =>
    if c = '/' then [] :: pieces rest
    else
      match pieces rest with
      | [] => [[c]]
      | p :: ps => (c :: p) :: ps

/-- The component that a piece stands for, if it counts. -/
def componentOf? (piece : List Char) : Option Component :=
  if piece = [] ∨ piece = ['.'] then none
  else if piece = ['.', '.'] then some .parent
  else some (.name (String.ofList piece))

def componentsOf (cs : List Char) : List Component :=
  match cs with
  | '/' :: rest => .root :: (pieces rest).filterMap componentOf?
  | ['.'] => [.current]
  | '.' :: '/' :: rest => .current :: (pieces rest).filterMap componentOf?
  | cs => (pieces cs).filterMap componentOf?

def components (p : Path) : List Component := componentsOf p.text.toList

def same (a b : Path) : Bool := a.components == b.components

def orderComponents : List Component → List Component → Ordering
  | [], [] => .eq
  | [], _ :: _ => .lt
  | _ :: _, [] => .gt
  | a :: as, b :: bs => (a.order b).then (orderComponents as bs)

def order (a b : Path) : Ordering := orderComponents a.components b.components

def isAbsolute (p : Path) : Bool := p.text.toList.head? == some '/'

def isEmpty (p : Path) : Bool := p.text.isEmpty

/-- Whether a path lies at or below another, component by component. -/
def isWithin (p base : Path) : Bool := base.components.isPrefixOf p.components

def fileName? (p : Path) : Option String :=
  match p.components.getLast? with
  | some (.name n) => some n
  | _ => none

/-- The last component if it is a name, or else the whole spelling. -/
def baseName (p : Path) : String := p.fileName?.getD p.text

/-- Drops trailing separators and single dots, given the spelling in reverse. A separator or a
dot that is itself the first component is kept. -/
def trimEnd : List Char → List Char
  | ['/'] => ['/']
  | ['.'] => ['.']
  | ['.', '/'] => ['/']
  | '/' :: rest => trimEnd rest
  | '.' :: '/' :: rest => trimEnd ('/' :: rest)
  | cs => cs

/-- Drops the last piece of a spelling that is given in reverse, up to the separator. -/
def dropPiece (cs : List Char) : List Char := cs.dropWhile (· ≠ '/')

/-- The path without its last component, if it has one that can be dropped. -/
def parent? (p : Path) : Option Path :=
  match p.components.getLast? with
  | none => none
  | some .root => none
  | some _ => some ⟨String.ofList (trimEnd (dropPiece (trimEnd p.text.toList.reverse))).reverse⟩

/-- One path below another. An absolute path stands for itself. -/
def join (base p : Path) : Path :=
  if p.isAbsolute then p
  else if base.isEmpty || base.text.toList.getLast? == some '/' then ⟨base.text ++ p.text⟩
  else ⟨base.text ++ "/" ++ p.text⟩

def child (dir : Path) (name : String) : Path := dir.join ⟨name⟩

/-- Drops separators and single dots at the start of a spelling that follows a component. -/
def trimStart : List Char → List Char
  | '/' :: rest => trimStart rest
  | ['.'] => []
  | '.' :: '/' :: rest => trimStart rest
  | cs => cs

def dropComponents : Nat → List Char → List Char
  | 0, cs => cs
  | n + 1, '/' :: rest => dropLater n rest
  | n + 1, cs => dropLater n (cs.dropWhile (· ≠ '/'))
where
  /-- Drops components from a spelling that follows a component. -/
  dropLater : Nat → List Char → List Char
  | 0, cs => trimStart cs
  | n + 1, cs => dropLater n ((trimStart cs).dropWhile (· ≠ '/'))

/-- What follows a base in a path that lies at or below it, as it is spelled there. -/
def relativeTo? (p base : Path) : Option Path :=
  if p.isWithin base then
    let rest := dropComponents base.components.length p.text.toList
    some ⟨String.ofList (trimEnd rest.reverse).reverse⟩
  else none

/-- Works out single and double dots without looking at any file. -/
def resolveDots (p : Path) : Path :=
  p.components.foldl step ⟨""⟩
where
  /-- Appends one component; two dots drop the last one. -/
  step (out : Path) : Component → Path
  | .current => out
  | .parent => (out.parent?).getD out
  | .root => ⟨"/"⟩
  | .name n => out.child n

def quoted (p : Path) : String := Text.quoted p.text

end Path

end TreeWatch
