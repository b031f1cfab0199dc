import TreeWatch.FileSystem
import TreeWatch.Text.Lossy

/-!
# Stored file trees

A file system that is kept in memory. Directories above an added path are made on the way;
a directory lists its entries in the order in which they were added. Listing a directory or
looking at a path can be made to fail.

What is stored is found by the path itself, but a directory keeps the names in it as texts: it
lists what is legible of them. This makes a difference only where paths are spelled by bytes
(`Spelling`). Messages show a path as it is spelled.
-/

namespace TreeWatch

/-- A place in a tree: the components of a path, the last one first. -/
abbrev Place := List Component

def Path.place (p : Path) : Place := p.components.reverse

/-- What is stored at a place. -/
inductive StoredKind where
  | file (length : UInt64)
  /-- The names in it, in the order in which they were added. -/
  | directory (names : List String)
  | link (target : Path)
deriving DecidableEq, Repr

/-- What is stored at a place, and when it was modified. -/
structure StoredNode where
  kind : StoredKind
  modified : Timestamp
deriving DecidableEq, Repr

/-- A file tree in memory, whose paths are texts if nothing else is said. -/
structure Store (spelling : Spelling := .text) where
  nodes : List (Place × StoredNode) := []
  unlistable : List Place := []
  unreadable : List Place := []

namespace StoredNode

def attributes (n : StoredNode) : Attributes :=
  match n.kind with
  | .file length => .file length n.modified
  | .directory _ => .directory n.modified
  | .link _ => .link n.modified

def names (n : StoredNode) : List String :=
  match n.kind with
  | .directory names => names
  | _ => []

/-- Adds a name to a directory that does not list it yet. -/
def addName (name : String) (n : StoredNode) : StoredNode :=
  match n.kind with
  | .directory names =>
    if name ∈ names then n else { n with kind := .directory (names ++ [name]) }
  | _ => n

def removeName (name : String) (n : StoredNode) : StoredNode :=
  match n.kind with
  | .directory names => { n with kind := .directory (names.filter (· ≠ name)) }
  | _ => n

end StoredNode

namespace Store

variable {spelling : Spelling}

def find? (s : Store spelling) (p : Place) : Option StoredNode := s.nodes.lookup p

def putIn (p : Place) (n : StoredNode) : List (Place × StoredNode) → List (Place × StoredNode)
  | [] => [(p, n)]
  | e :: es => if e.1 = p then (p, n) :: es else e :: putIn p n es

def put (s : Store spelling) (p : Place) (n : StoredNode) : Store spelling :=
  { s with nodes := putIn p n s.nodes }

def modify (s : Store spelling) (p : Place) (f : StoredNode → StoredNode) : Store spelling :=
  match s.find? p with
  | some n => s.put p (f n)
  | none => s

/-- Lists a component in the directory around it. -/
def enter (s : Store spelling) (dir : Place) : Component → Store spelling
  | .name n => s.modify dir (.addName (spelling.legible n))
  | _ => s

def emptyDirectory : StoredNode := ⟨.directory [], .epoch⟩

/-- Makes a directory at a place where nothing is stored, and those around it. -/
def ensureDirectory (s : Store spelling) : Place → Store spelling
  | [] => if (s.find? []).isSome then s else s.put [] emptyDirectory
  | [c] => if (s.find? [c]).isSome then s else s.put [c] emptyDirectory
  | c :: d :: dir =>
    if (s.find? (c :: d :: dir)).isSome then s
    else ((s.put (c :: d :: dir) emptyDirectory).ensureDirectory (d :: dir)).enter (d :: dir) c

/-- Makes the directory around a place and lists the place in it. -/
def linkToParent (s : Store spelling) : Place → Store spelling
  | c :: d :: dir => (s.ensureDirectory (d :: dir)).enter (d :: dir) c
  | _ => s

/-- Adds a directory, or gives what is there another modification time. -/
def addDirectory (s : Store spelling) (p : Path) (modified : Timestamp) : Store spelling :=
  (s.ensureDirectory p.place).modify p.place fun n => { n with modified }

/-- Adds a file in the place of whatever is there. -/
def addFile (s : Store spelling) (p : Path) (length : UInt64) (modified : Timestamp) :
    Store spelling :=
  (s.put p.place ⟨.file length, modified⟩).linkToParent p.place

def addLink (s : Store spelling) (p target : Path) (modified : Timestamp) : Store spelling :=
  (s.put p.place ⟨.link target, modified⟩).linkToParent p.place

def setModified (s : Store spelling) (p : Path) (modified : Timestamp) : Store spelling :=
  s.modify p.place fun n => { n with modified }

def remove (s : Store spelling) (p : Path) : Store spelling :=
  let s := { s with nodes := s.nodes.filter fun e => !p.place.isSuffixOf e.1 }
  match p.place with
  | .name n :: dir => s.modify dir (.removeName (spelling.legible n))
  | _ => s

def failListing (s : Store spelling) (p : Path) : Store spelling :=
  { s with unlistable := p.place :: s.unlistable }

def failMetadata (s : Store spelling) (p : Path) : Store spelling :=
  { s with unreadable := p.place :: s.unreadable }

def heal (s : Store spelling) (p : Path) : Store spelling :=
  { s with
    unlistable := s.unlistable.filter (· ≠ p.place)
    unreadable := s.unreadable.filter (· ≠ p.place) }

def notFound (p : Path) : IoError := ⟨.notFound, "not found: " ++ p.quoted⟩

def denied (p : Path) : IoError := ⟨.permissionDenied, "permission denied: " ++ p.quoted⟩

def tooManyLinks (p : Path) : IoError :=
  ⟨.other, "too many levels of symbolic links: " ++ p.quoted⟩

def notDirectory (p : Path) : IoError := ⟨.other, "not a directory: " ++ p.quoted⟩

def linkLimit : Nat := 40

/-- Where a link leads: a relative target lies in the directory around the link. -/
def linkTarget (link target : Path) : Path :=
  match link.parent? with
  | some dir => (dir.join target).resolveDots
  | none => target.resolveDots

/-- Looks at a path through links; so many nodes are looked at. -/
def follow (s : Store spelling) (asked : Path) : Nat → Path → Except IoError Attributes
  | 0, _ => .error (tooManyLinks asked)
  | n + 1, p =>
    match s.find? p.place with
    | none => .error (notFound asked)
    | some node =>
      match node.kind with
      | .link target => follow s asked n (linkTarget p target)
      | _ => .ok node.attributes

def metadata (s : Store spelling) (p : Path) : Except IoError Attributes :=
  if p.place ∈ s.unreadable then .error (denied p) else s.follow p linkLimit p

def linkMetadata (s : Store spelling) (p : Path) : Except IoError Attributes :=
  if p.place ∈ s.unreadable then .error (denied p)
  else
    match s.find? p.place with
    | some n => .ok n.attributes
    | none => .error (notFound p)

def list (s : Store spelling) (p : Path) : Except IoError (List Path) :=
  if p.place ∈ s.unlistable then .error (denied p)
  else
    match s.find? p.place with
    | none => .error (notFound p)
    | some n =>
      match n.kind with
      | .directory names => .ok (names.map p.child)
      | _ => .error (notDirectory p)

/-- The path itself: stored trees know no other name for it. -/
def canonical (_ : Store spelling) (p : Path) : Except IoError Path := .ok p

/-- A stored tree as a file system. It keeps no contents, and no directory in it lies deeper
than there are nodes. -/
def fileSystem {m : Type → Type} [Monad m] (s : Store spelling) : FileSystem m where
  metadata p := return s.metadata p
  linkMetadata p := return s.linkMetadata p
  list p := return s.list p
  contents _ := none
  depthLimit := s.nodes.length

end Store

end TreeWatch
