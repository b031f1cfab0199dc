import TreeWatch.FileSystem
import TreeWatch.Path

/-!
# Disks

A file tree in memory that keeps what files hold, and finds paths the way an operating system
does: a path is walked piece by piece, links on the way are followed, and whatever is not at
its end has to be a directory. Every change is later than all changes before it.
-/

namespace TreeWatch

/-- A place on a disk: the names that lead to it, the last one first. -/
abbrev Spot := List String

inductive DiskNode where
  | file (bytes : List UInt8)
  | directory
  | link (target : Path)
deriving DecidableEq, Repr

/-- What stands at a place, and when it was modified. -/
structure DiskEntry where
  node : DiskNode
  modified : Timestamp
deriving DecidableEq, Repr

/-- A disk, and the directory that relative paths start from. -/
structure Disk where
  entries : List (Spot × DiskEntry) := []
  current : Spot := []
  clock : Nat := 1750000000000000000

namespace DiskEntry

def length (e : DiskEntry) : Nat :=
  match e.node with
  | .file bytes => bytes.length
  | .directory => 4096
  | .link target => target.text.utf8ByteSize

def attributes (e : DiskEntry) : Attributes :=
  ⟨e.node = .directory, e.node matches .link _, e.length.toUInt64, e.modified, false⟩

end DiskEntry

namespace Disk

/-! ## Refusals -/

def notFound : IoError := ⟨.notFound, "No such file or directory (os error 2)"⟩

def notDirectory : IoError := ⟨.other, "Not a directory (os error 20)"⟩

def isDirectory : IoError := ⟨.other, "Is a directory (os error 21)"⟩

def tooLong : IoError := ⟨.other, "File name too long (os error 36)"⟩

def tooManyLinks : IoError := ⟨.other, "Too many levels of symbolic links (os error 40)"⟩

def nulInName : IoError := ⟨.other, "file name contained an unexpected NUL byte"⟩

def noText : IoError := ⟨.other, "stream did not contain valid UTF-8"⟩

/-! ## Finding paths -/

def linkLimit : Nat := 40

def nameLimit : Nat := 255

def pathLimit : Nat := 4096

/-- What stands at a place; the first directory is always there. -/
def find? (d : Disk) (s : Spot) : Option DiskEntry :=
  match s, d.entries.lookup s with
  | _, some e => some e
  | [], none => some ⟨.directory, .epoch⟩
  | _ :: _, none => none

def hasDirectory (d : Disk) (s : Spot) : Bool :=
  match d.find? s with
  | some e => e.node = .directory
  | none => false

def linkAt? (d : Disk) (s : Spot) : Option Path :=
  match (d.find? s).map DiskEntry.node with
  | some (.link target) => some target
  | _ => none

def piecesOf (p : Path) : List String := (Path.pieces p.text.toList).map String.ofList

def start (p : Path) (here : Spot) : Spot := if p.isAbsolute then [] else here

/-- Walks from a directory along pieces to a place, where something need only stand if it is
asked for something below. So many links may be followed; one at the end only if asked for. -/
def walk (d : Disk) (followLast : Bool) (links : Nat) (here : Spot) (pieces : List String) :
    Except IoError Spot :=
  match pieces with
  | [] => .ok here
  | piece :: rest =>
    if !d.hasDirectory here then .error (if (d.find? here).isSome then notDirectory else notFound)
    else if piece = "" ∨ piece = "." then walk d followLast links here rest
    else if piece = ".." then walk d followLast links here.tail rest
    else if nameLimit < piece.utf8ByteSize then .error tooLong
    else
      match d.linkAt? (piece :: here) with
      | none => walk d followLast links (piece :: here) rest
      | some target =>
        if rest = [] ∧ !followLast then .ok (piece :: here)
        else
          match links with
          | 0 => .error tooManyLinks
          | links + 1 => walk d followLast links (start target here) (piecesOf target ++ rest)
termination_by (links, pieces.length)

def locate (d : Disk) (followLast : Bool) (p : Path) : Except IoError Spot :=
  if p.text.toList.contains '\x00' then .error nulInName
  else if p.isEmpty then .error notFound
  else if pathLimit ≤ p.text.utf8ByteSize then .error tooLong
  else d.walk followLast linkLimit (start p d.current) (piecesOf p)

def lookUp (d : Disk) (followLast : Bool) (p : Path) : Except IoError (Spot × DiskEntry) := do
  let s ← d.locate followLast p
  match d.find? s with
  | some e => return (s, e)
  | none => throw notFound

/-! ## Questions -/

def metadata (d : Disk) (p : Path) : Except IoError Attributes :=
  return (← d.lookUp true p).2.attributes

def linkMetadata (d : Disk) (p : Path) : Except IoError Attributes :=
  return (← d.lookUp false p).2.attributes

def names (d : Disk) (s : Spot) : List String :=
  d.entries.filterMap fun e =>
    match e.1 with
    | n :: dir => if dir = s then some n else none
    | [] => none

def list (d : Disk) (p : Path) : Except IoError (List Path) := do
  let (s, e) ← d.lookUp true p
  if e.node = .directory then return (d.names s).map p.child else throw notDirectory

def read (d : Disk) (p : Path) : Except IoError (List UInt8) := do
  match (← d.lookUp true p).2.node with
  | .file bytes => return bytes
  | _ => throw isDirectory

def readText (d : Disk) (p : Path) : Except IoError String := do
  match String.fromUTF8? (← d.read p).toByteArray with
  | some text => return text
  | none => throw noText

def pathOf (s : Spot) : Path := ⟨"/" ++ "/".intercalate s.reverse⟩

def canonical (d : Disk) (p : Path) : Except IoError Path :=
  return pathOf (← d.lookUp true p).1

def contents (d : Disk) (p : Path) : Option (List UInt8) := (d.read p).toOption

/-! ## Changes -/

def tick (d : Disk) : Disk := { d with clock := d.clock + 1 }

def now (d : Disk) : Timestamp := ⟨d.clock⟩

def putIn (s : Spot) (e : DiskEntry) : List (Spot × DiskEntry) → List (Spot × DiskEntry)
  | [] => [(s, e)]
  | x :: xs => if x.1 = s then (s, e) :: xs else x :: putIn s e xs

def put (d : Disk) (s : Spot) (e : DiskEntry) : Disk := { d with entries := putIn s e d.entries }

def stamp (d : Disk) (s : Spot) (t : Timestamp) : Disk :=
  match d.find? s with
  | some e => d.put s { e with modified := t }
  | none => d

/-- Lets something new stand at a place now. The directory around it changes if nothing stood
there before. -/
def write (d : Disk) (s : Spot) (n : DiskNode) : Disk :=
  let isNew := (d.find? s).isNone
  let d := d.tick
  let d := d.put s ⟨n, d.now⟩
  if isNew then d.stamp s.tail d.now else d

def trimmed (p : Path) : Path := ⟨String.ofList (Path.trimEnd p.text.toList.reverse).reverse⟩

def makeDirectory (d : Disk) (p : Path) : Disk :=
  match d.locate true (trimmed p) with
  | .ok s => if (d.find? s).isSome then d else d.write s .directory
  | .error _ => d

def pathsAbove (p : Path) : Nat → List Path
  | 0 => []
  | n + 1 =>
    match p.parent? with
    | some dir => pathsAbove dir n ++ [dir]
    | none => []

def makeAbove (d : Disk) (p : Path) : Disk :=
  ((pathsAbove p p.components.length).filter (!·.isEmpty)).foldl makeDirectory d

/-- Writes a file. A file that is there is replaced, also at the end of links. -/
def writeFile (d : Disk) (p : Path) (bytes : List UInt8) : Disk :=
  match d.locate true p with
  | .ok s => if d.hasDirectory s then d else d.write s (.file bytes)
  | .error _ => d

def makeLink (d : Disk) (p target : Path) : Disk :=
  match d.locate false p with
  | .ok s => d.write s (.link target)
  | .error _ => d

def setModified (d : Disk) (p : Path) (t : Timestamp) : Disk :=
  match d.locate true p with
  | .ok s => d.stamp s t
  | .error _ => d

/-- An empty disk on which one directory was made, from which relative paths start. -/
def within (p : Path) : Disk :=
  let d := (makeAbove {} p).makeDirectory p
  { d with current := (d.locate true p).toOption.getD [] }

/-- Something that is put on a disk. -/
structure Deposit where
  path : Path
  node : DiskNode
  /-- The modification time, if it is to be another one than now. -/
  modified : Option Timestamp
deriving DecidableEq, Repr

def deposit (d : Disk) (x : Deposit) : Disk :=
  let d := d.makeAbove x.path
  match x.node with
  | .file bytes => d.writeFile x.path bytes
  | .directory => d.makeDirectory x.path
  | .link target => d.makeLink x.path target

def date (d : Disk) (x : Deposit) : Disk :=
  match x.modified with
  | some t => d.setModified x.path t
  | none => d

/-- Puts several things on a disk, and dates them once all are there, the last one first. -/
def depositAll (d : Disk) (xs : List Deposit) : Disk :=
  xs.reverse.foldl date (xs.foldl deposit d)

def remove (d : Disk) (p : Path) : Disk :=
  match d.locate false p with
  | .error _ => d
  | .ok s =>
    if (d.find? s).isSome then
      let d := { d.tick with entries := d.entries.filter fun e => !s.isSuffixOf e.1 }
      d.stamp s.tail d.now
    else d

/-- A disk as a file system: `ask` gets at the disk that there is when a question is put. -/
def fileSystem {m : Type → Type} [Monad m] (ask : m Disk) (contents : Contents) :
    FileSystem m where
  metadata p := return (← ask).metadata p
  linkMetadata p := return (← ask).linkMetadata p
  list p := return (← ask).list p
  contents := contents
  depthLimit := pathLimit

end Disk

end TreeWatch
