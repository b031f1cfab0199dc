import TreeWatch.Attributes
import TreeWatch.Path

/-!
# Entries of a snapshot

An entry is what was found at one path: nothing, a file, or a directory together with the
entries found in it. A snapshot is the entry of the observed root.

Main statement: walking over the entries below one with a stack gives them parents first and
siblings in order (`walk_eq_flatMap`).
-/

namespace TreeWatch

/-- What was found at one path. -/
inductive Entry where
  | missing (path : Path)
  | file (path : Path) (modified : Timestamp) (length : UInt64)
  | directory (path : Path) (modified : Timestamp) (children : List Entry)
deriving BEq, Inhabited

namespace Entry

/-- The entry of a path with these attributes. Only a directory keeps the entries in it. -/
def ofAttributes (path : Path) (a : Attributes) (children : List Entry) : Entry :=
  if a.isDirectory then directory path a.modified children else file path a.modified a.length

def path : Entry → Path
  | missing p => p
  | file p _ _ => p
  | directory p _ _ => p

/-- The last component of the path, or the whole path if that is no name. -/
def name (e : Entry) : String := e.path.baseName

def present : Entry → Bool
  | missing _ => false
  | _ => true

def isDirectory : Entry → Bool
  | directory _ _ _ => true
  | _ => false

def isFile (e : Entry) : Bool := e.present && !e.isDirectory

/-- The modification time; the epoch for what was not found. -/
def modified : Entry → Timestamp
  | missing _ => .epoch
  | file _ t _ => t
  | directory _ t _ => t

/-- The length of a file, and 0 for anything else. -/
def length : Entry → UInt64
  | file _ _ n => n
  | _ => 0

def children : Entry → List Entry
  | directory _ _ es => es
  | _ => []

def size : Entry → Nat
  | missing _ => 1
  | file _ _ _ => 1
  | directory _ _ es => 1 + sizeAll es
where
  /-- The number of entries at and below several entries. -/
  sizeAll : List Entry → Nat
  | [] => 0
  | e :: es => e.size + sizeAll es

/-- An entry and all below it: parents first, siblings in order. -/
def preorder : Entry → List Entry
  | missing p => [missing p]
  | file p t n => [file p t n]
  | directory p t es => directory p t es :: preorderAll es
where
  preorderAll : List Entry → List Entry
  | [] => []
  | e :: es => e.preorder ++ preorderAll es

/-- An entry and all below it: siblings in order, parents last. -/
def postorder : Entry → List Entry
  | missing p => [missing p]
  | file p t n => [file p t n]
  | directory p t es => postorderAll es ++ [directory p t es]
where
  /-- Several entries and all below them, parents last. -/
  postorderAll : List Entry → List Entry
  | [] => []
  | e :: es => e.postorder ++ postorderAll es

theorem preorderAll_eq_flatMap (es : List Entry) :
    preorder.preorderAll es = es.flatMap preorder := by
  induction es with
  | nil => rfl
  | cons e es ih => simp [preorder.preorderAll, ih]

theorem size_le_sizeAll {e : Entry} {es : List Entry} (h : e ∈ es) : e.size ≤ size.sizeAll es := by
  induction es with
  | nil => simp at h
  | cons a es ih =>
    rcases List.mem_cons.1 h with rfl | h
    · simp [size.sizeAll]
    · simp only [size.sizeAll]
      have := ih h
      omega

theorem sizeAll_append (as bs : List Entry) :
    size.sizeAll (as ++ bs) = size.sizeAll as + size.sizeAll bs := by
  induction as with
  | nil => simp [size.sizeAll]
  | cons a as ih => simp [size.sizeAll, ih, Nat.add_assoc]

theorem size_eq_sizeAll_children (e : Entry) : e.size = 1 + size.sizeAll e.children := by
  cases e <;> simp [size, children, size.sizeAll]

theorem size_lt_of_mem_children {e d : Entry} (h : e ∈ d.children) : e.size < d.size := by
  have := size_le_sizeAll h
  rw [size_eq_sizeAll_children d]
  omega

theorem preorder_eq_cons (e : Entry) : e.preorder = e :: preorder.preorderAll e.children := by
  cases e <;> simp [preorder, children, preorder.preorderAll]

/-- Takes the entries off a stack, its head on top, and puts those directly below each on the
stack in its place. -/
def walk : List Entry → List Entry
  | [] => []
  | e :: rest => e :: walk (e.children ++ rest)
termination_by stack => size.sizeAll stack
decreasing_by
  rw [sizeAll_append, size.sizeAll, size_eq_sizeAll_children]
  omega

def descendants (e : Entry) : List Entry := walk e.children

theorem walk_eq_flatMap (stack : List Entry) : walk stack = stack.flatMap preorder := by
  fun_induction walk stack with
  | case1 => rfl
  | case2 e rest ih =>
    rw [ih, List.flatMap_append, List.flatMap_cons, preorder_eq_cons, preorderAll_eq_flatMap]
    rfl

end Entry

end TreeWatch
