import TreeWatch.Attributes
import TreeWatch.Filter.Profile
import TreeWatch.Pattern.Regex.Parser

/-!
# Filters

A filter says of each path, with what the file system says about it, whether it takes part in
a snapshot. Filters are values; only one kind looks into files, and what it finds there is
given to it from outside.
-/

namespace TreeWatch

open Pattern

abbrev Contents := Path → Option (List UInt8)

/-- A file that has been opened: its bytes, and how many of them lie before the place where it is
read next. -/
structure OpenFile where
  bytes : List UInt8
  position : Nat
deriving DecidableEq, Repr

namespace OpenFile

/-- The least offset that a file system may refuse: two to the power of 63, from which on an offset
is negative to the system. -/
def offsetLimit : Nat := 0x8000000000000000

/-- No offset from the limit on can be gone to. -/
def nowhere : UInt64 → Bool := fun _ => false

/-- Goes to an offset, which may lie beyond the end. Of the offsets from the limit on, a file system
may let go to some. -/
def seek (reaches : UInt64 → Bool) (offset : UInt64) (f : OpenFile) : Option OpenFile :=
  if offset.toNat < offsetLimit || reaches offset then some { f with position := offset.toNat }
  else none

/-- Reads so many bytes; `none` if the file ends before. -/
def readExact (count : Nat) (f : OpenFile) : Option (List UInt8) :=
  let found := (f.bytes.drop f.position).take count
  if found.length < count then none else some found

end OpenFile

/-- Which entries take part in a snapshot. -/
inductive Filter where
  | everything
  | nothing
  | directory
  | file
  | hidden
  | visible
  | writable
  | name (names : List String) (sensitivity : CaseSensitivity)
  | starting (starts : List String) (sensitivity : CaseSensitivity)
  | ending (endings : List String) (sensitivity : CaseSensitivity)
  | wildcard (globs : List Glob)
  | search (pattern : String) (regular : Regular)
  /-- By modification time: not after the limit, or after it. -/
  | age (limit : Timestamp) (older : Bool)
  /-- By length: at least the limit, or less. -/
  | size (limit : UInt64) (larger : Bool)
  | profile (p : Profile)
  /-- Regular files that hold a signature at an offset. -/
  | magic (signature : List UInt8) (offset : UInt64)
  | custom (label : String) (accepts : Path → Attributes → Bool)
  /-- What all of several filters accept; nothing, if there are none. -/
  | all (filters : List Filter)
  | any (filters : List Filter)
  | negated (inner : Filter)
deriving Inhabited

/-- Why a filter cannot be made. -/
inductive FilterError where
  | glob (e : GlobError)
  | profile (e : GlobError)
  | search (pattern : String)
  | emptySignature
deriving DecidableEq, Repr

namespace Filter

/-- The length that a file needs in order to hold a signature at an offset. Lengths stay at the
largest one beyond it. -/
def neededLength (signature : List UInt8) (offset : UInt64) : Nat :=
  min (offset.toNat + signature.length) (UInt64.size - 1)

def readsSignature (reaches : UInt64 → Bool) (signature : List UInt8) (offset : UInt64)
    (f : OpenFile) : Bool :=
  match (f.seek reaches offset).bind (·.readExact signature.length) with
  | some found => found == signature
  | none => false

def holdsSignature (reaches : UInt64 → Bool) (contents : Contents) (signature : List UInt8)
    (offset : UInt64) (path : Path) (a : Attributes) : Bool :=
  if a.isDirectory || a.isLink || a.length.toNat < neededLength signature offset then false
  else
    match contents path with
    | some bytes => readsSignature reaches signature offset ⟨bytes, 0⟩
    | none => false

def isHiddenName (path : Path) : Bool := path.baseName.toList.head? == some '.'

def codePoints (s : String) : List Nat := s.toList.map (·.toNat)

def accepts (contents : Contents) : Filter → Path → Attributes → Bool
  | everything, _, _ => true
  | nothing, _, _ => false
  | directory, _, a => a.isDirectory
  | file, _, a => a.isFile
  | hidden, p, _ => isHiddenName p
  | visible, p, _ => !isHiddenName p
  | writable, _, a => !a.readonly
  | name names c, p, _ => names.any fun n => c.equals p.baseName n
  | starting starts c, p, _ => starts.any fun s => c.startsWith p.baseName s
  | ending endings c, p, _ => endings.any fun s => c.endsWith p.baseName s
  | wildcard globs, p, _ => Glob.anyMatch globs p.baseName
  | search _ r, p, _ => r.isFound (codePoints p.baseName)
  | age limit older, _, a => older != a.modified.isAfter limit
  | size limit larger, _, a => larger != decide (a.length < limit)
  | profile f, p, a => f.accepts p a.isDirectory
  | magic signature offset, p, a => holdsSignature OpenFile.nowhere contents signature offset p a
  | custom _ test, p, a => test p a
  | all filters, p, a => !filters.isEmpty && acceptsAll filters p a
  | any filters, p, a => acceptsAny filters p a
  | negated inner, p, a => !inner.accepts contents p a
where
  acceptsAll : List Filter → Path → Attributes → Bool
  | [], _, _ => true
  | f :: fs, p, a => f.accepts contents p a && acceptsAll fs p a
  acceptsAny : List Filter → Path → Attributes → Bool
  | [], _, _ => false
  | f :: fs, p, a => f.accepts contents p a || acceptsAny fs p a

def ofGlobs (patterns : List String) (sensitivity : CaseSensitivity) : Except FilterError Filter :=
  match Glob.parseAll ⟨!sensitivity.isSensitive, true⟩ patterns with
  | .ok globs => .ok (wildcard globs)
  | .error e => .error (.glob e)

def ofPattern (pattern : String) (sensitivity : CaseSensitivity) : Except FilterError Filter :=
  match Regex.parse (!sensitivity.isSensitive) pattern with
  | some r => .ok (search pattern r)
  | none => .error (.search pattern)

def ofProfile (root : Path) (includes excludes : List String) (sensitivity : CaseSensitivity) :
    Except FilterError Filter :=
  match Profile.make root includes excludes sensitivity with
  | .ok p => .ok (profile p)
  | .error e => .error (.profile e)

def ofSignature (signature : List UInt8) (offset : UInt64) : Except FilterError Filter :=
  if signature.isEmpty then .error .emptySignature else .ok (magic signature offset)

def both (a b : Filter) : Filter := all [a, b]

def either (a b : Filter) : Filter := any [a, b]

def atLeast (limit : UInt64) : Filter := size limit true

def smallerThan (limit : UInt64) : Filter := size limit false

/-- The next length, except after the largest one. -/
def nextLength (n : UInt64) : UInt64 := if n = UInt64.ofNat (UInt64.size - 1) then n else n + 1

def sizeRange (least most : UInt64) : Filter := both (atLeast least) (smallerThan (nextLength most))

def restrict (base : Filter) : Option Filter → Filter
  | some f => all [base, f]
  | none => base

def withoutDirectory (directoryName : String) (f : Option Filter) : Filter :=
  restrict (negated (both directory (name [directoryName] .sensitive))) f

def text : Filter → String
  | everything => "TrueFilter"
  | nothing => "FalseFilter"
  | directory => "DirectoryFilter"
  | file => "FileTypeFilter"
  | hidden => "HiddenFilter"
  | visible => "VisibleFilter"
  | writable => "CanWriteFilter"
  | name names c =>
    Text.recordText "NameFilter" [("names", Text.quotedList names), ("case", c.label)]
  | starting starts c =>
    Text.recordText "PrefixFilter" [("prefixes", Text.quotedList starts), ("case", c.label)]
  | ending endings c =>
    Text.recordText "SuffixFilter" [("suffixes", Text.quotedList endings), ("case", c.label)]
  | wildcard globs =>
    Text.recordText "WildcardFilter" [("patterns", Text.quotedList (globs.map (·.pattern)))]
  | search pattern _ =>
    Text.recordText "RegexFilter" [("regex", "Regex(" ++ Text.quoted pattern ++ ")")]
  | age limit older =>
    Text.recordText "AgeFilter" [("cutoff", limit.text), ("accept_older", toString older)]
  | size limit larger =>
    Text.recordText "SizeFilter"
      [("threshold", toString limit), ("accept_larger", toString larger)]
  | profile p => p.text
  | magic signature offset =>
    Text.recordText "MagicNumberFilter"
      [("signature", Text.bracketed (signature.map toString)), ("offset", toString offset)]
  | custom label _ => "FnFilter(" ++ Text.quoted label ++ ")"
  | all filters => Text.recordText "AndFilter" [("filters", Text.bracketed (texts filters))]
  | any filters => Text.recordText "OrFilter" [("filters", Text.bracketed (texts filters))]
  | negated inner => Text.recordText "NotFilter" [("inner", inner.text)]
where
  /-- Several filters, each as it is shown in records. -/
  texts : List Filter → List String
  | [] => []
  | f :: fs => f.text :: texts fs

end Filter

end TreeWatch
