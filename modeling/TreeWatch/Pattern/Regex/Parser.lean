import TreeWatch.Pattern.Regex.Atom

/-!
# Search patterns

Reads a search pattern part by part, with a stack of the groups that are open. A pattern that
is not well formed has no reading, nor has one that is nested too deeply or spells out to too
many states.
-/

namespace TreeWatch.Pattern.Regex

/-- A part of a pattern: its meaning, whether it can be repeated, and how deep groups,
repetitions, branches and sets are nested in it. -/
structure Part where
  regular : Regular
  repeatable : Bool
  depth : Nat

namespace Part

def depthAround (parts : List Part) : Nat := 1 + parts.foldl (fun d p => max d p.depth) 0

def seqAll : List Part → Part
  | [] => ⟨.empty, false, 0⟩
  | [p] => p
  | parts => ⟨.seqAll (parts.map (·.regular)), true, depthAround parts⟩

def altAll : List Part → Part
  | [p] => p
  | parts => ⟨.altAll (parts.map (·.regular)), true, depthAround parts⟩

end Part

/-- A group that is open: the parts and the finished branches before it, and the settings that
hold again after it. -/
structure OpenGroup where
  parts : List Part
  branches : List Part
  flags : Flags

/-- What has been read of a pattern: the parts of the current branch and the finished branches
of the current group (both latest first), the groups around it, and the names of groups. -/
structure Reading where
  flags : Flags
  parts : List Part
  branches : List Part
  groups : List OpenGroup
  names : List (List Char)

namespace Reading

def push (r : Reading) (x : Regular) : Reading := { r with parts := ⟨x, true, 0⟩ :: r.parts }

def pushSet (r : Reading) (s : CharSet) : Reading :=
  { r with parts := ⟨.symbol s, true, 1⟩ :: r.parts }

def branch (r : Reading) : Part := .seqAll r.parts.reverse

def group (r : Reading) : Part := .altAll (r.branch :: r.branches).reverse

def nextBranch (r : Reading) : Reading :=
  { r with parts := [], branches := r.branch :: r.branches }

def openGroup (r : Reading) (flags : Flags) : Reading :=
  { r with flags, parts := [], branches := [], groups := ⟨r.parts, r.branches, r.flags⟩ :: r.groups }

def closeGroup (r : Reading) : Option Reading :=
  match r.groups with
  | [] => none
  | g :: groups =>
    let inner := r.group
    let part : Part := ⟨inner.regular, true, inner.depth + 1⟩
    some ⟨g.flags, part :: g.parts, g.branches, groups, r.names⟩

def setFlags (r : Reading) (flags : Flags) : Reading :=
  { r with flags, parts := ⟨.empty, false, 0⟩ :: r.parts }

def repeatLast (r : Reading) (least : Nat) (most : Option Nat) : Option Reading :=
  match r.parts with
  | ⟨x, true, depth⟩ :: parts =>
    some { r with parts := ⟨.times x least most, true, depth + 1⟩ :: parts }
  | _ => none

/-- The meaning of one atom outside of brackets. A number beyond ASCII that was written as one
byte is refused without Unicode. -/
def pushAtom (r : Reading) : Atom → Option Reading
  | .literal c asByte =>
    if asByte && !r.flags.unicode && 0x80 ≤ c.toNat then none
    else some (r.push (.symbol (r.flags.fold (.only c.toNat))))
  | .set s => some (r.push (.symbol s))
  | .look l => some (r.push (.look l))

end Reading

/-- What a group begins with. -/
inductive GroupStart where
  | group (flags : Flags) (name : Option (List Char))
  | settings (flags : Flags)

/-- Reads the letters of settings up to the end of the group or the colon before its
contents. -/
def readFlags (seen : List Char) (on : Bool) (f : Flags) : Reader GroupStart
  | [] => none
  | c :: rest =>
    if c = ':' ∨ c = ')' then
      if seen.head? = some '-' then none
      else if c = ':' then some (.group f none, rest)
      else if seen.isEmpty then none
      else some (.settings f, rest)
    else if seen.contains c then none
    else if c = '-' then readFlags ('-' :: seen) false f rest
    else
      match f.set? on c with
      | some f => readFlags (c :: seen) on f rest
      | none => none

def isGroupNameChar (first : Bool) (c : Char) : Bool :=
  let alphabetic := ((Text.Property.rowOf? Text.binaryTable "alphabetic").map
    Text.Property.binary).toList
  let numeric := (Text.Property.categories? "n").getD []
  c = '_' || Text.Property.anyHolds alphabetic c.toNat
    || (!first && (c = '.' || c = '[' || c = ']' || Text.Property.anyHolds numeric c.toNat))

def readName (f : Flags) (cs : List Char) : Option (GroupStart × List Char) := do
  let (name, rest) ← splitAt? ['>'] cs
  match name with
  | [] => none
  | c :: cs =>
    if isGroupNameChar true c && cs.all (isGroupNameChar false) then
      return (.group f (some name), rest)
    else none

/-- Reads what follows an opening parenthesis. Conditions on what lies around are not known. -/
def readGroupStart (f : Flags) : Reader GroupStart := fun cs =>
  match f.skip cs with
  | '?' :: 'P' :: '<' :: rest => readName f rest
  | '?' :: '<' :: '=' :: _ => none
  | '?' :: '<' :: '!' :: _ => none
  | '?' :: '<' :: rest => readName f rest
  | '?' :: rest => readFlags [] true f rest
  | cs => some (.group f none, cs)

def countLimit : Nat := UInt32.size - 1

def readDigits (f : Flags) : Nat → List Char → List Char × List Char
  | 0, cs => ([], cs)
  | fuel + 1, cs =>
    match cs with
    | c :: rest =>
      if c.isDigit then
        let (ds, rest) := readDigits f fuel (f.skip rest)
        (c :: ds, rest)
      else ([], cs)
    | [] => ([], [])

/-- Reads a count between blanks; `none` inside if there are no digits, outside if it is too
large. -/
def readCount (f : Flags) (cs : List Char) : Option (Option Nat × List Char) :=
  let (ds, rest) := readDigits f cs.length (cs.dropWhile Text.isBlank)
  let rest := f.skip (rest.dropWhile Text.isBlank)
  let n := ds.foldl (fun n c => n * 10 + (c.toNat - '0'.toNat)) 0
  if ds.isEmpty then some (none, rest)
  else if countLimit < n then none
  else some (some n, rest)

def dropLazyMark : List Char → List Char
  | '?' :: rest => rest
  | cs => cs

def readBounds (f : Flags) (cs : List Char) : Option ((Nat × Option Nat) × List Char) := do
  let (least, rest) ← readCount f (f.skip cs)
  let least ← least
  let (bounds, rest) ← (match rest with
    | ',' :: rest =>
      match f.skip rest with
      | '\x7d' :: rest => some ((least, none), '\x7d' :: rest)
      | rest => do
        let (most, rest) ← readCount f rest
        let most ← most
        if least ≤ most then some ((least, some most), rest) else none
    | rest => some ((least, some least), rest) :
      Option ((Nat × Option Nat) × List Char))
  match rest with
  | '\x7d' :: rest => return (bounds, dropLazyMark (f.skip rest))
  | _ => none

def readPart (r : Reading) : Reader Reading := fun cs =>
  match r.flags.skip cs with
  | [] => some (r, [])
  | '(' :: rest => do
    let (start, rest) ← readGroupStart r.flags rest
    match start with
    | .settings f => return (r.setFlags f, rest)
    | .group f none => return (r.openGroup f, rest)
    | .group f (some name) =>
      if r.names.contains name then none
      else return ({ r.openGroup f with names := name :: r.names }, rest)
  | ')' :: rest => do return (← r.closeGroup, rest)
  | '|' :: rest => some (r.nextBranch, rest)
  | '[' :: rest => do
    let (s, rest) ← readSet r.flags rest
    return (r.pushSet s, rest)
  | '?' :: rest => do return (← r.repeatLast 0 (some 1), dropLazyMark rest)
  | '*' :: rest => do return (← r.repeatLast 0 none, dropLazyMark rest)
  | '+' :: rest => do return (← r.repeatLast 1 none, dropLazyMark rest)
  | '\x7b' :: rest => do
    let ((least, most), rest) ← readBounds r.flags rest
    return (← r.repeatLast least most, rest)
  | '.' :: rest => do return (r.push (.symbol (← r.flags.dot?)), rest)
  | '^' :: rest => some (r.push (.look r.flags.caret), rest)
  | '$' :: rest => some (r.push (.look r.flags.dollar), rest)
  | '\\' :: rest => do
    let (a, rest) ← readEscape r.flags rest
    return (← r.pushAtom a, rest)
  | c :: rest => do return (← r.pushAtom (.literal c false), rest)

def readParts : Nat → Reading → List Char → Option Reading
  | _, r, [] => some r
  | 0, _, _ => none
  | fuel + 1, r, cs => do
    let (r, rest) ← readPart r cs
    readParts fuel r rest

def depthLimit : Nat := 250

/-- How many bytes the states of a pattern may take. -/
def footprintLimit : Nat := 10 * 1024 * 1024

def parse (ignoreCase : Bool) (pattern : String) : Option Regular := do
  let cs := pattern.toList
  let r ← readParts cs.length ⟨.initial ignoreCase, [], [], [], []⟩ cs
  let whole := r.group
  if r.groups.isEmpty ∧ whole.depth ≤ depthLimit ∧ whole.regular.footprint ≤ footprintLimit then
    return whole.regular
  else none

end TreeWatch.Pattern.Regex
