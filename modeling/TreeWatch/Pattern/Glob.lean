import TreeWatch.Pattern.Regular

/-!
# Globs

Wildcard patterns for paths: `?` is any character, `*` any text, `**` between separators any
number of directories, `[...]` a set of characters and `{...,...}` a choice; a backslash takes
away the meaning of the character after it. Texts are matched byte by byte, from start to end.
-/

namespace TreeWatch.Pattern

inductive GlobToken where
  | literal (c : Char)
  | any
  | star
  /-- Two stars at the start: any directories, or none. -/
  | directoriesFirst
  /-- Two stars at the end: anything below. -/
  | directoriesLast
  /-- Two stars in between: any directories, or none. -/
  | directoriesBetween
  | oneOf (negated : Bool) (ranges : List (Char × Char))
  | choice (branches : List (List GlobToken))
deriving Inhabited

inductive GlobFault where
  | unclosedClass
  | invalidRange (first last : Char)
  | unopenedChoice
  | unclosedChoice
  | danglingEscape
deriving DecidableEq, Repr

namespace GlobFault

def message : GlobFault → String
  | unclosedClass => "unclosed character class; missing ']'"
  | invalidRange a b => "invalid range; '" ++ a.toString ++ "' > '" ++ b.toString ++ "'"
  | unopenedChoice =>
    "unopened alternate group; missing '\x7b' (maybe escape '\x7d' with '[\x7d]'?)"
  | unclosedChoice =>
    "unclosed alternate group; missing '\x7d' (maybe escape '\x7b' with '[\x7b]'?)"
  | danglingEscape => "dangling '\\'"

end GlobFault

/-- A text that is no glob, and why. -/
structure GlobError where
  pattern : String
  fault : GlobFault
deriving DecidableEq, Repr

namespace GlobError

def message (e : GlobError) : String :=
  "error parsing glob '" ++ e.pattern ++ "': " ++ e.fault.message

end GlobError

/-- A choice that has been opened: its finished branches (latest first) and the parts before it
(latest first). -/
structure OpenChoice where
  branches : List (List GlobToken)
  before : List GlobToken

/-- What has been read of a class: its intervals (latest first), and whether a dash has been met
after the latest one. -/
structure OpenClass where
  negated : Bool
  ranges : List (Char × Char)
  inRange : Bool

/-- What has been read of a glob: the parts of the current branch (latest first) and the open
choices around it (innermost first). -/
structure GlobReading where
  tokens : List GlobToken
  choices : List OpenChoice

namespace OpenClass

def push (k : OpenClass) (c : Char) : Except GlobFault OpenClass :=
  match k.ranges with
  | [] => .ok { k with ranges := [(c, c)] }
  | (first, last) :: ranges =>
    if k.inRange then
      if c < first then .error (.invalidRange first c)
      else .ok { k with ranges := (first, c) :: ranges, inRange := false }
    else if c = '-' then .ok { k with inRange := true }
    else .ok { k with ranges := (c, c) :: (first, last) :: ranges }

/-- The class as a part of a glob. A dash at its end stands for itself. -/
def toToken (k : OpenClass) : GlobToken :=
  .oneOf k.negated ((if k.inRange then ('-', '-') :: k.ranges else k.ranges).reverse)

end OpenClass

namespace GlobReading

def push (r : GlobReading) (t : GlobToken) : GlobReading := { r with tokens := t :: r.tokens }

def openChoice (r : GlobReading) : GlobReading := ⟨[], ⟨[], r.tokens⟩ :: r.choices⟩

/-- Begins the next branch of the innermost choice; outside of all, a comma stands for
itself. -/
def comma (r : GlobReading) : GlobReading :=
  match r.choices with
  | [] => r.push (.literal ',')
  | k :: outer => ⟨[], { k with branches := r.tokens.reverse :: k.branches } :: outer⟩

def closeChoice (r : GlobReading) : Except GlobFault GlobReading :=
  match r.choices with
  | [] => .error .unopenedChoice
  | k :: outer =>
    .ok ⟨.choice (r.tokens.reverse :: k.branches).reverse :: k.before, outer⟩

def twoStars (r : GlobReading) : GlobReading := (r.push .star).push .star

/-- Puts two stars for directories in the place of the separator before them. Next to other
such stars they add nothing. -/
def directories (r : GlobReading) (t : GlobToken) : GlobReading :=
  match r.tokens with
  | .directoriesFirst :: _ => r
  | .directoriesLast :: _ => r
  | _ :: tokens => { r with tokens := t :: tokens }
  | [] => r.push t

/-- Reads two stars between the character before them and the one after them; tells also
whether a separator after them belongs to them. -/
def doubleStar (r : GlobReading) (before after : Option Char) : GlobReading × Bool :=
  if r.tokens.isEmpty then
    if after = none ∨ after = some '/' then (r.push .directoriesFirst, true)
    else (r.twoStars, false)
  else if before ≠ some '/'
      ∧ (r.choices.isEmpty ∨ (before ≠ some ',' ∧ before ≠ some '\x7b')) then
    (r.twoStars, false)
  else if after = none ∨ (!r.choices.isEmpty ∧ (after = some ',' ∨ after = some '\x7d')) then
    (r.directories .directoriesLast, false)
  else if after = some '/' then (r.directories .directoriesBetween, true)
  else (r.twoStars, false)

mutual

def readParts (r : GlobReading) (before : Option Char) :
    List Char → Except GlobFault GlobReading
  | [] => .ok r
  | '*' :: '*' :: rest =>
    match r.doubleStar before rest.head? with
    | (r, eaten) =>
      match rest with
      | '/' :: rest =>
        if eaten then readParts r (some '/') rest
        else readParts (r.push (.literal '/')) (some '/') rest
      | rest => readParts r (some '*') rest
  | '*' :: rest => readParts (r.push .star) (some '*') rest
  | '?' :: rest => readParts (r.push .any) (some '?') rest
  | '[' :: '!' :: rest => readClass r ⟨true, [], false⟩ rest
  | '[' :: '^' :: rest => readClass r ⟨true, [], false⟩ rest
  | '[' :: rest => readClass r ⟨false, [], false⟩ rest
  | '\x7b' :: rest => readParts r.openChoice (some '\x7b') rest
  | '\x7d' :: rest => do readParts (← r.closeChoice) (some '\x7d') rest
  | ',' :: rest => readParts r.comma (some ',') rest
  | ['\\'] => .error .danglingEscape
  | '\\' :: c :: rest => readParts (r.push (.literal c)) (some c) rest
  | c :: rest => readParts (r.push (.literal c)) (some c) rest

/-- Reads the rest of a class and of the glob. A bracket that would close an empty class stands
for itself. -/
def readClass (r : GlobReading) (k : OpenClass) : List Char → Except GlobFault GlobReading
  | [] => .error .unclosedClass
  | c :: rest =>
    if c = ']' ∧ k.ranges ≠ [] then readParts (r.push k.toToken) (some ']') rest
    else do readClass r (← k.push c) rest

end

def ofText (pattern : String) : Except GlobFault (List GlobToken) := do
  let r ← readParts ⟨[], []⟩ none pattern.toList
  if r.choices.isEmpty then return r.tokens.reverse else throw .unclosedChoice

end GlobReading

structure GlobOptions where
  ignoreCase : Bool
  withinComponents : Bool

namespace GlobToken

def bytesOf (c : Char) : List Nat := (String.utf8EncodeChar c).map (·.toNat)

def byte (o : GlobOptions) (b : Nat) : Regular :=
  .symbol (if o.ignoreCase then .asciiFolded (.only b) else .only b)

def wildcard (o : GlobOptions) : Regular :=
  .symbol (if o.withinComponents then .compl (.only 0x2F) else .all)

/-- The bytes of a class with an interval. The bytes before the last one of its start, and those
after the first one of its end, are members by themselves. -/
def rangeSpans (first last : Char) : List (Nat × Nat) :=
  if first = last then (bytesOf first).map fun b => (b, b)
  else
    match (bytesOf first).getLast?, bytesOf last with
    | some lo, hi :: after =>
      (bytesOf first).dropLast.map (fun b => (b, b)) ++ [(lo, hi)] ++ after.map fun b => (b, b)
    | _, _ => []

def classSet (o : GlobOptions) (negated : Bool) (ranges : List (Char × Char)) : CharSet :=
  let set := CharSet.spans (ranges.flatMap fun (a, b) => rangeSpans a b)
  let set := if o.ignoreCase then .asciiFolded set else set
  if negated then .compl set else set

def separator : Regular := .symbol (.only 0x2F)

def anything : Regular := .many (.symbol .all)

/-- What a part matches; nothing if it is a choice without branches that match something. -/
def regular? (o : GlobOptions) : GlobToken → Option Regular
  | literal c => some (.seqAll ((bytesOf c).map (byte o)))
  | any => some (wildcard o)
  | star => some (.many (wildcard o))
  | directoriesFirst => some (.alt (.times separator 0 (some 1)) (.seq anything separator))
  | directoriesLast => some (.seq separator anything)
  | directoriesBetween =>
    some (.alt separator (.seq separator (.seq anything separator)))
  | oneOf negated ranges => some (.symbol (classSet o negated ranges))
  | choice branches =>
    match branchRegulars branches with
    | [] => none
    | rs => some (.altAll rs)
where
  /-- What the branches of a choice match, without those that are empty. -/
  branchRegulars : List (List GlobToken) → List Regular
  | [] => []
  | ts :: rest =>
    match tokenRegulars ts with
    | [] => branchRegulars rest
    | rs => .seqAll rs :: branchRegulars rest
  tokenRegulars : List GlobToken → List Regular
  | [] => []
  | t :: ts =>
    match t.regular? o with
    | some r => r :: tokenRegulars ts
    | none => tokenRegulars ts

end GlobToken

/-- A glob that can be matched. -/
structure Glob where
  pattern : String
  regular : Regular
deriving Inhabited

namespace Glob

/-- What all parts of a glob match together. Two stars alone match anything. -/
def regularOf (o : GlobOptions) : List GlobToken → Regular
  | [.directoriesFirst] => GlobToken.anything
  | ts => .seqAll (GlobToken.regular?.tokenRegulars o ts)

def parse (o : GlobOptions) (pattern : String) : Except GlobError Glob :=
  match GlobReading.ofText pattern with
  | .ok ts => .ok ⟨pattern, regularOf o ts⟩
  | .error fault => .error ⟨pattern, fault⟩

def bytesOfText (text : String) : List Nat := text.toList.flatMap GlobToken.bytesOf

def isMatch (g : Glob) (text : String) : Bool := g.regular.isMatch (bytesOfText text)

def parseAll (o : GlobOptions) (patterns : List String) : Except GlobError (List Glob) :=
  patterns.mapM (parse o)

def anyMatch (globs : List Glob) (text : String) : Bool := globs.any (·.isMatch text)

end Glob

end TreeWatch.Pattern
