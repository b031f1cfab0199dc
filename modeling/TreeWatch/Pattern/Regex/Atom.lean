import TreeWatch.Pattern.Regex.Flags

/-!
# The smallest parts of search patterns

Escapes, properties in braces and sets in brackets. Each reader gives what it has read and the
characters after it, or `none` if the pattern is not well formed.
-/

namespace TreeWatch.Pattern.Regex

/-- The smallest part of a pattern. -/
inductive Atom where
  /-- A character; the flag tells one that was written as two hexadecimal digits. -/
  | literal (c : Char) (asByte : Bool)
  | set (s : CharSet)
  | look (l : Look)

abbrev Reader (α : Type) := List Char → Option (α × List Char)

def metaChars : List Char :=
  ['\\', '.', '+', '*', '?', '(', ')', '|', '[', ']', '\x7b', '\x7d', '^', '$', '#', '&', '-', '~']

def canBeEscaped (c : Char) : Bool :=
  metaChars.contains c || (c.toNat < 0x80 && !c.isAlphanum && c ≠ '<' && c ≠ '>')

def charOfCode? (n : Nat) : Option Char := if n.isValidChar then some (Char.ofNat n) else none

def hexValue? (ds : List Char) : Option Nat :=
  ds.foldlM (fun n c => (Text.CodeSpan.hexDigit? c).map (n * 16 + ·)) 0

def takeChars (f : Flags) : Nat → Reader (List Char)
  | 0, cs => some ([], cs)
  | n + 1, cs =>
    match f.skip cs with
    | [] => none
    | c :: rest => (takeChars f n rest).map fun (ds, rest) => (c :: ds, rest)

def takeBraced (f : Flags) (fuel : Nat) (cs : List Char) : Option (List Char × List Char) :=
  match fuel, f.skip cs with
  | 0, _ => none
  | _, [] => none
  | fuel + 1, c :: rest =>
    if c = '\x7d' then some ([], rest)
    else (takeBraced f fuel rest).map fun (ds, rest) => (c :: ds, rest)

/-- Reads a character by its number: so many hexadecimal digits, or any number of them in
braces. -/
def readHex (f : Flags) (digits : Nat) : Reader Atom := fun cs =>
  match f.skip cs with
  | '\x7b' :: rest => do
    let (ds, rest) ← takeBraced f rest.length.succ rest
    if ds.isEmpty then none
    else return (.literal (← charOfCode? (← hexValue? ds)) false, rest)
  | cs => do
    let (ds, rest) ← takeChars f digits cs
    return (.literal (← charOfCode? (← hexValue? ds)) (digits == 2), rest)

def splitAt? (sep : List Char) : List Char → Option (List Char × List Char)
  | [] => none
  | c :: cs =>
    if sep.isPrefixOf (c :: cs) then some ([], (c :: cs).drop sep.length)
    else (splitAt? sep cs).map fun (a, b) => (c :: a, b)

/-- The set of all code points with one of several properties, if there are any. -/
def withProperties : Option (List Text.Property) → Option CharSet := Option.map .properties

/-- The set of a category by its loose name. Three names stand for code points at large. -/
def categorySet? (name : String) : Option CharSet :=
  if name = "any" then some .all
  else if name = "ascii" then some (.span 0 0x7F)
  else if name = "assigned" then (withProperties (Text.Property.categories? "cn")).map .compl
  else withProperties (Text.Property.categories? name)

/-- The set of a loose name given alone: of a yes-or-no property, a category or a script. Three
names that are short for other properties as well stand for the category. -/
def namedSet? (name : String) : Option CharSet :=
  let broad := (categorySet? name).orElse fun _ => withProperties (Text.Property.script? name)
  if name = "cf" ∨ name = "sc" ∨ name = "lc" then broad
  else (withProperties (Text.Property.binary? name)).orElse fun _ => broad

def valueSet? (property value : String) : Option CharSet :=
  if property = "gc" ∨ property = "generalcategory" then categorySet? value
  else if property = "sc" ∨ property = "script" then
    withProperties (Text.Property.script? value)
  else none

def looseNameOf (cs : List Char) : String := Text.Property.looseName (String.ofList cs)

/-- The set that a name, or a name and a value, stand for, and whether it is to be lacked. -/
def querySet? (query : List Char) : Option (CharSet × Bool) :=
  let value (p : List Char × List Char) := valueSet? (looseNameOf p.1) (looseNameOf p.2)
  match splitAt? ['!', '='] query, splitAt? [':'] query, splitAt? ['='] query with
  | some p, _, _ => (value p).map (·, true)
  | none, some p, _ => (value p).map (·, false)
  | none, none, some p => (value p).map (·, false)
  | none, none, none => (namedSet? (looseNameOf query)).map (·, false)

def propertySet? (f : Flags) (negated : Bool) (query : List Char) : Option CharSet :=
  if !f.unicode then none
  else do
    let (s, lacked) ← querySet? query
    f.finish? (negated != lacked) s

/-- Reads a property after its letter: one character, or words in braces. -/
def readProperty (f : Flags) (negated : Bool) : Reader Atom := fun cs =>
  match f.skip cs with
  | '\x7b' :: rest => do
    let (query, rest) ← takeBraced f rest.length.succ rest
    return (.set (← propertySet? f negated query), rest)
  | c :: rest =>
    if c = '\\' then none else do return (.set (← propertySet? f negated [c]), rest)
  | [] => none

def isBoundaryNameChar (c : Char) : Bool := c.isAlpha || c = '-'

def boundary? (k : WordKind) : String → Option Look
  | "start" => some (.wordStart k)
  | "end" => some (.wordEnd k)
  | "start-half" => some (.noWordBefore k)
  | "end-half" => some (.noWordAfter k)
  | _ => none

/-- Reads what follows the letter of a word boundary: a name in braces, unless the braces hold a
count. -/
def readBoundary (f : Flags) : Reader Atom := fun cs =>
  match cs with
  | '\x7b' :: rest =>
    match f.skip rest with
    | [] => none
    | c :: _ =>
      if isBoundaryNameChar c then do
        let (name, rest) ← takeBraced f rest.length.succ rest
        if name.all isBoundaryNameChar then
          return (.look (← boundary? f.wordKind (String.ofList name)), rest)
        else none
      else some (.look (.wordBoundary f.wordKind), cs)
  | cs => some (.look (.wordBoundary f.wordKind), cs)

def controlChar? : Char → Option Char
  | 'a' => some '\x07'
  | 'f' => some '\x0c'
  | 't' => some '\t'
  | 'n' => some '\n'
  | 'r' => some '\r'
  | 'v' => some '\x0b'
  | _ => none

def readEscape (f : Flags) : Reader Atom
  | [] => none
  | 'x' :: rest => readHex f 2 rest
  | 'u' :: rest => readHex f 4 rest
  | 'U' :: rest => readHex f 8 rest
  | 'p' :: rest => readProperty f false rest
  | 'P' :: rest => readProperty f true rest
  | 'd' :: rest => some (.set (f.shorthand 'd'), rest)
  | 's' :: rest => some (.set (f.shorthand 's'), rest)
  | 'w' :: rest => some (.set (f.shorthand 'w'), rest)
  | 'D' :: rest => (f.negate? (f.shorthand 'd')).map fun s => (.set s, rest)
  | 'S' :: rest => (f.negate? (f.shorthand 's')).map fun s => (.set s, rest)
  | 'W' :: rest => (f.negate? (f.shorthand 'w')).map fun s => (.set s, rest)
  | 'A' :: rest => some (.look .textStart, rest)
  | 'z' :: rest => some (.look .textEnd, rest)
  | 'b' :: rest => readBoundary f rest
  | 'B' :: rest => some (.look (.noWordBoundary f.wordKind), rest)
  | '<' :: rest => some (.look (.wordStart f.wordKind), rest)
  | '>' :: rest => some (.look (.wordEnd f.wordKind), rest)
  | c :: rest =>
    if canBeEscaped c then some (.literal c false, rest)
    else (controlChar? c).map fun c => (.literal c false, rest)

/-- How two sets are put together in brackets. -/
inductive SetOperation where
  | intersection
  | difference
  | symmetricDifference

/-- What has been read of a set in brackets: its members since the last operation, and the
operation with the set on its left. -/
structure SetReading where
  negated : Bool
  items : List CharSet
  pending : Option (SetOperation × CharSet)

namespace SetReading

def value (f : Flags) (r : SetReading) : CharSet :=
  let right := CharSet.unionAll r.items.reverse
  match r.pending with
  | none => right
  | some (.intersection, left) => .inter (f.fold left) (f.fold right)
  | some (.difference, left) => .diff (f.fold left) (f.fold right)
  | some (.symmetricDifference, left) => .symmDiff (f.fold left) (f.fold right)

def push (r : SetReading) (s : CharSet) : SetReading := { r with items := s :: r.items }

def operate (f : Flags) (r : SetReading) (op : SetOperation) : SetReading :=
  { r with items := [], pending := some (op, r.value f) }

end SetReading

def readDashes (f : Flags) (r : SetReading) (fuel : Nat) (cs : List Char) :
    SetReading × List Char :=
  match fuel, f.skip cs with
  | fuel + 1, '-' :: rest => readDashes f (r.push (.only 0x2D)) fuel rest
  | _, cs => (r, cs)

/-- Reads the start of a set after its bracket. A closing bracket here stands for itself. -/
def openSet (f : Flags) : Reader SetReading := fun cs =>
  let (negated, cs) :=
    match f.skip cs with
    | '^' :: rest => (true, rest)
    | cs => (false, cs)
  match readDashes f ⟨negated, [], none⟩ cs.length cs with
  | (_, []) => none
  | (r, ']' :: rest) => if r.items.isEmpty then some (r.push (.only 0x5D), rest) else some (r, ']' :: rest)
  | (r, rest) => some (r, rest)

def readItem (f : Flags) : Reader Atom
  | [] => none
  | '\\' :: rest => readEscape f rest
  | c :: rest => some (.literal c false, rest)

/-- The character of an item that can bound an interval. Without Unicode it has to be ASCII. -/
def boundOf? (f : Flags) : Atom → Option Nat
  | .literal c _ => if f.unicode || c.toNat < 0x80 then some c.toNat else none
  | _ => none

def membersOf? (f : Flags) : Atom → Option CharSet
  | .set s => some s
  | a => (boundOf? f a).map .only

def readRange (f : Flags) : Reader CharSet := fun cs => do
  let (a, rest) ← readItem f cs
  match f.skip rest with
  | [] => none
  | '-' :: after =>
    match f.skip after with
    | [] => none
    | ']' :: _ => return (← membersOf? f a, '-' :: after)
    | '-' :: _ => return (← membersOf? f a, '-' :: after)
    | after => do
      let (b, rest) ← readItem f after
      let first ← boundOf? f a
      let last ← boundOf? f b
      if first ≤ last then return (.span first last, rest) else none
  | rest => return (← membersOf? f a, rest)

def readNamedSet? (f : Flags) (cs : List Char) : Option (Option CharSet × List Char) := do
  let (negated, cs) :=
    match cs with
    | '^' :: rest => (true, rest)
    | cs => (false, cs)
  let (name, rest) ← splitAt? [':'] cs
  match rest with
  | ']' :: rest =>
    let spans ← asciiClass? (String.ofList name)
    return (f.finish? negated (.spans spans), rest)
  | _ => none

def readSetParts (f : Flags) (fuel : Nat) (r : SetReading) (outer : List SetReading)
    (cs : List Char) : Option (CharSet × List Char) :=
  match fuel, f.skip cs with
  | 0, _ => none
  | _, [] => none
  | fuel + 1, ']' :: rest => do
    let s ← f.finish? r.negated (r.value f)
    match outer with
    | [] => return (s, rest)
    | o :: outer => readSetParts f fuel (o.push s) outer rest
  | fuel + 1, '&' :: '&' :: rest => readSetParts f fuel (r.operate f .intersection) outer rest
  | fuel + 1, '-' :: '-' :: rest => readSetParts f fuel (r.operate f .difference) outer rest
  | fuel + 1, '~' :: '~' :: rest =>
    readSetParts f fuel (r.operate f .symmetricDifference) outer rest
  | fuel + 1, '[' :: rest =>
    let nested := do
      let (n, rest) ← openSet f rest
      readSetParts f fuel n (r :: outer) rest
    match rest with
    | ':' :: named =>
      match readNamedSet? f named with
      | some (some s, rest) => readSetParts f fuel (r.push s) outer rest
      | some (none, _) => none
      | none => nested
    | _ => nested
  | fuel + 1, cs => do
    let (s, rest) ← readRange f cs
    readSetParts f fuel (r.push s) outer rest

def readSet (f : Flags) : Reader CharSet := fun cs => do
  let (r, rest) ← openSet f cs
  readSetParts f (rest.length + 1) r [] rest

end TreeWatch.Pattern.Regex
