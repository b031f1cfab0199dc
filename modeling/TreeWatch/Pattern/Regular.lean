import TreeWatch.Pattern.CharSet

/-!
# Regular expressions

Regular expressions over symbols, with conditions on the symbols around a position. A text is
matched by carrying along the expressions that the rest of it may still match: one symbol
takes each of them to its partial derivatives.
-/

namespace TreeWatch.Pattern

/-- The symbols next to a position, where there are any. -/
structure Surroundings where
  before : Option Nat
  after : Option Nat

/-- What counts as part of a word. -/
inductive WordKind where
  | unicode
  | ascii
deriving DecidableEq, Repr

namespace WordKind

def set : WordKind → CharSet
  | unicode => .properties Text.Property.wordParts
  | ascii => .spans [(0x30, 0x39), (0x41, 0x5A), (0x5F, 0x5F), (0x61, 0x7A)]

def holds (k : WordKind) : Option Nat → Bool
  | some c => k.set.contains c
  | none => false

end WordKind

/-- A condition on the symbols around a position. -/
inductive Look where
  | textStart
  | textEnd
  | lineStart
  | lineEnd
  /-- After a line end, where carriage return and line feed together are one. -/
  | lineStartCRLF
  /-- Before a line end, where carriage return and line feed together are one. -/
  | lineEndCRLF
  | wordBoundary (k : WordKind)
  | noWordBoundary (k : WordKind)
  | wordStart (k : WordKind)
  | wordEnd (k : WordKind)
  | noWordBefore (k : WordKind)
  | noWordAfter (k : WordKind)
deriving DecidableEq, Repr

namespace Look

def holds (l : Look) (s : Surroundings) : Bool :=
  match l with
  | textStart => s.before.isNone
  | textEnd => s.after.isNone
  | lineStart => s.before.isNone || s.before == some 0xA
  | lineEnd => s.after.isNone || s.after == some 0xA
  | lineStartCRLF =>
    s.before.isNone || s.before == some 0xA || (s.before == some 0xD && s.after != some 0xA)
  | lineEndCRLF =>
    s.after.isNone || s.after == some 0xD || (s.after == some 0xA && s.before != some 0xD)
  | wordBoundary k => k.holds s.before != k.holds s.after
  | noWordBoundary k => k.holds s.before == k.holds s.after
  | wordStart k => !k.holds s.before && k.holds s.after
  | wordEnd k => k.holds s.before && !k.holds s.after
  | noWordBefore k => !k.holds s.before
  | noWordAfter k => !k.holds s.after

end Look

inductive Regular where
  | never
  | empty
  | look (l : Look)
  | symbol (s : CharSet)
  | seq (a b : Regular)
  | alt (a b : Regular)
  /-- So many times at least, and so many at most if there is a bound. -/
  | times (a : Regular) (least : Nat) (most : Option Nat)
deriving DecidableEq, Repr, Inhabited

namespace Regular

def seqAll (rs : List Regular) : Regular := rs.foldr seq empty

def altAll : List Regular → Regular
  | [] => never
  | [r] => r
  | r :: rs => alt r (altAll rs)

def many (r : Regular) : Regular := times r 0 none

/-- About how many bytes the states of an expression take, where each symbol is a state of its
own and a repetition is spelled out as often as its bounds say. -/
def footprint : Regular → Nat
  | never => 0
  | empty => 0
  | look _ => 0
  | symbol s => max 32 (40 * s.pieces)
  | seq a b => a.footprint + b.footprint
  | alt a b => a.footprint + b.footprint
  | times a least most => a.footprint * most.getD (max 1 least)

def nullable (s : Surroundings) : Regular → Bool
  | never => false
  | empty => true
  | look l => l.holds s
  | symbol _ => false
  | seq a b => a.nullable s && b.nullable s
  | alt a b => a.nullable s || b.nullable s
  | times a least _ => least == 0 || a.nullable s

def followedBy : Regular → Regular → Regular
  | empty, b => b
  | a, b => seq a b

/-- What may follow the first symbol `c` of a text that an expression matches from a
position. -/
def derivatives (s : Surroundings) (c : Nat) : Regular → List Regular
  | never => []
  | empty => []
  | look _ => []
  | symbol set => if set.contains c then [empty] else []
  | seq a b =>
    let first := (a.derivatives s c).map (followedBy · b)
    if a.nullable s then first ++ b.derivatives s c else first
  | alt a b => a.derivatives s c ++ b.derivatives s c
  | times a least most =>
    if most == some 0 then []
    else
      let rest := times a (if a.nullable s then 0 else least - 1) (most.map (· - 1))
      (a.derivatives s c).map (followedBy · rest)

/-- Whether one of several expressions matches the whole of a text, given the symbol before
it. -/
def matchesAll (states : List Regular) (before : Option Nat) : List Nat → Bool
  | [] => states.any (·.nullable ⟨before, none⟩)
  | c :: rest =>
    let next := states.flatMap (·.derivatives ⟨before, some c⟩ c)
    matchesAll next.eraseDups (some c) rest

def isMatch (r : Regular) (text : List Nat) : Bool := matchesAll [r] none text

/-- Whether an expression matches some part of a text, of which the symbol before it and the
expressions that earlier parts may still match are given. -/
def foundFrom (r : Regular) (states : List Regular) (before : Option Nat) : List Nat → Bool
  | [] => (r :: states).any (·.nullable ⟨before, none⟩)
  | c :: rest =>
    let here : Surroundings := ⟨before, some c⟩
    let states := r :: states
    if states.any (·.nullable here) then true
    else foundFrom r (states.flatMap (·.derivatives here c)).eraseDups (some c) rest

def isFound (r : Regular) (text : List Nat) : Bool := foundFrom r [] none text

end Regular

end TreeWatch.Pattern
