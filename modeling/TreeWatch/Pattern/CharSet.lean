import TreeWatch.Text.Folding
import TreeWatch.Text.Property

/-!
# Sets of symbols

The sets that patterns are made of. A symbol is a code point, or a byte where a pattern is
matched byte by byte.
-/

namespace TreeWatch.Pattern

inductive CharSet where
  | none
  | span (first last : Nat)
  | property (p : Text.Property)
  | union (a b : CharSet)
  | inter (a b : CharSet)
  | compl (a : CharSet)
  | folded (a : CharSet)
  /-- All that differ from a member in the case of an ASCII letter only. -/
  | asciiFolded (a : CharSet)
deriving DecidableEq, Repr, Inhabited

namespace CharSet

/-- The same ASCII letter in the other case; any other symbol stays. -/
def swapAsciiCase (c : Nat) : Nat :=
  if 0x41 ≤ c && c ≤ 0x5A then c + 0x20 else if 0x61 ≤ c && c ≤ 0x7A then c - 0x20 else c

def contains : CharSet → Nat → Bool
  | none, _ => false
  | span first last, c => first ≤ c && c ≤ last
  | property p, c => p.holds c
  | union a b, c => a.contains c || b.contains c
  | inter a b, c => a.contains c && b.contains c
  | compl a, c => !a.contains c
  | folded a, c => (Text.foldOrbit c).any a.contains
  | asciiFolded a, c => a.contains c || a.contains (swapAsciiCase c)

/-- About how many intervals a set is put together from. -/
def pieces : CharSet → Nat
  | none => 0
  | span _ _ => 1
  | property p => p.spans.length
  | union a b => a.pieces + b.pieces
  | inter a b => max a.pieces b.pieces
  | compl a => a.pieces + 1
  | folded a => 2 * a.pieces
  | asciiFolded a => 2 * a.pieces

def all : CharSet := compl none

def only (c : Nat) : CharSet := span c c

def unionAll (sets : List CharSet) : CharSet := sets.foldr union none

def diff (a b : CharSet) : CharSet := inter a (compl b)

def symmDiff (a b : CharSet) : CharSet := union (diff a b) (diff b a)

def properties (ps : List Text.Property) : CharSet := unionAll (ps.map property)

def spans (l : List (Nat × Nat)) : CharSet := unionAll (l.map fun (a, b) => span a b)

end CharSet

end TreeWatch.Pattern
