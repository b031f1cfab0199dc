/-!
# Intervals of code points

A set of characters is written as a list of closed intervals. Long lists are kept as text in
hexadecimal, such as `0041-005A 00B5`, and read by `CodeSpan.listOfText`.
-/

namespace TreeWatch.Text

/-- A closed interval of code points. -/
structure CodeSpan where
  first : Nat
  last : Nat
deriving DecidableEq, Repr

namespace CodeSpan

def contains (s : CodeSpan) (c : Nat) : Bool := s.first ≤ c && c ≤ s.last

def anyContains (spans : List CodeSpan) (c : Nat) : Bool := spans.any (·.contains c)

theorem anyContains_iff {spans : List CodeSpan} {c : Nat} :
    anyContains spans c = true ↔ ∃ s ∈ spans, s.first ≤ c ∧ c ≤ s.last := by
  simp [anyContains, contains]

def hexDigit? (c : Char) : Option Nat :=
  if '0' ≤ c && c ≤ '9' then some (c.toNat - '0'.toNat)
  else if 'a' ≤ c && c ≤ 'f' then some (c.toNat - 'a'.toNat + 10)
  else if 'A' ≤ c && c ≤ 'F' then some (c.toNat - 'A'.toNat + 10)
  else none

/-- What has been read of a list of intervals: the finished ones (latest first), the lower end
if a dash has been met, and the digits of the number that is being read. -/
structure Reading where
  spans : List CodeSpan := []
  lower : Option Nat := none
  number : Option Nat := none

def Reading.finish (r : Reading) : Reading :=
  match r.lower, r.number with
  | some lower, some n => ⟨⟨lower, n⟩ :: r.spans, none, none⟩
  | none, some n => ⟨⟨n, n⟩ :: r.spans, none, none⟩
  | _, none => ⟨r.spans, none, none⟩

/-- Reads one more character: a digit extends the number, a dash makes it a lower end, and
anything else ends the interval. -/
def Reading.push (r : Reading) (c : Char) : Reading :=
  match hexDigit? c with
  | some d => ⟨r.spans, r.lower, some (r.number.getD 0 * 16 + d)⟩
  | none => if c = '-' then ⟨r.spans, r.number, none⟩ else r.finish

def listOfText (text : String) : List CodeSpan :=
  (text.toList.foldl Reading.push {}).finish.spans.reverse

end CodeSpan

end TreeWatch.Text
