import TreeWatch.Pattern.Regular

/-!
# Flags of search patterns

The settings under which a part of a search pattern is read, and what single characters, sets
and conditions mean under them. Without Unicode, sets hold ASCII only, and a set that would
hold more is refused.
-/

namespace TreeWatch.Pattern.Regex

/-- The settings under which a part of a pattern is read. -/
structure Flags where
  ignoreCase : Bool
  multiLine : Bool
  dotAll : Bool
  unicode : Bool
  crlf : Bool
  /-- Whether blanks and comments between the parts do not count. -/
  spaced : Bool

namespace Flags

def initial (ignoreCase : Bool) : Flags := ⟨ignoreCase, false, false, true, false, false⟩

/-- Switches the flag of a letter; `none` if there is no such flag. -/
def set? (f : Flags) (on : Bool) : Char → Option Flags
  | 'i' => some { f with ignoreCase := on }
  | 'm' => some { f with multiLine := on }
  | 's' => some { f with dotAll := on }
  | 'u' => some { f with unicode := on }
  | 'R' => some { f with crlf := on }
  | 'x' => some { f with spaced := on }
  | 'U' => some f
  | _ => none

/-- A set together with what differs from its members in case, if case is ignored. -/
def fold (f : Flags) (s : CharSet) : CharSet :=
  if f.ignoreCase then (if f.unicode then .folded s else .asciiFolded s) else s

/-- What is not in a set. Only with Unicode can there be such a set. -/
def negate? (f : Flags) (s : CharSet) : Option CharSet := if f.unicode then some (.compl s) else none

def finish? (f : Flags) (negated : Bool) (s : CharSet) : Option CharSet :=
  if negated then f.negate? (f.fold s) else some (f.fold s)

def wordKind (f : Flags) : WordKind := if f.unicode then .unicode else .ascii

def dot? (f : Flags) : Option CharSet :=
  if !f.unicode then none
  else if f.dotAll then some .all
  else if f.crlf then some (.compl (.spans [(0xA, 0xA), (0xD, 0xD)]))
  else some (.compl (.only 0xA))

def caret (f : Flags) : Look :=
  if f.multiLine then (if f.crlf then .lineStartCRLF else .lineStart) else .textStart

def dollar (f : Flags) : Look :=
  if f.multiLine then (if f.crlf then .lineEndCRLF else .lineEnd) else .textEnd

/-- The set of a letter after a backslash: digits, blanks or parts of words. -/
def shorthand (f : Flags) : Char → CharSet
  | 'd' => if f.unicode then .properties Text.Property.digits else .span 0x30 0x39
  | 's' =>
    .spans (if f.unicode then Text.blankSpans.map fun s => (s.first, s.last)
      else [(0x9, 0xD), (0x20, 0x20)])
  | _ => f.wordKind.set

def dropSpace (inComment : Bool) : List Char → List Char
  | [] => []
  | c :: rest =>
    if inComment then dropSpace (c ≠ '\n') rest
    else if c = '#' then dropSpace true rest
    else if Text.isBlank c then dropSpace false rest
    else c :: rest

def skip (f : Flags) (cs : List Char) : List Char := if f.spaced then dropSpace false cs else cs

end Flags

def asciiClass? : String → Option (List (Nat × Nat))
  | "alnum" => some [(0x30, 0x39), (0x41, 0x5A), (0x61, 0x7A)]
  | "alpha" => some [(0x41, 0x5A), (0x61, 0x7A)]
  | "ascii" => some [(0x0, 0x7F)]
  | "blank" => some [(0x9, 0x9), (0x20, 0x20)]
  | "cntrl" => some [(0x0, 0x1F), (0x7F, 0x7F)]
  | "digit" => some [(0x30, 0x39)]
  | "graph" => some [(0x21, 0x7E)]
  | "lower" => some [(0x61, 0x7A)]
  | "print" => some [(0x20, 0x7E)]
  | "punct" => some [(0x21, 0x2F), (0x3A, 0x40), (0x5B, 0x60), (0x7B, 0x7E)]
  | "space" => some [(0x9, 0xD), (0x20, 0x20)]
  | "upper" => some [(0x41, 0x5A)]
  | "word" => some [(0x30, 0x39), (0x41, 0x5A), (0x5F, 0x5F), (0x61, 0x7A)]
  | "xdigit" => some [(0x30, 0x39), (0x41, 0x46), (0x61, 0x66)]
  | _ => none

end TreeWatch.Pattern.Regex
