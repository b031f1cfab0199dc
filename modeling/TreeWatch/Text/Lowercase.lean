import TreeWatch.Text.CaseTable

/-!
# Lower case

The lower-case form of a text. Every letter is replaced by its lower-case form; a capital
sigma becomes the final form of the letter at the end of a word, and a capital I with a dot
keeps the dot as a character of its own.
-/

namespace TreeWatch.Text

def isCased (c : Char) : Bool := CodeSpan.anyContains casedSpans c.toNat

/-- Whether a character is skipped when the neighbours of a letter are looked at. -/
def isCaseIgnorable (c : Char) : Bool := CodeSpan.anyContains caseIgnorableSpans c.toNat

/-- Whether the first character that is not skipped has a case. -/
def meetsCased : List Char → Bool
  | [] => false
  | c :: rest => if isCaseIgnorable c then meetsCased rest else isCased c

/-- The partner of a code point in the first run that holds it, or the code point itself. -/
def partnerIn (runs : List CaseRun) (c : Nat) : Nat :=
  match runs.find? (·.contains c) with
  | some r => r.partner c
  | none => c

def lowerChar (c : Char) : List Char :=
  if c.toNat < 0x41 then [c]
  else if c = 'İ' then ['i', '\u0307']
  else [Char.ofNat (partnerIn lowerRuns c.toNat)]

/-- The lower-case form of a character between the characters before it (nearest first) and
those after it. A sigma ends a word if a letter comes before it and none after it. -/
def lowerAt (before : List Char) (c : Char) (after : List Char) : List Char :=
  if c = 'Σ' then
    if meetsCased before && !meetsCased after then ['ς'] else ['σ']
  else lowerChar c

/-- The lower-case form of characters, given those before them (nearest first). -/
def lowerFrom (before : List Char) : List Char → List Char
  | [] => []
  | c :: rest => lowerAt before c rest ++ lowerFrom (c :: before) rest

def lowerChars (cs : List Char) : List Char := lowerFrom [] cs

def lower (s : String) : String := String.ofList (lowerChars s.toList)

end TreeWatch.Text
