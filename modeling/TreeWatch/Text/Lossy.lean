/-!
# Names that are not texts

A file name is a row of bytes, and these need not be UTF-8. A path with such a name is spelled
with one character for each byte (`ofBytes`). Where a name is made a text, what is not UTF-8 in it
is lost (`Spelling.legible`): the replacement character stands for each start of a character that
breaks off, taken as long as it can be, and for each other byte. Names that differ can become the
same text.
-/

namespace TreeWatch

namespace Text

def ofBytes (bs : List UInt8) : String := String.ofList (bs.map Char.ofUInt8)

/-- The byte that a character spells. One that is no byte counts as one that is never UTF-8. -/
def byteOf (c : Char) : UInt8 := UInt8.ofNat (min c.toNat 0xFF)

def toBytes (s : String) : List UInt8 := s.toList.map byteOf

def replacement : List UInt8 := [0xEF, 0xBF, 0xBD]

def isTail (b : UInt8) : Bool := 0x80 ≤ b && b ≤ 0xBF

/-- Whether a character of three or four bytes can start with these two: surrogates, numbers that
are too large and those with a shorter form are left out. -/
def canStart (first second : UInt8) : Bool :=
  if first = 0xE0 then 0xA0 ≤ second && second ≤ 0xBF
  else if first = 0xED then 0x80 ≤ second && second ≤ 0x9F
  else if first = 0xF0 then 0x90 ≤ second && second ≤ 0xBF
  else if first = 0xF4 then 0x80 ≤ second && second ≤ 0x8F
  else 0xE1 ≤ first && first ≤ 0xF3 && isTail second

/-- How many bytes after a first one belong to the character that starts there and breaks off. -/
def brokenTail (first : UInt8) : List UInt8 → Nat
  | [] => 0
  | second :: rest =>
    if canStart first second then
      if 0xF0 ≤ first && rest.head?.any isTail then 2 else 1
    else 0

/-- Replaces what is not UTF-8, after so many bytes that are accounted for already. -/
def repairFrom : Nat → List UInt8 → List UInt8
  | _, [] => []
  | n + 1, _ :: bs => repairFrom n bs
  | 0, b :: bs =>
    match (b :: bs).toByteArray.utf8DecodeChar? 0 with
    | some c => String.utf8EncodeChar c ++ repairFrom (c.utf8Size - 1) bs
    | none => replacement ++ repairFrom (brokenTail b bs) bs

def repair (bs : List UInt8) : List UInt8 := repairFrom 0 bs

end Text

/-- What the characters of a path stand for: themselves, or one byte each. -/
inductive Spelling where
  | text
  | bytes
deriving DecidableEq, Repr

def Spelling.legible : Spelling → String → String
  | .text, name => name
  | .bytes, name => Text.ofBytes (Text.repair (Text.toBytes name))

end TreeWatch
