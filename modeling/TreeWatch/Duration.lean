import TreeWatch.Text.Blank
import TreeWatch.Text.Lowercase

/-!
# Lengths of time

Poll intervals: how they are written in a configuration (`250ms`, `3s`, `2m`, `1h`), which
texts are refused, and how they are shown.
-/

namespace TreeWatch

structure Duration where
  nanoseconds : Nat
deriving DecidableEq, Repr, Inhabited

/-- Why a text is no length of time. -/
inductive DurationError where
  | empty
  | noUnit
  /-- The text would be cut inside a character, so many bytes after its start. -/
  | cutInside (offset : Nat)
  | noNumber
  | numberTooLarge (digits : String)
  | unknownUnit (unit : String)
deriving DecidableEq, Repr

namespace DurationError

def message : DurationError → String
  | empty => "empty duration string"
  | noUnit => "duration missing unit suffix"
  | cutInside offset => "byte index " ++ toString offset ++ " is not a char boundary"
  | noNumber => "invalid duration number '': cannot parse integer from empty string"
  | numberTooLarge digits =>
    "invalid duration number '" ++ digits ++ "': number too large to fit in target type"
  | unknownUnit unit =>
    "unsupported duration unit '" ++ unit ++ "'; expected ms, s, m, or h"

end DurationError

namespace Duration

def ofMillis (n : Nat) : Duration := ⟨n * 1000000⟩

def ofSeconds (n : Nat) : Duration := ⟨n * 1000000000⟩

def seconds (d : Duration) : Nat := d.nanoseconds / 1000000000

def subsecond (d : Duration) : Nat := d.nanoseconds % 1000000000

def millis (d : Duration) : Nat := d.nanoseconds / 1000000

def isZero (d : Duration) : Bool := d.nanoseconds == 0

/-- The largest count that the number of a text may have. -/
def countLimit : Nat := UInt64.size - 1

/-- A count of seconds, which stays at the largest count beyond it. -/
def cappedSeconds (n : Nat) : Duration := ofSeconds (min n countLimit)

def digitsValue (ds : List Char) : Nat :=
  ds.foldl (fun n c => n * 10 + (c.toNat - '0'.toNat)) 0

def ofUnit? (n : Nat) (unit : String) : Option Duration :=
  if unit = "ms" then some (ofMillis n)
  else if unit = "s" then some (ofSeconds n)
  else if unit = "m" then some (cappedSeconds (n * 60))
  else if unit = "h" then some (cappedSeconds (n * 3600))
  else none

/-- The characters before an offset in bytes, and those from it on; `none` if the offset falls inside
a character or lies beyond the end. -/
def cutAt? : Nat → List Char → Option (List Char × List Char)
  | 0, cs => some ([], cs)
  | _ + 1, [] => none
  | offset + 1, c :: cs =>
    if c.utf8Size ≤ offset + 1 then
      match cutAt? (offset + 1 - c.utf8Size) cs with
      | some (before, rest) => some (c :: before, rest)
      | none => none
    else none

def parseParts (digits rest : List Char) : Except DurationError Duration :=
  if digits = [] then .error .noNumber
  else
    let n := digitsValue digits
    let unit := String.ofList (Text.lowerChars (Text.trimChars rest))
    if countLimit < n then .error (.numberTooLarge (String.ofList digits))
    else
      match ofUnit? n unit with
      | some d => .ok d
      | none => .error (.unknownUnit unit)

/-- Reads digits and a unit from a text without blanks at its ends. The characters before the unit are
counted, and the text is cut after that many bytes. -/
def parseTrimmed (cs : List Char) : Except DurationError Duration :=
  if cs = [] then .error .empty
  else
    match cs.findIdx? fun c => !c.isDigit with
    | none => .error .noUnit
    | some index =>
      match cutAt? index cs with
      | none => .error (.cutInside index)
      | some (digits, rest) => parseParts digits rest

/-- Reads a length of time: digits, then a unit in any case, with blanks around either. -/
def parse (s : String) : Except DurationError Duration := parseTrimmed (Text.trimChars s.toList)

/-- The digits of a fraction, filled with zeros to a width and without those at its end. -/
def fractionText (width fraction : Nat) : String :=
  let digits := (toString fraction).toList
  let padded := List.replicate (width - digits.length) '0' ++ digits
  String.ofList (padded.reverse.dropWhile (· = '0')).reverse

def decimalText (whole width fraction : Nat) (unit : String) : String :=
  let digits := fractionText width fraction
  toString whole ++ (if digits.isEmpty then "" else "." ++ digits) ++ unit

/-- A length of time in the largest unit of which it holds at least one. -/
def text (d : Duration) : String :=
  let n := d.nanoseconds
  if 1000000000 ≤ n then decimalText (n / 1000000000) 9 (n % 1000000000) "s"
  else if 1000000 ≤ n then decimalText (n / 1000000) 6 (n % 1000000) "ms"
  else if 1000 ≤ n then decimalText (n / 1000) 3 (n % 1000) "µs"
  else decimalText n 0 0 "ns"

end Duration

end TreeWatch
