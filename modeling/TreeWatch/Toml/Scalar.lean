import TreeWatch.Text.CodeSpan
import TreeWatch.Toml.Value

/-!
# Numbers, dates and words

Values that are written without quotes or brackets: truth values, whole and fractional
numbers, dates and times.
-/

namespace TreeWatch.Toml

def digitOf? (base : Nat) (c : Char) : Option Nat :=
  (Text.CodeSpan.hexDigit? c).filter (· < base)

/-- Digits of a base, which single underscores may stand between; the count of digits and
their value. -/
def digitsOf? (base : Nat) : Bool → Nat × Nat → List Char → Option (Nat × Nat)
  | afterDigit, acc, [] => if afterDigit then some acc else none
  | afterDigit, (count, n), c :: cs =>
    if c = '_' then (if afterDigit then digitsOf? base false (count, n) cs else none)
    else
      match digitOf? base c with
      | some d => digitsOf? base true (count + 1, n * base + d) cs
      | none => none

def splitSign : List Char → Bool × List Char
  | '-' :: cs => (true, cs)
  | '+' :: cs => (false, cs)
  | cs => (false, cs)

def decimal? (cs : List Char) : Option Nat :=
  match cs with
  | ['0'] => some 0
  | '0' :: _ => none
  | cs => (digitsOf? 10 false (0, 0) cs).map (·.2)

def integer? : List Char → Option Value
  | '0' :: 'x' :: cs => (digitsOf? 16 false (0, 0) cs).map fun r => .integer r.2
  | '0' :: 'o' :: cs => (digitsOf? 8 false (0, 0) cs).map fun r => .integer r.2
  | '0' :: 'b' :: cs => (digitsOf? 2 false (0, 0) cs).map fun r => .integer r.2
  | cs =>
    let (negative, cs) := splitSign cs
    (decimal? cs).map fun n => .integer (if negative then -n else n)

def exponent? (cs : List Char) : Option Int :=
  let (negative, cs) := splitSign cs
  (digitsOf? 10 false (0, 0) cs).map fun r => if negative then -(r.2 : Int) else r.2

def floatValue (negative : Bool) (digits : Nat) (power : Int) : Value :=
  match Binary64.ofDecimal? negative digits power with
  | some x => .float x
  | none => .hugeFloat

def float? (cs : List Char) : Option Value := do
  let (negative, cs) := splitSign cs
  if cs = "inf".toList then return .float (.infinite negative)
  if cs = "nan".toList then return .float .nan
  let isMark (c : Char) : Bool := c = 'e' || c = 'E'
  let body := cs.takeWhile (!isMark ·)
  let whole := body.takeWhile (· ≠ '.')
  let n ← decimal? whole
  let power ←
    match cs.dropWhile (!isMark ·) with
    | [] => some 0
    | _ :: rest => exponent? rest
  match body.dropWhile (· ≠ '.') with
  | [] => if body.length = cs.length then none else return floatValue negative n power
  | _ :: fraction =>
    let (count, f) ← digitsOf? 10 false (0, 0) fraction
    return floatValue negative (n * Nat.pow 10 count + f) (power - count)

/-- The number of so many decimal digits at the start of a text, and what follows them. -/
def fixedDigits? : Nat → Nat → List Char → Option (Nat × List Char)
  | 0, n, cs => some (n, cs)
  | k + 1, n, c :: cs =>
    match digitOf? 10 c with
    | some d => fixedDigits? k (n * 10 + d) cs
    | none => none
  | _ + 1, _, [] => none

def daysIn (year month : Nat) : Nat :=
  if month = 2 then
    if (year % 4 = 0 ∧ year % 100 ≠ 0) ∨ year % 400 = 0 then 29 else 28
  else if month = 4 ∨ month = 6 ∨ month = 9 ∨ month = 11 then 30
  else 31

def twoDigits (n : Nat) : String := if n < 10 then "0" ++ toString n else toString n

/-- Reads a date; gives its spelling and what follows. -/
def date? (cs : List Char) : Option (String × List Char) := do
  let (year, rest) ← fixedDigits? 4 0 cs
  match rest with
  | '-' :: rest =>
    let (month, rest) ← fixedDigits? 2 0 rest
    match rest with
    | '-' :: rest =>
      let (day, rest) ← fixedDigits? 2 0 rest
      if 1 ≤ month ∧ month ≤ 12 ∧ 1 ≤ day ∧ day ≤ daysIn year month then
        return (String.ofList (cs.take 10), rest)
      else none
    | _ => none
  | _ => none

/-- The spelling of a fraction of a second: nine places at most, without zeros at the end. -/
def secondsFraction (digits : List Char) : String :=
  let kept := ((digits.take 9).reverse.dropWhile (· = '0')).reverse
  if kept.isEmpty then "" else "." ++ String.ofList kept

/-- Reads a time of day; gives its spelling and what follows. -/
def time? (cs : List Char) : Option (String × List Char) := do
  let (hour, rest) ← fixedDigits? 2 0 cs
  match rest with
  | ':' :: rest =>
    let (minute, rest) ← fixedDigits? 2 0 rest
    match rest with
    | ':' :: rest =>
      let (second, rest) ← fixedDigits? 2 0 rest
      if hour ≤ 23 ∧ minute ≤ 59 ∧ second ≤ 60 then
        let text := String.ofList (cs.take 8)
        match rest with
        | '.' :: rest =>
          let digits := rest.takeWhile Char.isDigit
          if digits.isEmpty then none
          else return (text ++ secondsFraction digits, rest.dropWhile Char.isDigit)
        | rest => return (text, rest)
      else none
    | _ => none
  | _ => none

/-- The spelling of what follows a date and a time: nothing, or the distance from universal
time. -/
def offset? (cs : List Char) : Option String :=
  match cs with
  | [] => some ""
  | ['Z'] => some "Z"
  | ['z'] => some "Z"
  | sign :: rest =>
    if sign = '+' ∨ sign = '-' then do
      let (hour, rest) ← fixedDigits? 2 0 rest
      match rest with
      | ':' :: rest =>
        let (minute, rest) ← fixedDigits? 2 0 rest
        if hour ≤ 23 ∧ minute ≤ 59 ∧ rest = [] then
          return sign.toString ++ twoDigits hour ++ ":" ++ twoDigits minute
        else none
      | _ => none
    else none

def datetime? (cs : List Char) : Option Value :=
  match date? cs with
  | some (date, []) => some (.datetime date)
  | some (date, sep :: rest) => do
    if sep = 'T' ∨ sep = 't' ∨ sep = ' ' then
      let (time, rest) ← time? rest
      return .datetime (date ++ "T" ++ time ++ (← offset? rest))
    else none
  | none =>
    match time? cs with
    | some (time, []) => some (.datetime time)
    | _ => none

def scalar? (cs : List Char) : Option Value :=
  if cs = "true".toList then some (.boolean true)
  else if cs = "false".toList then some (.boolean false)
  else
    match integer? cs with
    | some v => some v
    | none =>
      match float? cs with
      | some v => some v
      | none => datetime? cs

end TreeWatch.Toml
