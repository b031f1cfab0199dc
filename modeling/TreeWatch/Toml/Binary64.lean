/-!
# Floating-point numbers

Numbers with 53 binary digits. `ofDecimal` takes a decimal fraction to the nearest number, an
exact half going to the even neighbour; `text` writes the fewest decimal digits that read back
as the same number, always with a decimal point and never with an exponent.
-/

namespace TreeWatch.Toml

/-- A floating-point number. A finite one is `mantissa * 2 ^ exponent`. -/
inductive Binary64 where
  | nan
  | infinite (negative : Bool)
  | finite (negative : Bool) (mantissa : Nat) (exponent : Int)
deriving DecidableEq, Repr, Inhabited

namespace Binary64

/-- A quotient to the nearest whole number, a half to the even one. -/
def divNearest (n d : Nat) : Nat :=
  let q := n / d
  let r := n % d
  if 2 * r < d then q
  else if d < 2 * r then q + 1
  else if q % 2 = 0 then q else q + 1

def inUnits (n d : Nat) (exponent : Int) : Nat × Nat :=
  if exponent < 0 then (n * Nat.pow 2 exponent.natAbs, d)
  else (n, d * Nat.pow 2 exponent.natAbs)

def unitExponent (n d : Nat) : Int :=
  let guess : Int := (n.log2 : Int) - d.log2
  let (a, b) := inUnits n d guess
  let top := if a < b then guess - 1 else guess
  max (top - 52) (-1074)

/-- The number nearest to a quotient; `none` if it is too large. -/
def ofQuotient? (negative : Bool) (n d : Nat) : Option Binary64 :=
  if n = 0 then some (.finite negative 0 (-1074))
  else
    let e := unitExponent n d
    let (a, b) := inUnits n d e
    let m := divNearest a b
    let (m, e) := if m = Nat.pow 2 53 then (Nat.pow 2 52, e + 1) else (m, e)
    if 971 < e then none else some (.finite negative m e)

/-- The number nearest to a decimal fraction: digits times ten to a power. -/
def ofDecimal? (negative : Bool) (digits : Nat) (power : Int) : Option Binary64 :=
  let places : Int := power + (Nat.toDigits 10 digits).length
  if digits = 0 ∨ places < -400 then ofQuotient? negative 0 1
  else if 400 < places then none
  else if power < 0 then ofQuotient? negative digits (Nat.pow 10 power.natAbs)
  else ofQuotient? negative (digits * Nat.pow 10 power.natAbs) 1

/-- The ends of the interval of fractions that round to a number, in quarters of its unit, and
whether the ends belong to it. -/
def bounds (mantissa : Nat) (exponent : Int) : Nat × Nat × Bool :=
  let below := if mantissa = Nat.pow 2 52 ∧ -1074 < exponent then 1 else 2
  (4 * mantissa - below, 4 * mantissa + 2, mantissa % 2 == 0)

def readsBack (mantissa : Nat) (exponent : Int) (digits : Nat) (power : Int) : Bool :=
  let (n, d) :=
    if power < 0 then (digits, Nat.pow 10 power.natAbs)
    else (digits * Nat.pow 10 power.natAbs, 1)
  let (a, b) := inUnits (4 * n) d exponent
  let (lo, hi, closed) := bounds mantissa exponent
  if closed then lo * b ≤ a && a ≤ hi * b else lo * b < a && a < hi * b

/-- The multiple of ten to a power that reads back as a number and is nearest to it, among its
two neighbours. -/
def onGrid? (mantissa : Nat) (exponent : Int) (power : Int) : Option Nat :=
  let (a, b) := inUnits mantissa 1 (-exponent)
  let (a, b) :=
    if power < 0 then (a * Nat.pow 10 power.natAbs, b) else (a, b * Nat.pow 10 power.natAbs)
  let low := a / b
  let lowFits := readsBack mantissa exponent low power
  let highFits := readsBack mantissa exponent (low + 1) power
  if lowFits && highFits then some (divNearest a b)
  else if lowFits then some low
  else if highFits then some (low + 1)
  else none

def shortest (mantissa : Nat) (exponent : Int) : Nat → Int → Nat × Int
  | 0, power => (0, power)
  | fuel + 1, power =>
    match onGrid? mantissa exponent power with
    | some digits => if digits = 0 then shortest mantissa exponent fuel (power - 1) else (digits, power)
    | none => shortest mantissa exponent fuel (power - 1)

def positional (digits : Nat) (power : Int) : String :=
  let ds := Nat.toDigits 10 digits
  if 0 ≤ power then String.ofList (ds ++ List.replicate power.natAbs '0') ++ ".0"
  else
    let places := power.natAbs
    let padded := List.replicate (places + 1 - ds.length) '0' ++ ds
    String.ofList (padded.take (padded.length - places)) ++ "."
      ++ String.ofList (padded.drop (padded.length - places))

def text : Binary64 → String
  | nan => "NaN"
  | infinite negative => if negative then "-inf" else "inf"
  | finite negative mantissa exponent =>
    let sign := if negative then "-" else ""
    if mantissa = 0 then sign ++ "0.0"
    else
      let (digits, power) := shortest mantissa exponent 800 309
      sign ++ positional digits power

end Binary64

end TreeWatch.Toml
