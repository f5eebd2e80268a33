import NetFootprint.Number.Double

/-!
# The shortest decimal that reads back

The reals that round to a double form an interval around it. On the decimal grids of one, two, up
to seventeen digits, the first that has a point in this interval gives the digits; of two points on
it the nearer counts, and an exact tie goes to the even one.
-/

namespace NetFootprint.Double

/-- A positive decimal number, `digits · 10 ^ exponent`. -/
structure Decimal where
  digits : Nat
  exponent : Int
  deriving DecidableEq, Repr

def digitCount (n : Nat) : Nat := (Nat.toDigits 10 n).length

/-- The numerator and the denominator of `num / den / 10 ^ exponent`. -/
def scaleTen (num den : Nat) (exponent : Int) : Nat × Nat :=
  if 0 ≤ exponent then (num, den * Nat.pow 10 exponent.toNat)
  else (num * Nat.pow 10 (-exponent).toNat, den)

/-- The greatest `p` with `10 ^ p ≤ num / den`, for a positive quotient. -/
def decimalMagnitude (num den : Nat) : Int :=
  let guess : Int := (digitCount num : Int) - digitCount den
  let (n, d) := scaleTen num den guess
  if n < d then guess - 1 else guess

/-- The reals that round to a double, and the double itself, as numerators over one denominator;
the ends belong to the interval if the mantissa is even. -/
structure Neighbourhood where
  low : Nat
  value : Nat
  high : Nat
  den : Nat
  closed : Bool

/-- The neighbourhood of `mantissa · 2 ^ exponent`. Below a power of two the gap to the next double
is half as wide as above it, except at the smallest exponent. -/
def neighbourhood (mantissa : Nat) (exponent : Int) : Neighbourhood :=
  let below := if mantissa = Nat.pow 2 52 ∧ -1074 < exponent then 1 else 2
  let quarter := exponent - 2
  let up := if 0 ≤ quarter then Nat.pow 2 quarter.toNat else 1
  let den := if 0 ≤ quarter then 1 else Nat.pow 2 (-quarter).toNat
  { low := (4 * mantissa - below) * up
    value := 4 * mantissa * up
    high := (4 * mantissa + 2) * up
    den := den
    closed := mantissa % 2 == 0 }

/-- Whether `point · 10 ^ exponent` lies in the neighbourhood. -/
def Neighbourhood.holds (n : Neighbourhood) (point : Nat) (exponent : Int) : Bool :=
  let (num, den) := scaleTen point 1 (-exponent)
  let p := num * n.den
  if n.closed then n.low * den ≤ p && p ≤ n.high * den
  else n.low * den < p && p < n.high * den

/-- The point of the grid of step `10 ^ exponent` that stands for the neighbourhood, if one of the
two points around its value lies in it. -/
def Neighbourhood.pointOn? (n : Neighbourhood) (exponent : Int) : Option Nat :=
  let (num, den) := scaleTen n.value n.den exponent
  let under := num / den
  let twiceRest := 2 * (num % den)
  match n.holds under exponent, n.holds (under + 1) exponent with
  | true, true =>
    some (if twiceRest < den ∨ (twiceRest = den ∧ under % 2 = 0) then under else under + 1)
  | true, false => some under
  | false, true => some (under + 1)
  | false, false => none

/-- Tries the grids from the coarsest, `count` of them, below the magnitude `top`. -/
def Neighbourhood.search (n : Neighbourhood) (top : Int) : Nat → Decimal
  | 0 => { digits := n.value / n.den, exponent := 0 }
  | count + 1 =>
    let exponent := top - (16 - count : Int)
    match n.pointOn? exponent with
    | some point => { digits := point, exponent }
    | none => n.search top count

/-- Moves the zeros at the end of the digits into the exponent, at most `fuel` of them. -/
def Decimal.trim (d : Decimal) : Nat → Decimal
  | 0 => d
  | fuel + 1 =>
    if d.digits ≠ 0 ∧ d.digits % 10 = 0 then
      Decimal.trim { digits := d.digits / 10, exponent := d.exponent + 1 } fuel
    else d

/-- The shortest decimal that reads back as `mantissa · 2 ^ exponent`, for a positive mantissa. -/
def shortest (mantissa : Nat) (exponent : Int) : Decimal :=
  let n := neighbourhood mantissa exponent
  (n.search (decimalMagnitude n.value n.den) 17).trim 18

end NetFootprint.Double
