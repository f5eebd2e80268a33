/-!
# Doubles as exact numbers

A finite double is `± mantissa · 2 ^ exponent`. This module opens a double into these parts and
rounds an exact quotient of whole numbers back to a double, so that every conversion in the library
is one rounding of an exact number: to nearest, a half to the even neighbour.
-/

namespace NetFootprint.Double

/-- A double as the exact number it stands for. -/
inductive Parts where
  | nan
  | infinite (negative : Bool)
  | finite (negative : Bool) (mantissa : Nat) (exponent : Int)
  deriving DecidableEq, Repr

/-- The parts of the double with the given bits. -/
def Parts.ofBits (bits : Nat) : Parts :=
  let negative := decide (Nat.pow 2 63 ≤ bits)
  let biased : Nat := bits / Nat.pow 2 52 % Nat.pow 2 11
  let fraction : Nat := bits % Nat.pow 2 52
  if biased = 2047 then
    if fraction = 0 then .infinite negative else .nan
  else if biased = 0 then .finite negative fraction (-1074)
  else .finite negative (Nat.pow 2 52 + fraction) ((biased : Int) - 1075)

def parts (x : Float) : Parts := .ofBits x.toBits.toNat

/-- The quotient to the nearest whole number, a half to the even neighbour. -/
def roundHalfEven (num den : Nat) : Nat :=
  let quotient := num / den
  let rest := num % den
  if 2 * rest < den then quotient
  else if den < 2 * rest then quotient + 1
  else if quotient % 2 = 0 then quotient else quotient + 1

/-- The numerator and the denominator of `n · 2 ^ exponent / den`. -/
def scaleTwo (num den : Nat) (exponent : Int) : Nat × Nat :=
  if 0 ≤ exponent then (num * Nat.pow 2 exponent.toNat, den)
  else (num, den * Nat.pow 2 (-exponent).toNat)

/-- The greatest `e` with `2 ^ e ≤ num / den`, for a positive quotient. -/
def binaryMagnitude (num den : Nat) : Int :=
  let guess : Int := num.log2 - den.log2
  let (n, d) := scaleTwo num den (-guess)
  if n < d then guess - 1 else guess

/-- The bits of the magnitude of the double nearest to `num / den`; from the bits of infinity on,
the quotient is out of range. A mantissa that rounds up to the next power of two carries into the
exponent by itself. -/
def magnitudeBits (num den : Nat) : Nat :=
  if num = 0 then 0 else
    let exponent := max (binaryMagnitude num den - 52) (-1074)
    let (n, d) := scaleTwo num den (-exponent)
    (exponent + 1074).toNat * Nat.pow 2 52 + roundHalfEven n d

def infinityBits : Nat := 2047 * Nat.pow 2 52

/-- The double with the given sign and magnitude bits. -/
def ofMagnitudeBits (negative : Bool) (bits : Nat) : Float :=
  Float.ofBits (UInt64.ofNat (if negative then Nat.pow 2 63 + bits else bits))

/-- The double nearest to `± num / den`, if it is in range. -/
def ofRatio? (negative : Bool) (num den : Nat) : Option Float :=
  let bits := magnitudeBits num den
  if bits < infinityBits then some (ofMagnitudeBits negative bits) else none

/-- The double nearest to `± num / den`; beyond the range it is infinite. -/
def ofRatio (negative : Bool) (num den : Nat) : Float :=
  ofMagnitudeBits negative (min (magnitudeBits num den) infinityBits)

/-- The double nearest to a whole number, if it is in range. -/
def ofInt? (n : Int) : Option Float := ofRatio? (decide (n < 0)) n.natAbs 1

/-- The double nearest to a quotient of whole numbers, if it is in range. -/
def ofQuotient? (num : Int) (den : Nat) : Option Float :=
  ofRatio? (decide (num < 0)) num.natAbs den

/-- The whole part of a finite number, toward zero. -/
def truncate (negative : Bool) (mantissa : Nat) (exponent : Int) : Int :=
  let (n, d) := scaleTwo mantissa 1 exponent
  if negative then -(n / d : Nat) else (n / d : Nat)

/-- Whether the finite number is at least the whole number `n`, decided exactly. -/
def finiteGe (negative : Bool) (mantissa : Nat) (exponent : Int) (n : Int) : Bool :=
  let (m, d) := scaleTwo mantissa 1 exponent
  let signed : Int := if negative then -(m : Int) else m
  decide (n * d ≤ signed)

/-- Whether a whole number is at most a double; nothing is at most not-a-number. -/
def intLe (n : Int) (x : Float) : Bool :=
  match parts x with
  | .nan => false
  | .infinite negative => !negative
  | .finite negative mantissa exponent => finiteGe negative mantissa exponent n

/-- Whether a double is at most a whole number; not-a-number is at most nothing. -/
def leInt (x : Float) (n : Int) : Bool := intLe (-n) (-x)

def equalsInt (n : Int) (x : Float) : Bool := intLe n x && leInt x n

/-- What is left of the first number after taking the second off as often as it goes; it has the
sign of the first. -/
def rest (x y : Float) : Float :=
  match parts x, parts y with
  | .finite negative m e, .finite _ n f =>
    if n = 0 then 0.0 / 0.0
    else
      let unit := min e f
      let left := m * Nat.pow 2 (e - unit).toNat % (n * Nat.pow 2 (f - unit).toNat)
      let (num, den) := scaleTwo left 1 unit
      ofRatio negative num den
  | .finite .., .infinite _ => x
  | _, _ => 0.0 / 0.0

/-- A zero with the sign of a number. -/
def zeroLike (x : Float) : Float :=
  match parts x with
  | .finite negative _ _ | .infinite negative => ofMagnitudeBits negative 0
  | .nan => 0.0

/-- A quotient rounded down. It is found from the rest of the division, which is exact. -/
def floorDiv (x y : Float) : Float :=
  let left := rest x y
  let even := (x - left) / y
  let quotient := if left != 0 && decide (y < 0) != decide (left < 0) then even - 1 else even
  if quotient == 0 then zeroLike (x / y)
  else
    let floor := quotient.floor
    if 0.5 < quotient - floor then floor + 1 else floor

end NetFootprint.Double
