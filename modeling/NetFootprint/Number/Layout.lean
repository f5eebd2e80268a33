import NetFootprint.Number.Shortest

/-!
# How numbers are laid out as text

A float is written with the digits of its shortest decimal, positionally for moderate magnitudes
and with an exponent outside them, or with a fixed number of decimal places. Which magnitudes are
moderate, and how an exponent looks, is the record `standard`.
-/

namespace NetFootprint.Double

/-- The choices of a float layout. -/
structure Layout where
  /-- The least magnitude that is written positionally. -/
  leastPositional : Int
  /-- The first magnitude that is not. -/
  firstScientific : Int
  /-- What marks the exponent. -/
  mark : String
  /-- The least number of digits of an exponent. -/
  exponentDigits : Nat

/-- Magnitudes from `10 ^ -4` to below `10 ^ 16` are positional; an exponent has a sign and two
digits at least. -/
def standard : Layout := ⟨-4, 16, "e", 2⟩

def zeros (n : Nat) : String := "".pushn '0' n

/-- The digits of a number, with zeros in front up to the width. -/
def padded (width n : Nat) : String :=
  let digits := Nat.repr n
  zeros (width - digits.length) ++ digits

/-- A sign in front of negative numbers. -/
def signed (negative : Bool) (s : String) : String := if negative then "-" ++ s else s

/-- A decimal in positional notation, with at least one place. -/
def Decimal.positional (d : Decimal) : String :=
  let digits := Nat.repr d.digits
  if 0 ≤ d.exponent then digits ++ zeros d.exponent.toNat ++ ".0"
  else
    let places := (-d.exponent).toNat
    let whole := zeros (places + 1 - digits.length) ++ digits
    let split := whole.length - places
    (whole.take split).toString ++ "." ++ (whole.drop split).toString

/-- A decimal with one digit in front of the point and an exponent; a point that nothing would
follow is left out. -/
def Decimal.scientific (d : Decimal) (layout : Layout) (magnitude : Int) : String :=
  let digits := Nat.repr d.digits
  let rest := (digits.drop 1).toString
  let sign := if magnitude < 0 then "-" else "+"
  (digits.take 1).toString ++ (if rest.isEmpty then "" else "." ++ rest) ++ layout.mark ++ sign ++
    padded layout.exponentDigits magnitude.natAbs

def Decimal.text (d : Decimal) (layout : Layout) : String :=
  let magnitude := d.exponent + (digitCount d.digits : Int) - 1
  if layout.leastPositional ≤ magnitude ∧ magnitude < layout.firstScientific then d.positional
  else d.scientific layout magnitude

/-- The shortest text that reads back as the float. -/
def text (x : Float) : String :=
  match parts x with
  | .nan => "nan"
  | .infinite negative => signed negative "inf"
  | .finite negative mantissa exponent =>
    signed negative (if mantissa = 0 then "0.0" else (shortest mantissa exponent).text standard)

/-- A number of units of `10 ^ -places`, with a point before the last `places` digits. -/
def pointed (places units : Nat) : String :=
  let digits := padded (places + 1) units
  let split := digits.length - places
  (digits.take split).toString ++ "." ++ (digits.drop split).toString

/-- The exact value of the float rounded to a fixed number of places, a half to the even
neighbour. The sign of a negative float stays even if only zeros are left. -/
def fixed (places : Nat) (x : Float) : String :=
  match parts x with
  | .nan => "nan"
  | .infinite negative => signed negative "inf"
  | .finite negative mantissa exponent =>
    let (num, den) := scaleTwo mantissa 1 exponent
    signed negative (pointed places (roundHalfEven (num * Nat.pow 10 places) den))

end NetFootprint.Double
