import NetFootprint.Number.Double
import NetFootprint.Text.Blank
import NetFootprint.Text.Digit

/-!
# Numerals

Reads whole and decimal numbers from text. A numeral may stand between blanks, have a sign, use the
digits of any script and separate two digits by one underscore; a decimal numeral may also have a
fraction, an exponent, or name an infinity or not-a-number.
-/

namespace NetFootprint.Numeral

/-- The blanks around a numeral. The separator controls of the ASCII range do not belong to them. -/
def isBlank (c : Char) : Bool :=
  if c.toNat < 128 then (0x9 ≤ c.toNat && c.toNat ≤ 0xd) || c == ' ' else Text.isBlank c

/-- A character with digits of other scripts replaced by those of the ASCII range. -/
def plainDigit (c : Char) : Char :=
  if c.toNat < 128 then c
  else match Text.digitValue? c with
    | some d => Char.ofNat ('0'.toNat + d)
    | none => c

/-- The characters of a numeral, without blanks at the ends and in ASCII digits. -/
def plain (s : String) : List Char := (Text.trimWhile isBlank s.toList).map plainDigit

/-- Splits a sign off; true means negative. -/
def sign : List Char → Bool × List Char
  | '-' :: cs => (true, cs)
  | '+' :: cs => (false, cs)
  | cs => (false, cs)

/-- Removes underscores, each of which must stand between two digits. The first argument tells
whether the character before is a digit. -/
def joinDigits : Bool → List Char → Option (List Char)
  | _, [] => some []
  | afterDigit, '_' :: cs =>
    match cs with
    | [] => none
    | c :: _ => if afterDigit && c.isDigit then joinDigits false cs else none
  | _, c :: cs => (joinDigits c.isDigit cs).map (c :: ·)

/-- The number that a row of ASCII digits spells, most significant first, after the digits read so
far. -/
def digitsValue (sofar : Nat) : List Char → Option Nat
  | [] => some sofar
  | c :: cs =>
    match Text.asciiDigit? c with
    | some d => digitsValue (10 * sofar + d) cs
    | none => none

/-- Longer whole numerals are refused. -/
def maxWholeDigits : Nat := 4300

/-- The whole number that an unsigned row of digits spells; an empty row spells none. -/
def natural? : List Char → Option Nat
  | [] => none
  | cs => if cs.length ≤ maxWholeDigits then digitsValue 0 cs else none

def whole? (s : String) : Option Int :=
  let (negative, cs) := sign (plain s)
  match (joinDigits false cs).bind natural? with
  | some n => some (if negative then -(n : Int) else n)
  | none => none

/-- An unsigned decimal numeral: its digits with the point left out, and how many places the point
stands before their end, negative for zeros to be added. -/
structure Scaled where
  digits : Nat
  places : Int

/-- The double nearest to a decimal numeral; magnitudes far out of range are decided by their
number of digits. -/
def Scaled.toFloat (n : Scaled) (negative : Bool) : Float :=
  let magnitude : Int := (Nat.toDigits 10 n.digits).length - n.places
  if n.digits = 0 ∨ magnitude < -400 then Double.ofRatio negative 0 1
  else if 400 < magnitude then Double.ofRatio negative (Nat.pow 10 400) 1
  else if 0 ≤ n.places then Double.ofRatio negative n.digits (Nat.pow 10 n.places.toNat)
  else Double.ofRatio negative (n.digits * Nat.pow 10 (-n.places).toNat) 1

/-- The exponent after a mantissa: nothing, or a mark, a sign and digits. -/
def exponent? : List Char → Option Int
  | [] => some 0
  | mark :: cs =>
    if mark = 'e' ∨ mark = 'E' then
      match sign cs with
      | (_, []) => none
      | (negative, digits) =>
        (digitsValue 0 digits).map (fun n => if negative then -(n : Int) else n)
    else none

/-- An unsigned decimal numeral in digits; the mantissa needs one digit at least. -/
def scaled? (cs : List Char) : Option Scaled :=
  let whole := cs.takeWhile Char.isDigit
  let rest := cs.dropWhile Char.isDigit
  let (fraction, rest) := match rest with
    | '.' :: rest => (rest.takeWhile Char.isDigit, rest.dropWhile Char.isDigit)
    | _ => ([], rest)
  if whole.isEmpty && fraction.isEmpty then none
  else
    match digitsValue 0 (whole ++ fraction), exponent? rest with
    | some digits, some exponent => some ⟨digits, (fraction.length : Int) - exponent⟩
    | _, _ => none

/-- The number that a text spells, rounded to a double. -/
def decimal? (s : String) : Option Float :=
  match joinDigits false (plain s) with
  | none => none
  | some cs =>
    let (negative, cs) := sign cs
    let word := String.ofList (cs.map Char.toLower)
    if word = "inf" ∨ word = "infinity" then
      some (Double.ofMagnitudeBits negative Double.infinityBits)
    else if word = "nan" then some (0.0 / 0.0)
    else (scaled? cs).map (·.toFloat negative)

end NetFootprint.Numeral
