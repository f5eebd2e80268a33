import NetFootprint.Number.Numeral
import NetFootprint.Text.Code
import NetFootprint.Value.Equality

/-!
# Reading values

How a parameter or a setting is understood when a whole number, a float or a sequence is wanted.
The rules are lenient about spelling and strict about kind: a text that spells a number is one,
true is one and false is zero, but nothing stands for a missing value.
-/

namespace NetFootprint.Value

/-- The value as a whole number; a float loses its fraction. -/
def toInt : Value → Except Misuse Int
  | bool b => .ok (if b then 1 else 0)
  | int n => .ok n
  | float x =>
    match Double.parts x with
    | .nan => .error .malformed
    | .infinite _ => .error .tooLarge
    | .finite negative mantissa exponent => .ok (Double.truncate negative mantissa exponent)
  | text s =>
    match Numeral.whole? s with
    | some n => .ok n
    | none => .error .malformed
  | null | list _ | object _ => .error .wrongKind

/-- A whole number that is used as it stands. -/
def whole : Value → Except Misuse Int
  | bool b => .ok (if b then 1 else 0)
  | int n => .ok n
  | null | float _ | text _ | list _ | object _ => .error .wrongKind

def toFloat : Value → Except Misuse Float
  | bool b => .ok (if b then 1.0 else 0.0)
  | int n => Double.ofWhole n
  | float x => .ok x
  | text s =>
    match Numeral.decimal? s with
    | some x => .ok x
    | none => .error .malformed
  | null | list _ | object _ => .error .wrongKind

/-- The members of a sequence: the items of a list, the characters of a text, the keys of an
object. -/
def members : Value → Except Misuse (List Value)
  | list items => .ok items
  | text s => .ok ((Text.codes s).map (fun c => text (Text.ofCodes [c])))
  | object entries => .ok (entries.map (fun e => text e.1))
  | null | bool _ | int _ | float _ => .error .wrongKind

def toInts (v : Value) : Except Misuse (List Int) := do (← v.members).mapM toInt

def toFloats (v : Value) : Except Misuse (List Float) := do (← v.members).mapM toFloat

/-- A list as it is, nothing as no values, and any other value as the only one. -/
def oneOrMore : Value → List Value
  | null => []
  | list items => items
  | v => [v]

/-- The product of a number and a whole factor. Texts and lists can be repeated but are no numbers
after it. -/
def scaledToInt (v : Value) (factor : Nat) : Except Misuse Int :=
  match v with
  | bool b => .ok (if b then factor else 0)
  | int n => .ok (n * factor)
  | float x => do toInt (float (x * (← Double.ofWhole factor)))
  | text _ => .error .malformed
  | null | list _ | object _ => .error .wrongKind

/-- Whether a number is zero or below; not-a-number is not. -/
def notPositive (v : Value) : Except Misuse Bool := do return (← v.amount).le (.whole 0)

end NetFootprint.Value
