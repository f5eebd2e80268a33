import NetFootprint.Misuse
import NetFootprint.Number.Layout
import NetFootprint.Text.Column
import NetFootprint.Text.Quoted
import NetFootprint.Value.Conversion

/-!
# Values as text

A value has a plain text, which leaves a text as it is, and an exact text, which quotes it; inside
lists and objects every value is exact. Numbers may also be laid out with a fixed number of places
or in a column.
-/

namespace NetFootprint

/-- Texts with a separator between them. -/
def joinWith (separator : String) (parts : List String) : String := separator.intercalate parts

namespace Value

mutual

/-- The text that shows exactly which value it is. -/
def exact : Value → String
  | null => "None"
  | bool b => if b then "True" else "False"
  | int n => toString n
  | float x => Double.text x
  | text s => Text.quoted s
  | list items => "[" ++ joinWith ", " (exactItems items) ++ "]"
  | object entries => "\x7b" ++ joinWith ", " (exactEntries entries) ++ "\x7d"

def exactItems : List Value → List String
  | [] => []
  | v :: vs => exact v :: exactItems vs

def exactEntries : List (String × Value) → List String
  | [] => []
  | (key, v) :: rest => (Text.quoted key ++ ": " ++ exact v) :: exactEntries rest

end

/-- The text of a value inside a sentence. -/
def plain : Value → String
  | text s => s
  | v => exact v

/-- The exact text of a fixed sequence; a single member is followed by a comma. -/
def exactTuple : List Value → String
  | [v] => "(" ++ exact v ++ ",)"
  | vs => "(" ++ joinWith ", " (exactItems vs) ++ ")"

/-- Whole numbers as texts. A number with more digits than a numeral may have has none. -/
def wholeTexts (ns : List Int) : Except Misuse (List String) :=
  ns.mapM fun n =>
    if n.natAbs < Nat.pow 10 Numeral.maxWholeDigits then .ok (toString n) else .error .malformed

def exactInts (ns : List Int) : Except Misuse String := do
  return "[" ++ joinWith ", " (← wholeTexts ns) ++ "]"

def exactIntTuple (ns : List Int) : Except Misuse String := do
  let _ ← wholeTexts ns
  return exactTuple (ns.map .int)

/-- A number with a fixed number of decimal places. -/
def fixed (places : Nat) : Value → Except Misuse String
  | bool b => .ok (Double.fixed places (if b then 1.0 else 0.0))
  | int n => do return Double.fixed places (← Double.ofWhole n)
  | float x => .ok (Double.fixed places x)
  | text _ => .error .malformed
  | null | list _ | object _ => .error .wrongKind

/-- The text of a number or a text in a column; true and false show as one and zero. -/
def column (width : Nat) : Value → Except Misuse String
  | bool b => .ok (Text.padRight width (if b then "1" else "0"))
  | int n => .ok (Text.padRight width (toString n))
  | float x => .ok (Text.padRight width (Double.text x))
  | text s => .ok (Text.padRight width s)
  | null | list _ | object _ => .error .wrongKind

end Value

/-- The sentence for a misuse, if there is one. -/
def Misuse.message? : Misuse → Option String
  | .negativeExtent shape blob =>
    some ("Negative extent in shape " ++ Value.exactTuple (shape.map .int) ++
      " of blob '" ++ blob ++ "'")
  | _ => none

end NetFootprint
