import NetFootprint.Number.Layout
import NetFootprint.Text.Quoted
import NetFootprint.Value

/-!
# Writing JSON

Encodes a value as JSON in ASCII, either on one line or with one item or entry on a line. Floats
are written with their shortest digits; infinities and not-a-number are written by name.
-/

namespace NetFootprint.Json

/-- A code unit as an escape. -/
def unitEscape (n : Nat) : String := "\\u" ++ Text.hex 4 n

/-- A character inside a JSON text. Beyond the first plane it takes two escapes. -/
def charText (c : Char) : String :=
  if c = '"' then "\\\""
  else if c = '\\' then "\\\\"
  else if c = '\n' then "\\n"
  else if c = '\r' then "\\r"
  else if c = '\t' then "\\t"
  else if c = '\x08' then "\\b"
  else if c = '\x0c' then "\\f"
  else if ' ' ≤ c ∧ c ≤ '~' then c.toString
  else if c.toNat < 0x10000 then unitEscape c.toNat
  else
    let n := c.toNat - 0x10000
    unitEscape (0xd800 + n / 0x400) ++ unitEscape (0xdc00 + n % 0x400)

def codeText : Text.Code → String
  | .char c => charText c
  | .half place => unitEscape (Text.Code.half place).number

def textText (s : String) : String :=
  "\"" ++ String.join ((Text.codes s).map codeText) ++ "\""

def floatText (x : Float) : String :=
  match Double.parts x with
  | .nan => "NaN"
  | .infinite negative => Double.signed negative "Infinity"
  | .finite _ _ _ => Double.text x

/-- Puts written members between brackets: `none` on one line, `some n` on lines of their own, the
closing bracket indented by `n` levels of two blanks. -/
def bracketed (opening closing : String) (depth : Option Nat) (members : List String) : String :=
  if members.isEmpty then opening ++ closing
  else
    match depth with
    | none => opening ++ ", ".intercalate members ++ closing
    | some n =>
      let outer := "\n" ++ "".pushn ' ' (2 * n)
      let inner := outer ++ "  "
      opening ++ inner ++ ("," ++ inner).intercalate members ++ outer ++ closing

mutual

/-- A value at a depth of nesting; without a depth it goes on one line. -/
def render (depth : Option Nat) : Value → String
  | .null => "null"
  | .bool b => if b then "true" else "false"
  | .int n => toString n
  | .float x => floatText x
  | .text s => textText s
  | .list items => bracketed "[" "]" depth (renderItems (depth.map (· + 1)) items)
  | .object entries => bracketed "\x7b" "\x7d" depth (renderEntries (depth.map (· + 1)) entries)

def renderItems (depth : Option Nat) : List Value → List String
  | [] => []
  | v :: vs => render depth v :: renderItems depth vs

def renderEntries (depth : Option Nat) : List (String × Value) → List String
  | [] => []
  | (key, v) :: rest => (textText key ++ ": " ++ render depth v) :: renderEntries depth rest

end

/-- The text of a key. Keys are texts, so any other value is written as it would be in its own
place. -/
def keyText : Value → String
  | .text s => s
  | v => render none v

/-- The value on one line. -/
def line (v : Value) : String := render none v

/-- The value with one item or entry on a line. -/
def page (v : Value) : String := render (some 0) v

end NetFootprint.Json
