import NetFootprint.Number.Numeral
import NetFootprint.Text.Code
import NetFootprint.Value

/-!
# Reading JSON

Decodes a JSON text into a value. A repeated key of an object keeps its first place and its last
value; `NaN`, `Infinity` and `-Infinity` are numbers. Collections may be nested up to a limit. The
first thing that is not JSON is reported with its line, its column and the number of characters
before it.
-/

namespace NetFootprint.Json

/-- What is wrong with a text that is not JSON. -/
inductive Problem where
  | byteOrderMark
  | value
  | propertyName
  | colon
  | comma
  | unterminatedText
  | controlCharacter
  | escape
  | unicodeEscape
  | extraData
  /-- A whole number with more digits than a numeral may have. -/
  | longNumber (digits : Nat)
  | nesting
  deriving DecidableEq, Repr

/-- A problem and how many characters were left where it arose. -/
structure Complaint where
  problem : Problem
  remaining : Nat
  deriving DecidableEq, Repr

def Problem.words : Problem → String
  | .byteOrderMark => "Unexpected UTF-8 BOM (decode using utf-8-sig)"
  | .value => "Expecting value"
  | .propertyName => "Expecting property name enclosed in double quotes"
  | .colon => "Expecting ':' delimiter"
  | .comma => "Expecting ',' delimiter"
  | .unterminatedText => "Unterminated string starting at"
  | .controlCharacter => "Invalid control character at"
  | .escape => "Invalid \\escape"
  | .unicodeEscape => "Invalid \\uXXXX escape"
  | .extraData => "Extra data"
  | .longNumber digits =>
    "Exceeds the limit (" ++ toString Numeral.maxWholeDigits ++ " digits) for integer string " ++
      "conversion: value has " ++ toString digits ++
      " digits; use sys.set_int_max_str_digits() to increase the limit"
  | .nesting => "Too many nested collections"

/-- The sentence that reports a complaint about a text; a long number has no place. -/
def Complaint.message (c : Complaint) (source : List Char) : String :=
  match c.problem with
  | .longNumber _ => c.problem.words
  | _ =>
    let before := source.take (source.length - c.remaining)
    let line := before.count '\n' + 1
    let column := (before.reverse.takeWhile (· ≠ '\n')).length + 1
    c.problem.words ++ ": line " ++ toString line ++ " column " ++ toString column ++
      " (char " ++ toString before.length ++ ")"

/-- What a reader gives: in general something read and the characters after it, or a complaint. -/
abbrev Reading := Except Complaint

def complain {α : Type} (problem : Problem) (cs : List Char) : Reading α :=
  .error ⟨problem, cs.length⟩

def skip (cs : List Char) : List Char :=
  cs.dropWhile (fun c => c = ' ' || c = '\t' || c = '\n' || c = '\r')

/-- The character that a backslash and a letter stand for. -/
def simpleEscape? : Char → Option Char
  | '"' => some '"'
  | '\\' => some '\\'
  | '/' => some '/'
  | 'b' => some '\x08'
  | 'f' => some '\x0c'
  | 'n' => some '\n'
  | 'r' => some '\r'
  | 't' => some '\t'
  | _ => none

def hexDigit? (c : Char) : Option Nat :=
  if '0' ≤ c ∧ c ≤ '9' then some (c.toNat - '0'.toNat)
  else if 'a' ≤ c ∧ c ≤ 'f' then some (c.toNat - 'a'.toNat + 10)
  else if 'A' ≤ c ∧ c ≤ 'F' then some (c.toNat - 'A'.toNat + 10)
  else none

/-- The number that four hexadecimal digits spell; another character must follow them. -/
def hexFour? : List Char → Option (Nat × List Char)
  | a :: b :: c :: d :: rest =>
    if rest.isEmpty then none
    else do
      let a ← hexDigit? a
      let b ← hexDigit? b
      let c ← hexDigit? c
      let d ← hexDigit? d
      return (((a * 16 + b) * 16 + c) * 16 + d, rest)
  | _ => none

/-- The code of a `\u` escape whose digits begin the given characters: a pair of escapes makes one
character beyond the first plane, and half of a pair may stand alone. `letter` is the text from the
escape's letter on. -/
def unicodeEscape (letter cs : List Char) : Reading (Text.Code × List Char) :=
  match hexFour? cs with
  | none => complain .unicodeEscape letter
  | some (code, rest) =>
    if 0xd800 ≤ code ∧ code < 0xdc00 then
      match rest with
      | '\\' :: 'u' :: more =>
        if more.length ≤ 4 then .ok (.ofNumber code, rest)
        else
          match hexFour? more with
          | none => complain .unicodeEscape ('u' :: more)
          | some (low, after) =>
            if 0xdc00 ≤ low ∧ low < 0xe000 then
              .ok (.ofNumber (0x10000 + (code - 0xd800) * 0x400 + (low - 0xdc00)), after)
            else .ok (.ofNumber code, rest)
      | _ => .ok (.ofNumber code, rest)
    else .ok (.ofNumber code, rest)

/-- Reads a text up to its closing quote. `opened` is how many characters there were from the
opening quote on; `done` is what is read, in reverse. -/
def textBody (opened : Nat) : Nat → List Text.Code → List Char → Reading (String × List Char)
  | 0, _, _ => .error ⟨.unterminatedText, opened⟩
  | fuel + 1, done, cs =>
    match cs with
    | [] => .error ⟨.unterminatedText, opened⟩
    | '"' :: rest => .ok (Text.ofCodes done.reverse, rest)
    | '\\' :: [] => .error ⟨.unterminatedText, opened⟩
    | '\\' :: 'u' :: rest => do
      let (c, rest) ← unicodeEscape ('u' :: rest) rest
      textBody opened fuel (c :: done) rest
    | '\\' :: c :: rest =>
      match simpleEscape? c with
      | some c => textBody opened fuel (.char c :: done) rest
      | none => complain .escape cs
    | c :: rest =>
      if c < ' ' then complain .controlCharacter cs
      else textBody opened fuel (.char c :: done) rest

/-- Reads a text whose opening quote is read; `quoted` is the text from that quote on. -/
def readText (quoted rest : List Char) : Reading (String × List Char) :=
  textBody quoted.length (rest.length + 1) [] rest

/-- The digits of the whole part of a number: a zero, or digits that do not begin with one. -/
def wholeDigits? : List Char → Option (List Char × List Char)
  | '0' :: rest => some (['0'], rest)
  | c :: rest =>
    if c.isDigit then some (c :: rest.takeWhile Char.isDigit, rest.dropWhile Char.isDigit) else none
  | [] => none

/-- The digits after a point; a point that no digit follows does not belong to the number. -/
def fractionDigits : List Char → List Char × List Char
  | '.' :: rest =>
    let digits := rest.takeWhile Char.isDigit
    if digits.isEmpty then ([], '.' :: rest) else (digits, rest.dropWhile Char.isDigit)
  | cs => ([], cs)

/-- The exponent, if there is one; a mark that no digit follows does not belong to the number. -/
def exponentPart : List Char → Option Int × List Char
  | mark :: rest =>
    if mark = 'e' ∨ mark = 'E' then
      let (negative, more) := Numeral.sign rest
      let digits := more.takeWhile Char.isDigit
      match Numeral.digitsValue 0 digits with
      | some n =>
        if digits.isEmpty then (none, mark :: rest)
        else (some (if negative then -(n : Int) else n), more.dropWhile Char.isDigit)
      | none => (none, mark :: rest)
    else (none, mark :: rest)
  | [] => (none, [])

/-- Reads a number: whole unless it has a fraction or an exponent. -/
def readNumber (cs : List Char) : Reading (Value × List Char) :=
  let (negative, unsigned) := match cs with
    | '-' :: rest => (true, rest)
    | _ => (false, cs)
  match wholeDigits? unsigned with
  | none => complain .value cs
  | some (whole, rest) =>
    let (fraction, rest) := fractionDigits rest
    let (exponent, rest) := exponentPart rest
    let digits := (Numeral.digitsValue 0 (whole ++ fraction)).getD 0
    if fraction.isEmpty && exponent.isNone then
      if Numeral.maxWholeDigits < whole.length then complain (.longNumber whole.length) cs
      else .ok (.int (if negative then -(digits : Int) else digits), rest)
    else
      let scaled : Numeral.Scaled := ⟨digits, (fraction.length : Int) - exponent.getD 0⟩
      .ok (.float (scaled.toFloat negative), rest)

def infinite (negative : Bool) : Value :=
  .float (Double.ofMagnitudeBits negative Double.infinityBits)

/-- Reads what is neither a list nor an object. -/
def readScalar (cs : List Char) : Reading (Value × List Char) :=
  match cs with
  | '"' :: rest => do
    let (s, rest) ← readText cs rest
    return (.text s, rest)
  | 'n' :: 'u' :: 'l' :: 'l' :: rest => .ok (.null, rest)
  | 't' :: 'r' :: 'u' :: 'e' :: rest => .ok (.bool true, rest)
  | 'f' :: 'a' :: 'l' :: 's' :: 'e' :: rest => .ok (.bool false, rest)
  | 'N' :: 'a' :: 'N' :: rest => .ok (.float (0.0 / 0.0), rest)
  | 'I' :: 'n' :: 'f' :: 'i' :: 'n' :: 'i' :: 't' :: 'y' :: rest => .ok (infinite false, rest)
  | '-' :: 'I' :: 'n' :: 'f' :: 'i' :: 'n' :: 'i' :: 't' :: 'y' :: rest => .ok (infinite true, rest)
  | _ => readNumber cs

/-- Collections may be nested this deep. -/
def deepest : Nat := 989

mutual

/-- Reads a value at the head of the characters. The first argument bounds the number of nested
calls, two for each character are enough; the second one bounds the depth of nesting. -/
def readValue : Nat → Nat → List Char → Reading (Value × List Char)
  | 0, _, cs => complain .value cs
  | fuel + 1, depth, cs =>
    match cs with
    | '\x7b' :: rest =>
      match depth with
      | 0 => complain .nesting cs
      | depth + 1 =>
        match skip rest with
        | '\x7d' :: after => .ok (.object [], after)
        | inner => readEntries fuel depth [] inner
    | '[' :: rest =>
      match depth with
      | 0 => complain .nesting cs
      | depth + 1 =>
        match skip rest with
        | ']' :: after => .ok (.list [], after)
        | inner => readItems fuel depth [] inner
    | _ => readScalar cs

/-- Reads the items of a list up to its closing bracket, after those read (in reverse). -/
def readItems : Nat → Nat → List Value → List Char → Reading (Value × List Char)
  | 0, _, _, cs => complain .value cs
  | fuel + 1, depth, done, cs => do
    let (v, rest) ← readValue fuel depth cs
    match skip rest with
    | ']' :: after => .ok (.list (v :: done).reverse, after)
    | ',' :: more => readItems fuel depth (v :: done) (skip more)
    | other => complain .comma other

/-- Reads the entries of an object up to its closing brace, after those read. -/
def readEntries : Nat → Nat → List (String × Value) → List Char → Reading (Value × List Char)
  | 0, _, _, cs => complain .value cs
  | fuel + 1, depth, done, cs =>
    match cs with
    | '"' :: rest => do
      let (key, rest) ← readText cs rest
      match skip rest with
      | ':' :: more =>
        let (v, rest) ← readValue fuel depth (skip more)
        let done := setEntry key v done
        match skip rest with
        | '\x7d' :: after => .ok (.object done, after)
        | ',' :: more => readEntries fuel depth done (skip more)
        | other => complain .comma other
      | other => complain .colon other
    | _ => complain .propertyName cs

end

def read (source : List Char) : Reading Value :=
  match source with
  | '\ufeff' :: _ => complain .byteOrderMark source
  | _ => do
    let (v, rest) ← readValue (2 * source.length + 2) deepest (skip source)
    match skip rest with
    | [] => .ok v
    | extra => complain .extraData extra

end NetFootprint.Json
