import NetFootprint.Text.Code
import NetFootprint.Text.Printable

/-!
# Quoted texts

The form in which a message shows a text that somebody else wrote: between single quotes, or
between double quotes if it holds single quotes only, with the backslash, the quote and everything
unprintable escaped.
-/

namespace NetFootprint.Text

/-- The lower case hexadecimal digits of a number, with zeros in front up to the width. -/
def hex (width n : Nat) : String :=
  let digits := String.ofList (Nat.toDigits 16 n)
  "".pushn '0' (width - digits.length) ++ digits

def quoteFor (s : String) : Char := if s.contains '\'' && !s.contains '"' then '"' else '\''

/-- The escape for the number of a code. -/
def numberEscape (n : Nat) : String :=
  if n < 0x100 then "\\x" ++ hex 2 n
  else if n < 0x10000 then "\\u" ++ hex 4 n
  else "\\U" ++ hex 8 n

def escapeCode (quote : Char) : Code → String
  | .half place => numberEscape (Code.half place).number
  | .char c =>
    if c = quote ∨ c = '\\' then "\\" ++ c.toString
    else if c = '\n' then "\\n"
    else if c = '\r' then "\\r"
    else if c = '\t' then "\\t"
    else if isPrintable c then ofCodes [.char c]
    else numberEscape c.toNat

def quoted (s : String) : String :=
  let quote := quoteFor s
  quote.toString ++ String.join ((codes s).map (escapeCode quote)) ++ quote.toString

end NetFootprint.Text
