import NetFootprint.Text.Quoted

/-!
# UTF-8

Decodes bytes to characters. A character begins with a byte that fixes how many bytes follow it and
between which bounds the first of them lies; the first byte that cannot continue is reported with
the position of its character.
-/

namespace NetFootprint.Utf8

/-- Why bytes are no text. -/
inductive Cause where
  /-- No character begins with this byte. -/
  | badStart
  /-- A byte does not continue the character before it. -/
  | badContinuation
  /-- The bytes end inside a character. -/
  | cutOff
  deriving DecidableEq, Repr

/-- The bytes that cannot be decoded: the first of them, its position, their number and why. -/
structure Flaw where
  byte : Nat
  position : Nat
  length : Nat
  cause : Cause
  deriving DecidableEq, Repr

def Cause.words : Cause → String
  | .badStart => "invalid start byte"
  | .badContinuation => "invalid continuation byte"
  | .cutOff => "unexpected end of data"

def Flaw.message (f : Flaw) : String :=
  let place :=
    if f.length = 1 then "byte 0x" ++ Text.hex 2 f.byte ++ " in position " ++ toString f.position
    else "bytes in position " ++ toString f.position ++ "-" ++ toString (f.position + f.length - 1)
  "'utf-8' codec can't decode " ++ place ++ ": " ++ f.cause.words

/-- What a first byte announces: its share of the code point, how many bytes follow, and the
bounds of the first of them. -/
structure Lead where
  bits : Nat
  following : Nat
  low : Nat
  high : Nat

/-- What a byte announces as the first of a character. -/
def lead? (b : Nat) : Option Lead :=
  if b < 0x80 then some ⟨b, 0, 0x80, 0xbf⟩
  else if b < 0xc2 then none
  else if b < 0xe0 then some ⟨b - 0xc0, 1, 0x80, 0xbf⟩
  else if b = 0xe0 then some ⟨0, 2, 0xa0, 0xbf⟩
  else if b = 0xed then some ⟨0xd, 2, 0x80, 0x9f⟩
  else if b < 0xf0 then some ⟨b - 0xe0, 2, 0x80, 0xbf⟩
  else if b = 0xf0 then some ⟨0, 3, 0x90, 0xbf⟩
  else if b < 0xf4 then some ⟨b - 0xf0, 3, 0x80, 0xbf⟩
  else if b = 0xf4 then some ⟨4, 3, 0x80, 0x8f⟩
  else none

/-- A character of which some bytes are read: the code point so far, the byte and the position it
began with, the bytes read, the bytes to come and the bounds of the next one. -/
structure Begun where
  code : Nat
  first : Nat
  position : Nat
  read : Nat
  owed : Nat
  low : Nat
  high : Nat

def Begun.flaw (b : Begun) (cause : Cause) : Flaw := ⟨b.first, b.position, b.read, cause⟩

/-- Decodes bytes, the first of which stands at the given position, after the characters decoded
so far (in reverse) and the character begun, if any. -/
def decodeFrom (position : Nat) (done : List Char) :
    Option Begun → List UInt8 → Except Flaw (List Char)
  | none, [] => .ok done.reverse
  | some b, [] => .error (b.flaw .cutOff)
  | none, byte :: rest =>
    match lead? byte.toNat with
    | none => .error ⟨byte.toNat, position, 1, .badStart⟩
    | some l =>
      if l.following = 0 then decodeFrom (position + 1) (Char.ofNat l.bits :: done) none rest
      else
        decodeFrom (position + 1) done
          (some ⟨l.bits, byte.toNat, position, 1, l.following, l.low, l.high⟩) rest
  | some b, byte :: rest =>
    if byte.toNat < b.low ∨ b.high < byte.toNat then .error (b.flaw .badContinuation)
    else
      let code := 64 * b.code + (byte.toNat - 0x80)
      if b.owed = 1 then decodeFrom (position + 1) (Char.ofNat code :: done) none rest
      else
        decodeFrom (position + 1) done
          (some { b with code, read := b.read + 1, owed := b.owed - 1, low := 0x80, high := 0xbf })
          rest

def decode (bytes : List UInt8) : Except Flaw (List Char) := decodeFrom 0 [] none bytes

end NetFootprint.Utf8
