import NetFootprint.Value.Text

/-!
# Blobs

A blob is a named array that flows between layers. Only its shape and what has to be accounted for
are known: axis 0 counts samples, axis 1 counts channels, all further axes are spatial. A scalar
has no spatial axes whatever its shape.

Counts are products in signed 64-bit arithmetic and so wrap around; `exactCount` is the product
itself.
-/

namespace NetFootprint

/-- Bytes of one element: everything is held in single precision. -/
def bytesPerElement : Nat := 4

/-- The layer that made a blob: its serial number and its name. -/
structure Producer where
  serial : Nat
  name : String
  deriving DecidableEq, Repr

/-- A named array without its content. -/
structure Blob where
  /-- A text as a rule, but any value that can serve as a name may stand here. -/
  name : Value
  shape : List Nat
  /-- The physical size of an element along each spatial axis. -/
  elementSize : List Float
  producer : Option Producer
  /-- The mark of a scalar, as it was given; any true value makes one. -/
  scalar : Value
  /-- Whether the values are kept on the device. -/
  forward : Bool
  /-- Whether a gradient is kept on the device. -/
  gradient : Bool
  /-- Whether the blob lives on the device at all. -/
  resident : Bool
  /-- The number it was registered under. -/
  id : Option Nat
  deriving Inhabited

/-- The position that a possibly negative index means in a sequence, for cutting. -/
def cutPoint (length : Nat) (i : Int) : Nat :=
  if i < 0 then (i + length).toNat else min i.toNat length

/-- The entries from one index up to but without another; negative indices count from the end. -/
def sliced {α : Type} (xs : List α) (first last : Int) : List α :=
  (xs.take (cutPoint xs.length last)).drop (cutPoint xs.length first)

/-- The entry at an index; a negative index counts from the end. -/
def entryAt? {α : Type} (xs : List α) (i : Int) : Option α :=
  if 0 ≤ i then xs[i.toNat]?
  else if -(xs.length : Int) ≤ i then xs[(i + xs.length).toNat]?
  else none

def exactProduct (extents : List Nat) : Nat := extents.foldl (· * ·) 1

/-- The product of some extents in signed 64-bit arithmetic. An extent that does not fit 64 bits is
refused, even beside a zero. -/
def wrappedProduct (extents : List Nat) : Except Misuse Int :=
  if extents.any (fun e => Nat.pow 2 64 ≤ e) then .error .tooLarge
  else .ok (Int.bmod (exactProduct extents) (Nat.pow 2 64))

namespace Blob

def isScalar (b : Blob) : Bool := b.scalar.truthy

def extent (b : Blob) (axis : Nat) : Except Misuse Nat :=
  match b.shape[axis]? with
  | some e => .ok e
  | none => .error .missingAxis

def samples (b : Blob) : Except Misuse Nat := b.extent 0

def channels (b : Blob) : Except Misuse Nat := b.extent 1

def spatialRank (b : Blob) : Int := if b.isScalar then 0 else (b.shape.length : Int) - 2

def spatial (b : Blob) : List Nat := if b.isScalar then [] else b.shape.drop 2

/-- The number of elements in a range of axes, both ends included; the whole shape by default. -/
def countBetween (b : Blob) (first : Int) (last : Option Int) : Except Misuse Int :=
  wrappedProduct (sliced b.shape first (last.getD ((b.shape.length : Int) - 1) + 1))

def count (b : Blob) : Except Misuse Int := wrappedProduct b.shape

/-- The number of elements, whatever its size. -/
def exactCount (b : Blob) : Nat := exactProduct b.shape

def sizeBytes (b : Blob) : Except Misuse Int := do return bytesPerElement * (← b.count)

def forwardBytes (b : Blob) : Except Misuse Int :=
  if b.resident && b.forward then b.sizeBytes else .ok 0

def backwardBytes (b : Blob) : Except Misuse Int :=
  if b.resident && b.gradient then b.sizeBytes else .ok 0

def extents (b : Blob) : List Int := b.shape.map Int.ofNat

/-- The name and the shape. Extents that are too long to be written have no text. -/
def text (b : Blob) : Except Misuse String := do
  return b.name.plain ++ " [ " ++ joinWith " " (← Value.wholeTexts b.extents) ++ " ]"

def details (b : Blob) : Except Misuse String := do
  return "TensorDescriptor(name='" ++ b.name.plain ++ "', shape=" ++
    (← Value.exactInts b.extents) ++ ", device_resident=" ++ (Value.bool b.resident).exact ++
    ", gradient_required=" ++ (Value.bool b.gradient).exact ++ ")"

/-- An element is a unit along each spatial axis unless something else is said. -/
def unitElementSize (rank : Nat) : List Float := List.replicate (rank - 2) 1.0

/-- A blob that no layer made, from values that are still to be read. -/
def ofValues (name shape elementSize scalar forward gradient resident : Value) :
    Except Misuse Blob := do
  let extents ← shape.toInts
  if extents.any (· < 0) then throw (.negativeExtent extents name.plain)
  let elementSize ← match elementSize with
    | .null => pure (unitElementSize extents.length)
    | v => v.toFloats
  return {
    name, elementSize, scalar
    shape := extents.map Int.toNat
    producer := none
    forward := forward.truthy
    gradient := gradient.truthy
    resident := resident.truthy
    id := none }

end Blob

end NetFootprint
