import NetFootprint.Value.Equality

/-!
# Windows

The window that a convolution, an up-convolution or a pooling moves over the spatial axes, and what
it makes of an extent. Extents are computed in whole numbers of either sign: a window that does not
fit leaves nothing or less.
-/

namespace NetFootprint

/-- The numbers of a window along a single axis. -/
structure Window.Axis where
  kernel : Nat
  pad : Nat
  stride : Nat
  dilation : Nat
  deriving DecidableEq, Repr

/-- A window over all spatial axes: its extents, the padding on either side, its steps and the
distances between its elements. -/
structure Window where
  kernel : List Nat
  pad : List Nat
  stride : List Nat
  dilation : List Nat
  deriving DecidableEq, Repr

namespace Window

/-- The numbers along one axis; nothing if the window does not have that axis. -/
def axis? (w : Window) (d : Nat) : Option Axis := do
  let pad ← w.pad[d]?
  let stride ← w.stride[d]?
  let dilation ← w.dilation[d]?
  let kernel ← w.kernel[d]?
  return { kernel, pad, stride, dilation }

def axis (w : Window) (d : Nat) : Except Misuse Axis :=
  match w.axis? d with
  | some a => .ok a
  | none => .error .missingAxis

def volume (w : Window) : Nat := w.kernel.foldl (· * ·) 1

/-- The window that covers the given extents at once. -/
def covering (extents : List Nat) : Window where
  kernel := extents
  pad := extents.map fun _ => 0
  stride := extents.map fun _ => 1
  dilation := extents.map fun _ => 1

namespace Axis

/-- How many elements the window spans, gaps included. -/
def reach (a : Axis) : Int := a.dilation * ((a.kernel : Int) - 1) + 1

/-- How far a convolution window can be moved over a padded extent. -/
def slack (a : Axis) (extent : Nat) : Int := extent + 2 * a.pad - a.reach

def convolved (a : Axis) (extent : Nat) : Int := Int.fdiv (a.slack extent) a.stride + 1

def upConvolved (a : Axis) (extent : Nat) : Int :=
  a.stride * ((extent : Int) - 1) + a.reach - 2 * a.pad

end Axis

def ceilDiv (numerator denominator : Int) : Int := -Int.fdiv (-numerator) denominator

/-- The number of pooling windows that start on the padded extent, the last of which may reach
beyond it. -/
def pooledExtent (extent kernel pad stride : Int) : Int :=
  ceilDiv (extent + 2 * pad - kernel) stride + 1

/-- The number of pooling windows for numbers of any kind; windows need a step. -/
def pooledExtent? (extent kernel pad stride : Value) : Except Misuse Amount := do
  let pad ← pad.amount
  let padded ← (← extent.amount).add (← pad.add pad)
  let room ← padded.sub (← kernel.amount)
  let steps ← room.neg.floorDiv (← stride.amount)
  steps.neg.add (.whole 1)

namespace Axis

/-- The number of pooling windows before any of them is dropped. -/
def pooled (a : Axis) (extent : Nat) : Int := pooledExtent extent a.kernel a.pad a.stride

/-- Whether the last of some windows starts behind the extent and the padding in front of it. -/
def startsInPadding (a : Axis) (extent : Nat) (windows : Int) : Bool :=
  decide ((extent : Int) + a.pad ≤ (windows - 1) * a.stride)

/-- The number of windows after a last one that starts in the padding is dropped. -/
def trimmed (a : Axis) (extent : Nat) (windows : Int) : Int :=
  if a.startsInPadding extent windows then windows - 1 else windows

end Axis

end Window

end NetFootprint
