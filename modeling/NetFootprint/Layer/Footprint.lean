import NetFootprint.Graph

/-!
# Footprints

The device memory of a layer: its parameters, its workspace, its internal buffers, and the blobs it
made. The formulas take the blobs a layer reads and writes and a way to count elements, so that they
can be evaluated in wrapping or in unbounded arithmetic.
-/

namespace NetFootprint

/-- The memory figures of a layer, in bytes: its learnable parameters, its workspace and internal
data, and the values and the gradients of the blobs it made. -/
structure Footprint where
  parameter : Int
  overhead : Int
  forward : Int
  backward : Int
  deriving DecidableEq, Repr

namespace Footprint

def total (f : Footprint) : Int := f.parameter + f.overhead + f.forward + f.backward

end Footprint

/-- A way to count the elements of an array from its extents. -/
abbrev Count := List Nat → Except Misuse Int

/-- The number of elements, whatever its size. -/
def exactElements : Count := fun extents => .ok (exactProduct extents)

/-- The workspace that the accelerated library reserves for a convolution. -/
def convolutionWorkspace : Nat := 8 * mebibyte

/-- The workspace that the accelerated library reserves for an up-convolution: three times that of a
convolution. -/
def deconvolutionWorkspace : Nat := 3 * convolutionWorkspace

def firstBlob : List Blob → Except Misuse Blob
  | b :: _ => .ok b
  | [] => .error .missingAxis

namespace Body

def blobBytes (count : Count) (b : Blob) : Except Misuse Int := do
  return bytesPerElement * (← count b.shape)

def sumOver (f : Blob → Except Misuse Int) (blobs : List Blob) : Except Misuse Int :=
  blobs.foldlM (fun total b => do return total + (← f b)) 0

/-- Bytes for weights and one bias per output channel. -/
def weightBytes (outChannels inChannels volume : Nat) : Int :=
  bytesPerElement * outChannels * (inChannels * volume + 1)

def parameterBytes (body : Body) (inputs outputs : List Blob) : Except Misuse Int :=
  match body with
  | convolution window numOutput => do
    let src ← firstBlob inputs
    return weightBytes numOutput (← src.channels) window.volume
  | deconvolution window _ => do
    let out ← firstBlob outputs
    let src ← firstBlob inputs
    return weightBytes (← out.channels) (← src.channels) window.volume
  | valueTransformation => do
    let src ← firstBlob inputs
    return bytesPerElement * 2 * (← src.channels)
  | _ => .ok 0

/-- Bytes for the matrix of all windows over `spatial`, for each of `channels`. -/
def loweredBytes (count : Count) (spatial : List Nat) (channels : Except Misuse Nat)
    (volume : Nat) : Except Misuse Int := do
  let elements ← count spatial
  return bytesPerElement * elements * (← channels) * volume

/-- Bytes for the workspace of the accelerated library, or for the explicit buffers that replace
it. -/
def workspaceBytes (count : Count) (accelerated : Bool) (body : Body) (inputs outputs : List Blob) :
    Except Misuse Int :=
  match body with
  | convolution window _ => do
    if accelerated then return convolutionWorkspace
    let out ← firstBlob outputs
    let src ← firstBlob inputs
    loweredBytes count (out.shape.drop 2) src.channels window.volume
  | deconvolution window _ => do
    if accelerated then return deconvolutionWorkspace
    let src ← firstBlob inputs
    let out ← firstBlob outputs
    loweredBytes count (src.shape.drop 2) out.channels window.volume
  | _ => .ok 0

/-- Bytes for the largest element of each window, and for the window's description. -/
def poolingBytes (count : Count) (w : Window) (out : Blob) : Except Misuse Int := do
  let axes := w.kernel.length
  return bytesPerElement * ((← count out.shape) + 4 * axes + (axes + 1))

/-- Bytes for the sum over the channels, and for one scale per channel vector. -/
def softmaxBytes (count : Count) (src : Blob) : Except Misuse Int := do
  let channels ← src.channels
  let elements ← count src.shape
  if channels = 0 then throw .zeroDivisor
  return bytesPerElement * (channels + Int.fdiv elements channels)

def internalBytes (count : Count) (body : Body) (inputs outputs : List Blob) :
    Except Misuse Int :=
  match body with
  | pooling _ window => do poolingBytes count window (← firstBlob outputs)
  | dropout aliased => do
    let masks ← sumOver (blobBytes count) inputs
    let buffers ← sumOver (blobBytes count)
      ((inputs.zip aliased).filterMap (fun p => if p.2 then some p.1 else none))
    return masks + buffers
  | softmax => do softmaxBytes count (← firstBlob inputs)
  | softmaxWithLoss => do
    let src ← firstBlob inputs
    let helper ← softmaxBytes count src
    let probabilities ← blobBytes count src
    let score ← sumOver (blobBytes count) (outputs.drop 1)
    return helper + probabilities + score
  | _ => .ok 0

def overheadBytes (count : Count) (accelerated : Bool) (body : Body) (inputs outputs : List Blob) :
    Except Misuse Int := do
  let workspace ← body.workspaceBytes count accelerated inputs outputs
  return workspace + (← body.internalBytes count inputs outputs)

end Body

namespace Graph

def parameterBytes (g : Graph) (l : Layer) : Except Misuse Int :=
  l.body.parameterBytes (g.inputsOf l) (g.outputsOf l)

def workspaceBytes (g : Graph) (accelerated : Bool) (l : Layer) : Except Misuse Int :=
  l.body.workspaceBytes wrappedProduct accelerated (g.inputsOf l) (g.outputsOf l)

def internalBytes (g : Graph) (l : Layer) : Except Misuse Int :=
  l.body.internalBytes wrappedProduct (g.inputsOf l) (g.outputsOf l)

/-- Bytes that a layer needs besides its parameters and blobs. -/
def overheadBytes (g : Graph) (accelerated : Bool) (l : Layer) : Except Misuse Int :=
  l.body.overheadBytes wrappedProduct accelerated (g.inputsOf l) (g.outputsOf l)

/-- Bytes that a layer needs besides its blobs. -/
def consumption (g : Graph) (accelerated : Bool) (l : Layer) : Except Misuse Int := do
  let parameters ← g.parameterBytes l
  return parameters + (← g.overheadBytes accelerated l)

/-- Bytes for the values of the blobs a layer made. -/
def forwardBytes (g : Graph) (l : Layer) : Except Misuse Int :=
  Body.sumOver Blob.forwardBytes (g.ownedBy l)

/-- Bytes for the gradients of the blobs a layer made. -/
def backwardBytes (g : Graph) (l : Layer) : Except Misuse Int :=
  Body.sumOver Blob.backwardBytes (g.ownedBy l)

def footprint (g : Graph) (accelerated : Bool) (l : Layer) : Except Misuse Footprint := do
  let parameter ← g.parameterBytes l
  let overhead ← g.overheadBytes accelerated l
  let forward ← g.forwardBytes l
  let backward ← g.backwardBytes l
  return { parameter, overhead, forward, backward }

end Graph

end NetFootprint
