import NetFootprint.Blob
import NetFootprint.Declaration
import NetFootprint.LayerType
import NetFootprint.Window

/-!
# Layers

A built layer: its declaration, the places of the blobs it reads and writes, and what its family
settled while building it. Nothing about a layer changes afterwards.
-/

namespace NetFootprint

/-- What a family settled about a layer. -/
inductive Body where
  | source
  | convolution (window : Window) (numOutput : Nat)
  | deconvolution (window : Window) (numOutput : Nat)
  | pooling (method : String) (window : Window)
  | concat
  /-- Tells of each output whether it is its input itself. -/
  | relu (aliased : List Bool)
  /-- Tells of each output whether it is its input itself. -/
  | dropout (aliased : List Bool)
  | valueTransformation
  | valueAugmentation
  | createDeformation (dims : Nat)
  | applyDeformation (shapeFrom : String)
  | softmax
  | softmaxWithLoss
  deriving DecidableEq, Repr

namespace Body

def family : Body → LayerType
  | source => .data
  | convolution .. => .convolution
  | deconvolution .. => .deconvolution
  | pooling .. => .pooling
  | concat => .concat
  | relu _ => .relu
  | dropout _ => .dropout
  | valueTransformation => .valueTransformation
  | valueAugmentation => .valueAugmentation
  | createDeformation _ => .createDeformation
  | applyDeformation _ => .applyDeformation
  | softmax => .softmax
  | softmaxWithLoss => .softmaxWithLoss

end Body

/-- Whether layers of a family need their inputs on the device. -/
def LayerType.readsOnDevice : LayerType → Bool
  | .convolution | .deconvolution | .pooling | .concat | .relu | .dropout | .softmax
  | .softmaxWithLoss => true
  | _ => false

/-- Whether a layer of a family may write to the blob it reads. -/
def LayerType.inPlace : LayerType → Bool
  | .relu | .dropout => true
  | _ => false

/-- A built layer. Blobs are given by their places among all blobs of the graph. -/
structure Layer where
  /-- The number of layers built before it. -/
  serial : Nat
  declaration : Declaration
  /-- Inputs that are missing keep their positions. -/
  inputs : List (Option Nat)
  outputs : List Nat
  body : Body

namespace Layer

def name (l : Layer) : String := l.declaration.name

/-- The tag the layer was declared with. -/
def tag (l : Layer) : String := l.declaration.type

def family (l : Layer) : LayerType := l.body.family

/-- The layer as the maker of a blob. -/
def producer (l : Layer) : Producer := ⟨l.serial, l.name⟩

/-- The places of the inputs in front of the first missing one. -/
def leading (l : Layer) : List Nat := (l.inputs.takeWhile Option.isSome).filterMap id

def complete (l : Layer) : Bool := l.inputs.all Option.isSome

theorem leading_of_places {l : Layer} {refs : List Nat} (h : l.inputs = refs.map some) :
    l.leading = refs := by
  rw [leading, h]
  clear h
  induction refs with
  | nil => rfl
  | cons ref rest ih => simpa [List.takeWhile] using ih

end Layer

end NetFootprint
