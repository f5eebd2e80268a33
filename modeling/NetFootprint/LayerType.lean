/-!
# Layer types

The closed set of tags a declaration may carry. Three tags stand for the same family of source
layers; every other tag is a family of its own.
-/

namespace NetFootprint

/-- A tag of a layer declaration. -/
inductive LayerType where
  | input
  | data
  | hdf5Data
  | convolution
  | deconvolution
  | pooling
  | concat
  | relu
  | dropout
  | valueTransformation
  | valueAugmentation
  | createDeformation
  | applyDeformation
  | softmax
  | softmaxWithLoss
  deriving DecidableEq, Repr

namespace LayerType

/-- All tags, in the order in which they are listed. -/
def all : List LayerType :=
  [input, data, hdf5Data, convolution, deconvolution, pooling, concat, relu, dropout,
   valueTransformation, valueAugmentation, createDeformation, applyDeformation, softmax,
   softmaxWithLoss]

def tag : LayerType → String
  | input => "Input"
  | data => "Data"
  | hdf5Data => "HDF5Data"
  | convolution => "Convolution"
  | deconvolution => "Deconvolution"
  | pooling => "Pooling"
  | concat => "Concat"
  | relu => "ReLU"
  | dropout => "Dropout"
  | valueTransformation => "ValueTransformation"
  | valueAugmentation => "ValueAugmentation"
  | createDeformation => "CreateDeformation"
  | applyDeformation => "ApplyDeformation"
  | softmax => "Softmax"
  | softmaxWithLoss => "SoftmaxWithLoss"

def ofTag? (s : String) : Option LayerType := all.find? (fun t => t.tag == s)

@[simp] theorem ofTag?_tag (t : LayerType) : ofTag? t.tag = some t := by
  cases t <;> rfl

theorem tag_of_ofTag? {s : String} {t : LayerType} (h : ofTag? s = some t) : t.tag = s := by
  simpa using List.find?_some h

def tags : List String := (all.map tag).mergeSort (fun a b => decide (a ≤ b))

/-- The type that names the family a tag belongs to. -/
def family : LayerType → LayerType
  | input | hdf5Data => data
  | t => t

@[simp] theorem family_family (t : LayerType) : t.family.family = t.family := by
  cases t <;> rfl

/-- The name under which layers of a family show themselves. -/
def layerName (t : LayerType) : String :=
  match t.family with
  | deconvolution => "UpConvolutionLayer"
  | concat => "ConcatAndCropLayer"
  | f => f.tag ++ "Layer"

end LayerType

end NetFootprint
