import NetFootprint.Layer.Site

/-!
# Layer families

What each family asks of a declaration and which blobs it makes. A family reads the graph around it
but does not change it, so a declaration that is refused leaves nothing behind. The order of the
checks decides which of several faults is reported.
-/

namespace NetFootprint

def extentsOf (extents : List Nat) : List Int := extents.map Int.ofNat

/-- The name of the output of a helper that no graph registers. -/
def helperOutput : String := "00000000000000000000000000000000"

namespace Site

def sourceShapes (s : Site) : Except Failure (List Value) :=
  match s.declaration.param "shape" with
  | .null => s.refuse "'shape' is required" "shape"
  | .list [] => .ok []
  | .list (.list first :: rest) => .ok (.list first :: rest)
  | .list items => .ok [.list items]
  | v => s.refuse ("'shape' must be a list, got " ++ v.exact) "shape"

/-- Makes an output of a source from its declared shape. -/
def sourceBlob (s : Site) (top shape : Value) : Except Failure Output := do
  let extents ← explain
    (s.declaration.fault
      (s!"shape of '{top.plain}' must be a list of integers, got " ++ shape.exact) "shape")
    shape.toInts
  if extents.length < 2 then
    s.refuse (s!"shape of '{top.plain}' needs sample and channel axes, got " ++
      (← Value.exactInts extents)) "shape"
  s.requireFresh top
  return .made (← s.newBlob
    { name := top, shape := extents
      elementSize := some (s.graph.elementSizeFor ((extents.length : Int) - 2)) })

/-- A source reads nothing; its outputs have the declared shapes. -/
def sourceLayer (s : Site) : Except Failure Draft := do
  s.requireInputs 0 (some 0)
  s.requireOutputs 1 none
  let shapes ← s.sourceShapes
  let tops := s.declaration.outputs
  if shapes.length ≠ tops.length then
    s.refuse s!"{tops.length} output(s) but {shapes.length} shape(s) declared" "shape"
  let outputs ← (tops.zip shapes).mapM (fun p => s.sourceBlob p.1 p.2)
  return ⟨outputs, .source⟩

/-- The extent that a convolution leaves of an axis; the window must reach the end exactly. -/
def convolvedExtent (s : Site) (src : Blob) (w : Window) (extent d : Nat) :
    Except Failure Int := do
  let a ← w.axis d
  if a.slack extent ≤ 0 then
    s.refuse s!"convolution would reduce axis {d} of '{src.name.plain}' to zero" "kernel_size"
  if Int.fmod (a.slack extent) a.stride ≠ 0 then
    s.refuse s!"stride {a.stride} does not divide axis {d} of '{src.name.plain}' evenly" "stride"
  return a.convolved extent

/-- Element sizes grow by the strides. -/
def stretched (sizes : List Float) (strides : List Nat) : Except Misuse (List Float) :=
  (sizes.zip strides).mapM fun p => do return p.1 * (← Double.ofWhole p.2)

/-- Element sizes shrink by the strides. -/
def compressed (sizes : List Float) (strides : List Nat) : Except Misuse (List Float) :=
  (sizes.zip strides).mapM fun p => do return p.1 / (← Double.ofWhole p.2)

/-- A convolution moves its window over every axis. -/
def convolutionLayer (s : Site) : Except Failure Draft := do
  s.requireInputs 1 (some 1)
  s.requireOutputs 1 (some 1)
  let src ← s.source
  let window ← s.window src
  let numOutput ← s.intParam "num_output" none 1
  let top ← s.target
  s.requireFresh top
  let samples ← src.samples
  let spatial ← src.spatial.zipIdx.mapM (fun p => s.convolvedExtent src window p.1 p.2)
  let elementSize ← stretched src.elementSize window.stride
  let blob ← s.newBlob
    { name := top, shape := extentsOf [samples, numOutput] ++ spatial
      elementSize := some elementSize, resident := true, gradient := true }
  return ⟨[.made blob], .convolution window numOutput⟩

def upConvolvedExtent (s : Site) (src : Blob) (w : Window) (extent d : Nat) :
    Except Failure Int := do
  let a ← w.axis d
  if a.upConvolved extent ≤ 0 then
    s.refuse s!"up-convolution would reduce axis {d} of '{src.name.plain}' to zero" "pad"
  return a.upConvolved extent

def upConvolvedBlob (s : Site) (w : Window) (numOutput : Nat) (input : Option Blob) (top : Value) :
    Except Failure Output := do
  s.requireFresh top
  let src ← present input
  let samples ← src.samples
  let spatial ← src.spatial.zipIdx.mapM (fun p => s.upConvolvedExtent src w p.1 p.2)
  let elementSize ← compressed src.elementSize w.stride
  return .made (← s.newBlob
    { name := top, shape := extentsOf [samples, numOutput] ++ spatial
      elementSize := some elementSize, resident := true, gradient := true })

/-- An up-convolution moves the window of its first input over each input that has an output. -/
def deconvolutionLayer (s : Site) : Except Failure Draft := do
  s.requireInputs 1 none
  s.requireOutputs 1 (some s.inputs.length)
  let src ← s.source
  let window ← s.window src
  let numOutput ← s.intParam "num_output" none 1
  let outputs ← (s.inputs.zip s.declaration.outputs).mapM
    (fun p => s.upConvolvedBlob window numOutput p.1 p.2)
  return ⟨outputs, .deconvolution window numOutput⟩

/-- The window of a pooling: declared, or all of the input at once. -/
def poolingWindow (s : Site) (src : Blob) : Except Failure Window := do
  if (s.declaration.param "global_pooling").truthy then return Window.covering src.spatial
  else
    let axes := src.spatialRank
    let kernel ← s.axisParam "kernel_size" axes none 1
    let pad ← s.axisParam "pad" axes (some 0) 0
    let stride ← s.axisParam "stride" axes (some 1) 1
    return { kernel, pad, stride, dilation := stride.map fun _ => 1 }

/-- Drops a last pooling window that starts in the padding; no second one may do so. -/
def poolingTrimmed (s : Site) (w : Window) (extent : Nat) (windows : Int) (d : Nat) :
    Except Failure Int := do
  let a ← w.axis d
  let kept := a.trimmed extent windows
  if a.startsInPadding extent kept then
    s.refuse s!"last pooling window of axis {d} starts in the padding" "pad"
  return kept

/-- The extents that a pooling leaves, before it is checked that anything is left. -/
def poolingWindows (s : Site) (src : Blob) (w : Window) : Except Failure (List Int) := do
  let raw ← src.spatial.zipIdx.mapM (fun p => do return (← w.axis p.2).pooled p.1)
  if w.pad.any (· ≠ 0) then
    (src.spatial.zip raw).zipIdx.mapM (fun p => s.poolingTrimmed w p.1.1 p.1.2 p.2)
  else return raw

/-- The first axis of which nothing is left, counted from the given axis on. -/
def firstEmpty (d : Nat) : List Int → Option Nat
  | [] => none
  | e :: rest => if e ≤ 0 then some d else firstEmpty (d + 1) rest

/-- The method of a pooling in upper case. -/
def poolingMethod (s : Site) : String :=
  Text.upper ((s.declaration.params.lookup "pool").getD (.text "MAX")).plain

/-- A pooling reduces every window to one element. -/
def poolingLayer (s : Site) : Except Failure Draft := do
  s.requireInputs 1 (some 1)
  s.requireOutputs 1 (some 1)
  let src ← s.source
  let window ← s.poolingWindow src
  let top ← s.target
  s.requireFresh top
  let spatial ← s.poolingWindows src window
  match firstEmpty 0 spatial with
  | some d => s.refuse s!"pooling would reduce axis {d} of '{src.name.plain}' to zero" "kernel_size"
  | none => pure ()
  let elementSize ← stretched src.elementSize window.stride
  let samples ← src.samples
  let channels ← src.channels
  let blob ← s.newBlob
    { name := top, shape := extentsOf [samples, channels] ++ spatial
      elementSize := some elementSize, resident := true, gradient := src.gradient }
  return ⟨[.made blob], .pooling s.poolingMethod window⟩

def smallestExtent (axis : Nat) (first : Blob) (others : List Blob) : Except Misuse Nat := do
  let start ← first.extent axis
  others.foldlM (fun least b => do return min least (← b.extent axis)) start

/-- A further input of a concatenation has as many spatial axes as the first. -/
def concatenated (s : Site) (first : Blob) (input : Option Blob) : Except Failure Blob := do
  let b ← present input
  if b.spatialRank ≠ first.spatialRank then
    s.refuse s!"'{b.name.plain}' and '{first.name.plain}' differ in spatial rank" "inputs"
  return b

/-- A concatenation adds up the channels and crops every other axis to the smallest input. -/
def concatLayer (s : Site) : Except Failure Draft := do
  s.requireInputs 1 none
  s.requireOutputs 1 (some 1)
  let top ← s.target
  s.requireFresh top
  let first ← s.source
  let others ← (s.inputs.drop 1).mapM (s.concatenated first)
  let channels ← ((first :: others).mapM Blob.channels : Except Misuse (List Nat))
  let spatial ← ((List.range (first.shape.length - 2)).mapM
    (fun d => smallestExtent (d + 2) first others) : Except Misuse (List Nat))
  let samples ← first.samples
  let blob ← s.newBlob
    { name := top, shape := extentsOf (samples :: channels.foldl (· + ·) 0 :: spatial)
      resident := true, gradient := (first :: others).any (·.gradient) }
  return ⟨[.made blob], .concat⟩

/-- A layer on values leaves everything about its input as it is. -/
def valueLayer (s : Site) (body : Body) : Except Failure Draft := do
  s.requireInputs 1 (some 1)
  s.requireOutputs 1 (some 1)
  let top ← s.target
  s.requireFresh top
  let src ← s.source
  let blob ← s.newBlob
    { name := top, shape := extentsOf src.shape, resident := src.resident
      forward := src.forward, gradient := src.gradient }
  return ⟨[.made blob], body⟩

/-- The output of an elementwise layer: the input itself if it has its name, else a blob like
it. -/
def elementwiseOutput (s : Site) (input : Option Blob) (top : Value) (i : Nat) :
    Except Failure Output := do
  let src ← present input
  if top.equals src.name then return .kept i
  else
    s.requireFresh top
    return .made (← s.newBlob
      { name := top, shape := extentsOf src.shape, resident := true, gradient := src.gradient })

/-- Whether an output is an input itself. -/
def isAlias : Output → Bool
  | .kept _ => true
  | .made _ => false

/-- An elementwise layer has an output for each input and may work in place. -/
def elementwiseLayer (s : Site) (body : List Bool → Body) : Except Failure Draft := do
  s.requireInputs 1 none
  s.requireOutputs s.inputs.length (some s.inputs.length)
  let outputs ← (s.inputs.zip s.declaration.outputs).zipIdx.mapM
    (fun p => s.elementwiseOutput p.1.1 p.1.2 p.2)
  return ⟨outputs, body (outputs.map isAlias)⟩

/-- A softmax over the channels has the shape of its input. -/
def softmaxLayer (s : Site) : Except Failure Draft := do
  s.requireInputs 1 (some 1)
  s.requireOutputs 1 (some 1)
  let top ← s.target
  s.requireFresh top
  let src ← s.source
  let blob ← s.newBlob
    { name := top, shape := extentsOf src.shape, resident := true, gradient := src.gradient }
  return ⟨[.made blob], .softmax⟩

/-- The softmax that a loss computes for itself. -/
def helperSite (s : Site) (src : Blob) : Site :=
  { graph := s.graph
    declaration :=
      { type := LayerType.softmax.tag, name := s.declaration.name ++ "/softmax"
        inputs := [src.name.plain], outputs := [.text helperOutput], params := [], included := []
        excluded := [] }
    inputs := [some src] }

/-- A loss over a softmax makes a scalar and, if it is asked for, the scores. -/
def lossLayer (s : Site) : Except Failure Draft := do
  s.requireInputs 1 none
  s.requireOutputs 1 (some 2)
  let src ← s.source
  let _ ← (s.helperSite src).softmaxLayer
  let top ← s.target
  s.requireFresh top
  let loss ← s.newBlob
    { name := top, shape := [1], resident := true, gradient := true, scalar := true }
  match s.declaration.outputs.drop 1 with
  | [] => return ⟨[.made loss], .softmaxWithLoss⟩
  | scoreTop :: _ =>
    s.requireFresh scoreTop
    let score ← s.newBlob { name := scoreTop, shape := extentsOf src.shape, resident := true }
    return ⟨[.made loss, .made score], .softmaxWithLoss⟩

/-- The number of samples of a deformation field: that of its input, or declared. -/
def fieldSamples (s : Site) : Except Failure Nat :=
  match s.inputs with
  | input :: _ => do (← present input).samples
  | [] => s.intParam "batch_size" (some 1) 1

/-- A deformation field has two or three spatial axes behind its samples, and its components
last. -/
def createDeformationLayer (s : Site) : Except Failure Draft := do
  s.requireInputs 0 (some 1)
  s.requireOutputs 1 (some 1)
  let nz ← s.intParam "nz" (some 0) 0
  let ny ← s.intParam "ny" none 1
  let nx ← s.intParam "nx" none 1
  let dims := if 0 < nz then 3 else 2
  let components ← s.intParam "ncomponents" (some dims) 1
  let samples ← s.fieldSamples
  let sizes := if 0 < nz then [nz, ny, nx] else [ny, nx]
  let top ← s.target
  s.requireFresh top
  let blob ← s.newBlob
    { name := top, shape := extentsOf (samples :: sizes ++ [components])
      elementSize := some (s.graph.elementSizeFor dims) }
  return ⟨[.made blob], .createDeformation dims⟩

/-- The name of the blob whose extents a deformed blob takes; empty for those of the field. -/
def shapeSource (s : Site) : String :=
  let v := s.declaration.param "output_shape_from"
  if v.truthy then v.plain else ""

def deformedExtents (s : Site) (shapeFrom : String) (axes : Int) : Except Failure (List Nat) := do
  if shapeFrom = "" then
    match s.inputs.drop 1 with
    | field :: _ => return sliced (← present field).shape 1 (1 + axes)
    | [] => throw (.misuse .missingAxis)
  else
    let ref ← s.graph.resolve (.text shapeFrom) (.text s.declaration.name)
      (.text s.declaration.type) (.text "shape source")
    return (s.graph.blob ref).spatial

/-- A deformed blob has the extents of the field, or of another blob. -/
def applyDeformationLayer (s : Site) : Except Failure Draft := do
  let shapeFrom := s.shapeSource
  s.requireInputs (if shapeFrom = "" then 2 else 1) none
  s.requireOutputs 1 (some 1)
  let src ← s.source
  let spatial ← s.deformedExtents shapeFrom src.spatialRank
  if (spatial.length : Int) ≠ src.spatialRank then
    throw (.fault (Fault.shapeMismatch (← Value.exactIntTuple (extentsOf src.spatial))
      (← Value.exactIntTuple (extentsOf spatial)) (.text "output_shape_from")
      (.text s.declaration.name) (.text s.declaration.type)))
  let top ← s.target
  s.requireFresh top
  let samples ← src.samples
  let channels ← src.channels
  let blob ← s.newBlob { name := top, shape := extentsOf (samples :: channels :: spatial) }
  return ⟨[.made blob], .applyDeformation shapeFrom⟩

def layer (s : Site) (t : LayerType) : Except Failure Draft :=
  match t with
  | .input | .data | .hdf5Data => s.sourceLayer
  | .convolution => s.convolutionLayer
  | .deconvolution => s.deconvolutionLayer
  | .pooling => s.poolingLayer
  | .concat => s.concatLayer
  | .relu => s.elementwiseLayer .relu
  | .dropout => s.elementwiseLayer .dropout
  | .valueTransformation => s.valueLayer .valueTransformation
  | .valueAugmentation => s.valueLayer .valueAugmentation
  | .createDeformation => s.createDeformationLayer
  | .applyDeformation => s.applyDeformationLayer
  | .softmax => s.softmaxLayer
  | .softmaxWithLoss => s.lossLayer

end Site

end NetFootprint
