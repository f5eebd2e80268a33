import NetFootprint.Axes
import NetFootprint.Graph

/-!
# Building sites

Where a layer is built: the graph around it, its declaration and the blobs it reads. Reading a
parameter, checking the arity and making a blob are the steps every family is put together from;
none of them changes the graph.
-/

namespace NetFootprint

/-- A layer to be built. -/
structure Site where
  graph : Graph
  declaration : Declaration
  /-- The blobs the layer reads, as they are now; inputs that are missing keep their positions. -/
  inputs : List (Option Blob)

/-- An output of a layer that is being built: a blob of its own, or the input at a position. -/
inductive Output where
  | made (b : Blob)
  | kept (input : Nat)

/-- What a family makes of a site. -/
structure Draft where
  outputs : List Output
  body : Body

/-- A blob to be made. -/
structure Sketch where
  name : Value
  shape : List Int
  /-- Without an element size of its own the blob takes that of the first input. -/
  elementSize : Option (List Float) := none
  resident : Bool := false
  forward : Bool := true
  gradient : Bool := false
  scalar : Bool := false

/-- An input that is used has to be there. -/
def present (b : Option Blob) : Except Misuse Blob :=
  match b with
  | some b => .ok b
  | none => .error .absent

namespace Site

/-- The layer cannot be built as it is declared. -/
def refuse {α : Type} (s : Site) (message parameter : String) : Except Failure α :=
  .error (.fault (s.declaration.fault message parameter))

def rangeWords (least : Nat) : Option Nat → String
  | none => s!"at least {least}"
  | some most => if least = most then toString least else s!"{least} to {most}"

def inRange (n least : Nat) (most : Option Nat) : Bool :=
  decide (least ≤ n) && most.all (fun m => decide (n ≤ m))

def requireInputs (s : Site) (least : Nat) (most : Option Nat) : Except Failure Unit :=
  let n := s.inputs.length
  if inRange n least most then .ok ()
  else s.refuse ("expected " ++ rangeWords least most ++ s!" input(s), got {n}") "inputs"

def requireOutputs (s : Site) (least : Nat) (most : Option Nat) : Except Failure Unit :=
  let n := s.declaration.outputs.length
  if inRange n least most then .ok ()
  else s.refuse s!"unexpected number of outputs ({n})" "outputs"

def source (s : Site) : Except Misuse Blob :=
  match s.inputs with
  | b :: _ => present b
  | [] => .error .missingAxis

def target (s : Site) : Except Misuse Value :=
  match s.declaration.outputs with
  | name :: _ => .ok name
  | [] => .error .missingAxis

/-- A new blob needs a name that no registered blob has. -/
def requireFresh (s : Site) (name : Value) : Except Failure Unit := do
  if s.graph.contains (← name.key) then
    throw (.fault (.duplicateOutput name (.text s.declaration.name) (.text s.declaration.type)))

/-- A whole number parameter. The default stands in for a parameter that is not there, not for one
that is null. -/
def intParam (s : Site) (key : String) (default : Option Nat) (least : Nat) :
    Except Failure Nat := do
  let given : Value := (s.declaration.params.lookup key).getD
    (match default with
     | some n => .int n
     | none => .null)
  match given with
  | .null => s.refuse s!"'{key}' is required" key
  | v =>
    let n ← explain
      (s.declaration.fault (s!"'{key}' must be an integer, got " ++ v.exact) key) v.toInt
    if n < least then s.refuse s!"'{key}' must be >= {least}, got {n}" key
    else return n.toNat

/-- A parameter with a value for each axis. -/
def axisParam (s : Site) (key : String) (axes : Int) (default : Option Nat) (least : Nat) :
    Except Failure (List Nat) := do
  let expanded ← explain (s.declaration.fault s!"'{key}' must be a list of integers" key)
    (Axes.broadcastValue (s.declaration.param key) axes
      (match default with
       | some n => .int n
       | none => .null))
  match expanded with
  | none => s.refuse s!"'{key}' is required" key
  | some values =>
    if values.any (fun v => decide (v < least)) then
      s.refuse (s!"'{key}' must be >= {least}, got " ++ (← Value.exactInts values)) key
    else return values.map Int.toNat

/-- The kernel, pad, stride and dilation parameters for the spatial axes of a blob. -/
def window (s : Site) (src : Blob) : Except Failure Window := do
  let axes := src.spatialRank
  let kernel ← s.axisParam "kernel_size" axes none 1
  let pad ← s.axisParam "pad" axes (some 0) 0
  let stride ← s.axisParam "stride" axes (some 1) 1
  let dilation ← s.axisParam "dilation" axes (some 1) 1
  return { kernel, pad, stride, dilation }

/-- The element size a sketch stands for. -/
def elementSizeOf (s : Site) (k : Sketch) : List Float :=
  match k.elementSize, s.inputs, k.scalar with
  | some size, _, _ => size
  | none, some src :: _, false => src.elementSize
  | none, _, _ => Blob.unitElementSize k.shape.length

/-- The blob a sketch stands for. A gradient is kept only in training. -/
def blobOf (s : Site) (k : Sketch) : Blob where
  name := k.name
  shape := k.shape.map Int.toNat
  elementSize := s.elementSizeOf k
  producer := some ⟨s.graph.built, s.declaration.name⟩
  scalar := .bool k.scalar
  forward := k.forward
  gradient := k.gradient && s.graph.training
  resident := k.resident
  id := none

/-- Makes a blob. Every extent must be positive. -/
def newBlob (s : Site) (k : Sketch) : Except Failure Blob := do
  if k.shape.any (fun e => decide (e ≤ 0)) then
    s.refuse (s!"output blob '{k.name.plain}' would have shape " ++ (← Value.exactInts k.shape))
      "shape"
  return s.blobOf k

end Site

end NetFootprint
