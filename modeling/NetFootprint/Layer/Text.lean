import NetFootprint.Layer.Family

/-!
# Layers as text

One line for a layer: its tag and name, the blobs it reads and writes, and what is special about it.
-/

namespace NetFootprint

def axesText (label : String) (values : List Nat) : String :=
  label ++ ": [ " ++ joinWith " " (values.map toString) ++ " ]"

namespace Body

/-- What a layer shows besides its blobs. -/
def parameterText (params : List (String × Value)) : Body → String
  | convolution w _ | deconvolution w _ =>
    joinWith " " [axesText "kernelShape" w.kernel, axesText "pad" w.pad, axesText "stride" w.stride,
      axesText "dilation" w.dilation]
  | pooling method w =>
    joinWith " " ["pool: " ++ method, axesText "kernelShape" w.kernel, axesText "pad" w.pad,
      axesText "stride" w.stride]
  | dropout _ =>
    match (params.lookup "dropout_ratio").getD .null with
    | .null => ""
    | ratio => "ratio: " ++ ratio.plain
  | createDeformation dims => s!"nDims: {dims}"
  | applyDeformation shapeFrom => if shapeFrom = "" then "" else "shapeFrom: " ++ shapeFrom
  | _ => ""

end Body

/-- A part of a line after a blank, or nothing. -/
def afterBlank (part : String) : String := if part = "" then "" else " " ++ part

/-- The text of an input; one that is missing shows as null does. -/
def slotText : Option Blob → Except Misuse String
  | some b => b.text
  | none => .ok Value.null.plain

/-- Blobs behind a label, or nothing if there are none. -/
def blobsText (label : String) (blobs : List (Option Blob)) : Except Misuse String := do
  if blobs.isEmpty then return ""
  else return label ++ ": " ++ joinWith " " (← blobs.mapM slotText)

def layerText (tag name : String) (inputs : List (Option Blob)) (outputs : List Blob)
    (parameters : String) : Except Misuse String := do
  let read ← blobsText "in" inputs
  let written ← blobsText "out" (outputs.map some)
  return tag ++ " " ++ name ++ " \x7b" ++ afterBlank read ++ afterBlank written ++
    afterBlank parameters ++ " \x7d"

namespace Graph

def layerText (g : Graph) (l : Layer) : Except Misuse String :=
  NetFootprint.layerText l.tag l.name (g.slotsOf l) (g.outputsOf l)
    (l.body.parameterText l.declaration.params)

/-- The line for the softmax inside a loss over the given input. -/
def helperText (l : Layer) (src : Blob) : Except Misuse String :=
  NetFootprint.layerText LayerType.softmax.tag (l.name ++ "/softmax") [some src]
    [{ src with name := .text helperOutput }] ""

end Graph

/-- The family and the name of a layer. -/
def Layer.shortText (l : Layer) : String := s!"{l.family.layerName}(name='{l.name}')"

end NetFootprint
