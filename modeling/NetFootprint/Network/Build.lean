import NetFootprint.Log.Logger
import NetFootprint.Network

/-!
# Building networks

A network is built from its declarations in order. Declarations that do not belong to the phase are
left out; the first that is refused ends the building. External inputs become the outputs of a
source in front of all other layers.
-/

namespace NetFootprint

/-- The declared layers of a network: records that are still to be read, or declarations. -/
inductive Layers where
  | records (v : Value)
  | declarations (ds : List Declaration)

/-- What a network is built from. -/
structure Request where
  layers : Layers
  phase : Value
  inputNames : Value
  inputShapes : Value
  elementSize : Value
  label : Value

/-- The name of the source that stands for the external inputs. -/
def inputLayerName : String := "input-00000000"

def Value.size (v : Value) : Except Misuse Nat := do return (← v.members).length

/-- The declaration of the source for the external inputs. Each of them needs a shape. -/
def inputDeclaration (names shapes : Value) : Except Failure Declaration := do
  let nameCount ← names.size
  let shapeCount ← shapes.size
  if nameCount ≠ shapeCount then
    throw (.fault (.invalidParameter
      s!"{nameCount} input name(s) but {shapeCount} shape(s)" .null (.text LayerType.input.tag)
      (.text "input_shapes")))
  let outputs ← names.members
  let rows ← ((← shapes.members).mapM Value.members : Except Misuse (List (List Value)))
  return { type := LayerType.input.tag, name := inputLayerName, inputs := [], outputs
           params := [("shape", .list (rows.map .list))], included := [], excluded := [] }

namespace Layers

def read : Layers → Except Failure (List Declaration)
  | records v => do (← v.members).mapM Declaration.ofValue
  | declarations ds => .ok ds

end Layers

namespace Graph

/-- Appends the layer of a declaration. Its line in the log has to be writable, whether it is
written or not. -/
def extend (g : Graph) (d : Declaration) : Except Failure Graph := do
  let created := g.create d none
  let l ← created.result
  let _ ← created.graph.layerText l
  return created.graph

def extendAll (g : Graph) (ds : List Declaration) : Except Failure Graph := ds.foldlM extend g

end Graph

namespace Request

/-- The declarations of a request, external inputs in front. -/
def declarations (r : Request) : Except Failure (List Declaration) := do
  let declared ← r.layers.read
  if r.inputNames.truthy then
    let shapes := if r.inputShapes.truthy then r.inputShapes else .list []
    return (← inputDeclaration r.inputNames shapes) :: declared
  else return declared

def elementSizes (r : Request) : Except Misuse (Option (List Float)) :=
  match r.elementSize with
  | .null => .ok none
  | v => v.toFloats.map some

/-- The graph a request starts from, and the declarations to be appended to it. -/
def start (r : Request) : Except Failure (Graph × List Declaration) := do
  let phase ← Phase.ofValue r.phase
  let elementSize ← r.elementSizes
  return (Graph.empty phase elementSize, ← r.declarations)

def network (r : Request) : Except Failure Network := do
  let (g, ds) ← r.start
  return ⟨r.label, ← g.extendAll (ds.filter (fun d => d.inPhase g.phase))⟩

/-- The context of an event that concerns a layer. -/
def layerContext (label : Value) (layer : String) : List (String × Value) :=
  [("component", .text "network"), ("network", if label.truthy then label else .null),
    ("layer", .text layer)]

/-- The event of a declaration that is left out. -/
def skipped (label : Value) (phase : Phase) (d : Declaration) : Log.Event :=
  .entry .debug "Layer skipped in phase"
    (layerContext label d.name ++ [("phase", .text phase.name)])

/-- The event of a declaration that is refused. -/
def refused (label : Value) (d : Declaration) (f : Fault) : Log.Event :=
  .entry .error ("Network construction failed: " ++ f.summary)
    (layerContext label d.name ++ [("layer_type", .text d.type)])

/-- The event of a layer that is appended, and its line. -/
def appended (label : Value) (line : String) (l : Layer) : Log.Event :=
  .entry .debug line (layerContext label l.name)

/-- The event of a network that is finished. -/
def finished (label : Value) (g : Graph) : Log.Event :=
  .entry .info "Network built"
    [("component", .text "network"), ("network", if label.truthy then label else .null),
      ("layers", .int g.layers.length), ("blobs", .int g.registered.length),
      ("phase", .text g.phase.name)]

/-- The events of appending declarations to a graph. -/
def eventsFrom (label : Value) : Graph → List Declaration → List Log.Event
  | g, [] => [finished label g]
  | g, d :: ds =>
    if d.inPhase g.phase then
      let created := g.create d none
      match created.result with
      | .ok l =>
        match created.graph.layerText l with
        | .ok line => appended label line l :: eventsFrom label created.graph ds
        | .error _ => []
      | .error (.fault f) => [refused label d f]
      | .error (.misuse _) => []
    else skipped label g.phase d :: eventsFrom label g ds

/-- The events of building the network of a request. -/
def events (r : Request) : List Log.Event :=
  match r.start with
  | .ok (g, ds) => eventsFrom r.label g ds
  | .error _ => []

def build (r : Request) : Log.Logged Network := ⟨r.events, r.network⟩

end Request

end NetFootprint
