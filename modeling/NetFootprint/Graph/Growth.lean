import NetFootprint.Layer.Family

/-!
# Growing a graph

Layers are built against a graph and appended to it. Every check is made before anything is changed,
so a layer that is refused leaves the graph as it was. Only a layer with a missing input, which no
name can stand for, may stop half way.
-/

namespace NetFootprint.Graph

/-- What an operation leaves of a graph, and what it gives. -/
structure Change (α : Type) where
  graph : Graph
  result : Except Failure α

/-- The places of the outputs of a draft, after the blobs made for it are placed. -/
def settle (inputs : List (Option Nat)) : List Output → Graph → List Nat × Graph
  | [], g => ([], g)
  | .kept i :: rest, g =>
    let (refs, g) := settle inputs rest g
    (((inputs.getD i none).getD 0) :: refs, g)
  | .made b :: rest, g =>
    let (ref, g) := g.place b
    let (refs, g) := settle inputs rest g
    (ref :: refs, g)

/-- The layer of a draft, with its blobs placed. -/
def finish (g : Graph) (declaration : Declaration) (inputs : List (Option Nat)) (draft : Draft) :
    Layer × Graph :=
  let (outputs, placed) := settle inputs draft.outputs g
  ({ serial := g.built, declaration, inputs, outputs, body := draft.body },
   { placed with built := g.built + 1 })

def refuse {α : Type} (l : Layer) (message parameter : String) : Except Failure α :=
  .error (.fault (l.declaration.fault message parameter))

def refuseOutput {α : Type} (l : Layer) (name : Value) : Except Failure α :=
  .error (.fault (.duplicateOutput name (.text l.name) (.text l.tag)))

/-- Checks outputs one by one: the places of those to be registered, after the ones found so far,
and the number of spatial axes if it is known by then. -/
def vet (g : Graph) (l : Layer) :
    List Nat → List Nat → Option Int → Except Failure (List Nat × Option Int)
  | [], fresh, rank => .ok (fresh, rank)
  | ref :: rest, fresh, rank =>
    let b := g.blob ref
    match g.find? b.name with
    | some known =>
      if known = ref ∧ l.family.inPlace then vet g l rest fresh rank else refuseOutput l b.name
    | none =>
      if fresh.any (fun other => b.name.equals (g.blob other).name) then refuseOutput l b.name
      else if b.isScalar then vet g l rest (fresh ++ [ref]) rank
      else
        match rank with
        | none => vet g l rest (fresh ++ [ref]) (some b.spatialRank)
        | some n =>
          if b.spatialRank = n then vet g l rest (fresh ++ [ref]) rank
          else
            refuse l (s!"Blob '{b.name.plain}' has {b.spatialRank} spatial dimensions, " ++
              s!"the network has {n}") "shape"

/-- The checks on a layer that is to be appended. Its name must be new; every output must be a new
name or, if the family may work in place, the blob known by that name; and all blobs but scalars
must have one number of spatial axes. -/
def approve (g : Graph) (l : Layer) : Except Failure (List Nat × Option Int) :=
  if g.layers.any (fun other => other.name == l.name) then
    refuse l s!"Layer name '{l.name}' is declared twice" "name"
  else g.vet l l.outputs [] (g.spatialRank.map Int.ofNat)

/-- Fixes the number of spatial axes if it was not known; elements are then units. -/
def withRank (g : Graph) (rank : Option Int) : Graph :=
  match g.elementSize, rank with
  | none, some n => { g with elementSize := some (List.replicate n.toNat 1.0) }
  | _, _ => g

/-- Puts the blobs that a layer reads on the device, if its family needs them there. -/
def marked (g : Graph) (l : Layer) : Graph :=
  if l.family.readsOnDevice then l.leading.foldl mark g else g

/-- Puts the blobs that a layer reads on the device. A missing one ends it. -/
def commit (g : Graph) (l : Layer) : Change Unit where
  graph := g.marked l
  result :=
    if l.family.readsOnDevice && !l.complete then .error (.misuse .absent) else .ok ()

def idsOf (g : Graph) (refs : List Nat) : List Nat := refs.filterMap (fun ref => (g.blob ref).id)

/-- Adds a layer to those of the graph; the blobs that it reads are no longer terminal. -/
def enlist (g : Graph) (l : Layer) : Graph :=
  let reading := g.idsOf l.leading
  { g with
    layers := g.layers ++ [l]
    terminal := g.terminal.filter (fun id => !reading.contains id) }

/-- Registers a blob under the next id. -/
def register (g : Graph) (ref : Nat) : Graph :=
  let named := g.update ref (fun b => { b with id := some g.registered.length })
  { named with registered := g.registered ++ [ref] }

def addId (ids : List Nat) (id : Nat) : List Nat := if ids.contains id then ids else ids ++ [id]

/-- Registers the blobs that are new with a layer; its outputs become terminal. -/
def publish (g : Graph) (l : Layer) (fresh : List Nat) : Graph :=
  let grown := fresh.foldl register g
  { grown with terminal := (grown.idsOf l.outputs).foldl addId grown.terminal }

/-- Takes a checked layer and the blobs that are new with it into the graph. A missing input stops
it where the input is first needed: before the layer is added if its family needs its inputs on the
device, and else before the outputs are registered. -/
def take (g : Graph) (l : Layer) (fresh : List Nat) : Change Unit :=
  let committed := g.commit l
  match committed.result with
  | .error e => ⟨committed.graph, .error e⟩
  | .ok () =>
    if l.complete then ⟨(committed.graph.enlist l).publish l fresh, .ok ()⟩
    else ⟨committed.graph.enlist l, .error (.misuse .absent)⟩

theorem take_of_complete {g : Graph} {l : Layer} (h : l.complete) (fresh : List Nat) :
    g.take l fresh = ⟨((g.marked l).enlist l).publish l fresh, .ok ()⟩ := by
  simp [take, commit, h]

def append (g : Graph) (l : Layer) : Change Unit :=
  match g.approve l with
  | .error e => ⟨g, .error e⟩
  | .ok (fresh, rank) => (g.withRank rank).take l fresh

def resolveInputs (g : Graph) (d : Declaration) : Except Failure (List Nat) :=
  d.inputs.mapM (fun name =>
    g.resolve (.text name) (.text d.name) (.text d.type) (.text "input"))

def familyOf (d : Declaration) : Except Failure LayerType :=
  match LayerType.ofTag? d.type with
  | some t => .ok t.family
  | none => .error (.fault (.unknownTag d.type d.name))

/-- Builds a layer whose inputs are at the given places, or else those that the declaration names.
The layer is not appended. -/
def build (g : Graph) (d : Declaration) (inputs : Option (List (Option Nat))) :
    Except Failure (Layer × Graph) := do
  let family ← familyOf d
  let refs ← match inputs with
    | some refs => pure refs
    | none => do pure ((← g.resolveInputs d).map some)
  let site : Site := { graph := g, declaration := d, inputs := refs.map (·.map g.blob) }
  return g.finish d refs (← site.layer family)

/-- Builds a layer and appends it. -/
def create (g : Graph) (d : Declaration) (inputs : Option (List (Option Nat))) : Change Layer :=
  match g.build d inputs with
  | .error e => ⟨g, .error e⟩
  | .ok (l, built) =>
    match built.approve l with
    | .error e => ⟨g, .error e⟩
    | .ok (fresh, rank) =>
      let taken := (built.withRank rank).take l fresh
      ⟨taken.graph, taken.result.map (fun _ => l)⟩

end NetFootprint.Graph
