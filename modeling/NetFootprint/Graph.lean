import NetFootprint.Layer

/-!
# Graphs

The blobs and layers of a network under construction. A blob keeps its place from the moment it is
made; registering it gives it an id and makes its name known. All other properties of a blob stay
as they are, apart from residency, which can only be raised.
-/

namespace NetFootprint

/-- A network under construction. -/
structure Graph where
  phase : Phase
  /-- The physical size of an element along each spatial axis, once it is known. -/
  elementSize : Option (List Float)
  /-- Every blob that was made, registered or not. -/
  blobs : List Blob
  /-- The places of the registered blobs; the id of a blob is its position in this list. -/
  registered : List Nat
  layers : List Layer
  /-- The ids of the blobs that some layer writes and no later layer reads, in the order of their
  writers. -/
  terminal : List Nat
  /-- How many layers were built, registered or not. -/
  built : Nat

namespace Graph

def empty (phase : Phase) (elementSize : Option (List Float)) : Graph :=
  { phase, elementSize, blobs := [], registered := [], layers := [], terminal := [], built := 0 }

def training (g : Graph) : Bool := g.phase == .train

def spatialRank (g : Graph) : Option Nat := g.elementSize.map List.length

/-- The element size of a blob that is declared with a number of spatial axes. -/
def elementSizeFor (g : Graph) (axes : Int) : List Float :=
  g.elementSize.getD (List.replicate axes.toNat 1.0)

def blob (g : Graph) (ref : Nat) : Blob := g.blobs.getD ref default

def registeredBlobs (g : Graph) : List Blob := g.registered.map g.blob

/-- The place of the registered blob with a name. -/
def find? (g : Graph) (name : Value) : Option Nat :=
  g.registered.find? (fun ref => (g.blob ref).name.equals name)

def contains (g : Graph) (name : Value) : Bool := (g.find? name).isSome

/-- The place of the registered blob with a name that a layer needs. -/
def resolve (g : Graph) (name layer type role : Value) : Except Failure Nat := do
  match g.find? (← name.key) with
  | some ref => return ref
  | none => throw (.fault (.missingBlob name layer type role))

/-- The place of the blob with an id; a negative id counts from the last one. -/
def refOfId (g : Graph) (id : Int) : Except Misuse Nat :=
  match entryAt? g.registered id with
  | some ref => .ok ref
  | none => .error .missingAxis

def findLayer? (g : Graph) (name : String) : Option Layer :=
  g.layers.find? (fun l => l.name == name)

/-- The blobs that some layer writes and no later layer reads. -/
def outputs (g : Graph) : List Blob :=
  g.terminal.filterMap (fun id => g.registered[id]?.map g.blob)

def update (g : Graph) (ref : Nat) (f : Blob → Blob) : Graph :=
  { g with blobs := g.blobs.modify ref f }

/-- Adds a blob that is not registered, and gives its place. -/
def place (g : Graph) (b : Blob) : Nat × Graph :=
  (g.blobs.length, { g with blobs := g.blobs ++ [b] })

/-- Puts the blob at a place on the device. -/
def mark (g : Graph) (ref : Nat) : Graph := g.update ref (fun b => { b with resident := true })

@[simp] theorem length_blobs_update (g : Graph) (ref : Nat) (f : Blob → Blob) :
    (g.update ref f).blobs.length = g.blobs.length := by
  simp [update]

theorem blob_update_self {g : Graph} {ref : Nat} (h : ref < g.blobs.length) (f : Blob → Blob) :
    (g.update ref f).blob ref = f (g.blob ref) := by
  simp [update, blob, List.getD_eq_getElem?_getD, h]

theorem blob_update_of_ne {g : Graph} {ref other : Nat} (h : other ≠ ref) (f : Blob → Blob) :
    (g.update ref f).blob other = g.blob other := by
  simp [update, blob, List.getD_eq_getElem?_getD, Ne.symm h]

@[simp] theorem name_blob_mark (g : Graph) (ref other : Nat) :
    ((g.mark ref).blob other).name = (g.blob other).name := by
  by_cases h : other = ref
  · subst h
    by_cases hl : other < g.blobs.length
    · rw [mark, blob_update_self hl]
    · simp [mark, update, blob, List.getD_eq_getElem?_getD, hl]
  · rw [mark, blob_update_of_ne h]

/-- The inputs of a layer at their positions; an input may be missing. -/
def slotsOf (g : Graph) (l : Layer) : List (Option Blob) := l.inputs.map (·.map g.blob)

def inputsOf (g : Graph) (l : Layer) : List Blob := (g.slotsOf l).filterMap id

def outputsOf (g : Graph) (l : Layer) : List Blob := l.outputs.map g.blob

/-- The blobs a layer made; an input that it writes in place is not among them. -/
def ownedBy (g : Graph) (l : Layer) : List Blob :=
  (g.outputsOf l).filter (fun b => b.producer == some l.producer)

def text (g : Graph) : String :=
  s!"GraphRegistry(layers={g.layers.length}, blobs={g.registered.length}, phase={g.phase.name})"

end Graph

end NetFootprint
