import NetFootprint.Layer.Footprint

/-!
# Formulas and extents

The bytes that a layer needs besides its blobs depend on its body and on the extents of the blobs
that it reads and writes, and on nothing else of them.
-/

namespace NetFootprint

/-- A blob of which only the extents are known. -/
def Blob.ofShape (shape : List Nat) : Blob := { (default : Blob) with shape }

namespace Body

variable {inputs outputs inputs' outputs' : List Blob}

/-- What is computed from blobs that tell nothing but their extents is computed from extents. -/
theorem eq_of_shapes {α : Type} (f : List Blob → List Blob → α)
    (hf : ∀ inputs outputs, f (inputs.map fun b => .ofShape b.shape)
      (outputs.map fun b => .ofShape b.shape) = f inputs outputs)
    (hin : inputs'.map Blob.shape = inputs.map Blob.shape)
    (hout : outputs'.map Blob.shape = outputs.map Blob.shape) :
    f inputs' outputs' = f inputs outputs := by
  have hmap (blobs : List Blob) :
      blobs.map (fun b => Blob.ofShape b.shape) = (blobs.map Blob.shape).map .ofShape := by
    rw [List.map_map]
    rfl
  rw [← hf inputs' outputs', ← hf inputs outputs, hmap, hmap, hmap, hmap, hin, hout]

theorem parameterBytes_of_shapes (body : Body)
    (hin : inputs'.map Blob.shape = inputs.map Blob.shape)
    (hout : outputs'.map Blob.shape = outputs.map Blob.shape) :
    body.parameterBytes inputs' outputs' = body.parameterBytes inputs outputs := by
  apply eq_of_shapes body.parameterBytes _ hin hout
  intro inputs outputs
  cases inputs <;> cases outputs <;> cases body <;> rfl

theorem workspaceBytes_of_shapes (count : Count) (accelerated : Bool) (body : Body)
    (hin : inputs'.map Blob.shape = inputs.map Blob.shape)
    (hout : outputs'.map Blob.shape = outputs.map Blob.shape) :
    body.workspaceBytes count accelerated inputs' outputs' =
      body.workspaceBytes count accelerated inputs outputs := by
  apply eq_of_shapes (body.workspaceBytes count accelerated) _ hin hout
  intro inputs outputs
  cases inputs <;> cases outputs <;> cases body <;> rfl

theorem aliased_ofShape (aliased : List Bool) :
    ((inputs.map fun b => Blob.ofShape b.shape).zip aliased).filterMap
        (fun p => if p.2 then some p.1 else none) =
      ((inputs.zip aliased).filterMap (fun p => if p.2 then some p.1 else none)).map
        fun b => .ofShape b.shape := by
  induction inputs generalizing aliased with
  | nil => rfl
  | cons b rest ih =>
    cases aliased with
    | nil => rfl
    | cons first more =>
      cases first with
      | true => exact congrArg (Blob.ofShape b.shape :: ·) (ih more)
      | false => exact ih more

theorem sumOver_ofShape (f : Blob → Except Misuse Int) (blobs : List Blob) :
    sumOver f (blobs.map fun b => .ofShape b.shape) =
      sumOver (fun b => f (.ofShape b.shape)) blobs := by
  rw [sumOver, List.foldlM_map, sumOver]

theorem internalBytes_of_shapes (count : Count) (body : Body)
    (hin : inputs'.map Blob.shape = inputs.map Blob.shape)
    (hout : outputs'.map Blob.shape = outputs.map Blob.shape) :
    body.internalBytes count inputs' outputs' = body.internalBytes count inputs outputs := by
  apply eq_of_shapes (body.internalBytes count) _ hin hout
  intro inputs outputs
  cases body with
  | dropout aliased =>
    simp only [internalBytes, aliased_ofShape, sumOver_ofShape]
    rfl
  | softmaxWithLoss =>
    simp only [internalBytes, ← List.map_drop, sumOver_ofShape]
    cases inputs <;> rfl
  | _ => cases inputs <;> cases outputs <;> rfl

theorem overheadBytes_of_shapes (count : Count) (accelerated : Bool) (body : Body)
    (hin : inputs'.map Blob.shape = inputs.map Blob.shape)
    (hout : outputs'.map Blob.shape = outputs.map Blob.shape) :
    body.overheadBytes count accelerated inputs' outputs' =
      body.overheadBytes count accelerated inputs outputs := by
  rw [overheadBytes, workspaceBytes_of_shapes count accelerated body hin hout,
    internalBytes_of_shapes count body hin hout, overheadBytes]

end Body

end NetFootprint
