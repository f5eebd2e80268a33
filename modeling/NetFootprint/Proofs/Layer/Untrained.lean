import Mathlib.Data.List.Find
import NetFootprint.Layer.Family
import NetFootprint.Proofs.Outcome

/-!
# Building for testing

A graph without its gradients is the graph of a network for testing. No family looks at the phase,
and none looks at a gradient but to hand it on. So what a family makes of a site without gradients
is what it makes of the site itself, without gradients, and it fails there as it fails here.
-/

namespace NetFootprint

def Blob.untrained (b : Blob) : Blob := { b with gradient := false }

/-- The graph of the same layers in a network for testing. -/
def Graph.untrained (g : Graph) : Graph :=
  { g with phase := .test, blobs := g.blobs.map Blob.untrained }

def Site.untrained (s : Site) : Site :=
  { s with graph := s.graph.untrained, inputs := s.inputs.map (·.map Blob.untrained) }

def Output.untrained : Output → Output
  | .made b => .made b.untrained
  | .kept i => .kept i

def Draft.untrained (d : Draft) : Draft := { d with outputs := d.outputs.map Output.untrained }

namespace Graph

variable {g : Graph}

theorem blob_untrained (g : Graph) (ref : Nat) : g.untrained.blob ref = (g.blob ref).untrained := by
  simp only [blob, untrained, List.getD_eq_getElem?_getD, List.getElem?_map]
  cases g.blobs[ref]? <;> rfl

@[simp] theorem find?_untrained (g : Graph) (name : Value) :
    g.untrained.find? name = g.find? name :=
  List.find?_congr fun ref _ => by rw [blob_untrained]; rfl

@[simp] theorem contains_untrained (g : Graph) (name : Value) :
    g.untrained.contains name = g.contains name := by
  rw [contains, find?_untrained, contains]

@[simp] theorem resolve_untrained (g : Graph) (name layer type role : Value) :
    g.untrained.resolve name layer type role = g.resolve name layer type role := by
  simp only [resolve, find?_untrained]

end Graph

namespace Site

variable {s : Site}

/-! ## Checks -/

@[simp] theorem requireInputs_untrained (least : Nat) (most : Option Nat) :
    s.untrained.requireInputs least most = s.requireInputs least most := by
  simp only [requireInputs, untrained, List.length_map]
  rfl

@[simp] theorem requireFresh_untrained (name : Value) :
    s.untrained.requireFresh name = s.requireFresh name := by
  simp only [requireFresh, untrained, Graph.contains_untrained]

theorem present_untrained (input : Option Blob) :
    Mirrors Blob.untrained (present input) (present (input.map Blob.untrained)) := by
  cases input <;> rfl

theorem source_untrained : Mirrors Blob.untrained s.source s.untrained.source := by
  unfold source untrained
  cases s.inputs with
  | nil => exact .error _
  | cons input rest => exact present_untrained input

theorem elementSizeOf_untrained (k : Sketch) :
    s.untrained.elementSizeOf k = s.elementSizeOf k := by
  unfold elementSizeOf untrained
  cases k.elementSize with
  | some size => rfl
  | none =>
    rcases s.inputs with _ | ⟨_ | src, rest⟩
    · rfl
    · rfl
    · cases k.scalar <;> rfl

theorem newBlob_untrained (k : Sketch) (gradient : Bool) :
    Mirrors Blob.untrained (s.newBlob k) (s.untrained.newBlob { k with gradient }) := by
  have hsize : s.untrained.elementSizeOf { k with gradient } = s.elementSizeOf k :=
    elementSizeOf_untrained k
  have hgradient : (gradient && s.untrained.graph.training) = false := Bool.and_false gradient
  have hblob : s.untrained.blobOf { k with gradient } = (s.blobOf k).untrained := by
    rw [blobOf, hsize, hgradient]
    rfl
  refine .ite (fun _ => .step rfl fun text _ => .step rfl fun _ _ => ?_) fun _ => ?_
  · exact congrArg Except.ok hblob
  · exact congrArg Except.ok hblob

/-! ## Families -/

theorem sourceBlob_untrained (top shape : Value) :
    Mirrors Output.untrained (s.sourceBlob top shape) (s.untrained.sourceBlob top shape) := by
  refine .step rfl fun extents _ => .ite (fun _ => ?_) fun _ => ?_
  · refine .step rfl fun text _ => .step rfl fun _ h => ?_
    cases h
  · refine .step (requireFresh_untrained top) fun _ _ => ?_
    exact .bind (newBlob_untrained _ false) fun b _ => .ok (Output.made b)

theorem sourceLayer_untrained :
    Mirrors Draft.untrained s.sourceLayer s.untrained.sourceLayer := by
  refine .step (requireInputs_untrained _ _) fun _ _ => .step rfl fun _ _ => ?_
  refine .step rfl fun shapes _ => .ite (fun _ => .step rfl fun _ h => ?_) fun _ => ?_
  · cases h
  · have houtputs : Mirrors (List.map Output.untrained)
        ((s.declaration.outputs.zip shapes).mapM fun p => s.sourceBlob p.1 p.2)
        ((s.declaration.outputs.zip shapes).mapM fun p => s.untrained.sourceBlob p.1 p.2) :=
      .mapM_same fun p _ => sourceBlob_untrained p.1 p.2
    exact .bind houtputs fun outputs _ => .ok (Draft.mk outputs .source)

theorem convolutionLayer_untrained :
    Mirrors Draft.untrained s.convolutionLayer s.untrained.convolutionLayer := by
  refine .step (requireInputs_untrained _ _) fun _ _ => .step rfl fun _ _ => ?_
  refine .bind (.lift source_untrained) fun src _ => .step rfl fun w _ => ?_
  refine .step rfl fun numOutput _ => .step rfl fun top _ => ?_
  refine .step (requireFresh_untrained top) fun _ _ => .step rfl fun samples _ => ?_
  refine .step rfl fun spatial _ => .step rfl fun size _ => ?_
  exact .bind (newBlob_untrained _ true) fun b _ => .ok (Draft.mk [.made b] _)

theorem upConvolvedBlob_untrained (w : Window) (numOutput : Nat) (input : Option Blob)
    (top : Value) :
    Mirrors Output.untrained (s.upConvolvedBlob w numOutput input top)
      (s.untrained.upConvolvedBlob w numOutput (input.map Blob.untrained) top) := by
  refine .step (requireFresh_untrained top) fun _ _ => ?_
  refine .bind (.lift (present_untrained input)) fun src _ => .step rfl fun samples _ => ?_
  refine .step rfl fun spatial _ => .step rfl fun size _ => ?_
  exact .bind (newBlob_untrained _ true) fun b _ => .ok (Output.made b)

theorem inputs_untrained {f : Option Blob → Value → Except Failure Output}
    {g : Option Blob → Value → Except Failure Output}
    (h : ∀ input top, Mirrors Output.untrained (f input top) (g (input.map Blob.untrained) top)) :
    Mirrors (List.map Output.untrained)
      ((s.inputs.zip s.declaration.outputs).mapM fun p => f p.1 p.2)
      ((s.untrained.inputs.zip s.untrained.declaration.outputs).mapM fun p => g p.1 p.2) := by
  have hzip : s.untrained.inputs.zip s.untrained.declaration.outputs =
      (s.inputs.zip s.declaration.outputs).map (Prod.map (Option.map Blob.untrained) id) := by
    rw [untrained, ← List.zip_map, List.map_id]
  rw [hzip]
  exact .mapM fun p _ => h p.1 p.2

theorem deconvolutionLayer_untrained :
    Mirrors Draft.untrained s.deconvolutionLayer s.untrained.deconvolutionLayer := by
  have houtputs : s.untrained.requireOutputs 1 (some s.untrained.inputs.length) =
      s.requireOutputs 1 (some s.inputs.length) := by
    rw [untrained, List.length_map]
    rfl
  refine .step (requireInputs_untrained _ _) fun _ _ => .step houtputs fun _ _ => ?_
  refine .bind (.lift source_untrained) fun src _ => .step rfl fun w _ => ?_
  refine .step rfl fun numOutput _ => ?_
  exact .bind (inputs_untrained (upConvolvedBlob_untrained w numOutput)) fun outputs _ =>
    .ok (Draft.mk outputs _)

theorem poolingLayer_untrained :
    Mirrors Draft.untrained s.poolingLayer s.untrained.poolingLayer := by
  refine .step (requireInputs_untrained _ _) fun _ _ => .step rfl fun _ _ => ?_
  refine .bind (.lift source_untrained) fun src _ => .step rfl fun w _ => ?_
  refine .step rfl fun top _ => .step (requireFresh_untrained top) fun _ _ => ?_
  refine .step rfl fun spatial _ => ?_
  cases firstEmpty 0 spatial with
  | some d => exact .error _
  | none =>
    refine .step rfl fun size _ => .step rfl fun samples _ => .step rfl fun channels _ => ?_
    exact .bind (newBlob_untrained _ false) fun b _ => .ok (Draft.mk [.made b] _)

theorem smallestExtent_untrained (axis : Nat) (first : Blob) (others : List Blob) :
    smallestExtent axis first.untrained (others.map Blob.untrained) =
      smallestExtent axis first others := by
  simp only [smallestExtent, List.foldlM_map]
  rfl

theorem channels_untrained (blobs : List Blob) :
    (blobs.map Blob.untrained).mapM Blob.channels = blobs.mapM Blob.channels := by
  rw [List.mapM_map]
  rfl

theorem concatLayer_untrained :
    Mirrors Draft.untrained s.concatLayer s.untrained.concatLayer := by
  refine .step (requireInputs_untrained _ _) fun _ _ => .step rfl fun _ _ => ?_
  refine .step rfl fun top _ => .step (requireFresh_untrained top) fun _ _ => ?_
  refine .bind (.lift source_untrained) fun first _ => ?_
  have hrest : s.untrained.inputs.drop 1 = (s.inputs.drop 1).map (Option.map Blob.untrained) := by
    rw [untrained, List.map_drop]
  have hothers : Mirrors (List.map Blob.untrained)
      ((s.inputs.drop 1).mapM (s.concatenated first))
      ((s.untrained.inputs.drop 1).mapM (s.untrained.concatenated first.untrained)) := by
    rw [hrest]
    refine .mapM fun input _ => .bind (.lift (present_untrained input)) fun b _ => ?_
    refine .ite (fun _ => .step rfl fun _ h => ?_) fun _ => .ok b
    cases h
  refine .bind hothers fun others _ => ?_
  refine .step (congrArg _ (channels_untrained (first :: others))) fun channels _ => ?_
  refine .step ?_ fun spatial _ => .step rfl fun samples _ => ?_
  · simp only [smallestExtent_untrained]
    rfl
  · exact .bind (newBlob_untrained _ _) fun b _ => .ok (Draft.mk [.made b] _)

theorem valueLayer_untrained (body : Body) :
    Mirrors Draft.untrained (s.valueLayer body) (s.untrained.valueLayer body) := by
  refine .step (requireInputs_untrained _ _) fun _ _ => .step rfl fun _ _ => ?_
  refine .step rfl fun top _ => .step (requireFresh_untrained top) fun _ _ => ?_
  refine .bind (.lift source_untrained) fun src _ => ?_
  exact .bind (newBlob_untrained _ false) fun b _ => .ok (Draft.mk [.made b] _)

theorem elementwiseOutput_untrained (input : Option Blob) (top : Value) (i : Nat) :
    Mirrors Output.untrained (s.elementwiseOutput input top i)
      (s.untrained.elementwiseOutput (input.map Blob.untrained) top i) := by
  refine .bind (.lift (present_untrained input)) fun src _ => ?_
  refine .ite (fun _ => .ok (Output.kept i)) fun _ => ?_
  refine .step (requireFresh_untrained top) fun _ _ => ?_
  exact .bind (newBlob_untrained _ false) fun b _ => .ok (Output.made b)

theorem isAlias_untrained (outputs : List Output) :
    (outputs.map Output.untrained).map isAlias = outputs.map isAlias := by
  rw [List.map_map]
  refine List.map_congr_left fun o _ => ?_
  cases o <;> rfl

theorem elementwiseLayer_untrained (body : List Bool → Body) :
    Mirrors Draft.untrained (s.elementwiseLayer body) (s.untrained.elementwiseLayer body) := by
  have houtputs : s.untrained.requireOutputs s.untrained.inputs.length
      (some s.untrained.inputs.length) =
        s.requireOutputs s.inputs.length (some s.inputs.length) := by
    rw [untrained, List.length_map]
    rfl
  have hzip : (s.untrained.inputs.zip s.untrained.declaration.outputs).zipIdx =
      (s.inputs.zip s.declaration.outputs).zipIdx.map
        (Prod.map (Prod.map (Option.map Blob.untrained) id) id) := by
    rw [untrained, ← List.zipIdx_map, ← List.zip_map, List.map_id]
  refine .step (requireInputs_untrained _ _) fun _ _ => .step houtputs fun _ _ => ?_
  have hmade : Mirrors (List.map Output.untrained)
      ((s.inputs.zip s.declaration.outputs).zipIdx.mapM
        fun p => s.elementwiseOutput p.1.1 p.1.2 p.2)
      ((s.untrained.inputs.zip s.untrained.declaration.outputs).zipIdx.mapM
        fun p => s.untrained.elementwiseOutput p.1.1 p.1.2 p.2) := by
    rw [hzip]
    exact .mapM fun p _ => elementwiseOutput_untrained p.1.1 p.1.2 p.2
  refine .bind hmade fun outputs _ => ?_
  rw [isAlias_untrained]
  exact .ok (Draft.mk outputs _)

theorem softmaxLayer_untrained :
    Mirrors Draft.untrained s.softmaxLayer s.untrained.softmaxLayer := by
  refine .step (requireInputs_untrained _ _) fun _ _ => .step rfl fun _ _ => ?_
  refine .step rfl fun top _ => .step (requireFresh_untrained top) fun _ _ => ?_
  refine .bind (.lift source_untrained) fun src _ => ?_
  exact .bind (newBlob_untrained _ false) fun b _ => .ok (Draft.mk [.made b] _)

theorem lossLayer_untrained :
    Mirrors Draft.untrained s.lossLayer s.untrained.lossLayer := by
  refine .step (requireInputs_untrained _ _) fun _ _ => .step rfl fun _ _ => ?_
  refine .bind (.lift source_untrained) fun src _ => ?_
  refine .bind (s.helperSite src).softmaxLayer_untrained fun _ _ => ?_
  refine .step rfl fun top _ => .step (requireFresh_untrained top) fun _ _ => ?_
  refine .bind (newBlob_untrained _ true) fun loss _ => ?_
  have hdrop : s.untrained.declaration.outputs.drop 1 = s.declaration.outputs.drop 1 := rfl
  rw [hdrop]
  cases s.declaration.outputs.drop 1 with
  | nil => exact .ok (Draft.mk [.made loss] _)
  | cons scoreTop rest =>
    refine .step (requireFresh_untrained scoreTop) fun _ _ => ?_
    exact .bind (newBlob_untrained _ false) fun score _ => .ok (Draft.mk [.made loss, .made score] _)

theorem fieldSamples_untrained : s.untrained.fieldSamples = s.fieldSamples := by
  unfold fieldSamples untrained
  rcases s.inputs with _ | ⟨_ | src, rest⟩ <;> rfl

theorem createDeformationLayer_untrained :
    Mirrors Draft.untrained s.createDeformationLayer s.untrained.createDeformationLayer := by
  refine .step (requireInputs_untrained _ _) fun _ _ => .step rfl fun _ _ => ?_
  refine .step rfl fun nz _ => .step rfl fun ny _ => .step rfl fun nx _ => ?_
  refine .step rfl fun components _ => .step fieldSamples_untrained fun samples _ => ?_
  refine .step rfl fun top _ => .step (requireFresh_untrained top) fun _ _ => ?_
  exact .bind (newBlob_untrained _ false) fun b _ => .ok (Draft.mk [.made b] _)

theorem deformedExtents_untrained (shapeFrom : String) (axes : Int) :
    s.untrained.deformedExtents shapeFrom axes = s.deformedExtents shapeFrom axes := by
  unfold deformedExtents
  refine ite_congr rfl (fun _ => ?_) fun _ => ?_
  · unfold untrained
    rcases s.inputs with _ | ⟨input, _ | ⟨_ | field, rest⟩⟩ <;> rfl
  · have hresolve := s.graph.resolve_untrained (.text shapeFrom) (.text s.declaration.name)
      (.text s.declaration.type) (.text "shape source")
    simp only [untrained, hresolve, Graph.blob_untrained]
    rfl

theorem applyDeformationLayer_untrained :
    Mirrors Draft.untrained s.applyDeformationLayer s.untrained.applyDeformationLayer := by
  refine .step (requireInputs_untrained _ _) fun _ _ => .step rfl fun _ _ => ?_
  refine .bind (.lift source_untrained) fun src _ => ?_
  refine .step (deformedExtents_untrained _ _) fun spatial _ => .ite (fun _ => ?_) fun _ => ?_
  · refine .step rfl fun expected _ => .step rfl fun actual _ => .error _
  · refine .step rfl fun top _ => .step (requireFresh_untrained top) fun _ _ => ?_
    refine .step rfl fun samples _ => .step rfl fun channels _ => ?_
    exact .bind (newBlob_untrained _ false) fun b _ => .ok (Draft.mk [.made b] _)

/-- What a family makes without gradients is what it makes with them, without its gradients. -/
theorem layer_untrained (t : LayerType) :
    Mirrors Draft.untrained (s.layer t) (s.untrained.layer t) := by
  cases t with
  | input | data | hdf5Data => exact sourceLayer_untrained
  | convolution => exact convolutionLayer_untrained
  | deconvolution => exact deconvolutionLayer_untrained
  | pooling => exact poolingLayer_untrained
  | concat => exact concatLayer_untrained
  | relu | dropout => exact elementwiseLayer_untrained _
  | valueTransformation | valueAugmentation => exact valueLayer_untrained _
  | createDeformation => exact createDeformationLayer_untrained
  | applyDeformation => exact applyDeformationLayer_untrained
  | softmax => exact softmaxLayer_untrained
  | softmaxWithLoss => exact lossLayer_untrained

end Site

end NetFootprint
