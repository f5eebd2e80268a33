import Mathlib.Data.List.Find
import NetFootprint.Proofs.Layer.Draft

/-!
# Building under other names

Names are only ever compared with each other. So under other names, no two of which are confused, a
family makes the same blobs under their other names, and it refuses what it refused before; only
what it says about it may differ. The one name that is not declared is that of the output of the
softmax inside a loss, which has to stay as it is.
-/

namespace NetFootprint

/-- Other names for blobs and for layers. -/
structure Renaming where
  blob : String → String
  layer : String → String
  blob_injective : Function.Injective blob
  layer_injective : Function.Injective layer
  blob_ne : ∀ s, s ≠ "" → blob s ≠ ""

/-- The value with another text, if it is one. -/
def Value.renamed (f : String → String) : Value → Value
  | .text s => .text (f s)
  | v => v

namespace Renaming

variable (ρ : Renaming)

/-- The other name of a blob that is asked for its extents; an empty name asks for none. -/
def source (s : String) : String := if s = "" then "" else ρ.blob s

theorem source_eq_empty {s : String} : ρ.source s = "" ↔ s = "" := by
  by_cases h : s = ""
  · simp [source, h]
  · simp [source, h, ρ.blob_ne s h]

/-- A parameter under other names: only one of them names a blob. -/
def param (entry : String × Value) : String × Value :=
  if entry.1 = "output_shape_from" then (entry.1, entry.2.renamed ρ.source) else entry

end Renaming

def Blob.renamed (ρ : Renaming) (b : Blob) : Blob :=
  { b with
    name := b.name.renamed ρ.blob
    producer := b.producer.map fun p => { p with name := ρ.layer p.name } }

def Declaration.renamed (ρ : Renaming) (d : Declaration) : Declaration :=
  { d with
    name := ρ.layer d.name
    inputs := d.inputs.map ρ.blob
    outputs := d.outputs.map (Value.renamed ρ.blob)
    params := d.params.map ρ.param }

def Body.renamed (ρ : Renaming) : Body → Body
  | .applyDeformation shapeFrom => .applyDeformation (ρ.source shapeFrom)
  | body => body

def Layer.renamed (ρ : Renaming) (l : Layer) : Layer :=
  { l with declaration := l.declaration.renamed ρ, body := l.body.renamed ρ }

def Graph.renamed (ρ : Renaming) (g : Graph) : Graph :=
  { g with blobs := g.blobs.map (Blob.renamed ρ), layers := g.layers.map (Layer.renamed ρ) }

def Site.renamed (ρ : Renaming) (s : Site) : Site where
  graph := s.graph.renamed ρ
  declaration := s.declaration.renamed ρ
  inputs := s.inputs.map (·.map (Blob.renamed ρ))

def Output.renamed (ρ : Renaming) : Output → Output
  | .made b => .made (b.renamed ρ)
  | .kept i => .kept i

def Draft.renamed (ρ : Renaming) (d : Draft) : Draft where
  outputs := d.outputs.map (Output.renamed ρ)
  body := d.body.renamed ρ

/-- A declaration that takes extents from another blob says so by its name. -/
def Declaration.NamesSource (d : Declaration) : Prop :=
  (d.param "output_shape_from").truthy = true → ∃ s, d.param "output_shape_from" = .text s

/-! ## Names -/

namespace Value

variable {f : String → String}

theorem equals_renamed (hf : Function.Injective f) (v w : Value) :
    (v.renamed f).equals (w.renamed f) = v.equals w := by
  cases v with
  | text a =>
    cases w with
    | text b =>
      simp only [renamed, equals_text]
      exact Bool.eq_iff_iff.mpr (by simp [hf.eq_iff])
    | _ => simp [renamed, equals, amount?]
  | _ => cases w <;> simp [renamed, equals, amount?]

theorem key_renamed (v : Value) : Parallel (renamed f) v.key (v.renamed f).key := by
  cases v <;> exact rfl

end Value

namespace Declaration

variable {ρ : Renaming} {d : Declaration} {key : String}

theorem lookup_param_of_ne (h : key ≠ "output_shape_from") (params : List (String × Value)) :
    (params.map ρ.param).lookup key = params.lookup key := by
  induction params with
  | nil => rfl
  | cons entry rest ih =>
    obtain ⟨k, v⟩ := entry
    by_cases hk : k = "output_shape_from"
    · subst hk
      have hne : (key == "output_shape_from") = false := beq_false_of_ne h
      simp [Renaming.param, List.lookup_cons, hne, ih]
    · simp [Renaming.param, hk, List.lookup_cons, ih]

theorem lookup_param_source (params : List (String × Value)) :
    (params.map ρ.param).lookup "output_shape_from" =
      (params.lookup "output_shape_from").map (Value.renamed ρ.source) := by
  induction params with
  | nil => rfl
  | cons entry rest ih =>
    obtain ⟨k, v⟩ := entry
    by_cases hk : k = "output_shape_from"
    · subst hk
      simp [Renaming.param]
    · have hne : ("output_shape_from" == k) = false := beq_false_of_ne (Ne.symm hk)
      simp [Renaming.param, hk, List.lookup_cons, hne, ih]

theorem param_renamed (h : key ≠ "output_shape_from") : (d.renamed ρ).param key = d.param key := by
  rw [param, renamed, lookup_param_of_ne h, param]

theorem param_renamed_source : (d.renamed ρ).param "output_shape_from" =
    (d.param "output_shape_from").renamed ρ.source := by
  rw [param, renamed, lookup_param_source, param]
  cases d.params.lookup "output_shape_from" <;> rfl

end Declaration

namespace Graph

variable {g : Graph} {ρ : Renaming}

theorem blob_renamed (g : Graph) (ρ : Renaming) (ref : Nat) :
    (g.renamed ρ).blob ref = (g.blob ref).renamed ρ := by
  simp only [blob, renamed, List.getD_eq_getElem?_getD, List.getElem?_map]
  cases g.blobs[ref]? <;> rfl

theorem find?_renamed (name : Value) :
    (g.renamed ρ).find? (name.renamed ρ.blob) = g.find? name :=
  List.find?_congr fun ref _ => by
    rw [blob_renamed]
    exact Value.equals_renamed ρ.blob_injective _ _

theorem contains_renamed (name : Value) :
    (g.renamed ρ).contains (name.renamed ρ.blob) = g.contains name := by
  rw [contains, find?_renamed, contains]

theorem resolve_renamed (name : Value) (layer layer' type type' role role' : Value) :
    Parallel id (g.resolve name layer type role)
      ((g.renamed ρ).resolve (name.renamed ρ.blob) layer' type' role') := by
  refine .bind (.lift name.key_renamed) fun key _ => ?_
  rw [find?_renamed]
  cases g.find? key with
  | none => exact .error _ _
  | some ref => exact .ok ref

end Graph

namespace Site

variable {s : Site} {ρ : Renaming}

/-! ## Checks -/

theorem requireInputs_renamed (least : Nat) (most : Option Nat) :
    Parallel id (s.requireInputs least most) ((s.renamed ρ).requireInputs least most) := by
  unfold requireInputs renamed
  rw [List.length_map]
  exact .ite (fun _ => .ok ()) fun _ => .error _ _

theorem requireOutputs_renamed (least : Nat) (most : Option Nat) :
    Parallel id (s.requireOutputs least most) ((s.renamed ρ).requireOutputs least most) := by
  have hlength : (s.renamed ρ).declaration.outputs.length = s.declaration.outputs.length :=
    List.length_map _
  unfold requireOutputs
  rw [hlength]
  exact .ite (fun _ => .ok ()) fun _ => .error _ _

theorem present_renamed (input : Option Blob) :
    Parallel (Blob.renamed ρ) (present input) (present (input.map (Blob.renamed ρ))) := by
  cases input <;> rfl

theorem source_renamed : Parallel (Blob.renamed ρ) s.source (s.renamed ρ).source := by
  unfold source renamed
  cases s.inputs with
  | nil => exact .error _ _
  | cons input rest => exact present_renamed input

theorem target_renamed : Parallel (Value.renamed ρ.blob) s.target (s.renamed ρ).target := by
  unfold target renamed Declaration.renamed
  cases s.declaration.outputs with
  | nil => exact .error _ _
  | cons top rest => exact .ok top

theorem requireFresh_renamed (name : Value) :
    Parallel id (s.requireFresh name) ((s.renamed ρ).requireFresh (name.renamed ρ.blob)) := by
  refine .bind (.lift name.key_renamed) fun key _ => ?_
  rw [show (s.renamed ρ).graph.contains (key.renamed ρ.blob) = s.graph.contains key from
    Graph.contains_renamed key]
  exact .ite (fun _ => .error _ _) fun _ => .ok ()

theorem intParam_renamed {key : String} (h : key ≠ "output_shape_from") (default : Option Nat)
    (least : Nat) :
    Parallel id (s.intParam key default least) ((s.renamed ρ).intParam key default least) := by
  unfold intParam
  rw [show (s.renamed ρ).declaration.params.lookup key = s.declaration.params.lookup key from
    Declaration.lookup_param_of_ne h _]
  dsimp only
  generalize (s.declaration.params.lookup key).getD _ = given
  cases given with
  | null => exact .error _ _
  | bool _ | int _ | float _ | text _ | list _ | object _ =>
    refine .step (.explain _ _) fun n _ => ?_
    exact .ite (fun _ => .error _ _) fun _ => .ok _

theorem axisParam_renamed {key : String} (h : key ≠ "output_shape_from") (axes : Int)
    (default : Option Nat) (least : Nat) :
    Parallel id (s.axisParam key axes default least)
      ((s.renamed ρ).axisParam key axes default least) := by
  unfold axisParam
  rw [show (s.renamed ρ).declaration.param key = s.declaration.param key from
    Declaration.param_renamed h]
  refine .step (.explain _ _) fun expanded _ => ?_
  cases expanded with
  | none => exact .error _ _
  | some values => exact .ite (fun _ => .same fun _ _ => .error _ _) fun _ => .ok _

theorem window_renamed (src : Blob) :
    Parallel id (s.window src) ((s.renamed ρ).window (src.renamed ρ)) := by
  refine .step (axisParam_renamed (by decide) _ _ _) fun kernel _ => ?_
  refine .step (axisParam_renamed (by decide) _ _ _) fun pad _ => ?_
  refine .step (axisParam_renamed (by decide) _ _ _) fun stride _ => ?_
  exact .step (axisParam_renamed (by decide) _ _ _) fun dilation _ => .ok _

theorem elementSizeOf_renamed (k : Sketch) :
    (s.renamed ρ).elementSizeOf { k with name := k.name.renamed ρ.blob } = s.elementSizeOf k := by
  unfold elementSizeOf renamed
  cases k.elementSize with
  | some size => rfl
  | none =>
    rcases s.inputs with _ | ⟨_ | src, rest⟩
    · rfl
    · rfl
    · cases k.scalar <;> rfl

theorem newBlob_renamed (k : Sketch) :
    Parallel (Blob.renamed ρ) (s.newBlob k)
      ((s.renamed ρ).newBlob { k with name := k.name.renamed ρ.blob }) := by
  have hblob : (s.renamed ρ).blobOf { k with name := k.name.renamed ρ.blob } =
      (s.blobOf k).renamed ρ := by
    rw [blobOf, elementSizeOf_renamed]
    rfl
  refine .ite (fun _ => .same fun text _ => .error _ _) fun _ => ?_
  exact congrArg some hblob

/-! ## Families -/

theorem sourceShapes_renamed : Parallel id s.sourceShapes (s.renamed ρ).sourceShapes := by
  unfold sourceShapes
  rw [show (s.renamed ρ).declaration.param "shape" = s.declaration.param "shape" from
    Declaration.param_renamed (by decide)]
  split <;> first | exact .ok _ | exact .error _ _

theorem sourceBlob_renamed (top shape : Value) :
    Parallel (Output.renamed ρ) (s.sourceBlob top shape)
      ((s.renamed ρ).sourceBlob (top.renamed ρ.blob) shape) := by
  refine .step (.explain _ _) fun extents _ => .ite (fun _ => ?_) fun _ => ?_
  · exact .same fun text _ => .error _ _
  · refine .step (requireFresh_renamed top) fun _ _ => ?_
    exact .bind (newBlob_renamed _) fun b _ => .ok (Output.made b)

theorem sourceLayer_renamed :
    Parallel (Draft.renamed ρ) s.sourceLayer (s.renamed ρ).sourceLayer := by
  refine .step (requireInputs_renamed _ _) fun _ _ => ?_
  refine .step (requireOutputs_renamed _ _) fun _ _ => ?_
  refine .step sourceShapes_renamed fun shapes _ => ?_
  have hlength : (s.renamed ρ).declaration.outputs.length = s.declaration.outputs.length :=
    List.length_map _
  have hzip : (s.renamed ρ).declaration.outputs.zip shapes =
      (s.declaration.outputs.zip shapes).map (Prod.map (Value.renamed ρ.blob) id) := by
    rw [← List.zip_map, List.map_id]
    rfl
  have houtputs : Parallel (List.map (Output.renamed ρ))
      ((s.declaration.outputs.zip shapes).mapM fun p => s.sourceBlob p.1 p.2)
      (((s.renamed ρ).declaration.outputs.zip shapes).mapM
        fun p => (s.renamed ρ).sourceBlob p.1 p.2) := by
    rw [hzip]
    exact .mapM fun p _ => sourceBlob_renamed p.1 p.2
  dsimp only
  rw [hlength]
  refine .ite (fun _ => .error _ _) fun _ => ?_
  exact .bind houtputs fun outputs _ => .ok (Draft.mk outputs .source)

theorem convolvedExtent_renamed (src : Blob) (w : Window) (extent d : Nat) :
    Parallel id (s.convolvedExtent src w extent d)
      ((s.renamed ρ).convolvedExtent (src.renamed ρ) w extent d) := by
  refine .same fun a _ => .ite (fun _ => .error _ _) fun _ => ?_
  exact .ite (fun _ => .error _ _) fun _ => .ok _

theorem convolutionLayer_renamed :
    Parallel (Draft.renamed ρ) s.convolutionLayer (s.renamed ρ).convolutionLayer := by
  refine .step (requireInputs_renamed _ _) fun _ _ => ?_
  refine .step (requireOutputs_renamed _ _) fun _ _ => ?_
  refine .bind (.lift source_renamed) fun src _ => .step (window_renamed src) fun w _ => ?_
  refine .step (intParam_renamed (by decide) _ _) fun numOutput _ => ?_
  refine .bind (.lift target_renamed) fun top _ => .step (requireFresh_renamed top) fun _ _ => ?_
  refine .same fun samples _ => ?_
  refine .step (.mapM_id fun p _ => convolvedExtent_renamed src w p.1 p.2) fun spatial _ => ?_
  refine .same fun size _ => ?_
  exact .bind (newBlob_renamed _) fun b _ => .ok (Draft.mk [.made b] _)

theorem upConvolvedExtent_renamed (src : Blob) (w : Window) (extent d : Nat) :
    Parallel id (s.upConvolvedExtent src w extent d)
      ((s.renamed ρ).upConvolvedExtent (src.renamed ρ) w extent d) :=
  .same fun _ _ => .ite (fun _ => .error _ _) fun _ => .ok _

theorem upConvolvedBlob_renamed (w : Window) (numOutput : Nat) (input : Option Blob)
    (top : Value) :
    Parallel (Output.renamed ρ) (s.upConvolvedBlob w numOutput input top)
      ((s.renamed ρ).upConvolvedBlob w numOutput (input.map (Blob.renamed ρ))
        (top.renamed ρ.blob)) := by
  refine .step (requireFresh_renamed top) fun _ _ => ?_
  refine .bind (.lift (present_renamed input)) fun src _ => .same fun samples _ => ?_
  refine .step (.mapM_id fun p _ => upConvolvedExtent_renamed src w p.1 p.2) fun spatial _ => ?_
  refine .same fun size _ => ?_
  exact .bind (newBlob_renamed _) fun b _ => .ok (Output.made b)

theorem zip_renamed : (s.renamed ρ).inputs.zip (s.renamed ρ).declaration.outputs =
    (s.inputs.zip s.declaration.outputs).map
      (Prod.map (Option.map (Blob.renamed ρ)) (Value.renamed ρ.blob)) := by
  rw [← List.zip_map]
  rfl

theorem length_inputs_renamed : (s.renamed ρ).inputs.length = s.inputs.length := List.length_map _

theorem deconvolutionLayer_renamed :
    Parallel (Draft.renamed ρ) s.deconvolutionLayer (s.renamed ρ).deconvolutionLayer := by
  refine .step (requireInputs_renamed _ _) fun _ _ => ?_
  rw [length_inputs_renamed]
  refine .step (requireOutputs_renamed _ _) fun _ _ => ?_
  refine .bind (.lift source_renamed) fun src _ => .step (window_renamed src) fun w _ => ?_
  refine .step (intParam_renamed (by decide) _ _) fun numOutput _ => ?_
  rw [zip_renamed]
  refine .bind (.mapM fun p _ => upConvolvedBlob_renamed w numOutput p.1 p.2) fun outputs _ => ?_
  exact .ok (Draft.mk outputs _)

theorem poolingWindow_renamed (src : Blob) :
    Parallel id (s.poolingWindow src) ((s.renamed ρ).poolingWindow (src.renamed ρ)) := by
  unfold poolingWindow
  rw [show (s.renamed ρ).declaration.param "global_pooling" =
    s.declaration.param "global_pooling" from Declaration.param_renamed (by decide)]
  refine .ite (fun _ => .ok _) fun _ => ?_
  refine .step (axisParam_renamed (by decide) _ _ _) fun kernel _ => ?_
  refine .step (axisParam_renamed (by decide) _ _ _) fun pad _ => ?_
  exact .step (axisParam_renamed (by decide) _ _ _) fun stride _ => .ok _

theorem poolingWindows_renamed (src : Blob) (w : Window) :
    Parallel id (s.poolingWindows src w) ((s.renamed ρ).poolingWindows (src.renamed ρ) w) := by
  refine .same fun raw _ => .ite (fun _ => ?_) fun _ => .ok raw
  refine .mapM_id fun p _ => .same fun a _ => ?_
  exact .ite (fun _ => .error _ _) fun _ => .ok _

theorem poolingMethod_renamed : (s.renamed ρ).poolingMethod = s.poolingMethod := by
  rw [poolingMethod, poolingMethod]
  rw [show (s.renamed ρ).declaration.params.lookup "pool" = s.declaration.params.lookup "pool" from
    Declaration.lookup_param_of_ne (by decide) _]

theorem poolingLayer_renamed :
    Parallel (Draft.renamed ρ) s.poolingLayer (s.renamed ρ).poolingLayer := by
  refine .step (requireInputs_renamed _ _) fun _ _ => ?_
  refine .step (requireOutputs_renamed _ _) fun _ _ => ?_
  refine .bind (.lift source_renamed) fun src _ => .step (poolingWindow_renamed src) fun w _ => ?_
  refine .bind (.lift target_renamed) fun top _ => .step (requireFresh_renamed top) fun _ _ => ?_
  refine .step (poolingWindows_renamed src w) fun spatial _ => ?_
  cases firstEmpty 0 spatial with
  | some d => exact .error _ _
  | none =>
    refine .same fun size _ => .same fun samples _ => .same fun channels _ => ?_
    refine .bind (newBlob_renamed _) fun b _ => ?_
    rw [poolingMethod_renamed]
    exact .ok (Draft.mk [.made b] _)

theorem concatenated_renamed (first : Blob) (input : Option Blob) :
    Parallel (Blob.renamed ρ) (s.concatenated first input)
      ((s.renamed ρ).concatenated (first.renamed ρ) (input.map (Blob.renamed ρ))) :=
  .bind (.lift (present_renamed input)) fun b _ => .ite (fun _ => .error _ _) fun _ => .ok b

theorem smallestExtent_renamed (axis : Nat) (first : Blob) (others : List Blob) :
    smallestExtent axis (first.renamed ρ) (others.map (Blob.renamed ρ)) =
      smallestExtent axis first others := by
  simp only [smallestExtent, List.foldlM_map]
  rfl

theorem concatLayer_renamed :
    Parallel (Draft.renamed ρ) s.concatLayer (s.renamed ρ).concatLayer := by
  refine .step (requireInputs_renamed _ _) fun _ _ => ?_
  refine .step (requireOutputs_renamed _ _) fun _ _ => ?_
  refine .bind (.lift target_renamed) fun top _ => .step (requireFresh_renamed top) fun _ _ => ?_
  refine .bind (.lift source_renamed) fun first _ => ?_
  have hrest : (s.renamed ρ).inputs.drop 1 =
      (s.inputs.drop 1).map (Option.map (Blob.renamed ρ)) := by
    rw [renamed, List.map_drop]
  rw [hrest]
  refine .bind (.mapM fun input _ => concatenated_renamed first input) fun others _ => ?_
  have hchannels : ((first :: others).map (Blob.renamed ρ)).mapM Blob.channels =
      (first :: others).mapM Blob.channels := by
    rw [List.mapM_map]
    rfl
  refine .step (.lift (.of_eq hchannels)) fun channels _ => ?_
  refine .step (.lift (.of_eq ?_)) fun spatial _ => ?_
  · simp only [smallestExtent_renamed]
    rfl
  · refine .same fun samples _ => ?_
    have hgradient : (first.renamed ρ :: others.map (Blob.renamed ρ)).any (·.gradient) =
        (first :: others).any (·.gradient) := by
      rw [← List.map_cons, List.any_map]
      rfl
    rw [hgradient]
    exact .bind (newBlob_renamed _) fun b _ => .ok (Draft.mk [.made b] .concat)

theorem valueLayer_renamed (body : Body) (h : body.renamed ρ = body) :
    Parallel (Draft.renamed ρ) (s.valueLayer body) ((s.renamed ρ).valueLayer body) := by
  refine .step (requireInputs_renamed _ _) fun _ _ => ?_
  refine .step (requireOutputs_renamed _ _) fun _ _ => ?_
  refine .bind (.lift target_renamed) fun top _ => .step (requireFresh_renamed top) fun _ _ => ?_
  refine .bind (.lift source_renamed) fun src _ => ?_
  refine .bind (newBlob_renamed _) fun b _ => ?_
  have hdraft : (Draft.mk [.made b] body).renamed ρ = ⟨[.made (b.renamed ρ)], body⟩ := by
    rw [Draft.renamed, h]
    rfl
  exact congrArg some hdraft.symm

theorem elementwiseOutput_renamed (input : Option Blob) (top : Value) (i : Nat) :
    Parallel (Output.renamed ρ) (s.elementwiseOutput input top i)
      ((s.renamed ρ).elementwiseOutput (input.map (Blob.renamed ρ)) (top.renamed ρ.blob) i) := by
  refine .bind (.lift (present_renamed input)) fun src _ => ?_
  rw [show (src.renamed ρ).name = src.name.renamed ρ.blob from rfl,
    Value.equals_renamed ρ.blob_injective]
  refine .ite (fun _ => .ok (Output.kept i)) fun _ => ?_
  refine .step (requireFresh_renamed top) fun _ _ => ?_
  exact .bind (newBlob_renamed _) fun b _ => .ok (Output.made b)

theorem isAlias_renamed (outputs : List Output) :
    (outputs.map (Output.renamed ρ)).map isAlias = outputs.map isAlias := by
  rw [List.map_map]
  refine List.map_congr_left fun o _ => ?_
  cases o <;> rfl

theorem elementwiseLayer_renamed (body : List Bool → Body)
    (h : ∀ aliased, (body aliased).renamed ρ = body aliased) :
    Parallel (Draft.renamed ρ) (s.elementwiseLayer body)
      ((s.renamed ρ).elementwiseLayer body) := by
  refine .step (requireInputs_renamed _ _) fun _ _ => ?_
  rw [length_inputs_renamed]
  refine .step (requireOutputs_renamed _ _) fun _ _ => ?_
  rw [zip_renamed, List.zipIdx_map]
  have hmade : Parallel (List.map (Output.renamed ρ))
      ((s.inputs.zip s.declaration.outputs).zipIdx.mapM
        fun p => s.elementwiseOutput p.1.1 p.1.2 p.2)
      (((s.inputs.zip s.declaration.outputs).zipIdx.map (Prod.map
        (Prod.map (Option.map (Blob.renamed ρ)) (Value.renamed ρ.blob)) id)).mapM
        fun p => (s.renamed ρ).elementwiseOutput p.1.1 p.1.2 p.2) :=
    .mapM fun p _ => elementwiseOutput_renamed p.1.1 p.1.2 p.2
  refine .bind hmade fun outputs _ => ?_
  rw [isAlias_renamed]
  have hdraft : (Draft.mk outputs (body (outputs.map isAlias))).renamed ρ =
      ⟨outputs.map (Output.renamed ρ), body (outputs.map isAlias)⟩ := by
    rw [Draft.renamed, h]
  exact congrArg some hdraft.symm

theorem softmaxLayer_renamed :
    Parallel (Draft.renamed ρ) s.softmaxLayer (s.renamed ρ).softmaxLayer := by
  refine .step (requireInputs_renamed _ _) fun _ _ => ?_
  refine .step (requireOutputs_renamed _ _) fun _ _ => ?_
  refine .bind (.lift target_renamed) fun top _ => .step (requireFresh_renamed top) fun _ _ => ?_
  refine .bind (.lift source_renamed) fun src _ => ?_
  exact .bind (newBlob_renamed _) fun b _ => .ok (Draft.mk [.made b] .softmax)

theorem fieldSamples_renamed : Parallel id s.fieldSamples (s.renamed ρ).fieldSamples := by
  unfold fieldSamples
  rw [show (s.renamed ρ).inputs = s.inputs.map (·.map (Blob.renamed ρ)) from rfl]
  rcases s.inputs with _ | ⟨_ | src, rest⟩
  · exact intParam_renamed (by decide) _ _
  · exact .error _ _
  · exact .of_eq rfl

theorem createDeformationLayer_renamed :
    Parallel (Draft.renamed ρ) s.createDeformationLayer (s.renamed ρ).createDeformationLayer := by
  refine .step (requireInputs_renamed _ _) fun _ _ => ?_
  refine .step (requireOutputs_renamed _ _) fun _ _ => ?_
  refine .step (intParam_renamed (by decide) _ _) fun nz _ => ?_
  refine .step (intParam_renamed (by decide) _ _) fun ny _ => ?_
  refine .step (intParam_renamed (by decide) _ _) fun nx _ => ?_
  refine .step (intParam_renamed (by decide) _ _) fun components _ => ?_
  refine .step fieldSamples_renamed fun samples _ => ?_
  refine .bind (.lift target_renamed) fun top _ => .step (requireFresh_renamed top) fun _ _ => ?_
  exact .bind (newBlob_renamed _) fun b _ => .ok (Draft.mk [.made b] _)

theorem shapeSource_renamed (h : s.declaration.NamesSource) :
    (s.renamed ρ).shapeSource = ρ.source s.shapeSource := by
  unfold shapeSource
  rw [show (s.renamed ρ).declaration.param "output_shape_from" =
    (s.declaration.param "output_shape_from").renamed ρ.source from
    Declaration.param_renamed_source]
  dsimp only
  by_cases ht : (s.declaration.param "output_shape_from").truthy = true
  · obtain ⟨name, hname⟩ := h ht
    have hne : name ≠ "" := by simpa [hname, Value.truthy] using ht
    have hne' : ρ.source name ≠ "" := fun he => hne (ρ.source_eq_empty.mp he)
    simp [hname, Value.renamed, Value.truthy, Value.plain, hne, hne']
  · rw [if_neg ht]
    have ht' : ((s.declaration.param "output_shape_from").renamed ρ.source).truthy ≠ true := by
      cases hv : s.declaration.param "output_shape_from" with
      | text name =>
        have hempty : name = "" := by simpa [hv, Value.truthy] using ht
        simp [Value.renamed, Value.truthy, hempty, Renaming.source]
      | _ => simpa [hv, Value.renamed] using ht
    rw [if_neg ht']
    rfl

theorem deformedExtents_renamed (shapeFrom : String) (axes : Int) :
    Parallel id (s.deformedExtents shapeFrom axes)
      ((s.renamed ρ).deformedExtents (ρ.source shapeFrom) axes) := by
  unfold deformedExtents
  by_cases h : shapeFrom = ""
  · rw [if_pos h, if_pos (ρ.source_eq_empty.mpr h)]
    unfold renamed
    rcases s.inputs with _ | ⟨input, _ | ⟨_ | field, rest⟩⟩
    · exact .error _ _
    · exact .error _ _
    · exact .error _ _
    · exact .of_eq rfl
  · rw [if_neg h, if_neg (fun he => h (ρ.source_eq_empty.mp he)), Renaming.source, if_neg h]
    refine .step (Graph.resolve_renamed _ _ _ _ _ _ _) fun ref _ => ?_
    rw [show (s.renamed ρ).graph.blob ref = (s.graph.blob ref).renamed ρ from
      Graph.blob_renamed _ _ _]
    exact .ok _

theorem applyDeformationLayer_renamed (h : s.declaration.NamesSource) :
    Parallel (Draft.renamed ρ) s.applyDeformationLayer (s.renamed ρ).applyDeformationLayer := by
  unfold applyDeformationLayer
  rw [shapeSource_renamed h]
  generalize s.shapeSource = shapeFrom
  dsimp only
  rw [if_congr ρ.source_eq_empty rfl rfl]
  refine .step (requireInputs_renamed _ _) fun _ _ => ?_
  refine .step (requireOutputs_renamed _ _) fun _ _ => ?_
  refine .bind (.lift source_renamed) fun src _ => ?_
  refine .step (deformedExtents_renamed _ _) fun spatial _ => .ite (fun _ => ?_) fun _ => ?_
  · exact .same fun expected _ => .same fun actual _ => .error _ _
  · refine .bind (.lift target_renamed) fun top _ => .step (requireFresh_renamed top) fun _ _ => ?_
    refine .same fun samples _ => .same fun channels _ => ?_
    exact .bind (newBlob_renamed _) fun b _ => .ok (Draft.mk [.made b] _)

/-! ## The loss -/

/-- The softmax inside a loss depends on no declared name. -/
theorem exists_helper_iff {src : Blob} :
    (∃ helper, (s.helperSite src).softmaxLayer = .ok helper) ↔
      s.graph.contains (.text helperOutput) = false ∧ ∀ e ∈ extentsOf src.shape, 0 < e := by
  constructor
  · rintro ⟨helper, hhelper⟩
    obtain ⟨src', top, b, hin, hout, hfresh, hb, -⟩ := softmaxLayer_ok hhelper
    obtain rfl : src = src' := by simpa [helperSite] using hin
    obtain rfl : Value.text helperOutput = top := by simpa [helperSite] using hout
    exact ⟨(requireFresh_eq_ok.mp hfresh).2, (newBlob_eq_ok.mp hb).1⟩
  · rintro ⟨hfree, hpositive⟩
    have hfresh : (s.helperSite src).requireFresh (.text helperOutput) = .ok () :=
      requireFresh_eq_ok.mpr ⟨rfl, hfree⟩
    obtain ⟨b, hb⟩ : ∃ b, (s.helperSite src).newBlob
        { name := .text helperOutput, shape := extentsOf src.shape, resident := true
          gradient := src.gradient } = .ok b := ⟨_, newBlob_eq_ok.mpr ⟨hpositive, rfl⟩⟩
    refine ⟨⟨[.made b], .softmax⟩, ?_⟩
    have hchecks : (s.helperSite src).softmaxLayer = (do
        (s.helperSite src).requireFresh (.text helperOutput)
        let b ← (s.helperSite src).newBlob
          { name := .text helperOutput, shape := extentsOf src.shape, resident := true
            gradient := src.gradient }
        return ⟨[.made b], .softmax⟩) := rfl
    rw [hchecks, hfresh, hb]
    rfl

theorem lossLayer_renamed (h : ρ.blob helperOutput = helperOutput) :
    Parallel (Draft.renamed ρ) s.lossLayer (s.renamed ρ).lossLayer := by
  refine .step (requireInputs_renamed _ _) fun _ _ => ?_
  refine .step (requireOutputs_renamed _ _) fun _ _ => ?_
  refine .bind (.lift source_renamed) fun src _ => ?_
  have hfresh := Graph.contains_renamed (g := s.graph) (ρ := ρ) (.text helperOutput)
  rw [show (Value.text helperOutput).renamed ρ.blob = .text helperOutput from
    congrArg Value.text h] at hfresh
  have hhelper : ((s.renamed ρ).helperSite (src.renamed ρ)).softmaxLayer.toOption.isSome =
      (s.helperSite src).softmaxLayer.toOption.isSome := by
    rw [Bool.eq_iff_iff, toOption_isSome_iff, toOption_isSome_iff, exists_helper_iff,
      exists_helper_iff, ← hfresh]
    rfl
  refine .skip hhelper ?_
  refine .bind (.lift target_renamed) fun top _ => .step (requireFresh_renamed top) fun _ _ => ?_
  refine .bind (newBlob_renamed _) fun loss _ => ?_
  have hdrop : (s.renamed ρ).declaration.outputs.drop 1 =
      (s.declaration.outputs.drop 1).map (Value.renamed ρ.blob) := by
    rw [List.map_drop]
    rfl
  rw [hdrop]
  cases s.declaration.outputs.drop 1 with
  | nil => exact .ok (Draft.mk [.made loss] .softmaxWithLoss)
  | cons scoreTop rest =>
    refine .step (requireFresh_renamed scoreTop) fun _ _ => ?_
    exact .bind (newBlob_renamed _) fun score _ =>
      .ok (Draft.mk [.made loss, .made score] .softmaxWithLoss)

/-- What a family makes under other names is what it makes, under other names. -/
theorem layer_renamed (h : ρ.blob helperOutput = helperOutput) (hs : s.declaration.NamesSource)
    (t : LayerType) : Parallel (Draft.renamed ρ) (s.layer t) ((s.renamed ρ).layer t) := by
  cases t with
  | input | data | hdf5Data => exact sourceLayer_renamed
  | convolution => exact convolutionLayer_renamed
  | deconvolution => exact deconvolutionLayer_renamed
  | pooling => exact poolingLayer_renamed
  | concat => exact concatLayer_renamed
  | relu => exact elementwiseLayer_renamed .relu fun _ => rfl
  | dropout => exact elementwiseLayer_renamed .dropout fun _ => rfl
  | valueTransformation => exact valueLayer_renamed .valueTransformation rfl
  | valueAugmentation => exact valueLayer_renamed .valueAugmentation rfl
  | createDeformation => exact createDeformationLayer_renamed
  | applyDeformation => exact applyDeformationLayer_renamed hs
  | softmax => exact softmaxLayer_renamed
  | softmaxWithLoss => exact lossLayer_renamed h

end Site

end NetFootprint
