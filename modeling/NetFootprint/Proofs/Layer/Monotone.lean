import NetFootprint.Proofs.Layer.Below
import NetFootprint.Proofs.Layer.Extent

/-!
# Layers on larger inputs

If a family accepts two sites, the first of which is below the second, then what it makes of the
first is below what it makes of the second. Each family is followed step by step on both sides at
once; only the source looks at parameters that may differ.
-/

namespace NetFootprint.Site

variable {s s' : Site}

/-! ## Sources -/

theorem sourceBlob_below (h : s.Below s') {shape shape' : Value}
    (hle : shape.ShapeBelow shape') (top : Value) :
    Relate Output.Below (s.sourceBlob top shape) (s'.sourceBlob top shape') := by
  intro o o' ho ho'
  obtain ⟨es, b, hes, -, -, hb, rfl⟩ := sourceBlob_ok ho
  obtain ⟨es', b', hes', -, -, hb', rfl⟩ := sourceBlob_ok ho'
  have hshape := hle es es' hes hes'
  have hsize : s'.graph.elementSizeFor ((es'.length : Int) - 2) =
      s.graph.elementSizeFor ((es.length : Int) - 2) := by
    rw [Graph.elementSizeFor, h.graph.elementSize, hshape.length_eq, Graph.elementSizeFor]
  rw [hsize] at hb'
  exact .made (h.newBlob hshape b b' hb hb')

theorem sourceShapes_table {rows : List (List Int)}
    (h : s.declaration.params = [("shape", .table rows)]) :
    s.sourceShapes = .ok (rows.map fun row => .list (row.map .int)) := by
  have hparam : s.declaration.param "shape" = .table rows := by
    rw [Declaration.param, h]
    rfl
  rw [sourceShapes, hparam]
  cases rows <;> rfl

theorem sourceShapes_below (h : s.Below s') :
    Relate (List.Forall₂ Value.ShapeBelow) s.sourceShapes s'.sourceShapes := by
  intro shapes shapes' hs hs'
  cases h.declaration with
  | same hd =>
    have hsame : s'.sourceShapes = s.sourceShapes := by simp only [sourceShapes, refuse, hd]
    rw [hsame] at hs'
    obtain rfl := eq_of_ok hs hs'
    refine List.forall₂_same.mpr fun v _ es es' hes hes' => ?_
    obtain rfl := eq_of_ok hes hes'
    exact List.forall₂_refl es
  | source rows rows' _ hle params rest =>
    rw [sourceShapes_table params] at hs
    rw [sourceShapes_table (by rw [rest])] at hs'
    obtain rfl := Except.ok.inj hs
    obtain rfl := Except.ok.inj hs'
    rw [List.forall₂_map_left_iff, List.forall₂_map_right_iff]
    refine hle.imp fun row row' hrow es es' hes hes' => ?_
    obtain rfl := eq_of_ok (Axes.declared_ints row) hes
    obtain rfl := eq_of_ok (Axes.declared_ints row') hes'
    exact hrow

theorem sourceLayer_below (h : s.Below s') :
    Relate Draft.Below s.sourceLayer s'.sourceLayer := by
  intro d d' hd hd'
  obtain ⟨shapes, outputs, -, -, hs, -, ho, rfl⟩ := sourceLayer_ok hd
  obtain ⟨shapes', outputs', -, -, hs', -, ho', rfl⟩ := sourceLayer_ok hd'
  have hpairs : List.Forall₂ (fun p p' : Value × Value =>
      p.1 = p'.1 ∧ p.2.ShapeBelow p'.2)
      (s.declaration.outputs.zip shapes) (s'.declaration.outputs.zip shapes') := by
    rw [h.outputs]
    exact rel_zip (List.forall₂_refl _) (sourceShapes_below h shapes shapes' hs hs')
  have hmade : Relate (List.Forall₂ Output.Below)
      ((s.declaration.outputs.zip shapes).mapM fun p => s.sourceBlob p.1 p.2)
      ((s'.declaration.outputs.zip shapes').mapM fun p => s'.sourceBlob p.1 p.2) := by
    refine .mapM hpairs fun p p' hp => ?_
    rw [hp.1]
    exact sourceBlob_below h hp.2 p'.1
  exact ⟨hmade _ _ (mapM_eq_ok.mpr ho) (mapM_eq_ok.mpr ho'), .refl _⟩

/-! ## Windows -/

theorem convolvedExtent_below {src src' : Blob} {w : Window} {p p' : Nat × Nat}
    (hp : p.1 ≤ p'.1 ∧ p.2 = p'.2) :
    Relate (· ≤ ·) (s.convolvedExtent src w p.1 p.2) (s'.convolvedExtent src' w p'.1 p'.2) := by
  intro e e' he he'
  obtain ⟨a, ha, -, -, rfl⟩ := convolvedExtent_ok he
  obtain ⟨a', ha', -, -, rfl⟩ := convolvedExtent_ok he'
  rw [← hp.2] at ha'
  obtain rfl : a = a' := eq_of_ok ha ha'
  exact Window.Axis.convolved_mono hp.1

theorem upConvolvedExtent_below {src src' : Blob} {w : Window} {p p' : Nat × Nat}
    (hp : p.1 ≤ p'.1 ∧ p.2 = p'.2) :
    Relate (· ≤ ·) (s.upConvolvedExtent src w p.1 p.2)
      (s'.upConvolvedExtent src' w p'.1 p'.2) := by
  intro e e' he he'
  obtain ⟨a, ha, -, rfl⟩ := upConvolvedExtent_ok he
  obtain ⟨a', ha', -, rfl⟩ := upConvolvedExtent_ok he'
  rw [← hp.2] at ha'
  obtain rfl : a = a' := eq_of_ok ha ha'
  exact Window.Axis.upConvolved_mono hp.1

/-- Two extents, and two numbers of windows on them, that belong to one axis. -/
theorem poolingTrimmed_below {w : Window} {p p' : (Nat × Int) × Nat}
    (hp : (p.1.1 ≤ p'.1.1 ∧ p.1.2 ≤ p'.1.2) ∧ p.2 = p'.2) :
    Relate (· ≤ ·) (s.poolingTrimmed w p.1.1 p.1.2 p.2)
      (s'.poolingTrimmed w p'.1.1 p'.1.2 p'.2) := by
  intro e e' he he'
  obtain ⟨a, ha, hfits, rfl⟩ := poolingTrimmed_ok he
  obtain ⟨a', ha', -, rfl⟩ := poolingTrimmed_ok he'
  rw [← hp.2] at ha'
  obtain rfl : a = a' := eq_of_ok ha ha'
  exact Window.Axis.trimmed_mono hp.1.1 hp.1.2 hfits

/-- The windows of two poolings: one window, or on either side the one that covers the blob. -/
inductive Pools (src src' : Blob) : Window → Window → Prop where
  | same (w : Window) : Pools src src' w w
  | covering : Pools src src' (.covering src.spatial) (.covering src'.spatial)

theorem Pools.stride {src src' : Blob} {w w' : Window} (h : Pools src src' w w')
    (hsrc : src.Below src') : w'.stride = w.stride := by
  cases h with
  | same => rfl
  | covering =>
    simp only [Window.covering, List.map_const']
    rw [hsrc.spatial.length_eq]

theorem Pools.alike {src src' : Blob} {w w' : Window} (h : Pools src src' w w')
    (hsrc : src.Below src') (method : String) :
    Body.Alike (.pooling method w) (.pooling method w') := by
  cases h with
  | same => exact .refl _
  | covering => exact .pooling method _ _ hsrc.spatial.length_eq

theorem poolingWindow_below (hd : s'.declaration = s.declaration) {src src' : Blob}
    (hsrc : src.Below src') :
    Relate (Pools src src') (s.poolingWindow src) (s'.poolingWindow src') := by
  simp only [poolingWindow, hd, axisParam_same hd, hsrc.spatialRank]
  split
  · exact .ok .covering
  · intro w w' hw hw'
    obtain rfl : w = w' := eq_of_ok hw hw'
    exact .same w

/-- Of every axis a covering window leaves one element. -/
theorem poolingWindows_covering {src : Blob} {spatial : List Int}
    (h : s.poolingWindows src (.covering src.spatial) = .ok spatial) :
    spatial = List.replicate src.spatial.length 1 := by
  obtain ⟨raw, hraw, ⟨-, rfl⟩ | ⟨⟨pad, hpad, hne⟩, -⟩⟩ := poolingWindows_ok h
  · rw [List.eq_replicate_iff]
    refine ⟨by rw [← hraw.length_eq, List.length_zipIdx], fun e he => ?_⟩
    obtain ⟨p, hp, a, ha, rfl⟩ := exists_of_mem_right hraw he
    obtain ⟨-, hlt, hat⟩ := List.mem_zipIdx hp
    simp only [Nat.sub_zero, Nat.zero_add] at hlt hat
    rw [hat]
    exact Window.pooled_covering hlt ha
  · obtain ⟨e, -, rfl⟩ := List.mem_map.mp hpad
    exact absurd rfl hne

theorem poolingWindows_below {src src' : Blob} {w w' : Window} (hw : Pools src src' w w')
    (hsrc : src.Below src') :
    Relate (List.Forall₂ (· ≤ ·)) (s.poolingWindows src w) (s'.poolingWindows src' w') := by
  cases hw with
  | covering =>
    -- the windows differ, but either leaves one element of each axis
    intro spatial spatial' hsp hsp'
    rw [poolingWindows_covering hsp, poolingWindows_covering hsp', hsrc.spatial.length_eq]
    exact List.forall₂_refl _
  | same w =>
    have hpooled : Relate (List.Forall₂ (· ≤ ·))
        (src.spatial.zipIdx.mapM fun p => do
          return (← (w.axis p.2 : Except Failure Window.Axis)).pooled p.1)
        (src'.spatial.zipIdx.mapM fun p => do
          return (← (w.axis p.2 : Except Failure Window.Axis)).pooled p.1) := by
      refine .mapM (rel_zipIdx hsrc.spatial) fun p p' hp => .step (by rw [hp.2]) fun a _ => ?_
      exact .ok (Window.Axis.pooled_mono hp.1)
    refine .bind hpooled fun raw raw' hraw => ?_
    have hpairs := rel_zipIdx (rel_zip hsrc.spatial hraw)
    split
    · exact .mapM hpairs fun p p' hp => poolingTrimmed_below hp
    · exact .ok hraw

/-! ## Families -/

theorem convolutionLayer_below (h : s.Below s') (hd : s'.declaration = s.declaration) :
    Relate Draft.Below s.convolutionLayer s'.convolutionLayer := by
  refine .skip (.skip (.bind (.lift h.source) fun src src' hsrc => ?_))
  refine .step (window_same hd hsrc) fun w _ => ?_
  refine .step (intParam_same hd _ _ _) fun numOutput _ => ?_
  refine .step (by rw [h.target]) fun top _ => .skip ?_
  refine .bind (.lift hsrc.samples.relate) fun samples samples' hsamples => ?_
  refine .bind (.mapM (rel_zipIdx hsrc.spatial) fun p p' hp => convolvedExtent_below hp) ?_
  intro spatial spatial' hspatial
  refine .step (by rw [hsrc.same Blob.elementSize]) fun size _ => ?_
  have hfront : List.Forall₂ (· ≤ ·) [samples, numOutput] [samples', numOutput] :=
    .cons hsamples (.cons (Nat.le_refl _) .nil)
  refine .bind (h.newBlob (List.rel_append (extentsOf_mono hfront) hspatial)) fun b b' hb => ?_
  exact .ok (.single hb (.refl _))

theorem upConvolvedBlob_below (h : s.Below s') (w : Window) (numOutput : Nat)
    {input input' : Option Blob} (hin : Option.Rel Blob.Below input input') (top : Value) :
    Relate Output.Below (s.upConvolvedBlob w numOutput input top)
      (s'.upConvolvedBlob w numOutput input' top) := by
  refine .skip (.bind (.lift (present_below hin)) fun src src' hsrc => ?_)
  refine .bind (.lift hsrc.samples.relate) fun samples samples' hsamples => ?_
  refine .bind (.mapM (rel_zipIdx hsrc.spatial) fun p p' hp => upConvolvedExtent_below hp) ?_
  intro spatial spatial' hspatial
  refine .step (by rw [hsrc.same Blob.elementSize]) fun size _ => ?_
  have hfront : List.Forall₂ (· ≤ ·) [samples, numOutput] [samples', numOutput] :=
    .cons hsamples (.cons (Nat.le_refl _) .nil)
  refine .bind (h.newBlob (List.rel_append (extentsOf_mono hfront) hspatial)) fun b b' hb => ?_
  exact .ok (.made hb)

theorem deconvolutionLayer_below (h : s.Below s') (hd : s'.declaration = s.declaration) :
    Relate Draft.Below s.deconvolutionLayer s'.deconvolutionLayer := by
  refine .skip (.skip (.bind (.lift h.source) fun src src' hsrc => ?_))
  refine .step (window_same hd hsrc) fun w _ => ?_
  refine .step (intParam_same hd _ _ _) fun numOutput _ => ?_
  have hpairs : List.Forall₂ (fun p p' => Option.Rel Blob.Below p.1 p'.1 ∧ p.2 = p'.2)
      (s.inputs.zip s.declaration.outputs) (s'.inputs.zip s'.declaration.outputs) := by
    rw [hd]
    exact rel_zip h.inputs (List.forall₂_refl _)
  refine .bind (.mapM hpairs fun p p' hp => ?_) fun outputs outputs' ho => .ok ⟨ho, .refl _⟩
  rw [hp.2]
  exact upConvolvedBlob_below h w numOutput hp.1 p'.2

theorem poolingLayer_below (h : s.Below s') (hd : s'.declaration = s.declaration) :
    Relate Draft.Below s.poolingLayer s'.poolingLayer := by
  refine .skip (.skip (.bind (.lift h.source) fun src src' hsrc => ?_))
  refine .bind (poolingWindow_below hd hsrc) fun w w' hw => ?_
  refine .step (by rw [h.target]) fun top _ => .skip ?_
  refine .bind (poolingWindows_below hw hsrc) fun spatial spatial' hspatial => ?_
  cases firstEmpty 0 spatial with
  | some axis => exact .error_left _
  | none =>
    cases firstEmpty 0 spatial' with
    | some axis => exact .error_right _
    | none =>
      refine .step (by rw [hsrc.same Blob.elementSize, hw.stride hsrc]) fun size _ => ?_
      refine .bind (.lift hsrc.samples.relate) fun samples samples' hsamples => ?_
      refine .bind (.lift hsrc.channels.relate) fun channels channels' hchannels => ?_
      have hfront : List.Forall₂ (· ≤ ·) [samples, channels] [samples', channels'] :=
        .cons hsamples (.cons hchannels .nil)
      have hshape := List.rel_append (extentsOf_mono hfront) hspatial
      have hmethod : s'.poolingMethod = s.poolingMethod := by
        rw [poolingMethod, hd, poolingMethod]
      rw [hsrc.same Blob.gradient, hmethod]
      exact .bind (h.newBlob hshape) fun b b' hb => .ok (.single hb (hw.alike hsrc _))

/-! ### Concatenation -/

theorem smallestExtent_below {axis : Nat} {first first' : Blob} {others others' : List Blob}
    (hfirst : first.Below first') (hothers : List.Forall₂ Blob.Below others others') :
    Relate (· ≤ ·) (smallestExtent axis first others) (smallestExtent axis first' others') := by
  refine .bind (hfirst.extent axis).relate fun start start' hle => ?_
  refine .foldlM (fun least least' b b' hleast hb => ?_) hothers hle
  exact .bind (hb.extent axis).relate fun e e' he => .ok (by omega)

theorem channels_sum_mono {ns ms : List Nat} (h : List.Forall₂ (· ≤ ·) ns ms) :
    ns.foldl (· + ·) 0 ≤ ms.foldl (· + ·) 0 := by
  refine List.rel_foldl (P := (· ≤ ·)) ?_ (Nat.le_refl 0) h
  intro start start' hstart n m hn
  exact Nat.add_le_add hstart hn

theorem concatenated_below {first first' : Blob} {input input' : Option Blob}
    (hin : Option.Rel Blob.Below input input') :
    Relate Blob.Below (s.concatenated first input) (s'.concatenated first' input') := by
  intro b b' hb hb'
  obtain ⟨rfl, -⟩ := concatenated_ok hb
  obtain ⟨rfl, -⟩ := concatenated_ok hb'
  cases hin with
  | some h => exact h

theorem concatLayer_below (h : s.Below s') : Relate Draft.Below s.concatLayer s'.concatLayer := by
  refine .skip (.skip (.step (by rw [h.target]) fun top _ => ?_))
  refine .skip (.bind (.lift h.source) fun first first' hfirst => ?_)
  have hrest : Relate (List.Forall₂ Blob.Below)
      ((s.inputs.drop 1).mapM (s.concatenated first))
      ((s'.inputs.drop 1).mapM (s'.concatenated first')) :=
    .mapM (List.forall₂_drop 1 h.inputs) fun input input' hin => concatenated_below hin
  refine .bind hrest fun others others' hothers => ?_
  have hall : List.Forall₂ Blob.Below (first :: others) (first' :: others') :=
    .cons hfirst hothers
  refine .bind (.lift (.mapM hall fun b b' hb => hb.channels.relate)) ?_
  intro channels channels' hchannels
  have haxes : List.Forall₂ (· = ·) (List.range (first.shape.length - 2))
      (List.range (first'.shape.length - 2)) := by
    rw [hfirst.shape.length_eq]
    exact List.forall₂_refl _
  have hcropped : Relate (List.Forall₂ (· ≤ ·))
      ((List.range (first.shape.length - 2)).mapM fun d => smallestExtent (d + 2) first others)
      ((List.range (first'.shape.length - 2)).mapM fun d =>
        smallestExtent (d + 2) first' others') := by
    refine .mapM haxes fun axis axis' ha => ?_
    rw [ha]
    exact smallestExtent_below hfirst hothers
  refine .bind (.lift hcropped) fun spatial spatial' hspatial => ?_
  refine .bind (.lift hfirst.samples.relate) fun samples samples' hsamples => ?_
  rw [any_same hall fun b b' hb => hb.same Blob.gradient]
  have hshape := extentsOf_mono (.cons hsamples (.cons (channels_sum_mono hchannels) hspatial))
  exact .bind (h.newBlob hshape) fun b b' hb => .ok (.single hb (.refl _))

/-! ### Blobs like the input -/

theorem valueLayer_below (h : s.Below s') (body : Body) :
    Relate Draft.Below (s.valueLayer body) (s'.valueLayer body) := by
  refine .skip (.skip (.step (by rw [h.target]) fun top _ => ?_))
  refine .skip (.bind (.lift h.source) fun src src' hsrc => ?_)
  rw [hsrc.same Blob.resident, hsrc.same Blob.forward, hsrc.same Blob.gradient]
  refine .bind (h.newBlob (extentsOf_mono hsrc.shape)) fun b b' hb => ?_
  exact .ok (.single hb (.refl _))

theorem elementwiseOutput_below (h : s.Below s') {input input' : Option Blob}
    (hin : Option.Rel Blob.Below input input') (top : Value) (i : Nat) :
    Relate Output.Below (s.elementwiseOutput input top i)
      (s'.elementwiseOutput input' top i) := by
  refine .bind (.lift (present_below hin)) fun src src' hsrc => ?_
  rw [hsrc.same Blob.name, hsrc.same Blob.gradient]
  split
  · exact .ok (.kept i)
  · refine .skip ?_
    exact .bind (h.newBlob (extentsOf_mono hsrc.shape)) fun b b' hb => .ok (.made hb)

theorem isAlias_same {outputs outputs' : List Output}
    (h : List.Forall₂ Output.Below outputs outputs') :
    outputs'.map isAlias = outputs.map isAlias := by
  induction h with
  | nil => rfl
  | cons ho _ ih =>
    rw [List.map_cons, List.map_cons, ih]
    cases ho <;> rfl

theorem elementwiseLayer_below (h : s.Below s') (body : List Bool → Body) :
    Relate Draft.Below (s.elementwiseLayer body) (s'.elementwiseLayer body) := by
  refine .skip (.skip ?_)
  have htops : List.Forall₂ (· = ·) s.declaration.outputs s.declaration.outputs :=
    List.forall₂_refl _
  have hmade : Relate (List.Forall₂ Output.Below)
      ((s.inputs.zip s.declaration.outputs).zipIdx.mapM fun p =>
        s.elementwiseOutput p.1.1 p.1.2 p.2)
      ((s'.inputs.zip s'.declaration.outputs).zipIdx.mapM fun p =>
        s'.elementwiseOutput p.1.1 p.1.2 p.2) := by
    rw [h.outputs]
    refine .mapM (rel_zipIdx (rel_zip h.inputs htops)) fun p p' hp => ?_
    rw [hp.2, hp.1.2]
    exact elementwiseOutput_below h hp.1.1 p'.1.2 p'.2
  refine .bind hmade fun outputs outputs' ho => ?_
  rw [isAlias_same ho]
  exact .ok ⟨ho, .refl _⟩

theorem softmaxLayer_below (h : s.Below s') :
    Relate Draft.Below s.softmaxLayer s'.softmaxLayer := by
  refine .skip (.skip (.step (by rw [h.target]) fun top _ => ?_))
  refine .skip (.bind (.lift h.source) fun src src' hsrc => ?_)
  rw [hsrc.same Blob.gradient]
  refine .bind (h.newBlob (extentsOf_mono hsrc.shape)) fun b b' hb => ?_
  exact .ok (.single hb (.refl _))

theorem lossLayer_below (h : s.Below s') : Relate Draft.Below s.lossLayer s'.lossLayer := by
  refine .skip (.skip (.bind (.lift h.source) fun src src' hsrc => ?_))
  refine .seq fun _ _ _ _ => .step (by rw [h.target]) fun top _ => .skip ?_
  have hscalar : List.Forall₂ (· ≤ ·) [(1 : Int)] [1] := .cons (Int.le_refl 1) .nil
  refine .bind (h.newBlob hscalar) fun loss loss' hloss => ?_
  rw [h.outputs]
  cases s.declaration.outputs.drop 1 with
  | nil => exact .ok (.single hloss (.refl _))
  | cons scoreTop rest =>
    refine .skip ?_
    refine .bind (h.newBlob (extentsOf_mono hsrc.shape)) fun score score' hscore => ?_
    exact .ok ⟨.cons (.made hloss) (.cons (.made hscore) .nil), .refl _⟩

/-! ### Deformations -/

theorem fieldSamples_below (h : s.Below s') (hd : s'.declaration = s.declaration) :
    Relate (· ≤ ·) s.fieldSamples s'.fieldSamples := by
  have hinputs := h.inputs
  unfold fieldSamples
  cases hs : s.inputs with
  | nil =>
    rw [hs] at hinputs
    rw [List.forall₂_nil_left_iff.mp hinputs]
    intro n n' hn hn'
    rw [intParam_same hd] at hn'
    obtain rfl : n = n' := eq_of_ok hn hn'
    exact Nat.le_refl n
  | cons input rest =>
    rw [hs] at hinputs
    obtain ⟨input', rest', hinput, -, hs'⟩ := List.forall₂_cons_left_iff.mp hinputs
    rw [hs']
    exact .bind (.lift (present_below hinput)) fun b b' hb => .lift hb.samples.relate

theorem createDeformationLayer_below (h : s.Below s') (hd : s'.declaration = s.declaration) :
    Relate Draft.Below s.createDeformationLayer s'.createDeformationLayer := by
  refine .skip (.skip ?_)
  refine .step (intParam_same hd _ _ _) fun nz _ => .step (intParam_same hd _ _ _) fun ny _ => ?_
  refine .step (intParam_same hd _ _ _) fun nx _ => ?_
  refine .step (intParam_same hd _ _ _) fun components _ => ?_
  refine .bind (fieldSamples_below h hd) fun samples samples' hsamples => ?_
  refine .step (by rw [h.target]) fun top _ => .skip ?_
  have hsize (axes : Int) : s'.graph.elementSizeFor axes = s.graph.elementSizeFor axes := by
    rw [Graph.elementSizeFor, h.graph.elementSize, Graph.elementSizeFor]
  have hrest (es : List Nat) : List.Forall₂ (· ≤ ·) es es :=
    List.forall₂_refl _
  rw [hsize]
  refine .bind (h.newBlob (extentsOf_mono (.cons hsamples (hrest _)))) fun b b' hb => ?_
  exact .ok (.single hb (.refl _))

theorem deformedExtents_below (h : s.Below s') (shapeFrom : String) (axes : Int) :
    Relate (List.Forall₂ (· ≤ ·)) (s.deformedExtents shapeFrom axes)
      (s'.deformedExtents shapeFrom axes) := by
  intro spatial spatial' hsp hsp'
  rcases deformedExtents_ok hsp with ⟨rfl, src, field, rest, hin, rfl⟩ | ⟨hne, ref, href, rfl⟩
  · rcases deformedExtents_ok hsp' with ⟨-, src', field', rest', hin', rfl⟩ | ⟨hne, -⟩
    · have hinputs := h.inputs
      rw [hin, hin'] at hinputs
      simp only [List.forall₂_cons, Option.rel_some_some] at hinputs
      exact sliced_mono hinputs.2.1.shape 1 (1 + axes)
    · exact absurd rfl hne
  · rcases deformedExtents_ok hsp' with ⟨hnil, -⟩ | ⟨-, ref', href', rfl⟩
    · exact absurd hnil hne
    · rw [h.graph.find?, href] at href'
      obtain rfl := Option.some.inj href'
      exact (h.graph.blob ref).spatial

theorem applyDeformationLayer_below (h : s.Below s') (hd : s'.declaration = s.declaration) :
    Relate Draft.Below s.applyDeformationLayer s'.applyDeformationLayer := by
  intro d d' hok hok'
  obtain ⟨src, rest, spatial, top, samples, channels, b, hin, hsp, -, hout, -, hsam, hch, hb, rfl⟩ :=
    applyDeformationLayer_ok hok
  obtain ⟨src', rest', spatial', top', samples', channels', b', hin', hsp', -, hout', -, hsam', hch',
    hb', rfl⟩ := applyDeformationLayer_ok hok'
  have hinputs := h.inputs
  rw [hin, hin'] at hinputs
  have hsrc : src.Below src' := by simpa using (List.forall₂_cons.mp hinputs).1
  have hsource : s'.shapeSource = s.shapeSource := by rw [shapeSource, hd, shapeSource]
  rw [hsource, hsrc.spatialRank] at hsp'
  have hspatial := deformedExtents_below h _ _ spatial spatial' hsp hsp'
  have hsamples := hsrc.samples.relate samples samples' hsam hsam'
  have hchannels := hsrc.channels.relate channels channels' hch hch'
  obtain rfl : top' = top := by
    have htops := h.outputs
    rw [hout, hout'] at htops
    exact List.head_eq_of_cons_eq htops
  have hshape := extentsOf_mono (.cons hsamples (.cons hchannels hspatial))
  rw [hsource]
  exact .single (h.newBlob hshape b b' hb hb') (.refl _)

/-- What a family makes of a site is below what it makes of a site with larger blobs. -/
theorem layer_below (h : s.Below s') (hd : s'.declaration = s.declaration) (t : LayerType) :
    Relate Draft.Below (s.layer t) (s'.layer t) := by
  cases t with
  | input | data | hdf5Data => exact sourceLayer_below h
  | convolution => exact convolutionLayer_below h hd
  | deconvolution => exact deconvolutionLayer_below h hd
  | pooling => exact poolingLayer_below h hd
  | concat => exact concatLayer_below h
  | relu | dropout => exact elementwiseLayer_below h _
  | valueTransformation | valueAugmentation => exact valueLayer_below h _
  | createDeformation => exact createDeformationLayer_below h hd
  | applyDeformation => exact applyDeformationLayer_below h hd
  | softmax => exact softmaxLayer_below h
  | softmaxWithLoss => exact lossLayer_below h

end NetFootprint.Site
