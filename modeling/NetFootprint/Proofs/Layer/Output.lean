import NetFootprint.Proofs.Layer.Draft

/-!
# Outputs of a layer

What holds of the outputs of every family: they stand in the order of the declared names, and each
is a fresh blob of that name or the input of that name.
-/

namespace NetFootprint

namespace Site

variable {s : Site} {d : Draft} {t : LayerType}

/-- What an output of a given name may be: a blob that has just been made, whose name was free, or
the input at a position, which has the name already and in whose place the family may work. -/
inductive Makes (s : Site) (t : LayerType) (top : Value) : Output → Prop where
  | made (k : Sketch) (b : Blob) (hname : k.name = top) (hfree : s.requireFresh top = .ok ())
      (hb : s.newBlob k = .ok b)
      (hscalar : k.scalar = true → k.shape = [1] ∧ k.elementSize = none) : Makes s t top (.made b)
  | kept (i : Nat) (src : Blob) (hplace : t.inPlace = true)
      (hsrc : s.inputs[i]? = some (some src)) (hname : top.equals src.name = true) :
      Makes s t top (.kept i)

theorem makes_plain {top : Value} {k : Sketch} {b : Blob} (hname : k.name = top)
    (hfree : s.requireFresh top = .ok ()) (hb : s.newBlob k = .ok b) (hk : k.scalar = false) :
    s.Makes t top (.made b) :=
  .made k b hname hfree hb (by simp [hk])

theorem makes_sourceBlob {top shape : Value} {o : Output} (h : s.sourceBlob top shape = .ok o) :
    s.Makes t top o := by
  obtain ⟨extents, b, -, -, hf, hb, rfl⟩ := sourceBlob_ok h
  exact makes_plain rfl hf hb rfl

theorem makes_upConvolvedBlob {w : Window} {n : Nat} {input : Option Blob} {top : Value}
    {o : Output} (h : s.upConvolvedBlob w n input top = .ok o) : s.Makes t top o := by
  obtain ⟨src, samples, spatial, size, b, -, hf, -, -, -, hb, rfl⟩ := upConvolvedBlob_ok h
  exact makes_plain rfl hf hb rfl

theorem makes_elementwiseOutput {input : Option Blob} {top : Value} {i : Nat} {o : Output}
    (ht : t.inPlace = true) (hin : s.inputs[i]? = some input)
    (h : s.elementwiseOutput input top i = .ok o) : s.Makes t top o := by
  obtain ⟨src, rfl, ⟨ha, rfl⟩ | ⟨-, hf, b, hb, rfl⟩⟩ := elementwiseOutput_ok h
  · exact .kept i src ht hin ha
  · exact makes_plain rfl hf hb rfl

/-- The outputs of every family stand in the order of the declared names. -/
theorem layer_outputs (h : s.layer t = .ok d) :
    List.Forall₂ (s.Makes t) s.declaration.outputs d.outputs := by
  cases t with
  | input | data | hdf5Data =>
    obtain ⟨shapes, outputs, -, -, -, hlen, ho, rfl⟩ := sourceLayer_ok h
    refine List.forall₂_iff_get.mpr ⟨by simpa [hlen] using ho.length_eq, fun i hi ho' => ?_⟩
    have hz := (List.forall₂_iff_get.mp ho).2 i (by simpa [hlen] using hi) ho'
    simp only [List.get_eq_getElem, List.getElem_zip] at hz
    exact makes_sourceBlob hz
  | convolution =>
    obtain ⟨src, top, window, n, samples, spatial, size, b, -, ht, -, -, hf, -, -, -, hb, rfl⟩ :=
      convolutionLayer_ok h
    rw [ht]
    exact .cons (makes_plain rfl hf hb rfl) .nil
  | deconvolution =>
    obtain ⟨src, rest, window, n, outputs, -, -, hlen, -, -, ho, rfl⟩ := deconvolutionLayer_ok h
    refine List.forall₂_iff_get.mpr ⟨by simpa [hlen] using ho.length_eq, fun i hi ho' => ?_⟩
    have hz := (List.forall₂_iff_get.mp ho).2 i (by simp only [List.length_zip]; omega) ho'
    simp only [List.get_eq_getElem, List.getElem_zip] at hz
    exact makes_upConvolvedBlob hz
  | pooling =>
    obtain ⟨src, top, window, spatial, size, samples, channels, b, -, ht, -, hf, -, -, -, -, -, hb,
      rfl⟩ := poolingLayer_ok h
    rw [ht]
    exact .cons (makes_plain rfl hf hb rfl) .nil
  | concat =>
    obtain ⟨top, first, others, channels, spatial, samples, b, ht, hf, -, -, -, -, -, hb, rfl⟩ :=
      concatLayer_ok h
    rw [ht]
    exact .cons (makes_plain rfl hf hb rfl) .nil
  | relu | dropout =>
    obtain ⟨outputs, -, hlen, ho, rfl⟩ := elementwiseLayer_ok h
    refine List.forall₂_iff_get.mpr ⟨by simpa [hlen] using ho.length_eq, fun i hi ho' => ?_⟩
    have hz := (List.forall₂_iff_get.mp ho).2 i (by simpa [hlen] using hi) ho'
    simp only [List.get_eq_getElem, List.getElem_zipIdx, List.getElem_zip, Nat.zero_add] at hz
    exact makes_elementwiseOutput rfl (List.getElem?_eq_getElem (by omega)) hz
  | valueTransformation | valueAugmentation =>
    obtain ⟨src, top, b, -, ht, hf, hb, rfl⟩ := valueLayer_ok h
    rw [ht]
    exact .cons (makes_plain rfl hf hb rfl) .nil
  | createDeformation =>
    obtain ⟨nz, ny, nx, components, samples, top, b, -, -, -, -, -, -, ht, hf, hb, rfl⟩ :=
      createDeformationLayer_ok h
    rw [ht]
    exact .cons (makes_plain rfl hf hb rfl) .nil
  | applyDeformation =>
    obtain ⟨src, rest, spatial, top, samples, channels, b, -, -, -, ht, hf, -, -, hb, rfl⟩ :=
      applyDeformationLayer_ok h
    rw [ht]
    exact .cons (makes_plain rfl hf hb rfl) .nil
  | softmax =>
    obtain ⟨src, top, b, -, ht, hf, hb, rfl⟩ := softmaxLayer_ok h
    rw [ht]
    exact .cons (makes_plain rfl hf hb rfl) .nil
  | softmaxWithLoss =>
    obtain ⟨src, rest, top, tops, helper, loss, -, ht, -, hf, hl, ⟨rfl, rfl⟩ |
      ⟨scoreTop, score, rfl, hf', hs, rfl⟩⟩ := lossLayer_ok h
    · rw [ht]
      exact .cons (.made _ _ rfl hf hl (by simp)) .nil
    · rw [ht]
      exact .cons (.made _ _ rfl hf hl (by simp)) (.cons (makes_plain rfl hf' hs rfl) .nil)

theorem family_layer (h : s.layer t = .ok d) : d.body.family = t.family := by
  cases t with
  | input | data | hdf5Data =>
    obtain ⟨shapes, outputs, -, -, -, -, -, rfl⟩ := sourceLayer_ok h
    rfl
  | convolution =>
    obtain ⟨src, top, window, n, samples, spatial, size, b, -, -, -, -, -, -, -, -, -, rfl⟩ :=
      convolutionLayer_ok h
    rfl
  | deconvolution =>
    obtain ⟨src, rest, window, n, outputs, -, -, -, -, -, -, rfl⟩ := deconvolutionLayer_ok h
    rfl
  | pooling =>
    obtain ⟨src, top, window, spatial, size, samples, channels, b, -, -, -, -, -, -, -, -, -, -,
      rfl⟩ := poolingLayer_ok h
    rfl
  | concat =>
    obtain ⟨top, first, others, channels, spatial, samples, b, -, -, -, -, -, -, -, -, rfl⟩ :=
      concatLayer_ok h
    rfl
  | relu | dropout =>
    obtain ⟨outputs, -, -, -, rfl⟩ := elementwiseLayer_ok h
    rfl
  | valueTransformation | valueAugmentation =>
    obtain ⟨src, top, b, -, -, -, -, rfl⟩ := valueLayer_ok h
    rfl
  | createDeformation =>
    obtain ⟨nz, ny, nx, components, samples, top, b, -, -, -, -, -, -, -, -, -, rfl⟩ :=
      createDeformationLayer_ok h
    rfl
  | applyDeformation =>
    obtain ⟨src, rest, spatial, top, samples, channels, b, -, -, -, -, -, -, -, -, rfl⟩ :=
      applyDeformationLayer_ok h
    rfl
  | softmax =>
    obtain ⟨src, top, b, -, -, -, -, rfl⟩ := softmaxLayer_ok h
    rfl
  | softmaxWithLoss =>
    obtain ⟨src, rest, top, tops, helper, loss, -, -, -, -, -, ⟨-, rfl⟩ |
      ⟨scoreTop, score, -, -, -, rfl⟩⟩ := lossLayer_ok h
    · rfl
    · rfl

end Site

end NetFootprint
