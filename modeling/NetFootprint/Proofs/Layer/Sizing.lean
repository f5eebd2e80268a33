import NetFootprint.Proofs.Layer.Output

/-!
# Axes and element sizes of the outputs

A layer whose inputs have an element size for each spatial axis makes blobs that have one, too, with
one exception: a family that may work in place gives every blob it makes the element size of its
first input, and if that is a scalar there is none. `layer_elementSize` states the rule,
`elementSize_inPlace` the exception.
-/

namespace NetFootprint

/-- A blob has its place in a network with a number of spatial axes: it is a scalar without any, or
it has all of them and an element size along each. -/
def Blob.Fits (b : Blob) (n : Nat) : Prop :=
  b.isScalar = true ∧ b.shape = [1] ∧ b.elementSize = [] ∨
    b.isScalar = false ∧ b.shape.length = n + 2 ∧ b.elementSize.length = n

theorem Blob.Fits.length_elementSize {b : Blob} {n : Nat} (h : b.Fits n)
    (hn : b.isScalar = true → n = 0) : b.elementSize.length = n := by
  rcases h with ⟨hs, -, hsize⟩ | ⟨-, -, hsize⟩
  · rw [hsize, hn hs]
    rfl
  · exact hsize

theorem Blob.Fits.length_shape {b : Blob} {n : Nat} (h : b.Fits n) (hs : b.isScalar = true) :
    b.shape.length = 1 := by
  rcases h with ⟨-, hshape, -⟩ | ⟨hs', -, -⟩
  · rw [hshape]
    rfl
  · rw [hs] at hs'
    cases hs'

theorem Window.lt_stride_of_axis {w : Window} {d : Nat} {a : Window.Axis}
    (h : w.axis d = .ok a) : d < w.stride.length := by
  rw [Window.axis] at h
  split at h
  · next a' ha =>
    simp only [Window.axis?, Option.bind_eq_bind, Option.bind_eq_some_iff] at ha
    obtain ⟨-, -, stride, hstride, -⟩ := ha
    exact (List.getElem?_eq_some_iff.mp hstride).1
  · cases h

namespace Site

variable {s : Site} {d : Draft} {t : LayerType} {src b : Blob} {n : Nat}

theorem shape_blobOf (k : Sketch) : (s.blobOf k).shape.length = k.shape.length := by
  simp [blobOf]

theorem elementSize_blobOf_own {k : Sketch} {size : List Float}
    (h : k.elementSize = some size) : (s.blobOf k).elementSize = size := by
  simp [blobOf, elementSizeOf, h]

theorem elementSize_blobOf_first {k : Sketch} {rest : List (Option Blob)}
    (h : k.elementSize = none) (hk : k.scalar = false) (hin : s.inputs = some src :: rest) :
    (s.blobOf k).elementSize = src.elementSize := by
  simp [blobOf, elementSizeOf, h, hk, hin]

theorem toNat_extentsOf (extents : List Nat) : (extentsOf extents).map Int.toNat = extents := by
  induction extents with
  | nil => rfl
  | cons e rest ih =>
    rw [extentsOf] at ih
    rw [extentsOf, List.map_cons, List.map_cons, ih]
    rfl

theorem spatial_blobOf {k : Sketch} {samples channels : Nat} {spatial : List Nat}
    (hk : k.scalar = false) (hshape : k.shape = extentsOf (samples :: channels :: spatial)) :
    (s.blobOf k).spatial = spatial := by
  have hs : (s.blobOf k).isScalar = false := hk
  rw [Blob.spatial, hs, blobOf, hshape, toNat_extentsOf]
  rfl

theorem eq_blobOf_of_mem {k : Sketch} {made : Blob} (hmade : s.newBlob k = .ok made)
    (hb : Output.made b ∈ [Output.made made]) : b = s.blobOf k := by
  obtain ⟨-, rfl⟩ := newBlob_eq_ok.mp hmade
  exact Output.made.inj (List.mem_singleton.mp hb)

/-! ## Layers without inputs -/

theorem unfed_blobOf {k : Sketch} (hk : k.scalar = false) (hl : 2 ≤ k.shape.length) :
    (s.blobOf k).isScalar = false ∧ 2 ≤ (s.blobOf k).shape.length := by
  rw [shape_blobOf]
  exact ⟨hk, hl⟩

/-- A layer without inputs makes blobs that have samples and channels. -/
theorem layer_unfed (h : s.layer t = .ok d) (hin : s.inputs = []) :
    d.outputs ≠ [] ∧ ∀ o ∈ d.outputs,
      ∃ b, o = .made b ∧ b.isScalar = false ∧ 2 ≤ b.shape.length := by
  cases t with
  | input | data | hdf5Data =>
    obtain ⟨shapes, outputs, -, hne, -, hlen, ho, rfl⟩ := sourceLayer_ok h
    refine ⟨fun hnil => hne ?_, fun o hmem => ?_⟩
    · have hzip := ho.length_eq
      rw [show outputs = [] from hnil, List.length_zip, hlen, Nat.min_self] at hzip
      exact List.length_eq_zero_iff.mp hzip
    · obtain ⟨p, -, hp⟩ := exists_of_mem_right ho hmem
      obtain ⟨extents, b, -, hl, -, hb, rfl⟩ := sourceBlob_ok hp
      obtain ⟨-, rfl⟩ := newBlob_eq_ok.mp hb
      exact ⟨_, rfl, unfed_blobOf rfl hl⟩
  | createDeformation =>
    obtain ⟨nz, ny, nx, components, samples, top, b, -, -, -, -, -, -, -, -, hb, rfl⟩ :=
      createDeformationLayer_ok h
    obtain ⟨-, rfl⟩ := newBlob_eq_ok.mp hb
    refine ⟨by simp, fun o hmem => ⟨_, List.mem_singleton.mp hmem, unfed_blobOf rfl ?_⟩⟩
    simp [extentsOf]
  | convolution =>
    obtain ⟨_, _, _, _, _, _, _, _, hsrc, -⟩ := convolutionLayer_ok h
    simp [hin] at hsrc
  | deconvolution =>
    obtain ⟨_, _, _, _, _, hsrc, -⟩ := deconvolutionLayer_ok h
    simp [hin] at hsrc
  | pooling =>
    obtain ⟨_, _, _, _, _, _, _, _, hsrc, -⟩ := poolingLayer_ok h
    simp [hin] at hsrc
  | concat =>
    obtain ⟨_, _, _, _, _, _, _, -, -, hsrc, -⟩ := concatLayer_ok h
    simp [hin] at hsrc
  | relu | dropout =>
    obtain ⟨_, hne, -⟩ := elementwiseLayer_ok h
    exact absurd hin hne
  | valueTransformation | valueAugmentation =>
    obtain ⟨_, _, _, hsrc, -⟩ := valueLayer_ok h
    simp [hin] at hsrc
  | applyDeformation =>
    obtain ⟨_, _, _, _, _, _, _, hsrc, -⟩ := applyDeformationLayer_ok h
    simp [hin] at hsrc
  | softmax =>
    obtain ⟨_, _, _, hsrc, -⟩ := softmaxLayer_ok h
    simp [hin] at hsrc
  | softmaxWithLoss =>
    obtain ⟨_, _, _, _, _, _, hsrc, -⟩ := lossLayer_ok h
    simp [hin] at hsrc

/-! ## Windows -/

/-- What is computed along each axis of a blob needs a stride along each. -/
theorem length_of_windows {R : Nat × Nat → Int → Prop} {strides : List Nat} {spatial : List Int}
    (h : List.Forall₂ R src.spatial.zipIdx spatial)
    (hR : ∀ p e, R p e → p.2 < strides.length) :
    spatial.length = src.spatial.length ∧ src.spatial.length ≤ strides.length := by
  have hlen : spatial.length = src.spatial.length := by rw [← h.length_eq, List.length_zipIdx]
  refine ⟨hlen, ?_⟩
  by_contra hlt
  -- the first axis without a stride
  have hi : strides.length < src.spatial.zipIdx.length := by
    rw [List.length_zipIdx]
    omega
  have hr := hR _ _ ((List.forall₂_iff_get.mp h).2 strides.length hi (by omega))
  simp at hr

theorem length_scaled {strides : List Nat} {size : List Float} (hfit : src.Fits n)
    (hn : src.spatial.length = n) (hs : src.spatial.length ≤ strides.length)
    (hsize : size.length = (src.elementSize.zip strides).length) : size.length = n := by
  have hsrc : src.elementSize.length = n := by
    apply hfit.length_elementSize
    intro hscalar
    rw [← hn]
    simp [Blob.spatial, hscalar]
  rw [hsize, List.length_zip, hsrc]
  omega

theorem length_stretched {sizes size : List Float} {strides : List Nat}
    (h : stretched sizes strides = .ok size) : size.length = (sizes.zip strides).length :=
  (mapM_eq_ok.mp h).length_eq.symm

theorem length_compressed {sizes size : List Float} {strides : List Nat}
    (h : compressed sizes strides = .ok size) : size.length = (sizes.zip strides).length :=
  (mapM_eq_ok.mp h).length_eq.symm

theorem elementSize_windowed {k : Sketch} {R : Nat × Nat → Int → Prop} {w : Window}
    {spatial : List Int} {size : List Float} (hfit : src.Fits n)
    (hsp : List.Forall₂ R src.spatial.zipIdx spatial)
    (hR : ∀ p e, R p e → ∃ a, w.axis p.2 = .ok a)
    (hsize : size.length = (src.elementSize.zip w.stride).length)
    (hshape : k.shape.length = spatial.length + 2) (hk : k.elementSize = some size)
    (hlen : (s.blobOf k).shape.length = n + 2) :
    (s.blobOf k).elementSize.length = n := by
  obtain ⟨hspatial, hstride⟩ := length_of_windows hsp fun p e hp => by
    obtain ⟨a, ha⟩ := hR p e hp
    exact Window.lt_stride_of_axis ha
  have hn : src.spatial.length = n := by
    rw [shape_blobOf, hshape] at hlen
    omega
  rw [elementSize_blobOf_own hk]
  exact length_scaled hfit hn hstride hsize

/-! ## All families -/

theorem elementSize_inPlace (ht : t.inPlace = true) (h : s.layer t = .ok d)
    (hb : .made b ∈ d.outputs) :
    ∃ first rest, s.inputs = some first :: rest ∧ b.elementSize = first.elementSize ∧
      b.isScalar = false := by
  have key {body : List Bool → Body} (h : s.elementwiseLayer body = .ok d) :
      ∃ first rest, s.inputs = some first :: rest ∧ b.elementSize = first.elementSize ∧
        b.isScalar = false := by
    obtain ⟨outputs, hne, hlen, ho, rfl⟩ := elementwiseLayer_ok h
    obtain ⟨input, rest, hin⟩ := List.exists_cons_of_ne_nil hne
    obtain ⟨top, tops, htop⟩ : ∃ top tops, s.declaration.outputs = top :: tops := by
      apply List.exists_cons_of_ne_nil
      intro hnil
      simp [hin, hnil] at hlen
    -- the output at position zero needs the first input
    have hfirst : ∃ first, input = some first := by
      have hcopy := ho
      rw [hin, htop, List.zip_cons_cons, List.zipIdx_cons] at hcopy
      cases hcopy with
      | cons hhead _ =>
        obtain ⟨first, hsome, -⟩ := elementwiseOutput_ok hhead
        exact ⟨first, hsome⟩
    obtain ⟨first, rfl⟩ := hfirst
    obtain ⟨p, -, hp⟩ := exists_of_mem_right ho hb
    obtain ⟨src, -, ⟨-, hkept⟩ | ⟨-, -, made, hmade, heq⟩⟩ := elementwiseOutput_ok hp
    · cases hkept
    · obtain rfl : b = made := Output.made.inj heq
      obtain ⟨-, rfl⟩ := newBlob_eq_ok.mp hmade
      exact ⟨first, rest, hin, elementSize_blobOf_first rfl rfl hin, rfl⟩
  cases t with
  | relu | dropout => exact key h
  | _ => cases ht

theorem length_elementSizeFor
    (hknown : ∀ size, s.graph.elementSize = some size → size.length = n) {axes : Int}
    (ha : axes.toNat = n) : (s.graph.elementSizeFor axes).length = n := by
  unfold Graph.elementSizeFor
  cases he : s.graph.elementSize with
  | none => simpa using ha
  | some size => exact hknown size he

section

variable {rest : List (Option Blob)} {k : Sketch}

theorem length_elementSize_lent (hfit : ∀ src, some src ∈ s.inputs → src.Fits n)
    (hin : s.inputs = some src :: rest) (hk : k.elementSize = none) (hks : k.scalar = false)
    (hz : src.isScalar = true → n = 0) : (s.blobOf k).elementSize.length = n := by
  rw [elementSize_blobOf_first hk hks hin]
  exact (hfit src (by simp [hin])).length_elementSize hz

theorem length_elementSize_copied (hfit : ∀ src, some src ∈ s.inputs → src.Fits n)
    (hin : s.inputs = some src :: rest) (hk : k.elementSize = none) (hks : k.scalar = false)
    (hshape : k.shape = extentsOf src.shape) (hlen : (s.blobOf k).shape.length = n + 2) :
    (s.blobOf k).elementSize.length = n := by
  apply length_elementSize_lent hfit hin hk hks
  intro hscalar
  have hone := (hfit src (by simp [hin])).length_shape hscalar
  rw [shape_blobOf, hshape, extentsOf, List.length_map, hone] at hlen
  omega

end

section

variable (hfit : ∀ src, some src ∈ s.inputs → src.Fits n) (hb : .made b ∈ d.outputs)
  (hlen : b.shape.length = n + 2)

include hfit hb hlen

theorem convolutionLayer_elementSize (h : s.convolutionLayer = .ok d) :
    b.elementSize.length = n := by
  obtain ⟨src, top, window, m, samples, spatial, size, made, hin, -, -, -, -, -, hsp, hsize,
    hmade, rfl⟩ := convolutionLayer_ok h
  obtain rfl := eq_blobOf_of_mem hmade hb
  refine elementSize_windowed (hfit src (by simp [hin])) hsp (fun p e hp => ?_)
    (length_stretched hsize) (by simp [extentsOf]) rfl hlen
  obtain ⟨a, ha, -⟩ := convolvedExtent_ok hp
  exact ⟨a, ha⟩

theorem deconvolutionLayer_elementSize (h : s.deconvolutionLayer = .ok d) :
    b.elementSize.length = n := by
  obtain ⟨first, rest, window, m, outputs, -, -, -, -, -, ho, rfl⟩ := deconvolutionLayer_ok h
  obtain ⟨p, hmem, hp⟩ := exists_of_mem_right ho hb
  obtain ⟨src, samples, spatial, size, made, hin, -, -, hsp, hsize, hmade, heq⟩ :=
    upConvolvedBlob_ok hp
  obtain rfl : b = made := Output.made.inj heq
  obtain ⟨-, rfl⟩ := newBlob_eq_ok.mp hmade
  have hsrc : some src ∈ s.inputs := hin ▸ (List.of_mem_zip hmem).1
  refine elementSize_windowed (hfit src hsrc) hsp (fun p e hp => ?_) (length_compressed hsize)
    (by simp [extentsOf]) rfl hlen
  obtain ⟨a, ha, -⟩ := upConvolvedExtent_ok hp
  exact ⟨a, ha⟩

theorem poolingLayer_elementSize (h : s.poolingLayer = .ok d) : b.elementSize.length = n := by
  obtain ⟨src, top, window, spatial, size, samples, channels, made, hin, -, -, -, hsp, -, hsize,
    -, -, hmade, rfl⟩ := poolingLayer_ok h
  obtain rfl := eq_blobOf_of_mem hmade hb
  obtain ⟨raw, hraw, hcase⟩ := poolingWindows_ok hsp
  have hspatial : spatial.length = raw.length := by
    rcases hcase with ⟨-, rfl⟩ | ⟨-, htrim⟩
    · rfl
    · rw [← htrim.length_eq, List.length_zipIdx, List.length_zip, ← hraw.length_eq,
        List.length_zipIdx, Nat.min_self]
  refine elementSize_windowed (hfit src (by simp [hin])) hraw (fun p e hp => ?_)
    (length_stretched hsize) (by simp [extentsOf, hspatial]) rfl hlen
  obtain ⟨a, ha, -⟩ := hp
  exact ⟨a, ha⟩

theorem concatLayer_elementSize (h : s.concatLayer = .ok d) : b.elementSize.length = n := by
  obtain ⟨top, first, others, channels, spatial, samples, made, -, -, hin, -, -, hsp, -, hmade,
    rfl⟩ := concatLayer_ok h
  obtain rfl := eq_blobOf_of_mem hmade hb
  refine length_elementSize_lent hfit hin rfl rfl fun hscalar => ?_
  have hone := (hfit first (by simp [hin])).length_shape hscalar
  have hspatial := (mapM_eq_ok.mp hsp).length_eq
  rw [List.length_range, hone] at hspatial
  rw [shape_blobOf] at hlen
  simp only [extentsOf, List.length_map, List.length_cons] at hlen
  omega

theorem valueLayer_elementSize {body : Body} (h : s.valueLayer body = .ok d) :
    b.elementSize.length = n := by
  obtain ⟨src, top, made, hin, -, -, hmade, rfl⟩ := valueLayer_ok h
  obtain rfl := eq_blobOf_of_mem hmade hb
  exact length_elementSize_copied hfit hin rfl rfl rfl hlen

theorem applyDeformationLayer_elementSize (h : s.applyDeformationLayer = .ok d) :
    b.elementSize.length = n := by
  obtain ⟨src, rest, spatial, top, samples, channels, made, hin, -, hspatial, -, -, -, -, hmade,
    rfl⟩ := applyDeformationLayer_ok h
  obtain rfl := eq_blobOf_of_mem hmade hb
  refine length_elementSize_lent hfit hin rfl rfl fun hscalar => ?_
  rw [Blob.spatialRank, hscalar, if_pos rfl] at hspatial
  rw [shape_blobOf] at hlen
  simp only [extentsOf, List.length_map, List.length_cons] at hlen
  omega

theorem softmaxLayer_elementSize (h : s.softmaxLayer = .ok d) : b.elementSize.length = n := by
  obtain ⟨src, top, made, hin, -, -, hmade, rfl⟩ := softmaxLayer_ok h
  obtain rfl := eq_blobOf_of_mem hmade hb
  exact length_elementSize_copied hfit hin rfl rfl rfl hlen

theorem lossLayer_elementSize (h : s.lossLayer = .ok d) (hs : b.isScalar = false) :
    b.elementSize.length = n := by
  obtain ⟨src, rest, top, tops, helper, loss, hin, -, -, -, hl, ⟨-, rfl⟩ |
    ⟨scoreTop, score, -, -, hscore, rfl⟩⟩ := lossLayer_ok h
  · obtain rfl := eq_blobOf_of_mem hl hb
    cases hs
  · obtain ⟨-, rfl⟩ := newBlob_eq_ok.mp hl
    obtain ⟨-, rfl⟩ := newBlob_eq_ok.mp hscore
    rcases List.mem_cons.mp hb with heq | heq
    · obtain rfl := Output.made.inj heq
      cases hs
    · obtain rfl := Output.made.inj (List.mem_singleton.mp heq)
      exact length_elementSize_copied hfit hin rfl rfl rfl hlen

end

theorem sourceLayer_elementSize
    (hknown : ∀ size, s.graph.elementSize = some size → size.length = n)
    (h : s.sourceLayer = .ok d) (hb : .made b ∈ d.outputs) (hlen : b.shape.length = n + 2) :
    b.elementSize.length = n := by
  obtain ⟨shapes, outputs, -, -, -, -, ho, rfl⟩ := sourceLayer_ok h
  obtain ⟨p, -, hp⟩ := exists_of_mem_right ho hb
  obtain ⟨extents, made, -, -, -, hmade, heq⟩ := sourceBlob_ok hp
  obtain rfl : b = made := Output.made.inj heq
  obtain ⟨-, rfl⟩ := newBlob_eq_ok.mp hmade
  rw [shape_blobOf] at hlen
  rw [elementSize_blobOf_own rfl]
  exact length_elementSizeFor hknown (by simp only at hlen; omega)

theorem createDeformationLayer_elementSize
    (hknown : ∀ size, s.graph.elementSize = some size → size.length = n)
    (h : s.createDeformationLayer = .ok d) (hb : .made b ∈ d.outputs)
    (hlen : b.shape.length = n + 2) : b.elementSize.length = n := by
  obtain ⟨nz, ny, nx, components, samples, top, made, -, -, -, -, -, -, -, -, hmade, rfl⟩ :=
    createDeformationLayer_ok h
  obtain rfl := eq_blobOf_of_mem hmade hb
  rw [shape_blobOf] at hlen
  rw [elementSize_blobOf_own rfl]
  apply length_elementSizeFor hknown
  by_cases hz : 0 < nz
  · simp [extentsOf, hz] at hlen ⊢
    omega
  · simp [extentsOf, hz] at hlen ⊢
    omega

/-- Where every input fits, so does every blob with the right number of axes that is made, as long
as a first input that is a scalar does not lend its element size to blobs made in place. -/
theorem layer_elementSize (h : s.layer t = .ok d)
    (hknown : ∀ size, s.graph.elementSize = some size → size.length = n)
    (hfit : ∀ src, some src ∈ s.inputs → src.Fits n)
    (hfirst : ∀ first rest, t.inPlace = true → s.inputs = some first :: rest →
      first.isScalar = true → n = 0)
    (hb : .made b ∈ d.outputs) (hs : b.isScalar = false) (hlen : b.shape.length = n + 2) :
    b.elementSize.length = n := by
  cases t with
  | input | data | hdf5Data => exact sourceLayer_elementSize hknown h hb hlen
  | convolution => exact convolutionLayer_elementSize hfit hb hlen h
  | deconvolution => exact deconvolutionLayer_elementSize hfit hb hlen h
  | pooling => exact poolingLayer_elementSize hfit hb hlen h
  | concat => exact concatLayer_elementSize hfit hb hlen h
  | relu | dropout =>
    obtain ⟨first, rest, hin, hsize, -⟩ := elementSize_inPlace rfl h hb
    rw [hsize]
    exact (hfit first (by simp [hin])).length_elementSize (hfirst first rest rfl hin)
  | valueTransformation | valueAugmentation => exact valueLayer_elementSize hfit hb hlen h
  | createDeformation => exact createDeformationLayer_elementSize hknown h hb hlen
  | applyDeformation => exact applyDeformationLayer_elementSize hfit hb hlen h
  | softmax => exact softmaxLayer_elementSize hfit hb hlen h
  | softmaxWithLoss => exact lossLayer_elementSize hfit hb hlen h hs

end Site

end NetFootprint
