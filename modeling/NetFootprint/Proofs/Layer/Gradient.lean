import NetFootprint.Proofs.Layer.Channels
import NetFootprint.Proofs.Layer.InPlace

/-!
# Where a gradient comes from

In training a made blob has a gradient for one of three reasons: its layer has weights, it is a loss,
or an input that the layer hands on has one. What is handed on has all the axes that the output needs,
so it cannot be a scalar once the number of axes is known.
-/

namespace NetFootprint

namespace LayerType

/-- Whether layers of a family have weights, so that their outputs need gradients. -/
def weighted : LayerType → Bool
  | .convolution | .deconvolution => true
  | _ => false

/-- Whether the output of layers of a family needs a gradient if any of their inputs has one. -/
def merges : LayerType → Bool
  | .pooling | .concat | .valueTransformation | .valueAugmentation | .softmax => true
  | _ => false

end LayerType

namespace Site

variable {s : Site} {d : Draft} {t : LayerType} {b src : Blob} {i : Nat}

/-- The made output at a position has a gradient if this input has one. -/
def Hands (s : Site) (t : LayerType) (i : Nat) (src : Blob) : Prop :=
  t.merges = true ∧ some src ∈ s.inputs ∨ t.inPlace = true ∧ s.inputs[i]? = some (some src)

/-- The reasons for a gradient of a made output at a position. -/
def Graded (s : Site) (t : LayerType) (i : Nat) : Prop :=
  t.weighted = true ∨ t = .softmaxWithLoss ∧ i = 0 ∨ ∃ src, s.Hands t i src ∧ src.gradient = true

theorem gradient_newBlob {k : Sketch} (h : s.newBlob k = .ok b) :
    b.gradient = true ↔ s.graph.training = true ∧ k.gradient = true := by
  obtain ⟨-, rfl⟩ := newBlob_eq_ok.mp h
  simp [blobOf, and_comm]

theorem inPlace_made (ht : t.inPlace = true) (h : s.layer t = .ok d)
    (ho : d.outputs[i]? = some (.made b)) :
    ∃ src, s.inputs[i]? = some (some src) ∧ b.isScalar = false ∧ b.shape = src.shape ∧
      (b.gradient = true ↔ s.graph.training = true ∧ src.gradient = true) := by
  obtain ⟨input, top, hinput, -, hout⟩ := inPlace_at ht h ho
  obtain ⟨src, rfl, ⟨-, hkept⟩ | ⟨-, -, made, hmade, heq⟩⟩ := elementwiseOutput_ok hout
  · cases hkept
  · obtain rfl := Output.made.inj heq
    have hgradient := gradient_newBlob hmade
    obtain ⟨-, rfl⟩ := newBlob_eq_ok.mp hmade
    exact ⟨src, hinput, rfl, toNat_extentsOf src.shape, hgradient⟩

/-- A made blob has a gradient exactly for the reasons that its family gives, and in training only. -/
theorem gradient_made (h : s.layer t = .ok d) (ho : d.outputs[i]? = some (.made b)) :
    b.gradient = true ↔ s.graph.training = true ∧ s.Graded t i := by
  have hmem := List.mem_of_getElem? ho
  cases t with
  | relu | dropout =>
    obtain ⟨src, hsrc, -, -, hgradient⟩ := inPlace_made (by rfl) h ho
    rw [hgradient]
    simp [Graded, Hands, LayerType.weighted, LayerType.merges, LayerType.inPlace, hsrc]
  | input | data | hdf5Data =>
    obtain ⟨shapes, outputs, -, -, -, -, hall, rfl⟩ := sourceLayer_ok h
    obtain ⟨p, -, hp⟩ := exists_of_mem_right hall hmem
    obtain ⟨extents, made, -, -, -, hmade, heq⟩ := sourceBlob_ok hp
    obtain rfl := Output.made.inj heq
    rw [gradient_newBlob hmade]
    simp [Graded, Hands, LayerType.weighted, LayerType.merges, LayerType.inPlace]
  | convolution =>
    obtain ⟨_, _, _, _, _, _, _, made, -, -, -, -, -, -, -, -, hmade, rfl⟩ := convolutionLayer_ok h
    obtain rfl := Output.made.inj (List.mem_singleton.mp hmem)
    rw [gradient_newBlob hmade]
    simp [Graded, LayerType.weighted]
  | deconvolution =>
    obtain ⟨_, _, _, _, outputs, -, -, -, -, -, hall, rfl⟩ := deconvolutionLayer_ok h
    obtain ⟨p, -, hp⟩ := exists_of_mem_right hall hmem
    obtain ⟨_, _, _, _, made, -, -, -, -, -, hmade, heq⟩ := upConvolvedBlob_ok hp
    obtain rfl := Output.made.inj heq
    rw [gradient_newBlob hmade]
    simp [Graded, LayerType.weighted]
  | pooling =>
    obtain ⟨src, _, _, _, _, _, _, made, hin, -, -, -, -, -, -, -, -, hmade, rfl⟩ :=
      poolingLayer_ok h
    obtain rfl := Output.made.inj (List.mem_singleton.mp hmem)
    rw [gradient_newBlob hmade]
    simp [Graded, Hands, LayerType.weighted, LayerType.merges, LayerType.inPlace, hin]
  | concat =>
    obtain ⟨_, first, others, _, _, _, made, -, -, hin, -, -, -, -, hmade, rfl⟩ := concatLayer_ok h
    obtain rfl := Output.made.inj (List.mem_singleton.mp hmem)
    rw [gradient_newBlob hmade]
    simp [Graded, Hands, LayerType.weighted, LayerType.merges, LayerType.inPlace, hin]
  | valueTransformation | valueAugmentation =>
    obtain ⟨src, _, made, hin, -, -, hmade, rfl⟩ := valueLayer_ok h
    obtain rfl := Output.made.inj (List.mem_singleton.mp hmem)
    rw [gradient_newBlob hmade]
    simp [Graded, Hands, LayerType.weighted, LayerType.merges, LayerType.inPlace, hin]
  | createDeformation =>
    obtain ⟨_, _, _, _, _, _, made, -, -, -, -, -, -, -, -, hmade, rfl⟩ :=
      createDeformationLayer_ok h
    obtain rfl := Output.made.inj (List.mem_singleton.mp hmem)
    rw [gradient_newBlob hmade]
    simp [Graded, Hands, LayerType.weighted, LayerType.merges, LayerType.inPlace]
  | applyDeformation =>
    obtain ⟨_, _, _, _, _, _, made, -, -, -, -, -, -, -, hmade, rfl⟩ := applyDeformationLayer_ok h
    obtain rfl := Output.made.inj (List.mem_singleton.mp hmem)
    rw [gradient_newBlob hmade]
    simp [Graded, Hands, LayerType.weighted, LayerType.merges, LayerType.inPlace]
  | softmax =>
    obtain ⟨src, _, made, hin, -, -, hmade, rfl⟩ := softmaxLayer_ok h
    obtain rfl := Output.made.inj (List.mem_singleton.mp hmem)
    rw [gradient_newBlob hmade]
    simp [Graded, Hands, LayerType.weighted, LayerType.merges, LayerType.inPlace, hin]
  | softmaxWithLoss =>
    obtain ⟨_, _, _, _, _, loss, -, -, -, -, hloss, hcase⟩ := lossLayer_ok h
    cases i with
    | zero =>
      -- the loss stands first, whether there are scores or not
      have hfirst : loss = b := by
        rcases hcase with ⟨-, rfl⟩ | ⟨_, score, -, -, -, rfl⟩
        · simpa using ho
        · simpa using ho
      rw [← hfirst, gradient_newBlob hloss]
      simp [Graded]
    | succ j =>
      have hnone : ¬ s.Graded .softmaxWithLoss (j + 1) := by
        simp [Graded, Hands, LayerType.weighted, LayerType.merges, LayerType.inPlace]
      rcases hcase with ⟨-, rfl⟩ | ⟨_, score, -, -, hscore, rfl⟩
      · simp at ho
      · obtain rfl : score = b := by cases j <;> simp_all
        rw [gradient_newBlob hscore]
        simp [hnone]

theorem isScalar_loss (h : s.layer .softmaxWithLoss = .ok d) (ho : d.outputs[0]? = some (.made b)) :
    b.isScalar = true := by
  obtain ⟨_, _, _, _, _, loss, -, -, -, -, hloss, hcase⟩ := lossLayer_ok h
  obtain ⟨-, rfl⟩ := newBlob_eq_ok.mp hloss
  rcases hcase with ⟨-, rfl⟩ | ⟨_, score, -, -, -, rfl⟩
  · obtain rfl := Output.made.inj (Option.some.inj ho)
    rfl
  · obtain rfl := Output.made.inj (Option.some.inj ho)
    rfl

theorem axes_of_hands (h : s.layer t = .ok d) (ho : d.outputs[i]? = some (.made b))
    (hsrc : s.Hands t i src) :
    2 ≤ src.shape.length ∨ b.isScalar = false ∧ b.shape = src.shape := by
  have hmem := List.mem_of_getElem? ho
  rcases hsrc with ⟨ht, hsrc⟩ | ⟨ht, hsrc⟩
  · cases t with
    | pooling =>
      obtain ⟨src', _, _, _, _, _, channels, made, hin, -, -, -, -, -, -, -, hch, -, -⟩ :=
        poolingLayer_ok h
      obtain rfl : src = src' := by simpa [hin] using hsrc
      obtain ⟨samples, rest, hshape⟩ := Blob.shape_of_channels hch
      simp [hshape]
    | concat =>
      obtain ⟨_, first, others, channels, _, _, made, -, -, hin, -, hch, -, -, -, -⟩ :=
        concatLayer_ok h
      have hread : src ∈ first :: others := by simpa [hin] using hsrc
      obtain ⟨n, -, hn⟩ := exists_of_mem_right (mapM_eq_ok.mp hch).flip hread
      obtain ⟨samples, rest, hshape⟩ := Blob.shape_of_channels hn
      simp [hshape]
    | valueTransformation | valueAugmentation =>
      obtain ⟨src', _, made, hin, -, -, hmade, rfl⟩ := valueLayer_ok h
      obtain rfl : src = src' := by simpa [hin] using hsrc
      obtain rfl := eq_blobOf_of_mem hmade hmem
      exact .inr ⟨rfl, toNat_extentsOf src.shape⟩
    | softmax =>
      obtain ⟨src', _, made, hin, -, -, hmade, rfl⟩ := softmaxLayer_ok h
      obtain rfl : src = src' := by simpa [hin] using hsrc
      obtain rfl := eq_blobOf_of_mem hmade hmem
      exact .inr ⟨rfl, toNat_extentsOf src.shape⟩
    | _ => cases ht
  · obtain ⟨src', hsrc', hscalar, hshape, -⟩ := inPlace_made ht h ho
    obtain rfl : src = src' := by simpa [hsrc'] using hsrc.symm
    exact .inr ⟨hscalar, hshape⟩

end Site

end NetFootprint
