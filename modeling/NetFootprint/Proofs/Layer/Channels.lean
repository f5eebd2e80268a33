import NetFootprint.Proofs.Layer.Sizing

/-!
# Channels

The formulas of some families count the channels of the first input, and those of the families that
move a window also look at the first output. Here is what the construction has checked of the two.
-/

namespace NetFootprint

theorem Blob.shape_of_channels {b : Blob} {k : Nat} (h : b.channels = .ok k) :
    ∃ samples rest, b.shape = samples :: k :: rest := by
  rw [channels, extent] at h
  rcases hs : b.shape with _ | ⟨samples, _ | ⟨channels, rest⟩⟩
  · simp [hs] at h
  · simp [hs] at h
  · simp only [hs, List.getElem?_cons_succ, List.getElem?_cons_zero] at h
    obtain rfl := Except.ok.inj h
    exact ⟨samples, rest, rfl⟩

/-- Whether the formulas of a family count the channels of the first input. -/
def LayerType.countsChannels : LayerType → Bool
  | .convolution | .deconvolution | .valueTransformation | .softmax | .softmaxWithLoss => true
  | _ => false

/-- Whether a family makes its outputs by moving a window. -/
def LayerType.movesWindow : LayerType → Bool
  | .convolution | .deconvolution | .pooling => true
  | _ => false

namespace Site

variable {s : Site} {d : Draft} {t : LayerType}

/-- A layer that counts channels has a first input. Unless its family is one of the three that do
not look at the channels while building, it makes a blob of the same shape. -/
theorem layer_fed (ht : t.countsChannels = true) (h : s.layer t = .ok d) :
    ∃ src rest, s.inputs = some src :: rest ∧
      (t = .convolution ∨ t = .deconvolution ∨ t = .softmaxWithLoss ∨
        ∃ b, d.outputs = [.made b] ∧ b.isScalar = false ∧ b.shape = src.shape) := by
  cases t with
  | convolution =>
    obtain ⟨src, _, _, _, _, _, _, _, hin, -⟩ := convolutionLayer_ok h
    exact ⟨src, [], hin, .inl rfl⟩
  | deconvolution =>
    obtain ⟨src, rest, _, _, _, hin, -⟩ := deconvolutionLayer_ok h
    exact ⟨src, rest, hin, .inr (.inl rfl)⟩
  | softmaxWithLoss =>
    obtain ⟨src, rest, _, _, _, _, hin, -⟩ := lossLayer_ok h
    exact ⟨src, rest, hin, .inr (.inr (.inl rfl))⟩
  | valueTransformation =>
    obtain ⟨src, top, b, hin, -, -, hb, rfl⟩ := valueLayer_ok h
    obtain ⟨-, rfl⟩ := newBlob_eq_ok.mp hb
    exact ⟨src, [], hin, .inr (.inr (.inr ⟨_, rfl, rfl, toNat_extentsOf src.shape⟩))⟩
  | softmax =>
    obtain ⟨src, top, b, hin, -, -, hb, rfl⟩ := softmaxLayer_ok h
    obtain ⟨-, rfl⟩ := newBlob_eq_ok.mp hb
    exact ⟨src, [], hin, .inr (.inr (.inr ⟨_, rfl, rfl, toNat_extentsOf src.shape⟩))⟩
  | _ => cases ht

theorem layer_windowed (ht : t.movesWindow = true) (h : s.layer t = .ok d) :
    d.outputs ≠ [] ∧ ∀ o ∈ d.outputs, ∃ b, o = .made b ∧ b.isScalar = false := by
  cases t with
  | convolution =>
    obtain ⟨_, _, _, _, _, _, _, b, -, -, -, -, -, -, -, -, hb, rfl⟩ := convolutionLayer_ok h
    obtain ⟨-, rfl⟩ := newBlob_eq_ok.mp hb
    exact ⟨by simp, fun o ho => ⟨_, List.mem_singleton.mp ho, rfl⟩⟩
  | pooling =>
    obtain ⟨_, _, _, _, _, _, _, b, -, -, -, -, -, -, -, -, -, hb, rfl⟩ := poolingLayer_ok h
    obtain ⟨-, rfl⟩ := newBlob_eq_ok.mp hb
    exact ⟨by simp, fun o ho => ⟨_, List.mem_singleton.mp ho, rfl⟩⟩
  | deconvolution =>
    obtain ⟨src, rest, window, m, outputs, hin, hne, -, -, -, ho, rfl⟩ := deconvolutionLayer_ok h
    refine ⟨fun hnil => ?_, fun o hmem => ?_⟩
    · have hlen := ho.length_eq
      rw [show outputs = [] from hnil, hin, List.length_zip] at hlen
      have hpos := List.length_pos_iff.mpr hne
      simp only [List.length_cons, List.length_nil] at hlen
      omega
    · obtain ⟨p, -, hp⟩ := exists_of_mem_right ho hmem
      obtain ⟨_, _, _, _, b, -, -, -, -, -, hb, rfl⟩ := upConvolvedBlob_ok hp
      obtain ⟨-, rfl⟩ := newBlob_eq_ok.mp hb
      exact ⟨_, rfl, rfl⟩
  | _ => cases ht

end Site

end NetFootprint
