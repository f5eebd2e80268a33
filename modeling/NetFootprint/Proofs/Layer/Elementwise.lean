import NetFootprint.Proofs.Layer.Refusal
import NetFootprint.Proofs.Layer.Sizing

/-!
# Elementwise layers, slot by slot

An elementwise layer pairs its inputs with the names of its outputs, and every pair is settled on
its own: where the name is that of the input, the output is the input itself, and elsewhere a blob
like the input is made. So the layer can be built as soon as each pair can be settled.
-/

namespace NetFootprint

/-- An input of an elementwise layer, and the name of the output at its position. -/
structure Slot where
  src : Blob
  top : Value

namespace Slot

def kept (p : Slot) : Bool := p.top.equals p.src.name

end Slot

namespace Site

variable {s : Site} {p : Slot} {slots : List Slot}

def made (s : Site) (p : Slot) : Blob :=
  s.blobOf
    { name := p.top, shape := extentsOf p.src.shape, resident := true, gradient := p.src.gradient }

@[simp] theorem shape_made (s : Site) (p : Slot) : (s.made p).shape = p.src.shape :=
  toNat_extentsOf p.src.shape

def settled (s : Site) (p : Slot) (i : Nat) : Output :=
  if p.kept then .kept i else .made (s.made p)

/-- A slot keeps its input, or its name is free and a blob like its input can be made. -/
def Settles (s : Site) (p : Slot) : Prop :=
  p.kept = true ∨ s.requireFresh p.top = .ok () ∧ ∀ e ∈ p.src.shape, 1 ≤ e

theorem isAlias_settled (s : Site) (p : Slot) (i : Nat) : isAlias (s.settled p i) = p.kept := by
  rw [settled]
  cases p.kept with
  | false => rfl
  | true => rfl

theorem Settles.elementwiseOutput (h : s.Settles p) (i : Nat) :
    s.elementwiseOutput (some p.src) p.top i = .ok (s.settled p i) := by
  have hread : s.elementwiseOutput (some p.src) p.top i =
      if p.kept then .ok (.kept i) else do
        s.requireFresh p.top
        return .made (← s.newBlob
          { name := p.top, shape := extentsOf p.src.shape, resident := true
            gradient := p.src.gradient }) := rfl
  rw [hread, settled]
  cases hkept : p.kept with
  | true => rfl
  | false =>
    obtain ⟨hfresh, hpos⟩ := h.resolve_left (by simp [hkept])
    have hmade : s.newBlob { name := p.top, shape := extentsOf p.src.shape, resident := true
                             gradient := p.src.gradient } = .ok (s.made p) :=
      newBlob_eq_ok.mpr ⟨pos_extentsOf hpos, rfl⟩
    rw [hfresh, hmade]
    rfl

theorem elementwiseLayer_slots (hin : s.inputs = slots.map fun p => some p.src)
    (hout : s.declaration.outputs = slots.map Slot.top) (hne : slots ≠ [])
    (h : ∀ p ∈ slots, s.Settles p) (body : List Bool → Body) :
    s.elementwiseLayer body =
      .ok ⟨slots.zipIdx.map fun p => s.settled p.1 p.2, body (slots.map Slot.kept)⟩ := by
  have hsome : 1 ≤ slots.length := List.length_pos_iff.mpr hne
  have halias : (slots.zipIdx.map fun p => s.settled p.1 p.2).map isAlias =
      slots.map Slot.kept := by
    have hfirst := List.zipIdx_map_fst 0 slots
    conv_rhs => rw [← hfirst]
    rw [List.map_map, List.map_map]
    exact List.map_congr_left fun p _ => isAlias_settled s p.1 p.2
  have houtputs : (s.inputs.zip s.declaration.outputs).zipIdx.mapM
      (fun p => s.elementwiseOutput p.1.1 p.1.2 p.2) =
        .ok (slots.zipIdx.map fun p => s.settled p.1 p.2) := by
    rw [hin, hout, List.zip_map', List.zipIdx_map, mapM_eq_ok, List.forall₂_map_left_iff,
      List.forall₂_map_right_iff, List.forall₂_same]
    rintro ⟨p, i⟩ hp
    exact (h p (List.fst_mem_of_mem_zipIdx hp)).elementwiseOutput i
  simp only [elementwiseLayer, bind_eq_ok, pure_eq_ok, requireInputs_eq_ok, requireOutputs_eq_ok,
    inRange_iff]
  refine ⟨(), ⟨by simp [hin, hsome], by simp⟩, (), ⟨by simp [hin, hout], by simp [hin, hout]⟩,
    _, houtputs, ?_⟩
  rw [halias]

end Site

end NetFootprint
