import NetFootprint.Proofs.Layer.Explained
import NetFootprint.Proofs.Layer.Sizing

/-!
# Deformations

A deformation field has its components behind all other axes, where other blobs have none: cut at
the number of axes of the blob that is deformed, it still gives the sizes that it was declared with.
So a blob can be deformed by every field that has as many sizes as the blob has axes.
-/

namespace NetFootprint

theorem sliced_middle {α : Type} (first last : α) (xs : List α) :
    sliced (first :: xs ++ [last]) 1 (1 + xs.length) = xs := by
  have hend : (1 + (xs.length : Int)).toNat = xs.length + 1 := by omega
  have hpos : ¬ 1 + (xs.length : Int) < 0 := by omega
  simp [sliced, cutPoint, hend, hpos]

namespace Site

variable {s s' : Site} {d : Draft} {src : Blob} {rest : List (Option Blob)} {top : Value}
  {sizes spatial : List Nat} {samples channels : Nat}

/-- The sizes that are declared for a deformation field; the first one may be left out. -/
def FieldSizes (s : Site) (sizes : List Nat) : Prop :=
  ∃ nz ny nx, s.intParam "nz" (some 0) 0 = .ok nz ∧ s.intParam "ny" none 1 = .ok ny ∧
    s.intParam "nx" none 1 = .ok nx ∧ sizes = if 0 < nz then [nz, ny, nx] else [ny, nx]

theorem FieldSizes.of_declaration (h : s'.FieldSizes sizes)
    (hd : s'.declaration = s.declaration) : s.FieldSizes sizes := by
  simpa only [FieldSizes, intParam_same hd] using h

theorem FieldSizes.pos (h : s.FieldSizes sizes) : ∀ e ∈ sizes, 1 ≤ e := by
  obtain ⟨nz, ny, nx, -, hy, hx, rfl⟩ := h
  have hy := intParam_ge hy
  have hx := intParam_ge hx
  by_cases hz : 0 < nz
  · simp [hz, hy, hx]
    omega
  · simp [hz, hy, hx]

theorem createDeformationLayer_made (h : s.createDeformationLayer = .ok d) :
    ∃ sizes samples components b, s.FieldSizes sizes ∧ d.outputs = [.made b] ∧
      b.isScalar = false ∧ b.shape = samples :: sizes ++ [components] := by
  obtain ⟨nz, ny, nx, components, samples, top, b, -, hz, hy, hx, -, -, -, -, hb, rfl⟩ :=
    createDeformationLayer_ok h
  obtain ⟨-, rfl⟩ := newBlob_eq_ok.mp hb
  exact ⟨_, samples, components, _, ⟨nz, ny, nx, hz, hy, hx, rfl⟩, rfl, rfl, toNat_extentsOf _⟩

theorem deformedExtents_field {field : Blob} {components : Nat} {axes : Int}
    (hin : s.inputs = some src :: some field :: rest)
    (hfield : field.shape = samples :: sizes ++ [components]) (haxes : axes = sizes.length) :
    s.deformedExtents "" axes = .ok sizes := by
  have hcut : sliced field.shape 1 (1 + axes) = sizes := by rw [hfield, haxes, sliced_middle]
  simp only [deformedExtents, if_true, hin, List.drop_one, List.tail_cons, bind_eq_ok, lift_eq_ok,
    pure_eq_ok, present_eq_ok]
  exact ⟨field, rfl, hcut⟩

theorem deformedExtents_named {shapeFrom : String} {axes : Int} {ref : Nat}
    (hne : shapeFrom ≠ "") (hfind : s.graph.find? (.text shapeFrom) = some ref) :
    s.deformedExtents shapeFrom axes = .ok (s.graph.blob ref).spatial := by
  simp only [deformedExtents, if_neg hne, bind_eq_ok, pure_eq_ok, resolve_eq_ok]
  exact ⟨ref, ⟨rfl, hfind⟩, rfl⟩

/-- A source is deformed to any positive extents, if there are as many as it has axes. -/
theorem exists_applyDeformationLayer (hin : s.inputs = some src :: rest)
    (hrest : s.shapeSource = "" → rest ≠ []) (hout : s.declaration.outputs = [top])
    (hfresh : s.requireFresh top = .ok ())
    (hsp : s.deformedExtents s.shapeSource src.spatialRank = .ok spatial)
    (hlen : (spatial.length : Int) = src.spatialRank) (hsamples : src.samples = .ok samples)
    (hchannels : src.channels = .ok channels)
    (hpos : ∀ e ∈ samples :: channels :: spatial, 1 ≤ e) :
    ∃ b, s.applyDeformationLayer = .ok ⟨[.made b], .applyDeformation s.shapeSource⟩ ∧
      b.isScalar = false ∧ b.shape = samples :: channels :: spatial := by
  have hinputs : s.requireInputs (if s.shapeSource = "" then 2 else 1) none = .ok () := by
    rw [requireInputs_eq_ok, inRange_iff, hin]
    by_cases hs : s.shapeSource = ""
    · have hone := List.length_pos_iff.mpr (hrest hs)
      simp [hs]
      omega
    · simp [hs]
  have houtputs : s.requireOutputs 1 (some 1) = .ok () := by
    rw [requireOutputs_eq_ok, hout]
    rfl
  have hsource : s.source = .ok src := source_eq_ok.mpr ⟨rest, hin⟩
  have htarget : s.target = .ok top := target_eq_ok.mpr ⟨[], hout⟩
  obtain ⟨b, hb⟩ := exists_newBlob (s := s)
    (k := { name := top, shape := extentsOf (samples :: channels :: spatial) }) (pos_extentsOf hpos)
  refine ⟨b, ?_, ?_⟩
  · simp only [applyDeformationLayer, hinputs, houtputs, hsource, htarget, hsp, hlen, hfresh,
      hsamples, hchannels, hb, bind_eq_ok, pure_eq_ok, lift_eq_ok, ne_eq, not_true, if_false,
      Except.ok.injEq, exists_eq_left', exists_const, and_self]
  · obtain ⟨-, rfl⟩ := newBlob_eq_ok.mp hb
    exact ⟨rfl, toNat_extentsOf _⟩

end Site

end NetFootprint
