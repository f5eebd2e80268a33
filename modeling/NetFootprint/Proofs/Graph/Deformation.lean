import NetFootprint.Proofs.Graph.Accept
import NetFootprint.Proofs.Layer.Deformation

/-!
# Deformations in reached graphs

All blobs of a graph but its scalars have the axes of the network. So a deformation field has as
many sizes as any other blob has spatial axes, whenever the two were made, and the blob can be
deformed by the field; and it can be deformed to the extents of every other blob.
-/

namespace NetFootprint.Graph

variable {g : Graph} {l : Layer} {d : Declaration} {src field ref n : Nat} {x : String}
  {sizes : List Nat} {names : List String}

/-! ## Fields -/

/-- The only output of a layer is a deformation field with the sizes that are declared, as many as
the network has axes. -/
structure FieldOf (g : Graph) (l : Layer) (field : Nat) (sizes : List Nat) : Prop where
  outputs : l.outputs = [field]
  declared : (g.namedSite l.declaration).FieldSizes sizes
  rank : g.spatialRank = some sizes.length
  array : (g.blob field).isScalar = false
  shape : ∃ samples components, (g.blob field).shape = samples :: sizes ++ [components]

theorem Reached.exists_field (hg : g.Reached) (hl : l ∈ g.layers)
    (hfamily : l.family = .createDeformation) : ∃ field sizes, g.FieldOf l field sizes := by
  obtain ⟨k, before, draft, after, -, hadded⟩ := hg.history_of_mem hl
  have hd := hadded.adds.drafted
  rw [hfamily] at hd
  obtain ⟨sizes, samples, components, b, hsizes, hout, harray, hshape⟩ :=
    Site.createDeformationLayer_made hd
  obtain ⟨houtputs, hmade⟩ := hadded.adds.only_made hout
  have hmem : before.blobs.length ∈ l.outputs := by simp [houtputs]
  have hfixed := (hadded.since.fixed _ (hadded.adds.lt_of_mem hmem)).trans hmade
  have hs : (g.blob before.blobs.length).isScalar = false := by
    rw [Blob.of_fixed Blob.isScalar hfixed, harray]
  have hfield : (g.blob before.blobs.length).shape = samples :: sizes ++ [components] := by
    rw [Blob.of_fixed Blob.shape hfixed, hshape]
  refine ⟨before.blobs.length, sizes, ?_⟩
  constructor
  · exact houtputs
  · exact hsizes.of_declaration rfl
  · obtain ⟨n, hn, hlen⟩ := hg.rank _ (hg.output_registered hl hmem) hs
    rw [hfield] at hlen
    simp at hlen
    rw [hn, hlen]
  · exact hs
  · exact ⟨samples, components, hfield⟩

/-! ## Deformations -/

/-- The declaration of a deformation with new names. -/
structure DeformationOf (g : Graph) (d : Declaration) (inputs : List String) : Prop where
  type : d.type = LayerType.applyDeformation.tag
  inputs : d.inputs = inputs
  outputs : ∃ top, d.outputs = [top]
  fresh : g.FreshFor d

/-- A declaration is accepted, and its blob has the samples and the channels of the source and the
given spatial extents. -/
def Deforms (g : Graph) (d : Declaration) (src : Nat) (spatial : List Nat) : Prop :=
  ∃ l g' out samples channels, g.create d none = ⟨g', .ok l⟩ ∧ l.outputs = [out] ∧
    (g.blob src).samples = .ok samples ∧ (g.blob src).channels = .ok channels ∧
    (g'.blob out).isScalar = false ∧ (g'.blob out).shape = samples :: channels :: spatial

theorem DeformationOf.deforms (h : g.DeformationOf d (x :: names)) (hg : g.Reached)
    (hnames : ∀ name ∈ x :: names, ∃ ref, g.find? (.text name) = some ref)
    (hmany : d.shapeFrom = "" → names ≠ []) (hsrc : g.find? (.text x) = some src)
    (hs : (g.blob src).isScalar = false)
    (hsp : (g.namedSite d).deformedExtents d.shapeFrom (g.blob src).spatialRank = .ok sizes)
    (hrank : g.spatialRank = some sizes.length) (hpos : ∀ e ∈ sizes, 1 ≤ e) :
    g.Deforms d src sizes := by
  obtain ⟨top, hout⟩ := h.outputs
  have hregistered := mem_registered_of_find? hsrc
  have hregular := hg.regular _ (List.mem_map_of_mem hregistered)
  obtain ⟨samples, hsamples, hsample⟩ := hregular.exists_samples
  obtain ⟨channels, hchannels, hchannel⟩ := hregular.exists_channels hs
  have hlen : (sizes.length : Int) = (g.blob src).spatialRank := by
    rw [hregular.spatialRank_eq, hregular.length_spatial hs, hrank]
    rfl
  have hin : (g.namedSite d).inputs =
      some (g.blob src) :: names.map (fun name => (g.find? (.text name)).map g.blob) := by
    simp [namedSite, h.inputs, hsrc]
  obtain ⟨b, hd, hb, hshape⟩ := Site.exists_applyDeformationLayer (s := g.namedSite d) hin
    (fun hempty => by simpa using hmany hempty) hout
    (Site.requireFresh_eq_ok.mpr (h.fresh.outputs top (by simp [hout]))) hsp hlen hsamples
    hchannels (by simp [hsample, hchannel]; exact hpos)
  have hready : g.Ready d .applyDeformation :=
    h.fresh.ready_of_known (familyOf_tag h.type) (h.inputs ▸ hnames)
  have haxes : ∀ n : Nat, g.spatialRank = some n → b.spatialRank = n := by
    intro n hn
    obtain rfl : sizes.length = n := Option.some.inj (hrank.symm.trans hn)
    rw [Blob.spatialRank_of_shaped hb, hshape]
    simp only [List.length_cons]
    omega
  obtain ⟨l, g', hcreate, -, -, houtputs, hfixed⟩ := hready.exists_made hg hd rfl haxes
  refine ⟨l, g', g.blobs.length, samples, channels, hcreate, houtputs, hsamples, hchannels, ?_, ?_⟩
  · rw [Blob.of_fixed Blob.isScalar hfixed, hb]
  · rw [Blob.of_fixed Blob.shape hfixed, hshape]

theorem FieldOf.deforms (hfield : g.FieldOf l field sizes) (hg : g.Reached) {y : String}
    (h : g.DeformationOf d [x, y]) (hfrom : d.shapeFrom = "") (hsrc : g.find? (.text x) = some src)
    (hs : (g.blob src).isScalar = false) (hfind : g.find? (.text y) = some field) :
    g.Deforms d src sizes := by
  obtain ⟨samples, components, hshape⟩ := hfield.shape
  have hregular := hg.regular _ (List.mem_map_of_mem (mem_registered_of_find? hsrc))
  have haxes : (g.blob src).spatialRank = sizes.length := by
    rw [hregular.spatialRank_eq, hregular.length_spatial hs, hfield.rank]
    rfl
  have hin : (g.namedSite d).inputs = some (g.blob src) :: some (g.blob field) :: [] := by
    simp [namedSite, h.inputs, hsrc, hfind]
  apply h.deforms hg (by simp [hsrc, hfind]) (by simp) hsrc hs _ hfield.rank hfield.declared.pos
  rw [hfrom]
  exact Site.deformedExtents_field hin hshape haxes

theorem DeformationOf.deforms_named (h : g.DeformationOf d [x]) (hg : g.Reached)
    (hne : d.shapeFrom ≠ "") (hsrc : g.find? (.text x) = some src)
    (hs : (g.blob src).isScalar = false) (hfind : g.find? (.text d.shapeFrom) = some ref)
    (href : (g.blob ref).isScalar = false) : g.Deforms d src (g.blob ref).spatial := by
  have hmem := mem_registered_of_find? hfind
  have hregular := hg.regular _ (List.mem_map_of_mem hmem)
  apply h.deforms hg (by simp [hsrc]) (fun hempty => absurd hempty hne) hsrc hs
  · exact Site.deformedExtents_named hne hfind
  · obtain ⟨n, hn, -⟩ := hg.rank ref hmem href
    rw [hregular.length_spatial href, hn]
    rfl
  · exact fun e he => hregular.extents e (Blob.mem_of_mem_spatial he)

/-! ## Runs of creations -/

/-- Whatever was created by name before: every deformation field has a size for each axis of the
network, and every blob but a scalar can be deformed by it to these sizes, or to the extents of any
other blob that is no scalar. -/
theorem create_deformed (phase : Phase) (elementSize : Option (List Float))
    (ds : List Declaration) {x : String} {src : Nat}
    (hsrc : ((empty phase elementSize).createAll ds).find? (.text x) = some src)
    (hs : (((empty phase elementSize).createAll ds).blob src).isScalar = false) :
    (∀ l ∈ ((empty phase elementSize).createAll ds).layers, l.family = .createDeformation →
      ∃ field sizes, ((empty phase elementSize).createAll ds).FieldOf l field sizes ∧
        ∀ y d, ((empty phase elementSize).createAll ds).find? (.text y) = some field →
          ((empty phase elementSize).createAll ds).DeformationOf d [x, y] → d.shapeFrom = "" →
          ((empty phase elementSize).createAll ds).Deforms d src sizes) ∧
    ∀ d ref, ((empty phase elementSize).createAll ds).DeformationOf d [x] → d.shapeFrom ≠ "" →
      ((empty phase elementSize).createAll ds).find? (.text d.shapeFrom) = some ref →
      (((empty phase elementSize).createAll ds).blob ref).isScalar = false →
      ((empty phase elementSize).createAll ds).Deforms d src
        (((empty phase elementSize).createAll ds).blob ref).spatial := by
  have hg := (Reached.empty phase elementSize).createAll ds
  constructor
  · intro l hl hfamily
    obtain ⟨field, sizes, hfield⟩ := hg.exists_field hl hfamily
    exact ⟨field, sizes, hfield, fun y d hfind h hfrom => hfield.deforms hg h hfrom hsrc hs hfind⟩
  · intro d ref h hne hfind href
    exact h.deforms_named hg hne hsrc hs hfind href

/-- A source of one blob and a deformation field with more samples than the blob. -/
def fieldedSource : List Declaration :=
  oneSource ++
  [{ type := "CreateDeformation", name := "deform", inputs := [], outputs := [.text "field"]
     params := [("ny", .int 5), ("nx", .int 6), ("ncomponents", .int 7), ("batch_size", .int 8)]
     included := [], excluded := [] }]

def warpOf (inputs : List String) (params : List (String × Value)) : Declaration where
  type := "ApplyDeformation"
  name := "warp"
  inputs := inputs
  outputs := [.text "warped"]
  params := params
  included := []
  excluded := []

theorem deformationOf_warpOf (inputs : List String) (params : List (String × Value))
    (h : g.FreshFor (warpOf inputs params)) : g.DeformationOf (warpOf inputs params) inputs :=
  ⟨rfl, rfl, ⟨_, rfl⟩, h⟩

theorem create_deformed_fieldedSource :
    ((empty .train none).createAll fieldedSource).Deforms (warpOf ["data", "field"] []) 0 [5, 6] ∧
      ((empty .train none).createAll fieldedSource).Deforms
        (warpOf ["data"] [("output_shape_from", .text "data")]) 0 [3, 4] := by
  have hsrc : ((empty .train none).createAll fieldedSource).find? (.text "data") = some 0 := by
    decide +kernel
  obtain ⟨hfields, hnamed⟩ := create_deformed .train none fieldedSource hsrc (by decide +kernel)
  constructor
  · have hlayer : ∃ l ∈ ((empty .train none).createAll fieldedSource).layers,
        l.family = .createDeformation ∧ l.outputs = [1] := by decide +kernel
    obtain ⟨l, hl, hfamily, hout⟩ := hlayer
    obtain ⟨field, sizes, hfield, hdeforms⟩ := hfields l hl hfamily
    obtain rfl : 1 = field := by simpa [hout] using hfield.outputs
    obtain ⟨samples, components, hshape⟩ := hfield.shape
    have hread : (((empty .train none).createAll fieldedSource).blob 1).shape = [8, 5, 6, 7] := by
      decide +kernel
    have hsizes : sizes = [5, 6] := by
      have hcut := sliced_middle samples components sizes
      rw [← hshape, hread] at hcut
      have hlen : sizes.length = 2 := by simpa [hread] using (congrArg List.length hshape).symm
      rw [hlen] at hcut
      exact hcut.symm
    rw [← hsizes]
    exact hdeforms "field" _ (by decide +kernel)
      (deformationOf_warpOf _ _ (by decide +kernel)) (by decide +kernel)
  · have hread : (((empty .train none).createAll fieldedSource).blob 0).spatial = [3, 4] := by
      decide +kernel
    rw [← hread]
    exact hnamed _ 0 (deformationOf_warpOf _ _ (by decide +kernel)) (by decide +kernel)
      (by decide +kernel) (by decide +kernel)

end NetFootprint.Graph
