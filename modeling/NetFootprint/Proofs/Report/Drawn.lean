import Mathlib.Logic.Equiv.Basic
import NetFootprint.Proofs.Graph.Renamed
import NetFootprint.Proofs.Report.Excluded

/-!
# Names that are drawn

Two names are in no declaration: that of the source of the external inputs, and that of what the
softmax inside a loss makes. Under other names they stay as they are. A renaming that confuses
nothing with them can be changed into one that leaves them alone and gives every declared name its
other name.
-/

namespace NetFootprint

namespace Renaming

variable (ρ : Renaming)

/-- The renaming that leaves the drawn names alone: whatever took one of them takes the name that is
given up. -/
def sparing : Renaming where
  blob s := Equiv.swap (ρ.blob helperOutput) helperOutput (ρ.blob s)
  layer s := Equiv.swap (ρ.layer inputLayerName) inputLayerName (ρ.layer s)
  blob_injective := (Equiv.injective _).comp ρ.blob_injective
  layer_injective := (Equiv.injective _).comp ρ.layer_injective
  blob_ne s hs := by
    have hgiven : ρ.blob helperOutput ≠ "" := ρ.blob_ne _ (by decide)
    rw [Equiv.swap_apply_def]
    split
    · decide
    · split
      · exact hgiven
      · exact ρ.blob_ne s hs

theorem sparing_helperOutput : ρ.sparing.blob helperOutput = helperOutput :=
  Equiv.swap_apply_left _ _

theorem sparing_inputLayerName : ρ.sparing.layer inputLayerName = inputLayerName :=
  Equiv.swap_apply_left _ _

/-- The name of a layer under other names; the one that is drawn stays. -/
def layerName (s : String) : String := if s = inputLayerName then s else ρ.layer s

/-- The name of a blob is none that is drawn, neither before nor after. -/
def Spares (name : String) : Prop := name ≠ helperOutput ∧ ρ.blob name ≠ helperOutput

variable {ρ} {name : String}

theorem Spares.sparing_blob (h : ρ.Spares name) : ρ.sparing.blob name = ρ.blob name :=
  Equiv.swap_apply_of_ne_of_ne (ρ.blob_injective.ne h.1) h.2

theorem sparing_layer (h : name ≠ inputLayerName → ρ.layer name ≠ inputLayerName) :
    ρ.sparing.layer name = ρ.layerName name := by
  by_cases hname : name = inputLayerName
  · subst hname
    rw [layerName, if_pos rfl, sparing_inputLayerName]
  · rw [layerName, if_neg hname]
    exact Equiv.swap_apply_of_ne_of_ne (ρ.layer_injective.ne hname) (h hname)

end Renaming

theorem Value.renamed_congr {f f' : String → String} {v : Value}
    (h : ∀ s, v = .text s → f s = f' s) : v.renamed f = v.renamed f' := by
  cases v with
  | text s => exact congrArg text (h s rfl)
  | _ => rfl

namespace Declaration

/-- The names of blobs in a declaration. -/
def Mentions (d : Declaration) (name : String) : Prop :=
  name ∈ d.inputs ∨ .text name ∈ d.outputs ∨
    name ≠ "" ∧ ("output_shape_from", .text name) ∈ d.params

/-- No name in a declaration is confused with one that is drawn. -/
structure Spared (ρ : Renaming) (d : Declaration) : Prop where
  blob : ∀ name, d.Mentions name → ρ.Spares name
  layer : d.name ≠ inputLayerName → ρ.layer d.name ≠ inputLayerName

variable {ρ : Renaming} {d : Declaration}

theorem Spared.source (h : d.Spared ρ) {s : String}
    (hs : ("output_shape_from", .text s) ∈ d.params) : ρ.sparing.source s = ρ.source s := by
  by_cases hempty : s = ""
  · rw [Renaming.source, Renaming.source, if_pos hempty, if_pos hempty]
  · rw [Renaming.source, Renaming.source, if_neg hempty, if_neg hempty]
    exact (h.blob s (.inr (.inr ⟨hempty, hs⟩))).sparing_blob

theorem Spared.param (h : d.Spared ρ) {entry : String × Value} (hentry : entry ∈ d.params) :
    ρ.sparing.param entry = ρ.param entry := by
  obtain ⟨key, v⟩ := entry
  by_cases hkey : key = "output_shape_from"
  · subst hkey
    have hv : v.renamed ρ.sparing.source = v.renamed ρ.source := by
      refine Value.renamed_congr fun s hs => h.source ?_
      rw [← hs]
      exact hentry
    simp only [Renaming.param, if_true, hv]
  · simp only [Renaming.param, if_neg hkey]

/-- To leave the drawn names alone makes no difference to what is declared. -/
theorem Spared.renamed (h : d.Spared ρ) :
    d.renamed ρ.sparing = { d.renamed ρ with name := ρ.layerName d.name } := by
  have hinputs : d.inputs.map ρ.sparing.blob = d.inputs.map ρ.blob :=
    List.map_congr_left fun name hname => (h.blob name (.inl hname)).sparing_blob
  have houtputs : d.outputs.map (Value.renamed ρ.sparing.blob) =
      d.outputs.map (Value.renamed ρ.blob) := by
    refine List.map_congr_left fun top htop => Value.renamed_congr fun s hs => ?_
    rw [hs] at htop
    exact (h.blob s (.inr (.inl htop))).sparing_blob
  have hparams : d.params.map ρ.sparing.param = d.params.map ρ.param :=
    List.map_congr_left fun entry hentry => h.param hentry
  rw [Declaration.renamed, Declaration.renamed, hinputs, houtputs, hparams,
    Renaming.sparing_layer h.layer]

end Declaration

/-! ## Graphs -/

/-- A blob under other names; the source of the external inputs keeps its name. -/
def Blob.relabelled (ρ : Renaming) (b : Blob) : Blob :=
  { b with
    name := b.name.renamed ρ.blob
    producer := b.producer.map fun p => { p with name := ρ.layerName p.name } }

/-- A layer under other names; the source of the external inputs keeps its name. -/
def Layer.relabelled (ρ : Renaming) (l : Layer) : Layer :=
  { l with
    declaration := { l.declaration.renamed ρ with name := ρ.layerName l.name }
    body := l.body.renamed ρ }

def Graph.relabelled (ρ : Renaming) (g : Graph) : Graph :=
  { g with blobs := g.blobs.map (Blob.relabelled ρ), layers := g.layers.map (Layer.relabelled ρ) }

namespace Graph

variable {g : Graph} {ρ : Renaming} {l : Layer} {ref : Nat}

theorem Reached.shapeFrom_declared (hg : g.Reached) (hl : l ∈ g.layers)
    (hs : l.declaration.NamesSource) {s : String} (hbody : l.body = .applyDeformation s) :
    s = "" ∨ ("output_shape_from", .text s) ∈ l.declaration.params := by
  obtain ⟨k, before, draft, after, -, hb⟩ := hg.history_of_mem hl
  have hdrafted := hb.adds.drafted
  rw [Layer.family, hbody, show (Body.applyDeformation s).family = .applyDeformation from rfl]
    at hdrafted
  obtain ⟨_, _, _, _, _, _, _, -, -, -, -, -, -, -, -, rfl⟩ :=
    Site.applyDeformationLayer_ok hdrafted
  have hfrom : s = (before.siteOf l.declaration l.inputs).shapeSource :=
    Body.applyDeformation.inj (hbody.symm.trans hb.adds.body)
  have hdeclaration : (before.siteOf l.declaration l.inputs).declaration = l.declaration := rfl
  rw [Site.shapeSource, hdeclaration] at hfrom
  by_cases ht : (l.declaration.param "output_shape_from").truthy = true
  · obtain ⟨name, hname⟩ := hs ht
    obtain rfl : s = name := by
      rw [hfrom, if_pos ht, hname, Value.plain]
    rw [Declaration.param] at hname
    cases hlookup : l.declaration.params.lookup "output_shape_from" with
    | none =>
      rw [hlookup] at hname
      cases hname
    | some v =>
      rw [hlookup] at hname
      obtain rfl : v = .text s := hname
      obtain ⟨front, back, hparams, -⟩ := List.lookup_eq_some_iff.mp hlookup
      exact .inr (by simp [hparams])
  · exact .inl (by simpa [ht] using hfrom)

theorem Reached.layer_sparing (hg : g.Reached) (hl : l ∈ g.layers)
    (hs : l.declaration.NamesSource) (h : l.declaration.Spared ρ) :
    l.renamed ρ.sparing = l.relabelled ρ := by
  have hbody : l.body.renamed ρ.sparing = l.body.renamed ρ := by
    cases hfamily : l.body with
    | applyDeformation s =>
      refine congrArg Body.applyDeformation ?_
      rcases hg.shapeFrom_declared hl hs hfamily with rfl | hdeclared
      · rfl
      · exact h.source hdeclared
    | _ => rfl
  rw [Layer.renamed, h.renamed, hbody]
  rfl

theorem Reached.blob_sparing (hg : g.Reached) (h : ∀ l ∈ g.layers, l.declaration.Spared ρ)
    (href : ref ∈ g.registered) :
    (g.blob ref).renamed ρ.sparing = (g.blob ref).relabelled ρ := by
  have hname : (g.blob ref).name.renamed ρ.sparing.blob = (g.blob ref).name.renamed ρ.blob := by
    obtain ⟨l, hl, hdeclared⟩ := hg.name_declared href
    refine Value.renamed_congr fun s hs => ?_
    rw [hs] at hdeclared
    exact ((h l hl).blob s (.inr (.inl hdeclared))).sparing_blob
  obtain ⟨l, hl, hown⟩ := hg.exists_owner href
  rw [Blob.renamed, Blob.relabelled, hname, (mem_ownedRefs.mp hown).2]
  simp only [Option.map_some, Renaming.sparing_layer (h l hl).layer, Layer.producer, Layer.name]

/-- Where no declared name is drawn, a network under other names keeps the drawn ones. -/
theorem Reached.sparing (hg : g.Reached) (hs : ∀ l ∈ g.layers, l.declaration.NamesSource)
    (h : ∀ l ∈ g.layers, l.declaration.Spared ρ) : g.renamed ρ.sparing = g.relabelled ρ := by
  have hlayers : g.layers.map (Layer.renamed ρ.sparing) = g.layers.map (Layer.relabelled ρ) :=
    List.map_congr_left fun l hl => hg.layer_sparing hl (hs l hl) (h l hl)
  have hblobs : g.blobs.map (Blob.renamed ρ.sparing) = g.blobs.map (Blob.relabelled ρ) := by
    refine List.map_congr_left fun b hb => ?_
    obtain ⟨ref, hlt, rfl⟩ := List.mem_iff_getElem.mp hb
    have hblob : g.blob ref = g.blobs[ref] := by simp [blob, List.getD_eq_getElem?_getD, hlt]
    rw [← hblob]
    exact hg.blob_sparing h (hg.mem_registered.mpr hlt)
  rw [renamed, relabelled, hlayers, hblobs]

end Graph

end NetFootprint
