import NetFootprint.Proofs.Graph.Part
import NetFootprint.Proofs.Graph.Refusal
import NetFootprint.Proofs.Layer.Accept

/-!
# When a layer is accepted

A declaration whose inputs are known and whose name is free is accepted exactly if its family accepts
it, as long as the family makes a single blob with the axes of the network. The blob stands behind
all others then, and the name of the output leads to it.
-/

namespace NetFootprint

namespace Site

variable {src b c : Blob} {w : Window} {R : Window.Axis → Nat → Nat → Prop}

theorem Windowed.of_fixed (h : Windowed src w R b) (hc : c.fixed = b.fixed) :
    Windowed src w R c where
  array := by rw [Blob.of_fixed Blob.isScalar hc, h.array]
  samples := by rw [Blob.of_fixed Blob.samples hc, h.samples]
  spatial := by rw [Blob.of_fixed Blob.spatial hc]; exact h.spatial
  shape := by rw [Blob.of_fixed Blob.shape hc, h.shape]
  elementSize := by rw [Blob.of_fixed Blob.elementSize hc]; exact h.elementSize

end Site

namespace Graph

variable {g g' : Graph} {l : Layer} {d : Declaration} {draft : Draft} {t : LayerType} {b : Blob}
  {ref : Nat}

theorem familyOf_tag (h : d.type = t.tag) : familyOf d = .ok t.family := by
  rw [familyOf, h]
  cases t <;> rfl

/-- A layer of a family can be built: its inputs are known, and its name is free. -/
structure Ready (g : Graph) (d : Declaration) (t : LayerType) : Prop where
  family : familyOf d = .ok t
  inputs : ∀ name ∈ d.inputs, g.contains (.text name) = true
  name : ∀ other ∈ g.layers, other.name ≠ d.name

/-- The names that a declaration gives can be asked for, and they are free. -/
structure FreshFor (g : Graph) (d : Declaration) : Prop where
  name : ∀ other ∈ g.layers, other.name ≠ d.name
  outputs : ∀ top ∈ d.outputs, top.isKey = true ∧ g.contains top = false

instance (g : Graph) (d : Declaration) : Decidable (g.FreshFor d) :=
  decidable_of_iff ((∀ other ∈ g.layers, other.name ≠ d.name) ∧
    ∀ top ∈ d.outputs, top.isKey = true ∧ g.contains top = false)
    ⟨fun h => ⟨h.1, h.2⟩, fun h => ⟨h.name, h.outputs⟩⟩

/-- The only output of a layer is new and has the axes of the network. -/
def Fitting (g : Graph) (draft : Draft) : Prop :=
  ∃ b, draft.outputs = [.made b] ∧ ∀ n, g.spatialRank = some n → b.spatialRank = n

theorem Ready.exists_places (h : g.Ready d t) : ∃ places, g.resolveInputs d = .ok places := by
  apply exists_mapM_eq_ok.mpr
  intro name hname
  obtain ⟨ref, href⟩ := Option.isSome_iff_exists.mp (h.inputs name hname)
  exact ⟨ref, Site.resolve_eq_ok.mpr ⟨rfl, href⟩⟩

theorem create_drafted (hg : g.Reached) (h : g.create d none = ⟨g', .ok l⟩) :
    ∃ draft, g.Adds l draft g' ∧ l.declaration = d ∧ familyOf d = .ok l.family ∧
      (g.namedSite d).layer l.family = .ok draft := by
  obtain ⟨draft, ha, rfl, hfamily⟩ := create_adds_of_ok (fun ref => hg.mem_registered.mp) h
  refine ⟨draft, ha, rfl, hfamily, ?_⟩
  rw [← namedSite_eq ha.found]
  exact ha.drafted

theorem Ready.exists_added (h : g.Ready d t) (hg : g.Reached)
    (hd : (g.namedSite d).layer t = .ok draft) (hadmits : g.Admits draft) :
    ∃ l g', g.create d none = ⟨g', .ok l⟩ ∧ g.Adds l draft g' ∧ l.declaration = d ∧
      l.family = t := by
  obtain ⟨places, hplaces⟩ := h.exists_places
  have hbuilt : (g.siteOf d (places.map some)).layer t = .ok draft := by
    rwa [namedSite_eq (found_of_resolveInputs hplaces)]
  obtain ⟨l, g', hcreate⟩ :=
    hadmits.exists_create (fun ref => hg.mem_registered.mp) h.family hplaces h.name hbuilt
  obtain ⟨draft', ha, hl, hfamily, hd'⟩ := create_drafted hg hcreate
  obtain rfl := eq_of_ok h.family hfamily
  obtain rfl : draft = draft' := eq_of_ok hd hd'
  exact ⟨l, g', hcreate, ha, hl, rfl⟩

theorem Ready.exists_create (h : g.Ready d t) (hg : g.Reached)
    (hd : (g.namedSite d).layer t = .ok draft) (hfit : g.Fitting draft) :
    ∃ l g', g.create d none = ⟨g', .ok l⟩ := by
  obtain ⟨b, hout, haxes⟩ := hfit
  obtain ⟨l, g', hcreate, -⟩ := h.exists_added hg hd (.of_only hout fun _ => haxes)
  exact ⟨l, g', hcreate⟩

theorem Ready.create_iff (h : g.Ready d t) (hg : g.Reached)
    (hfit : ∀ draft, (g.namedSite d).layer t = .ok draft → g.Fitting draft) :
    (∃ l g', g.create d none = ⟨g', .ok l⟩) ↔ ∃ draft, (g.namedSite d).layer t = .ok draft := by
  constructor
  · rintro ⟨l, g', hcreate⟩
    obtain ⟨draft, -, -, hfamily, hd⟩ := create_drafted hg hcreate
    obtain rfl := eq_of_ok h.family hfamily
    exact ⟨draft, hd⟩
  · rintro ⟨draft, hd⟩
    exact h.exists_create hg hd (hfit draft hd)

theorem exists_create_of_any {p : Graph → Layer → Bool}
    (h : (g.create d none).result.toOption.any (p (g.create d none).graph) = true) :
    ∃ g' l, g.create d none = ⟨g', .ok l⟩ ∧ p g' l = true := by
  obtain ⟨l, hl, hp⟩ := exists_of_any h
  exact ⟨_, l, by rw [← hl], hp⟩

/-- A layer that is ready is refused with the reason that its family gives. -/
theorem Ready.create_error (h : g.Ready d t) {e : Failure}
    (hd : (g.namedSite d).layer t = .error e) : g.create d none = ⟨g, .error e⟩ := by
  obtain ⟨places, hplaces⟩ := h.exists_places
  rw [← namedSite_eq (found_of_resolveInputs hplaces)] at hd
  have hb : g.build d none = do
      return g.finish d (places.map some) (← (g.siteOf d (places.map some)).layer t) := by
    rw [build, h.family, hplaces]
    rfl
  rw [hd] at hb
  rw [create, hb]
  rfl

/-! ## The blobs that were read and made -/

theorem Adds.only_input (h : g.Adds l draft g')
    (hin : (g.namedSite l.declaration).inputs = [some b]) :
    ∃ src ∈ g.registered, l.inputs = [some src] ∧ g.blob src = b := by
  rw [← namedSite_eq h.found, siteOf] at hin
  obtain ⟨slot, hslot, hsome⟩ := List.map_eq_singleton_iff.mp hin
  obtain ⟨src, rfl, hblob⟩ := Option.map_eq_some_iff.mp hsome
  have hmem : some src ∈ l.inputs := by simp [hslot]
  obtain ⟨src', hsrc, hregistered⟩ := h.inputs_registered hmem
  obtain rfl := Option.some.inj hsrc
  exact ⟨src, hregistered, hslot, hblob⟩

theorem Adds.only_made (h : g.Adds l draft g') (hout : draft.outputs = [.made b]) :
    l.outputs = [g.blobs.length] ∧ (g'.blob g.blobs.length).fixed = b.fixed := by
  have houtputs := h.outputs
  rw [hout, placesFrom, placesFrom] at houtputs
  have hplaced := h.placed
  rw [hout, houtputs] at hplaced
  cases hplaced with
  | cons hat _ =>
    cases hat with
    | made _ _ _ _ hfixed => exact ⟨houtputs, hfixed⟩

theorem Adds.regular_made (h : g.Adds l draft g') (hg : g.Reached)
    (hout : draft.outputs = [.made b]) :
    (g'.blob g.blobs.length).Regular (g'.spatialRank.getD 0) := by
  have hmem : g.blobs.length ∈ g'.registered :=
    h.output_registered (by simp [(h.only_made hout).1])
  exact Reached.regular (.add hg h) _ (List.mem_map_of_mem hmem)

theorem Adds.find?_made (h : g.Adds l draft g') (hg : g.Reached)
    (hout : draft.outputs = [.made b]) {name : String}
    (hname : l.declaration.outputs = [.text name]) :
    g'.find? (.text name) = some g.blobs.length := by
  obtain ⟨houtputs, hfixed⟩ := h.only_made hout
  have hnamed : (g'.blob g.blobs.length).name = .text name := by
    have hall := h.outputs_named (by simp [hname])
    rw [hname, houtputs] at hall
    exact (List.forall₂_cons.mp hall).1
  have hnone : g.find? (.text name) = none := by
    rw [← hnamed, Blob.of_fixed Blob.name hfixed]
    exact made_name h.drafted (by simp [hout])
  have hold : ∀ ref ∈ g.registered, (g'.blob ref).name = (g.blob ref).name := fun ref href =>
    Blob.of_fixed Blob.name (h.fixed ref (hg.mem_registered.mp href))
  rw [find?_of_append h.registered hold, hnone, hout]
  simp [madeBlobs, hnamed, Value.equals_text_right.mpr]

/-- A declaration with one input and one output, whose names are free, has a site for a layer that
makes one blob of one blob. -/
theorem FreshFor.single (h : g.FreshFor d) {x : String} {top : Value} (hin : d.inputs = [x])
    (hout : d.outputs = [top]) (hfind : g.find? (.text x) = some ref) :
    (g.namedSite d).Single (g.blob ref) top where
  inputs := by simp [namedSite, hin, hfind]
  outputs := hout
  fresh := Site.requireFresh_eq_ok.mpr (h.outputs top (by simp [hout]))

theorem FreshFor.ready_of_known (h : g.FreshFor d) (ht : familyOf d = .ok t)
    (hin : ∀ name ∈ d.inputs, ∃ ref, g.find? (.text name) = some ref) : g.Ready d t where
  family := ht
  inputs name hname := Option.isSome_iff_exists.mpr (hin name hname)
  name := h.name

theorem FreshFor.ready (h : g.FreshFor d) (ht : familyOf d = .ok t) {x : String}
    (hin : d.inputs = [x]) (hfind : g.find? (.text x) = some ref) : g.Ready d t := by
  apply h.ready_of_known ht
  simp [hin, hfind]

/-- A layer that is ready and whose family makes a single blob with the axes of the network is
added, and the blob stands behind all others. -/
theorem Ready.exists_made (h : g.Ready d t) (hg : g.Reached)
    (hd : (g.namedSite d).layer t = .ok draft) (hout : draft.outputs = [.made b])
    (haxes : ∀ n : Nat, g.spatialRank = some n → b.spatialRank = n) :
    ∃ l g', g.create d none = ⟨g', .ok l⟩ ∧ g.Adds l draft g' ∧ l.declaration = d ∧
      l.outputs = [g.blobs.length] ∧ (g'.blob g.blobs.length).fixed = b.fixed := by
  obtain ⟨l, g', hcreate, ha, hl, -⟩ := h.exists_added hg hd (.of_only hout fun _ => haxes)
  exact ⟨l, g', hcreate, ha, hl, ha.only_made hout⟩

/-- Names that were free and that a layer does not take are still free behind it. -/
theorem FreshFor.after (h : g.FreshFor d) (hg : g.Reached) (ha : g.Adds l draft g')
    (htext : ∀ top ∈ l.declaration.outputs ++ d.outputs, ∃ name, top = .text name)
    (hname : l.declaration.name ≠ d.name)
    (hout : ∀ top ∈ d.outputs, top ∉ l.declaration.outputs) : g'.FreshFor d where
  name other hother := by
    rw [ha.layers, List.mem_append, List.mem_singleton] at hother
    rcases hother with hold | rfl
    · exact h.name other hold
    · exact hname
  outputs top htop := by
    obtain ⟨hkey, hfree⟩ := h.outputs top htop
    obtain ⟨name, rfl⟩ := htext top (List.mem_append_right _ htop)
    have hold : ∀ ref ∈ g.registered, (g'.blob ref).name = (g.blob ref).name := fun ref href =>
      Blob.of_fixed Blob.name (ha.fixed ref (hg.mem_registered.mp href))
    have hnamed := ha.outputs_named fun top htop => htext top (List.mem_append_left _ htop)
    have hnone : g.find? (.text name) = none := by simpa [contains] using hfree
    refine ⟨hkey, ?_⟩
    rw [contains, find?_of_append ha.registered hold, hnone, Option.none_or,
      Option.isSome_eq_false_iff, Option.isNone_iff_eq_none, List.find?_eq_none]
    intro ref href hequals
    obtain ⟨top, hmem, htop'⟩ := exists_of_mem_right hnamed (ha.mem_new.mp href).1
    rw [Value.equals_text_right.mp hequals] at htop'
    exact hout _ htop (htop' ▸ hmem)

theorem Reached.fitting_windowed (hg : g.Reached) (href : ref ∈ g.registered)
    (hs : (g.blob ref).isScalar = false) {w : Window} {R : Window.Axis → Nat → Nat → Prop}
    (hb : Site.Windowed (g.blob ref) w R b) (hout : draft.outputs = [.made b]) :
    g.Fitting draft := by
  refine ⟨b, hout, fun n hn => ?_⟩
  obtain ⟨n', hn', hlength⟩ := hg.rank ref href hs
  obtain rfl := Option.some.inj (hn.symm.trans hn')
  have hregular := hg.regular _ (List.mem_map_of_mem href)
  rw [hb.spatialRank, ← hregular.spatialRank_eq, Blob.spatialRank_of_shaped hs, hlength]
  omega

end Graph

end NetFootprint
