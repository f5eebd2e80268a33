import NetFootprint.Proofs.Graph.Accept
import NetFootprint.Proofs.Layer.Inverse

/-!
# Layers that undo each other

In a graph that was grown by name, an up-convolution with the window of a convolution takes the
output of the convolution back to the extents of its input. A convolution takes back what an
up-convolution made exactly if no extent that the up-convolution read was that of a single element.
-/

namespace NetFootprint

/-- A layer that reads the blob with a name has the window parameters of another one, a number of
channels and one output. -/
structure Declaration.Repeats (d' d : Declaration) (name : String) : Prop where
  inputs : d'.inputs = [name]
  outputs : d'.outputs.length = 1
  params : ∀ key ∈ Site.windowKeys, d'.param key = d.param key
  numOutput : ∃ v n, d'.params.lookup "num_output" = some v ∧ v.toInt = .ok n ∧ 1 ≤ n

namespace Graph

variable {g g' : Graph} {l : Layer} {d d' : Declaration} {draft : Draft} {b : Blob} {src : Nat}
  {y : String}

/-- A layer that is created from a declaration has one output, and this has the samples and the
spatial extents of a blob of an earlier graph. -/
def TakesBack (g : Graph) (src : Nat) (g' : Graph) (d' : Declaration) : Prop :=
  ∀ l' g'', g'.create d' none = ⟨g'', .ok l'⟩ →
    ∃ out, l'.outputs = [out] ∧ (g''.blob out).Matches (g.blob src)

theorem TakesBack.of_drafts (hg' : g'.Reached)
    (h : ∀ t draft, familyOf d' = .ok t → (g'.namedSite d').layer t = .ok draft →
      ∃ b, draft.outputs = [.made b] ∧ b.Matches (g.blob src)) : g.TakesBack src g' d' := by
  intro l' g'' hcreate
  obtain ⟨draft, ha, -, hfamily, hd⟩ := create_drafted hg' hcreate
  obtain ⟨b, hout, hmatches⟩ := h _ draft hfamily hd
  obtain ⟨houtputs, hfixed⟩ := ha.only_made hout
  refine ⟨_, houtputs, ?_, ?_⟩
  · rw [Blob.of_fixed Blob.samples hfixed, hmatches.samples]
  · rw [Blob.of_fixed Blob.spatial hfixed, hmatches.spatial]

theorem Adds.repeats (h : g.Adds l draft g') (hg : g.Reached) (hout : draft.outputs = [.made b])
    (hname : l.declaration.outputs = [.text y]) (hd' : d'.Repeats l.declaration y)
    (hfree : g'.FreshFor d') : ∃ top n,
      (g'.namedSite d').Repeats (g.namedSite l.declaration) (g'.blob g.blobs.length) top n := by
  obtain ⟨top, htop⟩ := List.length_eq_one_iff.mp hd'.outputs
  obtain ⟨v, n, hv, hn, hleast⟩ := hd'.numOutput
  have hfind := h.find?_made hg hout hname
  refine ⟨top, n.toNat, hfree.single hd'.inputs htop hfind, hd'.params, ?_⟩
  exact Site.intParam_of_lookup hv hn hleast

/-- A layer that reads the output of another one is accepted if its family accepts it, and what its
family is known to make of it is what the layer makes. -/
theorem Adds.takesBack (h : g.Adds l draft g') (hg : g.Reached) (hout : draft.outputs = [.made b])
    (hname : l.declaration.outputs = [.text y]) (hd' : d'.Repeats l.declaration y)
    {t : LayerType} (ht' : familyOf d' = .ok t) (hfree : g'.FreshFor d')
    (harray : b.isScalar = false) {w : Window} {R : Window.Axis → Nat → Nat → Prop}
    (hback : ∀ draft', (g'.namedSite d').layer t = .ok draft' → ∃ b', draft'.outputs = [.made b'] ∧
      b'.Matches (g.blob src) ∧ Site.Windowed (g'.blob g.blobs.length) w R b') :
    ((∃ l' g'', g'.create d' none = ⟨g'', .ok l'⟩) ↔
      ∃ draft', (g'.namedSite d').layer t = .ok draft') ∧ g.TakesBack src g' d' := by
  have hg' : g'.Reached := .add hg h
  obtain ⟨houtputs, hfixed⟩ := h.only_made hout
  have hmem : g.blobs.length ∈ g'.registered := h.output_registered (by simp [houtputs])
  constructor
  · have hready := hfree.ready ht' hd'.inputs (h.find?_made hg hout hname)
    refine hready.create_iff hg' fun draft' hdraft' => ?_
    obtain ⟨b', hb', -, hwindowed⟩ := hback draft' hdraft'
    have hs : (g'.blob g.blobs.length).isScalar = false := by
      rw [Blob.of_fixed Blob.isScalar hfixed, harray]
    exact hg'.fitting_windowed hmem hs hwindowed hb'
  · refine .of_drafts hg' fun t₂ draft₂ ht₂ hdraft₂ => ?_
    obtain rfl := eq_of_ok ht' ht₂
    obtain ⟨b', hb', hmatches, -⟩ := hback draft₂ hdraft₂
    exact ⟨b', hb', hmatches⟩

theorem deconvolution_takesBack (hg : g.Reached) (hd : g.create d none = ⟨g', .ok l⟩)
    (ht : familyOf d = .ok .convolution) (hname : d.outputs = [.text y]) (hd' : d'.Repeats d y)
    (ht' : familyOf d' = .ok .deconvolution) (hfree : g'.FreshFor d') :
    ∃ src, l.inputs = [some src] ∧ (∃ l' g'', g'.create d' none = ⟨g'', .ok l'⟩) ∧
      g.TakesBack src g' d' := by
  obtain ⟨draft, ha, rfl, hfamily, hlayer⟩ := create_drafted hg hd
  rw [eq_of_ok hfamily ht] at hlayer
  obtain ⟨input, -, -, -, -, -, -, -, hin, -⟩ := Site.convolutionLayer_ok hlayer
  obtain ⟨src, hsrc, hinput, rfl⟩ := ha.only_input hin
  obtain ⟨w, n, b, hw, rfl, hscale, hmade⟩ := Site.convolutionLayer_made hlayer hin
  obtain ⟨top, channels, hsite⟩ := ha.repeats hg rfl hname hd' hfree
  have hregular := hg.regular _ (List.mem_map_of_mem hsrc)
  obtain ⟨hexists, hback⟩ := hsite.deconvolutionLayer hregular (ha.regular_made hg rfl) hw hscale
    (hmade.of_fixed (ha.only_made rfl).2)
  obtain ⟨hiff, htakes⟩ := ha.takesBack hg rfl hname hd' ht' hfree hmade.array hback
  exact ⟨src, hinput, hiff.mpr hexists, htakes⟩

/-- A convolution of what an up-convolution made is accepted where that read no single element, and
takes it back. -/
theorem convolution_takesBack (hg : g.Reached) (hd : g.create d none = ⟨g', .ok l⟩)
    (ht : familyOf d = .ok .deconvolution) (hone : d.inputs.length = 1)
    (hname : d.outputs = [.text y]) (hd' : d'.Repeats d y)
    (ht' : familyOf d' = .ok .convolution) (hfree : g'.FreshFor d') :
    ∃ src, l.inputs = [some src] ∧
      ((∃ l' g'', g'.create d' none = ⟨g'', .ok l'⟩) ↔ ∀ e ∈ (g.blob src).spatial, 2 ≤ e) ∧
      g.TakesBack src g' d' := by
  obtain ⟨draft, ha, rfl, hfamily, hlayer⟩ := create_drafted hg hd
  rw [eq_of_ok hfamily ht] at hlayer
  obtain ⟨input, hin⟩ : ∃ input, (g.namedSite l.declaration).inputs = [some input] := by
    obtain ⟨input, rest, -, -, -, hin, -⟩ := Site.deconvolutionLayer_ok hlayer
    have hlen : (g.namedSite l.declaration).inputs.length = 1 := by
      rw [namedSite, List.length_map, hone]
    rw [hin, List.length_cons, Nat.add_eq_right, List.length_eq_zero_iff] at hlen
    exact ⟨input, by rw [hin, hlen]⟩
  obtain ⟨src, hsrc, hinput, rfl⟩ := ha.only_input hin
  obtain ⟨w, n, b, hw, rfl, hscale, hmade⟩ := Site.deconvolutionLayer_made hlayer hin
  obtain ⟨top, channels, hsite⟩ := ha.repeats hg rfl hname hd' hfree
  have hregular := hg.regular _ (List.mem_map_of_mem hsrc)
  obtain ⟨hlarge, hback⟩ := hsite.convolutionLayer hregular (ha.regular_made hg rfl) hw hscale
    (hmade.of_fixed (ha.only_made rfl).2)
  obtain ⟨hiff, htakes⟩ := ha.takesBack hg rfl hname hd' ht' hfree hmade.array hback
  exact ⟨src, hinput, hiff.trans hlarge, htakes⟩

/-- Whatever was created by name before, an up-convolution with the window of a convolution is
accepted on its output and takes it back; and a convolution with the window of an up-convolution of
one blob is accepted on its output exactly if that blob has at least two elements along each axis,
and takes it back then. -/
theorem create_takesBack (phase : Phase) (elementSize : Option (List Float)) (ds : List Declaration)
    {d d' : Declaration} {g' : Graph} {l : Layer} {y : String}
    (hd : ((empty phase elementSize).createAll ds).create d none = ⟨g', .ok l⟩)
    (hname : d.outputs = [.text y]) (hd' : d'.Repeats d y) (hfree : g'.FreshFor d') :
    (d.type = LayerType.convolution.tag → d'.type = LayerType.deconvolution.tag →
      ∃ src, l.inputs = [some src] ∧ (∃ l' g'', g'.create d' none = ⟨g'', .ok l'⟩) ∧
        ((empty phase elementSize).createAll ds).TakesBack src g' d') ∧
    (d.type = LayerType.deconvolution.tag → d.inputs.length = 1 →
      d'.type = LayerType.convolution.tag →
      ∃ src, l.inputs = [some src] ∧
        ((∃ l' g'', g'.create d' none = ⟨g'', .ok l'⟩) ↔
          ∀ e ∈ (((empty phase elementSize).createAll ds).blob src).spatial, 2 ≤ e) ∧
        ((empty phase elementSize).createAll ds).TakesBack src g' d') := by
  have hreached := (Reached.empty phase elementSize).createAll ds
  constructor
  · intro ht ht'
    exact deconvolution_takesBack hreached hd (familyOf_tag ht) hname hd' (familyOf_tag ht') hfree
  · intro ht hone ht'
    exact convolution_takesBack hreached hd (familyOf_tag ht) hone hname hd' (familyOf_tag ht') hfree

def windowed (t : LayerType) (name input output : String) : Declaration where
  type := t.tag
  name := name
  inputs := [input]
  outputs := [.text output]
  params := [("num_output", .int 5), ("kernel_size", .list [.int 1, .int 2]),
    ("stride", .list [.int 2, .int 1]), ("pad", .int 0)]
  included := []
  excluded := []

theorem windowed_repeats (t t' : LayerType) (name name' input mid output : String) :
    (windowed t' name' mid output).Repeats (windowed t name input mid) mid where
  inputs := rfl
  outputs := rfl
  params _ _ := rfl
  numOutput := ⟨.int 5, 5, rfl, rfl, by decide⟩

theorem create_takesBack_windowed :
    (∃ g' l src, ((empty .test none).createAll oneSource).create
        (windowed .convolution "down" "data" "y") none = ⟨g', .ok l⟩ ∧
      g'.FreshFor (windowed .deconvolution "up" "y" "z") ∧ l.inputs = [some src] ∧
      (∃ l' g'', g'.create (windowed .deconvolution "up" "y" "z") none = ⟨g'', .ok l'⟩) ∧
      ((empty .test none).createAll oneSource).TakesBack src g'
        (windowed .deconvolution "up" "y" "z")) ∧
    ∃ g' l src, ((empty .test none).createAll oneSource).create
        (windowed .deconvolution "up" "data" "y") none = ⟨g', .ok l⟩ ∧
      g'.FreshFor (windowed .convolution "down" "y" "z") ∧ l.inputs = [some src] ∧
      ((∃ l' g'', g'.create (windowed .convolution "down" "y" "z") none = ⟨g'', .ok l'⟩) ↔
        ∀ e ∈ (((empty .test none).createAll oneSource).blob src).spatial, 2 ≤ e) ∧
      ((empty .test none).createAll oneSource).TakesBack src g'
        (windowed .convolution "down" "y" "z") := by
  have hrun (d d' : Declaration)
      (h : (((empty .test none).createAll oneSource).create d none).result.toOption.any
        (fun _ => decide ((((empty .test none).createAll oneSource).create d none).graph.FreshFor
          d')) = true) :
      ∃ g' l, ((empty .test none).createAll oneSource).create d none = ⟨g', .ok l⟩ ∧
        g'.FreshFor d' := by
    obtain ⟨g', l, hcreate, hfree⟩ := exists_create_of_any (p := fun g' _ => decide (g'.FreshFor d')) h
    exact ⟨g', l, hcreate, of_decide_eq_true hfree⟩
  constructor
  · obtain ⟨g', l, hcreate, hfree⟩ := hrun (windowed .convolution "down" "data" "y")
      (windowed .deconvolution "up" "y" "z") (by decide +kernel)
    obtain ⟨src, hsrc, haccepted, hback⟩ :=
      (create_takesBack .test none oneSource hcreate rfl (windowed_repeats _ _ _ _ _ _ _) hfree).1
        rfl rfl
    exact ⟨g', l, src, hcreate, hfree, hsrc, haccepted, hback⟩
  · obtain ⟨g', l, hcreate, hfree⟩ := hrun (windowed .deconvolution "up" "data" "y")
      (windowed .convolution "down" "y" "z") (by decide +kernel)
    obtain ⟨src, hsrc, haccepted, hback⟩ :=
      (create_takesBack .test none oneSource hcreate rfl (windowed_repeats _ _ _ _ _ _ _) hfree).2
        rfl rfl rfl
    exact ⟨g', l, src, hcreate, hfree, hsrc, haccepted, hback⟩

end Graph

end NetFootprint
