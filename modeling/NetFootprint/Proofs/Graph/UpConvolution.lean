import NetFootprint.Proofs.Graph.Accept

/-!
# The outputs of an up-convolution

An up-convolution pairs its inputs with its outputs and works on each pair alone, with the window
that is read for the first input. No output is without its input, but an up-convolution for which
fewer outputs are declared leaves its last inputs without a result.
-/

namespace NetFootprint.Graph

variable {g g' : Graph} {l : Layer} {d : Declaration} {draft : Draft} {i ref : Nat}

/-- One output of an up-convolution: it has the samples of the input at its position, and along each
axis the extent that the window makes of that of the input. -/
def UpConvolved (g : Graph) (l : Layer) (w : Window) (g' : Graph) (i ref : Nat) : Prop :=
  ∃ src, l.inputs[i]? = some (some src) ∧ (g'.blob ref).samples = (g.blob src).samples ∧
    w.Takes Window.Axis.UpConvolves (g.blob src).spatial (g'.blob ref).spatial

theorem Adds.upConvolved (h : g.Adds l draft g') {w : Window} {n : Nat}
    (hmade : List.Forall₂
      (fun p o => (g.siteOf l.declaration l.inputs).upConvolvedBlob w n p.1 p.2 = .ok o)
      ((g.siteOf l.declaration l.inputs).inputs.zip l.declaration.outputs) draft.outputs)
    (hi : l.outputs[i]? = some ref) : g.UpConvolved l w g' i ref := by
  obtain ⟨o, ho, hat⟩ := exists_at_right h.placed hi
  obtain ⟨⟨input, top⟩, hp, hblob⟩ := exists_at_right hmade ho
  have hinput := (List.getElem?_zip_eq_some.mp hp).1
  simp only [siteOf, List.getElem?_map, Option.map_eq_some_iff] at hinput
  obtain ⟨slot, hslot, rfl⟩ := hinput
  obtain ⟨b, -, -, -, -, hsome, -⟩ := Site.upConvolvedBlob_ok hblob
  obtain ⟨src, rfl, rfl⟩ := Option.map_eq_some_iff.mp hsome
  obtain ⟨made, rfl, -, hwindowed⟩ := Site.upConvolvedBlob_made hblob
  cases hat with
  | made _ _ _ _ hfixed =>
    have hout := hwindowed.of_fixed hfixed
    exact ⟨src, hslot, hout.samples, hout.spatial⟩

/-- Whatever was created by name before, an up-convolution has the declared number of outputs, one
at least and none beyond the inputs, and each is what the window of the first input makes of the
input at its position. So each input has an output exactly if one is declared for each. -/
theorem create_upConvolved (phase : Phase) (elementSize : Option (List Float))
    (ds : List Declaration) {d : Declaration} {g' : Graph} {l : Layer}
    (hd : ((empty phase elementSize).createAll ds).create d none = ⟨g', .ok l⟩)
    (ht : d.type = LayerType.deconvolution.tag) :
    l.inputs.length = d.inputs.length ∧ l.outputs.length = d.outputs.length ∧
    1 ≤ l.outputs.length ∧ l.outputs.length ≤ l.inputs.length ∧
    ∃ w n first, l.body = .deconvolution w n ∧ l.inputs[0]? = some (some first) ∧
      (((empty phase elementSize).createAll ds).namedSite d).window
        (((empty phase elementSize).createAll ds).blob first) = .ok w ∧
      ∀ i ref, l.outputs[i]? = some ref →
        ((empty phase elementSize).createAll ds).UpConvolved l w g' i ref := by
  have hg := (Reached.empty phase elementSize).createAll ds
  generalize (empty phase elementSize).createAll ds = g at hd hg ⊢
  obtain ⟨draft, ha, rfl, hfamily, hlayer⟩ := create_drafted hg hd
  rw [eq_of_ok hfamily (familyOf_tag ht), ← namedSite_eq ha.found] at hlayer
  obtain ⟨src, rest, w, n, outputs, hin, hne, hle, hw, -, hmade, rfl⟩ :=
    Site.deconvolutionLayer_ok hlayer
  have hinputs : l.inputs.length = l.declaration.inputs.length := ha.found.length_eq.symm
  have hsite : (g.siteOf l.declaration l.inputs).inputs.length = l.inputs.length :=
    List.length_map _
  have hdrafted : outputs.length = l.declaration.outputs.length := by
    rw [← hmade.length_eq, List.length_zip]
    exact Nat.min_eq_right hle
  have houtputs : l.outputs.length = l.declaration.outputs.length := by
    rw [← ha.placed.length_eq, hdrafted]
  obtain ⟨first, hfirst, hblob⟩ : ∃ first, l.inputs[0]? = some (some first) ∧
      g.blob first = src := by
    have hat : (g.siteOf l.declaration l.inputs).inputs[0]? = some (some src) := by rw [hin]; rfl
    simp only [siteOf, List.getElem?_map, Option.map_eq_some_iff] at hat
    obtain ⟨slot, hslot, first, rfl, hblob⟩ := hat
    exact ⟨first, hslot, hblob⟩
  refine ⟨hinputs, houtputs, ?_, ?_, w, n, first, ha.body, hfirst, ?_, fun i ref hi => ?_⟩
  · rw [houtputs]
    exact List.length_pos_iff.mpr hne
  · rw [houtputs, ← hsite]
    exact hle
  · rw [← namedSite_eq ha.found, hblob]
    exact hw
  · exact ha.upConvolved hmade hi

def twoBlobs : List Declaration :=
  [{ type := "Input", name := "source", inputs := [], outputs := [.text "a", .text "b"]
     params := [("shape", .list [.list [.int 1, .int 1, .int 2, .int 2],
      .list [.int 1, .int 1, .int 4, .int 4]])], included := [], excluded := [] }]

def enlarged (outputs : List Value) : Declaration where
  type := LayerType.deconvolution.tag
  name := "up"
  inputs := ["a", "b"]
  outputs := outputs
  params := [("num_output", .int 1), ("kernel_size", .int 2), ("stride", .int 2)]
  included := []
  excluded := []

theorem create_upConvolved_enlarged : ∃ g' l, ((empty .test none).createAll twoBlobs).create
      (enlarged [.text "u", .text "v"]) none = ⟨g', .ok l⟩ ∧ l.inputs.length = 2 ∧
    l.outputs.length = 2 ∧ ∃ w n first, l.body = .deconvolution w n ∧
      l.inputs[0]? = some (some first) ∧
      (((empty .test none).createAll twoBlobs).namedSite (enlarged [.text "u", .text "v"])).window
        (((empty .test none).createAll twoBlobs).blob first) = .ok w ∧
      ∀ i ref, l.outputs[i]? = some ref →
        ((empty .test none).createAll twoBlobs).UpConvolved l w g' i ref := by
  obtain ⟨g', l, hcreate, -⟩ := exists_create_of_any (p := fun _ _ => true)
    (by decide +kernel : (((empty .test none).createAll twoBlobs).create
      (enlarged [.text "u", .text "v"]) none).result.toOption.any (fun _ => true) = true)
  obtain ⟨hin, hout, -, -, hrest⟩ := create_upConvolved .test none twoBlobs hcreate rfl
  exact ⟨g', l, hcreate, hin, hout, hrest⟩

/-- With one output for two inputs an up-convolution is accepted, too. -/
theorem not_onePerInput_enlarged : ∃ g' l, ((empty .test none).createAll twoBlobs).create
    (enlarged [.text "u"]) none = ⟨g', .ok l⟩ ∧ l.inputs.length = 2 ∧ l.outputs.length = 1 := by
  have hrun : (((empty .test none).createAll twoBlobs).create
      (enlarged [.text "u"]) none).result.toOption.any
        (fun l => l.inputs.length == 2 && l.outputs.length == 1) = true := by decide +kernel
  obtain ⟨g', l, hcreate, hlengths⟩ :=
    exists_create_of_any (p := fun _ l => l.inputs.length == 2 && l.outputs.length == 1) hrun
  rw [Bool.and_eq_true, beq_iff_eq, beq_iff_eq] at hlengths
  exact ⟨g', l, hcreate, hlengths⟩

end NetFootprint.Graph
