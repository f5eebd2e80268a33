import NetFootprint.Proofs.Layer.Below

/-!
# The same layer at another time

A layer may be built earlier or later than it was. Its inputs are then the same blobs but for what
depends on when they were made: residency, ids and the serial numbers of their makers. If its names
are free there, and the blob is known from which it takes its extents, then its family accepts it
there as well and makes the same of it. Only a blob whose number of axes is not that of the network
could have other element sizes.
-/

namespace NetFootprint

/-! ## Blobs -/

/-- The same blob, made at another time: the name of its maker is the same, but not its serial
number, nor whether the blob is on the device, nor its id. -/
structure Blob.Twin (b b' : Blob) : Prop where
  rest : b' = { b with producer := b'.producer, resident := b'.resident, id := b'.id }
  maker : b'.producer.map Producer.name = b.producer.map Producer.name

namespace Blob.Twin

variable {b b' b'' : Blob}

/-- A reading of a blob that does not depend on when the blob was made. -/
class Timeless {α : Type} (f : Blob → α) : Prop where
  remade : ∀ b producer resident id, f { b with producer, resident, id } = f b

instance : Timeless Blob.name := ⟨fun _ _ _ _ => rfl⟩
instance : Timeless Blob.shape := ⟨fun _ _ _ _ => rfl⟩
instance : Timeless Blob.elementSize := ⟨fun _ _ _ _ => rfl⟩
instance : Timeless Blob.isScalar := ⟨fun _ _ _ _ => rfl⟩
instance : Timeless Blob.gradient := ⟨fun _ _ _ _ => rfl⟩
instance : Timeless Blob.spatialRank := ⟨fun _ _ _ _ => rfl⟩
instance : Timeless Blob.spatial := ⟨fun _ _ _ _ => rfl⟩
instance : Timeless Blob.samples := ⟨fun _ _ _ _ => rfl⟩
instance : Timeless Blob.channels := ⟨fun _ _ _ _ => rfl⟩
instance : Timeless Blob.text := ⟨fun _ _ _ _ => rfl⟩
instance (axis : Nat) : Timeless fun b => b.extent axis := ⟨fun _ _ _ _ => rfl⟩

theorem same {α : Type} (f : Blob → α) [hf : Timeless f] (h : b.Twin b') : f b' = f b := by
  rw [h.rest, hf.remade]

theorem eq (h : b.Twin b') : ∃ producer resident id, b' = { b with producer, resident, id } :=
  ⟨_, _, _, h.rest⟩

theorem trans (h : b.Twin b') (h' : b'.Twin b'') : b.Twin b'' where
  rest := by
    rw [h'.rest, h.rest]
  maker := h'.maker.trans h.maker

end Blob.Twin

/-- The same output of a layer that is built at another time. A blob that was made with another
number of axes than that of the network may differ. -/
inductive Output.Twin (axes : Nat) : Output → Output → Prop where
  | made {b b' : Blob} (h : b.isScalar = true ∨ b.spatialRank = axes → b.Twin b') :
    Twin axes (.made b) (.made b')
  | kept (input : Nat) : Twin axes (.kept input) (.kept input)

structure Draft.Twin (axes : Nat) (d d' : Draft) : Prop where
  outputs : List.Forall₂ (Output.Twin axes) d.outputs d'.outputs
  body : d'.body = d.body

theorem Draft.Twin.single {axes : Nat} {b b' : Blob} {body : Body}
    (h : b.isScalar = true ∨ b.spatialRank = axes → b.Twin b') :
    Draft.Twin axes ⟨[.made b], body⟩ ⟨[.made b'], body⟩ where
  outputs := .cons (.made h) .nil
  body := rfl

namespace Site

/-- The site of the same layer in another graph, on other blobs. -/
def moved (s : Site) (g : Graph) (inputs : List (Option Blob)) : Site :=
  { s with graph := g, inputs }

/-- The layer has its inputs in the other graph, and its names are free there. -/
structure Moves (s : Site) (g : Graph) (inputs : List (Option Blob)) (axes : Nat) : Prop where
  phase : g.phase = s.graph.phase
  inputs : List.Forall₂ (Option.Rel Blob.Twin) s.inputs inputs
  free : ∀ top ∈ s.declaration.outputs, s.graph.contains top = false → g.contains top = false
  helper : g.contains (.text helperOutput) = false
  size : g.elementSizeFor axes = s.graph.elementSizeFor axes

/-- The blob whose extents the layer takes, if it takes those of another blob, is known in the other
graph. -/
def SourceKnown (s : Site) (g : Graph) : Prop :=
  s.shapeSource ≠ "" → ∀ ref, s.graph.find? (.text s.shapeSource) = some ref →
    ∃ ref', g.find? (.text s.shapeSource) = some ref' ∧ (s.graph.blob ref).Twin (g.blob ref')

variable {s : Site} {g : Graph} {inputs : List (Option Blob)} {axes : Nat}

/-! ## Checks -/

theorem present_moved {input input' : Option Blob} (h : Option.Rel Blob.Twin input input') :
    Follows Blob.Twin (present input) (present input') := by
  cases h with
  | none => exact .error _
  | some hb => exact .ok hb

namespace Moves

theorem requireInputs (h : s.Moves g inputs axes) (least : Nat) (most : Option Nat) :
    (s.moved g inputs).requireInputs least most = s.requireInputs least most := by
  have hlength : (s.moved g inputs).inputs.length = s.inputs.length := h.inputs.length_eq.symm
  simp only [Site.requireInputs, hlength]
  rfl

theorem requireFresh (h : s.Moves g inputs axes) {top : Value}
    (htop : top ∈ s.declaration.outputs) (u : Unit) (hfresh : s.requireFresh top = .ok u) :
    (s.moved g inputs).requireFresh top = .ok u := by
  obtain ⟨hkey, hfree⟩ := requireFresh_eq_ok.mp hfresh
  exact requireFresh_eq_ok.mpr ⟨hkey, h.free top htop hfree⟩

theorem target {s : Site} {top : Value} (h : s.target = .ok top) : top ∈ s.declaration.outputs := by
  obtain ⟨rest, hrest⟩ := target_eq_ok.mp h
  simp [hrest]

theorem present_source (h : s.Moves g inputs axes) :
    Follows Blob.Twin s.source (s.moved g inputs).source := by
  have hinputs := h.inputs
  unfold Site.source Site.moved
  cases hs : s.inputs with
  | nil => exact .error _
  | cons input rest =>
    rw [hs] at hinputs
    obtain ⟨input', rest', hinput, -, hs'⟩ := List.forall₂_cons_left_iff.mp hinputs
    subst hs'
    exact present_moved hinput

theorem elementSizeOf (h : s.Moves g inputs axes) (k : Sketch) :
    (s.moved g inputs).elementSizeOf k = s.elementSizeOf k := by
  have hinputs := h.inputs
  unfold Site.elementSizeOf Site.moved
  cases k.elementSize with
  | some size => rfl
  | none =>
    cases hs : s.inputs with
    | nil =>
      rw [hs] at hinputs
      obtain rfl := List.forall₂_nil_left_iff.mp hinputs
      rfl
    | cons input rest =>
      rw [hs] at hinputs
      obtain ⟨input', rest', hinput, -, rfl⟩ := List.forall₂_cons_left_iff.mp hinputs
      cases hinput with
      | none => rfl
      | some hb =>
        cases k.scalar with
        | true => rfl
        | false => exact hb.same Blob.elementSize

theorem newBlob (h : s.Moves g inputs axes) (k : Sketch) (resident : Bool) :
    Follows Blob.Twin (s.newBlob k) ((s.moved g inputs).newBlob { k with resident }) := by
  intro b hb
  obtain ⟨hpos, rfl⟩ := newBlob_eq_ok.mp hb
  refine ⟨_, newBlob_eq_ok.mpr ⟨hpos, rfl⟩, ?_, rfl⟩
  have hsize : (s.moved g inputs).elementSizeOf { k with resident } = s.elementSizeOf k :=
    h.elementSizeOf { k with resident }
  have htraining : (s.moved g inputs).graph.training = s.graph.training := by
    rw [Graph.training, Graph.training, ← h.phase]
    rfl
  simp only [blobOf, hsize, htraining]

/-- The element size that a graph gives to a blob is that of the other graph if the blob has the
axes of the network. -/
theorem newBlob_sized (h : s.Moves g inputs axes) {k : Sketch} {rank : Int}
    (hk : k.elementSize = some (s.graph.elementSizeFor rank))
    (hshape : (k.shape.length : Int) = rank + 2) (hscalar : k.scalar = false) :
    Follows (fun b b' : Blob => b.isScalar = true ∨ b.spatialRank = axes → b.Twin b')
      (s.newBlob k)
      ((s.moved g inputs).newBlob { k with elementSize := some (g.elementSizeFor rank) }) := by
  intro b hb
  obtain ⟨hpos, rfl⟩ := newBlob_eq_ok.mp hb
  refine ⟨_, newBlob_eq_ok.mpr ⟨hpos, rfl⟩, fun hrank => ?_⟩
  have hnone : (s.blobOf k).isScalar = false := by
    simp only [Blob.isScalar, blobOf, hscalar]
    rfl
  have hlength : (s.blobOf k).shape.length = k.shape.length := List.length_map _
  have haxes : rank = axes := by
    have hrank := hrank.resolve_left (by simp [hnone])
    rw [Blob.spatialRank, hnone, if_neg Bool.false_ne_true, hlength] at hrank
    omega
  have hsame : { k with elementSize := some (g.elementSizeFor rank) } = k := by
    rw [haxes, h.size, ← haxes, ← hk]
  rw [hsame]
  obtain ⟨b', hb', htwin⟩ := h.newBlob k k.resident _ hb
  obtain ⟨-, rfl⟩ := newBlob_eq_ok.mp hb'
  exact htwin

end Moves

/-! ## Families -/

theorem sourceBlob_moved (h : s.Moves g inputs axes) {top : Value}
    (htop : top ∈ s.declaration.outputs) (shape : Value) :
    Follows (Output.Twin axes) (s.sourceBlob top shape)
      ((s.moved g inputs).sourceBlob top shape) := by
  apply Follows.same rfl
  intro extents _
  apply Follows.ite
  · intro _
    apply Follows.same rfl
    intro text _
    exact .error _
  · intro _
    apply Follows.step (h.requireFresh htop)
    intro _ _
    have hrank : (extents.length : Int) = (extents.length : Int) - 2 + 2 := by omega
    exact .bind (h.newBlob_sized rfl hrank rfl) fun b b' _ hb => .ok (.made hb)

theorem sourceLayer_moved (h : s.Moves g inputs axes) :
    Follows (Draft.Twin axes) s.sourceLayer (s.moved g inputs).sourceLayer := by
  apply Follows.same (h.requireInputs _ _)
  intro _ _
  apply Follows.same rfl
  intro _ _
  apply Follows.same rfl
  intro shapes _
  apply Follows.ite
  · intro _
    exact .error _
  · intro _
    have hpairs : List.Forall₂ (fun p p' : Value × Value => p = p' ∧ p.1 ∈ s.declaration.outputs)
        (s.declaration.outputs.zip shapes) (s.declaration.outputs.zip shapes) :=
      List.forall₂_same.mpr fun p hp => ⟨rfl, (List.of_mem_zip hp).1⟩
    apply Follows.bind (.mapM hpairs _)
    · intro outputs outputs' _ houtputs
      exact .ok ⟨houtputs, rfl⟩
    · rintro p _ ⟨rfl, htop⟩
      exact sourceBlob_moved h htop p.2

theorem convolutionLayer_moved (h : s.Moves g inputs axes) :
    Follows (Draft.Twin axes) s.convolutionLayer (s.moved g inputs).convolutionLayer := by
  apply Follows.same (h.requireInputs _ _)
  intro _ _
  apply Follows.same rfl
  intro _ _
  apply Follows.bind (.lift h.present_source)
  rintro src _ - hsrc
  obtain ⟨_, _, _, rfl⟩ := hsrc.eq
  apply Follows.same rfl
  intro w _
  apply Follows.same rfl
  intro numOutput _
  apply Follows.same rfl
  intro top htop
  apply Follows.step (h.requireFresh (Moves.target (lift_eq_ok.mp htop)))
  intro _ _
  apply Follows.same rfl
  intro samples _
  apply Follows.same rfl
  intro spatial _
  apply Follows.same rfl
  intro size _
  exact .bind (h.newBlob _ _) fun b b' _ hb => .ok (.single fun _ => hb)

theorem Moves.zip (h : s.Moves g inputs axes) :
    List.Forall₂ (fun p p' : Option Blob × Value =>
        Option.Rel Blob.Twin p.1 p'.1 ∧ p.2 = p'.2 ∧ p.2 ∈ s.declaration.outputs)
      (s.inputs.zip s.declaration.outputs) (inputs.zip s.declaration.outputs) := by
  have htops : List.Forall₂ (fun top top' => top = top' ∧ top ∈ s.declaration.outputs)
      s.declaration.outputs s.declaration.outputs :=
    List.forall₂_same.mpr fun _ htop => ⟨rfl, htop⟩
  exact rel_zip h.inputs htops

theorem upConvolvedBlob_moved (h : s.Moves g inputs axes) (w : Window) (numOutput : Nat)
    {input input' : Option Blob} (hinput : Option.Rel Blob.Twin input input') {top : Value}
    (htop : top ∈ s.declaration.outputs) :
    Follows (Output.Twin axes) (s.upConvolvedBlob w numOutput input top)
      ((s.moved g inputs).upConvolvedBlob w numOutput input' top) := by
  apply Follows.step (h.requireFresh htop)
  intro _ _
  apply Follows.bind (.lift (present_moved hinput))
  rintro src _ - hsrc
  obtain ⟨_, _, _, rfl⟩ := hsrc.eq
  apply Follows.same rfl
  intro samples _
  apply Follows.same rfl
  intro spatial _
  apply Follows.same rfl
  intro size _
  exact .bind (h.newBlob _ _) fun b b' _ hb => .ok (.made fun _ => hb)

theorem deconvolutionLayer_moved (h : s.Moves g inputs axes) :
    Follows (Draft.Twin axes) s.deconvolutionLayer (s.moved g inputs).deconvolutionLayer := by
  have houtputs : (s.moved g inputs).requireOutputs 1 (some inputs.length) =
      s.requireOutputs 1 (some s.inputs.length) := by
    rw [h.inputs.length_eq]
    rfl
  apply Follows.same (h.requireInputs _ _)
  intro _ _
  apply Follows.same houtputs
  intro _ _
  apply Follows.bind (.lift h.present_source)
  rintro src _ - hsrc
  obtain ⟨_, _, _, rfl⟩ := hsrc.eq
  apply Follows.same rfl
  intro w _
  apply Follows.same rfl
  intro numOutput _
  apply Follows.bind (.mapM h.zip _)
  · intro outputs outputs' _ hmade
    exact .ok ⟨hmade, rfl⟩
  · rintro ⟨input, top⟩ ⟨input', _⟩ ⟨hinput, rfl, htop⟩
    exact upConvolvedBlob_moved h w numOutput hinput htop

theorem poolingLayer_moved (h : s.Moves g inputs axes) :
    Follows (Draft.Twin axes) s.poolingLayer (s.moved g inputs).poolingLayer := by
  apply Follows.same (h.requireInputs _ _)
  intro _ _
  apply Follows.same rfl
  intro _ _
  apply Follows.bind (.lift h.present_source)
  rintro src _ - hsrc
  obtain ⟨_, _, _, rfl⟩ := hsrc.eq
  apply Follows.same rfl
  intro w _
  apply Follows.same rfl
  intro top htop
  apply Follows.step (h.requireFresh (Moves.target (lift_eq_ok.mp htop)))
  intro _ _
  apply Follows.same rfl
  intro spatial _
  cases firstEmpty 0 spatial with
  | some d => exact .error _
  | none =>
    apply Follows.same rfl
    intro size _
    apply Follows.same rfl
    intro samples _
    apply Follows.same rfl
    intro channels _
    exact .bind (h.newBlob _ _) fun b b' _ hb => .ok (.single fun _ => hb)

theorem concatenated_moved {first first' : Blob} (hfirst : first.Twin first')
    {input input' : Option Blob} (hinput : Option.Rel Blob.Twin input input') :
    Follows Blob.Twin (s.concatenated first input)
      ((s.moved g inputs).concatenated first' input') := by
  obtain ⟨_, _, _, rfl⟩ := hfirst.eq
  apply Follows.bind (.lift (present_moved hinput))
  intro b b' _ hb
  unfold Site.moved
  rw [hb.same Blob.spatialRank, hb.same Blob.name]
  apply Follows.ite
  · intro _
    exact .error _
  · intro _
    exact .ok hb

theorem mapM_twins {α : Type} {f : Blob → Except Misuse α}
    (hf : ∀ b b' : Blob, b.Twin b' → f b' = f b) {blobs blobs' : List Blob}
    (h : List.Forall₂ Blob.Twin blobs blobs') : blobs'.mapM f = blobs.mapM f := by
  induction h with
  | nil => rfl
  | cons hb _ ih => rw [List.mapM_cons, List.mapM_cons, ih, hf _ _ hb]

theorem smallestExtent_twins {first first' : Blob} (hfirst : first.Twin first')
    {others others' : List Blob} (h : List.Forall₂ Blob.Twin others others') (axis : Nat) :
    smallestExtent axis first' others' = smallestExtent axis first others := by
  have hfold (least : Nat) :
      others'.foldlM (fun least b => do return min least (← b.extent axis)) least =
        (others.foldlM (fun least b => do return min least (← b.extent axis)) least :
          Except Misuse Nat) := by
    induction h generalizing least with
    | nil => rfl
    | cons hb _ ih =>
      rw [List.foldlM_cons, List.foldlM_cons, hb.same fun b => b.extent axis]
      exact congrArg _ (funext ih)
  rw [smallestExtent, smallestExtent, hfirst.same fun b => b.extent axis]
  exact congrArg _ (funext hfold)

theorem concatLayer_moved (h : s.Moves g inputs axes) :
    Follows (Draft.Twin axes) s.concatLayer (s.moved g inputs).concatLayer := by
  apply Follows.same (h.requireInputs _ _)
  intro _ _
  apply Follows.same rfl
  intro _ _
  apply Follows.same rfl
  intro top htop
  apply Follows.step (h.requireFresh (Moves.target (lift_eq_ok.mp htop)))
  intro _ _
  apply Follows.bind (.lift h.present_source)
  intro first first' _ hfirst
  apply Follows.bind (.mapM (List.forall₂_drop 1 h.inputs) fun _ _ hinput =>
    concatenated_moved hfirst hinput)
  intro others others' _ hothers
  have hall : List.Forall₂ Blob.Twin (first :: others) (first' :: others') :=
    .cons hfirst hothers
  apply Follows.same
  · rw [mapM_twins (fun b b' hb => hb.same Blob.channels) hall]
  intro channels _
  apply Follows.same
  · simp only [smallestExtent_twins hfirst hothers, hfirst.same Blob.shape]
  intro spatial _
  apply Follows.same
  · rw [hfirst.same Blob.samples]
  intro samples _
  rw [any_same hall fun b b' hb => hb.same Blob.gradient]
  exact .bind (h.newBlob _ _) fun b b' _ hb => .ok (.single fun _ => hb)

theorem valueLayer_moved (h : s.Moves g inputs axes) (body : Body) :
    Follows (Draft.Twin axes) (s.valueLayer body) ((s.moved g inputs).valueLayer body) := by
  apply Follows.same (h.requireInputs _ _)
  intro _ _
  apply Follows.same rfl
  intro _ _
  apply Follows.same rfl
  intro top htop
  apply Follows.step (h.requireFresh (Moves.target (lift_eq_ok.mp htop)))
  intro _ _
  apply Follows.bind (.lift h.present_source)
  rintro src _ - hsrc
  obtain ⟨_, resident, _, rfl⟩ := hsrc.eq
  exact .bind (h.newBlob _ resident) fun b b' _ hb => .ok (.single fun _ => hb)

theorem elementwiseOutput_moved (h : s.Moves g inputs axes) {input input' : Option Blob}
    (hinput : Option.Rel Blob.Twin input input') {top : Value}
    (htop : top ∈ s.declaration.outputs) (i : Nat) :
    Follows (Output.Twin axes) (s.elementwiseOutput input top i)
      ((s.moved g inputs).elementwiseOutput input' top i) := by
  apply Follows.bind (.lift (present_moved hinput))
  rintro src _ - hsrc
  obtain ⟨_, _, _, rfl⟩ := hsrc.eq
  apply Follows.ite
  · intro _
    exact .ok (.kept i)
  · intro _
    apply Follows.step (h.requireFresh htop)
    intro _ _
    exact .bind (h.newBlob _ _) fun b b' _ hb => .ok (.made fun _ => hb)

theorem isAlias_twins {outputs outputs' : List Output}
    (h : List.Forall₂ (Output.Twin axes) outputs outputs') :
    outputs'.map isAlias = outputs.map isAlias := by
  induction h with
  | nil => rfl
  | cons ho _ ih =>
    rw [List.map_cons, List.map_cons, ih]
    cases ho <;> rfl

theorem elementwiseLayer_moved (h : s.Moves g inputs axes) (body : List Bool → Body) :
    Follows (Draft.Twin axes) (s.elementwiseLayer body)
      ((s.moved g inputs).elementwiseLayer body) := by
  have houtputs : (s.moved g inputs).requireOutputs inputs.length (some inputs.length) =
      s.requireOutputs s.inputs.length (some s.inputs.length) := by
    rw [h.inputs.length_eq]
    rfl
  apply Follows.same (h.requireInputs _ _)
  intro _ _
  apply Follows.same houtputs
  intro _ _
  apply Follows.bind (.mapM (rel_zipIdx h.zip) _)
  · intro outputs outputs' _ hmade
    rw [isAlias_twins hmade]
    exact .ok ⟨hmade, rfl⟩
  · rintro ⟨⟨input, top⟩, i⟩ ⟨⟨input', _⟩, _⟩ ⟨⟨hinput, rfl, htop⟩, rfl⟩
    exact elementwiseOutput_moved h hinput htop i

theorem softmaxLayer_moved (h : s.Moves g inputs axes) :
    Follows (Draft.Twin axes) s.softmaxLayer (s.moved g inputs).softmaxLayer := by
  apply Follows.same (h.requireInputs _ _)
  intro _ _
  apply Follows.same rfl
  intro _ _
  apply Follows.same rfl
  intro top htop
  apply Follows.step (h.requireFresh (Moves.target (lift_eq_ok.mp htop)))
  intro _ _
  apply Follows.bind (.lift h.present_source)
  rintro src _ - hsrc
  obtain ⟨_, _, _, rfl⟩ := hsrc.eq
  exact .bind (h.newBlob _ _) fun b b' _ hb => .ok (.single fun _ => hb)

theorem Moves.helperSite (h : s.Moves g inputs axes) {src src' : Blob} (hsrc : src.Twin src') :
    (s.helperSite src).Moves g [some src'] axes where
  phase := h.phase
  inputs := .cons (.some hsrc) .nil
  free top htop _ := by
    rw [List.mem_singleton.mp htop]
    exact h.helper
  helper := h.helper
  size := h.size

theorem lossLayer_moved (h : s.Moves g inputs axes) :
    Follows (Draft.Twin axes) s.lossLayer (s.moved g inputs).lossLayer := by
  apply Follows.same (h.requireInputs _ _)
  intro _ _
  apply Follows.same rfl
  intro _ _
  apply Follows.bind (.lift h.present_source)
  intro src src' _ hsrc
  have hhelper := softmaxLayer_moved (h.helperSite hsrc)
  obtain ⟨_, _, _, rfl⟩ := hsrc.eq
  apply Follows.bind hhelper
  intro _ _ _ _
  apply Follows.same rfl
  intro top htop
  apply Follows.step (h.requireFresh (Moves.target (lift_eq_ok.mp htop)))
  intro _ _
  apply Follows.bind (h.newBlob _ _)
  intro loss loss' _ hloss
  have hdrop : (s.moved g inputs).declaration.outputs.drop 1 = s.declaration.outputs.drop 1 := rfl
  rw [hdrop]
  cases htops : s.declaration.outputs.drop 1 with
  | nil => exact .ok (.single fun _ => hloss)
  | cons scoreTop rest =>
    have hscore : scoreTop ∈ s.declaration.outputs :=
      List.mem_of_mem_drop (htops ▸ List.mem_cons_self)
    apply Follows.step (h.requireFresh hscore)
    intro _ _
    apply Follows.bind (h.newBlob _ _)
    intro score score' _ hscore
    exact .ok ⟨.cons (.made fun _ => hloss) (.cons (.made fun _ => hscore) .nil), rfl⟩

theorem Moves.fieldSamples (h : s.Moves g inputs axes) :
    (s.moved g inputs).fieldSamples = s.fieldSamples := by
  have hinputs := h.inputs
  unfold Site.fieldSamples Site.moved
  cases hs : s.inputs with
  | nil =>
    rw [hs] at hinputs
    obtain rfl := List.forall₂_nil_left_iff.mp hinputs
    rfl
  | cons input rest =>
    rw [hs] at hinputs
    obtain ⟨input', rest', hinput, -, rfl⟩ := List.forall₂_cons_left_iff.mp hinputs
    cases hinput with
    | none => rfl
    | some hb =>
      obtain ⟨_, _, _, rfl⟩ := hb.eq
      rfl

theorem createDeformationLayer_moved (h : s.Moves g inputs axes) :
    Follows (Draft.Twin axes) s.createDeformationLayer
      (s.moved g inputs).createDeformationLayer := by
  apply Follows.same (h.requireInputs _ _)
  intro _ _
  apply Follows.same rfl
  intro _ _
  apply Follows.same rfl
  intro nz _
  apply Follows.same rfl
  intro ny _
  apply Follows.same rfl
  intro nx _
  apply Follows.same rfl
  intro components _
  apply Follows.same h.fieldSamples
  intro samples _
  apply Follows.same rfl
  intro top htop
  apply Follows.step (h.requireFresh (Moves.target (lift_eq_ok.mp htop)))
  intro _ _
  refine .bind (h.newBlob_sized rfl ?_ rfl) fun b b' _ hb => .ok (.single hb)
  by_cases hz : 0 < nz <;> simp [hz, extentsOf]

theorem deformedExtents_moved (h : s.Moves g inputs axes) (hsource : s.SourceKnown g)
    (rank : Int) (spatial : List Nat)
    (hspatial : s.deformedExtents s.shapeSource rank = .ok spatial) :
    (s.moved g inputs).deformedExtents s.shapeSource rank = .ok spatial := by
  have hinputs := h.inputs
  rcases deformedExtents_ok hspatial with ⟨hempty, src, field, rest, hs, rfl⟩ |
    ⟨hne, ref, hfind, rfl⟩
  · rw [hs] at hinputs
    obtain ⟨src', more, -, hmore, rfl⟩ := List.forall₂_cons_left_iff.mp hinputs
    obtain ⟨field', rest', hfield, -, rfl⟩ := List.forall₂_cons_left_iff.mp hmore
    cases hfield with
    | some hb =>
      rw [hempty, ← hb.same Blob.shape]
      rfl
  · obtain ⟨ref', hfind', htwin⟩ := hsource hne ref hfind
    rw [deformedExtents, if_neg hne, ← htwin.same Blob.spatial]
    exact bind_eq_ok.mpr ⟨ref', resolve_eq_ok.mpr ⟨rfl, hfind'⟩, rfl⟩

theorem applyDeformationLayer_moved (h : s.Moves g inputs axes) (hsource : s.SourceKnown g) :
    Follows (Draft.Twin axes) s.applyDeformationLayer
      (s.moved g inputs).applyDeformationLayer := by
  apply Follows.same (h.requireInputs _ _)
  intro _ _
  apply Follows.same rfl
  intro _ _
  apply Follows.bind (.lift h.present_source)
  rintro src _ - hsrc
  obtain ⟨_, _, _, rfl⟩ := hsrc.eq
  apply Follows.step (deformedExtents_moved h hsource _)
  intro spatial _
  apply Follows.ite
  · intro _
    apply Follows.same rfl
    intro expected _
    apply Follows.same rfl
    intro actual _
    exact .error _
  · intro _
    apply Follows.same rfl
    intro top htop
    apply Follows.step (h.requireFresh (Moves.target (lift_eq_ok.mp htop)))
    intro _ _
    apply Follows.same rfl
    intro samples _
    apply Follows.same rfl
    intro channels _
    exact .bind (h.newBlob _ _) fun b b' _ hb => .ok (.single fun _ => hb)

/-- What a family accepts it accepts at any time, and it makes the same of it. -/
theorem layer_moved (h : s.Moves g inputs axes) (t : LayerType)
    (hsource : t = .applyDeformation → s.SourceKnown g) :
    Follows (Draft.Twin axes) (s.layer t) ((s.moved g inputs).layer t) := by
  cases t with
  | input | data | hdf5Data => exact sourceLayer_moved h
  | convolution => exact convolutionLayer_moved h
  | deconvolution => exact deconvolutionLayer_moved h
  | pooling => exact poolingLayer_moved h
  | concat => exact concatLayer_moved h
  | relu | dropout => exact elementwiseLayer_moved h _
  | valueTransformation | valueAugmentation => exact valueLayer_moved h _
  | createDeformation => exact createDeformationLayer_moved h
  | applyDeformation => exact applyDeformationLayer_moved h (hsource rfl)
  | softmax => exact softmaxLayer_moved h
  | softmaxWithLoss => exact lossLayer_moved h

end Site

end NetFootprint
