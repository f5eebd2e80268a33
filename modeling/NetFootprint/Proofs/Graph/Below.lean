import NetFootprint.Network.Build
import NetFootprint.Proofs.Graph.Create
import NetFootprint.Proofs.Layer.Monotone

/-!
# Growing a graph on larger inputs

Two graphs, the first of which is below the second, stay so while the same layers are added to both:
names are resolved to the same places, the drafts are below one another, and the checks on a layer
come to the same result. By induction over the declarations, the whole runs end in two graphs the
first of which is below the second.
-/

namespace NetFootprint

theorem Body.Alike.family {body body' : Body} (h : Alike body body') :
    body'.family = body.family := by
  cases h <;> rfl

theorem Layer.Below.family {l l' : Layer} (h : l.Below l') : l'.family = l.family := h.body.family

namespace Graph

variable {g g' : Graph} {l l' : Layer}

/-! ## Changing blobs -/

theorem modify_below {f : Blob → Blob} (hf : ∀ b b', Blob.Below b b' → (f b).Below (f b'))
    {blobs blobs' : List Blob} (h : List.Forall₂ Blob.Below blobs blobs') (ref : Nat) :
    List.Forall₂ Blob.Below (blobs.modify ref f) (blobs'.modify ref f) := by
  induction h generalizing ref with
  | nil =>
    rw [List.modify_nil]
    exact .nil
  | cons hb hrest ih =>
    cases ref with
    | zero => exact .cons (hf _ _ hb) hrest
    | succ n => exact .cons hb (ih n)

theorem mark_below (h : g.Below g') (ref : Nat) : (g.mark ref).Below (g'.mark ref) where
  phase := h.phase
  elementSize := h.elementSize
  registered := h.registered
  built := h.built
  blobs := by
    refine modify_below (fun _ _ hb => ?_) h.blobs ref
    exact hb.change (fun b => { b with resident := true }) (fun _ _ => rfl) fun _ => rfl
  layers := h.layers

theorem register_below (h : g.Below g') (ref : Nat) :
    (g.register ref).Below (g'.register ref) where
  phase := h.phase
  elementSize := h.elementSize
  registered := congrArg (· ++ [ref]) h.registered
  built := h.built
  blobs := by
    simp only [register, update, h.registered]
    refine modify_below (fun _ _ hb => ?_) h.blobs ref
    exact hb.change (fun b => { b with id := some g.registered.length }) (fun _ _ => rfl)
      fun _ => rfl
  layers := h.layers

theorem foldl_below {f : Graph → Nat → Graph}
    (hf : ∀ g g' : Graph, g.Below g' → ∀ ref, (f g ref).Below (f g' ref)) (h : g.Below g')
    (refs : List Nat) : (refs.foldl f g).Below (refs.foldl f g') := by
  induction refs generalizing g g' with
  | nil => exact h
  | cons ref rest ih => exact ih (hf g g' h ref)

theorem marked_below (h : g.Below g') (hl : l.Below l') : (g.marked l).Below (g'.marked l') := by
  have hleading : l'.leading = l.leading := by rw [Layer.leading, hl.inputs, Layer.leading]
  rw [marked, marked, hl.family, hleading]
  split
  · exact foldl_below (fun _ _ hg ref => mark_below hg ref) h l.leading
  · exact h

theorem withRank_below (h : g.Below g') (rank : Option Int) :
    (g.withRank rank).Below (g'.withRank rank) := by
  simp only [withRank, h.elementSize]
  split
  · exact ⟨h.phase, rfl, h.registered, h.built, h.blobs, h.layers⟩
  · exact h

theorem enlist_below (h : g.Below g') (hl : l.Below l') : (g.enlist l).Below (g'.enlist l') where
  phase := h.phase
  elementSize := h.elementSize
  registered := h.registered
  built := h.built
  blobs := h.blobs
  layers := List.rel_append h.layers (.cons hl .nil)

theorem publish_below (h : g.Below g') (l l' : Layer) (fresh : List Nat) :
    (g.publish l fresh).Below (g'.publish l' fresh) := by
  have hgrown := foldl_below (fun _ _ hg ref => register_below hg ref) h fresh
  exact ⟨hgrown.phase, hgrown.elementSize, hgrown.registered, hgrown.built, hgrown.blobs,
    hgrown.layers⟩

theorem accepted_below (h : g.Below g') (hl : l.Below l') (fresh : List Nat)
    (rank : Option Int) : (g.accepted l fresh rank).Below (g'.accepted l' fresh rank) := by
  have hranked := withRank_below h rank
  exact publish_below (enlist_below (marked_below hranked hl) hl) l l' fresh

/-! ## Building a layer -/

theorem madeBlobs_below {outputs outputs' : List Output}
    (h : List.Forall₂ Output.Below outputs outputs') :
    List.Forall₂ Blob.Below (madeBlobs outputs) (madeBlobs outputs') := by
  induction h with
  | nil => exact .nil
  | cons ho _ ih =>
    cases ho with
    | kept i => exact ih
    | made hb => exact .cons hb ih

theorem placesFrom_below {outputs outputs' : List Output}
    (h : List.Forall₂ Output.Below outputs outputs') (inputs : List (Option Nat)) (n : Nat) :
    placesFrom inputs n outputs' = placesFrom inputs n outputs := by
  induction h generalizing n with
  | nil => rfl
  | cons ho _ ih =>
    cases ho with
    | kept i => exact congrArg (_ :: ·) (ih n)
    | made hb => exact congrArg (n :: ·) (ih (n + 1))

theorem siteOf_below (h : g.Below g') {d d' : Declaration} (hd : d.Below d')
    (refs : List (Option Nat)) : (g.siteOf d refs).Below (g'.siteOf d' refs) where
  graph := h
  declaration := hd
  inputs := by
    simp only [siteOf]
    rw [List.forall₂_map_left_iff, List.forall₂_map_right_iff, List.forall₂_same]
    intro ref _
    cases ref with
    | none => exact .none
    | some ref => exact .some (h.blob ref)

theorem layer_below_of_family {s s' : Site} (h : s.Below s') {t : LayerType}
    (ht : familyOf s.declaration = .ok t) : Relate Draft.Below (s.layer t) (s'.layer t) := by
  cases h.declaration with
  | same hd => exact Site.layer_below h hd t
  | source rows rows' type =>
    -- only the source has parameters of its own on either side
    rw [familyOf, type, LayerType.ofTag?_tag] at ht
    obtain rfl := Except.ok.inj ht
    exact Site.sourceLayer_below h

theorem resolveInputs_below (h : g.Below g') {d d' : Declaration} (hd : d.Below d') :
    g'.resolveInputs d' = g.resolveInputs d := by
  rw [hd.rest]
  simp only [resolveInputs, resolve, h.find?]

theorem build_below (h : g.Below g') {d d' : Declaration} (hd : d.Below d') :
    Relate (fun made made' : Layer × Graph => made.1.Below made'.1 ∧ made.2.Below made'.2)
      (g.build d none) (g'.build d' none) := by
  rintro ⟨l, built⟩ ⟨l', built'⟩ hb hb'
  obtain ⟨t, refs, draft, ht, ⟨places, hplaces, rfl⟩, hdraft, rfl, rfl⟩ := build_ok hb
  obtain ⟨t', refs', draft', ht', ⟨places', hplaces', rfl⟩, hdraft', rfl, rfl⟩ := build_ok hb'
  rw [resolveInputs_below h hd] at hplaces'
  obtain rfl := eq_of_ok hplaces hplaces'
  have hfamily : familyOf d' = familyOf d := by rw [hd.rest, familyOf, familyOf]
  rw [hfamily] at ht'
  obtain rfl := eq_of_ok ht ht'
  have hdrafts := layer_below_of_family (siteOf_below h hd (places.map some)) ht
    draft draft' hdraft hdraft'
  have hsize : g'.blobs.length = g.blobs.length := h.blobs.length_eq.symm
  constructor
  · exact
      { serial := h.built
        name := by simp only [Layer.name]; rw [hd.rest]
        tag := by simp only [Layer.tag]; rw [hd.rest]
        inputs := rfl
        outputs := by simp only [hsize, placesFrom_below hdrafts.outputs]
        body := hdrafts.body }
  · exact
      { phase := h.phase
        elementSize := h.elementSize
        registered := h.registered
        built := congrArg (· + 1) h.built
        blobs := List.rel_append h.blobs (madeBlobs_below hdrafts.outputs)
        layers := h.layers }

/-! ## Taking a layer in -/

theorem refuse_below {α : Type} (hl : l.Below l') (message parameter : String) :
    (refuse l' message parameter : Except Failure α) = refuse l message parameter := by
  have hname : l'.declaration.name = l.declaration.name := hl.name
  have htype : l'.declaration.type = l.declaration.type := hl.tag
  rw [refuse, refuse, Declaration.fault, hname, htype, Declaration.fault]

theorem refuseOutput_below {α : Type} (hl : l.Below l') (name : Value) :
    (refuseOutput l' name : Except Failure α) = refuseOutput l name := by
  rw [refuseOutput, refuseOutput, hl.name, hl.tag]

theorem vet_below (h : g.Below g') (hl : l.Below l') (outputs fresh : List Nat)
    (rank : Option Int) : g'.vet l' outputs fresh rank = g.vet l outputs fresh rank := by
  induction outputs generalizing fresh rank with
  | nil => rfl
  | cons ref rest ih =>
    simp only [vet, h.find?, (h.blob _).same Blob.name, (h.blob ref).same Blob.isScalar,
      (h.blob ref).spatialRank, hl.family, ih, refuse_below hl, refuseOutput_below hl]

theorem approve_below (h : g.Below g') (hl : l.Below l') : g'.approve l' = g.approve l := by
  have hany : g'.layers.any (fun other => other.name == l.name) =
      g.layers.any (fun other => other.name == l.name) :=
    any_same h.layers fun other other' ho => by rw [ho.name]
  have hrank : g'.spatialRank = g.spatialRank := by rw [spatialRank, h.elementSize, spatialRank]
  rw [approve, hl.name, hany, hrank, hl.outputs, vet_below h hl, refuse_below hl, approve]

/-- If a declaration is accepted on both sides, then what it leaves is below. -/
theorem create_below (h : g.Below g') {d d' : Declaration} (hd : d.Below d')
    (hl : (g.create d none).result = .ok l) (hl' : (g'.create d' none).result = .ok l') :
    (g.create d none).graph.Below (g'.create d' none).graph := by
  have hin : AllGiven none := by simp [AllGiven]
  obtain ⟨built, fresh, rank, hb, ha, hgraph⟩ := create_ok hin hl
  obtain ⟨built', fresh', rank', hb', ha', hgraph'⟩ := create_ok hin hl'
  -- the layers are alike, so the vetting lets the same outputs through on both sides
  obtain ⟨hlayer, hbuilt⟩ := build_below h hd _ _ hb hb'
  rw [approve_below hbuilt hlayer] at ha'
  obtain ⟨rfl, rfl⟩ := Prod.mk.inj (eq_of_ok ha ha')
  rw [hgraph, hgraph']
  exact accepted_below hbuilt hlayer fresh rank

/-! ## Runs -/

theorem extend_below (h : g.Below g') {d d' : Declaration} (hd : d.Below d') :
    Relate Graph.Below (g.extend d) (g'.extend d') := by
  refine .seq fun l l' hl hl' => .seq fun _ _ _ _ => .ok ?_
  exact create_below h hd hl hl'

theorem extendAll_below (h : g.Below g') {ds ds' : List Declaration}
    (hds : List.Forall₂ Declaration.Below ds ds') :
    Relate Graph.Below (g.extendAll ds) (g'.extendAll ds') := by
  rw [extendAll, extendAll]
  exact .foldlM (T := Declaration.Below) (fun _ _ _ _ hg hd => extend_below hg hd) hds h

end Graph

end NetFootprint
