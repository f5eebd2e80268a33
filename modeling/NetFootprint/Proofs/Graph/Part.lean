import NetFootprint.Proofs.Graph.Admit
import NetFootprint.Proofs.Graph.Rank
import NetFootprint.Proofs.Graph.Twin

/-!
# Parts of a graph

A graph on the way to another one is a part of it: its blobs have their twins in the whole, and so
have its layers. A layer of the whole that is still missing can be added to the part as soon as the
blobs are known to which its declaration refers, because its family accepts it then as it did
before, its names are free, and its blobs have the axes of the network.
-/

namespace NetFootprint

namespace Declaration

/-- The name of the blob whose extents a layer takes; empty if it takes them from its inputs. -/
def shapeFrom (d : Declaration) : String :=
  if (d.param "output_shape_from").truthy then (d.param "output_shape_from").plain else ""

/-- A declaration refers to its inputs; only a deformation looks at the extents of another blob. -/
def Refers (d : Declaration) (name : String) : Prop :=
  name ∈ d.inputs ∨ d.type = LayerType.applyDeformation.tag ∧ d.shapeFrom = name ∧ name ≠ ""

/-- The outputs are named by texts, and none has the name that is drawn for the helper of a loss. -/
def Named (d : Declaration) : Prop :=
  ∀ top ∈ d.outputs, ∃ name, top = .text name ∧ name ≠ helperOutput

theorem Named.text {d : Declaration} (h : d.Named) :
    ∀ top ∈ d.outputs, ∃ name, top = .text name := by
  intro top htop
  obtain ⟨name, hname, -⟩ := h top htop
  exact ⟨name, hname⟩

end Declaration

namespace Graph

variable {g g' whole before after : Graph} {l m : Layer} {draft : Draft} {ref k axes : Nat}
  {outputs vetted : List Nat} {rank : Option Int} {phase : Phase}
  {elementSize : Option (List Float)} {all done : List Declaration}

/-! ## Parts -/

/-- A graph on the way to another one: its blobs and layers have their twins there. -/
structure Part (g whole : Graph) : Prop where
  axes : ∀ n, g.spatialRank = some n → whole.spatialRank = some n
  known : ∀ ref ∈ g.registered, ∃ ref' ∈ whole.registered, (whole.blob ref').Twin (g.blob ref)
  layers : ∀ m ∈ g.layers, ∃ l ∈ whole.layers, whole.Twins g l m

theorem Part.twin (h : g.Part whole) (hwhole : whole.Orderly) (hbefore : before.Reached)
    (hgrown : before.Extends whole) {name : String} {ref' : Nat}
    (hfind : before.find? (.text name) = some ref) (hfind' : g.find? (.text name) = some ref') :
    (before.blob ref).Twin (g.blob ref') := by
  obtain ⟨other, hother, htwin⟩ := h.known ref' (mem_registered_of_find? hfind')
  have hmem := mem_registered_of_find? hfind
  have hfixed := hgrown.fixed ref (hbefore.mem_registered.mp hmem)
  have hname : (whole.blob ref).name = (whole.blob other).name := by
    rw [Blob.of_fixed Blob.name hfixed, name_of_find? hfind, ← htwin.same Blob.name,
      name_of_find? hfind']
  obtain rfl := hwhole.eq_of_name (hgrown.registered.subset hmem) hother hname
  exact (Blob.Twin.of_fixed hfixed).trans htwin

theorem Built.elementSizeFor {ds : List Declaration} (h : Built phase elementSize ds g)
    (hn : ∀ n, g.spatialRank = some n → n = axes) :
    g.elementSizeFor axes = elementSize.getD (List.replicate axes 1.0) := by
  rcases h.size with hsize | ⟨hnone, n, hsize⟩
  · rw [Graph.elementSizeFor, hsize, Int.toNat_natCast]
  · have hrank : n = axes := hn n (by simp [spatialRank, hsize])
    rw [Graph.elementSizeFor, hsize, hnone, hrank]
    rfl

theorem Added.elementSizeFor (h : g.Added k l before draft after) (hn : g.spatialRank = some axes) :
    before.elementSizeFor axes = g.elementSizeFor axes := by
  have hgrown := h.adds.extends.trans h.since
  cases hsize : before.elementSize with
  | some size =>
    rw [Graph.elementSizeFor, Graph.elementSizeFor, hsize, hgrown.elementSize size hsize]
  | none =>
    have hafter : after.Reached := .add h.reached h.adds
    rcases h.adds.elementSize_unit hsize with hnone | ⟨n, hunit⟩
    · obtain ⟨hne, -⟩ := h.adds.first (h.reached.registered_nil hsize)
      obtain ⟨ref, rest, hcons⟩ := List.exists_cons_of_ne_nil hne
      have hmem : ref ∈ after.registered := h.adds.output_registered (by simp [hcons])
      simp [hafter.registered_nil hnone] at hmem
    · have hend := h.since.elementSize _ hunit
      have hrank : n = axes := by simpa [spatialRank, hend] using hn
      rw [Graph.elementSizeFor, Graph.elementSizeFor, hsize, hend, hrank]
      rfl

theorem Added.names_nodup (h : g.Added k l before draft after) (hg : g.Orderly) :
    ((madeBlobs draft.outputs).map Blob.name).Nodup := by
  have hnames : (g.registered.map fun ref => (g.blob ref).name).Nodup := by
    simpa only [registeredBlobs, List.map_map, Function.comp_def] using hg.names
  have hpart := (List.sublist_append_right before.registered
    (List.range' before.blobs.length (madeBlobs draft.outputs).length))
  rw [← h.adds.registered] at hpart
  have hnodup := hnames.sublist ((hpart.trans h.since.registered.sublist).map _)
  rw [← map_blob_grown before draft, List.map_map]
  convert hnodup using 1
  apply List.map_congr_left
  intro ref href
  obtain ⟨rank, hafter⟩ := h.adds.taken
  have hlt : ref < after.blobs.length := by
    rw [h.adds.size]
    exact (List.mem_range'_1.mp href).2
  have hfixed : (g.blob ref).fixed = ((before.grown draft).blob ref).fixed := by
    rw [h.since.fixed ref hlt, hafter, fixed_blob_accepted]
  exact (Blob.of_fixed Blob.name hfixed).symm

theorem madeBlobs_twins {outputs outputs' : List Output}
    (h : List.Forall₂ (Output.Twin axes) outputs outputs')
    (haxes : ∀ b : Blob, .made b ∈ outputs → b.isScalar = true ∨ b.spatialRank = axes) :
    List.Forall₂ Blob.Twin (madeBlobs outputs) (madeBlobs outputs') := by
  induction h with
  | nil => exact .nil
  | cons ho _ ih =>
    have hrest := ih fun b hb => haxes b (List.mem_cons_of_mem _ hb)
    cases ho with
    | kept i => exact hrest
    | made hb => exact .cons (hb (haxes _ List.mem_cons_self)) hrest

/-! ## The next layer -/

/-- A layer of the whole is the next to be added to the part: it is not there yet, and the blobs are
known to which its declaration refers. -/
structure Next (phase : Phase) (elementSize : Option (List Float)) (all done : List Declaration)
    (whole g : Graph) (k : Nat) (l : Layer) (before : Graph) (draft : Draft) (after : Graph) :
    Prop where
  wholeBuilt : Built phase elementSize all whole
  partBuilt : Built phase elementSize done g
  part : g.Part whole
  named : ∀ d ∈ all, d.Named
  layer : whole.layers[k]? = some l
  added : whole.Added k l before draft after
  missing : ∀ m ∈ g.layers, m.name ≠ l.name
  visible : ∀ name, l.declaration.Refers name → g.contains (.text name) = true

namespace Next

variable (h : Next phase elementSize all done whole g k l before draft after)

include h

theorem mem : l ∈ whole.layers := List.mem_of_getElem? h.layer

theorem declared : l.declaration ∈ all := by
  rw [← h.wholeBuilt.layers]
  exact List.mem_map_of_mem h.mem

theorem grown : before.Extends whole := h.added.adds.extends.trans h.added.since

theorem exists_axes : ∃ axes, whole.spatialRank = some axes := by
  cases hsize : whole.elementSize with
  | some size => exact ⟨size.length, by rw [spatialRank, hsize]; rfl⟩
  | none =>
    have hnil := h.wholeBuilt.reached.registered_nil hsize
    obtain ⟨hne, -⟩ := h.added.adds.first (by
      apply List.eq_nil_of_subset_nil
      rw [← hnil]
      exact h.grown.registered.subset)
    obtain ⟨ref, rest, hcons⟩ := List.exists_cons_of_ne_nil hne
    have href : ref ∈ l.outputs := by simp [hcons]
    have hmem := h.wholeBuilt.reached.output_registered h.mem href
    simp [hnil] at hmem

/-- An output of the layer that is new in the whole was made by it, and so no layer of the part can
have made it. -/
theorem free {top : Value} (htop : top ∈ l.declaration.outputs)
    (hfree : before.contains top = false) : g.contains top = false := by
  rw [Bool.eq_false_iff]
  intro hknown
  obtain ⟨name, rfl, -⟩ := h.named _ h.declared top htop
  obtain ⟨ref', href', hname'⟩ := (contains_iff h.partBuilt.orderly).mp hknown
  obtain ⟨other, hother, htwin⟩ := h.part.known ref' href'
  have hnamed := h.added.adds.outputs_named (h.named _ h.declared).text
  obtain ⟨ref, href, hname⟩ := exists_of_mem_right hnamed.flip htop
  -- the blob of this name is a new one of the layer
  have hnew := h.added.adds.new_of_free h.added.reached hname hfree
  have hlt := h.added.adds.lt_of_mem href
  have hfixed := h.added.since.fixed ref hlt
  have hmem := h.added.since.registered.subset (h.added.adds.output_registered href)
  have hsame : (whole.blob ref).name = (whole.blob other).name := by
    rw [Blob.of_fixed Blob.name hfixed, ← htwin.same Blob.name, hname']
    exact hname
  obtain rfl := h.wholeBuilt.orderly.eq_of_name hmem hother hsame
  have hproducer : (whole.blob ref).producer = some l.producer := by
    rw [Blob.of_fixed Blob.producer hfixed, h.added.adds.producer_new href hnew]
  -- so the maker of its twin in the part has the name of the layer
  obtain ⟨m, hm, hown⟩ := h.partBuilt.reached.exists_owner href'
  have hmaker := htwin.maker
  rw [hproducer, (mem_ownedRefs.mp hown).2] at hmaker
  exact h.missing m hm (Option.some.inj hmaker)

theorem helper_free : g.contains (.text helperOutput) = false := by
  rw [Bool.eq_false_iff]
  intro hknown
  obtain ⟨d, hd, htop⟩ := (h.partBuilt.names _).mp hknown
  rw [← h.partBuilt.layers] at hd
  obtain ⟨m, hm, rfl⟩ := List.mem_map.mp hd
  obtain ⟨l', hl', htwins⟩ := h.part.layers m hm
  rw [htwins.declaration] at htop
  have hall : l'.declaration ∈ all := by
    rw [← h.wholeBuilt.layers]
    exact List.mem_map_of_mem hl'
  obtain ⟨name, hname, hne⟩ := h.named _ hall _ htop
  exact hne (Value.text.inj hname).symm

theorem resolves : ∃ places, g.resolveInputs l.declaration = .ok places := by
  apply exists_mapM_eq_ok.mpr
  intro name hname
  obtain ⟨ref, href⟩ := Option.isSome_iff_exists.mp (h.visible name (.inl hname))
  exact ⟨ref, Site.resolve_eq_ok.mpr ⟨rfl, href⟩⟩

theorem inputs_twins {refs : List (Option Nat)}
    (hfound : List.Forall₂ g.Found l.declaration.inputs refs) :
    List.Forall₂ (fun input input' => ∃ ref ref', input = some ref ∧ input' = some ref' ∧
      (before.blob ref).Twin (g.blob ref') ∧ ref < before.blobs.length ∧
        ref' < g.blobs.length) l.inputs refs := by
  have hwas := h.added.adds.found
  generalize l.declaration.inputs = names at hfound hwas
  generalize l.inputs = inputs at hwas
  induction hwas generalizing refs with
  | nil =>
    cases hfound
    exact .nil
  | @cons name input _ _ hinput _ ih =>
    cases hfound with
    | cons hinput' hrest =>
      obtain ⟨ref, rfl, hfind⟩ := hinput
      obtain ⟨ref', rfl, hfind'⟩ := hinput'
      have htwin := h.part.twin h.wholeBuilt.orderly h.added.reached h.grown hfind hfind'
      have hlt := h.added.reached.mem_registered.mp (mem_registered_of_find? hfind)
      have hlt' := h.partBuilt.reached.mem_registered.mp (mem_registered_of_find? hfind')
      exact .cons ⟨ref, ref', rfl, rfl, htwin, hlt, hlt'⟩ (ih hrest)

theorem moves (hn : whole.spatialRank = some axes) {refs : List (Option Nat)}
    (hfound : List.Forall₂ g.Found l.declaration.inputs refs) :
    (before.siteOf l.declaration l.inputs).Moves g (refs.map (·.map g.blob)) axes where
  phase := by
    have hphase := h.grown.phase
    rw [h.partBuilt.phase, ← h.wholeBuilt.phase, hphase]
    rfl
  inputs := by
    simp only [siteOf]
    rw [List.forall₂_map_left_iff, List.forall₂_map_right_iff]
    apply (h.inputs_twins hfound).imp
    rintro _ _ ⟨ref, ref', rfl, rfl, htwin, -⟩
    exact .some htwin
  free top htop hfree := h.free htop hfree
  helper := h.helper_free
  size := by
    have haxes : ∀ n, whole.spatialRank = some n → n = axes := fun n hrank =>
      Option.some.inj (hrank.symm.trans hn)
    have hbefore := h.added.elementSizeFor hn
    rw [h.partBuilt.elementSizeFor fun n hrank => haxes n (h.part.axes n hrank),
      ← h.wholeBuilt.elementSizeFor haxes, ← hbefore]
    rfl

theorem sourceKnown (ht : l.family = .applyDeformation) :
    (before.siteOf l.declaration l.inputs).SourceKnown g := by
  intro hne ref hfind
  have htype : l.declaration.type = LayerType.applyDeformation.tag := by
    have hfamily := h.wholeBuilt.families l h.mem
    rw [familyOf, ht] at hfamily
    split at hfamily
    · next t hof =>
      have htag := LayerType.tag_of_ofTag? hof
      cases t <;> simp_all [LayerType.family]
    · cases hfamily
  obtain ⟨ref', hfind'⟩ := Option.isSome_iff_exists.mp
    (h.visible l.declaration.shapeFrom (.inr ⟨htype, rfl, hne⟩))
  exact ⟨ref', hfind', h.part.twin h.wholeBuilt.orderly h.added.reached h.grown hfind hfind'⟩

/-- The family of the layer accepts it in the part, and makes the same of it. -/
theorem drafts (hn : whole.spatialRank = some axes) {refs : List (Option Nat)}
    (hfound : List.Forall₂ g.Found l.declaration.inputs refs) :
    ∃ draft', (g.siteOf l.declaration refs).layer l.family = .ok draft' ∧
      Draft.Twin axes draft draft' :=
  Site.layer_moved (h.moves hn hfound) l.family h.sourceKnown draft h.added.adds.drafted

theorem made_axes (hn : whole.spatialRank = some axes) {b : Blob} (hlt : ref < after.blobs.length)
    (hb : (after.blob ref).fixed = b.fixed) : b.isScalar = true ∨ b.spatialRank = axes := by
  by_cases hs : b.isScalar = true
  · exact .inl hs
  · have hafter : after.Reached := .add h.added.reached h.added.adds
    have hfixed : (whole.blob ref).fixed = b.fixed := (h.added.since.fixed ref hlt).trans hb
    have hmem := h.added.since.registered.subset (hafter.mem_registered.mpr hlt)
    have hnone : (whole.blob ref).isScalar = false := by
      rw [Blob.of_fixed Blob.isScalar hfixed]
      simpa using hs
    obtain ⟨n, hrank, hlength⟩ := h.wholeBuilt.reached.rank ref hmem hnone
    obtain rfl : n = axes := Option.some.inj (hrank.symm.trans hn)
    rw [← Blob.of_fixed Blob.spatialRank hfixed, Blob.spatialRank, hnone,
      if_neg Bool.false_ne_true, hlength]
    exact .inr (by omega)

theorem draft_axes (hn : whole.spatialRank = some axes) {b : Blob} (hb : .made b ∈ draft.outputs) :
    b.isScalar = true ∨ b.spatialRank = axes := by
  obtain ⟨ref, -, hat⟩ := exists_of_mem_right h.added.adds.placed.flip hb
  cases hat with
  | made _ _ _ hsize hfixed => exact h.made_axes hn hsize hfixed

theorem admits (hn : whole.spatialRank = some axes) {refs : List (Option Nat)} {draft' : Draft}
    (hd : (g.siteOf l.declaration refs).layer l.family = .ok draft')
    (htwin : Draft.Twin axes draft draft') : g.Admits draft' where
  axes := by
    have htwins := madeBlobs_twins htwin.outputs fun b hb => h.draft_axes hn hb
    refine ⟨axes, fun n hrank => ?_, fun b' hb' => ?_⟩
    · exact congrArg Int.ofNat (Option.some.inj ((h.part.axes n hrank).symm.trans hn))
    · obtain ⟨b, hb, hbtwin⟩ := exists_of_mem_right htwins hb'
      rw [hbtwin.same Blob.isScalar, hbtwin.same Blob.spatialRank]
      exact h.draft_axes hn (mem_madeBlobs.mp hb)
  apart := by
    have htwins := madeBlobs_twins htwin.outputs fun b hb => h.draft_axes hn hb
    have hnames : (madeBlobs draft'.outputs).map Blob.name =
        (madeBlobs draft.outputs).map Blob.name := by
      rw [← List.forall₂_eq_eq_eq, List.forall₂_map_left_iff, List.forall₂_map_right_iff]
      exact htwins.flip.imp fun _ _ hb => hb.same Blob.name
    have hnodup := h.added.names_nodup h.wholeBuilt.orderly
    rw [← hnames] at hnodup
    apply (List.pairwise_map.mp hnodup).imp_of_mem
    intro a b ha _ hne
    obtain ⟨-, name, hname⟩ := id_name_of_made hd (h.named _ h.declared).text _ ha
    rw [Bool.eq_false_iff, hname]
    intro hequals
    exact hne (hname.trans (Value.equals_text_right.mp hequals).symm)

theorem creates : ∃ m g', g.create l.declaration none = ⟨g', .ok m⟩ := by
  obtain ⟨axes, hn⟩ := h.exists_axes
  obtain ⟨places, hplaces⟩ := h.resolves
  obtain ⟨draft', hd, htwin⟩ := h.drafts hn (found_of_resolveInputs hplaces)
  have hfamily := h.wholeBuilt.families l h.mem
  have hfresh : ∀ other ∈ g.layers, other.name ≠ l.declaration.name := h.missing
  exact (h.admits hn hd htwin).exists_create h.partBuilt.orderly.placed hfamily hplaces hfresh hd

/-- Whatever the layer made has its twin among what it makes in the part. -/
theorem outputs_twins (hn : whole.spatialRank = some axes) {draft' : Draft}
    (ha : g.Adds m draft' g') (hm : m.declaration = l.declaration)
    (htwin : Draft.Twin axes draft draft') :
    List.Forall₂ (fun ref ref' => (whole.blob ref).Twin (g'.blob ref')) l.outputs m.outputs := by
  have hfound := hm ▸ ha.found
  have hinputs := h.inputs_twins hfound
  have hmade := rel_trans (U := fun ref o' => ∃ o, before.Placed after l.inputs o ref ∧
    Output.Twin axes o o') (fun ref o o' hat ho => ⟨o, hat, ho⟩) h.added.adds.placed.flip
    htwin.outputs
  apply rel_trans _ hmade ha.placed
  rintro ref o' ref' ⟨o, hat, ho⟩ hat'
  cases ho with
  | made hb =>
    cases hat with
    | made b _ _ hlt hfixed =>
      cases hat' with
      | made b' _ _ hlt' hfixed' =>
        have hwhole := (h.added.since.fixed ref hlt).trans hfixed
        have hborn := hb (h.made_axes hn hlt hfixed)
        exact (Blob.Twin.of_fixed hwhole.symm).trans (hborn.trans (.of_fixed hfixed'))
  | kept i =>
    cases hat with
    | kept _ _ hin hlt =>
      cases hat' with
      | kept _ _ hin' hlt' =>
        obtain ⟨r, r', hr, hr', hinput, -⟩ := rel_getElem? hinputs hin hin'
        obtain rfl := Option.some.inj hr
        obtain rfl := Option.some.inj hr'
        have hold := Blob.Twin.of_fixed (h.grown.fixed ref hlt).symm
        exact hold.trans (hinput.trans (.of_fixed (ha.fixed ref' hlt')))

theorem twins {draft' : Draft} (ha : g.Adds m draft' g') (hm : m.declaration = l.declaration)
    (hfamily : m.family = l.family) : whole.Twins g' l m := by
  obtain ⟨axes, hn⟩ := h.exists_axes
  have hfound := hm ▸ ha.found
  obtain ⟨other, hd, htwin⟩ := h.drafts hn hfound
  have hdrafted := ha.drafted
  rw [hm, hfamily, hd] at hdrafted
  obtain rfl : other = draft' := Except.ok.inj hdrafted
  constructor
  · exact hm
  · rw [ha.body, htwin.body, h.added.adds.body]
  · simp only [slotsOf]
    rw [List.forall₂_map_left_iff, List.forall₂_map_right_iff]
    apply (h.inputs_twins hfound).imp
    rintro _ _ ⟨ref, ref', rfl, rfl, hinput, hlt, hlt'⟩
    have hold := Blob.Twin.of_fixed (h.grown.fixed ref hlt).symm
    exact .some (hold.trans (hinput.trans (.of_fixed (ha.fixed ref' hlt'))))
  · simp only [outputsOf]
    rw [List.forall₂_map_left_iff, List.forall₂_map_right_iff]
    exact h.outputs_twins hn ha hm htwin

end Next

theorem Twins.trans {g'' : Graph} {l' l'' : Layer} (h : g.Twins g' l l')
    (h' : g'.Twins g'' l' l'') : g.Twins g'' l l'' where
  declaration := h'.declaration.trans h.declaration
  body := h'.body.trans h.body
  slots := by
    apply rel_trans _ h.slots h'.slots
    intro slot slot' slot'' hb hb'
    cases hb with
    | none =>
      cases hb'
      exact .none
    | some hb =>
      cases hb' with
      | some hb' => exact .some (hb.trans hb')
  outputs := rel_trans (fun _ _ _ hb hb' => hb.trans hb') h.outputs h'.outputs

/-- With its next layer the part is still a part of the whole. -/
theorem Next.part_grown (h : Next phase elementSize all done whole g k l before draft after)
    {draft' : Draft} (ha : g.Adds m draft' g') (htwins : whole.Twins g' l m) : g'.Part whole where
  axes := by
    intro n hn
    cases hsize : g.elementSize with
    | some size =>
      have hrank : g.spatialRank = some size.length := by rw [spatialRank, hsize]; rfl
      obtain rfl : n = size.length := Option.some.inj (hn.symm.trans (ha.extends.spatialRank hrank))
      exact h.part.axes _ hrank
    | none =>
      -- the layer is the first of the part, so its blobs have settled the number of axes
      have hnil := h.partBuilt.reached.registered_nil hsize
      obtain ⟨hne, hall⟩ := ha.first hnil
      obtain ⟨ref', rest, hcons⟩ := List.exists_cons_of_ne_nil hne
      have hout : ref' ∈ m.outputs := by simp [hcons]
      obtain ⟨hnew, hs, -⟩ := hall ref' hout
      obtain ⟨n', hn', hlength⟩ := ha.rank_new h.partBuilt.reached hout hnew hs
      obtain rfl : n = n' := Option.some.inj (hn.symm.trans hn')
      have houtputs := htwins.outputs
      simp only [outputsOf] at houtputs
      rw [List.forall₂_map_left_iff, List.forall₂_map_right_iff] at houtputs
      obtain ⟨ref, href, htwin⟩ := exists_of_mem_right houtputs hout
      have hmem := h.wholeBuilt.reached.output_registered h.mem href
      rw [htwin.same Blob.isScalar] at hs
      rw [htwin.same Blob.shape] at hlength
      obtain ⟨n', hrank, hlength'⟩ := h.wholeBuilt.reached.rank ref hmem hs
      rw [hrank]
      exact congrArg some (by omega)
  known := by
    intro ref' href'
    rw [ha.registered, List.mem_append] at href'
    rcases href' with hold | hnew
    · obtain ⟨ref, href, htwin⟩ := h.part.known ref' hold
      have hfixed := ha.fixed ref' (h.partBuilt.orderly.placed ref' hold)
      exact ⟨ref, href, htwin.trans (.of_fixed hfixed)⟩
    · have houtputs := htwins.outputs
      simp only [outputsOf] at houtputs
      rw [List.forall₂_map_left_iff, List.forall₂_map_right_iff] at houtputs
      obtain ⟨ref, href, htwin⟩ := exists_of_mem_right houtputs (ha.mem_new.mp hnew).1
      exact ⟨ref, h.wholeBuilt.reached.output_registered h.mem href, htwin⟩
  layers := by
    intro m' hm'
    rw [ha.layers, List.mem_append, List.mem_singleton] at hm'
    rcases hm' with hold | rfl
    · obtain ⟨l', hl', hold'⟩ := h.part.layers m' hold
      exact ⟨l', hl', hold'.trans (h.partBuilt.reached.twins ha.extends hold)⟩
    · exact ⟨l, h.mem, htwins⟩

theorem Next.extends (h : Next phase elementSize all done whole g k l before draft after) :
    ∃ g', g.extend l.declaration = .ok g' ∧ g'.Part whole := by
  obtain ⟨m, g', hcreate⟩ := h.creates
  obtain ⟨draft', ha, hsame, hm⟩ := create_adds_of_ok h.partBuilt.orderly.placed hcreate
  have hfamily : m.family = l.family := eq_of_ok hm (h.wholeBuilt.families l h.mem)
  have htwins := h.twins ha hsame hfamily
  obtain ⟨line, hline⟩ := h.wholeBuilt.lines l h.mem
  refine ⟨g', ?_, h.part_grown ha htwins⟩
  have htext : g'.layerText m = .ok line := by rw [htwins.layerText, hline]
  rw [extend, hcreate]
  exact bind_eq_ok.mpr ⟨m, rfl, bind_eq_ok.mpr ⟨line, lift_eq_ok.mpr htext, rfl⟩⟩

end Graph

end NetFootprint
