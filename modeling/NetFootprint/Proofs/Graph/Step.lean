import Mathlib.Data.List.Find
import NetFootprint.Proofs.Graph.Create

/-!
# Adding a layer by name

A creation that resolves its inputs by name either changes nothing or adds one layer, and `Adds`
says all that is known of the graph then: where the inputs were found, what the family made of them,
and which blobs and numbers are new.
-/

namespace NetFootprint

theorem Value.equals_text_right {v : Value} {name : String} :
    v.equals (.text name) = true ↔ v = .text name := by
  cases v <;> simp [Value.equals, Value.amount?]

namespace Graph

variable {g g' : Graph} {l : Layer} {draft : Draft} {ref : Nat}

/-! ## Names -/

theorem mem_registered_of_find? {name : Value} (h : g.find? name = some ref) :
    ref ∈ g.registered :=
  List.mem_of_find?_eq_some h

theorem name_of_find? {name : String} (h : g.find? (.text name) = some ref) :
    (g.blob ref).name = .text name := by
  have he : (g.blob ref).name.equals (.text name) = true := by
    simpa using List.find?_some (p := fun ref => (g.blob ref).name.equals (.text name)) h
  exact Value.equals_text_right.mp he

theorem find?_of_append {more : List Nat} (hr : g'.registered = g.registered ++ more)
    (hn : ∀ ref ∈ g.registered, (g'.blob ref).name = (g.blob ref).name) (name : Value) :
    g'.find? name =
      (g.find? name).or (more.find? (fun ref => (g'.blob ref).name.equals name)) := by
  have hc : g.registered.find? (fun ref => (g'.blob ref).name.equals name) = g.find? name :=
    List.find?_congr fun ref href => by rw [hn ref href]
  rw [find?, hr, List.find?_append, hc]

theorem find?_grown (hp : ∀ ref ∈ g.registered, ref < g.blobs.length) (draft : Draft)
    (name : Value) : (g.grown draft).find? name = g.find? name := by
  have hr : (g.grown draft).registered = g.registered ++ [] := by
    rw [List.append_nil]
    rfl
  rw [find?_of_append hr (fun ref href => by rw [blob_grown_of_lt (hp ref href)]), List.find?_nil,
    Option.or_none]

/-! ## One step -/

/-- An input was found under its name. -/
def Found (g : Graph) (name : String) (input : Option Nat) : Prop :=
  ∃ ref, input = some ref ∧ g.find? (.text name) = some ref

/-- What is known of a graph after a layer was added whose inputs are named. -/
structure Adds (g : Graph) (l : Layer) (draft : Draft) (g' : Graph) : Prop where
  found : List.Forall₂ g.Found l.declaration.inputs l.inputs
  drafted : (g.siteOf l.declaration l.inputs).layer l.family = .ok draft
  serial : l.serial = g.built
  body : l.body = draft.body
  named : ∀ other ∈ g.layers, other.name ≠ l.name
  placed : List.Forall₂ (g.Placed g' l.inputs) draft.outputs l.outputs
  fresh : l.outputs.filter (fun ref => decide (g.blobs.length ≤ ref)) =
    List.range' g.blobs.length (madeBlobs draft.outputs).length
  layers : g'.layers = g.layers ++ [l]
  registered : g'.registered =
    g.registered ++ List.range' g.blobs.length (madeBlobs draft.outputs).length
  size : g'.blobs.length = g.blobs.length + (madeBlobs draft.outputs).length
  phase : g'.phase = g.phase
  fixed : ∀ ref < g.blobs.length, (g'.blob ref).fixed = (g.blob ref).fixed
  known : ∀ size, g.elementSize = some size → g'.elementSize = some size
  axes : ∀ ref ∈ l.outputs, g.blobs.length ≤ ref → (g'.blob ref).isScalar = false →
    g'.spatialRank = some (g'.blob ref).spatialRank.toNat ∧
      ∀ n, g.spatialRank = some n → (g'.blob ref).spatialRank = n
  outputs : l.outputs = placesFrom l.inputs g.blobs.length draft.outputs
  taken : ∃ rank, g' = (g.grown draft).accepted l
    (List.range' g.blobs.length (madeBlobs draft.outputs).length) rank
  apart : (List.range' g.blobs.length (madeBlobs draft.outputs).length).Pairwise
    fun a b => (g'.blob b).name.equals (g'.blob a).name = false

theorem Adds.extends (h : g.Adds l draft g') : g.Extends g' where
  phase := h.phase
  size := by rw [h.size]; omega
  fixed := h.fixed
  registered := ⟨_, h.registered.symm⟩
  layers := ⟨_, h.layers.symm⟩
  elementSize := h.known

/-- An input that an output stands for is an old blob, known by its own name. -/
theorem kept_input {d : Declaration} {t : LayerType} {refs : List (Option Nat)} {i : Nat}
    (hp : ∀ ref ∈ g.registered, ref < g.blobs.length)
    (hreads : List.Forall₂ g.Found d.inputs refs)
    (hd : (g.siteOf d refs).layer t = .ok draft) (hi : .kept i ∈ draft.outputs) :
    ∃ ref < g.blobs.length, refs[i]? = some (some ref) ∧
      g.find? (g.blob ref).name = some ref := by
  obtain ⟨top, -, hmakes⟩ := exists_of_mem_right (Site.layer_outputs hd) hi
  cases hmakes with
  | kept _ src _ hsrc _ =>
    simp only [siteOf, List.getElem?_map, Option.map_eq_some_iff] at hsrc
    obtain ⟨input, hinput, ref, hsome, -⟩ := hsrc
    obtain ⟨name, -, ref', hsome', hfind⟩ :=
      exists_of_mem_right hreads (List.mem_of_getElem? hinput)
    obtain rfl : ref = ref' := Option.some.inj (hsome.symm.trans hsome')
    refine ⟨ref, hp ref (mem_registered_of_find? hfind), by rw [hinput, hsome], ?_⟩
    rw [name_of_find? hfind, hfind]

theorem made_name {d : Declaration} {t : LayerType} {refs : List (Option Nat)} {b : Blob}
    (hd : (g.siteOf d refs).layer t = .ok draft) (hb : .made b ∈ draft.outputs) :
    g.find? b.name = none := by
  obtain ⟨top, -, hmakes⟩ := exists_of_mem_right (Site.layer_outputs hd) hb
  cases hmakes with
  | made k _ hname hfree hmade _ =>
    obtain ⟨-, rfl⟩ := Site.newBlob_eq_ok.mp hmade
    have hc : g.contains top = false := (Site.requireFresh_eq_ok.mp hfree).2
    simpa [Site.blobOf, hname, contains] using hc

/-- The outputs whose names are not known yet are those that were made. -/
theorem isNew_grown {d : Declaration} {t : LayerType} {refs : List (Option Nat)}
    {outputs : List Nat} (hp : ∀ ref ∈ g.registered, ref < g.blobs.length)
    (hreads : List.Forall₂ g.Found d.inputs refs)
    (hd : (g.siteOf d refs).layer t = .ok draft)
    (hplaced : List.Forall₂ (g.Placed (g.grown draft) refs) draft.outputs outputs)
    (href : ref ∈ outputs) :
    (g.grown draft).isNew ref = decide (g.blobs.length ≤ ref) := by
  obtain ⟨o, ho, hat⟩ := exists_of_mem_right hplaced href
  rw [isNew, find?_grown hp]
  cases hat with
  | made b _ hnew _ hb =>
    have hname : ((g.grown draft).blob ref).name = b.name := Blob.of_fixed Blob.name hb
    rw [hname, made_name hd ho]
    simpa using hnew
  | kept i _ hin hold =>
    obtain ⟨ref', -, hin', hfind⟩ := kept_input hp hreads hd ho
    obtain rfl : ref = ref' := by simpa [hin] using hin'
    rw [blob_grown_of_lt hold, hfind]
    simpa using hold

theorem found_of_resolveInputs {d : Declaration} {places : List Nat}
    (h : g.resolveInputs d = .ok places) : List.Forall₂ g.Found d.inputs (places.map some) := by
  rw [List.forall₂_map_right_iff]
  refine (mapM_eq_ok.mp h).imp fun name ref href => ?_
  exact ⟨ref, rfl, (Site.resolve_eq_ok.mp href).2⟩

theorem family_of_drafted {d : Declaration} {t : LayerType} {s : Site}
    (ht : familyOf d = .ok t) (hd : s.layer t = .ok draft) : draft.body.family = t := by
  rw [Site.family_layer hd]
  simp only [familyOf] at ht
  split at ht
  · obtain rfl := Except.ok.inj ht
    rw [LayerType.family_family]
  · cases ht

/-- The number of axes that the vetting arrived at is that of the new blobs, and it is the one that
was known before. -/
theorem axes_accepted {outputs fresh : List Nat} {rank : Option Int}
    (hv : g.Vetted l outputs (g.spatialRank.map Int.ofNat) fresh rank) (href : ref ∈ outputs)
    (hnew : g.isNew ref = true) (hs : ((g.accepted l fresh rank).blob ref).isScalar = false) :
    (g.accepted l fresh rank).spatialRank =
        some ((g.accepted l fresh rank).blob ref).spatialRank.toNat ∧
      ∀ n, g.spatialRank = some n → ((g.accepted l fresh rank).blob ref).spatialRank = n := by
  have hfixed := @fixed_blob_accepted g l fresh rank ref
  rw [Blob.of_fixed Blob.isScalar hfixed] at hs
  rw [Blob.of_fixed Blob.spatialRank hfixed]
  have haxes := hv.axes ref href hnew hs
  have hsettled : ∀ n, g.spatialRank = some n → rank = some (n : Int) := by
    intro n hn
    apply hv.settled
    rw [hn]
    rfl
  constructor
  · rw [spatialRank, elementSize_accepted, ← spatialRank, spatialRank_withRank hsettled, haxes]
    rfl
  · intro n hn
    exact Option.some.inj (haxes.symm.trans (hsettled n hn))

/-- A creation by name changes nothing, or adds a layer. -/
theorem create_adds (hp : ∀ ref ∈ g.registered, ref < g.blobs.length) (d : Declaration) :
    (∃ e, g.create d none = ⟨g, .error e⟩) ∨
      ∃ l draft g', g.create d none = ⟨g', .ok l⟩ ∧ g.Adds l draft g' := by
  have hin : AllGiven none := by simp [AllGiven]
  refine (create_of_given hin).imp_right ?_
  rintro ⟨l, built, fresh, rank, hb, ha, hc⟩
  obtain ⟨t, refs, draft, ht, ⟨places, hplaces, hrefs⟩, hd, rfl, rfl⟩ := build_ok hb
  obtain ⟨hnamed, hv⟩ := approve_ok ha
  have hreads : List.Forall₂ g.Found d.inputs refs := hrefs ▸ found_of_resolveInputs hplaces
  have hkept : ∀ i, .kept i ∈ draft.outputs →
      ∃ ref < g.blobs.length, refs[i]? = some (some ref) := by
    intro i hi
    obtain ⟨ref, hlt, href, -⟩ := kept_input hp hreads hd hi
    exact ⟨ref, hlt, href⟩
  have hplaced : List.Forall₂ (g.Placed (g.grown draft) refs) draft.outputs
      (placesFrom refs g.blobs.length draft.outputs) :=
    placed_placesFrom draft.outputs g.blobs (Nat.le_refl _) rfl hkept
  have hnew : ∀ ref ∈ placesFrom refs g.blobs.length draft.outputs,
      (g.grown draft).isNew ref = decide (g.blobs.length ≤ ref) :=
    fun ref href => isNew_grown hp hreads hd hplaced href
  have hrange := filter_placesFrom (Nat.le_refl g.blobs.length) hkept
  have hfresh : fresh = List.range' g.blobs.length (madeBlobs draft.outputs).length := by
    rw [hv.new, ← hrange]
    exact List.filter_congr hnew
  refine ⟨_, draft, _, hc, ?_⟩
  constructor
  · exact hreads
  · rw [Layer.family, family_of_drafted ht hd]
    exact hd
  · rfl
  · rfl
  · exact hnamed
  · refine hplaced.imp fun o ref href => ?_
    cases href with
    | made b _ hnew hsize hb =>
      exact .made b ref hnew (by simpa using hsize) (by rw [fixed_blob_accepted, hb])
    | kept i _ hin hold => exact .kept i ref hin hold
  · exact hrange
  · rw [layers_accepted]
    rfl
  · rw [registered_accepted, hfresh]
    rfl
  · simp [grown]
  · rw [phase_accepted]
    rfl
  · intro ref href
    rw [fixed_blob_accepted, blob_grown_of_lt href]
  · intro size hsize
    rw [elementSize_accepted]
    exact elementSize_withRank hsize
  · intro ref href hge hs
    exact axes_accepted hv href (by simpa [hnew ref href] using hge) hs
  · rfl
  · exact ⟨rank, by rw [hfresh]⟩
  · rw [← hfresh]
    refine (approve_apart ha).imp fun {a b} hequals => ?_
    rwa [Blob.of_fixed Blob.name (fixed_blob_accepted a),
      Blob.of_fixed Blob.name (fixed_blob_accepted b)]

end Graph

end NetFootprint
