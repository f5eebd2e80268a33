import NetFootprint.Proofs.Graph.Integrity
import NetFootprint.Proofs.Layer.Moved

/-!
# Graphs that were built in full

What is known of a graph that was built from declarations: its layers belong to the declarations one
by one, the names that lead to its blobs are the declared ones, and the line of each layer can be
written. Two layers of two such graphs are twins if they were made of the same declaration in the
same way, on blobs that are twins; they have the same line then.
-/

namespace NetFootprint

theorem Blob.Twin.of_fixed {b b' : Blob} (h : b'.fixed = b.fixed) : b.Twin b' where
  rest := congrArg (fun c : Blob =>
    { c with producer := b'.producer, resident := b'.resident, id := b'.id }) h
  maker := congrArg (Option.map Producer.name) (Blob.of_fixed Blob.producer h)

namespace Graph

variable {g g' : Graph} {l l' : Layer} {draft : Draft} {ref : Nat} {phase : Phase}
  {elementSize : Option (List Float)} {ds : List Declaration} {d : Declaration}

/-! ## Twins -/

/-- Two layers of two graphs that were made of one declaration, but at different times. -/
structure Twins (g g' : Graph) (l l' : Layer) : Prop where
  declaration : l'.declaration = l.declaration
  body : l'.body = l.body
  slots : List.Forall₂ (Option.Rel Blob.Twin) (g.slotsOf l) (g'.slotsOf l')
  outputs : List.Forall₂ Blob.Twin (g.outputsOf l) (g'.outputsOf l')

theorem Extends.twins (h : g.Extends g')
    (hin : ∀ ref, some ref ∈ l.inputs → ref < g.blobs.length)
    (hout : ∀ ref ∈ l.outputs, ref < g.blobs.length) : g.Twins g' l l where
  declaration := rfl
  body := rfl
  slots := by
    simp only [slotsOf]
    rw [List.forall₂_map_left_iff, List.forall₂_map_right_iff, List.forall₂_same]
    intro input hinput
    cases input with
    | none => exact .none
    | some ref => exact .some (.of_fixed (h.fixed ref (hin ref hinput)))
  outputs := by
    simp only [outputsOf]
    rw [List.forall₂_map_left_iff, List.forall₂_map_right_iff, List.forall₂_same]
    intro ref href
    exact .of_fixed (h.fixed ref (hout ref href))

theorem Reached.twins (h : g.Reached) (hg : g.Extends g') (hl : l ∈ g.layers) : g.Twins g' l l := by
  apply hg.twins
  · intro ref hin
    obtain ⟨r, hr, hsome⟩ := h.input_registered hl hin
    obtain rfl := Option.some.inj hsome
    exact h.mem_registered.mp hr
  · intro ref hout
    exact h.lt_of_mem hl hout

theorem slotText_twin {slot slot' : Option Blob} (h : Option.Rel Blob.Twin slot slot') :
    slotText slot' = slotText slot := by
  cases h with
  | none => rfl
  | some hb => exact hb.same Blob.text

theorem blobsText_twins {slots slots' : List (Option Blob)}
    (h : List.Forall₂ (Option.Rel Blob.Twin) slots slots') (label : String) :
    blobsText label slots' = blobsText label slots := by
  have hempty : slots'.isEmpty = slots.isEmpty := by cases h <;> rfl
  have htexts : slots'.mapM slotText = slots.mapM slotText := by
    clear hempty
    induction h with
    | nil => rfl
    | cons hslot _ ih => rw [List.mapM_cons, List.mapM_cons, ih, slotText_twin hslot]
  rw [blobsText, hempty, htexts, blobsText]

theorem Twins.layerText (h : g.Twins g' l l') : g'.layerText l' = g.layerText l := by
  have hwritten : List.Forall₂ (Option.Rel Blob.Twin) ((g.outputsOf l).map some)
      ((g'.outputsOf l').map some) := by
    rw [List.forall₂_map_left_iff, List.forall₂_map_right_iff]
    exact h.outputs.imp fun _ _ hb => .some hb
  rw [Graph.layerText, Layer.tag, Layer.name, h.declaration, h.body, NetFootprint.layerText,
    blobsText_twins h.slots, blobsText_twins hwritten]
  rfl

/-! ## One step -/

theorem Adds.outputs_named (h : g.Adds l draft g')
    (htext : ∀ top ∈ l.declaration.outputs, ∃ name, top = .text name) :
    List.Forall₂ (fun top ref => (g'.blob ref).name = top) l.declaration.outputs l.outputs := by
  have hmakes : List.Forall₂ ((g.siteOf l.declaration l.inputs).Makes l.family)
      l.declaration.outputs draft.outputs := Site.layer_outputs h.drafted
  rw [List.forall₂_iff_get] at hmakes ⊢
  have hat := List.forall₂_iff_get.mp h.placed
  refine ⟨hmakes.1.trans hat.1, fun i hi hi' => ?_⟩
  have htop := List.get_mem l.declaration.outputs ⟨i, hi⟩
  have hmake := hmakes.2 i hi (hat.1 ▸ hi')
  have hplace := hat.2 i (hat.1 ▸ hi') hi'
  -- `cases` cannot see through the positions, of which only the relations matter from here on
  generalize l.declaration.outputs.get ⟨i, hi⟩ = top at htop hmake
  generalize draft.outputs.get ⟨i, hat.1 ▸ hi'⟩ = o at hmake hplace
  generalize l.outputs.get ⟨i, hi'⟩ = ref at hplace
  cases hplace with
  | made b _ _ _ hb =>
    cases hmake with
    | made k _ hname _ hk _ =>
      obtain ⟨-, rfl⟩ := Site.newBlob_eq_ok.mp hk
      rw [Blob.of_fixed Blob.name hb]
      exact hname
  | kept j _ hin hold =>
    cases hmake with
    | kept _ src _ hsrc hname =>
      obtain ⟨name, rfl⟩ := htext top htop
      simp only [siteOf, List.getElem?_map, hin, Option.map_some, Option.some.injEq] at hsrc
      rw [Blob.of_fixed Blob.name (h.fixed ref hold), hsrc]
      exact Value.equals_text_left.mp hname

theorem contains_of_mem {name : String} (href : ref ∈ g.registered)
    (hname : (g.blob ref).name = .text name) : g.contains (.text name) = true := by
  apply List.find?_isSome.mpr
  refine ⟨ref, href, ?_⟩
  rw [hname]
  exact Value.equals_text_left.mpr rfl

theorem Adds.new_of_free (h : g.Adds l draft g') (hg : g.Reached) {name : String}
    (hname : (g'.blob ref).name = .text name) (hfree : g.contains (.text name) = false) :
    g.blobs.length ≤ ref := by
  by_contra hold
  have hlt := Nat.lt_of_not_le hold
  have hsame := Blob.of_fixed Blob.name (h.fixed ref hlt)
  have hknown := contains_of_mem (hg.mem_registered.mpr hlt) (hsame.symm.trans hname)
  rw [hfree] at hknown
  cases hknown

theorem Adds.find?_input (h : g.Adds l draft g') (hin : some ref ∈ l.inputs) :
    ∃ name ∈ l.declaration.inputs, g.find? (.text name) = some ref := by
  obtain ⟨name, hname, ref', hsome, hfind⟩ := exists_of_mem_right h.found hin
  obtain rfl := Option.some.inj hsome
  exact ⟨name, hname, hfind⟩

theorem Adds.input_of_name (h : g.Adds l draft g') {name : String}
    (hname : name ∈ l.declaration.inputs) :
    ∃ ref, some ref ∈ l.inputs ∧ g.find? (.text name) = some ref := by
  obtain ⟨input, hin, ref, rfl, hfind⟩ := exists_of_mem_right h.found.flip hname
  exact ⟨ref, hin, hfind⟩

theorem Adds.mem_new (h : g.Adds l draft g') :
    ref ∈ List.range' g.blobs.length (madeBlobs draft.outputs).length ↔
      ref ∈ l.outputs ∧ g.blobs.length ≤ ref := by
  rw [← h.fresh, List.mem_filter, decide_eq_true_eq]

theorem Adds.output_registered (h : g.Adds l draft g') (href : ref ∈ l.outputs) :
    ref ∈ g'.registered := by
  rw [h.registered, List.mem_append]
  by_cases hnew : g.blobs.length ≤ ref
  · exact .inr (h.mem_new.mpr ⟨href, hnew⟩)
  · obtain ⟨o, -, hat⟩ := exists_of_mem_right h.placed href
    cases hat with
    | made _ _ hge _ _ => exact absurd hge hnew
    | kept i _ hin _ =>
      obtain ⟨r, hsome, hr⟩ := h.inputs_registered (List.mem_of_getElem? hin)
      obtain rfl := Option.some.inj hsome
      exact .inl hr

theorem contains_iff (h : g.Orderly) {name : Value} :
    g.contains name = true ↔ ∃ ref ∈ g.registered, (g.blob ref).name = name := by
  rw [contains, Option.isSome_iff_exists]
  simp only [h.find?_iff]

theorem Adds.contains_iff (h : g.Adds l draft g') (hg : g.Orderly) (hg' : g'.Orderly)
    (htext : ∀ top ∈ l.declaration.outputs, ∃ name, top = .text name) {name : Value} :
    g'.contains name = true ↔ g.contains name = true ∨ name ∈ l.declaration.outputs := by
  have hnamed := h.outputs_named htext
  rw [Graph.contains_iff hg', Graph.contains_iff hg]
  constructor
  · rintro ⟨ref, href, rfl⟩
    rw [h.registered, List.mem_append] at href
    rcases href with hold | hnew
    · exact .inl ⟨ref, hold, (Blob.of_fixed Blob.name (h.fixed ref (hg.placed ref hold))).symm⟩
    · obtain ⟨top, htop, hname⟩ := exists_of_mem_right hnamed (h.mem_new.mp hnew).1
      exact .inr (hname ▸ htop)
  · rintro (⟨ref, href, rfl⟩ | htop)
    · refine ⟨ref, ?_, Blob.of_fixed Blob.name (h.fixed ref (hg.placed ref href))⟩
      rw [h.registered]
      exact List.mem_append_left _ href
    · obtain ⟨ref, href, hname⟩ := exists_of_mem_right hnamed.flip htop
      exact ⟨ref, h.output_registered href, hname⟩

/-- The element size that a first layer settles is a unit along each axis. -/
theorem Adds.elementSize_unit (h : g.Adds l draft g') (hnone : g.elementSize = none) :
    g'.elementSize = none ∨ ∃ n, g'.elementSize = some (List.replicate n 1.0) := by
  obtain ⟨rank, hg'⟩ := h.taken
  have hgrown : (g.grown draft).elementSize = none := hnone
  rw [hg', elementSize_accepted]
  cases rank with
  | none => exact .inl (by simp [withRank, hgrown])
  | some n => exact .inr ⟨n.toNat, by simp [withRank, hgrown]⟩

/-! ## Runs -/

/-- What is known of a graph that was built from declarations. -/
structure Built (phase : Phase) (elementSize : Option (List Float)) (ds : List Declaration)
    (g : Graph) : Prop where
  reached : g.Reached
  orderly : g.Orderly
  phase : g.phase = phase
  size : g.elementSize = elementSize ∨
    elementSize = none ∧ ∃ n, g.elementSize = some (List.replicate n 1.0)
  layers : g.layers.map Layer.declaration = ds
  families : ∀ l ∈ g.layers, familyOf l.declaration = .ok l.family
  lines : ∀ l ∈ g.layers, ∃ line, g.layerText l = .ok line
  names : ∀ name, g.contains name = true ↔ ∃ d ∈ ds, name ∈ d.outputs

theorem Built.empty (phase : Phase) (elementSize : Option (List Float)) :
    Built phase elementSize [] (empty phase elementSize) where
  reached := .empty phase elementSize
  orderly := .empty phase elementSize
  phase := rfl
  size := .inl rfl
  layers := rfl
  families := by simp [Graph.empty]
  lines := by simp [Graph.empty]
  names := by simp [contains, find?, Graph.empty]

/-- What a creation adds: one layer, with the declaration and of its family. -/
theorem create_adds_of_ok (hplaced : ∀ ref ∈ g.registered, ref < g.blobs.length)
    (h : g.create d none = ⟨g', .ok l⟩) :
    ∃ draft, g.Adds l draft g' ∧ l.declaration = d ∧ familyOf d = .ok l.family := by
  have hresult : (g.create d none).result = .ok l := by rw [h]
  obtain ⟨built, fresh, rank, hb, -, -⟩ := create_ok (by simp [AllGiven]) hresult
  obtain ⟨t, refs, draft', ht, -, hd, hmade, -⟩ := build_ok hb
  rcases create_adds hplaced d with ⟨e, he⟩ | ⟨l₀, draft, g₀, hcreate, ha⟩
  · rw [h] at he
    cases he
  · rw [h] at hcreate
    obtain ⟨rfl, hl⟩ := Change.mk.inj hcreate
    obtain rfl := Except.ok.inj hl
    have hfamily : l.family = t := by
      rw [hmade]
      exact family_of_drafted ht hd
    exact ⟨draft, ha, by rw [hmade], by rw [ht, hfamily]⟩

theorem extend_ok (hg : g.Reached) (h : g.extend d = .ok g') :
    ∃ l draft line, g.create d none = ⟨g', .ok l⟩ ∧ g.Adds l draft g' ∧ l.declaration = d ∧
      familyOf d = .ok l.family ∧ g'.layerText l = .ok line := by
  simp only [extend, bind_eq_ok, pure_eq_ok, lift_eq_ok] at h
  obtain ⟨l, hl, line, hline, rfl⟩ := h
  have hcreate : g.create d none = ⟨(g.create d none).graph, .ok l⟩ := by rw [← hl]
  obtain ⟨draft, ha, hd, hfamily⟩ :=
    create_adds_of_ok (fun ref href => hg.mem_registered.mp href) hcreate
  exact ⟨l, draft, line, hcreate, ha, hd, hfamily, hline⟩

theorem Orderly.create (h : g.Orderly) (htext : ∀ top ∈ d.outputs, ∃ name, top = .text name)
    (hl : (g.create d none).result = .ok l) : (g.create d none).graph.Orderly := by
  obtain ⟨built, fresh, rank, hb, ha, hgraph⟩ := create_ok (by simp [AllGiven]) hl
  rw [hgraph]
  exact (h.build hb htext).accepted ha (lt_of_build h.placed hb (by simp))

theorem Built.extend (h : Built phase elementSize ds g)
    (htext : ∀ top ∈ d.outputs, ∃ name, top = .text name) (hd : g.extend d = .ok g') :
    Built phase elementSize (ds ++ [d]) g' := by
  obtain ⟨l, draft, line, hcreate, ha, rfl, hfamily, hline⟩ := extend_ok h.reached hd
  have horderly : g'.Orderly := by
    have hkept := h.orderly.create (l := l) htext (by rw [hcreate])
    rwa [hcreate] at hkept
  constructor
  · exact .add h.reached ha
  · exact horderly
  · rw [ha.phase, h.phase]
  · rcases h.size with hsize | ⟨hnone, n, hsize⟩
    · cases hstart : elementSize with
      | some size => exact .inl (ha.known size (hsize.trans hstart))
      | none =>
        rcases ha.elementSize_unit (hsize.trans hstart) with hnone | hunit
        · exact .inl hnone
        · exact .inr ⟨rfl, hunit⟩
    · exact .inr ⟨hnone, n, ha.known _ hsize⟩
  · rw [ha.layers, List.map_append, h.layers]
    rfl
  · intro l' hl'
    rw [ha.layers, List.mem_append, List.mem_singleton] at hl'
    rcases hl' with hold | rfl
    · exact h.families l' hold
    · exact hfamily
  · intro l' hl'
    rw [ha.layers, List.mem_append, List.mem_singleton] at hl'
    rcases hl' with hold | rfl
    · rw [(h.reached.twins ha.extends hold).layerText]
      exact h.lines l' hold
    · exact ⟨line, hline⟩
  · intro name
    rw [ha.contains_iff h.orderly horderly htext, h.names]
    simp only [List.mem_append, List.mem_singleton]
    constructor
    · rintro (⟨d, hmem, hname⟩ | hname)
      · exact ⟨d, .inl hmem, hname⟩
      · exact ⟨_, .inr rfl, hname⟩
    · rintro ⟨d, hmem | rfl, hname⟩
      · exact .inl ⟨d, hmem, hname⟩
      · exact .inr hname

theorem Built.extendAll (h : Built phase elementSize ds g) {more : List Declaration}
    (htext : ∀ d ∈ more, ∀ top ∈ d.outputs, ∃ name, top = .text name)
    (hg : g.extendAll more = .ok g') : Built phase elementSize (ds ++ more) g' := by
  induction more generalizing g ds with
  | nil =>
    obtain rfl := pure_eq_ok.mp hg
    rwa [List.append_nil]
  | cons d rest ih =>
    obtain ⟨hd, hrest⟩ := List.forall_mem_cons.mp htext
    obtain ⟨next, hnext, hg⟩ := extendAll_cons_eq_ok.mp hg
    rw [List.append_cons]
    exact ih (h.extend hd hnext) hrest hg

end Graph

end NetFootprint
