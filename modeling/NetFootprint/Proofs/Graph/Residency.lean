import NetFootprint.Proofs.Graph.Ownership

/-!
# Blobs on the device

A family that computes on the device puts everything there that it reads or writes; a layer on
values hands on what its input has; everything else is made off the device. Nothing ever leaves the
device, so at the end of a run the blobs of a layer that computes on the device are all there, and a
gradient is kept for blobs on the device only.
-/

namespace NetFootprint

/-- The values of the blob are kept, and its gradient only if it is on the device. -/
structure Blob.Accounted (b : Blob) : Prop where
  forward : b.forward = true
  gradient : b.gradient = true → b.resident = true

namespace Site

variable {s : Site} {d : Draft} {t : LayerType} {b : Blob}

/-- The flags of a blob that is made, by the family that makes it: its own, or those of an input. -/
inductive Flagged (s : Site) (t : LayerType) (b : Blob) : Prop where
  | own (forward : b.forward = true) (resident : b.resident = t.readsOnDevice)
      (gradient : b.gradient = true → t.readsOnDevice = true)
  | handedOn (src : Blob) (hsrc : some src ∈ s.inputs) (offDevice : t.readsOnDevice = false)
      (forward : b.forward = src.forward) (resident : b.resident = src.resident)
      (gradient : b.gradient = true → src.gradient = true)

theorem Flagged.of_newBlob {k : Sketch} (hb : s.newBlob k = .ok b) (hforward : k.forward = true)
    (hresident : k.resident = t.readsOnDevice)
    (hgradient : k.gradient = true → t.readsOnDevice = true) : s.Flagged t b := by
  obtain ⟨-, rfl⟩ := newBlob_eq_ok.mp hb
  refine .own hforward hresident fun hg => hgradient ?_
  simp only [blobOf, Bool.and_eq_true] at hg
  exact hg.1

theorem layer_flagged (h : s.layer t = .ok d) (hb : .made b ∈ d.outputs) : s.Flagged t b := by
  cases t with
  | input | data | hdf5Data =>
    obtain ⟨shapes, outputs, -, -, -, -, ho, rfl⟩ := sourceLayer_ok h
    obtain ⟨p, -, hp⟩ := exists_of_mem_right ho hb
    obtain ⟨extents, made, -, -, -, hmade, heq⟩ := sourceBlob_ok hp
    obtain rfl : b = made := Output.made.inj heq
    exact .of_newBlob hmade rfl rfl (by simp)
  | convolution =>
    obtain ⟨_, _, _, _, _, _, _, made, -, -, -, -, -, -, -, -, hmade, rfl⟩ := convolutionLayer_ok h
    obtain rfl := Output.made.inj (List.mem_singleton.mp hb)
    exact .of_newBlob hmade rfl rfl fun _ => rfl
  | deconvolution =>
    obtain ⟨_, _, _, _, outputs, -, -, -, -, -, ho, rfl⟩ := deconvolutionLayer_ok h
    obtain ⟨p, -, hp⟩ := exists_of_mem_right ho hb
    obtain ⟨_, _, _, _, made, -, -, -, -, -, hmade, heq⟩ := upConvolvedBlob_ok hp
    obtain rfl : b = made := Output.made.inj heq
    exact .of_newBlob hmade rfl rfl fun _ => rfl
  | pooling =>
    obtain ⟨_, _, _, _, _, _, _, made, -, -, -, -, -, -, -, -, -, hmade, rfl⟩ := poolingLayer_ok h
    obtain rfl := Output.made.inj (List.mem_singleton.mp hb)
    exact .of_newBlob hmade rfl rfl fun _ => rfl
  | concat =>
    obtain ⟨_, _, _, _, _, _, made, -, -, -, -, -, -, -, hmade, rfl⟩ := concatLayer_ok h
    obtain rfl := Output.made.inj (List.mem_singleton.mp hb)
    exact .of_newBlob hmade rfl rfl fun _ => rfl
  | relu | dropout =>
    obtain ⟨outputs, -, -, ho, rfl⟩ := elementwiseLayer_ok h
    obtain ⟨p, -, hp⟩ := exists_of_mem_right ho hb
    obtain ⟨src, -, ⟨-, hkept⟩ | ⟨-, -, made, hmade, heq⟩⟩ := elementwiseOutput_ok hp
    · cases hkept
    · obtain rfl : b = made := Output.made.inj heq
      exact .of_newBlob hmade rfl rfl fun _ => rfl
  | valueTransformation | valueAugmentation =>
    obtain ⟨src, top, made, hin, -, -, hmade, rfl⟩ := valueLayer_ok h
    obtain rfl := Output.made.inj (List.mem_singleton.mp hb)
    obtain ⟨-, rfl⟩ := newBlob_eq_ok.mp hmade
    refine .handedOn src (by simp [hin]) rfl rfl rfl fun hg => ?_
    simp only [blobOf, Bool.and_eq_true] at hg
    exact hg.1
  | createDeformation =>
    obtain ⟨_, _, _, _, _, _, made, -, -, -, -, -, -, -, -, hmade, rfl⟩ :=
      createDeformationLayer_ok h
    obtain rfl := Output.made.inj (List.mem_singleton.mp hb)
    exact .of_newBlob hmade rfl rfl (by simp)
  | applyDeformation =>
    obtain ⟨_, _, _, _, _, _, made, -, -, -, -, -, -, -, hmade, rfl⟩ := applyDeformationLayer_ok h
    obtain rfl := Output.made.inj (List.mem_singleton.mp hb)
    exact .of_newBlob hmade rfl rfl (by simp)
  | softmax =>
    obtain ⟨_, _, made, -, -, -, hmade, rfl⟩ := softmaxLayer_ok h
    obtain rfl := Output.made.inj (List.mem_singleton.mp hb)
    exact .of_newBlob hmade rfl rfl fun _ => rfl
  | softmaxWithLoss =>
    obtain ⟨_, _, _, _, _, loss, -, -, -, -, hloss, ⟨-, rfl⟩ | ⟨_, score, -, -, hscore, rfl⟩⟩ :=
      lossLayer_ok h
    · obtain rfl := Output.made.inj (List.mem_singleton.mp hb)
      exact .of_newBlob hloss rfl rfl fun _ => rfl
    · rcases List.mem_cons.mp hb with heq | heq
      · obtain rfl := Output.made.inj heq
        exact .of_newBlob hloss rfl rfl fun _ => rfl
      · obtain rfl := Output.made.inj (List.mem_singleton.mp heq)
        exact .of_newBlob hscore rfl rfl (by simp)

theorem Flagged.accounted (h : s.Flagged t b)
    (hin : ∀ src, some src ∈ s.inputs → src.Accounted) : b.Accounted := by
  cases h with
  | own hforward hresident hgradient => exact ⟨hforward, fun hg => hresident ▸ hgradient hg⟩
  | handedOn src hsrc _ hforward hresident hgradient =>
    have hold := hin src hsrc
    exact ⟨hforward ▸ hold.forward, fun hg => hresident ▸ hold.gradient (hgradient hg)⟩

theorem Flagged.resident (h : s.Flagged t b) (ht : t.readsOnDevice = true) :
    b.resident = true := by
  cases h with
  | own _ hresident _ => rw [hresident, ht]
  | handedOn _ _ hoff _ _ _ =>
    rw [ht] at hoff
    cases hoff

end Site

namespace Graph

variable {g g' : Graph} {l : Layer} {draft : Draft} {ref : Nat}

/-! ## Marking -/

theorem resident_mark {other : Nat} (h : other < g.blobs.length) :
    ((g.mark ref).blob other).resident = ((g.blob other).resident || other == ref) := by
  by_cases he : other = ref
  · subst he
    rw [mark, blob_update_self h]
    simp
  · rw [mark, blob_update_of_ne he]
    simp [he]

theorem resident_foldl_mark (refs : List Nat) {other : Nat} (h : other < g.blobs.length) :
    ((refs.foldl mark g).blob other).resident =
      ((g.blob other).resident || refs.contains other) := by
  induction refs generalizing g with
  | nil => simp
  | cons ref rest ih =>
    have hlen : other < (g.mark ref).blobs.length := by rwa [mark, length_blobs_update]
    rw [List.foldl_cons, ih hlen, resident_mark h, List.contains_cons, Bool.or_assoc]

theorem resident_marked (h : ref < g.blobs.length) :
    ((g.marked l).blob ref).resident =
      ((g.blob ref).resident || (l.family.readsOnDevice && l.leading.contains ref)) := by
  rw [marked]
  split
  · next ht => rw [resident_foldl_mark _ h, ht, Bool.true_and]
  · next ht => simp [ht]

theorem resident_register {other : Nat} :
    ((g.register ref).blob other).resident = (g.blob other).resident := by
  have hblob : (g.register ref).blob other =
      (g.update ref (fun b => { b with id := some g.registered.length })).blob other := rfl
  rw [hblob]
  by_cases he : other = ref
  · subst he
    by_cases hl : other < g.blobs.length
    · rw [blob_update_self hl]
    · simp [update, blob, List.getD_eq_getElem?_getD, hl]
  · rw [blob_update_of_ne he]

theorem resident_foldl_register (refs : List Nat) :
    ((refs.foldl register g).blob ref).resident = (g.blob ref).resident := by
  induction refs generalizing g with
  | nil => rfl
  | cons first rest ih => rw [List.foldl_cons, ih, resident_register]

/-- Taking a layer in puts nothing but its inputs on the device, if its family needs them there. -/
theorem resident_accepted {fresh : List Nat} {rank : Option Int} (h : ref < g.blobs.length) :
    ((g.accepted l fresh rank).blob ref).resident =
      ((g.blob ref).resident || (l.family.readsOnDevice && l.leading.contains ref)) := by
  have hpublish (g₁ : Graph) :
      ((g₁.publish l fresh).blob ref).resident = (g₁.blob ref).resident :=
    resident_foldl_register fresh
  have henlist (g₁ : Graph) : (g₁.enlist l).blob ref = g₁.blob ref := rfl
  rw [accepted, hpublish, henlist, withRank_eq]
  exact resident_marked h

/-! ## One step -/

theorem Adds.resident_old (h : g.Adds l draft g') (href : ref < g.blobs.length) :
    (g'.blob ref).resident =
      ((g.blob ref).resident || (l.family.readsOnDevice && l.leading.contains ref)) := by
  obtain ⟨rank, hg'⟩ := h.taken
  have hlen : ref < (g.grown draft).blobs.length := by
    simp only [grown, List.length_append]
    omega
  rw [hg', resident_accepted hlen, blob_grown_of_lt href]

theorem Adds.made_at (h : g.Adds l draft g') (hnew : g.blobs.length ≤ ref)
    (hlt : ref < g'.blobs.length) :
    ∃ b, .made b ∈ draft.outputs ∧ (g'.blob ref).fixed = b.fixed ∧
      (b.resident = true → (g'.blob ref).resident = true) := by
  obtain ⟨rank, hg'⟩ := h.taken
  have hlen : ref < (g.grown draft).blobs.length := by rwa [hg', length_blobs_accepted] at hlt
  have hmem : (g.grown draft).blob ref ∈ madeBlobs draft.outputs := by
    have hat : ref - g.blobs.length < (madeBlobs draft.outputs).length := by
      rw [grown, List.length_append] at hlen
      omega
    have hblob : (g.grown draft).blob ref = (madeBlobs draft.outputs)[ref - g.blobs.length] := by
      simp [blob, grown, List.getD_eq_getElem?_getD, List.getElem?_append_right hnew, hat]
    rw [hblob]
    exact List.getElem_mem hat
  refine ⟨_, mem_madeBlobs.mp hmem, ?_, fun hres => ?_⟩
  · rw [hg', fixed_blob_accepted]
  · rw [hg', resident_accepted hlen, hres, Bool.true_or]

theorem Adds.inputs_registered (h : g.Adds l draft g') {input : Option Nat}
    (hin : input ∈ l.inputs) : ∃ ref, input = some ref ∧ ref ∈ g.registered := by
  obtain ⟨name, -, ref, rfl, hfind⟩ := exists_of_mem_right h.found hin
  exact ⟨ref, rfl, mem_registered_of_find? hfind⟩

theorem Adds.mem_leading (h : g.Adds l draft g') (hin : some ref ∈ l.inputs) :
    ref ∈ l.leading := by
  have hplaces : l.inputs = (l.inputs.filterMap id).map some := by
    have hall : ∀ input ∈ l.inputs, input.isSome = true := by
      intro input hinput
      obtain ⟨r, rfl, -⟩ := h.inputs_registered hinput
      rfl
    generalize l.inputs = inputs at hall
    induction inputs with
    | nil => rfl
    | cons input rest ih =>
      obtain ⟨r, rfl⟩ := Option.isSome_iff_exists.mp (hall input (by simp))
      simpa using ih fun other hother => hall other (List.mem_cons_of_mem _ hother)
  rw [Layer.leading_of_places hplaces]
  exact List.mem_filterMap.mpr ⟨some ref, hin, rfl⟩

theorem Adds.resident_used (h : g.Adds l draft g') (hg : g.Reached)
    (ht : l.family.readsOnDevice = true)
    (href : some ref ∈ l.inputs ∨ ref ∈ l.outputs) : (g'.blob ref).resident = true := by
  have hinput (hin : some ref ∈ l.inputs) : (g'.blob ref).resident = true := by
    obtain ⟨r, hsome, hr⟩ := h.inputs_registered hin
    obtain rfl := Option.some.inj hsome
    have hlead : l.leading.contains ref = true := by simpa using h.mem_leading hin
    rw [h.resident_old (hg.mem_registered.mp hr), ht, hlead]
    simp
  rcases href with hin | hout
  · exact hinput hin
  · by_cases hnew : g.blobs.length ≤ ref
    · obtain ⟨b, hmade, -, hres⟩ := h.made_at hnew (h.lt_of_mem hout)
      exact hres ((Site.layer_flagged h.drafted hmade).resident ht)
    · -- an output that was not made is an input
      obtain ⟨o, -, hat⟩ := exists_of_mem_right h.placed hout
      cases hat with
      | made b _ hge _ _ => exact absurd hge hnew
      | kept i _ hin _ => exact hinput (List.mem_of_getElem? hin)

/-- What a layer makes is accounted for if all blobs that are registered before it are. -/
theorem Adds.accounted (h : g.Adds l draft g')
    (hplaced : ∀ ref ∈ g.registered, ref < g.blobs.length)
    (hg : ∀ ref ∈ g.registered, (g.blob ref).Accounted) :
    ∀ ref ∈ g'.registered, (g'.blob ref).Accounted := by
  intro ref href
  rw [h.registered, List.mem_append, List.mem_range'_1, ← h.size] at href
  rcases href with hold | ⟨hnew, hlt⟩
  · have hsize := hplaced ref hold
    have hfixed := h.fixed ref hsize
    constructor
    · rw [Blob.of_fixed Blob.forward hfixed]
      exact (hg ref hold).forward
    · intro hgradient
      rw [Blob.of_fixed Blob.gradient hfixed] at hgradient
      rw [h.resident_old hsize, (hg ref hold).gradient hgradient, Bool.true_or]
  · obtain ⟨b, hmade, hfixed, hres⟩ := h.made_at hnew hlt
    have hb : b.Accounted := by
      refine (Site.layer_flagged h.drafted hmade).accounted fun src hsrc => ?_
      simp only [siteOf, List.mem_map, Option.map_eq_some_iff] at hsrc
      obtain ⟨input, hinput, r, rfl, rfl⟩ := hsrc
      obtain ⟨r', hsome, hr⟩ := h.inputs_registered hinput
      obtain rfl := Option.some.inj hsome
      exact hg r hr
    constructor
    · rw [Blob.of_fixed Blob.forward hfixed]
      exact hb.forward
    · intro hgradient
      rw [Blob.of_fixed Blob.gradient hfixed] at hgradient
      exact hres (hb.gradient hgradient)

/-! ## Runs -/

theorem Reached.accounted (h : g.Reached) : ∀ ref ∈ g.registered, (g.blob ref).Accounted := by
  induction h with
  | empty => simp [Graph.empty]
  | add h₁ ha ih => exact ha.accounted (fun _ => h₁.mem_registered.mp) ih

/-- Whatever a layer that computes on the device reads or writes is on the device. -/
theorem Reached.resident_used (h : g.Reached) (hl : l ∈ g.layers)
    (ht : l.family.readsOnDevice = true)
    (href : some ref ∈ l.inputs ∨ ref ∈ l.outputs) : (g.blob ref).resident = true := by
  induction h with
  | empty => simp [Graph.empty] at hl
  | @add g₁ g₂ l₁ draft₁ h₁ ha ih =>
    rw [ha.layers] at hl
    rcases List.mem_append.mp hl with hold | hnew
    · have hlt : ref < g₁.blobs.length := by
        rcases href with hin | hout
        · obtain ⟨r, hr, hsome⟩ := h₁.input_registered hold hin
          obtain rfl := Option.some.inj hsome
          exact h₁.mem_registered.mp hr
        · exact h₁.lt_of_mem hold hout
      rw [ha.resident_old hlt, ih hold, Bool.true_or]
    · obtain rfl := List.mem_singleton.mp hnew
      exact ha.resident_used h₁ ht href

end Graph

end NetFootprint
