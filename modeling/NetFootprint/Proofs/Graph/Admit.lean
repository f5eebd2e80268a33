import NetFootprint.Proofs.Graph.Step

/-!
# Admitting a draft

What a family made of a declaration is taken into the graph as soon as the name of the layer is
free, and the blobs that were made have different names and the axes of the network. All other
checks were made when the draft was.
-/

namespace NetFootprint.Graph

variable {g : Graph} {l : Layer} {d : Declaration} {draft : Draft} {t : LayerType}
  {outputs vetted places : List Nat} {rank : Option Int}

/-! ## Passing the checks -/

theorem exists_vet {n : Int}
    (hknown : ∀ ref ∈ outputs, g.isNew ref = false →
      g.find? (g.blob ref).name = some ref ∧ l.family.inPlace = true)
    (haxes : ∀ ref ∈ outputs, g.isNew ref = true →
      (g.blob ref).isScalar = true ∨ (g.blob ref).spatialRank = n)
    (hrank : rank = none ∨ rank = some n)
    (hapart : (vetted ++ outputs.filter g.isNew).Pairwise
      fun a b => (g.blob b).name.equals (g.blob a).name = false) :
    ∃ found, g.vet l outputs vetted rank = .ok found := by
  induction outputs generalizing vetted rank with
  | nil => exact ⟨(vetted, rank), rfl⟩
  | cons ref rest ih =>
    obtain ⟨hknown₁, hknown⟩ := List.forall_mem_cons.mp hknown
    obtain ⟨haxes₁, haxes⟩ := List.forall_mem_cons.mp haxes
    cases hf : g.find? (g.blob ref).name with
    | some known =>
      have hn : g.isNew ref = false := by simp [isNew, hf]
      obtain ⟨hsame, hplace⟩ := hknown₁ hn
      have hself : known = ref := Option.some.inj (hf.symm.trans hsame)
      rw [List.filter_cons_of_neg (by simp [hn])] at hapart
      simp only [vet, hf, hself, hplace, and_self, if_true]
      exact ih hknown haxes hrank hapart
    | none =>
      have hn : g.isNew ref = true := by simp [isNew, hf]
      rw [List.filter_cons_of_pos hn] at hapart
      have hfree : vetted.any (fun other =>
          (g.blob ref).name.equals (g.blob other).name) = false := by
        rw [List.any_eq_false]
        intro other hother
        simp [(List.pairwise_append.mp hapart).2.2 other hother ref List.mem_cons_self]
      rw [List.append_cons] at hapart
      simp only [vet, hf, hfree, Bool.false_eq_true, if_false]
      by_cases hs : (g.blob ref).isScalar = true
      · rw [if_pos hs]
        exact ih hknown haxes hrank hapart
      · rw [if_neg hs]
        have hsame : (g.blob ref).spatialRank = n := (haxes₁ hn).resolve_left hs
        rcases hrank with rfl | rfl
        · exact ih hknown haxes (.inr (congrArg some hsame)) hapart
        · simp only [hsame, if_true]
          exact ih hknown haxes (.inr rfl) hapart

theorem exists_approve (hname : ∀ other ∈ g.layers, other.name ≠ l.name)
    (hvet : ∃ found, g.vet l l.outputs [] (g.spatialRank.map Int.ofNat) = .ok found) :
    ∃ found, g.approve l = .ok found := by
  have hany : g.layers.any (fun other => other.name == l.name) = false := by
    rw [List.any_eq_false]
    intro other hother
    simpa using hname other hother
  rw [approve, hany, if_neg Bool.false_ne_true]
  exact hvet

theorem map_blob_grown (g : Graph) (draft : Draft) :
    (List.range' g.blobs.length (madeBlobs draft.outputs).length).map (g.grown draft).blob =
      madeBlobs draft.outputs := by
  apply List.ext_getElem
  · simp
  · intro i hi hi'
    simp [blob, grown, List.getD_eq_getElem?_getD, hi']

/-! ## Drafts -/

/-- The blobs that were made for a draft have one number of axes, which is that of the network, and
different names. -/
structure Admits (g : Graph) (draft : Draft) : Prop where
  axes : ∃ n : Int, (∀ m : Nat, g.spatialRank = some m → m = n) ∧
    ∀ b ∈ madeBlobs draft.outputs, b.isScalar = true ∨ b.spatialRank = n
  apart : (madeBlobs draft.outputs).Pairwise fun a b => b.name.equals a.name = false

theorem Admits.of_only {b : Blob} (hout : draft.outputs = [.made b])
    (haxes : b.isScalar = false → ∀ n : Nat, g.spatialRank = some n → b.spatialRank = n) :
    g.Admits draft where
  axes := by
    by_cases hs : b.isScalar = true
    · refine ⟨(g.spatialRank.getD 0 : Nat), by simp +contextual, ?_⟩
      simp [hout, madeBlobs, hs]
    · refine ⟨b.spatialRank, fun n hn => (haxes (by simpa using hs) n hn).symm, ?_⟩
      simp [hout, madeBlobs]
  apart := by simp [hout, madeBlobs]

/-- The checks on the outputs of a draft that is admitted pass. -/
theorem Admits.exists_vet (h : g.Admits draft) {refs : List (Option Nat)}
    (hp : ∀ ref ∈ g.registered, ref < g.blobs.length) (hfound : List.Forall₂ g.Found d.inputs refs)
    (hd : (g.siteOf d refs).layer t = .ok draft) (hl : l.family = t)
    (hout : l.outputs = placesFrom refs g.blobs.length draft.outputs) :
    ∃ found, (g.grown draft).vet l l.outputs [] ((g.grown draft).spatialRank.map Int.ofNat) =
      .ok found := by
  have hkept : ∀ i, .kept i ∈ draft.outputs →
      ∃ ref < g.blobs.length, refs[i]? = some (some ref) := by
    intro i hi
    obtain ⟨ref, hlt, href, -⟩ := kept_input hp hfound hd hi
    exact ⟨ref, hlt, href⟩
  have hplaced : List.Forall₂ (g.Placed (g.grown draft) refs) draft.outputs l.outputs := by
    rw [hout]
    exact placed_placesFrom draft.outputs g.blobs (Nat.le_refl _) rfl hkept
  have hnew : ∀ ref ∈ l.outputs, (g.grown draft).isNew ref = decide (g.blobs.length ≤ ref) :=
    fun ref href => isNew_grown hp hfound hd hplaced href
  have hfresh : l.outputs.filter (g.grown draft).isNew =
      List.range' g.blobs.length (madeBlobs draft.outputs).length := by
    rw [List.filter_congr hnew, hout]
    exact filter_placesFrom (Nat.le_refl _) hkept
  obtain ⟨n, hknown, haxes⟩ := h.axes
  apply Graph.exists_vet (n := n)
  · intro ref href hold
    obtain ⟨o, ho, hplace⟩ := exists_of_mem_right hplaced href
    cases hplace with
    | made b _ hge _ _ => simp [hnew ref href, hge] at hold
    | kept i _ hin hlt =>
      obtain ⟨ref', -, hin', hfind⟩ := kept_input hp hfound hd ho
      obtain rfl : ref = ref' := by simpa [hin] using hin'
      obtain ⟨top, -, hmakes⟩ := exists_of_mem_right (Site.layer_outputs hd) ho
      cases hmakes with
      | kept _ _ hplace _ _ =>
        rw [find?_grown hp, blob_grown_of_lt hlt, hl]
        exact ⟨hfind, hplace⟩
  · intro ref href hge
    obtain ⟨o, ho, hplace⟩ := exists_of_mem_right hplaced href
    cases hplace with
    | kept i _ _ hlt => simp [hnew ref href, Nat.not_le.mpr hlt] at hge
    | made b _ _ _ hb =>
      rw [Blob.of_fixed Blob.isScalar hb, Blob.of_fixed Blob.spatialRank hb]
      exact haxes b (mem_madeBlobs.mpr ho)
  · have hrank : (g.grown draft).spatialRank = g.spatialRank := rfl
    rw [hrank]
    cases hm : g.spatialRank with
    | none => exact .inl rfl
    | some m => exact .inr (congrArg some (hknown m hm))
  · rw [hfresh, List.nil_append]
    have hapart := h.apart
    rw [← map_blob_grown] at hapart
    exact List.pairwise_map.mp hapart

/-- A declaration is accepted if its inputs are known, its family accepts it, and the draft is
admitted. -/
theorem Admits.exists_create (h : g.Admits draft)
    (hp : ∀ ref ∈ g.registered, ref < g.blobs.length) (ht : familyOf d = .ok t)
    (hplaces : g.resolveInputs d = .ok places) (hname : ∀ other ∈ g.layers, other.name ≠ d.name)
    (hd : (g.siteOf d (places.map some)).layer t = .ok draft) :
    ∃ l g', g.create d none = ⟨g', .ok l⟩ := by
  have hb : g.build d none = .ok (g.finish d (places.map some) draft) := by
    simp only [build, bind_eq_ok, pure_eq_ok]
    exact ⟨t, ht, places, hplaces, _, rfl, draft, hd, rfl⟩
  have hmade := finish_eq g d (places.map some) draft
  generalize g.finish d (places.map some) draft = made at hb hmade
  obtain ⟨l, built⟩ := made
  obtain ⟨hl, rfl⟩ := Prod.mk.inj hmade
  have hfamily : l.family = t := by
    rw [hl]
    exact family_of_drafted ht hd
  have hvet := h.exists_vet hp (found_of_resolveInputs hplaces) hd hfamily (by rw [hl])
  have hnamed : ∀ other ∈ (g.grown draft).layers, other.name ≠ l.name := by
    rw [hl]
    exact hname
  obtain ⟨⟨fresh, rank⟩, ha⟩ := exists_approve hnamed hvet
  have hcomplete := complete_of_build hb (by simp [AllGiven])
  refine ⟨l, (g.grown draft).accepted l fresh rank, ?_⟩
  simp only [create, hb, ha, take_of_complete hcomplete]
  rfl

end NetFootprint.Graph
