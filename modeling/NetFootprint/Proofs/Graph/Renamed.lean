import NetFootprint.Network.Build
import NetFootprint.Proofs.Graph.Recast
import NetFootprint.Proofs.Layer.Renamed

/-!
# Growing a graph under other names

Every step by which a graph grows commutes with giving its blobs and layers other names. A graph
under other names therefore grows, declaration by declaration, as the graph itself does, and the
same declarations are refused.
-/

namespace NetFootprint

def Renaming.recast (ρ : Renaming) : Recast where
  phase := id
  blob _ := Blob.renamed ρ
  layer := Layer.renamed ρ

theorem Body.family_renamed (ρ : Renaming) (body : Body) :
    (body.renamed ρ).family = body.family := by
  cases body <;> rfl

theorem Renaming.recast_unnoticed (ρ : Renaming) : ρ.recast.Unnoticed where
  id _ _ := rfl
  register _ _ _ := rfl
  mark _ _ := rfl
  family l := Body.family_renamed ρ l.body
  inputs _ := rfl
  outputs _ := rfl

namespace Graph

variable {g : Graph} {ρ : Renaming} {l : Layer} {d : Declaration}

theorem renamed_eq (g : Graph) (ρ : Renaming) : g.renamed ρ = ρ.recast.graph g := by
  rw [Recast.graph_eq_map fun _ => rfl]
  rfl

theorem accepted_renamed (fresh : List Nat) (rank : Option Int) :
    (g.renamed ρ).accepted (l.renamed ρ) fresh rank = (g.accepted l fresh rank).renamed ρ := by
  rw [renamed_eq, renamed_eq]
  exact ρ.recast_unnoticed.accepted_graph fresh rank

/-! ## Building a layer -/

theorem finish_renamed (d : Declaration) (refs : List (Option Nat)) (draft : Draft) :
    (g.renamed ρ).finish (d.renamed ρ) refs (draft.renamed ρ) =
      Prod.map (Layer.renamed ρ) (Graph.renamed ρ) (g.finish d refs draft) := by
  have hlength : (g.renamed ρ).blobs.length = g.blobs.length := List.length_map _
  have hgrown : (g.renamed ρ).grown (draft.renamed ρ) = (g.grown draft).renamed ρ := by
    simp only [grown, renamed, Draft.renamed, List.map_append,
      madeBlobs_map (φ := Output.renamed ρ) (fun _ => rfl) fun _ => rfl]
  rw [finish_eq, finish_eq, hlength, hgrown, Draft.renamed,
    placesFrom_map (fun _ => rfl) fun _ => rfl]
  rfl

theorem resolveInputs_renamed (d : Declaration) :
    Parallel id (g.resolveInputs d) ((g.renamed ρ).resolveInputs (d.renamed ρ)) := by
  have hresolved : Parallel (List.map id) (g.resolveInputs d)
      ((g.renamed ρ).resolveInputs (d.renamed ρ)) :=
    .mapM fun name _ => resolve_renamed (.text name) _ _ _ _ _ _
  rwa [List.map_id_fun] at hresolved

theorem siteOf_renamed (d : Declaration) (refs : List (Option Nat)) :
    (g.renamed ρ).siteOf (d.renamed ρ) refs = (g.siteOf d refs).renamed ρ := by
  simp only [siteOf, Site.renamed, slot_of_blob (g.blob_renamed ρ), List.map_map]
  rfl

theorem build_renamed (h : ρ.blob helperOutput = helperOutput) (hd : d.NamesSource) :
    Parallel (Prod.map (Layer.renamed ρ) (Graph.renamed ρ)) (g.build d none)
      ((g.renamed ρ).build (d.renamed ρ) none) := by
  have hfamily : Parallel id (familyOf d) (familyOf (d.renamed ρ)) := by
    unfold familyOf
    rw [show (d.renamed ρ).type = d.type from rfl]
    cases LayerType.ofTag? d.type with
    | none => exact .error _ _
    | some t => exact .ok _
  refine .step hfamily fun t _ => .step (resolveInputs_renamed d) fun places _ => ?_
  refine .same fun refs _ => ?_
  have hlayer := (g.siteOf d refs).layer_renamed h hd t (ρ := ρ)
  rw [← siteOf_renamed] at hlayer
  refine .bind hlayer fun draft _ => ?_
  rw [finish_renamed]
  exact .ok (g.finish d refs draft)

/-! ## Taking a layer in -/

theorem vet_renamed (outputs fresh : List Nat) (rank : Option Int) :
    Parallel id (g.vet l outputs fresh rank)
      ((g.renamed ρ).vet (l.renamed ρ) outputs fresh rank) := by
  induction outputs generalizing fresh rank with
  | nil => exact .ok _
  | cons ref rest ih =>
    have hname (ref : Nat) : ((g.renamed ρ).blob ref).name = (g.blob ref).name.renamed ρ.blob := by
      rw [blob_renamed]
      rfl
    have hscalar : ((g.renamed ρ).blob ref).isScalar = (g.blob ref).isScalar := by
      rw [blob_renamed]
      rfl
    have hrank : ((g.renamed ρ).blob ref).spatialRank = (g.blob ref).spatialRank := by
      rw [blob_renamed]
      rfl
    have hfamily : (l.renamed ρ).family = l.family := Body.family_renamed ρ l.body
    simp only [vet, hname, hscalar, hrank, hfamily, find?_renamed,
      Value.equals_renamed ρ.blob_injective]
    cases g.find? (g.blob ref).name with
    | some known => exact .ite (fun _ => ih _ _) fun _ => .error _ _
    | none =>
      refine .ite (fun _ => .error _ _) fun _ => .ite (fun _ => ih _ _) fun _ => ?_
      cases rank with
      | none => exact ih _ _
      | some n => exact .ite (fun _ => ih _ _) fun _ => .error _ _

theorem approve_renamed : Parallel id (g.approve l) ((g.renamed ρ).approve (l.renamed ρ)) := by
  have hname : (g.renamed ρ).layers.any (fun other => other.name == (l.renamed ρ).name) =
      g.layers.any fun other => other.name == l.name := by
    rw [renamed, List.any_map]
    congr 1
    funext other
    exact Bool.eq_iff_iff.mpr (by
      simp [Layer.name, Layer.renamed, Declaration.renamed, ρ.layer_injective.eq_iff])
  unfold approve
  rw [hname]
  exact .ite (fun _ => .error _ _) fun _ => vet_renamed _ _ _

/-! ## Lines -/

theorem slotsOf_renamed :
    (g.renamed ρ).slotsOf (l.renamed ρ) = (g.slotsOf l).map (·.map (Blob.renamed ρ)) :=
  slotsOf_of_blob (g.blob_renamed ρ) rfl

theorem outputsOf_renamed :
    (g.renamed ρ).outputsOf (l.renamed ρ) = (g.outputsOf l).map (Blob.renamed ρ) :=
  outputsOf_of_blob (g.blob_renamed ρ) rfl

theorem exists_text_iff {b : Blob} :
    (∃ text, b.text = .ok text) ↔ ∃ texts, Value.wholeTexts b.extents = .ok texts := by
  simp only [Blob.text, bind_eq_ok, pure_eq_ok]
  constructor
  · rintro ⟨text, texts, htexts, -⟩
    exact ⟨texts, htexts⟩
  · rintro ⟨texts, htexts⟩
    exact ⟨_, texts, htexts, rfl⟩

theorem exists_blobsText_iff (label : String) {blobs : List (Option Blob)} :
    (∃ text, blobsText label blobs = .ok text) ↔
      ∀ slot ∈ blobs, ∃ text, slotText slot = .ok text := by
  rw [← exists_mapM_eq_ok]
  cases blobs with
  | nil => exact ⟨fun _ => ⟨[], rfl⟩, fun _ => ⟨"", rfl⟩⟩
  | cons slot rest =>
    simp only [blobsText, List.isEmpty_cons, Bool.false_eq_true, if_false, bind_eq_ok, pure_eq_ok]
    constructor
    · rintro ⟨text, texts, htexts, -⟩
      exact ⟨texts, htexts⟩
    · rintro ⟨texts, htexts⟩
      exact ⟨_, texts, htexts, rfl⟩

theorem exists_layerText_iff : (∃ line, g.layerText l = .ok line) ↔
    (∀ slot ∈ g.slotsOf l, ∃ text, slotText slot = .ok text) ∧
      ∀ slot ∈ (g.outputsOf l).map some, ∃ text, slotText slot = .ok text := by
  rw [← exists_blobsText_iff "in", ← exists_blobsText_iff "out"]
  simp only [Graph.layerText, NetFootprint.layerText, bind_eq_ok, pure_eq_ok]
  constructor
  · rintro ⟨line, read, hread, written, hwritten, -⟩
    exact ⟨⟨read, hread⟩, written, hwritten⟩
  · rintro ⟨⟨read, hread⟩, written, hwritten⟩
    exact ⟨_, read, hread, written, hwritten, rfl⟩

theorem exists_slotText_renamed {slot : Option Blob} :
    (∃ text, slotText (slot.map (Blob.renamed ρ)) = .ok text) ↔
      ∃ text, slotText slot = .ok text := by
  cases slot with
  | none => rfl
  | some b =>
    have htext : (∃ text, (b.renamed ρ).text = .ok text) ↔ ∃ text, b.text = .ok text := by
      rw [exists_text_iff, exists_text_iff]
      rfl
    exact htext

/-- Whether the line of a layer can be written does not depend on the names in it. -/
theorem exists_layerText_renamed : (∃ line, (g.renamed ρ).layerText (l.renamed ρ) = .ok line) ↔
    ∃ line, g.layerText l = .ok line := by
  have hwritten : ((g.outputsOf l).map (Blob.renamed ρ)).map some =
      ((g.outputsOf l).map some).map (·.map (Blob.renamed ρ)) := by
    rw [List.map_map, List.map_map]
    rfl
  rw [exists_layerText_iff, exists_layerText_iff, slotsOf_renamed, outputsOf_renamed, hwritten]
  simp only [List.forall_mem_map, exists_slotText_renamed]

/-! ## Runs -/

theorem extend_of_approve {built : Graph} {fresh : List Nat} {rank : Option Int}
    (hb : g.build d none = .ok (l, built)) (ha : built.approve l = .ok (fresh, rank)) :
    g.extend d = (do
      let _ ← (built.accepted l fresh rank).layerText l
      return built.accepted l fresh rank) := by
  have hcomplete := complete_of_build hb (by simp [AllGiven])
  have hcreate : g.create d none = ⟨built.accepted l fresh rank, .ok l⟩ := by
    simp only [create, hb, ha, take_of_complete hcomplete]
    rfl
  rw [extend, hcreate]
  rfl

theorem extend_renamed (h : ρ.blob helperOutput = helperOutput) (hd : d.NamesSource) :
    Parallel (Graph.renamed ρ) (g.extend d) ((g.renamed ρ).extend (d.renamed ρ)) := by
  have hbuild := build_renamed (g := g) h hd
  cases hb : g.build d none with
  | error e =>
    obtain ⟨e', hb'⟩ := hbuild.exists_error hb
    simp only [extend, create, hb, hb']
    exact .error _ _
  | ok made =>
    obtain ⟨l, built⟩ := made
    have hb' : (g.renamed ρ).build (d.renamed ρ) none = .ok (l.renamed ρ, built.renamed ρ) :=
      hbuild.eq_ok hb
    have happroved := approve_renamed (g := built) (ρ := ρ) (l := l)
    cases ha : built.approve l with
    | error e =>
      obtain ⟨e', ha'⟩ := happroved.exists_error ha
      simp only [extend, create, hb, hb', ha, ha']
      exact .error _ _
    | ok found =>
      obtain ⟨fresh, rank⟩ := found
      rw [extend_of_approve hb ha, extend_of_approve hb' (happroved.eq_ok ha), accepted_renamed]
      refine .skip ?_ (.ok _)
      rw [Bool.eq_iff_iff, toOption_isSome_iff, toOption_isSome_iff]
      simp only [lift_eq_ok, exists_layerText_renamed]

theorem extendAll_renamed (h : ρ.blob helperOutput = helperOutput) {ds : List Declaration}
    (hds : ∀ d ∈ ds, d.NamesSource) (g : Graph) :
    Parallel (Graph.renamed ρ) (g.extendAll ds)
      ((g.renamed ρ).extendAll (ds.map (Declaration.renamed ρ))) := by
  have hstep (g : Graph) (d : Declaration) (hd : d.NamesSource) :
      Parallel (Graph.renamed ρ) (g.extend d) ((g.renamed ρ).extend (d.renamed ρ)) :=
    extend_renamed h hd
  exact Parallel.foldlM hstep hds g

end Graph

end NetFootprint
