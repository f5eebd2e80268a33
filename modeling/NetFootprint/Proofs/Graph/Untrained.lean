import NetFootprint.Network.Build
import NetFootprint.Proofs.Graph.Recast
import NetFootprint.Proofs.Layer.Untrained

/-!
# Growing a graph for testing

Every step by which a graph grows commutes with leaving the gradients out. A graph for testing
therefore grows, declaration by declaration, as the graph for training does, and it is refused the
same declarations for the same reasons.
-/

namespace NetFootprint

def Recast.untraining : Recast where
  phase _ := .test
  blob _ := Blob.untrained
  layer := id

theorem Recast.untraining_unnoticed : untraining.Unnoticed where
  id _ _ := rfl
  register _ _ _ := rfl
  mark _ _ := rfl
  family _ := rfl
  inputs _ := rfl
  outputs _ := rfl

namespace Graph

variable {g : Graph} {l : Layer} {d : Declaration}

theorem untrained_eq (g : Graph) : g.untrained = Recast.untraining.graph g := by
  rw [Recast.graph_eq_map fun _ => rfl, show Recast.untraining.layer = id from rfl, List.map_id]
  rfl

theorem accepted_untrained (fresh : List Nat) (rank : Option Int) :
    g.untrained.accepted l fresh rank = (g.accepted l fresh rank).untrained := by
  rw [untrained_eq, untrained_eq]
  exact Recast.untraining_unnoticed.accepted_graph fresh rank

/-! ## Building a layer -/

theorem finish_untrained (d : Declaration) (refs : List (Option Nat)) (draft : Draft) :
    g.untrained.finish d refs draft.untrained =
      ((g.finish d refs draft).1, (g.finish d refs draft).2.untrained) := by
  have hlength : g.untrained.blobs.length = g.blobs.length := List.length_map _
  have hgrown : g.untrained.grown draft.untrained = (g.grown draft).untrained := by
    simp only [grown, untrained, Draft.untrained, List.map_append,
      madeBlobs_map (φ := Output.untrained) (fun _ => rfl) fun _ => rfl]
  rw [finish_eq, finish_eq, hlength, hgrown, Draft.untrained,
    placesFrom_map (fun _ => rfl) fun _ => rfl]
  rfl

theorem resolveInputs_untrained (d : Declaration) :
    g.untrained.resolveInputs d = g.resolveInputs d := by
  simp only [resolveInputs, resolve_untrained]

theorem siteOf_untrained (d : Declaration) (refs : List (Option Nat)) :
    g.untrained.siteOf d refs = (g.siteOf d refs).untrained := by
  simp only [siteOf, Site.untrained, slot_of_blob g.blob_untrained, List.map_map]
  rfl

theorem build_untrained (d : Declaration) :
    Mirrors (Prod.map id Graph.untrained) (g.build d none) (g.untrained.build d none) := by
  refine .step rfl fun t _ => .step (resolveInputs_untrained d) fun places _ => ?_
  refine .step rfl fun refs _ => ?_
  have hlayer := (g.siteOf d refs).layer_untrained t
  rw [← siteOf_untrained] at hlayer
  refine .bind hlayer fun draft _ => ?_
  rw [finish_untrained]
  exact .ok (g.finish d refs draft)

/-! ## Taking a layer in -/

theorem vet_untrained (outputs fresh : List Nat) (rank : Option Int) :
    g.untrained.vet l outputs fresh rank = g.vet l outputs fresh rank := by
  induction outputs generalizing fresh rank with
  | nil => rfl
  | cons ref rest ih =>
    simp only [vet, find?_untrained, blob_untrained, ih]
    rfl

theorem approve_untrained : g.untrained.approve l = g.approve l := by
  unfold approve
  rw [vet_untrained]
  rfl

theorem create_untrained (d : Declaration) :
    g.untrained.create d none = ⟨(g.create d none).graph.untrained, (g.create d none).result⟩ := by
  have hbuild := build_untrained (g := g) d
  cases hb : g.build d none with
  | error e => simp only [create, hb, hbuild.eq_error hb]
  | ok made =>
    obtain ⟨l, built⟩ := made
    have hbuilt : g.untrained.build d none = .ok (l, built.untrained) := hbuild.eq_ok hb
    have hcomplete := complete_of_build hb (by simp [AllGiven])
    simp only [create, hb, hbuilt, approve_untrained]
    cases built.approve l with
    | error e => rfl
    | ok found =>
      obtain ⟨fresh, rank⟩ := found
      simp only [take_of_complete hcomplete]
      exact congrArg (Change.mk · (.ok l)) (accepted_untrained fresh rank)

/-! ## Lines -/

theorem blobsText_untrained (label : String) (blobs : List (Option Blob)) :
    blobsText label (blobs.map (·.map Blob.untrained)) = blobsText label blobs := by
  have hslot (b : Option Blob) : slotText (b.map Blob.untrained) = slotText b := by
    cases b <;> rfl
  simp only [blobsText, List.isEmpty_map, List.mapM_map, Function.comp_def, hslot]

theorem layerText_untrained : g.untrained.layerText l = g.layerText l := by
  have hwritten : ((g.outputsOf l).map Blob.untrained).map some =
      ((g.outputsOf l).map some).map (·.map Blob.untrained) := by
    rw [List.map_map, List.map_map]
    rfl
  unfold Graph.layerText NetFootprint.layerText
  rw [slotsOf_of_blob g.blob_untrained rfl, outputsOf_of_blob g.blob_untrained rfl, hwritten,
    blobsText_untrained, blobsText_untrained]

/-! ## Runs -/

theorem extend_untrained (g : Graph) (d : Declaration) :
    Mirrors Graph.untrained (g.extend d) (g.untrained.extend d) := by
  unfold extend
  rw [create_untrained]
  refine .step rfl fun l _ => .step ?_ fun line _ => .ok _
  rw [layerText_untrained]

theorem extendAll_untrained (g : Graph) (ds : List Declaration) :
    Mirrors Graph.untrained (g.extendAll ds) (g.untrained.extendAll ds) :=
  .foldlM extend_untrained ds g

end Graph

end NetFootprint
