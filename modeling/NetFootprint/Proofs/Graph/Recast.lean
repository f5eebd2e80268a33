import NetFootprint.Proofs.Graph.Create

/-!
# Growing a graph that is seen otherwise

A graph may be seen with other blobs at the same places and other layers at the same positions. As
long as ids, residency and the places that layers read and write are left alone, taking a layer in
does not notice: a graph grows the same way before and after the change.
-/

namespace NetFootprint

/-- A change of the blobs of a graph, place by place, of its layers and of its phase. -/
structure Recast where
  phase : Phase → Phase
  blob : Nat → Blob → Blob
  layer : Layer → Layer

namespace Recast

def graph (c : Recast) (g : Graph) : Graph :=
  { g with
    phase := c.phase g.phase
    blobs := g.blobs.mapIdx c.blob
    layers := g.layers.map c.layer }

/-- The change is one that taking a layer in does not notice. -/
structure Unnoticed (c : Recast) : Prop where
  id : ∀ ref b, (c.blob ref b).id = b.id
  register : ∀ ref b i, c.blob ref { b with id := i } = { c.blob ref b with id := i }
  mark : ∀ ref b, c.blob ref { b with resident := true } = { c.blob ref b with resident := true }
  family : ∀ l, (c.layer l).family = l.family
  inputs : ∀ l, (c.layer l).inputs = l.inputs
  outputs : ∀ l, (c.layer l).outputs = l.outputs

variable {c : Recast} {g : Graph} {l : Layer}

theorem blob_graph {ref : Nat} (h : ref < g.blobs.length) :
    (c.graph g).blob ref = c.blob ref (g.blob ref) := by
  simp [graph, Graph.blob, List.getD_eq_getElem?_getD, h]

theorem graph_eq_map {f : Blob → Blob} (hf : ∀ ref, c.blob ref = f) : c.graph g =
    { g with
      phase := c.phase g.phase
      blobs := g.blobs.map f
      layers := g.layers.map c.layer } := by
  have hblobs : g.blobs.mapIdx c.blob = g.blobs.map f := by
    rw [funext hf]
    refine List.ext_getElem? fun i => ?_
    rw [List.getElem?_map, List.getElem?_mapIdx]
  rw [graph, hblobs]

theorem update_graph {f : Blob → Blob} {ref : Nat} (hf : ∀ b, c.blob ref (f b) = f (c.blob ref b)) :
    (c.graph g).update ref f = c.graph (g.update ref f) := by
  have hblobs : (g.blobs.mapIdx c.blob).modify ref f = (g.blobs.modify ref f).mapIdx c.blob := by
    refine List.ext_getElem? fun i => ?_
    rw [List.getElem?_modify, List.getElem?_mapIdx, List.getElem?_mapIdx, List.getElem?_modify]
    by_cases hi : ref = i
    · subst hi
      cases g.blobs[ref]? with
      | none => rfl
      | some b => simp [hf]
    · cases g.blobs[i]? <;> simp [hi]
  simp only [Graph.update, graph, hblobs]

namespace Unnoticed

variable (h : c.Unnoticed)
include h

theorem id_graph (ref : Nat) : ((c.graph g).blob ref).id = (g.blob ref).id := by
  by_cases href : ref < g.blobs.length
  · rw [blob_graph href, h.id]
  · simp [graph, Graph.blob, List.getD_eq_getElem?_getD, href]

theorem idsOf_graph (refs : List Nat) : (c.graph g).idsOf refs = g.idsOf refs := by
  simp only [Graph.idsOf, h.id_graph]

theorem leading_layer : (c.layer l).leading = l.leading := by
  rw [Layer.leading, h.inputs, Layer.leading]

theorem mark_graph (ref : Nat) : (c.graph g).mark ref = c.graph (g.mark ref) :=
  update_graph (f := fun b => { b with resident := true }) (h.mark ref)

theorem foldl_mark_graph (refs : List Nat) :
    refs.foldl Graph.mark (c.graph g) = c.graph (refs.foldl Graph.mark g) :=
  List.foldl_hom c.graph fun _ ref => h.mark_graph ref

theorem marked_graph : (c.graph g).marked (c.layer l) = c.graph (g.marked l) := by
  unfold Graph.marked
  rw [h.family, h.leading_layer]
  split
  · exact h.foldl_mark_graph _
  · rfl

omit h in
theorem withRank_graph (rank : Option Int) :
    (c.graph g).withRank rank = c.graph (g.withRank rank) := by
  unfold Graph.withRank
  rw [show (c.graph g).elementSize = g.elementSize from rfl]
  cases g.elementSize <;> cases rank <;> rfl

theorem enlist_graph : (c.graph g).enlist (c.layer l) = c.graph (g.enlist l) := by
  unfold Graph.enlist
  rw [h.leading_layer, h.idsOf_graph]
  simp [graph]

theorem register_graph (ref : Nat) : (c.graph g).register ref = c.graph (g.register ref) := by
  have hid := update_graph (c := c) (g := g)
    (f := fun b => { b with id := some g.registered.length }) fun b => h.register ref b _
  unfold Graph.register
  rw [show (c.graph g).registered = g.registered from rfl, hid]
  rfl

theorem publish_graph (fresh : List Nat) :
    (c.graph g).publish (c.layer l) fresh = c.graph (g.publish l fresh) := by
  have hgrown : fresh.foldl Graph.register (c.graph g) = c.graph (fresh.foldl Graph.register g) :=
    List.foldl_hom c.graph fun _ ref => h.register_graph ref
  simp only [Graph.publish, hgrown, h.idsOf_graph, h.outputs]
  rfl

/-- A layer is taken in after the change as it is before it. -/
theorem accepted_graph (fresh : List Nat) (rank : Option Int) :
    (c.graph g).accepted (c.layer l) fresh rank = c.graph (g.accepted l fresh rank) := by
  rw [Graph.accepted, withRank_graph, h.marked_graph, h.enlist_graph, h.publish_graph,
    Graph.accepted]

end Unnoticed

end Recast

/-! ## What is seen of a graph -/

namespace Graph

variable {g g' : Graph} {l l' : Layer} {f : Blob → Blob}
  (h : ∀ ref, g'.blob ref = f (g.blob ref))
include h

theorem slot_of_blob (slot : Option Nat) : slot.map g'.blob = (slot.map g.blob).map f := by
  cases slot with
  | none => rfl
  | some ref => exact congrArg some (h ref)

theorem slotsOf_of_blob (hin : l'.inputs = l.inputs) :
    g'.slotsOf l' = (g.slotsOf l).map (·.map f) := by
  simp only [slotsOf, hin, slot_of_blob h, List.map_map]
  rfl

theorem inputsOf_of_blob (hin : l'.inputs = l.inputs) :
    g'.inputsOf l' = (g.inputsOf l).map f := by
  rw [inputsOf, slotsOf_of_blob h hin, inputsOf, List.filterMap_map, List.map_filterMap]
  refine List.filterMap_congr fun slot _ => ?_
  cases slot <;> rfl

theorem outputsOf_of_blob (hout : l'.outputs = l.outputs) :
    g'.outputsOf l' = (g.outputsOf l).map f := by
  simp only [outputsOf, hout, List.map_map]
  exact List.map_congr_left fun ref _ => h ref

theorem registeredBlobs_of_blob (hregistered : g'.registered = g.registered) :
    g'.registeredBlobs = g.registeredBlobs.map f := by
  simp only [registeredBlobs, hregistered, List.map_map]
  exact List.map_congr_left fun ref _ => h ref

theorem outputs_of_blob (hregistered : g'.registered = g.registered)
    (hterminal : g'.terminal = g.terminal) : g'.outputs = g.outputs.map f := by
  simp only [outputs, hregistered, hterminal, List.map_filterMap, slot_of_blob h]

end Graph

end NetFootprint
