import NetFootprint.Network.Build
import NetFootprint.Proofs.Graph.Step

/-!
# Graphs grown by name

A graph is `Reached` by adding layers whose inputs are named, one after the other. Creations that
fail leave no trace, so every run of creations by name reaches a graph, and so does the building of
a network. Each layer of a reached graph was added at some point of its history, and what was known
of it then is known for good.
-/

namespace NetFootprint.Graph

variable {g g' : Graph} {l : Layer} {draft : Draft} {ref k : Nat}

/-- The graph that is left by creations by name; those that fail are passed over. -/
def createAll (g : Graph) (ds : List Declaration) : Graph :=
  ds.foldl (fun g d => (g.create d none).graph) g

/-- A graph that layers with named inputs were added to, beginning with none. -/
inductive Reached : Graph → Prop where
  | empty (phase : Phase) (elementSize : Option (List Float)) : Reached (empty phase elementSize)
  | add {g g' : Graph} {l : Layer} {draft : Draft} (h : Reached g) (ha : g.Adds l draft g') :
    Reached g'

theorem Reached.registered (h : g.Reached) : g.registered = List.range g.blobs.length := by
  induction h with
  | empty => rfl
  | add _ ha ih =>
    rw [ha.registered, ih, ha.size, List.range_eq_range', List.range_eq_range']
    simpa using List.range'_append_1 (s := 0)

theorem Reached.mem_registered (h : g.Reached) :
    ref ∈ g.registered ↔ ref < g.blobs.length := by
  rw [h.registered, List.mem_range]

theorem Reached.createAll (h : g.Reached) (ds : List Declaration) : (g.createAll ds).Reached := by
  induction ds generalizing g with
  | nil => exact h
  | cons d rest ih =>
    have hp : ∀ ref ∈ g.registered, ref < g.blobs.length := fun ref href =>
      h.mem_registered.mp href
    rcases create_adds hp d with ⟨e, he⟩ | ⟨l, draft, g', hc, ha⟩
    · have hsame : (g.create d none).graph = g := by rw [he]
      rw [Graph.createAll, List.foldl_cons, hsame]
      exact ih h
    · have hnext : (g.create d none).graph = g' := by rw [hc]
      rw [Graph.createAll, List.foldl_cons, hnext]
      exact ih (.add h ha)

theorem extendAll_append (g : Graph) (ds more : List Declaration) :
    g.extendAll (ds ++ more) = g.extendAll ds >>= fun next => next.extendAll more :=
  List.foldlM_append

theorem extendAll_append_eq_ok {ds more : List Declaration} :
    g.extendAll (ds ++ more) = .ok g' ↔ ∃ next, g.extendAll ds = .ok next ∧
      next.extendAll more = .ok g' := by
  rw [extendAll_append, bind_eq_ok]

theorem extendAll_cons_eq_ok {d : Declaration} {ds : List Declaration} :
    g.extendAll (d :: ds) = .ok g' ↔ ∃ next, g.extend d = .ok next ∧
      next.extendAll ds = .ok g' := by
  rw [extendAll, List.foldlM_cons, bind_eq_ok]
  rfl

/-- What is built from declarations is left by their creations. -/
theorem createAll_of_extendAll {ds : List Declaration} (h : g.extendAll ds = .ok g') :
    g.createAll ds = g' := by
  induction ds generalizing g with
  | nil => exact pure_eq_ok.mp h
  | cons d rest ih =>
    obtain ⟨next, hnext, hrest⟩ := extendAll_cons_eq_ok.mp h
    simp only [extend, bind_eq_ok, pure_eq_ok] at hnext
    obtain ⟨l, -, line, -, rfl⟩ := hnext
    exact ih hrest

theorem network_eq_ok {r : Request} {n : Network} : r.network = .ok n ↔
    ∃ phase elementSize ds, Phase.ofValue r.phase = .ok phase ∧
      r.elementSizes = .ok elementSize ∧ r.declarations = .ok ds ∧ n.label = r.label ∧
      (empty phase elementSize).extendAll (ds.filter fun d => d.inPhase phase) = .ok n.graph := by
  simp only [Request.network, Request.start, bind_eq_ok, pure_eq_ok, lift_eq_ok, Prod.exists,
    Prod.mk.injEq]
  constructor
  · rintro ⟨g, _, ⟨phase, hphase, elementSize, hsize, ds, hds, rfl, rfl⟩, g', hg, rfl⟩
    exact ⟨phase, elementSize, ds, hphase, hsize, hds, rfl, hg⟩
  · rintro ⟨phase, elementSize, ds, hphase, hsize, hds, hlabel, hg⟩
    exact ⟨_, ds, ⟨phase, hphase, elementSize, hsize, ds, hds, rfl, rfl⟩, n.graph, hg,
      by rw [← hlabel]⟩

theorem reached_of_network {r : Request} {n : Network} (h : r.network = .ok n) :
    n.graph.Reached := by
  obtain ⟨phase, elementSize, ds, -, -, -, -, hg⟩ := network_eq_ok.mp h
  rw [← createAll_of_extendAll hg]
  exact (Reached.empty phase elementSize).createAll _

/-! ## History -/

/-- The point of a graph's history at which its layer at an index was added. -/
structure Added (g : Graph) (k : Nat) (l : Layer) (before : Graph) (draft : Draft)
    (after : Graph) : Prop where
  reached : before.Reached
  layers : before.layers = g.layers.take k
  adds : before.Adds l draft after
  since : after.Extends g

/-- Each layer was added at some point. -/
theorem Reached.history (h : g.Reached) (hl : g.layers[k]? = some l) :
    ∃ before draft after, g.Added k l before draft after := by
  induction h with
  | empty => simp [Graph.empty] at hl
  | @add g₁ g₂ l₁ draft₁ h₁ ha ih =>
    rw [ha.layers] at hl
    by_cases hk : k < g₁.layers.length
    · rw [List.getElem?_append_left hk] at hl
      obtain ⟨before, draft, after, hb⟩ := ih hl
      refine ⟨before, draft, after, hb.reached, ?_, hb.adds, hb.since.trans ha.extends⟩
      rw [ha.layers, List.take_append_of_le_length (Nat.le_of_lt hk), hb.layers]
    · have hle : g₁.layers.length ≤ k := Nat.le_of_not_lt hk
      rw [List.getElem?_append_right hle] at hl
      rw [List.getElem?_singleton] at hl
      obtain ⟨hk0, hl⟩ := Option.ite_none_right_eq_some.mp hl
      obtain rfl := Option.some.inj hl
      have hk' : k = g₁.layers.length := by omega
      refine ⟨g₁, draft₁, g₂, h₁, ?_, ha, .refl g₂⟩
      rw [ha.layers, hk', List.take_left]

theorem Reached.history_of_mem (h : g.Reached) (hl : l ∈ g.layers) :
    ∃ k before draft after, g.layers[k]? = some l ∧ g.Added k l before draft after := by
  obtain ⟨k, hk⟩ := List.mem_iff_getElem?.mp hl
  obtain ⟨before, draft, after, hb⟩ := h.history hk
  exact ⟨k, before, draft, after, hk, hb⟩

end NetFootprint.Graph
