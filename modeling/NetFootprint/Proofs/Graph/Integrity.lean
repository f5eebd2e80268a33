import NetFootprint.Proofs.Graph.Index
import NetFootprint.Proofs.Graph.Session

/-!
# Sessions keep arena and index

However a session is used, its graph stays orderly, and it only grows: what a name led to once, it
leads to for good, no blob leaves the device, and the number of axes is settled once. A layer that
was built early is held by the session until it is appended, so the session has to know that its
outputs are there.
-/

namespace NetFootprint

namespace Graph

variable {g g' g'' : Graph} {l : Layer} {fresh : List Nat} {rank : Option Int}

/-- A graph grew, and nothing left the device meanwhile. -/
structure Persists (g g' : Graph) : Prop where
  grown : g.Extends g'
  resident : ∀ ref < g.blobs.length, (g.blob ref).resident = true → (g'.blob ref).resident = true

namespace Persists

theorem refl (g : Graph) : g.Persists g where
  grown := .refl g
  resident _ _ h := h

theorem trans (h : g.Persists g') (h' : g'.Persists g'') : g.Persists g'' where
  grown := h.grown.trans h'.grown
  resident ref href hr :=
    h'.resident ref (Nat.lt_of_lt_of_le href h.grown.size) (h.resident ref href hr)

theorem placing {more : List Blob} (hblobs : g'.blobs = g.blobs ++ more)
    (hphase : g'.phase = g.phase) (hregistered : g'.registered = g.registered)
    (hlayers : g'.layers = g.layers) (hsize : g'.elementSize = g.elementSize) :
    g.Persists g' where
  grown := by
    constructor
    · exact hphase
    · rw [hblobs, List.length_append]
      exact Nat.le_add_right _ _
    · intro ref href
      rw [blob_of_append hblobs, if_pos href]
    · exact ⟨[], by rw [hregistered, List.append_nil]⟩
    · exact ⟨[], by rw [hlayers, List.append_nil]⟩
    · intro size h
      rwa [hsize]
  resident ref href h := by rwa [blob_of_append hblobs, if_pos href]

theorem foldl_mark (g : Graph) (refs : List Nat) : g.Persists (refs.foldl mark g) where
  grown := by
    constructor
    · rw [foldl_mark_eq]
    · rw [length_blobs_foldl_mark]
    · intro ref _
      exact fixed_blob_foldl_mark refs ref
    · exact ⟨[], by rw [foldl_mark_eq, List.append_nil]⟩
    · exact ⟨[], by rw [foldl_mark_eq, List.append_nil]⟩
    · intro size h
      rwa [foldl_mark_eq]
  resident ref href h := by rw [resident_foldl_mark refs href, h, Bool.true_or]

theorem accepted (g : Graph) (l : Layer) (fresh : List Nat) (rank : Option Int) :
    g.Persists (g.accepted l fresh rank) where
  grown := by
    constructor
    · exact phase_accepted
    · rw [length_blobs_accepted]
    · intro ref _
      exact fixed_blob_accepted ref
    · rw [registered_accepted]
      exact List.prefix_append _ _
    · rw [layers_accepted]
      exact List.prefix_append _ _
    · intro size h
      rw [elementSize_accepted]
      exact elementSize_withRank h
  resident ref href h := by rw [resident_accepted href, h, Bool.true_or]

end Persists

/-- What a graph shows of a later one: a name that leads to a blob leads to it for good, with the
same id, extents, element size and flags for values and gradients; a blob on the device stays there;
and the element size, once known, is settled. -/
structure Lasts (g g' : Graph) : Prop where
  found : ∀ name ref, g.find? name = some ref → g'.find? name = some ref ∧
    (g'.blob ref).id = (g.blob ref).id ∧ (g'.blob ref).shape = (g.blob ref).shape ∧
    (g'.blob ref).elementSize = (g.blob ref).elementSize ∧
    (g'.blob ref).forward = (g.blob ref).forward ∧ (g'.blob ref).gradient = (g.blob ref).gradient
  resident : ∀ ref < g.blobs.length, (g.blob ref).resident = true → (g'.blob ref).resident = true
  elementSize : ∀ size, g.elementSize = some size → g'.elementSize = some size
  spatialRank : ∀ n, g.spatialRank = some n → g'.spatialRank = some n

theorem Orderly.lasts (h : g.Orderly) (h' : g'.Orderly) (hg : g.Persists g') : g.Lasts g' where
  found := by
    intro name ref hfind
    obtain ⟨hmem, hname⟩ := h.find?_iff.mp hfind
    have hfixed := hg.grown.fixed ref (h.placed ref hmem)
    obtain ⟨i, hi⟩ := List.mem_iff_getElem?.mp hmem
    have hi' : g'.registered[i]? = some ref := by
      obtain ⟨more, hmore⟩ := hg.grown.registered
      rw [← hmore, List.getElem?_append_left (List.getElem?_eq_some_iff.mp hi).1]
      exact hi
    refine ⟨h'.find?_iff.mpr ⟨List.mem_of_getElem? hi', ?_⟩, ?_, ?_, ?_, ?_, ?_⟩
    · rw [Blob.of_fixed Blob.name hfixed, hname]
    · rw [(h.id ref i).mpr hi, (h'.id ref i).mpr hi']
    · exact Blob.of_fixed Blob.shape hfixed
    · exact Blob.of_fixed Blob.elementSize hfixed
    · exact Blob.of_fixed Blob.forward hfixed
    · exact Blob.of_fixed Blob.gradient hfixed
  resident := hg.resident
  elementSize := hg.grown.elementSize
  spatialRank _ hn := by
    obtain ⟨size, hsize, rfl⟩ := Option.map_eq_some_iff.mp hn
    rw [Graph.spatialRank, hg.grown.elementSize size hsize]
    rfl

theorem Reads.lt (hplaced : ∀ ref ∈ g.registered, ref < g.blobs.length) {d : Declaration}
    {inputs : Option (List (Option Nat))} {refs : List (Option Nat)} (hreads : g.Reads d inputs refs)
    (hheld : ∀ given, inputs = some given → ∀ ref, some ref ∈ given → ref < g.blobs.length) :
    ∀ ref, some ref ∈ refs → ref < g.blobs.length := by
  cases inputs with
  | some given => exact hreads ▸ hheld given rfl
  | none =>
    obtain ⟨places, hplaces, rfl⟩ := hreads
    intro ref href
    obtain ⟨name, -, found, hsome, hfind⟩ :=
      exists_of_mem_right (found_of_resolveInputs hplaces) href
    obtain rfl := Option.some.inj hsome
    exact hplaced _ (mem_registered_of_find? hfind)

theorem lt_of_build (hplaced : ∀ ref ∈ g.registered, ref < g.blobs.length) {d : Declaration}
    {inputs : Option (List (Option Nat))} {built : Graph} (hb : g.build d inputs = .ok (l, built))
    (hheld : ∀ given, inputs = some given → ∀ ref, some ref ∈ given → ref < g.blobs.length) :
    ∀ ref ∈ l.outputs, ref < built.blobs.length := by
  obtain ⟨t, refs, draft, -, hreads, hd, rfl, rfl⟩ := build_ok hb
  have hin := hreads.lt hplaced hheld
  have hkept : ∀ i, .kept i ∈ draft.outputs →
      ∃ ref < g.blobs.length, refs[i]? = some (some ref) := by
    intro i hi
    obtain ⟨top, -, hmakes⟩ := exists_of_mem_right (Site.layer_outputs hd) hi
    cases hmakes with
    | kept _ src _ hsrc _ =>
      simp only [siteOf, List.getElem?_map, Option.map_eq_some_iff] at hsrc
      obtain ⟨input, hinput, ref, rfl, -⟩ := hsrc
      exact ⟨ref, hin ref (List.mem_of_getElem? hinput), hinput⟩
  have hplaces : List.Forall₂ (g.Placed (g.grown draft) refs) draft.outputs
      (placesFrom refs g.blobs.length draft.outputs) :=
    placed_placesFrom draft.outputs g.blobs (Nat.le_refl _) rfl hkept
  intro ref href
  obtain ⟨o, -, hat⟩ := exists_of_mem_right hplaces href
  cases hat with
  | made _ _ _ hsize _ => exact hsize
  | kept _ _ _ hold =>
    rw [Graph.grown, List.length_append]
    exact Nat.lt_add_right _ hold

theorem persists_build {d : Declaration} {inputs : Option (List (Option Nat))} {built : Graph}
    (hb : g.build d inputs = .ok (l, built)) : g.Persists built := by
  obtain ⟨t, refs, draft, -, -, -, -, rfl⟩ := build_ok hb
  exact .placing rfl rfl rfl rfl rfl

theorem registered_build {d : Declaration} {inputs : Option (List (Option Nat))} {built : Graph}
    (hb : g.build d inputs = .ok (l, built)) : built.registered = g.registered ++ [] := by
  obtain ⟨t, refs, draft, -, -, -, -, rfl⟩ := build_ok hb
  exact (List.append_nil _).symm

theorem Orderly.build (h : g.Orderly) {d : Declaration} {inputs : Option (List (Option Nat))}
    {built : Graph} (hb : g.build d inputs = .ok (l, built))
    (htext : ∀ top ∈ d.outputs, ∃ name, top = .text name) : built.Orderly := by
  obtain ⟨t, refs, draft, -, -, hd, -, rfl⟩ := build_ok hb
  exact h.grown (id_name_of_made hd htext)

end Graph

/-- A call speaks of blobs by texts, and a blob that it brings along belongs to no graph. -/
def Call.Plain : Call → Prop
  | .describe b => b.id = none ∧ ∃ name, b.name = .text name
  | .create d _ | .build d _ => ∀ top ∈ d.outputs, ∃ name, top = .text name
  | .mark _ | .append _ | .commit _ => True

namespace Session

variable {s : Session}

/-- The registered blobs of a session are there, and the layers that were built for it have their
inputs and their outputs there. -/
structure Housed (s : Session) : Prop where
  placed : ∀ ref ∈ s.graph.registered, ref < s.graph.blobs.length
  complete : s.Complete
  outputs : ∀ l ∈ s.layers, ∀ ref ∈ l.outputs, ref < s.graph.blobs.length

theorem Housed.start (phase : Phase) (elementSize : Option (List Float)) :
    (start phase elementSize).Housed where
  placed := by simp [Session.start, Graph.empty]
  complete := by simp [Complete, Session.start]
  outputs := by simp [Session.start]

theorem Housed.grow (h : s.Housed) {g : Graph} (hg : s.graph.Persists g) {more : List Nat}
    (hr : g.registered = s.graph.registered ++ more) (hmore : ∀ ref ∈ more, ref < g.blobs.length) :
    ({ s with graph := g } : Session).Housed where
  placed ref href := by
    rcases List.mem_append.mp (hr ▸ href) with hold | hnew
    · exact Nat.lt_of_lt_of_le (h.placed ref hold) hg.grown.size
    · exact hmore ref hnew
  complete := h.complete
  outputs l hl ref href := Nat.lt_of_lt_of_le (h.outputs l hl ref href) hg.grown.size

theorem Housed.hold (h : s.Housed) {l : Layer} (hl : l.complete = true)
    (houtputs : ∀ ref ∈ l.outputs, ref < s.graph.blobs.length) :
    ({ s with layers := s.layers ++ [l] } : Session).Housed where
  placed := h.placed
  complete other hother := by
    rcases List.mem_append.mp hother with hold | hlast
    · exact h.complete other hold
    · rwa [List.mem_singleton.mp hlast]
  outputs other hother := by
    rcases List.mem_append.mp hother with hold | hlast
    · exact h.outputs other hold
    · rwa [List.mem_singleton.mp hlast]

theorem lt_of_holds {inputs : Option (List Nat)} (h : s.holds inputs = true) :
    ∀ given, slots inputs = some given → ∀ ref, some ref ∈ given → ref < s.graph.blobs.length := by
  intro given hgiven ref href
  obtain ⟨places, rfl, rfl⟩ := Option.map_eq_some_iff.mp hgiven
  have hmem : ref ∈ places := by simpa using href
  simpa using List.all_eq_true.mp h ref hmem

theorem Housed.lt_of_build (h : s.Housed) {d : Declaration} {inputs : Option (List Nat)}
    {l : Layer} {built : Graph} (hheld : s.holds inputs = true)
    (hb : s.graph.build d (slots inputs) = .ok (l, built)) :
    ∀ ref ∈ l.outputs, ref < built.blobs.length :=
  Graph.lt_of_build h.placed hb (lt_of_holds hheld)

/-- Any call leaves a housed session, and its graph has at most grown. -/
theorem Housed.step (h : s.Housed) (c : Call) :
    (s.step c).1.Housed ∧ s.graph.Persists (s.step c).1.graph := by
  have hmoves := h.complete.moves c
  generalize s.step c = outcome at hmoves ⊢
  -- registering a layer takes some of its outputs only
  have haccepted {g : Graph} {l : Layer} {fresh : List Nat} {rank : Option Int}
      (ha : g.approve l = .ok (fresh, rank)) (hout : ∀ ref ∈ l.outputs, ref < g.blobs.length) :
      ∀ ref ∈ fresh, ref < (g.accepted l fresh rank).blobs.length := by
    intro ref href
    rw [(Graph.approve_ok ha).2.new] at href
    rw [Graph.length_blobs_accepted]
    exact hout ref (List.mem_of_mem_filter href)
  cases hmoves with
  | refused => exact ⟨h, .refl _⟩
  | described b =>
    have hg : s.graph.Persists (s.graph.place b).2 := .placing rfl rfl rfl rfl rfl
    exact ⟨h.grow hg (List.append_nil _).symm (by simp), hg⟩
  | marked _ refs =>
    have hg := Graph.Persists.foldl_mark s.graph refs
    refine ⟨h.grow hg ?_ (List.forall_mem_nil _), hg⟩
    rw [Graph.foldl_mark_eq, List.append_nil]
  | @built d inputs l built hheld hb =>
    have hg := Graph.persists_build hb
    have hgrown := h.grow hg (Graph.registered_build hb) (List.forall_mem_nil _)
    exact ⟨hgrown.hold (Graph.complete_of_build hb (allGiven_slots _)) (h.lt_of_build hheld hb), hg⟩
  | @created d inputs l built fresh rank hheld hb ha =>
    have hg := (Graph.persists_build hb).trans (.accepted built l fresh rank)
    have hout := h.lt_of_build hheld hb
    have hr : (built.accepted l fresh rank).registered = s.graph.registered ++ fresh := by
      rw [Graph.registered_accepted, Graph.registered_build hb, List.append_nil]
    have hgrown := h.grow hg hr (haccepted ha hout)
    refine ⟨hgrown.hold (Graph.complete_of_build hb (allGiven_slots _)) ?_, hg⟩
    rwa [Graph.length_blobs_accepted]
  | @appended handle l fresh rank hl ha =>
    have hg := Graph.Persists.accepted s.graph l fresh rank
    exact ⟨h.grow hg Graph.registered_accepted (haccepted ha (h.outputs l hl)), hg⟩

/-- The graph of a session is orderly, and the layers that were built for it have their inputs and
their outputs there. -/
structure Orderly (s : Session) : Prop where
  graph : s.graph.Orderly
  housed : s.Housed

theorem Orderly.start (phase : Phase) (elementSize : Option (List Float)) :
    (start phase elementSize).Orderly where
  graph := .empty phase elementSize
  housed := .start phase elementSize

/-- Any call leaves an orderly session, and its graph has at most grown. -/
theorem Orderly.step (h : s.Orderly) {c : Call} (hc : c.Plain) :
    (s.step c).1.Orderly ∧ s.graph.Persists (s.step c).1.graph := by
  obtain ⟨hhoused, hg⟩ := h.housed.step c
  refine ⟨⟨?_, hhoused⟩, hg⟩
  have hmoves := h.housed.complete.moves c
  clear hhoused hg
  generalize s.step c = outcome at hmoves ⊢
  cases hmoves with
  | refused => exact h.graph
  | described b =>
    refine h.graph.placing rfl ?_ rfl rfl rfl
    intro b' hb'
    rw [List.mem_singleton.mp hb']
    exact hc
  | marked _ refs => exact h.graph.foldl_mark refs
  | built _ hb => exact h.graph.build hb hc
  | created hheld hb ha =>
    exact (h.graph.build hb hc).accepted ha (h.housed.lt_of_build hheld hb)
  | appended hl ha => exact h.graph.accepted ha (h.housed.outputs _ hl)

theorem Orderly.run (h : s.Orderly) {calls : List Call} (hcalls : ∀ c ∈ calls, c.Plain) :
    (s.run calls).Orderly ∧ s.graph.Persists (s.run calls).graph := by
  induction calls generalizing s with
  | nil => exact ⟨h, .refl _⟩
  | cons c rest ih =>
    obtain ⟨hc, hrest⟩ := List.forall_mem_cons.mp hcalls
    obtain ⟨hnext, hg⟩ := h.step hc
    obtain ⟨hend, hg'⟩ := ih hnext hrest
    exact ⟨hend, hg.trans hg'⟩

/-- However a session was used so far and is used from then on, arena and index fit together, and
what its graph shows lasts. -/
theorem run_indexed_lasts (phase : Phase) (elementSize : Option (List Float))
    (calls later : List Call) (h : ∀ c ∈ calls ++ later, c.Plain) :
    ((start phase elementSize).run calls).graph.Indexed ∧
      ((start phase elementSize).run calls).graph.Lasts
        ((start phase elementSize).run (calls ++ later)).graph := by
  obtain ⟨hcalls, hlater⟩ := List.forall_mem_append.mp h
  obtain ⟨hnow, -⟩ := (Orderly.start phase elementSize).run hcalls
  obtain ⟨hend, hg⟩ := hnow.run hlater
  have hsplit : (start phase elementSize).run (calls ++ later) =
      ((start phase elementSize).run calls).run later := List.foldl_append
  rw [hsplit]
  exact ⟨hnow.graph.indexed, hnow.graph.lasts hend.graph hg⟩

def plainLayer (type name : String) (inputs : List String) (output : String) : Declaration where
  type := type
  name := name
  inputs := inputs
  outputs := [.text output]
  params := []
  included := []
  excluded := []

/-- A ReLU on a blob from outside is built before a softmax that is registered, and it is registered
after it. -/
def lateReLU : List Call :=
  [.describe { (default : Blob) with name := .text "noise", shape := [1, 2, 3, 4] },
    .build (plainLayer "ReLU" "relu" ["noise"] "y") (some [0]),
    .create (plainLayer "Softmax" "softmax" ["noise"] "p") (some [0]), .append 0]

theorem run_indexed_lasts_lateReLU :
    (∀ c ∈ lateReLU ++ [.append 0, .mark 0], c.Plain) ∧
      ((start .train none).run lateReLU).graph.Indexed ∧
      ((start .train none).run lateReLU).graph.find? (.text "y") = some 1 ∧
      ((start .train none).run lateReLU).graph.Lasts
        ((start .train none).run (lateReLU ++ [.append 0, .mark 0])).graph := by
  have h : ∀ c ∈ lateReLU ++ [.append 0, .mark 0], c.Plain := by
    have hy : ∀ top ∈ [Value.text "y"], ∃ name, top = .text name :=
      fun top htop => ⟨"y", List.mem_singleton.mp htop⟩
    have hp : ∀ top ∈ [Value.text "p"], ∃ name, top = .text name :=
      fun top htop => ⟨"p", List.mem_singleton.mp htop⟩
    simp only [lateReLU, List.cons_append, List.nil_append, List.forall_mem_cons]
    exact ⟨⟨rfl, "noise", rfl⟩, hy, hp, trivial, trivial, trivial, by simp⟩
  obtain ⟨hindexed, hlasts⟩ := run_indexed_lasts .train none lateReLU [.append 0, .mark 0] h
  exact ⟨h, hindexed, by decide +kernel, hlasts⟩

end Session

end NetFootprint
