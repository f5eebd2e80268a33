import NetFootprint.Proofs.Graph.Ownership
import NetFootprint.Proofs.Layer.Sizing

/-!
# Extents, axes and element sizes in reached graphs

Every blob was born in one step of the history, and what held of it then holds for good. So each
extent is positive, a scalar has a single element, every other blob has the axes of the network, all
have an element size along each axis unless a scalar lent its own, and gradients are kept in training
only.
-/

namespace NetFootprint

theorem Blob.spatialRank_of_shaped {b : Blob} (hs : b.isScalar = false) :
    b.spatialRank = (b.shape.length : Int) - 2 := by
  rw [spatialRank, hs]
  rfl

theorem Blob.Fits.of_fixed {b c : Blob} {n : Nat} (h : b.fixed = c.fixed) (hc : c.Fits n) :
    b.Fits n := by
  rwa [Blob.Fits, Blob.of_fixed Blob.isScalar h,
    Blob.of_fixed Blob.shape h, Blob.of_fixed Blob.elementSize h]

namespace Graph

variable {g g' : Graph} {l : Layer} {draft : Draft} {ref k n : Nat}

theorem Extends.spatialRank (h : g.Extends g') (hn : g.spatialRank = some n) :
    g'.spatialRank = some n := by
  obtain ⟨size, hsize, rfl⟩ := Option.map_eq_some_iff.mp hn
  rw [Graph.spatialRank, h.elementSize size hsize]
  rfl

/-! ## One step -/

theorem Adds.extents_new (h : g.Adds l draft g') (href : ref ∈ l.outputs)
    (hnew : g.blobs.length ≤ ref) : ∀ e ∈ (g'.blob ref).shape, 1 ≤ e := by
  obtain ⟨k, b, -, hk, -, hb⟩ := h.sketch href hnew
  obtain ⟨hpos, rfl⟩ := Site.newBlob_eq_ok.mp hk
  rw [Blob.of_fixed Blob.shape hb]
  intro e he
  obtain ⟨whole, hw, rfl⟩ := List.mem_map.mp he
  have hlt := hpos whole hw
  omega

theorem Adds.scalar_new (h : g.Adds l draft g') (href : ref ∈ l.outputs)
    (hnew : g.blobs.length ≤ ref) (hs : (g'.blob ref).isScalar = true) :
    (g'.blob ref).shape = [1] ∧ (g'.blob ref).elementSize = [] := by
  obtain ⟨k, b, -, hk, hscalar, hb⟩ := h.sketch href hnew
  obtain ⟨-, rfl⟩ := Site.newBlob_eq_ok.mp hk
  rw [Blob.of_fixed Blob.isScalar hb] at hs
  rw [Blob.of_fixed Blob.shape hb,
    Blob.of_fixed Blob.elementSize hb]
  obtain ⟨hshape, hnone⟩ := hscalar hs
  have hks : k.scalar = true := hs
  simp [Site.blobOf, Site.elementSizeOf, hshape, hnone, hks, Blob.unitElementSize]

theorem Adds.inputs_nil (h : g.Adds l draft g') (hg : g.registered = []) : l.inputs = [] := by
  apply List.eq_nil_iff_forall_not_mem.mpr
  intro input hin
  obtain ⟨name, -, ref, -, hfind⟩ := exists_of_mem_right h.found hin
  have hmem := mem_registered_of_find? hfind
  rw [hg] at hmem
  cases hmem

theorem Adds.first (h : g.Adds l draft g') (hg : g.registered = []) :
    l.outputs ≠ [] ∧ ∀ ref ∈ l.outputs, g.blobs.length ≤ ref ∧
      (g'.blob ref).isScalar = false ∧ 2 ≤ (g'.blob ref).shape.length := by
  have hin : (g.siteOf l.declaration l.inputs).inputs = [] := by
    rw [siteOf, h.inputs_nil hg]
    rfl
  obtain ⟨hne, hmade⟩ := Site.layer_unfed h.drafted hin
  refine ⟨fun hnil => hne ?_, fun ref href => ?_⟩
  · have hlen := h.placed.length_eq
    rw [hnil] at hlen
    exact List.length_eq_zero_iff.mp hlen
  · obtain ⟨o, ho, hat⟩ := exists_of_mem_right h.placed href
    obtain ⟨b, rfl, hs, hlen⟩ := hmade o ho
    cases hat with
    | made _ _ hnew _ hb =>
      rw [Blob.of_fixed Blob.isScalar hb, Blob.of_fixed Blob.shape hb]
      exact ⟨hnew, hs, hlen⟩

/-- A layer that is added to a graph without blobs settles the number of axes. -/
theorem Adds.elementSize_ne_none (h : g.Adds l draft g')
    (hg : g.elementSize = none → g.registered = []) : g'.elementSize ≠ none := by
  intro hn
  have hnone : g.elementSize = none := by
    cases he : g.elementSize with
    | none => rfl
    | some size => simp [h.known size he] at hn
  obtain ⟨hne, hall⟩ := h.first (hg hnone)
  obtain ⟨ref, rest, hout⟩ := List.exists_cons_of_ne_nil hne
  have href : ref ∈ l.outputs := by simp [hout]
  obtain ⟨hnew, hs, -⟩ := hall ref href
  have hrank := (h.axes ref href hnew hs).1
  simp [spatialRank, hn] at hrank

/-! ## Runs -/

/-- As long as the number of axes is not known there are no blobs. -/
theorem Reached.registered_nil (h : g.Reached) (hn : g.elementSize = none) :
    g.registered = [] := by
  induction h with
  | empty => rfl
  | add _ ha ih => exact absurd hn (ha.elementSize_ne_none ih)

theorem Adds.rank_new (h : g.Reached) (ha : g.Adds l draft g') (href : ref ∈ l.outputs)
    (hnew : g.blobs.length ≤ ref) (hs : (g'.blob ref).isScalar = false) :
    ∃ n, g'.spatialRank = some n ∧ (g'.blob ref).shape.length = n + 2 := by
  obtain ⟨hrank, hknown⟩ := ha.axes ref href hnew hs
  have haxes := Blob.spatialRank_of_shaped hs
  cases hn : g.elementSize with
  | some size =>
    have hsize : g.spatialRank = some size.length := by rw [spatialRank, hn]; rfl
    have hlen := hknown size.length hsize
    exact ⟨size.length, ha.extends.spatialRank hsize, by omega⟩
  | none =>
    obtain ⟨-, hall⟩ := ha.first (h.registered_nil hn)
    obtain ⟨-, -, hlen⟩ := hall ref href
    exact ⟨_, hrank, by omega⟩

theorem Added.new_of_owned {before after : Graph} (hb : g.Added k l before draft after)
    (h : g.Reached) (hk : g.layers[k]? = some l) (hown : ref ∈ g.ownedRefs l) :
    before.blobs.length ≤ ref := by
  by_contra hlt
  -- an older blob has another owner
  have hold := hb.reached.mem_registered.mpr (Nat.lt_of_not_le hlt)
  obtain ⟨-, j, hjk, l', hj, hown'⟩ := hb.ownedBefore hold
  have hp : l'.producer = l.producer :=
    Option.some.inj ((mem_ownedRefs.mp hown').2.symm.trans (mem_ownedRefs.mp hown).2)
  have heq := h.producer_inj hj hk hp
  omega

theorem Reached.born (h : g.Reached) (href : ref ∈ g.registered) :
    ∃ k l before draft after, g.layers[k]? = some l ∧ g.Added k l before draft after ∧
      ref ∈ g.ownedRefs l ∧ before.blobs.length ≤ ref := by
  obtain ⟨l, hl, hown⟩ := h.exists_owner href
  obtain ⟨k, before, draft, after, hk, hb⟩ := h.history_of_mem hl
  exact ⟨k, l, before, draft, after, hk, hb, hown, hb.new_of_owned h hk hown⟩

/-- What every step makes of its new blobs holds of all blobs. -/
theorem Reached.forall_born {P : Blob → Prop} (h : g.Reached)
    (hP : ∀ b c : Blob, b.fixed = c.fixed → P c → P b)
    (hstep : ∀ (before : Graph) (l : Layer) (draft : Draft) (after : Graph), before.Reached →
      before.Adds l draft after → after.Extends g →
      ∀ ref ∈ l.outputs, before.blobs.length ≤ ref → P (after.blob ref)) :
    ∀ ref ∈ g.registered, P (g.blob ref) := by
  intro ref href
  obtain ⟨k, l, before, draft, after, -, hb, hown, hnew⟩ := h.born href
  have hout := (mem_ownedRefs.mp hown).1
  have hfixed := hb.since.fixed ref (hb.adds.lt_of_mem hout)
  exact hP _ _ hfixed (hstep before l draft after hb.reached hb.adds hb.since ref hout hnew)

theorem Reached.extents (h : g.Reached) :
    ∀ ref ∈ g.registered, ∀ e ∈ (g.blob ref).shape, 1 ≤ e := by
  refine h.forall_born (P := fun b => ∀ e ∈ b.shape, 1 ≤ e) ?_ ?_
  · intro b c hbc hc
    rwa [Blob.of_fixed Blob.shape hbc]
  · intro before l draft after _ ha _ ref hout hnew
    exact ha.extents_new hout hnew

theorem Reached.scalar (h : g.Reached) :
    ∀ ref ∈ g.registered, (g.blob ref).isScalar = true →
      (g.blob ref).shape = [1] ∧ (g.blob ref).elementSize = [] := by
  refine h.forall_born
    (P := fun b => b.isScalar = true → b.shape = [1] ∧ b.elementSize = []) ?_ ?_
  · intro b c hbc hc
    rwa [Blob.of_fixed Blob.shape hbc,
      Blob.of_fixed Blob.isScalar hbc,
      Blob.of_fixed Blob.elementSize hbc]
  · intro before l draft after _ ha _ ref hout hnew
    exact ha.scalar_new hout hnew

theorem Reached.rank (h : g.Reached) :
    ∀ ref ∈ g.registered, (g.blob ref).isScalar = false →
      ∃ n, g.spatialRank = some n ∧ (g.blob ref).shape.length = n + 2 := by
  refine h.forall_born
    (P := fun b => b.isScalar = false →
      ∃ n, g.spatialRank = some n ∧ b.shape.length = n + 2) ?_ ?_
  · intro b c hbc hc
    rwa [Blob.of_fixed Blob.shape hbc,
      Blob.of_fixed Blob.isScalar hbc]
  · intro before l draft after hr ha hsince ref hout hnew hs
    obtain ⟨n, hn, hlen⟩ := ha.rank_new hr hout hnew hs
    exact ⟨n, hsince.spatialRank hn, hlen⟩

theorem Reached.training_of_gradient (h : g.Reached) :
    ∀ ref ∈ g.registered, (g.blob ref).gradient = true → g.training = true := by
  refine h.forall_born (P := fun b => b.gradient = true → g.training = true) ?_ ?_
  · intro b c hbc hc
    rwa [Blob.of_fixed Blob.gradient hbc]
  · intro before l draft after _ ha hsince ref hout hnew hneeds
    obtain ⟨k, b, -, hk, -, hb⟩ := ha.sketch hout hnew
    obtain ⟨-, rfl⟩ := Site.newBlob_eq_ok.mp hk
    rw [Blob.of_fixed Blob.gradient hb] at hneeds
    have htrain : before.training = true := (Bool.and_eq_true_iff.mp hneeds).2
    rw [training, hsince.phase, ha.phase]
    exact htrain

/-! ## Inputs of a step, seen from the end -/

theorem Added.input_at {before after : Graph} {i : Nat} {src : Blob}
    (hb : g.Added k l before draft after)
    (h : (before.siteOf l.declaration l.inputs).inputs[i]? = some (some src)) :
    ∃ r ∈ before.registered, l.inputs[i]? = some (some r) ∧
      (g.blob r).fixed = src.fixed := by
  simp only [siteOf, List.getElem?_map, Option.map_eq_some_iff] at h
  obtain ⟨input, hinput, r, rfl, rfl⟩ := h
  obtain ⟨name, -, r', hsome, hfind⟩ :=
    exists_of_mem_right hb.adds.found (List.mem_of_getElem? hinput)
  obtain rfl : r = r' := Option.some.inj hsome
  have hmem := mem_registered_of_find? hfind
  refine ⟨r, hmem, hinput, ?_⟩
  exact (hb.adds.extends.trans hb.since).fixed r (hb.reached.mem_registered.mp hmem)

theorem Added.first_input {before after : Graph} {src : Blob} {rest : List (Option Blob)}
    (hb : g.Added k l before draft after)
    (h : (before.siteOf l.declaration l.inputs).inputs = some src :: rest) :
    ∃ r ∈ before.registered, l.inputs[0]? = some (some r) ∧ (g.blob r).fixed = src.fixed := by
  apply hb.input_at
  rw [h]
  rfl

theorem Added.own_blob {before after : Graph} (hb : g.Added k l before draft after)
    (h : g.Reached) (hk : g.layers[k]? = some l) (hown : ref ∈ g.ownedRefs l) :
    ∃ b, .made b ∈ draft.outputs ∧ (g.blob ref).fixed = b.fixed := by
  have hout := (mem_ownedRefs.mp hown).1
  obtain ⟨-, b, hmade, -, -, hfixed⟩ := hb.adds.sketch hout (hb.new_of_owned h hk hown)
  exact ⟨b, hmade, (hb.since.fixed ref (hb.adds.lt_of_mem hout)).trans hfixed⟩

end Graph

end NetFootprint
