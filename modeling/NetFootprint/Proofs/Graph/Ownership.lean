import Mathlib.Data.List.Nodup
import NetFootprint.Proofs.Graph.Run

/-!
# Who made what

In a reached graph the blobs that the layers made, one layer after the other, are the registered
blobs in the order of their ids: none is missing, and none stands there twice. An input was always
made by an earlier layer.
-/

namespace NetFootprint.Graph

variable {g g' : Graph} {l l' : Layer} {draft : Draft} {ref k : Nat}

def ownedRefs (g : Graph) (l : Layer) : List Nat :=
  l.outputs.filter (fun ref => (g.blob ref).producer == some l.producer)

theorem ownedBy_eq (g : Graph) (l : Layer) : g.ownedBy l = (g.ownedRefs l).map g.blob := by
  rw [ownedBy, outputsOf, ownedRefs, List.filter_map]
  rfl

theorem mem_ownedRefs :
    ref ∈ g.ownedRefs l ↔ ref ∈ l.outputs ∧ (g.blob ref).producer = some l.producer := by
  simp [ownedRefs]

/-! ## One step -/

theorem Adds.lt_of_mem (h : g.Adds l draft g') (href : ref ∈ l.outputs) :
    ref < g'.blobs.length := by
  obtain ⟨o, -, hat⟩ := exists_of_mem_right h.placed href
  cases hat with
  | made b _ _ hsize _ => exact hsize
  | kept i _ _ hold => exact Nat.lt_of_lt_of_le hold h.extends.size

theorem Adds.sketch (h : g.Adds l draft g') (href : ref ∈ l.outputs)
    (hnew : g.blobs.length ≤ ref) :
    ∃ k b, .made b ∈ draft.outputs ∧ (g.siteOf l.declaration l.inputs).newBlob k = .ok b ∧
      (k.scalar = true → k.shape = [1] ∧ k.elementSize = none) ∧
      (g'.blob ref).fixed = b.fixed := by
  obtain ⟨o, ho, hat⟩ := exists_of_mem_right h.placed href
  cases hat with
  | made b _ _ _ hb =>
    obtain ⟨top, -, hmakes⟩ := exists_of_mem_right (Site.layer_outputs h.drafted) ho
    cases hmakes with
    | made k _ _ _ hk hscalar => exact ⟨k, b, ho, hk, hscalar, hb⟩
  | kept i _ _ hold => exact absurd hold (Nat.not_lt.mpr hnew)

theorem Adds.producer_new (h : g.Adds l draft g') (href : ref ∈ l.outputs)
    (hnew : g.blobs.length ≤ ref) : (g'.blob ref).producer = some l.producer := by
  obtain ⟨k, b, -, hk, -, hb⟩ := h.sketch href hnew
  obtain ⟨-, rfl⟩ := Site.newBlob_eq_ok.mp hk
  have hp := Blob.of_fixed Blob.producer hb
  rw [hp, Layer.producer, h.serial]
  rfl

theorem Extends.producer (h : g.Extends g') (hlt : ref < g.blobs.length) :
    (g'.blob ref).producer = (g.blob ref).producer :=
  Blob.of_fixed Blob.producer (h.fixed ref hlt)

theorem Extends.ownedRefs (h : g.Extends g') (hlt : ∀ ref ∈ l.outputs, ref < g.blobs.length) :
    g'.ownedRefs l = g.ownedRefs l := by
  apply List.filter_congr
  intro ref href
  rw [h.producer (hlt ref href)]

/-! ## Runs -/

theorem Reached.lt_of_mem (h : g.Reached) (hl : l ∈ g.layers) (href : ref ∈ l.outputs) :
    ref < g.blobs.length := by
  obtain ⟨k, before, draft, after, -, hb⟩ := h.history_of_mem hl
  exact Nat.lt_of_lt_of_le (hb.adds.lt_of_mem href) hb.since.size

theorem Reached.output_registered (h : g.Reached) (hl : l ∈ g.layers) (href : ref ∈ l.outputs) :
    ref ∈ g.registered :=
  h.mem_registered.mpr (h.lt_of_mem hl href)

theorem Reached.names (h : g.Reached) : (g.layers.map Layer.name).Nodup := by
  induction h with
  | empty => exact List.nodup_nil
  | @add g₁ g₂ l₁ draft₁ h₁ ha ih =>
    rw [ha.layers, List.map_append, List.nodup_append]
    refine ⟨ih, by simp, ?_⟩
    intro name hname other hother heq
    obtain ⟨l₀, hl₀, rfl⟩ := List.mem_map.mp hname
    obtain rfl : other = l₁.name := by simpa using hother
    exact ha.named l₀ hl₀ heq

/-- The blobs that the layers made are the registered blobs, in their order. -/
theorem Reached.flatMap_ownedRefs (h : g.Reached) :
    g.layers.flatMap g.ownedRefs = g.registered := by
  induction h with
  | empty => rfl
  | @add g₁ g₂ l₁ draft₁ h₁ ha ih =>
    have hold : g₁.layers.flatMap g₂.ownedRefs = g₁.registered := by
      rw [← ih]
      apply List.flatMap_congr
      intro l hl
      exact ha.extends.ownedRefs fun ref href => h₁.lt_of_mem hl href
    -- an old blob was made by a layer of another name
    have hnew : g₂.ownedRefs l₁ =
        l₁.outputs.filter (fun ref => decide (g₁.blobs.length ≤ ref)) := by
      apply List.filter_congr
      intro ref href
      by_cases hle : g₁.blobs.length ≤ ref
      · simp [ha.producer_new href hle, hle]
      · have hlt : ref < g₁.blobs.length := Nat.lt_of_not_le hle
        have hmem : ref ∈ g₁.layers.flatMap g₁.ownedRefs := by
          rw [ih]
          exact h₁.mem_registered.mpr hlt
        obtain ⟨l₀, hl₀, hin⟩ := List.mem_flatMap.mp hmem
        have hp : (g₂.blob ref).producer = some l₀.producer := by
          rw [ha.extends.producer hlt]
          exact (mem_ownedRefs.mp hin).2
        have hne : l₀.producer ≠ l₁.producer := fun he =>
          ha.named l₀ hl₀ (congrArg Producer.name he)
        simp [hp, hne, hle]
    rw [ha.layers, List.flatMap_append, hold, List.flatMap_singleton, hnew, ha.fresh,
      ha.registered]

theorem Reached.exists_owner (h : g.Reached) (href : ref ∈ g.registered) :
    ∃ l ∈ g.layers, ref ∈ g.ownedRefs l := by
  rw [← h.flatMap_ownedRefs] at href
  exact List.mem_flatMap.mp href

theorem Reached.producer_inj (h : g.Reached) {i j : Nat} (hi : g.layers[i]? = some l)
    (hj : g.layers[j]? = some l') (heq : l.producer = l'.producer) : i = j := by
  have hlt : i < (g.layers.map Layer.name).length := by
    rw [List.length_map]
    exact (List.getElem?_eq_some_iff.mp hi).1
  refine (List.getElem?_inj hlt h.names).mp ?_
  rw [List.getElem?_map, List.getElem?_map, hi, hj]
  exact congrArg some (congrArg Producer.name heq)

theorem Reached.count_outputs (h : g.Reached) (hl : l ∈ g.layers) (href : ref ∈ g.ownedRefs l) :
    l.outputs.count ref = 1 := by
  have hnodup : (g.ownedRefs l).Nodup := by
    have hall : (g.layers.flatMap g.ownedRefs).Nodup := by
      rw [h.flatMap_ownedRefs, h.registered]
      exact List.nodup_range
    exact (List.nodup_flatMap.mp hall).1 l hl
  have hcount : (g.ownedRefs l).count ref = l.outputs.count ref := by
    apply List.count_filter
    simpa using (mem_ownedRefs.mp href).2
  rw [← hcount, List.count_eq_one_of_mem hnodup href]

/-! ## Inputs -/

/-- The blob at a place was made by a layer in front of the one at an index. -/
def OwnedBefore (g : Graph) (k ref : Nat) : Prop :=
  ∃ j < k, ∃ l, g.layers[j]? = some l ∧ ref ∈ g.ownedRefs l

theorem Added.ownedBefore {before after : Graph}
    (hb : g.Added k l before draft after) (href : ref ∈ before.registered) :
    ref ∈ g.registered ∧ g.OwnedBefore k ref := by
  have hgrown : before.Extends g := hb.adds.extends.trans hb.since
  refine ⟨hgrown.registered.subset href, ?_⟩
  obtain ⟨l₀, hl₀, hin⟩ := hb.reached.exists_owner href
  obtain ⟨j, hj⟩ := List.mem_iff_getElem?.mp hl₀
  have hjk : j < k := by
    have hlt := (List.getElem?_eq_some_iff.mp hj).1
    rw [hb.layers, List.length_take] at hlt
    omega
  refine ⟨j, hjk, l₀, ?_, ?_⟩
  · rw [hb.layers, List.getElem?_take_of_lt hjk] at hj
    exact hj
  · rwa [hgrown.ownedRefs fun ref href => hb.reached.lt_of_mem hl₀ href]

/-- The inputs of a layer are there, and earlier layers made them. -/
theorem Reached.inputs_ownedBefore (h : g.Reached) (hl : g.layers[k]? = some l)
    {input : Option Nat} (hin : input ∈ l.inputs) :
    ∃ ref, input = some ref ∧ ref ∈ g.registered ∧ g.OwnedBefore k ref := by
  obtain ⟨before, draft, after, hb⟩ := h.history hl
  obtain ⟨name, -, ref, rfl, hfind⟩ := exists_of_mem_right hb.adds.found hin
  exact ⟨ref, rfl, hb.ownedBefore (mem_registered_of_find? hfind)⟩

theorem Reached.input_registered (h : g.Reached) (hl : l ∈ g.layers) {input : Option Nat}
    (hin : input ∈ l.inputs) : ∃ ref ∈ g.registered, input = some ref := by
  obtain ⟨k, hk⟩ := List.mem_iff_getElem?.mp hl
  obtain ⟨ref, hsome, href, -⟩ := h.inputs_ownedBefore hk hin
  exact ⟨ref, href, hsome⟩

end NetFootprint.Graph
