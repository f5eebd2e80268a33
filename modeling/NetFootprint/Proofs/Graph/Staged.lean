import NetFootprint.Proofs.Graph.OnDevice
import NetFootprint.Proofs.Graph.Rank
import NetFootprint.Proofs.Graph.Twin
import NetFootprint.Proofs.Layer.InPlace

/-!
# Graphs with layers built beside them

Creations by name may build a layer without registering it. Its blobs take their places among the
others then, but nothing that is registered reads them. So the registered blobs still have a history:
each was made by a layer that was added at some point, on blobs that were registered before.
-/

namespace NetFootprint

namespace Graph

variable {g g' : Graph} {l : Layer} {draft : Draft} {ref i k : Nat}

/-! ## One step -/

theorem Adds.output_at (h : g.Adds l draft g') (hi : l.outputs[i]? = some ref) :
    (g.blobs.length ≤ ref ∧
        ∃ b, draft.outputs[i]? = some (.made b) ∧ (g'.blob ref).fixed = b.fixed) ∨
      ref < g.blobs.length ∧ l.family.inPlace = true ∧ l.inputs[i]? = some (some ref) ∧
        l.body.aliased[i]? = some true := by
  obtain ⟨o, ho, hat⟩ := exists_at_right h.placed hi
  cases hat with
  | made b _ hnew _ hb => exact .inl ⟨hnew, b, ho, hb⟩
  | kept j _ hin hold =>
    obtain ⟨rfl, ht, -⟩ := Site.kept_at h.drafted ho
    rw [h.body, Site.aliased_at ht h.drafted ho]
    exact .inr ⟨hold, ht, hin, rfl⟩

/-! ## History -/

/-- A graph that layers with named inputs were added to, or built beside, beginning with none. -/
inductive Staged : Graph → Prop where
  | empty (phase : Phase) (elementSize : Option (List Float)) : Staged (empty phase elementSize)
  | add {g g' : Graph} {l : Layer} {draft : Draft} (h : Staged g) (ha : g.Adds l draft g') :
    Staged g'
  | aside {g : Graph} {d : Declaration} {refs : List (Option Nat)} {t : LayerType} {draft : Draft}
    (h : Staged g) (hd : (g.siteOf d refs).layer t = .ok draft) : Staged (g.grown draft)

theorem Staged.tidy (h : g.Staged) : g.Tidy := by
  induction h with
  | empty phase elementSize => exact .empty phase elementSize
  | add _ ha ih => exact ha.tidy ih
  | aside _ hd ih => exact ih.grown hd

/-- The point of the history of a graph at which its layer at an index was added. -/
structure Joined (g : Graph) (k : Nat) (l : Layer) (before : Graph) (draft : Draft)
    (after : Graph) : Prop where
  staged : before.Staged
  layers : before.layers = g.layers.take k
  index : g.layers[k]? = some l
  adds : before.Adds l draft after
  since : after.Extends g

theorem Joined.later {before after : Graph} (h : g.Joined k l before draft after)
    (hg : g.Extends g') : g'.Joined k l before draft after := by
  obtain ⟨more, hmore⟩ := hg.layers
  have hk := (List.getElem?_eq_some_iff.mp h.index).1
  constructor
  · exact h.staged
  · rw [← hmore, List.take_append_of_le_length (Nat.le_of_lt hk), h.layers]
  · rw [← hmore, List.getElem?_append_left hk, h.index]
  · exact h.adds
  · exact h.since.trans hg

theorem Joined.extends {before after : Graph} (h : g.Joined k l before draft after) :
    before.Extends g :=
  h.adds.extends.trans h.since

theorem Adds.joined (h : g.Adds l draft g') (hg : g.Staged) :
    g'.Joined g.layers.length l g draft g' where
  staged := hg
  layers := by rw [h.layers, List.take_left]
  index := by rw [h.layers]; simp
  adds := h
  since := .refl g'

theorem Staged.history (h : g.Staged) (hl : g.layers[k]? = some l) :
    ∃ before draft after, g.Joined k l before draft after := by
  induction h with
  | empty => simp [Graph.empty] at hl
  | @add g₁ g₂ l₁ draft₁ h₁ ha ih =>
    by_cases hk : k < g₁.layers.length
    · rw [ha.layers, List.getElem?_append_left hk] at hl
      obtain ⟨before, draft, after, hb⟩ := ih hl
      exact ⟨before, draft, after, hb.later ha.extends⟩
    · have hlt := (List.getElem?_eq_some_iff.mp hl).1
      rw [ha.layers, List.length_append, List.length_singleton] at hlt
      obtain rfl : k = g₁.layers.length := by omega
      have hlast := ha.joined h₁
      obtain rfl := Option.some.inj (hlast.index.symm.trans hl)
      exact ⟨g₁, draft₁, g₂, hlast⟩
  | aside _ _ ih =>
    obtain ⟨before, draft, after, hb⟩ := ih hl
    exact ⟨before, draft, after, hb.later (extends_grown _ _)⟩

theorem Staged.history_of_mem (h : g.Staged) (hl : l ∈ g.layers) :
    ∃ k before draft after, g.Joined k l before draft after := by
  obtain ⟨k, hk⟩ := List.mem_iff_getElem?.mp hl
  exact ⟨k, h.history hk⟩

theorem Staged.born (h : g.Staged) (href : ref ∈ g.registered) :
    ∃ k l before draft after, g.Joined k l before draft after ∧ ref ∈ l.outputs ∧
      before.blobs.length ≤ ref := by
  induction h with
  | empty => simp [Graph.empty] at href
  | @add g₁ g₂ l₁ draft₁ h₁ ha ih =>
    rw [ha.registered, List.mem_append] at href
    rcases href with hold | hnew
    · obtain ⟨k, l, before, draft, after, hb, hborn⟩ := ih hold
      exact ⟨k, l, before, draft, after, hb.later ha.extends, hborn⟩
    · exact ⟨_, l₁, g₁, draft₁, g₂, ha.joined h₁, ha.mem_new.mp hnew⟩
  | aside _ _ ih =>
    obtain ⟨k, l, before, draft, after, hb, hborn⟩ := ih href
    exact ⟨k, l, before, draft, after, hb.later (extends_grown _ _), hborn⟩

/-! ## What every step keeps -/

theorem Staged.registered_nil (h : g.Staged) (hn : g.elementSize = none) : g.registered = [] := by
  induction h with
  | empty => rfl
  | add _ ha ih => exact absurd hn (ha.elementSize_ne_none ih)
  | aside _ _ ih => exact ih hn

theorem Staged.accounted (h : g.Staged) : ∀ ref ∈ g.registered, (g.blob ref).Accounted := by
  induction h with
  | empty => simp [Graph.empty]
  | add h₁ ha ih => exact ha.accounted h₁.tidy.placed ih
  | aside h₁ _ ih =>
    intro ref href
    rw [blob_grown_of_lt (h₁.tidy.placed ref href)]
    exact ih ref href

/-- A registered scalar has a single element. -/
theorem Staged.scalar (h : g.Staged) (href : ref ∈ g.registered)
    (hs : (g.blob ref).isScalar = true) : (g.blob ref).shape = [1] := by
  obtain ⟨k, l, before, draft, after, hb, hout, hnew⟩ := h.born href
  have hfixed := hb.since.fixed ref (hb.adds.lt_of_mem hout)
  rw [Blob.of_fixed Blob.isScalar hfixed] at hs
  rw [Blob.of_fixed Blob.shape hfixed]
  exact (hb.adds.scalar_new hout hnew hs).1

end Graph

namespace Session

variable {s : Session} {calls : List Call}

/-- Creations by name add layers to a graph or build them beside it. -/
theorem staged_run (hs : s.graph.Staged) (hcalls : ∀ c ∈ calls, c.ByName) :
    (s.run calls).graph.Staged := by
  induction calls generalizing s with
  | nil => exact hs
  | cons c rest ih =>
    obtain ⟨hc, hrest⟩ := List.forall_mem_cons.mp hcalls
    refine ih ?_ hrest
    rcases step_byName_cases hs.tidy.placed hc with hsame | ⟨d, refs, t, draft, hd, hstep⟩ |
      ⟨d, l, draft, -, -, ha⟩
    · rwa [hsame]
    · rw [hstep]
      exact .aside hs hd
    · exact .add hs ha

theorem staged_start (phase : Phase) (elementSize : Option (List Float))
    (hcalls : ∀ c ∈ calls, c.ByName) : ((start phase elementSize).run calls).graph.Staged :=
  staged_run (.empty phase elementSize) hcalls

end Session

end NetFootprint
