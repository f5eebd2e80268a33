import NetFootprint.Proofs.Graph.Rank

/-!
# Well-formed graphs

Whatever is created by name, in whatever order and with whatever failures in between, the graph is
well-formed: every blob has one maker, layers read what earlier layers made, and shapes have the
axes of the network. Element sizes do not always follow: a layer that may work in place gives the
blobs it makes the element size of its first input, which is none if that input is a scalar.
-/

namespace NetFootprint.Graph

variable {g : Graph} {l : Layer} {ref k n : Nat}

/-- The place of the blob whose extents a deformed blob takes: the field, or the blob of a name. -/
def shapeSource? (g : Graph) (l : Layer) (shapeFrom : String) : Option Nat :=
  if shapeFrom = "" then (l.inputs[1]?).join else g.find? (.text shapeFrom)

/-- The makers and the shapes of a graph are in order. -/
structure WellFormed (g : Graph) : Prop where
  /-- A single layer made the blob. -/
  producer : ∀ ref ∈ g.registered, ∃! k : Nat, ∃ l, g.layers[k]? = some l ∧
    (g.blob ref).producer = some l.producer
  /-- Its maker lists the blob once. -/
  once : ∀ ref ∈ g.registered, ∀ l ∈ g.layers, (g.blob ref).producer = some l.producer →
    l.outputs.count ref = 1
  inputs : ∀ (k : Nat) l, g.layers[k]? = some l → ∀ input ∈ l.inputs,
    ∃ ref, input = some ref ∧ ref ∈ g.registered ∧ g.OwnedBefore k ref
  deformed : ∀ (k : Nat) l shapeFrom, g.layers[k]? = some l → l.body = .applyDeformation shapeFrom →
    ∃ ref, g.shapeSource? l shapeFrom = some ref ∧ ref ∈ g.registered ∧ g.OwnedBefore k ref ∧
      (shapeFrom ≠ "" → ∀ out ∈ l.outputs, (g.blob out).spatial = (g.blob ref).spatial)
  extents : ∀ ref ∈ g.registered, ∀ e ∈ (g.blob ref).shape, 1 ≤ e
  rank : ∀ ref ∈ g.registered, (g.blob ref).isScalar = false →
    ∃ n, g.spatialRank = some n ∧ (g.blob ref).shape.length = n + 2
  scalar : ∀ ref ∈ g.registered, (g.blob ref).isScalar = true → (g.blob ref).shape = [1]

/-- Every blob but a scalar has an element size along each spatial axis of the network. -/
def Sized (g : Graph) : Prop :=
  ∀ ref ∈ g.registered, (g.blob ref).isScalar = false →
    g.spatialRank = some (g.blob ref).elementSize.length

/-- The layer has a scalar for its first input, may work in place, and still made a blob. -/
def SizedFromScalar (g : Graph) (l : Layer) : Prop :=
  l.family.inPlace = true ∧ g.ownedRefs l ≠ [] ∧
    ∃ ref, l.inputs[0]? = some (some ref) ∧ (g.blob ref).isScalar = true

/-! ## Deformed blobs -/

theorem Extends.find? {g' : Graph} (h : g.Extends g')
    (hlt : ∀ ref ∈ g.registered, ref < g.blobs.length) {name : Value}
    (hf : g.find? name = some ref) : g'.find? name = some ref := by
  obtain ⟨more, hmore⟩ := h.registered
  have hn : ∀ ref ∈ g.registered, (g'.blob ref).name = (g.blob ref).name := fun ref href =>
    Blob.of_fixed Blob.name (h.fixed ref (hlt ref href))
  rw [find?_of_append hmore.symm hn, hf]
  rfl

theorem Reached.deformed (h : g.Reached) {shapeFrom : String} (hk : g.layers[k]? = some l)
    (hbody : l.body = .applyDeformation shapeFrom) :
    ∃ ref, g.shapeSource? l shapeFrom = some ref ∧ ref ∈ g.registered ∧ g.OwnedBefore k ref ∧
      (shapeFrom ≠ "" → ∀ out ∈ l.outputs, (g.blob out).spatial = (g.blob ref).spatial) := by
  obtain ⟨before, draft, after, hb⟩ := h.history hk
  have hgrown := hb.adds.extends.trans hb.since
  have hfamily : l.family = .applyDeformation := by rw [Layer.family, hbody]; rfl
  have hd := hb.adds.drafted
  rw [hfamily] at hd
  obtain ⟨src, rest, spatial, top, samples, channels, b, hin, hsp, -, -, -, -, -, hmade, rfl⟩ :=
    Site.applyDeformationLayer_ok hd
  have hfrom : shapeFrom = (before.siteOf l.declaration l.inputs).shapeSource :=
    Body.applyDeformation.inj (hbody.symm.trans hb.adds.body)
  rw [← hfrom] at hsp
  rcases Site.deformedExtents_ok hsp with ⟨hempty, first, field, fields, hin', -⟩ |
    ⟨hne, ref, hfind, hspatial⟩
  · have hfield : (before.siteOf l.declaration l.inputs).inputs[1]? = some (some field) := by
      rw [hin']
      rfl
    obtain ⟨ref, hmem, hinput, -⟩ := hb.input_at hfield
    refine ⟨ref, ?_, hb.ownedBefore hmem |>.1, hb.ownedBefore hmem |>.2, absurd hempty⟩
    rw [shapeSource?, if_pos hempty, hinput]
    rfl
  · have hmem : ref ∈ before.registered := mem_registered_of_find? hfind
    have hlt : ref < before.blobs.length := hb.reached.mem_registered.mp hmem
    refine ⟨ref, ?_, hb.ownedBefore hmem |>.1, hb.ownedBefore hmem |>.2, fun _ out hout => ?_⟩
    · rw [shapeSource?, if_neg hne]
      exact hgrown.find? (fun ref => hb.reached.mem_registered.mp) hfind
    · -- the only output was made for the layer, with the extents that were found
      obtain ⟨o, ho, hat⟩ := exists_of_mem_right hb.adds.placed hout
      obtain rfl := List.mem_singleton.mp ho
      cases hat with
      | made _ _ _ hsize hfixed =>
        obtain ⟨-, rfl⟩ := Site.newBlob_eq_ok.mp hmade
        rw [Blob.of_fixed Blob.spatial (hb.since.fixed out hsize),
          Blob.of_fixed Blob.spatial hfixed,
          Blob.of_fixed Blob.spatial (hgrown.fixed ref hlt)]
        exact (Site.spatial_blobOf rfl rfl).trans hspatial

theorem Reached.wellFormed (h : g.Reached) : g.WellFormed where
  producer ref href := by
    obtain ⟨l, hl, hown⟩ := h.exists_owner href
    obtain ⟨k, hk⟩ := List.mem_iff_getElem?.mp hl
    have hp := (mem_ownedRefs.mp hown).2
    refine ⟨k, ⟨l, hk, hp⟩, ?_⟩
    rintro j ⟨l', hj, hp'⟩
    exact h.producer_inj hj hk (Option.some.inj (hp'.symm.trans hp))
  once ref href l hl hp := by
    obtain ⟨l', hl', hown⟩ := h.exists_owner href
    obtain ⟨k, hk⟩ := List.mem_iff_getElem?.mp hl
    obtain ⟨j, hj⟩ := List.mem_iff_getElem?.mp hl'
    have hpp := Option.some.inj ((mem_ownedRefs.mp hown).2.symm.trans hp)
    have hjk := h.producer_inj hj hk hpp
    obtain rfl : l' = l := by rw [hjk, hk] at hj; exact (Option.some.inj hj).symm
    exact h.count_outputs hl hown
  inputs k l hk input hin := h.inputs_ownedBefore hk hin
  deformed k l shapeFrom hk hbody := h.deformed hk hbody
  extents := h.extents
  rank := h.rank
  scalar ref href hs := (h.scalar ref href hs).1

/-! ## Element sizes -/

/-- Every blob has its place in a network whose scalars lend their element size to none. -/
theorem Reached.fits (h : g.Reached) (hn : g.spatialRank = some n)
    (hlend : n = 0 ∨ ∀ l ∈ g.layers, ¬ g.SizedFromScalar l) :
    ∀ ref ∈ g.registered, (g.blob ref).Fits n := by
  intro ref
  -- the inputs of the layer that made a blob stand at smaller places
  induction ref using Nat.strong_induction_on with
  | _ ref ih =>
    intro href
    cases hs : (g.blob ref).isScalar with
    | true =>
      obtain ⟨hshape, hsize⟩ := h.scalar ref href hs
      exact .inl ⟨hs, hshape, hsize⟩
    | false =>
      obtain ⟨m, hm, hlen⟩ := h.rank ref href hs
      obtain rfl : n = m := Option.some.inj (hn.symm.trans hm)
      obtain ⟨k, l, before, draft, after, hk, hb, hown, hnew⟩ := h.born href
      obtain ⟨b, hmade, hfixed⟩ := hb.own_blob h hk hown
      have hinput {i : Nat} {src : Blob}
          (hsrc : (before.siteOf l.declaration l.inputs).inputs[i]? = some (some src)) :
          src.Fits n := by
        obtain ⟨r, hmem, -, hr⟩ := hb.input_at hsrc
        have hlt : r < ref :=
          Nat.lt_of_lt_of_le (hb.reached.mem_registered.mp hmem) hnew
        exact .of_fixed hr.symm (ih r hlt (hb.ownedBefore hmem).1)
      have hsize : b.elementSize.length = n := by
        refine Site.layer_elementSize hb.adds.drafted ?_ ?_ ?_ hmade ?_ ?_
        · intro size hsize
          have hknown : before.spatialRank = some size.length := by
            rw [spatialRank, show before.elementSize = some size from hsize]
            rfl
          have hrank := (hb.adds.extends.trans hb.since).spatialRank hknown
          exact Option.some.inj (hrank.symm.trans hn)
        · intro src hsrc
          obtain ⟨i, hi⟩ := List.mem_iff_getElem?.mp hsrc
          exact hinput hi
        · intro first rest hplace hin hscalar
          rcases hlend with hzero | hnone
          · exact hzero
          · obtain ⟨r, -, hr, hrfixed⟩ := hb.first_input hin
            refine absurd ⟨hplace, List.ne_nil_of_mem hown, r, hr, ?_⟩
              (hnone l (List.mem_of_getElem? hk))
            rwa [Blob.of_fixed Blob.isScalar hrfixed]
        · rwa [← Blob.of_fixed Blob.isScalar hfixed]
        · rwa [← Blob.of_fixed Blob.shape hfixed]
      refine .inr ⟨hs, hlen, ?_⟩
      rwa [Blob.of_fixed Blob.elementSize hfixed]

theorem Reached.elementSize_of_scalar (h : g.Reached) (hl : l ∈ g.layers)
    (hlend : g.SizedFromScalar l) :
    ∃ ref ∈ g.registered, (g.blob ref).isScalar = false ∧ (g.blob ref).elementSize = [] := by
  obtain ⟨hplace, hne, first, hin, hscalar⟩ := hlend
  obtain ⟨ref, rest, hcons⟩ := List.exists_cons_of_ne_nil hne
  have hown : ref ∈ g.ownedRefs l := by simp [hcons]
  obtain ⟨k, before, draft, after, hk, hb⟩ := h.history_of_mem hl
  obtain ⟨b, hmade, hfixed⟩ := hb.own_blob h hk hown
  obtain ⟨src, others, hsrc, hsize, hs⟩ := Site.elementSize_inPlace hplace hb.adds.drafted hmade
  obtain ⟨r, hmem, hr, hrfixed⟩ := hb.first_input hsrc
  obtain rfl : first = r := by simpa [hin] using hr
  refine ⟨ref, ?_, ?_, ?_⟩
  · exact h.output_registered hl (mem_ownedRefs.mp hown).1
  · rwa [Blob.of_fixed Blob.isScalar hfixed]
  · rw [Blob.of_fixed Blob.elementSize hfixed, hsize,
      ← Blob.of_fixed Blob.elementSize hrfixed]
    exact (h.scalar first (hb.ownedBefore hmem).1 hscalar).2

theorem Reached.sized_iff (h : g.Reached) :
    g.Sized ↔ g.spatialRank = some 0 ∨ ∀ l ∈ g.layers, ¬ g.SizedFromScalar l := by
  constructor
  · intro hsized
    by_contra hnot
    push Not at hnot
    obtain ⟨hrank, l, hl, hlend⟩ := hnot
    obtain ⟨ref, href, hs, hsize⟩ := h.elementSize_of_scalar hl hlend
    have hlen := hsized ref href hs
    rw [hsize] at hlen
    exact hrank hlen
  · intro hlend ref href hs
    obtain ⟨n, hn, -⟩ := h.rank ref href hs
    have hfit := h.fits hn (hlend.imp_left fun h0 => Option.some.inj (hn.symm.trans h0)) ref href
    have hsize := hfit.length_elementSize (by simp [hs])
    rw [hn, hsize]

/-! ## Runs of creations -/

/-- Creations by name leave a well-formed graph, and every blob has its element sizes unless a layer
that may work in place took them from a scalar. -/
theorem createAll_wellFormed_sized (phase : Phase) (elementSize : Option (List Float))
    (ds : List Declaration) :
    ((empty phase elementSize).createAll ds).WellFormed ∧
      (((empty phase elementSize).createAll ds).Sized ↔
        ((empty phase elementSize).createAll ds).spatialRank = some 0 ∨
          ∀ l ∈ ((empty phase elementSize).createAll ds).layers,
            ¬ ((empty phase elementSize).createAll ds).SizedFromScalar l) := by
  have h := (Reached.empty phase elementSize).createAll ds
  exact ⟨h.wellFormed, h.sized_iff⟩

/-- A ReLU that works in place on a loss and beside it makes a blob like another input. -/
def lossInPlace : List Declaration :=
  [{ type := "Input", name := "source", inputs := [], outputs := [.text "data"]
     params := [("shape", .list [.list [.int 1, .int 2, .int 3, .int 4]])], included := []
     excluded := [] },
   { type := "SoftmaxWithLoss", name := "loss", inputs := ["data"], outputs := [.text "loss"]
     params := [], included := [], excluded := [] },
   { type := "ReLU", name := "relu", inputs := ["loss", "data"]
     outputs := [.text "loss", .text "y"], params := [], included := [], excluded := [] }]

theorem not_sized_lossInPlace : ¬ ((empty .test none).createAll lossInPlace).Sized := by
  intro h
  have hy := h 2 (by decide +kernel) (by decide +kernel)
  revert hy
  decide +kernel

end NetFootprint.Graph
