import Mathlib.Logic.Relation
import NetFootprint.Proofs.Graph.Staged
import NetFootprint.Proofs.Layer.Gradient

/-!
# Gradients and reachability

In training a registered blob has a gradient exactly if it is a loss, or if it can be reached from the
output of a layer with weights along layers that hand gradients on. Each layer sets the flags of its
own blobs only, from those of its inputs; as inputs stand at smaller places than what is made from
them, the flags add up to reachability in the finished graph.
-/

namespace NetFootprint

/-- The output of the layer at a position has a gradient if the input at this place has one. -/
def Layer.Hands (l : Layer) (i ref : Nat) : Prop :=
  l.family.merges = true ∧ some ref ∈ l.inputs ∨
    l.family.inPlace = true ∧ l.inputs[i]? = some (some ref) ∧ l.body.aliased[i]? = some false

theorem Layer.Hands.mem_inputs {l : Layer} {i src : Nat} (h : l.Hands i src) :
    some src ∈ l.inputs := by
  rcases h with ⟨-, hin⟩ | ⟨-, hin, -⟩
  · exact hin
  · exact List.mem_of_getElem? hin

namespace Graph

variable {g g' before after : Graph} {l : Layer} {draft : Draft} {ref src i k : Nat}

/-- The blob is the scalar that a registered loss makes. -/
def IsLoss (g : Graph) (ref : Nat) : Prop :=
  (g.blob ref).isScalar = true ∧
    ∃ l ∈ g.layers, l.family = .softmaxWithLoss ∧ l.outputs[0]? = some ref

/-- The blob is an output of a registered layer with weights. -/
def IsWeighted (g : Graph) (ref : Nat) : Prop :=
  ∃ l ∈ g.layers, l.family.weighted = true ∧ ref ∈ l.outputs

/-- A registered layer hands the gradient of one blob on to another. -/
def HandsGradient (g : Graph) (src ref : Nat) : Prop :=
  ∃ l ∈ g.layers, ∃ i, l.outputs[i]? = some ref ∧ l.Hands i src

/-- The registered blobs with gradients are the losses and what can be reached from weights, and all
of these gradients are charged. -/
structure ExactGradients (g : Graph) : Prop where
  gradient : ∀ ref ∈ g.registered, (g.blob ref).gradient = true ↔
    g.IsLoss ref ∨ ∃ root, g.IsWeighted root ∧ Relation.ReflTransGen g.HandsGradient root ref
  charged : ∀ ref ∈ g.registered, (g.blob ref).gradient = true →
    (g.blob ref).resident = true ∧
      (g.blob ref).backwardBytes = (g.blob ref).count.map (4 * ·)

/-! ## One step -/

/-- What a layer hands a gradient on to was made by it. -/
theorem Adds.new_of_hands (h : g.Adds l draft g') (hi : l.outputs[i]? = some ref)
    (hh : l.Hands i src) : g.blobs.length ≤ ref := by
  rcases h.output_at hi with ⟨hnew, -⟩ | ⟨-, ht, -, haliased⟩
  · exact hnew
  · rcases hh with ⟨hmerges, -⟩ | ⟨-, -, hfree⟩
    · rcases LayerType.inPlace_iff.mp ht with heq | heq <;> simp [heq, LayerType.merges] at hmerges
    · simp [haliased] at hfree

theorem Adds.new_of_not_inPlace (h : g.Adds l draft g') (hi : l.outputs[i]? = some ref)
    (ht : l.family.inPlace = false) : g.blobs.length ≤ ref := by
  rcases h.output_at hi with ⟨hnew, -⟩ | ⟨-, ht', -⟩
  · exact hnew
  · simp [ht] at ht'

theorem Adds.hands_iff (h : g.Adds l draft g') {o : Blob}
    (ho : draft.outputs[i]? = some (.made o)) {b : Blob} :
    (g.siteOf l.declaration l.inputs).Hands l.family i b ↔ ∃ src, l.Hands i src ∧ g.blob src = b := by
  have hat {input : Option (Option Nat)} :
      input.map (fun r => r.map g.blob) = some (some b) ↔
        ∃ src, input = some (some src) ∧ g.blob src = b := by
    rcases input with _ | _ | r <;> simp
  have hfree (ht : l.family.inPlace = true) : l.body.aliased[i]? = some false := by
    rw [h.body, Site.aliased_at ht h.drafted ho]
    rfl
  simp only [Site.Hands, Layer.Hands, siteOf, List.getElem?_map, List.mem_iff_getElem?, hat]
  constructor
  · rintro (⟨ht, j, src, hsrc, rfl⟩ | ⟨ht, src, hsrc, rfl⟩)
    · exact ⟨src, .inl ⟨ht, j, hsrc⟩, rfl⟩
    · exact ⟨src, .inr ⟨ht, hsrc, hfree ht⟩, rfl⟩
  · rintro ⟨src, ⟨ht, j, hsrc⟩ | ⟨ht, hsrc, -⟩, rfl⟩
    · exact .inl ⟨ht, j, src, hsrc, rfl⟩
    · exact .inr ⟨ht, src, hsrc, rfl⟩

theorem Adds.gradient_iff (h : g.Adds l draft g') (hi : l.outputs[i]? = some ref)
    (hnew : g.blobs.length ≤ ref) :
    (g'.blob ref).gradient = true ↔ g.training = true ∧
      (l.family.weighted = true ∨ l.family = .softmaxWithLoss ∧ i = 0 ∨
        ∃ src, l.Hands i src ∧ (g.blob src).gradient = true) := by
  rcases h.output_at hi with ⟨-, b, ho, hb⟩ | ⟨hold, -⟩
  · rw [Blob.of_fixed Blob.gradient hb, Site.gradient_made h.drafted ho, Site.Graded]
    have hreads : (∃ c, (g.siteOf l.declaration l.inputs).Hands l.family i c ∧ c.gradient = true) ↔
        ∃ src, l.Hands i src ∧ (g.blob src).gradient = true := by
      simp only [h.hands_iff ho]
      constructor
      · rintro ⟨_, ⟨src, hh, rfl⟩, hgradient⟩
        exact ⟨src, hh, hgradient⟩
      · rintro ⟨src, hh, hgradient⟩
        exact ⟨_, ⟨src, hh, rfl⟩, hgradient⟩
    rw [hreads]
    rfl
  · exact absurd hnew (Nat.not_le.mpr hold)

theorem Adds.registered_of_hands (h : g.Adds l draft g') (hh : l.Hands i src) :
    src ∈ g.registered := by
  obtain ⟨r, hsome, hr⟩ := h.inputs_registered (hh.mem_inputs)
  rwa [Option.some.inj hsome]

/-! ## Seen from the end -/

theorem Joined.gradient_iff (hb : g.Joined k l before draft after)
    (hi : l.outputs[i]? = some ref) (hnew : before.blobs.length ≤ ref) :
    (g.blob ref).gradient = true ↔ g.training = true ∧
      (l.family.weighted = true ∨ l.family = .softmaxWithLoss ∧ i = 0 ∨
        ∃ src, l.Hands i src ∧ (g.blob src).gradient = true) := by
  have hafter := hb.since.fixed ref (hb.adds.lt_of_mem (List.mem_of_getElem? hi))
  have hphase : g.training = before.training := by
    rw [training, hb.extends.phase]
    rfl
  have hbefore (src : Nat) (hh : l.Hands i src) :
      (g.blob src).gradient = (before.blob src).gradient :=
    Blob.of_fixed Blob.gradient (hb.extends.fixed src
      (hb.staged.tidy.placed src (hb.adds.registered_of_hands hh)))
  rw [Blob.of_fixed Blob.gradient hafter, hb.adds.gradient_iff hi hnew, hphase]
  have hreads : (∃ src, l.Hands i src ∧ (g.blob src).gradient = true) ↔
      ∃ src, l.Hands i src ∧ (before.blob src).gradient = true :=
    exists_congr fun src => and_congr_right fun hh => by rw [hbefore src hh]
  rw [hreads]

/-- A scalar hands nothing on: what is made from it would lack axes that the network has. -/
theorem Joined.not_scalar_of_hands (hb : g.Joined k l before draft after)
    (hi : l.outputs[i]? = some ref) (hh : l.Hands i src) : (g.blob src).isScalar = false := by
  have hsrc := hb.adds.registered_of_hands hh
  have hnew := hb.adds.new_of_hands hi hh
  rw [Blob.of_fixed Blob.isScalar (hb.extends.fixed src (hb.staged.tidy.placed src hsrc)),
    Bool.eq_false_iff]
  intro hscalar
  have hshape := hb.staged.scalar hsrc hscalar
  rcases hb.adds.output_at hi with ⟨-, b, ho, hfixed⟩ | ⟨hold, -⟩
  · rcases Site.axes_of_hands hb.adds.drafted ho ((hb.adds.hands_iff ho).mpr ⟨src, hh, rfl⟩) with
      hlen | ⟨hplain, hlike⟩
    · simp [hshape] at hlen
    · -- a copy of the scalar has one axis too few for the number of axes that is known
      obtain ⟨size, hsize⟩ : ∃ size, before.elementSize = some size := by
        cases hn : before.elementSize with
        | none => simp [hb.staged.registered_nil hn] at hsrc
        | some size => exact ⟨size, rfl⟩
      have hrank : (after.blob ref).spatialRank = (size.length : Int) := by
        refine (hb.adds.axes ref (List.mem_of_getElem? hi) hnew ?_).2 _ ?_
        · rw [Blob.of_fixed Blob.isScalar hfixed, hplain]
        · rw [spatialRank, hsize]
          rfl
      rw [Blob.of_fixed Blob.spatialRank hfixed, Blob.spatialRank, hplain, hlike, hshape] at hrank
      simp at hrank
  · exact absurd hnew (Nat.not_le.mpr hold)

theorem Joined.isScalar_loss (hb : g.Joined k l before draft after)
    (hi : l.outputs[0]? = some ref) (ht : l.family = .softmaxWithLoss) :
    (g.blob ref).isScalar = true := by
  have hafter := hb.since.fixed ref (hb.adds.lt_of_mem (List.mem_of_getElem? hi))
  rcases hb.adds.output_at hi with ⟨-, b, ho, hfixed⟩ | ⟨-, hplace, -⟩
  · have hd := hb.adds.drafted
    rw [ht] at hd
    rw [Blob.of_fixed Blob.isScalar hafter, Blob.of_fixed Blob.isScalar hfixed]
    exact Site.isScalar_loss hd ho
  · simp [ht, LayerType.inPlace] at hplace

/-! ## Runs -/

/-- A blob with a gradient is a loss, or a chain leads to it from an output with weights. -/
theorem Staged.reached_of_gradient (h : g.Staged) :
    ∀ ref ∈ g.registered, (g.blob ref).gradient = true →
      g.IsLoss ref ∨ ∃ root, g.IsWeighted root ∧ Relation.ReflTransGen g.HandsGradient root ref := by
  intro ref
  -- what a gradient is handed on from stands at a smaller place
  induction ref using Nat.strong_induction_on with
  | _ ref ih =>
    intro href hgradient
    obtain ⟨k, l, before, draft, after, hb, hout, hnew⟩ := h.born href
    obtain ⟨i, hi⟩ := List.mem_iff_getElem?.mp hout
    have hl := List.mem_of_getElem? hb.index
    obtain ⟨-, hweights | ⟨hloss, rfl⟩ | ⟨src, hh, hsrc⟩⟩ := (hb.gradient_iff hi hnew).mp hgradient
    · exact .inr ⟨ref, ⟨l, hl, hweights, hout⟩, .refl⟩
    · exact .inl ⟨hb.isScalar_loss hi hloss, l, hl, hloss, hi⟩
    · have hmem := hb.adds.registered_of_hands hh
      have hlt := Nat.lt_of_lt_of_le (hb.staged.tidy.placed src hmem) hnew
      rcases ih src hlt (hb.extends.registered.subset hmem) hsrc with ⟨hscalar, -⟩ |
        ⟨root, hroot, hchain⟩
      · simp [hb.not_scalar_of_hands hi hh] at hscalar
      · exact .inr ⟨root, hroot, hchain.tail ⟨l, hl, i, hi, hh⟩⟩

theorem Staged.gradient_of_loss (h : g.Staged) (ht : g.training = true) (hloss : g.IsLoss ref) :
    (g.blob ref).gradient = true := by
  obtain ⟨-, l, hl, hfamily, hi⟩ := hloss
  obtain ⟨k, before, draft, after, hb⟩ := h.history_of_mem hl
  have hnew := hb.adds.new_of_not_inPlace hi (by rw [hfamily]; rfl)
  exact (hb.gradient_iff hi hnew).mpr ⟨ht, .inr (.inl ⟨hfamily, rfl⟩)⟩

theorem Staged.gradient_of_reached (h : g.Staged) (ht : g.training = true) {root : Nat}
    (hroot : g.IsWeighted root) (hchain : Relation.ReflTransGen g.HandsGradient root ref) :
    (g.blob ref).gradient = true := by
  induction hchain with
  | refl =>
    obtain ⟨l, hl, hweights, hout⟩ := hroot
    obtain ⟨i, hi⟩ := List.mem_iff_getElem?.mp hout
    obtain ⟨k, before, draft, after, hb⟩ := h.history_of_mem hl
    have hplace : l.family.inPlace = false := by
      cases hf : l.family <;> simp [hf, LayerType.weighted, LayerType.inPlace] at hweights ⊢
    exact (hb.gradient_iff hi (hb.adds.new_of_not_inPlace hi hplace)).mpr ⟨ht, .inl hweights⟩
  | tail _ hlink ih =>
    obtain ⟨l, hl, i, hi, hh⟩ := hlink
    obtain ⟨k, before, draft, after, hb⟩ := h.history_of_mem hl
    exact (hb.gradient_iff hi (hb.adds.new_of_hands hi hh)).mpr ⟨ht, .inr (.inr ⟨_, hh, ih⟩)⟩

theorem Staged.exactGradients (h : g.Staged) (ht : g.training = true) : g.ExactGradients where
  gradient ref href := by
    constructor
    · exact h.reached_of_gradient ref href
    · rintro (hloss | ⟨root, hroot, hchain⟩)
      · exact h.gradient_of_loss ht hloss
      · exact h.gradient_of_reached ht hroot hchain
  charged ref href hgradient := by
    have hres := (h.accounted ref href).gradient hgradient
    refine ⟨hres, ?_⟩
    rw [Blob.backwardBytes, hres, hgradient, Blob.sizeBytes]
    cases (g.blob ref).count <;> rfl

end Graph

namespace Session

/-- After a run of creations by name for training, the gradient flags say what can be reached from
weights in the graph that the run leaves, and no gradient is left out of the account. -/
theorem run_exactGradients (elementSize : Option (List Float)) (calls : List Call)
    (hcalls : ∀ c ∈ calls, c.ByName) :
    ((start .train elementSize).run calls).graph.ExactGradients := by
  have hphase : ((start .train elementSize).run calls).graph.phase = .train :=
    (run_byName (.empty .train elementSize) hcalls).2.phase
  refine (staged_start .train elementSize hcalls).exactGradients ?_
  rw [Graph.training, hphase]
  rfl

/-- A convolution with a ReLU in place and a pooling, and the loss of what they leave; a softmax
beside them is not registered, and the values of the loss are no part of the chain. -/
def trainedOnPooled : List Call :=
  [.create { plainLayer "Input" "source" [] "data" with
      params := [("shape", .list [.list [.int 1, .int 2, .int 6, .int 6]])] } none,
    .create { plainLayer "Convolution" "conv" ["data"] "feature" with
      params := [("num_output", .int 8), ("kernel_size", .int 3)] } none,
    .create (plainLayer "ReLU" "relu" ["feature"] "feature") none,
    .build (plainLayer "Softmax" "softmax" ["feature"] "p") none,
    .create { plainLayer "Pooling" "pool" ["feature"] "pooled" with
      params := [("kernel_size", .int 2), ("stride", .int 2)] } none,
    .create { plainLayer "SoftmaxWithLoss" "loss" ["pooled"] "loss" with
      outputs := [.text "loss", .text "scores"] } none]

theorem run_exactGradients_trainedOnPooled :
    (∀ c ∈ trainedOnPooled, c.ByName) ∧
      ((start .train none).run trainedOnPooled).graph.registeredBlobs.map Blob.gradient =
        [false, true, true, true, false] ∧
      ((start .train none).run trainedOnPooled).graph.ExactGradients := by
  have hcalls : ∀ c ∈ trainedOnPooled, c.ByName := by
    simp only [trainedOnPooled, List.forall_mem_cons]
    exact ⟨rfl, rfl, rfl, rfl, rfl, rfl, by simp⟩
  exact ⟨hcalls, by decide +kernel, run_exactGradients none trainedOnPooled hcalls⟩

end Session

end NetFootprint
