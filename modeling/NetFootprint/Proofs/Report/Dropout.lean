import NetFootprint.Proofs.Graph.Dropout
import NetFootprint.Proofs.Report.Increment

/-!
# What dropouts cost

A dropout that keeps an input pays for a buffer of its size, and one that does not pays for a new
blob instead, with its gradient if it has one. All else is the same: a mask for each input, and the
inputs on the device. So working in place saves the gradients of the inputs that are kept.
-/

namespace NetFootprint

theorem sumOver_paired {α : Type} {R : α → Blob → Prop} {f : Blob → Except Misuse Int}
    {items : List α} {blobs : List Blob} (h : List.Forall₂ R items blobs) {value : α → Int}
    (hf : ∀ x ∈ items, ∀ b, R x b → f b = .ok (value x)) :
    Body.sumOver f blobs = .ok (items.map value).sum := by
  refine sumOver_eq_ok.mpr ⟨items.map value, ?_, rfl⟩
  rw [mapM_eq_ok, List.forall₂_map_right_iff]
  exact (rel_mem h).flip.imp fun b x hx => hf x hx.1 b hx.2.2

namespace Slot

variable {p : Slot} {b : Blob}

/-- Whether keeping the input saves its gradient. -/
def saves (p : Slot) : Bool := p.kept && p.src.gradient

/-- A blob on the device that was made like the input. -/
structure Doubled (p : Slot) (b : Blob) : Prop where
  shape : b.shape = p.src.shape
  forward : b.forward = true
  gradient : b.gradient = p.src.gradient
  resident : b.resident = true

theorem Doubled.forwardBytes (h : p.Doubled b) : b.forwardBytes = p.src.sizeBytes := by
  rw [Blob.forwardBytes, h.resident, h.forward, Blob.sizeBytes, Blob.count, h.shape]
  rfl

theorem Doubled.backwardBytes (h : p.Doubled b) :
    b.backwardBytes = if p.src.gradient then p.src.sizeBytes else .ok 0 := by
  rw [Blob.backwardBytes, h.resident, h.gradient, Blob.sizeBytes, Blob.count, h.shape]
  rfl

/-- The masks, the buffers, the new blobs and their gradients, with what is saved, come to the same
whatever is kept. -/
theorem sum_costs (slots : List Slot) (size : Slot → Int) :
    (slots.map size).sum + ((slots.filter kept).map size).sum +
        ((slots.filter fun p => !p.kept).map size).sum +
        ((slots.filter fun p => !p.kept).map fun p => if p.src.gradient then size p else 0).sum +
        ((slots.filter saves).map size).sum =
      (slots.map fun p => 2 * size p + if p.src.gradient then size p else 0).sum := by
  induction slots with
  | nil => rfl
  | cons p rest ih =>
    have hsaves : p.saves = (p.kept && p.src.gradient) := rfl
    cases hkept : p.kept <;> cases hneeds : p.src.gradient <;>
      simp only [List.map_cons, List.sum_cons, List.filter_cons, hsaves, hkept, hneeds,
        Bool.not_true, Bool.not_false, Bool.and_true, Bool.and_false, Bool.false_eq_true, if_true,
        if_false] <;>
      omega

end Slot

theorem Body.overheadBytes_dropout (count : Count) (accelerated : Bool) (slots : List Slot)
    (outputs : List Blob) :
    (Body.dropout (slots.map Slot.kept)).overheadBytes count accelerated (slots.map Slot.src)
        outputs = do
      let masks ← sumOver (blobBytes count) (slots.map Slot.src)
      let buffers ← sumOver (blobBytes count) ((slots.filter Slot.kept).map Slot.src)
      return masks + buffers := by
  have hkept : ((slots.map Slot.src).zip (slots.map Slot.kept)).filterMap
      (fun p => if p.2 then some p.1 else none) = (slots.filter Slot.kept).map Slot.src := by
    induction slots with
    | nil => rfl
    | cons p rest ih =>
      rw [List.map_cons, List.map_cons, List.zip_cons_cons, List.filterMap_cons, ih,
        List.filter_cons]
      cases p.kept with
      | true => rfl
      | false => rfl
  simp only [overheadBytes, workspaceBytes, internalBytes, hkept, ok_bind]
  cases sumOver (blobBytes count) (slots.map Slot.src) with
  | error e => rfl
  | ok masks =>
    cases sumOver (blobBytes count) ((slots.filter Slot.kept).map Slot.src) with
    | error e => rfl
    | ok buffers => exact congrArg Except.ok (Int.zero_add _)

namespace Graph

variable {g g' g₁ g₂ : Graph} {l l₁ l₂ : Layer} {draft draft₁ draft₂ : Draft} {d : Declaration}
  {refs : List Nat} {accelerated : Bool} {acc label : Value} {total : Amount}

/-! ## The layers that were there -/

/-- Two graphs have the same old blobs on the device. -/
def SameOld (g g₁ g₂ : Graph) : Prop :=
  ∀ ref ∈ g.registered, (g₁.blob ref).resident = (g₂.blob ref).resident

/-- Layers that read the same inputs on the device put the same blobs there. -/
theorem Adds.sameOld (h₁ : g.Adds l₁ draft₁ g₁) (h₂ : g.Adds l₂ draft₂ g₂) (hg : g.Reached)
    (hfamily : l₁.family = l₂.family) (hinputs : l₁.inputs = l₂.inputs) : g.SameOld g₁ g₂ := by
  intro ref href
  have hlt := hg.mem_registered.mp href
  rw [Bool.eq_iff_iff, h₁.resident_old_iff hlt, h₂.resident_old_iff hlt, hfamily, hinputs]

theorem SameOld.footprint (h : g.SameOld g₁ g₂) (hg : g.Reached) (h₁ : g.Extends g₁)
    (h₂ : g.Extends g₂) (hl : l ∈ g.layers) (accelerated : Bool) :
    g₁.footprint accelerated l = g₂.footprint accelerated l := by
  have hlt : ∀ ref ∈ l.outputs, ref < g.blobs.length := fun ref href => hg.lt_of_mem hl href
  have howned : List.Forall₂ (fun b b' => b.Twin b' ∧ b'.resident = b.resident) (g₂.ownedBy l)
      (g₁.ownedBy l) := by
    rw [ownedBy_eq, ownedBy_eq, h₁.ownedRefs hlt, h₂.ownedRefs hlt, List.forall₂_map_left_iff,
      List.forall₂_map_right_iff, List.forall₂_same]
    intro ref href
    have hout := (mem_ownedRefs.mp href).1
    have hfixed := (h₁.fixed ref (hlt ref hout)).trans (h₂.fixed ref (hlt ref hout)).symm
    exact ⟨.of_fixed hfixed, h ref (hg.output_registered hl hout)⟩
  obtain ⟨hforward, hbackward⟩ := bytes_of_owned howned
  have htwins₁ := hg.twins h₁ hl
  have htwins₂ := hg.twins h₂ hl
  rw [Graph.footprint, Graph.footprint, htwins₁.parameterBytes, htwins₁.overheadBytes,
    htwins₂.parameterBytes, htwins₂.overheadBytes, hforward, hbackward]

theorem Adds.memoryTotal_eq_ok (h : g.Adds l draft g') :
    (Network.mk label g').memoryTotal acc = .ok total ↔ ∃ earlier own,
      g.layers.mapM (g'.footprint acc.truthy) = .ok earlier ∧
        g'.footprint acc.truthy l = .ok own ∧
        total = .whole ((earlier.map Footprint.total).sum + own.total) := by
  rw [Network.memoryTotal_eq_ok, Network.layers]
  dsimp only
  rw [h.layers]
  constructor
  · rintro ⟨footprints, hall, rfl⟩
    obtain ⟨earlier, last, hearlier, hlast, rfl⟩ := mapM_append_eq_ok.mp hall
    cases mapM_eq_ok.mp hlast with
    | @cons _ own _ _ hown hnil =>
      cases hnil
      refine ⟨earlier, own, hearlier, hown, ?_⟩
      simp
  · rintro ⟨earlier, own, hearlier, hown, rfl⟩
    refine ⟨earlier ++ [own], ?_, ?_⟩
    · exact mapM_append_eq_ok.mpr ⟨earlier, [own], hearlier, mapM_eq_ok.mpr (.cons hown .nil), rfl⟩
    · simp

theorem exists_report_iff_memoryTotal (label : Value) :
    (∃ rep, g.report acc = .ok rep) ↔ ∃ total, (Network.mk label g).memoryTotal acc = .ok total := by
  simp only [Network.memoryTotal_eq_ok, exists_report_iff]
  constructor
  · intro h
    obtain ⟨footprints, hall⟩ := exists_mapM_eq_ok.mpr h
    exact ⟨_, footprints, hall, rfl⟩
  · rintro ⟨total, footprints, hall, -⟩
    exact exists_mapM_eq_ok.mp ⟨footprints, hall⟩

/-! ## The dropout itself -/

theorem Adds.ownedBy_made (h : g.Adds l draft g') (hg : g.Reached) :
    List.Forall₂ (fun b b' => b'.fixed = b.fixed) (madeBlobs draft.outputs) (g'.ownedBy l) := by
  -- the places behind the old ones are those of the layer and those of the draft
  have hrefs : g'.ownedRefs l =
      List.range' g.blobs.length (madeBlobs draft.outputs).length :=
    List.append_cancel_left ((h.registered_owned hg).symm.trans h.registered)
  obtain ⟨rank, hg'⟩ := h.taken
  rw [ownedBy_eq, hrefs, ← map_blob_grown, List.forall₂_map_left_iff, List.forall₂_map_right_iff,
    List.length_map, List.length_range', List.forall₂_same]
  intro ref _
  rw [hg', fixed_blob_accepted]

theorem inputsOf_of_some (h : l.inputs = refs.map some) : g.inputsOf l = refs.map g.blob := by
  rw [inputsOf, slotsOf, h, List.map_map, List.filterMap_map, ← List.filterMap_eq_map]
  rfl

theorem DropoutOf.owned (h : g.DropoutOf d refs) (hg : g.Reached)
    (ha : g.AddsDropout d refs l g') :
    List.Forall₂ Slot.Doubled ((g.slots d refs).filter fun p => !p.kept) (g'.ownedBy l) := by
  have hmade := ha.adds.ownedBy_made hg
  rw [dropoutDraft, madeBlobs_settled, List.forall₂_map_left_iff] at hmade
  have hdevice : l.family.readsOnDevice = true := by rw [ha.family]; rfl
  have hl : l ∈ g'.layers := by simp [ha.adds.layers]
  refine (rel_mem hmade).imp ?_
  rintro p b ⟨hp, hb, hfixed⟩
  obtain ⟨⟨ref, href, hsrc⟩, -⟩ := h.of_mem (List.mem_filter.mp hp).1
  constructor
  · rw [Blob.of_fixed Blob.shape hfixed, Site.shape_made]
  · rw [Blob.of_fixed Blob.forward hfixed]
    rfl
  · rw [Blob.of_fixed Blob.gradient hfixed]
    change (p.src.gradient && g.training) = p.src.gradient
    cases hneeds : p.src.gradient with
    | false => rfl
    | true =>
      rw [hsrc] at hneeds
      exact hg.training_of_gradient ref (h.registered href) hneeds
  · have hout : b ∈ g'.outputsOf l := (List.mem_filter.mp hb).1
    exact (Reached.add hg ha.adds).used_resident hl hdevice (List.mem_append_right _ hout)

theorem DropoutOf.overheadBytes (h : g.DropoutOf d refs) (hg : g.Reached)
    (ha : g.AddsDropout d refs l g') (accelerated : Bool) : g'.overheadBytes accelerated l = do
      let masks ← Body.sumOver Blob.sizeBytes ((g.slots d refs).map Slot.src)
      let buffers ← Body.sumOver Blob.sizeBytes (((g.slots d refs).filter Slot.kept).map Slot.src)
      return masks + buffers := by
  have hshapes : (g'.inputsOf l).map Blob.shape =
      ((g.slots d refs).map Slot.src).map Blob.shape := by
    rw [inputsOf_of_some ha.inputs, h.map_src, List.map_map, List.map_map]
    refine List.map_congr_left fun ref href => ?_
    exact Blob.of_fixed Blob.shape (ha.adds.fixed ref (hg.mem_registered.mp (h.registered href)))
  rw [Graph.overheadBytes, ha.adds.body, Body.overheadBytes_of_shapes _ accelerated _ hshapes rfl]
  exact Body.overheadBytes_dropout wrappedProduct accelerated (g.slots d refs) _

/-- With what is saved, a dropout takes the same whichever inputs it keeps. -/
theorem DropoutOf.exists_footprint (h : g.DropoutOf d refs) (hg : g.Reached)
    (ha : g.AddsDropout d refs l g') {size : Slot → Int}
    (hsize : ∀ p ∈ g.slots d refs, p.src.sizeBytes = .ok (size p)) (accelerated : Bool) :
    ∃ own, g'.footprint accelerated l = .ok own ∧
      own.total + (((g.slots d refs).filter Slot.saves).map size).sum =
        ((g.slots d refs).map fun p => 2 * size p + if p.src.gradient then size p else 0).sum := by
  have hsources {slots : List Slot} (hsub : slots ⊆ g.slots d refs) :
      Body.sumOver Blob.sizeBytes (slots.map Slot.src) = .ok (slots.map size).sum := by
    have hpaired : List.Forall₂ (fun p b => b = Slot.src p) slots (slots.map Slot.src) := by
      rw [List.forall₂_map_right_iff, List.forall₂_same]
      exact fun _ _ => rfl
    exact sumOver_paired hpaired fun p hp b hb => hb ▸ hsize p (hsub hp)
  have howned := h.owned hg ha
  have hforward : g'.forwardBytes l =
      .ok (((g.slots d refs).filter fun p => !p.kept).map size).sum := by
    refine sumOver_paired howned fun p hp b hb => ?_
    rw [hb.forwardBytes, hsize p (List.mem_filter.mp hp).1]
  have hbackward : g'.backwardBytes l =
      .ok (((g.slots d refs).filter fun p => !p.kept).map
        fun p => if p.src.gradient then size p else 0).sum := by
    refine sumOver_paired howned fun p hp b hb => ?_
    rw [hb.backwardBytes, hsize p (List.mem_filter.mp hp).1]
    cases p.src.gradient with
    | true => rfl
    | false => rfl
  have hparameter : g'.parameterBytes l = .ok 0 := by
    rw [Graph.parameterBytes, ha.adds.body]
    rfl
  have hoverhead := h.overheadBytes hg ha accelerated
  rw [hsources (List.Subset.refl _), hsources (List.filter_subset_self _)] at hoverhead
  have hcosts := Slot.sum_costs (g.slots d refs) size
  generalize ((g.slots d refs).map size).sum = masks at hoverhead hcosts
  generalize (((g.slots d refs).filter Slot.kept).map size).sum = buffers at hoverhead hcosts
  generalize (((g.slots d refs).filter fun p => !p.kept).map size).sum = forward at hforward hcosts
  generalize (((g.slots d refs).filter fun p => !p.kept).map
    fun p => if p.src.gradient then size p else 0).sum = backward at hbackward hcosts
  refine ⟨⟨0, masks + buffers, forward, backward⟩,
    footprint_eq_ok.mpr ⟨hparameter, hoverhead, hforward, hbackward⟩, ?_⟩
  rw [← hcosts]
  show 0 + (masks + buffers) + forward + backward + _ = _
  omega

theorem DropoutOf.exists_size (h : g.DropoutOf d refs) (hg : g.Reached)
    (ha : g.AddsDropout d refs l g') {own : Footprint} (hown : g'.footprint accelerated l = .ok own) :
    ∃ size : Blob → Int, ∀ b ∈ refs.map g.blob, b.sizeBytes = .ok (size b) := by
  obtain ⟨-, hoverhead, -, -⟩ := footprint_eq_ok.mp hown
  rw [h.overheadBytes hg ha] at hoverhead
  obtain ⟨masks, hmasks, -⟩ := bind_eq_ok.mp hoverhead
  obtain ⟨values, hvalues, -⟩ := sumOver_eq_ok.mp hmasks
  rw [h.map_src] at hvalues
  refine ⟨fun b => b.sizeBytes.toOption.getD 0, fun b hb => ?_⟩
  obtain ⟨n, hn⟩ := exists_mapM_eq_ok.mp ⟨values, hvalues⟩ b hb
  have hget : b.sizeBytes.toOption.getD 0 = n := by rw [hn]; rfl
  rw [hn]
  exact congrArg Except.ok hget.symm

/-! ## Dropouts that keep different inputs -/

/-- The inputs with a gradient that a dropout keeps, once for each position. -/
def spared (g : Graph) (d : Declaration) (refs : List Nat) : List Blob :=
  ((g.slots d refs).filter Slot.saves).map Slot.src

theorem DropoutOf.spared_of_fresh (h : g.DropoutOf d refs)
    (hfresh : ∀ top ∈ d.outputs, g.contains top = false) : g.spared d refs = [] := by
  rw [spared, List.map_eq_nil_iff, List.filter_eq_nil_iff]
  intro p hp
  have htop : p.top ∈ d.outputs := h.map_top ▸ List.mem_map_of_mem hp
  rw [Slot.saves, (h.of_mem hp).2.1, hfresh p.top htop]
  exact Bool.false_ne_true

theorem DropoutOf.spared_of_not_training (h : g.DropoutOf d refs) (hg : g.Reached)
    (htest : g.training = false) : g.spared d refs = [] := by
  rw [spared, List.map_eq_nil_iff, List.filter_eq_nil_iff]
  intro p hp hsaves
  obtain ⟨⟨ref, href, hsrc⟩, -⟩ := h.of_mem hp
  have hneeds : (g.blob ref).gradient = true := hsrc ▸ (Bool.and_eq_true_iff.mp hsaves).2
  rw [hg.training_of_gradient ref (h.registered href) hneeds] at htest
  cases htest

/-- Two dropouts over the same blobs take the same if what each of them spares is added. -/
theorem DropoutOf.memoryTotal {d₁ d₂ : Declaration} (h₁ : g.DropoutOf d₁ refs)
    (h₂ : g.DropoutOf d₂ refs) (hg : g.Reached) (ha₁ : g.AddsDropout d₁ refs l₁ g₁)
    (ha₂ : g.AddsDropout d₂ refs l₂ g₂)
    (htotal : (Network.mk label g₁).memoryTotal acc = .ok total) :
    ∃ total₁ total₂ sizes₁ sizes₂, total = .whole total₁ ∧
      (Network.mk label g₂).memoryTotal acc = .ok (.whole total₂) ∧
      (g.spared d₁ refs).mapM Blob.sizeBytes = .ok sizes₁ ∧
      (g.spared d₂ refs).mapM Blob.sizeBytes = .ok sizes₂ ∧
      total₁ + sizes₁.sum = total₂ + sizes₂.sum := by
  obtain ⟨earlier, own₁, hearlier, hown₁, rfl⟩ := ha₁.adds.memoryTotal_eq_ok.mp htotal
  obtain ⟨size, hsize⟩ := h₁.exists_size hg ha₁ hown₁
  -- the inputs are the same, so one size for each of them serves both
  have hsrc {d : Declaration} (h : g.DropoutOf d refs) :
      ∀ p ∈ g.slots d refs, p.src.sizeBytes = .ok (size p.src) :=
    fun p hp => hsize p.src (h.map_src ▸ List.mem_map_of_mem hp)
  have hspared {d : Declaration} (h : g.DropoutOf d refs) :
      (g.spared d refs).mapM Blob.sizeBytes =
        .ok (((g.slots d refs).filter Slot.saves).map fun p => size p.src) := by
    rw [spared, List.mapM_map, mapM_eq_ok, List.forall₂_map_right_iff, List.forall₂_same]
    exact fun p hp => hsrc h p (List.mem_filter.mp hp).1
  have hcosts {d : Declaration} (h : g.DropoutOf d refs) :
      ((g.slots d refs).map fun p =>
          2 * size p.src + if p.src.gradient then size p.src else 0).sum =
        ((refs.map g.blob).map fun b => 2 * size b + if b.gradient then size b else 0).sum := by
    rw [← h.map_src, List.map_map]
    rfl
  obtain ⟨own₁', hown₁', hsum₁⟩ := h₁.exists_footprint hg ha₁ (hsrc h₁) acc.truthy
  obtain ⟨own₂, hown₂, hsum₂⟩ := h₂.exists_footprint hg ha₂ (hsrc h₂) acc.truthy
  obtain rfl := eq_of_ok hown₁ hown₁'
  have hsame := ha₁.adds.sameOld ha₂.adds hg (ha₁.family.trans ha₂.family.symm)
    (ha₁.inputs.trans ha₂.inputs.symm)
  have hearlier₂ : g.layers.mapM (g₂.footprint acc.truthy) = .ok earlier := by
    rw [← hearlier]
    refine mapM_congr fun l hl => Eq.symm ?_
    exact hsame.footprint hg ha₁.adds.extends ha₂.adds.extends hl acc.truthy
  refine ⟨_, _, _, _, rfl, ha₂.adds.memoryTotal_eq_ok.mpr ⟨earlier, own₂, hearlier₂, hown₂, rfl⟩,
    hspared h₁, hspared h₂, ?_⟩
  rw [hcosts h₁] at hsum₁
  rw [hcosts h₂] at hsum₂
  omega

/-- Whatever was created by name before, a dropout may keep any of its inputs, and it may keep none.
The network that keeps some has a report exactly if the other one has, with the accelerated library
and without it, and its total is smaller by the gradients of the inputs that it keeps. In testing
there are none. -/
theorem create_dropout (phase : Phase) (elementSize : Option (List Float))
    (ds : List Declaration) {d : Declaration} {tops : List Value} {refs : List Nat}
    (h : ((empty phase elementSize).createAll ds).DropoutOf d refs)
    (h' : ((empty phase elementSize).createAll ds).DropoutOf { d with outputs := tops } refs)
    (hfresh : ∀ top ∈ tops, ((empty phase elementSize).createAll ds).contains top = false) :
    ∃ g₁ l₁ g₂ l₂,
      ((empty phase elementSize).createAll ds).create d none = ⟨g₁, .ok l₁⟩ ∧
      ((empty phase elementSize).createAll ds).create { d with outputs := tops } none =
        ⟨g₂, .ok l₂⟩ ∧
      ∀ label acc,
        ((∃ rep, g₁.report acc = .ok rep) ↔ ∃ rep, g₂.report acc = .ok rep) ∧
        ∀ rep, g₁.report acc = .ok rep → ∃ total sizes,
          (Network.mk label g₁).memoryTotal acc = .ok (.whole (total - sizes.sum)) ∧
          (Network.mk label g₂).memoryTotal acc = .ok (.whole total) ∧
          (((empty phase elementSize).createAll ds).spared d refs).mapM Blob.sizeBytes =
            .ok sizes ∧
          (phase = .test → (Network.mk label g₁).memoryTotal acc =
            (Network.mk label g₂).memoryTotal acc) := by
  have hg := (Reached.empty phase elementSize).createAll ds
  have hphase : ((empty phase elementSize).createAll ds).phase = phase :=
    (Reached.empty phase elementSize).extends_createAll ds |>.phase
  generalize (empty phase elementSize).createAll ds = g at h h' hfresh hg hphase ⊢
  obtain ⟨l₁, g₁, hcreate₁, ha₁⟩ := h.exists_adds hg
  obtain ⟨l₂, g₂, hcreate₂, ha₂⟩ := h'.exists_adds hg
  refine ⟨g₁, l₁, g₂, l₂, hcreate₁, hcreate₂, fun label acc => ⟨?_, fun rep hrep => ?_⟩⟩
  · rw [exists_report_iff_memoryTotal label, exists_report_iff_memoryTotal label]
    constructor
    · rintro ⟨total, htotal⟩
      obtain ⟨_, total₂, _, _, -, htotal₂, -⟩ := h.memoryTotal h' hg ha₁ ha₂ htotal
      exact ⟨_, htotal₂⟩
    · rintro ⟨total, htotal⟩
      obtain ⟨_, total₁, _, _, -, htotal₁, -⟩ := h'.memoryTotal h hg ha₂ ha₁ htotal
      exact ⟨_, htotal₁⟩
  · obtain ⟨total, htotal⟩ := (exists_report_iff_memoryTotal label).mp ⟨rep, hrep⟩
    obtain ⟨total₁, total₂, sizes, rest, rfl, htotal₂, hsizes, hrest, hsum⟩ :=
      h.memoryTotal h' hg ha₁ ha₂ htotal
    rw [h'.spared_of_fresh hfresh] at hrest
    obtain rfl : [] = rest := pure_eq_ok.mp hrest
    rw [List.sum_nil, Int.add_zero] at hsum
    obtain rfl : total₁ = total₂ - sizes.sum := by omega
    refine ⟨total₂, sizes, htotal, htotal₂, hsizes, fun htest => ?_⟩
    have htraining : g.training = false := by
      rw [training, hphase, htest]
      rfl
    rw [h.spared_of_not_training hg htraining] at hsizes
    obtain rfl : [] = sizes := pure_eq_ok.mp hsizes
    rw [htotal, htotal₂, List.sum_nil, Int.sub_zero]

/-- A dropout of what a convolution made, and of what that reads. -/
def mixedDropout (top : String) : Declaration where
  type := "Dropout"
  name := "drop"
  inputs := ["y", "data"]
  outputs := [.text top, .text "q"]
  params := []
  included := []
  excluded := []

theorem dropoutOf_mixed {top : String} (htop : top = "y" ∨ top = "p") :
    ((empty .train none).createAll (oneSource ++ [convolutionOf (.int 2)])).DropoutOf
      (mixedDropout top) [1, 0] where
  type := rfl
  name := by
    show ∀ other ∈ _, Layer.name other ≠ "drop"
    decide +kernel
  nonempty := List.cons_ne_nil 1 [0]
  inputs := .cons (by decide +kernel) (.cons (by decide +kernel) .nil)
  arrays := by decide +kernel
  outputs := by
    refine .cons ?_ (.cons (.inr ⟨"q", rfl, by decide +kernel⟩) .nil)
    rcases htop with rfl | rfl
    · exact .inl rfl
    · exact .inr ⟨"p", rfl, by decide +kernel⟩
  apart := by
    refine List.Nodup.filter _ ?_
    rcases htop with rfl | rfl
    · simp [mixedDropout]
    · simp [mixedDropout]

theorem create_dropout_mixed : ∃ g₁ l₁ g₂ l₂,
    ((empty .train none).createAll (oneSource ++ [convolutionOf (.int 2)])).create
      (mixedDropout "y") none = ⟨g₁, .ok l₁⟩ ∧
    ((empty .train none).createAll (oneSource ++ [convolutionOf (.int 2)])).create
      (mixedDropout "p") none = ⟨g₂, .ok l₂⟩ ∧
    ∃ total : Int, (Network.mk .null g₁).memoryTotal .null = .ok (.whole (total - 4 * 24)) ∧
      (Network.mk .null g₂).memoryTotal .null = .ok (.whole total) := by
  have hfresh : ∀ top ∈ (mixedDropout "p").outputs,
      ((empty .train none).createAll (oneSource ++ [convolutionOf (.int 2)])).contains top =
        false := by decide +kernel
  obtain ⟨g₁, l₁, g₂, l₂, hcreate₁, hcreate₂, htotals⟩ := create_dropout .train none
    (oneSource ++ [convolutionOf (.int 2)]) (dropoutOf_mixed (.inl rfl))
    (dropoutOf_mixed (.inr rfl)) hfresh
  have hreport : ((((empty .train none).createAll (oneSource ++ [convolutionOf (.int 2)])).create
      (mixedDropout "y") none).graph.report .null).toOption.isSome = true := by decide +kernel
  have hspared : ((((empty .train none).createAll (oneSource ++ [convolutionOf (.int 2)])).spared
      (mixedDropout "y") [1, 0]).mapM Blob.sizeBytes).toOption = some [96] := by decide +kernel
  rw [hcreate₁, toOption_isSome_iff] at hreport
  obtain ⟨rep, hrep⟩ := hreport
  obtain ⟨total, sizes, htotal₁, htotal₂, hsizes, -⟩ := (htotals .null .null).2 rep hrep
  rw [hsizes] at hspared
  obtain rfl : sizes = [96] := Option.some.inj hspared
  exact ⟨g₁, l₁, g₂, l₂, hcreate₁, hcreate₂, total, htotal₁, htotal₂⟩

end Graph

end NetFootprint
