import NetFootprint.Proofs.Graph.Integrity
import NetFootprint.Proofs.Graph.Rank

/-!
# One number of spatial axes

The number of spatial axes of a graph is given at the start, or else the first blob that is
registered and is no scalar settles it; every later blob has to have it. That first blob may lack
channels, though, as a blob does that was made after a scalar. The number is then zero, and the blob
that settled it does not have it. Nothing else goes wrong, in whatever order layers are built and
appended.
-/

namespace NetFootprint

namespace Graph

variable {g g' g'' : Graph} {l : Layer} {fresh : List Nat} {rank : Option Int} {ref : Nat}

/-- Every registered blob but scalars has samples, channels and the spatial axes of the graph. -/
def OneRank (g : Graph) : Prop :=
  ∀ ref ∈ g.registered, (g.blob ref).isScalar = false →
    ∃ n, g.spatialRank = some n ∧ (g.blob ref).shape.length = n + 2

/-- The place of the first registered blob that is no scalar. -/
def firstShaped? (g : Graph) : Option Nat := g.registered.find? fun ref => !(g.blob ref).isScalar

/-- Every registered blob but scalars has samples and channels. -/
def Channelled (g : Graph) : Prop :=
  ∀ ref ∈ g.registered, (g.blob ref).isScalar = false → 2 ≤ (g.blob ref).shape.length

theorem of_firstShaped? (h : g.firstShaped? = some ref) :
    ref ∈ g.registered ∧ (g.blob ref).isScalar = false :=
  ⟨List.mem_of_find?_eq_some h, by simpa using List.find?_some h⟩

theorem exists_firstShaped? (href : ref ∈ g.registered) (hs : (g.blob ref).isScalar = false) :
    ∃ first, g.firstShaped? = some first :=
  Option.isSome_iff_exists.mp (List.find?_isSome.mpr ⟨ref, href, by simp [hs]⟩)

theorem Extends.firstShaped? (hg : g.Extends g') (hp : ∀ ref ∈ g.registered, ref < g.blobs.length)
    (h : g.firstShaped? = some ref) : g'.firstShaped? = some ref := by
  obtain ⟨more, hmore⟩ := hg.registered
  have hsame : g.registered.find? (fun ref => !(g'.blob ref).isScalar) = g.firstShaped? := by
    refine List.find?_congr fun ref href => ?_
    rw [Blob.of_fixed Blob.isScalar (hg.fixed ref (hp ref href))]
  rw [Graph.firstShaped?, ← hmore, List.find?_append, hsame, h]
  rfl

/-! ## One step -/

/-- What a call does about axes: the blobs that are registered, if they are no scalars, have one
number of spatial axes. It was known before, or it is known from then on, but not below zero. -/
structure Levels (g g' : Graph) : Prop where
  grown : g.Extends g'
  axes : ∃ (more : List Nat) (rank : Int), g'.registered = g.registered ++ more ∧
    ∀ ref ∈ more, (g'.blob ref).isScalar = false →
      (g'.blob ref).spatialRank = rank ∧ g'.spatialRank = some rank.toNat ∧
        ∀ n, g.spatialRank = some n → rank = n

theorem Levels.of_extends (hg : g.Extends g') (hr : g'.registered = g.registered ++ []) :
    g.Levels g' :=
  ⟨hg, [], 0, hr, List.forall_mem_nil _⟩

theorem Levels.accepted (ha : g.approve l = .ok (fresh, rank)) :
    g.Levels (g.accepted l fresh rank) := by
  obtain ⟨-, hv⟩ := approve_ok ha
  refine ⟨(Persists.accepted g l fresh rank).grown, fresh, rank.getD 0, registered_accepted, ?_⟩
  intro ref href hs
  rw [hv.new, List.mem_filter] at href
  obtain ⟨hrank, hknown⟩ := axes_accepted hv href.1 href.2 hs
  have hfixed := @fixed_blob_accepted g l fresh rank ref
  rw [Blob.of_fixed Blob.isScalar hfixed] at hs
  rw [Blob.of_fixed Blob.spatialRank hfixed] at hrank hknown ⊢
  obtain rfl := hv.axes ref href.1 href.2 hs
  exact ⟨rfl, hrank, hknown⟩

/-- Nothing is registered while a layer is built. -/
theorem Levels.after (h : g'.Levels g'') (hg : g.Extends g')
    (hr : g'.registered = g.registered ++ []) : g.Levels g'' := by
  obtain ⟨more, rank, hmore, haxes⟩ := h.axes
  refine ⟨hg.trans h.grown, more, rank, by rw [hmore, hr, List.append_nil], ?_⟩
  intro ref href hs
  obtain ⟨hb, hrank, hknown⟩ := haxes ref href hs
  exact ⟨hb, hrank, fun n hn => hknown n (hg.spatialRank hn)⟩

/-- What holds of all graphs: a blob that is no scalar settles the number of spatial axes up to its
sign, and if the first one has channels, all others have. -/
structure Levelled (g : Graph) : Prop where
  settled : ∀ ref ∈ g.registered, (g.blob ref).isScalar = false →
    g.spatialRank = some (g.blob ref).spatialRank.toNat
  led : (∀ ref ∈ g.firstShaped?, 2 ≤ (g.blob ref).shape.length) → g.Channelled

theorem Levelled.empty (phase : Phase) (elementSize : Option (List Float)) :
    (Graph.empty phase elementSize).Levelled where
  settled := by simp [Graph.empty]
  led := by simp [Graph.empty, Channelled]

theorem Levelled.oneRank (h : g.Levelled) (hc : g.Channelled) : g.OneRank := by
  intro ref href hs
  refine ⟨_, h.settled ref href hs, ?_⟩
  have hlen := hc ref href hs
  rw [Blob.spatialRank_of_shaped hs]
  omega

theorem Levelled.oneRank_iff (h : g.Levelled) :
    g.OneRank ↔ ∀ ref ∈ g.firstShaped?, 2 ≤ (g.blob ref).shape.length := by
  refine ⟨fun hone ref hfirst => ?_, fun hfirst => h.oneRank (h.led hfirst)⟩
  obtain ⟨href, hs⟩ := of_firstShaped? hfirst
  obtain ⟨n, -, hlen⟩ := hone ref href hs
  omega

theorem Levels.channelled (h : g.Levels g') (hp : ∀ ref ∈ g.registered, ref < g.blobs.length)
    (hknown : g.elementSize ≠ none) (hc : g.Channelled) : g'.Channelled := by
  obtain ⟨more, rank, hr, haxes⟩ := h.axes
  obtain ⟨size, hsize⟩ := Option.ne_none_iff_exists'.mp hknown
  intro ref href hs
  rcases List.mem_append.mp (hr ▸ href) with hold | hnew
  · have hfixed := h.grown.fixed ref (hp ref hold)
    rw [Blob.of_fixed Blob.shape hfixed]
    exact hc ref hold (by rwa [← Blob.of_fixed Blob.isScalar hfixed])
  · obtain ⟨hb, -, hn⟩ := haxes ref hnew hs
    have hrank := hn size.length (by rw [spatialRank, hsize]; rfl)
    rw [Blob.spatialRank_of_shaped hs] at hb
    omega

/-- Blobs that settle the number of axes together have channels if one of them has. -/
theorem Levels.channelled_of_first (h : g.Levels g') (hg : ∀ ref ∈ g.registered,
    (g.blob ref).isScalar = true) (hp : ∀ ref ∈ g.registered, ref < g.blobs.length)
    (hfirst : ∀ ref ∈ g'.firstShaped?, 2 ≤ (g'.blob ref).shape.length) : g'.Channelled := by
  obtain ⟨more, rank, hr, haxes⟩ := h.axes
  have hnew : ∀ ref ∈ g'.registered, (g'.blob ref).isScalar = false → ref ∈ more := by
    intro ref href hs
    refine (List.mem_append.mp (hr ▸ href)).resolve_left fun hold => ?_
    have hscalar := hg ref hold
    rw [← Blob.of_fixed Blob.isScalar (h.grown.fixed ref (hp ref hold)), hs] at hscalar
    cases hscalar
  intro ref href hs
  obtain ⟨first, hf⟩ := exists_firstShaped? href hs
  obtain ⟨hmem, hshaped⟩ := of_firstShaped? hf
  obtain ⟨hb, -⟩ := haxes ref (hnew ref href hs) hs
  obtain ⟨hb', -⟩ := haxes first (hnew first hmem hshaped) hshaped
  rw [Blob.spatialRank_of_shaped hs] at hb
  rw [Blob.spatialRank_of_shaped hshaped] at hb'
  have hlen := hfirst first hf
  omega

theorem Levels.levelled (h : g.Levels g') (hp : ∀ ref ∈ g.registered, ref < g.blobs.length)
    (hg : g.Levelled) : g'.Levelled where
  settled := by
    obtain ⟨more, rank, hr, haxes⟩ := h.axes
    intro ref href hs
    rcases List.mem_append.mp (hr ▸ href) with hold | hnew
    · have hfixed := h.grown.fixed ref (hp ref hold)
      rw [Blob.of_fixed Blob.isScalar hfixed] at hs
      rw [Blob.of_fixed Blob.spatialRank hfixed]
      exact h.grown.spatialRank (hg.settled ref hold hs)
    · obtain ⟨hb, hrank, -⟩ := haxes ref hnew hs
      rw [hrank, hb]
  led := by
    intro hfirst
    by_cases hknown : g.elementSize = none
    · -- no blob has settled the number of axes yet
      refine h.channelled_of_first (fun ref href => ?_) hp hfirst
      by_contra hs
      have hsettled := hg.settled ref href (by simpa using hs)
      rw [spatialRank, hknown] at hsettled
      cases hsettled
    · refine h.channelled hp hknown (hg.led fun ref hf => ?_)
      have hlen := hfirst ref (h.grown.firstShaped? hp hf)
      have hlt := hp ref (of_firstShaped? hf).1
      rwa [Blob.of_fixed Blob.shape (h.grown.fixed ref hlt)] at hlen

end Graph

namespace Session

open NetFootprint.Graph

variable {s : Session}

theorem Housed.levels (h : s.Housed) (c : Call) : s.graph.Levels (s.step c).1.graph := by
  have hmoves := h.complete.moves c
  generalize s.step c = outcome at hmoves ⊢
  cases hmoves with
  | refused => exact .of_extends (.refl _) (List.append_nil _).symm
  | described b =>
    have hg : s.graph.Persists (s.graph.place b).2 := .placing rfl rfl rfl rfl rfl
    exact .of_extends hg.grown (List.append_nil _).symm
  | marked _ refs =>
    refine .of_extends (Persists.foldl_mark s.graph refs).grown ?_
    rw [foldl_mark_eq, List.append_nil]
  | built _ hb => exact .of_extends (persists_build hb).grown (registered_build hb)
  | created _ hb ha =>
    exact (Levels.accepted ha).after (persists_build hb).grown (registered_build hb)
  | appended _ ha => exact .accepted ha

theorem Housed.run_levelled (h : s.Housed) (hg : s.graph.Levelled) (calls : List Call) :
    (s.run calls).graph.Levelled := by
  induction calls generalizing s with
  | nil => exact hg
  | cons c rest ih => exact ih (h.step c).1 ((h.levels c).levelled h.placed hg)

theorem Housed.run_channelled (h : s.Housed) (hknown : s.graph.elementSize ≠ none)
    (hc : s.graph.Channelled) (calls : List Call) : (s.run calls).graph.Channelled := by
  induction calls generalizing s with
  | nil => exact hc
  | cons c rest ih =>
    have hlevels := h.levels c
    refine ih (h.step c).1 ?_ (hlevels.channelled h.placed hknown hc)
    obtain ⟨size, hsize⟩ := Option.ne_none_iff_exists'.mp hknown
    rw [hlevels.grown.elementSize size hsize]
    exact Option.some_ne_none size

/-- However a session is used, its blobs have one number of spatial axes if that number was given at
the start. If it was not, they have one exactly if the first registered blob that is no scalar has
samples and channels. -/
theorem run_oneRank (phase : Phase) (calls : List Call) :
    (∀ size, ((start phase (some size)).run calls).graph.OneRank) ∧
      ∀ elementSize, ((start phase elementSize).run calls).graph.OneRank ↔
        ∀ ref ∈ ((start phase elementSize).run calls).graph.firstShaped?,
          2 ≤ (((start phase elementSize).run calls).graph.blob ref).shape.length := by
  have hlevelled (elementSize : Option (List Float)) :
      ((start phase elementSize).run calls).graph.Levelled :=
    (Housed.start phase elementSize).run_levelled (.empty phase elementSize) calls
  refine ⟨fun size => ?_, fun elementSize => (hlevelled elementSize).oneRank_iff⟩
  refine (hlevelled (some size)).oneRank ?_
  refine (Housed.start phase (some size)).run_channelled (Option.some_ne_none size) ?_ calls
  simp [Channelled, start, Graph.empty]

/-- A loss and the source that it reads are built but not registered, and what a ReLU makes of the
loss is registered first. -/
def lossFirst : List Call :=
  [.build { plainLayer "Data" "source" [] "data" with
      params := [("shape", .list [.int 1, .int 2, .int 3, .int 4])] } none,
    .build (plainLayer "SoftmaxWithLoss" "loss" ["data"] "loss") (some [0]),
    .create (plainLayer "ReLU" "relu" ["loss"] "y") (some [1])]

/-- The blob has a single axis, but no spatial axes are asked for. -/
theorem not_oneRank_lossFirst : ¬ ((start .test none).run lossFirst).graph.OneRank := by
  intro h
  obtain ⟨n, -, hlen⟩ := h 2 (by decide +kernel) (by decide +kernel)
  have hone : (((start .test none).run lossFirst).graph.blob 2).shape.length = 1 := by
    decide +kernel
  omega

end Session

end NetFootprint
