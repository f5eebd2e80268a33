import Mathlib.Data.List.Perm.Basic
import NetFootprint.Proofs.Layer.Explained
import NetFootprint.Proofs.Layer.Sizing

/-!
# Concatenations

A concatenation looks at the extents, the element size and the gradient flag of its inputs; the
`Slab` of a blob is made of these. Two slabs join to the slab of their concatenation. To join is
associative, and the slabs behind the first one may change places; a concatenation makes a blob with
the slab that those of its inputs join to.
-/

namespace NetFootprint

/-- What a concatenation looks at of a blob. -/
structure Slab where
  samples : Nat
  channels : Nat
  spatial : List Nat
  elementSize : List Float
  gradient : Bool

namespace Slab

variable {s t : Slab} {slabs rest rest' : List Slab} {groups : List (List Slab)}

/-- The channels of two slabs are added up, and their spatial axes cropped to the smaller extent.
Samples and element size are those of the first. -/
def join (s t : Slab) : Slab where
  samples := s.samples
  channels := s.channels + t.channels
  spatial := List.zipWith min s.spatial t.spatial
  elementSize := s.elementSize
  gradient := s.gradient || t.gradient

theorem zipWith_min_assoc (xs ys zs : List Nat) :
    List.zipWith min (List.zipWith min xs ys) zs =
      List.zipWith min xs (List.zipWith min ys zs) := by
  induction xs generalizing ys zs with
  | nil => simp
  | cons x xs ih => cases ys <;> cases zs <;> simp [ih, Nat.min_assoc]

instance : Std.Associative join where
  assoc s t u := by
    simp only [join, Nat.add_assoc, zipWith_min_assoc, Bool.or_assoc]

instance : RightCommutative join where
  right_comm s t u := by
    have hswap : List.zipWith min t.spatial u.spatial = List.zipWith min u.spatial t.spatial :=
      List.zipWith_comm_of_comm Nat.min_comm
    simp only [join, zipWith_min_assoc, hswap, Nat.add_right_comm _ t.channels, Bool.or_right_comm]

/-- The slab of a concatenation of slabs. -/
def joinAll : List Slab → Option Slab
  | [] => none
  | s :: rest => some (rest.foldl join s)

theorem foldl_join_flatten (h : List.Forall₂ (fun group t => joinAll group = some t) groups slabs)
    (s : Slab) : slabs.foldl join s = groups.flatten.foldl join s := by
  induction h generalizing s with
  | nil => rfl
  | @cons group t groups slabs ht _ ih =>
    cases group with
    | nil => cases ht
    | cons first others =>
      obtain rfl := Option.some.inj ht
      rw [List.foldl_cons, ih, List.flatten_cons, List.foldl_append, List.foldl_cons,
        List.foldl_assoc (l := others)]

/-- Slabs may be joined in groups. -/
theorem joinAll_flatten (h : List.Forall₂ (fun group t => joinAll group = some t) groups slabs) :
    joinAll slabs = joinAll groups.flatten := by
  cases h with
  | nil => rfl
  | @cons group t groups slabs ht h =>
    cases group with
    | nil => cases ht
    | cons first others =>
      obtain rfl := Option.some.inj ht
      rw [List.flatten_cons, List.cons_append, joinAll, joinAll, foldl_join_flatten h,
        List.foldl_append]

theorem joinAll_perm (h : rest.Perm rest') (s : Slab) : joinAll (s :: rest) = joinAll (s :: rest') :=
  congrArg some (h.foldl_eq s)

/-! ## The parts of a slab -/

@[simp] theorem samples_foldl (slabs : List Slab) (s : Slab) :
    (slabs.foldl join s).samples = s.samples := by
  induction slabs generalizing s with
  | nil => rfl
  | cons t rest ih => simp [ih, join]

@[simp] theorem elementSize_foldl (slabs : List Slab) (s : Slab) :
    (slabs.foldl join s).elementSize = s.elementSize := by
  induction slabs generalizing s with
  | nil => rfl
  | cons t rest ih => simp [ih, join]

theorem channels_foldl (slabs : List Slab) (s : Slab) :
    (slabs.foldl join s).channels = (slabs.map channels).foldl (· + ·) s.channels := by
  induction slabs generalizing s with
  | nil => rfl
  | cons t rest ih => simp [ih, join]

theorem gradient_foldl (slabs : List Slab) (s : Slab) :
    (slabs.foldl join s).gradient = (s.gradient || slabs.any gradient) := by
  induction slabs generalizing s with
  | nil => simp
  | cons t rest ih => simp [ih, join, Bool.or_assoc]

theorem length_spatial_foldl {n : Nat} (hs : s.spatial.length = n)
    (h : ∀ t ∈ slabs, t.spatial.length = n) : (slabs.foldl join s).spatial.length = n := by
  induction slabs generalizing s with
  | nil => exact hs
  | cons t rest ih =>
    obtain ⟨ht, hrest⟩ := List.forall_mem_cons.mp h
    exact ih (by simp [join, hs, ht]) hrest

end Slab

/-! ## The slabs of blobs -/

/-- A blob is no scalar, and the slab is what a concatenation looks at of it. -/
structure Blob.Shows (b : Blob) (s : Slab) : Prop where
  array : b.isScalar = false
  shape : b.shape = s.samples :: s.channels :: s.spatial
  elementSize : b.elementSize = s.elementSize
  gradient : b.gradient = s.gradient

namespace Blob

variable {b : Blob} {s : Slab} {rank : Nat}

theorem Regular.exists_shows (h : b.Regular rank) (hs : b.isScalar = false) : ∃ s, b.Shows s := by
  have hlen := h.array hs
  match hshape : b.shape with
  | [] | [_] => simp [hshape] at hlen
  | samples :: channels :: spatial =>
    exact ⟨⟨samples, channels, spatial, b.elementSize, b.gradient⟩, hs, hshape, rfl, rfl⟩

theorem Shows.samples_ok (h : b.Shows s) : b.samples = .ok s.samples := by
  simp [samples, extent, h.shape]

theorem Shows.channels_ok (h : b.Shows s) : b.channels = .ok s.channels := by
  simp [channels, extent, h.shape]

theorem Shows.extent_ok (h : b.Shows s) {d e : Nat} (hd : s.spatial[d]? = some e) :
    b.extent (d + 2) = .ok e := by
  simp [extent, h.shape, hd]

theorem Shows.length_spatial (h : b.Shows s) (hb : b.Regular rank) : s.spatial.length = rank := by
  simpa [h.shape] using hb.array h.array

theorem Shows.spatialRank (h : b.Shows s) : b.spatialRank = s.spatial.length := by
  rw [Blob.spatialRank, h.array, h.shape]
  simp only [Bool.false_eq_true, if_false, List.length_cons]
  omega

end Blob

namespace Site

variable {s : Site} {first : Blob} {others : List Blob} {slab : Slab} {slabs : List Slab}
  {rank : Nat} {top : Value}

/-- Going through the blobs, the least extent so far is that of the slabs that were joined. -/
theorem foldlM_min (h : List.Forall₂ Blob.Shows others slabs) {d least : Nat}
    (hleast : slab.spatial[d]? = some least) (hd : ∀ t ∈ slabs, d < t.spatial.length) :
    ∃ e, others.foldlM (fun least b => do return min least (← b.extent (d + 2))) least =
        (.ok e : Except Misuse Nat) ∧ (slabs.foldl Slab.join slab).spatial[d]? = some e := by
  induction h generalizing slab least with
  | nil => exact ⟨least, rfl, hleast⟩
  | @cons b t others slabs hb _ ih =>
    obtain ⟨ht, hrest⟩ := List.forall_mem_cons.mp hd
    have hat := List.getElem?_eq_getElem ht
    have hjoin : (slab.join t).spatial[d]? = some (min least t.spatial[d]) :=
      List.getElem?_zipWith_eq_some.mpr ⟨least, t.spatial[d], hleast, hat, rfl⟩
    obtain ⟨e, he, hfold⟩ := ih hjoin hrest
    refine ⟨e, ?_, hfold⟩
    rw [List.foldlM_cons, hb.extent_ok hat]
    exact he

theorem mapM_smallestExtent (hfirst : first.Shows slab)
    (hothers : List.Forall₂ Blob.Shows others slabs)
    (hlen : ∀ t ∈ slabs, t.spatial.length = slab.spatial.length) :
    (List.range (first.shape.length - 2)).mapM (fun d => smallestExtent (d + 2) first others) =
      .ok (slabs.foldl Slab.join slab).spatial := by
  have hjoined := Slab.length_spatial_foldl rfl hlen
  rw [mapM_eq_ok, List.forall₂_iff_get]
  refine ⟨by simp [hfirst.shape, hjoined], fun d hd hd' => ?_⟩
  have haxis : d < slab.spatial.length := by rwa [hjoined] at hd'
  have hat := List.getElem?_eq_getElem haxis
  obtain ⟨e, he, hfold⟩ := foldlM_min hothers hat fun t ht => hlen t ht ▸ haxis
  have hresult : (slabs.foldl Slab.join slab).spatial.get ⟨d, hd'⟩ = e :=
    (List.getElem?_eq_some_iff.mp hfold).2
  rw [hresult, smallestExtent, List.get_eq_getElem, List.getElem_range, hfirst.extent_ok hat]
  exact he

theorem mapM_concatenated (h : ∀ b ∈ others, b.spatialRank = first.spatialRank) :
    (others.map some).mapM (s.concatenated first) = .ok others := by
  rw [mapM_eq_ok, List.forall₂_map_left_iff, List.forall₂_same]
  intro b hb
  simp only [concatenated, bind_eq_ok, lift_eq_ok, present_eq_ok, Option.some.injEq, h b hb, ne_eq,
    not_true, if_false, pure_eq_ok, exists_eq_left']

section

variable (hregular : ∀ b ∈ first :: others, b.Regular rank)
  (hslabs : List.Forall₂ Blob.Shows (first :: others) (slab :: slabs))

include hslabs

theorem gradient_slabs :
    (slabs.foldl Slab.join slab).gradient = (first :: others).any (·.gradient) := by
  rw [Slab.gradient_foldl, ← List.any_cons (f := Slab.gradient)]
  exact any_same hslabs fun b t hshow => hshow.gradient.symm

include hregular

theorem length_spatial_slabs : ∀ t ∈ slabs, t.spatial.length = slab.spatial.length := by
  obtain ⟨hfirst, hothers⟩ := List.forall₂_cons.mp hslabs
  intro t ht
  obtain ⟨b, hb, hshow⟩ := exists_of_mem_right hothers ht
  rw [hshow.length_spatial (hregular b (by simp [hb])),
    hfirst.length_spatial (hregular first (by simp))]

theorem spatialRank_slabs {b : Blob} (hb : b.Shows (slabs.foldl Slab.join slab)) :
    b.spatialRank = rank := by
  have hfirst := (List.forall₂_cons.mp hslabs).1
  rw [hb.spatialRank, Slab.length_spatial_foldl rfl (length_spatial_slabs hregular hslabs),
    hfirst.length_spatial (hregular first (by simp))]

theorem pos_slabs : ∀ e ∈ slab.samples :: (slabs.foldl Slab.join slab).channels ::
    (slabs.foldl Slab.join slab).spatial, 1 ≤ e := by
  obtain ⟨hfirst, hothers⟩ := List.forall₂_cons.mp hslabs
  have hextents := (hregular first (by simp)).extents
  rw [hfirst.shape] at hextents
  obtain ⟨hsamples, hrest⟩ := List.forall_mem_cons.mp hextents
  have hchannels : 1 ≤ (slabs.foldl Slab.join slab).channels := by
    rw [Slab.channels_foldl]
    exact Nat.le_trans (List.forall_mem_cons.mp hrest).1 (le_foldl_add _ _)
  refine List.forall_mem_cons.mpr ⟨hsamples, List.forall_mem_cons.mpr ⟨hchannels, fun e he => ?_⟩⟩
  have hspatial := mapM_smallestExtent hfirst hothers (length_spatial_slabs hregular hslabs)
  obtain ⟨d, -, hd⟩ := exists_of_mem_right (mapM_eq_ok.mp hspatial) he
  obtain ⟨b, hb, hat⟩ := smallestExtent_ok hd
  exact (hregular b hb).extents e (Blob.mem_of_extent hat)

/-- Blobs are concatenated to one with the slab that theirs join to. -/
theorem exists_concatLayer (hin : s.inputs = (first :: others).map some)
    (hout : s.declaration.outputs = [top]) (hfresh : s.requireFresh top = .ok ())
    (htrain : ∀ b ∈ first :: others, b.gradient = true → s.graph.training = true) :
    ∃ b, s.concatLayer = .ok ⟨[.made b], .concat⟩ ∧ b.Shows (slabs.foldl Slab.join slab) := by
  obtain ⟨hfirst, hothers⟩ := List.forall₂_cons.mp hslabs
  have hlen := length_spatial_slabs hregular hslabs
  have hinputs : s.requireInputs 1 none = .ok () := by
    rw [requireInputs_eq_ok, inRange_iff, hin]
    simp
  have houtputs : s.requireOutputs 1 (some 1) = .ok () := by
    rw [requireOutputs_eq_ok, hout]
    rfl
  have hsource : s.source = .ok first := source_eq_ok.mpr ⟨others.map some, hin⟩
  have htarget : s.target = .ok top := target_eq_ok.mpr ⟨[], hout⟩
  have htaken : (s.inputs.drop 1).mapM (s.concatenated first) = .ok others := by
    rw [hin]
    apply mapM_concatenated
    intro b hb
    obtain ⟨t, ht, hshow⟩ := exists_of_mem_right hothers.flip hb
    rw [hshow.spatialRank, hfirst.spatialRank, hlen t ht]
  have hchannels : (first :: others).mapM Blob.channels =
      .ok ((slab :: slabs).map Slab.channels) := by
    rw [mapM_eq_ok, List.forall₂_map_right_iff]
    exact hslabs.imp fun b t hshow => hshow.channels_ok
  have hsum : ((slab :: slabs).map Slab.channels).foldl (· + ·) 0 =
      (slabs.foldl Slab.join slab).channels := by
    rw [Slab.channels_foldl, List.map_cons, List.foldl_cons, Nat.zero_add]
  obtain ⟨b, hb⟩ := exists_newBlob (s := s)
    (k := { name := top
            shape := extentsOf (slab.samples :: (slabs.foldl Slab.join slab).channels ::
              (slabs.foldl Slab.join slab).spatial)
            resident := true, gradient := (first :: others).any (·.gradient) })
    (pos_extentsOf (pos_slabs hregular hslabs))
  refine ⟨b, ?_, ?_⟩
  · simp only [concatLayer, hinputs, houtputs, hsource, htarget, hfresh, htaken, hchannels, hsum,
      mapM_smallestExtent hfirst hothers hlen, hfirst.samples_ok, hb, bind_eq_ok, pure_eq_ok,
      lift_eq_ok, Except.ok.injEq, exists_eq_left', exists_const, and_self]
  · obtain ⟨-, rfl⟩ := newBlob_eq_ok.mp hb
    constructor
    · rfl
    · rw [Slab.samples_foldl]
      exact toNat_extentsOf _
    · rw [Slab.elementSize_foldl, ← hfirst.elementSize]
      exact elementSize_blobOf_first rfl rfl hin
    · -- a gradient among the inputs is kept in training only, and so the flag stays
      rw [gradient_slabs hslabs]
      apply Bool.and_eq_left_iff_imp.mpr
      intro hany
      obtain ⟨b, hmem, hneeded⟩ := List.any_eq_true.mp hany
      exact htrain b hmem hneeded

end

end Site

end NetFootprint
