import NetFootprint.Proofs.Layer.Explained
import NetFootprint.Proofs.Layer.Sizing

/-!
# When window layers are accepted

A layer that moves a window over a single blob is accepted exactly if its window can be read, each
axis is fit for it, and its strides have doubles by which the element size is scaled. `Window.Takes`
says axis by axis which extents the window makes of those of the source.
-/

namespace NetFootprint

namespace Window

variable {w : Window} {R S : Axis → Nat → Nat → Prop} {xs ys : List Nat} {d : Nat} {a : Axis}

theorem axis_eq_ok : w.axis d = .ok a ↔ w.pad[d]? = some a.pad ∧ w.stride[d]? = some a.stride ∧
    w.dilation[d]? = some a.dilation ∧ w.kernel[d]? = some a.kernel := by
  have haxis : w.axis d = .ok a ↔ w.axis? d = some a := by
    rw [axis]
    split <;> simp_all
  rw [haxis]
  simp only [axis?, Option.bind_eq_bind, Option.bind_eq_some_iff, Option.pure_def,
    Option.some.injEq]
  constructor
  · rintro ⟨pad, hp, stride, hs, dilation, hd, kernel, hk, rfl⟩
    exact ⟨hp, hs, hd, hk⟩
  · rintro ⟨hp, hs, hd, hk⟩
    exact ⟨_, hp, _, hs, _, hd, _, hk, rfl⟩

/-- Along each axis, the numbers of the window relate an extent to another one. -/
def Takes (w : Window) (R : Axis → Nat → Nat → Prop) (xs ys : List Nat) : Prop :=
  List.Forall₂ (fun p y => ∃ a, w.axis p.2 = .ok a ∧ R a p.1 y) xs.zipIdx ys

namespace Takes

theorem length_eq (h : w.Takes R xs ys) : ys.length = xs.length := by
  rw [← List.Forall₂.length_eq h, List.length_zipIdx]

theorem at_left (h : w.Takes R xs ys) {x : Nat} (hx : xs[d]? = some x) :
    ∃ a y, w.axis d = .ok a ∧ ys[d]? = some y ∧ R a x y := by
  have hat : xs.zipIdx[d]? = some (x, d) := by simp [List.getElem?_zipIdx, hx]
  obtain ⟨y, hy, a, ha, hR⟩ := exists_at_right (List.Forall₂.flip h) hat
  exact ⟨a, y, ha, hy, hR⟩

theorem of_at (hlen : ys.length = xs.length)
    (h : ∀ d x y, xs[d]? = some x → ys[d]? = some y → ∃ a, w.axis d = .ok a ∧ R a x y) :
    w.Takes R xs ys := by
  rw [Takes, List.forall₂_iff_get]
  refine ⟨by rw [List.length_zipIdx, hlen], fun i hi hi' => ?_⟩
  have hx := List.getElem?_eq_getElem (hlen ▸ hi' : i < xs.length)
  simpa using h i _ _ hx (List.getElem?_eq_getElem hi')

theorem mono (h : w.Takes R xs ys)
    (hRS : ∀ a x y, a.stride ∈ w.stride → R a x y → S a x y) : w.Takes S xs ys := by
  refine List.Forall₂.imp ?_ h
  rintro p y ⟨a, ha, hR⟩
  exact ⟨a, ha, hRS a p.1 y (List.mem_of_getElem? (axis_eq_ok.mp ha).2.1) hR⟩

theorem swap (h : w.Takes R xs ys)
    (hRS : ∀ a x y, x ∈ xs → a.stride ∈ w.stride → R a x y → S a y x) : w.Takes S ys xs := by
  refine of_at h.length_eq.symm fun d y x hy hx => ?_
  obtain ⟨a, y', ha, hy', hR⟩ := h.at_left hx
  obtain rfl := Option.some.inj (hy.symm.trans hy')
  have hstride := List.mem_of_getElem? (axis_eq_ok.mp ha).2.1
  exact ⟨a, ha, hRS a x y (List.mem_of_getElem? hx) hstride hR⟩

/-- Numbers that are worked out axis by axis are those that the window makes. -/
theorem of_forall₂ {P : Nat × Nat → Int → Prop} {values : List Int}
    (h : List.Forall₂ P xs.zipIdx values)
    (hP : ∀ x d v, P (x, d) v → ∃ a, w.axis d = .ok a ∧ R a x v.toNat) :
    w.Takes R xs (values.map Int.toNat) := by
  rw [Takes, List.forall₂_map_right_iff]
  exact h.imp fun p v hp => hP p.1 p.2 v hp

theorem forall₂ {P : Nat × Nat → Int → Prop} (h : w.Takes R xs ys)
    (hP : ∀ x d a y, w.axis d = .ok a → R a x y → P (x, d) y) :
    List.Forall₂ P xs.zipIdx (extentsOf ys) := by
  rw [extentsOf, List.forall₂_map_right_iff]
  refine List.Forall₂.imp ?_ h
  rintro p y ⟨a, ha, hR⟩
  exact hP p.1 p.2 a y ha hR

end Takes

end Window

namespace Window.Axis

/-- A convolution leaves `y` of the extent `x`. -/
structure Convolves (a : Axis) (x y : Nat) : Prop where
  fits : 0 < a.slack x
  even : Int.fmod (a.slack x) a.stride = 0
  eq : (y : Int) = a.convolved x

/-- An up-convolution makes `y` of the extent `x`. -/
structure UpConvolves (a : Axis) (x y : Nat) : Prop where
  pos : 0 < y
  eq : (y : Int) = a.upConvolved x

variable {a : Axis} {x y : Nat}

theorem convolved_pos (h : 0 < a.slack x) : 0 < a.convolved x := by
  have hsteps : 0 ≤ Int.fdiv (a.slack x) a.stride :=
    Int.fdiv_nonneg (Int.le_of_lt h) (Int.natCast_nonneg _)
  rw [convolved]
  omega

end Window.Axis

namespace Site

variable {s s' : Site} {src src' : Blob} {w : Window} {n rank : Nat} {top : Value}

/-! ## Reading the parameters again -/

/-- The parameters of a window. -/
def windowKeys : List String := ["kernel_size", "pad", "stride", "dilation"]

theorem axisParam_of_param {key : String} {axes : Int} {default : Option Nat} {least : Nat}
    {values : List Nat} (hparam : s'.declaration.param key = s.declaration.param key)
    (h : s.axisParam key axes default least = .ok values) :
    s'.axisParam key axes default least = .ok values := by
  simp only [axisParam, bind_eq_ok, explain_eq_ok] at h ⊢
  obtain ⟨expanded, hexpanded, hrest⟩ := h
  refine ⟨expanded, by rwa [hparam], ?_⟩
  cases expanded with
  | none => exact (refuse_eq_ok.mp hrest).elim
  | some ints => simpa only [ite_eq_ok, bind_eq_ok, refuse_eq_ok] using hrest

theorem axisParam_ge {key : String} {axes : Int} {default : Option Nat} {least : Nat}
    {values : List Nat} (h : s.axisParam key axes default least = .ok values) :
    ∀ n ∈ values, least ≤ n := by
  simp only [axisParam, bind_eq_ok, explain_eq_ok] at h
  obtain ⟨expanded, -, hrest⟩ := h
  cases expanded with
  | none => exact (refuse_eq_ok.mp hrest).elim
  | some ints =>
    simp only [ite_eq_ok, bind_eq_ok, refuse_eq_ok, and_false, exists_false, false_or, pure_eq_ok,
      Bool.not_eq_true, List.any_eq_false, decide_eq_true_eq, Int.not_lt] at hrest
    obtain ⟨hleast, rfl⟩ := hrest
    intro n hn
    obtain ⟨v, hv, rfl⟩ := List.mem_map.mp hn
    have hge := hleast v hv
    omega

theorem window_of_params
    (hparams : ∀ key ∈ windowKeys, s'.declaration.param key = s.declaration.param key)
    (hrank : src'.spatialRank = src.spatialRank) (h : s.window src = .ok w) :
    s'.window src' = .ok w := by
  simp only [window, bind_eq_ok, pure_eq_ok] at h ⊢
  rw [hrank]
  obtain ⟨kernel, hk, pad, hp, stride, hs, dilation, hd, rfl⟩ := h
  exact ⟨kernel, axisParam_of_param (hparams _ (by simp [windowKeys])) hk,
    pad, axisParam_of_param (hparams _ (by simp [windowKeys])) hp,
    stride, axisParam_of_param (hparams _ (by simp [windowKeys])) hs,
    dilation, axisParam_of_param (hparams _ (by simp [windowKeys])) hd, rfl⟩

theorem stride_window (h : s.window src = .ok w) : ∀ n ∈ w.stride, 1 ≤ n := by
  simp only [window, bind_eq_ok, pure_eq_ok] at h
  obtain ⟨kernel, -, pad, -, stride, hs, dilation, -, rfl⟩ := h
  exact axisParam_ge hs

theorem intParam_of_lookup {key : String} {default : Option Nat} {least : Nat} {v : Value} {n : Int}
    (h : s.declaration.params.lookup key = some v) (hn : v.toInt = .ok n) (hleast : least ≤ n) :
    s.intParam key default least = .ok n.toNat := by
  unfold intParam
  simp only [h, Option.getD_some]
  cases v with
  | null => cases hn
  | _ =>
    simp only [bind_eq_ok, explain_eq_ok, hn, Except.ok.injEq, exists_eq_left']
    rw [if_neg (by omega), pure_eq_ok]

/-! ## Element sizes -/

/-- Each stride that scales an element size has a double. -/
def Scalable (sizes : List Float) (strides : List Nat) : Prop :=
  ∀ p ∈ sizes.zip strides, ∃ x, Double.ofWhole p.2 = .ok x

theorem exists_scaled {sizes : List Float} {strides : List Nat} (f : Float → Float → Float) :
    (∃ size, ((sizes.zip strides).mapM fun p => do return f p.1 (← Double.ofWhole p.2)) = .ok size) ↔
      Scalable sizes strides := by
  rw [exists_mapM_eq_ok]
  refine forall₂_congr fun p _ => ?_
  cases Double.ofWhole p.2 <;> simp [bind, Except.bind, pure, Except.pure]

theorem exists_stretched {sizes : List Float} {strides : List Nat} :
    (∃ size, stretched sizes strides = .ok size) ↔ Scalable sizes strides :=
  exists_scaled (· * ·)

theorem exists_compressed {sizes : List Float} {strides : List Nat} :
    (∃ size, compressed sizes strides = .ok size) ↔ Scalable sizes strides :=
  exists_scaled (· / ·)

theorem Scalable.of_length {sizes sizes' : List Float} {strides : List Nat}
    (h : Scalable sizes strides) (hlen : sizes'.length ≤ sizes.length) :
    Scalable sizes' strides := by
  intro p hp
  obtain ⟨i, hi, rfl⟩ := List.mem_iff_getElem.mp hp
  rw [List.length_zip] at hi
  have hi' : i < (sizes.zip strides).length := by
    rw [List.length_zip]
    omega
  simpa using h _ (List.getElem_mem hi')

/-! ## Single sources -/

/-- A site for a layer that makes one blob of one blob. -/
structure Single (s : Site) (src : Blob) (top : Value) : Prop where
  inputs : s.inputs = [some src]
  outputs : s.declaration.outputs = [top]
  fresh : s.requireFresh top = .ok ()

theorem Single.inputs_ok (h : s.Single src top) : s.requireInputs 1 (some 1) = .ok () := by
  rw [requireInputs_eq_ok, h.inputs]
  rfl

theorem Single.outputs_ok (h : s.Single src top) : s.requireOutputs 1 (some 1) = .ok () := by
  rw [requireOutputs_eq_ok, h.outputs]
  rfl

theorem Single.source (h : s.Single src top) : s.source = .ok src :=
  source_eq_ok.mpr ⟨[], h.inputs⟩

theorem Single.target (h : s.Single src top) : s.target = .ok top :=
  target_eq_ok.mpr ⟨[], h.outputs⟩

/-- What a window layer makes of a source: as many samples, and the extents that its window takes
those of the source to. -/
structure Windowed (src : Blob) (w : Window) (R : Window.Axis → Nat → Nat → Prop) (b : Blob) :
    Prop where
  array : b.isScalar = false
  samples : b.samples = src.samples
  spatial : w.Takes R src.spatial b.spatial
  shape : b.shape.length = src.spatial.length + 2
  elementSize : b.elementSize.length ≤ src.elementSize.length

theorem Windowed.spatialRank {R : Window.Axis → Nat → Nat → Prop} {b : Blob}
    (h : Windowed src w R b) : b.spatialRank = src.spatial.length := by
  rw [Blob.spatialRank, h.array, if_neg Bool.false_ne_true, h.shape]
  omega

theorem extentsOf_append (samples channels : Nat) (spatial : List Nat) :
    extentsOf (samples :: channels :: spatial) =
      extentsOf [samples, channels] ++ extentsOf spatial :=
  rfl

/-- A blob with the samples of the source, and behind its channels the extents that the window takes
those of the source to. -/
theorem windowed_newBlob {R : Window.Axis → Nat → Nat → Prop} {k : Sketch} {b : Blob}
    {samples channels : Nat} {spatial : List Int} {size : List Float} (hb : s.newBlob k = .ok b)
    (hk : k.scalar = false) (hshape : k.shape = extentsOf [samples, channels] ++ spatial)
    (hsize : k.elementSize = some size) (hsamples : src.samples = .ok samples)
    (hspatial : w.Takes R src.spatial (spatial.map Int.toNat))
    (hlen : size.length = (src.elementSize.zip w.stride).length) : Windowed src w R b := by
  obtain ⟨hpos, rfl⟩ := newBlob_eq_ok.mp hb
  have hwhole : extentsOf (spatial.map Int.toNat) = spatial := by
    rw [extentsOf, List.map_map]
    refine (List.map_congr_left fun e he => ?_).trans (List.map_id spatial)
    exact Int.toNat_of_nonneg (Int.le_of_lt (hpos e (hshape ▸ List.mem_append_right _ he)))
  rw [← hwhole, ← extentsOf_append] at hshape
  constructor
  · exact hk
  · rw [hsamples, Blob.samples, Blob.extent, blobOf, hshape, toNat_extentsOf]
    rfl
  · rwa [spatial_blobOf hk hshape]
  · rw [shape_blobOf, hshape, extentsOf, List.length_map, List.length_cons, List.length_cons,
      hspatial.length_eq]
  · rw [elementSize_blobOf_own hsize, hlen, List.length_zip]
    exact Nat.min_le_left _ _

/-! ## Convolutions -/

theorem convolvedExtent_eq_ok {x d : Nat} {e : Int} : s.convolvedExtent src w x d = .ok e ↔
    ∃ a, w.axis d = .ok a ∧ a.Convolves x e.toNat ∧ 0 < e := by
  constructor
  · intro h
    obtain ⟨a, ha, hfits, heven, rfl⟩ := convolvedExtent_ok h
    have hpos := Window.Axis.convolved_pos hfits
    exact ⟨a, ha, ⟨hfits, heven, Int.toNat_of_nonneg (Int.le_of_lt hpos)⟩, hpos⟩
  · rintro ⟨a, ha, hconv, hpos⟩
    simp only [convolvedExtent, bind_eq_ok, pure_eq_ok, lift_eq_ok, ite_eq_ok, refuse_eq_ok,
      exists_const, false_and, and_false, false_or, ne_eq, Decidable.not_not, Int.not_le]
    refine ⟨a, ha, hconv.fits, hconv.even, ?_⟩
    rw [← hconv.eq, Int.toNat_of_nonneg (Int.le_of_lt hpos)]

theorem convolutionLayer_made {d : Draft} (h : s.convolutionLayer = .ok d)
    (hin : s.inputs = [some src]) : ∃ w n b, s.window src = .ok w ∧
      d = ⟨[.made b], .convolution w n⟩ ∧ Scalable src.elementSize w.stride ∧
      Windowed src w Window.Axis.Convolves b := by
  obtain ⟨src', top, w, n, samples, spatial, size, b, hin', -, hw, -, -, hsamples, hspatial, hsize,
    hb, rfl⟩ := convolutionLayer_ok h
  obtain rfl : src = src' := by simpa [hin] using hin'
  have htakes : w.Takes Window.Axis.Convolves src.spatial (spatial.map Int.toNat) :=
    .of_forall₂ hspatial fun x d v hv => by
      obtain ⟨a, ha, hconv, -⟩ := convolvedExtent_eq_ok.mp hv
      exact ⟨a, ha, hconv⟩
  refine ⟨w, n, b, hw, rfl, exists_stretched.mp ⟨size, hsize⟩, ?_⟩
  exact windowed_newBlob hb rfl rfl rfl hsamples htakes (length_stretched hsize)

/-- A convolution is accepted if its window fits along each axis. -/
theorem exists_convolutionLayer (h : s.Single src top) (hsrc : src.Regular rank)
    (hw : s.window src = .ok w) (hn : s.intParam "num_output" none 1 = .ok n)
    (hscale : Scalable src.elementSize w.stride) {spatial : List Nat}
    (htakes : w.Takes Window.Axis.Convolves src.spatial spatial) :
    ∃ d, s.convolutionLayer = .ok d := by
  obtain ⟨size, hsize⟩ := exists_stretched.mpr hscale
  obtain ⟨samples, hsamples, hpos⟩ := hsrc.exists_samples
  have hextents : ∀ y ∈ spatial, 1 ≤ y := by
    intro y hy
    obtain ⟨p, -, a, -, hconv⟩ := exists_of_mem_right htakes hy
    have hconvolved := Window.Axis.convolved_pos hconv.fits
    have heq := hconv.eq
    omega
  have hspatial := htakes.forall₂ (P := fun p e => s.convolvedExtent src w p.1 p.2 = .ok e)
    fun x d a y ha hconv => by
      have hconvolved := Window.Axis.convolved_pos hconv.fits
      rw [← hconv.eq] at hconvolved
      exact convolvedExtent_eq_ok.mpr ⟨a, ha, hconv, hconvolved⟩
  obtain ⟨b, hb⟩ := exists_newBlob (s := s)
    (k := { name := top, shape := extentsOf [samples, n] ++ extentsOf spatial
            elementSize := some size, resident := true, gradient := true })
    (pos_windowed hpos (intParam_ge hn) (pos_extentsOf hextents))
  refine ⟨⟨[.made b], .convolution w n⟩, ?_⟩
  simp only [convolutionLayer, h.inputs_ok, h.outputs_ok, h.source, h.target, hw, hn, h.fresh,
    hsamples, mapM_eq_ok.mpr hspatial, hsize, hb, bind_eq_ok, pure_eq_ok, lift_eq_ok,
    Except.ok.injEq, exists_eq_left', exists_const, and_self]

/-! ## Up-convolutions -/

theorem upConvolvedExtent_eq_ok {x d : Nat} {e : Int} : s.upConvolvedExtent src w x d = .ok e ↔
    ∃ a, w.axis d = .ok a ∧ a.UpConvolves x e.toNat := by
  constructor
  · intro h
    obtain ⟨a, ha, hpos, rfl⟩ := upConvolvedExtent_ok h
    exact ⟨a, ha, Int.pos_iff_toNat_pos.mp hpos, Int.toNat_of_nonneg (Int.le_of_lt hpos)⟩
  · rintro ⟨a, ha, hpos, heq⟩
    simp only [upConvolvedExtent, bind_eq_ok, pure_eq_ok, lift_eq_ok, ite_eq_ok, refuse_eq_ok,
      exists_const, false_and, and_false, false_or, Int.not_le]
    rw [Int.toNat_of_nonneg (Int.le_of_lt (Int.pos_iff_toNat_pos.mpr hpos))] at heq
    exact ⟨a, ha, by omega, heq.symm⟩

theorem upConvolvedBlob_made {o : Output} (h : s.upConvolvedBlob w n (some src) top = .ok o) :
    ∃ b, o = .made b ∧ Scalable src.elementSize w.stride ∧
      Windowed src w Window.Axis.UpConvolves b := by
  obtain ⟨src', samples, spatial, size, b, hsrc, -, hsamples, hspatial, hsize, hb, rfl⟩ :=
    upConvolvedBlob_ok h
  obtain rfl := Option.some.inj hsrc
  have htakes : w.Takes Window.Axis.UpConvolves src.spatial (spatial.map Int.toNat) :=
    .of_forall₂ hspatial fun x d v hv => upConvolvedExtent_eq_ok.mp hv
  refine ⟨b, rfl, exists_compressed.mp ⟨size, hsize⟩, ?_⟩
  exact windowed_newBlob hb rfl rfl rfl hsamples htakes (length_compressed hsize)

theorem deconvolutionLayer_made {d : Draft} (h : s.deconvolutionLayer = .ok d)
    (hin : s.inputs = [some src]) : ∃ w n b, s.window src = .ok w ∧
      d = ⟨[.made b], .deconvolution w n⟩ ∧ Scalable src.elementSize w.stride ∧
      Windowed src w Window.Axis.UpConvolves b := by
  obtain ⟨src', rest, w, n, outputs, hin', hne, hle, hw, -, houtputs, rfl⟩ :=
    deconvolutionLayer_ok h
  obtain ⟨rfl, rfl⟩ : src = src' ∧ rest = [] := by simpa [hin, eq_comm] using hin'
  obtain ⟨top, htop⟩ : ∃ top, s.declaration.outputs = [top] := by
    rw [hin] at hle
    exact List.length_eq_one_iff.mp (Nat.le_antisymm hle (List.length_pos_iff.mpr hne))
  rw [hin, htop] at houtputs
  cases houtputs with
  | cons ho hnil =>
    cases hnil
    obtain ⟨b, rfl, hscale, hmade⟩ := upConvolvedBlob_made ho
    exact ⟨w, n, b, hw, rfl, hscale, hmade⟩

theorem exists_deconvolutionLayer (h : s.Single src top) (hsrc : src.Regular rank)
    (hw : s.window src = .ok w) (hn : s.intParam "num_output" none 1 = .ok n)
    (hscale : Scalable src.elementSize w.stride) {spatial : List Nat}
    (htakes : w.Takes Window.Axis.UpConvolves src.spatial spatial) :
    ∃ d, s.deconvolutionLayer = .ok d := by
  obtain ⟨size, hsize⟩ := exists_compressed.mpr hscale
  obtain ⟨samples, hsamples, hpos⟩ := hsrc.exists_samples
  have hextents : ∀ y ∈ spatial, 1 ≤ y := by
    intro y hy
    obtain ⟨p, -, a, -, hup⟩ := exists_of_mem_right htakes hy
    exact hup.pos
  have hspatial := htakes.forall₂ (P := fun p e => s.upConvolvedExtent src w p.1 p.2 = .ok e)
    fun x d a y ha hup => upConvolvedExtent_eq_ok.mpr ⟨a, ha, hup⟩
  obtain ⟨b, hb⟩ := exists_newBlob (s := s)
    (k := { name := top, shape := extentsOf [samples, n] ++ extentsOf spatial
            elementSize := some size, resident := true, gradient := true })
    (pos_windowed hpos (intParam_ge hn) (pos_extentsOf hextents))
  have hblob : s.upConvolvedBlob w n (some src) top = .ok (.made b) := by
    simp only [upConvolvedBlob, h.fresh, present, hsamples, mapM_eq_ok.mpr hspatial, hsize, hb,
      bind_eq_ok, pure_eq_ok, lift_eq_ok, Except.ok.injEq, exists_eq_left', exists_const, and_self]
  have houtputs : (s.inputs.zip s.declaration.outputs).mapM
      (fun p => s.upConvolvedBlob w n p.1 p.2) = .ok [.made b] := by
    rw [h.inputs, h.outputs]
    exact mapM_eq_ok.mpr (.cons hblob .nil)
  refine ⟨⟨[.made b], .deconvolution w n⟩, ?_⟩
  have hin : s.requireInputs 1 none = .ok () := by
    rw [requireInputs_eq_ok, h.inputs]
    rfl
  have hlen : s.inputs.length = 1 := by rw [h.inputs]; rfl
  simp only [deconvolutionLayer, hin, hlen, h.outputs_ok, h.source, hw, hn, houtputs, bind_eq_ok,
    pure_eq_ok, lift_eq_ok, Except.ok.injEq, exists_eq_left', exists_const, and_self]

end Site

end NetFootprint
