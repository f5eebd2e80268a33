import NetFootprint.Proofs.Layer.Accept

/-!
# Convolutions and up-convolutions undo each other

An up-convolution makes, of the extent that a convolution with its window left, the extent that the
convolution read. The other way round a convolution finds its window to reach the end exactly, but
it refuses to put it on an extent only once: what was made of a single element is not taken back.
-/

namespace NetFootprint

namespace Window.Axis

variable {a : Axis} {x y z : Nat}

theorem Convolves.slack_eq (h : a.Convolves x y) : a.slack x = a.stride * ((y : Int) - 1) := by
  have hdiv := Int.fmod_add_mul_fdiv (a.slack x) a.stride
  rw [h.even, Int.zero_add] at hdiv
  rw [h.eq, convolved, Int.add_sub_cancel, hdiv]

theorem UpConvolves.slack_eq (h : a.UpConvolves x y) :
    a.slack y = a.stride * ((x : Int) - 1) := by
  rw [slack, h.eq, upConvolved]
  omega

theorem Convolves.upConvolves (h : a.Convolves x y) (hx : 1 ≤ x) : a.UpConvolves y x where
  pos := hx
  eq := by
    rw [upConvolved, ← h.slack_eq, slack]
    omega

theorem UpConvolves.convolves (h : a.UpConvolves x y) (hs : 1 ≤ a.stride) (hx : 2 ≤ x) :
    a.Convolves y x where
  fits := by
    rw [h.slack_eq]
    exact Int.mul_pos (by omega) (by omega)
  even := by rw [h.slack_eq, Int.mul_fmod_right]
  eq := by
    rw [convolved, h.slack_eq, Int.mul_fdiv_cancel_left _ (by omega)]
    omega

theorem UpConvolves.two_le (h : a.UpConvolves x y) (hc : a.Convolves y z) : 2 ≤ x := by
  have hfits := hc.fits
  rw [h.slack_eq] at hfits
  by_contra hlt
  have hstep : (a.stride : Int) * ((x : Int) - 1) ≤ 0 :=
    Int.mul_nonpos_of_nonneg_of_nonpos (Int.natCast_nonneg _) (by omega)
  omega

end Window.Axis

namespace Window.Takes

variable {w : Window} {R : Axis → Nat → Nat → Prop} {xs ys zs : List Nat}

theorem unique (h : w.Takes R xs ys) (h' : w.Takes R xs zs)
    (hR : ∀ a x y z, R a x y → R a x z → y = z) : ys = zs := by
  apply List.ext_getElem?
  intro d
  cases hx : xs[d]? with
  | none =>
    have hle : xs.length ≤ d := List.getElem?_eq_none_iff.mp hx
    rw [List.getElem?_eq_none (h.length_eq ▸ hle), List.getElem?_eq_none (h'.length_eq ▸ hle)]
  | some x =>
    obtain ⟨a, y, ha, hy, hxy⟩ := h.at_left hx
    obtain ⟨a', z, ha', hz, hxz⟩ := h'.at_left hx
    obtain rfl := eq_of_ok ha ha'
    rw [hy, hz, hR a x y z hxy hxz]

theorem convolved_unique (h : w.Takes Axis.Convolves xs ys) (h' : w.Takes Axis.Convolves xs zs) :
    ys = zs :=
  h.unique h' fun _ _ _ _ hy hz => Int.ofNat.inj (hy.eq.trans hz.eq.symm)

theorem upConvolved_unique (h : w.Takes Axis.UpConvolves xs ys)
    (h' : w.Takes Axis.UpConvolves xs zs) : ys = zs :=
  h.unique h' fun _ _ _ _ hy hz => Int.ofNat.inj (hy.eq.trans hz.eq.symm)

theorem upConvolved (h : w.Takes Axis.Convolves xs ys) (hxs : ∀ x ∈ xs, 1 ≤ x) :
    w.Takes Axis.UpConvolves ys xs :=
  h.swap fun _ x _ hx _ hconv => hconv.upConvolves (hxs x hx)

/-- What an up-convolution makes can be convolved only if it read no single element. -/
theorem two_le (h : w.Takes Axis.UpConvolves xs ys) (h' : w.Takes Axis.Convolves ys zs) :
    ∀ x ∈ xs, 2 ≤ x := by
  intro x hx
  obtain ⟨d, hd⟩ := List.mem_iff_getElem?.mp hx
  obtain ⟨a, y, ha, hy, hup⟩ := h.at_left hd
  obtain ⟨a', z, ha', -, hc⟩ := h'.at_left hy
  obtain rfl := eq_of_ok ha ha'
  exact hup.two_le hc

theorem convolved (h : w.Takes Axis.UpConvolves xs ys) (hs : ∀ n ∈ w.stride, 1 ≤ n)
    (hxs : ∀ x ∈ xs, 2 ≤ x) : w.Takes Axis.Convolves ys xs :=
  h.swap fun _ x _ hx hstride hup => hup.convolves (hs _ hstride) (hxs x hx)

end Window.Takes

/-- A blob has the samples and the spatial extents of another one. -/
structure Blob.Matches (b c : Blob) : Prop where
  samples : b.samples = c.samples
  spatial : b.spatial = c.spatial

namespace Site

variable {s s' : Site} {src out : Blob} {w : Window} {n rank rank' : Nat} {top : Value} {d : Draft}

/-- A site for a layer with the window parameters of another one, that makes one blob of the given
one, with some number of channels. -/
structure Repeats (s' s : Site) (out : Blob) (top : Value) (n : Nat) : Prop
    extends s'.Single out top where
  params : ∀ key ∈ windowKeys, s'.declaration.param key = s.declaration.param key
  numOutput : s'.intParam "num_output" none 1 = .ok n

/-- The window is that of the other layer, because there are as many axes. -/
theorem Repeats.window {R : Window.Axis → Nat → Nat → Prop} (h : s'.Repeats s out top n)
    (hsrc : src.Regular rank) (hmade : Windowed src w R out) (hw : s.window src = .ok w) :
    s'.window out = .ok w := by
  refine window_of_params h.params ?_ hw
  rw [hmade.spatialRank, hsrc.spatialRank_eq]

theorem Repeats.deconvolutionLayer (h : s'.Repeats s out top n) (hsrc : src.Regular rank)
    (hout : out.Regular rank') (hw : s.window src = .ok w)
    (hscale : Scalable src.elementSize w.stride)
    (hmade : Windowed src w Window.Axis.Convolves out) :
    (∃ d, s'.deconvolutionLayer = .ok d) ∧
      ∀ d, s'.deconvolutionLayer = .ok d → ∃ b, d.outputs = [.made b] ∧ b.Matches src ∧
        Windowed out w Window.Axis.UpConvolves b := by
  have hw' := h.window hsrc hmade hw
  have hback := hmade.spatial.upConvolved fun x hx => hsrc.extents x (Blob.mem_of_mem_spatial hx)
  have hscale' := hscale.of_length hmade.elementSize
  refine ⟨exists_deconvolutionLayer h.toSingle hout hw' h.numOutput hscale' hback, ?_⟩
  intro d hd
  obtain ⟨w', n', b, hw'', rfl, -, hb⟩ := deconvolutionLayer_made hd h.inputs
  obtain rfl := eq_of_ok hw' hw''
  refine ⟨b, rfl, ⟨?_, hb.spatial.upConvolved_unique hback⟩, hb⟩
  rw [hb.samples, hmade.samples]

/-- Of what an up-convolution made, a convolution leaves the extents that the up-convolution read,
if none of them is a single element. -/
theorem Repeats.convolutionLayer (h : s'.Repeats s out top n) (hsrc : src.Regular rank)
    (hout : out.Regular rank') (hw : s.window src = .ok w)
    (hscale : Scalable src.elementSize w.stride)
    (hmade : Windowed src w Window.Axis.UpConvolves out) :
    ((∃ d, s'.convolutionLayer = .ok d) ↔ ∀ e ∈ src.spatial, 2 ≤ e) ∧
      ∀ d, s'.convolutionLayer = .ok d → ∃ b, d.outputs = [.made b] ∧ b.Matches src ∧
        Windowed out w Window.Axis.Convolves b := by
  have hw' := h.window hsrc hmade hw
  have hstride := stride_window hw
  have hdraft : ∀ d, s'.convolutionLayer = .ok d → ∃ b, d.outputs = [.made b] ∧
      Windowed out w Window.Axis.Convolves b := by
    intro d hd
    obtain ⟨w', n', b, hw'', rfl, -, hb⟩ := convolutionLayer_made hd h.inputs
    obtain rfl := eq_of_ok hw' hw''
    exact ⟨b, rfl, hb⟩
  refine ⟨⟨?_, fun hlarge => ?_⟩, fun d hd => ?_⟩
  · rintro ⟨d, hd⟩
    obtain ⟨b, -, hb⟩ := hdraft d hd
    exact hmade.spatial.two_le hb.spatial
  · exact exists_convolutionLayer h.toSingle hout hw' h.numOutput
      (hscale.of_length hmade.elementSize) (hmade.spatial.convolved hstride hlarge)
  · obtain ⟨b, hb, hconv⟩ := hdraft d hd
    have hback := hmade.spatial.convolved hstride (hmade.spatial.two_le hconv.spatial)
    refine ⟨b, hb, ⟨?_, hconv.spatial.convolved_unique hback⟩, hconv⟩
    rw [hconv.samples, hmade.samples]

end Site

end NetFootprint
