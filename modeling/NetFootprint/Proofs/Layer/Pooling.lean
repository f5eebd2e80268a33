import Mathlib.Order.Bounds.Defs
import NetFootprint.Proofs.Layer.Accept
import NetFootprint.Proofs.Layer.Extent

/-!
# Exactly enough pooling windows

A pooling takes as few windows as reach the end of the padded extent. If any axis is padded, a last
window that starts in the padding is dropped, on every axis, and a second one is refused. So the
extent that is left is the number of windows, but not more than start in front of the padding at the
end; and where the windows leave no gaps, they cover all elements.
-/

namespace NetFootprint

/-- Values that are worked out in two passes, the second of which sees what the first one found. -/
theorem exists_forall₂_zip_iff {α β γ : Type} {P : α × Nat → β → Prop}
    {Q : (α × β) × Nat → γ → Prop} {k : Nat} {xs : List α} {zs : List γ} :
    (∃ ys, List.Forall₂ P (xs.zipIdx k) ys ∧ List.Forall₂ Q ((xs.zip ys).zipIdx k) zs) ↔
      List.Forall₂ (fun p z => ∃ y, P p y ∧ Q ((p.1, y), p.2) z) (xs.zipIdx k) zs := by
  induction xs generalizing k zs with
  | nil => simp
  | cons x xs ih =>
    rw [List.zipIdx_cons]
    constructor
    · rintro ⟨_, hP, hQ⟩
      cases hP with
      | @cons _ y _ ys hy hys =>
        rw [List.zip_cons_cons, List.zipIdx_cons] at hQ
        cases hQ with
        | cons hz hzs => exact .cons ⟨y, hy, hz⟩ (ih.mp ⟨ys, hys, hzs⟩)
    · intro h
      cases h with
      | cons hz hzs =>
        obtain ⟨y, hy, hz⟩ := hz
        obtain ⟨ys, hys, hzs⟩ := ih.mpr hzs
        exact ⟨y :: ys, .cons hy hys, .cons hz hzs⟩

namespace Window

theorem ceilDiv_le_iff {n k m : Int} (hk : 0 < k) : ceilDiv n k ≤ m ↔ n ≤ m * k := by
  have hle : ceilDiv n k ≤ m ↔ -m ≤ Int.fdiv (-n) k := by
    rw [ceilDiv]
    omega
  rw [hle, Int.fdiv_eq_ediv_of_nonneg _ (Int.le_of_lt hk), Int.le_ediv_iff_mul_le hk, Int.neg_mul]
  omega

def padded (w : Window) : Bool := w.pad.any (· ≠ 0)

namespace Axis

variable {a : Axis} {x y : Nat} {n : Int}

/-- How many windows start on an extent or on the padding in front of it. -/
def starts (a : Axis) (x : Nat) : Int := ceilDiv ((x : Int) + a.pad) a.stride

theorem pooled_le_iff (hs : 1 ≤ a.stride) :
    a.pooled x ≤ n ↔ (x : Int) + 2 * a.pad ≤ (n - 1) * a.stride + a.kernel := by
  have hle : a.pooled x ≤ n ↔ ceilDiv ((x : Int) + 2 * a.pad - a.kernel) a.stride ≤ n - 1 := by
    rw [pooled, pooledExtent]
    omega
  rw [hle, ceilDiv_le_iff (by omega)]
  omega

theorem starts_le_iff (hs : 1 ≤ a.stride) : a.starts x ≤ n ↔ (x : Int) + a.pad ≤ n * a.stride :=
  ceilDiv_le_iff (by omega)

/-- The windows behind the first reach the end of the padded extent, and no fewer would do. -/
theorem isLeast_pooled (hs : 1 ≤ a.stride) :
    IsLeast {m : Int | (x : Int) + 2 * a.pad ≤ m * a.stride + a.kernel} (a.pooled x - 1) := by
  constructor
  · exact (pooled_le_iff hs).mp (Int.le_refl _)
  · intro m hm
    have hle : a.pooled x ≤ m + 1 := (pooled_le_iff hs).mpr (by rwa [Int.add_sub_cancel])
    omega

theorem isLeast_starts (hs : 1 ≤ a.stride) :
    IsLeast {m : Int | (x : Int) + a.pad ≤ m * a.stride} (a.starts x) :=
  ⟨(starts_le_iff hs).mp (Int.le_refl _), fun _ hm => (starts_le_iff hs).mpr hm⟩

theorem starts_pos (hs : 1 ≤ a.stride) (hx : 1 ≤ x) : 0 < a.starts x := by
  have hnot : ¬a.starts x ≤ 0 := by
    rw [starts_le_iff hs, Int.zero_mul]
    omega
  omega

theorem startsInPadding_iff (hs : 1 ≤ a.stride) :
    a.startsInPadding x n = true ↔ a.starts x < n := by
  rw [startsInPadding, decide_eq_true_eq, ← starts_le_iff hs]
  omega

theorem trimmed_eq (hs : 1 ≤ a.stride) :
    a.trimmed x n = if a.starts x < n then n - 1 else n := by
  rw [trimmed]
  exact if_congr (startsInPadding_iff hs) rfl rfl

/-- After the last window is dropped none starts in the padding, unless there were two. -/
theorem trimmed_fits_iff (hs : 1 ≤ a.stride) :
    a.startsInPadding x (a.trimmed x n) = false ↔ n ≤ a.starts x + 1 := by
  rw [← Bool.not_eq_true, startsInPadding_iff hs, trimmed_eq hs]
  split <;> omega

theorem trimmed_of_fits (hs : 1 ≤ a.stride) (h : n ≤ a.starts x + 1) :
    a.trimmed x n = min n (a.starts x) := by
  rw [trimmed_eq hs]
  split <;> omega

/-- With a padding that a window can cover there is at most one window too many. -/
theorem pooled_le_starts (hs : 1 ≤ a.stride) (hpad : a.pad ≤ a.kernel) :
    a.pooled x ≤ a.starts x + 1 := by
  have hstarts := (starts_le_iff (x := x) hs).mp (Int.le_refl (a.starts x))
  rw [pooled_le_iff hs, Int.add_sub_cancel]
  omega

/-- A pooling leaves `e` of the extent `x`; some axis may be padded. -/
structure Leaves (padded : Bool) (a : Axis) (x : Nat) (e : Int) : Prop where
  few : padded = true → a.pooled x ≤ a.starts x + 1
  eq : e = if padded = true then min (a.pooled x) (a.starts x) else a.pooled x

/-- A pooling makes `y` of the extent `x`. -/
structure Pools (padded : Bool) (a : Axis) (x y : Nat) : Prop extends a.Leaves padded x y where
  pos : 0 < y

theorem exists_pools_iff {padded : Bool} (hs : 1 ≤ a.stride) (hx : 1 ≤ x) :
    (∃ y, a.Pools padded x y) ↔
      1 ≤ a.pooled x ∧ (padded = true → a.pooled x ≤ a.starts x + 1) := by
  have hstarts := starts_pos hs hx
  constructor
  · rintro ⟨y, ⟨hfew, heq⟩, hpos⟩
    refine ⟨?_, hfew⟩
    split at heq <;> omega
  · rintro ⟨hpos, hfew⟩
    cases padded with
    | true =>
      refine ⟨(min (a.pooled x) (a.starts x)).toNat, ⟨hfew, ?_⟩, by omega⟩
      rw [if_pos rfl]
      omega
    | false =>
      refine ⟨(a.pooled x).toNat, ⟨hfew, ?_⟩, by omega⟩
      rw [if_neg Bool.false_ne_true]
      omega

theorem Pools.starts_inside (h : a.Pools true x y) (hs : 1 ≤ a.stride) :
    ((y : Int) - 1) * a.stride < x + a.pad := by
  have heq := h.eq
  rw [if_pos rfl] at heq
  have hnot : ¬a.starts x ≤ (y : Int) - 1 := by omega
  rw [starts_le_iff hs] at hnot
  omega

theorem Pools.leaves_no_gap {padded : Bool} (h : a.Pools padded x y) (hs : 1 ≤ a.stride)
    (hgap : a.stride ≤ a.kernel) {z : Int} (hpad : (a.pad : Int) ≤ z) (hz : z < a.pad + x) :
    ∃ i : Nat, i < y ∧ (i : Int) * a.stride ≤ z ∧ z < i * a.stride + a.kernel := by
  have hpos := h.pos
  have hstride : (0 : Int) < a.stride := by omega
  -- the last window that starts at the element or before it
  obtain ⟨q, hq, hle, hlt⟩ : ∃ q : Int, 0 ≤ q ∧ q * a.stride ≤ z ∧ z < (q + 1) * a.stride :=
    ⟨z / a.stride, Int.ediv_nonneg (by omega) (Int.le_of_lt hstride),
      Int.ediv_mul_le z (by omega), Int.lt_ediv_add_one_mul_self z hstride⟩
  by_cases hin : q < y
  · refine ⟨q.toNat, by omega, ?_⟩
    rw [Int.toNat_of_nonneg hq]
    rw [Int.add_mul, Int.one_mul] at hlt
    exact ⟨hle, by omega⟩
  · -- otherwise no window was dropped, and the last one reaches the end
    have hlast : ((y : Int) - 1) * a.stride ≤ q * a.stride :=
      Int.mul_le_mul_of_nonneg_right (by omega) (Int.le_of_lt hstride)
    have hstart : ((y : Int) - 1) * a.stride + a.stride ≤ q * a.stride := by
      have hnext : (y : Int) * a.stride ≤ q * a.stride :=
        Int.mul_le_mul_of_nonneg_right (by omega) (Int.le_of_lt hstride)
      rwa [Int.sub_mul, Int.one_mul, Int.sub_add_cancel]
    have hreach : a.pooled x ≤ y := by
      have heq := h.eq
      have hfew := h.few
      by_contra hmore
      have hdropped : a.starts x ≤ y := by
        split at heq <;> omega
      rw [starts_le_iff hs] at hdropped
      rw [Int.sub_mul, Int.one_mul] at hstart
      omega
    rw [pooled_le_iff hs] at hreach
    have hcast : ((y - 1 : Nat) : Int) = (y : Int) - 1 := by omega
    refine ⟨y - 1, by omega, ?_⟩
    rw [hcast]
    omega

/-- A pooling makes `y` of the extent `x`: the last window starts in front of the padding at the end
if any axis is padded, and where the windows leave no gaps, each element is in one of them. -/
structure Covers (padded : Bool) (a : Axis) (x y : Nat) : Prop extends a.Pools padded x y where
  inside : padded = true → ((y : Int) - 1) * a.stride < x + a.pad
  gapless : a.stride ≤ a.kernel → ∀ z : Int, a.pad ≤ z → z < a.pad + x →
    ∃ i : Nat, i < y ∧ (i : Int) * a.stride ≤ z ∧ z < i * a.stride + a.kernel

theorem Pools.covers {padded : Bool} (h : a.Pools padded x y) (hs : 1 ≤ a.stride) :
    a.Covers padded x y where
  toPools := h
  inside hpadded := by
    subst hpadded
    exact h.starts_inside hs
  gapless hgap _ hpad hz := h.leaves_no_gap hs hgap hpad hz

end Axis

/-- Along each axis at least one window is left, and at most one starts in the padding. -/
def Fits (w : Window) (xs : List Nat) : Prop :=
  ∀ d x, xs[d]? = some x → ∃ a, w.axis d = .ok a ∧ 1 ≤ a.pooled x ∧
    (w.padded = true → a.pooled x ≤ a.starts x + 1)

theorem exists_takes_iff {w : Window} {xs : List Nat} (hstride : ∀ n ∈ w.stride, 1 ≤ n)
    (hxs : ∀ x ∈ xs, 1 ≤ x) : (∃ ys, w.Takes (Axis.Pools w.padded) xs ys) ↔ w.Fits xs := by
  have hone {x d : Nat} {a : Axis} (hx : xs[d]? = some x) (ha : w.axis d = .ok a) :
      (∃ y, a.Pools w.padded x y) ↔
        1 ≤ a.pooled x ∧ (w.padded = true → a.pooled x ≤ a.starts x + 1) :=
    Axis.exists_pools_iff (hstride _ (List.mem_of_getElem? (axis_eq_ok.mp ha).2.1))
      (hxs x (List.mem_of_getElem? hx))
  simp only [Takes]
  rw [exists_forall₂_iff]
  constructor
  · intro h d x hx
    obtain ⟨y, a, ha, hy⟩ := h (x, d) (List.mem_zipIdx_iff_getElem?.mpr hx)
    exact ⟨a, ha, (hone hx ha).mp ⟨y, hy⟩⟩
  · rintro h ⟨x, d⟩ hp
    have hx := List.mem_zipIdx_iff_getElem?.mp hp
    obtain ⟨a, ha, hfits⟩ := h d x hx
    obtain ⟨y, hy⟩ := (hone hx ha).mpr hfits
    exact ⟨y, a, ha, hy⟩

end Window

namespace Site

variable {s : Site} {src : Blob} {w : Window} {rank : Nat} {top : Value}

theorem stride_poolingWindow (h : s.poolingWindow src = .ok w) : ∀ n ∈ w.stride, 1 ≤ n := by
  simp only [poolingWindow, ite_eq_ok, bind_eq_ok, pure_eq_ok] at h
  obtain ⟨-, rfl⟩ | ⟨-, kernel, -, pad, -, stride, hs, rfl⟩ := h
  · intro n hn
    obtain ⟨e, -, rfl⟩ := List.mem_map.mp hn
    exact Nat.le_refl 1
  · exact axisParam_ge hs

theorem poolingTrimmed_eq_ok (hstride : ∀ n ∈ w.stride, 1 ≤ n) {x d : Nat} {n e : Int} :
    s.poolingTrimmed w x n d = .ok e ↔
      ∃ a, w.axis d = .ok a ∧ n ≤ a.starts x + 1 ∧ e = min n (a.starts x) := by
  simp only [poolingTrimmed, bind_eq_ok, pure_eq_ok, lift_eq_ok, ite_eq_ok, refuse_eq_ok,
    exists_const, false_and, and_false, false_or, Bool.not_eq_true]
  refine exists_congr fun a => and_congr_right fun ha => ?_
  have hs := hstride _ (List.mem_of_getElem? (Window.axis_eq_ok.mp ha).2.1)
  rw [Window.Axis.trimmed_fits_iff hs, eq_comm]
  exact and_congr_right fun hfew => by rw [Window.Axis.trimmed_of_fits hs hfew]

/-- What the windows of a pooling leave of an extent does not depend on those of other axes, except
for whether any of them is padded. -/
theorem poolingWindows_eq_ok (hstride : ∀ n ∈ w.stride, 1 ≤ n) {spatial : List Int} :
    s.poolingWindows src w = .ok spatial ↔
      List.Forall₂ (fun p e => ∃ a, w.axis p.2 = .ok a ∧ a.Leaves w.padded p.1 e)
        src.spatial.zipIdx spatial := by
  rw [poolingWindows, bind_eq_ok]
  simp only [mapM_eq_ok, bind_eq_ok, lift_eq_ok, pure_eq_ok]
  change (∃ raw, _ ∧ (if w.padded = true then _ else _) = _) ↔ _
  cases w.padded with
  | true =>
    simp only [↓reduceIte, mapM_eq_ok, poolingTrimmed_eq_ok hstride]
    rw [exists_forall₂_zip_iff]
    constructor
    · refine List.Forall₂.imp ?_
      rintro p e ⟨n, ⟨a, ha, rfl⟩, a', ha', hfew, heq⟩
      obtain rfl := eq_of_ok ha ha'
      exact ⟨a, ha, fun _ => hfew, heq⟩
    · refine List.Forall₂.imp ?_
      rintro p e ⟨a, ha, hfew, heq⟩
      exact ⟨a.pooled p.1, ⟨a, ha, rfl⟩, a, ha, hfew rfl, heq⟩
  | false =>
    simp only [Bool.false_eq_true, ↓reduceIte, pure_eq_ok, exists_eq_right]
    constructor
    · refine List.Forall₂.imp ?_
      rintro p e ⟨a, ha, heq⟩
      exact ⟨a, ha, fun hpadded => absurd hpadded Bool.false_ne_true, heq.symm⟩
    · refine List.Forall₂.imp ?_
      rintro p e ⟨a, ha, -, heq⟩
      exact ⟨a, ha, heq.symm⟩

theorem poolingLayer_made {d : Draft} (h : s.poolingLayer = .ok d) (hin : s.inputs = [some src]) :
    ∃ w b, s.poolingWindow src = .ok w ∧ d = ⟨[.made b], .pooling s.poolingMethod w⟩ ∧
      Scalable src.elementSize w.stride ∧
      Windowed src w (Window.Axis.Pools w.padded) b := by
  obtain ⟨src', top, w, spatial, size, samples, channels, b, hin', -, hw, -, hspatial, hempty,
    hsize, hsamples, -, hb, rfl⟩ := poolingLayer_ok h
  obtain rfl : src = src' := by simpa [hin] using hin'
  have hleft := (poolingWindows_eq_ok (stride_poolingWindow hw)).mp hspatial
  have hpos := pos_of_firstEmpty hempty
  have htakes : w.Takes (Window.Axis.Pools w.padded) src.spatial (spatial.map Int.toNat) := by
    refine .of_forall₂ (P := fun p e => 0 < e ∧ ∃ a, w.axis p.2 = .ok a ∧ a.Leaves w.padded p.1 e)
      ?_ ?_
    · exact ((List.forall₂_and_left _ _).mpr ⟨hpos, hleft.flip⟩).flip
    · rintro x d e ⟨he, a, ha, hleaves⟩
      rw [← Int.toNat_of_nonneg (Int.le_of_lt he)] at hleaves
      exact ⟨a, ha, hleaves, Int.pos_iff_toNat_pos.mp he⟩
  refine ⟨w, b, hw, rfl, exists_stretched.mp ⟨size, hsize⟩, ?_⟩
  exact windowed_newBlob hb rfl rfl rfl hsamples htakes (length_stretched hsize)

theorem firstEmpty_of_pos {spatial : List Int} (h : ∀ e ∈ spatial, 0 < e) (d : Nat) :
    firstEmpty d spatial = none := by
  induction spatial generalizing d with
  | nil => rfl
  | cons first rest ih =>
    obtain ⟨hfirst, hrest⟩ := List.forall_mem_cons.mp h
    rw [firstEmpty, if_neg (Int.not_le.mpr hfirst)]
    exact ih hrest (d + 1)

theorem exists_poolingLayer (h : s.Single src top) (hsrc : src.Regular rank)
    (hs : src.isScalar = false) (hw : s.poolingWindow src = .ok w)
    (hscale : Scalable src.elementSize w.stride) {spatial : List Nat}
    (htakes : w.Takes (Window.Axis.Pools w.padded) src.spatial spatial) :
    ∃ d, s.poolingLayer = .ok d := by
  obtain ⟨size, hsize⟩ := exists_stretched.mpr hscale
  obtain ⟨samples, hsamples, hpos⟩ := hsrc.exists_samples
  obtain ⟨channels, hchannels, hchannel⟩ := hsrc.exists_channels hs
  have hleft : s.poolingWindows src w = .ok (extentsOf spatial) :=
    (poolingWindows_eq_ok (stride_poolingWindow hw)).mpr
      (htakes.forall₂ fun x d a y ha hpools => ⟨a, ha, hpools.toLeaves⟩)
  have hextents : ∀ e ∈ extentsOf spatial, 0 < e := by
    refine pos_extentsOf fun y hy => ?_
    obtain ⟨p, -, a, -, hpools⟩ := exists_of_mem_right htakes hy
    exact hpools.pos
  obtain ⟨b, hb⟩ := exists_newBlob (s := s)
    (k := { name := top, shape := extentsOf [samples, channels] ++ extentsOf spatial
            elementSize := some size, resident := true, gradient := src.gradient })
    (pos_windowed hpos hchannel hextents)
  refine ⟨⟨[.made b], .pooling s.poolingMethod w⟩, ?_⟩
  simp only [poolingLayer, h.inputs_ok, h.outputs_ok, h.source, h.target, hw, h.fresh, hleft,
    firstEmpty_of_pos hextents, hsamples, hchannels, hsize, hb, bind_eq_ok, pure_eq_ok, lift_eq_ok,
    Except.ok.injEq, exists_eq_left', exists_const, and_self]

theorem poolingLayer_iff (h : s.Single src top) (hsrc : src.Regular rank)
    (hs : src.isScalar = false) (hw : s.poolingWindow src = .ok w) :
    (∃ d, s.poolingLayer = .ok d) ↔
      Scalable src.elementSize w.stride ∧ w.Fits src.spatial := by
  have hxs : ∀ x ∈ src.spatial, 1 ≤ x := fun x hx => hsrc.extents x (Blob.mem_of_mem_spatial hx)
  rw [← Window.exists_takes_iff (stride_poolingWindow hw) hxs]
  constructor
  · rintro ⟨d, hd⟩
    obtain ⟨w', b, hw', rfl, hscale, hmade⟩ := poolingLayer_made hd h.inputs
    obtain rfl := eq_of_ok hw hw'
    exact ⟨hscale, b.spatial, hmade.spatial⟩
  · rintro ⟨hscale, spatial, htakes⟩
    exact exists_poolingLayer h hsrc hs hw hscale htakes

/-- The refusal of a pooling of which two windows start in the padding behind an axis. -/
def paddingFault (d : Declaration) (axis : Nat) : Fault :=
  d.fault s!"last pooling window of axis {axis} starts in the padding" "pad"

theorem exists_poolingWindows (hsrc : src.Regular rank) (hw : s.poolingWindow src = .ok w)
    (hpad : ∀ i a, w.axis i = .ok a → a.pad ≤ a.kernel) :
    ∃ spatial, s.poolingWindows src w = .ok spatial := by
  have hstride := stride_poolingWindow hw
  simp only [poolingWindows_eq_ok hstride]
  rw [exists_forall₂_iff]
  intro p hp
  obtain ⟨a, ha⟩ := (spans_poolingWindow hsrc hw).axis (List.snd_lt_of_mem_zipIdx hp)
  have hs := hstride _ (List.mem_of_getElem? (Window.axis_eq_ok.mp ha).2.1)
  exact ⟨_, a, ha, fun _ => Window.Axis.pooled_le_starts hs (hpad p.2 a ha), rfl⟩

/-- Where no padding is wider than its window, one window at most starts in it. -/
theorem poolingLayer_fails_elsewhere (h : s.Single src top) (hsrc : src.Regular rank)
    (hs : src.isScalar = false) (hw : s.poolingWindow src = .ok w)
    (hpad : ∀ i a, w.axis i = .ok a → a.pad ≤ a.kernel) (axis : Nat) :
    FailsOnly (· ≠ .fault (paddingFault s.declaration axis)) s.poolingLayer := by
  have hother (message : String) : Failure.fault (s.declaration.fault message "kernel_size") ≠
      .fault (paddingFault s.declaration axis) := by
    simp [paddingFault, Declaration.fault]
  obtain ⟨spatial, hspatial⟩ := exists_poolingWindows hsrc hw hpad
  refine .step h.inputs_ok <| .step h.outputs_ok <| .step (lift_eq_ok.mpr h.source) <|
    .step hw <| .step (lift_eq_ok.mpr h.target) <| .step h.fresh <| .step hspatial ?_
  cases hempty : firstEmpty 0 spatial with
  | some d =>
    refine .bind ?_ fun _ hnever => (refuse_eq_ok.mp hnever).elim
    exact .error (hother _)
  | none =>
    obtain ⟨samples, hsamples, hpos⟩ := hsrc.exists_samples
    obtain ⟨channels, hchannels, hchannel⟩ := hsrc.exists_channels hs
    refine .bind (.lift fun m _ => Failure.noConfusion) fun size _ => ?_
    refine .step (lift_eq_ok.mpr hsamples) <| .step (lift_eq_ok.mpr hchannels) ?_
    exact .bind (.of_ok (exists_newBlob (pos_windowed hpos hchannel (pos_of_firstEmpty hempty))))
      fun _ _ => .ok _

end Site

end NetFootprint
