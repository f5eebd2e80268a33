import Mathlib.Data.List.Basic
import NetFootprint.Proofs.Layer.Accept

/-!
# Spellings of a window

One value for each axis may be declared in many ways: missing values at the end repeat the last one,
surplus values are dropped, a single number stands for a list of it, and what a list is spread to
may itself be declared. For a given number of axes all of them are read as the same values, and a
layer that moves a window is built the same, or refused for the same reason, whichever of them its
declaration has.
-/

namespace NetFootprint

namespace Axes

variable {values values' : List Int} {n m k i : Nat}

/-! ## Values spread over the axes -/

theorem expand_eq (values : List Int) (n : Nat) :
    expand values n = values.take n ++ List.replicate (n - values.length) (values.getLastD 0) := by
  have hlimit : limit values n = values.take n := if_pos (Int.natCast_nonneg n)
  rw [expand, hlimit, Int.toNat_natCast, List.length_take]
  congr 2
  omega

@[simp] theorem length_expand_natCast (values : List Int) (n : Nat) :
    (expand values n).length = n :=
  length_expand values (Int.natCast_nonneg n)

theorem expand_ne_nil (h : 1 ≤ n) : expand values n ≠ [] := by
  rw [← List.length_pos_iff, length_expand_natCast]
  exact h

theorem getElem?_expand (h : values ≠ []) (hi : i < n) :
    (expand values n)[i]? = values[min i (values.length - 1)]? := by
  have hpos : 0 < values.length := List.length_pos_iff.mpr h
  rw [expand_eq]
  by_cases hlt : i < values.length
  · rw [List.getElem?_append_left (by rw [List.length_take]; omega), List.getElem?_take_of_lt hi,
      Nat.min_eq_left (by omega)]
  · rw [List.getElem?_append_right (by rw [List.length_take]; omega), List.length_take,
      List.getElem?_replicate_of_lt (by omega), Nat.min_eq_right (by omega),
      ← List.getLast?_eq_getElem?, List.getLast?_eq_some_getLast h, List.getLastD_eq_getLast?,
      List.getLast?_eq_some_getLast h]
    rfl

theorem expand_congr (h : values ≠ []) (h' : values' ≠ [])
    (hsame : ∀ i < n, values[min i (values.length - 1)]? = values'[min i (values'.length - 1)]?) :
    expand values n = expand values' n := by
  refine List.ext_getElem? fun i => ?_
  by_cases hi : i < n
  · rw [getElem?_expand h hi, getElem?_expand h' hi, hsame i hi]
  · rw [List.getElem?_eq_none (by rw [length_expand_natCast]; omega),
      List.getElem?_eq_none (by rw [length_expand_natCast]; omega)]

theorem expand_append_last (h : values ≠ []) (k n : Nat) :
    expand (values ++ List.replicate k (values.getLast h)) n = expand values n := by
  have hpos : 0 < values.length := List.length_pos_iff.mpr h
  refine expand_congr (by simp [h]) h fun i _ => ?_
  rw [List.length_append, List.length_replicate]
  by_cases hlt : i < values.length
  · rw [List.getElem?_append_left (by omega)]
    congr 1
    omega
  · by_cases hk : k = 0
    · subst hk
      simp
    · rw [List.getElem?_append_right (by omega), List.getElem?_replicate_of_lt (by omega),
        Nat.min_eq_right (by omega), ← List.getLast?_eq_getElem?,
        List.getLast?_eq_some_getLast h]

/-- Values that are spread over enough axes are spread further as they would be at once. -/
theorem expand_expand (h : values ≠ []) (hm : 1 ≤ m) (hmin : min values.length n ≤ m) :
    expand (expand values m) n = expand values n := by
  have hpos : 0 < values.length := List.length_pos_iff.mpr h
  refine expand_congr (expand_ne_nil hm) h fun i hi => ?_
  rw [length_expand_natCast, getElem?_expand h (by omega)]
  congr 1
  omega

/-! ## Declared values -/

def ints (values : List Int) : Value := .list (values.map .int)

theorem broadcastValue_of_ne_nil (h : values ≠ []) (axes : Int) (default : Value) :
    broadcastValue (ints values) axes default = .ok (some (expand values axes)) := by
  unfold broadcastValue ints
  rw [declared_ints]
  simp [h, bind, Except.bind, pure, Except.pure]

/-- Two spellings of the same values for a number of axes: what is declared may be spelled as it is,
as a single number, with further copies of its last value, or spread over enough axes. -/
inductive Alike (n : Nat) : Value → Value → Prop where
  | refl (v : Value) : Alike n v v
  | symm {v v' : Value} (h : Alike n v v') : Alike n v' v
  | trans {v v' v'' : Value} (h : Alike n v v') (h' : Alike n v' v'') : Alike n v v''
  | single (x : Int) : Alike n (.int x) (ints [x])
  | repeated {values : List Int} (h : values ≠ []) (k : Nat) :
    Alike n (ints values) (ints (values ++ List.replicate k (values.getLast h)))
  | expanded {values : List Int} {m : Nat} (h : values ≠ []) (hm : 1 ≤ m)
    (hmin : min values.length n ≤ m) : Alike n (ints values) (ints (expand values m))

theorem Alike.broadcastValue {v v' : Value} (h : Alike n v v') (default : Value) :
    broadcastValue v' n default = broadcastValue v n default := by
  induction h with
  | refl v => rfl
  | symm _ ih => exact ih.symm
  | trans _ _ ih ih' => exact ih'.trans ih
  | single x => rfl
  | repeated hne k =>
    rw [broadcastValue_of_ne_nil (by simp [hne]), broadcastValue_of_ne_nil hne,
      expand_append_last hne]
  | expanded hne hm hmin =>
    rw [broadcastValue_of_ne_nil (expand_ne_nil hm), broadcastValue_of_ne_nil hne,
      expand_expand hne hm hmin]

end Axes

/-- Two lists of parameters that differ only in how kernel, pad, stride and dilation are spelled for
a number of axes. -/
structure Respelled (n : Nat) (params params' : List (String × Value)) : Prop where
  window : ∀ key ∈ Site.windowKeys,
    Axes.Alike n ((params.lookup key).getD .null) ((params'.lookup key).getD .null)
  other : ∀ key, key ∉ Site.windowKeys → params'.lookup key = params.lookup key

def Declaration.withParams (d : Declaration) (params : List (String × Value)) : Declaration :=
  { d with params }

namespace Site

variable {s : Site} {n : Nat} {params : List (String × Value)}

def withParams (s : Site) (params : List (String × Value)) : Site :=
  { s with declaration := s.declaration.withParams params }

/-! ## Reading the parameters -/

section

variable (h : Respelled n s.declaration.params params)
include h

theorem axisParam_withParams {key : String} (hkey : key ∈ windowKeys) (default : Option Nat)
    (least : Nat) :
    (s.withParams params).axisParam key n default least = s.axisParam key n default least := by
  have hread (d : Value) : Axes.broadcastValue ((s.withParams params).declaration.param key) n d
      = Axes.broadcastValue (s.declaration.param key) n d := (h.window key hkey).broadcastValue d
  unfold axisParam
  rw [hread]
  rfl

theorem intParam_withParams {key : String} (hkey : key ∉ windowKeys) (default : Option Nat)
    (least : Nat) :
    (s.withParams params).intParam key default least = s.intParam key default least := by
  unfold intParam
  rw [show (s.withParams params).declaration.params.lookup key = s.declaration.params.lookup key
    from h.other key hkey]
  rfl

theorem window_withParams {src : Blob} (hrank : src.spatialRank = n) :
    (s.withParams params).window src = s.window src := by
  unfold window
  rw [hrank]
  dsimp only
  rw [axisParam_withParams h (by decide), axisParam_withParams h (by decide),
    axisParam_withParams h (by decide), axisParam_withParams h (by decide)]

theorem poolingWindow_withParams {src : Blob} (hrank : src.spatialRank = n) :
    (s.withParams params).poolingWindow src = s.poolingWindow src := by
  have hglobal : (s.withParams params).declaration.param "global_pooling"
      = s.declaration.param "global_pooling" := by
    have hlookup := h.other "global_pooling" (by decide)
    exact congrArg (fun given : Option Value => given.getD .null) hlookup
  unfold poolingWindow
  rw [hglobal, hrank]
  dsimp only
  rw [axisParam_withParams h (by decide), axisParam_withParams h (by decide),
    axisParam_withParams h (by decide)]

theorem poolingMethod_withParams : (s.withParams params).poolingMethod = s.poolingMethod := by
  unfold poolingMethod
  rw [show (s.withParams params).declaration.params.lookup "pool"
    = s.declaration.params.lookup "pool" from h.other "pool" (by decide)]

/-! ## Building the layer -/

variable (hsource : ∀ src, s.source = .ok src → src.spatialRank = n)
include hsource

theorem convolutionLayer_withParams :
    (s.withParams params).convolutionLayer = s.convolutionLayer := by
  unfold convolutionLayer
  refine bind_congr fun _ => bind_congr fun _ => bind_congr_of_ok fun src hsrc => ?_
  rw [window_withParams h (hsource src (lift_eq_ok.mp hsrc)), intParam_withParams h (by decide)]
  rfl

theorem deconvolutionLayer_withParams :
    (s.withParams params).deconvolutionLayer = s.deconvolutionLayer := by
  unfold deconvolutionLayer
  refine bind_congr fun _ => bind_congr fun _ => bind_congr_of_ok fun src hsrc => ?_
  rw [window_withParams h (hsource src (lift_eq_ok.mp hsrc)), intParam_withParams h (by decide)]
  rfl

theorem poolingLayer_withParams :
    (s.withParams params).poolingLayer = s.poolingLayer := by
  unfold poolingLayer
  refine bind_congr fun _ => bind_congr fun _ => bind_congr_of_ok fun src hsrc => ?_
  rw [poolingWindow_withParams h (hsource src (lift_eq_ok.mp hsrc)), poolingMethod_withParams h]
  rfl

/-- A layer that moves a window is built the same, or refused for the same reason, however its
window is spelled for the axes of the blob that it reads first. -/
theorem layer_withParams {t : LayerType} (ht : t = .convolution ∨ t = .deconvolution ∨ t = .pooling) :
    (s.withParams params).layer t = s.layer t := by
  rcases ht with rfl | rfl | rfl
  · exact convolutionLayer_withParams h hsource
  · exact deconvolutionLayer_withParams h hsource
  · exact poolingLayer_withParams h hsource

end

end Site

end NetFootprint
