import NetFootprint.Proofs.Layer.Channels
import NetFootprint.Proofs.Layer.Number

/-!
# How families refuse

A family that refuses a declaration explains why: with a fault of its construction that tells the
name and the tag of the layer. `Escapes` lists the ways in which a family may stop without such an
explanation. Here are the steps that the families are put together from.
-/

namespace NetFootprint

/-- The faults that the construction of a layer is meant to end with. -/
def Fault.isConstruction : Fault → Bool
  | .unsupportedLayerType .. | .missingBlob .. | .duplicateOutput .. | .invalidParameter .. => true
  | .general .. | .configuration .. | .budgetExceeded .. => false

/-- A fault explains to the user what is wrong with a declaration: it is one of a construction, and
its context tells the name and the tag of the layer if they are not empty. -/
structure Fault.Explains (f : Fault) (d : Declaration) : Prop where
  construction : f.isConstruction = true
  name : d.name ≠ "" → contextEntry "layer_name" (.text d.name) ∈ f.context
  type : d.type ≠ "" → contextEntry "layer_type" (.text d.type) ∈ f.context

/-- A blob as it stands in a network with a number of spatial axes. -/
structure Blob.Regular (b : Blob) (rank : Nat) : Prop where
  extents : ∀ e ∈ b.shape, 1 ≤ e
  scalar : b.isScalar = true → b.shape = [1]
  array : b.isScalar = false → b.shape.length = rank + 2

/-- Whether a family looks at an axis behind the samples, or at the axes of several inputs. -/
def LayerType.looksAtAxes : LayerType → Bool
  | .deconvolution | .pooling | .concat | .applyDeformation => true
  | _ => false

theorem Blob.exists_extent {b : Blob} {axis : Nat} (h : axis < b.shape.length) :
    ∃ e ∈ b.shape, b.extent axis = .ok e :=
  ⟨b.shape[axis], List.getElem_mem h, by rw [Blob.extent, List.getElem?_eq_getElem h]⟩

theorem Blob.mem_of_extent {b : Blob} {axis e : Nat} (h : b.extent axis = .ok e) :
    e ∈ b.shape := by
  unfold Blob.extent at h
  split at h
  · next e' he =>
    obtain rfl := Except.ok.inj h
    exact List.mem_of_getElem? he
  · cases h

theorem Blob.mem_of_mem_spatial {b : Blob} {e : Nat} (h : e ∈ b.spatial) : e ∈ b.shape := by
  unfold Blob.spatial at h
  split at h
  · cases h
  · exact List.mem_of_mem_drop h

namespace Blob.Regular

variable {b : Blob} {rank : Nat}

theorem spatialRank_eq (h : b.Regular rank) : b.spatialRank = b.spatial.length := by
  cases hs : b.isScalar with
  | true => simp [Blob.spatialRank, Blob.spatial, hs]
  | false =>
    have hlen := h.array hs
    simp only [Blob.spatialRank, Blob.spatial, hs, Bool.false_eq_true, if_false, List.length_drop]
    omega

theorem spatialRank_nonneg (h : b.Regular rank) : 0 ≤ b.spatialRank := by
  rw [h.spatialRank_eq]
  exact Int.natCast_nonneg _

theorem length_spatial (h : b.Regular rank) (hs : b.isScalar = false) :
    b.spatial.length = rank := by
  have hlen := h.array hs
  simp only [Blob.spatial, hs, Bool.false_eq_true, if_false, List.length_drop]
  omega

theorem spatial_nil (hs : b.isScalar = true) : b.spatial = [] := by
  simp [Blob.spatial, hs]

theorem exists_samples (h : b.Regular rank) : ∃ n, b.samples = .ok n ∧ 1 ≤ n := by
  have hlen : 0 < b.shape.length := by
    cases hs : b.isScalar with
    | true =>
      rw [h.scalar hs]
      decide
    | false =>
      rw [h.array hs]
      omega
  obtain ⟨n, hmem, hn⟩ := exists_extent hlen
  exact ⟨n, hn, h.extents n hmem⟩

theorem exists_extent (h : b.Regular rank) {axis : Nat} (haxis : axis < rank + 2) :
    b.isScalar = true ∨ ∃ n, b.extent axis = .ok n ∧ 1 ≤ n := by
  cases hs : b.isScalar with
  | true => exact .inl rfl
  | false =>
    obtain ⟨n, hmem, hn⟩ := Blob.exists_extent (h.array hs ▸ haxis)
    exact .inr ⟨n, hn, h.extents n hmem⟩

theorem exists_channels (h : b.Regular rank)
    (hs : b.isScalar = false) : ∃ n, b.channels = .ok n ∧ 1 ≤ n := by
  rcases h.exists_extent (show 1 < rank + 2 by omega) with hscalar | hchannels
  · rw [hs] at hscalar
    cases hscalar
  · exact hchannels

end Blob.Regular

theorem mem_layerContext_name {d : Declaration} (h : d.name ≠ "") :
    contextEntry "layer_name" (.text d.name) ∈ Fault.layerContext (.text d.name) (.text d.type) := by
  simp [Fault.layerContext, Fault.entry?, Value.truthy, h]

theorem mem_layerContext_type {d : Declaration} (h : d.type ≠ "") :
    contextEntry "layer_type" (.text d.type) ∈ Fault.layerContext (.text d.name) (.text d.type) := by
  simp [Fault.layerContext, Fault.entry?, Value.truthy, h]

theorem Fault.Explains.of_context {f : Fault} {d : Declaration} {more : List (Value × Value)}
    (hf : f.isConstruction = true)
    (h : f.context = Fault.layerContext (.text d.name) (.text d.type) ++ more) : f.Explains d where
  construction := hf
  name hn := by
    rw [h]
    exact List.mem_append_left _ (mem_layerContext_name hn)
  type ht := by
    rw [h]
    exact List.mem_append_left _ (mem_layerContext_type ht)

/-- An explanation of what is wrong with a declaration. -/
def Explained (d : Declaration) (e : Failure) : Prop := ∃ f, e = .fault f ∧ f.Explains d

theorem Explained.of_context {f : Fault} {d : Declaration} {more : List (Value × Value)}
    (hf : f.isConstruction = true)
    (h : f.context = Fault.layerContext (.text d.name) (.text d.type) ++ more) :
    Explained d (.fault f) :=
  ⟨f, rfl, .of_context hf h⟩

namespace Site

/-- The ways in which the building of a layer may end without an explanation of the layer. -/
inductive Escapes (s : Site) (t : LayerType) : Failure → Prop where
  /-- The softmax inside a loss is explained under a name and a tag of its own. -/
  | helper (ht : t = .softmaxWithLoss) (h : s.graph.contains (.text helperOutput) = true) :
    Escapes s t (.fault (.duplicateOutput (.text helperOutput)
      (.text (s.declaration.name ++ "/softmax")) (.text LayerType.softmax.tag)))
  /-- A parameter holds an infinite float. -/
  | infinite (key : String) (h : (s.declaration.param key).Holds Value.Infinite) :
    Escapes s t (.misuse .tooLarge)
  /-- A stride has no float that it is nearest to. -/
  | stride (ht : t.movesWindow = true) (v : Value)
    (hv : v ∈ (s.declaration.param "stride").oneOrMore) (n : Nat) (hn : v.toInt = .ok n)
    (h : Double.ofInt? n = none) : Escapes s t (.misuse .tooLarge)
  /-- A parameter holds a number that is too long to be written into a message. -/
  | number (key : String) (h : (s.declaration.param key).Holds Value.Long) :
    Escapes s t (.misuse .malformed)
  /-- The extents of a blob are too long to be written into a message. -/
  | extent (ht : t = .applyDeformation) (b : Blob) (hb : b ∈ s.graph.registeredBlobs) (e : Nat)
    (he : e ∈ b.shape) (h : TooLong e) : Escapes s t (.misuse .malformed)
  /-- An input is a scalar and lacks the axis. -/
  | axis (ht : t.looksAtAxes = true) (b : Blob) (hb : some b ∈ s.inputs) (hs : b.isScalar = true) :
    Escapes s t (.misuse .missingAxis)

/-- The ways in which the building of a layer may end without a layer. -/
def Fails (s : Site) (t : LayerType) (e : Failure) : Prop :=
  Explained s.declaration e ∨ s.Escapes t e

/-- A site in a network: the inputs are there, and every name can be looked up. -/
structure Settled (s : Site) (rank : Nat) : Prop where
  given : ∀ input ∈ s.inputs, ∃ b ∈ s.graph.registeredBlobs, input = some b
  regular : ∀ b ∈ s.graph.registeredBlobs, b.Regular rank
  keys : ∀ top ∈ s.declaration.outputs, top.isKey = true

variable {s : Site} {t : LayerType} {src : Blob} {rank : Nat}

theorem Settled.input (h : s.Settled rank) (hb : some src ∈ s.inputs) :
    src ∈ s.graph.registeredBlobs ∧ src.Regular rank := by
  obtain ⟨b, hreg, hsome⟩ := h.given (some src) hb
  obtain rfl := Option.some.inj hsome
  exact ⟨hreg, h.regular src hreg⟩

/-! ## Checks -/

theorem explained_fault (message parameter : String) :
    s.Fails t (.fault (s.declaration.fault message parameter)) :=
  .inl (.of_context rfl rfl)

theorem refuse_fails {α : Type} (message parameter : String) :
    FailsOnly (s.Fails t) (s.refuse message parameter : Except Failure α) :=
  .error (explained_fault message parameter)

theorem refuse_bind_fails {α β : Type} (message parameter : String)
    (f : α → Except Failure β) :
    FailsOnly (s.Fails t) ((s.refuse message parameter : Except Failure α) >>= f) :=
  (refuse_fails message parameter).bind fun _ h => (refuse_eq_ok.mp h).elim

theorem requireInputs_fails (least : Nat) (most : Option Nat) :
    FailsOnly (s.Fails t) (s.requireInputs least most) :=
  .ite (fun _ => .ok _) fun _ => refuse_fails _ _

theorem requireOutputs_fails (least : Nat) (most : Option Nat) :
    FailsOnly (s.Fails t) (s.requireOutputs least most) :=
  .ite (fun _ => .ok _) fun _ => refuse_fails _ _

theorem requireFresh_fails {top : Value} (hkey : top.isKey = true) :
    FailsOnly (s.Fails t) (s.requireFresh top) := by
  refine .bind (.of_ok ?_) fun name _ => .ite (fun _ => ?_) fun _ => .ok _
  · exact ⟨top, lift_eq_ok.mpr (key_eq_ok.mpr ⟨hkey, rfl⟩)⟩
  · exact .error (.inl (.of_context rfl rfl))

theorem exists_source (h : s.Settled rank) {least : Nat} {most : Option Nat} (hleast : 1 ≤ least)
    (hn : s.requireInputs least most = .ok ()) : ∃ src, s.source = .ok src := by
  have hlen := (inRange_iff.mp (requireInputs_eq_ok.mp hn)).1
  obtain ⟨input, rest, hin⟩ := List.exists_cons_of_length_pos (Nat.lt_of_lt_of_le hleast hlen)
  obtain ⟨src, -, rfl⟩ := h.given input (by simp [hin])
  exact ⟨src, source_eq_ok.mpr ⟨rest, hin⟩⟩

theorem exists_target {least : Nat} {most : Option Nat} (hleast : 1 ≤ least)
    (hn : s.requireOutputs least most = .ok ()) : ∃ top, s.target = .ok top := by
  have hlen := (inRange_iff.mp (requireOutputs_eq_ok.mp hn)).1
  obtain ⟨top, rest, hout⟩ := List.exists_cons_of_length_pos (Nat.lt_of_lt_of_le hleast hlen)
  exact ⟨top, target_eq_ok.mpr ⟨rest, hout⟩⟩

theorem mem_outputs_of_target {top : Value} (h : s.target = .ok top) :
    top ∈ s.declaration.outputs := by
  obtain ⟨rest, hout⟩ := target_eq_ok.mp h
  simp [hout]

theorem target_fresh_fails {α : Type} (h : s.Settled rank) {least : Nat} {most : Option Nat}
    (hleast : 1 ≤ least) (hn : s.requireOutputs least most = .ok ()) {f : Value → Except Failure α}
    (hf : ∀ top ∈ s.declaration.outputs, s.requireFresh top = .ok () →
      FailsOnly (s.Fails t) (f top)) :
    FailsOnly (s.Fails t) (do
      let top ← (s.target : Except Misuse Value)
      s.requireFresh top
      f top) := by
  obtain ⟨top, htop⟩ := exists_target hleast hn
  refine .bind (.of_ok ⟨top, lift_eq_ok.mpr htop⟩) fun top' htop' => ?_
  have hmem := mem_outputs_of_target (lift_eq_ok.mp htop')
  refine .bind (requireFresh_fails (h.keys top' hmem)) fun _ hfresh => ?_
  exact hf top' hmem hfresh

/-- A blob with positive extents is always made. -/
theorem exists_newBlob {k : Sketch} (h : ∀ e ∈ k.shape, 0 < e) : ∃ b, s.newBlob k = .ok b :=
  ⟨_, newBlob_eq_ok.mpr ⟨h, rfl⟩⟩

theorem pos_extentsOf {extents : List Nat} (h : ∀ e ∈ extents, 1 ≤ e) :
    ∀ e ∈ extentsOf extents, 0 < e := by
  intro e he
  obtain ⟨n, hn, rfl⟩ := List.mem_map.mp he
  exact Int.ofNat_lt.mpr (h n hn)

/-! ## Parameters -/

theorem param_of_lookup {key : String} {v : Value} (h : s.declaration.params.lookup key = some v) :
    s.declaration.param key = v := by
  rw [Declaration.param, h]
  rfl

theorem intParam_fails (key : String) (default : Option Nat) (least : Nat) :
    FailsOnly (s.Fails t) (s.intParam key default least) := by
  unfold intParam
  extract_lets given
  generalize hgiven : given = v
  split
  · exact refuse_fails _ _
  · next hnull =>
    refine .bind (.explain ?_ ?_) fun n _ => .ite (fun _ => refuse_fails _ _) fun _ => .ok _
    · exact explained_fault _ key
    · refine (Value.toInt_fails _).mono fun m hm => hm.imp_right (.imp_right ?_)
      rintro ⟨rfl, hinf⟩
      refine .inr (.infinite key ?_)
      -- a default is whole, so the infinite float was declared
      cases hl : s.declaration.params.lookup key with
      | some w =>
        have hw : v = w := by simp only [← hgiven, given, hl, Option.getD_some]
        rw [param_of_lookup hl, ← hw]
        exact .self hinf
      | none =>
        obtain ⟨x, negative, hx, -⟩ := hinf
        simp only [← hgiven, given, hl, Option.getD_none] at hx
        cases default <;> cases hx

theorem intParam_ge {key : String} {default : Option Nat} {least n : Nat}
    (h : s.intParam key default least = .ok n) : least ≤ n := by
  unfold intParam at h
  extract_lets given at h
  generalize given = v at h
  split at h
  · exact (refuse_eq_ok.mp h).elim
  · simp only [bind_eq_ok, ite_eq_ok, refuse_eq_ok, and_false, false_or, pure_eq_ok] at h
    obtain ⟨k, -, hk, rfl⟩ := h
    omega

/-- Where a value of a parameter comes from: the default or the declaration. -/
def Given (s : Site) (key : String) (default : Option Nat) (n : Nat) : Prop :=
  default = some n ∨ ∃ v ∈ (s.declaration.param key).oneOrMore, v.toInt = .ok n

theorem one_lt_pow_ten {digits : Nat} (h : digits ≠ 0) : 1 < Nat.pow 10 digits :=
  Nat.one_lt_pow h (by decide)

theorem not_tooLong {n : Nat} (h : n ≤ 1) : ¬ TooLong n := by
  intro hlong
  have hpow := one_lt_pow_ten (show Numeral.maxWholeDigits ≠ 0 by decide)
  rw [TooLong, Int.natAbs_natCast] at hlong
  exact Nat.not_lt.mpr h (Nat.lt_of_lt_of_le hpow hlong)

theorem axisParam_fails (key : String) {axes : Int} (haxes : 0 ≤ axes) {default : Option Nat}
    (hdefault : ∀ n, default = some n → n ≤ 1) (least : Nat) :
    FailsOnly (s.Fails t) (s.axisParam key axes default least) := by
  refine .bind (.explain ?_ ?_) fun expanded hexpanded => ?_
  · exact explained_fault _ key
  · refine (Axes.broadcastValue_fails _ axes default).mono fun m hm =>
      hm.imp_right (.imp_right ?_)
    rintro ⟨rfl, hinf⟩
    exact .inr (.infinite key hinf)
  · cases expanded with
    | none => exact refuse_fails _ _
    | some values =>
      refine .ite (fun _ => ?_) fun _ => .ok _
      refine .bind (.lift ?_) fun text _ => refuse_fails _ _
      refine (Value.exactInts_fails values).mono ?_
      rintro m ⟨rfl, n, hn, hlong⟩
      obtain ⟨-, hfrom⟩ := Axes.broadcastValue_ok haxes (explain_eq_ok.mp hexpanded)
      rcases hfrom n hn with ⟨k, hk, rfl⟩ | ⟨w, hw, hwn⟩
      · exact absurd hlong (not_tooLong (hdefault k hk))
      · exact .inr (.number key (Value.holds_of_mem_oneOrMore hw ⟨n, hwn, hlong⟩))

theorem axisParam_ok {key : String} {axes : Int} (haxes : 0 ≤ axes) {default : Option Nat}
    {least : Nat} {values : List Nat} (h : s.axisParam key axes default least = .ok values) :
    values.length = axes.toNat ∧ ∀ n ∈ values, s.Given key default n := by
  simp only [axisParam, bind_eq_ok, explain_eq_ok] at h
  obtain ⟨expanded, hexpanded, hrest⟩ := h
  cases expanded with
  | none => exact (refuse_eq_ok.mp hrest).elim
  | some ints =>
    simp only [ite_eq_ok, bind_eq_ok, refuse_eq_ok, and_false, exists_false, false_or, pure_eq_ok,
      Bool.not_eq_true, List.any_eq_false, decide_eq_true_eq, Int.not_lt] at hrest
    obtain ⟨hleast, rfl⟩ := hrest
    obtain ⟨hlen, hfrom⟩ := Axes.broadcastValue_ok haxes hexpanded
    refine ⟨by rw [List.length_map, hlen], fun n hn => ?_⟩
    obtain ⟨k, hk, rfl⟩ := List.mem_map.mp hn
    have hnonneg : ((k.toNat : Nat) : Int) = k := by
      have hk' := hleast k hk
      omega
    rcases hfrom k hk with ⟨m, hm, rfl⟩ | ⟨w, hw, hwn⟩
    · exact .inl hm
    · exact .inr ⟨w, hw, by rw [hwn, hnonneg]⟩

/-! ## Windows -/

/-- A window with numbers along each of some axes, whose strides are units or declared. -/
structure Spans (s : Site) (w : Window) (axes : Nat) : Prop where
  kernel : w.kernel.length = axes
  pad : w.pad.length = axes
  stride : w.stride.length = axes
  dilation : w.dilation.length = axes
  given : ∀ n ∈ w.stride, s.Given "stride" (some 1) n

theorem Spans.axis {w : Window} {axes d : Nat} (h : s.Spans w axes) (hd : d < axes) :
    ∃ a, w.axis d = .ok a := by
  have hk := List.getElem?_eq_getElem (h.kernel ▸ hd : d < w.kernel.length)
  have hp := List.getElem?_eq_getElem (h.pad ▸ hd : d < w.pad.length)
  have hs := List.getElem?_eq_getElem (h.stride ▸ hd : d < w.stride.length)
  have hl := List.getElem?_eq_getElem (h.dilation ▸ hd : d < w.dilation.length)
  simp [Window.axis, Window.axis?, hk, hp, hs, hl]

theorem window_fails (h : src.Regular rank) : FailsOnly (s.Fails t) (s.window src) := by
  have haxes := h.spatialRank_nonneg
  refine .bind (axisParam_fails _ haxes (by simp) _) fun kernel _ => ?_
  refine .bind (axisParam_fails _ haxes (by simp) _) fun pad _ => ?_
  refine .bind (axisParam_fails _ haxes (by simp) _) fun stride _ => ?_
  exact .bind (axisParam_fails _ haxes (by simp) _) fun dilation _ => .ok _

theorem spans_window (h : src.Regular rank) {w : Window} (hw : s.window src = .ok w) :
    s.Spans w src.spatial.length := by
  have hrank := h.spatialRank_eq
  have haxes := h.spatialRank_nonneg
  simp only [window, bind_eq_ok, pure_eq_ok] at hw
  obtain ⟨kernel, hk, pad, hp, stride, hs, dilation, hd, rfl⟩ := hw
  have hk := axisParam_ok haxes hk
  have hp := axisParam_ok haxes hp
  have hs := axisParam_ok haxes hs
  have hd := axisParam_ok haxes hd
  constructor
  · exact hk.1.trans (by omega)
  · exact hp.1.trans (by omega)
  · exact hs.1.trans (by omega)
  · exact hd.1.trans (by omega)
  · exact hs.2

theorem poolingWindow_fails (h : src.Regular rank) :
    FailsOnly (s.Fails t) (s.poolingWindow src) := by
  have haxes := h.spatialRank_nonneg
  refine .ite (fun _ => .ok _) fun _ => ?_
  refine .bind (axisParam_fails _ haxes (by simp) _) fun kernel _ => ?_
  refine .bind (axisParam_fails _ haxes (by simp) _) fun pad _ => ?_
  exact .bind (axisParam_fails _ haxes (by simp) _) fun stride _ => .ok _

theorem spans_poolingWindow (h : src.Regular rank) {w : Window}
    (hw : s.poolingWindow src = .ok w) : s.Spans w src.spatial.length := by
  have hrank := h.spatialRank_eq
  have haxes := h.spatialRank_nonneg
  simp only [poolingWindow, ite_eq_ok, bind_eq_ok, pure_eq_ok] at hw
  obtain ⟨-, rfl⟩ | ⟨-, kernel, hk, pad, hp, stride, hs, rfl⟩ := hw
  · constructor
    · rfl
    · exact List.length_map _
    · exact List.length_map _
    · exact List.length_map _
    · intro n hn
      obtain ⟨e, -, rfl⟩ := List.mem_map.mp hn
      exact .inl rfl
  · have hk := axisParam_ok haxes hk
    have hp := axisParam_ok haxes hp
    have hs := axisParam_ok haxes hs
    constructor
    · exact hk.1.trans (by omega)
    · exact hp.1.trans (by omega)
    · exact hs.1.trans (by omega)
    · exact (List.length_map _).trans (hs.1.trans (by omega))
    · exact hs.2

theorem ofWhole_one : ∃ x, Double.ofWhole 1 = .ok x := by
  have hsome : (Double.ofInt? 1).isSome = true := by decide +kernel
  obtain ⟨x, hx⟩ := Option.isSome_iff_exists.mp hsome
  exact ⟨x, by rw [Double.ofWhole, hx]⟩

theorem ofWhole_fails (ht : t.movesWindow = true) {n : Nat} (h : s.Given "stride" (some 1) n) :
    FailsOnly (s.Fails t) (liftM (Double.ofWhole n) : Except Failure Float) := by
  rcases h with hone | ⟨v, hv, hvn⟩
  · obtain rfl := Option.some.inj hone
    obtain ⟨x, hx⟩ := ofWhole_one
    exact .of_ok ⟨x, lift_eq_ok.mpr hx⟩
  · refine .lift ?_
    unfold Double.ofWhole
    split
    · exact .ok _
    · next hnone => exact .error (.inr (.stride ht v hv n hvn hnone))

end Site

end NetFootprint
