import NetFootprint.Proofs.Layer.Refusal

/-!
# Families explain their refusals

Each family, step by step: what it refuses is explained, and what is not explained is one of the
exceptions of `Escapes`. The argument is always the same. Inputs and names are there because the
arity was checked, a window has numbers along the axes of the blob it was declared for, and every
extent that was checked is positive, so that a blob can be made of it.
-/

namespace NetFootprint.Site

variable {s : Site} {t : LayerType} {src : Blob} {rank : Nat}

theorem source_fails {α : Type} (h : s.Settled rank) {least : Nat} {most : Option Nat}
    (hleast : 1 ≤ least) (hn : s.requireInputs least most = .ok ()) {f : Blob → Except Failure α}
    (hf : ∀ src, some src ∈ s.inputs → src.Regular rank → FailsOnly (s.Fails t) (f src)) :
    FailsOnly (s.Fails t) ((liftM s.source : Except Failure Blob) >>= f) := by
  obtain ⟨src, hsrc⟩ := exists_source h hleast hn
  refine .bind (.of_ok ⟨src, lift_eq_ok.mpr hsrc⟩) fun src' hsrc' => ?_
  obtain ⟨rest, hin⟩ := source_eq_ok.mp (lift_eq_ok.mp hsrc')
  have hmem : some src' ∈ s.inputs := by simp [hin]
  exact hf src' hmem (h.input hmem).2

theorem samples_fails {α : Type} (h : src.Regular rank) {f : Nat → Except Failure α}
    (hf : ∀ n, 1 ≤ n → FailsOnly (s.Fails t) (f n)) :
    FailsOnly (s.Fails t) ((liftM src.samples : Except Failure Nat) >>= f) := by
  obtain ⟨n, hn, hpos⟩ := h.exists_samples
  refine .bind (.of_ok ⟨n, lift_eq_ok.mpr hn⟩) fun n' hn' => hf n' ?_
  obtain rfl := eq_of_ok hn (lift_eq_ok.mp hn')
  exact hpos

/-- A family that looks at the axes may be stopped by a scalar. -/
theorem extent_fails {axis : Nat} (ht : t.looksAtAxes = true) (hb : some src ∈ s.inputs)
    (h : src.Regular rank) (haxis : axis < rank + 2) :
    FailsOnly (fun m => s.Fails t (.misuse m)) (src.extent axis) := by
  rcases h.exists_extent haxis with hs | ⟨n, hn, -⟩
  · rw [Blob.extent]
    split
    · exact .ok _
    · exact .error (.inr (.axis ht src hb hs))
  · exact .of_ok ⟨n, hn⟩

theorem newBlob_fails {k : Sketch} (h : ∀ e ∈ k.shape, 0 < e) :
    FailsOnly (s.Fails t) (s.newBlob k) :=
  .of_ok (exists_newBlob h)

theorem pos_windowed {samples channels : Nat} {spatial : List Int} (hs : 1 ≤ samples)
    (hc : 1 ≤ channels) (hsp : ∀ e ∈ spatial, 0 < e) :
    ∀ e ∈ extentsOf [samples, channels] ++ spatial, 0 < e := by
  intro e he
  rcases List.mem_append.mp he with hfirst | hrest
  · exact pos_extentsOf (by simp [hs, hc]) e hfirst
  · exact hsp e hrest

theorem scaled_fails (ht : t.movesWindow = true) {sizes : List Float} {strides : List Nat}
    (h : ∀ n ∈ strides, s.Given "stride" (some 1) n) (f : Float → Float → Float) :
    FailsOnly (fun m => s.Fails t (.misuse m))
      ((sizes.zip strides).mapM fun p => do return f p.1 (← Double.ofWhole p.2)) := by
  refine .mapM fun p hp => .bind ?_ fun x _ => .ok _
  have hgiven := h p.2 (List.of_mem_zip hp).2
  intro m hm
  have hlift := ofWhole_fails (s := s) ht hgiven (.misuse m)
  apply hlift
  rw [hm]
  rfl

/-! ## Sources -/

theorem sourceShapes_fails : FailsOnly (s.Fails t) s.sourceShapes := by
  unfold sourceShapes
  split
  · exact refuse_fails _ _
  · exact .ok _
  · exact .ok _
  · exact .ok _
  · exact refuse_fails _ _

theorem holds_of_mem_sourceShapes {P : Value → Prop} {shapes : List Value} {shape : Value}
    (h : s.sourceShapes = .ok shapes) (hmem : shape ∈ shapes) (hp : shape.Holds P) :
    (s.declaration.param "shape").Holds P := by
  unfold sourceShapes at h
  split at h
  · exact (refuse_eq_ok.mp h).elim
  · obtain rfl := Except.ok.inj h
    cases hmem
  · next first rest hshape =>
    obtain rfl := Except.ok.inj h
    rw [hshape]
    exact .member rfl hmem hp
  · next items _ _ hshape =>
    obtain rfl := Except.ok.inj h
    obtain rfl := List.mem_singleton.mp hmem
    rwa [hshape]
  · exact (refuse_eq_ok.mp h).elim

theorem sourceBlob_fails {top shape : Value} (hkey : top.isKey = true)
    (hshape : ∀ P, shape.Holds P → (s.declaration.param "shape").Holds P) :
    FailsOnly (s.Fails t) (s.sourceBlob top shape) := by
  have hwrite (extents : List Int) (hread : shape.toInts = .ok extents) :
      FailsOnly (s.Fails t) (liftM (Value.exactInts extents) : Except Failure String) := by
    refine .lift ((Value.exactInts_fails extents).mono ?_)
    rintro m ⟨rfl, n, hn, hlong⟩
    exact .inr (.number "shape" (hshape _ (Value.exists_of_toInts hread hn hlong)))
  refine .bind (.explain ?_ ?_) fun extents hextents => ?_
  · exact explained_fault _ _
  · refine (Value.toInts_fails shape).mono fun m hm => hm.imp_right (.imp_right ?_)
    rintro ⟨rfl, hinf⟩
    exact .inr (.infinite "shape" (hshape _ hinf))
  · have hread := explain_eq_ok.mp hextents
    refine .ite (fun _ => ?_) fun _ => ?_
    · exact .bind (hwrite extents hread) fun text _ => refuse_bind_fails _ _ _
    · refine .bind (requireFresh_fails hkey) fun _ _ => .bind ?_ fun b _ => .ok _
      refine .ite (fun _ => ?_) fun _ => .ok _
      exact .bind (hwrite extents hread) fun text _ => refuse_bind_fails _ _ _

theorem sourceLayer_fails (h : s.Settled rank) : FailsOnly (s.Fails t) s.sourceLayer := by
  refine .bind (requireInputs_fails _ _) fun _ _ => ?_
  refine .bind (requireOutputs_fails _ _) fun _ _ => ?_
  refine .bind sourceShapes_fails fun shapes hshapes => ?_
  refine .ite (fun _ => refuse_bind_fails _ _ _) fun _ => ?_
  refine .bind (.mapM fun p hp => ?_) fun outputs _ => .ok _
  obtain ⟨htop, hshape⟩ := List.of_mem_zip hp
  exact sourceBlob_fails (h.keys p.1 htop) fun P hP =>
    holds_of_mem_sourceShapes hshapes hshape hP

/-! ## Windows -/

theorem axis_fails {α : Type} {w : Window} {axes d : Nat} (hw : s.Spans w axes) (hd : d < axes)
    {f : Window.Axis → Except Failure α} (hf : ∀ a, FailsOnly (s.Fails t) (f a)) :
    FailsOnly (s.Fails t) ((liftM (w.axis d) : Except Failure Window.Axis) >>= f) := by
  obtain ⟨a, ha⟩ := hw.axis hd
  exact .bind (.of_ok ⟨a, lift_eq_ok.mpr ha⟩) fun a' _ => hf a'

theorem convolutionLayer_fails (h : s.Settled rank) :
    FailsOnly (s.Fails .convolution) s.convolutionLayer := by
  refine .bind (requireInputs_fails _ _) fun _ hin => ?_
  refine .bind (requireOutputs_fails _ _) fun _ hout => ?_
  refine source_fails h (Nat.le_refl 1) hin fun src hmem hsrc => ?_
  refine .bind (window_fails hsrc) fun w hw => ?_
  refine .bind (intParam_fails _ _ _) fun numOutput hnum => ?_
  refine target_fresh_fails h (Nat.le_refl 1) hout fun top _ _ => ?_
  have hspans := spans_window hsrc hw
  refine samples_fails hsrc fun samples hsamples => ?_
  refine .bind (.mapM fun p hp => ?_) fun spatial hspatial => ?_
  · refine axis_fails hspans (List.snd_lt_of_mem_zipIdx hp) fun a => ?_
    refine .ite (fun _ => refuse_bind_fails _ _ _) fun _ => ?_
    exact .ite (fun _ => refuse_bind_fails _ _ _) fun _ => .ok _
  · refine .bind (.lift (scaled_fails rfl hspans.given (· * ·))) fun size _ => ?_
    refine .bind (newBlob_fails ?_) fun b _ => .ok _
    refine pos_windowed hsamples (intParam_ge hnum) fun e he => ?_
    obtain ⟨p, -, hp⟩ := exists_of_mem_right (mapM_eq_ok.mp hspatial) he
    obtain ⟨a, -, hslack, -, rfl⟩ := convolvedExtent_ok hp
    have hdiv : 0 ≤ Int.fdiv (a.slack p.1) a.stride :=
      Int.fdiv_nonneg (Int.le_of_lt hslack) (Int.natCast_nonneg _)
    exact Int.lt_add_one_of_le hdiv

/-- The window of the first input has the axes of every input, if the first is not a scalar. -/
theorem deconvolved_axis (h : s.Settled rank) {first : Blob} {w : Window}
    (hfirst : some first ∈ s.inputs) (hw : s.Spans w first.spatial.length)
    (hmem : some src ∈ s.inputs) {d : Nat} (hd : d < src.spatial.length) :
    FailsOnly (s.Fails .deconvolution) (liftM (w.axis d) : Except Failure Window.Axis) := by
  have hsrc := (h.input hmem).2
  cases hs : first.isScalar with
  | true =>
    refine .lift ?_
    unfold Window.axis
    split
    · exact .ok _
    · exact .error (.inr (.axis rfl first hfirst hs))
  | false =>
    have hrank := (h.input hfirst).2.length_spatial hs
    have hlt : d < first.spatial.length := by
      cases hss : src.isScalar with
      | true =>
        rw [Blob.Regular.spatial_nil hss] at hd
        cases hd
      | false =>
        rw [hsrc.length_spatial hss] at hd
        omega
    obtain ⟨a, ha⟩ := hw.axis hlt
    exact .of_ok ⟨a, lift_eq_ok.mpr ha⟩

theorem upConvolvedBlob_fails (h : s.Settled rank) {first : Blob} {w : Window} {numOutput : Nat}
    (hfirst : some first ∈ s.inputs) (hw : s.Spans w first.spatial.length)
    (hnum : 1 ≤ numOutput) {input : Option Blob} {top : Value} (hin : input ∈ s.inputs)
    (htop : top ∈ s.declaration.outputs) :
    FailsOnly (s.Fails .deconvolution) (s.upConvolvedBlob w numOutput input top) := by
  obtain ⟨src, -, rfl⟩ := h.given input hin
  have hsrc := (h.input hin).2
  refine .bind (requireFresh_fails (h.keys top htop)) fun _ _ => ?_
  refine .bind (.of_ok ⟨src, rfl⟩) fun src' hsrc' => ?_
  obtain rfl := Except.ok.inj hsrc'
  refine samples_fails hsrc fun samples hsamples => ?_
  refine .bind (.mapM fun p hp => ?_) fun spatial hspatial => ?_
  · have haxis := deconvolved_axis h hfirst hw hin (List.snd_lt_of_mem_zipIdx hp)
    exact .bind haxis fun a _ => .ite (fun _ => refuse_bind_fails _ _ _) fun _ => .ok _
  · refine .bind (.lift (scaled_fails rfl hw.given (· / ·))) fun size _ => ?_
    refine .bind (newBlob_fails ?_) fun b _ => .ok _
    refine pos_windowed hsamples hnum fun e he => ?_
    obtain ⟨p, -, hp⟩ := exists_of_mem_right (mapM_eq_ok.mp hspatial) he
    obtain ⟨a, -, hpos, rfl⟩ := upConvolvedExtent_ok hp
    exact hpos

theorem deconvolutionLayer_fails (h : s.Settled rank) :
    FailsOnly (s.Fails .deconvolution) s.deconvolutionLayer := by
  refine .bind (requireInputs_fails _ _) fun _ hin => ?_
  refine .bind (requireOutputs_fails _ _) fun _ _ => ?_
  refine source_fails h (Nat.le_refl 1) hin fun src hmem hsrc => ?_
  refine .bind (window_fails hsrc) fun w hw => ?_
  refine .bind (intParam_fails _ _ _) fun numOutput hnum => ?_
  refine .bind (.mapM fun p hp => ?_) fun outputs _ => .ok _
  obtain ⟨hp₁, hp₂⟩ := List.of_mem_zip hp
  exact upConvolvedBlob_fails h hmem (spans_window hsrc hw) (intParam_ge hnum) hp₁ hp₂

theorem poolingWindows_fails {w : Window} (hw : s.Spans w src.spatial.length) :
    FailsOnly (s.Fails t) (s.poolingWindows src w) := by
  refine .bind (.mapM fun p hp => ?_) fun raw _ => ?_
  · exact axis_fails hw (List.snd_lt_of_mem_zipIdx hp) fun a => .ok _
  refine .ite (fun _ => .mapM fun p hp => ?_) fun _ => .ok _
  have hlt : p.2 < src.spatial.length := by
    have hzip := List.snd_lt_of_mem_zipIdx hp
    rw [List.length_zip] at hzip
    omega
  exact axis_fails hw hlt fun a => .ite (fun _ => refuse_bind_fails _ _ _) fun _ => .ok _

theorem pos_of_firstEmpty {spatial : List Int} {d : Nat} (h : firstEmpty d spatial = none) :
    ∀ e ∈ spatial, 0 < e := by
  induction spatial generalizing d with
  | nil => simp
  | cons first rest ih =>
    rw [firstEmpty] at h
    split at h
    · cases h
    · next hpos =>
      exact List.forall_mem_cons.mpr ⟨Int.not_le.mp hpos, ih h⟩

theorem poolingLayer_fails (h : s.Settled rank) :
    FailsOnly (s.Fails .pooling) s.poolingLayer := by
  refine .bind (requireInputs_fails _ _) fun _ hin => ?_
  refine .bind (requireOutputs_fails _ _) fun _ hout => ?_
  refine source_fails h (Nat.le_refl 1) hin fun src hmem hsrc => ?_
  refine .bind (poolingWindow_fails hsrc) fun w hw => ?_
  have hspans := spans_poolingWindow hsrc hw
  refine target_fresh_fails h (Nat.le_refl 1) hout fun top _ _ => ?_
  refine .bind (poolingWindows_fails hspans) fun spatial _ => ?_
  cases hempty : firstEmpty 0 spatial with
  | some d => exact refuse_bind_fails _ _ _
  | none =>
    refine .bind (.lift (scaled_fails rfl hspans.given (· * ·))) fun size _ => ?_
    refine samples_fails hsrc fun samples hsamples => ?_
    refine .bind (.lift (extent_fails rfl hmem hsrc (show 1 < rank + 2 by omega))) fun channels hch => ?_
    have hpos := hsrc.extents channels (Blob.mem_of_extent (lift_eq_ok.mp hch))
    exact .bind (newBlob_fails (pos_windowed hsamples hpos (pos_of_firstEmpty hempty)))
      fun b _ => .ok _

/-! ## Concatenations -/

theorem concatenated_fails {first : Blob} {input : Option Blob} (h : s.Settled rank)
    (hin : input ∈ s.inputs) : FailsOnly (s.Fails t) (s.concatenated first input) := by
  obtain ⟨b, -, rfl⟩ := h.given input hin
  refine .bind (.of_ok ⟨b, rfl⟩) fun b' _ => ?_
  exact .ite (fun _ => refuse_bind_fails _ _ _) fun _ => .ok _

theorem smallestExtent_ok {axis n : Nat} {first : Blob} {others : List Blob}
    (h : smallestExtent axis first others = .ok n) :
    ∃ b ∈ first :: others, b.extent axis = .ok n := by
  obtain ⟨start, hstart, hfold⟩ := bind_eq_ok.mp h
  clear h
  induction others generalizing first start with
  | nil =>
    obtain rfl := pure_eq_ok.mp hfold
    exact ⟨first, by simp, hstart⟩
  | cons b rest ih =>
    rw [List.foldlM_cons] at hfold
    obtain ⟨least, hleast, hrest⟩ := bind_eq_ok.mp hfold
    obtain ⟨e, he, hmin⟩ := bind_eq_ok.mp hleast
    obtain rfl := pure_eq_ok.mp hmin
    rcases Nat.le_total start e with hle | hle
    · rw [Nat.min_eq_left hle] at hrest
      obtain ⟨c, hc, hn⟩ := ih start hstart hrest
      refine ⟨c, ?_, hn⟩
      rcases List.mem_cons.mp hc with rfl | hc
      · simp
      · simp [hc]
    · rw [Nat.min_eq_right hle] at hrest
      obtain ⟨c, hc, hn⟩ := ih e he hrest
      exact ⟨c, List.mem_cons_of_mem _ hc, hn⟩

theorem smallestExtent_fails {axis : Nat} {first : Blob} {others : List Blob}
    (h : ∀ b ∈ first :: others, FailsOnly (fun m => s.Fails t (.misuse m)) (b.extent axis)) :
    FailsOnly (fun m => s.Fails t (.misuse m)) (smallestExtent axis first others) := by
  obtain ⟨hfirst, hothers⟩ := List.forall_mem_cons.mp h
  refine .bind hfirst fun start hstart => ?_
  clear h hfirst hstart
  induction others generalizing start with
  | nil => exact .ok _
  | cons b rest ih =>
    obtain ⟨hb, hrest⟩ := List.forall_mem_cons.mp hothers
    rw [List.foldlM_cons]
    exact .bind (.bind hb fun e _ => .ok _) fun least _ => ih hrest least

theorem le_foldl_add (ns : List Nat) (start : Nat) : start ≤ ns.foldl (· + ·) start := by
  induction ns generalizing start with
  | nil => exact Nat.le_refl start
  | cons n rest ih => exact Nat.le_trans (Nat.le_add_right start n) (ih (start + n))

theorem concatLayer_fails (h : s.Settled rank) :
    FailsOnly (s.Fails .concat) s.concatLayer := by
  refine .bind (requireInputs_fails _ _) fun _ hin => ?_
  refine .bind (requireOutputs_fails _ _) fun _ hout => ?_
  refine target_fresh_fails h (Nat.le_refl 1) hout fun top _ _ => ?_
  refine source_fails h (Nat.le_refl 1) hin fun first hfirst hreg => ?_
  refine .bind (.mapM fun input hinput => ?_) fun others hothers => ?_
  · exact concatenated_fails h (List.mem_of_mem_drop hinput)
  have hall : ∀ b ∈ first :: others, some b ∈ s.inputs := by
    refine List.forall_mem_cons.mpr ⟨hfirst, fun b hb => ?_⟩
    obtain ⟨input, hinput, hok⟩ := exists_of_mem_right (mapM_eq_ok.mp hothers) hb
    obtain ⟨rfl, -⟩ := concatenated_ok hok
    exact List.mem_of_mem_drop hinput
  have hextent (axis : Nat) (haxis : axis < rank + 2) (b : Blob) (hb : b ∈ first :: others) :
      FailsOnly (fun m => s.Fails .concat (.misuse m)) (b.extent axis) :=
    extent_fails rfl (hall b hb) (h.input (hall b hb)).2 haxis
  have hpos {axis n : Nat} {b : Blob} (hb : b ∈ first :: others) (hn : b.extent axis = .ok n) :
      1 ≤ n :=
    (h.input (hall b hb)).2.extents n (Blob.mem_of_extent hn)
  refine .bind (.lift (.mapM fun b hb => hextent 1 (by omega) b hb)) fun channels hch => ?_
  refine .bind (.lift (.mapM fun d hd => ?_)) fun spatial hsp => ?_
  · -- a first input with spatial axes is no scalar, so the network has as many
    have hlt : d + 2 < first.shape.length := by
      have hd' := List.mem_range.mp hd
      omega
    have hs : first.isScalar = false := by
      cases hs : first.isScalar with
      | false => rfl
      | true =>
        rw [hreg.scalar hs] at hlt
        simp at hlt
    rw [hreg.array hs] at hlt
    exact smallestExtent_fails (hextent (d + 2) hlt)
  refine samples_fails hreg fun samples hsamples => ?_
  refine .bind (newBlob_fails (pos_extentsOf ?_)) fun b _ => .ok _
  have hchannels : 1 ≤ channels.foldl (· + ·) 0 := by
    cases mapM_eq_ok.mp (lift_eq_ok.mp hch) with
    | @cons _ c _ cs hc _ =>
      have hc' : 1 ≤ c := hpos List.mem_cons_self (show first.extent 1 = .ok c from hc)
      exact Nat.le_trans (Nat.le_trans hc' (Nat.le_add_left c 0)) (le_foldl_add cs (0 + c))
  refine List.forall_mem_cons.mpr ⟨hsamples, List.forall_mem_cons.mpr ⟨hchannels, fun e he => ?_⟩⟩
  obtain ⟨d, -, hd⟩ := exists_of_mem_right (mapM_eq_ok.mp (lift_eq_ok.mp hsp)) he
  obtain ⟨b, hb, hn⟩ := smallestExtent_ok hd
  exact hpos hb hn

/-! ## Blobs like the input -/

theorem valueLayer_fails (h : s.Settled rank) (body : Body) :
    FailsOnly (s.Fails t) (s.valueLayer body) := by
  refine .bind (requireInputs_fails _ _) fun _ hin => ?_
  refine .bind (requireOutputs_fails _ _) fun _ hout => ?_
  refine target_fresh_fails h (Nat.le_refl 1) hout fun top _ _ => ?_
  refine source_fails h (Nat.le_refl 1) hin fun src _ hsrc => ?_
  exact .bind (newBlob_fails (pos_extentsOf hsrc.extents)) fun b _ => .ok _

theorem elementwiseLayer_fails (h : s.Settled rank) (body : List Bool → Body) :
    FailsOnly (s.Fails t) (s.elementwiseLayer body) := by
  refine .bind (requireInputs_fails _ _) fun _ _ => ?_
  refine .bind (requireOutputs_fails _ _) fun _ _ => ?_
  refine .bind (.mapM fun p hp => ?_) fun outputs _ => .ok _
  obtain ⟨hin, htop⟩ := List.of_mem_zip (List.fst_mem_of_mem_zipIdx hp)
  obtain ⟨src, -, hsome⟩ := h.given p.1.1 hin
  have hsrc := (h.input (hsome ▸ hin)).2
  rw [hsome]
  refine .bind (.of_ok ⟨src, rfl⟩) fun src' hsrc' => .ite (fun _ => .ok _) fun _ => ?_
  obtain rfl := Except.ok.inj hsrc'
  refine .bind (requireFresh_fails (h.keys _ htop)) fun _ _ => ?_
  exact .bind (newBlob_fails (pos_extentsOf hsrc.extents)) fun b _ => .ok _

theorem softmaxLayer_fails (h : s.Settled rank) : FailsOnly (s.Fails t) s.softmaxLayer := by
  refine .bind (requireInputs_fails _ _) fun _ hin => ?_
  refine .bind (requireOutputs_fails _ _) fun _ hout => ?_
  refine target_fresh_fails h (Nat.le_refl 1) hout fun top _ _ => ?_
  refine source_fails h (Nat.le_refl 1) hin fun src _ hsrc => ?_
  exact .bind (newBlob_fails (pos_extentsOf hsrc.extents)) fun b _ => .ok _

/-- The softmax inside a loss only fails where its output has a name that is taken. -/
theorem helper_fails (hsrc : src.Regular rank) :
    FailsOnly (s.Fails .softmaxWithLoss) (s.helperSite src).softmaxLayer := by
  refine .bind (.ok ()) fun _ _ => .bind (.ok ()) fun _ _ => ?_
  refine .bind (.of_ok ⟨.text helperOutput, rfl⟩) fun top htop => ?_
  obtain rfl := Except.ok.inj htop
  refine .bind (.bind (.of_ok ⟨.text helperOutput, rfl⟩) fun name hname => ?_) fun _ _ => ?_
  · obtain rfl := Except.ok.inj hname
    exact .ite (fun htaken => .error (.inr (.helper rfl htaken))) fun _ => .ok _
  · refine .bind (.of_ok ⟨src, rfl⟩) fun src' hsrc' => ?_
    obtain rfl := Except.ok.inj hsrc'
    exact .bind (.of_ok (exists_newBlob (pos_extentsOf hsrc.extents))) fun b _ => .ok _

theorem lossLayer_fails (h : s.Settled rank) :
    FailsOnly (s.Fails .softmaxWithLoss) s.lossLayer := by
  refine .bind (requireInputs_fails _ _) fun _ hin => ?_
  refine .bind (requireOutputs_fails _ _) fun _ hout => ?_
  refine source_fails h (Nat.le_refl 1) hin fun src _ hsrc => ?_
  refine .bind (helper_fails hsrc) fun _ _ => ?_
  refine target_fresh_fails h (Nat.le_refl 1) hout fun top _ _ => ?_
  refine .bind (newBlob_fails (by simp)) fun loss _ => ?_
  cases hscores : s.declaration.outputs.drop 1 with
  | nil => exact .ok _
  | cons scoreTop rest =>
    have hdrop : scoreTop ∈ s.declaration.outputs.drop 1 := by simp [hscores]
    have hmem := List.mem_of_mem_drop hdrop
    refine .bind (requireFresh_fails (h.keys scoreTop hmem)) fun _ _ => ?_
    exact .bind (newBlob_fails (pos_extentsOf hsrc.extents)) fun score _ => .ok _

/-! ## Deformations -/

theorem fieldSamples_fails (h : s.Settled rank) : FailsOnly (s.Fails t) s.fieldSamples := by
  unfold fieldSamples
  split
  · next input rest hin =>
    obtain ⟨src, -, rfl⟩ := h.given input (by simp [hin])
    have hmem : some src ∈ s.inputs := by simp [hin]
    obtain ⟨n, hn, -⟩ := (h.input hmem).2.exists_samples
    exact .of_ok ⟨n, lift_eq_ok.mpr hn⟩
  · exact intParam_fails _ _ _

theorem fieldSamples_pos (h : s.Settled rank) {n : Nat} (hn : s.fieldSamples = .ok n) :
    1 ≤ n := by
  unfold fieldSamples at hn
  split at hn
  · next input rest hin =>
    obtain ⟨src, -, rfl⟩ := h.given input (by simp [hin])
    have hmem : some src ∈ s.inputs := by simp [hin]
    obtain ⟨m, hm, hpos⟩ := (h.input hmem).2.exists_samples
    obtain rfl := eq_of_ok hm (lift_eq_ok.mp hn)
    exact hpos
  · exact intParam_ge hn

theorem createDeformationLayer_fails (h : s.Settled rank) :
    FailsOnly (s.Fails t) s.createDeformationLayer := by
  refine .bind (requireInputs_fails _ _) fun _ _ => ?_
  refine .bind (requireOutputs_fails _ _) fun _ hout => ?_
  refine .bind (intParam_fails _ _ _) fun nz _ => ?_
  refine .bind (intParam_fails _ _ _) fun ny hny => ?_
  refine .bind (intParam_fails _ _ _) fun nx hnx => ?_
  refine .bind (intParam_fails _ _ _) fun components hcomponents => ?_
  refine .bind (fieldSamples_fails h) fun samples hsamples => ?_
  refine target_fresh_fails h (Nat.le_refl 1) hout fun top _ _ => ?_
  refine .bind (newBlob_fails (pos_extentsOf ?_)) fun b _ => .ok _
  have hny := intParam_ge hny
  have hnx := intParam_ge hnx
  have hcomponents := intParam_ge hcomponents
  have hsamples := fieldSamples_pos h hsamples
  by_cases hnz : 0 < nz
  · simp only [hnz, if_true]
    simp
    omega
  · simp only [hnz, if_false]
    simp
    omega

theorem deformedExtents_fails (h : s.Settled rank)
    (hin : s.requireInputs (if s.shapeSource = "" then 2 else 1) none = .ok ()) (axes : Int) :
    FailsOnly (s.Fails t) (s.deformedExtents s.shapeSource axes) := by
  refine .ite (fun hempty => ?_) fun _ => ?_
  · rw [if_pos hempty] at hin
    have hlen := (inRange_iff.mp (requireInputs_eq_ok.mp hin)).1
    split
    · next field rest hdrop =>
      have hfield : field ∈ s.inputs.drop 1 := by simp [hdrop]
      obtain ⟨b, -, rfl⟩ := h.given field (List.mem_of_mem_drop hfield)
      exact .of_ok ⟨_, rfl⟩
    · next hdrop =>
      have hshort := congrArg List.length hdrop
      rw [List.length_drop, List.length_nil] at hshort
      omega
  · refine .bind (.bind (.of_ok ⟨_, rfl⟩) fun name _ => ?_) fun ref _ => .ok _
    split
    · exact .ok _
    · exact .error (.inl (.of_context rfl rfl))

theorem deformedExtents_of_registered (h : s.Settled rank) {shapeFrom : String} {axes : Int}
    {spatial : List Nat} (hsp : s.deformedExtents shapeFrom axes = .ok spatial) :
    ∃ b ∈ s.graph.registeredBlobs, ∀ e ∈ spatial, e ∈ b.shape := by
  rcases deformedExtents_ok hsp with ⟨-, src, field, rest, hin, rfl⟩ | ⟨-, ref, href, rfl⟩
  · have hmem : some field ∈ s.inputs := by simp [hin]
    refine ⟨field, (h.input hmem).1, fun e he => ?_⟩
    exact List.mem_of_mem_take (List.mem_of_mem_drop he)
  · have hmem : ref ∈ s.graph.registered := List.mem_of_find?_eq_some href
    refine ⟨s.graph.blob ref, List.mem_map_of_mem hmem, fun e he => ?_⟩
    exact Blob.mem_of_mem_spatial he

theorem extents_fails {b : Blob} (hb : b ∈ s.graph.registeredBlobs) {extents : List Nat}
    (h : ∀ e ∈ extents, e ∈ b.shape) :
    FailsOnly (s.Fails .applyDeformation)
      (liftM (Value.exactIntTuple (extentsOf extents)) : Except Failure String) := by
  refine .lift ((Value.exactIntTuple_fails _).mono ?_)
  rintro m ⟨rfl, n, hn, hlong⟩
  obtain ⟨e, he, rfl⟩ := List.mem_map.mp hn
  exact .inr (.extent rfl b hb e (h e he) hlong)

theorem applyDeformationLayer_fails (h : s.Settled rank) :
    FailsOnly (s.Fails .applyDeformation) s.applyDeformationLayer := by
  refine .bind (requireInputs_fails _ _) fun _ hin => ?_
  refine .bind (requireOutputs_fails _ _) fun _ hout => ?_
  have hleast : 1 ≤ (if s.shapeSource = "" then 2 else 1) := by split <;> omega
  refine source_fails h hleast hin fun src hmem hsrc => ?_
  refine .bind (deformedExtents_fails h hin src.spatialRank) fun spatial hspatial => ?_
  obtain ⟨b, hb, hextents⟩ := deformedExtents_of_registered h hspatial
  refine .ite (fun _ => ?_) fun _ => ?_
  · have hspatial : ∀ e ∈ src.spatial, e ∈ src.shape := fun e he => Blob.mem_of_mem_spatial he
    refine .bind (extents_fails (h.input hmem).1 hspatial) fun expected _ => ?_
    refine .bind (extents_fails hb hextents) fun actual _ => ?_
    refine .bind (.error (.inl (.of_context rfl rfl))) fun _ hthrow => ?_
    exact (throw_eq_ok.mp hthrow).elim
  · refine target_fresh_fails h (Nat.le_refl 1) hout fun top _ _ => ?_
    refine samples_fails hsrc fun samples hsamples => ?_
    refine .bind (.lift (extent_fails rfl hmem hsrc (show 1 < rank + 2 by omega))) fun channels
      hch => ?_
    have hchannels := hsrc.extents channels (Blob.mem_of_extent (lift_eq_ok.mp hch))
    refine .bind (newBlob_fails (pos_extentsOf ?_)) fun made _ => .ok _
    refine List.forall_mem_cons.mpr ⟨hsamples, List.forall_mem_cons.mpr ⟨hchannels, fun e he => ?_⟩⟩
    exact (h.regular b hb).extents e (hextents e he)

/-! ## All families -/

/-- A family refuses a settled site with an explanation, or in one of the ways that are listed. -/
theorem layer_fails (h : s.Settled rank) (t : LayerType) :
    FailsOnly (s.Fails t) (s.layer t) := by
  cases t with
  | input | data | hdf5Data => exact sourceLayer_fails h
  | convolution => exact convolutionLayer_fails h
  | deconvolution => exact deconvolutionLayer_fails h
  | pooling => exact poolingLayer_fails h
  | concat => exact concatLayer_fails h
  | relu | dropout => exact elementwiseLayer_fails h _
  | valueTransformation | valueAugmentation => exact valueLayer_fails h _
  | createDeformation => exact createDeformationLayer_fails h
  | applyDeformation => exact applyDeformationLayer_fails h
  | softmax => exact softmaxLayer_fails h
  | softmaxWithLoss => exact lossLayer_fails h

end NetFootprint.Site
