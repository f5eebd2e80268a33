import NetFootprint.Layer.Family
import NetFootprint.Proofs.Outcome

/-!
# What the families make

Each family is taken apart once: if it accepts a site, then its inputs, the names of its outputs and
its parameters passed the checks, and its draft is the one given here. Later modules use these rules
and do not open the families again.
-/

namespace NetFootprint.Site

variable {s s' : Site} {d : Draft}

/-! ## Checks -/

theorem refuse_eq_ok {α : Type} {message parameter : String} {a : α} :
    s.refuse message parameter = .ok a ↔ False := by
  simp [refuse]

theorem requireInputs_eq_ok {least : Nat} {most : Option Nat} {u : Unit} :
    s.requireInputs least most = .ok u ↔ inRange s.inputs.length least most = true := by
  simp only [requireInputs, ite_eq_ok, refuse_eq_ok, and_false, or_false, and_true]

theorem requireOutputs_eq_ok {least : Nat} {most : Option Nat} {u : Unit} :
    s.requireOutputs least most = .ok u ↔
      inRange s.declaration.outputs.length least most = true := by
  simp only [requireOutputs, ite_eq_ok, refuse_eq_ok, and_false, or_false, and_true]

theorem inRange_iff {n least : Nat} {most : Option Nat} :
    inRange n least most = true ↔ least ≤ n ∧ ∀ m, most = some m → n ≤ m := by
  cases most <;> simp [inRange]

theorem present_eq_ok {b : Option Blob} {src : Blob} : present b = .ok src ↔ b = some src := by
  cases b <;> simp [present]

theorem source_eq_ok {src : Blob} : s.source = .ok src ↔ ∃ rest, s.inputs = some src :: rest := by
  rw [source]
  split
  · next b rest h => simp [present_eq_ok, h]
  · next h => simp [h]

theorem target_eq_ok {top : Value} :
    s.target = .ok top ↔ ∃ rest, s.declaration.outputs = top :: rest := by
  rw [target]
  split
  · next name rest h => simp [h]
  · next h => simp [h]

theorem key_eq_ok {v w : Value} : v.key = .ok w ↔ v.isKey = true ∧ v = w := by
  by_cases h : v.isKey = true <;> simp [Value.key, h]

theorem resolve_eq_ok {g : Graph} {name layer type role : Value} {ref : Nat} :
    g.resolve name layer type role = .ok ref ↔ name.isKey = true ∧ g.find? name = some ref := by
  simp only [Graph.resolve, bind_eq_ok, lift_eq_ok, key_eq_ok]
  cases h : g.find? name with
  | none => simp [h, throw_eq_ok]
  | some r => simp [h, pure_eq_ok]

theorem requireFresh_eq_ok {name : Value} {u : Unit} :
    s.requireFresh name = .ok u ↔ name.isKey = true ∧ s.graph.contains name = false := by
  simp only [requireFresh, bind_eq_ok, lift_eq_ok, key_eq_ok, ite_eq_ok, throw_eq_ok, pure_eq_ok]
  simp

theorem newBlob_eq_ok {k : Sketch} {b : Blob} :
    s.newBlob k = .ok b ↔ (∀ e ∈ k.shape, 0 < e) ∧ s.blobOf k = b := by
  simp only [newBlob, bind_eq_ok, ite_eq_ok, refuse_eq_ok, pure_eq_ok]
  simp

theorem only_source {src : Blob} (hn : inRange s.inputs.length 1 (some 1) = true)
    (hs : s.source = .ok src) : s.inputs = [some src] := by
  obtain ⟨rest, h⟩ := source_eq_ok.mp hs
  have hr : rest = [] := by simpa [inRange_iff, h] using hn
  rw [h, hr]

theorem only_target {top : Value}
    (hn : inRange s.declaration.outputs.length 1 (some 1) = true)
    (ht : s.target = .ok top) : s.declaration.outputs = [top] := by
  obtain ⟨rest, h⟩ := target_eq_ok.mp ht
  have hr : rest = [] := by simpa [inRange_iff, h] using hn
  rw [h, hr]

/-! ## Parameters -/

theorem intParam_same (hd : s'.declaration = s.declaration) (key : String) (default : Option Nat)
    (least : Nat) : s'.intParam key default least = s.intParam key default least := by
  simp only [intParam, refuse, hd]

theorem axisParam_same (hd : s'.declaration = s.declaration) (key : String) (axes : Int)
    (default : Option Nat) (least : Nat) :
    s'.axisParam key axes default least = s.axisParam key axes default least := by
  simp only [axisParam, refuse, hd]

/-! ## Families -/

theorem sourceLayer_ok (h : s.sourceLayer = .ok d) :
    ∃ shapes outputs, s.inputs = [] ∧ s.declaration.outputs ≠ [] ∧
      s.sourceShapes = .ok shapes ∧ shapes.length = s.declaration.outputs.length ∧
      List.Forall₂ (fun p o => s.sourceBlob p.1 p.2 = .ok o) (s.declaration.outputs.zip shapes)
        outputs ∧
      d = ⟨outputs, .source⟩ := by
  simp only [sourceLayer, bind_eq_ok, pure_eq_ok, ite_eq_ok, refuse_eq_ok, requireInputs_eq_ok,
    requireOutputs_eq_ok, exists_const, false_and, and_false, false_or, mapM_eq_ok,
    ne_eq, Decidable.not_not] at h
  obtain ⟨hin, hout, shapes, hs, hlen, outputs, ho, rfl⟩ := h
  refine ⟨shapes, outputs, ?_, ?_, hs, hlen, ho, rfl⟩
  · simpa [inRange_iff] using hin
  · simpa [inRange_iff, Nat.one_le_iff_ne_zero] using hout

theorem sourceBlob_ok {top shape : Value} {o : Output} (h : s.sourceBlob top shape = .ok o) :
    ∃ extents b, shape.toInts = .ok extents ∧ 2 ≤ extents.length ∧
      s.requireFresh top = .ok () ∧
      s.newBlob { name := top, shape := extents
                  elementSize := some (s.graph.elementSizeFor ((extents.length : Int) - 2)) } =
        .ok b ∧
      o = .made b := by
  simp only [sourceBlob, bind_eq_ok, pure_eq_ok, ite_eq_ok, refuse_eq_ok, explain_eq_ok,
    exists_const, false_and, and_false, false_or, Nat.not_lt] at h
  obtain ⟨extents, he, hl, u, hf, b, hb, rfl⟩ := h
  exact ⟨extents, b, he, hl, hf, hb, rfl⟩

theorem convolvedExtent_ok {src : Blob} {w : Window} {extent axis : Nat} {e : Int}
    (h : s.convolvedExtent src w extent axis = .ok e) :
    ∃ a, w.axis axis = .ok a ∧ 0 < a.slack extent ∧ Int.fmod (a.slack extent) a.stride = 0 ∧
      e = a.convolved extent := by
  simp only [convolvedExtent, bind_eq_ok, pure_eq_ok, lift_eq_ok, ite_eq_ok, refuse_eq_ok,
    exists_const, false_and, and_false, false_or, ne_eq, Decidable.not_not, Int.not_le] at h
  obtain ⟨a, ha, hs, hm, rfl⟩ := h
  exact ⟨a, ha, hs, hm, rfl⟩

theorem convolutionLayer_ok (h : s.convolutionLayer = .ok d) :
    ∃ src top window numOutput samples spatial size b, s.inputs = [some src] ∧
      s.declaration.outputs = [top] ∧ s.window src = .ok window ∧
      s.intParam "num_output" none 1 = .ok numOutput ∧ s.requireFresh top = .ok () ∧
      src.samples = .ok samples ∧
      List.Forall₂ (fun p e => s.convolvedExtent src window p.1 p.2 = .ok e) src.spatial.zipIdx
        spatial ∧
      stretched src.elementSize window.stride = .ok size ∧
      s.newBlob { name := top, shape := extentsOf [samples, numOutput] ++ spatial
                  elementSize := some size, resident := true, gradient := true } = .ok b ∧
      d = ⟨[.made b], .convolution window numOutput⟩ := by
  simp only [convolutionLayer, bind_eq_ok, pure_eq_ok, lift_eq_ok, requireInputs_eq_ok,
    requireOutputs_eq_ok, exists_const, mapM_eq_ok] at h
  obtain ⟨hin, hout, src, hsrc, window, hw, numOutput, hn, top, ht, u, hf, samples, hsam, spatial,
    hsp, size, hsize, b, hb, rfl⟩ := h
  exact ⟨src, top, window, numOutput, samples, spatial, size, b, only_source hin hsrc,
    only_target hout ht, hw, hn, hf, hsam, hsp, hsize, hb, rfl⟩

theorem upConvolvedExtent_ok {src : Blob} {w : Window} {extent axis : Nat} {e : Int}
    (h : s.upConvolvedExtent src w extent axis = .ok e) :
    ∃ a, w.axis axis = .ok a ∧ 0 < a.upConvolved extent ∧ e = a.upConvolved extent := by
  simp only [upConvolvedExtent, bind_eq_ok, pure_eq_ok, lift_eq_ok, ite_eq_ok, refuse_eq_ok,
    false_and, exists_false, and_false, false_or, Int.not_le] at h
  obtain ⟨a, ha, hp, rfl⟩ := h
  exact ⟨a, ha, hp, rfl⟩

theorem upConvolvedBlob_ok {w : Window} {numOutput : Nat} {input : Option Blob} {top : Value}
    {o : Output} (h : s.upConvolvedBlob w numOutput input top = .ok o) :
    ∃ src samples spatial size b, input = some src ∧ s.requireFresh top = .ok () ∧
      src.samples = .ok samples ∧
      List.Forall₂ (fun p e => s.upConvolvedExtent src w p.1 p.2 = .ok e) src.spatial.zipIdx
        spatial ∧
      compressed src.elementSize w.stride = .ok size ∧
      s.newBlob { name := top, shape := extentsOf [samples, numOutput] ++ spatial
                  elementSize := some size, resident := true, gradient := true } = .ok b ∧
      o = .made b := by
  simp only [upConvolvedBlob, bind_eq_ok, pure_eq_ok, lift_eq_ok, present_eq_ok, mapM_eq_ok] at h
  obtain ⟨u, hf, src, hsrc, samples, hsam, spatial, hsp, size, hsize, b, hb, rfl⟩ := h
  exact ⟨src, samples, spatial, size, b, hsrc, hf, hsam, hsp, hsize, hb, rfl⟩

theorem deconvolutionLayer_ok (h : s.deconvolutionLayer = .ok d) :
    ∃ src rest window numOutput outputs, s.inputs = some src :: rest ∧
      s.declaration.outputs ≠ [] ∧ s.declaration.outputs.length ≤ s.inputs.length ∧
      s.window src = .ok window ∧ s.intParam "num_output" none 1 = .ok numOutput ∧
      List.Forall₂ (fun p o => s.upConvolvedBlob window numOutput p.1 p.2 = .ok o)
        (s.inputs.zip s.declaration.outputs) outputs ∧
      d = ⟨outputs, .deconvolution window numOutput⟩ := by
  simp only [deconvolutionLayer, bind_eq_ok, pure_eq_ok, lift_eq_ok, requireInputs_eq_ok,
    requireOutputs_eq_ok, exists_const, mapM_eq_ok, source_eq_ok] at h
  obtain ⟨-, hout, src, ⟨rest, hsrc⟩, window, hw, numOutput, hn, outputs, ho, rfl⟩ := h
  simp only [inRange_iff, Option.some.injEq, forall_eq', Nat.one_le_iff_ne_zero, ne_eq,
    List.length_eq_zero_iff] at hout
  exact ⟨src, rest, window, numOutput, outputs, hsrc, hout.1, hout.2, hw, hn, ho, rfl⟩

theorem poolingTrimmed_ok {w : Window} {extent axis : Nat} {windows e : Int}
    (h : s.poolingTrimmed w extent windows axis = .ok e) :
    ∃ a, w.axis axis = .ok a ∧ a.startsInPadding extent (a.trimmed extent windows) = false ∧
      e = a.trimmed extent windows := by
  simp only [poolingTrimmed, bind_eq_ok, pure_eq_ok, lift_eq_ok, ite_eq_ok, refuse_eq_ok,
    false_and, exists_false, and_false, false_or, Bool.not_eq_true] at h
  obtain ⟨a, ha, hp, rfl⟩ := h
  exact ⟨a, ha, hp, rfl⟩

theorem poolingLayer_ok (h : s.poolingLayer = .ok d) :
    ∃ src top window spatial size samples channels b, s.inputs = [some src] ∧
      s.declaration.outputs = [top] ∧ s.poolingWindow src = .ok window ∧
      s.requireFresh top = .ok () ∧ s.poolingWindows src window = .ok spatial ∧
      firstEmpty 0 spatial = none ∧ stretched src.elementSize window.stride = .ok size ∧
      src.samples = .ok samples ∧ src.channels = .ok channels ∧
      s.newBlob { name := top, shape := extentsOf [samples, channels] ++ spatial
                  elementSize := some size, resident := true, gradient := src.gradient } = .ok b ∧
      d = ⟨[.made b], .pooling s.poolingMethod window⟩ := by
  simp only [poolingLayer, bind_eq_ok, lift_eq_ok, requireInputs_eq_ok,
    requireOutputs_eq_ok, exists_const] at h
  obtain ⟨hin, hout, src, hsrc, window, hw, top, ht, u, hf, spatial, hsp, h⟩ := h
  cases he : firstEmpty 0 spatial with
  | some axis => simp [he, bind_eq_ok, refuse_eq_ok] at h
  | none =>
    simp only [he, bind_eq_ok, pure_eq_ok, lift_eq_ok] at h
    obtain ⟨size, hsize, samples, hsam, channels, hch, b, hb, rfl⟩ := h
    exact ⟨src, top, window, spatial, size, samples, channels, b, only_source hin hsrc,
      only_target hout ht, hw, hf, hsp, he, hsize, hsam, hch, hb, rfl⟩

theorem poolingWindows_ok {src : Blob} {w : Window} {spatial : List Int}
    (h : s.poolingWindows src w = .ok spatial) :
    ∃ raw, List.Forall₂ (fun p e => ∃ a, w.axis p.2 = .ok a ∧ a.pooled p.1 = e)
        src.spatial.zipIdx raw ∧
      ((∀ p ∈ w.pad, p = 0) ∧ spatial = raw ∨
        (∃ p ∈ w.pad, p ≠ 0) ∧
          List.Forall₂ (fun p e => s.poolingTrimmed w p.1.1 p.1.2 p.2 = .ok e)
            (src.spatial.zip raw).zipIdx spatial) := by
  simp only [poolingWindows, bind_eq_ok, pure_eq_ok, lift_eq_ok, mapM_eq_ok, ite_eq_ok,
    List.any_eq_true, decide_eq_true_eq] at h
  obtain ⟨raw, hraw, ⟨hpad, hsp⟩ | ⟨hpad, rfl⟩⟩ := h
  · exact ⟨raw, hraw, .inr ⟨hpad, hsp⟩⟩
  · exact ⟨raw, hraw, .inl ⟨by simpa using hpad, rfl⟩⟩

theorem concatenated_ok {first b : Blob} {input : Option Blob}
    (h : s.concatenated first input = .ok b) :
    input = some b ∧ b.spatialRank = first.spatialRank := by
  simp only [concatenated, bind_eq_ok, pure_eq_ok, lift_eq_ok, present_eq_ok, ite_eq_ok,
    refuse_eq_ok, exists_const, false_and, and_false, false_or, ne_eq, Decidable.not_not] at h
  obtain ⟨b, hb, hr, rfl⟩ := h
  exact ⟨hb, hr⟩

theorem concatLayer_ok (h : s.concatLayer = .ok d) :
    ∃ top first others channels spatial samples b, s.declaration.outputs = [top] ∧
      s.requireFresh top = .ok () ∧ s.inputs = some first :: others.map some ∧
      (∀ o ∈ others, o.spatialRank = first.spatialRank) ∧
      (first :: others).mapM Blob.channels = .ok channels ∧
      (List.range (first.shape.length - 2)).mapM
        (fun axis => smallestExtent (axis + 2) first others) = .ok spatial ∧
      first.samples = .ok samples ∧
      s.newBlob { name := top, shape := extentsOf (samples :: channels.foldl (· + ·) 0 :: spatial)
                  resident := true, gradient := (first :: others).any (·.gradient) } = .ok b ∧
      d = ⟨[.made b], .concat⟩ := by
  simp only [concatLayer, bind_eq_ok, pure_eq_ok, lift_eq_ok, requireInputs_eq_ok,
    requireOutputs_eq_ok, exists_const, source_eq_ok] at h
  obtain ⟨-, hout, top, ht, u, hf, first, ⟨rest, hin⟩, others, ho, channels, hch, spatial, hsp,
    samples, hsam, b, hb, rfl⟩ := h
  rw [hin, List.drop_one, List.tail_cons, mapM_eq_ok] at ho
  have hothers : rest = others.map some ∧ ∀ o ∈ others, o.spatialRank = first.spatialRank := by
    clear hch hsp hin hb
    induction ho with
    | nil => exact ⟨rfl, by simp⟩
    | cons hx _ ih =>
      obtain ⟨hx, hr⟩ := concatenated_ok hx
      simp only [hx, ih.1, List.map_cons, List.forall_mem_cons, true_and]
      exact ⟨hr, ih.2⟩
  exact ⟨top, first, others, channels, spatial, samples, b, only_target hout ht, hf,
    hothers.1 ▸ hin, hothers.2, hch, hsp, hsam, hb, rfl⟩

theorem valueLayer_ok {body : Body} (h : s.valueLayer body = .ok d) :
    ∃ src top b, s.inputs = [some src] ∧ s.declaration.outputs = [top] ∧
      s.requireFresh top = .ok () ∧
      s.newBlob { name := top, shape := extentsOf src.shape, resident := src.resident
                  forward := src.forward, gradient := src.gradient } = .ok b ∧
      d = ⟨[.made b], body⟩ := by
  simp only [valueLayer, bind_eq_ok, pure_eq_ok, lift_eq_ok, requireInputs_eq_ok,
    requireOutputs_eq_ok, exists_const] at h
  obtain ⟨hin, hout, top, ht, u, hf, src, hsrc, b, hb, rfl⟩ := h
  exact ⟨src, top, b, only_source hin hsrc, only_target hout ht, hf, hb, rfl⟩

theorem elementwiseOutput_ok {input : Option Blob} {top : Value} {i : Nat} {o : Output}
    (h : s.elementwiseOutput input top i = .ok o) :
    ∃ src, input = some src ∧
      (top.equals src.name = true ∧ o = .kept i ∨
        top.equals src.name = false ∧ s.requireFresh top = .ok () ∧
          ∃ b, s.newBlob { name := top, shape := extentsOf src.shape, resident := true
                           gradient := src.gradient } = .ok b ∧ o = .made b) := by
  simp only [elementwiseOutput, bind_eq_ok, pure_eq_ok, lift_eq_ok, present_eq_ok, ite_eq_ok,
    Bool.not_eq_true] at h
  obtain ⟨src, hsrc, ⟨ha, rfl⟩ | ⟨ha, u, hf, b, hb, rfl⟩⟩ := h
  · exact ⟨src, hsrc, .inl ⟨ha, rfl⟩⟩
  · exact ⟨src, hsrc, .inr ⟨ha, hf, b, hb, rfl⟩⟩

theorem elementwiseLayer_ok {body : List Bool → Body} (h : s.elementwiseLayer body = .ok d) :
    ∃ outputs, s.inputs ≠ [] ∧ s.declaration.outputs.length = s.inputs.length ∧
      List.Forall₂ (fun p o => s.elementwiseOutput p.1.1 p.1.2 p.2 = .ok o)
        (s.inputs.zip s.declaration.outputs).zipIdx outputs ∧
      d = ⟨outputs, body (outputs.map isAlias)⟩ := by
  simp only [elementwiseLayer, bind_eq_ok, pure_eq_ok, requireInputs_eq_ok, requireOutputs_eq_ok,
    exists_const, mapM_eq_ok, inRange_iff, Option.some.injEq, forall_eq', Nat.one_le_iff_ne_zero,
    ne_eq, List.length_eq_zero_iff] at h
  obtain ⟨⟨hin, -⟩, ⟨hle, hge⟩, outputs, ho, rfl⟩ := h
  exact ⟨outputs, hin, Nat.le_antisymm hge hle, ho, rfl⟩

theorem softmaxLayer_ok (h : s.softmaxLayer = .ok d) :
    ∃ src top b, s.inputs = [some src] ∧ s.declaration.outputs = [top] ∧
      s.requireFresh top = .ok () ∧
      s.newBlob { name := top, shape := extentsOf src.shape, resident := true
                  gradient := src.gradient } = .ok b ∧
      d = ⟨[.made b], .softmax⟩ := by
  simp only [softmaxLayer, bind_eq_ok, pure_eq_ok, lift_eq_ok, requireInputs_eq_ok,
    requireOutputs_eq_ok, exists_const] at h
  obtain ⟨hin, hout, top, ht, u, hf, src, hsrc, b, hb, rfl⟩ := h
  exact ⟨src, top, b, only_source hin hsrc, only_target hout ht, hf, hb, rfl⟩

theorem lossLayer_ok (h : s.lossLayer = .ok d) :
    ∃ src rest top tops helper loss, s.inputs = some src :: rest ∧
      s.declaration.outputs = top :: tops ∧ (s.helperSite src).softmaxLayer = .ok helper ∧
      s.requireFresh top = .ok () ∧
      s.newBlob { name := top, shape := [1], resident := true, gradient := true
                  scalar := true } = .ok loss ∧
      (tops = [] ∧ d = ⟨[.made loss], .softmaxWithLoss⟩ ∨
        ∃ scoreTop score, tops = [scoreTop] ∧ s.requireFresh scoreTop = .ok () ∧
          s.newBlob { name := scoreTop, shape := extentsOf src.shape, resident := true } =
            .ok score ∧
          d = ⟨[.made loss, .made score], .softmaxWithLoss⟩) := by
  simp only [lossLayer, bind_eq_ok, lift_eq_ok, requireInputs_eq_ok, requireOutputs_eq_ok,
    exists_const, source_eq_ok, target_eq_ok] at h
  obtain ⟨-, hout, src, ⟨rest, hin⟩, helper, hh, top, ⟨tops, ht⟩, u, hf, loss, hl, h⟩ := h
  refine ⟨src, rest, top, tops, helper, loss, hin, ht, hh, hf, hl, ?_⟩
  rw [ht] at hout
  simp only [ht, List.drop_one, List.tail_cons] at h
  cases tops with
  | nil => exact .inl ⟨rfl, (pure_eq_ok.mp h).symm⟩
  | cons scoreTop more =>
    simp only [bind_eq_ok, pure_eq_ok] at h
    obtain ⟨u, hf', score, hs, rfl⟩ := h
    have hm : more = [] := by simpa [inRange_iff] using hout
    exact .inr ⟨scoreTop, score, by rw [hm], hf', hs, rfl⟩

theorem createDeformationLayer_ok (h : s.createDeformationLayer = .ok d) :
    ∃ nz ny nx components samples top b, s.inputs.length ≤ 1 ∧
      s.intParam "nz" (some 0) 0 = .ok nz ∧ s.intParam "ny" none 1 = .ok ny ∧
      s.intParam "nx" none 1 = .ok nx ∧
      s.intParam "ncomponents" (some (if 0 < nz then 3 else 2)) 1 = .ok components ∧
      s.fieldSamples = .ok samples ∧ s.declaration.outputs = [top] ∧
      s.requireFresh top = .ok () ∧
      s.newBlob
        { name := top
          shape := extentsOf
            (samples :: (if 0 < nz then [nz, ny, nx] else [ny, nx]) ++ [components])
          elementSize := some
            (s.graph.elementSizeFor ((if 0 < nz then 3 else 2 : Nat) : Int)) } = .ok b ∧
      d = ⟨[.made b], .createDeformation (if 0 < nz then 3 else 2)⟩ := by
  simp only [createDeformationLayer, bind_eq_ok, pure_eq_ok, lift_eq_ok, requireInputs_eq_ok,
    requireOutputs_eq_ok, exists_const] at h
  obtain ⟨hin, hout, nz, hz, ny, hy, nx, hx, components, hc, samples, hsam, top, ht, u, hf, b, hb,
    rfl⟩ := h
  exact ⟨nz, ny, nx, components, samples, top, b, by simpa [inRange_iff] using hin, hz, hy, hx, hc,
    hsam, only_target hout ht, hf, hb, rfl⟩

theorem deformedExtents_ok {shapeFrom : String} {axes : Int} {spatial : List Nat}
    (h : s.deformedExtents shapeFrom axes = .ok spatial) :
    (shapeFrom = "" ∧ ∃ src field rest, s.inputs = src :: some field :: rest ∧
        spatial = sliced field.shape 1 (1 + axes)) ∨
      (shapeFrom ≠ "" ∧ ∃ ref, s.graph.find? (.text shapeFrom) = some ref ∧
        spatial = (s.graph.blob ref).spatial) := by
  by_cases hs : shapeFrom = ""
  · refine .inl ⟨hs, ?_⟩
    simp only [deformedExtents, hs, if_true] at h
    rcases hin : s.inputs with _ | ⟨src, _ | ⟨field, rest⟩⟩
    · simp [hin, throw_eq_ok] at h
    · simp [hin, throw_eq_ok] at h
    · simp only [hin, List.drop_one, List.tail_cons, bind_eq_ok, lift_eq_ok, present_eq_ok,
        pure_eq_ok] at h
      obtain ⟨b, rfl, rfl⟩ := h
      exact ⟨src, b, rest, rfl, rfl⟩
  · refine .inr ⟨hs, ?_⟩
    simp only [deformedExtents, hs, if_false, bind_eq_ok, pure_eq_ok, resolve_eq_ok] at h
    obtain ⟨ref, ⟨-, hr⟩, rfl⟩ := h
    exact ⟨ref, hr, rfl⟩

theorem applyDeformationLayer_ok (h : s.applyDeformationLayer = .ok d) :
    ∃ src rest spatial top samples channels b, s.inputs = some src :: rest ∧
      s.deformedExtents s.shapeSource src.spatialRank = .ok spatial ∧
      (spatial.length : Int) = src.spatialRank ∧ s.declaration.outputs = [top] ∧
      s.requireFresh top = .ok () ∧ src.samples = .ok samples ∧ src.channels = .ok channels ∧
      s.newBlob { name := top, shape := extentsOf (samples :: channels :: spatial) } = .ok b ∧
      d = ⟨[.made b], .applyDeformation s.shapeSource⟩ := by
  simp only [applyDeformationLayer, bind_eq_ok, pure_eq_ok, lift_eq_ok, requireInputs_eq_ok,
    requireOutputs_eq_ok, exists_const, source_eq_ok, ite_eq_ok, throw_eq_ok, false_and,
    and_false, false_or, ne_eq, Decidable.not_not] at h
  obtain ⟨-, hout, src, ⟨rest, hin⟩, spatial, hsp, hlen, top, ht, u, hf, samples, hsam, channels,
    hch, b, hb, rfl⟩ := h
  exact ⟨src, rest, spatial, top, samples, channels, b, hin, hsp, hlen, only_target hout ht, hf,
    hsam, hch, hb, rfl⟩

end NetFootprint.Site
