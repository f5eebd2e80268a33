import NetFootprint.Proofs.Graph.Rank
import NetFootprint.Proofs.Layer.Channels
import NetFootprint.Proofs.Report.Balance

/-!
# When there is a report

The figures of a layer are products of extents and of channels. As long as the extents fit, they are
all there, unless a family that counts channels, and did not look at them while building, was given
a scalar: then the whole network has no report.
-/

namespace NetFootprint

/-! ## Formulas -/

/-- Every extent of a blob fits 64 bits. -/
def Blob.Countable (b : Blob) : Prop := ∀ e ∈ b.shape, e < 2 ^ 64

/-- The first of some blobs has channels. -/
def HasChannels (blobs : List Blob) : Prop :=
  ∃ b rest c, blobs = b :: rest ∧ b.channels = .ok c ∧ c ≠ 0

theorem wrappedProduct_defined {extents : List Nat} (h : ∀ e ∈ extents, e < 2 ^ 64) :
    ∃ n, wrappedProduct extents = .ok n := by
  have hfit : extents.any (fun e => decide (Nat.pow 2 64 ≤ e)) = false := by
    rw [List.any_eq_false]
    intro e he
    have hlt : e < Nat.pow 2 64 := h e he
    rw [decide_eq_true_iff]
    exact Nat.not_le.mpr hlt
  rw [wrappedProduct, hfit]
  exact ⟨_, rfl⟩

theorem Blob.Countable.spatial {b : Blob} (h : b.Countable) :
    ∃ n, wrappedProduct (b.shape.drop 2) = .ok n :=
  wrappedProduct_defined fun e he => h e (List.mem_of_mem_drop he)

theorem Blob.Countable.sizeBytes {b : Blob} (h : b.Countable) : ∃ n, b.sizeBytes = .ok n := by
  obtain ⟨n, hn⟩ := wrappedProduct_defined h
  exact ⟨_, by rw [Blob.sizeBytes, Blob.count, hn]; rfl⟩

theorem Blob.Countable.forwardBytes {b : Blob} (h : b.Countable) :
    ∃ n, b.forwardBytes = .ok n := by
  rw [Blob.forwardBytes]
  split
  · exact h.sizeBytes
  · exact ⟨0, rfl⟩

theorem Blob.Countable.backwardBytes {b : Blob} (h : b.Countable) :
    ∃ n, b.backwardBytes = .ok n := by
  rw [Blob.backwardBytes]
  split
  · exact h.sizeBytes
  · exact ⟨0, rfl⟩

namespace Body

variable {body : Body} {inputs outputs : List Blob}

theorem sumOver_defined {f : Blob → Except Misuse Int} {blobs : List Blob}
    (h : ∀ b ∈ blobs, ∃ n, f b = .ok n) : ∃ n, sumOver f blobs = .ok n := by
  obtain ⟨values, hvalues⟩ := exists_mapM_eq_ok.mpr h
  exact ⟨values.sum, sumOver_eq_ok.mpr ⟨values, hvalues, rfl⟩⟩

theorem blobBytes_defined {b : Blob} (h : b.Countable) :
    ∃ n, blobBytes wrappedProduct b = .ok n := by
  obtain ⟨n, hn⟩ := wrappedProduct_defined h
  exact ⟨_, by rw [blobBytes, hn]; rfl⟩

theorem softmaxBytes_defined {b : Blob} {c : Nat} (h : b.Countable) (hc : b.channels = .ok c)
    (hne : c ≠ 0) : ∃ n, softmaxBytes wrappedProduct b = .ok n := by
  obtain ⟨n, hn⟩ := wrappedProduct_defined h
  refine ⟨bytesPerElement * (c + Int.fdiv n c), ?_⟩
  simp only [softmaxBytes, hc, hn, ok_bind, if_neg hne]
  rfl

theorem parameterBytes_defined (hin : body.family.countsChannels = true → HasChannels inputs)
    (hout : body.family.movesWindow = true → HasChannels outputs) :
    ∃ n, body.parameterBytes inputs outputs = .ok n := by
  cases body with
  | convolution w m =>
    obtain ⟨src, rest, c, rfl, hc, -⟩ := hin rfl
    exact ⟨_, by simp only [parameterBytes, firstBlob, ok_bind, hc]; rfl⟩
  | deconvolution w m =>
    obtain ⟨src, rest, c, rfl, hc, -⟩ := hin rfl
    obtain ⟨out, others, c', rfl, hc', -⟩ := hout rfl
    exact ⟨_, by simp only [parameterBytes, firstBlob, ok_bind, hc, hc']; rfl⟩
  | valueTransformation =>
    obtain ⟨src, rest, c, rfl, hc, -⟩ := hin rfl
    exact ⟨_, by simp only [parameterBytes, firstBlob, ok_bind, hc]; rfl⟩
  | _ => exact ⟨0, rfl⟩

theorem workspaceBytes_defined (accelerated : Bool)
    (hin : body.family.countsChannels = true → HasChannels inputs)
    (hout : body.family.movesWindow = true → HasChannels outputs)
    (hfit : ∀ b ∈ inputs ++ outputs, b.Countable) :
    ∃ n, body.workspaceBytes wrappedProduct accelerated inputs outputs = .ok n := by
  cases body with
  | convolution w m =>
    obtain ⟨src, rest, c, rfl, hc, -⟩ := hin rfl
    obtain ⟨out, others, c', rfl, -, -⟩ := hout rfl
    obtain ⟨n, hn⟩ := (hfit out (by simp)).spatial
    cases accelerated with
    | true => exact ⟨_, rfl⟩
    | false =>
      exact ⟨_, by simp only [workspaceBytes, firstBlob, ok_bind, loweredBytes, hc, hn]; rfl⟩
  | deconvolution w m =>
    obtain ⟨src, rest, c, rfl, -, -⟩ := hin rfl
    obtain ⟨out, others, c', rfl, hc', -⟩ := hout rfl
    obtain ⟨n, hn⟩ := (hfit src (by simp)).spatial
    cases accelerated with
    | true => exact ⟨_, rfl⟩
    | false =>
      exact ⟨_, by simp only [workspaceBytes, firstBlob, ok_bind, loweredBytes, hc', hn]; rfl⟩
  | _ => exact ⟨0, rfl⟩

theorem internalBytes_defined (hin : body.family.countsChannels = true → HasChannels inputs)
    (hout : body.family.movesWindow = true → HasChannels outputs)
    (hfit : ∀ b ∈ inputs ++ outputs, b.Countable) :
    ∃ n, body.internalBytes wrappedProduct inputs outputs = .ok n := by
  have hbytes : ∀ b ∈ inputs ++ outputs, ∃ n, blobBytes wrappedProduct b = .ok n :=
    fun b hb => blobBytes_defined (hfit b hb)
  cases body with
  | pooling method w =>
    obtain ⟨out, others, c, rfl, -, -⟩ := hout rfl
    obtain ⟨n, hn⟩ := wrappedProduct_defined (hfit out (by simp))
    exact ⟨_, by simp only [internalBytes, firstBlob, ok_bind, poolingBytes, hn]; rfl⟩
  | dropout aliased =>
    obtain ⟨masks, hmasks⟩ := sumOver_defined fun b hb => hbytes b (List.mem_append_left _ hb)
    have hkept : ∀ b ∈ (inputs.zip aliased).filterMap (fun p => if p.2 then some p.1 else none),
        ∃ n, blobBytes wrappedProduct b = .ok n := by
      intro b hb
      obtain ⟨p, hp, hsome⟩ := List.mem_filterMap.mp hb
      obtain ⟨-, hfirst⟩ := Option.ite_none_right_eq_some.mp hsome
      obtain rfl := Option.some.inj hfirst
      exact hbytes p.1 (List.mem_append_left _ (List.of_mem_zip hp).1)
    obtain ⟨buffers, hbuffers⟩ := sumOver_defined hkept
    exact ⟨_, by simp only [internalBytes, hmasks, hbuffers]; rfl⟩
  | softmax =>
    obtain ⟨src, rest, c, rfl, hc, hne⟩ := hin rfl
    exact softmaxBytes_defined (hfit src (by simp)) hc hne
  | softmaxWithLoss =>
    obtain ⟨src, rest, c, rfl, hc, hne⟩ := hin rfl
    obtain ⟨helper, hhelper⟩ := softmaxBytes_defined (hfit src (by simp)) hc hne
    obtain ⟨probabilities, hprob⟩ := hbytes src (by simp)
    have hscores : ∀ b ∈ outputs.drop 1, ∃ n, blobBytes wrappedProduct b = .ok n :=
      fun b hb => hbytes b (List.mem_append_right _ (List.mem_of_mem_drop hb))
    obtain ⟨score, hscore⟩ := sumOver_defined hscores
    exact ⟨_, by simp only [internalBytes, firstBlob, ok_bind, hhelper, hprob, hscore]; rfl⟩
  | _ => exact ⟨0, rfl⟩

end Body

/-! ## Graphs -/

namespace Graph

variable {g : Graph} {l : Layer} {ref : Nat} {accelerated : Bool}

/-- The channels of a scalar are asked for: its layer is of a family that counts channels but does
not look at them while building. -/
def CountsScalar (g : Graph) (l : Layer) : Prop :=
  (l.family = .convolution ∨ l.family = .deconvolution ∨ l.family = .softmaxWithLoss) ∧
    ∃ ref, l.inputs[0]? = some (some ref) ∧ (g.blob ref).isScalar = true

theorem Reached.channels (h : g.Reached) (href : ref ∈ g.registered)
    (hs : (g.blob ref).isScalar = false) : ∃ c, (g.blob ref).channels = .ok c ∧ c ≠ 0 := by
  obtain ⟨n, -, hlen⟩ := h.rank ref href hs
  have hlt : 1 < (g.blob ref).shape.length := by omega
  have hpos := h.extents ref href _ (List.getElem_mem hlt)
  refine ⟨(g.blob ref).shape[1], ?_, by omega⟩
  rw [Blob.channels, Blob.extent, List.getElem?_eq_getElem hlt]

theorem inputsOf_cons {refs : List (Option Nat)} (h : l.inputs = some ref :: refs) :
    ∃ rest, g.inputsOf l = g.blob ref :: rest := by
  rw [inputsOf, slotsOf, h]
  exact ⟨_, rfl⟩

theorem exists_inputs_cons (h : l.inputs[0]? = some (some ref)) :
    ∃ refs, l.inputs = some ref :: refs := by
  cases hin : l.inputs with
  | nil => simp [hin] at h
  | cons input refs =>
    obtain rfl : input = some ref := by simpa [hin] using h
    exact ⟨refs, rfl⟩

theorem exists_use {b : Blob} (hb : b ∈ g.inputsOf l ++ g.outputsOf l) :
    ∃ ref, g.blob ref = b ∧ (some ref ∈ l.inputs ∨ ref ∈ l.outputs) := by
  rcases List.mem_append.mp hb with hin | hout
  · simp only [inputsOf, slotsOf, List.mem_filterMap, List.mem_map, id_eq] at hin
    obtain ⟨slot, ⟨input, hinput, hslot⟩, hsome⟩ := hin
    obtain ⟨ref, rfl, hblob⟩ := Option.map_eq_some_iff.mp (hslot.trans hsome)
    exact ⟨ref, hblob, .inl hinput⟩
  · obtain ⟨ref, href, hblob⟩ := List.mem_map.mp hout
    exact ⟨ref, hblob, .inr href⟩

theorem Reached.mem_blobs (h : g.Reached) (hl : l ∈ g.layers) {b : Blob}
    (hb : b ∈ g.inputsOf l ++ g.outputsOf l) : ∃ ref ∈ g.registered, g.blob ref = b := by
  obtain ⟨ref, hblob, hin | hout⟩ := exists_use hb
  · obtain ⟨ref', href, hsome⟩ := h.input_registered hl hin
    obtain rfl : ref = ref' := Option.some.inj hsome
    exact ⟨ref, href, hblob⟩
  · exact ⟨ref, h.output_registered hl hout, hblob⟩

theorem Reached.inputs_hasChannels (h : g.Reached) (hl : l ∈ g.layers)
    (hno : ¬ g.CountsScalar l) (ht : l.family.countsChannels = true) :
    HasChannels (g.inputsOf l) := by
  obtain ⟨k, before, draft, after, hk, hb⟩ := h.history_of_mem hl
  obtain ⟨src, rest, hin, hcase⟩ := Site.layer_fed ht hb.adds.drafted
  obtain ⟨ref, hmem, hinput, hfixed⟩ := hb.first_input hin
  have href : ref ∈ g.registered := (hb.ownedBefore hmem).1
  obtain ⟨refs, hrefs⟩ := exists_inputs_cons hinput
  obtain ⟨others, hothers⟩ := inputsOf_cons (g := g) hrefs
  have hs : (g.blob ref).isScalar = false := by
    cases hscalar : (g.blob ref).isScalar with
    | false => rfl
    | true =>
      have hthree (hf : l.family = .convolution ∨ l.family = .deconvolution ∨
          l.family = .softmaxWithLoss) : False := hno ⟨hf, ref, hinput, hscalar⟩
      rcases hcase with hf | hf | hf | ⟨b, hout, hbs, hshape⟩
      · exact (hthree (.inl hf)).elim
      · exact (hthree (.inr (.inl hf))).elim
      · exact (hthree (.inr (.inr hf))).elim
      · -- the blob of the scalar's shape would not have been taken in
        have hplaced := hb.adds.placed
        rw [hout] at hplaced
        obtain ⟨out, outs, hat, -, houts⟩ := List.forall₂_cons_left_iff.mp hplaced
        have hmemout : out ∈ l.outputs := by simp [houts]
        cases hat with
        | made _ _ hnew hsize hbfixed =>
          have hafter : (after.blob out).isScalar = false := by
            rwa [Blob.of_fixed Blob.isScalar hbfixed]
          obtain ⟨n, -, hlen⟩ := hb.adds.rank_new hb.reached hmemout hnew hafter
          rw [Blob.of_fixed Blob.shape hbfixed, hshape,
            ← Blob.of_fixed Blob.shape hfixed, (h.scalar ref href hscalar).1] at hlen
          simp at hlen
  obtain ⟨c, hc, hne⟩ := h.channels href hs
  exact ⟨_, others, c, hothers, hc, hne⟩

theorem Reached.outputs_hasChannels (h : g.Reached) (hl : l ∈ g.layers)
    (ht : l.family.movesWindow = true) : HasChannels (g.outputsOf l) := by
  obtain ⟨k, before, draft, after, hk, hb⟩ := h.history_of_mem hl
  obtain ⟨hne, hmade⟩ := Site.layer_windowed ht hb.adds.drafted
  obtain ⟨o, os, hos⟩ := List.exists_cons_of_ne_nil hne
  have hplaced := hb.adds.placed
  rw [hos] at hplaced
  obtain ⟨out, outs, hat, -, houts⟩ := List.forall₂_cons_left_iff.mp hplaced
  have hmem : out ∈ l.outputs := by simp [houts]
  have href : out ∈ g.registered := h.output_registered hl hmem
  obtain ⟨b, rfl, hs⟩ := hmade o (by simp [hos])
  cases hat with
  | made _ _ hnew hsize hbfixed =>
    have hscalar : (g.blob out).isScalar = false := by
      rw [Blob.of_fixed Blob.isScalar (hb.since.fixed out hsize)]
      rwa [Blob.of_fixed Blob.isScalar hbfixed]
    obtain ⟨c, hc, hne⟩ := h.channels href hscalar
    refine ⟨g.blob out, outs.map g.blob, c, ?_, hc, hne⟩
    rw [outputsOf, houts, List.map_cons]

theorem Reached.footprint_defined (h : g.Reached) (accelerated : Bool)
    (hfit : ∀ ref ∈ g.registered, (g.blob ref).Countable) (hl : l ∈ g.layers)
    (hno : ¬ g.CountsScalar l) : ∃ fp, g.footprint accelerated l = .ok fp := by
  have hin := h.inputs_hasChannels hl hno
  have hout := h.outputs_hasChannels hl
  have hblobs : ∀ b ∈ g.inputsOf l ++ g.outputsOf l, b.Countable := by
    intro b hb
    obtain ⟨ref, href, rfl⟩ := h.mem_blobs hl hb
    exact hfit ref href
  have hown : ∀ b ∈ g.ownedBy l, b.Countable := by
    intro b hb
    exact hblobs b (List.mem_append_right _ (List.mem_of_mem_filter hb))
  obtain ⟨parameter, hparameter⟩ := Body.parameterBytes_defined hin hout
  obtain ⟨workspace, hworkspace⟩ := Body.workspaceBytes_defined accelerated hin hout hblobs
  obtain ⟨internal, hinternal⟩ := Body.internalBytes_defined hin hout hblobs
  obtain ⟨forward, hforward⟩ := Body.sumOver_defined fun b hb => (hown b hb).forwardBytes
  obtain ⟨backward, hbackward⟩ := Body.sumOver_defined fun b hb => (hown b hb).backwardBytes
  refine ⟨⟨parameter, workspace + internal, forward, backward⟩, footprint_eq_ok.mpr ?_⟩
  refine ⟨hparameter, ?_, hforward, hbackward⟩
  rw [overheadBytes, Body.overheadBytes, hworkspace, ok_bind, hinternal]
  rfl

/-- The figures of a layer that asks for the channels of a scalar are not defined. -/
theorem Reached.not_footprint_of_scalar (h : g.Reached) (hl : l ∈ g.layers)
    (hscalar : g.CountsScalar l) (fp : Footprint) : g.footprint accelerated l ≠ .ok fp := by
  intro hfp
  obtain ⟨hfamily, ref, hinput, hs⟩ := hscalar
  obtain ⟨refs, hrefs⟩ := exists_inputs_cons hinput
  obtain ⟨ref', href, hsome⟩ := h.input_registered hl (List.mem_of_getElem? hinput)
  obtain rfl : ref = ref' := Option.some.inj hsome
  obtain ⟨rest, hrest⟩ := inputsOf_cons (g := g) hrefs
  have hchannels : (g.blob ref).channels = .error .missingAxis := by
    rw [Blob.channels, Blob.extent, (h.scalar ref href hs).1]
    rfl
  obtain ⟨hparameter, hoverhead, -, -⟩ := footprint_eq_ok.mp hfp
  rw [parameterBytes, hrest] at hparameter
  simp only [overheadBytes, hrest, Body.overheadBytes, bind_eq_ok] at hoverhead
  obtain ⟨-, -, internal, hinternal, -⟩ := hoverhead
  rw [Layer.family] at hfamily
  cases hbody : l.body <;> simp only [hbody, Body.family, reduceCtorEq, or_self] at hfamily
  case convolution =>
    simp [hbody, Body.parameterBytes, firstBlob, bind_eq_ok, hchannels] at hparameter
  case deconvolution =>
    simp [hbody, Body.parameterBytes, firstBlob, bind_eq_ok, hchannels] at hparameter
  case softmaxWithLoss =>
    simp [hbody, Body.internalBytes, firstBlob, bind_eq_ok, Body.softmaxBytes, hchannels]
      at hinternal

theorem Reached.report_defined_iff (h : g.Reached)
    (hfit : ∀ ref ∈ g.registered, (g.blob ref).Countable) (acc : Value) :
    (∃ rep, g.report acc = .ok rep) ↔ ∀ l ∈ g.layers, ¬ g.CountsScalar l := by
  have hrows : (∃ rep, g.report acc = .ok rep) ↔
      ∀ l ∈ g.layers, ∃ row, g.reportRow acc.truthy l = .ok row := by
    rw [← exists_mapM_eq_ok]
    simp only [report, bind_eq_ok, pure_eq_ok]
    constructor
    · rintro ⟨_, rows, hrows, rfl⟩
      exact ⟨rows, hrows⟩
    · rintro ⟨rows, hrows⟩
      exact ⟨_, rows, hrows, rfl⟩
  rw [hrows]
  constructor
  · intro hall l hl hscalar
    obtain ⟨row, hrow⟩ := hall l hl
    simp only [reportRow, bind_eq_ok] at hrow
    obtain ⟨fp, hfp, -⟩ := hrow
    exact h.not_footprint_of_scalar hl hscalar fp hfp
  · intro hno l hl
    obtain ⟨fp, hfp⟩ := h.footprint_defined acc.truthy hfit hl (hno l hl)
    exact ⟨_, by rw [reportRow, hfp]; rfl⟩

end Graph

/-- A network whose extents fit has a report, accelerated or not, unless the channels of a scalar
are asked for. -/
theorem Network.report_defined {r : Request} {n : Network} (h : r.network = .ok n)
    (hfit : ∀ b ∈ n.blobs, ∀ e ∈ b.shape, e < 2 ^ 63) (accelerated : Value) :
    (∃ rep, n.report accelerated = .ok rep) ↔ ∀ l ∈ n.layers, ¬ n.graph.CountsScalar l := by
  refine (Graph.reached_of_network h).report_defined_iff (fun ref href e he => ?_) accelerated
  have hlt := hfit _ (List.mem_map_of_mem href) e he
  omega

/-- Whether all extents of a network fit signed 64 bits. -/
def Network.small (n : Network) : Bool :=
  n.blobs.all (fun b => b.shape.all (fun e => decide (e < 2 ^ 63)))

theorem Network.lt_of_small {n : Network} (h : n.small = true) :
    ∀ b ∈ n.blobs, ∀ e ∈ b.shape, e < 2 ^ 63 := by
  intro b hb e he
  have hall := List.all_eq_true.mp (List.all_eq_true.mp h b hb) e he
  exact of_decide_eq_true hall

theorem report_defined_rectified :
    ∃ n, rectified.network = .ok n ∧ (∀ b ∈ n.blobs, ∀ e ∈ b.shape, e < 2 ^ 63) ∧
      ((∃ rep, n.report (.bool true) = .ok rep) ↔
        ∀ l ∈ n.layers, ¬ n.graph.CountsScalar l) := by
  have hrun : rectified.network.toOption.any Network.small = true := by decide +kernel
  obtain ⟨n, hn, hsmall⟩ := exists_of_any hrun
  have hfit := Network.lt_of_small hsmall
  exact ⟨n, hn, hfit, Network.report_defined hn hfit (.bool true)⟩

def lossOfLoss : Request where
  layers := .records (.list
    [.object [("type", .text "SoftmaxWithLoss"), ("name", .text "loss"),
      ("inputs", .list [.text "data"]), ("outputs", .list [.text "loss"])],
     .object [("type", .text "SoftmaxWithLoss"), ("name", .text "loss2"),
      ("inputs", .list [.text "loss"]), ("outputs", .list [.text "loss2"])]])
  phase := .text "test"
  inputNames := .list [.text "data"]
  inputShapes := .list [.list [.int 1, .int 2, .int 3, .int 4]]
  elementSize := .null
  label := .null

theorem no_report_lossOfLoss :
    ∃ n, lossOfLoss.network = .ok n ∧ (∀ b ∈ n.blobs, ∀ e ∈ b.shape, e < 2 ^ 63) ∧
      ∀ accelerated, ¬ ∃ rep, n.report (.bool accelerated) = .ok rep := by
  have hrun : lossOfLoss.network.toOption.any (fun n => n.small &&
      !(n.report (.bool true)).toOption.isSome && !(n.report (.bool false)).toOption.isSome) =
      true := by
    decide +kernel
  obtain ⟨n, hn, htest⟩ := exists_of_any hrun
  simp only [Bool.and_eq_true, Bool.not_eq_true'] at htest
  obtain ⟨⟨hsmall, htrue⟩, hfalse⟩ := htest
  refine ⟨n, hn, Network.lt_of_small hsmall, fun accelerated => ?_⟩
  rw [← toOption_isSome_iff]
  cases accelerated with
  | true => simp [htrue]
  | false => simp [hfalse]

end NetFootprint
