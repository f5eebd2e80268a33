import NetFootprint.Proofs.Graph.Below
import NetFootprint.Proofs.Report.Exact

/-!
# Reducing the input tile

A network that is built for a smaller input tile needs no more memory. Blob by blob its extents are
at most those of the network for the larger tile, and as long as no count of the larger network wraps
around, so is every figure of its report: each formula grows with the blobs that it is evaluated on.
-/

namespace NetFootprint

/-! ## Counting smaller blobs -/

theorem exactProduct_mono {es es' : List Nat} (h : List.Forall₂ (· ≤ ·) es es') :
    exactProduct es ≤ exactProduct es' := by
  induction h with
  | nil => exact Nat.le_refl 1
  | cons he _ ih =>
    rw [exactProduct_cons, exactProduct_cons]
    exact Nat.mul_le_mul he ih

theorem wrappedProduct_atMost {es es' : List Nat} (hle : List.Forall₂ (· ≤ ·) es es')
    (hpos : ∀ e ∈ es, 1 ≤ e) (hpos' : ∀ e ∈ es', 1 ≤ e) (hsmall : exactProduct es' < 2 ^ 63) :
    AtMost (wrappedProduct es) (wrappedProduct es') := by
  have hmono := exactProduct_mono hle
  rw [wrappedProduct_of_small hpos (Nat.lt_of_le_of_lt hmono hsmall),
    wrappedProduct_of_small hpos' hsmall]
  exact .ok (Int.ofNat_le.mpr hmono)

theorem fdiv_channels (samples : Nat) {k : Nat} (rest : List Nat) (hk : k ≠ 0) :
    Int.fdiv (exactProduct (samples :: k :: rest)) k = (exactProduct (samples :: rest) : Nat) := by
  have hfactor : exactProduct (samples :: k :: rest) = k * exactProduct (samples :: rest) := by
    simp only [exactProduct_cons]
    exact Nat.mul_left_comm samples k (exactProduct rest)
  have hne : (k : Int) ≠ 0 := by omega
  rw [Int.fdiv_eq_ediv_of_nonneg _ (Int.natCast_nonneg k), hfactor, Int.natCast_mul]
  exact Int.mul_ediv_cancel_left _ hne

theorem Blob.Below.weighs {b b' : Blob} (h : b.Below b') (hpos : ∀ e ∈ b.shape, 1 ≤ e)
    (hpos' : ∀ e ∈ b'.shape, 1 ≤ e) (hsmall : b'.exactCount < 2 ^ 63) :
    Weighs wrappedProduct wrappedProduct b b' := by
  have hcount : b.exactCount < 2 ^ 63 := Nat.lt_of_le_of_lt (exactProduct_mono h.shape) hsmall
  have hdrop' : ∀ e ∈ b'.shape.drop 2, 1 ≤ e := fun e he => hpos' e (List.mem_of_mem_drop he)
  have hspatial : exactProduct (b'.shape.drop 2) < 2 ^ 63 :=
    Nat.lt_of_le_of_lt (exactProduct_drop_le hpos' 2) hsmall
  constructor
  · exact wrappedProduct_atMost h.shape hpos hpos' hsmall
  · exact wrappedProduct_atMost (List.forall₂_drop 2 h.shape)
      (fun e he => hpos e (List.mem_of_mem_drop he)) hdrop' hspatial
  · intro n hn
    obtain rfl := eq_of_ok (wrappedProduct_of_small hdrop' hspatial) hn
    exact Int.natCast_nonneg _
  · exact h.channels
  · intro n n' k k' hn hn' hk hk' hz
    obtain rfl := eq_of_ok (wrappedProduct_of_small hpos hcount) hn
    obtain rfl := eq_of_ok (wrappedProduct_of_small hpos' hsmall) hn'
    -- the channels divide the count, so the quotient is a product of smaller extents again
    have hle : k ≤ k' := h.channels.relate k k' hk hk'
    obtain ⟨samples, rest, hs⟩ := shape_of_channels hk
    obtain ⟨samples', rest', hs'⟩ := shape_of_channels hk'
    have hshape := h.shape
    rw [hs, hs'] at hshape
    obtain ⟨hsamples, -, hrest⟩ : samples ≤ samples' ∧ k ≤ k' ∧ List.Forall₂ (· ≤ ·) rest rest' := by
      simpa only [List.forall₂_cons] using hshape
    rw [hs, hs', fdiv_channels samples rest hz, fdiv_channels samples' rest' (by omega)]
    exact Int.ofNat_le.mpr (exactProduct_mono (.cons hsamples hrest))

theorem Blob.Below.forwardBytes {b b' : Blob} (h : b.Below b')
    (hw : Weighs wrappedProduct wrappedProduct b b') : AtMost b.forwardBytes b'.forwardBytes := by
  rw [Blob.forwardBytes, Blob.forwardBytes, h.same Blob.resident, h.same Blob.forward]
  split
  · exact Body.blobBytes_mono hw
  · exact .ok (Int.le_refl 0)

theorem Blob.Below.backwardBytes {b b' : Blob} (h : b.Below b')
    (hw : Weighs wrappedProduct wrappedProduct b b') : AtMost b.backwardBytes b'.backwardBytes := by
  rw [Blob.backwardBytes, Blob.backwardBytes, h.same Blob.resident, h.same Blob.gradient]
  split
  · exact Body.blobBytes_mono hw
  · exact .ok (Int.le_refl 0)

/-! ## Rows -/

/-- Two figures in whole numbers, the second of which is not smaller. -/
def Value.WholeAtMost (v v' : Value) : Prop := ∃ m n : Int, v = .int m ∧ v' = .int n ∧ m ≤ n

/-- Two totals in whole numbers, the second of which is not smaller. -/
def Amount.WholeAtMost (x x' : Except Misuse Amount) : Prop :=
  ∃ m n : Int, x = .ok (.whole m) ∧ x' = .ok (.whole n) ∧ m ≤ n

/-- The rows of one layer in two reports, no figure of the second being smaller. -/
structure Report.Row.AtMost (row row' : Report.Row) : Prop where
  name : row'.name = row.name
  type : row'.type = row.type
  parameter : row.parameter.WholeAtMost row'.parameter
  overhead : row.overhead.WholeAtMost row'.overhead
  forward : row.forward.WholeAtMost row'.forward
  backward : row.backward.WholeAtMost row'.backward
  total : Amount.WholeAtMost row.total row'.total

/-- Two reports row by row, no figure of the second being smaller. -/
structure Report.AtMost (rep rep' : Report) : Prop where
  rows : List.Forall₂ Report.Row.AtMost rep.rows rep'.rows
  total : Amount.WholeAtMost rep.total rep'.total

namespace Graph

variable {g g' : Graph} {l l' : Layer} {accelerated : Bool}

/-- What the formulas take from the blobs of the second graph is nowhere less. -/
structure Outweighed (g g' : Graph) : Prop where
  below : g.Below g'
  weighs : ∀ ref ∈ g.registered, Weighs wrappedProduct wrappedProduct (g.blob ref) (g'.blob ref)

theorem Reached.outweighed (hg : g.Reached) (hg' : g'.Reached) (h : g.Below g')
    (hsmall : ∀ b ∈ g'.registeredBlobs, b.exactCount < 2 ^ 63) : g.Outweighed g' where
  below := h
  weighs := by
    intro ref href
    have href' : ref ∈ g'.registered := h.registered ▸ href
    exact (h.blob ref).weighs (hg.extents ref href) (hg'.extents ref href')
      (hsmall _ (List.mem_map_of_mem href'))

namespace Outweighed

theorem blobs (h : g.Outweighed g') {refs : List Nat} (hrefs : ∀ ref ∈ refs, ref ∈ g.registered) :
    List.Forall₂ (fun b b' => b.Below b' ∧ Weighs wrappedProduct wrappedProduct b b')
      (refs.map g.blob) (refs.map g'.blob) := by
  rw [List.forall₂_map_left_iff, List.forall₂_map_right_iff, List.forall₂_same]
  intro ref href
  exact ⟨h.below.blob ref, h.weighs ref (hrefs ref href)⟩

theorem inputsOf (h : g.Outweighed g') (hg : g.Reached) (hl : l ∈ g.layers) (hll : l.Below l') :
    List.Forall₂ (Weighs wrappedProduct wrappedProduct) (g.inputsOf l) (g'.inputsOf l') := by
  have hslots : List.Forall₂ (Option.Rel (Weighs wrappedProduct wrappedProduct)) (g.slotsOf l)
      (g'.slotsOf l') := by
    rw [slotsOf, slotsOf, hll.inputs, List.forall₂_map_left_iff, List.forall₂_map_right_iff,
      List.forall₂_same]
    intro input hin
    obtain ⟨ref, href, rfl⟩ := hg.input_registered hl hin
    exact .some (h.weighs ref href)
  exact List.rel_filterMap (fun _ _ hslot => hslot) hslots

theorem outputsOf (h : g.Outweighed g') (hg : g.Reached) (hl : l ∈ g.layers) (hll : l.Below l') :
    List.Forall₂ (Weighs wrappedProduct wrappedProduct) (g.outputsOf l) (g'.outputsOf l') := by
  rw [Graph.outputsOf, Graph.outputsOf, hll.outputs]
  refine (h.blobs fun ref href => ?_).imp fun _ _ hb => hb.2
  exact hg.output_registered hl href

theorem ownedBy (h : g.Outweighed g') (hg : g.Reached) (hl : l ∈ g.layers) (hll : l.Below l') :
    List.Forall₂ (fun b b' => b.Below b' ∧ Weighs wrappedProduct wrappedProduct b b')
      (g.ownedBy l) (g'.ownedBy l') := by
  have hproducer : l'.producer = l.producer := by
    rw [Layer.producer, hll.serial, hll.name, Layer.producer]
  have howned : g'.ownedRefs l' = g.ownedRefs l := by
    rw [ownedRefs, ownedRefs, hll.outputs, hproducer]
    exact List.filter_congr fun ref _ => by rw [(h.below.blob ref).same Blob.producer]
  rw [ownedBy_eq, ownedBy_eq, howned]
  refine h.blobs fun ref href => ?_
  exact hg.output_registered hl (mem_ownedRefs.mp href).1

/-- No figure of a layer is larger on the blobs of the first graph. -/
theorem row (h : g.Outweighed g') (hg : g.Reached) (hl : l ∈ g.layers) (hll : l.Below l') :
    Relate Report.Row.AtMost (g.reportRow accelerated l) (g'.reportRow accelerated l') := by
  have hin := h.inputsOf hg hl hll
  have hout := h.outputsOf hg hl hll
  have hown := h.ownedBy hg hl hll
  have hparameter : AtMost (g.parameterBytes l) (g'.parameterBytes l') :=
    Body.parameterBytes_mono hll.body hin hout
  have hoverhead : AtMost (g.overheadBytes accelerated l) (g'.overheadBytes accelerated l') :=
    Body.overheadBytes_mono accelerated hll.body hin hout
  have hforward : AtMost (g.forwardBytes l) (g'.forwardBytes l') :=
    Body.sumOver_mono hown fun _ _ hb => hb.1.forwardBytes hb.2
  have hbackward : AtMost (g.backwardBytes l) (g'.backwardBytes l') :=
    Body.sumOver_mono hown fun _ _ hb => hb.1.backwardBytes hb.2
  refine .seq fun fp fp' hfp hfp' => .ok ?_
  obtain ⟨hp, ho, hf, hb⟩ := footprint_eq_ok.mp hfp
  obtain ⟨hp', ho', hf', hb'⟩ := footprint_eq_ok.mp hfp'
  have hple := hparameter.relate _ _ hp hp'
  have hole := hoverhead.relate _ _ ho ho'
  have hfle := hforward.relate _ _ hf hf'
  have hble := hbackward.relate _ _ hb hb'
  have htotal : fp.total ≤ fp'.total := by
    simp only [Footprint.total]
    omega
  exact
    { name := congrArg Value.text hll.name
      type := congrArg Value.text hll.tag
      parameter := ⟨_, _, rfl, rfl, hple⟩
      overhead := ⟨_, _, rfl, rfl, hole⟩
      forward := ⟨_, _, rfl, rfl, hfle⟩
      backward := ⟨_, _, rfl, rfl, hble⟩
      total := ⟨fp.total, fp'.total, rfl, rfl, htotal⟩ }

theorem rows (h : g.Outweighed g') (hg : g.Reached) :
    Relate (List.Forall₂ Report.Row.AtMost) (g.layers.mapM (g.reportRow accelerated))
      (g'.layers.mapM (g'.reportRow accelerated)) := by
  have hlayers : List.Forall₂ (fun l l' => l ∈ g.layers ∧ l.Below l') g.layers g'.layers :=
    (List.forall₂_and_left _ _).mpr ⟨fun _ hl => hl, h.below.layers⟩
  exact .mapM hlayers fun l l' hl => h.row hg hl.1 hl.2

end Outweighed

/-- The total is the sum of the totals of the rows, so it is not larger either. -/
theorem Outweighed.report (h : g.Outweighed g') (hg : g.Reached) (hg' : g'.Reached)
    (accelerated : Value) :
    Relate Report.AtMost (g.report accelerated) (g'.report accelerated) := by
  intro rep rep' hrep hrep'
  have hrows : List.Forall₂ Report.Row.AtMost rep.rows rep'.rows := by
    obtain ⟨rows, hr, hrest⟩ := bind_eq_ok.mp hrep
    obtain ⟨rows', hr', hrest'⟩ := bind_eq_ok.mp hrep'
    obtain rfl := pure_eq_ok.mp hrest
    obtain rfl := pure_eq_ok.mp hrest'
    exact h.rows hg rows rows' hr hr'
  have hbalances : rep.Balances ⟨.null, g⟩ accelerated.truthy := hg.balances hrep
  have hbalances' : rep'.Balances ⟨.null, g'⟩ accelerated.truthy := hg'.balances hrep'
  obtain ⟨totals, htotals, htotal⟩ := hbalances.rows
  obtain ⟨totals', htotals', htotal'⟩ := hbalances'.rows
  -- a report's total is the sum of its rows' totals, which go together row by row
  have hmembers : List.Forall₂ (fun a a' => Amount.WholeAtMost (.ok a) (.ok a'))
      (totals.map Amount.whole) (totals'.map Amount.whole) := by
    refine Relate.mapM hrows (fun row row' hrow a a' ha ha' => ?_) _ _ htotals htotals'
    rw [← ha, ← ha']
    exact hrow.total
  have hle : List.Forall₂ (· ≤ ·) totals totals' := by
    rw [List.forall₂_map_left_iff, List.forall₂_map_right_iff] at hmembers
    refine hmembers.imp fun t t' ht => ?_
    obtain ⟨m, n, hm, hn, hle⟩ := ht
    obtain rfl : t = m := by simpa using hm
    obtain rfl : t' = n := by simpa using hn
    exact hle
  exact ⟨hrows, totals.sum, totals'.sum, htotal, htotal', sum_le_sum_of_forall₂ hle⟩

end Graph

/-! ## Requests -/

/-- The request with the given shapes for its external inputs. -/
def Request.fed (r : Request) (rows : List (List Int)) : Request :=
  { r with inputShapes := .table rows }

theorem members_table (rows : List (List Int)) :
    (rows.map fun row => Value.list (row.map .int)).mapM Value.members =
      .ok (rows.map fun row => row.map .int) := by
  rw [mapM_eq_ok, List.forall₂_map_left_iff, List.forall₂_map_right_iff, List.forall₂_same]
  intro row _
  rfl

theorem inputDeclaration_below {small large : List (List Int)}
    (hle : List.Forall₂ (List.Forall₂ (· ≤ ·)) small large) (names : Value) :
    Relate Declaration.Below (inputDeclaration names (.table small))
      (inputDeclaration names (.table large)) := by
  intro d d' hd hd'
  have hmade (rows : List (List Int)) {d : Declaration}
      (h : inputDeclaration names (.table rows) = .ok d) :
      ∃ outputs, names.members = .ok outputs ∧
        d = { type := LayerType.input.tag, name := inputLayerName, inputs := [], outputs
              params := [("shape", .table rows)], included := [], excluded := [] } := by
    simp only [inputDeclaration, bind_eq_ok, lift_eq_ok, ite_eq_ok, throw_eq_ok, pure_eq_ok,
      false_and, exists_false, and_false, false_or] at h
    obtain ⟨-, -, -, -, -, outputs, hout, items, hitems, rows', hrows', rfl⟩ := h
    obtain rfl := Except.ok.inj hitems
    obtain rfl := eq_of_ok (members_table rows) hrows'
    refine ⟨outputs, hout, ?_⟩
    rw [List.map_map]
    rfl
  obtain ⟨outputs, hout, rfl⟩ := hmade small hd
  obtain ⟨outputs', hout', rfl⟩ := hmade large hd'
  obtain rfl := eq_of_ok hout hout'
  exact .source small large rfl hle rfl rfl

namespace Request

variable {r : Request} {small large : List (List Int)}

theorem declarations_below (hle : List.Forall₂ (List.Forall₂ (· ≤ ·)) small large) :
    Relate (List.Forall₂ Declaration.Below) (r.fed small).declarations
      (r.fed large).declarations := by
  have hsame (ds : List Declaration) : List.Forall₂ Declaration.Below ds ds :=
    List.forall₂_same.mpr fun d _ => .same rfl
  have hshapes (rows : List (List Int)) : (if (r.fed rows).inputShapes.truthy then
      (r.fed rows).inputShapes else .list []) = .table rows := by
    cases rows <;> rfl
  have hsource : Relate Declaration.Below
      (inputDeclaration r.inputNames (if (r.fed small).inputShapes.truthy then
        (r.fed small).inputShapes else .list []))
      (inputDeclaration r.inputNames (if (r.fed large).inputShapes.truthy then
        (r.fed large).inputShapes else .list [])) := by
    rw [hshapes, hshapes]
    exact inputDeclaration_below hle r.inputNames
  refine .step rfl fun declared _ => .ite (fun _ => ?_) fun _ => .ok (hsame declared)
  exact .bind hsource fun d d' hd => .ok (.cons hd (hsame declared))

theorem network_below (hle : List.Forall₂ (List.Forall₂ (· ≤ ·)) small large) :
    Relate (fun n n' : Network => n.graph.Below n'.graph) (r.fed small).network
      (r.fed large).network := by
  have hstart : Relate (fun p p' : Graph × List Declaration =>
      p.1.Below p'.1 ∧ List.Forall₂ Declaration.Below p.2 p'.2) (r.fed small).start
      (r.fed large).start := by
    refine .step rfl fun phase _ => .step rfl fun elementSize _ => ?_
    refine .bind (declarations_below hle) fun ds ds' hds => .ok ⟨?_, hds⟩
    exact ⟨rfl, rfl, rfl, rfl, .nil, .nil⟩
  refine .bind hstart fun p p' hp => ?_
  have hphase (d d' : Declaration) (hd : d.Below d') :
      d.inPhase p.1.phase = true ↔ d'.inPhase p'.1.phase = true := by
    rw [hp.1.phase, hd.rest]
    rfl
  have hkept : List.Forall₂ Declaration.Below (p.2.filter fun d => d.inPhase p.1.phase)
      (p'.2.filter fun d => d.inPhase p'.1.phase) :=
    List.rel_filter (fun d d' hd => hphase d d' hd) hp.2
  exact .bind (Graph.extendAll_below hp.1 hkept) fun g g' hg => .ok hg

/-- Reducing the input tile reduces every blob. As long as no count of the larger network wraps
around, it also reduces every figure of the report. -/
theorem tile_monotone (hle : List.Forall₂ (List.Forall₂ (· ≤ ·)) small large) {n n' : Network}
    (hn : (r.fed small).network = .ok n) (hn' : (r.fed large).network = .ok n') :
    List.Forall₂ Blob.Below n.blobs n'.blobs ∧
    ((∀ b ∈ n'.blobs, b.exactCount < 2 ^ 63) →
      ∀ (accelerated : Value) (rep rep' : Report), n.report accelerated = .ok rep →
        n'.report accelerated = .ok rep' → rep.AtMost rep') := by
  have hg := Graph.reached_of_network hn
  have hg' := Graph.reached_of_network hn'
  have hbelow : n.graph.Below n'.graph := network_below hle n n' hn hn'
  constructor
  · rw [Network.blobs, Network.blobs, Graph.registeredBlobs, Graph.registeredBlobs,
      hbelow.registered, List.forall₂_map_left_iff, List.forall₂_map_right_iff, List.forall₂_same]
    exact fun ref _ => hbelow.blob ref
  · intro hsmall accelerated rep rep' hrep hrep'
    exact (hg.outweighed hg' hbelow hsmall).report hg hg' accelerated rep rep' hrep hrep'

theorem tile_monotone_rectified :
    List.Forall₂ (List.Forall₂ (· ≤ ·)) [[1, 2, 5, 6]] ([[2, 3, 7, 6]] : List (List Int)) ∧
    ∃ n n' rep rep', (rectified.fed [[1, 2, 5, 6]]).network = .ok n ∧
      (rectified.fed [[2, 3, 7, 6]]).network = .ok n' ∧
      (∀ b ∈ n'.blobs, b.exactCount < 2 ^ 63) ∧ n.report (.bool false) = .ok rep ∧
      n'.report (.bool false) = .ok rep' ∧ List.Forall₂ Blob.Below n.blobs n'.blobs ∧
      rep.AtMost rep' := by
  have hle : List.Forall₂ (List.Forall₂ (· ≤ ·)) [[1, 2, 5, 6]]
      ([[2, 3, 7, 6]] : List (List Int)) := by
    simp
  have hsmall : (rectified.fed [[1, 2, 5, 6]]).network.toOption.any
      (fun n => (n.report (.bool false)).toOption.isSome) = true := by decide +kernel
  have hlarge : (rectified.fed [[2, 3, 7, 6]]).network.toOption.any
      (fun n => n.blobs.all (fun b => decide (b.exactCount < 2 ^ 63)) &&
        (n.report (.bool false)).toOption.isSome) = true := by decide +kernel
  obtain ⟨n, hn, hsome⟩ := exists_of_any hsmall
  obtain ⟨n', hn', hrest⟩ := exists_of_any hlarge
  obtain ⟨hcounts, hsome'⟩ := Bool.and_eq_true_iff.mp hrest
  obtain ⟨rep, hrep⟩ := toOption_isSome_iff.mp hsome
  obtain ⟨rep', hrep'⟩ := toOption_isSome_iff.mp hsome'
  have hexact : ∀ b ∈ n'.blobs, b.exactCount < 2 ^ 63 := by simpa using hcounts
  obtain ⟨hblobs, hreports⟩ := tile_monotone hle hn hn'
  exact ⟨hle, n, n', rep, rep', hn, hn', hexact, hrep, hrep', hblobs,
    hreports hexact (.bool false) rep rep' hrep hrep'⟩

end Request

end NetFootprint
