import NetFootprint.Proofs.Graph.Residency
import NetFootprint.Proofs.Graph.Untrained
import NetFootprint.Proofs.Report.Balance
import NetFootprint.Proofs.Report.Shape

/-!
# Training and testing

A network without restrictions to phases is built for testing exactly if it is built for training,
and the two differ in the gradients alone: those of the network for testing are all missing and take
no memory, and everything else is the same. The formulas of the report look at no gradient but the
bytes for gradients, and those are there whenever the bytes for values are.
-/

namespace NetFootprint

/-! ## Formulas -/

namespace Body

theorem sumOver_untrained (f : Blob → Except Misuse Int) (blobs : List Blob) :
    sumOver f (blobs.map Blob.untrained) = sumOver (fun b => f b.untrained) blobs := by
  rw [sumOver, List.foldlM_map, sumOver]

theorem shapes_untrained (blobs : List Blob) :
    (blobs.map Blob.untrained).map Blob.shape = blobs.map Blob.shape := by
  rw [List.map_map]
  rfl

end Body

namespace Graph

variable {g : Graph} {l : Layer}

theorem ownedBy_untrained : g.untrained.ownedBy l = (g.ownedBy l).map Blob.untrained := by
  rw [ownedBy, outputsOf_of_blob g.blob_untrained rfl, ownedBy, List.filter_map]
  rfl

theorem forwardBytes_untrained : g.untrained.forwardBytes l = g.forwardBytes l := by
  rw [forwardBytes, ownedBy_untrained, Body.sumOver_untrained]
  rfl

theorem backwardBytes_untrained : g.untrained.backwardBytes l = .ok 0 := by
  have hnone : (fun b : Blob => b.untrained.backwardBytes) = fun _ => .ok 0 := by
    funext b
    rw [Blob.backwardBytes, show (b.untrained.resident && b.untrained.gradient) = false from
      Bool.and_false _]
    rfl
  rw [backwardBytes, ownedBy_untrained, Body.sumOver_untrained, hnone]
  refine sumOver_eq_ok.mpr ⟨(g.ownedBy l).map fun _ => 0, ?_, ?_⟩
  · exact mapM_eq_ok.mpr (List.forall₂_map_right_iff.mpr (List.forall₂_same.mpr fun b _ => rfl))
  · rw [List.map_const', List.sum_replicate, nsmul_zero]

theorem Reached.backwardBytes_defined (h : g.Reached) (hl : l ∈ g.layers) {forward : Int}
    (hforward : g.forwardBytes l = .ok forward) : ∃ n, g.backwardBytes l = .ok n := by
  obtain ⟨values, hvalues, -⟩ := sumOver_eq_ok.mp hforward
  have hall := exists_mapM_eq_ok.mp ⟨values, hvalues⟩
  have hgradients : ∀ b ∈ g.ownedBy l, ∃ n, b.backwardBytes = .ok n := by
    intro b hb
    have hmem : b ∈ g.registeredBlobs := by
      rw [← h.flatMap_ownedBy]
      exact List.mem_flatMap.mpr ⟨l, hl, hb⟩
    obtain ⟨ref, href, rfl⟩ := List.mem_map.mp hmem
    have haccounted := h.accounted ref href
    cases hg : (g.blob ref).gradient with
    | false => exact ⟨0, by rw [Blob.backwardBytes, hg, Bool.and_false]; rfl⟩
    | true =>
      obtain ⟨n, hn⟩ := hall _ hb
      rw [Blob.forwardBytes, haccounted.gradient hg, haccounted.forward] at hn
      exact ⟨n, by rw [Blob.backwardBytes, haccounted.gradient hg, hg]; exact hn⟩
  obtain ⟨gradients, hg⟩ := exists_mapM_eq_ok.mpr hgradients
  exact ⟨gradients.sum, sumOver_eq_ok.mpr ⟨gradients, hg, rfl⟩⟩

end Graph

/-! ## Rows -/

def Report.Row.untrained (row : Report.Row) : Report.Row := { row with backward := .int 0 }

def Report.untrained (rep : Report) : Report :=
  { rep with phase := .text Phase.test.name, rows := rep.rows.map Report.Row.untrained }

namespace Graph

variable {g : Graph} {l : Layer}

theorem Reached.reportRow_untrained (h : g.Reached) (hl : l ∈ g.layers) (accelerated : Bool) :
    Mirrors Report.Row.untrained (g.reportRow accelerated l)
      (g.untrained.reportRow accelerated l) := by
  have hparameter : g.untrained.parameterBytes l = g.parameterBytes l := by
    rw [parameterBytes, inputsOf_of_blob g.blob_untrained rfl,
      outputsOf_of_blob g.blob_untrained rfl]
    exact l.body.parameterBytes_of_shapes (Body.shapes_untrained _) (Body.shapes_untrained _)
  have hoverhead : g.untrained.overheadBytes accelerated l = g.overheadBytes accelerated l := by
    rw [overheadBytes, inputsOf_of_blob g.blob_untrained rfl,
      outputsOf_of_blob g.blob_untrained rfl]
    exact Body.overheadBytes_of_shapes _ accelerated l.body (Body.shapes_untrained _)
      (Body.shapes_untrained _)
  have hfootprint : Mirrors (fun fp : Footprint => { fp with backward := 0 })
      (g.footprint accelerated l) (g.untrained.footprint accelerated l) := by
    refine .step hparameter fun parameter _ => .step hoverhead fun overhead _ => ?_
    refine .step forwardBytes_untrained fun forward hforward => ?_
    obtain ⟨backward, hbackward⟩ := h.backwardBytes_defined hl hforward
    rw [hbackward, backwardBytes_untrained]
    exact .ok (Footprint.mk parameter overhead forward backward)
  exact .bind hfootprint fun fp _ => .ok (Report.Row.ofFootprint l.name l.tag fp)

theorem Reached.report_untrained (h : g.Reached) (accelerated : Value) :
    Mirrors Report.untrained (g.report accelerated) (g.untrained.report accelerated) := by
  refine .bind (.mapM_same fun l hl => h.reportRow_untrained hl _) fun rows _ => ?_
  exact .ok (Report.mk accelerated (.text g.phase.name) rows)

end Graph

/-! ## Networks -/

/-- The request for a network of a phase. -/
def Request.forPhase (r : Request) (p : Phase) : Request := { r with phase := .text p.name }

theorem Phase.ofValue_name (p : Phase) : Phase.ofValue (.text p.name) = .ok p := by
  rw [Phase.ofValue, Value.plain, Phase.ofWord?_name]

/-- A network for testing is one for training without its gradients: the layers, the blobs with
their names, extents, element sizes and ids, what is on the device and what no layer reads are the
same, no blob has a gradient, and every report is the same but for its last column, which is
zero. -/
structure Network.SameButGradients (train test : Network) : Prop where
  layers : test.layers = train.layers
  blob : ∀ ref, test.graph.blob ref = { train.graph.blob ref with gradient := false }
  registered : test.graph.registered = train.graph.registered
  blobs : test.blobs = train.blobs.map fun b => { b with gradient := false }
  outputs : test.graph.outputs = train.graph.outputs.map fun b => { b with gradient := false }
  report : ∀ accelerated,
    (∃ m, train.report accelerated = .error m ∧ test.report accelerated = .error m) ∨
    ∃ rep rep', train.report accelerated = .ok rep ∧ test.report accelerated = .ok rep' ∧
      rep'.rows = rep.rows.map fun row => { row with backward := .int 0 }

namespace Graph

variable {g : Graph}

theorem Reached.sameButGradients (h : g.Reached) (label : Value) :
    Network.SameButGradients ⟨label, g⟩ ⟨label, g.untrained⟩ where
  layers := rfl
  blob := g.blob_untrained
  registered := rfl
  blobs := registeredBlobs_of_blob g.blob_untrained rfl
  outputs := outputs_of_blob g.blob_untrained rfl rfl
  report := by
    intro accelerated
    have hreport := h.report_untrained accelerated
    cases hrep : g.report accelerated with
    | error m => exact .inl ⟨m, hrep, hreport.eq_error hrep⟩
    | ok rep => exact .inr ⟨rep, rep.untrained, hrep, hreport.eq_ok hrep, rfl⟩

end Graph

theorem filter_inPhase {ds : List Declaration}
    (h : ∀ d ∈ ds, d.included = [] ∧ d.excluded = []) (p : Phase) :
    ds.filter (fun d => d.inPhase p) = ds := by
  refine List.filter_eq_self.mpr fun d hd => ?_
  obtain ⟨hin, hex⟩ := h d hd
  rw [Declaration.inPhase, hin, hex]
  rfl

theorem unrestricted_of_inputDeclaration {names shapes : Value} {d : Declaration}
    (h : inputDeclaration names shapes = .ok d) : d.included = [] ∧ d.excluded = [] := by
  simp only [inputDeclaration, bind_eq_ok, lift_eq_ok, ite_eq_ok, throw_eq_ok, pure_eq_ok,
    false_and, exists_false, and_false, false_or] at h
  obtain ⟨n, -, m, -, -, outputs, -, items, -, rows, -, rfl⟩ := h
  exact ⟨rfl, rfl⟩

namespace Request

variable {r : Request}

/-- The declarations of the external inputs: a source, or none. -/
def externals (r : Request) : Except Failure (List Declaration) :=
  if r.inputNames.truthy then do
    let shapes := if r.inputShapes.truthy then r.inputShapes else .list []
    return [← inputDeclaration r.inputNames shapes]
  else return []

theorem declarations_eq (r : Request) : r.declarations = do
    let ds ← r.layers.read
    return (← r.externals) ++ ds := by
  rw [declarations, externals]
  cases r.layers.read with
  | error e => rfl
  | ok ds =>
    by_cases hnames : r.inputNames.truthy = true
    · simp only [ok_bind, if_pos hnames]
      generalize inputDeclaration r.inputNames _ = source
      cases source with
      | error e => rfl
      | ok source => rfl
    · simp only [ok_bind, if_neg hnames]
      rfl

theorem unrestricted_of_externals {externals : List Declaration}
    (h : r.externals = .ok externals) : ∀ d ∈ externals, d.included = [] ∧ d.excluded = [] := by
  rw [Request.externals, ite_eq_ok] at h
  rcases h with ⟨-, h⟩ | ⟨-, h⟩
  · obtain ⟨source, hsource, hone⟩ := bind_eq_ok.mp h
    obtain rfl := pure_eq_ok.mp hone
    simpa using unrestricted_of_inputDeclaration hsource
  · obtain rfl := pure_eq_ok.mp h
    simp

/-- The declarations of the layers follow that of the external inputs, whichever layers they are.
The source of the external inputs names no phases. -/
theorem exists_externals {all : List Declaration} (h : r.declarations = .ok all) :
    ∃ externals ds, r.layers.read = .ok ds ∧ all = externals ++ ds ∧
      (∀ d ∈ externals, d.included = [] ∧ d.excluded = []) ∧
      ∀ (layers : Layers) (ds : List Declaration), layers.read = .ok ds →
        ({ r with layers } : Request).declarations = .ok (externals ++ ds) := by
  rw [declarations_eq] at h
  obtain ⟨ds, hread, hrest⟩ := bind_eq_ok.mp h
  obtain ⟨externals, hext, hall⟩ := bind_eq_ok.mp hrest
  obtain rfl := pure_eq_ok.mp hall
  refine ⟨externals, ds, hread, rfl, unrestricted_of_externals hext, fun layers ds' hds => ?_⟩
  rw [declarations_eq]
  exact bind_eq_ok.mpr ⟨ds', hds, bind_eq_ok.mpr ⟨externals, hext, rfl⟩⟩

theorem unrestricted_declarations
    (h : ∀ ds, r.layers.read = .ok ds → ∀ d ∈ ds, d.included = [] ∧ d.excluded = [])
    {ds : List Declaration} (hds : r.declarations = .ok ds) :
    ∀ d ∈ ds, d.included = [] ∧ d.excluded = [] := by
  obtain ⟨externals, declared, hread, rfl, hfree, -⟩ := exists_externals hds
  exact List.forall_mem_append.mpr ⟨hfree, h declared hread⟩

theorem network_forPhase (r : Request) (p : Phase) : (r.forPhase p).network = do
    let elementSize ← (r.elementSizes : Except Misuse (Option (List Float)))
    let ds ← r.declarations
    let g ← (Graph.empty p elementSize).extendAll (ds.filter (fun d => d.inPhase p))
    return ⟨r.label, g⟩ := by
  have hphase : Phase.ofValue (r.forPhase p).phase = .ok p := Phase.ofValue_name p
  rw [network, start, hphase]
  rw [show (r.forPhase p).elementSizes = r.elementSizes from rfl,
    show (r.forPhase p).declarations = r.declarations from rfl]
  cases r.elementSizes with
  | error m => rfl
  | ok elementSize =>
    cases r.declarations with
    | error e => rfl
    | ok ds => rfl

theorem network_untrained
    (h : ∀ ds, r.layers.read = .ok ds → ∀ d ∈ ds, d.included = [] ∧ d.excluded = []) :
    Mirrors (fun n : Network => ⟨n.label, n.graph.untrained⟩) (r.forPhase .train).network
      (r.forPhase .test).network := by
  rw [network_forPhase, network_forPhase]
  refine .step rfl fun elementSize _ => .step rfl fun ds hds => ?_
  have hall := unrestricted_declarations h hds
  rw [filter_inPhase hall, filter_inPhase hall]
  exact .bind ((Graph.empty .train elementSize).extendAll_untrained ds) fun g _ =>
    .ok (Network.mk r.label g)

/-- Declarations that name no phases are refused in both phases for the same reason, or give two
networks that differ in their gradients alone. -/
theorem network_phases
    (h : ∀ ds, r.layers.read = .ok ds → ∀ d ∈ ds, d.included = [] ∧ d.excluded = []) :
    (∃ e, (r.forPhase .train).network = .error e ∧ (r.forPhase .test).network = .error e) ∨
    ∃ train test, (r.forPhase .train).network = .ok train ∧
      (r.forPhase .test).network = .ok test ∧ train.SameButGradients test := by
  have hmirrors := network_untrained h
  cases hn : (r.forPhase .train).network with
  | error e => exact .inl ⟨e, rfl, hmirrors.eq_error hn⟩
  | ok train =>
    refine .inr ⟨train, _, rfl, hmirrors.eq_ok hn, ?_⟩
    exact (Graph.reached_of_network hn).sameButGradients train.label

theorem network_phases_rectified :
    (∀ ds, rectified.layers.read = .ok ds → ∀ d ∈ ds, d.included = [] ∧ d.excluded = []) ∧
    ((∃ e, (rectified.forPhase .train).network = .error e ∧
        (rectified.forPhase .test).network = .error e) ∨
      ∃ train test, (rectified.forPhase .train).network = .ok train ∧
        (rectified.forPhase .test).network = .ok test ∧ train.SameButGradients test) := by
  have hread : rectified.layers.read.toOption.any
      (fun ds => ds.all fun d => d.included.isEmpty && d.excluded.isEmpty) = true := by
    decide +kernel
  have h : ∀ ds, rectified.layers.read = .ok ds →
      ∀ d ∈ ds, d.included = [] ∧ d.excluded = [] := by
    intro ds hds d hd
    obtain ⟨ds', hds', hall⟩ := exists_of_any hread
    obtain rfl := eq_of_ok hds' hds
    simpa using List.all_eq_true.mp hall d hd
  exact ⟨h, network_phases h⟩

end Request

end NetFootprint
