import NetFootprint.Proofs.Report.Drawn
import NetFootprint.Proofs.Report.Shape

/-!
# Networks under other names

Names carry no information. Under other names, no two of which are confused, a network is built
exactly if it is built under the first ones. Its layers and blobs are then the same but for their
names, and so are its reports.
-/

namespace NetFootprint

/-! ## Reports -/

def Report.renamed (f : String → String) (rep : Report) : Report :=
  { rep with rows := rep.rows.map fun row => { row with name := row.name.renamed f } }

namespace Body

variable {ρ : Renaming} {body : Body} {inputs outputs : List Blob}

theorem shapes_renamed (blobs : List Blob) :
    (blobs.map (Blob.renamed ρ)).map Blob.shape = blobs.map Blob.shape := by
  rw [List.map_map]
  rfl

theorem parameterBytes_renamed :
    (body.renamed ρ).parameterBytes (inputs.map (Blob.renamed ρ)) (outputs.map (Blob.renamed ρ)) =
      body.parameterBytes inputs outputs := by
  rw [parameterBytes_of_shapes _ (shapes_renamed inputs) (shapes_renamed outputs)]
  cases body <;> rfl

theorem overheadBytes_renamed (count : Count) (accelerated : Bool) :
    (body.renamed ρ).overheadBytes count accelerated (inputs.map (Blob.renamed ρ))
      (outputs.map (Blob.renamed ρ)) = body.overheadBytes count accelerated inputs outputs := by
  rw [overheadBytes_of_shapes _ _ _ (shapes_renamed inputs) (shapes_renamed outputs)]
  cases body <;> rfl

end Body

namespace Graph

variable {g : Graph} {ρ : Renaming} {l : Layer}

theorem inputsOf_renamed :
    (g.renamed ρ).inputsOf (l.renamed ρ) = (g.inputsOf l).map (Blob.renamed ρ) :=
  inputsOf_of_blob (g.blob_renamed ρ) rfl

/-- Layers own the blobs that they owned, as their names still tell them apart. -/
theorem ownedBy_renamed :
    (g.renamed ρ).ownedBy (l.renamed ρ) = (g.ownedBy l).map (Blob.renamed ρ) := by
  have howns (b : Blob) : ((b.renamed ρ).producer == some (l.renamed ρ).producer) =
      (b.producer == some l.producer) := by
    rw [Bool.eq_iff_iff, beq_iff_eq, beq_iff_eq]
    cases hp : b.producer with
    | none => simp [Blob.renamed, hp]
    | some p =>
      obtain ⟨serial, name⟩ := p
      simp [Blob.renamed, hp, Layer.producer, Layer.name, Layer.renamed, Declaration.renamed,
        ρ.layer_injective.eq_iff]
  rw [ownedBy, outputsOf_renamed, ownedBy, List.filter_map]
  exact congrArg _ (List.filter_congr fun b _ => howns b)

theorem footprint_renamed (accelerated : Bool) :
    (g.renamed ρ).footprint accelerated (l.renamed ρ) = g.footprint accelerated l := by
  have hparameter : (g.renamed ρ).parameterBytes (l.renamed ρ) = g.parameterBytes l := by
    rw [parameterBytes, inputsOf_renamed, outputsOf_renamed]
    exact Body.parameterBytes_renamed
  have hoverhead : (g.renamed ρ).overheadBytes accelerated (l.renamed ρ) =
      g.overheadBytes accelerated l := by
    rw [overheadBytes, inputsOf_renamed, outputsOf_renamed]
    exact Body.overheadBytes_renamed _ accelerated
  have hsum (f : Blob → Except Misuse Int) (hf : ∀ b, f (b.renamed ρ) = f b) :
      Body.sumOver f ((g.renamed ρ).ownedBy (l.renamed ρ)) = Body.sumOver f (g.ownedBy l) := by
    rw [ownedBy_renamed]
    refine sumOver_eq_of_map ?_
    rw [List.map_map]
    exact List.map_congr_left fun b _ => hf b
  rw [footprint, hparameter, hoverhead, forwardBytes, backwardBytes, hsum _ fun _ => rfl,
    hsum _ fun _ => rfl]
  rfl

theorem report_renamed {f : String → String} (hf : ∀ l ∈ g.layers, ρ.layer l.name = f l.name)
    (accelerated : Value) :
    Mirrors (Report.renamed f) (g.report accelerated) ((g.renamed ρ).report accelerated) := by
  have hrow : ∀ l ∈ g.layers,
      Mirrors (fun row : Report.Row => { row with name := row.name.renamed f })
        (g.reportRow accelerated.truthy l)
        ((g.renamed ρ).reportRow accelerated.truthy (l.renamed ρ)) := by
    intro l hl
    refine .step (footprint_renamed _) fun fp _ => ?_
    rw [show (l.renamed ρ).name = f l.name from hf l hl]
    exact .ok (Report.Row.ofFootprint l.name l.tag fp)
  refine .bind (.mapM hrow) fun rows _ => ?_
  exact .ok (Report.mk accelerated (.text g.phase.name) rows)

/-! ## Graphs -/

theorem blob_relabelled (ref : Nat) : (g.relabelled ρ).blob ref = (g.blob ref).relabelled ρ := by
  simp only [blob, relabelled, List.getD_eq_getElem?_getD, List.getElem?_map]
  cases g.blobs[ref]? <;> rfl

end Graph

/-! ## Networks -/

/-- Two networks are the same but for their names: index by index their layers read and write the
same places and their blobs have the same extents, flags and ids, the same blobs are read by no
layer, and the reports give the same figures. -/
structure Network.RenamedBy (ρ : Renaming) (n n' : Network) : Prop where
  label : n'.label = n.label
  phase : n'.graph.phase = n.graph.phase
  elementSize : n'.graph.elementSize = n.graph.elementSize
  layers : n'.layers = n.layers.map (Layer.relabelled ρ)
  blob : ∀ ref, n'.graph.blob ref = (n.graph.blob ref).relabelled ρ
  registered : n'.graph.registered = n.graph.registered
  blobs : n'.blobs = n.blobs.map (Blob.relabelled ρ)
  terminal : n'.graph.terminal = n.graph.terminal
  outputs : n'.graph.outputs = n.graph.outputs.map (Blob.relabelled ρ)
  report : ∀ accelerated,
    (∃ m, n.report accelerated = .error m ∧ n'.report accelerated = .error m) ∨
    ∃ rep, n.report accelerated = .ok rep ∧
      n'.report accelerated = .ok (rep.renamed ρ.layerName)

theorem Graph.Reached.renamedBy {g : Graph} {ρ : Renaming} (hg : g.Reached)
    (hs : ∀ l ∈ g.layers, l.declaration.NamesSource)
    (h : ∀ l ∈ g.layers, l.declaration.Spared ρ) (label : Value) :
    Network.RenamedBy ρ ⟨label, g⟩ ⟨label, g.renamed ρ.sparing⟩ := by
  have hreport (accelerated : Value) := report_renamed (ρ := ρ.sparing)
    (fun l hl => Renaming.sparing_layer (h l hl).layer) accelerated
  rw [hg.sparing hs h] at hreport ⊢
  refine ⟨rfl, rfl, rfl, rfl, blob_relabelled, rfl, registeredBlobs_of_blob blob_relabelled rfl,
    rfl, outputs_of_blob blob_relabelled rfl rfl, fun accelerated => ?_⟩
  cases hrep : g.report accelerated with
  | error m => exact .inl ⟨m, hrep, (hreport accelerated).eq_error hrep⟩
  | ok rep => exact .inr ⟨rep, hrep, (hreport accelerated).eq_ok hrep⟩

/-- The list with other texts. -/
def Value.renamedAll (f : String → String) : Value → Value
  | .list items => .list (items.map (renamed f))
  | v => v

def Request.renamed (ρ : Renaming) (r : Request) : Request :=
  { r with inputNames := r.inputNames.renamedAll ρ.blob }

/-- The names of the external inputs are in a list, if there are any. -/
def Request.InputsListed (r : Request) : Prop :=
  r.inputNames.truthy = true → ∃ names, r.inputNames = .list names

/-- No declared name is confused with one that is drawn. -/
structure Renaming.Avoids (ρ : Renaming) (r : Request) (ds : List Declaration) : Prop where
  declared : ∀ d ∈ ds, ∀ name, d.Mentions name → ρ.Spares name
  offered : ∀ names, r.inputNames = .list names → ∀ name, .text name ∈ names → ρ.Spares name
  layer : ∀ d ∈ ds, d.name ≠ inputLayerName ∧ ρ.layer d.name ≠ inputLayerName

theorem Renaming.Avoids.spared {ρ : Renaming} {r : Request} {ds : List Declaration}
    (h : ρ.Avoids r ds) : ∀ d ∈ ds, d.Spared ρ := fun d hd =>
  ⟨h.declared d hd, fun _ => (h.layer d hd).2⟩

namespace Request

variable {r : Request} {ρ : Renaming} {ds : List Declaration}

/-! ## External inputs -/

theorem inputDeclaration_spared {names shapes : Value} {d : Declaration}
    (h : inputDeclaration names shapes = .ok d)
    (hnames : ∀ items, names.members = .ok items → ∀ name, .text name ∈ items → ρ.Spares name) :
    d.NamesSource ∧ d.Spared ρ := by
  simp only [inputDeclaration, bind_eq_ok, lift_eq_ok, ite_eq_ok, throw_eq_ok, pure_eq_ok,
    false_and, exists_false, and_false, false_or] at h
  obtain ⟨n, -, m, -, -, outputs, houtputs, items, -, rows, -, rfl⟩ := h
  refine ⟨fun ht => ?_, fun name hname => ?_, fun hne => absurd rfl hne⟩
  · cases ht
  · rcases hname with hin | hout | ⟨-, hparam⟩
    · cases hin
    · exact hnames outputs houtputs name hout
    · simp at hparam

theorem truthy_renamedAll (f : String → String) (v : Value) :
    (v.renamedAll f).truthy = v.truthy := by
  cases v with
  | list items => simp [Value.renamedAll, Value.truthy]
  | _ => rfl

theorem inputDeclaration_renamed {names : List Value} (shapes : Value)
    (h : ∀ name, .text name ∈ names → ρ.Spares name) :
    Parallel (Declaration.renamed ρ.sparing) (inputDeclaration (.list names) shapes)
      (inputDeclaration (.list (names.map (Value.renamed ρ.blob))) shapes) := by
  have hnames : names.map (Value.renamed ρ.blob) = names.map (Value.renamed ρ.sparing.blob) := by
    refine List.map_congr_left fun v hv => Value.renamed_congr fun s hs => ?_
    rw [hs] at hv
    exact (h s hv).sparing_blob.symm
  have hsize : (Value.list (names.map (Value.renamed ρ.blob))).size = (Value.list names).size := by
    simp [Value.size, Value.members]
  have hmembers (items : List Value) : (Value.list items).members = .ok items := rfl
  unfold inputDeclaration
  refine .step (.lift (.of_eq hsize)) fun nameCount _ => .same fun shapeCount _ => ?_
  refine .ite (fun _ => .error _ _) fun _ => ?_
  rw [hmembers, hmembers, hnames]
  refine .bind (.lift (.ok names)) fun outputs _ => .same fun items _ => .same fun rows _ => ?_
  have hdeclaration (outputs : List Value) : Declaration.renamed ρ.sparing
      ⟨LayerType.input.tag, inputLayerName, [], outputs, [("shape", .list (rows.map .list))], [],
        []⟩ =
      ⟨LayerType.input.tag, inputLayerName, [], outputs.map (Value.renamed ρ.sparing.blob),
        [("shape", .list (rows.map .list))], [], []⟩ := by
    simp [Declaration.renamed, Renaming.param, Renaming.sparing_inputLayerName]
  exact congrArg some (hdeclaration outputs).symm

theorem externals_renamed (hr : r.InputsListed)
    (h : ∀ names, r.inputNames = .list names → ∀ name, .text name ∈ names → ρ.Spares name) :
    Parallel (List.map (Declaration.renamed ρ.sparing)) r.externals (r.renamed ρ).externals := by
  unfold externals
  rw [show (r.renamed ρ).inputNames = r.inputNames.renamedAll ρ.blob from rfl, truthy_renamedAll,
    show (r.renamed ρ).inputShapes = r.inputShapes from rfl]
  refine .ite (fun ht => ?_) fun _ => .ok []
  obtain ⟨names, hlist⟩ := hr ht
  rw [hlist]
  exact .bind (inputDeclaration_renamed _ (h names hlist)) fun d _ => .ok [d]

theorem externals_spared (hr : r.InputsListed)
    (h : ∀ names, r.inputNames = .list names → ∀ name, .text name ∈ names → ρ.Spares name)
    {externals : List Declaration} (hext : r.externals = .ok externals) :
    ∀ d ∈ externals, d.NamesSource ∧ d.Spared ρ := by
  rw [Request.externals, ite_eq_ok] at hext
  rcases hext with ⟨ht, hext⟩ | ⟨-, hext⟩
  · obtain ⟨source, hsource, hone⟩ := bind_eq_ok.mp hext
    obtain rfl := pure_eq_ok.mp hone
    obtain ⟨names, hlist⟩ := hr ht
    rw [hlist] at hsource
    have hsource := inputDeclaration_spared hsource (ρ := ρ) fun items hitems => by
      obtain rfl := Except.ok.inj hitems
      exact h _ hlist
    simpa using hsource
  · obtain rfl := pure_eq_ok.mp hext
    simp

/-! ## Building -/

/-- It makes no difference to the declared layers that the drawn names are left alone. -/
theorem declared_sparing (h : ρ.Avoids r ds) :
    ds.map (Declaration.renamed ρ) = ds.map (Declaration.renamed ρ.sparing) := by
  refine List.map_congr_left fun d hd => ?_
  rw [(h.spared d hd).renamed, Renaming.layerName, if_neg (h.layer d hd).1]
  rfl

theorem declarations_renamed (hr : r.InputsListed) (h : ρ.Avoids r ds) :
    Parallel (List.map (Declaration.renamed ρ.sparing)) (r.declaring ds).declarations
      ((r.renamed ρ).declaring (ds.map (Declaration.renamed ρ))).declarations := by
  rw [declarations_declaring, declarations_declaring, declared_sparing h]
  refine .bind (externals_renamed hr h.offered) fun externals _ => ?_
  rw [← List.map_append]
  exact .ok (externals ++ ds)

theorem declarations_spared (hds : ∀ d ∈ ds, d.NamesSource) (hr : r.InputsListed)
    (h : ρ.Avoids r ds) {all : List Declaration} (hall : (r.declaring ds).declarations = .ok all) :
    ∀ d ∈ all, d.NamesSource ∧ d.Spared ρ := by
  rw [declarations_declaring] at hall
  obtain ⟨externals, hext, hrest⟩ := bind_eq_ok.mp hall
  obtain rfl := pure_eq_ok.mp hrest
  refine List.forall_mem_append.mpr ⟨externals_spared hr h.offered hext, fun d hd => ?_⟩
  exact ⟨hds d hd, h.spared d hd⟩

theorem network_parallel (hds : ∀ d ∈ ds, d.NamesSource) (hr : r.InputsListed)
    (h : ρ.Avoids r ds) :
    Parallel (fun n : Network => ⟨n.label, n.graph.renamed ρ.sparing⟩) (r.declaring ds).network
      ((r.renamed ρ).declaring (ds.map (Declaration.renamed ρ))).network := by
  -- the two runs are compared under the renaming that leaves the drawn names alone
  have hstart : Parallel
      (Prod.map (Graph.renamed ρ.sparing) (List.map (Declaration.renamed ρ.sparing)))
      (r.declaring ds).start ((r.renamed ρ).declaring (ds.map (Declaration.renamed ρ))).start := by
    refine .same fun phase _ => .same fun elementSize _ => ?_
    exact .bind (declarations_renamed hr h) fun all _ => .ok (Graph.empty phase elementSize, all)
  refine .bind hstart fun begun hbegun => ?_
  obtain ⟨g, all⟩ := begun
  have hall : (r.declaring ds).declarations = .ok all := by
    simp only [start, bind_eq_ok, lift_eq_ok, pure_eq_ok, Prod.mk.injEq] at hbegun
    obtain ⟨phase, -, elementSize, -, all, hall, -, rfl⟩ := hbegun
    exact hall
  have hkept : (all.map (Declaration.renamed ρ.sparing)).filter (fun d => d.inPhase g.phase) =
      (all.filter fun d => d.inPhase g.phase).map (Declaration.renamed ρ.sparing) := by
    rw [List.filter_map]
    rfl
  have hsources : ∀ d ∈ all.filter fun d => d.inPhase g.phase, d.NamesSource := fun d hd =>
    (declarations_spared hds hr h hall d (List.mem_filter.mp hd).1).1
  have hgraph := Graph.extendAll_renamed ρ.sparing_helperOutput hsources g
  rw [← hkept] at hgraph
  exact .bind hgraph fun g' _ => .ok (Network.mk r.label g')

/-- Names carry no information. Under other names, of which none is drawn, a network is refused
exactly if it is refused under the first ones, and else it is the same but for its names. -/
theorem network_renamed (hds : ∀ d ∈ ds, d.NamesSource) (hr : r.InputsListed)
    (h : ρ.Avoids r ds) :
    (∃ e e', (r.declaring ds).network = .error e ∧
      ((r.renamed ρ).declaring (ds.map (Declaration.renamed ρ))).network = .error e') ∨
    ∃ n n', (r.declaring ds).network = .ok n ∧
      ((r.renamed ρ).declaring (ds.map (Declaration.renamed ρ))).network = .ok n' ∧
      n.RenamedBy ρ n' := by
  have hparallel := network_parallel hds hr h
  cases hn : (r.declaring ds).network with
  | error e =>
    obtain ⟨e', he'⟩ := hparallel.exists_error hn
    exact .inl ⟨e, e', rfl, he'⟩
  | ok n =>
    refine .inr ⟨n, _, rfl, hparallel.eq_ok hn, ?_⟩
    obtain ⟨phase, elementSize, all, -, -, hall, -, hg⟩ := Graph.network_eq_ok.mp hn
    obtain ⟨hreached, hlayers⟩ := (Graph.Reached.empty phase elementSize).extendAll hg
    have hspared : ∀ l ∈ n.graph.layers,
        l.declaration.NamesSource ∧ l.declaration.Spared ρ := by
      intro l hl
      have hmem := List.mem_map_of_mem hl (f := Layer.declaration)
      rw [hlayers] at hmem
      exact declarations_spared hds hr h hall _ (List.mem_filter.mp hmem).1
    exact hreached.renamedBy (fun l hl => (hspared l hl).1) (fun l hl => (hspared l hl).2) n.label

namespace Sample

/-- Every name is put under the name of the network. -/
def inside : Renaming where
  blob s := "net/" ++ s
  layer s := "net/" ++ s
  blob_injective _ _ h := (String.append_right_inj _).mp h
  layer_injective _ _ h := (String.append_right_inj _).mp h
  blob_ne s _ h := by
    have hlength := congrArg String.length h
    rw [String.length_append] at hlength
    have hfour : "net/".length = 4 := rfl
    have hzero : "".length = 0 := rfl
    omega

/-- It brings what the convolution made back to the extents of the input. -/
def warp : Declaration :=
  { Session.plainLayer "ApplyDeformation" "warp" ["a"] "w" with
    params := [("output_shape_from", .text "data")] }

theorem namesSource : ∀ d ∈ [conv, relu, warp], d.NamesSource := by
  simp [Declaration.NamesSource, conv, relu, warp, Session.plainLayer, Declaration.param,
    Value.truthy, List.lookup_cons]

theorem inside_spares : ∀ name ∈ ["data", "a", "w"], inside.Spares name := by
  simp [Renaming.Spares, inside, helperOutput]

theorem inside_avoids : inside.Avoids (request []) [conv, relu, warp] where
  declared d hd name hname := by
    refine inside_spares name ?_
    have hnames : ∀ d ∈ [conv, relu, warp], ∀ name, d.Mentions name →
        name ∈ ["data", "a", "w"] := by
      simp +contextual [Declaration.Mentions, conv, relu, warp, Session.plainLayer]
    exact hnames d hd name hname
  offered names hnames name hname := by
    obtain rfl := Value.list.inj hnames
    exact inside_spares name (by simp_all)
  layer := by
    simp [conv, relu, warp, Session.plainLayer, inside, inputLayerName]

end Sample

open Sample

theorem network_renamed_inside : ∃ n n', (request [conv, relu, warp]).network = .ok n ∧
    (((request []).renamed inside).declaring
      ([conv, relu, warp].map (Declaration.renamed inside))).network = .ok n' ∧
    n.RenamedBy inside n' := by
  have hlisted : (request []).InputsListed := fun _ => ⟨_, rfl⟩
  have hrun : (request [conv, relu, warp]).network.toOption.isSome = true := by decide +kernel
  obtain ⟨n, hn⟩ := toOption_isSome_iff.mp hrun
  rcases network_renamed namesSource hlisted inside_avoids with ⟨e, e', he, -⟩ | hrenamed
  · cases he.symm.trans hn
  · exact hrenamed

end Request

end NetFootprint
