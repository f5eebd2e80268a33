import NetFootprint.Proofs.Graph.Reorder
import NetFootprint.Proofs.Report.Phase
import NetFootprint.Proofs.Report.Shape

/-!
# Sizes and costs in another order

The declarations of a request may be put into any order in which each of them comes after the makers
of the blobs to which it refers. The network is built as before, its blobs have the same extents,
element sizes and gradients under their names, and its layers need the same parameters and the same
overhead. What is on the device may differ.
-/

namespace NetFootprint

namespace Graph

variable {g g' : Graph} {l l' : Layer}

/-- The extents, the element size and the gradient flag of the blob with a name. -/
def sizes (g : Graph) (name : Value) : Option (List Nat × List Float × Bool) :=
  (g.find? name).map fun ref =>
    ((g.blob ref).shape, (g.blob ref).elementSize, (g.blob ref).gradient)

/-- The bytes for the parameters and the overhead of the layer with a name, as far as they can be
computed. -/
def costs (g : Graph) (accelerated : Bool) (name : String) :
    Option (Except Misuse Int × Except Misuse Int) :=
  (g.findLayer? name).map fun l => (g.parameterBytes l, g.overheadBytes accelerated l)

theorem shapes_of_twins {blobs blobs' : List Blob} (h : List.Forall₂ Blob.Twin blobs blobs') :
    blobs'.map Blob.shape = blobs.map Blob.shape := by
  rw [← List.forall₂_eq_eq_eq, List.forall₂_map_left_iff, List.forall₂_map_right_iff]
  exact h.flip.imp fun _ _ hb => hb.same Blob.shape

theorem Twins.inputs (h : g.Twins g' l l') :
    List.Forall₂ Blob.Twin (g.inputsOf l) (g'.inputsOf l') :=
  List.rel_filterMap (fun _ _ hslot => hslot) h.slots

theorem Twins.parameterBytes (h : g.Twins g' l l') :
    g'.parameterBytes l' = g.parameterBytes l := by
  rw [Graph.parameterBytes, h.body,
    Body.parameterBytes_of_shapes l.body (shapes_of_twins h.inputs) (shapes_of_twins h.outputs),
    Graph.parameterBytes]

theorem Twins.overheadBytes (h : g.Twins g' l l') (accelerated : Bool) :
    g'.overheadBytes accelerated l' = g.overheadBytes accelerated l := by
  rw [Graph.overheadBytes, h.body,
    Body.overheadBytes_of_shapes _ accelerated l.body (shapes_of_twins h.inputs)
      (shapes_of_twins h.outputs), Graph.overheadBytes]

theorem Reordered.map_layer (h : g.Reordered g') {α : Type} {f f' : Layer → α} (name : String)
    (hf : ∀ l ∈ g.layers, ∀ l' ∈ g'.layers, g.Twins g' l l' → f' l' = f l) :
    (g'.findLayer? name).map f' = (g.findLayer? name).map f := by
  have hrel := h.layers name
  have hmem (l : Layer) : g.findLayer? name = some l → l ∈ g.layers := List.mem_of_find?_eq_some
  have hmem' (l : Layer) : g'.findLayer? name = some l → l ∈ g'.layers :=
    List.mem_of_find?_eq_some
  generalize g.findLayer? name = found at hrel hmem
  generalize g'.findLayer? name = found' at hrel hmem'
  cases hrel with
  | none => rfl
  | some htwins => exact congrArg some (hf _ (hmem _ rfl) _ (hmem' _ rfl) htwins)

end Graph

/-- Two networks have the same blobs and layers by name, apart from what is on the device. -/
structure Network.SameSizes (n n' : Network) : Prop where
  blobs : ∀ name, n'.graph.sizes name = n.graph.sizes name
  layers : ∀ accelerated name, n'.graph.costs accelerated name = n.graph.costs accelerated name

theorem Graph.Reordered.sameSizes {n n' : Network} (h : n.graph.Reordered n'.graph) :
    n.SameSizes n' where
  blobs := by
    intro name
    have hrel := h.blobs name
    rw [Graph.sizes, Graph.sizes]
    generalize n.graph.find? name = found at hrel
    generalize n'.graph.find? name = found' at hrel
    cases hrel with
    | none => rfl
    | some htwin =>
      simp only [Option.map_some, htwin.same Blob.shape, htwin.same Blob.elementSize,
        htwin.same Blob.gradient]
  layers accelerated name := h.map_layer name fun l _ l' _ htwins => by
    rw [htwins.parameterBytes, htwins.overheadBytes]

namespace Request

variable {r : Request} {layers layers' : Layers} {ds ds' : List Declaration} {n : Network}
  {phase : Phase} {elementSize : Option (List Float)} {externals : List Declaration}

/-- What the network of a request starts from, whatever its layers are. -/
structure Starts (r : Request) (phase : Phase) (elementSize : Option (List Float))
    (externals : List Declaration) : Prop where
  phase : Phase.ofValue r.phase = .ok phase
  size : r.elementSizes = .ok elementSize
  declared : ∀ (layers : Layers) (ds : List Declaration), layers.read = .ok ds →
    ({ r with layers } : Request).declarations = .ok (externals ++ ds)
  unrestricted : ∀ d ∈ externals, d.included = [] ∧ d.excluded = []

theorem exists_starts (h : r.network = .ok n) :
    ∃ phase elementSize externals, r.Starts phase elementSize externals := by
  obtain ⟨phase, elementSize, all, hphase, hsize, hall, -, -⟩ := Graph.network_eq_ok.mp h
  obtain ⟨externals, -, -, -, hfree, hdeclared⟩ := exists_externals hall
  exact ⟨phase, elementSize, externals, hphase, hsize, hdeclared, hfree⟩

/-- If all layers are in the phase, all of them are built. -/
theorem Starts.network_iff (h : r.Starts phase elementSize externals)
    (hds : layers.read = .ok ds) (hphase : ∀ d ∈ ds, d.inPhase phase = true) :
    ({ r with layers } : Request).network = .ok n ↔ n.label = r.label ∧
      (Graph.empty phase elementSize).extendAll (externals ++ ds) = .ok n.graph := by
  have hall := h.declared layers ds hds
  have hkept : (externals ++ ds).filter (fun d => d.inPhase phase) = externals ++ ds := by
    rw [List.filter_append, filter_inPhase h.unrestricted, List.filter_eq_self.mpr hphase]
  rw [Graph.network_eq_ok]
  constructor
  · rintro ⟨phase', elementSize', all, hphase', hsize, hall', hlabel, hg⟩
    obtain rfl := eq_of_ok h.phase hphase'
    obtain rfl := eq_of_ok h.size hsize
    obtain rfl := eq_of_ok hall hall'
    rw [hkept] at hg
    exact ⟨hlabel, hg⟩
  · rintro ⟨hlabel, hg⟩
    exact ⟨phase, elementSize, _, h.phase, h.size, hall, hlabel, by rwa [hkept]⟩

/-- If all its layers are in the phase, a network is built from any order of the layers in which
each comes after the makers of the blobs to which it refers. Under their names its blobs have the
same extents, element sizes and gradients, and its layers the same parameters and overhead. -/
theorem network_reordered (hds : r.layers.read = .ok ds) (hds' : layers'.read = .ok ds')
    (hperm : ds.Perm ds')
    (hphase : ∀ p, Phase.ofValue r.phase = .ok p → ∀ d ∈ ds, d.inPhase p = true)
    (hnamed : ∀ all, r.declarations = .ok all → ∀ d ∈ all, d.Named)
    (hvisible : ∀ all, ({ r with layers := layers' } : Request).declarations = .ok all →
      Visible all)
    (hn : r.network = .ok n) :
    ∃ n', ({ r with layers := layers' } : Request).network = .ok n' ∧ n.SameSizes n' := by
  obtain ⟨phase, elementSize, externals, hstarts⟩ := exists_starts hn
  have hin := hphase phase hstarts.phase
  have hin' : ∀ d ∈ ds', d.inPhase phase = true := fun d hd => hin d (hperm.mem_iff.mpr hd)
  obtain ⟨-, hg⟩ := (hstarts.network_iff hds hin).mp hn
  obtain ⟨g', hg', -, -, hreordered⟩ := Graph.extendAll_reordered
    (hnamed _ (hstarts.declared r.layers ds hds)) (hperm.append_left externals)
    (hvisible _ (hstarts.declared layers' ds' hds')) hg
  have hn' := (hstarts.network_iff (n := ⟨r.label, g'⟩) hds' hin').mpr ⟨rfl, hg'⟩
  exact ⟨_, hn', hreordered.sameSizes⟩

/-! ## Layers on a single input -/

namespace Sample

def request (ds : List Declaration) : Request where
  layers := .declarations ds
  phase := .text "test"
  inputNames := .list [.text "data"]
  inputShapes := .list [.list [.int 1, .int 2, .int 5, .int 6]]
  elementSize := .null
  label := .null

def source : Declaration :=
  { Session.plainLayer "Input" inputLayerName [] "data" with
    params := [("shape", .list [.list [.int 1, .int 2, .int 5, .int 6]])] }

theorem declarations_request (ds : List Declaration) :
    (request ds).declarations = .ok (source :: ds) :=
  rfl

def conv : Declaration :=
  { Session.plainLayer "Convolution" "conv" ["data"] "a" with
    params := [("num_output", .int 8), ("kernel_size", .int 3)] }

/-- It works in place on what the convolution made. -/
def relu : Declaration := Session.plainLayer "ReLU" "relu" ["a"] "a"

def pool : Declaration :=
  { Session.plainLayer "Pooling" "pool" ["data"] "b" with params := [("kernel_size", .int 3)] }

def join : Declaration := Session.plainLayer "Concat" "join" ["a", "b"] "y"

theorem named : ∀ d ∈ [source, conv, relu, pool, join], d.Named := by
  simp [Declaration.Named, source, conv, relu, pool, join, Session.plainLayer, helperOutput]

theorem visible : Visible ([] ++ [source] ++ [pool] ++ [conv] ++ [relu] ++ [join]) := by
  simp only [visible_snoc_iff, visible_nil, true_and]
  simp [Declaration.Refers, source, pool, conv, relu, join, Session.plainLayer, LayerType.tag]

end Sample

open Sample

/-- The pooling layer may be moved before the other branch of the join. -/
theorem network_reordered_branches : ∃ n n', (request [conv, relu, pool, join]).network = .ok n ∧
    (request [pool, conv, relu, join]).network = .ok n' ∧ n.SameSizes n' := by
  have hrun : (request [conv, relu, pool, join]).network.toOption.isSome = true := by
    decide +kernel
  obtain ⟨n, hn⟩ := toOption_isSome_iff.mp hrun
  have hperm : ([conv, relu] ++ pool :: [join]).Perm (pool :: ([conv, relu] ++ [join])) :=
    List.perm_middle
  have hphase : ∀ p, Phase.ofValue (request [conv, relu, pool, join]).phase = .ok p →
      ∀ d ∈ [conv, relu, pool, join], d.inPhase p = true := by
    intro p _
    rw [← List.all_eq_true]
    rfl
  have hnamed : ∀ ds, (request [conv, relu, pool, join]).declarations = .ok ds →
      ∀ d ∈ ds, d.Named := by
    intro ds hds
    obtain rfl := eq_of_ok hds (declarations_request _)
    exact named
  have hvisible : ∀ ds, (request [pool, conv, relu, join]).declarations = .ok ds →
      Visible ds := by
    intro ds hds
    obtain rfl := eq_of_ok hds (declarations_request _)
    exact visible
  obtain ⟨n', hn', hsame⟩ := network_reordered rfl rfl hperm hphase hnamed hvisible hn
  exact ⟨n, n', hn, hn', hsame⟩

end Request

end NetFootprint
