import NetFootprint.Proofs.Graph.Swap
import NetFootprint.Proofs.Report.Reorder

/-!
# Memory in another order

Two networks that have the same blobs and layers by name take the same memory if the same blobs are
on the device: layer by layer, and in total, as a sum does not depend on the order of its terms.
When two independent neighbours change places, this is the case exactly if nothing is disputed in
the end.
-/

namespace NetFootprint

theorem Blob.Twin.bytes {b b' : Blob} (h : b.Twin b') (hres : b'.resident = b.resident) :
    b'.forwardBytes = b.forwardBytes ∧ b'.backwardBytes = b.backwardBytes := by
  obtain ⟨producer, resident, id, rfl⟩ := h.eq
  obtain rfl : resident = b.resident := hres
  exact ⟨rfl, rfl⟩

theorem sumOver_eq_of_map {f : Blob → Except Misuse Int} {blobs blobs' : List Blob}
    (h : blobs'.map f = blobs.map f) : Body.sumOver f blobs' = Body.sumOver f blobs := by
  have hmap (bs : List Blob) : Body.sumOver f bs =
      (bs.map f).foldlM (fun total figure => do return total + (← figure)) 0 := by
    rw [List.foldlM_map]
    rfl
  rw [hmap, hmap, h]

namespace Graph

variable {g g' : Graph} {l l' : Layer} {b : Blob} {phase : Phase}
  {elementSize : Option (List Float)} {ds ds' : List Declaration}

/-- The bytes for the values and the gradients of what the layer with a name made. -/
def bytes (g : Graph) (name : String) : Option (Except Misuse Int × Except Misuse Int) :=
  (g.findLayer? name).map fun l => (g.forwardBytes l, g.backwardBytes l)

/-! ## Layer by layer -/

theorem Built.residency_output (h : Built phase elementSize ds g) (hl : l ∈ g.layers)
    (hb : b ∈ g.outputsOf l) :
    ∃ name, b.name = .text name ∧ g.residency name = some b.resident := by
  obtain ⟨ref, href, rfl⟩ := List.mem_map.mp hb
  have hmem := h.reached.output_registered hl href
  obtain ⟨name, hname⟩ := h.orderly.text ref (h.orderly.placed ref hmem)
  exact ⟨name, hname, residency_of_find? (h.orderly.find?_iff.mpr ⟨hmem, hname⟩)⟩

theorem Built.maker_iff (h : Built phase elementSize ds g) (hl : l ∈ g.layers)
    (hb : b ∈ g.outputsOf l) :
    b.producer = some l.producer ↔ b.producer.map Producer.name = some l.name := by
  obtain ⟨ref, href, rfl⟩ := List.mem_map.mp hb
  constructor
  · intro hown
    rw [hown]
    rfl
  · intro hname
    obtain ⟨m, hm, hown⟩ := h.reached.exists_owner (h.reached.output_registered hl href)
    rw [(mem_ownedRefs.mp hown).2] at hname ⊢
    rw [List.inj_on_of_nodup_map h.orderly.layers hm hl (Option.some.inj hname)]

/-- Twins own the same blobs, and where the same blobs are on the device, so are these. -/
theorem Twins.owned (h : g.Twins g' l l') (hg : Built phase elementSize ds g)
    (hg' : Built phase elementSize ds' g') (hl : l ∈ g.layers) (hl' : l' ∈ g'.layers)
    (hres : g'.residency = g.residency) :
    List.Forall₂ (fun b b' => b.Twin b' ∧ b'.resident = b.resident) (g.ownedBy l)
      (g'.ownedBy l') := by
  have hname : l'.name = l.name := congrArg Declaration.name h.declaration
  -- the names of the makers tell the layers apart for outputs of the two layers only
  have hmade : ∀ b b', (b ∈ g.outputsOf l ∧ b' ∈ g'.outputsOf l' ∧ b.Twin b') →
      ((b.producer == some l.producer) = true ↔ (b'.producer == some l'.producer) = true) := by
    rintro b b' ⟨hb, hb', htwin⟩
    rw [beq_iff_eq, beq_iff_eq, hg.maker_iff hl hb, hg'.maker_iff hl' hb', htwin.maker, hname]
  apply (List.rel_filter (fun b b' hb => hmade b b' hb) (rel_mem h.outputs)).imp
  rintro b b' ⟨hb, hb', htwin⟩
  obtain ⟨name, hbname, hbres⟩ := hg.residency_output hl hb
  obtain ⟨name', hbname', hbres'⟩ := hg'.residency_output hl' hb'
  rw [htwin.same Blob.name, hbname] at hbname'
  obtain rfl := Value.text.inj hbname'
  rw [hres, hbres] at hbres'
  exact ⟨htwin, (Option.some.inj hbres').symm⟩

theorem bytes_of_owned (h : List.Forall₂ (fun b b' => b.Twin b' ∧ b'.resident = b.resident)
    (g.ownedBy l) (g'.ownedBy l')) :
    g'.forwardBytes l' = g.forwardBytes l ∧ g'.backwardBytes l' = g.backwardBytes l := by
  have hmaps {f : Blob → Except Misuse Int}
      (hf : ∀ b b' : Blob, b.Twin b' → b'.resident = b.resident → f b' = f b) :
      (g'.ownedBy l').map f = (g.ownedBy l).map f := by
    rw [← List.forall₂_eq_eq_eq, List.forall₂_map_left_iff, List.forall₂_map_right_iff]
    exact h.flip.imp fun b' b hb => hf b b' hb.1 hb.2
  constructor
  · exact sumOver_eq_of_map (hmaps fun b b' hb hsame => (hb.bytes hsame).1)
  · exact sumOver_eq_of_map (hmaps fun b b' hb hsame => (hb.bytes hsame).2)

theorem Twins.bytes (h : g.Twins g' l l') (hg : Built phase elementSize ds g)
    (hg' : Built phase elementSize ds' g') (hl : l ∈ g.layers) (hl' : l' ∈ g'.layers)
    (hres : g'.residency = g.residency) :
    g'.forwardBytes l' = g.forwardBytes l ∧ g'.backwardBytes l' = g.backwardBytes l :=
  bytes_of_owned (h.owned hg hg' hl hl' hres)

theorem Reordered.bytes (h : g.Reordered g') (hg : Built phase elementSize ds g)
    (hg' : Built phase elementSize ds' g') (hres : g'.residency = g.residency) (name : String) :
    g'.bytes name = g.bytes name := by
  apply h.map_layer name
  intro l hl l' hl' htwins
  obtain ⟨hforward, hbackward⟩ := htwins.bytes hg hg' hl hl' hres
  rw [hforward, hbackward]

/-! ## In total -/

def footprintOf (g : Graph) (accelerated : Bool) (name : String) : Except Misuse Footprint :=
  ((g.findLayer? name).map (g.footprint accelerated)).getD (.error .absent)

theorem Built.footprints (h : Built phase elementSize ds g) (accelerated : Bool) :
    g.layers.mapM (g.footprint accelerated) =
      (ds.map Declaration.name).mapM (g.footprintOf accelerated) := by
  have hnames : ds.map Declaration.name = g.layers.map Layer.name := by
    rw [← h.layers, List.map_map]
    rfl
  rw [hnames, List.mapM_map]
  apply mapM_congr
  intro l hl
  rw [Function.comp_apply, footprintOf, (findLayer?_iff h.orderly.layers).mpr ⟨hl, rfl⟩]
  rfl

theorem Reordered.footprintOf (h : g.Reordered g') (hg : Built phase elementSize ds g)
    (hg' : Built phase elementSize ds' g') (hres : g'.residency = g.residency)
    (accelerated : Bool) : g'.footprintOf accelerated = g.footprintOf accelerated := by
  funext name
  rw [Graph.footprintOf, Graph.footprintOf, h.map_layer name]
  intro l hl l' hl' htwins
  obtain ⟨hforward, hbackward⟩ := htwins.bytes hg hg' hl hl' hres
  rw [Graph.footprint, htwins.parameterBytes, htwins.overheadBytes, hforward, hbackward,
    Graph.footprint]

/-- Wherever all layers have their figures, these are the rows of the report. -/
theorem exists_report {acc : Value} {entries : List (Layer × Footprint)}
    (h : g.Figures acc.truthy entries) : ∃ rep, g.report acc = .ok rep ∧
      rep.rows = entries.map fun e => .ofFootprint e.1.name e.1.tag e.2 := by
  have hrows : g.layers.mapM (g.reportRow acc.truthy) =
      .ok (entries.map fun e => .ofFootprint e.1.name e.1.tag e.2) := by
    rw [mapM_eq_ok, ← h.layers, List.forall₂_map_left_iff, List.forall₂_map_right_iff,
      List.forall₂_same]
    intro e he
    rw [reportRow, h.footprints e he]
    rfl
  exact ⟨_, by rw [report, hrows]; rfl, rfl⟩

end Graph

theorem Network.memoryTotal_eq_ok {n : Network} {acc : Value} {total : Amount} :
    n.memoryTotal acc = .ok total ↔ ∃ footprints,
      n.layers.mapM (n.graph.footprint acc.truthy) = .ok footprints ∧
        total = .whole (footprints.map Footprint.total).sum := by
  have htotal {rep : Report} {entries : List (Layer × Footprint)}
      (h : rep.rows = entries.map fun e => .ofFootprint e.1.name e.1.tag e.2) :
      rep.total = .ok (.whole ((entries.map Prod.snd).map Footprint.total).sum) := by
    have hrows : rep.rows = (entries.map fun e => (e.1.name, e.1.tag, e.2)).map
        fun e => .ofFootprint e.1 e.2.1 e.2.2 := by
      rw [h, List.map_map]
      rfl
    rw [Report.total_of_footprints hrows, List.map_map, List.map_map]
    rfl
  rw [memoryTotal, bind_eq_ok]
  constructor
  · rintro ⟨rep, hrep, hrest⟩
    obtain ⟨entries, hfigures, hrows⟩ := Graph.report_eq_ok hrep
    rw [htotal hrows] at hrest
    refine ⟨entries.map Prod.snd, ?_, (Except.ok.inj hrest).symm⟩
    rw [layers, mapM_eq_ok, ← hfigures.layers, List.forall₂_map_left_iff,
      List.forall₂_map_right_iff, List.forall₂_same]
    exact hfigures.footprints
  · rintro ⟨footprints, hfootprints, rfl⟩
    rw [layers, mapM_eq_ok] at hfootprints
    have hfigures : n.graph.Figures acc.truthy (n.graph.layers.zip footprints) := by
      constructor
      · exact List.map_fst_zip (Nat.le_of_eq hfootprints.length_eq)
      · intro e he
        exact List.forall₂_zip hfootprints he
    obtain ⟨rep, hrep, hrows⟩ := Graph.exists_report hfigures
    refine ⟨rep, hrep, ?_⟩
    rw [htotal hrows, List.map_snd_zip (Nat.le_of_eq hfootprints.length_eq.symm)]

/-- Two networks take the same memory: the same blobs are on the device, each layer takes the same
bytes for what it made, and the totals are the same. -/
structure Network.SameMemory (n n' : Network) : Prop where
  resident : ∀ name, n'.graph.residency name = n.graph.residency name
  layers : ∀ name, n'.graph.bytes name = n.graph.bytes name
  total : ∀ accelerated total,
    n.memoryTotal accelerated = .ok total ↔ n'.memoryTotal accelerated = .ok total

namespace Graph

variable {n n' : Network} {phase : Phase} {elementSize : Option (List Float)}
  {ds ds' : List Declaration}

theorem Built.memoryTotal_perm (h : Built phase elementSize ds n.graph)
    (h' : Built phase elementSize ds' n'.graph) (hperm : ds.Perm ds')
    (hsame : ∀ accelerated, n'.graph.footprintOf accelerated = n.graph.footprintOf accelerated)
    {acc : Value} {total : Amount} (htotal : n.memoryTotal acc = .ok total) :
    n'.memoryTotal acc = .ok total := by
  obtain ⟨footprints, hfootprints, rfl⟩ := Network.memoryTotal_eq_ok.mp htotal
  rw [Network.layers, h.footprints, ← hsame] at hfootprints
  obtain ⟨footprints', hfootprints', hmoved⟩ := mapM_perm (hperm.map _) hfootprints
  refine Network.memoryTotal_eq_ok.mpr ⟨footprints', ?_, ?_⟩
  · rw [Network.layers, h'.footprints, hfootprints']
  · rw [(hmoved.map Footprint.total).sum_eq]

theorem Reordered.sameMemory_iff (h : n.graph.Reordered n'.graph)
    (hg : Built phase elementSize ds n.graph) (hg' : Built phase elementSize ds' n'.graph)
    (hperm : ds.Perm ds') : n.SameMemory n' ↔ n'.graph.residency = n.graph.residency := by
  constructor
  · intro hsame
    funext name
    exact hsame.resident name
  · intro hres
    have hfootprints := h.footprintOf hg hg' hres
    constructor
    · exact congrFun hres
    · exact h.bytes hg hg' hres
    · intro acc total
      constructor
      · exact hg.memoryTotal_perm hg' hperm hfootprints
      · exact hg'.memoryTotal_perm hg hperm.symm fun accelerated => (hfootprints accelerated).symm

end Graph

namespace Request

variable {r : Request} {first rest : List Declaration} {a b : Declaration} {n : Network}

def declaring (r : Request) (ds : List Declaration) : Request :=
  { r with layers := .declarations ds }

/-- Two independent neighbours may change places: the network is built with the same sizes. It takes
the same memory exactly if nothing that the two dispute is disputed by the end. What they dispute
depends on what is on the device just before them. -/
theorem network_swapped_iff (hds : r.layers.read = .ok (first ++ a :: b :: rest))
    (hphase : ∀ p, Phase.ofValue r.phase = .ok p →
      ∀ d ∈ first ++ a :: b :: rest, d.inPhase p = true)
    (hnamed : ∀ all, r.declarations = .ok all → ∀ d ∈ all, d.Named) (hind : a.Independent b)
    (hn : r.network = .ok n) :
    ∃ before n', (r.declaring first).network = .ok before ∧
      (r.declaring (first ++ b :: a :: rest)).network = .ok n' ∧ n.SameSizes n' ∧
      (n.SameMemory n' ↔ rest.foldl Declaration.stillDisputed
        (Declaration.dispute a b before.graph.residency) = []) := by
  obtain ⟨phase, elementSize, externals, hstarts⟩ := exists_starts hn
  have hin := hphase phase hstarts.phase
  have hperm : (first ++ a :: b :: rest).Perm (first ++ b :: a :: rest) :=
    (List.Perm.swap b a rest).append_left first
  have hin' : ∀ d ∈ first ++ b :: a :: rest, d.inPhase phase = true := fun d hd =>
    hin d (hperm.mem_iff.mpr hd)
  have hfirst : ∀ d ∈ first, d.inPhase phase = true := fun d hd =>
    hin d (List.mem_append_left _ hd)
  have hall := hnamed _ (hstarts.declared r.layers _ hds)
  obtain ⟨-, hg⟩ := (hstarts.network_iff hds hin).mp hn
  rw [← List.append_assoc] at hg hall
  obtain ⟨before, g', hbefore, hg', hbuilt, hbuilt', hreordered, hdiffer⟩ :=
    Graph.extendAll_swapped hall hind hg
  rw [List.append_assoc] at hg'
  have hnetwork : (r.declaring first).network = .ok ⟨r.label, before⟩ :=
    (hstarts.network_iff rfl hfirst).mpr ⟨rfl, hbefore⟩
  have hnetwork' : (r.declaring (first ++ b :: a :: rest)).network = .ok ⟨r.label, g'⟩ :=
    (hstarts.network_iff rfl hin').mpr ⟨rfl, hg'⟩
  refine ⟨_, _, hnetwork, hnetwork', hreordered.sameSizes, ?_⟩
  rw [hdiffer.nil_iff]
  apply hreordered.sameMemory_iff hbuilt hbuilt'
  exact (List.Perm.swap b a rest).append_left (externals ++ first)

namespace Sample

/-- It hands on what the input has, which the pooling layer reads on the device. -/
def scale : Declaration := Session.plainLayer "ValueTransformation" "scale" ["data"] "scaled"

def softmax : Declaration := Session.plainLayer "Softmax" "softmax" ["scaled"] "p"

theorem independent : scale.Independent pool where
  left := by simp [Declaration.Refers, scale, pool, Session.plainLayer, LayerType.tag]
  right := by simp [Declaration.Refers, scale, pool, Session.plainLayer, LayerType.tag]
  apart := by simp [scale, pool, Session.plainLayer]

theorem named_scaled : ∀ d ∈ [source, scale, pool, softmax], d.Named := by
  simp [Declaration.Named, source, scale, pool, softmax, Session.plainLayer, helperOutput]

end Sample

open Sample

/-- The softmax reads the disputed blob on the device, so in the end nothing is disputed. -/
theorem network_swapped_softmax : ∃ n before n',
    (request [scale, pool, softmax]).network = .ok n ∧ (request []).network = .ok before ∧
      (request [pool, scale, softmax]).network = .ok n' ∧ n.SameSizes n' ∧
      (n.SameMemory n' ↔ [softmax].foldl Declaration.stillDisputed
        (Declaration.dispute scale pool before.graph.residency) = []) := by
  have hrun : (request [scale, pool, softmax]).network.toOption.isSome = true := by decide +kernel
  obtain ⟨n, hn⟩ := toOption_isSome_iff.mp hrun
  have hds : (request [scale, pool, softmax]).layers.read =
      .ok ([] ++ scale :: pool :: [softmax]) := rfl
  have hphase : ∀ p, Phase.ofValue (request [scale, pool, softmax]).phase = .ok p →
      ∀ d ∈ [] ++ scale :: pool :: [softmax], d.inPhase p = true := by
    intro p _
    rw [← List.all_eq_true]
    rfl
  have hnamed : ∀ all, (request [scale, pool, softmax]).declarations = .ok all →
      ∀ d ∈ all, d.Named := by
    intro all hall
    obtain rfl := eq_of_ok hall (declarations_request _)
    exact named_scaled
  obtain ⟨before, n', hbefore, hn', hsizes, hmemory⟩ :=
    network_swapped_iff hds hphase hnamed independent hn
  exact ⟨n, before, n', hn, hbefore, hn', hsizes, hmemory⟩

/-- Without the softmax the layer on values takes memory in one order only. -/
theorem not_sameMemory_scaled : ∃ n n',
    (request [scale, pool]).network = .ok n ∧ (request [pool, scale]).network = .ok n' ∧
      (∀ d ∈ [scale, pool], d.inPhase .test = true) ∧ scale.Independent pool ∧
      n.graph.residency "scaled" = some false ∧ n'.graph.residency "scaled" = some true ∧
      ¬n.SameMemory n' := by
  have hrun : (request [scale, pool]).network.toOption.any
      (fun n => n.graph.residency "scaled" == some false) = true := by decide +kernel
  have hrun' : (request [pool, scale]).network.toOption.any
      (fun n => n.graph.residency "scaled" == some true) = true := by decide +kernel
  obtain ⟨n, hn, hoff⟩ := exists_of_any hrun
  obtain ⟨n', hn', hon⟩ := exists_of_any hrun'
  rw [beq_iff_eq] at hoff hon
  refine ⟨n, n', hn, hn', ?_, independent, hoff, hon, ?_⟩
  · rw [← List.all_eq_true]
    rfl
  · intro hsame
    have hequal := hsame.resident "scaled"
    rw [hoff, hon] at hequal
    cases hequal

end Request

end NetFootprint
