import NetFootprint.Proofs.Graph.Ownership
import NetFootprint.Proofs.Report.Sum

/-!
# The report adds up

The rows of a report charge each blob to the layer that made it. As the layers' own blobs are the
registered blobs, one after the other, the totals over the rows are the sums over the blobs, however
many layers read a blob or write it in place.
-/

namespace NetFootprint

namespace Graph

variable {g : Graph} {l : Layer} {accelerated : Bool} {fp : Footprint}

theorem footprint_eq_ok :
    g.footprint accelerated l = .ok fp ↔
      g.parameterBytes l = .ok fp.parameter ∧ g.overheadBytes accelerated l = .ok fp.overhead ∧
        g.forwardBytes l = .ok fp.forward ∧ g.backwardBytes l = .ok fp.backward := by
  simp only [footprint, bind_eq_ok, pure_eq_ok]
  constructor
  · rintro ⟨parameter, hp, overhead, ho, forward, hf, backward, hb, rfl⟩
    exact ⟨hp, ho, hf, hb⟩
  · rintro ⟨hp, ho, hf, hb⟩
    exact ⟨_, hp, _, ho, _, hf, _, hb, rfl⟩

theorem consumption_of_footprint (h : g.footprint accelerated l = .ok fp) :
    g.consumption accelerated l = .ok (fp.parameter + fp.overhead) := by
  obtain ⟨hp, ho, -, -⟩ := footprint_eq_ok.mp h
  simp only [consumption, bind_eq_ok, pure_eq_ok]
  exact ⟨_, hp, _, ho, rfl⟩

theorem Reached.flatMap_ownedBy (h : g.Reached) :
    g.layers.flatMap g.ownedBy = g.registeredBlobs := by
  have hown : g.ownedBy = fun l => (g.ownedRefs l).map g.blob := by
    funext l
    exact g.ownedBy_eq l
  rw [registeredBlobs, ← h.flatMap_ownedRefs, List.map_flatMap, hown]

/-- Layers beside their figures. -/
structure Figures (g : Graph) (accelerated : Bool) (entries : List (Layer × Footprint)) :
    Prop where
  layers : entries.map Prod.fst = g.layers
  footprints : ∀ e ∈ entries, g.footprint accelerated e.1 = .ok e.2

variable {entries : List (Layer × Footprint)}

theorem Figures.mapM (h : g.Figures accelerated entries) {f : Layer → Except Misuse Int}
    {part : Footprint → Int}
    (hpart : ∀ l fp, g.footprint accelerated l = .ok fp → f l = .ok (part fp)) :
    g.layers.mapM f = .ok (entries.map (fun e => part e.2)) := by
  rw [mapM_eq_ok, ← h.layers, List.forall₂_map_left_iff, List.forall₂_map_right_iff,
    List.forall₂_same]
  intro e he
  exact hpart e.1 e.2 (h.footprints e he)

/-- A figure that is summed up over the layers' own blobs is summed up over all blobs. -/
theorem Figures.sum_owned (h : g.Figures accelerated entries) (hg : g.Reached)
    {f : Blob → Except Misuse Int} (part : Footprint → Int)
    (hpart : ∀ l fp, g.footprint accelerated l = .ok fp →
      Body.sumOver f (g.ownedBy l) = .ok (part fp)) :
    ∃ values, g.registeredBlobs.mapM f = .ok values ∧
      values.sum = (entries.map (fun e => part e.2)).sum := by
  rw [← hg.flatMap_ownedBy]
  exact sumOver_flatMap (mapM_eq_ok.mp (h.mapM hpart))

theorem rows_of_footprints {layers : List Layer} {rows : List Report.Row}
    (h : List.Forall₂ (fun l row => g.reportRow accelerated l = .ok row) layers rows) :
    ∃ entries : List (Layer × Footprint), entries.map Prod.fst = layers ∧
      (∀ e ∈ entries, g.footprint accelerated e.1 = .ok e.2) ∧
      rows = entries.map (fun e => .ofFootprint e.1.name e.1.tag e.2) := by
  induction h with
  | nil => exact ⟨[], rfl, by simp, rfl⟩
  | @cons l row layers rows hrow _ ih =>
    simp only [reportRow, bind_eq_ok, pure_eq_ok] at hrow
    obtain ⟨fp, hfp, rfl⟩ := hrow
    obtain ⟨entries, hlayers, hfps, rfl⟩ := ih
    refine ⟨(l, fp) :: entries, ?_, ?_, rfl⟩
    · rw [List.map_cons, hlayers]
    · simpa only [List.forall_mem_cons] using ⟨hfp, hfps⟩

theorem report_eq_ok {acc : Value} {rep : Report} (h : g.report acc = .ok rep) :
    ∃ entries, g.Figures acc.truthy entries ∧
      rep.rows = entries.map (fun e => .ofFootprint e.1.name e.1.tag e.2) := by
  simp only [report, bind_eq_ok, pure_eq_ok] at h
  obtain ⟨rows, hrows, rfl⟩ := h
  obtain ⟨entries, hlayers, hfps, hrest⟩ := rows_of_footprints (mapM_eq_ok.mp hrows)
  exact ⟨entries, ⟨hlayers, hfps⟩, hrest⟩

end Graph

/-- A report is in order with its network: it has one row for each layer, and its figures add up,
blob by blob as well as row by row. -/
structure Report.Balances (rep : Report) (n : Network) (accelerated : Bool) : Prop where
  names : rep.rows.map Row.name = n.layers.map (fun l => .text l.name)
  distinct : (n.layers.map Layer.name).Nodup
  forward : ∃ values, n.blobs.mapM Blob.forwardBytes = .ok values ∧
    rep.forward = .ok (.whole values.sum)
  backward : ∃ values, n.blobs.mapM Blob.backwardBytes = .ok values ∧
    rep.backward = .ok (.whole values.sum)
  total : ∃ consumed forward backward,
    n.layers.mapM (n.graph.consumption accelerated) = .ok consumed ∧
    n.blobs.mapM Blob.forwardBytes = .ok forward ∧
    n.blobs.mapM Blob.backwardBytes = .ok backward ∧
    rep.total = .ok (.whole (consumed.sum + forward.sum + backward.sum))
  rows : ∃ totals : List Int, rep.rows.mapM Row.total = .ok (totals.map .whole) ∧
    rep.total = .ok (.whole totals.sum)

namespace Graph

variable {g : Graph}

theorem sum_totals (entries : List (Layer × Footprint)) :
    (entries.map (fun e => e.2.total)).sum =
      (entries.map (fun e => e.2.parameter + e.2.overhead)).sum +
        (entries.map (fun e => e.2.forward)).sum + (entries.map (fun e => e.2.backward)).sum := by
  rw [← List.sum_map_add, ← List.sum_map_add]
  rfl

theorem Reached.balances (h : g.Reached) {label acc : Value} {rep : Report}
    (hr : g.report acc = .ok rep) : rep.Balances ⟨label, g⟩ acc.truthy := by
  obtain ⟨entries, hfigures, hrows⟩ := report_eq_ok hr
  have hcolumn {figure : Report.Row → Value} {part : Footprint → Int}
      (hfig : ∀ name type fp, figure (.ofFootprint name type fp) = .int (part fp)) :
      rep.column figure = .ok (.whole (entries.map (fun e => part e.2)).sum) := by
    apply Report.column_of_whole
    simp [hrows, hfig]
  have htotal : rep.total = .ok (.whole (entries.map (fun e => e.2.total)).sum) := by
    have hentries : rep.rows = (entries.map (fun e => (e.1.name, e.1.tag, e.2))).map
        (fun e => .ofFootprint e.1 e.2.1 e.2.2) := by
      rw [hrows, List.map_map]
      rfl
    rw [Report.total_of_footprints hentries, List.map_map]
    rfl
  obtain ⟨forward, hforward, hfsum⟩ := hfigures.sum_owned h Footprint.forward
    fun l fp hfp => (footprint_eq_ok.mp hfp).2.2.1
  obtain ⟨backward, hbackward, hbsum⟩ := hfigures.sum_owned h Footprint.backward
    fun l fp hfp => (footprint_eq_ok.mp hfp).2.2.2
  constructor
  · rw [hrows, Network.layers, ← hfigures.layers, List.map_map, List.map_map]
    rfl
  · exact h.names
  · refine ⟨forward, hforward, ?_⟩
    rw [hfsum]
    exact hcolumn fun _ _ _ => rfl
  · refine ⟨backward, hbackward, ?_⟩
    rw [hbsum]
    exact hcolumn fun _ _ _ => rfl
  · refine ⟨_, forward, backward, hfigures.mapM fun l fp hfp => consumption_of_footprint hfp,
      hforward, hbackward, ?_⟩
    rw [htotal, sum_totals, hfsum, hbsum]
  · refine ⟨entries.map (fun e => e.2.total), ?_, htotal⟩
    rw [mapM_eq_ok, hrows, List.map_map, List.forall₂_map_left_iff, List.forall₂_map_right_iff,
      List.forall₂_same]
    intro e _
    exact Report.Row.total_ofFootprint _ _ _

end Graph

/-- Whenever a network that was built has a report, the report adds up. -/
theorem Network.report_balances {r : Request} {n : Network} (h : r.network = .ok n)
    {accelerated : Value} {rep : Report} (hr : n.report accelerated = .ok rep) :
    rep.Balances n accelerated.truthy :=
  (Graph.reached_of_network h).balances hr

/-- A convolution, and a ReLU that works in place on what it made. -/
def rectified : Request where
  layers := .records (.list
    [.object [("type", .text "Convolution"), ("name", .text "conv"),
      ("inputs", .list [.text "data"]), ("outputs", .list [.text "feature"]),
      ("params", .object [("num_output", .int 8), ("kernel_size", .int 3)])],
     .object [("type", .text "ReLU"), ("name", .text "relu"),
      ("inputs", .list [.text "feature"]), ("outputs", .list [.text "feature"])]])
  phase := .text "train"
  inputNames := .list [.text "data"]
  inputShapes := .list [.list [.int 1, .int 2, .int 5, .int 6]]
  elementSize := .null
  label := .null

theorem report_balances_rectified :
    ∃ n rep, rectified.network = .ok n ∧ n.report (.bool true) = .ok rep ∧
      rep.Balances n true := by
  have hrun : rectified.network.toOption.any
      (fun n => (n.report (.bool true)).toOption.isSome) = true := by decide +kernel
  obtain ⟨n, hn, hsome⟩ := exists_of_any hrun
  obtain ⟨rep, hrep⟩ := toOption_isSome_iff.mp hsome
  exact ⟨n, rep, hn, hrep, Network.report_balances hn hrep⟩

end NetFootprint
