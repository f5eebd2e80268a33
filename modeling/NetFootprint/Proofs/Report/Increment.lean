import Mathlib.Data.List.Dedup
import NetFootprint.Proofs.Graph.Accept
import NetFootprint.Proofs.Report.Nonneg
import NetFootprint.Proofs.Report.Swap

/-!
# What one more layer costs

A layer that is created by name leaves the parameters and the overhead of all earlier layers as they
are. It may put some of its inputs on the device, and each of them is charged to the layer that made
it from then on. So the total grows by what the new layer takes itself, and by the bytes of the
inputs that it put on the device. Where no count wraps around, none of this is negative.
-/

namespace NetFootprint

theorem mapM_append_eq_ok {ε α β : Type} {f : α → Except ε β} {xs ys : List α} {values : List β} :
    (xs ++ ys).mapM f = .ok values ↔
      ∃ as bs, xs.mapM f = .ok as ∧ ys.mapM f = .ok bs ∧ values = as ++ bs := by
  simp only [List.mapM_append, bind_eq_ok, pure_eq_ok, eq_comm (a := values)]
  constructor
  · rintro ⟨as, has, bs, hbs, hvalues⟩
    exact ⟨as, bs, has, hbs, hvalues⟩
  · rintro ⟨as, bs, has, hbs, hvalues⟩
    exact ⟨as, has, bs, hbs, hvalues⟩

/-! ## What a blob takes -/

theorem Blob.bytes_of_twin {b b' : Blob} (h : b.Twin b') (hres : b'.resident = b.resident) :
    b'.bytes = b.bytes := by
  obtain ⟨hforward, hbackward⟩ := h.bytes hres
  rw [bytes, hforward, hbackward, bytes]

theorem Blob.bytes_of_not_resident {b : Blob} (h : b.resident = false) : b.bytes = .ok 0 := by
  rw [bytes, forwardBytes, backwardBytes, h]
  rfl

theorem Blob.exists_of_bytes {b : Blob} {n : Int} (h : b.bytes = .ok n) :
    (∃ forward, b.forwardBytes = .ok forward) ∧ ∃ backward, b.backwardBytes = .ok backward := by
  obtain ⟨forward, hforward, h⟩ := bind_eq_ok.mp h
  obtain ⟨backward, hbackward, -⟩ := bind_eq_ok.mp h
  exact ⟨⟨forward, hforward⟩, backward, hbackward⟩

theorem mapM_bytes {blobs : List Blob} {forward backward : List Int}
    (hforward : blobs.mapM Blob.forwardBytes = .ok forward)
    (hbackward : blobs.mapM Blob.backwardBytes = .ok backward) :
    ∃ values, blobs.mapM Blob.bytes = .ok values ∧ values.sum = forward.sum + backward.sum := by
  rw [mapM_eq_ok] at hforward hbackward
  induction hforward generalizing backward with
  | nil =>
    cases hbackward
    exact ⟨[], rfl, rfl⟩
  | @cons b f blobs forward hf _ ih =>
    cases hbackward with
    | @cons _ k _ backward hk hrest =>
      obtain ⟨values, hvalues, hsum⟩ := ih hrest
      have hb : b.bytes = .ok (f + k) := by
        rw [Blob.bytes, hf, ok_bind, hk]
        rfl
      refine ⟨(f + k) :: values, mapM_eq_ok.mpr (.cons hb (mapM_eq_ok.mp hvalues)), ?_⟩
      rw [List.sum_cons, List.sum_cons, List.sum_cons, hsum]
      omega

namespace Graph

variable {g g' : Graph} {l : Layer} {draft : Draft} {ref : Nat} {acc : Value} {rep rep' : Report}

def bytesAt (g : Graph) (ref : Nat) : Except Misuse Int := (g.blob ref).bytes

/-- The places of the different inputs of a layer that it put on the device and did not make. -/
def raised (g g' : Graph) (l : Layer) : List Nat :=
  (l.inputs.filterMap id).dedup.filter fun ref =>
    !(g.blob ref).resident && (g'.blob ref).resident && !(g'.ownedRefs l).contains ref

/-! ## Old and new blobs -/

theorem Adds.registered_owned (h : g.Adds l draft g') (hg : g.Reached) :
    g'.registered = g.registered ++ g'.ownedRefs l := by
  have hold : g.layers.flatMap g'.ownedRefs = g.layers.flatMap g.ownedRefs := by
    apply List.flatMap_congr
    intro l₀ hl₀
    exact h.extends.ownedRefs fun ref href => hg.lt_of_mem hl₀ href
  rw [← (Reached.add hg h).flatMap_ownedRefs, h.layers, List.flatMap_append,
    List.flatMap_singleton, hold, hg.flatMap_ownedRefs]

theorem Adds.not_owned (h : g.Adds l draft g') (hg : g.Reached) (href : ref ∈ g.registered) :
    ref ∉ g'.ownedRefs l := by
  have hnodup : (g.registered ++ g'.ownedRefs l).Nodup := by
    rw [← h.registered_owned hg, (Reached.add hg h).registered]
    exact List.nodup_range
  exact fun hown => (List.nodup_append.mp hnodup).2.2 ref href ref hown rfl

theorem Adds.mem_raised (h : g.Adds l draft g') (hg : g.Reached) :
    ref ∈ g.raised g' l ↔ ref ∈ g.registered ∧ (g.blob ref).resident = false ∧
      (g'.blob ref).resident = true := by
  have hinput : ref ∈ l.inputs.filterMap id ↔ some ref ∈ l.inputs := by simp
  simp only [raised, List.mem_filter, List.mem_dedup, hinput, Bool.and_eq_true, Bool.not_eq_true',
    List.contains_eq_mem, decide_eq_false_iff_not]
  constructor
  · rintro ⟨hin, ⟨hoff, hon⟩, -⟩
    obtain ⟨r, hsome, hr⟩ := h.inputs_registered hin
    obtain rfl := Option.some.inj hsome
    exact ⟨hr, hoff, hon⟩
  · rintro ⟨href, hoff, hon⟩
    refine ⟨?_, ⟨hoff, hon⟩, h.not_owned hg href⟩
    rcases (h.resident_old_iff (hg.mem_registered.mp href)).mp hon with hold | ⟨-, hin⟩
    · rw [hoff] at hold
      cases hold
    · exact hin

theorem Adds.raised_perm (h : g.Adds l draft g') (hg : g.Reached) :
    (g.registered.filter fun ref => !(g.blob ref).resident && (g'.blob ref).resident).Perm
      (g.raised g' l) := by
  have hnodup : g.registered.Nodup := by
    rw [hg.registered]
    exact List.nodup_range
  have hraised : (g.raised g' l).Nodup := (List.nodup_dedup _).filter _
  refine (List.perm_ext_iff_of_nodup (hnodup.filter _) hraised).mpr fun ref => ?_
  rw [h.mem_raised hg]
  simp

/-- What old blobs take after a layer was added is what they took before it, and what those take that
it put on the device. -/
theorem Adds.sum_old (h : g.Adds l draft g') {refs : List Nat}
    (hrefs : ∀ ref ∈ refs, ref < g.blobs.length) {values' : List Int}
    (hvalues' : refs.mapM g'.bytesAt = .ok values') :
    ∃ values more, refs.mapM g.bytesAt = .ok values ∧
      (refs.filter fun ref => !(g.blob ref).resident && (g'.blob ref).resident).mapM g'.bytesAt =
        .ok more ∧ values'.sum = values.sum + more.sum := by
  induction refs generalizing values' with
  | nil =>
    obtain rfl := pure_eq_ok.mp hvalues'
    exact ⟨[], [], rfl, rfl, rfl⟩
  | cons ref rest ih =>
    obtain ⟨hlt, hrest⟩ := List.forall_mem_cons.mp hrefs
    cases mapM_eq_ok.mp hvalues' with
    | @cons _ n _ values' hn hmany =>
      obtain ⟨values, more, hvalues, hmore, hsum⟩ := ih hrest (mapM_eq_ok.mpr hmany)
      by_cases hraised : (!(g.blob ref).resident && (g'.blob ref).resident) = true
      · have hoff : (g.blob ref).resident = false := by
          rw [Bool.and_eq_true, Bool.not_eq_true'] at hraised
          exact hraised.1
        have hzero : g.bytesAt ref = .ok 0 := Blob.bytes_of_not_resident hoff
        refine ⟨0 :: values, n :: more, mapM_eq_ok.mpr (.cons hzero (mapM_eq_ok.mp hvalues)), ?_, ?_⟩
        · rw [List.filter_cons_of_pos (by exact hraised)]
          exact mapM_eq_ok.mpr (.cons hn (mapM_eq_ok.mp hmore))
        · rw [List.sum_cons, List.sum_cons, List.sum_cons, hsum]
          omega
      · have hsame : (g'.blob ref).resident = (g.blob ref).resident := by
          have hup := (h.resident_old_iff hlt).mpr
          cases hold : (g.blob ref).resident with
          | true => exact hup (.inl hold)
          | false => simpa [hold] using hraised
        have hkept : g.bytesAt ref = .ok n := by
          rw [bytesAt, ← Blob.bytes_of_twin (.of_fixed (h.fixed ref hlt)) hsame]
          exact hn
        refine ⟨n :: values, more, mapM_eq_ok.mpr (.cons hkept (mapM_eq_ok.mp hvalues)), ?_, ?_⟩
        · rw [List.filter_cons_of_neg (by exact hraised)]
          exact hmore
        · rw [List.sum_cons, List.sum_cons, hsum]
          omega

/-- What all blobs take is what they took, what those take that the layer put on the device, and what
those take that it made. -/
theorem Adds.sum_bytes (h : g.Adds l draft g') (hg : g.Reached) {values' : List Int}
    (hvalues' : g'.registered.mapM g'.bytesAt = .ok values') :
    ∃ values own more, g.registered.mapM g.bytesAt = .ok values ∧
      (g'.ownedRefs l).mapM g'.bytesAt = .ok own ∧ (g.raised g' l).mapM g'.bytesAt = .ok more ∧
      values'.sum = values.sum + own.sum + more.sum := by
  rw [h.registered_owned hg, mapM_append_eq_ok] at hvalues'
  obtain ⟨old, own, hold, hown, rfl⟩ := hvalues'
  obtain ⟨values, more, hvalues, hmore, hsum⟩ := h.sum_old (fun ref => hg.mem_registered.mp) hold
  obtain ⟨more', hmore', hperm⟩ := mapM_perm (h.raised_perm hg) hmore
  refine ⟨values, own, more', hvalues, hown, hmore', ?_⟩
  rw [List.sum_append, hsum, hperm.sum_eq]
  omega

/-! ## Rows -/

theorem exists_report_iff : (∃ rep, g.report acc = .ok rep) ↔
    ∀ l ∈ g.layers, ∃ fp, g.footprint acc.truthy l = .ok fp := by
  constructor
  · rintro ⟨rep, hrep⟩ l hl
    obtain ⟨entries, hfigures, -⟩ := report_eq_ok hrep
    rw [← hfigures.layers] at hl
    obtain ⟨e, he, rfl⟩ := List.mem_map.mp hl
    exact ⟨e.2, hfigures.footprints e he⟩
  · intro h
    obtain ⟨rows, hrows⟩ : ∃ rows, g.layers.mapM (g.reportRow acc.truthy) = .ok rows := by
      refine exists_mapM_eq_ok.mpr fun l hl => ?_
      obtain ⟨fp, hfp⟩ := h l hl
      exact ⟨_, by rw [reportRow, hfp]; rfl⟩
    exact ⟨_, by rw [report, hrows]; rfl⟩

/-- The total is what the layers take besides their blobs, and what the blobs take. -/
theorem Reached.total_eq (h : g.Reached) (hr : g.report acc = .ok rep) :
    ∃ consumed values, g.layers.mapM (g.consumption acc.truthy) = .ok consumed ∧
      g.registered.mapM g.bytesAt = .ok values ∧
      rep.total = .ok (.whole (consumed.sum + values.sum)) := by
  have hbalances : rep.Balances ⟨.null, g⟩ acc.truthy := h.balances hr
  obtain ⟨consumed, forward, backward, hconsumed, hforward, hbackward, htotal⟩ := hbalances.total
  obtain ⟨values, hvalues, hsum⟩ := mapM_bytes hforward hbackward
  rw [Network.blobs, registeredBlobs, List.mapM_map] at hvalues
  refine ⟨consumed, values, hconsumed, hvalues, ?_⟩
  rw [htotal, hsum, Int.add_assoc]

theorem sum_ownedRefs {accelerated : Bool} {fp : Footprint}
    (hfp : g.footprint accelerated l = .ok fp) :
    ∃ values, (g.ownedRefs l).mapM g.bytesAt = .ok values ∧
      values.sum = fp.forward + fp.backward := by
  obtain ⟨-, -, hforward, hbackward⟩ := footprint_eq_ok.mp hfp
  obtain ⟨forward, hforward, hf⟩ := sumOver_eq_ok.mp hforward
  obtain ⟨backward, hbackward, hb⟩ := sumOver_eq_ok.mp hbackward
  obtain ⟨values, hvalues, hsum⟩ := mapM_bytes hforward hbackward
  rw [ownedBy_eq, List.mapM_map] at hvalues
  exact ⟨values, hvalues, by rw [hsum, hf, hb]⟩

theorem exists_footprint {accelerated : Bool} {parameter overhead : Int}
    (hbytes : ∀ ref ∈ g.ownedRefs l, ∃ n, g.bytesAt ref = .ok n)
    (hparameter : g.parameterBytes l = .ok parameter)
    (hoverhead : g.overheadBytes accelerated l = .ok overhead) :
    ∃ fp, g.footprint accelerated l = .ok fp := by
  have hown : ∀ b ∈ g.ownedBy l, ∃ n, b.bytes = .ok n := by
    rw [ownedBy_eq]
    intro b hb
    obtain ⟨ref, href, rfl⟩ := List.mem_map.mp hb
    exact hbytes ref href
  obtain ⟨forward, hforward⟩ := Body.sumOver_defined fun b hb => by
    obtain ⟨n, hn⟩ := hown b hb
    exact (Blob.exists_of_bytes hn).1
  obtain ⟨backward, hbackward⟩ := Body.sumOver_defined fun b hb => by
    obtain ⟨n, hn⟩ := hown b hb
    exact (Blob.exists_of_bytes hn).2
  exact ⟨⟨parameter, overhead, forward, backward⟩,
    footprint_eq_ok.mpr ⟨hparameter, hoverhead, hforward, hbackward⟩⟩

end Graph

/-- Two rows of a layer, with the same parameters and the same overhead. -/
structure Report.Row.SameNeeds (row row' : Report.Row) : Prop where
  name : row'.name = row.name
  type : row'.type = row.type
  parameter : row'.parameter = row.parameter
  overhead : row'.overhead = row.overhead

/-- The report after a layer was added. Its last row is that of the layer; the rows before it are
those of the report before, except for what their blobs take; and the total has grown by the last
row, and by what the inputs take that the layer put on the device. -/
structure Report.Grows (rep rep' : Report) (row : Report.Row) (g g' : Graph) (l : Layer) :
    Prop where
  name : row.name = .text l.name
  rows : ∃ earlier, rep'.rows = earlier ++ [row] ∧ List.Forall₂ Row.SameNeeds rep.rows earlier
  total : ∃ total own more, rep.total = .ok (.whole total) ∧ row.total = .ok (.whole own) ∧
    (g.raised g' l).mapM g'.bytesAt = .ok more ∧
    rep'.total = .ok (.whole (total + own + more.sum))

namespace Graph

variable {g g' : Graph} {l : Layer} {draft : Draft} {acc : Value} {rep rep' : Report}

theorem rows_of_figures {entries entries' : List (Layer × Footprint)} {accelerated : Bool}
    (hlayers : entries'.map Prod.fst = entries.map Prod.fst)
    (hfp : ∀ e ∈ entries, g.footprint accelerated e.1 = .ok e.2)
    (hfp' : ∀ e ∈ entries', g'.footprint accelerated e.1 = .ok e.2)
    (htwins : ∀ e ∈ entries, g.Twins g' e.1 e.1) :
    List.Forall₂ Report.Row.SameNeeds (entries.map fun e => .ofFootprint e.1.name e.1.tag e.2)
      (entries'.map fun e => .ofFootprint e.1.name e.1.tag e.2) := by
  rw [List.forall₂_map_left_iff, List.forall₂_map_right_iff]
  have hsame : List.Forall₂ (fun e e' => e'.1 = e.1) entries entries' := by
    rw [← List.forall₂_eq_eq_eq, List.forall₂_map_left_iff, List.forall₂_map_right_iff] at hlayers
    exact hlayers.flip
  refine (rel_mem hsame).imp ?_
  rintro ⟨l₀, fp⟩ ⟨l₀', fp'⟩ ⟨he, he', heq⟩
  obtain rfl : l₀' = l₀ := heq
  obtain ⟨hparameter, hoverhead, -, -⟩ := footprint_eq_ok.mp (hfp _ he)
  obtain ⟨hparameter', hoverhead', -, -⟩ := footprint_eq_ok.mp (hfp' _ he')
  rw [(htwins _ he).parameterBytes, hparameter] at hparameter'
  rw [(htwins _ he).overheadBytes, hoverhead] at hoverhead'
  constructor
  · rfl
  · rfl
  · exact congrArg Value.int (Except.ok.inj hparameter').symm
  · exact congrArg Value.int (Except.ok.inj hoverhead').symm

theorem Twins.consumption (h : g.Twins g' l l) (accelerated : Bool) :
    g'.consumption accelerated l = g.consumption accelerated l := by
  rw [Graph.consumption, h.parameterBytes, h.overheadBytes, Graph.consumption]

theorem Adds.mapM_consumption (h : g.Adds l draft g') (hg : g.Reached) {accelerated : Bool}
    {consumed : List Int} {own : Int}
    (hconsumed : g.layers.mapM (g.consumption accelerated) = .ok consumed)
    (hown : g'.consumption accelerated l = .ok own) :
    g'.layers.mapM (g'.consumption accelerated) = .ok (consumed ++ [own]) := by
  rw [h.layers, mapM_append_eq_ok]
  refine ⟨consumed, [own], ?_, mapM_eq_ok.mpr (.cons hown .nil), rfl⟩
  rw [← hconsumed]
  exact mapM_congr fun l₀ hl₀ => (hg.twins h.extends hl₀).consumption accelerated

theorem Adds.exists_report (h : g.Adds l draft g') (hg : g.Reached)
    (hr : g'.report acc = .ok rep') : ∃ rep, g.report acc = .ok rep := by
  have hfigures := exists_report_iff.mp ⟨rep', hr⟩
  obtain ⟨-, values', -, hvalues', -⟩ := (Reached.add hg h).total_eq hr
  obtain ⟨values, -, -, hvalues, -, -, -⟩ := h.sum_bytes hg hvalues'
  have hbytes := exists_mapM_eq_ok.mp ⟨values, hvalues⟩
  refine exists_report_iff.mpr fun l₀ hl₀ => ?_
  obtain ⟨fp, hfp⟩ := hfigures l₀ (h.extends.layers.subset hl₀)
  obtain ⟨hparameter, hoverhead, -, -⟩ := footprint_eq_ok.mp hfp
  have htwins := hg.twins h.extends hl₀
  rw [htwins.parameterBytes] at hparameter
  rw [htwins.overheadBytes] at hoverhead
  refine exists_footprint (fun ref href => ?_) hparameter hoverhead
  exact hbytes ref (hg.output_registered hl₀ (mem_ownedRefs.mp href).1)

theorem Adds.grows (h : g.Adds l draft g') (hg : g.Reached) (hr : g.report acc = .ok rep)
    (hr' : g'.report acc = .ok rep') : ∃ row, rep.Grows rep' row g g' l := by
  obtain ⟨entries, hfigures, hrows⟩ := report_eq_ok hr
  obtain ⟨entries', hfigures', hrows'⟩ := report_eq_ok hr'
  -- the figures afterwards, split at the new layer
  obtain ⟨earlier, last, rfl, hearlier, hlast⟩ :=
    List.map_eq_append_iff.mp (hfigures'.layers.trans h.layers)
  obtain ⟨⟨l', fp⟩, rfl, rfl⟩ := List.map_eq_singleton_iff.mp hlast
  have hfp : g'.footprint acc.truthy l' = .ok fp := hfigures'.footprints (l', fp) (by simp)
  refine ⟨.ofFootprint l'.name l'.tag fp, rfl, ?_, ?_⟩
  · refine ⟨_, by rw [hrows', List.map_append, List.map_singleton], ?_⟩
    rw [hrows]
    refine rows_of_figures (hearlier.trans hfigures.layers.symm) hfigures.footprints
      (fun e he => hfigures'.footprints e (List.mem_append_left _ he)) fun e he => ?_
    exact hg.twins h.extends (hfigures.layers ▸ List.mem_map_of_mem he)
  · obtain ⟨consumed, values, hconsumed, hvalues, htotal⟩ := hg.total_eq hr
    obtain ⟨consumed', values', hconsumed', hvalues', htotal'⟩ := (Reached.add hg h).total_eq hr'
    obtain ⟨values₀, own, more, hvalues₀, hown, hmore, hsum⟩ := h.sum_bytes hg hvalues'
    obtain ⟨own₀, hown₀, hownsum⟩ := sum_ownedRefs hfp
    have hall := h.mapM_consumption hg hconsumed (consumption_of_footprint hfp)
    obtain rfl := eq_of_ok hconsumed' hall
    obtain rfl := eq_of_ok hvalues hvalues₀
    obtain rfl := eq_of_ok hown hown₀
    refine ⟨_, fp.total, more, htotal, rfl, hmore, ?_⟩
    rw [htotal', List.sum_append, List.sum_singleton, hsum, hownsum, Footprint.total]
    congr 2
    omega

/-! ## With the accelerated library and without it -/

theorem countable_of_bytes {b : Blob} {n : Int} (ha : b.Accounted) (hres : b.resident = true)
    (h : b.bytes = .ok n) : b.Countable := by
  obtain ⟨⟨forward, hforward⟩, -⟩ := Blob.exists_of_bytes h
  rw [Blob.forwardBytes, hres, ha.forward, Bool.and_self, if_pos rfl] at hforward
  obtain ⟨count, hcount, -⟩ := bind_eq_ok.mp hforward
  exact (wrappedProduct_eq_ok.mp hcount).1

theorem Reached.exists_overhead (h : g.Reached) (hr : g.report acc = .ok rep) (hl : l ∈ g.layers)
    (accelerated : Bool) : ∃ overhead, g.overheadBytes accelerated l = .ok overhead := by
  obtain ⟨fp, hfp⟩ := exists_report_iff.mp ⟨rep, hr⟩ l hl
  obtain ⟨-, hoverhead, -, -⟩ := footprint_eq_ok.mp hfp
  cases hdevice : l.family.readsOnDevice with
  | false => exact ⟨0, overheadBytes_offDevice hdevice wrappedProduct⟩
  | true =>
    obtain ⟨-, values, -, hvalues, -⟩ := h.total_eq hr
    have hbytes := exists_mapM_eq_ok.mp ⟨values, hvalues⟩
    have hblobs : ∀ b ∈ g.inputsOf l ++ g.outputsOf l, b.Countable := by
      intro b hb
      have hres := h.used_resident hl hdevice hb
      obtain ⟨ref, href, rfl⟩ := h.mem_blobs hl hb
      obtain ⟨n, hn⟩ := hbytes ref href
      exact countable_of_bytes (h.accounted ref href) hres hn
    have hno : ¬g.CountsScalar l := fun hscalar => h.not_footprint_of_scalar hl hscalar fp hfp
    obtain ⟨workspace, hworkspace⟩ := Body.workspaceBytes_defined accelerated
      (h.inputs_hasChannels hl hno) (h.outputs_hasChannels hl) hblobs
    obtain ⟨_, -, hrest⟩ := bind_eq_ok.mp hoverhead
    obtain ⟨internal, hinternal, -⟩ := bind_eq_ok.mp hrest
    refine ⟨workspace + internal, ?_⟩
    rw [overheadBytes, Body.overheadBytes, hworkspace, ok_bind, hinternal]
    rfl

/-- A network has a report with the accelerated library if it has one without it, and the other way
round. -/
theorem Reached.exists_report_either (h : g.Reached) (hr : g.report acc = .ok rep) (acc' : Value) :
    ∃ rep', g.report acc' = .ok rep' := by
  obtain ⟨-, values, -, hvalues, -⟩ := h.total_eq hr
  have hbytes := exists_mapM_eq_ok.mp ⟨values, hvalues⟩
  refine exists_report_iff.mpr fun l hl => ?_
  obtain ⟨fp, hfp⟩ := exists_report_iff.mp ⟨rep, hr⟩ l hl
  obtain ⟨overhead, hoverhead⟩ := h.exists_overhead hr hl acc'.truthy
  refine exists_footprint (fun ref href => ?_) (footprint_eq_ok.mp hfp).1 hoverhead
  exact hbytes ref (h.output_registered hl (mem_ownedRefs.mp href).1)

/-! ## Runs -/

theorem Reached.createAll_cons (hg : g.Reached) (d : Declaration) (rest : List Declaration) :
    g.createAll (d :: rest) = g.createAll rest ∨
      ∃ l draft next, g.Adds l draft next ∧ g.createAll (d :: rest) = next.createAll rest := by
  rw [Graph.createAll, List.foldl_cons]
  rcases create_adds (fun ref => hg.mem_registered.mp) d with ⟨e, he⟩ | ⟨l, draft, next, hc, ha⟩
  · left
    rw [he]
    rfl
  · right
    refine ⟨l, draft, next, ha, ?_⟩
    rw [hc]
    rfl

theorem Reached.extends_createAll (hg : g.Reached) (more : List Declaration) :
    g.Extends (g.createAll more) := by
  induction more generalizing g with
  | nil => exact .refl g
  | cons d rest ih =>
    rcases hg.createAll_cons d rest with hsame | ⟨l, draft, next, ha, hnext⟩
    · rw [hsame]
      exact ih hg
    · rw [hnext]
      exact ha.extends.trans (ih (.add hg ha))

theorem Extends.exactCount_lt (h : g.Extends g') (hg : g.Reached)
    (hsmall : ∀ b ∈ g'.registeredBlobs, b.exactCount < 2 ^ 63) :
    ∀ b ∈ g.registeredBlobs, b.exactCount < 2 ^ 63 := by
  intro b hb
  obtain ⟨ref, href, rfl⟩ := List.mem_map.mp hb
  rw [← Blob.of_fixed Blob.exactCount (h.fixed ref (hg.mem_registered.mp href))]
  exact hsmall _ (List.mem_map_of_mem (h.registered.subset href))

theorem Reached.row_nonneg (h : g.Reached)
    (hsmall : ∀ b ∈ g.registeredBlobs, b.exactCount < 2 ^ 63) (hr : g.report acc = .ok rep)
    {row : Report.Row} (hrow : row ∈ rep.rows) {n : Int} (hn : row.total = .ok (.whole n)) :
    0 ≤ n := by
  obtain ⟨entries, hfigures, hrows⟩ := report_eq_ok hr
  rw [hrows] at hrow
  obtain ⟨e, he, rfl⟩ := List.mem_map.mp hrow
  obtain rfl := Amount.whole.inj (Except.ok.inj hn)
  exact h.footprint_nonneg hsmall (hfigures.layers ▸ List.mem_map_of_mem he)
    (hfigures.footprints e he)

/-- Where no count wraps around, one more layer does not take less. -/
theorem Adds.total_le (h : g.Adds l draft g') (hg : g.Reached)
    (hsmall : ∀ b ∈ g'.registeredBlobs, b.exactCount < 2 ^ 63) (hr : g.report acc = .ok rep)
    (hr' : g'.report acc = .ok rep') : ∃ total total', rep.total = .ok (.whole total) ∧
      rep'.total = .ok (.whole total') ∧ total ≤ total' := by
  have hg' : g'.Reached := .add hg h
  obtain ⟨row, hgrows⟩ := h.grows hg hr hr'
  obtain ⟨total, own, more, htotal, hown, hmore, htotal'⟩ := hgrows.total
  refine ⟨total, _, htotal, htotal', ?_⟩
  have hmores : 0 ≤ more.sum := by
    refine List.sum_nonneg fun n hn => ?_
    obtain ⟨ref, href, hbytes⟩ := exists_of_mem_right (mapM_eq_ok.mp hmore) hn
    have hmem := h.extends.registered.subset ((h.mem_raised hg).mp href).1
    exact Blob.bytes_nonneg (hg'.countsUp hsmall _ (List.mem_map_of_mem hmem)) hbytes
  have howns : 0 ≤ own := by
    obtain ⟨earlier, hrows, -⟩ := hgrows.rows
    exact hg'.row_nonneg hsmall hr' (by simp [hrows]) hown
  omega

theorem Reached.total_le_createAll (hg : g.Reached) (more : List Declaration)
    (hsmall : ∀ b ∈ (g.createAll more).registeredBlobs, b.exactCount < 2 ^ 63)
    (hr' : (g.createAll more).report acc = .ok rep') : ∃ rep total total',
      g.report acc = .ok rep ∧ rep.total = .ok (.whole total) ∧
      rep'.total = .ok (.whole total') ∧ total ≤ total' := by
  induction more generalizing g with
  | nil =>
    obtain ⟨consumed, values, -, -, htotal⟩ := hg.total_eq hr'
    exact ⟨rep', _, _, hr', htotal, htotal, Int.le_refl _⟩
  | cons d rest ih =>
    rcases hg.createAll_cons d rest with hsame | ⟨l, draft, next, ha, hnext⟩
    · rw [hsame] at hsmall hr'
      exact ih hg hsmall hr'
    · rw [hnext] at hsmall hr'
      have hg₁ : next.Reached := .add hg ha
      obtain ⟨rep₁, total₁, total', hr₁, htotal₁, htotal', hle⟩ := ih hg₁ hsmall hr'
      obtain ⟨rep, hr⟩ := ha.exists_report hg hr₁
      have hsmall₁ := (hg₁.extends_createAll rest).exactCount_lt hg₁ hsmall
      obtain ⟨total, total₂, htotal, htotal₂, hstep⟩ := ha.total_le hg hsmall₁ hr hr₁
      obtain rfl := Amount.whole.inj (eq_of_ok htotal₁ htotal₂)
      exact ⟨rep, total, total', hr, htotal, htotal', Int.le_trans hstep hle⟩

/-- Whatever was created by name before, a layer that is created and leaves a graph with a report has
that graph's report grow by what the layer takes and by what the inputs take that it put on the
device, with the accelerated library and without it. So where no count wraps around, some
declarations take at most what they take with more of them behind. -/
theorem create_grows (phase : Phase) (elementSize : Option (List Float)) (ds : List Declaration) :
    (∀ d g' l, ((empty phase elementSize).createAll ds).create d none = ⟨g', .ok l⟩ →
      (∃ acc rep', g'.report acc = .ok rep') →
        ∀ acc, ∃ rep rep' row, ((empty phase elementSize).createAll ds).report acc = .ok rep ∧
          g'.report acc = .ok rep' ∧
          rep.Grows rep' row ((empty phase elementSize).createAll ds) g' l) ∧
    ∀ more acc rep',
      (∀ b ∈ ((empty phase elementSize).createAll (ds ++ more)).registeredBlobs,
        b.exactCount < 2 ^ 63) →
      ((empty phase elementSize).createAll (ds ++ more)).report acc = .ok rep' →
        ∃ rep total total', ((empty phase elementSize).createAll ds).report acc = .ok rep ∧
          rep.total = .ok (.whole total) ∧ rep'.total = .ok (.whole total') ∧
          total ≤ total' := by
  have hg := (Reached.empty phase elementSize).createAll ds
  constructor
  · intro d g' l hcreate
    rintro ⟨acc₀, rep₀, hrep₀⟩ acc
    obtain ⟨draft, ha, -⟩ := create_adds_of_ok (fun ref => hg.mem_registered.mp) hcreate
    obtain ⟨rep', hrep'⟩ := (Reached.add hg ha).exists_report_either hrep₀ acc
    obtain ⟨rep, hrep⟩ := ha.exists_report hg hrep'
    obtain ⟨row, hgrows⟩ := ha.grows hg hrep hrep'
    exact ⟨rep, rep', row, hrep, hrep', hgrows⟩
  · intro more acc rep' hsmall hrep'
    have happend : (empty phase elementSize).createAll (ds ++ more) =
        ((empty phase elementSize).createAll ds).createAll more := List.foldl_append
    rw [happend] at hsmall hrep'
    exact hg.total_le_createAll more hsmall hrep'

theorem create_grows_convolution :
    (∃ g' l, ((empty .test none).createAll oneSource).create (convolutionOf (.int 2)) none =
        ⟨g', .ok l⟩ ∧
      ((empty .test none).createAll oneSource).raised g' l = [0] ∧
      ∀ acc, ∃ rep rep' row, ((empty .test none).createAll oneSource).report acc = .ok rep ∧
        g'.report acc = .ok rep' ∧
        rep.Grows rep' row ((empty .test none).createAll oneSource) g' l) ∧
    ∃ rep rep' total total', ((empty .test none).createAll oneSource).report .null = .ok rep ∧
      ((empty .test none).createAll (oneSource ++ [convolutionOf (.int 2)])).report .null =
        .ok rep' ∧
      rep.total = .ok (.whole total) ∧ rep'.total = .ok (.whole total') ∧ total ≤ total' := by
  obtain ⟨hstep, hrun⟩ := create_grows .test none oneSource
  constructor
  · have hcreate : (((empty .test none).createAll oneSource).create
        (convolutionOf (.int 2)) none).result.toOption.any (fun l =>
          ((empty .test none).createAll oneSource).raised (((empty .test none).createAll
            oneSource).create (convolutionOf (.int 2)) none).graph l == [0] &&
          ((((empty .test none).createAll oneSource).create (convolutionOf (.int 2))
            none).graph.report .null).toOption.isSome) = true := by
      decide +kernel
    obtain ⟨g', l, hl, htest⟩ := exists_create_of_any (p := fun g' l =>
      ((empty .test none).createAll oneSource).raised g' l == [0] &&
        (g'.report .null).toOption.isSome) hcreate
    rw [Bool.and_eq_true, beq_iff_eq, toOption_isSome_iff] at htest
    exact ⟨g', l, hl, htest.1, hstep _ g' l hl ⟨.null, htest.2⟩⟩
  · have hreport : (((empty .test none).createAll
        (oneSource ++ [convolutionOf (.int 2)])).report .null).toOption.isSome = true := by
      decide +kernel
    obtain ⟨rep', hrep'⟩ := toOption_isSome_iff.mp hreport
    obtain ⟨rep, total, total', hrep, htotals⟩ :=
      hrun [convolutionOf (.int 2)] .null rep' (by decide +kernel) hrep'
    exact ⟨rep, rep', total, total', hrep, hrep', htotals⟩

end Graph

end NetFootprint
