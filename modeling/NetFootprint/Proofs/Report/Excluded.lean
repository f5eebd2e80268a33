import NetFootprint.Proofs.Graph.Accept
import NetFootprint.Proofs.Report.Swap

/-!
# Excluded declarations

A network is built from one declaration after the other, and at those that are not in the phase the
graph stays as it is. So such a declaration may be left out or replaced by any other one, and the
blobs that it declares are not there: a layer that reads one of them is refused.
-/

namespace NetFootprint

namespace Graph

variable {g g' : Graph} {d : Declaration} {ds : List Declaration} {l : Layer} {draft : Draft}
  {t : LayerType} {name : String} {ref : Nat}

/-! ## One declaration after the other -/

/-- What becomes of a graph at the turn of a declaration. -/
def consider (g : Graph) (d : Declaration) : Except Failure Graph :=
  if d.inPhase g.phase then g.extend d else .ok g

theorem Reached.extend (hg : g.Reached) (h : g.extend d = .ok g') : g'.Reached := by
  obtain ⟨l, draft, line, -, ha, -⟩ := extend_ok hg h
  exact .add hg ha

theorem Reached.phase_extend (hg : g.Reached) (h : g.extend d = .ok g') : g'.phase = g.phase := by
  obtain ⟨l, draft, line, -, ha, -⟩ := extend_ok hg h
  exact ha.phase

theorem Reached.extendAll_filter (hg : g.Reached) (ds : List Declaration) :
    g.extendAll (ds.filter fun d => d.inPhase g.phase) = ds.foldlM consider g := by
  induction ds generalizing g with
  | nil => rfl
  | cons d rest ih =>
    rw [List.foldlM_cons, consider]
    by_cases hd : d.inPhase g.phase = true
    · rw [List.filter_cons, if_pos hd, if_pos hd, Graph.extendAll, List.foldlM_cons]
      cases hnext : g.extend d with
      | error e => rfl
      | ok next =>
        -- the phase stays, so the rest is filtered by the same test
        rw [ok_bind, ok_bind, ← ih (hg.extend hnext), hg.phase_extend hnext]
        rfl
    · rw [List.filter_cons, if_neg hd, if_neg hd, ih hg]
      rfl

theorem Reached.extendAll (hg : g.Reached) (h : g.extendAll ds = .ok g') :
    g'.Reached ∧ g'.layers.map Layer.declaration = g.layers.map Layer.declaration ++ ds := by
  induction ds generalizing g with
  | nil =>
    obtain rfl := pure_eq_ok.mp h
    exact ⟨hg, by simp⟩
  | cons d rest ih =>
    obtain ⟨next, hnext, hrest⟩ := extendAll_cons_eq_ok.mp h
    obtain ⟨l, draft, line, -, ha, rfl, -⟩ := extend_ok hg hnext
    obtain ⟨hreached, hlayers⟩ := ih (.add hg ha) hrest
    exact ⟨hreached, by simp [hlayers, ha.layers]⟩

/-! ## Names that nobody declared -/

theorem Adds.name_declared (h : g.Adds l draft g') (href : ref ∈ l.outputs)
    (hnew : g.blobs.length ≤ ref) : (g'.blob ref).name ∈ l.declaration.outputs := by
  obtain ⟨o, ho, hat⟩ := exists_of_mem_right h.placed href
  cases hat with
  | kept i _ _ hold => exact absurd hold (Nat.not_lt.mpr hnew)
  | made b _ _ _ hb =>
    obtain ⟨top, htop, hmakes⟩ := exists_of_mem_right (Site.layer_outputs h.drafted) ho
    cases hmakes with
    | made k _ hname _ hk _ =>
      obtain ⟨-, rfl⟩ := Site.newBlob_eq_ok.mp hk
      rw [Blob.of_fixed Blob.name hb]
      show k.name ∈ l.declaration.outputs
      rw [hname]
      exact htop

theorem Reached.name_declared (hg : g.Reached) (href : ref ∈ g.registered) :
    ∃ l ∈ g.layers, (g.blob ref).name ∈ l.declaration.outputs := by
  obtain ⟨k, l, before, draft, after, hk, hadded, hown, hnew⟩ := hg.born href
  have hout := (mem_ownedRefs.mp hown).1
  have hfixed := hadded.since.fixed ref (hadded.adds.lt_of_mem hout)
  refine ⟨l, List.mem_of_getElem? hk, ?_⟩
  rw [Blob.of_fixed Blob.name hfixed]
  exact hadded.adds.name_declared hout hnew

theorem Reached.declared (hg : g.Reached) (h : g.contains (.text name) = true) :
    ∃ l ∈ g.layers, .text name ∈ l.declaration.outputs := by
  obtain ⟨ref, hfind⟩ := Option.isSome_iff_exists.mp h
  rw [← name_of_find? hfind]
  exact hg.name_declared (mem_registered_of_find? hfind)

def missingInput (d : Declaration) (name : String) : Failure :=
  .fault (.missingBlob (.text name) (.text d.name) (.text d.type) (.text "input"))

theorem resolve_missing (h : g.contains (.text name) = false) (layer type role : Value) :
    g.resolve (.text name) layer type role =
      .error (.fault (.missingBlob (.text name) layer type role)) := by
  have hnone : g.find? (.text name) = none :=
    Option.isNone_iff_eq_none.mp (Option.isSome_eq_false_iff.mp h)
  have hkey : (liftM (Value.text name).key : Except Failure Value) = .ok (.text name) := rfl
  rw [resolve, hkey, ok_bind, hnone]
  rfl

theorem resolveInputs_missing
    (h : d.inputs.find? (fun name => !g.contains (.text name)) = some name) :
    g.resolveInputs d = .error (missingInput d name) := by
  rw [resolveInputs]
  generalize d.inputs = names at h
  induction names with
  | nil => cases h
  | cons first rest ih =>
    rw [List.find?_cons] at h
    rw [List.mapM_cons]
    cases hfirst : g.contains (.text first) with
    | false =>
      rw [hfirst] at h
      obtain rfl := Option.some.inj h
      rw [resolve_missing hfirst]
      rfl
    | true =>
      rw [hfirst] at h
      obtain ⟨ref, hfind⟩ := Option.isSome_iff_exists.mp hfirst
      have hresolve : g.resolve (.text first) (.text d.name) (.text d.type) (.text "input") =
          .ok ref := Site.resolve_eq_ok.mpr ⟨rfl, hfind⟩
      rw [hresolve, ok_bind, ih h]
      rfl

theorem extend_missing (ht : d.type = t.tag)
    (h : d.inputs.find? (fun name => !g.contains (.text name)) = some name) :
    g.extend d = .error (missingInput d name) := by
  have hb : g.build d none = .error (missingInput d name) := by
    rw [build, familyOf_tag ht, resolveInputs_missing h]
    rfl
  rw [extend, create, hb]
  rfl

end Graph

namespace Request

variable {r : Request} {p : Phase} {ds : List Declaration}

theorem declarations_declaring (r : Request) (ds : List Declaration) :
    (r.declaring ds).declarations = do return (← r.externals) ++ ds :=
  declarations_eq (r.declaring ds)

/-- Every request is built by considering its declarations one after the other. -/
theorem network_eq_considered (r : Request) : r.network = do
    let (g, ds) ← r.start
    return ⟨r.label, ← ds.foldlM Graph.consider g⟩ := by
  rw [network]
  cases hstart : r.start with
  | error e => rfl
  | ok begun =>
    obtain ⟨g, ds⟩ := begun
    have hg : g.Reached := by
      simp only [start, bind_eq_ok, lift_eq_ok, pure_eq_ok, Prod.mk.injEq] at hstart
      obtain ⟨phase, -, elementSize, -, -, -, rfl, -⟩ := hstart
      exact .empty phase elementSize
    show (do return (⟨r.label, ← g.extendAll _⟩ : Network)) = _
    rw [hg.extendAll_filter]
    rfl

/-- No declared layers can help a request that cannot be begun. Of the others, those in the phase are
built behind the external inputs. -/
theorem network_declaring (hphase : Phase.ofValue r.phase = .ok p) :
    (∃ e, ∀ ds, (r.declaring ds).network = .error e) ∨
    ∃ elementSize externals, r.externals = .ok externals ∧
      ∀ ds, (r.declaring ds).network = do
        let g ← (Graph.empty p elementSize).extendAll
          (externals ++ ds.filter fun d => d.inPhase p)
        return ⟨r.label, g⟩ := by
  have hrun (ds : List Declaration) : (r.declaring ds).network = do
      let elementSize ← (r.elementSizes : Except Misuse (Option (List Float)))
      let all ← (do return (← r.externals) ++ ds : Except Failure (List Declaration))
      let g ← (Graph.empty p elementSize).extendAll (all.filter fun d => d.inPhase p)
      return ⟨r.label, g⟩ := by
    rw [network, start, ← declarations_declaring, show (r.declaring ds).phase = r.phase from rfl,
      hphase, show (r.declaring ds).elementSizes = r.elementSizes from rfl]
    cases r.elementSizes with
    | error m => rfl
    | ok elementSize =>
      cases (r.declaring ds).declarations with
      | error e => rfl
      | ok all => rfl
  cases hsize : r.elementSizes with
  | error m =>
    simp only [hsize] at hrun
    exact .inl ⟨_, hrun⟩
  | ok elementSize =>
    cases hext : r.externals with
    | error e =>
      simp only [hsize, hext] at hrun
      exact .inl ⟨_, hrun⟩
    | ok externals =>
      refine .inr ⟨elementSize, externals, rfl, fun ds => ?_⟩
      have hsplit : (externals ++ ds).filter (fun d => d.inPhase p) =
          externals ++ ds.filter fun d => d.inPhase p := by
        rw [List.filter_append, filter_inPhase (unrestricted_of_externals hext)]
      rw [hrun, hsize, hext, ← hsplit]
      rfl

/-- No declaration in the phase declares the output. -/
def OnlyExcluded (r : Request) (p : Phase) (ds : List Declaration) (name : String) : Prop :=
  ∀ all, (r.declaring ds).declarations = .ok all →
    ∀ d ∈ all, .text name ∈ d.outputs → d.inPhase p = false

variable {before after : List Declaration} {d : Declaration} {t : LayerType} {name : String}

/-- What only excluded declarations declare is not there after the declarations in the phase. -/
theorem OnlyExcluded.not_contains (h : r.OnlyExcluded p (before ++ after) name)
    {externals : List Declaration} (hext : r.externals = .ok externals)
    {elementSize : Option (List Float)} {g : Graph}
    (hg : (Graph.empty p elementSize).extendAll
      (externals ++ before.filter fun d => d.inPhase p) = .ok g) :
    g.contains (.text name) = false := by
  obtain ⟨hreached, hlayers⟩ := (Graph.Reached.empty p elementSize).extendAll hg
  have hall : (r.declaring (before ++ after)).declarations =
      .ok (externals ++ (before ++ after)) := by
    rw [declarations_declaring, hext]
    rfl
  refine Bool.eq_false_of_not_eq_true fun hcontains => ?_
  -- the layer that declared the name was built, so it is in the phase
  obtain ⟨l, hl, hout⟩ := hreached.declared hcontains
  have hmem : l.declaration ∈ externals ++ before.filter fun d => d.inPhase p := by
    have hmap := List.mem_map_of_mem hl (f := Layer.declaration)
    rwa [hlayers] at hmap
  have hin : l.declaration.inPhase p = true := by
    rcases List.mem_append.mp hmem with hsource | hdeclared
    · have hkept := filter_inPhase (unrestricted_of_externals hext) p
      exact List.filter_eq_self.mp hkept _ hsource
    · exact (List.mem_filter.mp hdeclared).2
  have hdeclared : l.declaration ∈ externals ++ (before ++ after) := by
    rcases List.mem_append.mp hmem with hsource | hdeclared
    · exact List.mem_append_left _ hsource
    · exact List.mem_append_right _ (List.mem_append_left _ (List.mem_filter.mp hdeclared).1)
  rw [h _ hall _ hdeclared hout] at hin
  cases hin

/-- A layer that reads what only excluded declarations declare is refused, if it is reached at
all. -/
theorem network_missing (hphase : Phase.ofValue r.phase = .ok p) (hin : d.inPhase p = true)
    (ht : d.type = t.tag) (hread : name ∈ d.inputs)
    (hout : r.OnlyExcluded p (before ++ d :: after) name) :
    (∃ e, (r.declaring before).network = .error e ∧
      (r.declaring (before ++ d :: after)).network = .error e) ∨
    ∃ n missing, (r.declaring before).network = .ok n ∧
      d.inputs.find? (fun name => !n.graph.contains (.text name)) = some missing ∧
      (r.declaring (before ++ d :: after)).network = .error (Graph.missingInput d missing) := by
  rcases network_declaring hphase with ⟨e, he⟩ | ⟨elementSize, externals, hext, hrun⟩
  · exact .inl ⟨e, he before, he _⟩
  · have hsplit : externals ++ (before ++ d :: after).filter (fun d => d.inPhase p) =
        (externals ++ before.filter fun d => d.inPhase p) ++
          d :: after.filter fun d => d.inPhase p := by
      rw [List.filter_append, List.filter_cons, if_pos hin, List.append_assoc]
    rw [hrun before, hrun (before ++ d :: after), hsplit,
      Graph.extendAll_append _ (externals ++ _) (d :: _)]
    cases hg : (Graph.empty p elementSize).extendAll
        (externals ++ before.filter fun d => d.inPhase p) with
    | error e => exact .inl ⟨e, rfl, rfl⟩
    | ok g =>
      have hunknown := hout.not_contains hext hg
      have hfound : (d.inputs.find? fun name => !g.contains (.text name)).isSome = true :=
        List.find?_isSome.mpr ⟨name, hread, by rw [hunknown]; rfl⟩
      obtain ⟨missing, hmissing⟩ := Option.isSome_iff_exists.mp hfound
      refine .inr ⟨⟨r.label, g⟩, missing, rfl, hmissing, ?_⟩
      rw [ok_bind, Graph.extendAll, List.foldlM_cons, Graph.extend_missing ht hmissing]
      rfl

/-- Declarations that are not in the phase do not count. A network is built by considering all
declarations one after the other, with the same outcome as from those in the phase alone, so one
that is left out may be replaced by any other one. What only such declarations declare is missing
where a layer reads it. -/
theorem network_excluded (hphase : Phase.ofValue r.phase = .ok p) :
    (∀ ds, (r.declaring ds).network = do
      let (g, all) ← (r.declaring ds).start
      return ⟨r.label, ← all.foldlM Graph.consider g⟩) ∧
    (∀ ds, (r.declaring ds).network =
      (r.declaring (ds.filter fun d => d.inPhase p)).network) ∧
    (∀ before d d' after, d.inPhase p = false → d'.inPhase p = false →
      (r.declaring (before ++ d :: after)).network =
        (r.declaring (before ++ d' :: after)).network) ∧
    (∀ before d after name, ∀ t : LayerType, d.inPhase p = true → d.type = t.tag →
      name ∈ d.inputs → r.OnlyExcluded p (before ++ d :: after) name →
      (∃ e, (r.declaring before).network = .error e ∧
        (r.declaring (before ++ d :: after)).network = .error e) ∨
      ∃ n missing, (r.declaring before).network = .ok n ∧
        d.inputs.find? (fun name => !n.graph.contains (.text name)) = some missing ∧
        (r.declaring (before ++ d :: after)).network =
          .error (Graph.missingInput d missing)) := by
  have hkept {ds ds' : List Declaration}
      (h : ds.filter (fun d => d.inPhase p) = ds'.filter fun d => d.inPhase p) :
      (r.declaring ds).network = (r.declaring ds').network := by
    rcases network_declaring hphase with ⟨e, he⟩ | ⟨_, _, -, hrun⟩
    · rw [he, he]
    · rw [hrun, hrun, h]
  refine ⟨?_, ?_, ?_, ?_⟩
  · exact fun ds => network_eq_considered (r.declaring ds)
  · intro ds
    apply hkept
    rw [List.filter_filter]
    simp only [Bool.and_self]
  · intro before d d' after hd hd'
    apply hkept
    simp only [List.filter_append, List.filter_cons, hd, hd']
    rfl
  · exact fun before d after name t hin ht hread hout =>
      network_missing hphase hin ht hread hout

namespace Sample

/-- It is left out of the networks for testing. -/
def trainedPool : Declaration := { pool with excluded := [.test] }

def pooledRelu : Declaration := Session.plainLayer "ReLU" "relu" ["b"] "r"

end Sample

open Sample

theorem network_excluded_producer :
    (request [trainedPool, pooledRelu]).network = (request [pooledRelu]).network ∧
    (request [trainedPool, pooledRelu]).network = .error (Graph.missingInput pooledRelu "b") := by
  have hphase : Phase.ofValue (request []).phase = .ok .test := rfl
  obtain ⟨-, hfilter, -, hmissing⟩ := network_excluded hphase
  have hout : (request []).OnlyExcluded .test ([trainedPool] ++ pooledRelu :: []) "b" := by
    intro all hall
    obtain rfl := eq_of_ok hall (declarations_request _)
    simp [source, trainedPool, pooledRelu, pool, Session.plainLayer, Declaration.inPhase]
  refine ⟨hfilter [trainedPool, pooledRelu], ?_⟩
  have hread : "b" ∈ pooledRelu.inputs := List.mem_singleton.mpr rfl
  rcases hmissing [trainedPool] pooledRelu [] "b" .relu rfl rfl hread hout with
    ⟨e, he, -⟩ | ⟨n, missing, -, hfirst, herror⟩
  · have hok : (request [trainedPool]).network.toOption.isSome = true := by decide +kernel
    obtain ⟨n, hn⟩ := toOption_isSome_iff.mp hok
    cases hn.symm.trans he
  · obtain rfl : missing = "b" := List.mem_singleton.mp (List.mem_of_find?_eq_some hfirst)
    exact herror

end Request

end NetFootprint
