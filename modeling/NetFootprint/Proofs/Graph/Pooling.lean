import Mathlib.Algebra.Group.Nat.Defs
import NetFootprint.Proofs.Graph.Accept
import NetFootprint.Proofs.Layer.Pooling

/-!
# Accepted poolings

In a graph that was grown by name, a pooling of a blob that is no scalar is accepted exactly if its
windows fit along each axis and each stride that scales an element size has a double. It leaves
exactly enough windows then. Where no padding is wider than its window, no pooling is refused since
its last window starts in the padding.
-/

namespace NetFootprint.Graph

variable {g g' : Graph} {l : Layer} {d : Declaration} {draft : Draft} {ref : Nat} {w : Window}

/-- A pooling of one registered blob that is no scalar: the names that it gives are free, and its
window can be read. -/
structure PoolingOf (g : Graph) (d : Declaration) (ref : Nat) (w : Window) : Prop where
  type : d.type = LayerType.pooling.tag
  input : ∃ name, d.inputs = [name] ∧ g.find? (.text name) = some ref
  output : ∃ top, d.outputs = [top]
  array : (g.blob ref).isScalar = false
  fresh : g.FreshFor d
  window : (g.namedSite d).poolingWindow (g.blob ref) = .ok w

/-- What a graph makes of a pooling. -/
structure PoolsExactly (g : Graph) (d : Declaration) (ref : Nat) (w : Window) : Prop where
  counts : ∀ i x : Nat, (g.blob ref).spatial[i]? = some x → ∃ a, w.axis i = .ok a ∧
    IsLeast {m : Int | (x : Int) + 2 * a.pad ≤ m * a.stride + a.kernel} (a.pooled x - 1) ∧
    IsLeast {m : Int | (x : Int) + a.pad ≤ m * a.stride} (a.starts x)
  accepted : (∃ l g', g.create d none = ⟨g', .ok l⟩) ↔
    Site.Scalable (g.blob ref).elementSize w.stride ∧ w.Fits (g.blob ref).spatial
  made : ∀ l g', g.create d none = ⟨g', .ok l⟩ → ∃ out, l.outputs = [out] ∧
    w.Takes (Window.Axis.Covers w.padded) (g.blob ref).spatial (g'.blob out).spatial
  refused : (∀ i a, w.axis i = .ok a → a.pad ≤ a.kernel) →
    ∀ axis, (g.create d none).result ≠ .error (.fault (Site.paddingFault d axis))

namespace PoolingOf

theorem ready (h : g.PoolingOf d ref w) : g.Ready d .pooling := by
  obtain ⟨name, hin, hfind⟩ := h.input
  exact h.fresh.ready (familyOf_tag h.type) hin hfind

theorem single (h : g.PoolingOf d ref w) :
    ∃ top, (g.namedSite d).Single (g.blob ref) top := by
  obtain ⟨name, hin, hfind⟩ := h.input
  obtain ⟨top, hout⟩ := h.output
  exact ⟨top, h.fresh.single hin hout hfind⟩

theorem registered (h : g.PoolingOf d ref w) : ref ∈ g.registered := by
  obtain ⟨name, -, hfind⟩ := h.input
  exact mem_registered_of_find? hfind

theorem drafted (h : g.PoolingOf d ref w) (hd : (g.namedSite d).layer .pooling = .ok draft) :
    ∃ b, draft = ⟨[.made b], .pooling (g.namedSite d).poolingMethod w⟩ ∧
      Site.Windowed (g.blob ref) w (Window.Axis.Pools w.padded) b := by
  obtain ⟨top, hsingle⟩ := h.single
  obtain ⟨w', b, hw', hdraft, -, hmade⟩ := Site.poolingLayer_made hd hsingle.inputs
  obtain rfl := eq_of_ok h.window hw'
  exact ⟨b, hdraft, hmade⟩

theorem fitting (h : g.PoolingOf d ref w) (hg : g.Reached)
    (hd : (g.namedSite d).layer .pooling = .ok draft) : g.Fitting draft := by
  obtain ⟨b, rfl, hmade⟩ := h.drafted hd
  exact hg.fitting_windowed h.registered h.array hmade rfl

theorem poolsExactly (h : g.PoolingOf d ref w) (hg : g.Reached) : g.PoolsExactly d ref w := by
  obtain ⟨top, hsingle⟩ := h.single
  have hregular := hg.regular _ (List.mem_map_of_mem h.registered)
  have hstride := Site.stride_poolingWindow h.window
  constructor
  · intro i x hx
    obtain ⟨hlt, -⟩ := List.getElem?_eq_some_iff.mp hx
    obtain ⟨a, ha⟩ := (Site.spans_poolingWindow hregular h.window).axis hlt
    have hs := hstride _ (List.mem_of_getElem? (Window.axis_eq_ok.mp ha).2.1)
    exact ⟨a, ha, Window.Axis.isLeast_pooled hs, Window.Axis.isLeast_starts hs⟩
  · rw [h.ready.create_iff hg fun draft hd => h.fitting hg hd]
    exact Site.poolingLayer_iff hsingle hregular h.array h.window
  · intro l g' hcreate
    obtain ⟨draft, ha, -, hfamily, hd⟩ := create_drafted hg hcreate
    rw [← eq_of_ok h.ready.family hfamily] at hd
    obtain ⟨b, rfl, hmade⟩ := h.drafted hd
    obtain ⟨houtputs, hfixed⟩ := ha.only_made rfl
    refine ⟨_, houtputs, (hmade.of_fixed hfixed).spatial.mono fun a x y hs hpools => ?_⟩
    exact hpools.covers (hstride _ hs)
  · intro hpad axis hresult
    cases hd : (g.namedSite d).layer .pooling with
    | ok draft =>
      obtain ⟨l, g', hcreate⟩ := h.ready.exists_create hg hd (h.fitting hg hd)
      rw [hcreate] at hresult
      cases hresult
    | error e =>
      rw [h.ready.create_error hd] at hresult
      obtain rfl := Except.error.inj hresult
      exact Site.poolingLayer_fails_elsewhere hsingle hregular h.array h.window hpad axis _ hd rfl

end PoolingOf

/-- Whatever was created by name before, a pooling of a blob that is no scalar leaves exactly enough
windows. -/
theorem create_poolsExactly (phase : Phase) (elementSize : Option (List Float))
    (ds : List Declaration) {d : Declaration} {ref : Nat} {w : Window}
    (h : ((empty phase elementSize).createAll ds).PoolingOf d ref w) :
    ((empty phase elementSize).createAll ds).PoolsExactly d ref w :=
  h.poolsExactly ((Reached.empty phase elementSize).createAll ds)

def pooledBy (stride pad : Nat) : Declaration where
  type := LayerType.pooling.tag
  name := "pool"
  inputs := ["data"]
  outputs := [.text "y"]
  params := [("kernel_size", .list [.int 3, .int 4]), ("stride", .int stride), ("pad", .int pad)]
  included := []
  excluded := []

def pooledWindow (stride pad : Nat) : Window where
  kernel := [3, 4]
  pad := [pad, pad]
  stride := [stride, stride]
  dilation := [1, 1]

theorem pooledBy_poolingOf {stride pad : Nat}
    (h : ((((empty .test none).createAll oneSource).namedSite (pooledBy stride pad)).poolingWindow
      (((empty .test none).createAll oneSource).blob 0)).toOption.any
        (· == pooledWindow stride pad) = true) :
    ((empty .test none).createAll oneSource).PoolingOf (pooledBy stride pad) 0
      (pooledWindow stride pad) where
  type := rfl
  input := ⟨"data", rfl, by decide +kernel⟩
  output := ⟨_, rfl⟩
  array := by decide +kernel
  fresh :=
    { name := (by decide +kernel :
        ∀ other ∈ ((empty .test none).createAll oneSource).layers, other.name ≠ "pool")
      outputs := (by decide +kernel : ∀ top ∈ [Value.text "y"],
        top.isKey = true ∧ ((empty .test none).createAll oneSource).contains top = false) }
  window := by
    obtain ⟨w, hw, heq⟩ := exists_of_any h
    rw [hw, eq_of_beq heq]

theorem create_poolsExactly_padded :
    ((empty .test none).createAll oneSource).PoolingOf (pooledBy 2 1) 0 (pooledWindow 2 1) ∧
      ((empty .test none).createAll oneSource).PoolsExactly (pooledBy 2 1) 0
        (pooledWindow 2 1) := by
  have h : ((empty .test none).createAll oneSource).PoolingOf (pooledBy 2 1) 0
      (pooledWindow 2 1) := pooledBy_poolingOf (by decide +kernel)
  exact ⟨h, create_poolsExactly .test none oneSource h⟩

/-- A pooling whose window fits is refused if its stride has no double. -/
theorem not_accepted_hugeStride :
    ((empty .test none).createAll oneSource).PoolingOf (pooledBy (10 ^ 400) 0) 0
        (pooledWindow (10 ^ 400) 0) ∧
      (pooledWindow (10 ^ 400) 0).Fits (((empty .test none).createAll oneSource).blob 0).spatial ∧
      ¬∃ l g', ((empty .test none).createAll oneSource).create (pooledBy (10 ^ 400) 0) none =
        ⟨g', .ok l⟩ := by
  refine ⟨pooledBy_poolingOf (by decide +kernel), ?_, ?_⟩
  · have hspatial : (((empty .test none).createAll oneSource).blob 0).spatial = [3, 4] := by
      decide +kernel
    have hplain : ¬(pooledWindow (10 ^ 400) 0).padded = true := by decide +kernel
    rw [hspatial]
    rintro (_ | _ | d) x hx
    · obtain rfl := Option.some.inj hx
      exact ⟨⟨3, 0, 10 ^ 400, 1⟩, rfl, by decide +kernel, (absurd · hplain)⟩
    · obtain rfl := Option.some.inj hx
      exact ⟨⟨4, 0, 10 ^ 400, 1⟩, rfl, by decide +kernel, (absurd · hplain)⟩
    · cases hx
  · rintro ⟨l, g', hcreate⟩
    have hrun : (((empty .test none).createAll oneSource).create
        (pooledBy (10 ^ 400) 0) none).result.toOption.isSome = false := by decide +kernel
    rw [hcreate] at hrun
    cases hrun

end NetFootprint.Graph
