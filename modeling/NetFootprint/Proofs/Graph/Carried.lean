import NetFootprint.Proofs.Graph.OnDevice
import NetFootprint.Proofs.Graph.Reorder
import NetFootprint.Proofs.Graph.WellFormed

/-!
# What is on the device, by name

Which blobs of a graph are on the device is a matter of the declarations from which it was built.
Each of them changes the answers for its inputs and adds those for its new outputs, and looks at
nothing of the graph but the answers that were there before.
-/

namespace NetFootprint

/-- For each name whether the blob of this name is on the device, if there is one. -/
abbrev Residency := String → Option Bool

namespace Declaration

variable {d : Declaration} {on : Residency} {name : String}

def readsOnDevice (d : Declaration) : Bool :=
  (Graph.familyOf d).toOption.any LayerType.readsOnDevice

def handsOn (d : Declaration) : Bool := (Graph.familyOf d).toOption.any LayerType.handsOn

def outputNames (d : Declaration) : List String :=
  d.outputs.filterMap fun | .text name => some name | _ => none

theorem mem_outputNames : name ∈ d.outputNames ↔ .text name ∈ d.outputs := by
  rw [outputNames, List.mem_filterMap]
  constructor
  · rintro ⟨top, htop, hsome⟩
    cases top <;> simp_all
  · intro htop
    exact ⟨_, htop, rfl⟩

/-- What is on the device with one more layer: all that was there, the inputs of a layer that
computes there, and what such a layer makes or one that hands on what is there. -/
def carry (d : Declaration) (on : Residency) : Residency := fun name =>
  match on name with
  | some resident => some (resident || d.readsOnDevice && d.inputs.contains name)
  | none =>
    if d.outputNames.contains name then
      some (d.readsOnDevice || d.handsOn && d.inputs.any fun input => on input == some true)
    else none

theorem carry_known {resident : Bool} (h : on name = some resident) :
    d.carry on name = some (resident || d.readsOnDevice && d.inputs.contains name) := by
  rw [carry, h]

theorem carry_new (h : on name = none) (hout : name ∈ d.outputNames) :
    d.carry on name =
      some (d.readsOnDevice || d.handsOn && d.inputs.any fun input => on input == some true) := by
  rw [carry, h]
  exact if_pos (List.contains_iff_mem.mpr hout)

theorem carry_unknown (h : on name = none) (hout : name ∉ d.outputNames) :
    d.carry on name = none := by
  rw [carry, h]
  exact if_neg (mt List.contains_iff_mem.mp hout)

theorem off_of_handsOn (h : d.handsOn = true) : d.readsOnDevice = false := by
  rw [handsOn] at h
  rw [readsOnDevice]
  cases hf : Graph.familyOf d with
  | error e => rfl
  | ok t =>
    rw [hf] at h
    cases t <;> first | rfl | cases h

/-- A layer can be added where its inputs are known. If it hands on, it has a single input and makes
its outputs. -/
structure Fits (d : Declaration) (on : Residency) : Prop where
  known : ∀ input ∈ d.inputs, (on input).isSome = true
  single : d.handsOn = true → ∃ input, d.inputs = [input]
  fresh : d.handsOn = true → ∀ name ∈ d.outputNames, on name = none

end Declaration

namespace Graph

variable {g g' : Graph} {l : Layer} {draft : Draft} {ref : Nat} {phase : Phase}
  {elementSize : Option (List Float)} {ds : List Declaration} {d : Declaration} {name : String}

def residency (g : Graph) : Residency := fun name =>
  (g.find? (.text name)).map fun ref => (g.blob ref).resident

theorem residency_of_find? (h : g.find? (.text name) = some ref) :
    g.residency name = some (g.blob ref).resident := by
  rw [residency, h]
  rfl

theorem residency_eq_none : g.residency name = none ↔ g.contains (.text name) = false := by
  rw [residency, Option.map_eq_none_iff, contains, Option.isSome_eq_false_iff,
    Option.isNone_iff_eq_none]

/-! ## One step -/

theorem Adds.mem_inputs_iff (h : g.Adds l draft g') (hfind : g.find? (.text name) = some ref) :
    some ref ∈ l.inputs ↔ name ∈ l.declaration.inputs := by
  constructor
  · intro hin
    obtain ⟨other, hother, hfind'⟩ := h.find?_input hin
    have hname := (name_of_find? hfind).symm.trans (name_of_find? hfind')
    rwa [Value.text.inj hname]
  · intro hname
    obtain ⟨ref', hin, hfind'⟩ := h.input_of_name hname
    rwa [Option.some.inj (hfind.symm.trans hfind')]

theorem Adds.handsOn_iff (h : g.Adds l draft g') :
    l.HandsOn g ↔ l.family.handsOn = true ∧
      l.declaration.inputs.any (fun input => g.residency input == some true) = true := by
  rw [Layer.HandsOn, List.any_eq_true]
  apply and_congr_right
  intro _
  constructor
  · rintro ⟨ref, hin, hres⟩
    obtain ⟨name, hname, hfind⟩ := h.find?_input hin
    exact ⟨name, hname, by rw [residency_of_find? hfind, hres]; rfl⟩
  · rintro ⟨name, hname, hres⟩
    obtain ⟨ref, hin, hfind⟩ := h.input_of_name hname
    rw [residency_of_find? hfind] at hres
    exact ⟨ref, hin, by simpa using hres⟩

theorem Adds.find?_new (h : g.Adds l draft g') (hg : g.Reached) (hg' : g'.Orderly)
    (htext : ∀ top ∈ l.declaration.outputs, ∃ name, top = .text name)
    (hfree : g.contains (.text name) = false) (hout : .text name ∈ l.declaration.outputs) :
    ∃ ref, g'.find? (.text name) = some ref ∧ g.blobs.length ≤ ref ∧ ref < g'.blobs.length := by
  obtain ⟨ref, href, hname⟩ := exists_of_mem_right (h.outputs_named htext).flip hout
  have hfind := hg'.find?_iff.mpr ⟨h.output_registered href, hname⟩
  exact ⟨ref, hfind, h.new_of_free hg hname hfree, h.lt_of_mem href⟩

theorem readsOnDevice_of_family {t : LayerType} (h : familyOf d = .ok t) :
    d.readsOnDevice = t.readsOnDevice := by
  rw [Declaration.readsOnDevice, h]
  rfl

theorem handsOn_of_family {t : LayerType} (h : familyOf d = .ok t) : d.handsOn = t.handsOn := by
  rw [Declaration.handsOn, h]
  rfl

/-- With one more declaration the answers change as the declaration says. -/
theorem Built.residency_extend (h : Built phase elementSize ds g) (hnamed : d.Named)
    (hd : g.extend d = .ok g') : g'.residency = d.carry g.residency := by
  have hbuilt := h.extend hnamed.text hd
  obtain ⟨l, draft, line, -, ha, rfl, hfamily, -⟩ := extend_ok h.reached hd
  have hplaced := h.orderly.placed
  funext name
  cases hfind : g.find? (.text name) with
  | some ref =>
    have hlt := hplaced ref (mem_registered_of_find? hfind)
    rw [residency_of_find? (ha.extends.find? hplaced hfind),
      Declaration.carry_known (residency_of_find? hfind), readsOnDevice_of_family hfamily]
    apply congrArg some
    rw [Bool.eq_iff_iff, ha.resident_old_iff hlt, ha.mem_inputs_iff hfind, Bool.or_eq_true,
      Bool.and_eq_true, List.contains_iff_mem]
  | none =>
    have hfree : g.residency name = none := by
      rw [residency, hfind]
      rfl
    have hunknown := residency_eq_none.mp hfree
    by_cases hout : .text name ∈ l.declaration.outputs
    · obtain ⟨ref, hfind', hnew, hlt⟩ :=
        ha.find?_new h.reached hbuilt.orderly hnamed.text hunknown hout
      rw [residency_of_find? hfind', Declaration.carry_new hfree
        (Declaration.mem_outputNames.mpr hout), readsOnDevice_of_family hfamily,
        handsOn_of_family hfamily]
      apply congrArg some
      rw [Bool.eq_iff_iff, ha.resident_new_iff hplaced hlt hnew, ha.handsOn_iff, Bool.or_eq_true,
        Bool.and_eq_true]
    · rw [Declaration.carry_unknown hfree (mt Declaration.mem_outputNames.mp hout),
        residency_eq_none, Bool.eq_false_iff]
      intro hknown
      rcases (ha.contains_iff h.orderly hbuilt.orderly hnamed.text).mp hknown with hold | hnew
      · rw [hunknown] at hold
        cases hold
      · exact hout hnew

theorem Built.fits (h : Built phase elementSize ds g) (hd : g.extend d = .ok g') :
    d.Fits g.residency := by
  obtain ⟨l, draft, line, -, ha, rfl, hfamily, -⟩ := extend_ok h.reached hd
  have hvalue (hhands : l.declaration.handsOn = true) :
      ∃ body, (g.siteOf l.declaration l.inputs).valueLayer body = .ok draft := by
    have hdrafted := ha.drafted
    rw [handsOn_of_family hfamily] at hhands
    generalize l.family = t at hdrafted hhands
    cases t with
    | valueTransformation | valueAugmentation => exact ⟨_, hdrafted⟩
    | _ => cases hhands
  constructor
  · intro input hin
    obtain ⟨ref, -, hfind⟩ := ha.input_of_name hin
    rw [residency_of_find? hfind]
    rfl
  · intro hhands
    obtain ⟨body, hbody⟩ := hvalue hhands
    obtain ⟨src, _, _, hin, -⟩ := Site.valueLayer_ok hbody
    have hlength := congrArg List.length hin
    rw [siteOf, List.length_map, ← ha.found.length_eq] at hlength
    exact List.length_eq_one_iff.mp hlength
  · intro hhands name hout
    obtain ⟨body, hbody⟩ := hvalue hhands
    obtain ⟨src, top, _, -, hone, hfree, -⟩ := Site.valueLayer_ok hbody
    rw [Declaration.mem_outputNames, show l.declaration.outputs = [top] from hone,
      List.mem_singleton] at hout
    rw [residency_eq_none, hout]
    exact (Site.requireFresh_eq_ok.mp hfree).2

/-! ## Runs -/

theorem Built.residency_extendAll (h : Built phase elementSize ds g) {more : List Declaration}
    (hnamed : ∀ d ∈ more, d.Named) (hg : g.extendAll more = .ok g') :
    g'.residency = more.foldl (fun on d => d.carry on) g.residency := by
  induction more generalizing g ds with
  | nil =>
    obtain rfl := pure_eq_ok.mp hg
    rfl
  | cons d rest ih =>
    obtain ⟨hd, hrest⟩ := List.forall_mem_cons.mp hnamed
    obtain ⟨next, hnext, hg⟩ := extendAll_cons_eq_ok.mp hg
    rw [List.foldl_cons, ← h.residency_extend hd hnext]
    exact ih (h.extend hd.text hnext) hrest hg

end Graph

end NetFootprint
