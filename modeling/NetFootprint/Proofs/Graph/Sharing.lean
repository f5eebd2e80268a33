import Mathlib.Data.List.Pairwise
import NetFootprint.Proofs.Graph.Staged
import NetFootprint.Proofs.Graph.WellFormed

/-!
# Which blobs a creation shares

A layer that is created by name has the declared outputs, each known by its name from then on. An
output is an old blob only where a ReLU or Dropout layer names the same blob for an input and the
output at one position. So there is no other way to take a name that a registered blob has, nor to
take a new one twice.
-/

namespace NetFootprint

namespace Graph

variable {g g' : Graph} {l : Layer} {draft : Draft} {d : Declaration} {ref i : Nat} {name : String}

/-- A creation registered one layer with the declared outputs, all of them known by their names. Those
that were known before are inputs that the layer works on in place. -/
structure Shares (g : Graph) (d : Declaration) (l : Layer) (g' : Graph) : Prop where
  layers : g'.layers = g.layers ++ [l]
  declaration : l.declaration = d
  named : l.outputs.map (fun ref => (g'.blob ref).name) = d.outputs
  found : ∀ ref ∈ l.outputs, g'.find? (g'.blob ref).name = some ref
  known : ∀ (i ref : Nat), l.outputs[i]? = some ref →
    (ref ∈ g.registered ↔ (l.family = .relu ∨ l.family = .dropout) ∧
      ∃ name : String, d.inputs[i]? = some name ∧ d.outputs[i]? = some (.text name))
  same : ∀ (i ref : Nat), l.outputs[i]? = some ref → ref ∈ g.registered → l.inputs[i]? = some (some ref)

/-- An output of the declaration has the name of a registered blob, and is not the input of that name
at the same position of a ReLU or Dropout layer. -/
def Reuses (g : Graph) (d : Declaration) : Prop :=
  ∃ (i : Nat) (name : String), d.outputs[i]? = some (.text name) ∧ g.contains (.text name) = true ∧
    ¬ ((familyOf d = .ok .relu ∨ familyOf d = .ok .dropout) ∧ d.inputs[i]? = some name)

/-- Two outputs of the declaration have one name, which no registered blob has. -/
def Repeats (g : Graph) (d : Declaration) : Prop :=
  ∃ (i j : Nat) (name : String), i < j ∧ d.outputs[i]? = some (.text name) ∧
    d.outputs[j]? = some (.text name) ∧ g.contains (.text name) = false

/-! ## One step -/

theorem Adds.input_at (h : g.Adds l draft g') (hi : l.inputs[i]? = some (some ref)) :
    ∃ name, l.declaration.inputs[i]? = some name ∧ g.find? (.text name) = some ref := by
  obtain ⟨name, hname, r, hsome, hfind⟩ := exists_at_right h.found hi
  obtain rfl := Option.some.inj hsome
  exact ⟨name, hname, hfind⟩

theorem Adds.mem_registered_iff (h : g.Adds l draft g')
    (hplaced : ∀ ref ∈ g.registered, ref < g.blobs.length) (hout : ref ∈ l.outputs) :
    ref ∈ g.registered ↔ ref < g.blobs.length := by
  constructor
  · exact hplaced ref
  · intro hlt
    have hmem := h.output_registered hout
    rw [h.registered, List.mem_append] at hmem
    exact hmem.resolve_right fun hnew => Nat.not_lt.mpr (h.mem_new.mp hnew).2 hlt

theorem Adds.free_of_new (h : g.Adds l draft g') (hi : l.outputs[i]? = some ref)
    (hnew : g.blobs.length ≤ ref) : g.find? (g'.blob ref).name = none := by
  rcases h.output_at hi with ⟨-, b, ho, hb⟩ | ⟨hold, -⟩
  · rw [Blob.of_fixed Blob.name hb]
    exact made_name h.drafted (List.mem_of_getElem? ho)
  · exact absurd hnew (Nat.not_le.mpr hold)

/-- An output is known by its name afterwards: an old one already was, and no new one has the name of
another. -/
theorem Adds.find?_output (h : g.Adds l draft g')
    (hplaced : ∀ ref ∈ g.registered, ref < g.blobs.length) (hi : l.outputs[i]? = some ref)
    (hname : (g'.blob ref).name = .text name) : g'.find? (.text name) = some ref := by
  rcases h.output_at hi with ⟨hnew, -⟩ | ⟨hold, -, hin, -⟩
  · have hfree := h.free_of_new hi hnew
    rw [hname] at hfree
    have hmem := h.mem_new.mpr ⟨List.mem_of_getElem? hi, hnew⟩
    have hequals (r : Nat) :
        (g'.blob r).name.equals (.text name) = true ↔ (g'.blob r).name = .text name :=
      Value.equals_text_right
    have hsome : ((List.range' g.blobs.length (madeBlobs draft.outputs).length).find?
        fun r => (g'.blob r).name.equals (.text name)).isSome = true :=
      List.find?_isSome.mpr ⟨ref, hmem, (hequals ref).mpr hname⟩
    obtain ⟨other, hother⟩ := Option.isSome_iff_exists.mp hsome
    have hothername : (g'.blob other).name = .text name :=
      (hequals other).mp (List.find?_some (p := fun r => (g'.blob r).name.equals (.text name)) hother)
    have : Std.Symm fun a b : Nat =>
        ¬ ((g'.blob a).name = .text name ∧ (g'.blob b).name = .text name) :=
      ⟨fun a b hab hboth => hab hboth.symm⟩
    have hapart : (List.range' g.blobs.length (madeBlobs draft.outputs).length).Pairwise
        fun a b => ¬ ((g'.blob a).name = .text name ∧ (g'.blob b).name = .text name) := by
      refine h.apart.imp fun {a b} hne hboth => ?_
      rw [hboth.1, hboth.2, Value.equals_text] at hne
      simp at hne
    have hsame : other = ref := by
      by_contra hne
      exact hapart.forall (List.mem_of_find?_eq_some hother) hmem hne ⟨hothername, hname⟩
    have hnames : ∀ r ∈ g.registered, (g'.blob r).name = (g.blob r).name := fun r hr =>
      Blob.of_fixed Blob.name (h.fixed r (hplaced r hr))
    rw [find?_of_append h.registered hnames, hfree, Option.none_or, hother, hsame]
  · obtain ⟨n, -, hfind⟩ := h.input_at hin
    have hsame : Value.text n = .text name := by
      rw [← name_of_find? hfind, ← hname]
      exact (Blob.of_fixed Blob.name (h.fixed ref hold)).symm
    exact h.extends.find? hplaced (hsame ▸ hfind)

theorem Adds.output_named (h : g.Adds l draft g')
    (htext : ∀ top ∈ l.declaration.outputs, ∃ name, top = .text name)
    (hi : l.outputs[i]? = some ref) :
    ∃ name, l.declaration.outputs[i]? = some (.text name) ∧ (g'.blob ref).name = .text name := by
  obtain ⟨top, htop, hname⟩ := exists_at_right (h.outputs_named htext) hi
  obtain ⟨name, rfl⟩ := htext top (List.mem_of_getElem? htop)
  exact ⟨name, htop, hname⟩

/-- An output was there before exactly if a family that may work in place reads its name at the same
position. -/
theorem Adds.registered_iff (h : g.Adds l draft g')
    (hplaced : ∀ ref ∈ g.registered, ref < g.blobs.length) (hi : l.outputs[i]? = some ref)
    (hname : (g'.blob ref).name = .text name) :
    ref ∈ g.registered ↔ l.family.inPlace = true ∧ l.declaration.inputs[i]? = some name := by
  rw [h.mem_registered_iff hplaced (List.mem_of_getElem? hi)]
  constructor
  · intro hold
    rcases h.output_at hi with ⟨hnew, -⟩ | ⟨-, hplace, hin, -⟩
    · exact absurd hold (Nat.not_lt.mpr hnew)
    · obtain ⟨n, hn, hfind⟩ := h.input_at hin
      have hsame := Blob.of_fixed Blob.name (h.fixed ref hold)
      rw [hname, name_of_find? hfind] at hsame
      obtain rfl := Value.text.inj hsame
      exact ⟨hplace, hn⟩
  · rintro ⟨-, hn⟩
    by_contra hle
    have hfree := h.free_of_new hi (Nat.le_of_not_lt hle)
    obtain ⟨input, -, r, -, hfind⟩ := exists_at_right h.found.flip hn
    rw [hname, hfind] at hfree
    cases hfree

theorem Adds.shares (h : g.Adds l draft g')
    (hplaced : ∀ ref ∈ g.registered, ref < g.blobs.length)
    (htext : ∀ top ∈ l.declaration.outputs, ∃ name, top = .text name) :
    g.Shares l.declaration l g' where
  layers := h.layers
  declaration := rfl
  named := by
    rw [← List.forall₂_eq_eq_eq, List.forall₂_map_left_iff]
    exact (h.outputs_named htext).flip
  found := by
    intro ref href
    obtain ⟨i, hi⟩ := List.mem_iff_getElem?.mp href
    obtain ⟨name, -, hname⟩ := h.output_named htext hi
    rw [hname]
    exact h.find?_output hplaced hi hname
  known := by
    intro i ref hi
    obtain ⟨name, htop, hname⟩ := h.output_named htext hi
    rw [h.registered_iff hplaced hi hname, ← LayerType.inPlace_iff]
    refine and_congr_right fun _ => ⟨fun hn => ⟨name, hn, htop⟩, ?_⟩
    rintro ⟨n, hn, htop'⟩
    rwa [Value.text.inj (Option.some.inj (htop.symm.trans htop'))]
  same := by
    intro i ref hi hold
    rcases h.output_at hi with ⟨hnew, -⟩ | ⟨-, -, hin, -⟩
    · exact absurd (hplaced ref hold) (Nat.not_lt.mpr hnew)
    · exact hin

/-! ## Names that cannot be taken -/

theorem Shares.output_at (h : g.Shares d l g') (hd : d.outputs[i]? = some (.text name)) :
    ∃ ref, l.outputs[i]? = some ref ∧ g'.find? (.text name) = some ref := by
  rw [← h.named, List.getElem?_map, Option.map_eq_some_iff] at hd
  obtain ⟨ref, hi, hname⟩ := hd
  refine ⟨ref, hi, ?_⟩
  rw [← hname]
  exact h.found ref (List.mem_of_getElem? hi)

theorem Adds.not_reuses (h : g.Adds l draft g')
    (hplaced : ∀ ref ∈ g.registered, ref < g.blobs.length)
    (hfamily : familyOf l.declaration = .ok l.family) (hshares : g.Shares l.declaration l g') :
    ¬ g.Reuses l.declaration := by
  rintro ⟨i, name, hi, hknown, hother⟩
  obtain ⟨ref, href, hfind⟩ := hshares.output_at hi
  obtain ⟨r, hr⟩ := Option.isSome_iff_exists.mp hknown
  obtain rfl : r = ref := Option.some.inj ((h.extends.find? hplaced hr).symm.trans hfind)
  obtain ⟨hplace, n, hin, hout⟩ := (hshares.known i r href).mp (mem_registered_of_find? hr)
  obtain rfl := Value.text.inj (Option.some.inj (hi.symm.trans hout))
  refine hother ⟨?_, hin⟩
  rcases hplace with heq | heq
  · exact .inl (by rw [hfamily, heq])
  · exact .inr (by rw [hfamily, heq])

theorem Adds.not_repeats (h : g.Adds l draft g') (hshares : g.Shares l.declaration l g') :
    ¬ g.Repeats l.declaration := by
  rintro ⟨i, j, name, hij, hi, hj, hfree⟩
  obtain ⟨ref, href, hfind⟩ := hshares.output_at hi
  obtain ⟨r, hr, hfind'⟩ := hshares.output_at hj
  obtain rfl : ref = r := Option.some.inj (hfind.symm.trans hfind')
  have hnew : g.blobs.length ≤ ref := by
    rcases h.output_at href with ⟨hnew, -⟩ | ⟨hold, -, hin, -⟩
    · exact hnew
    · -- an input of that name would be known by it
      obtain ⟨n, -, hn⟩ := h.input_at hin
      have hsame : Value.text n = .text name := by
        rw [← name_of_find? hn, ← name_of_find? hfind]
        exact (Blob.of_fixed Blob.name (h.fixed ref hold)).symm
      rw [contains, ← hsame, hn] at hfree
      cases hfree
  have hnodup : (l.outputs.filter fun ref => decide (g.blobs.length ≤ ref)).Nodup := by
    rw [h.fresh]
    exact List.nodup_range'
  obtain ⟨hilt, hat⟩ := List.getElem?_eq_some_iff.mp href
  obtain ⟨hjlt, hat'⟩ := List.getElem?_eq_some_iff.mp hr
  have hpairs := List.pairwise_iff_getElem.mp (List.pairwise_filter.mp hnodup) i j hilt hjlt hij
  rw [hat, hat'] at hpairs
  exact hpairs (by simpa using hnew) (by simpa using hnew) rfl

end Graph

namespace Session

open NetFootprint.Graph

/-- After a run of creations by name, one more of them registers a layer that shares blobs in place
only, or changes nothing; and it changes nothing if it would take a name in any other way. -/
theorem run_shares (phase : Phase) (elementSize : Option (List Float)) (calls : List Call)
    (hcalls : ∀ c ∈ calls, c.ByName) (d : Declaration)
    (htext : ∀ top ∈ d.outputs, ∃ name, top = .text name) :
    (∀ l g', ((start phase elementSize).run calls).graph.create d none = ⟨g', .ok l⟩ →
        ((start phase elementSize).run calls).graph.Shares d l g') ∧
      (((start phase elementSize).run calls).graph.Reuses d ∨
          ((start phase elementSize).run calls).graph.Repeats d →
        ∃ e, ((start phase elementSize).run calls).graph.create d none =
          ⟨((start phase elementSize).run calls).graph, .error e⟩) := by
  have hplaced := (staged_start phase elementSize hcalls).tidy.placed
  constructor
  · intro l g' hcreate
    obtain ⟨draft, ha, rfl, -⟩ := create_adds_of_ok hplaced hcreate
    exact ha.shares hplaced htext
  · intro hname
    rcases create_adds hplaced d with herror | ⟨l, -, g', hcreate, -⟩
    · exact herror
    · obtain ⟨draft, ha, rfl, hfamily⟩ := create_adds_of_ok hplaced hcreate
      have hshares := ha.shares hplaced htext
      rcases hname with hreuses | hrepeats
      · exact absurd hreuses (ha.not_reuses hplaced hfamily hshares)
      · exact absurd hrepeats (ha.not_repeats hshares)

def twoSources : List Call :=
  [.create { plainLayer "Input" "source" [] "data" with
      outputs := [.text "data", .text "other"]
      params := [("shape", .list [.list [.int 1, .int 2, .int 3, .int 4],
        .list [.int 1, .int 2, .int 3, .int 4]])] } none]

/-- A ReLU that works on the first of its inputs in place, and makes a blob for the second. -/
def halfInPlace : Declaration :=
  { plainLayer "ReLU" "relu" ["data", "other"] "data" with outputs := [.text "data", .text "y"] }

/-- A ReLU that would write to the other input each time. -/
def crosswise : Declaration :=
  { plainLayer "ReLU" "relu" ["data", "other"] "other" with
    outputs := [.text "other", .text "data"] }

theorem run_shares_twoSources :
    (∀ c ∈ twoSources, c.ByName) ∧
      (∃ l g', ((start .test none).run twoSources).graph.create halfInPlace none = ⟨g', .ok l⟩ ∧
        ((start .test none).run twoSources).graph.Shares halfInPlace l g') ∧
      ((start .test none).run twoSources).graph.Reuses crosswise ∧
      ∃ e, ((start .test none).run twoSources).graph.create crosswise none =
        ⟨((start .test none).run twoSources).graph, .error e⟩ := by
  have hcalls : ∀ c ∈ twoSources, c.ByName := by
    simp only [twoSources, List.forall_mem_cons]
    exact ⟨rfl, by simp⟩
  have hsome : (((start .test none).run twoSources).graph.create halfInPlace none).result.toOption
      |>.isSome := by
    decide +kernel
  have hreuses : ((start .test none).run twoSources).graph.Reuses crosswise := by
    refine ⟨0, "other", rfl, by decide +kernel, fun hplace => ?_⟩
    exact absurd hplace.2 (by decide)
  obtain ⟨l, hl⟩ := toOption_isSome_iff.mp hsome
  have hcreate : ((start .test none).run twoSources).graph.create halfInPlace none =
      ⟨(((start .test none).run twoSources).graph.create halfInPlace none).graph, .ok l⟩ := by
    rw [← hl]
  refine ⟨hcalls, ⟨l, _, hcreate, ?_⟩, hreuses, ?_⟩
  · refine (run_shares .test none twoSources hcalls halfInPlace ?_).1 l _ hcreate
    simp [halfInPlace, plainLayer]
  · refine (run_shares .test none twoSources hcalls crosswise ?_).2 (.inl hreuses)
    simp [crosswise, plainLayer]

end Session

end NetFootprint
