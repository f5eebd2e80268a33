import NetFootprint.Proofs.Graph.Integrity

/-!
# What is on the device, and why

A blob is on the device for one of three reasons: its layer computes there, its layer hands on what
its input had when the layer was created, or a registered layer that computes there and was created
later reads it. A creation that registers its layer puts exactly the inputs of the layer on the
device, and all other creations put nothing there, so these reasons are all there are.
-/

namespace NetFootprint

/-- Whether layers of a family hand on to their output whether their input is on the device. -/
def LayerType.handsOn : LayerType → Bool
  | .valueTransformation | .valueAugmentation => true
  | _ => false

namespace Site

variable {s : Site} {d : Draft} {t : LayerType} {b : Blob}

theorem resident_newBlob {k : Sketch} (h : s.newBlob k = .ok b) : b.resident = k.resident := by
  obtain ⟨-, rfl⟩ := newBlob_eq_ok.mp h
  rfl

theorem resident_made (h : s.layer t = .ok d) (hb : .made b ∈ d.outputs) :
    b.resident = (t.readsOnDevice || (t.handsOn && s.inputs.any (·.any Blob.resident))) := by
  by_cases ht : t.readsOnDevice = true
  · rw [(layer_flagged h hb).resident ht, ht, Bool.true_or]
  cases t with
  | convolution | deconvolution | pooling | concat | relu | dropout | softmax | softmaxWithLoss =>
    exact absurd rfl ht
  | input | data | hdf5Data =>
    obtain ⟨shapes, outputs, -, -, -, -, ho, rfl⟩ := sourceLayer_ok h
    obtain ⟨p, -, hp⟩ := exists_of_mem_right ho hb
    obtain ⟨extents, made, -, -, -, hmade, heq⟩ := sourceBlob_ok hp
    obtain rfl : b = made := Output.made.inj heq
    exact resident_newBlob hmade
  | valueTransformation | valueAugmentation =>
    obtain ⟨src, top, made, hin, -, -, hmade, rfl⟩ := valueLayer_ok h
    obtain rfl := Output.made.inj (List.mem_singleton.mp hb)
    simp [resident_newBlob hmade, hin, LayerType.readsOnDevice, LayerType.handsOn]
  | createDeformation =>
    obtain ⟨_, _, _, _, _, _, made, -, -, -, -, -, -, -, -, hmade, rfl⟩ :=
      createDeformationLayer_ok h
    obtain rfl := Output.made.inj (List.mem_singleton.mp hb)
    exact resident_newBlob hmade
  | applyDeformation =>
    obtain ⟨_, _, _, _, _, _, made, -, -, -, -, -, -, -, hmade, rfl⟩ := applyDeformationLayer_ok h
    obtain rfl := Output.made.inj (List.mem_singleton.mp hb)
    exact resident_newBlob hmade

end Site

/-- The layer hands on what its input has, and in the given graph its input is on the device. -/
def Layer.HandsOn (l : Layer) (g : Graph) : Prop :=
  l.family.handsOn = true ∧ ∃ ref, some ref ∈ l.inputs ∧ (g.blob ref).resident = true

namespace Graph

variable {g g' : Graph} {l : Layer} {draft : Draft} {ref j : Nat}

/-- A layer from an index on computes on the device and reads the blob at a place. -/
def ReadFrom (g : Graph) (first ref : Nat) : Prop :=
  ∃ k ≥ first, ∃ l, g.layers[k]? = some l ∧ l.family.readsOnDevice = true ∧ some ref ∈ l.inputs

/-! ## One step -/

theorem Adds.mem_leading_iff (h : g.Adds l draft g') : ref ∈ l.leading ↔ some ref ∈ l.inputs := by
  constructor
  · intro hlead
    obtain ⟨input, hin, rfl⟩ := List.mem_filterMap.mp hlead
    exact (List.takeWhile_prefix _).subset hin
  · exact h.mem_leading

theorem Adds.resident_old_iff (h : g.Adds l draft g') (href : ref < g.blobs.length) :
    (g'.blob ref).resident = true ↔ (g.blob ref).resident = true ∨
      l.family.readsOnDevice = true ∧ some ref ∈ l.inputs := by
  rw [h.resident_old href, Bool.or_eq_true, Bool.and_eq_true, List.contains_iff_mem,
    h.mem_leading_iff]

/-- A layer does not read what it makes, so registering it leaves a new blob where it is. -/
theorem Adds.resident_new (h : g.Adds l draft g')
    (hplaced : ∀ ref ∈ g.registered, ref < g.blobs.length) (hlt : ref < g'.blobs.length)
    (hnew : g.blobs.length ≤ ref) :
    ∃ b, .made b ∈ draft.outputs ∧ (g'.blob ref).resident = b.resident := by
  obtain ⟨rank, hg'⟩ := h.taken
  have hlen : ref < (g.grown draft).blobs.length := by rwa [hg', length_blobs_accepted] at hlt
  have hat : ref - g.blobs.length < (madeBlobs draft.outputs).length := by
    rw [grown, List.length_append] at hlen
    omega
  have hblob : (g.grown draft).blob ref = (madeBlobs draft.outputs)[ref - g.blobs.length] := by
    simp [blob, grown, List.getD_eq_getElem?_getD, List.getElem?_append_right hnew, hat]
  have hunread : l.leading.contains ref = false := by
    by_contra hread
    have hin : some ref ∈ l.inputs := h.mem_leading_iff.mp (by simpa using hread)
    obtain ⟨r, hsome, hr⟩ := h.inputs_registered hin
    obtain rfl := Option.some.inj hsome
    exact absurd (hplaced ref hr) (Nat.not_lt.mpr hnew)
  refine ⟨_, mem_madeBlobs.mp (List.getElem_mem hat), ?_⟩
  rw [hg', resident_accepted hlen, hunread, hblob, Bool.and_false, Bool.or_false]

theorem Adds.resident_new_iff (h : g.Adds l draft g')
    (hplaced : ∀ ref ∈ g.registered, ref < g.blobs.length) (hlt : ref < g'.blobs.length)
    (hnew : g.blobs.length ≤ ref) :
    (g'.blob ref).resident = true ↔ l.family.readsOnDevice = true ∨ l.HandsOn g := by
  obtain ⟨b, hmade, hres⟩ := h.resident_new hplaced hlt hnew
  have hinput : ((g.siteOf l.declaration l.inputs).inputs.any (·.any Blob.resident)) = true ↔
      ∃ r, some r ∈ l.inputs ∧ (g.blob r).resident = true := by
    simp only [siteOf, List.any_map, List.any_eq_true, Function.comp_apply]
    constructor
    · rintro ⟨input, hin, hr⟩
      obtain ⟨r, rfl, -⟩ := h.inputs_registered hin
      exact ⟨r, hin, by simpa using hr⟩
    · rintro ⟨r, hin, hr⟩
      exact ⟨some r, hin, by simpa using hr⟩
  rw [hres, Site.resident_made h.drafted hmade, Bool.or_eq_true, Bool.and_eq_true, hinput,
    Layer.HandsOn]

/-! ## Serial numbers -/

/-- Registered blobs are there, and every blob was made by a layer that was built, registered or
not. -/
structure Tidy (g : Graph) : Prop where
  placed : ∀ ref ∈ g.registered, ref < g.blobs.length
  produced : ∀ ref < g.blobs.length, ∃ p, (g.blob ref).producer = some p ∧ p.serial < g.built

theorem Tidy.empty (phase : Phase) (elementSize : Option (List Float)) :
    (Graph.empty phase elementSize).Tidy where
  placed := by simp [Graph.empty]
  produced := by simp [Graph.empty]

theorem extends_grown (g : Graph) (draft : Draft) : g.Extends (g.grown draft) := by
  have h : g.Persists (g.grown draft) := .placing rfl rfl rfl rfl rfl
  exact h.grown

theorem Tidy.grown (h : g.Tidy) {d : Declaration} {refs : List (Option Nat)} {t : LayerType}
    (hd : (g.siteOf d refs).layer t = .ok draft) : (g.grown draft).Tidy where
  placed ref href := by
    rw [Graph.grown, List.length_append]
    exact Nat.lt_add_right _ (h.placed ref href)
  produced := by
    intro ref href
    by_cases hold : ref < g.blobs.length
    · obtain ⟨p, hp, hlt⟩ := h.produced ref hold
      rw [blob_grown_of_lt hold]
      exact ⟨p, hp, Nat.lt_succ_of_lt hlt⟩
    · rw [Graph.grown, List.length_append] at href
      have hat : ref - g.blobs.length < (madeBlobs draft.outputs).length := by omega
      have hblob : (g.grown draft).blob ref = (madeBlobs draft.outputs)[ref - g.blobs.length] := by
        simp [blob, Graph.grown, List.getD_eq_getElem?_getD,
          List.getElem?_append_right (Nat.le_of_not_lt hold), hat]
      obtain ⟨top, -, hmakes⟩ :=
        exists_of_mem_right (Site.layer_outputs hd) (mem_madeBlobs.mp (List.getElem_mem hat))
      rw [hblob]
      cases hmakes with
      | made k _ _ _ hmade _ =>
        obtain ⟨-, hb⟩ := Site.newBlob_eq_ok.mp hmade
        rw [← hb]
        exact ⟨_, rfl, Nat.lt_succ_self _⟩

theorem built_accepted {fresh : List Nat} {rank : Option Int} :
    (g.accepted l fresh rank).built = g.built := by
  rw [accepted, publish, foldl_register_eq, marked_eq, withRank_eq]
  rfl

theorem Adds.tidy (h : g.Adds l draft g') (hg : g.Tidy) : g'.Tidy := by
  obtain ⟨rank, hg'⟩ := h.taken
  have hgrown := hg.grown h.drafted
  constructor
  · intro ref href
    rw [h.registered, List.mem_append, List.mem_range'_1] at href
    rcases href with hold | hnew
    · exact Nat.lt_of_lt_of_le (hg.placed ref hold) h.extends.size
    · rw [h.size]
      exact hnew.2
  · intro ref href
    rw [hg', length_blobs_accepted] at href
    rw [hg', Blob.of_fixed Blob.producer (fixed_blob_accepted ref), built_accepted]
    exact hgrown.produced ref href

theorem Adds.new_of_owned (h : g.Adds l draft g') (hg : g.Tidy) {final : Graph}
    (hfinal : g'.Extends final) (hown : ref ∈ final.ownedRefs l) : g.blobs.length ≤ ref := by
  by_contra hlt
  have hold : ref < g.blobs.length := Nat.lt_of_not_le hlt
  obtain ⟨p, hp, hserial⟩ := hg.produced ref hold
  have hsame := (h.extends.trans hfinal).producer hold
  rw [(mem_ownedRefs.mp hown).2, hp] at hsame
  obtain rfl := Option.some.inj hsame
  rw [Layer.producer, h.serial] at hserial
  exact Nat.lt_irrefl _ hserial

end Graph

/-- A call that creates a layer on the blobs it names, and may register it or not. -/
def Call.ByName : Call → Prop
  | .create _ inputs | .build _ inputs => inputs = none
  | _ => False

namespace Session

open NetFootprint.Graph

variable {s : Session} {c : Call} {calls : List Call} {l : Layer} {ref j : Nat}

/-! ## Runs -/

theorem run_cons (s : Session) (c : Call) (calls : List Call) :
    s.run (c :: calls) = (s.step c).1.run calls :=
  rfl

theorem step_byName_cases (hplaced : ∀ ref ∈ s.graph.registered, ref < s.graph.blobs.length)
    (hc : c.ByName) :
    (s.step c).1.graph = s.graph ∨
      (∃ d refs t draft, (s.graph.siteOf d refs).layer t = .ok draft ∧
        (s.step c).1.graph = s.graph.grown draft) ∨
      ∃ d l draft, c = .create d none ∧ (s.graph.create d none).result = .ok l ∧
        s.graph.Adds l draft (s.step c).1.graph := by
  have hheld : s.holds none = true := rfl
  cases c with
  | create d inputs =>
    obtain rfl : inputs = none := hc
    rcases create_adds hplaced d with ⟨e, he⟩ | ⟨l, draft, g', hcreate, ha⟩
    · refine .inl ?_
      simp only [step, hheld, if_true, slots, Option.map_none, he]
    · have hstep : (s.step (.create d none)).1.graph = g' := by
        simp only [step, hheld, if_true, slots, Option.map_none, hcreate]
      rw [hstep]
      exact .inr (.inr ⟨d, l, draft, rfl, by rw [hcreate], ha⟩)
  | build d inputs =>
    obtain rfl : inputs = none := hc
    cases hb : s.graph.build d none with
    | error e =>
      refine .inl ?_
      simp only [step, hheld, if_true, slots, Option.map_none, hb]
    | ok made =>
      obtain ⟨l, built⟩ := made
      obtain ⟨t, refs, draft, -, -, hd, -, rfl⟩ := build_ok hb
      refine .inr (.inl ⟨d, refs, t, draft, hd, ?_⟩)
      simp only [step, hheld, if_true, slots, Option.map_none, hb]
  | describe b | mark ref | append handle | commit handle => exact hc.elim

theorem step_byName (hs : s.graph.Tidy) (hc : c.ByName) :
    ((s.step c).1.graph.Tidy ∧ s.graph.Extends (s.step c).1.graph) ∧
      ((s.step c).1.graph.layers = s.graph.layers ∧
          (∀ ref < s.graph.blobs.length,
            (s.step c).1.graph.blob ref = s.graph.blob ref) ∨
        ∃ d l draft, c = .create d none ∧ (s.graph.create d none).result = .ok l ∧
          s.graph.Adds l draft (s.step c).1.graph) := by
  rcases step_byName_cases hs.placed hc with hsame | ⟨d, refs, t, draft, hd, hstep⟩ |
    ⟨d, l, draft, hcreate, hresult, ha⟩
  · rw [hsame]
    exact ⟨⟨hs, .refl _⟩, .inl ⟨rfl, fun _ _ => rfl⟩⟩
  · rw [hstep]
    exact ⟨⟨hs.grown hd, extends_grown _ _⟩, .inl ⟨rfl, fun ref href => blob_grown_of_lt href⟩⟩
  · exact ⟨⟨ha.tidy hs, ha.extends⟩, .inr ⟨d, l, draft, hcreate, hresult, ha⟩⟩

theorem run_byName (hs : s.graph.Tidy) (hcalls : ∀ c ∈ calls, c.ByName) :
    (s.run calls).graph.Tidy ∧ s.graph.Extends (s.run calls).graph := by
  induction calls generalizing s with
  | nil => exact ⟨hs, .refl _⟩
  | cons c rest ih =>
    obtain ⟨hc, hrest⟩ := List.forall_mem_cons.mp hcalls
    obtain ⟨⟨hnext, hgrown⟩, -⟩ := step_byName hs hc
    obtain ⟨hend, hgrown'⟩ := ih hnext hrest
    exact ⟨hend, hgrown.trans hgrown'⟩

/-- A blob gets onto the device exactly if a layer that is registered later puts it there. -/
theorem resident_run (hs : s.graph.Tidy) (hcalls : ∀ c ∈ calls, c.ByName)
    (href : ref < s.graph.blobs.length) :
    ((s.run calls).graph.blob ref).resident = true ↔ (s.graph.blob ref).resident = true ∨
      (s.run calls).graph.ReadFrom s.graph.layers.length ref := by
  induction calls generalizing s with
  | nil =>
    refine ⟨.inl, fun hor => hor.resolve_right ?_⟩
    rintro ⟨k, hk, l, hl, -⟩
    exact absurd (List.getElem?_eq_some_iff.mp hl).1 (Nat.not_lt.mpr hk)
  | cons c rest ih =>
    obtain ⟨hc, hrest⟩ := List.forall_mem_cons.mp hcalls
    obtain ⟨⟨hnext, hgrown⟩, hcase⟩ := step_byName hs hc
    rw [run_cons, ih hnext hrest (Nat.lt_of_lt_of_le href hgrown.size)]
    rcases hcase with ⟨hlayers, hsame⟩ | ⟨d, l, draft, -, -, ha⟩
    · rw [hlayers, hsame ref href]
    · rw [ha.resident_old_iff href, or_assoc]
      refine or_congr_right ?_
      obtain ⟨more, hmore⟩ := (run_byName hnext hrest).2.layers
      have hself : ((s.step c).1.run rest).graph.layers[s.graph.layers.length]? = some l := by
        rw [← hmore, ha.layers]
        simp
      have hlength : (s.step c).1.graph.layers.length = s.graph.layers.length + 1 := by
        rw [ha.layers]
        simp
      -- the layer that is added now, or one that is added later
      constructor
      · rintro (⟨hdevice, hin⟩ | ⟨k, hk, l', hl', hread⟩)
        · exact ⟨s.graph.layers.length, Nat.le_refl _, l, hself, hdevice, hin⟩
        · exact ⟨k, by omega, l', hl', hread⟩
      · rintro ⟨k, hk, l', hl', hread⟩
        by_cases heq : k = s.graph.layers.length
        · subst heq
          obtain rfl := Option.some.inj (hself.symm.trans hl')
          exact .inl hread
        · exact .inr ⟨k, by omega, l', hl', hread⟩

/-- Each layer was registered by one of the calls of a run. -/
theorem registered_at (hs : s.graph.Tidy) (hcalls : ∀ c ∈ calls, c.ByName)
    (hfirst : s.graph.layers.length ≤ j) (hl : (s.run calls).graph.layers[j]? = some l) :
    ∃ done d todo draft, calls = done ++ .create d none :: todo ∧
      (s.run done).graph.layers = (s.run calls).graph.layers.take j ∧
      ((s.run done).graph.create d none).result = .ok l ∧
      (s.run done).graph.Adds l draft (s.run (done ++ [.create d none])).graph := by
  induction calls generalizing s with
  | nil => exact absurd (List.getElem?_eq_some_iff.mp hl).1 (Nat.not_lt.mpr hfirst)
  | cons c rest ih =>
    obtain ⟨hc, hrest⟩ := List.forall_mem_cons.mp hcalls
    obtain ⟨⟨hnext, -⟩, hcase⟩ := step_byName hs hc
    rw [run_cons] at hl ⊢
    by_cases hlater : (s.step c).1.graph.layers.length ≤ j
    · obtain ⟨done, d, todo, draft, rfl, hlayers, hresult, ha⟩ := ih hnext hrest hlater hl
      exact ⟨c :: done, d, todo, draft, rfl, hlayers, hresult, ha⟩
    · rcases hcase with ⟨hsame, -⟩ | ⟨d, l₀, draft, rfl, hresult, ha⟩
      · rw [hsame] at hlater
        exact absurd hfirst hlater
      · have hj : j = s.graph.layers.length := by
          rw [ha.layers, List.length_append, List.length_singleton] at hlater
          omega
        obtain ⟨more, hmore⟩ := (run_byName hnext hrest).2.layers
        rw [← hmore, ha.layers, hj] at hl ⊢
        obtain rfl : l₀ = l := by simpa using hl
        refine ⟨[], d, rest, draft, rfl, ?_, hresult, ha⟩
        rw [List.append_assoc, List.take_left]
        rfl

end Session

namespace Graph

variable {g g' : Graph} {l : Layer} {draft : Draft} {ref j : Nat}

/-- Why the blobs that a layer made are on the device, if the layer has the given index and was
created in the graph `before`. Blobs that are made off the device cost nothing there unless they are
read there. -/
structure ExactlyResident (g before : Graph) (j : Nat) (l : Layer) : Prop where
  resident : ∀ ref ∈ g.ownedRefs l, (g.blob ref).resident = true ↔
    l.family.readsOnDevice = true ∨ l.HandsOn before ∨ g.ReadFrom (j + 1) ref
  forwardBytes : l.family = .data ∨ l.family = .createDeformation ∨ l.family = .applyDeformation →
    ∀ ref ∈ g.ownedRefs l,
      (∀ l' ∈ g.layers, l'.family.readsOnDevice = true → some ref ∉ l'.inputs) →
      (g.blob ref).forwardBytes = .ok 0

theorem ExactlyResident.of_resident {before : Graph}
    (h : ∀ ref ∈ g.ownedRefs l, (g.blob ref).resident = true ↔
      l.family.readsOnDevice = true ∨ l.HandsOn before ∨ g.ReadFrom (j + 1) ref) :
    g.ExactlyResident before j l := by
  refine ⟨h, fun hfamily ref href hunread => ?_⟩
  have hoff : (g.blob ref).resident = false := by
    rw [Bool.eq_false_iff]
    intro hres
    rcases (h ref href).mp hres with hdevice | ⟨hhands, -⟩ | ⟨k, -, l', hl', hdevice, hin⟩
    · rcases hfamily with hf | hf | hf <;> simp [hf, LayerType.readsOnDevice] at hdevice
    · rcases hfamily with hf | hf | hf <;> simp [hf, LayerType.handsOn] at hhands
    · exact hunread l' (List.mem_of_getElem? hl') hdevice hin
  rw [Blob.forwardBytes, hoff]
  rfl

end Graph

namespace Session

variable {l : Layer} {j : Nat}

/-- After a run of creations by name, what the layer at an index made is on the device for one of
the three reasons only. The layer was registered by one of the creations, and what it handed on is
what its input had just before. -/
theorem run_exactlyResident (phase : Phase) (elementSize : Option (List Float))
    (calls : List Call) (hcalls : ∀ c ∈ calls, c.ByName)
    (hl : ((start phase elementSize).run calls).graph.layers[j]? = some l) :
    ∃ done d todo, calls = done ++ .create d none :: todo ∧
      ((start phase elementSize).run done).graph.layers =
        ((start phase elementSize).run calls).graph.layers.take j ∧
      (((start phase elementSize).run done).graph.create d none).result = .ok l ∧
      ((start phase elementSize).run calls).graph.ExactlyResident
        ((start phase elementSize).run done).graph j l := by
  have hstart : (start phase elementSize).graph.Tidy := .empty phase elementSize
  obtain ⟨done, d, todo, draft, rfl, hlayers, hresult, ha⟩ :=
    registered_at hstart hcalls (Nat.zero_le j) hl
  refine ⟨done, d, todo, rfl, hlayers, hresult, .of_resident fun ref href => ?_⟩
  have hdone := (run_byName hstart fun c hc => hcalls c (List.mem_append_left _ hc)).1
  have hafter := ha.tidy hdone
  have htodo : ∀ c ∈ todo, c.ByName := fun c hc => hcalls c (by simp [hc])
  have hend : (start phase elementSize).run (done ++ .create d none :: todo) =
      ((start phase elementSize).run (done ++ [.create d none])).run todo := by
    rw [run, run, run, ← List.foldl_append, List.append_assoc]
    rfl
  have hindex : ((start phase elementSize).run (done ++ [.create d none])).graph.layers.length =
      j + 1 := by
    have hj := (List.getElem?_eq_some_iff.mp hl).1
    rw [ha.layers, hlayers, List.length_append, List.length_take, List.length_singleton]
    omega
  rw [hend] at href ⊢
  have hnew := ha.new_of_owned hdone (run_byName hafter htodo).2 href
  have hlt := ha.lt_of_mem (Graph.mem_ownedRefs.mp href).1
  rw [resident_run hafter htodo hlt, hindex, ha.resident_new_iff hdone.placed hlt hnew, or_assoc]

/-- A layer on values, and a convolution that reads the same blob; a ReLU beside them is not
registered. -/
def scaledFirst : List Call :=
  [.create { plainLayer "Input" "source" [] "data" with
      params := [("shape", .list [.list [.int 1, .int 2, .int 3, .int 4]])] } none,
    .create (plainLayer "ValueTransformation" "scale" ["data"] "scaled") none,
    .build (plainLayer "ReLU" "relu" ["scaled"] "y") none,
    .create { plainLayer "Convolution" "conv" ["data"] "feature" with
      params := [("num_output", .int 8), ("kernel_size", .int 3)] } none]

theorem run_exactlyResident_scaledFirst :
    (∀ c ∈ scaledFirst, c.ByName) ∧
      ∃ l, ((start .test none).run scaledFirst).graph.layers[1]? = some l ∧
        ∃ done d todo, scaledFirst = done ++ .create d none :: todo ∧
          ((start .test none).run done).graph.layers =
            ((start .test none).run scaledFirst).graph.layers.take 1 ∧
          (((start .test none).run done).graph.create d none).result = .ok l ∧
          ((start .test none).run scaledFirst).graph.ExactlyResident
            ((start .test none).run done).graph 1 l := by
  have hcalls : ∀ c ∈ scaledFirst, c.ByName := by
    simp only [scaledFirst, List.forall_mem_cons]
    exact ⟨rfl, rfl, rfl, rfl, by simp⟩
  have hsome : ((start .test none).run scaledFirst).graph.layers[1]?.isSome = true := by
    decide +kernel
  obtain ⟨l, hl⟩ := Option.isSome_iff_exists.mp hsome
  exact ⟨hcalls, l, hl, run_exactlyResident .test none scaledFirst hcalls hl⟩

end Session

end NetFootprint
