import NetFootprint.Proofs.Graph.Rank
import NetFootprint.Proofs.Layer.Explained

/-!
# How creations are refused

A creation by name in a reached graph is refused with a fault that explains itself: by an unknown
tag, a missing input or a check on the names and axes of the outputs, or by the family of the layer,
in one of the ways that `Site.Escapes` lists.
-/

namespace NetFootprint.Graph

variable {g : Graph} {l : Layer} {d : Declaration}

/-- Where the layer of a declaration is built that names its inputs. -/
def namedSite (g : Graph) (d : Declaration) : Site where
  graph := g
  declaration := d
  inputs := d.inputs.map (fun name => (g.find? (.text name)).map g.blob)

/-! ## Names -/

theorem familyOf_fails (d : Declaration) : FailsOnly (Explained d) (familyOf d) := by
  unfold familyOf
  split
  · exact .ok _
  · exact .error (.of_context rfl (List.append_nil _).symm)

theorem resolveInputs_fails (g : Graph) (d : Declaration) :
    FailsOnly (Explained d) (g.resolveInputs d) := by
  refine .mapM fun name _ => .bind (.of_ok ⟨.text name, rfl⟩) fun key _ => ?_
  split
  · exact .ok _
  · exact .error (.of_context rfl rfl)

theorem namedSite_eq {refs : List (Option Nat)} (h : List.Forall₂ g.Found d.inputs refs) :
    g.siteOf d refs = g.namedSite d := by
  have hinputs : refs.map (·.map g.blob) =
      d.inputs.map (fun name => (g.find? (.text name)).map g.blob) := by
    generalize d.inputs = names at h ⊢
    induction h with
    | nil => rfl
    | cons hfound _ ih =>
      obtain ⟨ref, rfl, hfind⟩ := hfound
      rw [List.map_cons, List.map_cons, ih, hfind]
  rw [siteOf, namedSite, hinputs]

/-! ## Sites of reached graphs -/

theorem Reached.regular (h : g.Reached) :
    ∀ b ∈ g.registeredBlobs, b.Regular (g.spatialRank.getD 0) := by
  intro b hb
  obtain ⟨ref, href, rfl⟩ := List.mem_map.mp hb
  constructor
  · exact h.extents ref href
  · intro hs
    exact (h.scalar ref href hs).1
  · intro hs
    obtain ⟨n, hn, hlen⟩ := h.rank ref href hs
    rw [hn, hlen]
    rfl

theorem Reached.settled (h : g.Reached) (hkeys : ∀ top ∈ d.outputs, top.isKey = true)
    {refs : List (Option Nat)} (hfound : List.Forall₂ g.Found d.inputs refs) :
    (g.siteOf d refs).Settled (g.spatialRank.getD 0) where
  given := by
    intro input hin
    obtain ⟨slot, hslot, rfl⟩ := List.mem_map.mp hin
    obtain ⟨name, -, ref, rfl, hfind⟩ := exists_of_mem_right hfound hslot
    exact ⟨g.blob ref, List.mem_map_of_mem (mem_registered_of_find? hfind), rfl⟩
  regular := h.regular
  keys := hkeys

/-! ## Checks on the outputs -/

theorem vet_fails (g : Graph) (l : Layer) (outputs fresh : List Nat) (rank : Option Int) :
    FailsOnly (Explained l.declaration) (g.vet l outputs fresh rank) := by
  have houtput (name : Value) : FailsOnly (Explained l.declaration)
      (refuseOutput l name : Except Failure (List Nat × Option Int)) :=
    .error (.of_context rfl rfl)
  induction outputs generalizing fresh rank with
  | nil => exact .ok _
  | cons ref rest ih =>
    simp only [vet]
    split
    · exact .ite (fun _ => ih fresh rank) fun _ => houtput _
    · refine .ite (fun _ => houtput _) fun _ => .ite (fun _ => ih _ rank) fun _ => ?_
      cases rank with
      | none => exact ih _ _
      | some n => exact .ite (fun _ => ih _ _) fun _ => .error (.of_context rfl rfl)

theorem approve_fails (g : Graph) (l : Layer) :
    FailsOnly (Explained l.declaration) (g.approve l) :=
  .ite (fun _ => .error (.of_context rfl rfl)) fun _ => vet_fails g l _ _ _

/-! ## Creations -/

/-- A creation by name is refused with an explanation, or the family of the layer stops without
one. -/
def Refused (g : Graph) (d : Declaration) (e : Failure) : Prop :=
  Explained d e ∨ ∃ t, familyOf d = .ok t ∧ (g.namedSite d).Escapes t e

theorem Reached.build_fails (h : g.Reached) (hkeys : ∀ top ∈ d.outputs, top.isKey = true) :
    FailsOnly (g.Refused d) (g.build d none) := by
  refine .bind ((familyOf_fails d).mono fun e he => .inl he) fun t ht => ?_
  refine .bind ((resolveInputs_fails g d).mono fun e he => .inl he) fun places hplaces => ?_
  refine .bind (.ok _) fun refs hrefs => .bind ?_ fun draft _ => .ok _
  obtain rfl := pure_eq_ok.mp hrefs
  have hfound := found_of_resolveInputs hplaces
  have hlayer := Site.layer_fails (h.settled hkeys hfound) t
  refine hlayer.mono fun e he => he.imp_right fun hescape => ⟨t, ht, ?_⟩
  rwa [← namedSite_eq hfound]

theorem Reached.create_fails (h : g.Reached) (hkeys : ∀ top ∈ d.outputs, top.isKey = true) :
    FailsOnly (g.Refused d) (g.create d none).result := by
  intro e he
  cases hb : g.build d none with
  | error e' =>
    rw [create, hb] at he
    obtain rfl := Except.error.inj he
    exact h.build_fails hkeys e' hb
  | ok made =>
    obtain ⟨l, built⟩ := made
    have hd : l.declaration = d := by
      obtain ⟨t, refs, draft, -, -, -, rfl, -⟩ := build_ok hb
      rfl
    cases ha : built.approve l with
    | error e' =>
      simp only [create, hb, ha] at he
      obtain rfl := Except.error.inj he
      exact .inl (hd ▸ approve_fails built l e' ha)
    | ok found =>
      have hcomplete := complete_of_build hb (by simp [AllGiven])
      simp only [create, hb, ha, take_of_complete hcomplete] at he
      cases he

/-- Whatever was created by name before, a declaration in texts gives a layer or a fault that
explains itself, unless the family of the layer stops in one of the ways that escape the
explanation. -/
theorem create_explained (phase : Phase) (elementSize : Option (List Float))
    (ds : List Declaration) {d : Declaration}
    (htext : ∀ top ∈ d.outputs, ∃ name, top = .text name) :
    (∃ l, (((empty phase elementSize).createAll ds).create d none).result = .ok l) ∨
    (∃ f, (((empty phase elementSize).createAll ds).create d none).result = .error (.fault f) ∧
      f.Explains d) ∨
    ∃ e t, (((empty phase elementSize).createAll ds).create d none).result = .error e ∧
      familyOf d = .ok t ∧ (((empty phase elementSize).createAll ds).namedSite d).Escapes t e := by
  have hkeys : ∀ top ∈ d.outputs, top.isKey = true := by
    intro top htop
    obtain ⟨name, rfl⟩ := htext top htop
    rfl
  have hreached := (Reached.empty phase elementSize).createAll ds
  cases hresult : (((empty phase elementSize).createAll ds).create d none).result with
  | ok l => exact .inl ⟨l, rfl⟩
  | error e =>
    refine .inr ?_
    rcases hreached.create_fails hkeys e hresult with ⟨f, rfl, hf⟩ | ⟨t, ht, hescape⟩
    · exact .inl ⟨f, rfl, hf⟩
    · exact .inr ⟨e, t, rfl, ht, hescape⟩

def oneSource : List Declaration :=
  [{ type := "Input", name := "source", inputs := [], outputs := [.text "data"]
     params := [("shape", .list [.list [.int 1, .int 2, .int 3, .int 4]])], included := []
     excluded := [] }]

def convolutionOf (outputs : Value) : Declaration where
  type := "Convolution"
  name := "conv"
  inputs := ["data"]
  outputs := [.text "y"]
  params := [("num_output", outputs), ("kernel_size", .int 1)]
  included := []
  excluded := []

theorem create_explained_convolution :
    (∀ top ∈ (convolutionOf (.int 0)).outputs, ∃ name, top = .text name) ∧
      ((∃ l, (((empty .test none).createAll oneSource).create (convolutionOf (.int 0)) none).result =
        .ok l) ∨
      (∃ f, (((empty .test none).createAll oneSource).create (convolutionOf (.int 0)) none).result =
        .error (.fault f) ∧ f.Explains (convolutionOf (.int 0))) ∨
      ∃ e t, (((empty .test none).createAll oneSource).create (convolutionOf (.int 0)) none).result =
        .error e ∧ familyOf (convolutionOf (.int 0)) = .ok t ∧
        (((empty .test none).createAll oneSource).namedSite (convolutionOf (.int 0))).Escapes t e) := by
  have htext : ∀ top ∈ (convolutionOf (.int 0)).outputs, ∃ name, top = .text name := by
    intro top htop
    exact ⟨"y", List.mem_singleton.mp htop⟩
  exact ⟨htext, create_explained .test none oneSource htext⟩

/-- A convolution with infinitely many outputs is refused without an explanation. -/
theorem not_explained_infiniteOutputs :
    ∃ e, (((empty .test none).createAll oneSource).create
      (convolutionOf (.float (1.0 / 0.0))) none).result = .error e ∧
        ¬ Explained (convolutionOf (.float (1.0 / 0.0))) e := by
  have hrun : (match (((empty .test none).createAll oneSource).create
      (convolutionOf (.float (1.0 / 0.0))) none).result with
    | .error (.misuse _) => true
    | _ => false) = true := by decide +kernel
  split at hrun
  · next m hm =>
    refine ⟨.misuse m, hm, ?_⟩
    rintro ⟨f, hf, -⟩
    cases hf
  · cases hrun

end NetFootprint.Graph
