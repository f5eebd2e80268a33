import NetFootprint.Proofs.Layer.Output

/-!
# Working in place

Only the elementwise families may write to the blob they read, and they do so by position: an output
that is not made is the input at its own position, whose name it has. The body of the layer tells
which outputs these are.
-/

namespace NetFootprint

/-- Tells of each output of a layer that may work in place whether it is its input itself. -/
def Body.aliased : Body → List Bool
  | .relu aliased | .dropout aliased => aliased
  | _ => []

theorem LayerType.inPlace_iff {t : LayerType} : t.inPlace = true ↔ t = .relu ∨ t = .dropout := by
  cases t <;> simp [LayerType.inPlace]

namespace Site

variable {s : Site} {d : Draft} {t : LayerType} {o : Output} {i j : Nat}

theorem inPlace_ok (ht : t.inPlace = true) (h : s.layer t = .ok d) :
    ∃ outputs, List.Forall₂ (fun p o => s.elementwiseOutput p.1.1 p.1.2 p.2 = .ok o)
        (s.inputs.zip s.declaration.outputs).zipIdx outputs ∧
      d.outputs = outputs ∧ d.body.aliased = outputs.map isAlias := by
  rcases LayerType.inPlace_iff.mp ht with rfl | rfl
  · obtain ⟨outputs, -, -, hall, rfl⟩ := elementwiseLayer_ok h
    exact ⟨outputs, hall, rfl, rfl⟩
  · obtain ⟨outputs, -, -, hall, rfl⟩ := elementwiseLayer_ok h
    exact ⟨outputs, hall, rfl, rfl⟩

theorem inPlace_at (ht : t.inPlace = true) (h : s.layer t = .ok d) (ho : d.outputs[i]? = some o) :
    ∃ input top, s.inputs[i]? = some input ∧ s.declaration.outputs[i]? = some top ∧
      s.elementwiseOutput input top i = .ok o := by
  obtain ⟨outputs, hall, rfl, -⟩ := inPlace_ok ht h
  obtain ⟨hi, rfl⟩ := List.getElem?_eq_some_iff.mp ho
  have hzip : i < (s.inputs.zip s.declaration.outputs).zipIdx.length := hall.length_eq ▸ hi
  have hmade := (List.forall₂_iff_get.mp hall).2 i hzip hi
  simp only [List.get_eq_getElem, List.getElem_zipIdx, List.getElem_zip, Nat.zero_add] at hmade
  simp only [List.length_zipIdx, List.length_zip] at hzip
  exact ⟨_, _, List.getElem?_eq_getElem (by omega), List.getElem?_eq_getElem (by omega), hmade⟩

/-- An output that is not made is the input at its own position, under the name of that input. -/
theorem kept_at (h : s.layer t = .ok d) (ho : d.outputs[i]? = some (.kept j)) :
    j = i ∧ t.inPlace = true ∧ ∃ src top, s.inputs[i]? = some (some src) ∧
      s.declaration.outputs[i]? = some top ∧ top.equals src.name = true := by
  obtain ⟨top, -, hmakes⟩ := exists_of_mem_right (layer_outputs h) (List.mem_of_getElem? ho)
  cases hmakes with
  | kept _ _ ht _ _ =>
    obtain ⟨input, top, hinput, htop, hout⟩ := inPlace_at ht h ho
    obtain ⟨src, rfl, ⟨hname, hkept⟩ | ⟨-, -, b, -, hmade⟩⟩ := elementwiseOutput_ok hout
    · obtain rfl := Output.kept.inj hkept
      exact ⟨rfl, ht, src, top, hinput, htop, hname⟩
    · cases hmade

theorem aliased_at (ht : t.inPlace = true) (h : s.layer t = .ok d) (ho : d.outputs[i]? = some o) :
    d.body.aliased[i]? = some (isAlias o) := by
  obtain ⟨outputs, -, rfl, haliased⟩ := inPlace_ok ht h
  rw [haliased, List.getElem?_map, ho]
  rfl

end Site

end NetFootprint
