import Mathlib.Data.List.Find
import NetFootprint.Proofs.Layer.Draft
import NetFootprint.Proofs.Report.Formula

/-!
# Smaller and larger blobs

A blob is `Below` another one if it is the same blob on extents that are nowhere larger, and so are
graphs, sites and drafts if all their blobs are. On the way from a site to its blobs the extents
only enter where a blob is made: names are found at the same places, parameters are read in the same
way, and a blob that is made of smaller extents is below.
-/

namespace NetFootprint

theorem AtMost.relate {α : Type} [LE α] {x y : Except Misuse α} (h : AtMost x y) :
    Relate (· ≤ ·) x y := by
  intro a b ha hb
  obtain ⟨c, hc, hle⟩ := h a ha
  obtain rfl : b = c := eq_of_ok hb hc
  exact hle

/-! ## Blobs -/

/-- The same blob, on extents that are nowhere smaller. -/
structure Blob.Below (b b' : Blob) : Prop where
  rest : b' = { b with shape := b'.shape }
  shape : List.Forall₂ (· ≤ ·) b.shape b'.shape

namespace Blob.Below

variable {b b' : Blob}

theorem refl (b : Blob) : b.Below b where
  rest := rfl
  shape := List.forall₂_refl _

/-- A reading of a blob that does not concern its shape. -/
class Shapeless {α : Type} (f : Blob → α) : Prop where
  reshaped : ∀ b shape, f { b with shape := shape } = f b

instance : Shapeless Blob.name := ⟨fun _ _ => rfl⟩
instance : Shapeless Blob.elementSize := ⟨fun _ _ => rfl⟩
instance : Shapeless Blob.producer := ⟨fun _ _ => rfl⟩
instance : Shapeless Blob.isScalar := ⟨fun _ _ => rfl⟩
instance : Shapeless Blob.forward := ⟨fun _ _ => rfl⟩
instance : Shapeless Blob.gradient := ⟨fun _ _ => rfl⟩
instance : Shapeless Blob.resident := ⟨fun _ _ => rfl⟩

theorem same {α : Type} (f : Blob → α) [hf : Shapeless f] (h : b.Below b') : f b' = f b := by
  rw [h.rest, hf.reshaped]

theorem change (f : Blob → Blob) (h : b.Below b')
    (hf : ∀ b shape, f { b with shape := shape } = { f b with shape := shape })
    (hshape : ∀ b, (f b).shape = b.shape) : (f b).Below (f b') := by
  constructor
  · rw [hshape b']
    exact (congrArg f h.rest).trans (hf b b'.shape)
  · rw [hshape, hshape]
    exact h.shape

theorem spatialRank (h : b.Below b') : b'.spatialRank = b.spatialRank := by
  rw [Blob.spatialRank, Blob.spatialRank, h.same Blob.isScalar, h.shape.length_eq]

theorem spatial (h : b.Below b') : List.Forall₂ (· ≤ ·) b.spatial b'.spatial := by
  rw [Blob.spatial, Blob.spatial, h.same Blob.isScalar]
  split
  · exact .nil
  · exact List.forall₂_drop 2 h.shape

theorem extent (h : b.Below b') (axis : Nat) : AtMost (b.extent axis) (b'.extent axis) := by
  intro e he
  simp only [Blob.extent] at he ⊢
  cases hat : b.shape[axis]? with
  | none => simp [hat] at he
  | some e' =>
    rw [hat] at he
    obtain rfl := Except.ok.inj he
    obtain ⟨hlt, rfl⟩ := List.getElem?_eq_some_iff.mp hat
    have hlt' : axis < b'.shape.length := h.shape.length_eq ▸ hlt
    refine ⟨b'.shape[axis], ?_, (List.forall₂_iff_get.mp h.shape).2 axis hlt hlt'⟩
    rw [List.getElem?_eq_getElem hlt']

theorem samples (h : b.Below b') : AtMost b.samples b'.samples := h.extent 0

theorem channels (h : b.Below b') : AtMost b.channels b'.channels := h.extent 1

end Blob.Below

theorem extentsOf_mono {es es' : List Nat} (h : List.Forall₂ (· ≤ ·) es es') :
    List.Forall₂ (· ≤ ·) (extentsOf es) (extentsOf es') := by
  rw [extentsOf, extentsOf, List.forall₂_map_left_iff, List.forall₂_map_right_iff]
  exact h.imp fun _ _ hle => Int.ofNat_le.mpr hle

theorem sliced_mono {es es' : List Nat} (h : List.Forall₂ (· ≤ ·) es es') (first last : Int) :
    List.Forall₂ (· ≤ ·) (sliced es first last) (sliced es' first last) := by
  rw [sliced, sliced, ← h.length_eq]
  exact List.forall₂_drop _ (List.forall₂_take _ h)

/-! ## Declarations -/

/-- The rows of a list of shapes. -/
def Value.table (rows : List (List Int)) : Value := .list (rows.map fun row => .list (row.map .int))

/-- Two shapes that are still to be read, the second of which is nowhere smaller. -/
def Value.ShapeBelow (v v' : Value) : Prop :=
  Relate (List.Forall₂ (· ≤ ·)) v.toInts v'.toInts

/-- The same declaration; that of the source of external inputs may have larger shapes. -/
inductive Declaration.Below (d d' : Declaration) : Prop where
  | same (h : d' = d)
  | source (rows rows' : List (List Int)) (type : d.type = LayerType.input.tag)
      (hle : List.Forall₂ (List.Forall₂ (· ≤ ·)) rows rows')
      (params : d.params = [("shape", .table rows)])
      (rest : d' = { d with params := [("shape", .table rows')] })

theorem Declaration.Below.rest {d d' : Declaration} (h : d.Below d') :
    d' = { d with params := d'.params } := by
  cases h with
  | same h => rw [h]
  | source rows rows' _ _ _ rest => rw [rest]

/-! ## Layers and graphs -/

/-- The same layer, as far as its family is concerned. -/
structure Layer.Below (l l' : Layer) : Prop where
  serial : l'.serial = l.serial
  name : l'.name = l.name
  tag : l'.tag = l.tag
  inputs : l'.inputs = l.inputs
  outputs : l'.outputs = l.outputs
  body : Body.Alike l.body l'.body

/-- The same graph, on blobs that are nowhere smaller. -/
structure Graph.Below (g g' : Graph) : Prop where
  phase : g'.phase = g.phase
  elementSize : g'.elementSize = g.elementSize
  registered : g'.registered = g.registered
  built : g'.built = g.built
  blobs : List.Forall₂ Blob.Below g.blobs g'.blobs
  layers : List.Forall₂ Layer.Below g.layers g'.layers

namespace Graph.Below

variable {g g' : Graph}

theorem blob (h : g.Below g') (ref : Nat) : (g.blob ref).Below (g'.blob ref) := by
  simp only [Graph.blob, List.getD_eq_getElem?_getD]
  by_cases hlt : ref < g.blobs.length
  · have hlt' : ref < g'.blobs.length := h.blobs.length_eq ▸ hlt
    rw [List.getElem?_eq_getElem hlt, List.getElem?_eq_getElem hlt']
    exact (List.forall₂_iff_get.mp h.blobs).2 ref hlt hlt'
  · have hle' : g'.blobs.length ≤ ref := h.blobs.length_eq ▸ Nat.le_of_not_lt hlt
    rw [List.getElem?_eq_none (Nat.le_of_not_lt hlt), List.getElem?_eq_none hle']
    exact .refl default

theorem find? (h : g.Below g') (name : Value) : g'.find? name = g.find? name := by
  rw [Graph.find?, Graph.find?, h.registered]
  exact List.find?_congr fun ref _ => by rw [(h.blob ref).same Blob.name]

end Graph.Below

/-! ## Sites -/

/-- The same site, on blobs that are nowhere smaller. -/
structure Site.Below (s s' : Site) : Prop where
  graph : s.graph.Below s'.graph
  declaration : s.declaration.Below s'.declaration
  inputs : List.Forall₂ (Option.Rel Blob.Below) s.inputs s'.inputs

/-- The same outputs, on blobs that are nowhere smaller. -/
inductive Output.Below : Output → Output → Prop where
  | made {b b' : Blob} (h : b.Below b') : Below (.made b) (.made b')
  | kept (input : Nat) : Below (.kept input) (.kept input)

structure Draft.Below (d d' : Draft) : Prop where
  outputs : List.Forall₂ Output.Below d.outputs d'.outputs
  body : Body.Alike d.body d'.body

theorem Draft.Below.single {b b' : Blob} (h : b.Below b') {body body' : Body}
    (hbody : Body.Alike body body') : Draft.Below ⟨[.made b], body⟩ ⟨[.made b'], body'⟩ :=
  ⟨.cons (.made h) .nil, hbody⟩

namespace Site

variable {s s' : Site}

theorem window_same (hd : s'.declaration = s.declaration) {src src' : Blob}
    (h : src.Below src') : s'.window src' = s.window src := by
  simp only [window, axisParam_same hd, h.spatialRank]

theorem present_below {input input' : Option Blob} (h : Option.Rel Blob.Below input input') :
    Relate Blob.Below (present input) (present input') := by
  cases h with
  | none => exact .error_left _
  | some hb => exact .ok hb

namespace Below

theorem outputs (h : s.Below s') : s'.declaration.outputs = s.declaration.outputs := by
  rw [h.declaration.rest]

theorem target (h : s.Below s') : s'.target = s.target := by
  rw [Site.target, h.outputs, Site.target]

theorem source (h : s.Below s') : Relate Blob.Below s.source s'.source := by
  have hinputs := h.inputs
  simp only [Site.source]
  cases hs : s.inputs with
  | nil => exact .error_left _
  | cons input rest =>
    rw [hs] at hinputs
    obtain ⟨input', rest', hinput, -, hs'⟩ := List.forall₂_cons_left_iff.mp hinputs
    rw [hs']
    exact present_below hinput

theorem elementSizeOf (h : s.Below s') {k : Sketch} {shape : List Int}
    (hlen : k.shape.length = shape.length) :
    s'.elementSizeOf { k with shape := shape } = s.elementSizeOf k := by
  have hinputs := h.inputs
  unfold Site.elementSizeOf
  cases k.elementSize with
  | some size => rfl
  | none =>
    cases hs : s.inputs with
    | nil =>
      rw [hs] at hinputs
      rw [List.forall₂_nil_left_iff.mp hinputs, hlen]
    | cons input rest =>
      rw [hs] at hinputs
      obtain ⟨input', rest', hinput, -, hs'⟩ := List.forall₂_cons_left_iff.mp hinputs
      rw [hs', hlen]
      cases hinput with
      | none => rfl
      | some hb =>
        cases k.scalar with
        | true => rfl
        | false => exact hb.same Blob.elementSize

/-- The one place where blobs are made: what is made of smaller extents is below. -/
theorem newBlob (h : s.Below s') {k : Sketch} {shape : List Int}
    (hle : List.Forall₂ (· ≤ ·) k.shape shape) :
    Relate Blob.Below (s.newBlob k) (s'.newBlob { k with shape := shape }) := by
  intro b b' hb hb'
  obtain ⟨-, rfl⟩ := newBlob_eq_ok.mp hb
  obtain ⟨-, rfl⟩ := newBlob_eq_ok.mp hb'
  constructor
  · have hname : s'.declaration.name = s.declaration.name := by rw [h.declaration.rest]
    simp only [blobOf, h.elementSizeOf hle.length_eq, h.graph.built, hname, Graph.training,
      h.graph.phase]
  · simp only [blobOf]
    rw [List.forall₂_map_left_iff, List.forall₂_map_right_iff]
    exact hle.imp fun _ _ hle => Int.toNat_le_toNat hle

end Below

end Site

end NetFootprint
