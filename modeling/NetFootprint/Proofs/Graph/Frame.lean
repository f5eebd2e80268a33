import NetFootprint.Graph.Growth
import NetFootprint.Proofs.Outcome

/-!
# What growing a graph leaves alone

Of a blob that exists only the residency and the id ever change; `Blob.fixed` is the rest. Each step
of taking a layer in touches its own part of the graph, and a graph that grew `Extends` what it was.
-/

namespace NetFootprint

/-- The part of a blob that is settled when it is made. -/
def Blob.fixed (b : Blob) : Blob := { b with resident := false, id := none }

/-- A reading of a blob that concerns its settled part only. -/
class Blob.ReadsFixed {α : Type} (f : Blob → α) : Prop where
  fixed : ∀ b : Blob, f b.fixed = f b

namespace Blob

instance : ReadsFixed name := ⟨fun _ => rfl⟩
instance : ReadsFixed shape := ⟨fun _ => rfl⟩
instance : ReadsFixed elementSize := ⟨fun _ => rfl⟩
instance : ReadsFixed producer := ⟨fun _ => rfl⟩
instance : ReadsFixed isScalar := ⟨fun _ => rfl⟩
instance : ReadsFixed forward := ⟨fun _ => rfl⟩
instance : ReadsFixed gradient := ⟨fun _ => rfl⟩
instance : ReadsFixed spatialRank := ⟨fun _ => rfl⟩
instance : ReadsFixed spatial := ⟨fun _ => rfl⟩
instance : ReadsFixed samples := ⟨fun _ => rfl⟩
instance : ReadsFixed exactCount := ⟨fun _ => rfl⟩

theorem of_fixed {α : Type} (f : Blob → α) [hf : ReadsFixed f] {b c : Blob}
    (h : b.fixed = c.fixed) : f b = f c := by
  rw [← hf.fixed b, h, hf.fixed]

end Blob

namespace Graph

variable {g : Graph} {l : Layer}

theorem fixed_blob_update (f : Blob → Blob) (hf : ∀ b, (f b).fixed = b.fixed) (ref other : Nat) :
    ((g.update ref f).blob other).fixed = (g.blob other).fixed := by
  by_cases ho : other = ref
  · subst other
    by_cases hl : ref < g.blobs.length
    · rw [blob_update_self hl, hf]
    · simp [update, blob, List.getD_eq_getElem?_getD, hl]
  · rw [blob_update_of_ne ho]

theorem fixed_blob_mark (ref other : Nat) :
    ((g.mark ref).blob other).fixed = (g.blob other).fixed :=
  fixed_blob_update (fun b => { b with resident := true }) (fun _ => rfl) ref other

theorem fixed_blob_register (ref other : Nat) :
    ((g.register ref).blob other).fixed = (g.blob other).fixed := by
  have h := fixed_blob_update (g := g) (fun b => { b with id := some g.registered.length })
    (fun _ => rfl) ref other
  exact h

/-! ## Marking -/

theorem foldl_mark_eq (refs : List Nat) (g : Graph) :
    refs.foldl mark g = { g with blobs := (refs.foldl mark g).blobs } := by
  induction refs generalizing g with
  | nil => rfl
  | cons ref rest ih =>
    rw [List.foldl_cons, ih]
    rfl

theorem marked_eq (g : Graph) (l : Layer) :
    g.marked l = { g with blobs := (g.marked l).blobs } := by
  rw [marked]
  split
  · exact foldl_mark_eq _ _
  · rfl

theorem length_blobs_foldl_mark (refs : List Nat) :
    (refs.foldl mark g).blobs.length = g.blobs.length := by
  induction refs generalizing g with
  | nil => rfl
  | cons ref rest ih => rw [List.foldl_cons, ih, mark, length_blobs_update]

@[simp] theorem length_blobs_marked : (g.marked l).blobs.length = g.blobs.length := by
  rw [marked]
  split
  · exact length_blobs_foldl_mark _
  · rfl

theorem fixed_blob_foldl_mark (refs : List Nat) (ref : Nat) :
    ((refs.foldl mark g).blob ref).fixed = (g.blob ref).fixed := by
  induction refs generalizing g with
  | nil => rfl
  | cons first rest ih => rw [List.foldl_cons, ih, fixed_blob_mark]

@[simp] theorem fixed_blob_marked (ref : Nat) :
    ((g.marked l).blob ref).fixed = (g.blob ref).fixed := by
  rw [marked]
  split
  · exact fixed_blob_foldl_mark _ _
  · rfl

/-! ## Registering -/

theorem foldl_register_eq (refs : List Nat) (g : Graph) :
    refs.foldl register g =
      { g with blobs := (refs.foldl register g).blobs, registered := g.registered ++ refs } := by
  induction refs generalizing g with
  | nil => simp
  | cons ref rest ih =>
    rw [List.foldl_cons, ih]
    simp [register, update]

theorem length_blobs_foldl_register (refs : List Nat) :
    (refs.foldl register g).blobs.length = g.blobs.length := by
  induction refs generalizing g with
  | nil => rfl
  | cons ref rest ih => rw [List.foldl_cons, ih]; simp [register]

theorem fixed_blob_foldl_register (refs : List Nat) (ref : Nat) :
    ((refs.foldl register g).blob ref).fixed = (g.blob ref).fixed := by
  induction refs generalizing g with
  | nil => rfl
  | cons first rest ih => rw [List.foldl_cons, ih, fixed_blob_register]

/-! ## Taking a layer in -/

/-- The graph after a checked layer and its new blobs are taken in. -/
def accepted (g : Graph) (l : Layer) (fresh : List Nat) (rank : Option Int) : Graph :=
  (((g.withRank rank).marked l).enlist l).publish l fresh

variable {fresh : List Nat} {rank : Option Int}

theorem withRank_eq (g : Graph) (rank : Option Int) :
    g.withRank rank = { g with elementSize := (g.withRank rank).elementSize } := by
  unfold withRank
  split <;> rfl

theorem elementSize_withRank {size : List Float} (h : g.elementSize = some size) :
    (g.withRank rank).elementSize = some size := by
  cases rank <;> simp [withRank, h]

theorem spatialRank_withRank (h : ∀ n, g.spatialRank = some n → rank = some (n : Int)) :
    (g.withRank rank).spatialRank = rank.map Int.toNat := by
  cases hs : g.elementSize with
  | none => cases rank <;> simp [withRank, hs, spatialRank]
  | some size =>
    have hn := h size.length (by simp [spatialRank, hs])
    simp [withRank, hs, spatialRank, hn]

@[simp] theorem phase_accepted : (g.accepted l fresh rank).phase = g.phase := by
  rw [accepted, publish, foldl_register_eq, marked_eq, withRank_eq]
  rfl

@[simp] theorem layers_accepted : (g.accepted l fresh rank).layers = g.layers ++ [l] := by
  rw [accepted, publish, foldl_register_eq, marked_eq, withRank_eq]
  rfl

@[simp] theorem registered_accepted :
    (g.accepted l fresh rank).registered = g.registered ++ fresh := by
  rw [accepted, publish, foldl_register_eq, marked_eq, withRank_eq]
  rfl

@[simp] theorem elementSize_accepted :
    (g.accepted l fresh rank).elementSize = (g.withRank rank).elementSize := by
  rw [accepted, publish, foldl_register_eq, marked_eq]
  rfl

@[simp] theorem length_blobs_accepted :
    (g.accepted l fresh rank).blobs.length = g.blobs.length := by
  have hp (h : Graph) : (h.publish l fresh).blobs.length = h.blobs.length :=
    length_blobs_foldl_register fresh
  rw [accepted, hp, withRank_eq]
  exact length_blobs_marked

@[simp] theorem fixed_blob_accepted (ref : Nat) :
    ((g.accepted l fresh rank).blob ref).fixed = (g.blob ref).fixed := by
  have hp (h : Graph) : ((h.publish l fresh).blob ref).fixed = (h.blob ref).fixed :=
    fixed_blob_foldl_register fresh ref
  have he (h : Graph) : (h.enlist l).blob ref = h.blob ref := rfl
  rw [accepted, hp, he, fixed_blob_marked, withRank_eq]
  rfl

/-! ## Growth -/

/-- One graph is another one grown: nothing is taken away, and nothing that was settled changes. -/
structure Extends (g g' : Graph) : Prop where
  phase : g'.phase = g.phase
  size : g.blobs.length ≤ g'.blobs.length
  fixed : ∀ ref < g.blobs.length, (g'.blob ref).fixed = (g.blob ref).fixed
  registered : g.registered <+: g'.registered
  layers : g.layers <+: g'.layers
  elementSize : ∀ size, g.elementSize = some size → g'.elementSize = some size

theorem Extends.refl (g : Graph) : g.Extends g where
  phase := rfl
  size := Nat.le_refl _
  fixed _ _ := rfl
  registered := List.prefix_rfl
  layers := List.prefix_rfl
  elementSize _ h := h

theorem Extends.trans {g₁ g₂ g₃ : Graph} (h : g₁.Extends g₂) (h' : g₂.Extends g₃) :
    g₁.Extends g₃ where
  phase := h'.phase.trans h.phase
  size := Nat.le_trans h.size h'.size
  fixed ref hr := (h'.fixed ref (Nat.lt_of_lt_of_le hr h.size)).trans (h.fixed ref hr)
  registered := h.registered.trans h'.registered
  layers := h.layers.trans h'.layers
  elementSize size hs := h'.elementSize size (h.elementSize size hs)

end Graph

end NetFootprint
