import NetFootprint.Proofs.Graph.Recast
import NetFootprint.Proofs.Graph.Residency

/-!
# Putting blobs on the device

Whatever marks blobs one by one can be said at once: the blobs at some places are on the device from
then on. Said so, marking twice is marking once, the order of marks does not matter, and a layer that
is taken in later finds nothing else changed.
-/

namespace NetFootprint

namespace Graph

def raise (g : Graph) (put : Nat → Bool) : Graph :=
  { g with blobs := g.blobs.mapIdx fun ref b => { b with resident := b.resident || put ref } }

end Graph

def Recast.raising (put : Nat → Bool) : Recast where
  phase := id
  blob ref b := { b with resident := b.resident || put ref }
  layer := id

theorem Recast.raising_unnoticed (put : Nat → Bool) : (Recast.raising put).Unnoticed where
  id _ _ := rfl
  register _ _ _ := rfl
  mark ref b := by simp [Recast.raising]
  family _ := rfl
  inputs _ := rfl
  outputs _ := rfl

namespace Graph

variable {g : Graph} {l : Layer} {put more : Nat → Bool} {ref : Nat}

theorem raise_eq (g : Graph) (put : Nat → Bool) : g.raise put = (Recast.raising put).graph g := by
  simp [raise, Recast.graph, Recast.raising]

@[simp] theorem length_blobs_raise : (g.raise put).blobs.length = g.blobs.length := by
  simp [raise]

theorem blob_raise (h : ref < g.blobs.length) :
    (g.raise put).blob ref = { g.blob ref with resident := (g.blob ref).resident || put ref } := by
  rw [raise_eq, Recast.blob_graph h]
  rfl

theorem fixed_blob_raise (g : Graph) (put : Nat → Bool) (ref : Nat) :
    ((g.raise put).blob ref).fixed = (g.blob ref).fixed := by
  by_cases h : ref < g.blobs.length
  · rw [blob_raise h]
    rfl
  · simp [raise, blob, List.getD_eq_getElem?_getD, h]

theorem raise_of_resident
    (h : ∀ ref < g.blobs.length, put ref = true → (g.blob ref).resident = true) :
    g.raise put = g := by
  have hblobs : g.blobs.mapIdx (fun ref b => { b with resident := b.resident || put ref }) =
      g.blobs := by
    refine List.ext_getElem (by simp) fun ref _ href => ?_
    have hput := h ref href
    rw [show g.blob ref = g.blobs[ref] by simp [blob, List.getD_eq_getElem?_getD, href]] at hput
    rw [List.getElem_mapIdx]
    cases hp : put ref with
    | false => simp
    | true => simp [← hput hp]
  rw [raise, hblobs]

theorem raise_raise (g : Graph) (put more : Nat → Bool) :
    (g.raise put).raise more = g.raise fun ref => put ref || more ref := by
  simp [raise, List.mapIdx_mapIdx, Function.comp_def, Bool.or_assoc]

theorem raise_comm (g : Graph) (put more : Nat → Bool) :
    (g.raise put).raise more = (g.raise more).raise put := by
  simp only [raise_raise, Bool.or_comm]

theorem raise_self (g : Graph) (put : Nat → Bool) : (g.raise put).raise put = g.raise put := by
  simp only [raise_raise, Bool.or_self]

theorem mark_eq_raise (g : Graph) (ref : Nat) : g.mark ref = g.raise fun other => ref == other := by
  have hblobs : g.blobs.modify ref (fun b => { b with resident := true }) =
      g.blobs.mapIdx fun other b => { b with resident := b.resident || ref == other } := by
    refine List.ext_getElem? fun i => ?_
    rw [List.getElem?_modify, List.getElem?_mapIdx]
    by_cases hi : ref = i
    · subst hi
      cases g.blobs[ref]? <;> simp
    · have hne : (ref == i) = false := beq_false_of_ne hi
      cases g.blobs[i]? <;> simp [hi, hne]
  rw [mark, update, hblobs, raise]

theorem foldl_mark_eq_raise (refs : List Nat) (g : Graph) :
    refs.foldl mark g = g.raise refs.contains := by
  induction refs generalizing g with
  | nil => exact (raise_of_resident fun _ _ h => by simp at h).symm
  | cons ref rest ih =>
    rw [List.foldl_cons, ih, mark_eq_raise, raise_raise]
    congr 1
    funext other
    rw [List.contains_cons, Bool.beq_comm]

end Graph

def Layer.reads (l : Layer) (ref : Nat) : Bool :=
  l.family.readsOnDevice && l.inputs.contains (some ref)

theorem Layer.exists_places {l : Layer} (h : l.complete = true) :
    ∃ refs : List Nat, l.inputs = refs.map some := by
  rw [complete] at h
  generalize l.inputs = inputs at h
  induction inputs with
  | nil => exact ⟨[], rfl⟩
  | cons input rest ih =>
    obtain ⟨hinput, hrest⟩ := Bool.and_eq_true_iff.mp h
    obtain ⟨ref, rfl⟩ := Option.isSome_iff_exists.mp hinput
    obtain ⟨refs, rfl⟩ := ih hrest
    exact ⟨ref :: refs, rfl⟩

theorem Layer.reads_eq {l : Layer} (h : l.complete = true) (ref : Nat) :
    l.reads ref = (l.family.readsOnDevice && l.leading.contains ref) := by
  obtain ⟨refs, hrefs⟩ := l.exists_places h
  rw [Layer.reads, Layer.leading_of_places hrefs, hrefs]
  simp

namespace Graph

variable {g : Graph} {l : Layer} {put more : Nat → Bool} {ref : Nat}

theorem marked_eq_raise (h : l.complete = true) (g : Graph) : g.marked l = g.raise l.reads := by
  unfold marked
  split
  · next ht =>
    rw [foldl_mark_eq_raise]
    congr 1
    funext ref
    rw [Layer.reads_eq h, ht, Bool.true_and]
  · next ht =>
    refine (raise_of_resident fun ref _ hput => ?_).symm
    simp [Layer.reads, ht] at hput

/-! ## Layers are taken in as before -/

theorem find?_raise (name : Value) : (g.raise put).find? name = g.find? name := by
  have hname : ∀ ref, ((g.raise put).blob ref).name = (g.blob ref).name := fun ref =>
    Blob.of_fixed Blob.name (fixed_blob_raise g put ref)
  simp only [find?, hname]
  rfl

theorem vet_raise (outputs fresh : List Nat) (rank : Option Int) :
    (g.raise put).vet l outputs fresh rank = g.vet l outputs fresh rank := by
  have hname : ∀ ref, ((g.raise put).blob ref).name = (g.blob ref).name := fun ref =>
    Blob.of_fixed Blob.name (fixed_blob_raise g put ref)
  have hscalar : ∀ ref, ((g.raise put).blob ref).isScalar = (g.blob ref).isScalar := fun ref =>
    Blob.of_fixed Blob.isScalar (fixed_blob_raise g put ref)
  have hrank : ∀ ref, ((g.raise put).blob ref).spatialRank = (g.blob ref).spatialRank := fun ref =>
    Blob.of_fixed Blob.spatialRank (fixed_blob_raise g put ref)
  induction outputs generalizing fresh rank with
  | nil => rfl
  | cons ref rest ih => simp only [vet, find?_raise, hname, hscalar, hrank, ih]

theorem approve_raise : (g.raise put).approve l = g.approve l := by
  unfold approve
  rw [vet_raise]
  rfl

theorem accepted_raise (fresh : List Nat) (rank : Option Int) :
    (g.raise put).accepted l fresh rank = (g.accepted l fresh rank).raise put := by
  rw [raise_eq, raise_eq]
  exact (Recast.raising_unnoticed put).accepted_graph fresh rank

/-- A layer puts its inputs on the device when it is taken in, whether they were put there before or
not. -/
theorem accepted_raise_reads (h : l.complete = true) (fresh : List Nat) (rank : Option Int) :
    (g.raise l.reads).accepted l fresh rank = g.accepted l fresh rank := by
  rw [accepted, accepted, raise_eq, Recast.Unnoticed.withRank_graph, ← raise_eq,
    marked_eq_raise h, raise_self, marked_eq_raise h]

end Graph

end NetFootprint
