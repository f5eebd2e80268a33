import NetFootprint.Proofs.Graph.Frame
import NetFootprint.Proofs.Layer.Output

/-!
# Creating layers

What a creation is put together from: the blobs of the draft are placed behind all others, the
outputs are vetted one by one, and the layer is taken in. A creation with all its inputs there
either goes through to the end or leaves the graph as it was.
-/

namespace NetFootprint.Graph

/-! ## Placing -/

def madeBlobs : List Output → List Blob
  | [] => []
  | .kept _ :: rest => madeBlobs rest
  | .made b :: rest => b :: madeBlobs rest

theorem mem_madeBlobs {outputs : List Output} {b : Blob} :
    b ∈ madeBlobs outputs ↔ .made b ∈ outputs := by
  induction outputs with
  | nil => simp [madeBlobs]
  | cons o rest ih => cases o <;> simp [madeBlobs, ih]

/-- The places of some outputs if the next blob gets the given place. -/
def placesFrom (inputs : List (Option Nat)) : Nat → List Output → List Nat
  | _, [] => []
  | n, .kept i :: rest => ((inputs.getD i none).getD 0) :: placesFrom inputs n rest
  | n, .made _ :: rest => n :: placesFrom inputs (n + 1) rest

section

variable {φ : Output → Output} {f : Blob → Blob} (hmade : ∀ b, φ (.made b) = .made (f b))
  (hkept : ∀ i, φ (.kept i) = .kept i)
include hmade hkept

theorem madeBlobs_map (outputs : List Output) :
    madeBlobs (outputs.map φ) = (madeBlobs outputs).map f := by
  induction outputs with
  | nil => rfl
  | cons o rest ih =>
    cases o with
    | kept i => rw [List.map_cons, hkept, madeBlobs, madeBlobs, ih]
    | made b => rw [List.map_cons, hmade, madeBlobs, madeBlobs, ih, List.map_cons]

theorem placesFrom_map (inputs : List (Option Nat)) (n : Nat) (outputs : List Output) :
    placesFrom inputs n (outputs.map φ) = placesFrom inputs n outputs := by
  induction outputs generalizing n with
  | nil => rfl
  | cons o rest ih =>
    cases o with
    | kept i => rw [List.map_cons, hkept, placesFrom, placesFrom, ih]
    | made b => rw [List.map_cons, hmade, placesFrom, placesFrom, ih]

end

theorem settle_eq (inputs : List (Option Nat)) (outputs : List Output) (g : Graph) :
    settle inputs outputs g = (placesFrom inputs g.blobs.length outputs,
      { g with blobs := g.blobs ++ madeBlobs outputs }) := by
  induction outputs generalizing g with
  | nil => simp [settle, placesFrom, madeBlobs]
  | cons o rest ih =>
    cases o with
    | kept i => simp [settle, ih, placesFrom, madeBlobs]
    | made b => simp [settle, ih, placesFrom, madeBlobs, place]

def grown (g : Graph) (draft : Draft) : Graph :=
  { g with blobs := g.blobs ++ madeBlobs draft.outputs, built := g.built + 1 }

theorem finish_eq (g : Graph) (d : Declaration) (inputs : List (Option Nat)) (draft : Draft) :
    g.finish d inputs draft =
      ({ serial := g.built, declaration := d, inputs
         outputs := placesFrom inputs g.blobs.length draft.outputs, body := draft.body },
       g.grown draft) := by
  rw [finish, settle_eq]
  rfl

theorem blob_grown_of_lt {g : Graph} {draft : Draft} {ref : Nat} (h : ref < g.blobs.length) :
    (g.grown draft).blob ref = g.blob ref := by
  simp [grown, blob, List.getD_eq_getElem?_getD, List.getElem?_append_left h]

/-- The place of an output: that of its blob behind all the old ones, or that of the input it is. -/
inductive Placed (g g' : Graph) (inputs : List (Option Nat)) : Output → Nat → Prop where
  | made (b : Blob) (ref : Nat) (hnew : g.blobs.length ≤ ref) (hsize : ref < g'.blobs.length)
      (hb : (g'.blob ref).fixed = b.fixed) : Placed g g' inputs (.made b) ref
  | kept (i ref : Nat) (hin : inputs[i]? = some (some ref)) (hold : ref < g.blobs.length) :
      Placed g g' inputs (.kept i) ref

theorem getD_of_getElem? {inputs : List (Option Nat)} {i ref : Nat}
    (h : inputs[i]? = some (some ref)) : (inputs.getD i none).getD 0 = ref := by
  simp [List.getD_eq_getElem?_getD, h]

theorem placed_placesFrom {g g' : Graph} {inputs : List (Option Nat)} (outputs : List Output)
    (before : List Blob) (hle : g.blobs.length ≤ before.length)
    (hg' : g'.blobs = before ++ madeBlobs outputs)
    (hkept : ∀ i, .kept i ∈ outputs → ∃ ref < g.blobs.length, inputs[i]? = some (some ref)) :
    List.Forall₂ (g.Placed g' inputs) outputs (placesFrom inputs before.length outputs) := by
  induction outputs generalizing before with
  | nil => exact .nil
  | cons o rest ih =>
    have hrest : ∀ i, .kept i ∈ rest → ∃ ref < g.blobs.length, inputs[i]? = some (some ref) :=
      fun i hi => hkept i (List.mem_cons_of_mem _ hi)
    cases o with
    | kept i =>
      obtain ⟨ref, hold, hin⟩ := hkept i (by simp)
      rw [placesFrom, getD_of_getElem? hin]
      exact .cons (.kept i ref hin hold) (ih before hle hg' hrest)
    | made b =>
      have hb : g'.blob before.length = b := by simp [blob, hg', madeBlobs]
      have hsize : before.length < g'.blobs.length := by simp [hg', madeBlobs]
      have hlater := ih (before ++ [b]) (by simp only [List.length_append]; omega)
        (by rw [hg']; simp [madeBlobs]) hrest
      rw [List.length_append, List.length_singleton] at hlater
      exact .cons (.made b _ hle hsize (congrArg Blob.fixed hb)) hlater

theorem filter_placesFrom {inputs : List (Option Nat)} {outputs : List Output} {first n : Nat}
    (hn : first ≤ n)
    (hkept : ∀ i, .kept i ∈ outputs → ∃ ref < first, inputs[i]? = some (some ref)) :
    (placesFrom inputs n outputs).filter (fun ref => decide (first ≤ ref)) =
      List.range' n (madeBlobs outputs).length := by
  induction outputs generalizing n with
  | nil => rfl
  | cons o rest ih =>
    have hrest : ∀ i, .kept i ∈ rest → ∃ ref < first, inputs[i]? = some (some ref) :=
      fun i hi => hkept i (List.mem_cons_of_mem _ hi)
    cases o with
    | kept i =>
      obtain ⟨ref, hold, hin⟩ := hkept i (by simp)
      have hi : ¬ first ≤ ref := Nat.not_le.mpr hold
      rw [placesFrom, getD_of_getElem? hin, List.filter_cons_of_neg (by simpa using hi),
        ih hn hrest]
      rfl
    | made b =>
      rw [placesFrom, List.filter_cons_of_pos (by simpa using hn), ih (by omega) hrest]
      rfl

/-! ## Vetting -/

def isNew (g : Graph) (ref : Nat) : Bool := (g.find? (g.blob ref).name).isNone

/-- What it means for outputs to pass the checks: those to be registered are the new ones, all
others stand for themselves in a layer that may work in place, and the blobs that are no scalars
have one number of spatial axes. -/
structure Vetted (g : Graph) (l : Layer) (outputs : List Nat) (rank : Option Int)
    (fresh : List Nat) (rank' : Option Int) : Prop where
  new : fresh = outputs.filter g.isNew
  known : ∀ ref ∈ outputs, g.isNew ref = false →
    g.find? (g.blob ref).name = some ref ∧ l.family.inPlace = true
  settled : ∀ n, rank = some n → rank' = some n
  axes : ∀ ref ∈ outputs, g.isNew ref = true → (g.blob ref).isScalar = false →
    rank' = some (g.blob ref).spatialRank
  found : ∀ n, rank' = some n → rank = some n ∨
    ∃ ref ∈ outputs, g.isNew ref = true ∧ (g.blob ref).isScalar = false ∧
      (g.blob ref).spatialRank = n

theorem Vetted.nil (g : Graph) (l : Layer) (rank : Option Int) : g.Vetted l [] rank [] rank where
  new := rfl
  known := by simp
  settled _ h := h
  axes := by simp
  found _ h := .inl h

variable {g : Graph} {l : Layer} {ref : Nat} {outputs before fresh fresh' : List Nat}
  {rank rank' : Option Int}

theorem Vetted.cons_known (h : g.Vetted l outputs rank fresh rank')
    (hk : g.find? (g.blob ref).name = some ref) (hp : l.family.inPlace = true) :
    g.Vetted l (ref :: outputs) rank fresh rank' := by
  have hn : g.isNew ref = false := by simp [isNew, hk]
  constructor
  · rw [List.filter_cons_of_neg (by simp [hn]), h.new]
  · simpa only [List.forall_mem_cons] using ⟨fun _ => ⟨hk, hp⟩, h.known⟩
  · exact h.settled
  · simpa only [List.forall_mem_cons, hn] using ⟨by simp, h.axes⟩
  · intro n hr
    refine (h.found n hr).imp_right ?_
    rintro ⟨other, ho, hrest⟩
    exact ⟨other, List.mem_cons_of_mem _ ho, hrest⟩

theorem Vetted.cons_new (h : g.Vetted l outputs rank fresh rank') {known : Option Int}
    (hn : g.isNew ref = true)
    (hr : (g.blob ref).isScalar = true ∧ known = rank ∨
      rank = some (g.blob ref).spatialRank ∧ (known = none ∨ known = rank) ∧
        (g.blob ref).isScalar = false) :
    g.Vetted l (ref :: outputs) known (ref :: fresh) rank' := by
  constructor
  · rw [List.filter_cons_of_pos hn, h.new]
  · simpa only [List.forall_mem_cons, hn] using ⟨by simp, h.known⟩
  · intro n hk
    rcases hr with ⟨-, rfl⟩ | ⟨hrank, rfl | rfl, -⟩
    · exact h.settled n hk
    · simp at hk
    · exact h.settled n hk
  · simp only [List.forall_mem_cons]
    refine ⟨fun _ hs => ?_, h.axes⟩
    rcases hr with ⟨hs', -⟩ | ⟨hrank, -, -⟩
    · simp [hs'] at hs
    · exact h.settled _ hrank
  · intro n hn'
    rcases h.found n hn' with hk | ⟨other, ho, hrest⟩
    · rcases hr with ⟨-, rfl⟩ | ⟨hrank, -, hs⟩
      · exact .inl hk
      · exact .inr ⟨ref, by simp, hn, hs, Option.some.inj (hrank.symm.trans hk)⟩
    · exact .inr ⟨other, List.mem_cons_of_mem _ ho, hrest⟩

theorem vet_ok (h : g.vet l outputs before rank = .ok (fresh', rank')) :
    ∃ fresh, fresh' = before ++ fresh ∧ g.Vetted l outputs rank fresh rank' := by
  induction outputs generalizing before rank with
  | nil =>
    obtain ⟨rfl, rfl⟩ : before = fresh' ∧ rank = rank' := by simpa [vet] using h
    exact ⟨[], by simp, .nil g l rank⟩
  | cons ref rest ih =>
    simp only [vet] at h
    cases hf : g.find? (g.blob ref).name with
    | some known =>
      simp only [hf, ite_eq_ok, refuseOutput, reduceCtorEq, and_false, or_false] at h
      obtain ⟨⟨rfl, hp⟩, h⟩ := h
      obtain ⟨fresh, hfresh, hv⟩ := ih h
      exact ⟨fresh, hfresh, hv.cons_known hf hp⟩
    | none =>
      have hn : g.isNew ref = true := by simp [isNew, hf]
      simp only [hf, ite_eq_ok, refuseOutput, reduceCtorEq, and_false, false_or] at h
      -- the rest is vetted with the number of axes that is known behind this output
      have step {known : Option Int}
          (hr : (g.blob ref).isScalar = true ∧ rank = known ∨
            known = some (g.blob ref).spatialRank ∧ (rank = none ∨ rank = known) ∧
              (g.blob ref).isScalar = false)
          (h : g.vet l rest (before ++ [ref]) known = .ok (fresh', rank')) :
          ∃ fresh, fresh' = before ++ fresh ∧ g.Vetted l (ref :: rest) rank fresh rank' := by
        obtain ⟨fresh, hfresh, hv⟩ := ih h
        exact ⟨ref :: fresh, by simp [hfresh], hv.cons_new hn hr⟩
      obtain ⟨-, ⟨hs, h⟩ | ⟨hs, h⟩⟩ := h
      · exact step (.inl ⟨hs, rfl⟩) h
      · have hs : (g.blob ref).isScalar = false := by simpa using hs
        cases rank with
        | none => exact step (.inr ⟨rfl, .inl rfl, hs⟩) h
        | some n =>
          simp only [ite_eq_ok, refuse, reduceCtorEq, and_false, or_false] at h
          exact step (.inr ⟨by rw [h.1], .inr rfl, hs⟩) h.2

theorem approve_ok (h : g.approve l = .ok (fresh, rank)) :
    (∀ other ∈ g.layers, other.name ≠ l.name) ∧
      g.Vetted l l.outputs (g.spatialRank.map Int.ofNat) fresh rank := by
  simp only [approve, ite_eq_ok, refuse, reduceCtorEq, and_false, false_or] at h
  obtain ⟨hname, h⟩ := h
  obtain ⟨fresh', hf, hv⟩ := vet_ok h
  refine ⟨fun other ho he => hname ?_, ?_⟩
  · exact List.any_eq_true.mpr ⟨other, ho, by simpa using he⟩
  · rw [hf]
    exact hv

theorem vet_apart (h : g.vet l outputs before rank = .ok (fresh, rank'))
    (hbefore : before.Pairwise fun a b => (g.blob b).name.equals (g.blob a).name = false) :
    fresh.Pairwise fun a b => (g.blob b).name.equals (g.blob a).name = false := by
  induction outputs generalizing before rank with
  | nil =>
    obtain ⟨rfl, rfl⟩ : before = fresh ∧ rank = rank' := by simpa [vet] using h
    exact hbefore
  | cons ref rest ih =>
    simp only [vet] at h
    cases hf : g.find? (g.blob ref).name with
    | some known =>
      simp only [hf, ite_eq_ok, refuseOutput, reduceCtorEq, and_false, or_false] at h
      exact ih h.2 hbefore
    | none =>
      simp only [hf, ite_eq_ok, refuseOutput, reduceCtorEq, and_false, false_or] at h
      obtain ⟨hapart, h⟩ := h
      have hnext : (before ++ [ref]).Pairwise
          fun a b => (g.blob b).name.equals (g.blob a).name = false := by
        refine List.pairwise_append.mpr ⟨hbefore, List.pairwise_singleton _ _, ?_⟩
        intro a ha b hb
        rw [List.mem_singleton.mp hb]
        simpa using fun he => hapart (List.any_eq_true.mpr ⟨a, ha, he⟩)
      rcases h with ⟨-, h⟩ | ⟨-, h⟩
      · exact ih h hnext
      · cases rank with
        | none => exact ih h hnext
        | some n =>
          simp only [ite_eq_ok, refuse, reduceCtorEq, and_false, or_false] at h
          exact ih h.2 hnext

theorem approve_apart (h : g.approve l = .ok (fresh, rank)) :
    fresh.Pairwise fun a b => (g.blob b).name.equals (g.blob a).name = false := by
  simp only [approve, ite_eq_ok, refuse, reduceCtorEq, and_false, false_or] at h
  exact vet_apart h.2 .nil

/-! ## Building -/

def siteOf (g : Graph) (d : Declaration) (refs : List (Option Nat)) : Site :=
  { graph := g, declaration := d, inputs := refs.map (·.map g.blob) }

/-- The places of the inputs of a layer: those that are given, or else those that are named. -/
def Reads (g : Graph) (d : Declaration) : Option (List (Option Nat)) → List (Option Nat) → Prop
  | some given, refs => given = refs
  | none, refs => ∃ places, g.resolveInputs d = .ok places ∧ places.map some = refs

/-- No input that is given is missing. -/
def AllGiven (inputs : Option (List (Option Nat))) : Prop :=
  ∀ refs, inputs = some refs → refs.all Option.isSome = true

theorem Reads.all_isSome {d : Declaration} {inputs : Option (List (Option Nat))}
    {refs : List (Option Nat)} (h : g.Reads d inputs refs) (hin : AllGiven inputs) :
    refs.all Option.isSome = true := by
  cases inputs with
  | some given => exact hin refs (congrArg some h)
  | none =>
    obtain ⟨places, -, rfl⟩ := h
    simp

theorem build_ok {d : Declaration} {inputs : Option (List (Option Nat))} {built : Graph}
    (h : g.build d inputs = .ok (l, built)) :
    ∃ t refs draft, familyOf d = .ok t ∧ g.Reads d inputs refs ∧
      (g.siteOf d refs).layer t = .ok draft ∧
      l = { serial := g.built, declaration := d, inputs := refs
            outputs := placesFrom refs g.blobs.length draft.outputs, body := draft.body } ∧
      built = g.grown draft := by
  cases inputs with
  | some given =>
    simp only [build, bind_eq_ok, pure_eq_ok, finish_eq, Prod.mk.injEq] at h
    obtain ⟨t, ht, refs, rfl, draft, hd, rfl, rfl⟩ := h
    exact ⟨t, given, draft, ht, rfl, hd, rfl, rfl⟩
  | none =>
    simp only [build, bind_eq_ok, pure_eq_ok, finish_eq, Prod.mk.injEq] at h
    obtain ⟨t, ht, places, hp, refs, rfl, draft, hd, rfl, rfl⟩ := h
    exact ⟨t, places.map some, draft, ht, ⟨places, hp, rfl⟩, hd, rfl, rfl⟩

theorem complete_of_build {d : Declaration} {inputs : Option (List (Option Nat))} {built : Graph}
    (h : g.build d inputs = .ok (l, built)) (hin : AllGiven inputs) : l.complete = true := by
  obtain ⟨t, refs, draft, -, hr, -, rfl, -⟩ := build_ok h
  exact hr.all_isSome hin

/-! ## Taking in -/

/-- A layer that has all its inputs is refused before anything is changed, or not at all. -/
theorem append_of_complete (h : l.complete = true) :
    (∃ e, g.append l = ⟨g, .error e⟩) ∨
      ∃ fresh rank, g.approve l = .ok (fresh, rank) ∧
        g.append l = ⟨g.accepted l fresh rank, .ok ()⟩ := by
  cases ha : g.approve l with
  | error e => exact .inl ⟨e, by simp [append, ha]⟩
  | ok found =>
    obtain ⟨fresh, rank⟩ := found
    refine .inr ⟨fresh, rank, rfl, ?_⟩
    simp only [append, ha, take_of_complete h]
    rfl

/-- A creation with all its inputs there goes through to the end, or leaves the graph as it was. -/
theorem create_of_given {d : Declaration} {inputs : Option (List (Option Nat))}
    (hin : AllGiven inputs) :
    (∃ e, g.create d inputs = ⟨g, .error e⟩) ∨
      ∃ l built fresh rank, g.build d inputs = .ok (l, built) ∧
        built.approve l = .ok (fresh, rank) ∧
        g.create d inputs = ⟨built.accepted l fresh rank, .ok l⟩ := by
  cases hb : g.build d inputs with
  | error e => exact .inl ⟨e, by simp [create, hb]⟩
  | ok made =>
    obtain ⟨l, built⟩ := made
    cases ha : built.approve l with
    | error e => exact .inl ⟨e, by simp [create, hb, ha]⟩
    | ok found =>
      obtain ⟨fresh, rank⟩ := found
      refine .inr ⟨l, built, fresh, rank, rfl, ha, ?_⟩
      simp only [create, hb, ha, take_of_complete (complete_of_build hb hin)]
      rfl

theorem create_ok {d : Declaration} {inputs : Option (List (Option Nat))}
    (hin : AllGiven inputs) (h : (g.create d inputs).result = .ok l) :
    ∃ built fresh rank, g.build d inputs = .ok (l, built) ∧
      built.approve l = .ok (fresh, rank) ∧
      (g.create d inputs).graph = built.accepted l fresh rank := by
  rcases create_of_given (g := g) (d := d) hin with
    ⟨e, he⟩ | ⟨made, built, fresh, rank, hb, ha, hc⟩
  · rw [he] at h
    cases h
  · rw [hc] at h ⊢
    obtain rfl := Except.ok.inj h
    exact ⟨built, fresh, rank, hb, ha, rfl⟩

end NetFootprint.Graph
