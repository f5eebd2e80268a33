import NetFootprint.Proofs.Graph.Accept
import NetFootprint.Proofs.Layer.Elementwise

/-!
# Dropouts in reached graphs

A dropout names its inputs, and at each position it gives back either the name of the input or a new
name. Every such dropout is accepted, and what it makes is known slot by slot: nothing where the
input is kept, and elsewhere a blob with the shape and the gradient flag of the input.
-/

namespace NetFootprint.Graph

variable {g g' : Graph} {d : Declaration} {refs : List Nat} {l : Layer}

/-- A dropout over registered blobs that are no scalars, under a new name. At each position it gives
the name of the input, or one that is not known; the latter are all different. -/
structure DropoutOf (g : Graph) (d : Declaration) (refs : List Nat) : Prop where
  type : d.type = LayerType.dropout.tag
  name : ∀ other ∈ g.layers, other.name ≠ d.name
  nonempty : refs ≠ []
  inputs : List.Forall₂ (fun name ref => g.find? (.text name) = some ref) d.inputs refs
  arrays : ∀ ref ∈ refs, (g.blob ref).isScalar = false
  outputs : List.Forall₂ (fun name top => top = .text name ∨
    ∃ fresh, top = .text fresh ∧ g.contains top = false) d.inputs d.outputs
  apart : (d.outputs.filter fun top => !g.contains top).Nodup

def slots (g : Graph) (d : Declaration) (refs : List Nat) : List Slot :=
  (refs.zip d.outputs).map fun p => ⟨g.blob p.1, p.2⟩

def dropoutDraft (g : Graph) (d : Declaration) (refs : List Nat) : Draft where
  outputs := (g.slots d refs).zipIdx.map fun p => (g.namedSite d).settled p.1 p.2
  body := .dropout ((g.slots d refs).map Slot.kept)

structure AddsDropout (g : Graph) (d : Declaration) (refs : List Nat) (l : Layer) (g' : Graph) :
    Prop where
  adds : g.Adds l (g.dropoutDraft d refs) g'
  family : l.family = .dropout
  inputs : l.inputs = refs.map some

theorem madeBlobs_settled (s : Site) (slots : List Slot) (n : Nat) :
    madeBlobs ((slots.zipIdx n).map fun p => s.settled p.1 p.2) =
      (slots.filter fun p => !p.kept).map s.made := by
  induction slots generalizing n with
  | nil => rfl
  | cons p rest ih =>
    rw [List.zipIdx_cons, List.map_cons, Site.settled]
    cases hkept : p.kept with
    | true =>
      rw [List.filter_cons_of_neg (by simp [hkept])]
      exact ih (n + 1)
    | false =>
      rw [List.filter_cons_of_pos (by simp [hkept]), List.map_cons, ← ih (n + 1)]
      rfl

namespace DropoutOf

variable (h : g.DropoutOf d refs)
include h

theorem length_outputs : refs.length = d.outputs.length :=
  h.inputs.length_eq.symm.trans h.outputs.length_eq

theorem map_src : (g.slots d refs).map Slot.src = refs.map g.blob := by
  have hfirst := List.map_fst_zip (Nat.le_of_eq h.length_outputs)
  conv_rhs => rw [← hfirst]
  rw [slots, List.map_map, List.map_map]
  rfl

theorem map_top : (g.slots d refs).map Slot.top = d.outputs := by
  rw [slots, List.map_map]
  exact List.map_snd_zip (Nat.le_of_eq h.length_outputs.symm)

theorem slots_ne_nil : g.slots d refs ≠ [] := by
  intro hnil
  apply h.nonempty
  rw [← List.map_eq_nil_iff (f := g.blob), ← h.map_src, hnil]
  rfl

theorem registered {ref : Nat} (href : ref ∈ refs) : ref ∈ g.registered := by
  obtain ⟨name, -, hfind⟩ := exists_of_mem_right h.inputs href
  exact mem_registered_of_find? hfind

theorem inputs_namedSite :
    (g.namedSite d).inputs = (g.slots d refs).map fun p => some p.src := by
  have hsrc : ((g.slots d refs).map fun p => some p.src) = (refs.map g.blob).map some := by
    rw [← h.map_src, List.map_map]
    rfl
  rw [hsrc, namedSite, List.map_map, ← List.forall₂_eq_eq_eq, List.forall₂_map_left_iff,
    List.forall₂_map_right_iff]
  refine h.inputs.imp fun name ref hfind => ?_
  rw [hfind]
  rfl

theorem paired : List.Forall₂ (fun ref top => ∃ name, g.find? (.text name) = some ref ∧
    (top = .text name ∨ ∃ fresh, top = .text fresh ∧ g.contains top = false)) refs d.outputs :=
  rel_trans (fun _ name _ hfind hout => ⟨name, hfind, hout⟩) h.inputs.flip h.outputs

/-- A slot is that of a registered blob. It keeps the blob exactly if its name is known. -/
theorem of_mem {p : Slot} (hp : p ∈ g.slots d refs) :
    (∃ ref ∈ refs, p.src = g.blob ref) ∧ p.kept = g.contains p.top ∧
      ∃ name, p.top = .text name := by
  obtain ⟨⟨ref, top⟩, hzip, rfl⟩ := List.mem_map.mp hp
  refine ⟨⟨ref, (List.of_mem_zip hzip).1, rfl⟩, ?_⟩
  obtain ⟨name, hfind, hout⟩ := List.forall₂_zip h.paired hzip
  have hname := name_of_find? hfind
  have hknown : g.contains (.text name) = true := by rw [contains, hfind]; rfl
  dsimp only [Slot.kept]
  rw [hname]
  rcases hout with rfl | ⟨fresh, rfl, hfresh⟩
  · exact ⟨(Value.equals_text_right.mpr rfl).trans hknown.symm, name, rfl⟩
  · refine ⟨?_, fresh, rfl⟩
    rw [hfresh, Bool.eq_false_iff]
    intro hequals
    rw [Value.equals_text_right.mp hequals, hknown] at hfresh
    cases hfresh

theorem settles (hg : g.Reached) {p : Slot} (hp : p ∈ g.slots d refs) :
    (g.namedSite d).Settles p := by
  obtain ⟨⟨ref, href, hsrc⟩, hkept, name, htop⟩ := h.of_mem hp
  cases hk : p.kept with
  | true => exact .inl hk
  | false =>
    refine .inr ⟨Site.requireFresh_eq_ok.mpr ⟨by rw [htop]; rfl, hkept.symm.trans hk⟩, ?_⟩
    rw [hsrc]
    exact hg.extents ref (h.registered href)

theorem drafted (hg : g.Reached) :
    (g.namedSite d).layer .dropout = .ok (g.dropoutDraft d refs) :=
  Site.elementwiseLayer_slots h.inputs_namedSite h.map_top.symm h.slots_ne_nil
    (fun _ => h.settles hg) .dropout

theorem rank (hg : g.Reached) :
    ∃ n : Nat, g.spatialRank = some n ∧ ∀ p ∈ g.slots d refs, p.src.shape.length = n + 2 := by
  have hrank : ∀ ref ∈ refs, ∃ n, g.spatialRank = some n ∧ (g.blob ref).shape.length = n + 2 :=
    fun ref href => hg.rank ref (h.registered href) (h.arrays ref href)
  obtain ⟨first, hfirst⟩ := List.exists_mem_of_ne_nil refs h.nonempty
  obtain ⟨n, hn, -⟩ := hrank first hfirst
  refine ⟨n, hn, fun p hp => ?_⟩
  obtain ⟨⟨ref, href, hsrc⟩, -⟩ := h.of_mem hp
  obtain ⟨m, hm, hlen⟩ := hrank ref href
  obtain rfl := Option.some.inj (hn.symm.trans hm)
  rw [hsrc, hlen]

theorem admits (hg : g.Reached) : g.Admits (g.dropoutDraft d refs) where
  axes := by
    obtain ⟨n, hn, hlen⟩ := h.rank hg
    refine ⟨n, fun m hm => by rw [Option.some.inj (hn.symm.trans hm)], ?_⟩
    intro b hb
    rw [dropoutDraft, madeBlobs_settled] at hb
    obtain ⟨p, hp, rfl⟩ := List.mem_map.mp hb
    right
    rw [Blob.spatialRank_of_shaped rfl, Site.shape_made, hlen p (List.mem_filter.mp hp).1]
    omega
  apart := by
    have hfresh : ((g.slots d refs).filter fun p => !p.kept).map Slot.top =
        d.outputs.filter fun top => !g.contains top := by
      rw [← h.map_top, List.filter_map]
      congr 1
      exact List.filter_congr fun p hp => congrArg not (h.of_mem hp).2.1
    have hnodup := h.apart
    rw [← hfresh, List.Nodup, List.pairwise_map] at hnodup
    rw [dropoutDraft, madeBlobs_settled, List.pairwise_map]
    refine hnodup.imp_of_mem fun {p q} hp _ hne => ?_
    obtain ⟨-, -, name, htop⟩ := h.of_mem (List.mem_filter.mp hp).1
    rw [Bool.eq_false_iff]
    intro hequals
    apply hne
    change q.top.equals p.top = true at hequals
    rw [htop] at hequals ⊢
    exact (Value.equals_text_right.mp hequals).symm

theorem exists_adds (hg : g.Reached) :
    ∃ l g', g.create d none = ⟨g', .ok l⟩ ∧ g.AddsDropout d refs l g' := by
  have hknown : ∀ name ∈ d.inputs, g.contains (.text name) = true := by
    intro name hname
    obtain ⟨ref, -, hfind⟩ := exists_of_mem_right h.inputs.flip hname
    exact Option.isSome_iff_exists.mpr ⟨ref, hfind⟩
  have hready : g.Ready d .dropout := ⟨familyOf_tag h.type, hknown, h.name⟩
  obtain ⟨l, g', hcreate, ha, rfl, hfamily⟩ :=
    hready.exists_added hg (h.drafted hg) (h.admits hg)
  refine ⟨l, g', hcreate, ha, hfamily, ?_⟩
  rw [← List.forall₂_eq_eq_eq, List.forall₂_map_right_iff]
  refine rel_trans (fun input name ref => ?_) ha.found.flip h.inputs
  rintro ⟨ref', rfl, hfind'⟩ hfind
  exact hfind'.symm.trans hfind

end DropoutOf

end NetFootprint.Graph
