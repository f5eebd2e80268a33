import NetFootprint.Proofs.Graph.Accept
import NetFootprint.Proofs.Graph.WellFormed
import NetFootprint.Proofs.Layer.Concat

/-!
# Concatenations in reached graphs

Names lead to slabs, and a concatenation of names is accepted and leads to the slab that theirs join
to. So blobs may be concatenated in groups and the results after that, and the blobs behind the
first one may change places: the slab in the end is the same.
-/

namespace NetFootprint

theorem Blob.Shows.of_fixed {b c : Blob} {s : Slab} (h : b.Shows s) (hc : c.fixed = b.fixed) :
    c.Shows s where
  array := by rw [Blob.of_fixed Blob.isScalar hc, h.array]
  shape := by rw [Blob.of_fixed Blob.shape hc, h.shape]
  elementSize := by rw [Blob.of_fixed Blob.elementSize hc, h.elementSize]
  gradient := by rw [Blob.of_fixed Blob.gradient hc, h.gradient]

/-- Two blobs have the same shape, the same element size and the same gradient flag. -/
def Blob.Agrees (b c : Blob) : Prop :=
  b.shape = c.shape ∧ b.elementSize = c.elementSize ∧ b.gradient = c.gradient

theorem Blob.Shows.agrees {b c : Blob} {s : Slab} (hb : b.Shows s) (hc : c.Shows s) :
    b.Agrees c :=
  ⟨hb.shape.trans hc.shape.symm, hb.elementSize.trans hc.elementSize.symm,
    hb.gradient.trans hc.gradient.symm⟩

def Declaration.Concatenates (d : Declaration) (inputs : List String) : Prop :=
  d.type = LayerType.concat.tag ∧ d.inputs = inputs ∧ ∃ top, d.outputs = [.text top]

namespace Graph

variable {g g' : Graph} {l : Layer} {draft : Draft} {d : Declaration} {ds parts : List Declaration}
  {name top : String} {s : Slab} {slabs : List Slab} {names : List String}

/-! ## Several declarations -/

/-- Declarations are accepted one after the other. -/
inductive Accepts : Graph → List Declaration → Graph → Prop where
  | nil (g : Graph) : Accepts g [] g
  | cons {g next g' : Graph} {d : Declaration} {l : Layer} {ds : List Declaration}
      (h : g.create d none = ⟨next, .ok l⟩) (hrest : Accepts next ds g') : Accepts g (d :: ds) g'

/-- The names of some declarations are free, and none is given twice. -/
structure Separate (g : Graph) (ds : List Declaration) : Prop where
  fresh : ∀ d ∈ ds, g.FreshFor d
  text : ∀ d ∈ ds, ∀ top ∈ d.outputs, ∃ name, top = .text name
  names : (ds.map Declaration.name).Nodup
  outputs : (ds.flatMap Declaration.outputs).Nodup

theorem Separate.after (h : g.Separate (l.declaration :: ds)) (hg : g.Reached)
    (ha : g.Adds l draft g') : g'.Separate ds := by
  obtain ⟨hname, hnames⟩ := List.nodup_cons.mp h.names
  have houtputs := h.outputs
  rw [List.flatMap_cons, List.nodup_append'] at houtputs
  obtain ⟨-, houtputs, hdisjoint⟩ := houtputs
  refine ⟨fun d hd => ?_, fun d hd => h.text d (List.mem_cons_of_mem _ hd), hnames, houtputs⟩
  apply (h.fresh d (List.mem_cons_of_mem _ hd)).after hg ha
  · intro top htop
    rcases List.mem_append.mp htop with htop | htop
    · exact h.text _ List.mem_cons_self top htop
    · exact h.text d (List.mem_cons_of_mem _ hd) top htop
  · intro hsame
    exact hname (hsame ▸ List.mem_map_of_mem hd)
  · intro top htop hmem
    exact hdisjoint hmem (List.mem_flatMap.mpr ⟨d, hd, htop⟩)

/-! ## Slabs behind names -/

/-- A name leads to a blob with the slab. -/
def Shows (g : Graph) (name : String) (s : Slab) : Prop :=
  ∃ ref, g.find? (.text name) = some ref ∧ (g.blob ref).Shows s

theorem Extends.shows (h : g.Extends g') (hg : g.Reached) (hs : g.Shows name s) :
    g'.Shows name s := by
  obtain ⟨ref, hfind, hs⟩ := hs
  have hplaced : ∀ ref ∈ g.registered, ref < g.blobs.length := fun ref => hg.mem_registered.mp
  have hlt := hplaced ref (mem_registered_of_find? hfind)
  exact ⟨ref, h.find? hplaced hfind, hs.of_fixed (h.fixed ref hlt)⟩

/-- A name leads to a blob that is no scalar. -/
def HasArray (g : Graph) (name : String) : Prop :=
  ∃ ref, g.find? (.text name) = some ref ∧ (g.blob ref).isScalar = false

theorem Reached.exists_shows (hg : g.Reached) (h : g.HasArray name) : ∃ s, g.Shows name s := by
  obtain ⟨ref, hfind, hs⟩ := h
  have hregular := hg.regular _ (List.mem_map_of_mem (mem_registered_of_find? hfind))
  obtain ⟨s, hshow⟩ := hregular.exists_shows hs
  exact ⟨s, ref, hfind, hshow⟩

/-! ## Concatenations -/

/-- A declaration concatenates blobs whose slabs join to the given one. -/
structure Joins (g : Graph) (d : Declaration) (s : Slab) : Prop where
  type : d.type = LayerType.concat.tag
  output : ∃ top, d.outputs = [.text top]
  slabs : ∃ slabs, List.Forall₂ g.Shows d.inputs slabs ∧ Slab.joinAll slabs = some s

theorem Joins.extends (h : g.Joins d s) (hg : g.Reached) (hgrown : g.Extends g') :
    g'.Joins d s := by
  obtain ⟨slabs, hslabs, hjoin⟩ := h.slabs
  exact ⟨h.type, h.output, slabs, hslabs.imp fun _ _ => hgrown.shows hg, hjoin⟩

theorem exists_blobs (h : List.Forall₂ g.Shows names slabs) :
    ∃ blobs, names.map (fun name => (g.find? (.text name)).map g.blob) = blobs.map some ∧
      List.Forall₂ Blob.Shows blobs slabs ∧ ∀ b ∈ blobs, ∃ ref ∈ g.registered, g.blob ref = b := by
  induction h with
  | nil => exact ⟨[], rfl, .nil, by simp⟩
  | cons hshow _ ih =>
    obtain ⟨ref, hfind, hs⟩ := hshow
    obtain ⟨blobs, hblobs, hslabs, hall⟩ := ih
    refine ⟨g.blob ref :: blobs, by simp [hfind, hblobs], .cons hs hslabs, ?_⟩
    exact List.forall_mem_cons.mpr ⟨⟨ref, mem_registered_of_find? hfind, rfl⟩, hall⟩

theorem Joins.create (h : g.Joins d s) (hg : g.Reached) (hfresh : g.FreshFor d) :
    ∃ l g' draft out, g.create d none = ⟨g', .ok l⟩ ∧ g.Adds l draft g' ∧ l.declaration = d ∧
      l.outputs = [out] ∧ (g'.blob out).Shows s ∧
      ∀ top, d.outputs = [.text top] → g'.Shows top s := by
  obtain ⟨top, hout⟩ := h.output
  obtain ⟨slabs, hslabs, hjoin⟩ := h.slabs
  obtain ⟨blobs, hblobs, hshows, hall⟩ := exists_blobs hslabs
  have hregular : ∀ b ∈ blobs, b.Regular (g.spatialRank.getD 0) := by
    intro b hb
    obtain ⟨ref, href, rfl⟩ := hall b hb
    exact hg.regular _ (List.mem_map_of_mem href)
  have htrain : ∀ b ∈ blobs, b.gradient = true → g.training = true := by
    intro b hb
    obtain ⟨ref, href, rfl⟩ := hall b hb
    exact hg.training_of_gradient ref href
  have hready : g.Ready d .concat := by
    apply hfresh.ready_of_known (familyOf_tag h.type)
    intro name hname
    obtain ⟨s, -, ref, hfind, -⟩ := exists_of_mem_right hslabs.flip hname
    exact ⟨ref, hfind⟩
  cases hshows with
  | nil => cases hjoin
  | @cons first slab others slabs hfirst hothers =>
    obtain rfl := Option.some.inj hjoin
    obtain ⟨b, hd, hb⟩ := Site.exists_concatLayer hregular (.cons hfirst hothers)
      (s := g.namedSite d) hblobs hout
      (Site.requireFresh_eq_ok.mpr (hfresh.outputs _ (by simp [hout]))) htrain
    have haxes : ∀ n : Nat, g.spatialRank = some n → b.spatialRank = n := by
      intro n hn
      rw [Site.spatialRank_slabs hregular (.cons hfirst hothers) hb, hn]
      rfl
    obtain ⟨l, g', hcreate, ha, hl, houtputs, hfixed⟩ := hready.exists_made hg hd rfl haxes
    refine ⟨l, g', _, _, hcreate, ha, hl, houtputs, hb.of_fixed hfixed, fun top htop => ?_⟩
    exact ⟨_, ha.find?_made hg rfl (hl ▸ htop), hb.of_fixed hfixed⟩

/-- Concatenations of separate names are accepted one after the other, and the output of each leads
to its slab in the end. -/
theorem Separate.accepts (hg : g.Reached) (h : g.Separate (parts ++ ds))
    (hjoins : List.Forall₂ g.Joins parts slabs) :
    ∃ mid, g.Accepts parts mid ∧ mid.Reached ∧ g.Extends mid ∧ mid.Separate ds ∧
      List.Forall₂ (fun d s => ∀ top, d.outputs = [.text top] → mid.Shows top s) parts slabs := by
  induction parts generalizing g slabs with
  | nil =>
    cases hjoins
    exact ⟨g, .nil g, hg, .refl g, h, .nil⟩
  | cons d parts ih =>
    cases hjoins with
    | cons hjoin hrest =>
      obtain ⟨l, next, draft, out, hcreate, ha, rfl, -, -, hshow⟩ :=
        hjoin.create hg (h.fresh d (by simp))
      have hnext : next.Reached := .add hg ha
      obtain ⟨mid, hmid, hreached, hgrown, hseparate, hshows⟩ :=
        ih hnext (h.after hg ha) (hrest.imp fun _ _ hjoin => hjoin.extends hg ha.extends)
      refine ⟨mid, .cons hcreate hmid, hreached, ha.extends.trans hgrown, hseparate, ?_⟩
      exact .cons (fun top htop => hgrown.shows hnext (hshow top htop)) hshows

/-! ## Groups and orders -/

/-- Concatenations of groups of blobs, one of what they make, and one of all the blobs at once. -/
structure Grouped (g : Graph) (groups : List (List String)) (parts : List Declaration)
    (whole one : Declaration) : Prop where
  groups_ne : groups ≠ []
  group_ne : ∀ group ∈ groups, group ≠ []
  arrays : ∀ name ∈ groups.flatten, g.HasArray name
  each : List.Forall₂ Declaration.Concatenates parts groups
  results : ∃ tops, whole.Concatenates tops ∧
    parts.flatMap Declaration.outputs = tops.map Value.text
  all : one.Concatenates groups.flatten
  separate : g.Separate (parts ++ [whole])
  fresh : g.FreshFor one

/-- Two concatenations of the same blobs, in another order behind the first one. -/
structure Permuted (g : Graph) (d d' : Declaration) : Prop where
  inputs : ∃ x rest rest', d.Concatenates (x :: rest) ∧ d'.Concatenates (x :: rest') ∧
    rest.Perm rest'
  arrays : ∀ name ∈ d.inputs, g.HasArray name
  fresh : g.FreshFor d
  fresh' : g.FreshFor d'

/-- Two declarations are accepted by two graphs, and their only blobs agree. -/
def Alike (g : Graph) (d : Declaration) (g' : Graph) (d' : Declaration) : Prop :=
  ∃ l h l' h' out out', g.create d none = ⟨h, .ok l⟩ ∧ g'.create d' none = ⟨h', .ok l'⟩ ∧
    l.outputs = [out] ∧ l'.outputs = [out'] ∧ (h.blob out).Agrees (h'.blob out')

theorem Joins.alike {d' : Declaration} (h : g.Joins d s) (hg : g.Reached) (hfresh : g.FreshFor d)
    (h' : g'.Joins d' s) (hg' : g'.Reached) (hfresh' : g'.FreshFor d') : g.Alike d g' d' := by
  obtain ⟨l, next, -, out, hcreate, -, -, hout, hshow, -⟩ := h.create hg hfresh
  obtain ⟨l', next', -, out', hcreate', -, -, hout', hshow', -⟩ := h'.create hg' hfresh'
  exact ⟨l, next, l', next', out, out', hcreate, hcreate', hout, hout', hshow.agrees hshow'⟩

theorem Reached.exists_groups (hg : g.Reached) {groups : List (List String)}
    (harrays : ∀ name ∈ groups.flatten, g.HasArray name) :
    ∃ slabs, List.Forall₂ (List.Forall₂ g.Shows) groups slabs := by
  apply exists_forall₂_iff.mpr
  intro group hgroup
  apply exists_forall₂_iff.mpr
  intro name hname
  exact hg.exists_shows (harrays name (List.mem_flatten.mpr ⟨group, hgroup, hname⟩))

theorem Joins.of_concatenates (h : d.Concatenates names)
    (hslabs : List.Forall₂ g.Shows names slabs) (hjoin : Slab.joinAll slabs = some s) :
    g.Joins d s := by
  obtain ⟨htype, rfl, hout⟩ := h
  exact ⟨htype, hout, slabs, hslabs, hjoin⟩

theorem exists_joinAll (h : slabs ≠ []) : ∃ s, Slab.joinAll slabs = some s := by
  cases slabs with
  | nil => exact absurd rfl h
  | cons s rest => exact ⟨_, rfl⟩

theorem forall₂_outputs {R : String → Slab → Prop} {tops : List String}
    (hout : ∀ d ∈ parts, ∃ top, d.outputs = [.text top])
    (h : List.Forall₂ (fun d s => ∀ top, d.outputs = [.text top] → R top s) parts slabs)
    (htops : parts.flatMap Declaration.outputs = tops.map Value.text) :
    List.Forall₂ R tops slabs := by
  induction h generalizing tops with
  | nil =>
    obtain rfl : tops = [] := by simpa using htops.symm
    exact .nil
  | @cons d s parts slabs hd _ ih =>
    obtain ⟨⟨top, htop⟩, hrest⟩ := List.forall_mem_cons.mp hout
    rw [List.flatMap_cons, htop] at htops
    cases tops with
    | nil => cases htops
    | cons first tops =>
      rw [List.map_cons, List.singleton_append] at htops
      obtain ⟨hfirst, hmore⟩ := List.cons.inj htops
      obtain rfl := Value.text.inj hfirst
      exact .cons (hd _ htop) (ih hrest hmore)

theorem Grouped.alike {groups : List (List String)} {whole one : Declaration}
    (h : g.Grouped groups parts whole one) (hg : g.Reached) :
    ∃ mid, g.Accepts parts mid ∧ mid.Alike whole g one := by
  obtain ⟨slabs, hslabs⟩ := hg.exists_groups h.arrays
  -- no group is empty, so each joins to a slab
  have hjoined : ∃ joined,
      List.Forall₂ (fun group s => Slab.joinAll group = some s) slabs joined := by
    apply exists_forall₂_iff.mpr
    intro group hgroup
    obtain ⟨names, hnames, hshows⟩ := exists_of_mem_right hslabs hgroup
    apply exists_joinAll
    rintro rfl
    cases hshows
    exact h.group_ne _ hnames rfl
  obtain ⟨joined, hjoined⟩ := hjoined
  have hparts : List.Forall₂ g.Joins parts joined := by
    have hgroups := rel_trans (U := fun d group => ∃ names, d.Concatenates names ∧
      List.Forall₂ g.Shows names group) (fun d names group hd hshows => ⟨names, hd, hshows⟩)
      h.each hslabs
    apply rel_trans _ hgroups hjoined
    rintro d group s ⟨names, hd, hshows⟩ hjoin
    exact .of_concatenates hd hshows hjoin
  obtain ⟨mid, hmid, hreached, -, hseparate, hshows⟩ := h.separate.accepts hg hparts
  obtain ⟨tops, hwhole, htops⟩ := h.results
  have hne : joined ≠ [] := by
    rintro rfl
    cases hjoined
    cases hslabs
    exact h.groups_ne rfl
  obtain ⟨s, hs⟩ := exists_joinAll hne
  have houtputs : ∀ d ∈ parts, ∃ top, d.outputs = [.text top] := by
    intro d hd
    obtain ⟨s, -, hjoin⟩ := exists_of_mem_right hparts.flip hd
    exact hjoin.output
  have hresults := forall₂_outputs houtputs hshows htops
  have hflat : List.Forall₂ g.Shows groups.flatten slabs.flatten := List.rel_flatten hslabs
  -- the groups one after the other are all the blobs
  have hone := Joins.of_concatenates h.all hflat ((Slab.joinAll_flatten hjoined).symm.trans hs)
  have htwo := Joins.of_concatenates hwhole hresults hs
  exact ⟨mid, hmid, htwo.alike hreached (hseparate.fresh whole (by simp)) hone hg h.fresh⟩

theorem Permuted.alike {d' : Declaration} (h : g.Permuted d d') (hg : g.Reached) :
    g.Alike d g d' := by
  obtain ⟨x, rest, rest', hd, hd', hperm⟩ := h.inputs
  have harrays := h.arrays
  rw [hd.2.1] at harrays
  obtain ⟨slabs, hslabs⟩ := exists_forall₂_iff.mpr fun name hname =>
    hg.exists_shows (harrays name hname)
  cases hslabs with
  | @cons _ first _ others hfirst hothers =>
    obtain ⟨others', hothers', hperm'⟩ := List.perm_comp_forall₂ hperm.symm hothers
    have hsame : Slab.joinAll (first :: others') = some (others.foldl Slab.join first) :=
      Slab.joinAll_perm hperm' first
    have hjoins := Joins.of_concatenates hd (.cons hfirst hothers) rfl
    have hjoins' := Joins.of_concatenates hd' (.cons hfirst hothers') hsame
    exact hjoins.alike hg h.fresh hjoins' hg h.fresh'

/-! ## Runs of creations -/

/-- Whatever was created by name before: blobs that are no scalars may be concatenated in groups and
the results after that, or in another order behind the first one, and what is made has the same
shape, element size and gradient flag as if they were concatenated at once and in order. -/
theorem create_concat_grouped (phase : Phase) (elementSize : Option (List Float))
    (ds : List Declaration) :
    (∀ groups parts whole one,
      ((empty phase elementSize).createAll ds).Grouped groups parts whole one →
      ∃ mid, ((empty phase elementSize).createAll ds).Accepts parts mid ∧
        mid.Alike whole ((empty phase elementSize).createAll ds) one) ∧
    ∀ d d', ((empty phase elementSize).createAll ds).Permuted d d' →
      ((empty phase elementSize).createAll ds).Alike d
        ((empty phase elementSize).createAll ds) d' := by
  have hg := (Reached.empty phase elementSize).createAll ds
  exact ⟨fun _ _ _ _ h => h.alike hg, fun _ _ h => h.alike hg⟩

/-- Two sources, each of which has the larger extent along some axis. -/
def unequalSources : List Declaration :=
  oneSource ++
  [{ type := "Input", name := "other", inputs := [], outputs := [.text "wide"]
     params := [("shape", .list [.list [.int 2, .int 5, .int 2, .int 6]])], included := []
     excluded := [] }]

def concatOf (name : String) (inputs : List String) (top : String) : Declaration where
  type := "Concat"
  name := name
  inputs := inputs
  outputs := [.text top]
  params := []
  included := []
  excluded := []

theorem concatenates_concatOf (name : String) (inputs : List String) (top : String) :
    (concatOf name inputs top).Concatenates inputs :=
  ⟨rfl, rfl, top, rfl⟩

theorem create_concat_grouped_unequal :
    (∃ mid, ((empty .train none).createAll unequalSources).Accepts
        [concatOf "left" ["wide", "data"] "l", concatOf "right" ["data"] "r"] mid ∧
      mid.Alike (concatOf "both" ["l", "r"] "y") ((empty .train none).createAll unequalSources)
        (concatOf "flat" ["wide", "data", "data"] "y")) ∧
    ((empty .train none).createAll unequalSources).Alike
      (concatOf "flat" ["data", "wide", "data"] "y")
      ((empty .train none).createAll unequalSources)
      (concatOf "flat" ["data", "data", "wide"] "y") := by
  obtain ⟨hgrouped, hpermuted⟩ := create_concat_grouped .train none unequalSources
  have hdata : ((empty .train none).createAll unequalSources).HasArray "data" :=
    ⟨0, by decide +kernel, by decide +kernel⟩
  have hwide : ((empty .train none).createAll unequalSources).HasArray "wide" :=
    ⟨1, by decide +kernel, by decide +kernel⟩
  constructor
  · apply hgrouped [["wide", "data"], ["data"]]
    constructor
    · simp
    · simp
    · simp [hdata, hwide]
    · exact .cons (concatenates_concatOf _ _ _) (.cons (concatenates_concatOf _ _ _) .nil)
    · exact ⟨["l", "r"], concatenates_concatOf _ _ _, rfl⟩
    · exact concatenates_concatOf _ _ _
    · constructor
      · decide +kernel
      · simp [concatOf]
      · decide
      · simp [concatOf]
    · decide +kernel
  · apply hpermuted
    constructor
    · exact ⟨"data", ["wide", "data"], ["data", "wide"], concatenates_concatOf _ _ _,
        concatenates_concatOf _ _ _, .swap _ _ _⟩
    · simp [concatOf, hdata, hwide]
    · decide +kernel
    · decide +kernel

end Graph

end NetFootprint
