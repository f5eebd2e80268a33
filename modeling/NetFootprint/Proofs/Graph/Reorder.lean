import Mathlib.Data.List.Induction
import NetFootprint.Proofs.Graph.Part

/-!
# Declarations in another order

A network is built from its declarations in any order in which each of them comes after the makers
of the blobs to which it refers. By induction over the new order the graph under construction is
always a part of the whole one, and in the end it has all its blobs and layers.
-/

namespace NetFootprint

/-- Each declaration comes after those that make the blobs it refers to. -/
def Visible (ds : List Declaration) : Prop :=
  ∀ done d todo, ds = done ++ d :: todo → ∀ name, d.Refers name →
    ∃ earlier ∈ done, .text name ∈ earlier.outputs

theorem visible_nil : Visible [] := by
  intro done d todo h
  simp at h

theorem Visible.of_append {ds more : List Declaration} (h : Visible (ds ++ more)) : Visible ds := by
  intro done d todo hsplit
  exact h done d (todo ++ more) (by rw [hsplit, List.append_assoc]; rfl)

theorem visible_snoc_iff {ds : List Declaration} {d : Declaration} : Visible (ds ++ [d]) ↔
    Visible ds ∧ ∀ name, d.Refers name → ∃ earlier ∈ ds, .text name ∈ earlier.outputs := by
  constructor
  · intro h
    exact ⟨h.of_append, h ds d [] rfl⟩
  · rintro ⟨h, hd⟩ done e todo hsplit
    rcases List.eq_nil_or_concat todo with rfl | ⟨init, last, rfl⟩
    · obtain ⟨rfl, hlast⟩ := List.append_inj' hsplit rfl
      obtain rfl := List.singleton_inj.mp hlast
      exact hd
    · rw [List.concat_eq_append, ← List.cons_append, ← List.append_assoc] at hsplit
      exact h done e init (List.append_inj' hsplit rfl).1

theorem Visible.append_perm {ds ds' more : List Declaration} (h : Visible (ds ++ more))
    (hds' : Visible ds') (hperm : ds.Perm ds') : Visible (ds' ++ more) := by
  induction more using List.reverseRecOn with
  | nil => rwa [List.append_nil]
  | append_singleton init d ih =>
    rw [← List.append_assoc, visible_snoc_iff] at h ⊢
    obtain ⟨hinit, hd⟩ := h
    refine ⟨ih hinit, fun name hrefers => ?_⟩
    obtain ⟨earlier, hmem, htop⟩ := hd name hrefers
    exact ⟨earlier, (hperm.append_right init).mem_iff.mp hmem, htop⟩

namespace Graph

variable {g g' whole : Graph} {l : Layer} {phase : Phase} {elementSize : Option (List Float)}
  {all done todo ds : List Declaration}

/-- Two graphs know the same names, for blobs and layers that are twins. -/
structure Reordered (g g' : Graph) : Prop where
  blobs : ∀ name, Option.Rel (fun ref ref' => (g.blob ref).Twin (g'.blob ref'))
    (g.find? name) (g'.find? name)
  layers : ∀ name, Option.Rel (g.Twins g') (g.findLayer? name) (g'.findLayer? name)

theorem Part.empty (h : Built phase elementSize all whole) :
    (Graph.empty phase elementSize).Part whole where
  axes := by
    intro n hn
    rcases h.size with hsize | ⟨rfl, -⟩
    · rw [spatialRank, hsize]
      exact hn
    · cases hn
  known := by simp [Graph.empty]
  layers := by simp [Graph.empty]

theorem Part.extendAll (hp : g.Part whole) (hwhole : Built phase elementSize all whole)
    (hg : Built phase elementSize done g) (hnamed : ∀ d ∈ all, d.Named)
    (hperm : all.Perm (done ++ todo)) (hvisible : Visible (done ++ todo)) :
    ∃ g', g.extendAll todo = .ok g' ∧ Built phase elementSize (done ++ todo) g' ∧
      g'.Part whole := by
  induction todo generalizing done g with
  | nil => exact ⟨g, rfl, by rwa [List.append_nil], hp⟩
  | cons d rest ih =>
    have hd : d ∈ all := hperm.mem_iff.mpr (by simp)
    obtain ⟨l, hl, rfl⟩ := List.mem_map.mp (hwhole.layers ▸ hd)
    obtain ⟨k, before, draft, after, hk, hb⟩ := hwhole.reached.history_of_mem hl
    have hnames : ((done ++ l.declaration :: rest).map Declaration.name).Nodup := by
      rw [← (hperm.map Declaration.name).nodup_iff, ← hwhole.layers, List.map_map]
      exact hwhole.reached.names
    have hnext : Next phase elementSize all done whole g k l before draft after := by
      refine ⟨hwhole, hg, hp, hnamed, hk, hb, ?_, ?_⟩
      · intro m hm hname
        rw [List.map_append, List.map_cons, ← hg.layers, List.map_map] at hnames
        have hapart := (List.nodup_append.mp hnames).2.2
        exact hapart m.name (List.mem_map_of_mem hm) _ List.mem_cons_self hname
      · intro name hrefers
        obtain ⟨earlier, hearlier, htop⟩ := hvisible done l.declaration rest rfl name hrefers
        exact (hg.names _).mpr ⟨earlier, hearlier, htop⟩
    obtain ⟨next, hextend, hpart⟩ := hnext.extends
    have hbuilt := hg.extend (hnamed _ hd).text hextend
    rw [List.append_cons] at hperm hvisible ⊢
    obtain ⟨g', hrest, hend⟩ := ih hpart hbuilt hperm hvisible
    exact ⟨g', extendAll_cons_eq_ok.mpr ⟨next, hextend, hrest⟩, hend⟩

theorem findLayer?_iff (h : (g.layers.map Layer.name).Nodup) {name : String} :
    g.findLayer? name = some l ↔ l ∈ g.layers ∧ l.name = name := by
  constructor
  · intro hfind
    exact ⟨List.mem_of_find?_eq_some hfind, by simpa using List.find?_some hfind⟩
  · rintro ⟨hl, rfl⟩
    cases hfind : g.findLayer? l.name with
    | none => simpa using List.find?_eq_none.mp hfind l hl
    | some other =>
      have hother : other ∈ g.layers := List.mem_of_find?_eq_some hfind
      have hname : other.name = l.name := by simpa using List.find?_some hfind
      exact congrArg some (List.inj_on_of_nodup_map h hother hl hname)

/-- A part that has all declarations of the whole has all its blobs and layers. -/
theorem Part.reordered (hp : g.Part whole) (hwhole : Built phase elementSize all whole)
    (hg : Built phase elementSize ds g) (hperm : all.Perm ds) : whole.Reordered g where
  blobs := by
    intro name
    have hsame : whole.contains name = g.contains name := by
      rw [Bool.eq_iff_iff, hwhole.names, hg.names]
      simp only [hperm.mem_iff]
    cases hfind : whole.find? name with
    | none =>
      rw [contains, contains, hfind, Option.isSome_none, eq_comm, Option.isSome_eq_false_iff,
        Option.isNone_iff_eq_none] at hsame
      rw [hsame]
      exact .none
    | some ref =>
      rw [contains, contains, hfind, Option.isSome_some, eq_comm,
        Option.isSome_iff_exists] at hsame
      obtain ⟨ref', hfind'⟩ := hsame
      obtain ⟨hmem', hname'⟩ := hg.orderly.find?_iff.mp hfind'
      obtain ⟨other, hother, htwin⟩ := hp.known ref' hmem'
      have hself : whole.find? name = some other := by
        rw [hwhole.orderly.find?_iff, ← htwin.same Blob.name]
        exact ⟨hother, hname'⟩
      obtain rfl : ref = other := Option.some.inj (hfind.symm.trans hself)
      rw [hfind']
      exact .some htwin
  layers := by
    intro name
    cases hfind : g.findLayer? name with
    | none =>
      cases hwas : whole.findLayer? name with
      | none => exact .none
      | some l =>
        -- its declaration is among those of the part
        obtain ⟨hl, hname⟩ := (findLayer?_iff hwhole.orderly.layers).mp hwas
        have hd : l.declaration ∈ ds := by
          rw [← hperm.mem_iff, ← hwhole.layers]
          exact List.mem_map_of_mem hl
        rw [← hg.layers] at hd
        obtain ⟨m, hm, hsame⟩ := List.mem_map.mp hd
        have hself := (findLayer?_iff hg.orderly.layers).mpr ⟨hm, rfl⟩
        have hname' : m.name = name := (congrArg Declaration.name hsame).trans hname
        rw [hname', hfind] at hself
        cases hself
    | some m =>
      obtain ⟨hm, hname⟩ := (findLayer?_iff hg.orderly.layers).mp hfind
      obtain ⟨l, hl, htwins⟩ := hp.layers m hm
      have hsame : l.name = m.name := (congrArg Declaration.name htwins.declaration).symm
      have hself : whole.findLayer? name = some l :=
        (findLayer?_iff hwhole.orderly.layers).mpr ⟨hl, hsame.trans hname⟩
      rw [hself]
      exact .some htwins

theorem Built.referred {d : Declaration} (h : Built phase elementSize ds g)
    (hd : g.extend d = .ok g') {name : String} (hrefers : d.Refers name) :
    ∃ earlier ∈ ds, .text name ∈ earlier.outputs := by
  obtain ⟨l, draft, line, -, ha, rfl, hfamily, -⟩ := extend_ok h.reached hd
  apply (h.names (.text name)).mp
  rw [contains, Option.isSome_iff_exists]
  rcases hrefers with hin | ⟨htype, rfl, hne⟩
  · obtain ⟨ref, -, hfind⟩ := ha.input_of_name hin
    exact ⟨ref, hfind⟩
  · have happly : l.family = .applyDeformation := by
      rw [familyOf, htype, LayerType.ofTag?_tag] at hfamily
      exact (Except.ok.inj hfamily).symm
    have hdrafted := ha.drafted
    rw [happly] at hdrafted
    obtain ⟨src, _, spatial, _, _, _, _, -, hspatial, -⟩ :=
      Site.applyDeformationLayer_ok hdrafted
    rcases Site.deformedExtents_ok hspatial with ⟨hempty, -⟩ | ⟨-, ref, hfind, -⟩
    · exact absurd hempty hne
    · exact ⟨ref, hfind⟩

/-- The order in which a graph was built is one in which it can be built. -/
theorem Built.visible {more : List Declaration} (h : Built phase elementSize ds g)
    (hds : Visible ds) (hnamed : ∀ d ∈ more, d.Named) (hg : g.extendAll more = .ok g') :
    Visible (ds ++ more) := by
  induction more generalizing g ds with
  | nil => rwa [List.append_nil]
  | cons d rest ih =>
    obtain ⟨hd, hrest⟩ := List.forall_mem_cons.mp hnamed
    obtain ⟨next, hnext, hg⟩ := extendAll_cons_eq_ok.mp hg
    rw [List.append_cons]
    apply ih (h.extend hd.text hnext) _ hrest hg
    exact visible_snoc_iff.mpr ⟨hds, fun name => h.referred hnext⟩

/-- A graph that is built from declarations is built from them in any order in which each comes
after those to which it refers, with the same blobs and layers. -/
theorem extendAll_reordered (hnamed : ∀ d ∈ all, d.Named) (hperm : all.Perm ds)
    (hvisible : Visible ds) (h : (empty phase elementSize).extendAll all = .ok g) :
    ∃ g', (empty phase elementSize).extendAll ds = .ok g' ∧ Built phase elementSize all g ∧
      Built phase elementSize ds g' ∧ g.Reordered g' := by
  have hstart := Built.empty phase elementSize
  have hwhole : Built phase elementSize all g :=
    hstart.extendAll (fun d hd => (hnamed d hd).text) h
  obtain ⟨g', hg', hbuilt, hpart⟩ :=
    (Part.empty hwhole).extendAll hwhole hstart hnamed hperm hvisible
  exact ⟨g', hg', hwhole, hbuilt, hpart.reordered hwhole hbuilt hperm⟩

end Graph

end NetFootprint
