import NetFootprint.Proofs.Graph.Create
import NetFootprint.Proofs.Layer.Spread

/-!
# Graphs and the spelling of windows

Nothing but the declaration that a layer keeps tells how its window was spelled: a graph with the
layer of one spelling is the graph with the layer of another one in all its blobs, names and marks,
and what is refused in one spelling is refused in the other for the same reason.
-/

namespace NetFootprint

def Layer.withParams (params : List (String × Value)) (l : Layer) : Layer :=
  { l with declaration := l.declaration.withParams params }

namespace Graph

variable {g : Graph} {l : Layer} {d : Declaration} {params : List (String × Value)} {n : Nat}
  {inputs : Option (List (Option Nat))}

/-- The graph with other parameters in the declaration of the layer at a position. -/
def withParamsAt (i : Nat) (params : List (String × Value)) (g : Graph) : Graph :=
  { g with layers := g.layers.modify i (Layer.withParams params) }

/-! ## Building -/

/-- The blob that a layer reads first has a number of spatial axes. -/
def FirstRank (g : Graph) (d : Declaration) (inputs : Option (List (Option Nat))) (n : Nat) : Prop :=
  ∀ refs src, g.Reads d inputs refs → (g.siteOf d refs).source = .ok src → src.spatialRank = n

theorem build_withParams (h : Respelled n d.params params) (hrank : g.FirstRank d inputs n)
    (hfamily : ∀ t, familyOf d = .ok t → t = .convolution ∨ t = .deconvolution ∨ t = .pooling) :
    Mirrors (Prod.map (Layer.withParams params) id) (g.build d inputs)
      (g.build (d.withParams params) inputs) := by
  have hlayer (t : LayerType) (ht : familyOf d = .ok t) (refs : List (Option Nat))
      (hrefs : g.Reads d inputs refs) :
      (g.siteOf (d.withParams params) refs).layer t = (g.siteOf d refs).layer t :=
    Site.layer_withParams h (fun src hsrc => hrank refs src hrefs hsrc) (hfamily t ht)
  unfold build
  refine .step rfl fun t ht => ?_
  cases inputs with
  | some given =>
    refine .step rfl fun refs hrefs => .step ?_ fun draft _ => .ok (g.finish d refs draft)
    exact hlayer t ht refs (pure_eq_ok.mp hrefs)
  | none =>
    refine .step rfl fun places hplaces => .step rfl fun refs hrefs => ?_
    have hreads : g.Reads d none refs := ⟨places, hplaces, pure_eq_ok.mp hrefs⟩
    exact .step (hlayer t ht refs hreads) fun draft _ => .ok (g.finish d refs draft)

/-! ## Taking in -/

theorem vet_withParams (outputs fresh : List Nat) (rank : Option Int) :
    g.vet (l.withParams params) outputs fresh rank = g.vet l outputs fresh rank := by
  induction outputs generalizing fresh rank with
  | nil => rfl
  | cons ref rest ih =>
    simp only [vet, ih]
    rfl

theorem approve_withParams : g.approve (l.withParams params) = g.approve l := by
  unfold approve
  rw [vet_withParams]
  rfl

theorem withParamsAt_of_length {i : Nat} (h : g.layers.length = i) :
    g.withParamsAt i params = g := by
  rw [withParamsAt, List.modify_eq_self (Nat.le_of_eq h)]

theorem enlist_withParams {i : Nat} (h : g.layers.length = i) :
    g.enlist (l.withParams params) = (g.enlist l).withParamsAt i params := by
  have hlayers : (g.layers ++ [l]).modify i (Layer.withParams params)
      = g.layers ++ [l.withParams params] := by
    rw [List.modify_eq_take_drop, ← h, List.take_left, List.drop_left]
    rfl
  simp only [withParamsAt, enlist, hlayers]
  rfl

theorem publish_withParams (i : Nat) (fresh : List Nat) :
    (g.withParamsAt i params).publish (l.withParams params) fresh
      = (g.publish l fresh).withParamsAt i params := by
  have hgrown : fresh.foldl register (g.withParamsAt i params)
      = (fresh.foldl register g).withParamsAt i params :=
    List.foldl_hom (withParamsAt i params) fun _ _ => rfl
  unfold publish
  rw [hgrown]
  rfl

theorem take_withParams (fresh : List Nat) :
    g.take (l.withParams params) fresh
      = ⟨(g.take l fresh).graph.withParamsAt g.layers.length params,
        (g.take l fresh).result⟩ := by
  have hmarked : (g.commit l).graph.layers.length = g.layers.length := by
    rw [show (g.commit l).graph = g.marked l from rfl, marked_eq]
  unfold take
  rw [show g.commit (l.withParams params) = g.commit l from rfl,
    show (l.withParams params).complete = l.complete from rfl]
  dsimp only
  cases (g.commit l).result with
  | error e => simp only [withParamsAt_of_length hmarked]
  | ok _ =>
    simp only [enlist_withParams hmarked, publish_withParams]
    split <;> rfl

/-! ## Creating -/

/-- However the window of a layer is spelled, it is created the same, but for the parameters in its
declaration, and it is refused for the same reason. -/
theorem create_withParams (h : Respelled n d.params params) (hrank : g.FirstRank d inputs n)
    (hfamily : ∀ t, familyOf d = .ok t → t = .convolution ∨ t = .deconvolution ∨ t = .pooling) :
    g.create (d.withParams params) inputs
      = ⟨(g.create d inputs).graph.withParamsAt g.layers.length params,
        (g.create d inputs).result.map (Layer.withParams params)⟩ := by
  have hbuild := build_withParams h hrank hfamily
  cases hb : g.build d inputs with
  | error e =>
    simp only [create, hb, hbuild.eq_error hb, withParamsAt_of_length]
    rfl
  | ok made =>
    obtain ⟨l, built⟩ := made
    have hb' : g.build (d.withParams params) inputs = .ok (l.withParams params, built) :=
      hbuild.eq_ok hb
    simp only [create, hb, hb', approve_withParams]
    cases built.approve l with
    | error e =>
      simp only [withParamsAt_of_length]
      rfl
    | ok found =>
      obtain ⟨fresh, rank⟩ := found
      have hlayers : (built.withRank rank).layers.length = g.layers.length := by
        obtain ⟨t, refs, draft, -, -, -, -, rfl⟩ := build_ok hb
        rw [withRank_eq]
        rfl
      simp only [take_withParams, hlayers]
      cases ((built.withRank rank).take l fresh).result <;> rfl

open Axes in
/-- Declared values are spread over any number of axes, the last one again and again; copies of it,
a single number and what they are spread to are other spellings of them. A layer that moves a window
is created the same in any two such spellings of its kernel, pad, stride and dilation. -/
theorem spread_respelled {values : List Int} (h : values ≠ []) (n : Nat) :
    (∃ spread : List Int, spread.length = n ∧
      (∀ i < n, spread[i]? = values[min i (values.length - 1)]?) ∧
      ∀ default, broadcastValue (ints values) n default = .ok (some spread) ∧
        broadcastFor (ints values) (.int n) default = .ok (some spread)) ∧
    (∀ k default, broadcastValue (ints (values ++ List.replicate k (values.getLast h))) n default
      = broadcastValue (ints values) n default) ∧
    (∀ x default, broadcastValue (.int x) n default = broadcastValue (ints [x]) n default) ∧
    (∀ m, 1 ≤ m → min values.length n ≤ m →
      ∃ spread, (∀ default, broadcastValue (ints values) m default = .ok (some spread)) ∧
        ∀ default, broadcastValue (ints spread) n default
          = broadcastValue (ints values) n default) ∧
    ∀ (g : Graph) (d : Declaration) (params : List (String × Value))
      (inputs : Option (List (Option Nat))),
      Respelled n d.params params → g.FirstRank d inputs n →
      (∀ t, familyOf d = .ok t → t = .convolution ∨ t = .deconvolution ∨ t = .pooling) →
      g.create (d.withParams params) inputs
        = ⟨(g.create d inputs).graph.withParamsAt g.layers.length params,
          (g.create d inputs).result.map (Layer.withParams params)⟩ := by
  refine ⟨⟨expand values n, length_expand_natCast values n, fun i hi => getElem?_expand h hi,
    fun default => ⟨broadcastValue_of_ne_nil h n default, broadcastFor_ints h n default⟩⟩,
    fun k default => (Alike.repeated h k).broadcastValue default,
    fun x default => ((Alike.single x).broadcastValue default).symm, fun m hm hmin => ?_,
    fun g d params inputs hparams hrank hfamily => create_withParams hparams hrank hfamily⟩
  refine ⟨expand values m, fun default => broadcastValue_of_ne_nil h m default, fun default => ?_⟩
  exact (Alike.expanded h hm hmin).broadcastValue default

def picture : Graph :=
  { Graph.empty .test none with
    blobs :=
      [{ name := .text "picture", shape := [1, 2, 5, 6], elementSize := [1, 1], producer := none
         scalar := .bool false, forward := true, gradient := false, resident := false, id := none }] }

/-- A pooling whose window is spelled for each axis. -/
def spelledOut : Declaration where
  type := "Pooling"
  name := "pool"
  inputs := []
  outputs := [.text "pooled"]
  params := [("kernel_size", Axes.ints [2, 2]), ("stride", Axes.ints [2, 1])]
  included := []
  excluded := []

/-- Its window with a single number for the kernel, and a stride too many. -/
def spelledShort : List (String × Value) :=
  [("kernel_size", .int 2), ("stride", Axes.ints [2, 1, 1])]

theorem respelled_spelledOut : Respelled 2 spelledOut.params spelledShort where
  window key hkey := by
    have hnames : key = "kernel_size" ∨ key = "pad" ∨ key = "stride" ∨ key = "dilation" := by
      simpa [Site.windowKeys] using hkey
    rcases hnames with rfl | rfl | rfl | rfl
    · have hsingle : Axes.Alike 2 (.int 2) (Axes.ints [2]) := .single 2
      have htwice : Axes.Alike 2 (Axes.ints [2]) (Axes.ints [2, 2]) := .repeated (by decide) 1
      exact (hsingle.trans htwice).symm
    · exact .refl _
    · have hcopy : Axes.Alike 2 (Axes.ints [2, 1]) (Axes.ints [2, 1, 1]) := .repeated (by decide) 1
      exact hcopy
    · exact .refl _
  other key hkey := by
    have hnames : key ≠ "kernel_size" ∧ key ≠ "stride" := by
      simp only [Site.windowKeys, List.mem_cons, not_or] at hkey
      exact ⟨hkey.1, hkey.2.2.1⟩
    have hkernel : (key == "kernel_size") = false := beq_false_of_ne hnames.1
    have hstride : (key == "stride") = false := beq_false_of_ne hnames.2
    simp [spelledOut, spelledShort, List.lookup_cons, hkernel, hstride]

theorem firstRank_picture : picture.FirstRank spelledOut (some [some 0]) 2 := by
  rintro refs src rfl hsource
  obtain rfl := Except.ok.inj hsource
  rfl

theorem spread_respelled_picture :
    Axes.broadcastValue (.int 2) 2 .null = Axes.broadcastValue (Axes.ints [2]) 2 .null ∧
    (picture.create (spelledOut.withParams spelledShort) (some [some 0])).result
      = (picture.create spelledOut (some [some 0])).result.map (Layer.withParams spelledShort) ∧
    (picture.create spelledOut (some [some 0])).result.toOption.isSome = true := by
  obtain ⟨-, -, hsingle, -, hlayer⟩ := spread_respelled (show ([2, 1] : List Int) ≠ [] by decide) 2
  have hfamily (t : LayerType) (ht : familyOf spelledOut = .ok t) :
      t = .convolution ∨ t = .deconvolution ∨ t = .pooling :=
    .inr (.inr (Except.ok.inj ht).symm)
  have hcreate := hlayer picture spelledOut spelledShort (some [some 0]) respelled_spelledOut
    firstRank_picture hfamily
  exact ⟨hsingle 2 .null, congrArg Change.result hcreate, by decide +kernel⟩

end Graph

end NetFootprint
